import LocationRelay.Text.Decimal
import LocationRelay.Toml.Document
import LocationRelay.Toml.Quoted

/-! # Numbers, truth values and moments in TOML

Digits may be grouped by single underscores between them. Whole decimal numbers have no needless
zeros in front. A number with a fraction or an exponent that is too large for a double cannot be used,
nor can a whole number that is too large for 128 bits; they do no harm where nobody looks at them.
Dates have to be on the calendar.
-/
namespace LocationRelay.Toml

open Text (digit?)

def ungrouped? (value? : Char → Option Nat) : List Char → Option (List Nat)
  | [] => none
  | [c] => (value? c).map fun d => [d]
  | c :: d :: cs => do
    let v ← value? c
    if d = '_' then return v :: (← ungrouped? value? cs)
    return v :: (← ungrouped? value? (d :: cs))

def valueOf (base : Nat) (ds : List Nat) : Nat := ds.foldl (fun n d => base * n + d) 0

def naturalDigits? (cs : List Char) : Option (List Nat) := do
  let ds ← ungrouped? digit? cs
  match ds with
  | 0 :: _ :: _ => none
  | ds => some ds

/-- Cuts off a sign; the first part says whether it is a minus sign. -/
def signed : List Char → Bool × List Char
  | '-' :: cs => (true, cs)
  | '+' :: cs => (false, cs)
  | cs => (false, cs)

def below (base : Nat) (c : Char) : Option Nat := (Text.hexDigit? c).filter fun d => d < base

def signedValue (negative : Bool) (digits : List Nat) : Int :=
  let n : Nat := valueOf 10 digits
  if negative then -n else n

/-- A whole number in decimal notation, or in one of the others, which know no sign. -/
def wholeNumber? (cs : List Char) : Option Int :=
  let inBase := fun base cs => (ungrouped? (below base) cs).map fun ds => Int.ofNat (valueOf base ds)
  match cs with
  | '0' :: 'x' :: cs => inBase 16 cs
  | '0' :: 'o' :: cs => inBase 8 cs
  | '0' :: 'b' :: cs => inBase 2 cs
  | cs => (naturalDigits? (signed cs).2).map (signedValue (signed cs).1)

def integer? (cs : List Char) : Option Value :=
  (wholeNumber? cs).map fun n => if -Int.pow 2 127 ≤ n ∧ n < Int.pow 2 128 then .integer n else .oversize

/-- Whether digits, of which so many follow the point, are small enough for a double at the given
power of ten. -/
def isFinite (digits : List Nat) (places : Nat) (exponent : Int) : Bool :=
  let digits := digits.dropWhile (· == 0)
  let power := exponent - places
  let size := digits.length + power
  if digits.isEmpty || size < 300 then true
  else if 320 < size then false
  else valueOf 10 digits * Nat.pow 10 power.toNat <
    (Nat.pow 2 1024 - Nat.pow 2 970) * Nat.pow 10 (-power).toNat

def exponent? : List Char → Option Int
  | [] => some 0
  | c :: cs => do
    if c ≠ 'e' ∧ c ≠ 'E' then none
    return signedValue (signed cs).1 (← ungrouped? digit? (signed cs).2)

def inNumber (c : Char) : Bool := (digit? c).isSome || c == '_'

def fraction? (cs : List Char) : Option Value :=
  let (_, cs) := signed cs
  if cs = ['i', 'n', 'f'] ∨ cs = ['n', 'a', 'n'] then some .other
  else
    let whole := naturalDigits? (cs.takeWhile inNumber)
    let after := cs.dropWhile inNumber
    let parts := match after with
      | '.' :: cs => do
        let ds ← ungrouped? digit? (cs.takeWhile inNumber)
        return (ds, ← exponent? (cs.dropWhile inNumber))
      | cs => do return ([], ← exponent? cs)
    match whole, parts with
    | some whole, some (fraction, exponent) =>
      if after.isEmpty then none
      else if isFinite (whole ++ fraction) fraction.length exponent then some .other
      else some .oversize
    | _, _ => none

/-! ## Moments -/

def fixed? (count low high : Nat) (cs : List Char) : Option (Nat × List Char) := do
  let ds := cs.take count
  let n ← Text.digits? ds
  if ds.length = count ∧ low ≤ n ∧ n ≤ high then some (n, cs.drop count) else none

def after? (c : Char) : List Char → Option (List Char)
  | [] => none
  | d :: cs => if d = c then some cs else none

def daysIn (year month : Nat) : Nat :=
  if month = 2 then
    if year % 4 = 0 ∧ (year % 100 ≠ 0 ∨ year % 400 = 0) then 29 else 28
  else if month = 4 ∨ month = 6 ∨ month = 9 ∨ month = 11 then 30
  else 31

def date? (cs : List Char) : Option (List Char × List Char) := do
  let (year, rest) ← fixed? 4 0 9999 cs
  let (month, rest) ← fixed? 2 1 12 (← after? '-' rest)
  let (_, rest) ← fixed? 2 1 (daysIn year month) (← after? '-' rest)
  return (cs.take 10, rest)

/-- A time of day with its seconds, and what follows it. Of a fraction nine digits count, and zeros
at its end do not. -/
def time? (cs : List Char) : Option (List Char × List Char) := do
  let (_, rest) ← fixed? 2 0 23 cs
  let (_, rest) ← fixed? 2 0 59 (← after? ':' rest)
  let minutes := cs.take 5
  match rest with
  | ':' :: rest => do
    let seconds := rest.take 2
    let (_, rest) ← fixed? 2 0 60 rest
    match rest with
    | '.' :: rest => do
      let ds := rest.takeWhile fun c => (digit? c).isSome
      if ds.isEmpty then none
      let kept := ((ds.take 9).reverse.dropWhile (· == '0')).reverse
      let fraction := if kept.isEmpty then [] else '.' :: kept
      return (minutes ++ ':' :: seconds ++ fraction, rest.drop ds.length)
    | rest => return (minutes ++ ':' :: seconds, rest)
  | rest => return (minutes ++ ":00".toList, rest)

def offset? : List Char → Option (List Char)
  | [] => some []
  | ['Z'] | ['z'] => some ['Z']
  | c :: cs => do
    if c ≠ '+' ∧ c ≠ '-' then none
    let (_, rest) ← fixed? 2 0 23 cs
    let (_, rest) ← fixed? 2 0 59 (← after? ':' rest)
    if rest.isEmpty then some (c :: cs) else none

def moment? (cs : List Char) : Option String := do
  match date? cs with
  | some (date, []) => return String.ofList date
  | some (date, c :: rest) =>
    if c ≠ 'T' ∧ c ≠ 't' ∧ c ≠ ' ' then none
    let (time, rest) ← time? rest
    return String.ofList (date ++ 'T' :: time ++ (← offset? rest))
  | none =>
    let (time, rest) ← time? cs
    if rest.isEmpty then some (String.ofList time) else none

/-! ## Words -/

def inWord (c : Char) : Bool :=
  c.isAlphanum || c == '_' || c == '-' || c == '+' || c == '.' || c == ':'

/-- The word at the beginning; a date goes over a single blank to the time after it. -/
def word (cs : List Char) : List Char :=
  let w := cs.takeWhile inWord
  match date? w, cs.drop w.length with
  | some (_, []), ' ' :: c :: rest =>
    if c.isDigit then w ++ ' ' :: (c :: rest).takeWhile inWord else w
  | _, _ => w

def scalarOf? (w : List Char) : Option Value :=
  if w = "true".toList ∨ w = "false".toList then some .other
  else (fraction? w <|> integer? w) <|> (moment? w).map .moment

def scalar? (cs : List Char) : Option (Value × List Char) :=
  let w := word cs
  (scalarOf? w).map fun v => (v, cs.drop w.length)

end LocationRelay.Toml
