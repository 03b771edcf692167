import LocationRelay.Text.Hex

/-! # Tagged data

The nested blocks that keys and certificates are made of, read just far enough to find out what kind
of key they hold and where its bits are: sequences, object identifiers, and strings of bits and bytes.
Blocks of other kinds are only checked.
-/
namespace LocationRelay.Key

open Text (Bytes)

inductive Der where
  | sequence (items : List Der)
  | identifier (arcs : List Nat)
  | bits (content : Bytes)
  | octets (content : Bytes)
  | other

namespace Der

/-- A number in groups of seven bits, all but the last marked by the high bit. -/
def base128? (n : Nat) : Bytes → Option (Nat × Bytes)
  | [] => none
  | b :: rest =>
    let n := 128 * n + b.toNat % 128
    if b < 128 then some (n, rest) else base128? n rest

/-- The class, whether it is made of blocks, and the number of a tag. -/
def tag? : Bytes → Option ((Nat × Bool × Nat) × Bytes)
  | [] => none
  | b :: rest => do
    let n := b.toNat
    let (number, rest) ← if n % 32 = 31 then base128? 0 rest else some (n % 32, rest)
    return ((n / 64, n / 32 % 2 == 1, number), rest)

def length? : Bytes → Option (Nat × Bytes)
  | [] => none
  | b :: rest =>
    if b < 128 then some (b.toNat, rest)
    else
      let count := b.toNat - 128
      if 8 < count ∨ rest.length < count then none
      else some ((rest.take count).foldl (fun n b => 256 * n + b.toNat) 0, rest.drop count)

def arcsWithin? : Nat → Bytes → Option (List Nat)
  | _, [] => some []
  | 0, _ => none
  | n + 1, bs => do
    let (arc, rest) ← base128? 0 bs
    return arc :: (← arcsWithin? n rest)

def arcs? : Bytes → Option (List Nat)
  | [] => none
  | b :: rest => do
    let n := b.toNat
    let first := if n < 40 then 0 else if n < 80 then 1 else 2
    return first :: (n - 40 * first) :: (← arcsWithin? rest.length rest)

def isPrintableByte (b : UInt8) : Bool :=
  let c := Char.ofNat b.toNat
  c.isAlphanum || " '()+,-./:=?".toList.contains c

def twoDigits? : Bytes → Option (Nat × Bytes)
  | a :: b :: rest =>
    if 48 ≤ a ∧ a ≤ 57 ∧ 48 ≤ b ∧ b ≤ 57 then some (10 * (a.toNat - 48) + (b.toNat - 48), rest)
    else none
  | _ => none

def isLeapYear (year : Nat) : Bool := year % 4 == 0 && (year % 100 != 0 || year % 400 == 0)

def daysOfMonth (year month : Nat) : Nat :=
  if month = 2 then (if isLeapYear year then 29 else 28)
  else if month = 4 ∨ month = 6 ∨ month = 9 ∨ month = 11 then 30
  else 31

def moment? (year : Nat) (bs : Bytes) : Option Bytes := do
  let (month, bs) ← twoDigits? bs
  let (day, bs) ← twoDigits? bs
  let (hour, bs) ← twoDigits? bs
  let (minute, bs) ← twoDigits? bs
  let (second, bs) ← twoDigits? bs
  if 1 ≤ month ∧ month ≤ 12 ∧ 1 ≤ day ∧ day ≤ daysOfMonth year month ∧ hour < 24 ∧ minute < 60 ∧
      second < 60 then some bs
  else none

/-- A time with a year of two digits, which lies between 1950 and 2049. -/
def shortTime? (bs : Bytes) : Option Unit := do
  let (y, rest) ← twoDigits? bs
  if (← moment? (if 50 ≤ y then 1900 + y else 2000 + y) rest) = [90] then some () else none

def year? (bs : Bytes) : Option (Nat × Bytes) := do
  let (century, rest) ← twoDigits? (if bs.head? = some 43 ∨ bs.head? = some 45 then bs.tail else bs)
  let (y, rest) ← twoDigits? rest
  return (100 * century + y, rest)

/-- A time with decimals of a second: the first fourteen characters are followed by a point, unless
there is one anywhere, and zeros come before the last character until there are 25. -/
def withDecimals (bs : Bytes) : Bytes :=
  let bs := if bs.contains 46 then bs else bs.take 14 ++ 46 :: bs.drop 14
  bs.dropLast ++ List.replicate (25 - bs.length) 48 ++ bs.drop (bs.length - 1)

def longTime? (bs : Bytes) : Option Unit := do
  let (year, rest) ← year? (withDecimals bs)
  match ← moment? year rest with
  | 46 :: decimals =>
    let digits := decimals.takeWhile fun b => 48 ≤ b && b ≤ 57
    if digits ≠ [] ∧ decimals.drop digits.length = [90] then some () else none
  | _ => none

def plain? (number : Nat) (body : Bytes) : Option Der :=
  match number with
  | 1 => if body.length = 1 then some other else none
  | 3 =>
    match body with
    | [] => some (bits [])
    | unused :: content => if 8 * content.length < unused.toNat then none else some (bits content)
  | 4 => some (octets body)
  | 6 => (arcs? body).map identifier
  | 12 | 20 | 28 | 30 => (Text.decode? body).map fun _ => other
  | 19 => if body.all isPrintableByte then some other else none
  | 23 => (shortTime? body).map fun _ => other
  | 24 => (longTime? body).map fun _ => other
  | _ => some other

def blocksWithin? : Nat → Bytes → Option (List Der)
  | 0, _ => none
  | n + 1, bs => do
    let ((cls, _, number), rest) ← tag? bs
    let (length, rest) ← length? rest
    if rest.length < length then none
    let body := rest.take length
    let block ←
      if cls ≠ 0 then some other
      else if number = 16 then (blocksWithin? n body).map sequence
      else if number = 17 then (blocksWithin? n body).map fun _ => other
      else plain? number body
    match rest.drop length with
    | [] => return [block]
    | rest => return block :: (← blocksWithin? n rest)

def blocks? (bs : Bytes) : Option (List Der) := blocksWithin? bs.length bs

mutual

/-- The first identifier on the list, looking into sequences, to which the test gives an answer. -/
def findIdentifier? {α : Type} (test : List Nat → Option α) : Der → Option α
  | sequence items => findIdentifierIn? test items
  | identifier arcs => test arcs
  | _ => none

def findIdentifierIn? {α : Type} (test : List Nat → Option α) : List Der → Option α
  | [] => none
  | b :: bs =>
    match findIdentifier? test b with
    | some a => some a
    | none => findIdentifierIn? test bs

end

mutual

/-- The first string of bits or bytes, looking into sequences. -/
def findString? : Der → Option Bytes
  | sequence items => findStringIn? items
  | bits content => some content
  | octets content => some content
  | _ => none

def findStringIn? : List Der → Option Bytes
  | [] => none
  | b :: bs =>
    match findString? b with
    | some content => some content
    | none => findStringIn? bs

end

end Der
end LocationRelay.Key
