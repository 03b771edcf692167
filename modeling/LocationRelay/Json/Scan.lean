import LocationRelay.Json.Quoted
import LocationRelay.Text.Decimal

/-! # Scanning JSON

A document is taken apart one level at a time: an object into its keys and the bytes of their values,
a list into the bytes of its elements. Only the keys of the object at hand have to be readable texts;
what lies deeper is checked to follow the grammar, to any depth, and is otherwise left alone.
-/
namespace LocationRelay.Json

open Text (Bytes)

def isBlank (b : UInt8) : Bool := b == 32 || b == 10 || b == 13 || b == 9

def skipBlanks (bs : Bytes) : Bytes := bs.dropWhile isBlank

def isDigit (b : UInt8) : Bool := 48 ≤ b && b ≤ 57

def skipDigits? (bs : Bytes) : Option Bytes :=
  if (bs.head?.map isDigit).getD false then some (bs.dropWhile isDigit) else none

/-- Passes over a whole part: a zero by itself, or digits of which the first is not zero. -/
def skipWhole? : Bytes → Option Bytes
  | 48 :: rest => if (rest.head?.map isDigit).getD false then none else some rest
  | bs => skipDigits? bs

def skipFraction? : Bytes → Option Bytes
  | 46 :: rest => skipDigits? rest
  | bs => some bs

def skipExponent? : Bytes → Option Bytes
  | b :: rest =>
    if b = 101 ∨ b = 69 then
      match rest with
      | 43 :: digits | 45 :: digits => skipDigits? digits
      | digits => skipDigits? digits
    else some (b :: rest)
  | [] => some []

def skipNumber? (bs : Bytes) : Option Bytes := do
  let unsigned := match bs with
    | 45 :: rest => rest
    | bs => bs
  skipExponent? (← skipFraction? (← skipWhole? unsigned))

def skipWord? (word : String) (bs : Bytes) : Option Bytes := (Text.encode word).isPrefixOf? bs

mutual

def skipValueWithin? : Nat → Bytes → Option Bytes
  | 0, _ => none
  | n + 1, bs =>
    match skipBlanks bs with
    | 34 :: rest => (pieces? rest).map Prod.snd
    | 91 :: rest =>
      match skipBlanks rest with
      | 93 :: rest => some rest
      | rest => skipElements? n rest
    | 123 :: rest =>
      match skipBlanks rest with
      | 125 :: rest => some rest
      | rest => skipMembers? n rest
    | 110 :: rest => skipWord? "ull" rest
    | 116 :: rest => skipWord? "rue" rest
    | 102 :: rest => skipWord? "alse" rest
    | bs => skipNumber? bs

def skipElements? : Nat → Bytes → Option Bytes
  | 0, _ => none
  | n + 1, bs => do
    match skipBlanks (← skipValueWithin? n bs) with
    | 44 :: rest => skipElements? n rest
    | 93 :: rest => some rest
    | _ => none

def skipMembers? : Nat → Bytes → Option Bytes
  | 0, _ => none
  | n + 1, bs => do
    let 34 :: rest := skipBlanks bs | none
    let 58 :: rest := skipBlanks (← pieces? rest).2 | none
    match skipBlanks (← skipValueWithin? n rest) with
    | 44 :: rest => skipMembers? n rest
    | 125 :: rest => some rest
    | _ => none

end

def value? (bs : Bytes) : Option (Bytes × Bytes) := do
  let bs := skipBlanks bs
  let rest ← skipValueWithin? (2 * bs.length + 2) bs
  return (bs.take (bs.length - rest.length), rest)

def elementsWithin? : Nat → Bytes → Option (List Bytes × Bytes)
  | 0, _ => none
  | n + 1, bs => do
    let (v, rest) ← value? bs
    match skipBlanks rest with
    | 44 :: rest => let (vs, rest) ← elementsWithin? n rest; return (v :: vs, rest)
    | 93 :: rest => return ([v], rest)
    | _ => none

def membersWithin? : Nat → Bytes → Option (List (String × Bytes) × Bytes)
  | 0, _ => none
  | n + 1, bs => do
    let 34 :: rest := skipBlanks bs | none
    let (ps, rest) ← pieces? rest
    let key ← (textOf ps).toOption
    let 58 :: rest := skipBlanks rest | none
    let (v, rest) ← value? rest
    match skipBlanks rest with
    | 44 :: rest => let (ms, rest) ← membersWithin? n rest; return ((key, v) :: ms, rest)
    | 125 :: rest => return ([(key, v)], rest)
    | _ => none

def list? (bs : Bytes) : Option (List Bytes) := do
  let 91 :: rest := skipBlanks bs | none
  let (vs, rest) ← match skipBlanks rest with
    | 93 :: rest => some ([], rest)
    | rest => elementsWithin? rest.length rest
  if (skipBlanks rest).isEmpty then some vs else none

/-- The members of a document that is an object, in order and with repetitions. -/
def object? (bs : Bytes) : Option (List (String × Bytes)) := do
  let 123 :: rest := skipBlanks bs | none
  let (ms, rest) ← match skipBlanks rest with
    | 125 :: rest => some ([], rest)
    | rest => membersWithin? rest.length rest
  if (skipBlanks rest).isEmpty then some ms else none

/-- The value of a key that may be missing, but must not be repeated. -/
def member? (ms : List (String × Bytes)) (key : String) : Option (Option Bytes) :=
  match ms.filter fun m => m.1 == key with
  | [] => some none
  | [m] => some (some m.2)
  | _ => none

def required? (ms : List (String × Bytes)) (key : String) : Option Bytes := do ← member? ms key

def isNull (v : Bytes) : Bool := v == Text.encode "null"

def optional? {α : Type} (read : Bytes → Option α) : Option Bytes → Option (Option α)
  | none => some none
  | some v => if isNull v then some none else (read v).map some

/-- The whole number of at most 64 bits that a value is: digits without a sign, a leading zero,
decimals or an exponent. -/
def natural? (v : Bytes) : Option Nat :=
  if v.all isDigit && (v.head? != some 48 || v.length == 1) then
    Text.unsigned? Text.maxU64 (v.map fun b => Char.ofNat b.toNat)
  else none

end LocationRelay.Json
