import LocationRelay.Json.Scan

/-! # Reading values ahead

A value whose type is not settled is read ahead as a whole. That can fail where the grammar alone
does not: quoted texts have to be texts, numbers have to fit a double, and nesting is limited. When
it fails in the middle of a value, reading stops there. The rest of the document can be made sense of
only if the failure came with the last part of the value, so that nothing of it is left.
-/
namespace LocationRelay.Json

open Text (Bytes)

inductive Ahead where
  | read
  /-- The value is bad, but all of it has been passed over. -/
  | passed
  /-- The value is bad and reading is stuck in the middle of it. -/
  | stuck
deriving DecidableEq

def aheadText (v : Bytes) : Ahead :=
  match pieces? v.tail with
  | none => .stuck
  | some (ps, _) =>
    match textOf ps with
    | .ok _ => .read
    | .error .halfInside => .stuck
    | .error _ => .passed

/-- The digits of a number before and after its point, and its exponent: whether it is negative, and
its digits. -/
structure NumberParts where
  whole : List Nat
  decimals : List Nat
  negativeExponent : Bool
  exponentDigits : List Nat

def digitsOf (bs : Bytes) : List Nat := bs.map fun b => b.toNat - 48

def numberParts (v : Bytes) : NumberParts :=
  let v := if v.head? = some 45 then v.tail else v
  let whole := v.takeWhile isDigit
  let v := v.drop whole.length
  let decimals := if v.head? = some 46 then v.tail.takeWhile isDigit else []
  let v := if v.head? = some 46 then v.drop (decimals.length + 1) else v
  let exponent := v.tail
  let signed := exponent.head? = some 43 ∨ exponent.head? = some 45
  ⟨digitsOf whole, digitsOf decimals, exponent.head? = some 45,
    digitsOf (if signed then exponent.tail else exponent)⟩

/-- Whether the exponent leaves the range of 32 bits before its last digit. -/
def overflowsEarly (ds : List Nat) : Bool :=
  decide (Nat.pow 2 31 ≤ ds.dropLast.foldl (fun n d => 10 * n + d) 0)

/-- Appends digits to a number while it fits 64 bits, up to the first digit for which there is no
room. The number, and the digits that were left out. -/
def appendDigits : Nat → List Nat → Nat × List Nat
  | n, [] => (n, [])
  | n, d :: ds => if Text.maxU64 < 10 * n + d then (n, d :: ds) else appendDigits (10 * n + d) ds

/-- A number read as a significand of 64 bits times a power of ten. Digits before the point that have
no room in the significand count in the power; digits after it that have none do not count. -/
def NumberParts.scaled (p : NumberParts) : Nat × Int :=
  let (whole, dropped) := appendDigits 0 p.whole
  let (significand, ignored) := appendDigits whole p.decimals
  let start : Int := dropped.length - (p.decimals.length - ignored.length : Nat)
  let e : Nat := p.exponentDigits.foldl (fun n d => min (10 * n + d) (Nat.pow 2 31)) 0
  (significand, if p.negativeExponent then start - (e : Int) else start + (e : Int))

/-- The nearest number with 53 significant bits, of two the one whose last bit is zero. -/
def nearestDouble (n : Nat) : Nat :=
  let unit := Nat.pow 2 (n.log2 - 52)
  let kept := n / unit
  let rest := 2 * (n % unit)
  unit * (if unit < rest ∨ (rest = unit ∧ kept % 2 = 1) then kept + 1 else kept)

/-- The least number that is rounded beyond the largest double. -/
def doubleLimit : Nat := Nat.pow 2 1024 - Nat.pow 2 970

/-- Whether the number is too large for a double. Significand and power of ten are both rounded to
doubles, and so is their product. -/
def NumberParts.isTooLarge (p : NumberParts) : Bool :=
  let (significand, e) := p.scaled
  if significand = 0 ∨ e < 0 then false
  else 308 < e || doubleLimit ≤ nearestDouble significand * nearestDouble (Nat.pow 10 e.toNat)

def aheadNumber (v : Bytes) : Ahead :=
  let p := numberParts v
  let isZero := (p.whole ++ p.decimals).all (· == 0)
  if !p.negativeExponent && !isZero && overflowsEarly p.exponentDigits then .stuck
  else if p.isTooLarge then .passed
  else .read

/-- Joins the readings of the parts of a value: only the last may fail. -/
def aheadAll : List Ahead → Ahead
  | [] => .read
  | [a] => a
  | .read :: rest => aheadAll rest
  | _ :: _ => .stuck

def ahead : (depth : Nat) → Bytes → Ahead
  | depth, v =>
    match v with
    | 34 :: _ => aheadText v
    | 91 :: _ =>
      match depth with
      | 0 => .stuck
      | depth + 1 =>
        match list? v with
        | none => .stuck
        | some vs => aheadAll (vs.map (ahead depth))
    | 123 :: _ =>
      match depth with
      | 0 => .stuck
      | depth + 1 =>
        match object? v with
        | none => .stuck
        | some ms => aheadAll (ms.map fun m => ahead depth m.2)
    | b :: _ => if b = 45 ∨ isDigit b then aheadNumber v else .read
    | [] => .stuck

/-- How deep a value inside an object may be nested when it is read ahead. -/
def aheadDepth : Nat := 126

end LocationRelay.Json
