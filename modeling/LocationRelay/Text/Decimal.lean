/-! # Whole numbers as text

Decimal digits in both directions. Reading accepts one leading plus sign and any number of leading
zeros, needs at least one digit, and refuses a value above the given limit.

A span of time counts nanoseconds. It is shown in the largest of the units s, ms, µs and ns of which it
holds at least one, with as many decimals as it needs.
-/
namespace LocationRelay.Text

def digit? (c : Char) : Option Nat :=
  if '0' ≤ c ∧ c ≤ '9' then some (c.toNat - '0'.toNat) else none

def digitsFrom? (value : Nat) : List Char → Option Nat
  | [] => some value
  | c :: cs => do digitsFrom? (10 * value + (← digit? c)) cs

def digits? : List Char → Option Nat
  | [] => none
  | cs => digitsFrom? 0 cs

/-- The value of a text of digits after an optional plus sign, when it is within the limit. -/
def unsigned? (limit : Nat) (cs : List Char) : Option Nat := do
  let n ← digits? (match cs with | '+' :: rest => rest | _ => cs)
  if n ≤ limit then some n else none

def maxU16 : Nat := 65535
def maxU32 : Nat := 4294967295
def maxU64 : Nat := 18446744073709551615

def decimal (n : Nat) : String := String.ofList (Nat.toDigits 10 n)

def hexadecimal (n : Nat) : String := String.ofList (Nat.toDigits 16 n)

def paddedDecimal (width n : Nat) : String :=
  let ds := Nat.toDigits 10 n
  String.ofList (List.replicate (width - ds.length) '0' ++ ds)

end LocationRelay.Text

namespace LocationRelay

structure Duration where
  nanos : Nat
deriving DecidableEq

namespace Duration

def ofSeconds (n : Nat) : Duration := ⟨n * 1000000000⟩
def ofMillis (n : Nat) : Duration := ⟨n * 1000000⟩
def seconds (d : Duration) : Nat := d.nanos / 1000000000

/-- The decimals of a fraction of the given power of ten, without zeros at the end. -/
def decimals (places part : Nat) : String :=
  let digits := (Text.paddedDecimal places part).toList.reverse.dropWhile (· == '0')
  if digits.isEmpty then "" else "." ++ String.ofList digits.reverse

def inUnit (places : Nat) (unit : String) (n : Nat) : String :=
  let size := Nat.pow 10 places
  Text.decimal (n / size) ++ decimals places (n % size) ++ unit

def text (d : Duration) : String :=
  if 1000000000 ≤ d.nanos then inUnit 9 "s" d.nanos
  else if 1000000 ≤ d.nanos then inUnit 6 "ms" d.nanos
  else if 1000 ≤ d.nanos then inUnit 3 "µs" d.nanos
  else inUnit 0 "ns" d.nanos

end Duration

end LocationRelay
