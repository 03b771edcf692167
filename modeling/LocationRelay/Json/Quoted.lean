import LocationRelay.Text.Hex

/-! # Quoted texts in JSON

A quoted text is read in two stages. The first cuts it at the closing quote into bytes and units of
sixteen bits, and refuses control characters and unknown escapes. The second puts surrogate pairs
together and decodes the bytes; only a text that is to be used has to pass it, one that is skipped
need not. Writing escapes quotes, backslashes and control characters, and nothing else.
-/
namespace LocationRelay.Json

open Text (Bytes)

inductive Piece where
  | byte (b : UInt8)
  | unit (n : Nat)
deriving DecidableEq

def hexValue? (b : UInt8) : Option Nat :=
  if 48 ≤ b ∧ b ≤ 57 then some (b.toNat - 48)
  else if 97 ≤ b ∧ b ≤ 102 then some (b.toNat - 87)
  else if 65 ≤ b ∧ b ≤ 70 then some (b.toNat - 55)
  else none

def unitOf? (a b c d : UInt8) : Option Nat := do
  return 4096 * (← hexValue? a) + 256 * (← hexValue? b) + 16 * (← hexValue? c) + (← hexValue? d)

def shortEscape? (b : UInt8) : Option UInt8 :=
  if b = 34 ∨ b = 92 ∨ b = 47 then some b
  else if b = 98 then some 8
  else if b = 102 then some 12
  else if b = 110 then some 10
  else if b = 114 then some 13
  else if b = 116 then some 9
  else none

/-- The parts of a quoted text whose opening quote has been read, and what follows its closing
quote. -/
def pieces? : Bytes → Option (List Piece × Bytes)
  | [] => none
  | b :: rest =>
    if b = 34 then some ([], rest)
    else if b = 92 then
      match rest with
      | 117 :: a :: b :: c :: d :: rest => do
        let n ← unitOf? a b c d
        let (ps, rest) ← pieces? rest
        return (.unit n :: ps, rest)
      | e :: rest => do
        let b ← shortEscape? e
        let (ps, rest) ← pieces? rest
        return (.byte b :: ps, rest)
      | [] => none
    else if b < 32 then none
    else do
      let (ps, rest) ← pieces? rest
      return (.byte b :: ps, rest)

inductive Unreadable where
  /-- The last unit is the first half of a surrogate pair. -/
  | halfAtEnd
  /-- Some other unit is half of a surrogate pair without the other half. -/
  | halfInside
  | encoding
deriving DecidableEq

def isHighHalf (n : Nat) : Bool := 0xD800 ≤ n && n ≤ 0xDBFF
def isLowHalf (n : Nat) : Bool := 0xDC00 ≤ n && n ≤ 0xDFFF

def codeBytes (n : Nat) : Bytes := String.utf8EncodeChar (Char.ofNat n)

/-- The bytes that the parts stand for, surrogate pairs put together. -/
def join : List Piece → Except Unreadable Bytes
  | [] => .ok []
  | .byte b :: ps => do return b :: (← join ps)
  | .unit n :: ps =>
    if isLowHalf n then .error .halfInside
    else if isHighHalf n then
      match ps with
      | [] => .error .halfAtEnd
      | .unit m :: ps => do
        unless isLowHalf m do throw .halfInside
        return codeBytes (0x10000 + 0x400 * (n - 0xD800) + (m - 0xDC00)) ++ (← join ps)
      | .byte _ :: _ => .error .halfInside
    else do return codeBytes n ++ (← join ps)

def textOf (ps : List Piece) : Except Unreadable String := do
  match Text.decode? (← join ps) with
  | some s => return s
  | none => throw .encoding

def string? : Bytes → Option String
  | 34 :: rest =>
    match pieces? rest with
    | some (ps, []) => (textOf ps).toOption
    | _ => none
  | _ => none

def hexLetter (n : Nat) : UInt8 := UInt8.ofNat (if n < 10 then 48 + n else 87 + n)

def escape (b : UInt8) : Bytes :=
  if b = 34 ∨ b = 92 then [92, b]
  else if b = 8 then [92, 98]
  else if b = 12 then [92, 102]
  else if b = 10 then [92, 110]
  else if b = 13 then [92, 114]
  else if b = 9 then [92, 116]
  else if b < 32 then [92, 117, 48, 48, hexLetter (b.toNat / 16), hexLetter (b.toNat % 16)]
  else [b]

def quoted (s : String) : Bytes := 34 :: (Text.encode s).flatMap escape ++ [34]

end LocationRelay.Json
