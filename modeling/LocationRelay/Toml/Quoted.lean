import LocationRelay.Text.Hex

/-! # Quoted texts in TOML

Texts in double quotes know escapes, texts in single quotes do not. Both can be written with three
quotes; then they go over lines, a line end right after the opening is left out, and up to two quotes
may stand before the closing ones. A backslash at the end of a line takes away that line end and all
blanks and line ends after it.
-/
namespace LocationRelay.Toml

def isPlain (c : Char) : Bool := c == '\t' || (' ' ≤ c && c != '\x7F')

def isSpace (c : Char) : Bool := c == ' ' || c == '\t'

def coded? (digits : List Char) : Option Char := do
  let n ← digits.foldlM (fun n c => (Text.hexDigit? c).map (16 * n + ·)) 0
  if n.isValidChar then some (Char.ofNat n) else none

def short? (c : Char) : Option Char :=
  match c with
  | 'b' => some '\x08'
  | 't' => some '\t'
  | 'n' => some '\n'
  | 'f' => some '\x0C'
  | 'r' => some '\r'
  | 'e' => some '\x1B'
  | '"' => some '"'
  | '\\' => some '\\'
  | _ => none

/-- Where reading is after a backslash at the end of a line. -/
inductive Fold where
  | none
  /-- The line end is still to come. -/
  | before
  /-- Blanks and line ends are being left out. -/
  | after
deriving DecidableEq

/-- The characters of a text up to the closing quotes, and what follows. An escaped text is in double
quotes; a long one goes over lines. -/
def body? (escaped long : Bool) (fold : Fold) : List Char → Option (List Char × List Char)
  | [] => .none
  | c :: cs =>
    let quote := if escaped then '"' else '\''
    let also := fun (ch : Char) (r : Option (List Char × List Char)) =>
      r.map fun r => (ch :: r.1, r.2)
    let lineEnd := fun (keep : List Char) (r : Option (List Char × List Char)) =>
      r.map fun r => if fold = .none then (keep ++ r.1, r.2) else r
    let folded := if fold = .none then Fold.none else .after
    if c = '\n' then
      if long then lineEnd ['\n'] (body? escaped long folded cs) else .none
    else if c = '\r' then
      match cs with
      | '\n' :: cs => if long then lineEnd ['\r', '\n'] (body? escaped long folded cs) else .none
      | _ => .none
    else if fold ≠ .none && isSpace c then body? escaped long fold cs
    else if fold = .before then .none
    else if c = quote then
      if !long then some ([], cs)
      else match cs with
        | a :: b :: rest =>
          if a ≠ quote || b ≠ quote then also c (body? escaped long .none (a :: b :: rest))
          else match rest with
            | d :: e :: rest =>
              if d ≠ quote then some ([], d :: e :: rest)
              else if e ≠ quote then some ([quote], e :: rest)
              else some ([quote, quote], rest)
            | [d] => if d = quote then some ([quote], []) else some ([], [d])
            | [] => some ([], [])
        | _ => .none
    else if c = '\\' && escaped then
      match cs with
      | [] => .none
      | e :: cs =>
        if e = 'x' then
          match cs with
          | a :: b :: cs => do also (← coded? [a, b]) (body? escaped long .none cs)
          | _ => .none
        else if e = 'u' then
          match cs with
          | a :: b :: c :: d :: cs => do also (← coded? [a, b, c, d]) (body? escaped long .none cs)
          | _ => .none
        else if e = 'U' then
          match cs with
          | a :: b :: c :: d :: e :: f :: g :: h :: cs => do
            also (← coded? [a, b, c, d, e, f, g, h]) (body? escaped long .none cs)
          | _ => .none
        else if long && (isSpace e || e == '\n' || e == '\r') then
          body? escaped long .before (e :: cs)
        else do also (← short? e) (body? escaped long .none cs)
    else if isPlain c then also c (body? escaped long .none cs)
    else .none

def dropLineEnd : List Char → List Char
  | '\n' :: cs => cs
  | '\r' :: '\n' :: cs => cs
  | cs => cs

def shortText? : List Char → Option (String × List Char)
  | '"' :: cs => (body? true false .none cs).map fun r => (String.ofList r.1, r.2)
  | '\'' :: cs => (body? false false .none cs).map fun r => (String.ofList r.1, r.2)
  | _ => none

def text? (cs : List Char) : Option (String × List Char) :=
  let long := fun escaped cs =>
    (body? escaped true .none (dropLineEnd cs)).map fun r => (String.ofList r.1, r.2)
  match cs with
  | '"' :: '"' :: '"' :: cs => long true cs
  | '\'' :: '\'' :: '\'' :: cs => long false cs
  | cs => shortText? cs

end LocationRelay.Toml
