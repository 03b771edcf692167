import LocationRelay.Toml.Scalar

/-! # Reading TOML

A document is read line by line: headers, and keys with their values. Lists and tables in braces may
go over lines, hold comments, and end in a comma; they are nested eighty deep at most. A key has eighty
parts at most.
-/
namespace LocationRelay.Toml

def gap? (inComment : Bool) : List Char → Option (List Char)
  | [] => some []
  | c :: cs =>
    if c = '\n' then gap? false cs
    else if c = '\r' then
      match cs with
      | '\n' :: cs => gap? false cs
      | _ => none
    else if inComment then if isPlain c then gap? true cs else none
    else if isSpace c then gap? false cs
    else if c = '#' then gap? true cs
    else some (c :: cs)

def lineEnd? (cs : List Char) : Option (List Char) :=
  let rest := match cs.dropWhile isSpace with
    | '#' :: cs => cs.dropWhile isPlain
    | cs => cs
  match rest with
  | [] => some []
  | '\n' :: cs => some cs
  | '\r' :: '\n' :: cs => some cs
  | _ => none

/-! ## Keys -/

def inBareKey (c : Char) : Bool := c.isAlphanum || c == '_' || c == '-'

def keyPart? (cs : List Char) : Option (String × List Char) :=
  match shortText? cs with
  | some r => some r
  | none =>
    let bare := cs.takeWhile inBareKey
    if bare.isEmpty then none else some (String.ofList bare, cs.drop bare.length)

def keyParts? : Nat → List Char → Option (Key × List Char)
  | 0, _ => none
  | n + 1, cs => do
    let (part, rest) ← keyPart? cs
    match rest.dropWhile isSpace with
    | '.' :: rest => do
      let (key, rest) ← keyParts? n (rest.dropWhile isSpace)
      return (⟨part :: key.path, key.name⟩, rest)
    | rest => return (⟨[], part⟩, rest)

def maxKeyParts : Nat := 80

def key? (cs : List Char) : Option (Key × List Char) := keyParts? maxKeyParts cs

/-! ## Values -/

def items? (item : List Char → Option (Value × List Char)) :
    Nat → List Char → Option (List Value × List Char)
  | 0, _ => none
  | _ + 1, ']' :: rest => some ([], rest)
  | n + 1, cs => do
    let (v, rest) ← item cs
    match ← gap? false rest with
    | ',' :: rest => do
      let (vs, rest) ← items? item n (← gap? false rest)
      return (v :: vs, rest)
    | ']' :: rest => return ([v], rest)
    | _ => none

/-- A key, an equals sign and a value, given what may stand around the sign and how a value is read. -/
def pair? (skip? : List Char → Option (List Char))
    (item : List Char → Option (Value × List Char)) (cs : List Char) :
    Option (Key × Value × List Char) := do
  let (key, rest) ← key? cs
  let rest ← after? '=' (← skip? rest)
  let (v, rest) ← item (← skip? rest)
  return (key, v, rest)

def members? (item : List Char → Option (Value × List Char)) :
    Nat → Entries → List Char → Option (Entries × List Char)
  | 0, _, _ => none
  | _ + 1, es, '\x7D' :: rest => some (es, rest)
  | n + 1, es, cs => do
    let (key, v, rest) ← pair? (gap? false) item cs
    let es ← Entries.assign key v .braced es
    match ← gap? false rest with
    | ',' :: rest => members? item n es (← gap? false rest)
    | '\x7D' :: rest => return (es, rest)
    | _ => none

def simple? (cs : List Char) : Option (Value × List Char) :=
  match text? cs with
  | some (s, rest) => some (.text s, rest)
  | none => scalar? cs

def value? : Nat → List Char → Option (Value × List Char)
  | 0, cs => simple? cs
  | depth + 1, cs =>
    match cs with
    | '[' :: rest => do
      let (vs, rest) ← items? (value? depth) cs.length (← gap? false rest)
      return (.list vs, rest)
    | '\x7B' :: rest => do
      let (es, rest) ← members? (value? depth) cs.length [] (← gap? false rest)
      return (.table .braced es, rest)
    | cs => simple? cs

def maxDepth : Nat := 80

/-! ## Documents -/

/-- Reads the rest of a document into the tables read so far, within the table whose header was met
last. -/
def statements? : Nat → List String → Entries → List Char → Option Entries
  | 0, _, _, _ => none
  | n + 1, here, root, cs => do
    match ← gap? false cs with
    | [] => return root
    | '[' :: '[' :: rest => do
      let (key, rest) ← key? (rest.dropWhile isSpace)
      let rest ← after? ']' (← after? ']' rest)
      let root ← Entries.openListed key .header root
      statements? n (key.path ++ [key.name]) root (← lineEnd? rest)
    | '[' :: rest => do
      let (key, rest) ← key? (rest.dropWhile isSpace)
      let rest ← after? ']' rest
      let root ← Entries.openTable key .header root
      statements? n (key.path ++ [key.name]) root (← lineEnd? rest)
    | cs => do
      let (key, v, rest) ← pair? (fun cs => some (cs.dropWhile isSpace)) (value? maxDepth) cs
      let root ← Entries.within false here (Entries.assign key v) .header root
      statements? n here root (← lineEnd? rest)

/-- The entries of a document. A byte order mark in front does not count. -/
def read? (s : String) : Option Entries :=
  let cs := match s.toList with
    | '\uFEFF' :: cs => cs
    | cs => cs
  statements? (cs.length + 1) [] [] cs

end LocationRelay.Toml
