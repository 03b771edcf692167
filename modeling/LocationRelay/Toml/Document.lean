/-! # TOML documents

A document is a table of values. Tables and lists of tables are built up by headers and by dotted
keys, and what may still be added to a table depends on how it came about: a table has one header, a
table that dotted keys go through grows by dotted keys only, and a table in braces is complete.
-/
namespace LocationRelay.Toml

inductive TableKind where
  /-- It has a header, or it is the whole document. -/
  | header
  /-- A header of a table inside it goes through it. -/
  | path
  /-- A dotted key goes through it. -/
  | dotted
  | braced
deriving DecidableEq

inductive Value where
  | text (s : String)
  | integer (n : Int)
  /-- A truth value or a number with a fraction or an exponent. -/
  | other
  /-- A number that is too large to be used. -/
  | oversize
  | moment (s : String)
  | list (vs : List Value)
  /-- A list of which each table has a header. -/
  | tables (ts : List (TableKind × List (String × Value)))
  | table (kind : TableKind) (entries : List (String × Value))

namespace Value

mutual

def fits : Value → Bool
  | oversize => false
  | list vs => allFit vs
  | tables ts => tablesFit ts
  | table _ es => entriesFit es
  | _ => true

def allFit : List Value → Bool
  | [] => true
  | v :: vs => v.fits && allFit vs

def entriesFit : List (String × Value) → Bool
  | [] => true
  | e :: es => e.2.fits && entriesFit es

def tablesFit : List (TableKind × List (String × Value)) → Bool
  | [] => true
  | t :: ts => entriesFit t.2 && tablesFit ts

end

end Value

abbrev Entries := List (String × Value)

/-- A key with the tables that it goes through. -/
structure Key where
  path : List String
  name : String
deriving DecidableEq

namespace Entries

def has (es : Entries) (name : String) : Bool := es.any fun e => e.1 == name

def replace (es : Entries) (name : String) (v : Value) : Entries :=
  es.map fun e => if e.1 == name then (name, v) else e

/-- A table that can be changed: how it came about, and what is in it. -/
abbrev Change := TableKind → Entries → Option Entries

/-- Changes the table at the end of a path. The tables of the path are made where they are missing;
of a list of tables the path takes the last one. -/
def within (dotted : Bool) (path : List String) (change : Change) : Change := fun kind es =>
  match path with
  | [] => change kind es
  | name :: path =>
    let inside := within dotted path change
    match es.lookup name with
    | none => do
      let made := if dotted then .dotted else .path
      return es ++ [(name, .table made (← inside made []))]
    | some (.table kind sub) => do
      if kind = .braced ∨ (dotted ∧ kind = .header) then none
      return es.replace name (.table kind (← inside kind sub))
    | some (.tables ts) => do
      let (kind, sub) ← ts.getLast?
      return es.replace name (.tables (ts.dropLast ++ [(kind, ← inside kind sub)]))
    | some _ => none

/-- Gives a new key a value. Dotted keys end in tables that dotted keys made, all others do not. -/
def assign (key : Key) (v : Value) : Change :=
  let dotted := !key.path.isEmpty
  within dotted key.path fun kind es =>
    if (kind = .dotted) ≠ (dotted = true) ∨ es.has key.name then none
    else some (es ++ [(key.name, v)])

def openTable (key : Key) : Change :=
  within false key.path fun _ es =>
    match es.lookup key.name with
    | none => some (es ++ [(key.name, .table .header [])])
    | some (.table .path sub) => some (es.replace key.name (.table .header sub))
    | some _ => none

def openListed (key : Key) : Change :=
  within false key.path fun _ es =>
    match es.lookup key.name with
    | none => some (es ++ [(key.name, .tables [(.header, [])])])
    | some (.tables ts) => some (es.replace key.name (.tables (ts ++ [(.header, [])])))
    | some _ => none

end Entries
end LocationRelay.Toml
