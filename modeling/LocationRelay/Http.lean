import LocationRelay.Text.Split

/-! # Header fields and targets of requests

Field names are tokens and are compared without regard to case; field values are lines of bytes
without control characters other than the tab. A request restricts the authority `host:port` that it
is addressed to beyond what an endpoint does: only characters that a target may hold, balanced brackets,
one colon outside of them, and no percent sign outside of credentials and brackets.
-/
namespace LocationRelay.Http

def isTokenChar (c : Char) : Bool :=
  c.isAlphanum || "!#$%&'*+-.^_`|~".toList.contains c

def isFieldName (name : String) : Bool :=
  let cs := name.toList
  !cs.isEmpty && cs.length < 65536 && cs.all isTokenChar

def isValueByte (b : UInt8) : Bool := (32 ≤ b && b ≠ 127) || b = 9

def isVisibleByte (b : UInt8) : Bool := (32 ≤ b && b < 127) || b = 9

structure Field where
  name : String
  value : List UInt8
deriving DecidableEq

def valuesOf (name : String) (fields : List Field) : List (List UInt8) :=
  (fields.filter fun f => Text.lowerAscii f.name == Text.lowerAscii name).map Field.value

def visibleText? (value : List UInt8) : Option String :=
  if value.all isVisibleByte then some (String.ofList (value.map fun b => Char.ofNat b.toNat))
  else none

/-! ## The authority of a target -/

inductive AuthorityFault where
  | character
  | shape
deriving DecidableEq

def AuthorityFault.message : AuthorityFault → String
  | character => "invalid uri character"
  | shape => "invalid authority"

/-- What has been seen of an authority: colons and percent signs since the last bracketed part or
credentials, brackets, and whether an at sign came last. -/
structure AuthorityScan where
  colons : Nat := 0
  opened : Bool := false
  closed : Bool := false
  percent : Bool := false
  atLast : Bool := false
deriving DecidableEq

/-- The characters of a target, percent signs apart. -/
def isTargetChar (c : Char) : Bool :=
  c.isAlphanum || "!#$&'()*+,-./:;=?@[]_~".toList.contains c

def AuthorityScan.step (s : AuthorityScan) (c : Char) : Except AuthorityFault AuthorityScan :=
  let s := { s with atLast := false }
  if c = ':' then
    if 8 ≤ s.colons then .error .shape else .ok { s with colons := s.colons + 1 }
  else if c = '[' then
    if s.percent || s.opened then .error .shape else .ok { s with opened := true }
  else if c = ']' then
    if !s.opened || s.closed then .error .shape
    else .ok { s with closed := true, colons := 0, percent := false }
  else if c = '@' then .ok { s with atLast := true, colons := 0, percent := false }
  else if c = '%' then .ok { s with percent := true }
  else if isTargetChar c then .ok s
  else .error .character

def AuthorityScan.finish (s : AuthorityScan) : Except AuthorityFault Unit :=
  if s.opened != s.closed || 1 < s.colons || s.atLast || s.percent then .error .shape else .ok ()

def checkAuthority (authority : List Char) : Except AuthorityFault Unit := do
  (← authority.foldlM AuthorityScan.step {}).finish

end LocationRelay.Http
