import LocationRelay.Endpoint
import LocationRelay.Text.Hex

/-! # Socket addresses

Addresses that need no name service: four decimal numbers, or a bracketed version 6 address with an
optional numeric zone. Reading accepts the usual shorthands of version 6; printing writes the
canonical form, in which the first longest run of two or more zero groups is left out.
-/
namespace LocationRelay

inductive SocketAddress where
  | v4 (octets : List Nat) (port : Nat)
  | v6 (groups : List Nat) (zone : Nat) (port : Nat)
deriving DecidableEq

namespace SocketAddress

def takeDigits (digit? : Char → Option Nat) : List Char → List Nat × List Char
  | [] => ([], [])
  | c :: cs =>
    match digit? c with
    | none => ([], c :: cs)
    | some d => let (ds, rest) := takeDigits digit? cs; (d :: ds, rest)

def ofDigits (radix : Nat) (ds : List Nat) : Nat := ds.foldl (fun n d => radix * n + d) 0

/-- One part of a dotted address: up to three digits, no leading zero, at most 255. -/
def octet? (cs : List Char) : Option (Nat × List Char) :=
  let (ds, rest) := takeDigits Text.digit? cs
  let n := ofDigits 10 ds
  if ds.isEmpty ∨ 3 < ds.length ∨ (ds.head? = some 0 ∧ 1 < ds.length) ∨ 255 < n then none
  else some (n, rest)

def dotted? (cs : List Char) : Option (List Nat × List Char) := do
  let (a, cs) ← octet? cs
  let (b, cs) ← octet? (← Text.dropPrefix? "." cs)
  let (c, cs) ← octet? (← Text.dropPrefix? "." cs)
  let (d, cs) ← octet? (← Text.dropPrefix? "." cs)
  return ([a, b, c, d], cs)

def group? (cs : List Char) : Option (Nat × List Char) :=
  let (ds, rest) := takeDigits Text.hexDigit? cs
  if ds.isEmpty ∨ 4 < ds.length then none else some (ofDigits 16 ds, rest)

/-- The groups at the front of a text, at most as many as there are slots, and whether the last two
were written as a dotted address. Between groups stands a colon. -/
def takeGroups : (slots : Nat) → (first : Bool) → List Char → List Nat × Bool × List Char
  | 0, _, cs => ([], false, cs)
  | slots + 1, first, cs =>
    let body := if first then some cs else Text.dropPrefix? ":" cs
    match if slots = 0 then none else body.bind dotted? with
    | some (octets, rest) =>
      match octets with
      | [a, b, c, d] => ([256 * a + b, 256 * c + d], true, rest)
      | _ => ([], true, rest)
    | none =>
      match body.bind group? with
      | none => ([], false, cs)
      | some (g, rest) =>
        let (gs, dotted, rest) := takeGroups slots false rest
        (g :: gs, dotted, rest)

/-- The eight groups of a version 6 address. A double colon stands for at least one zero group, and
a dotted part may only come last. -/
def groups? (cs : List Char) : Option (List Nat × List Char) := do
  let (front, dotted, rest) := takeGroups 8 true cs
  if front.length = 8 then return (front, rest)
  if dotted then none
  let rest ← Text.dropPrefix? "::" rest
  let (back, _, rest) := takeGroups (7 - front.length) true rest
  return (front ++ List.replicate (8 - front.length - back.length) 0 ++ back, rest)

/-- The zone after a percent sign; a text without one has zone zero. -/
def zone (cs : List Char) : Nat × List Char :=
  match (Text.dropPrefix? "%" cs).map (takeDigits Text.digit?) with
  | none => (0, cs)
  | some (ds, rest) =>
    let n := ofDigits 10 ds
    if ds.isEmpty ∨ Text.maxU32 < n then (0, cs) else (n, rest)

def ofHost? (host : List Char) (port : Nat) : Option SocketAddress :=
  match dotted? host with
  | some (octets, []) => some (v4 octets port)
  | _ => do
    let (groups, rest) ← groups? (← Text.dropPrefix? "[" host)
    let (zone, rest) := zone rest
    if rest = [']'] then some (v6 groups zone port) else none

def joined (sep : String) (parts : List String) : String := sep.intercalate parts

def longestZeros (groups : List Nat) : Nat × Nat :=
  let step := fun (best, current, i) (g : Nat) =>
    if g = 0 then
      let current := if current.2 = 0 then (i, 1) else (current.1, current.2 + 1)
      (if best.2 < current.2 then current else best, current, i + 1)
    else (best, (0, 0), i + 1)
  (groups.foldl step ((0, 0), (0, 0), 0)).1

def dottedText (octets : List Nat) : String := joined "." (octets.map Text.decimal)

def groupsText (groups : List Nat) : String :=
  match groups with
  | [0, 0, 0, 0, 0, 0xFFFF, g, h] => "::ffff:" ++ dottedText [g / 256, g % 256, h / 256, h % 256]
  | _ =>
    let texts := groups.map Text.hexadecimal
    let (start, len) := longestZeros groups
    if len ≤ 1 then joined ":" texts
    else joined ":" (texts.take start) ++ "::" ++ joined ":" (texts.drop (start + len))

def text : SocketAddress → String
  | v4 octets port => dottedText octets ++ ":" ++ Text.decimal port
  | v6 groups zone port =>
    let zoneText := if zone = 0 then "" else "%" ++ Text.decimal zone
    "[" ++ groupsText groups ++ zoneText ++ "]:" ++ Text.decimal port

end SocketAddress

def Endpoint.address? (e : Endpoint) : Except String SocketAddress :=
  match SocketAddress.ofHost? e.host.toList e.port with
  | some address => .ok address
  | none => .error s!"host must be an IP literal (DNS names not supported here): {e.host}"

end LocationRelay
