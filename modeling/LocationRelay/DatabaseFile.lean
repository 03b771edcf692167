import LocationRelay.Text.Hex
import LocationRelay.Text.Split

/-! # Files of databases

The address of a database in a file is a path, after which settings follow a question mark. The path
may be the address of a file in turn: it then begins with `file:`, and has settings of its own, which
take rights away but give none. A database in memory needs no file. One without a path does not
either, as it lives in a file that nobody else sees.
-/
namespace LocationRelay

open Text (Bytes)

/-- What may be done with a file, each more than the one before it. -/
inductive FileAccess where
  | none
  | read
  | write
  /-- The file may also be made. -/
  | create
deriving DecidableEq

def FileAccess.rank : FileAccess → Nat
  | none => 0
  | read => 1
  | write => 2
  | create => 3

structure DatabaseFile where
  path : Bytes
  access : FileAccess
  inMemory : Bool
  /-- The name of the way in which files are reached. -/
  layer : Bytes := Text.encode "unix"
deriving DecidableEq

structure DatabaseAddress where
  path : Bytes
  readOnly : Bool := false
  create : Bool := false
  inMemory : Bool := false
  immutable : Bool := false
  layer : Option Bytes := none
deriving DecidableEq

namespace DatabaseFile

def percentDecode : Bytes → Bytes
  | [] => []
  | 37 :: a :: b :: bs =>
    match Text.bytesOfHex? [Char.ofNat a.toNat, Char.ofNat b.toNat] with
    | some decoded => decoded ++ percentDecode bs
    | none => 37 :: percentDecode (a :: b :: bs)
  | b :: bs => b :: percentDecode bs

def splitSettings (bs : Bytes) : Bytes × Bytes := (Text.splitFirst? 63 bs).getD (bs, [])

def pairs (settings : Bytes) : List (Bytes × Bytes) :=
  ((settings.splitOn 38).filter fun pair => !pair.isEmpty).map fun pair =>
    (Text.splitFirst? 61 pair).getD (pair, [])

/-- A name ends before its first zero byte. -/
def ended (bs : Bytes) : Bytes := bs.takeWhile (· != 0)

def limit? (f : DatabaseFile) (access : FileAccess) : Option DatabaseFile :=
  if f.inMemory ∨ access.rank ≤ f.access.rank then some { f with access, inMemory := false }
  else none

def setting (f : DatabaseFile) (name value : Bytes) : Option DatabaseFile :=
  match Text.decode? name, Text.decode? value with
  | some "vfs", _ => some { f with layer := value }
  | some "cache", some "shared" | some "cache", some "private" => some f
  | some "cache", _ => none
  | some "mode", some "ro" => f.limit? .read
  | some "mode", some "rw" => f.limit? .write
  | some "mode", some "rwc" => f.limit? .create
  | some "mode", some "memory" => some { f with access := .none, inMemory := true }
  | some "mode", _ => none
  | _, _ => some f

/-- What follows the host of the address of a file: there is none, or it is this one. -/
def afterHost? (bs : Bytes) : Option Bytes :=
  match bs with
  | 47 :: 47 :: rest =>
    let host := rest.takeWhile (· != 47)
    if host = [] ∨ host = Text.encode "localhost" then some (rest.drop host.length) else none
  | _ => some bs

def ofFileAddress? (f : DatabaseFile) (bs : Bytes) : Option DatabaseFile := do
  let (path, settings) := splitSettings ((← afterHost? bs).takeWhile (· != 35))
  let decoded := fun bs => ended (percentDecode bs)
  let named := (pairs settings).map fun (name, value) => (decoded name, decoded value)
  (named.filter fun pair => !pair.1.isEmpty).foldlM (fun f pair => f.setting pair.1 pair.2)
    { f with path := decoded path }

/-- The ways in which files are reached. The last one keeps all files in memory. -/
def layers : List Bytes :=
  ["unix", "unix-none", "unix-dotfile", "unix-excl", "memdb"].map Text.encode

/-- Whether no file is needed at the path. -/
def needsNoFile (f : DatabaseFile) : Bool :=
  f.inMemory || f.path.isEmpty || f.path == Text.encode ":memory:" ||
    f.layer == Text.encode "memdb"

def namesFile (path : String) : Bool :=
  decide ((path.splitOn "/").getLastD "" ∉ ["", ".", ".."])

def opens (fileExists folderExists : String → Bool) (f : DatabaseFile) : Bool :=
  layers.contains f.layer && (f.needsNoFile ||
    match Text.decode? f.path with
    | some path =>
      fileExists path || (f.access = .create && namesFile path && folderExists path)
    | none => false)

end DatabaseFile

namespace DatabaseAddress

open DatabaseFile (ended pairs percentDecode splitSettings)

def dropRepeated (opening : Bytes) : Nat → Bytes → Bytes
  | 0, bs => bs
  | n + 1, bs =>
    match opening.isPrefixOf? bs with
    | some rest => dropRepeated opening n rest
    | none => bs

def setting (a : DatabaseAddress) (name value : Bytes) : Option DatabaseAddress :=
  match Text.decode? name, Text.decode? value with
  | some "mode", some "ro" => some { a with readOnly := true }
  | some "mode", some "rw" => some a
  | some "mode", some "rwc" => some { a with create := true }
  | some "mode", some "memory" => some { a with inMemory := true }
  | some "cache", some "private" | some "cache", some "shared" => some a
  | some "immutable", some "true" | some "immutable", some "1" => some { a with immutable := true }
  | some "immutable", some "false" | some "immutable", some "0" =>
    some { a with immutable := false }
  | some "vfs", _ => some { a with layer := some value }
  | _, _ => none

/-- Reads an address. In its settings a plus sign stands for a blank. -/
def ofUrl? (url : String) : Option DatabaseAddress := do
  let bs := Text.encode url
  let bs := dropRepeated (Text.encode "sqlite://") bs.length bs
  let bs := dropRepeated (Text.encode "sqlite:") bs.length bs
  let (path, settings) := splitSettings bs
  let a : DatabaseAddress ←
    if path = Text.encode ":memory:" then some { path, inMemory := true }
    else (Text.decode? (percentDecode path)).map fun path => { path := Text.encode path }
  let decoded := fun bs : Bytes => percentDecode (bs.map fun b => if b = 43 then 32 else b)
  (pairs settings).foldlM (fun a pair => a.setting (decoded pair.1) (decoded pair.2)) a

/-- The file that an address names. Only the path of an address that says nothing of how to reach
the file is looked at for the address of a file. -/
def file? (a : DatabaseAddress) : Option DatabaseFile :=
  let f : DatabaseFile :=
    { path := a.path
      access := if a.readOnly then .read else if a.create then .create else .write
      inMemory := a.inMemory }
  if a.immutable ∨ a.layer.isSome then
    some { f with path := ended f.path, layer := (a.layer.map ended).getD f.layer }
  else if f.path.contains 0 then none
  else match (Text.encode "file:").isPrefixOf? f.path with
    | some rest => f.ofFileAddress? rest
    | none => some f

end DatabaseAddress
end LocationRelay
