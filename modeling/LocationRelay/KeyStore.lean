import LocationRelay.DatabaseFile
import LocationRelay.Table
import LocationRelay.Text.Split

/-! # Key stores

Where the gateway looks up the public keys of its users: a fixed table, filled from the settings or
from files, or a table of a database. A database answers until it is closed, and keeps a blank key or
none for users that are not to be let in.
-/
namespace LocationRelay

open Text (Bytes)

inductive StoreFault where
  | unsupportedUrl
  | connect
  | query
  | keyFile (path : String)
deriving DecidableEq

def StoreFault.unsupportedText : String := "unsupported database_url scheme for identity store"

inductive DatabaseKind where
  | sqlite
  | postgres
  | mysql
deriving DecidableEq

/-- The rows of the table of users, or nothing when there is no such table. -/
abbrev UserRows := List (String × Option String)

inductive KeyStore where
  | fixed (keys : Table String String)
  | database (rows : Option UserRows) (isOpen : Bool)

namespace KeyStore

/-- A fixed store; of two entries for a user the later one counts. -/
def ofEntries (entries : List (String × String)) : KeyStore :=
  .fixed (entries.foldl (fun t e => t.insert e.1 e.2) ∅)

def ofFiles (contents : String → Option Bytes) (paths : Table String String) :
    Except StoreFault KeyStore := do
  let entries ← paths.entries.mapM fun (user, path) =>
    match (contents path).bind Text.decode? with
    | some text => .ok (user, text)
    | none => .error (.keyFile path)
  return ofEntries entries

def lookup (s : KeyStore) (username : String) : Except StoreFault (Option String) :=
  match s with
  | .fixed keys => .ok (keys.get? username)
  | .database (some rows) true =>
    match (rows.lookup username).join with
    | some key => .ok (if Text.Blank key then none else some key)
    | none => .ok none
  | .database _ _ => .error .query

/-- Closes the database; a fixed store goes on answering. -/
def close : KeyStore → KeyStore
  | .fixed keys => .fixed keys
  | .database rows _ => .database rows false

end KeyStore

def DatabaseKind.ofUrl? (url : String) : Option DatabaseKind :=
  let begins := fun scheme => (Text.dropPrefix? scheme url.toList).isSome
  if begins "sqlite:" then some .sqlite
  else if begins "postgres:" || begins "postgresql:" then some .postgres
  else if begins "mysql:" || begins "mariadb:" then some .mysql
  else none

/-- Connects to a database. Files are opened if they exist or may be made in a folder that exists;
no database server can be reached. -/
def KeyStore.connect (fileExists folderExists : String → Bool) (url : String) :
    Except StoreFault KeyStore := do
  let some kind := DatabaseKind.ofUrl? url | throw .unsupportedUrl
  let .sqlite := kind | throw .connect
  let some file := (DatabaseAddress.ofUrl? url).bind DatabaseAddress.file? | throw .connect
  if file.opens fileExists folderExists then return .database none true
  throw .connect

end LocationRelay
