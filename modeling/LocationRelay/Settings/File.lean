import LocationRelay.Settings.Environment
import LocationRelay.Text.Hex
import LocationRelay.Toml.Reader

/-! # The settings file

A TOML document with the groups `server`, `broker` and `identity`. What it does not know it passes
over, but a known setting has to be of its type. A group may also be a list of its settings in order.
No file at all counts as an empty one.
-/
namespace LocationRelay

open Text (Bytes)
open Toml (Entries Value)

namespace WrittenSettings

/-- The settings of a group by name, given their names in order and how many a list has at least. -/
def group? (names : List String) (least : Nat) : Option Value → Option (String → Option Value)
  | none | some (.moment _) => some fun _ => none
  | some (.table _ es) => some fun name => es.lookup name
  | some (.list vs) =>
    if vs.length < least then none else some fun name => (names.zip vs).lookup name
  | some _ => none

def text? : Option Value → Option (Option String)
  | none => some none
  | some (.text s) => some (some s)
  | some _ => none

def number? (limit : Nat) : Option Value → Option (Option Nat)
  | none => some none
  | some (.integer n) => if 0 ≤ n ∧ n ≤ limit then some (some n.toNat) else none
  | some _ => none

/-- The one key of a moment that is taken for a table. -/
def momentKey : String := "$__toml_private_datetime"

def texts? : Option Value → Option (List (String × String))
  | none => some []
  | some (.table _ es) => es.mapM fun
    | (key, .text s) => some (key, s)
    | _ => none
  | some (.moment s) => some [(momentKey, s)]
  | some _ => none

/-- Whether nothing that is looked at is a number too large to be used. Of a group that is a list only
the settings are looked at, all else is as a whole. -/
def fits (es : Entries) : Bool :=
  es.all fun
    | (name, .list vs) =>
      ["server", "broker", "identity"].contains name || Value.allFit vs
    | (_, v) => v.fits

def serverNames : List String :=
  ["bind", "metrics_bind", "health_bind", "auth_header", "jwt_algorithm", "liveness_period_secs",
    "max_missed_probes", "handshake_timeout_secs"]

def ofEntries? (es : Entries) : Option WrittenSettings := do
  unless fits es do none
  let server ← group? serverNames 8 (es.lookup "server")
  let broker ← group? ["url", "exchange"] 2 (es.lookup "broker")
  let identity ← group? ["database_url", "static_public_keys"] 1 (es.lookup "identity")
  return {
    bind := ← text? (server "bind")
    metricsBind := ← text? (server "metrics_bind")
    healthBind := ← text? (server "health_bind")
    authHeader := ← text? (server "auth_header")
    algorithm := ← text? (server "jwt_algorithm")
    livenessPeriod := ← number? Text.maxU64 (server "liveness_period_secs")
    maxMissedProbes := ← number? Text.maxU32 (server "max_missed_probes")
    handshakeTimeout := ← number? Text.maxU64 (server "handshake_timeout_secs")
    brokerUrl := ← text? (broker "url")
    exchange := ← text? (broker "exchange")
    databaseUrl := ← text? (identity "database_url")
    staticKeys := ← texts? (identity "static_public_keys") }

end WrittenSettings

inductive FileContent where
  | missing
  /-- Something that cannot be read as a file. -/
  | unreadable
  | bytes (content : Bytes)

inductive SettingsFault where
  | unreadable
  | notToml
deriving DecidableEq

namespace SettingsFault

def text : SettingsFault → String
  | unreadable => "read config file"
  | notToml => "parse TOML"

def heading (path : String) : String := "read config from " ++ path

def message (path : String) (e : SettingsFault) : String := heading path ++ ": " ++ e.text

end SettingsFault

namespace Settings

def ofFile (content : FileContent) : Except SettingsFault Settings :=
  match content with
  | .missing => .ok (ofWritten {})
  | .unreadable => .error .unreadable
  | .bytes content =>
    match Text.decode? content with
    | none => .error .unreadable
    | some text =>
      match (Toml.read? text).bind WrittenSettings.ofEntries? with
      | none => .error .notToml
      | some w => .ok (ofWritten w)

def load (content : FileContent) (env : Environment) : Except SettingsFault Settings :=
  (ofFile content).map fun s => s.override env

def inFolder (folder name : String) : String :=
  if folder.isEmpty || folder.endsWith "/" then folder ++ name else folder ++ "/" ++ name

def defaultPath (home : String) : String := inFolder home ".waypoint/config.toml"

end Settings
end LocationRelay
