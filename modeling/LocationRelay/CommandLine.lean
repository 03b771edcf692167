import LocationRelay.Device
import LocationRelay.Endpoint.Address
import LocationRelay.SigningAlgorithm

/-! # Command lines

The arguments of the three programs: the gateway, a publisher, and a device. Arguments are read from
left to right, a later one replaces an earlier one of its kind, and the first fault ends the reading
with the usage of the program, after a notice of what is wrong unless a value is missing or the usage
was asked for.
-/
namespace LocationRelay

inductive Program where
  | server
  | publisher
  | device
deriving DecidableEq

namespace Program

def name : Program → String
  | server => "waypoint_server"
  | publisher => "waypoint_publish"
  | device => "waypoint_client"

def ofName? (s : String) : Option Program := [server, publisher, device].find? fun p => p.name == s

def usage : Program → List String
  | server => [
      "Usage: waypoint_server [--bind ws://host:port] [--config path]",
      "",
      "Options:",
      "\t--bind     Bind endpoint (default: server.bind from config, else ws://0.0.0.0:9080)",
      "\t          Format: ws://host:port",
      "\t--config   Config file (default: ~/.waypoint/config.toml)",
      "\t--help    Show this help",
      ""]
  | publisher => [
      "Usage: waypoint_publish --username u [--payload json] [--config path]",
      "",
      "Publishes one location update to every connected device of a user.",
      "",
      "Options:",
      "--username  Target user",
      "--payload   Message body (default: read from stdin)",
      "--config    Config file (default: ~/.waypoint/config.toml)",
      "--help      Show this help",
      ""]
  | device => [
      "Usage: waypoint_client [--connect ws://host:port] " ++
        "(--token jwt | --private-key path --username u --device-id d)",
      "",
      "Options:",
      "--connect      Gateway endpoint (default: ws://127.0.0.1:9080)",
      "--token        Pre-minted device token (or WAYPOINT_CLIENT_TOKEN)",
      "--private-key  PEM private key used to mint a token locally",
      "--username     Token username (with --private-key)",
      "--device-id    Token device id (with --private-key)",
      "--algorithm    RS256 | RS384 | RS512 (default: RS512)",
      "--header       Auth header name (default: asimovlives)",
      "--help         Show this help",
      "",
      "Examples:",
      "waypoint_client --token eyJhbGciOi...",
      "waypoint_client --private-key alice.pem --username alice --device-id phoneA",
      ""]

end Program

/-- What is said before the usage, if anything. -/
abbrev Notice := Option String

def unknownArgument (arg : String) : Notice := some ("Unknown argument: " ++ arg)

/-! ## The gateway -/

structure ServerArguments where
  bind : Option SocketAddress := none
  config : Option String := none
deriving DecidableEq

namespace ServerArguments

def address? (endpoint : String) : Except String SocketAddress := do
  (← Endpoint.parse endpoint).address?

def readBind (value : String) : Except Notice SocketAddress :=
  if Text.Blank value then throw (some "--bind must be non-empty (expected ws://host:port)")
  else (address? value).mapError some

def read (a : ServerArguments) : List String → Except Notice ServerArguments
  | [] => .ok a
  | arg :: rest =>
    if arg = "--help" ∨ arg = "-h" then .error none
    else if arg = "--bind" ∨ arg = "--listen" then
      match rest with
      | [] => .error none
      | value :: rest => do read { a with bind := some (← readBind value) } rest
    else if arg = "--config" then
      match rest with
      | [] => .error none
      | value :: rest => read { a with config := some value } rest
    else .error (unknownArgument arg)

def ofArguments (args : List String) : Except Notice ServerArguments := read {} args

end ServerArguments

/-! ## The publisher -/

structure PublisherArguments where
  username : Option String := none
  payload : Option String := none
  config : Option String := none
deriving DecidableEq

namespace PublisherArguments

def read (a : PublisherArguments) : List String → Except Notice PublisherArguments
  | [] => .ok a
  | arg :: rest =>
    if arg = "--help" ∨ arg = "-h" then .error none
    else if arg = "--username" ∨ arg = "--payload" ∨ arg = "--config" then
      match rest with
      | [] => .error none
      | value :: rest =>
        if arg = "--username" then read { a with username := some value } rest
        else if arg = "--payload" then read { a with payload := some value } rest
        else read { a with config := some value } rest
    else .error (unknownArgument arg)

def ofArguments (args : List String) : Except Notice (String × PublisherArguments) := do
  let a ← read {} args
  match a.username.filter fun name => !Text.Blank name with
  | some name => return (name, a)
  | none => throw (some "--username is required")

end PublisherArguments

/-! ## The device -/

structure DeviceArguments where
  endpoint : String := defaultEndpoint
  token : Option String := none
  privateKey : Option String := none
  username : Option String := none
  deviceId : Option String := none
  algorithm : SigningAlgorithm := default
  header : Option String := none
deriving DecidableEq

namespace DeviceArguments

/-- The options that take a value, each with the name that notices use for it. -/
def optionName? (arg : String) : Option String :=
  if arg = "--endpoint" then some "--connect"
  else ["--connect", "--token", "--private-key", "--username", "--device-id", "--algorithm",
    "--header"].find? (· == arg)

def set (a : DeviceArguments) (option value : String) : Except Notice DeviceArguments := do
  if Text.Blank value then throw (some (option ++ " must be non-empty"))
  match option with
  | "--connect" => return { a with endpoint := value }
  | "--token" => return { a with token := some value }
  | "--private-key" => return { a with privateKey := some value }
  | "--username" => return { a with username := some value }
  | "--device-id" => return { a with deviceId := some value }
  | "--algorithm" =>
    let algorithm ← (SigningAlgorithm.parse? value).mapError fun e => some e.message
    return { a with algorithm }
  | _ => return { a with header := some value }

def read (a : DeviceArguments) : List String → Except Notice DeviceArguments
  | [] => .ok a
  | arg :: rest =>
    if arg = "--help" ∨ arg = "-h" then .error none
    else
      match optionName? arg, rest with
      | some _, [] => .error none
      | some option, value :: rest => do read (← a.set option value) rest
      | none, _ => .error (unknownArgument arg)

/-- The arguments, with the token that the environment gives unless one is among them. -/
def ofArguments (token : Option String) (args : List String) : Except Notice DeviceArguments :=
  read { token } args

inductive TokenSource where
  | given (token : String)
  | minted (keyPath username deviceId : String)
deriving DecidableEq

def tokenSource (a : DeviceArguments) : Except Notice TokenSource :=
  match a.token, a.privateKey, a.username, a.deviceId with
  | some token, _, _, _ => .ok (.given token)
  | none, some path, some username, some deviceId => .ok (.minted path username deviceId)
  | none, _, _, _ =>
    .error (some "either --token or --private-key with --username and --device-id is required")

end DeviceArguments
end LocationRelay
