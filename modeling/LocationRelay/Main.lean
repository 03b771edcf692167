import LocationRelay.Startup

/-! # The command line

The three programs behind one entry: the first argument names the program, the others are its own.
There is no network here and no database, so no program gets beyond the point where it would listen,
dial or open one; a token that is made on the way is never shown, and its time does not matter.
-/
namespace LocationRelay

def knownVariables : List String :=
  ["WS_GATEWAY_PORT", "WAYPOINT_BIND", "WAYPOINT_METRICS_BIND", "WAYPOINT_HEALTH_BIND",
    "WAYPOINT_AUTH_HEADER", "WAYPOINT_JWT_ALGORITHM", "WAYPOINT_LIVENESS_PERIOD_SECS",
    "WAYPOINT_HANDSHAKE_TIMEOUT_SECS", "WAYPOINT_MAX_MISSED_PROBES", "RABBITMQ_HOST",
    "RABBIT_MQ_HOST", "RABBITMQ_USER", "RABBITMQ_PASS", "RABBITMQ_VHOST", "WAYPOINT_BROKER_URL",
    "WAYPOINT_BROKER_EXCHANGE", "PG_URL", "WAYPOINT_DATABASE_URL", "WAYPOINT_CLIENT_TOKEN"]

def readEnvironment : IO Environment := do
  let pairs ← knownVariables.mapM fun name => do return (name, ← IO.getEnv name)
  return fun name => (pairs.lookup name).join

def readContent (path : String) : IO FileContent := do
  try
    let content ← IO.FS.readBinFile path
    return .bytes content.toList
  catch
    | .noFileOrDirectory .. => return .missing
    | _ => return .unreadable

/-- The files that a program reads: its settings, the keys that these name, and a private key. -/
def neededFiles (p : Program) (env : Environment) (home : String) (args : List String) :
    IO (List (String × FileContent)) := do
  let withKeys := fun given => do
    let path := given.getD (Settings.defaultPath home)
    let content ← readContent path
    let keys := match Settings.load content env with
      | .ok s => s.identity.staticKeys.entries.map Prod.snd
      | .error _ => []
    let keys ← keys.mapM fun key => do return (key, ← readContent key)
    return (path, content) :: keys
  match p with
  | .server =>
    match ServerArguments.ofArguments args with
    | .ok a => withKeys a.config
    | .error _ => return []
  | .publisher =>
    match PublisherArguments.ofArguments args with
    | .ok (_, a) => withKeys a.config
    | .error _ => return []
  | .device =>
    match DeviceArguments.ofArguments none args with
    | .ok a => (a.privateKey.toList).mapM fun key => do return (key, ← readContent key)
    | .error _ => return []

def readHost (p : Program) (args : List String) : IO Host := do
  let env ← readEnvironment
  let home := (← IO.getEnv "HOME").getD ""
  let files ← neededFiles p env home args
  let fromInput := match p, PublisherArguments.ofArguments args with
    | .publisher, .ok (_, a) => a.payload.isNone
    | _, _ => false
  let stdin ← if fromInput then (← IO.getStdin).readBinToEnd else pure ByteArray.empty
  return {
    env, home
    file := fun path => (files.lookup path).getD .missing
    hasFolderOf := fun _ => false
    stdin := stdin.toList
    now := 0
    canBind := fun _ => false }

end LocationRelay

open LocationRelay in
def main (args : List String) : IO UInt32 := do
  let name := args.headD ""
  match Program.ofName? name with
  | none =>
    IO.eprintln ("Unknown program: " ++ name)
    return 2
  | some p =>
    match p.run (← readHost p args.tail) args.tail with
    | .ok _ => return 0
    | .error ending =>
      IO.eprint (ending.text p)
      return UInt32.ofNat ending.exitCode
