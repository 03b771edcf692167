import LocationRelay.Settings
import LocationRelay.Text.Decimal

/-! # Settings from the environment

Variables of the environment override settings. A variable that is blank or makes no sense leaves the
setting alone. The address of the broker can also be composed from its parts.
-/
namespace LocationRelay

abbrev Environment := String → Option String

namespace Environment

def get? (env : Environment) (name : String) : Option String := (env name).bind Text.nonBlank?

def number? (env : Environment) (limit : Nat) (name : String) : Option Nat :=
  (env.get? name).bind fun s => Text.unsigned? limit s.toList

def bindAtPort? (env : Environment) : Option String :=
  (Settings.positive? (env.number? Text.maxU16 "WS_GATEWAY_PORT")).map fun port =>
    "ws://0.0.0.0:" ++ Text.decimal port

/-- The address of the broker composed of its parts, of which one has to be given. The second name of
the host counts only when the first is not set at all. -/
def brokerUrl? (env : Environment) : Option String :=
  let host := ((env "RABBITMQ_HOST").or (env "RABBIT_MQ_HOST")).bind Text.nonBlank?
  let user := env.get? "RABBITMQ_USER"
  let password := env.get? "RABBITMQ_PASS"
  let vhost := env.get? "RABBITMQ_VHOST"
  if host.isNone && user.isNone && password.isNone && vhost.isNone then none
  else some ("amqp://" ++ user.getD "rabbitmq" ++ ":" ++ password.getD "rabbitmq" ++ "@" ++
    host.getD "rabbit" ++ "/" ++ vhost.getD "")

end Environment

def Settings.override (s : Settings) (env : Environment) : Settings :=
  let server := s.server
  let algorithm := (env.get? "WAYPOINT_JWT_ALGORITHM").bind fun name =>
    (SigningAlgorithm.parse? name).toOption
  let seconds := fun name => Settings.positive? (env.number? Text.maxU64 name)
  let probes := (env.number? Text.maxU32 "WAYPOINT_MAX_MISSED_PROBES").getD server.maxMissedProbes
  { server := {
      bind := ((env.get? "WAYPOINT_BIND").or env.bindAtPort?).getD server.bind
      metricsBind := (env.get? "WAYPOINT_METRICS_BIND").or server.metricsBind
      healthBind := (env.get? "WAYPOINT_HEALTH_BIND").or server.healthBind
      authHeader :=
        ((env.get? "WAYPOINT_AUTH_HEADER").map Text.lowerAscii).getD server.authHeader
      algorithm := algorithm.getD server.algorithm
      livenessPeriod := (seconds "WAYPOINT_LIVENESS_PERIOD_SECS").getD server.livenessPeriod
      maxMissedProbes := max 1 probes
      handshakeTimeout :=
        (seconds "WAYPOINT_HANDSHAKE_TIMEOUT_SECS").getD server.handshakeTimeout }
    broker := {
      url := (((env.get? "WAYPOINT_BROKER_URL").or env.brokerUrl?).map Secret.mk).getD
        s.broker.url
      exchange := (env.get? "WAYPOINT_BROKER_EXCHANGE").getD s.broker.exchange }
    identity := { s.identity with
      databaseUrl := (((env.get? "WAYPOINT_DATABASE_URL").or (env.get? "PG_URL")).map
        Secret.mk).or s.identity.databaseUrl } }

end LocationRelay
