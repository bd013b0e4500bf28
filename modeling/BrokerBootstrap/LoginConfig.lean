import BrokerBootstrap.Secret
import BrokerBootstrap.Text.Blank
import BrokerBootstrap.Traced

/-!
# Login configuration

The login configuration of a broker declares the users that may log in with a password, and the
user that the broker itself logs in as. It is built from the secrets of the namespace whose names
begin as wanted: each of their entries is a user. Exactly one secret is the admin secret, and its
smallest entry is the broker's own user.
-/

namespace BrokerBootstrap

structure LoginConfig where
  username : String
  password : String
  users : List (String × String)
  deriving DecidableEq, Repr

namespace LoginConfig

def header (config : LoginConfig) : String :=
  "KafkaServer \x7b\n" ++
    "  org.apache.kafka.common.security.plain.PlainLoginModule required\n" ++
    "  username=\"" ++ config.username ++ "\"\n" ++
    "  password=\"" ++ config.password ++ "\"\n"

def userLine (user : String × String) : String :=
  "  user_" ++ user.1 ++ "=\"" ++ user.2 ++ "\""

def options (config : LoginConfig) : String :=
  config.header ++ String.join (config.users.map fun user => userLine user ++ "\n")

/-- The content of the file. A semicolon takes the place of the last character of the options,
which ends their last line. Values are written as they are. -/
def render (config : LoginConfig) : String :=
  String.ofList config.options.toList.dropLast ++ ";\n\x7d;"

def decodePayload (secret entry payload : String) : Except Problem String :=
  match Base64.decode payload.toList with
  | .error .nonAscii => .error (.fault .nonAsciiPayload)
  | .error cause => .error (.failure (.undecodable secret entry (.base64 cause)))
  | .ok octets =>
      match Utf8.decode octets with
      | .error cause => .error (.failure (.undecodable secret entry (.utf8 cause)))
      | .ok text => .ok (Text.strip text)

def decodeEntries (secret : String) :
    List (String × String) → Except Problem (List (String × String))
  | [] => .ok []
  | (entry, payload) :: rest => do
      let value ← decodePayload secret entry payload
      let users ← decodeEntries secret rest
      return (entry, value) :: users

def decodeSecrets : List Secret → Except Problem (List (String × String))
  | [] => .ok []
  | secret :: rest => do
      let users ← decodeEntries secret.name secret.entries
      let others ← decodeSecrets rest
      return users ++ others

def adminPrefix (lead : String) : String := lead ++ "-admin"

def matching (lead : String) (secrets : List Secret) : List Secret :=
  secrets.filter (·.hasPrefix lead)

structure Admin where
  secret : Secret
  own : String × String
  deriving DecidableEq, Repr

def findAdmin (lead : String) (secrets : List Secret) : Except Failure Admin :=
  match matching (adminPrefix lead) secrets with
  | [] => .error (.adminMissing (adminPrefix lead))
  | [secret] =>
      match secret.smallest? with
      | none => .error (.adminEmpty secret.name)
      | some own => .ok ⟨secret, own⟩
  | several => .error (.adminAmbiguous (adminPrefix lead) (several.map (·.name)))

def Admin.announcement (admin : Admin) : List Event :=
  let count := admin.secret.entries.pairs.length
  if 1 < count then
    [.message .warning
      [.plain s!"Admin secret {admin.secret.name} has {count} entries, using ",
        .highlighted admin.own.1]]
  else []

/-- The configuration that an admin and the secrets with the users give. The payload of the
broker's own user is decoded first. -/
def decodeAll (admin : Admin) (declared : List Secret) : Except Problem LoginConfig := do
  let password ← decodePayload admin.secret.name admin.own.1 admin.own.2
  let users ← decodeSecrets declared
  return { username := admin.own.1, password := password, users := users }

def collect (namespaceName : String) (secrets : List Secret) (lead : String) :
    Traced LoginConfig :=
  if secrets.isEmpty then .fail (.noCredentials namespaceName)
  else if (matching lead secrets).isEmpty then
    .fail (.noMatchingCredentials namespaceName lead)
  else
    match findAdmin lead secrets with
    | .error failure => .fail failure
    | .ok admin =>
        { events := admin.announcement
          outcome := decodeAll admin (matching lead secrets) }

def build (namespaceName : String) (secrets : List Secret) (lead : String) : Traced String := do
  return (← collect namespaceName secrets lead).render

end LoginConfig

end BrokerBootstrap
