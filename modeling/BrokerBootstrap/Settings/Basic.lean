import BrokerBootstrap.Failure

namespace BrokerBootstrap

structure Settings where
  nodeName : String
  initFolder : String := "/opt/kafka/init"
  rackTopologyKey : Option String := none
  externalAddress : Bool := false
  addressType : Option AddressType := none
  secretsPrefix : String := "fwss"
  /-- The flag for logins with credentials, as it was given. -/
  saslScramAndPlain : String := "false"
  namespaceFile : String := "/var/run/secrets/kubernetes.io/serviceaccount/namespace"
  deriving DecidableEq, Repr

namespace Settings

def lookup {α : Type} (env : Environment) (name : Variable)
    (read : String → Except InvalidValue α) : Except Failure (Option α) :=
  match env name.name with
  | none => .ok none
  | some raw =>
      match read raw with
      | .ok a => .ok (some a)
      | .error cause => .error (.invalidVariable name raw cause)

def require {α : Type} (env : Environment) (name : Variable)
    (read : String → Except InvalidValue α) : Except Failure α := do
  match ← lookup env name read with
  | some a => .ok a
  | none => .error (.missingVariable name)

def resolve (env : Environment) : Except Failure Settings := do
  let initFolder ← lookup env .initFolder Value.text
  let nodeName ← require env .nodeName Value.nonEmpty
  let rackTopologyKey ← lookup env .rackTopologyKey Value.optional
  let externalAddress ← lookup env .externalAddress Value.boolean
  let addressType ← lookup env .externalAddressType Value.addressType
  let secretsPrefix ← lookup env .secretsPrefix Value.text
  let saslScramAndPlain ← lookup env .saslScramAndPlain Value.text
  let base : Settings := { nodeName := nodeName }
  return {
    nodeName := nodeName
    initFolder := initFolder.getD base.initFolder
    rackTopologyKey := rackTopologyKey.join
    externalAddress := externalAddress.getD base.externalAddress
    addressType := addressType.join
    secretsPrefix := secretsPrefix.getD base.secretsPrefix
    saslScramAndPlain := saslScramAndPlain.getD base.saslScramAndPlain }

def usesCredentials (settings : Settings) : Bool := settings.saslScramAndPlain = "true"

def enables (settings : Settings) : Artifact → Bool
  | .rack => settings.rackTopologyKey.isSome
  | .externalAddress => settings.externalAddress
  | .jaas => settings.usesCredentials

def enabled (settings : Settings) : List Artifact := Artifact.all.filter settings.enables

def flagText (flag : Bool) : String := if flag then "true" else "false"

def summary (settings : Settings) : List (String × String) :=
  [("Node name", settings.nodeName),
    ("Rack topology key", settings.rackTopologyKey.getD "None"),
    ("External address", flagText settings.externalAddress),
    ("Init folder", settings.initFolder),
    ("Address type", (settings.addressType.map AddressType.name).getD "None"),
    ("FWSS secrets prefix", settings.secretsPrefix),
    ("SASL SCRAM and PLAIN", flagText settings.usesCredentials)]

end Settings

end BrokerBootstrap
