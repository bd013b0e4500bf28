import BrokerBootstrap.Node.AddressType

namespace BrokerBootstrap

abbrev Environment := String → Option String

inductive Variable where
  | initFolder
  | nodeName
  | rackTopologyKey
  | externalAddress
  | externalAddressType
  | secretsPrefix
  | saslScramAndPlain
  deriving DecidableEq, Repr

namespace Variable

/-- All variables, in the order in which they are looked at. -/
def all : List Variable :=
  [initFolder, nodeName, rackTopologyKey, externalAddress, externalAddressType, secretsPrefix,
    saslScramAndPlain]

def name : Variable → String
  | initFolder => "INIT_FOLDER"
  | nodeName => "NODE_NAME"
  | rackTopologyKey => "RACK_TOPOLOGY_KEY"
  | externalAddress => "EXTERNAL_ADDRESS"
  | externalAddressType => "EXTERNAL_ADDRESS_TYPE"
  | secretsPrefix => "FWSS_SECRETS_PREFIX"
  | saslScramAndPlain => "AUTHENTICATION_IS_SASL_SCRAM_AND_PLAIN"

def sortedNames : List String := (all.map name).mergeSort (fun a b => a ≤ b)

end Variable

inductive InvalidValue where
  | empty
  | notBoolean
  | unknownAddressType (text : String)
  deriving DecidableEq, Repr

def InvalidValue.message : InvalidValue → String
  | empty => "value must not be empty"
  | notBoolean => "expected 'true' or 'false'"
  | unknownAddressType text => s!"Unknown address type '{text}'"

namespace Value

def text (raw : String) : Except InvalidValue String := .ok raw

def nonEmpty (raw : String) : Except InvalidValue String :=
  if raw = "" then .error .empty else .ok raw

def optional (raw : String) : Except InvalidValue (Option String) :=
  .ok (if raw = "" then none else some raw)

def boolean (raw : String) : Except InvalidValue Bool :=
  if raw = "true" then .ok true
  else if raw = "false" then .ok false
  else .error .notBoolean

def addressType (raw : String) : Except InvalidValue (Option AddressType) :=
  if raw = "" then .ok none
  else match AddressType.ofText? raw with
    | some t => .ok (some t)
    | none => .error (.unknownAddressType raw)

end Value

end BrokerBootstrap
