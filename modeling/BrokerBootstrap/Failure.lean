import BrokerBootstrap.Artifact
import BrokerBootstrap.Encoding.Base64
import BrokerBootstrap.Encoding.Utf8
import BrokerBootstrap.FileSystem.Basic
import BrokerBootstrap.Settings.Variable
import BrokerBootstrap.Text.Listing

/-!
# Failures and faults

A failure is a reason why an output cannot be produced; it is reported, and the other outputs are
still attempted. A fault is a condition that no output reports: it ends the whole run. Both are
values that keep their causes, and their wording is made here.
-/

namespace BrokerBootstrap

inductive Request where
  | node (name : String)
  | secrets (namespaceName : String)
  deriving DecidableEq, Repr

def Request.text : Request → String
  | node name => s!"node {name}"
  | secrets namespaceName => s!"secrets in namespace {namespaceName}"

inductive PayloadError where
  | base64 (cause : Base64.DecodeError)
  | utf8 (cause : Utf8.DecodeError)
  deriving DecidableEq, Repr

def PayloadError.message : PayloadError → String
  | base64 cause => cause.message
  | utf8 cause => cause.message

inductive FailureKind where
  | any
  | settings
  | connection
  | api
  | addressNotFound
  | rackLabelMissing
  | credentials
  | noCredentials
  | noMatchingCredentials
  | adminMissing
  | adminAmbiguous
  | undecodable
  | unwritable
  deriving DecidableEq, Repr

namespace FailureKind

def all : List FailureKind :=
  [any, settings, connection, api, addressNotFound, rackLabelMissing, credentials, noCredentials,
    noMatchingCredentials, adminMissing, adminAmbiguous, undecodable, unwritable]

def lineage : FailureKind → List FailureKind
  | any => [any]
  | kind@noCredentials | kind@noMatchingCredentials | kind@adminMissing | kind@adminAmbiguous
  | kind@undecodable => [kind, credentials, any]
  | kind => [kind, any]

end FailureKind

inductive Failure where
  | missingVariable (name : Variable)
  | invalidVariable (name : Variable) (raw : String) (cause : InvalidValue)
  | noClusterConfiguration (reason : String)
  | unreachable (reason : Option String)
  | rejected (request : Request) (status : Option Int) (reason : Option String)
  | addressNotFound (wanted : Option AddressType) (node : String) (reported : List String)
  | rackLabelMissing (node key : String) (present : List String)
  | noCredentials (namespaceName : String)
  | noMatchingCredentials (namespaceName lead : String)
  | adminMissing (lead : String)
  | adminEmpty (secret : String)
  | adminAmbiguous (lead : String) (secrets : List String)
  | undecodable (secret entry : String) (cause : PayloadError)
  | unwritable (artifact : Artifact) (path : Path) (cause : OpenError)
  deriving DecidableEq, Repr

namespace Failure

def kind : Failure → FailureKind
  | missingVariable _ | invalidVariable .. => .settings
  | noClusterConfiguration _ | unreachable _ => .connection
  | rejected .. => .api
  | addressNotFound .. => .addressNotFound
  | rackLabelMissing .. => .rackLabelMissing
  | noCredentials _ => .noCredentials
  | noMatchingCredentials .. => .noMatchingCredentials
  | adminMissing _ | adminEmpty _ => .adminMissing
  | adminAmbiguous .. => .adminAmbiguous
  | undecodable .. => .undecodable
  | unwritable .. => .unwritable

def wantedText : Option AddressType → String
  | none => "of any type"
  | some t => s!"of type {t.name}"

def orNone (part : Option String) : String := part.getD "None"

def message : Failure → String
  | missingVariable name => s!"Missing required environment variable {name.name}"
  | invalidVariable name raw cause => s!"Invalid value '{raw}' for {name.name}: {cause.message}"
  | noClusterConfiguration reason => s!"Invalid or missing cluster configuration: {reason}"
  | unreachable reason => s!"Failed to connect to the Kubernetes cluster: {orNone reason}"
  | rejected request status reason =>
      s!"Failed to read {request.text}: {orNone (status.map toString)} {orNone reason}"
  | addressNotFound wanted node reported =>
      s!"No address {wantedText wanted} found on node {node} " ++
        s!"(address types found: {Text.listing reported})"
  | rackLabelMissing node key present =>
      s!"Node {node} doesn't have the label {key} for getting the rack id " ++
        s!"(labels found: {Text.listing present})"
  | noCredentials namespaceName => s!"No secrets found in namespace {namespaceName}"
  | noMatchingCredentials namespaceName lead =>
      s!"No secrets starting with '{lead}' found in namespace {namespaceName}"
  | adminMissing lead => s!"No admin secrets starting with '{lead}' found"
  | adminEmpty secret => s!"Admin secret {secret} has no entries"
  | adminAmbiguous lead secrets =>
      s!"More than one admin secret starting with '{lead}' found: {Text.commaSeparated secrets}"
  | undecodable secret entry cause =>
      s!"Entry '{entry}' of secret {secret} is not valid base64-encoded UTF-8: {cause.message}"
  | unwritable artifact path cause =>
      s!"Error writing {artifact.fileName} to {path.text}: {cause.message path}"

end Failure

inductive Fault where
  | nonAsciiPayload
  | nulInPath
  | untypedAddress (index : Nat)
  | notText (cause : Utf8.DecodeError)
  deriving DecidableEq, Repr

def Fault.message : Fault → String
  | nonAsciiPayload => Base64.DecodeError.nonAscii.message
  | nulInPath => "embedded null byte"
  | untypedAddress index => s!"sequence item {index}: expected str instance, NoneType found"
  | notText cause => cause.message

inductive Problem where
  | failure (failure : Failure)
  | fault (fault : Fault)
  deriving DecidableEq, Repr

def Problem.message : Problem → String
  | failure f => f.message
  | fault f => f.message

end BrokerBootstrap
