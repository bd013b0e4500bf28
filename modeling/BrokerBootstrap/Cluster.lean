import BrokerBootstrap.Node.Basic
import BrokerBootstrap.Secret
import BrokerBootstrap.Traced

namespace BrokerBootstrap

inductive ApiError where
  | unreachable (reason : Option String)
  | rejected (status : Option Int) (reason : Option String)
  deriving DecidableEq, Repr

def ApiError.failure (request : Request) : ApiError → Failure
  | unreachable reason => .unreachable reason
  | rejected status reason => .rejected request status reason

namespace Request

def announcement : Request → String
  | node name => s!"Reading node {name}..."
  | secrets namespaceName => s!"Listing secrets in namespace {namespaceName}..."

def call : Request → Call
  | node name => .readNode name
  | secrets namespaceName => .listSecrets namespaceName

end Request

structure NodeStatus where
  addresses : Option (List NodeAddress)
  deriving DecidableEq, Repr

structure NodeAnswer where
  labels : Option (Mapping (Option String))
  status : Option NodeStatus
  deriving DecidableEq, Repr

def NodeAnswer.node (answer : NodeAnswer) (name : String) : Node where
  name := name
  labels := answer.labels.getD ∅
  addresses := (answer.status.bind (·.addresses)).getD []

structure SecretAnswer where
  name : String
  data : Option (Mapping String)
  deriving DecidableEq, Repr

def SecretAnswer.secret (answer : SecretAnswer) : Secret where
  name := answer.name
  entries := answer.data.getD ∅

structure Cluster where
  inClusterConfig : Except String Unit
  kubeConfig : Except String Unit
  nodeAnswer : String → Except ApiError NodeAnswer
  secretsAnswer : String → Except ApiError (List SecretAnswer)

namespace Cluster

def connect (cluster : Cluster) : Traced Unit := do
  Traced.record (.call .loadInClusterConfig)
  match cluster.inClusterConfig with
  | .ok () => return ()
  | .error _ =>
      Traced.record (.call .loadKubeConfig)
      match cluster.kubeConfig with
      | .ok () => Traced.say .info [.plain "Not running in a pod, using the local kubeconfig"]
      | .error reason => Traced.fail (.noClusterConfiguration reason)

def ask {α : Type} (request : Request) (answer : Except ApiError α) : Traced α := do
  Traced.record (.spinner request.announcement)
  Traced.record (.call request.call)
  Traced.ofExcept (answer.mapError (·.failure request))

def readNode (cluster : Cluster) (name : String) : Traced Node :=
  ask (.node name) ((cluster.nodeAnswer name).map (·.node name))

def listSecrets (cluster : Cluster) (namespaceName : String) : Traced (List Secret) :=
  ask (.secrets namespaceName)
    ((cluster.secretsAnswer namespaceName).map (·.map SecretAnswer.secret))

def close : Traced Unit := Traced.record (.call .close)

end Cluster

end BrokerBootstrap
