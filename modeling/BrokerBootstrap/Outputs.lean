import BrokerBootstrap.Cluster
import BrokerBootstrap.ExternalAddress
import BrokerBootstrap.InitFolder
import BrokerBootstrap.LoginConfig
import BrokerBootstrap.Rack
import BrokerBootstrap.Settings.PodNamespace

/-!
# Outputs

Each artifact is produced by asking the cluster, working out the content and writing it. A failure
on the way is reported, and the other artifacts are still attempted; a fault ends everything.
-/

namespace BrokerBootstrap.Outputs

def rackContent (cluster : Cluster) (settings : Settings) (key : String) : Traced String := do
  Traced.say .action [.plain "Resolving rack id from node label ", .highlighted key]
  let node ← cluster.readNode settings.nodeName
  let rack ← Traced.ofExcept (Rack.resolve node key)
  Traced.say .info [.plain s!"Rack: {key} = {rack}"]
  return rack

def addressContent (cluster : Cluster) (settings : Settings) : Traced String := do
  Traced.say .action [.plain "Resolving external addresses"]
  let node ← cluster.readNode settings.nodeName
  ExternalAddress.render node settings.addressType AddressType.all

def loginContent (cluster : Cluster) (settings : Settings) (namespaceName : String) :
    Traced String := do
  Traced.say .action
    [.plain "Processing secrets starting with ", .highlighted settings.secretsPrefix]
  let secrets ← cluster.listSecrets namespaceName
  LoginConfig.build namespaceName secrets settings.secretsPrefix

def refuse (text : String) : Job Bool := do
  Job.say .error [.plain text]
  return false

def produce (folder : Path) (artifact : Artifact) (content : Traced String) : Job Bool := do
  match ← Job.ofTraced content.attempt with
  | .error failure => refuse failure.message
  | .ok text => InitFolder.write folder artifact text

variable (cluster : Cluster) (settings : Settings) (folder : Path)

def writeRack : Job Bool :=
  match settings.rackTopologyKey with
  | none => refuse "No rack topology key configured"
  | some key => produce folder .rack (rackContent cluster settings key)

def writeExternalAddress : Job Bool :=
  produce folder .externalAddress (addressContent cluster settings)

def writeLogin (namespaceName : String) : Job Bool :=
  produce folder .jaas (loginContent cluster settings namespaceName)

def writePodLogin : Job Bool := do
  let namespaceName ← Job.reading settings.podNamespace
  if namespaceName = "" then
    refuse "Cannot determine the namespace, jaas.conf is not written"
  else writeLogin cluster settings folder namespaceName

def writeOne : Artifact → Job Bool
  | .rack => writeRack cluster settings folder
  | .externalAddress => writeExternalAddress cluster settings folder
  | .jaas => writePodLogin cluster settings folder

/-- Writes artifacts one after another, and returns those that were not written. -/
def writeEach : List Artifact → Job (List Artifact)
  | [] => return []
  | artifact :: rest => do
      let written ← writeOne cluster settings folder artifact
      let failed ← writeEach rest
      return if written then failed else artifact :: failed

/-- Writes all artifacts that are enabled. Returns whether each of them was written. -/
def writeEnabled : Job Bool := do
  match ← writeEach cluster settings folder settings.enabled with
  | [] => return true
  | failed => refuse ("Failed outputs: " ++ Text.commaSeparated (failed.map Artifact.title))

end BrokerBootstrap.Outputs
