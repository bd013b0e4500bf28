import BrokerBootstrap.Outputs
import BrokerBootstrap.Proofs.InitFolder

/-!
# Drafts of outputs

Every output first works out what it comes to, its draft: a content, or the words in which it is
refused. Only then does it touch the files, and at most its own artifact.
-/

namespace BrokerBootstrap.Outputs

def reported (content : Traced String) : Traced (Except String String) where
  events := content.events
  outcome := match content.outcome with
    | .ok text => .ok (.ok text)
    | .error (.failure failure) => .ok (.error failure.message)
    | .error (.fault fault) => .error (.fault fault)

def draft (cluster : Cluster) (settings : Settings) (fs : FileSystem) :
    Artifact → Traced (Except String String)
  | .rack =>
      match settings.rackTopologyKey with
      | none => return .error "No rack topology key configured"
      | some key => reported (rackContent cluster settings key)
  | .externalAddress => reported (addressContent cluster settings)
  | .jaas => do
      let namespaceName ← settings.podNamespace fs
      if namespaceName = "" then
        return .error "Cannot determine the namespace, jaas.conf is not written"
      else reported (loginContent cluster settings namespaceName)

def finish (folder : Path) (artifact : Artifact) : Except String String → Job Bool
  | .error text => refuse text
  | .ok text => InitFolder.write folder artifact text

def output (folder : Path) (artifact : Artifact)
    (look : FileSystem → Traced (Except String String)) : Job Bool :=
  Job.reading look >>= finish folder artifact

variable {cluster : Cluster} {settings : Settings} {folder : Path} {artifact : Artifact}
  {fs : FileSystem}

theorem produce_eq (content : Traced String) :
    produce folder artifact content = output folder artifact fun _ => reported content := by
  funext fs
  obtain ⟨events, outcome⟩ := content
  cases outcome with
  | ok text => rfl
  | error problem => cases problem <;> rfl

theorem writeLogin_eq (namespaceName : String) :
    writeLogin cluster settings folder namespaceName =
      output folder .jaas fun _ => reported (loginContent cluster settings namespaceName) :=
  produce_eq _

theorem writeOne_eq (cluster : Cluster) (settings : Settings) (folder : Path)
    (artifact : Artifact) :
    writeOne cluster settings folder artifact =
      output folder artifact (draft cluster settings · artifact) := by
  cases artifact with
  | rack =>
      unfold writeOne writeRack draft
      cases settings.rackTopologyKey with
      | none => rfl
      | some key => exact produce_eq _
  | externalAddress => exact produce_eq _
  | jaas =>
      funext fs
      simp only [writeOne, writePodLogin, output, Job.bind_apply, Job.reading_apply, draft]
      cases found : (settings.podNamespace fs).outcome with
      | error problem => simp [Traced.bind_of_error found]
      | ok namespaceName =>
          by_cases blank : namespaceName = ""
          · simp [Traced.bind_of_ok found, blank, Traced.pure_eq, finish]
          · simp only [Traced.bind_of_ok found, blank, if_false, writeLogin_eq, output,
              Job.bind_apply, Job.reading_apply]
            cases (reported (loginContent cluster settings namespaceName)).outcome with
            | error problem => rfl
            | ok result => simp

theorem output_of_fault {look : FileSystem → Traced (Except String String)} {problem : Problem}
    (h : (look fs).outcome = .error problem) :
    output folder artifact look fs = (⟨(look fs).events, .error problem⟩, fs) :=
  @Job.bind_of_error _ _ (Job.reading look) _ _ h _

theorem output_of_refusal {look : FileSystem → Traced (Except String String)} {text : String}
    (h : (look fs).outcome = .ok (.error text)) :
    output folder artifact look fs =
      (⟨(look fs).events ++ [.message .error [.plain text]], .ok false⟩, fs) :=
  @Job.bind_of_ok _ _ (Job.reading look) _ _ h _

theorem output_of_content {look : FileSystem → Traced (Except String String)} {text : String}
    (h : (look fs).outcome = .ok (.ok text)) :
    output folder artifact look fs =
      (⟨(look fs).events ++ (InitFolder.write folder artifact text fs).1.events,
        (InitFolder.write folder artifact text fs).1.outcome⟩,
        (InitFolder.write folder artifact text fs).2) :=
  @Job.bind_of_ok _ _ (Job.reading look) _ _ h _

theorem output_outcome_eq_true_iff {look : FileSystem → Traced (Except String String)} :
    (output folder artifact look fs).1.outcome = .ok true ↔
      (∃ text, (look fs).outcome = .ok (.ok text)) ∧ InitFolder.Writable fs folder artifact := by
  cases h : (look fs).outcome with
  | error problem => simp [output_of_fault h]
  | ok result =>
      cases result with
      | error text => simp [output_of_refusal h]
      | ok text => simp [output_of_content h, InitFolder.write_outcome_eq_true_iff]

theorem writeEach_cons_of_error {problem : Problem} {rest : List Artifact}
    (h : (writeOne cluster settings folder artifact fs).1.outcome = .error problem) :
    writeEach cluster settings folder (artifact :: rest) fs =
      (⟨(writeOne cluster settings folder artifact fs).1.events, .error problem⟩,
        (writeOne cluster settings folder artifact fs).2) :=
  Job.bind_of_error h _

theorem writeEach_cons_of_ok {written : Bool} {rest : List Artifact}
    (h : (writeOne cluster settings folder artifact fs).1.outcome = .ok written) :
    let next := writeEach cluster settings folder rest
      (writeOne cluster settings folder artifact fs).2
    writeEach cluster settings folder (artifact :: rest) fs =
      (⟨(writeOne cluster settings folder artifact fs).1.events ++ next.1.events,
        next.1.outcome.map fun failed => if written then failed else artifact :: failed⟩,
        next.2) := by
  rw [writeEach, Job.bind_of_ok h, Job.bind_pure_apply]

def verdict : List Artifact → Traced Bool
  | [] => return true
  | failed => do
      Traced.say .error
        [.plain ("Failed outputs: " ++ Text.commaSeparated (failed.map Artifact.title))]
      return false

theorem writeEnabled_eq (cluster : Cluster) (settings : Settings) (folder : Path) :
    writeEnabled cluster settings folder =
      writeEach cluster settings folder settings.enabled >>= fun failed =>
        Job.ofTraced (verdict failed) := by
  refine congrArg (Job.bind _) (funext fun failed => ?_)
  cases failed <;> rfl

end BrokerBootstrap.Outputs
