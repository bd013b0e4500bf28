import BrokerBootstrap.Proofs.Outputs.History
import BrokerBootstrap.Proofs.Rack

/-!
# Contents that a cluster determines

`Determines` says which content an artifact has, from the answers of the cluster and the namespace
of the pod alone. Outputs one after another all succeed just when every artifact has a content and
can be written (`writeEach_outcome_eq_nil_iff`), and then each file holds it (`read_writeEach`).
The namespace file must not lie where artifacts are written, for it is read after some of them.
-/

namespace BrokerBootstrap

theorem Artifact.mem_all (artifact : Artifact) : artifact ∈ all := by
  cases artifact <;> decide

/-- The namespace file is found from the root, and no name on the way to it is an artifact's. -/
structure Settings.NamespaceApart (settings : Settings) : Prop where
  absolute : (Path.ofText settings.namespaceFile).root ≠ .relative
  unmet : ∀ artifact : Artifact,
    artifact.fileName ∉ (Path.ofText settings.namespaceFile).components

theorem Settings.namespaceApart_iff {settings : Settings} :
    settings.NamespaceApart ↔ (Path.ofText settings.namespaceFile).root ≠ .relative ∧
      ∀ artifact ∈ Artifact.all,
        artifact.fileName ∉ (Path.ofText settings.namespaceFile).components := by
  constructor
  · intro apart
    exact ⟨apart.absolute, fun artifact _ => apart.unmet artifact⟩
  · rintro ⟨absolute, unmet⟩
    exact ⟨absolute, fun artifact => unmet artifact artifact.mem_all⟩

instance (settings : Settings) : Decidable settings.NamespaceApart :=
  decidable_of_iff _ Settings.namespaceApart_iff.symm

namespace Outputs
open InitFolder FileSystem

variable {cluster : Cluster} {settings : Settings} {folder : Path} {artifact : Artifact}
  {fs : FileSystem} {content : String}

def Determines (cluster : Cluster) (settings : Settings) (fs : FileSystem) :
    Artifact → String → Prop
  | .rack, content => ∃ key answer, settings.rackTopologyKey = some key ∧
      cluster.nodeAnswer settings.nodeName = .ok answer ∧
      (answer.node settings.nodeName).label? key = some content
  | .externalAddress, content => ∃ answer, cluster.nodeAnswer settings.nodeName = .ok answer ∧
      (ExternalAddress.render (answer.node settings.nodeName) settings.addressType
        AddressType.all).outcome = .ok content
  | .jaas, content => ∃ namespaceName answers,
      (settings.podNamespace fs).outcome = .ok namespaceName ∧ namespaceName ≠ "" ∧
      cluster.secretsAnswer namespaceName = .ok answers ∧
      (LoginConfig.build namespaceName (answers.map SecretAnswer.secret)
        settings.secretsPrefix).outcome = .ok content

theorem ask_outcome {α : Type} (request : Request) (answer : Except ApiError α) :
    (Cluster.ask request answer).outcome =
      answer.mapError fun cause => .failure (cause.failure request) := by
  cases answer <;> rfl

theorem ask_bind_outcome_eq_ok {α β γ : Type} {request : Request} {answer : Except ApiError α}
    {read : α → β} {next : β → Traced γ} {result : γ} :
    (Cluster.ask request (answer.map read) >>= next).outcome = .ok result ↔
      ∃ a, answer = .ok a ∧ (next (read a)).outcome = .ok result := by
  rw [Traced.bind_outcome_eq_ok, ask_outcome]
  cases answer with
  | error cause => simp [Except.map, Except.mapError]
  | ok a => simp [Except.map, Except.mapError]

theorem reported_outcome_eq_ok {text : Traced String} :
    (reported text).outcome = .ok (.ok content) ↔ text.outcome = .ok content := by
  unfold reported
  cases text.outcome with
  | ok text => simp
  | error problem => cases problem <;> simp

theorem rackContent_outcome_eq_ok {key : String} :
    (rackContent cluster settings key).outcome = .ok content ↔
      ∃ answer, cluster.nodeAnswer settings.nodeName = .ok answer ∧
        (answer.node settings.nodeName).label? key = some content := by
  simp only [rackContent, Traced.say_bind, Cluster.readNode, ask_bind_outcome_eq_ok]
  simp only [Traced.bind_outcome_eq_ok, Traced.ofExcept_outcome_eq_ok, Rack.resolve_eq_ok,
    Traced.pure_eq, Except.ok.injEq, exists_eq_right]

theorem addressContent_outcome_eq_ok :
    (addressContent cluster settings).outcome = .ok content ↔
      Determines cluster settings fs .externalAddress content := by
  simp only [addressContent, Traced.say_bind, Cluster.readNode, ask_bind_outcome_eq_ok,
    Determines]

theorem loginContent_outcome_eq_ok {namespaceName : String} :
    (loginContent cluster settings namespaceName).outcome = .ok content ↔
      ∃ answers, cluster.secretsAnswer namespaceName = .ok answers ∧
        (LoginConfig.build namespaceName (answers.map SecretAnswer.secret)
          settings.secretsPrefix).outcome = .ok content := by
  simp only [loginContent, Traced.say_bind, Cluster.listSecrets, ask_bind_outcome_eq_ok]

theorem draft_outcome_eq_ok :
    (draft cluster settings fs artifact).outcome = .ok (.ok content) ↔
      Determines cluster settings fs artifact content := by
  cases artifact with
  | rack =>
      simp only [draft, Determines]
      cases settings.rackTopologyKey with
      | none => simp [Traced.pure_eq]
      | some key => simp [reported_outcome_eq_ok, rackContent_outcome_eq_ok]
  | externalAddress => exact reported_outcome_eq_ok.trans addressContent_outcome_eq_ok
  | jaas =>
      simp only [draft, Determines, Traced.bind_outcome_eq_ok]
      constructor
      · rintro ⟨namespaceName, found, built⟩
        split at built
        · cases built
        · rename_i named
          rw [reported_outcome_eq_ok, loginContent_outcome_eq_ok] at built
          obtain ⟨answers, answered, built⟩ := built
          exact ⟨namespaceName, answers, found, named, answered, built⟩
      · rintro ⟨namespaceName, answers, found, named, answered, built⟩
        refine ⟨namespaceName, found, ?_⟩
        rw [if_neg named, reported_outcome_eq_ok, loginContent_outcome_eq_ok]
        exact ⟨answers, answered, built⟩

theorem Determines.unique {other : String} (first : Determines cluster settings fs artifact content)
    (second : Determines cluster settings fs artifact other) : content = other := by
  rw [← draft_outcome_eq_ok] at first second
  rw [first] at second
  cases second
  rfl

theorem podNamespace_recordPut (apart : settings.NamespaceApart) (record : Record) :
    settings.podNamespace (record.put folder fs) = settings.podNamespace fs := by
  unfold Record.put
  cases target : fs.target (pathOf folder record.artifact) with
  | error e => rfl
  | ok location =>
      obtain ⟨-, above, -, rfl⟩ := locate_pathOf_eq_ok_iff.1 (target_eq_ok_iff.1 target).1
      unfold Settings.podNamespace
      simp only [read_put_of_not_mem _ apart.absolute (apart.unmet record.artifact)]

theorem podNamespace_replay (apart : settings.NamespaceApart) (journal : List Record) :
    settings.podNamespace (replay folder fs journal) = settings.podNamespace fs := by
  induction journal generalizing fs with
  | nil => rfl
  | cons record rest ih => exact ih.trans (podNamespace_recordPut apart record)

theorem determines_replay (apart : settings.NamespaceApart) (journal : List Record) :
    Determines cluster settings (replay folder fs journal) artifact content ↔
      Determines cluster settings fs artifact content := by
  cases artifact with
  | rack | externalAddress => exact Iff.rfl
  | jaas => simp only [Determines, podNamespace_replay apart journal]

def Producible (cluster : Cluster) (settings : Settings) (folder : Path) (fs : FileSystem)
    (artifact : Artifact) : Prop :=
  (∃ content, Determines cluster settings fs artifact content) ∧ Writable fs folder artifact

theorem producible_replay (apart : settings.NamespaceApart) (journal : List Record) :
    Producible cluster settings folder (replay folder fs journal) artifact ↔
      Producible cluster settings folder fs artifact := by
  unfold Producible
  rw [writable_replay]
  simp only [determines_replay apart]

theorem writeOne_outcome_eq_true_iff :
    (writeOne cluster settings folder artifact fs).1.outcome = .ok true ↔
      Producible cluster settings folder fs artifact := by
  rw [writeOne_eq, output_outcome_eq_true_iff]
  simp only [draft_outcome_eq_ok, Producible]

theorem writeEach_cons_outcome_eq_nil_iff {rest : List Artifact} :
    (writeEach cluster settings folder (artifact :: rest) fs).1.outcome = .ok [] ↔
      (writeOne cluster settings folder artifact fs).1.outcome = .ok true ∧
        (writeEach cluster settings folder rest
          (writeOne cluster settings folder artifact fs).2).1.outcome = .ok [] := by
  cases one : (writeOne cluster settings folder artifact fs).1.outcome with
  | error problem => simp [writeEach_cons_of_error one]
  | ok written =>
      rw [writeEach_cons_of_ok one]
      cases (writeEach cluster settings folder rest
        (writeOne cluster settings folder artifact fs).2).1.outcome with
      | error problem => simp [Except.map]
      | ok failed => cases written <;> simp [Except.map]

theorem writeEach_outcome_eq_nil_iff (apart : settings.NamespaceApart)
    (artifacts : List Artifact) (fs : FileSystem) :
    (writeEach cluster settings folder artifacts fs).1.outcome = .ok [] ↔
      ∀ artifact ∈ artifacts, Producible cluster settings folder fs artifact := by
  induction artifacts generalizing fs with
  | nil => simp [writeEach, Job.pure_apply]
  | cons artifact rest ih =>
      rw [writeEach_cons_outcome_eq_nil_iff, writeOne_outcome_eq_true_iff, ih, writeOne_files,
        List.forall_mem_cons]
      simp only [producible_replay apart]

theorem determines_of_mem_successesEach (apart : settings.NamespaceApart)
    {artifacts : List Artifact} {record : Record}
    (h : record ∈ successesEach cluster settings folder artifacts fs) :
    Determines cluster settings fs record.artifact record.content := by
  induction artifacts generalizing fs with
  | nil => cases h
  | cons artifact rest ih =>
      rw [successesEach, List.mem_append] at h
      rcases h with own | later
      · obtain ⟨rfl, found, -⟩ := mem_successes.1 own
        exact draft_outcome_eq_ok.1 found
      · split at later
        · have determined := ih later
          rwa [writeOne_files, determines_replay apart] at determined
        · cases later

theorem exists_mem_successesEach {artifacts : List Artifact}
    (h : (writeEach cluster settings folder artifacts fs).1.outcome = .ok [])
    (mem : artifact ∈ artifacts) :
    ∃ content, ⟨artifact, content⟩ ∈ successesEach cluster settings folder artifacts fs := by
  induction artifacts generalizing fs with
  | nil => cases mem
  | cons first rest ih =>
      obtain ⟨one, each⟩ := writeEach_cons_outcome_eq_nil_iff.1 h
      simp only [successesEach, one, List.mem_append]
      rcases List.mem_cons.1 mem with rfl | later
      · obtain ⟨⟨content, determined⟩, writable⟩ := writeOne_outcome_eq_true_iff.1 one
        exact ⟨content, .inl (mem_successes.2 ⟨rfl, draft_outcome_eq_ok.2 determined, writable⟩)⟩
      · obtain ⟨content, written⟩ := ih each later
        exact ⟨content, .inr written⟩

theorem read_writeEach (apart : settings.NamespaceApart) {artifacts : List Artifact}
    (h : (writeEach cluster settings folder artifacts fs).1.outcome = .ok [])
    (mem : artifact ∈ artifacts) (determined : Determines cluster settings fs artifact content) :
    (writeEach cluster settings folder artifacts fs).2.read (pathOf folder artifact) =
      .ok (Utf8.encode content) := by
  -- An artifact may be listed twice: what stands is the last content of those in the journal.
  obtain ⟨earlier, written⟩ := exists_mem_successesEach h mem
  obtain ⟨latest, last, written⟩ := exists_lastContent_eq_some written
  have same : content = latest :=
    determined.unique (determines_of_mem_successesEach apart written)
  apply read_of_lookup
  rw [writeEach_files, lookup_replay fun _ mem => writable_of_mem_successesEach mem, last, same]

theorem mem_enabled : artifact ∈ settings.enabled ↔ settings.enables artifact = true := by
  simp [Settings.enabled, artifact.mem_all]

theorem writeEnabled_outcome_eq_true_iff :
    (writeEnabled cluster settings folder fs).1.outcome = .ok true ↔
      (writeEach cluster settings folder settings.enabled fs).1.outcome = .ok [] := by
  rw [writeEnabled_eq, Job.bind_apply]
  cases (writeEach cluster settings folder settings.enabled fs).1.outcome with
  | error problem => simp
  | ok failed => cases failed <;> simp [verdict, Traced.pure_eq]

theorem writeEnabled_outcome_eq_true_iff_producible (apart : settings.NamespaceApart) :
    (writeEnabled cluster settings folder fs).1.outcome = .ok true ↔
      ∀ artifact, settings.enables artifact = true →
        Producible cluster settings folder fs artifact := by
  rw [writeEnabled_outcome_eq_true_iff, writeEach_outcome_eq_nil_iff apart]
  simp only [mem_enabled]

theorem read_writeEnabled (apart : settings.NamespaceApart)
    (h : (writeEnabled cluster settings folder fs).1.outcome = .ok true)
    (enabled : settings.enables artifact = true)
    (determined : Determines cluster settings fs artifact content) :
    (writeEnabled cluster settings folder fs).2.read (pathOf folder artifact) =
      .ok (Utf8.encode content) := by
  rw [writeEnabled_files]
  exact read_writeEach apart (writeEnabled_outcome_eq_true_iff.1 h) (mem_enabled.2 enabled)
    determined

end Outputs

end BrokerBootstrap
