import BrokerBootstrap.Proofs.Outputs.Attempts
import BrokerBootstrap.Proofs.Settings.PodNamespace

/-!
# Reports of outputs

What an output tells on its way are remarks. Whether its artifact was written is told by its last
line and by no other (`Traced.Concludes`). A run that writes all its outputs tells of no error, and
any other that returns tells last which outputs it did not write (`writeEnabled_reports`).
-/

namespace BrokerBootstrap

namespace Event

def isVerdict : Event → Bool
  | .message .success _ | .message .error _ => true
  | _ => false

def isRemark : Event → Bool
  | .message level _ => level ≠ .success ∧ level ≠ .error
  | _ => false

theorem not_isVerdict_of_isRemark {event : Event} (h : event.isRemark = true) :
    event.isVerdict = false := by
  unfold isVerdict
  split
  · cases h
  · cases h
  · rfl

end Event

theorem ExternalAddress.remarks_render (node : Node) (preferred : Option AddressType)
    (types : List AddressType) :
    (render node preferred types).Records fun event => event.isRemark := by
  refine Traced.Records.bind ?_ fun lines _ => Traced.records_of_events_eq_nil rfl
  unfold select
  split
  · unfold missingDefault
    split <;> exact Traced.records_of_events_eq_nil rfl
  · refine List.forall_mem_cons.2 ⟨rfl, ?_⟩
    intro event mem
    obtain ⟨type, -, rfl⟩ := List.mem_map.1 mem
    unfold reportType
    split <;> rfl

theorem LoginConfig.remarks_build (namespaceName : String) (secrets : List Secret)
    (lead : String) :
    (build namespaceName secrets lead).Records fun event => event.isRemark := by
  refine Traced.Records.bind ?_ fun config _ => Traced.records_of_events_eq_nil rfl
  unfold collect
  split
  · exact Traced.records_of_events_eq_nil rfl
  · split
    · exact Traced.records_of_events_eq_nil rfl
    · split
      · exact Traced.records_of_events_eq_nil rfl
      · rename_i admin _
        show ∀ event ∈ admin.announcement, event.isRemark
        unfold Admin.announcement
        dsimp only
        split
        · exact List.forall_mem_singleton.2 rfl
        · exact List.forall_mem_nil _

namespace Traced

def Undecided {α : Type} (t : Traced α) : Prop := t.Records fun event => event.isVerdict = false

/-- A computation that, if it returns, tells by its last line and by no other what it returns. -/
def Concludes (t : Traced Bool) : Prop :=
  ∀ written, t.outcome = .ok written → ∃ earlier parts,
    t.events = earlier ++ [.message (if written then .success else .error) parts] ∧
      ∀ event ∈ earlier, event.isVerdict = false

theorem Concludes.error_not_mem {t : Traced Bool} (h : t.Concludes) (written : t.outcome = .ok true)
    (parts : List Part) : .message .error parts ∉ t.events := by
  obtain ⟨earlier, parts', same, undecided⟩ := h true written
  rw [same, List.mem_append, not_or]
  constructor
  · intro mem
    cases undecided _ mem
  · simp

end Traced

namespace Outputs

variable {cluster : Cluster} {settings : Settings} {folder : Path} {artifact : Artifact}
  {fs : FileSystem}

theorem undecided_ask {α : Type} (request : Request) (answer : Except ApiError α) :
    (Cluster.ask request answer).Undecided := by
  refine Traced.Records.bind (Traced.records_record rfl) fun _ _ => ?_
  refine Traced.Records.bind (Traced.records_record rfl) fun _ _ => ?_
  exact Traced.records_of_events_eq_nil rfl

theorem undecided_rackContent (key : String) : (rackContent cluster settings key).Undecided := by
  refine Traced.Records.bind (Traced.records_record rfl) fun _ _ => ?_
  refine Traced.Records.bind (undecided_ask _ _) fun node _ => ?_
  refine Traced.Records.bind (Traced.records_of_events_eq_nil rfl) fun rack _ => ?_
  refine Traced.Records.bind (Traced.records_record rfl) fun _ _ => ?_
  exact Traced.records_of_events_eq_nil rfl

theorem undecided_addressContent : (addressContent cluster settings).Undecided := by
  refine Traced.Records.bind (Traced.records_record rfl) fun _ _ => ?_
  refine Traced.Records.bind (undecided_ask _ _) fun node _ => ?_
  have remarks := ExternalAddress.remarks_render node settings.addressType AddressType.all
  exact remarks.mono fun _ => Event.not_isVerdict_of_isRemark

theorem undecided_loginContent (namespaceName : String) :
    (loginContent cluster settings namespaceName).Undecided := by
  refine Traced.Records.bind (Traced.records_record rfl) fun _ _ => ?_
  refine Traced.Records.bind (undecided_ask _ _) fun secrets _ => ?_
  have remarks := LoginConfig.remarks_build namespaceName secrets settings.secretsPrefix
  exact remarks.mono fun _ => Event.not_isVerdict_of_isRemark

theorem undecided_draft_rack : (draft cluster settings fs .rack).Undecided := by
  unfold draft
  cases settings.rackTopologyKey with
  | none => exact Traced.records_of_events_eq_nil rfl
  | some key => exact undecided_rackContent key

/-- The reading of the namespace may tell of an error, but then there is nothing to write. -/
theorem undecided_draft {text : String}
    (h : (draft cluster settings fs artifact).outcome = .ok (.ok text)) :
    (draft cluster settings fs artifact).Undecided := by
  cases artifact with
  | rack => exact undecided_draft_rack
  | externalAddress => exact undecided_addressContent
  | jaas =>
      obtain ⟨name, found, drafted⟩ := Traced.bind_outcome_eq_ok.1 h
      have named : name ≠ "" := by
        rintro rfl
        cases drafted
      have silent := Settings.podNamespace_events_eq_nil found named
      refine Traced.Records.bind (Traced.records_of_events_eq_nil silent) fun name' _ => ?_
      split
      · exact Traced.records_of_events_eq_nil rfl
      · exact undecided_loginContent name'

theorem concludes_write (content : String) :
    (InitFolder.write folder artifact content fs).1.Concludes := by
  intro written returns
  rcases InitFolder.write_traced_cases folder artifact content fs with
    fault | ⟨text, refused⟩ | ⟨text, stored⟩
  · rw [fault] at returns
    cases returns
  · rw [refused] at returns ⊢
    cases returns
    exact ⟨[], _, rfl, List.forall_mem_nil _⟩
  · rw [stored] at returns ⊢
    cases returns
    exact ⟨[], _, rfl, List.forall_mem_nil _⟩

theorem concludes_output {look : FileSystem → Traced (Except String String)}
    (undecided : (look fs).Undecided) : (output folder artifact look fs).1.Concludes := by
  intro written returns
  cases h : (look fs).outcome with
  | error problem =>
      rw [output_of_fault h] at returns
      cases returns
  | ok result =>
      cases result with
      | error text =>
          rw [output_of_refusal h] at returns ⊢
          cases returns
          exact ⟨(look fs).events, _, rfl, undecided⟩
      | ok text =>
          rw [output_of_content h] at returns ⊢
          obtain ⟨earlier, parts, same, none⟩ := concludes_write text written returns
          refine ⟨(look fs).events ++ earlier, parts, ?_, ?_⟩
          · rw [List.append_assoc, ← same]
          · exact List.forall_mem_append.2 ⟨undecided, none⟩

theorem error_not_mem_writeOne
    (h : (writeOne cluster settings folder artifact fs).1.outcome = .ok true) (parts : List Part) :
    .message .error parts ∉ (writeOne cluster settings folder artifact fs).1.events := by
  rw [writeOne_eq] at h ⊢
  obtain ⟨⟨text, drafted⟩, -⟩ := output_outcome_eq_true_iff.1 h
  exact (concludes_output (undecided_draft drafted)).error_not_mem h parts

theorem error_not_mem_writeEach {artifacts : List Artifact}
    (h : (writeEach cluster settings folder artifacts fs).1.outcome = .ok [])
    (parts : List Part) :
    .message .error parts ∉ (writeEach cluster settings folder artifacts fs).1.events := by
  rw [writeEach_events, List.mem_flatMap]
  rintro ⟨attempt, attempted, told⟩
  obtain ⟨written, result⟩ := exists_result_of_writeEach_eq_ok h attempted
  cases written with
  | true => exact error_not_mem_writeOne result parts told
  | false =>
      have refused := (attempts_of_writeEach_eq_ok h).2
      have listed : attempt ∈ (attempts cluster settings folder artifacts fs).filter fun attempt =>
          (attempt.result cluster settings folder).outcome = .ok false :=
        List.mem_filter.2 ⟨attempted, decide_eq_true result⟩
      rw [List.map_eq_nil_iff.1 refused.symm] at listed
      cases listed

theorem writeEnabled_reports (cluster : Cluster) (settings : Settings) (folder : Path)
    (fs : FileSystem) :
    (writeRack cluster settings folder fs).1.Concludes ∧
    (writeExternalAddress cluster settings folder fs).1.Concludes ∧
    (∀ namespaceName, (writeLogin cluster settings folder namespaceName fs).1.Concludes) ∧
    let run := (writeEnabled cluster settings folder fs).1
    let tried := attempts cluster settings folder settings.enabled fs
    let failed := tried.filter fun attempt =>
      (attempt.result cluster settings folder).outcome = .ok false
    (run.outcome = .ok true → ∀ parts, .message .error parts ∉ run.events) ∧
    (run.outcome = .ok false → tried.map (·.artifact) = settings.enabled ∧
      ∃ earlier, run.events = earlier ++ [.message .error [.plain ("Failed outputs: " ++
        String.intercalate ", " (failed.map fun attempt => attempt.artifact.title))]]) := by
  refine ⟨?_, ?_, ?_, ?_, ?_⟩
  · show (writeOne cluster settings folder .rack fs).1.Concludes
    rw [writeOne_eq]
    exact concludes_output undecided_draft_rack
  · show (writeOne cluster settings folder .externalAddress fs).1.Concludes
    rw [writeOne_eq]
    exact concludes_output undecided_addressContent
  · intro namespaceName
    rw [writeLogin_eq]
    exact concludes_output (undecided_loginContent namespaceName)
  · intro returns parts
    obtain ⟨failed, each, all⟩ := exists_failed_of_writeEnabled_eq_ok returns
    obtain rfl : failed = [] := List.isEmpty_iff.1 all.symm
    have told : (writeEnabled cluster settings folder fs).1.events =
        (writeEach cluster settings folder settings.enabled fs).1.events := by
      rw [writeEnabled_of_ok each]
      exact List.append_nil _
    rw [told]
    exact error_not_mem_writeEach each parts
  · intro returns
    obtain ⟨failed, each, some⟩ := exists_failed_of_writeEnabled_eq_ok returns
    obtain ⟨all, refused⟩ := attempts_of_writeEach_eq_ok each
    refine ⟨all, (writeEach cluster settings folder settings.enabled fs).1.events, ?_⟩
    have titles : failed.map Artifact.title = (List.filter (fun attempt =>
        (attempt.result cluster settings folder).outcome = .ok false)
          (attempts cluster settings folder settings.enabled fs)).map
            fun attempt => attempt.artifact.title := by
      rw [refused, List.map_map]
      rfl
    rw [writeEnabled_of_ok each, verdict_events, ← some, ← titles]
    rfl

/-- A directory is in the way of the rack, and the pod has no namespace file. -/
theorem writeEnabled_reports_two_failures :
    let cluster : Cluster := ⟨.ok (), .ok (),
      fun _ => .ok ⟨some [("zone", some "r1")], some ⟨some [⟨some "Hostname", some "h1"⟩]⟩⟩,
      fun _ => .ok []⟩
    let settings : Settings :=
      { nodeName := "n", rackTopologyKey := some "zone", externalAddress := true,
        saslScramAndPlain := "true", namespaceFile := "/namespace" }
    let folder : Path := ⟨.single, []⟩
    let fs := FileSystem.put ∅ ["rack.id"] .directory
    let run := (writeEnabled cluster settings folder fs).1
    run.outcome = .ok false ∧ ∃ earlier, run.events =
      earlier ++ [.message .error [.plain "Failed outputs: rack, jaas"]] := by
  intro cluster settings folder fs run
  have returns : run.outcome = .ok false := by decide +kernel
  obtain ⟨-, -, -, -, fails⟩ := writeEnabled_reports cluster settings folder fs
  obtain ⟨-, earlier, told⟩ := fails returns
  have titles : "Failed outputs: " ++ String.intercalate ", "
      (((attempts cluster settings folder settings.enabled fs).filter fun attempt =>
        (attempt.result cluster settings folder).outcome = .ok false).map
          fun attempt => attempt.artifact.title) = "Failed outputs: rack, jaas" := by
    decide +kernel
  exact ⟨returns, earlier, titles ▸ told⟩

end Outputs

end BrokerBootstrap
