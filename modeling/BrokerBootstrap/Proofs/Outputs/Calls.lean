import BrokerBootstrap.Proofs.Outputs.Reports
import Mathlib.Data.List.Infix

namespace BrokerBootstrap

def Event.call? : Event → Option Call
  | .call made => some made
  | _ => none

def calls (events : List Event) : List Call := events.filterMap Event.call?

theorem calls_append (first second : List Event) :
    calls (first ++ second) = calls first ++ calls second :=
  List.filterMap_append

theorem calls_cons (event : Event) (rest : List Event) :
    calls (event :: rest) = event.call?.toList ++ calls rest := by
  unfold calls
  cases h : event.call? <;> simp [h]

namespace Traced

variable {α β : Type}

def Quiet (t : Traced α) : Prop := calls t.events = []

theorem calls_bind {t : Traced α} {f : α → Traced β} (quiet : ∀ a, (f a).Quiet) :
    calls (t >>= f).events = calls t.events := by
  cases h : t.outcome with
  | error problem => rw [bind_of_error h]
  | ok a =>
      rw [bind_of_ok h, calls_append, quiet a]
      exact List.append_nil _

theorem Quiet.bind {t : Traced α} {f : α → Traced β} (first : t.Quiet)
    (next : ∀ a, (f a).Quiet) : (t >>= f).Quiet :=
  (calls_bind next).trans first

theorem quiet_pure (a : α) : (pure a : Traced α).Quiet := rfl

theorem quiet_ofExcept (result : Except Failure α) : (ofExcept result).Quiet := rfl

theorem quiet_say (level : Level) (parts : List Part) : (say level parts).Quiet := rfl

theorem quiet_of_remarks {t : Traced α} (h : t.Records fun event => event.isRemark) :
    t.Quiet := by
  apply List.filterMap_eq_nil_iff.2
  intro event mem
  have remark := h event mem
  cases event with
  | message level parts => rfl
  | panel | spinner | call => cases remark

end Traced

theorem Job.calls_bind {α β : Type} {job : Job α} {next : α → Job β}
    (quiet : ∀ a fs, (next a fs).1.Quiet) (fs : FileSystem) :
    calls ((job >>= next) fs).1.events = calls (job fs).1.events := by
  cases h : (job fs).1.outcome with
  | error problem => rw [bind_of_error h]
  | ok a =>
      rw [bind_of_ok h, calls_append, quiet a]
      exact List.append_nil _

theorem Settings.quiet_podNamespace (settings : Settings) (fs : FileSystem) :
    (settings.podNamespace fs).Quiet := by
  unfold podNamespace
  dsimp only
  split
  · rfl
  · split
    · rfl
    · split <;> rfl

theorem InitFolder.quiet_write (folder : Path) (artifact : Artifact) (content : String)
    (fs : FileSystem) : (write folder artifact content fs).1.Quiet := by
  rcases write_traced_cases folder artifact content fs with h | ⟨text, h⟩ | ⟨text, h⟩ <;> rw [h] <;>
    rfl

namespace Outputs

variable {cluster : Cluster} {settings : Settings} {folder : Path} {artifact : Artifact}
  {fs : FileSystem}

def requests (settings : Settings) (found : Option String) : Artifact → List Call
  | .rack => if settings.rackTopologyKey.isSome then [.readNode settings.nodeName] else []
  | .externalAddress => [.readNode settings.nodeName]
  | .jaas => found.toList.map .listSecrets

theorem calls_ask {α : Type} (request : Request) (answer : Except ApiError α) :
    calls (Cluster.ask request answer).events = [request.call] :=
  rfl

theorem calls_rackContent (key : String) :
    calls (rackContent cluster settings key).events = [.readNode settings.nodeName] := by
  rw [rackContent, Traced.say_bind, calls_cons]
  refine (Traced.calls_bind fun node => ?_).trans (calls_ask (.node settings.nodeName) _)
  apply (Traced.quiet_ofExcept (Rack.resolve node key)).bind
  intro rack
  exact (Traced.quiet_say _ _).bind fun _ => Traced.quiet_pure rack

theorem calls_addressContent :
    calls (addressContent cluster settings).events = [.readNode settings.nodeName] := by
  rw [addressContent, Traced.say_bind, calls_cons]
  refine (Traced.calls_bind fun node => ?_).trans (calls_ask (.node settings.nodeName) _)
  exact Traced.quiet_of_remarks (ExternalAddress.remarks_render node _ _)

theorem calls_loginContent (namespaceName : String) :
    calls (loginContent cluster settings namespaceName).events =
      [.listSecrets namespaceName] := by
  rw [loginContent, Traced.say_bind, calls_cons]
  refine (Traced.calls_bind fun secrets => ?_).trans (calls_ask (.secrets namespaceName) _)
  exact Traced.quiet_of_remarks (LoginConfig.remarks_build namespaceName secrets _)

theorem calls_reported (content : Traced String) :
    calls (reported content).events = calls content.events :=
  rfl

theorem calls_draft (artifact : Artifact) :
    calls (draft cluster settings fs artifact).events =
      requests settings (settings.namespaceFound fs) artifact := by
  cases artifact with
  | rack =>
      unfold draft requests
      cases settings.rackTopologyKey with
      | none => rfl
      | some key =>
          rw [calls_reported, calls_rackContent]
          rfl
  | externalAddress =>
      show calls (reported (addressContent cluster settings)).events = _
      rw [calls_reported, calls_addressContent]
      rfl
  | jaas =>
      unfold draft requests Settings.namespaceFound
      cases h : (settings.podNamespace fs).outcome with
      | error problem =>
          rw [Traced.bind_of_error h, settings.quiet_podNamespace fs]
          rfl
      | ok name =>
          rw [Traced.bind_of_ok h, calls_append, settings.quiet_podNamespace fs, List.nil_append]
          by_cases empty : name = ""
          · simp only [if_pos empty]
            rfl
          · simp only [if_neg empty]
            rw [calls_reported, calls_loginContent]
            rfl

theorem calls_output (look : FileSystem → Traced (Except String String)) :
    calls (output folder artifact look fs).1.events = calls (look fs).events := by
  cases h : (look fs).outcome with
  | error problem => rw [output_of_fault h]
  | ok result =>
      cases result with
      | error text =>
          rw [output_of_refusal h, calls_append]
          exact List.append_nil _
      | ok text =>
          rw [output_of_content h, calls_append, InitFolder.quiet_write]
          exact List.append_nil _

theorem calls_writeOne (artifact : Artifact) (fs : FileSystem) :
    calls (writeOne cluster settings folder artifact fs).1.events =
      requests settings (settings.namespaceFound fs) artifact := by
  rw [writeOne_eq, calls_output]
  exact calls_draft artifact

def plannedCalls (settings : Settings) (found : Option String) : List Call :=
  (if settings.rackTopologyKey.isSome then [.readNode settings.nodeName] else []) ++
    (if settings.externalAddress then [.readNode settings.nodeName] else []) ++
    (if settings.saslScramAndPlain = "true" then found.toList.map .listSecrets else [])

theorem flatMap_requests (settings : Settings) (found : Option String) :
    settings.enabled.flatMap (requests settings found) = plannedCalls settings found := by
  have login : settings.usesCredentials = decide (settings.saslScramAndPlain = "true") := rfl
  cases rack : settings.rackTopologyKey.isSome <;>
    cases addresses : settings.externalAddress <;>
    by_cases credentials : settings.saslScramAndPlain = "true" <;>
    simp [Settings.enabled, Artifact.all, Settings.enables, requests, plannedCalls, login, rack,
      addresses, credentials]

/-- The namespace that a run finds. The login configuration is attempted once at most. -/
theorem exists_namespaceFound (cluster : Cluster) (settings : Settings) (folder : Path)
    (fs : FileSystem) :
    ∃ found, (∀ attempt ∈ attempts cluster settings folder settings.enabled fs,
        attempt.artifact = .jaas → settings.namespaceFound attempt.before = found) ∧
      ∀ name ∈ found, name ≠ "" ∧ Text.Stripped name ∧ '\r' ∉ name.toList := by
  by_cases tried : ∃ attempt ∈ attempts cluster settings folder settings.enabled fs,
      attempt.artifact = .jaas
  · obtain ⟨login, attempted, own⟩ := tried
    refine ⟨settings.namespaceFound login.before, ?_, fun name found =>
      Settings.namespaceFound_eq_some found⟩
    intro other attempted' own'
    have same : other = login :=
      eq_of_mem_attempts (enabled_nodup settings) attempted' attempted (own'.trans own.symm)
    rw [same]
  · refine ⟨none, ?_, fun name found => nomatch found⟩
    intro other attempted own
    exact absurd ⟨other, attempted, own⟩ tried

theorem quiet_verdict (failed : List Artifact) : (verdict failed).Quiet := by
  cases failed <;> rfl

theorem calls_writeEnabled_eq_writeEach :
    calls (writeEnabled cluster settings folder fs).1.events =
      calls (writeEach cluster settings folder settings.enabled fs).1.events := by
  rw [writeEnabled_eq]
  exact Job.calls_bind (fun failed _ => quiet_verdict failed) fs

section

variable {found : Option String}
  (finds : ∀ attempt ∈ attempts cluster settings folder settings.enabled fs,
    attempt.artifact = .jaas → settings.namespaceFound attempt.before = found)

include finds

theorem calls_writeEnabled :
    calls (writeEnabled cluster settings folder fs).1.events =
      ((attempts cluster settings folder settings.enabled fs).map (·.artifact)).flatMap
        (requests settings found) := by
  rw [calls_writeEnabled_eq_writeEach, writeEach_events, calls, List.filterMap_flatMap,
    List.flatMap_map]
  apply List.flatMap_congr
  intro attempt attempted
  refine (calls_writeOne attempt.artifact attempt.before).trans ?_
  cases own : attempt.artifact with
  | rack | externalAddress => simp only [requests]
  | jaas => rw [finds attempt attempted own]

theorem calls_writeEnabled_isPrefix :
    calls (writeEnabled cluster settings folder fs).1.events <+: plannedCalls settings found := by
  rw [calls_writeEnabled finds, ← flatMap_requests]
  exact List.IsPrefix.flatMap (attempts_artifacts_isPrefix settings.enabled fs)
    (requests settings found)

theorem calls_writeEnabled_eq {all : Bool}
    (returns : (writeEnabled cluster settings folder fs).1.outcome = .ok all) :
    calls (writeEnabled cluster settings folder fs).1.events = plannedCalls settings found := by
  obtain ⟨failed, each, -⟩ := exists_failed_of_writeEnabled_eq_ok returns
  rw [calls_writeEnabled finds, (attempts_of_writeEach_eq_ok each).1]
  exact flatMap_requests settings found

end

end Outputs

end BrokerBootstrap
