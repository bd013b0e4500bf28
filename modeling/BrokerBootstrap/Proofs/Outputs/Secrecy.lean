import BrokerBootstrap.Proofs.LoginConfig.Secrecy
import BrokerBootstrap.Proofs.Outputs.Draft

/-!
# What a run shows of payloads

Two clusters that are alike, in that only payloads differ and only such as encode some value, are
told apart by one output alone, the login configuration. It comes last, so the runs part with its
write: `writeEnabled_conceals` says that they show the length of the content and nothing more.
-/

namespace BrokerBootstrap

structure Cluster.Alike (first second : Cluster) : Prop where
  nodes : first.nodeAnswer = second.nodeAnswer
  secrets : ∀ namespaceName, BrokerBootstrap.Alike
    (fun xs ys => List.Forall₂ Secret.Alike (xs.map SecretAnswer.secret)
      (ys.map SecretAnswer.secret))
    (first.secretsAnswer namespaceName) (second.secretsAnswer namespaceName)

namespace Outputs
open InitFolder FileSystem

variable {α β : Type} {folder : Path}

def loginNote (folder : Path) (content : String) : Event :=
  .message .success [.plain ("Information of length " ++ toString content.length ++
    " written successfully to file " ++ (pathOf folder .jaas).text)]

/-- Two results that are the same, or that part in one write of the login configuration: in its
content, and in the length that is told of it. -/
inductive Conceals (folder : Path) : Traced α × FileSystem → Traced α × FileSystem → Prop
  | same (result : Traced α × FileSystem) : Conceals folder result result
  | content {location : Location} (first second : String) (before after : List Event)
      (outcome : Except Problem α) (files : FileSystem)
      (place : files.target (pathOf folder .jaas) = .ok location) :
      Conceals folder
        (⟨before ++ loginNote folder first :: after, outcome⟩,
          files.put location (.file (Utf8.encode first)))
        (⟨before ++ loginNote folder second :: after, outcome⟩,
          files.put location (.file (Utf8.encode second)))

theorem Conceals.prepend {first second : Traced α × FileSystem} (earlier : List Event)
    (h : Conceals folder first second) :
    Conceals folder (⟨earlier ++ first.1.events, first.1.outcome⟩, first.2)
      (⟨earlier ++ second.1.events, second.1.outcome⟩, second.2) := by
  cases h with
  | same => exact .same _
  | content first second before after outcome files place =>
      simp only [← List.append_assoc]
      exact .content first second (earlier ++ before) after outcome files place

theorem Conceals.after (job : Job α) {next other : α → Job β}
    (h : ∀ a fs, Conceals folder (next a fs) (other a fs)) (fs : FileSystem) :
    Conceals folder ((job >>= next) fs) ((job >>= other) fs) := by
  rw [Job.bind_apply, Job.bind_apply]
  cases (job fs).1.outcome with
  | error problem => exact .same _
  | ok a => exact (h a _).prepend _

theorem Conceals.before {job other : Job α} (last : α → Traced β) {fs : FileSystem}
    (h : Conceals folder (job fs) (other fs)) :
    Conceals folder ((job >>= fun a => Job.ofTraced (last a)) fs)
      ((other >>= fun a => Job.ofTraced (last a)) fs) := by
  rw [Job.bind_apply, Job.bind_apply]
  generalize job fs = result at h ⊢
  generalize other fs = result' at h ⊢
  cases h with
  | same => exact .same _
  | content first second before after outcome files place =>
      cases outcome with
      | error problem => exact .content first second before after (.error problem) files place
      | ok a =>
          simp only [List.append_assoc, List.cons_append, Job.ofTraced_apply]
          exact .content first second before (after ++ (last a).events) _ files place

theorem write_conceals (first second : String) (fs : FileSystem) :
    Conceals folder (InitFolder.write folder .jaas first fs)
      (InitFolder.write folder .jaas second fs) := by
  cases clean : (pathOf folder .jaas).hasNul with
  | true =>
      rw [write_of_nul clean, write_of_nul clean]
      exact .same _
  | false =>
      cases place : fs.target (pathOf folder .jaas) with
      | error cause =>
          rw [write_of_error clean place, write_of_error clean place]
          exact .same _
      | ok location =>
          rw [write_of_ok clean place, write_of_ok clean place]
          exact .content first second [] [] _ fs place

theorem reported_alike {content other : Traced String}
    (h : Traced.Alike (fun _ _ => True) content other) :
    Traced.Alike (Alike fun _ _ => True) (reported content) (reported other) := by
  obtain ⟨events, outcome⟩ := content
  obtain ⟨events', outcome'⟩ := other
  obtain ⟨sameEvents, ends⟩ := h
  refine ⟨sameEvents, ?_⟩
  cases ends with
  | ok => exact .ok (.ok trivial)
  | error problem =>
      cases problem with
      | failure failure => exact .ok (.error _)
      | fault fault => exact .error _

theorem output_conceals {look other : FileSystem → Traced (Except String String)}
    {fs : FileSystem} (h : Traced.Alike (Alike fun _ _ => True) (look fs) (other fs)) :
    Conceals folder (output folder .jaas look fs) (output folder .jaas other fs) := by
  unfold output
  rw [Job.bind_apply, Job.bind_apply, Job.reading_apply, Job.reading_apply]
  generalize look fs = seen at h ⊢
  generalize other fs = seen' at h ⊢
  obtain ⟨events, outcome⟩ := seen
  obtain ⟨events', outcome'⟩ := seen'
  obtain ⟨sameEvents, ends⟩ := h
  cases sameEvents
  cases ends with
  | error problem => exact .same _
  | ok results =>
      cases results with
      | error text => exact .same _
      | ok => exact (write_conceals _ _ fs).prepend events

variable {first second : Cluster} {settings : Settings}

theorem ask_alike {γ δ : Type} {R : γ → δ → Prop} {answer : Except ApiError γ}
    {answer' : Except ApiError δ} (h : Alike R answer answer') (request : Request) :
    Traced.Alike R (Cluster.ask request answer) (Cluster.ask request answer') := by
  cases h with
  | ok related => exact ⟨rfl, .ok related⟩
  | error cause => exact ⟨rfl, .error _⟩

theorem listSecrets_alike (h : first.Alike second) (namespaceName : String) :
    Traced.Alike (List.Forall₂ Secret.Alike) (first.listSecrets namespaceName)
      (second.listSecrets namespaceName) :=
  ask_alike (h.secrets namespaceName).map (.secrets namespaceName)

theorem loginContent_alike (h : first.Alike second) (settings : Settings)
    (namespaceName : String) :
    Traced.Alike (fun _ _ => True) (loginContent first settings namespaceName)
      (loginContent second settings namespaceName) := by
  have content := (listSecrets_alike h namespaceName).bind fun _ _ secrets =>
    LoginConfig.build_alike namespaceName settings.secretsPrefix secrets
  exact ⟨congrArg (_ :: ·) content.events, content.outcome⟩

theorem draft_jaas_alike (h : first.Alike second) (settings : Settings) (fs : FileSystem) :
    Traced.Alike (Alike fun _ _ => True) (draft first settings fs .jaas)
      (draft second settings fs .jaas) := by
  refine (Traced.Alike.refl (settings.podNamespace fs)).bind ?_
  rintro namespaceName _ rfl
  split
  · exact .pure (.error _)
  · exact reported_alike (loginContent_alike h settings namespaceName)

theorem draft_congr (h : first.Alike second) (settings : Settings) (fs : FileSystem)
    {artifact : Artifact} (other : artifact ≠ .jaas) :
    draft first settings fs artifact = draft second settings fs artifact := by
  cases artifact with
  | jaas => exact absurd rfl other
  | rack | externalAddress =>
      simp only [draft, rackContent, addressContent, Cluster.readNode, h.nodes]

theorem writeOne_congr (h : first.Alike second) (settings : Settings) (folder : Path)
    {artifact : Artifact} (other : artifact ≠ .jaas) :
    writeOne first settings folder artifact = writeOne second settings folder artifact := by
  rw [writeOne_eq, writeOne_eq, funext fun fs => draft_congr h settings fs other]

theorem writeOne_jaas_conceals (h : first.Alike second) (fs : FileSystem) :
    Conceals folder (writeOne first settings folder .jaas fs)
      (writeOne second settings folder .jaas fs) := by
  rw [writeOne_eq, writeOne_eq]
  exact output_conceals (draft_jaas_alike h settings fs)

theorem writeEach_conceals (h : first.Alike second) {others : List Artifact}
    (apart : .jaas ∉ others) {last : List Artifact} (ends : last = [] ∨ last = [.jaas])
    (fs : FileSystem) :
    Conceals folder (writeEach first settings folder (others ++ last) fs)
      (writeEach second settings folder (others ++ last) fs) := by
  induction others generalizing fs with
  | nil =>
      rcases ends with rfl | rfl
      · exact .same _
      · exact (writeOne_jaas_conceals h fs).before _
  | cons artifact rest ih =>
      -- Until the login configuration is written, the runs are one and the same.
      rw [List.mem_cons, not_or] at apart
      have sameFirst := writeOne_congr h settings folder (Ne.symm apart.1)
      rw [List.cons_append, writeEach, writeEach, sameFirst]
      exact .after _ (fun written after => (ih apart.2 after).before _) fs

/-- Runs on clusters that are alike record the same events and end in the same way, except that a
login configuration that was written shows its own length. The files are the same except for its
content. -/
theorem writeEnabled_conceals (settings : Settings) (folder : Path) (fs : FileSystem)
    (h : first.Alike second) :
    Conceals folder (writeEnabled first settings folder fs)
      (writeEnabled second settings folder fs) := by
  have apart : .jaas ∉ [Artifact.rack, .externalAddress].filter settings.enables := by simp
  have ends : [Artifact.jaas].filter settings.enables = [] ∨
      [Artifact.jaas].filter settings.enables = [.jaas] := by
    cases uses : settings.enables .jaas <;> simp [uses]
  have parts : settings.enabled = [Artifact.rack, .externalAddress].filter settings.enables ++
      [Artifact.jaas].filter settings.enables := by
    rw [← List.filter_append]
    rfl
  rw [writeEnabled_eq, writeEnabled_eq, parts]
  exact (writeEach_conceals h apart ends fs).before verdict

theorem writeEnabled_conceals_two_passwords :
    let cluster (payload : String) : Cluster :=
      ⟨.ok (), .ok (), fun _ => .error (.unreachable none),
        fun _ => .ok [⟨"fwss-admin", some [("a", payload)]⟩]⟩
    let settings : Settings :=
      { nodeName := "n", saslScramAndPlain := "true", namespaceFile := "/namespace" }
    let folder : Path := ⟨.single, []⟩
    let fs := FileSystem.put ∅ ["namespace"] (.file [107])
    (cluster "cA==").Alike (cluster "cXI=") ∧
      (writeEnabled (cluster "cA==") settings folder fs).1.outcome = .ok true ∧
      Conceals folder (writeEnabled (cluster "cA==") settings folder fs)
        (writeEnabled (cluster "cXI=") settings folder fs) := by
  intro cluster settings folder fs
  have short : LoginConfig.Decodes "cA==" "p" :=
    ⟨[112], "p", by decide +kernel, by decide +kernel, by decide +kernel⟩
  have long : LoginConfig.Decodes "cXI=" "qr" :=
    ⟨[113, 114], "qr", by decide +kernel, by decide +kernel, by decide +kernel⟩
  have entry : AlikeEntry ("a", "cA==") ("a", "cXI=") := ⟨rfl, .inr ⟨⟨_, short⟩, _, long⟩⟩
  have alike : (cluster "cA==").Alike (cluster "cXI=") :=
    ⟨rfl, fun _ => .ok (.cons ⟨rfl, .cons entry .nil⟩ .nil)⟩
  exact ⟨alike, by decide +kernel, writeEnabled_conceals settings folder fs alike⟩

end Outputs

end BrokerBootstrap
