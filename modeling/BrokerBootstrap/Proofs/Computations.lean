import BrokerBootstrap.Job

namespace BrokerBootstrap

theorem bind_eq_ok {ε α β : Type} {x : Except ε α} {f : α → Except ε β} {b : β} :
    x >>= f = .ok b ↔ ∃ a, x = .ok a ∧ f a = .ok b := by
  cases x with
  | error e => simp [bind, Except.bind]
  | ok a => simp [bind, Except.bind]

theorem bind_eq_error {ε α β : Type} {x : Except ε α} {f : α → Except ε β} {e : ε} :
    x >>= f = .error e ↔ x = .error e ∨ ∃ a, x = .ok a ∧ f a = .error e := by
  cases x with
  | error cause => simp [bind, Except.bind]
  | ok a => simp [bind, Except.bind]

theorem map_eq_ok {ε α β : Type} {x : Except ε α} {f : α → β} {b : β} :
    x.map f = .ok b ↔ ∃ a, x = .ok a ∧ f a = b := by
  cases x with
  | error e => simp [Except.map]
  | ok a => simp [Except.map]

theorem map_eq_error {ε α β : Type} {x : Except ε α} {f : α → β} {e : ε} :
    x.map f = .error e ↔ x = .error e := by
  cases x with
  | error cause => simp [Except.map]
  | ok a => simp [Except.map]

namespace Traced

variable {α β : Type}

@[simp]
theorem say_bind (level : Level) (parts : List Part) (f : Unit → Traced β) :
    say level parts >>= f = ⟨.message level parts :: (f ()).events, (f ()).outcome⟩ := rfl

theorem bind_outcome_eq_ok {t : Traced α} {f : α → Traced β} {b : β} :
    (t >>= f).outcome = .ok b ↔ ∃ a, t.outcome = .ok a ∧ (f a).outcome = .ok b := by
  cases h : t.outcome with
  | ok a => simp [bind_of_ok h]
  | error problem => simp [bind_of_error h]

theorem bind_outcome_eq_error {t : Traced α} {f : α → Traced β} {problem : Problem} :
    (t >>= f).outcome = .error problem ↔
      t.outcome = .error problem ∨ ∃ a, t.outcome = .ok a ∧ (f a).outcome = .error problem := by
  cases h : t.outcome with
  | ok a => simp [bind_of_ok h]
  | error cause => simp [bind_of_error h]

theorem ofExcept_outcome_eq_ok {result : Except Failure α} {a : α} :
    (ofExcept result).outcome = .ok a ↔ result = .ok a := by
  cases result with
  | error failure =>
      show (.error (.failure failure) : Except Problem α) = .ok a ↔ _
      simp
  | ok b =>
      show (.ok b : Except Problem α) = .ok a ↔ _
      simp

def Records (kind : Event → Prop) (t : Traced α) : Prop := ∀ event ∈ t.events, kind event

section Records

variable {kind : Event → Prop} {t : Traced α} {f : α → Traced β}

theorem Records.bind (first : t.Records kind)
    (next : ∀ a, t.outcome = .ok a → (f a).Records kind) : (t >>= f).Records kind := by
  cases h : t.outcome with
  | error problem =>
      rw [bind_of_error h]
      exact first
  | ok a =>
      rw [bind_of_ok h]
      exact List.forall_mem_append.2 ⟨first, next a h⟩

theorem Records.mono {wider : Event → Prop} (h : t.Records kind)
    (implies : ∀ event, kind event → wider event) : t.Records wider :=
  fun event mem => implies event (h event mem)

theorem records_of_events_eq_nil (h : t.events = []) : t.Records kind := by
  rw [Records, h]
  exact List.forall_mem_nil kind

theorem records_record {event : Event} (h : kind event) : (record event).Records kind :=
  List.forall_mem_singleton.2 h

end Records

end Traced

namespace Job

variable {α β : Type}

theorem bind_apply (job : Job α) (next : α → Job β) (fs : FileSystem) :
    (job >>= next) fs =
      match (job fs).1.outcome with
      | .ok a => (⟨(job fs).1.events ++ (next a (job fs).2).1.events,
          (next a (job fs).2).1.outcome⟩, (next a (job fs).2).2)
      | .error problem => (⟨(job fs).1.events, .error problem⟩, (job fs).2) := by
  cases h : (job fs).1.outcome with
  | ok a => exact bind_of_ok h next
  | error problem => exact bind_of_error h next

theorem bind_pure_apply (job : Job α) (f : α → β) (fs : FileSystem) :
    (job >>= fun a => pure (f a)) fs =
      (⟨(job fs).1.events, (job fs).1.outcome.map f⟩, (job fs).2) := by
  rw [bind_apply]
  cases (job fs).1.outcome with
  | ok a => simp [pure_apply, Except.map]
  | error problem => rfl

@[simp]
theorem ofTraced_apply (t : Traced α) (fs : FileSystem) : ofTraced t fs = (t, fs) := rfl

@[simp]
theorem reading_apply (look : FileSystem → Traced α) (fs : FileSystem) :
    reading look fs = (look fs, fs) := rfl

@[simp]
theorem attempt_apply (job : Job α) (fs : FileSystem) :
    job.attempt fs = ((job fs).1.attempt, (job fs).2) := rfl

@[simp]
theorem say_bind_apply (level : Level) (parts : List Part) (next : Unit → Job β)
    (fs : FileSystem) :
    (say level parts >>= next) fs =
      (⟨.message level parts :: (next () fs).1.events, (next () fs).1.outcome⟩,
        (next () fs).2) := rfl

end Job

end BrokerBootstrap
