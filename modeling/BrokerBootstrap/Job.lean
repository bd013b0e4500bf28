import BrokerBootstrap.Traced

namespace BrokerBootstrap

def Job (α : Type) : Type := FileSystem → Traced α × FileSystem

namespace Job

variable {α β : Type}

def ofTraced (t : Traced α) : Job α := fun fs => (t, fs)

def reading (look : FileSystem → Traced α) : Job α := fun fs => (look fs, fs)

protected def bind (job : Job α) (next : α → Job β) : Job β := fun fs =>
  let (t, after) := job fs
  match t.outcome with
  | .ok a =>
      let (u, last) := next a after
      (⟨t.events ++ u.events, u.outcome⟩, last)
  | .error problem => (⟨t.events, .error problem⟩, after)

instance : Monad Job where
  pure a := ofTraced (pure a)
  bind := Job.bind

theorem pure_apply (a : α) (fs : FileSystem) : (pure a : Job α) fs = (⟨[], .ok a⟩, fs) := rfl

theorem bind_of_ok {job : Job α} {fs : FileSystem} {a : α} (h : (job fs).1.outcome = .ok a)
    (next : α → Job β) :
    (job >>= next) fs =
      (⟨(job fs).1.events ++ (next a (job fs).2).1.events, (next a (job fs).2).1.outcome⟩,
        (next a (job fs).2).2) := by
  simp only [bind, Job.bind, h]

theorem bind_of_error {job : Job α} {fs : FileSystem} {problem : Problem}
    (h : (job fs).1.outcome = .error problem) (next : α → Job β) :
    (job >>= next) fs = (⟨(job fs).1.events, .error problem⟩, (job fs).2) := by
  simp only [bind, Job.bind, h]

def say (level : Level) (parts : List Part) : Job Unit := ofTraced (.say level parts)

def attempt (job : Job α) : Job (Except Failure α) := fun fs =>
  let (t, after) := job fs
  (t.attempt, after)

def closingWith (job : Job α) (last : Traced Unit) : Job α := fun fs =>
  let (t, after) := job fs
  (⟨t.events ++ last.events, t.outcome⟩, after)

end Job

end BrokerBootstrap
