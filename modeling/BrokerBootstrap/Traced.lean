import BrokerBootstrap.Console.Event
import BrokerBootstrap.Failure

/-!
# Traced computations

A computation records events and ends in a value or in a problem. The events recorded before a
problem are kept.
-/

namespace BrokerBootstrap

structure Traced (α : Type) where
  events : List Event
  outcome : Except Problem α

namespace Traced

variable {α β : Type}

protected def pure (a : α) : Traced α := ⟨[], .ok a⟩

protected def bind (t : Traced α) (f : α → Traced β) : Traced β :=
  match t.outcome with
  | .ok a => ⟨t.events ++ (f a).events, (f a).outcome⟩
  | .error problem => ⟨t.events, .error problem⟩

instance : Monad Traced where
  pure := Traced.pure
  bind := Traced.bind

theorem pure_eq (a : α) : (pure a : Traced α) = ⟨[], .ok a⟩ := rfl

theorem bind_of_ok {t : Traced α} {a : α} (h : t.outcome = .ok a) (f : α → Traced β) :
    t >>= f = ⟨t.events ++ (f a).events, (f a).outcome⟩ := by
  simp only [bind, Traced.bind, h]

theorem bind_of_error {t : Traced α} {problem : Problem} (h : t.outcome = .error problem)
    (f : α → Traced β) : t >>= f = ⟨t.events, .error problem⟩ := by
  simp only [bind, Traced.bind, h]

def record (event : Event) : Traced Unit := ⟨[event], .ok ()⟩

def say (level : Level) (parts : List Part) : Traced Unit := record (.message level parts)

def fail (failure : Failure) : Traced α := ⟨[], .error (.failure failure)⟩

def abort (fault : Fault) : Traced α := ⟨[], .error (.fault fault)⟩

def ofExcept (result : Except Failure α) : Traced α := ⟨[], result.mapError .failure⟩

/-- Makes a failure a value. A fault still ends the computation. -/
def attempt (t : Traced α) : Traced (Except Failure α) where
  events := t.events
  outcome := match t.outcome with
    | .ok a => .ok (.ok a)
    | .error (.failure failure) => .ok (.error failure)
    | .error (.fault fault) => .error (.fault fault)

end Traced

end BrokerBootstrap
