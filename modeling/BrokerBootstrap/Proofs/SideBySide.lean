import BrokerBootstrap.Proofs.Computations

namespace BrokerBootstrap

variable {α β γ δ ε : Type} {R : α → β → Prop} {S : γ → δ → Prop}

/-- Two results are the same error or related values. -/
inductive Alike (R : α → β → Prop) : Except ε α → Except ε β → Prop
  | ok {a : α} {b : β} (related : R a b) : Alike R (.ok a) (.ok b)
  | error (e : ε) : Alike R (.error e) (.error e)

theorem Alike.bind {x : Except ε α} {y : Except ε β} {f : α → Except ε γ} {g : β → Except ε δ}
    (h : Alike R x y) (next : ∀ a b, R a b → Alike S (f a) (g b)) :
    Alike S (x >>= f) (y >>= g) := by
  cases h with
  | ok related => exact next _ _ related
  | error e => exact .error e

theorem Alike.map {x : Except ε α} {y : Except ε β} {f : α → γ} {g : β → δ}
    (h : Alike (fun a b => S (f a) (g b)) x y) : Alike S (x.map f) (y.map g) := by
  cases h with
  | ok related => exact .ok related
  | error e => exact .error e

namespace Traced

structure Alike (R : α → β → Prop) (t : Traced α) (u : Traced β) : Prop where
  events : t.events = u.events
  outcome : BrokerBootstrap.Alike R t.outcome u.outcome

theorem Alike.bind {t : Traced α} {u : Traced β} {f : α → Traced γ} {g : β → Traced δ}
    (h : Alike R t u) (next : ∀ a b, R a b → Alike S (f a) (g b)) :
    Alike S (t >>= f) (u >>= g) := by
  obtain ⟨events, outcome⟩ := t
  obtain ⟨events', outcome'⟩ := u
  obtain ⟨same, ends⟩ := h
  cases same
  cases ends with
  | error problem => exact ⟨rfl, .error problem⟩
  | ok related =>
      obtain ⟨sameLater, endsLater⟩ := next _ _ related
      exact ⟨congrArg (events ++ ·) sameLater, endsLater⟩

theorem Alike.pure {a : α} {b : β} (related : R a b) :
    Alike R (Pure.pure a : Traced α) (Pure.pure b) :=
  ⟨rfl, .ok related⟩

theorem Alike.fail (failure : Failure) :
    Alike R (Traced.fail failure : Traced α) (Traced.fail failure : Traced β) :=
  ⟨rfl, .error _⟩

theorem Alike.refl (t : Traced α) : Alike Eq t t := by
  refine ⟨rfl, ?_⟩
  cases t.outcome with
  | ok a => exact .ok rfl
  | error problem => exact .error problem

end Traced

end BrokerBootstrap
