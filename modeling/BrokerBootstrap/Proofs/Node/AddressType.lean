import BrokerBootstrap.Node.AddressType
import Mathlib.Logic.Function.Basic

namespace BrokerBootstrap.AddressType

variable {text : String} {t : AddressType}

theorem mem_all (t : AddressType) : t ∈ all := by
  cases t <;> decide

theorem canonical_injective : Function.Injective canonical := by
  intro first second
  cases first <;> cases second <;> decide +kernel

theorem accepts_some_iff : t.accepts (some text) = true ↔ Text.lower text = Text.lower t.name :=
  decide_eq_true_iff

theorem eq_of_accepts {u : AddressType} (first : t.accepts (some text) = true)
    (second : u.accepts (some text) = true) : t = u :=
  canonical_injective ((accepts_some_iff.1 first).symm.trans (accepts_some_iff.1 second))

theorem find?_accepts_eq_some_iff {order : List AddressType} (complete : ∀ t, t ∈ order) :
    order.find? (·.accepts (some text)) = some t ↔ t.accepts (some text) = true := by
  constructor
  · intro found
    have accepted := List.find?_some found
    exact accepted
  · intro accepted
    cases found : order.find? (·.accepts (some text)) with
    | none => exact absurd accepted (List.find?_eq_none.1 found t (complete t))
    | some other =>
        have acceptedOther := List.find?_some found
        rw [eq_of_accepts acceptedOther accepted]

theorem ofText?_eq_some_iff : ofText? text = some t ↔ Text.lower text = Text.lower t.name :=
  (find?_accepts_eq_some_iff mem_all).trans accepts_some_iff

end BrokerBootstrap.AddressType
