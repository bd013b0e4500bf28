import BrokerBootstrap.Mapping

namespace BrokerBootstrap

structure Secret where
  name : String
  entries : Mapping String
  deriving DecidableEq, Repr

namespace Secret

def hasPrefix (secret : Secret) (lead : String) : Bool :=
  lead.toList.isPrefixOf secret.name.toList

def smallestFrom (first : String × String) : List (String × String) → String × String
  | [] => first
  | next :: rest => smallestFrom (if next.1 < first.1 then next else first) rest

def smallest? (secret : Secret) : Option (String × String) :=
  match secret.entries.pairs with
  | [] => none
  | first :: rest => some (smallestFrom first rest)

theorem hasPrefix_iff {secret : Secret} {lead : String} :
    secret.hasPrefix lead = true ↔ lead.toList <+: secret.name.toList :=
  List.isPrefixOf_iff_prefix

theorem smallest?_eq_none_iff {secret : Secret} :
    secret.smallest? = none ↔ secret.entries.pairs = [] := by
  cases h : secret.entries.pairs <;> simp [smallest?, h]

end Secret

end BrokerBootstrap
