
namespace BrokerBootstrap.Text

/-- Whether a code point lies in one of the ranges, which are in ascending order. -/
def covers : List (Nat × Nat) → Nat → Bool
  | [], _ => false
  | (low, high) :: rest, n => if n < low then false else n ≤ high || covers rest n

end BrokerBootstrap.Text
