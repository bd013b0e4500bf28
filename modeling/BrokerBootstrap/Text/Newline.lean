
namespace BrokerBootstrap.Text

/-- Every line end becomes a line feed. A carriage return directly before a line feed belongs to
the same line end. -/
def unifyNewlines : List Char → List Char
  | [] => []
  | '\r' :: '\n' :: rest => '\n' :: unifyNewlines rest
  | c :: rest => (if c = '\r' then '\n' else c) :: unifyNewlines rest

theorem not_mem_unifyNewlines (cs : List Char) : '\r' ∉ unifyNewlines cs := by
  fun_induction unifyNewlines cs with
  | case1 => simp
  | case2 rest ih => simp [ih]
  | case3 c rest _ ih => split <;> simp_all [eq_comm]

end BrokerBootstrap.Text
