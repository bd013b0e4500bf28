import BrokerBootstrap.Proofs.LoginConfig.Collect

/-!
# The text of a login configuration

The character that the semicolon takes the place of is the line feed after the last user, since a
configuration that was collected from secrets declares at least the broker's own user.
-/

namespace BrokerBootstrap.LoginConfig

def block (config : LoginConfig) : String :=
  "KafkaServer \x7b\n" ++
    "  org.apache.kafka.common.security.plain.PlainLoginModule required\n" ++
    "  username=\"" ++ config.username ++ "\"\n" ++
    "  password=\"" ++ config.password ++ "\"\n" ++
    String.intercalate "\n"
      (config.users.map fun user => "  user_" ++ user.1 ++ "=\"" ++ user.2 ++ "\"") ++
    ";\n\x7d;"

theorem join_userLines {users : List (String × String)} (h : users ≠ []) :
    String.join (users.map fun user => userLine user ++ "\n") =
      String.intercalate "\n" (users.map userLine) ++ "\n" := by
  induction users with
  | nil => exact absurd rfl h
  | cons user rest ih =>
      by_cases last : rest = []
      · simp [last]
      · rw [List.map_cons, String.join_cons, ih last, List.map_cons,
          String.intercalate_cons_of_ne_nil (by simpa using last)]
        simp only [String.append_assoc]

theorem render_eq_block {config : LoginConfig} (h : config.users ≠ []) :
    config.render = config.block := by
  have lines : config.options =
      config.header ++ String.intercalate "\n" (config.users.map userLine) ++ "\n" := by
    rw [options, join_userLines h, String.append_assoc]
  have cut : config.options.toList.dropLast =
      (config.header ++ String.intercalate "\n" (config.users.map userLine)).toList := by
    rw [lines, String.toList_append]
    exact List.dropLast_concat
  rw [render, cut, String.ofList_toList]
  rfl

theorem exists_collectedFrom {namespaceName lead text : String} {secrets : List Secret}
    (h : (build namespaceName secrets lead).outcome = .ok text) :
    ∃ config : LoginConfig, config.CollectedFrom secrets lead ∧ text = config.block := by
  obtain ⟨config, collected, written⟩ := Traced.bind_outcome_eq_ok.1 h
  have source := collect_outcome_eq_ok collected
  have filled : config.users ≠ [] := List.ne_nil_of_mem source.own_mem_users
  have rendered : config.render = text := Except.ok.inj written
  exact ⟨config, source, rendered ▸ render_eq_block filled⟩

theorem build_outcome_eq_ok {namespaceName lead text : String} {secrets : List Secret}
    (h : (build namespaceName secrets lead).outcome = .ok text) :
    ∃ config : LoginConfig, config.CollectedFrom secrets lead ∧
      (config.username, config.password) ∈ config.users ∧ text = config.block := by
  obtain ⟨config, source, written⟩ := exists_collectedFrom h
  exact ⟨config, source, source.own_mem_users, written⟩

theorem build_outcome_eq_ok_two_admin_entries :
    let secrets : List Secret := [⟨"other", [("x", "?")]⟩,
      ⟨"fwss-admin-0", [("b", "Yg=="), ("a", "IHAgCg==")]⟩, ⟨"fwss", [("c", "YyI=")]⟩]
    let text := "KafkaServer \x7b\n" ++
      "  org.apache.kafka.common.security.plain.PlainLoginModule required\n" ++
      "  username=\"a\"\n  password=\"p\"\n  user_b=\"b\"\n  user_a=\"p\"\n  user_c=\"c\"\";\n\x7d;"
    (build "kafka" secrets "fwss").outcome = .ok text ∧
      ∃ config : LoginConfig, config.CollectedFrom secrets "fwss" ∧
        (config.username, config.password) ∈ config.users ∧ text = config.block := by
  intro secrets text
  have built : (build "kafka" secrets "fwss").outcome = .ok text := by decide +kernel
  exact ⟨built, build_outcome_eq_ok built⟩

end BrokerBootstrap.LoginConfig
