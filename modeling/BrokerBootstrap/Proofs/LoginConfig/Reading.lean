import BrokerBootstrap.Proofs.LoginConfig.Text
import BrokerBootstrap.Proofs.Text.Lines

namespace BrokerBootstrap.LoginConfig

/-- The key and the value of a line that has them: two spaces, the key, an equals sign, and the
value between quotation marks. A semicolon may follow. -/
def assignment? (line : List Char) : Option (String × String) :=
  match line.splitOn '"' with
  | [' ' :: ' ' :: lead, value, ending] =>
      if lead.getLast? = some '=' ∧ (ending = [] ∨ ending = [';']) then
        some (String.ofList lead.dropLast, String.ofList value)
      else none
  | _ => none

def assignments (text : List Char) : List (String × String) :=
  (text.splitOn '\n').filterMap assignment?

def user? (assignment : String × String) : Option (String × String) :=
  (assignment.1.toList.dropPrefix? "user_".toList).map fun name =>
    (String.ofList name, assignment.2)

/-- The first two assignments are the broker's own user, all others users that may log in. -/
def read? (text : String) : Option LoginConfig :=
  match assignments text.toList with
  | ("username", username) :: ("password", password) :: rest =>
      (rest.mapM user?).map fun users => ⟨username, password, users⟩
  | _ => none

def Bare (text : String) : Prop := '"' ∉ text.toList ∧ '\n' ∉ text.toList

instance (text : String) : Decidable (Bare text) := inferInstanceAs (Decidable (_ ∧ _))

def assignmentLine (key value : String) : List Char :=
  ' ' :: ' ' :: (key.toList ++ '=' :: '"' :: (value.toList ++ ['"']))

theorem assignment?_line {key value : String} {ending : List Char} (bareKey : Bare key)
    (bareValue : Bare value) (ends : ending = [] ∨ ending = [';']) :
    assignment? (assignmentLine key value ++ ending) = some (key, value) := by
  have joined : assignmentLine key value ++ ending =
      ['"'].intercalate [' ' :: ' ' :: (key.toList ++ ['=']), value.toList, ending] := by
    simp [assignmentLine, List.intercalate]
  have parts : (assignmentLine key value ++ ending).splitOn '"' =
      [' ' :: ' ' :: (key.toList ++ ['=']), value.toList, ending] := by
    rw [joined]
    apply List.splitOn_intercalate
    · rcases ends with rfl | rfl <;> simp [bareKey.1, bareValue.1]
    · simp
  rw [assignment?, parts]
  simp [ends]

theorem assignments_line {line : List Char} (one : '\n' ∉ line) (rest : List Char) :
    assignments (line ++ '\n' :: rest) = (assignment? line).toList ++ assignments rest := by
  rw [assignments, Text.splitOn_line one]
  cases h : assignment? line <;> simp [h, assignments]

theorem assignments_assignmentLine {key value : String} (bareKey : Bare key)
    (bareValue : Bare value) (rest : List Char) :
    assignments (assignmentLine key value ++ '\n' :: rest) = (key, value) :: assignments rest := by
  have one : '\n' ∉ assignmentLine key value := by
    simp [assignmentLine, bareKey.2, bareValue.2]
  have found := assignment?_line bareKey bareValue (.inl rfl)
  rw [List.append_nil] at found
  rw [assignments_line one, found]
  rfl

theorem assignments_lastLine {key value : String} (bareKey : Bare key) (bareValue : Bare value)
    (rest : List Char) :
    assignments (assignmentLine key value ++ [';'] ++ '\n' :: rest) =
      (key, value) :: assignments rest := by
  have one : '\n' ∉ assignmentLine key value ++ [';'] := by
    simp [assignmentLine, bareKey.2, bareValue.2]
  rw [assignments_line one, assignment?_line bareKey bareValue (.inr rfl)]
  rfl

theorem toList_userLine (user : String × String) :
    (userLine user).toList = assignmentLine ("user_" ++ user.1) user.2 := by
  simp [userLine, assignmentLine]

theorem bare_userKey {name : String} (bare : Bare name) : Bare ("user_" ++ name) :=
  ⟨by simp [bare.1], by simp [bare.2]⟩

theorem assignments_users {users : List (String × String)} (filled : users ≠ [])
    (bare : ∀ user ∈ users, Bare user.1 ∧ Bare user.2) :
    assignments ((String.intercalate "\n" (users.map userLine)).toList ++ ";\n\x7d;".toList) =
      users.map fun user => ("user_" ++ user.1, user.2) := by
  induction users with
  | nil => exact absurd rfl filled
  | cons user rest ih =>
      obtain ⟨⟨bareName, bareValue⟩, others⟩ := List.forall_mem_cons.1 bare
      have bareKey := bare_userKey bareName
      -- The line of the last user ends in the semicolon, that of any other in a line feed.
      by_cases last : rest = []
      · subst last
        have text : (String.intercalate "\n" ([user].map userLine)).toList ++ ";\n\x7d;".toList =
            assignmentLine ("user_" ++ user.1) user.2 ++ [';'] ++ '\n' :: "\x7d;".toList := by
          simp [← toList_userLine]
        rw [text, assignments_lastLine bareKey bareValue]
        rfl
      · have text : (String.intercalate "\n" ((user :: rest).map userLine)).toList =
            assignmentLine ("user_" ++ user.1) user.2 ++
              '\n' :: (String.intercalate "\n" (rest.map userLine)).toList := by
          rw [List.map_cons, String.intercalate_cons_of_ne_nil (by simpa using last)]
          simp [← toList_userLine]
        rw [text, List.append_assoc _ _ ";\n\x7d;".toList, List.cons_append,
          assignments_assignmentLine bareKey bareValue, ih last others]
        rfl

structure AllBare (config : LoginConfig) : Prop where
  username : Bare config.username
  password : Bare config.password
  users : ∀ user ∈ config.users, Bare user.1 ∧ Bare user.2

theorem toList_header (config : LoginConfig) :
    config.header.toList = "KafkaServer \x7b".toList ++ '\n' ::
      ("  org.apache.kafka.common.security.plain.PlainLoginModule required".toList ++ '\n' ::
        (assignmentLine "username" config.username ++ '\n' ::
          (assignmentLine "password" config.password ++ ['\n']))) := by
  have opening : "KafkaServer \x7b\n" = "KafkaServer \x7b" ++ "\n" := by
    simp only [String.reduceAppend]
  have login : "  org.apache.kafka.common.security.plain.PlainLoginModule required\n" =
      "  org.apache.kafka.common.security.plain.PlainLoginModule required" ++ "\n" := by
    simp only [String.reduceAppend]
  have username : "  username=\"".toList = ' ' :: ' ' :: ("username".toList ++ ['=', '"']) := rfl
  have password : "  password=\"".toList = ' ' :: ' ' :: ("password".toList ++ ['=', '"']) := rfl
  have ending : "\"\n".toList = ['"', '\n'] := rfl
  have feed : "\n".toList = ['\n'] := rfl
  unfold header assignmentLine
  simp only [opening, login, String.toList_append, username, password, ending, feed,
    List.append_assoc, List.cons_append, List.nil_append]

theorem assignments_block {config : LoginConfig} (bare : config.AllBare)
    (filled : config.users ≠ []) :
    assignments config.block.toList =
      ("username", config.username) :: ("password", config.password) ::
        config.users.map fun user => ("user_" ++ user.1, user.2) := by
  have text : config.block.toList = config.header.toList ++
      ((String.intercalate "\n" (config.users.map userLine)).toList ++ ";\n\x7d;".toList) := by
    rw [← List.append_assoc, ← String.toList_append, ← String.toList_append]
    rfl
  have opening : '\n' ∉ "KafkaServer \x7b".toList := by decide
  have login : '\n' ∉
      "  org.apache.kafka.common.security.plain.PlainLoginModule required".toList := by decide
  have username : Bare "username" := by decide
  have password : Bare "password" := by decide
  rw [text, toList_header]
  simp only [List.append_assoc, List.cons_append, List.nil_append]
  rw [assignments_line opening, assignments_line login,
    assignments_assignmentLine username bare.username,
    assignments_assignmentLine password bare.password, assignments_users filled bare.users]
  rfl

theorem user?_userKey (user : String × String) :
    user? ("user_" ++ user.1, user.2) = some user := by
  rw [user?, String.toList_append, List.dropPrefix?_append_of_beq _ (beq_self_eq_true _)]
  simp

theorem mapM_user? (users : List (String × String)) :
    (users.map fun user => ("user_" ++ user.1, user.2)).mapM user? = some users := by
  induction users with
  | nil => rfl
  | cons user rest ih =>
      rw [List.map_cons, List.mapM_cons, ih, user?_userKey]
      rfl

theorem read?_block {config : LoginConfig} (bare : config.AllBare) (filled : config.users ≠ []) :
    read? config.block = some config := by
  rw [read?, assignments_block bare filled]
  simp only [mapM_user?, Option.map_some]

def Unmarked (secrets : List Secret) (lead : String) : Prop :=
  ∀ entry ∈ (secrets.filter (·.hasPrefix lead)).flatMap (·.entries.pairs),
    Bare entry.1 ∧ ∀ value, Decodes entry.2 value → Bare value

theorem bare_decoded_iff {payload : String} :
    (∀ value ∈ (decodePayload "" "" payload).toOption, Bare value) ↔
      ∀ value, Decodes payload value → Bare value := by
  apply forall_congr'
  intro value
  rw [← decodePayload_eq_ok_iff, Option.mem_def]
  cases decodePayload "" "" payload <;> simp [Except.toOption]

instance (payload : String) : Decidable (∀ value, Decodes payload value → Bare value) :=
  decidable_of_iff _ bare_decoded_iff

instance (secrets : List Secret) (lead : String) : Decidable (Unmarked secrets lead) :=
  inferInstanceAs (Decidable (∀ entry ∈ _, Bare (Prod.fst entry) ∧ _))

theorem CollectedFrom.allBare {config : LoginConfig} {secrets : List Secret} {lead : String}
    (source : config.CollectedFrom secrets lead) (unmarked : Unmarked secrets lead) :
    config.AllBare := by
  have users : ∀ user ∈ config.users, Bare user.1 ∧ Bare user.2 := by
    intro user mem
    have declaring : List.Forall₂ (flip Declares) config.users _ := source.users.flip
    obtain ⟨entry, listed, sameName, decodes⟩ := exists_related_of_mem declaring mem
    obtain ⟨bareName, bareValue⟩ := unmarked entry listed
    exact ⟨sameName ▸ bareName, bareValue user.2 decodes⟩
  obtain ⟨bareName, barePassword⟩ := users _ source.own_mem_users
  exact ⟨bareName, barePassword, users⟩

theorem read?_of_build {namespaceName lead text : String} {secrets : List Secret}
    (built : (build namespaceName secrets lead).outcome = .ok text)
    (unmarked : Unmarked secrets lead) :
    ∃ config : LoginConfig, config.CollectedFrom secrets lead ∧ read? text = some config := by
  obtain ⟨config, source, rfl⟩ := exists_collectedFrom built
  have filled : config.users ≠ [] := List.ne_nil_of_mem source.own_mem_users
  exact ⟨config, source, read?_block (source.allBare unmarked) filled⟩

theorem text_determines_config {namespaceName lead text : String} {secrets : List Secret}
    (built : (build namespaceName secrets lead).outcome = .ok text)
    (unmarked : Unmarked secrets lead) :
    ∃ config : LoginConfig, config.CollectedFrom secrets lead ∧ read? text = some config ∧
      ∀ namespaceName' lead' secrets',
        (build namespaceName' secrets' lead').outcome = .ok text → Unmarked secrets' lead' →
        config.CollectedFrom secrets' lead' := by
  obtain ⟨config, source, found⟩ := read?_of_build built unmarked
  refine ⟨config, source, found, ?_⟩
  intro namespaceName' lead' secrets' built' unmarked'
  obtain ⟨config', source', found'⟩ := read?_of_build built' unmarked'
  have same : config = config' := Option.some.inj (found.symm.trans found')
  exact same ▸ source'

theorem text_determines_config_of_signs :
    let secrets : List Secret := [⟨"fwss-admin", [("a=b;", "PTs="), ("", "")]⟩,
      ⟨"fwss", [("a=b;", "PTs="), ("user_", "")]⟩]
    let text := "KafkaServer \x7b\n" ++
      "  org.apache.kafka.common.security.plain.PlainLoginModule required\n" ++
      "  username=\"\"\n  password=\"\"\n  user_a=b;=\"=;\"\n  user_=\"\"\n" ++
      "  user_a=b;=\"=;\"\n  user_user_=\"\";\n\x7d;"
    (build "kafka" secrets "fwss").outcome = .ok text ∧ Unmarked secrets "fwss" ∧
      ∃ config, read? text = some config ∧ config.CollectedFrom secrets "fwss" := by
  intro secrets text
  have built : (build "kafka" secrets "fwss").outcome = .ok text := by decide +kernel
  have unmarked : Unmarked secrets "fwss" := by decide +kernel
  obtain ⟨config, source, found, -⟩ := text_determines_config built unmarked
  exact ⟨built, unmarked, config, found, source⟩

end BrokerBootstrap.LoginConfig
