import BrokerBootstrap.Proofs.Console.Line
import BrokerBootstrap.Proofs.InitFolder
import BrokerBootstrap.Proofs.Text.Quoted

namespace BrokerBootstrap

def Traced.printed {α : Type} (t : Traced α) : List Line :=
  t.events.filterMap fun
    | .message level parts => some (.ofMessage level parts)
    | _ => none

namespace InitFolder
open Text (quote)

variable {folder : Path} {artifact : Artifact}

def echoed? (line : String) : Option String :=
  (line.toList.dropPrefix? "✓ Information ".toList).bind fun rest =>
    (Text.unquote? rest).map String.ofList

theorem visible_quote (content : String) : visible (quote content) = quote content := by
  refine visible_of_le fun c mem => ?_
  rw [quote, String.toList_ofList] at mem
  exact Text.le_toNat_of_mem_quoted mem

def echo (content : String) (path : Path) : String :=
  "✓ Information " ++ quote content ++ (" written successfully to file " ++ visible path.text)

theorem toList_echo (content : String) (path : Path) :
    (echo content path).toList = "✓ Information ".toList ++ (Text.quoted content.toList ++
      (" written successfully to file ".toList ++ (visible path.text).toList)) := by
  unfold echo
  simp only [quote, String.toList_append, String.toList_ofList, List.append_assoc]

theorem echoed?_echo (content : String) (path : Path) :
    echoed? (echo content path) = some content := by
  rw [echoed?, toList_echo, List.dropPrefix?_append_of_beq _ (beq_self_eq_true _),
    Option.bind_some, Text.unquote?_quoted, Option.map_some, String.ofList_toList]

theorem text_storedLine (plain : artifact.isSensitive = false) (content : String) (path : Path) :
    (Line.ofMessage .success [.plain (storedText artifact content path)]).text =
      echo content path := by
  let rest := quote content ++ (" written successfully to file " ++ visible path.text)
  have first : visible "Information " = "Information " := by decide
  have second : visible " written successfully to file " = " written successfully to file " := by
    decide
  have shown : visible (storedText artifact content path) = "Information " ++ rest := by
    simp only [rest, storedText, plain, Bool.false_eq_true, if_false, visible_append, first,
      second, visible_quote, String.append_assoc]
  have opening : String.ofList [Level.success.icon, ' '] ++ "Information " = "✓ Information " := by
    decide
  calc (Line.ofMessage .success [.plain (storedText artifact content path)]).text
      = String.ofList [Level.success.icon, ' '] ++ visible (storedText artifact content path) :=
        Line.text_ofMessage_plain .success _
    _ = String.ofList [Level.success.icon, ' '] ++ ("Information " ++ rest) :=
        congrArg (String.ofList [Level.success.icon, ' '] ++ ·) shown
    _ = String.ofList [Level.success.icon, ' '] ++ "Information " ++ rest :=
        String.append_assoc.symm
    _ = "✓ Information " ++ rest := congrArg (· ++ rest) opening
    _ = echo content path := String.append_assoc.symm

theorem feed_not_mem_echo {path : Path} (oneLine : '\n' ∉ path.text.toList) (content : String) :
    '\n' ∉ (echo content path).toList := by
  have opening : '\n' ∉ "✓ Information ".toList := by decide
  have middle : '\n' ∉ " written successfully to file ".toList := by decide
  have quoted : '\n' ∉ Text.quoted content.toList := fun mem =>
    absurd (Text.le_toNat_of_mem_quoted mem) (by decide)
  have shown : '\n' ∉ (visible path.text).toList := fun mem => oneLine (mem_of_mem_visible mem)
  simp only [toList_echo, List.mem_append, not_or]
  exact ⟨opening, quoted, middle, shown⟩

theorem printed_write (plain : artifact.isSensitive = false) {content : String} {fs : FileSystem}
    (written : (write folder artifact content fs).1.outcome = .ok true) :
    ∃ line, (write folder artifact content fs).1.printed = [line] ∧
      line.text = echo content (pathOf folder artifact) := by
  obtain ⟨clean, location, opened⟩ := write_outcome_eq_true_iff.1 written
  rw [write_of_ok clean opened]
  exact ⟨_, rfl, text_storedLine plain content _⟩

theorem write_echoes (plain : artifact.isSensitive = false)
    (oneLine : '\n' ∉ (pathOf folder artifact).text.toList) (content : String) {fs : FileSystem}
    (written : (write folder artifact content fs).1.outcome = .ok true) :
    ∃ line, (write folder artifact content fs).1.printed = [line] ∧
      line.text = "✓ Information " ++ quote content ++
        (" written successfully to file " ++ visible (pathOf folder artifact).text) ∧
      visible (quote content) = quote content ∧ '\n' ∉ line.text.toList ∧
      echoed? line.text = some content ∧
      ∀ other after, (write folder artifact other after).1.outcome = .ok true → other ≠ content →
        ∃ line', (write folder artifact other after).1.printed = [line'] ∧
          line'.text ≠ line.text := by
  obtain ⟨line, printed, text⟩ := printed_write plain written
  have back : echoed? line.text = some content := by rw [text, echoed?_echo]
  refine ⟨line, printed, text, visible_quote content, ?_, back, ?_⟩
  · rw [text]
    exact feed_not_mem_echo oneLine content
  · intro other after written' different
    obtain ⟨line', printed', text'⟩ := printed_write plain written'
    -- From one line only one content can be read back.
    refine ⟨line', printed', fun same => different ?_⟩
    rw [← same, text', echoed?_echo] at back
    exact Option.some.inj back

theorem write_echoes_of_marks :
    let folder := Path.ofText "a\x0bb"
    let fs : FileSystem := (∅ : FileSystem).put ["a\x0bb"] .directory
    let first := write folder .rack "it's \"\\x07\"\n" fs
    let second := write folder .rack "it's \"\x07\"\n" fs
    first.1.outcome = .ok true ∧ second.1.outcome = .ok true ∧
      ∃ line, first.1.printed = [line] ∧ echoed? line.text = some "it's \"\\x07\"\n" ∧
        ∃ line', second.1.printed = [line'] ∧ line'.text ≠ line.text := by
  intro folder fs first second
  have written : first.1.outcome = .ok true := by decide +kernel
  have written' : second.1.outcome = .ok true := by decide +kernel
  obtain ⟨line, printed, -, -, -, back, apart⟩ :=
    write_echoes rfl (by decide +kernel) "it's \"\\x07\"\n" written
  exact ⟨written, written', line, printed, back, apart _ fs written' (by decide)⟩

end InitFolder

end BrokerBootstrap
