import BrokerBootstrap.Proofs.Computations
import BrokerBootstrap.Proofs.Encoding.Utf8
import BrokerBootstrap.Proofs.FileSystem
import BrokerBootstrap.Proofs.Text.Blank
import BrokerBootstrap.Proofs.Text.Lines
import BrokerBootstrap.Settings.PodNamespace

namespace BrokerBootstrap.Settings

theorem stripped_namespaceOfText (text : String) : Text.Stripped (namespaceOfText text) :=
  Text.stripped_strip _

theorem not_mem_namespaceOfText (text : String) : '\r' ∉ (namespaceOfText text).toList := by
  intro mem
  have kept := Text.mem_of_mem_strip mem
  rw [String.toList_ofList] at kept
  exact Text.not_mem_unifyNewlines text.toList kept

variable {settings : Settings} {fs : FileSystem}

theorem podNamespace_outcome_eq_ok {name : String}
    (h : (settings.podNamespace fs).outcome = .ok name) :
    name = "" ∨ ∃ text, name = namespaceOfText text := by
  unfold podNamespace at h
  dsimp only at h
  split at h
  · simp [Traced.abort] at h
  · split at h
    · simp only [Traced.say_bind, Traced.pure_eq, Except.ok.injEq] at h
      exact .inl h.symm
    · split at h
      · simp [Traced.abort] at h
      · rename_i text _
        simp only [Traced.pure_eq, Except.ok.injEq] at h
        exact .inr ⟨text, h.symm⟩

theorem podNamespace_events_eq_nil {name : String}
    (h : (settings.podNamespace fs).outcome = .ok name) (named : name ≠ "") :
    (settings.podNamespace fs).events = [] := by
  unfold podNamespace at h ⊢
  dsimp only at h ⊢
  split at h
  · cases h
  · rename_i clean
    rw [if_neg clean]
    split at h
    · have unread : "" = name := Except.ok.inj h
      exact absurd unread.symm named
    · split <;> rfl

/-- The namespace whose secrets a pod asks for: the name in its namespace file, if there is one. -/
def namespaceFound (settings : Settings) (fs : FileSystem) : Option String :=
  match (settings.podNamespace fs).outcome with
  | .ok name => if name = "" then none else some name
  | .error _ => none

theorem namespaceFound_eq_some {name : String} (h : settings.namespaceFound fs = some name) :
    name ≠ "" ∧ Text.Stripped name ∧ '\r' ∉ name.toList := by
  unfold namespaceFound at h
  split at h
  · rename_i found outcome
    split at h
    · cases h
    · rename_i named
      cases h
      rcases podNamespace_outcome_eq_ok outcome with empty | ⟨text, rfl⟩
      · exact absurd empty named
      · exact ⟨named, stripped_namespaceOfText text, not_mem_namespaceOfText text⟩
  · cases h

theorem namespaceOfText_eq_self {name : String} (stripped : Text.Stripped name)
    (unified : '\r' ∉ name.toList) : namespaceOfText name = name := by
  rw [namespaceOfText, Text.unifyNewlines_of_not_mem unified, String.ofList_toList,
    Text.strip_of_stripped stripped]

theorem namespaceOfText_of_outcome {name : String}
    (h : (settings.podNamespace fs).outcome = .ok name) : namespaceOfText name = name := by
  rcases podNamespace_outcome_eq_ok h with rfl | ⟨text, rfl⟩
  · rfl
  · exact namespaceOfText_eq_self (stripped_namespaceOfText text) (not_mem_namespaceOfText text)

theorem podNamespace_of_text {text : String}
    (clean : (Path.ofText settings.namespaceFile).hasNul = false)
    (h : fs.lookup (Path.ofText settings.namespaceFile) = .ok (some (.file (Utf8.encode text)))) :
    settings.podNamespace fs = ⟨[], .ok (namespaceOfText text)⟩ := by
  have read := FileSystem.read_of_lookup h
  have decoded : Utf8.decode (Utf8.encode text) = .ok text := Utf8.decode_eq_ok_iff.2 rfl
  simp [podNamespace, clean, read, decoded, Traced.pure_eq]

theorem podNamespace_of_refuses {cause : OpenError}
    (clean : (Path.ofText settings.namespaceFile).hasNul = false)
    (h : FileSystem.Refuses fs (Path.ofText settings.namespaceFile) cause) :
    settings.podNamespace fs =
      ⟨[.message .error
        [.plain (settings.unreadableText (Path.ofText settings.namespaceFile) cause)]],
        .ok ""⟩ := by
  have read := FileSystem.read_of_refuses h
  simp [podNamespace, clean, read, Traced.pure_eq]

theorem podNamespace_congr {other : FileSystem}
    (same : other.lookup (Path.ofText settings.namespaceFile) =
      fs.lookup (Path.ofText settings.namespaceFile)) :
    settings.podNamespace other = settings.podNamespace fs := by
  have read : other.read (Path.ofText settings.namespaceFile) =
      fs.read (Path.ofText settings.namespaceFile) := by
    rw [FileSystem.read_eq, FileSystem.read_eq, same]
  simp only [podNamespace, read]

theorem hasNul_of_outcome {name : String} (h : (settings.podNamespace fs).outcome = .ok name) :
    (Path.ofText settings.namespaceFile).hasNul = false := by
  cases clean : (Path.ofText settings.namespaceFile).hasNul with
  | false => rfl
  | true => simp [podNamespace, clean, Traced.abort] at h

theorem refuses_of_empty (file : settings.namespaceFile = "") :
    FileSystem.Refuses fs (Path.ofText settings.namespaceFile) .isADirectory := by
  have place : fs.lookup (Path.ofText settings.namespaceFile) =
      .ok (fs.get? fs.workingDirectory) := by
    rw [file]
    rfl
  exact .directory (place.trans (congrArg _ fs.workingDirectory_isDirectory))

theorem podNamespace_decided (settings : Settings) (fs : FileSystem) :
    let path := Path.ofText settings.namespaceFile
    Job.reading settings.podNamespace fs = (settings.podNamespace fs, fs) ∧
    (∀ text, path.hasNul = false → fs.lookup path = .ok (some (.file (Utf8.encode text))) →
      ∃ unified name, Text.Unified text.toList unified ∧
        name = Text.strip (String.ofList unified) ∧
        settings.podNamespace fs = ⟨[], .ok name⟩ ∧
        Text.Stripped name ∧ '\r' ∉ name.toList) ∧
    (∀ cause, path.hasNul = false → FileSystem.Refuses fs path cause →
      settings.podNamespace fs = ⟨[.message .error [.plain ("Reading namespace file " ++
        settings.namespaceFile ++ " failed: " ++ cause.message path)]], .ok ""⟩) ∧
    (settings.namespaceFile = "" →
      ∃ line, settings.podNamespace fs = ⟨[.message .error [.plain line]], .ok ""⟩) ∧
    (∀ other : FileSystem, other.lookup path = fs.lookup path →
      settings.podNamespace other = settings.podNamespace fs) ∧
    ∀ name, (settings.podNamespace fs).outcome = .ok name →
      (∀ octets, fs.lookup path = .ok (some (.file octets)) →
        ∃ after, fs.write path (Utf8.encode name) = .ok after) ∧
      ∀ after, fs.write path (Utf8.encode name) = .ok after →
        settings.podNamespace after = ⟨[], .ok name⟩ := by
  intro path
  refine ⟨rfl, ?_, fun _ clean refused => podNamespace_of_refuses clean refused, ?_,
    fun _ same => podNamespace_congr same, ?_⟩
  · intro text clean opened
    exact ⟨_, _, Text.unified_unifyNewlines text.toList, rfl, podNamespace_of_text clean opened,
      stripped_namespaceOfText text, not_mem_namespaceOfText text⟩
  · intro file
    have clean : path.hasNul = false := by
      show (Path.ofText settings.namespaceFile).hasNul = false
      rw [file]
      decide
    exact ⟨_, podNamespace_of_refuses clean (refuses_of_empty file)⟩
  · intro name found
    refine ⟨fun octets opened => FileSystem.exists_write_of_lookup opened _, ?_⟩
    intro after written
    have again := podNamespace_of_text (hasNul_of_outcome found) (FileSystem.lookup_write written)
    rwa [namespaceOfText_of_outcome found] at again

theorem podNamespace_decided_line_ends :
    let settings : Settings := { nodeName := "n", namespaceFile := "./namespace" }
    let empty : FileSystem := ∅
    let fs := empty.put ["namespace"] (.file (Utf8.encode " a\r\nb\rc\r\n"))
    settings.podNamespace fs = ⟨[], .ok "a\nb\nc"⟩ ∧
      settings.podNamespace empty = ⟨[.message .error [.plain
        ("Reading namespace file ./namespace failed: " ++
          "[Errno 2] No such file or directory: 'namespace'")]], .ok ""⟩ ∧
      ∃ after, fs.write (Path.ofText settings.namespaceFile) (Utf8.encode "a\nb\nc") = .ok after ∧
        settings.podNamespace after = ⟨[], .ok "a\nb\nc"⟩ := by
  intro settings empty fs
  have clean : (Path.ofText settings.namespaceFile).hasNul = false := by decide
  have opened : fs.lookup (Path.ofText settings.namespaceFile) =
      .ok (some (.file (Utf8.encode " a\r\nb\rc\r\n"))) := by decide +kernel
  have missing : empty.lookup (Path.ofText settings.namespaceFile) = .ok none := by
    decide +kernel
  have outcome : (settings.podNamespace fs).outcome = .ok "a\nb\nc" := by decide +kernel
  obtain ⟨-, opens, -, -, -, again⟩ := podNamespace_decided settings fs
  obtain ⟨-, -, refuses, -⟩ := podNamespace_decided settings empty
  obtain ⟨unified, name, -, -, found, -⟩ := opens _ clean opened
  obtain rfl : name = "a\nb\nc" := by simpa [found] using outcome
  obtain ⟨replaced, kept⟩ := again _ outcome
  obtain ⟨after, written⟩ := replaced _ opened
  have line : "Reading namespace file " ++ settings.namespaceFile ++ " failed: " ++
      OpenError.notFound.message (Path.ofText settings.namespaceFile) =
        "Reading namespace file ./namespace failed: " ++
          "[Errno 2] No such file or directory: 'namespace'" := by decide +kernel
  have told := refuses .notFound clean (.missing missing)
  rw [line] at told
  exact ⟨found, told, after, written, kept after written⟩

end BrokerBootstrap.Settings
