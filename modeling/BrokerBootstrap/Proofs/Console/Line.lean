import BrokerBootstrap.Console.Line
import Mathlib.Data.List.Basic

namespace BrokerBootstrap

theorem isDropped_of_le {c : Char} (h : 32 ≤ c.toNat) : isDropped c = false := by
  have others : c.toNat ∉ [7, 8, 11, 12, 13] := by
    simp only [List.mem_cons, List.not_mem_nil, or_false]
    omega
  rw [isDropped, List.contains_eq_mem, decide_eq_false others]

theorem visible_append (first second : String) :
    visible (first ++ second) = visible first ++ visible second := by
  simp [visible, visibleChars]

theorem mem_of_mem_visible {c : Char} {text : String} (h : c ∈ (visible text).toList) :
    c ∈ text.toList := by
  rw [visible, String.toList_ofList] at h
  exact List.mem_of_mem_filter h

theorem visible_of_le {text : String} (h : ∀ c ∈ text.toList, 32 ≤ c.toNat) :
    visible text = text := by
  have shown : visibleChars text.toList = text.toList :=
    List.filter_eq_self.2 fun c mem => by simp [isDropped_of_le (h c mem)]
  rw [visible, shown, String.ofList_toList]

namespace Span

def slice (span : Span) (cs : List Char) : List Char := (cs.take span.stop).drop span.start

theorem slice_middle (front middle rest : List Char) (style : Style) :
    slice ⟨front.length, front.length + middle.length, style⟩ (front ++ (middle ++ rest)) =
      middle := by
  rw [slice, List.take_length_add_append, List.take_left, List.drop_left]

structure Within (low high : Nat) (span : Span) : Prop where
  after : low ≤ span.start
  nonempty : span.start < span.stop
  before : span.stop ≤ high

end Span

namespace Part

def shownAll (parts : List Part) : List Char := parts.flatMap shown

theorem shownAll_cons (part : Part) (rest : List Part) :
    shownAll (part :: rest) = part.shown ++ shownAll rest := List.flatMap_cons

theorem shownAll_append (first second : List Part) :
    shownAll (first ++ second) = shownAll first ++ shownAll second := List.flatMap_append

theorem shownAll_eq (parts : List Part) :
    shownAll parts =
      (parts.flatMap (·.text.toList)).filter fun c => c.toNat ∉ [7, 8, 11, 12, 13] := by
  rw [List.filter_flatMap]
  refine List.flatMap_congr fun part _ => List.filter_congr fun c _ => ?_
  simp [isDropped]

def highlights : Part → Option (List Char)
  | plain _ => none
  | part@(highlighted _) => some part.shown

def spansAt (position : Nat) (part : Part) : List Span :=
  match part.highlights with
  | none | some [] => []
  | some (_ :: _) => [⟨position, position + part.shown.length, .highlight⟩]

variable {position : Nat} {part : Part} {span : Span}

theorem of_mem_spansAt (h : span ∈ part.spansAt position) :
    part.shown ≠ [] ∧ span = ⟨position, position + part.shown.length, .highlight⟩ := by
  cases part with
  | plain text => cases h
  | highlighted text =>
      cases letters : (highlighted text).shown with
      | nil =>
          simp only [spansAt, highlights, letters] at h
          cases h
      | cons c others =>
          simp only [spansAt, highlights, letters] at h
          exact ⟨List.cons_ne_nil c others, List.mem_singleton.1 h⟩

theorem within_of_mem_spansAt (h : span ∈ part.spansAt position) :
    span.Within position (position + part.shown.length) := by
  obtain ⟨shows, rfl⟩ := of_mem_spansAt h
  exact ⟨Nat.le_refl _, Nat.lt_add_of_pos_right (List.length_pos_iff.2 shows), Nat.le_refl _⟩

theorem ordered_spansAt (position : Nat) (part : Part) :
    (part.spansAt position).Pairwise (·.stop ≤ ·.start) := by
  unfold spansAt
  split
  · exact .nil
  · exact .nil
  · exact List.pairwise_singleton _ _

theorem slices_spansAt (front : List Char) (part : Part) (rest : List Char) :
    (part.spansAt front.length).map (·.slice (front ++ (part.shown ++ rest))) =
      part.highlights.toList.filter (· ≠ []) := by
  cases part with
  | plain text => rfl
  | highlighted text =>
      cases letters : (highlighted text).shown with
      | nil => simp [spansAt, highlights, letters]
      | cons c others =>
          have taken := Span.slice_middle front (c :: others) rest .highlight
          simpa [spansAt, highlights, letters] using taken

theorem spansFrom_cons (position : Nat) (part : Part) (rest : List Part) :
    spansFrom position (part :: rest) =
      part.spansAt position ++ spansFrom (position + part.shown.length) rest := by
  cases part with
  | plain text => rfl
  | highlighted text =>
      simp only [spansFrom, spansAt, highlights]
      cases (highlighted text).shown <;> rfl

theorem spansFrom_append (position : Nat) (first second : List Part) :
    spansFrom position (first ++ second) =
      spansFrom position first ++ spansFrom (position + (shownAll first).length) second := by
  induction first generalizing position with
  | nil => rfl
  | cons part rest ih =>
      rw [List.cons_append, spansFrom_cons, spansFrom_cons, ih, List.append_assoc, shownAll_cons,
        List.length_append, Nat.add_assoc]

theorem style_of_mem_spansFrom {parts : List Part} (h : span ∈ spansFrom position parts) :
    span.style = .highlight := by
  induction parts generalizing position with
  | nil => cases h
  | cons part rest ih =>
      rw [spansFrom_cons] at h
      rcases List.mem_append.1 h with here | later
      · rw [(of_mem_spansAt here).2]
      · exact ih later

theorem within_of_mem_spansFrom {parts : List Part} (h : span ∈ spansFrom position parts) :
    span.Within position (position + (shownAll parts).length) := by
  induction parts generalizing position with
  | nil => cases h
  | cons part rest ih =>
      rw [spansFrom_cons] at h
      rw [shownAll_cons, List.length_append, ← Nat.add_assoc]
      rcases List.mem_append.1 h with here | later
      · have inside := within_of_mem_spansAt here
        exact ⟨inside.after, inside.nonempty, Nat.le_add_right_of_le inside.before⟩
      · have inside := ih later
        exact ⟨Nat.le_of_add_right_le inside.after, inside.nonempty, inside.before⟩

theorem ordered_spansFrom (position : Nat) (parts : List Part) :
    (spansFrom position parts).Pairwise (·.stop ≤ ·.start) := by
  induction parts generalizing position with
  | nil => exact .nil
  | cons part rest ih =>
      rw [spansFrom_cons, List.pairwise_append]
      refine ⟨ordered_spansAt position part, ih _, fun span here later mem => ?_⟩
      exact Nat.le_trans (within_of_mem_spansAt here).before (within_of_mem_spansFrom mem).after

theorem slices_spansFrom (front : List Char) (parts : List Part) :
    (spansFrom front.length parts).map (·.slice (front ++ shownAll parts)) =
      (parts.filterMap highlights).filter (· ≠ []) := by
  induction parts generalizing front with
  | nil => rfl
  | cons part rest ih =>
      -- Once its span is cut out, the first part counts as shown before.
      have later := ih (front ++ part.shown)
      rw [List.length_append, List.append_assoc] at later
      have split : (part :: rest).filterMap highlights =
          part.highlights.toList ++ rest.filterMap highlights := by
        rw [List.filterMap_cons]
        cases part.highlights <;> rfl
      rw [spansFrom_cons, shownAll_cons, List.map_append, slices_spansAt, later, split,
        List.filter_append]

structure Alike (first second : List Part) : Prop where
  shown : shownAll first = shownAll second
  spans : ∀ position, spansFrom position first = spansFrom position second

theorem alike_split (text text' : String) :
    Alike [plain (text ++ text')] [plain text, plain text'] := by
  constructor
  · simp [shownAll, Part.shown, Part.text, visibleChars]
  · exact fun _ => rfl

theorem alike_nil {part : Part} (h : part.shown = []) : Alike [part] [] := by
  constructor
  · simp [shownAll, h]
  · intro position
    have none : part.spansAt position = [] :=
      List.eq_nil_iff_forall_not_mem.2 fun span mem => (of_mem_spansAt mem).1 h
    rw [spansFrom_cons, none]
    rfl

end Part

namespace Line
open BrokerBootstrap.Part

theorem ofMessage_eq (level : Level) (parts : List Part) :
    ofMessage level parts = ⟨String.ofList (level.icon :: ' ' :: shownAll parts),
      ⟨0, 1, level.style⟩ :: spansFrom 2 parts⟩ := rfl

theorem text_ofMessage_plain (level : Level) (text : String) :
    (ofMessage level [plain text]).text = String.ofList [level.icon, ' '] ++ visible text := by
  rw [← String.toList_inj]
  simp [ofMessage, Part.shown, Part.text, visible]

theorem ofMessage_congr {first second : List Part} (h : Alike first second) (level : Level)
    (before after : List Part) :
    ofMessage level (before ++ first ++ after) = ofMessage level (before ++ second ++ after) := by
  simp only [ofMessage_eq, shownAll_append, spansFrom_append, h.shown, h.spans]

theorem spans_ofMessage (level : Level) (parts : List Part) :
    let line := ofMessage level parts
    line.text.toList = level.icon :: ' ' ::
      (parts.flatMap (·.text.toList)).filter (fun c => c.toNat ∉ [7, 8, 11, 12, 13]) ∧
    (∃ spans, line.spans = ⟨0, 1, level.style⟩ :: spans ∧
      spans.map (·.slice line.text.toList) = (parts.filterMap highlights).filter (· ≠ []) ∧
      (∀ span ∈ spans, span.style = .highlight) ∧
      ∀ before text after, parts = before ++ plain text :: after → ∀ span ∈ spans,
        span.stop ≤ 2 + (shownAll before).length ∨
          2 + (shownAll (before ++ [plain text])).length ≤ span.start) ∧
    line.spans.Pairwise (·.stop ≤ ·.start) ∧
    (∀ span ∈ line.spans, span.start < span.stop ∧ span.stop ≤ line.text.length) ∧
    (∀ before text text' after, ofMessage level (before ++ plain (text ++ text') :: after) =
      ofMessage level (before ++ plain text :: plain text' :: after)) ∧
    ∀ before part after, part.shown = [] →
      ofMessage level (before ++ part :: after) = ofMessage level (before ++ after) := by
  intro line
  have text : line.text.toList = [level.icon, ' '] ++ shownAll parts := String.toList_ofList
  have inside {span : Span} (mem : span ∈ spansFrom 2 parts) := within_of_mem_spansFrom mem
  refine ⟨?_, ⟨spansFrom 2 parts, rfl, ?_, ?_, ?_⟩, ?_, ?_, ?_, ?_⟩
  · rw [text, shownAll_eq]
    rfl
  · rw [text]
    exact slices_spansFrom [level.icon, ' '] parts
  · exact fun span mem => style_of_mem_spansFrom mem
  · rintro before text after rfl span mem
    rw [spansFrom_append, spansFrom_cons] at mem
    -- The plain part has no span of its own.
    rcases List.mem_append.1 mem with earlier | later
    · exact .inl (within_of_mem_spansFrom earlier).before
    · have following := (within_of_mem_spansFrom later).after
      refine .inr ?_
      simpa [shownAll_append, shownAll, Nat.add_assoc] using following
  · refine List.pairwise_cons.2 ⟨fun span mem => ?_, ordered_spansFrom 2 parts⟩
    exact Nat.le_of_succ_le (inside mem).after
  · intro span mem
    rw [← String.length_toList, text, List.length_append]
    rcases List.mem_cons.1 mem with rfl | later
    · exact ⟨Nat.one_pos, Nat.le_add_right_of_le (Nat.le_succ 1)⟩
    · exact ⟨(inside later).nonempty, (inside later).before⟩
  · intro before text text' after
    simpa using ofMessage_congr (alike_split text text') level before after
  · intro before part after silent
    simpa using ofMessage_congr (alike_nil silent) level before after

theorem spans_ofMessage_of_bell :
    let parts := [plain "a\r", highlighted "\x07", plain "[b]", highlighted "z\x0bone", plain ""]
    let line := ofMessage .warning parts
    let span : Span := ⟨6, 10, .highlight⟩
    line.text = "⚠ a[b]zone" ∧ line.spans = [⟨0, 1, .warning⟩, span] ∧
      span.slice line.text.toList = "zone".toList ∧
      2 + (shownAll ([plain "a\r", highlighted "\x07"] ++ [plain "[b]"])).length ≤ span.start ∧
      line = ofMessage .warning [plain "a\r[b]", highlighted "z\x0bone"] := by
  intro parts line span
  have listed : line.spans = [⟨0, 1, .warning⟩, span] := by decide
  obtain ⟨-, ⟨spans, same, slices, -, plains⟩, -, -, splits, silences⟩ :=
    spans_ofMessage .warning parts
  obtain rfl : spans = [span] := (List.cons.inj (same.symm.trans listed)).2
  have apart := plains [plain "a\r", highlighted "\x07"] "[b]" _ rfl span (by decide)
  have bell := silences [plain "a\r"] (highlighted "\x07")
    [plain "[b]", highlighted "z\x0bone", plain ""] rfl
  have last := silences [plain "a\r", plain "[b]", highlighted "z\x0bone"] (plain "") [] rfl
  have merged := splits [] "a\r" "[b]" [highlighted "z\x0bone"]
  exact ⟨by decide, listed, (List.cons.inj slices).1, apart.resolve_left (by decide),
    bell.trans (last.trans merged.symm)⟩

end Line

end BrokerBootstrap
