import BrokerBootstrap.LoginConfig
import BrokerBootstrap.Proofs.Encoding.Utf8
import BrokerBootstrap.Settings.PodNamespace
import Mathlib.Order.Basic

/-!
# Octets that are no text

An error stands where the longest text that the octets begin with ends. It covers the octets from
there on that begin the form of one scalar value, as many as there are, or the single octet that
begins none; together with its reason it is determined by the octets (`decode_eq_error_iff`).

Forms are prefix-free because decoding is deterministic: octets that begin two forms would be
decoded in two ways.
-/

namespace BrokerBootstrap.Utf8

/-! ## What an error says -/

def IsText (octets : List UInt8) : Prop := ∃ text, octets = encode text

/-- The octets begin the form of some scalar value, and at least the last octet of it is missing. -/
def Unfinished (octets : List UInt8) : Prop :=
  ∃ c more, String.utf8EncodeChar c = octets ++ more ∧ more ≠ []

def Leads (octet : UInt8) : Prop := ∃ c more, String.utf8EncodeChar c = octet :: more

structure Covers (covered : List UInt8) (reason : Reason) (first : UInt8) (rest : List UInt8) :
    Prop where
  alone : ¬ Leads first → covered = [first]
  unfinished : Leads first → covered <+: first :: rest ∧ Unfinished covered
  longest : Leads first → ∀ run, run <+: first :: rest → Unfinished run →
    run.length ≤ covered.length
  invalidStart : reason.text = "invalid start byte" ↔ ¬ Leads first
  truncated : reason.text = "unexpected end of data" ↔
    Unfinished covered ∧ covered = first :: rest
  invalidContinuation : reason.text = "invalid continuation byte" ↔
    Leads first ∧ covered ≠ first :: rest

structure DecodeError.Describes (e : DecodeError) (octets : List UInt8) : Prop where
  readable : IsText (octets.take e.position)
  furthest : ∀ front, front <+: octets → IsText front → front.length ≤ e.position
  covers : ∃ first rest, octets.drop e.position = first :: rest ∧
    Covers e.octets e.reason first rest

theorem isText_iff {octets : List UInt8} :
    IsText octets ↔ ∃ cs : List Char, octets = cs.flatMap String.utf8EncodeChar := by
  unfold IsText encode
  constructor
  · rintro ⟨text, rfl⟩
    exact ⟨text.toList, rfl⟩
  · rintro ⟨cs, rfl⟩
    exact ⟨String.ofList cs, by rw [String.toList_ofList]⟩

theorem decodeFrom_form_alone (c : Char) :
    decodeFrom 0 none (String.utf8EncodeChar c) = .ok [c] := by
  have whole := decodeFrom_encode [c] 0
  rwa [List.flatMap_singleton] at whole

theorem eq_of_form_prefix {c d : Char}
    (h : String.utf8EncodeChar c <+: String.utf8EncodeChar d) : c = d := by
  obtain ⟨tail, split⟩ := h
  have whole := decodeFrom_form_alone d
  obtain ⟨after, first⟩ := decodeFrom_form c 0 tail
  rw [← split, first] at whole
  obtain ⟨others, -, same⟩ := map_eq_ok.1 whole
  exact (List.cons.inj same).1

theorem decodeFrom_forms (cs : List Char) (position : Nat) (rest : List UInt8) :
    ∃ after, decodeFrom position none (cs.flatMap String.utf8EncodeChar ++ rest) =
      (decodeFrom after none rest).map (cs ++ ·) := by
  induction cs generalizing position with
  | nil =>
      refine ⟨position, ?_⟩
      rw [List.flatMap_nil, List.nil_append]
      cases decodeFrom position none rest <;> rfl
  | cons c others ih =>
      obtain ⟨next, first⟩ := decodeFrom_form c position
        (others.flatMap String.utf8EncodeChar ++ rest)
      obtain ⟨after, later⟩ := ih next
      refine ⟨after, ?_⟩
      rw [List.flatMap_cons, List.append_assoc, first, later]
      cases decodeFrom after none rest <;> rfl

theorem isText_of_append {cs : List Char} {more : List UInt8}
    (h : IsText (cs.flatMap String.utf8EncodeChar ++ more)) : IsText more := by
  obtain ⟨ds, same⟩ := isText_iff.1 h
  have whole := decodeFrom_encode ds 0
  obtain ⟨after, front⟩ := decodeFrom_forms cs 0 more
  rw [← same, front] at whole
  obtain ⟨others, decoded, -⟩ := map_eq_ok.1 whole
  exact isText_iff.2 ⟨others, encode_of_decodeFrom (by simp) decoded⟩

theorem Unfinished.not_form_prefix {octets : List UInt8} (h : Unfinished octets) (c : Char) :
    ¬ String.utf8EncodeChar c <+: octets := by
  intro inside
  obtain ⟨d, more, form, missing⟩ := h
  obtain rfl : c = d := by
    apply eq_of_form_prefix
    rw [form]
    exact List.prefix_append_of_prefix inside
  have shorter := inside.length_le
  have positive := List.length_pos_iff.2 missing
  rw [form, List.length_append] at shorter
  omega

theorem Unfinished.leads {first : UInt8} {rest : List UInt8} (h : Unfinished (first :: rest)) :
    Leads first := by
  obtain ⟨c, more, form, -⟩ := h
  exact ⟨c, rest ++ more, form⟩

namespace Pending

variable {p q : Pending} {octet : UInt8}

/-- A sequence that octets lead to, and that some scalar value can complete. -/
structure Reached (p : Pending) : Prop where
  opens : p.Opens
  bounds : p.low ≤ p.high
  read : ∀ position rest,
    decodeFrom position none (p.octets ++ rest) = decodeFrom position (some p) rest

theorem low_le_high_opened (octet : UInt8) (bits later : Nat) :
    (opened octet bits later).low ≤ (opened octet bits later).high := by
  rw [low_opened, high_opened]
  split_ifs <;> omega

theorem bounds_of_start (h : start octet = .pending p) : p.low ≤ p.high := by
  simp only [start] at h
  split_ifs at h <;> cases h <;> exact low_le_high_opened _ _ _

theorem reached_of_start (h : start octet = .pending p) : p.Reached := by
  obtain ⟨octets, opens⟩ := opens_of_start_eq_pending h
  refine ⟨opens, bounds_of_start h, fun position rest => ?_⟩
  rw [octets, List.singleton_append, decodeFrom, h]

theorem Reached.next (reached : p.Reached) (h : p.next octet = .pending q) : q.Reached := by
  obtain ⟨octets, opens⟩ := reached.opens.next h
  refine ⟨opens, ?_, fun position rest => ?_⟩
  · obtain ⟨-, -, ⟨-, step⟩ | ⟨later, -, step⟩⟩ := next_cases (p := p) (by rw [h]; simp)
    · cases step.symm.trans h
    · rw [← Step.pending.inj (step.symm.trans h)]
      exact (by decide : 0x80 ≤ 0xBF)
  · rw [octets, List.append_assoc, List.singleton_append, reached.read, decodeFrom, h]

/-- The least number with the bits of the sequence is still awaited. -/
theorem Reached.exists_awaits (reached : p.Reached) : ∃ n, p.Awaits n := by
  have low := reached.opens.low
  have high := reached.opens.high
  have bounds := reached.bounds
  have positive : 0 < 64 ^ p.later := Nat.pow_pos (by decide)
  let n := (p.bits * 64 + (p.low - 0x80)) * 64 ^ p.later
  have whole : n / 64 ^ p.later = p.bits * 64 + (p.low - 0x80) :=
    Nat.mul_div_cancel _ positive
  refine ⟨n, ?_, ?_, ?_⟩
  · rw [Nat.pow_succ, ← Nat.div_div_eq_div_mul, whole]
    omega
  · rw [whole]
    omega
  · rw [whole]
    omega

theorem Reached.unfinished (reached : p.Reached) : Unfinished p.octets := by
  obtain ⟨n, awaited⟩ := reached.exists_awaits
  refine ⟨_, _, (reached.opens.form n awaited).2, ?_⟩
  rw [sextets]
  exact List.cons_ne_nil _ _

theorem Reached.exists_first (reached : p.Reached) :
    ∃ first rest, p.octets = first :: rest ∧ Leads first := by
  cases split : p.octets with
  | nil =>
      -- Without octets, the end of the input would be a text and an error.
      have ending := reached.read 0 []
      rw [split] at ending
      cases ending
  | cons first rest => exact ⟨first, rest, rfl, (split ▸ reached.unfinished).leads⟩

theorem Reached.not_form_of_refused (reached : p.Reached) (refused : p.next octet = .refused)
    (c : Char) : ¬ p.octets ++ [octet] <+: String.utf8EncodeChar c := by
  rintro ⟨more, form⟩
  have whole := decodeFrom_form_alone c
  rw [← form, List.append_assoc, List.singleton_append, reached.read, decodeFrom, refused] at whole
  cases whole

/-- A longer run would have to go on with the octet that is refused. -/
theorem Reached.length_le_of_refused (reached : p.Reached) (refused : p.next octet = .refused)
    {rest run : List UInt8} (inside : run <+: p.octets ++ octet :: rest)
    (unfinished : Unfinished run) : run.length ≤ p.octets.length := by
  by_contra longer
  rw [List.append_cons] at inside
  have beyond : p.octets ++ [octet] <+: run := by
    refine List.prefix_of_prefix_length_le (List.prefix_append _ _) inside ?_
    simp only [List.length_append, List.length_singleton]
    omega
  obtain ⟨c, more, form, -⟩ := unfinished
  refine reached.not_form_of_refused refused c (beyond.trans ?_)
  rw [form]
  exact List.prefix_append _ _

end Pending

theorem not_leads_of_refused {octet : UInt8} (refused : start octet = .refused) :
    ¬ Leads octet := by
  rintro ⟨c, more, form⟩
  have whole := decodeFrom_form_alone c
  rw [form, decodeFrom, refused] at whole
  cases whole

/-! ## Where decoding stops -/

/-- The ways in which decoding stops: the octets that the error covers, its reason, and the octets
that no scalar value has been made of. -/
inductive Stuck : List UInt8 → Reason → List UInt8 → Prop where
  | start {octet : UInt8} {rest : List UInt8} (refused : start octet = .refused) :
      Stuck [octet] .invalidStart (octet :: rest)
  | truncated {p : Pending} (reached : p.Reached) : Stuck p.octets .truncated p.octets
  | continuation {p : Pending} {octet : UInt8} {rest : List UInt8} (reached : p.Reached)
      (refused : p.next octet = .refused) :
      Stuck p.octets .invalidContinuation (p.octets ++ octet :: rest)

theorem stuck_of_decodeFrom {position : Nat} {pending : Option Pending} {octets : List UInt8}
    {e : DecodeError} (reached : ∀ p ∈ pending, p.Reached)
    (h : decodeFrom position pending octets = .error e) :
    ∃ (cs : List Char) (left : List UInt8),
      begun pending ++ octets = cs.flatMap String.utf8EncodeChar ++ left ∧
      e.position = position + (cs.flatMap String.utf8EncodeChar).length ∧
      Stuck e.octets e.reason left := by
  -- On the octets to come; those of a sequence that has begun are read already.
  induction octets generalizing position pending with
  | nil =>
      cases pending with
      | none => cases h
      | some p =>
          cases h
          exact ⟨[], p.octets, by simp [begun], rfl, .truncated (reached p rfl)⟩
  | cons octet rest ih =>
      cases pending with
      | none =>
          rw [decodeFrom] at h
          cases step : start octet with
          | refused =>
              rw [step] at h
              cases h
              exact ⟨[], octet :: rest, rfl, rfl, .start step⟩
          | scalar c =>
              rw [step] at h
              obtain ⟨cs, left, split, place, stuck⟩ := ih (by simp) (map_eq_error.1 h)
              refine ⟨c :: cs, left, ?_, ?_, stuck⟩
              · rw [List.flatMap_cons, form_of_start_eq_scalar step, List.append_assoc, ← split]
                rfl
              · rw [place, List.flatMap_cons, form_of_start_eq_scalar step, List.length_append,
                  Nat.add_assoc]
                rfl
          | pending q =>
              rw [step] at h
              have reachedNext := Pending.reached_of_start step
              obtain ⟨cs, left, split, place, stuck⟩ := ih (by simpa using reachedNext) h
              refine ⟨cs, left, ?_, place, stuck⟩
              rw [← split, begun, begun, (opens_of_start_eq_pending step).1]
              rfl
      | some p =>
          have reached' : p.Reached := reached p rfl
          rw [decodeFrom] at h
          cases step : p.next octet with
          | refused =>
              rw [step] at h
              cases h
              exact ⟨[], p.octets ++ octet :: rest, by simp [begun], rfl,
                .continuation reached' step⟩
          | scalar c =>
              rw [step] at h
              have form := reached'.opens.form_of_scalar step
              obtain ⟨cs, left, split, place, stuck⟩ := ih (by simp) (map_eq_error.1 h)
              refine ⟨c :: cs, left, ?_, ?_, stuck⟩
              · rw [List.flatMap_cons, form, List.append_assoc, ← split]
                simp [begun]
              · rw [place, List.flatMap_cons, form]
                simp only [List.length_append, List.length_singleton]
                omega
          | pending q =>
              rw [step] at h
              have reachedNext := reached'.next step
              obtain ⟨cs, left, split, place, stuck⟩ := ih (by simpa using reachedNext) h
              refine ⟨cs, left, ?_, place, stuck⟩
              rw [← split, begun, begun, (reached'.opens.next step).1]
              simp

namespace Stuck

variable {covered left : List UInt8} {reason : Reason}

theorem not_form_prefix (stuck : Stuck covered reason left) (c : Char) :
    ¬ String.utf8EncodeChar c <+: left := by
  intro inside
  cases stuck with
  | start refused =>
      cases form : String.utf8EncodeChar c with
      | nil => exact String.utf8EncodeChar_ne_nil form
      | cons first more =>
          rw [form, List.cons_prefix_cons] at inside
          obtain ⟨rfl, -⟩ := inside
          exact not_leads_of_refused refused ⟨c, more, form⟩
  | truncated reached => exact reached.unfinished.not_form_prefix c inside
  | continuation reached refused =>
      rw [List.append_cons] at inside
      rcases List.prefix_or_prefix_of_prefix inside (List.prefix_append _ _) with shorter | longer
      · rcases List.prefix_concat_iff.1 shorter with same | within
        · exact reached.not_form_of_refused refused c (same ▸ List.prefix_rfl)
        · exact reached.unfinished.not_form_prefix c within
      · exact reached.not_form_of_refused refused c longer

theorem length_le (stuck : Stuck covered reason left) {cs : List Char} {front : List UInt8}
    (inside : front <+: cs.flatMap String.utf8EncodeChar ++ left) (text : IsText front) :
    front.length ≤ (cs.flatMap String.utf8EncodeChar).length := by
  by_contra longer
  obtain ⟨more, rfl⟩ : cs.flatMap String.utf8EncodeChar <+: front :=
    List.prefix_of_prefix_length_le (List.prefix_append _ _) inside (by omega)
  obtain ⟨ds, rfl⟩ := isText_iff.1 (isText_of_append text)
  cases ds with
  | nil => simp at longer
  | cons d others =>
      rw [List.prefix_append_right_inj, List.flatMap_cons] at inside
      exact stuck.not_form_prefix d ((List.prefix_append _ _).trans inside)

theorem covers (stuck : Stuck covered reason left) :
    ∃ first rest, left = first :: rest ∧ Covers covered reason first rest := by
  cases stuck with
  | start refused =>
      have outside := not_leads_of_refused refused
      refine ⟨_, _, rfl, fun _ => rfl, fun leads => absurd leads outside,
        fun leads => absurd leads outside, ?_, ?_, ?_⟩
      · exact iff_of_true rfl outside
      · exact iff_of_false (by decide) fun ⟨unfinished, _⟩ => outside unfinished.leads
      · exact iff_of_false (by decide) fun ⟨leads, _⟩ => outside leads
  | truncated reached =>
      obtain ⟨first, rest, split, leads⟩ := reached.exists_first
      have unfinished := reached.unfinished
      refine ⟨first, rest, split, fun outside => absurd leads outside, ?_, ?_, ?_, ?_, ?_⟩
      · exact fun _ => ⟨split ▸ List.prefix_rfl, unfinished⟩
      · intro _ run inside _
        rw [split]
        exact inside.length_le
      · exact iff_of_false (by decide) (not_not_intro leads)
      · exact iff_of_true rfl ⟨unfinished, split⟩
      · exact iff_of_false (by decide) fun ⟨_, different⟩ => different split
  | @continuation p octet rest reached refused =>
      obtain ⟨first, others, split, leads⟩ := reached.exists_first
      have unfinished := reached.unfinished
      have whole : p.octets ++ octet :: rest = first :: (others ++ octet :: rest) := by
        rw [split]
        rfl
      have more : p.octets ≠ p.octets ++ octet :: rest := by simp
      refine ⟨first, others ++ octet :: rest, whole, fun outside => absurd leads outside, ?_, ?_,
        ?_, ?_, ?_⟩
      · exact fun _ => ⟨whole ▸ List.prefix_append _ _, unfinished⟩
      · rw [← whole]
        exact fun _ run => reached.length_le_of_refused refused
      · exact iff_of_false (by decide) (not_not_intro leads)
      · exact iff_of_false (by decide) fun ⟨_, same⟩ => more (same.trans whole.symm)
      · exact iff_of_true rfl ⟨leads, fun same => more (same.trans whole.symm)⟩

end Stuck

theorem Reason.text_injective : Function.Injective Reason.text := by
  intro reason other
  cases reason <;> cases other <;> decide

theorem Covers.unique {covered covered' : List UInt8} {reason reason' : Reason} {first : UInt8}
    {rest : List UInt8} (h : Covers covered reason first rest)
    (h' : Covers covered' reason' first rest) : covered = covered' ∧ reason = reason' := by
  by_cases leads : Leads first
  · have same : covered = covered' := by
      obtain ⟨inside, unfinished⟩ := h.unfinished leads
      obtain ⟨inside', unfinished'⟩ := h'.unfinished leads
      have shorter := h'.longest leads _ inside unfinished
      have longer := h.longest leads _ inside' unfinished'
      exact (List.prefix_of_prefix_length_le inside inside' shorter).eq_of_length (by omega)
    refine ⟨same, Reason.text_injective ?_⟩
    subst same
    by_cases whole : covered = first :: rest
    · have unfinished := (h.unfinished leads).2
      rw [h.truncated.2 ⟨unfinished, whole⟩, h'.truncated.2 ⟨unfinished, whole⟩]
    · rw [h.invalidContinuation.2 ⟨leads, whole⟩, h'.invalidContinuation.2 ⟨leads, whole⟩]
  · refine ⟨(h.alone leads).trans (h'.alone leads).symm, Reason.text_injective ?_⟩
    rw [h.invalidStart.2 leads, h'.invalidStart.2 leads]

namespace DecodeError

variable {e other : DecodeError} {octets : List UInt8}

theorem Describes.position_lt (h : e.Describes octets) : e.position < octets.length := by
  obtain ⟨first, rest, split, -⟩ := h.covers
  by_contra beyond
  rw [List.drop_eq_nil_of_le (by omega)] at split
  cases split

theorem Describes.not_isText (h : e.Describes octets) : ¬ IsText octets := by
  intro text
  have whole := h.furthest octets List.prefix_rfl text
  have inside := h.position_lt
  omega

theorem Describes.position_le (h : e.Describes octets) (h' : other.Describes octets) :
    e.position ≤ other.position := by
  have inside := h.position_lt
  have reaches := h'.furthest _ (List.take_prefix _ _) h.readable
  rw [List.length_take] at reaches
  omega

theorem Describes.unique (h : e.Describes octets) (h' : other.Describes octets) : e = other := by
  have place := Nat.le_antisymm (h.position_le h') (h'.position_le h)
  obtain ⟨first, rest, split, covers⟩ := h.covers
  obtain ⟨first', rest', split', covers'⟩ := h'.covers
  rw [← place, split] at split'
  cases split'
  obtain ⟨octets, reason⟩ := covers.unique covers'
  cases e
  cases other
  cases place
  cases octets
  cases reason
  rfl

end DecodeError

theorem describes_of_decode {octets : List UInt8} {e : DecodeError}
    (h : decode octets = .error e) : e.Describes octets := by
  obtain ⟨cs, left, split, place, stuck⟩ := stuck_of_decodeFrom (by simp) (map_eq_error.1 h)
  have whole : octets = cs.flatMap String.utf8EncodeChar ++ left := split
  rw [Nat.zero_add] at place
  refine ⟨?_, fun front inside text => ?_, ?_⟩
  · rw [whole, place, List.take_left]
    exact isText_iff.2 ⟨cs, rfl⟩
  · rw [place]
    exact stuck.length_le (whole ▸ inside) text
  · rw [whole, place, List.drop_left]
    exact stuck.covers

theorem decode_eq_error_iff {octets : List UInt8} {e : DecodeError} :
    decode octets = .error e ↔ e.Describes octets := by
  refine ⟨describes_of_decode, fun describes => ?_⟩
  cases decoded : decode octets with
  | ok text => exact absurd ⟨text, decode_eq_ok_iff.1 decoded⟩ describes.not_isText
  | error cause => rw [(describes_of_decode decoded).unique describes]

/-! ## Payloads and namespace files -/

structure Ends (octets : List UInt8) (value : String → String) (report : DecodeError → Problem)
    (outcome : Except Problem String) : Prop where
  accepts : ∀ result, outcome = .ok result ↔ ∃ text, octets = encode text ∧ result = value text
  refuses : ∀ e, outcome = .error (report e) ↔ e.Describes octets
  described : ¬ IsText octets → ∃ e, e.Describes octets ∧ outcome = .error (report e)

theorem ends_of_decode {octets : List UInt8} {value : String → String}
    {report : DecodeError → Problem} {outcome : Except Problem String}
    (injective : Function.Injective report)
    (read : ∀ text, decode octets = .ok text → outcome = .ok (value text))
    (unread : ∀ e, decode octets = .error e → outcome = .error (report e)) :
    Ends octets value report outcome := by
  cases decoded : decode octets with
  | ok text =>
      have ending := read text decoded
      refine ⟨fun result => ?_, fun e => ?_, fun unreadable => ?_⟩
      · simp [ending, ← decode_eq_ok_iff, decoded, eq_comm]
      · simp [ending, ← decode_eq_error_iff, decoded]
      · exact absurd ⟨text, decode_eq_ok_iff.1 decoded⟩ unreadable
  | error cause =>
      have ending := unread cause decoded
      refine ⟨fun result => ?_, fun e => ?_, fun _ => ?_⟩
      · simp [ending, ← decode_eq_ok_iff, decoded]
      · simp [ending, ← decode_eq_error_iff, decoded, injective.eq_iff]
      · exact ⟨cause, decode_eq_error_iff.1 decoded, ending⟩

theorem octets_decided (octets : List UInt8) :
    (∀ secret entry payload : String, Base64.decode payload.toList = .ok octets →
      Ends octets Text.strip (fun e => .failure (.undecodable secret entry (.utf8 e)))
        (LoginConfig.decodePayload secret entry payload)) ∧
    ∀ (settings : Settings) (fs : FileSystem),
      (Path.ofText settings.namespaceFile).hasNul = false →
      fs.read (Path.ofText settings.namespaceFile) = .ok octets →
      Ends octets Settings.namespaceOfText (fun e => .fault (.notText e))
        (settings.podNamespace fs).outcome := by
  constructor
  · intro secret entry payload data
    refine ends_of_decode ?_ ?_ ?_
    · intro e other same
      cases same
      rfl
    · intro text decoded
      simp only [LoginConfig.decodePayload, data, decoded]
    · intro e decoded
      simp only [LoginConfig.decodePayload, data, decoded]
  · intro settings fs clean opened
    refine ends_of_decode ?_ ?_ ?_
    · intro e other same
      cases same
      rfl
    · intro text decoded
      simp [Settings.podNamespace, clean, opened, decoded, Traced.pure_eq]
    · intro e decoded
      simp [Settings.podNamespace, clean, opened, decoded, Traced.abort]

theorem octets_decided_inside_sequence :
    let settings : Settings := { nodeName := "n", namespaceFile := "ns" }
    let empty : FileSystem := ∅
    let fs := empty.put ["ns"] (.file [0x61, 0xF4, 0x90, 0x80, 0x80])
    Base64.decode "YeKC".toList = .ok [0x61, 0xE2, 0x82] ∧
      (⟨1, [0xE2, 0x82], .truncated⟩ : DecodeError).Describes [0x61, 0xE2, 0x82] ∧
      (settings.podNamespace fs).outcome =
        .error (.fault (.notText ⟨1, [0xF4], .invalidContinuation⟩)) ∧
      (⟨1, [0xF4], .invalidContinuation⟩ : DecodeError).Describes
        [0x61, 0xF4, 0x90, 0x80, 0x80] := by
  intro settings empty fs
  have data : Base64.decode "YeKC".toList = .ok [0x61, 0xE2, 0x82] := by decide +kernel
  have refused : LoginConfig.decodePayload "s" "e" "YeKC" =
      .error (.failure (.undecodable "s" "e" (.utf8 ⟨1, [0xE2, 0x82], .truncated⟩))) := by
    decide +kernel
  have clean : (Path.ofText settings.namespaceFile).hasNul = false := by decide
  have opened : fs.read (Path.ofText settings.namespaceFile) =
      .ok [0x61, 0xF4, 0x90, 0x80, 0x80] := by decide +kernel
  have stopped : (settings.podNamespace fs).outcome =
      .error (.fault (.notText ⟨1, [0xF4], .invalidContinuation⟩)) := by decide +kernel
  obtain ⟨payloads, -⟩ := octets_decided [0x61, 0xE2, 0x82]
  obtain ⟨-, files⟩ := octets_decided [0x61, 0xF4, 0x90, 0x80, 0x80]
  exact ⟨data, ((payloads "s" "e" "YeKC" data).refuses _).1 refused, stopped,
    ((files settings fs clean opened).refuses _).1 stopped⟩

end BrokerBootstrap.Utf8
