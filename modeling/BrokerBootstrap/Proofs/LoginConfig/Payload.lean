import BrokerBootstrap.Proofs.Encoding.Base64.Reading
import BrokerBootstrap.Proofs.Encoding.Utf8
import BrokerBootstrap.Proofs.LoginConfig.Precedence
import BrokerBootstrap.Proofs.Text.Blank

namespace BrokerBootstrap.LoginConfig

def Encodes (payload text : String) : Prop :=
  ∃ data pads, payload.toList = data ++ List.replicate pads '=' ∧
    Base64.FormOf (Utf8.encode text) data pads

theorem decodes_iff {payload value : String} :
    Decodes payload value ↔ ∃ text, Encodes payload text ∧ value = Text.strip text := by
  unfold Decodes Encodes
  constructor
  · rintro ⟨octets, text, decoded, read, rfl⟩
    obtain rfl := Utf8.decode_eq_ok_iff.1 read
    exact ⟨text, Base64.decode_eq_ok_iff.1 decoded, rfl⟩
  · rintro ⟨text, form, rfl⟩
    exact ⟨Utf8.encode text, text, Base64.decode_eq_ok_iff.2 form, Utf8.decode_eq_ok_iff.2 rfl, rfl⟩

theorem decodePayload_accepts (secret entry payload : String) :
    let outcome := decodePayload secret entry payload
    Base64.decode payload.toList = Base64.read payload.toList ∧
    (∀ value, outcome = .ok value ↔ ∃ text, Encodes payload text ∧ value = Text.strip text) ∧
    ((∃ c ∈ payload.toList, 0x80 ≤ c.toNat) → outcome = .error (.fault .nonAsciiPayload)) ∧
    ((∀ c ∈ payload.toList, c.toNat < 0x80) → (¬ ∃ text, Encodes payload text) →
      ∃ cause, outcome = .error (.failure (.undecodable secret entry cause))) := by
  refine ⟨Base64.decode_eq_read _, fun value => ?_, fun foreign => ?_, fun ascii unread => ?_⟩
  · rw [decodePayload_eq_ok_iff, decodes_iff]
  · obtain ⟨fault, faulty⟩ := decodePayload_faults_iff.2 foreign
    rcases decodePayload_eq_error faulty with same | ⟨cause, different⟩
    · rw [faulty, same]
    · cases different
  · cases ending : decodePayload secret entry payload with
    | ok value =>
        obtain ⟨text, encodes, -⟩ := decodes_iff.1 (decodePayload_eq_ok_iff.1 ending)
        exact absurd ⟨text, encodes⟩ unread
    | error problem =>
        rcases decodePayload_eq_error ending with rfl | ⟨cause, rfl⟩
        · obtain ⟨c, mem, high⟩ := decodePayload_faults_iff.1 ⟨_, ending⟩
          exact absurd (ascii c mem) (Nat.not_lt.2 high)
        · exact ⟨cause, rfl⟩

theorem decodePayload_accepts_spare_bits :
    (∃ text, Encodes "YR==" text ∧ "a" = Text.strip text) ∧
      decodePayload "s" "e" "Y\u00e9==" = .error (.fault .nonAsciiPayload) ∧
      ∃ cause, decodePayload "s" "e" "YQ=" = .error (.failure (.undecodable "s" "e" cause)) := by
  obtain ⟨-, spare, -⟩ := decodePayload_accepts "s" "e" "YR=="
  obtain ⟨-, -, foreign, -⟩ := decodePayload_accepts "s" "e" "Y\u00e9=="
  obtain ⟨-, short, -, ascii⟩ := decodePayload_accepts "s" "e" "YQ="
  have incomplete : ¬ ∃ value, Decodes "YQ=" value := by decide +kernel
  have unread : ¬ ∃ text, Encodes "YQ=" text := by
    rintro ⟨text, encodes⟩
    exact incomplete ⟨_, decodePayload_eq_ok_iff.1 ((short _).2 ⟨text, encodes, rfl⟩)⟩
  have all : "YQ=".toList.all (fun c => c.toNat < 0x80) = true := by decide +kernel
  refine ⟨(spare "a").1 (by decide +kernel), foreign ⟨'\u00e9', by decide, by decide⟩, ?_⟩
  exact ascii (fun c mem => of_decide_eq_true (List.all_eq_true.1 all c mem)) unread

def payloadOf (text : String) : String := String.ofList (Base64.encode (Utf8.encode text))

theorem decodes_payloadOf (text : String) : Decodes (payloadOf text) (Text.strip text) := by
  refine ⟨Utf8.encode text, text, ?_, Utf8.decode_eq_ok_iff.2 rfl, rfl⟩
  rw [payloadOf, String.toList_ofList, Base64.decode_encode]

theorem decodePayload_payloadOf (secret entry text : String) :
    decodePayload secret entry (payloadOf text) = .ok (Text.strip text) :=
  decodePayload_eq_ok_iff.2 (decodes_payloadOf text)

theorem decodePayload_encoded (secret entry : String) :
    (∀ text, decodePayload secret entry (payloadOf text) = .ok (Text.strip text)) ∧
    (∀ text, Text.Stripped text → decodePayload secret entry (payloadOf text) = .ok text) ∧
    ∀ payload value, decodePayload secret entry payload = .ok value →
      decodePayload secret entry (payloadOf value) = .ok value := by
  refine ⟨decodePayload_payloadOf secret entry, ?_, ?_⟩
  · intro text stripped
    rw [decodePayload_payloadOf, Text.strip_of_stripped stripped]
  · intro payload value read
    obtain ⟨text, -, rfl⟩ := decodes_iff.1 (decodePayload_eq_ok_iff.1 read)
    rw [decodePayload_payloadOf, Text.strip_strip]

theorem decodePayload_encoded_of_blanks :
    decodePayload "s" "e" (payloadOf "  \u00e9\n") = .ok "\u00e9" ∧
      decodePayload "s" "e" (payloadOf "p \u00e9") = .ok "p \u00e9" ∧
      decodePayload "s" "e" "IHAg" = .ok "p" ∧
      decodePayload "s" "e" (payloadOf "p") = .ok "p" := by
  obtain ⟨stripping, keeping, again⟩ := decodePayload_encoded "s" "e"
  have stripped : Text.Stripped "p \u00e9" := by
    rw [← show Text.strip " p \u00e9 " = "p \u00e9" by decide +kernel]
    exact Text.stripped_strip _
  have read : decodePayload "s" "e" "IHAg" = .ok "p" := by decide +kernel
  refine ⟨?_, keeping _ stripped, read, again _ _ read⟩
  rw [stripping, show Text.strip "  \u00e9\n" = "\u00e9" by decide +kernel]

end BrokerBootstrap.LoginConfig
