import Rcp.Theorems.MdioCodecs

/-! Which reads of registers can be answered. The burst of a request is bounded in words, that of a response in octets by
    what a message carries, so that the longest bursts of words of 32 bits are accepted and have no answer. -/

namespace Rcp
open Acf

theorem byteBusId_and_of_decodeAbb {b payload : Octets} {hdr : ByteMessageInfo} (h : decodeAbb b = .ok (hdr, payload)) :
    hdr.byteBusId &&& 0x7FF = hdr.byteBusId := by
  obtain ⟨-, -, -, rfl, -⟩ := decodeAbb_eq_ok h
  exact byteBusId_and b

/-- The room for the payload of a response. -/
def responseMaxPayload (timed : Bool) : Nat := if timed then gbbMaxPayload else abbMaxPayload

/-- A response is a message exactly when its payload has room. -/
theorem epEncodeResponse_isSome_iff {info : ByteMessageInfo} {payload : Octets} {timed : Bool} {timestamp : UInt64} :
    (∃ m, epEncodeResponse info payload timed timestamp = some m) ↔ payload.length ≤ responseMaxPayload timed := by
  cases timed with
  | true =>
    have hfits := gbb_fits_iff payload
    rw [Nat.not_lt] at hfits
    exact ⟨fun ⟨m, h⟩ => hfits.mp (encodeGbb_eq_some.mp h).1, fun h => ⟨_, encodeGbb_eq_some.mpr ⟨hfits.mpr h, rfl⟩⟩⟩
  | false => exact ⟨fun ⟨m, h⟩ => length_le_of_encodeAbb h, fun h => encodeAbb_isSome info h⟩

/-! ### Answers -/

section
variable (byteBusId : ByteBusId) (transactionNum : UInt8) (timed : Bool) (timestamp : UInt64)

/-- A read of MMD is answered with words: the response is a frame, from which the words come back. -/
def MdioAnswered (words : List UInt16) : Prop :=
  ∃ m data, mdioEncodeReadResponse byteBusId words transactionNum timed timestamp = some m ∧ m ≠ [] ∧
    mdioDecodeReadResponse m byteBusId =
      .ok { value := data, timed, timestamp := if timed then timestamp else 0, transactionNum } ∧
    mdioOutWordCount data = words.length ∧ mdioPayloadWords data = words

/-- A read of MMS is answered with words. -/
def MdioMmsAnswered (mms : UInt8) (words : List UInt32) : Prop :=
  ∃ m data, mdioEncodeMmsReadResponse byteBusId mms words transactionNum timed timestamp = some m ∧ m ≠ [] ∧
    mdioDecodeMmsReadResponse m byteBusId mms =
      .ok { value := (data, words.length), timed, timestamp := if timed then timestamp else 0, transactionNum } ∧
    mdioMmsWords mms data words.length = words

variable {byteBusId} {transactionNum} {timed} {timestamp}

/-- The bus and the word count of an accepted read. -/
theorem mdioDecodeReadRequest_bounds {b : Octets} {addr : MdioAddr} {wordCount : Nat}
    (h : mdioDecodeReadRequest b byteBusId = .ok (addr, wordCount, transactionNum)) :
    byteBusId &&& 0x7FF = byteBusId ∧ wordCount ≤ mdioMaxBurstWords := by
  obtain ⟨hdr, payload, hdec, hbus, h⟩ := epDecodeRequest_bind_eq_ok h
  refine ⟨hbus ▸ byteBusId_and_of_decodeAbb hdec, ?_⟩
  obtain ⟨-, h⟩ := of_guard h
  obtain ⟨-, h⟩ := of_guard h
  obtain ⟨-, h⟩ := of_guard h
  obtain ⟨-, h⟩ := of_guard h
  obtain ⟨-, h⟩ := of_guard h
  obtain ⟨hcount, h⟩ := of_guard h
  obtain ⟨-, h⟩ := Prod.mk.inj (Except.ok.inj h)
  exact (Prod.mk.inj h).1 ▸ Nat.not_lt.mp (not_or.mp hcount).2

theorem mdioDecodeMmsReadRequest_bounds {b : Octets} {addr : MdioMmsAddr} {wordCount : Nat}
    (h : mdioDecodeMmsReadRequest b byteBusId = .ok (addr, wordCount, transactionNum)) :
    byteBusId &&& 0x7FF = byteBusId ∧ wordCount ≤ mdioMaxBurstWords := by
  obtain ⟨hdr, payload, hdec, hbus, h⟩ := epDecodeRequest_bind_eq_ok h
  refine ⟨hbus ▸ byteBusId_and_of_decodeAbb hdec, ?_⟩
  obtain ⟨-, h⟩ := of_guard h
  obtain ⟨-, h⟩ := of_guard h
  obtain ⟨-, h⟩ := of_guard h
  obtain ⟨-, h⟩ := of_guard h
  obtain ⟨-, h⟩ := of_guard h
  obtain ⟨hcount, h⟩ := of_guard h
  obtain ⟨-, h⟩ := Prod.mk.inj (Except.ok.inj h)
  exact (Prod.mk.inj h).1 ▸ Nat.not_lt.mp (not_or.mp hcount).2

theorem mdioAnswered {words : List UInt16} (hbus : byteBusId &&& 0x7FF = byteBusId)
    (hmax : words.length ≤ mdioMaxBurstWords) : MdioAnswered byteBusId transactionNum timed timestamp words := by
  have hroom : (mdioPackWords words).length ≤ responseMaxPayload timed := by
    rw [mdioMaxBurstWords] at hmax
    rw [mdioPackWords_length, responseMaxPayload, gbbMaxPayload, abbMaxPayload, gbbHeaderLen, abbHeaderLen]
    split <;> omega
  obtain ⟨m, hm⟩ := epEncodeResponse_isSome_iff.mpr hroom
  have henc : mdioEncodeReadResponse byteBusId words transactionNum timed timestamp = some m :=
    (if_neg (Nat.not_lt.mpr hmax)).trans hm
  have hdec := mdioDecodeWordsResponse_encoded henc
  rw [hbus] at hdec
  refine ⟨m, _, henc, ?_, hdec, ?_, mdioPayloadWords_packWords words⟩
  · rintro rfl
    cases hdec
  · rw [mdioOutWordCount, mdioPackWords_length, Nat.mul_div_cancel_left _ (by decide)]

theorem mdioMmsAnswered_iff {mms : UInt8} {words : List UInt32} (hbus : byteBusId &&& 0x7FF = byteBusId)
    (hmax : words.length ≤ mdioMaxBurstWords) (hfits : ∀ word ∈ words, MdioWordFits mms word) :
    MdioMmsAnswered byteBusId transactionNum timed timestamp mms words ↔
      mdioMmsWordWidth mms * words.length ≤ responseMaxPayload timed := by
  have henc : mdioEncodeMmsReadResponse byteBusId mms words transactionNum timed timestamp =
      epEncodeResponse { byteBusId, op := opRead, rsp := 1, evt := 0, transactionNum } (mdioMmsPackWords mms words) timed
        timestamp := if_neg (Nat.not_lt.mpr hmax)
  have hroom := @epEncodeResponse_isSome_iff { byteBusId, op := opRead, rsp := 1, evt := 0, transactionNum }
    (mdioMmsPackWords mms words) timed timestamp
  rw [← mdioMmsPackWords_length, ← hroom, ← henc]
  constructor
  · rintro ⟨m, -, hm, -⟩
    exact ⟨m, hm⟩
  · rintro ⟨m, hm⟩
    have hdec := mdioDecodeMmsWordsResponse_encoded hm
    rw [hbus] at hdec
    refine ⟨m, _, hm, ?_, hdec, mdioMmsWords_packWords hfits⟩
    rintro rfl
    cases hdec

end

/-- The words of 32 bits that a response carries at most. -/
def mdioMaxAnsweredWords (timed : Bool) : Nat := if timed then 507 else 509

/-- Every accepted read of MMD can be answered, and one of MMS exactly when its words have 16 bits or the response has
    room for them. -/
theorem mdio_reads_answered_iff (b : Octets) (expectedBusId : ByteBusId) (wordCount : Nat) (requestNum : UInt8) :
    (∀ addr, mdioDecodeReadRequest b expectedBusId = .ok (addr, wordCount, requestNum) →
      ∀ words, words.length = wordCount → ∀ transactionNum timed timestamp,
        MdioAnswered expectedBusId transactionNum timed timestamp words) ∧
    (∀ addr, mdioDecodeMmsReadRequest b expectedBusId = .ok (addr, wordCount, requestNum) → ∀ timed,
      ((∀ words, words.length = wordCount → (∀ word ∈ words, MdioWordFits addr.mms word) → ∀ transactionNum timestamp,
          MdioMmsAnswered expectedBusId transactionNum timed timestamp addr.mms words) ↔
        (mdioMmsUses32bitWords addr.mms = true → wordCount ≤ mdioMaxAnsweredWords timed))) := by
  constructor
  · rintro addr h words rfl transactionNum timed timestamp
    obtain ⟨hbus, hmax⟩ := mdioDecodeReadRequest_bounds h
    exact mdioAnswered hbus hmax
  · intro addr h timed
    obtain ⟨hbus, hmax⟩ := mdioDecodeMmsReadRequest_bounds h
    have hroom : mdioMmsWordWidth addr.mms * wordCount ≤ responseMaxPayload timed ↔
        (mdioMmsUses32bitWords addr.mms = true → wordCount ≤ mdioMaxAnsweredWords timed) := by
      rw [mdioMaxBurstWords] at hmax
      rw [mdioMmsWordWidth, responseMaxPayload, mdioMaxAnsweredWords, gbbMaxPayload, abbMaxPayload, gbbHeaderLen,
        abbHeaderLen]
      cases mdioMmsUses32bitWords addr.mms <;> cases timed <;> simp <;> omega
    rw [← hroom]
    constructor
    · intro hanswered
      have hzeros : ∀ word ∈ List.replicate wordCount (0 : UInt32), MdioWordFits addr.mms word := by
        intro word hword _
        rw [List.eq_of_mem_replicate hword]
        decide
      have hlen : (List.replicate wordCount (0 : UInt32)).length = wordCount := List.length_replicate
      have := (mdioMmsAnswered_iff hbus (by rwa [hlen]) hzeros).mp (hanswered _ hlen hzeros 0 0)
      rwa [hlen] at this
    · rintro hfits words rfl hwords transactionNum timestamp
      exact (mdioMmsAnswered_iff hbus hmax hwords).mpr hfits

/-- A read of 512 words of the first block is accepted and has no answer. -/
theorem mdio_read_not_answered :
    ∃ b, mdioEncodeMmsReadRequest 5 ⟨0, 0x10⟩ 512 7 = some b ∧
      mdioDecodeMmsReadRequest b 5 = .ok (⟨0, 0x10⟩, 512, 7) ∧
      ∀ timed, mdioEncodeMmsReadResponse 5 0 (List.replicate 512 0) 7 timed 0 = none :=
  ⟨_, rfl, rfl, by decide +kernel⟩

end Rcp
