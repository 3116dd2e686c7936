import Rcp.Theorems.RequestCodecs

/-! The messages of the MDIO endpoint, of both families of addresses and both widths of words: what is encoded is decoded,
    no request is one of both families, and which reads can be answered. -/

namespace Rcp
open Acf

/-! ### Words -/

/-- The words in octets are those that were packed into them. -/
theorem mdioPayloadWords_packWords (words : List UInt16) : mdioPayloadWords (mdioPackWords words) = words := by
  rw [mdioPayloadWords, mdioPackWords_length, Nat.mul_div_cancel_left _ (by decide)]
  induction words with
  | nil => rfl
  | cons word words ih =>
    have hfirst : be16 (putU16 word) 0 = word := be16_putU16 word
    have hrest : ∀ i, mdioUnpackWordAt (mdioPackWords (word :: words)) (i + 1) = mdioUnpackWordAt (mdioPackWords words) i :=
      fun _ => rfl
    rw [List.length_cons, List.range_succ_eq_map, List.map_cons, List.map_map]
    simp only [Function.comp_def, Nat.succ_eq_add_one, hrest, ih]
    exact congrArg (· :: words) hfirst

/-- A word has the width of the words of a block. -/
def MdioWordFits (mms : UInt8) (word : UInt32) : Prop := mdioMmsUses32bitWords mms = false → word.toNat < 2 ^ 16

/-- The words of a block in octets. -/
def mdioMmsWords (mms : UInt8) (data : Octets) (wordCount : Nat) : List UInt32 :=
  (List.range wordCount).map (mdioMmsUnpackWordAt mms data)

theorem mdioMmsWordWidth_pos (mms : UInt8) : 0 < mdioMmsWordWidth mms := by
  rw [mdioMmsWordWidth]
  split <;> decide

theorem mdioMmsPackWord_length (mms : UInt8) (word : UInt32) :
    (mdioMmsPackWord mms word).length = mdioMmsWordWidth mms := by
  rw [mdioMmsPackWord, mdioMmsWordWidth]
  split <;> simp

theorem mdioMmsPackWords_length (mms : UInt8) (words : List UInt32) :
    (mdioMmsPackWords mms words).length = mdioMmsWordWidth mms * words.length := by
  induction words with
  | nil => rfl
  | cons word words ih =>
    rw [mdioMmsPackWords] at ih
    rw [mdioMmsPackWords, List.flatMap_cons, List.length_append, mdioMmsPackWord_length, ih, List.length_cons,
      Nat.mul_succ, Nat.add_comm]

theorem mdioMmsUnpackWordAt_zero {mms : UInt8} {word : UInt32} (h : MdioWordFits mms word) (rest : Octets) :
    mdioMmsUnpackWordAt mms (mdioMmsPackWord mms word ++ rest) 0 = word := by
  cases hwide : mdioMmsUses32bitWords mms with
  | true =>
    have hwidth : mdioMmsWordWidth mms = 4 := by rw [mdioMmsWordWidth, hwide, if_pos rfl]
    rw [mdioMmsUnpackWordAt, mdioMmsPackWord, hwidth, if_pos rfl, if_pos rfl]
    exact getU32_putU32 word
  | false =>
    have hwidth : mdioMmsWordWidth mms = 2 := by rw [mdioMmsWordWidth, hwide, if_neg Bool.false_ne_true]
    have hnarrow : ((word &&& 0xFFFF).toUInt16).toUInt32 = word := by
      apply UInt32.toNat_inj.mp
      rw [UInt16.toNat_toUInt32, UInt32.toNat_toUInt16, UInt32.toNat_and]
      change (word.toNat &&& (2 ^ 16 - 1)) % 2 ^ 16 = word.toNat
      rw [Nat.and_two_pow_sub_one_eq_mod, Nat.mod_mod, Nat.mod_eq_of_lt (h hwide)]
    rw [mdioMmsUnpackWordAt, mdioMmsPackWord, hwidth, if_neg (by decide), if_neg (by decide)]
    exact (congrArg UInt16.toUInt32 (be16_putU16 _)).trans hnarrow

theorem mdioMmsUnpackWordAt_succ (mms : UInt8) (word : UInt32) (rest : Octets) (i : Nat) :
    mdioMmsUnpackWordAt mms (mdioMmsPackWord mms word ++ rest) (i + 1) = mdioMmsUnpackWordAt mms rest i := by
  have hlen := mdioMmsPackWord_length mms word
  have hat : ∀ j, Octets.at (mdioMmsPackWord mms word ++ rest) (mdioMmsWordWidth mms * (i + 1) + j) =
      Octets.at rest (mdioMmsWordWidth mms * i + j) := by
    intro j
    rw [Nat.mul_succ, Nat.add_comm (mdioMmsWordWidth mms * i), Nat.add_assoc, ← hlen]
    exact Octets.at_append_right ..
  have hzero := hat 0
  simp only [Nat.add_zero] at hzero
  simp only [mdioMmsUnpackWordAt, getU32, be16, hat, hzero]

/-- The words of a block are those that were packed, if they have its width. -/
theorem mdioMmsWords_packWords {mms : UInt8} {words : List UInt32} (h : ∀ word ∈ words, MdioWordFits mms word) :
    mdioMmsWords mms (mdioMmsPackWords mms words) words.length = words := by
  induction words with
  | nil => rfl
  | cons word words ih =>
    have hrest := ih fun w hw => h w (List.mem_cons_of_mem word hw)
    have hfirst := mdioMmsUnpackWordAt_zero (h word (List.mem_cons_self ..)) (mdioMmsPackWords mms words)
    have hsucc := mdioMmsUnpackWordAt_succ mms word (mdioMmsPackWords mms words)
    rw [mdioMmsWords] at hrest
    rw [mdioMmsWords, List.length_cons, List.range_succ_eq_map, List.map_cons, List.map_map]
    change mdioMmsUnpackWordAt mms (mdioMmsPackWord mms word ++ mdioMmsPackWords mms words) 0 ::
      (List.range words.length).map
        (fun i => mdioMmsUnpackWordAt mms (mdioMmsPackWord mms word ++ mdioMmsPackWords mms words) (i + 1)) = _
    simp only [hsucc, hfirst, hrest]

theorem mdioMmsWordCountOf_mul (mms : UInt8) (wordCount : Nat) :
    mdioMmsWordCountOf mms (mdioMmsWordWidth mms * wordCount) = some wordCount := by
  rw [mdioMmsWordCountOf, Nat.mul_mod_right, Nat.mul_div_cancel_left _ (mdioMmsWordWidth_pos mms)]
  rfl

variable {byteBusId : ByteBusId} {transactionNum : UInt8} {timed : Bool} {timestamp : UInt64} {m b : Octets}

/-! ### Requests -/

theorem mdioEncodeMmsReadRequest_eq_some {addr : MdioMmsAddr} {wordCount : Nat} :
    mdioEncodeMmsReadRequest byteBusId addr wordCount transactionNum = some m ↔
      mdioMmsAddrValid addr = true ∧ wordCount ≠ 0 ∧ wordCount ≤ mdioMaxBurstWords ∧
        encodeAbb { byteBusId, op := opRead, evt := 0, transactionNum }
          ([mdioMmsModeForWordCount wordCount] ++ mdioPutMmsAddrPrefix addr ++ putU16 (UInt16.ofNat wordCount)) = some m := by
  rw [mdioEncodeMmsReadRequest]
  constructor
  · intro h
    obtain ⟨hvalid, h⟩ := of_refusal h
    obtain ⟨hcount, h⟩ := of_refusal h
    obtain ⟨hpos, hmax⟩ := not_or.mp hcount
    exact ⟨by simpa using hvalid, hpos, Nat.not_lt.mp hmax, h⟩
  · rintro ⟨hvalid, hpos, hmax, h⟩
    rw [if_neg (by simp [hvalid]), if_neg (not_or.mpr ⟨hpos, Nat.not_lt.mpr hmax⟩), h]

theorem mdioEncodeMmsWriteRequest_eq_some {addr : MdioMmsAddr} {words : List UInt32} :
    mdioEncodeMmsWriteRequest byteBusId addr words transactionNum = some m ↔
      mdioMmsAddrValid addr = true ∧ words.length ≠ 0 ∧ words.length ≤ mdioMaxBurstWords ∧
        encodeAbb { byteBusId, op := opWrite, evt := 0, transactionNum }
          ([mdioMmsModeForWordCount words.length] ++ mdioPutMmsAddrPrefix addr ++ mdioMmsPackWords addr.mms words) =
          some m := by
  rw [mdioEncodeMmsWriteRequest]
  constructor
  · intro h
    obtain ⟨hvalid, h⟩ := of_refusal h
    obtain ⟨hcount, h⟩ := of_refusal h
    obtain ⟨hpos, hmax⟩ := not_or.mp hcount
    exact ⟨by simpa using hvalid, hpos, Nat.not_lt.mp hmax, h⟩
  · rintro ⟨hvalid, hpos, hmax, h⟩
    rw [if_neg (by simp [hvalid]), if_neg (not_or.mpr ⟨hpos, Nat.not_lt.mpr hmax⟩), h]

/-- The mode of a request is one of the two of MMS. -/
theorem mdioMmsModeForWordCount_mms (wordCount : Nat) :
    mdioModeIsUnsupportedMms (mdioMmsModeForWordCount wordCount &&& 0x03) = true := by
  rw [mdioMmsModeForWordCount]
  split <;> rfl

theorem mdioGetMmsAddrPrefix_put (mode : UInt8) (addr : MdioMmsAddr) (rest : Octets) :
    mdioGetMmsAddrPrefix ([mode] ++ mdioPutMmsAddrPrefix addr ++ rest) 1 = addr := by
  have haddr : be16 (putU16 addr.addr) 0 = addr.addr := be16_putU16 _
  change MdioMmsAddr.mk addr.mms (be16 (putU16 addr.addr) 0) = addr
  rw [haddr]

/-- A read of registers of MMS is received as it was sent. -/
theorem mdioDecodeMmsReadRequest_encoded {addr : MdioMmsAddr} {wordCount : Nat}
    (h : mdioEncodeMmsReadRequest byteBusId addr wordCount transactionNum = some m) :
    mdioDecodeMmsReadRequest m (byteBusId &&& 0x7FF) = .ok (addr, wordCount, transactionNum) := by
  obtain ⟨hvalid, hpos, hmax, h⟩ := mdioEncodeMmsReadRequest_eq_some.mp h
  have hdec : epDecodeRequest m (byteBusId &&& 0x7FF) = .ok (_, _) := epDecodeRequest_encoded h
  have haddr := mdioGetMmsAddrPrefix_put (mdioMmsModeForWordCount wordCount) addr (putU16 (UInt16.ofNat wordCount))
  have hlen : ([mdioMmsModeForWordCount wordCount] ++ mdioPutMmsAddrPrefix addr ++
    putU16 (UInt16.ofNat wordCount)).length = 6 := rfl
  have hmode : Octets.at ([mdioMmsModeForWordCount wordCount] ++ mdioPutMmsAddrPrefix addr ++
    putU16 (UInt16.ofNat wordCount)) 0 = mdioMmsModeForWordCount wordCount := rfl
  have hcount : be16 ([mdioMmsModeForWordCount wordCount] ++ mdioPutMmsAddrPrefix addr ++
    putU16 (UInt16.ofNat wordCount)) 4 = UInt16.ofNat wordCount := be16_putU16 (UInt16.ofNat wordCount)
  have hnat : (UInt16.ofNat wordCount).toNat = wordCount := by
    rw [mdioMaxBurstWords] at hmax
    exact UInt16.toNat_ofNat_of_lt' (by rw [UInt16.size]; omega)
  have hfits : ¬(wordCount = 0 ∨ wordCount > mdioMaxBurstWords) := not_or.mpr ⟨hpos, Nat.not_lt.mpr hmax⟩
  simp only [mdioDecodeMmsReadRequest, hdec, bind, Except.bind, sentAbb_op, sentAbb_evt, sentAbb_transactionNum,
    evtRow2IsPlain_zero, hlen, hmode, mdioMmsModeForWordCount_mms, haddr, hvalid, hcount, hnat, hfits, Bool.not_true,
    Bool.false_eq_true, ne_eq, not_true_eq_false, if_false, if_true, Nat.lt_irrefl]

/-- A write of registers of MMS is received as it was sent. -/
theorem mdioDecodeMmsWriteRequest_encoded {addr : MdioMmsAddr} {words : List UInt32}
    (h : mdioEncodeMmsWriteRequest byteBusId addr words transactionNum = some m) :
    mdioDecodeMmsWriteRequest m (byteBusId &&& 0x7FF) =
      .ok (addr, mdioMmsPackWords addr.mms words, words.length, transactionNum) := by
  obtain ⟨hvalid, hpos, hmax, h⟩ := mdioEncodeMmsWriteRequest_eq_some.mp h
  have hdec : epDecodeRequest m (byteBusId &&& 0x7FF) = .ok (_, _) := epDecodeRequest_encoded h
  have haddr := mdioGetMmsAddrPrefix_put (mdioMmsModeForWordCount words.length) addr (mdioMmsPackWords addr.mms words)
  have hlen : ([mdioMmsModeForWordCount words.length] ++ mdioPutMmsAddrPrefix addr ++
      mdioMmsPackWords addr.mms words).length = 4 + mdioMmsWordWidth addr.mms * words.length := by
    rw [List.length_append, mdioMmsPackWords_length]
    rfl
  have hmode : Octets.at ([mdioMmsModeForWordCount words.length] ++ mdioPutMmsAddrPrefix addr ++
    mdioMmsPackWords addr.mms words) 0 = mdioMmsModeForWordCount words.length := rfl
  have hdrop : ([mdioMmsModeForWordCount words.length] ++ mdioPutMmsAddrPrefix addr ++
    mdioMmsPackWords addr.mms words).drop 4 = mdioMmsPackWords addr.mms words := rfl
  have hcount : mdioMmsWordCountOf addr.mms (4 + mdioMmsWordWidth addr.mms * words.length - 4) = some words.length := by
    rw [Nat.add_sub_cancel_left]
    exact mdioMmsWordCountOf_mul addr.mms words.length
  have hfits : ¬(words.length = 0 ∨ words.length > mdioMaxBurstWords) := not_or.mpr ⟨hpos, Nat.not_lt.mpr hmax⟩
  have hop : opWrite ≠ opRead := opRead_ne_opWrite.symm
  have hlong : ¬4 + mdioMmsWordWidth addr.mms * words.length < 4 := by omega
  simp only [mdioDecodeMmsWriteRequest, hdec, bind, Except.bind, sentAbb_op, sentAbb_evt, sentAbb_transactionNum,
    evtRow2IsPlain_zero, hop, hlen, hlong, hmode, mdioMmsModeForWordCount_mms, haddr, hvalid, hcount, hfits, hdrop,
    Bool.not_true, Bool.false_eq_true, ne_eq, not_true_eq_false, if_false]

/-- The octet of the mode is the first behind the header. -/
theorem at_of_encodeAbb {hdr : ByteMessageInfo} {mode : UInt8} {rest : Octets}
    (h : encodeAbb hdr (mode :: rest) = some m) : m.at abbHeaderLen = mode := by
  obtain ⟨-, rfl⟩ := encodeAbb_eq_some.mp h
  rfl

/-! ### No request of both families -/

/-- One of the request decoders of MMD accepts the octets, -/
def MmdAccepts (b : Octets) (expectedBusId : ByteBusId) : Prop :=
  (∃ request, mdioDecodeReadRequest b expectedBusId = .ok request) ∨
    ∃ request, mdioDecodeWriteRequest b expectedBusId = .ok request

/-- and one of those of MMS. -/
def MmsAccepts (b : Octets) (expectedBusId : ByteBusId) : Prop :=
  (∃ request, mdioDecodeMmsReadRequest b expectedBusId = .ok request) ∨
    ∃ request, mdioDecodeMmsWriteRequest b expectedBusId = .ok request

/-- The mode that octets have as a message of ACF_ABB tells the families apart. -/
theorem MmdAccepts.mode (h : MmdAccepts b byteBusId) :
    ∃ hdr payload, decodeAbb b = .ok (hdr, payload) ∧ mdioModeIsUnsupportedMms (payload.at 0 &&& 0x03) = false := by
  rcases h with ⟨request, h⟩ | ⟨request, h⟩
  all_goals
    obtain ⟨hdr, payload, hdec, -, h⟩ := epDecodeRequest_bind_eq_ok h
    obtain ⟨-, h⟩ := of_guard h
    obtain ⟨-, h⟩ := of_guard h
    obtain ⟨-, h⟩ := of_guard h
    obtain ⟨hmode, -⟩ := of_guard h
    exact ⟨hdr, payload, hdec, by simpa using hmode⟩

theorem MmsAccepts.mode (h : MmsAccepts b byteBusId) :
    ∃ hdr payload, decodeAbb b = .ok (hdr, payload) ∧ mdioModeIsUnsupportedMms (payload.at 0 &&& 0x03) = true := by
  rcases h with ⟨request, h⟩ | ⟨request, h⟩
  all_goals
    obtain ⟨hdr, payload, hdec, -, h⟩ := epDecodeRequest_bind_eq_ok h
    obtain ⟨-, h⟩ := of_guard h
    obtain ⟨-, h⟩ := of_guard h
    obtain ⟨-, h⟩ := of_guard h
    obtain ⟨hmode, -⟩ := of_guard h
    exact ⟨hdr, payload, hdec, by simpa using hmode⟩

theorem not_mmdAccepts_of_mmsAccepts {byteBusId' : ByteBusId} (hmms : MmsAccepts b byteBusId') :
    ¬MmdAccepts b byteBusId := by
  intro hmmd
  obtain ⟨hdr, payload, hdec, hmode⟩ := hmmd.mode
  obtain ⟨hdr', payload', hdec', hmode'⟩ := hmms.mode
  obtain ⟨-, rfl⟩ := Prod.mk.inj (Except.ok.inj (hdec.symm.trans hdec'))
  exact Bool.false_ne_true (hmode.symm.trans hmode')

/-! ### Responses -/

theorem mdioDecodeWordsResponse_encoded {op : UInt8} {words : List UInt16}
    (h : mdioEncodeWordsResponse op byteBusId words transactionNum timed timestamp = some m) :
    mdioDecodeWordsResponse m (byteBusId &&& 0x7FF) =
      .ok { value := mdioPackWords words, timed, timestamp := if timed then timestamp else 0, transactionNum } := by
  obtain ⟨hmax, h⟩ := of_refusal h
  have hdec : epDecodeResponse m (byteBusId &&& 0x7FF) = .ok _ := epDecodeResponse_encoded h
  have hcount : mdioWordCountOf (2 * words.length) = some words.length := by
    rw [mdioWordCountOf, if_neg (by omega)]
    congr 1
    omega
  simp only [mdioDecodeWordsResponse, hdec, bind, Except.bind, sentResponse_payload, mdioPackWords_length, hcount, hmax,
    if_false, EpResponse.reply, sentResponse_timed, sentResponse_timestamp, sentResponse_transactionNum]

theorem mdioDecodeMmsWordsResponse_encoded {op mms : UInt8} {words : List UInt32}
    (h : mdioEncodeMmsWordsResponse op byteBusId mms words transactionNum timed timestamp = some m) :
    mdioDecodeMmsWordsResponse m (byteBusId &&& 0x7FF) mms =
      .ok { value := (mdioMmsPackWords mms words, words.length), timed
            timestamp := if timed then timestamp else 0, transactionNum } := by
  obtain ⟨hmax, h⟩ := of_refusal h
  have hdec : epDecodeResponse m (byteBusId &&& 0x7FF) = .ok _ := epDecodeResponse_encoded h
  simp only [mdioDecodeMmsWordsResponse, hdec, bind, Except.bind, sentResponse_payload, mdioMmsPackWords_length,
    mdioMmsWordCountOf_mul, hmax, if_false, EpResponse.reply, sentResponse_timed, sentResponse_timestamp,
    sentResponse_transactionNum]

/-! ### Exactness -/

/-- The mode octet of a request says whether it is about one word or about several. -/
def ModeAgrees (m : Octets) (single multi : UInt8) (wordCount : Nat) : Prop :=
  (wordCount = 1 ∧ m.at abbHeaderLen = single) ∨ (1 < wordCount ∧ m.at abbHeaderLen = multi)

theorem modeAgrees_mmd {hdr : ByteMessageInfo} {wordCount : Nat} {rest : Octets} (hpos : wordCount ≠ 0)
    (h : encodeAbb hdr (mdioModeForWordCount wordCount :: rest) = some m) :
    ModeAgrees m mdioModeMmdSingle mdioModeMmdMulti wordCount := by
  rw [ModeAgrees, at_of_encodeAbb h, mdioModeForWordCount]
  by_cases hmany : wordCount > 1
  · exact Or.inr ⟨hmany, if_pos hmany⟩
  · exact Or.inl ⟨by omega, if_neg hmany⟩

theorem modeAgrees_mms {hdr : ByteMessageInfo} {wordCount : Nat} {rest : Octets} (hpos : wordCount ≠ 0)
    (h : encodeAbb hdr (mdioMmsModeForWordCount wordCount :: rest) = some m) :
    ModeAgrees m mdioModeMmsSingle mdioModeMmsMulti wordCount := by
  rw [ModeAgrees, at_of_encodeAbb h, mdioMmsModeForWordCount]
  by_cases hmany : wordCount > 1
  · exact Or.inr ⟨hmany, if_pos hmany⟩
  · exact Or.inl ⟨by omega, if_neg hmany⟩

/-- What an encoder of MMD yields the matching decoder reads, and so does it in MMS: the address, the word count, the
    words, and of a response its timestamp, if it carries one. The mode of a request agrees with its word count, and no
    octets are accepted as requests of both families. -/
theorem mdio_codecs_exact (byteBusId : ByteBusId) (transactionNum : UInt8) (timed : Bool) (timestamp : UInt64)
    (m : Octets) :
    (∀ addr wordCount, mdioEncodeReadRequest byteBusId addr wordCount transactionNum = some m →
      mdioDecodeReadRequest m (byteBusId &&& 0x7FF) = .ok (addr, wordCount, transactionNum) ∧
        ModeAgrees m mdioModeMmdSingle mdioModeMmdMulti wordCount) ∧
    (∀ addr words, mdioEncodeWriteRequest byteBusId addr words transactionNum = some m →
      ∃ data, mdioDecodeWriteRequest m (byteBusId &&& 0x7FF) = .ok (addr, data, transactionNum) ∧
        mdioOutWordCount data = words.length ∧ mdioPayloadWords data = words ∧
        ModeAgrees m mdioModeMmdSingle mdioModeMmdMulti words.length) ∧
    (∀ words, mdioEncodeReadResponse byteBusId words transactionNum timed timestamp = some m →
      ∃ data, mdioDecodeReadResponse m (byteBusId &&& 0x7FF) =
          .ok { value := data, timed, timestamp := if timed then timestamp else 0, transactionNum } ∧
        mdioOutWordCount data = words.length ∧ mdioPayloadWords data = words) ∧
    (∀ words, mdioEncodeWriteResponse byteBusId words transactionNum timed timestamp = some m →
      ∃ data, mdioDecodeWriteResponse m (byteBusId &&& 0x7FF) =
          .ok { value := data, timed, timestamp := if timed then timestamp else 0, transactionNum } ∧
        mdioOutWordCount data = words.length ∧ mdioPayloadWords data = words) ∧
    (∀ addr wordCount, mdioEncodeMmsReadRequest byteBusId addr wordCount transactionNum = some m →
      mdioDecodeMmsReadRequest m (byteBusId &&& 0x7FF) = .ok (addr, wordCount, transactionNum) ∧
        ModeAgrees m mdioModeMmsSingle mdioModeMmsMulti wordCount) ∧
    (∀ addr words, (∀ word ∈ words, MdioWordFits addr.mms word) →
      mdioEncodeMmsWriteRequest byteBusId addr words transactionNum = some m →
      ∃ data, mdioDecodeMmsWriteRequest m (byteBusId &&& 0x7FF) = .ok (addr, data, words.length, transactionNum) ∧
        mdioMmsWords addr.mms data words.length = words ∧
        ModeAgrees m mdioModeMmsSingle mdioModeMmsMulti words.length) ∧
    (∀ mms words, (∀ word ∈ words, MdioWordFits mms word) →
      mdioEncodeMmsReadResponse byteBusId mms words transactionNum timed timestamp = some m →
      ∃ data, mdioDecodeMmsReadResponse m (byteBusId &&& 0x7FF) mms =
          .ok { value := (data, words.length), timed, timestamp := if timed then timestamp else 0, transactionNum } ∧
        mdioMmsWords mms data words.length = words) ∧
    (∀ mms words, (∀ word ∈ words, MdioWordFits mms word) →
      mdioEncodeMmsWriteResponse byteBusId mms words transactionNum timed timestamp = some m →
      ∃ data, mdioDecodeMmsWriteResponse m (byteBusId &&& 0x7FF) mms =
          .ok { value := (data, words.length), timed, timestamp := if timed then timestamp else 0, transactionNum } ∧
        mdioMmsWords mms data words.length = words) ∧
    (∀ b bus bus', ¬(MmdAccepts b bus ∧ MmsAccepts b bus')) := by
  have hcount : ∀ words : List UInt16, mdioOutWordCount (mdioPackWords words) = words.length := fun words => by
    rw [mdioOutWordCount, mdioPackWords_length, Nat.mul_div_cancel_left _ (by decide)]
  refine ⟨?_, ?_, ?_, ?_, ?_, ?_, ?_, ?_, ?_⟩
  · intro addr wordCount h
    obtain ⟨-, hpos, -, habb⟩ := mdioEncodeReadRequest_eq_some.mp h
    exact ⟨mdioDecodeReadRequest_encoded h, modeAgrees_mmd hpos habb⟩
  · intro addr words h
    obtain ⟨-, hpos, -, habb⟩ := mdioEncodeWriteRequest_eq_some.mp h
    exact ⟨_, mdioDecodeWriteRequest_encoded h, hcount words, mdioPayloadWords_packWords words, modeAgrees_mmd hpos habb⟩
  · exact fun words h => ⟨_, mdioDecodeWordsResponse_encoded h, hcount words, mdioPayloadWords_packWords words⟩
  · exact fun words h => ⟨_, mdioDecodeWordsResponse_encoded h, hcount words, mdioPayloadWords_packWords words⟩
  · intro addr wordCount h
    obtain ⟨-, hpos, -, habb⟩ := mdioEncodeMmsReadRequest_eq_some.mp h
    exact ⟨mdioDecodeMmsReadRequest_encoded h, modeAgrees_mms hpos habb⟩
  · intro addr words hfits h
    obtain ⟨-, hpos, -, habb⟩ := mdioEncodeMmsWriteRequest_eq_some.mp h
    exact ⟨_, mdioDecodeMmsWriteRequest_encoded h, mdioMmsWords_packWords hfits, modeAgrees_mms hpos habb⟩
  · exact fun mms words hfits h => ⟨_, mdioDecodeMmsWordsResponse_encoded h, mdioMmsWords_packWords hfits⟩
  · exact fun mms words hfits h => ⟨_, mdioDecodeMmsWordsResponse_encoded h, mdioMmsWords_packWords hfits⟩
  · exact fun b bus bus' ⟨hmmd, hmms⟩ => not_mmdAccepts_of_mmsAccepts hmms hmmd

/-- A read of two words of 32 bits. -/
theorem mdio_codecs_exact_twoWords :
    ∃ m data, mdioEncodeMmsReadResponse 5 1 [0x12345678, 9] 7 true 99 = some m ∧
      mdioDecodeMmsReadResponse m 5 1 = .ok { value := (data, 2), timed := true, timestamp := 99, transactionNum := 7 } ∧
      mdioMmsWords 1 data 2 = [0x12345678, 9] := by
  obtain ⟨-, -, -, -, -, -, hread, -, -⟩ := mdio_codecs_exact 5 7 true 99 _
  obtain ⟨data, hdec, hwords⟩ := hread 1 [0x12345678, 9] (fun _ _ h => Bool.noConfusion h) rfl
  exact ⟨_, data, rfl, hdec, hwords⟩

end Rcp
