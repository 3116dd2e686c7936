import Rcp.MockDispatch
import Rcp.Theorems.Codec

/-! The responses the server builds itself, as a client classifies them, and what the configuration of a
    stream suppresses. -/

namespace Rcp

namespace Acf

/-- A response of kind `kind`, long enough to be classified. -/
def Responds (kind : ResponseKind) (out : Option Octets) : Prop :=
  ∃ response, out = some response ∧ 8 ≤ response.length ∧ classifyResponse (unpackHeader response) = kind

theorem encodeAbb_responds {kind : ResponseKind} {hdr : ByteMessageInfo} {payload : Octets}
    (hfits : quadletsOf (abbHeaderLen + payload.length) ≤ 0x1FF)
    (hkind : classifyResponse (framedInfo msgTypeAbb hdr [] payload) = kind) : Responds kind (encodeAbb hdr payload) := by
  refine ⟨framed msgTypeAbb hdr [] payload, encodeAbb_eq_some.mpr ⟨hfits, rfl⟩, ?_, ?_⟩
  · simp [framed, packHeader_length]
  · rw [unpackHeader_framed]
    exact hkind

theorem buildErrorResponse_responds (byteBusId : ByteBusId) (transactionNum : UInt8) (error : WireError) :
    Responds .error (buildErrorResponse byteBusId transactionNum error) := by
  refine encodeAbb_responds (by simp [quadletsOf, abbHeaderLen, padLen]) ?_
  rw [classifyResponse, if_neg (by simp only [framedInfo, ByteMessageInfo.onWire]; decide),
    if_pos (by simp only [framedInfo, ByteMessageInfo.onWire]; decide)]

end Acf

namespace MockServer
variable {σ : Type} {srv : MockServer σ}

/-- The stream is configured without a response stream. -/
def respSuppressed (srv : MockServer σ) (streamId : UInt64) : Bool :=
  match srv.requestStreamCfg.resolveRow streamId with
  | none => false
  | some row => (srv.requestStreamCfg.rows row).rxRespStreamIndex == 0

/-- The stream is configured without an acknowledge stream. -/
def ackSuppressed (srv : MockServer σ) (streamId : UInt64) : Bool :=
  match srv.requestStreamCfg.resolveRow streamId with
  | none => false
  | some row => (srv.requestStreamCfg.rows row).rxAckStreamIndex == 0

@[simp] theorem suppressResponsePerStreamCfg_none (srv : MockServer σ) (streamId : UInt64) :
    srv.suppressResponsePerStreamCfg streamId none = none := rfl

theorem suppress_acknowledge {out : Option Octets} (h : Acf.Responds .acknowledge out) (streamId : UInt64) :
    srv.suppressResponsePerStreamCfg streamId out = if srv.ackSuppressed streamId then none else out := by
  obtain ⟨response, rfl, hlen, hkind⟩ := h
  unfold suppressResponsePerStreamCfg ackSuppressed
  cases srv.requestStreamCfg.resolveRow streamId with
  | none => rfl
  | some row =>
    dsimp only
    rw [if_neg (Nat.not_lt.mpr hlen), if_pos hkind]
    simp only [beq_iff_eq]

theorem suppress_response {kind : ResponseKind} {out : Option Octets} (h : Acf.Responds kind out)
    (hk : kind ≠ .acknowledge) (streamId : UInt64) :
    srv.suppressResponsePerStreamCfg streamId out = if srv.respSuppressed streamId then none else out := by
  obtain ⟨response, rfl, hlen, hkind⟩ := h
  unfold suppressResponsePerStreamCfg respSuppressed
  cases srv.requestStreamCfg.resolveRow streamId with
  | none => rfl
  | some row =>
    dsimp only
    rw [if_neg (Nat.not_lt.mpr hlen), if_neg (by rw [hkind]; exact hk)]
    simp only [beq_iff_eq]

end MockServer
end Rcp
