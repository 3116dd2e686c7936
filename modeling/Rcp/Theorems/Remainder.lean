import Rcp.Lib.Crc
import Rcp.Theorems.Detection

/-! The CRC of a message is a remainder of polynomials, and it does not depend on how the octets are handed to it. -/

namespace Rcp
open Lib

/-! ### The remainder -/

/-- The parameters that `e2e.c` names. -/
def e2eCrc : Crc.Params 32 where
  poly := 0xF4ACFB13
  init := 0xFFFFFFFF
  xorOut := 0xFFFFFFFF
  refIn := true
  refOut := true

/-- The constant of the update is the polynomial in reverse. -/
theorem crcPoly_eq_reverse : crcPoly = e2eCrc.poly.reverse := by decide +kernel

theorem e2eCrc32_check (data : Octets) : (e2eCrc32 data).toBitVec = e2eCrc.check (data.map UInt8.toBitVec) := by
  have hinit : e2eCrc.init.reverse = (0xFFFFFFFF : UInt32).toBitVec := by decide +kernel
  have hwide : (data.map UInt8.toBitVec).map (·.setWidth 32) = data.map wide := by
    rw [List.map_map]
    rfl
  rw [Crc.Params.check_reflected rfl rfl (by decide), hwide, hinit, ← crcPoly_eq_reverse, ← foldl_crc32Update_toBitVec,
    e2eCrc32, UInt32.toBitVec_xor]
  rfl

/-- The vector of `test_crc32_known_answer_vector`. -/
example : e2eCrc32 [0x31, 0x32, 0x33, 0x34, 0x35, 0x36, 0x37, 0x38, 0x39] = 0x1697D06A := by decide +kernel

/-! ### Octets in parts -/

/-- A CRC that runs on from part to part. -/
def e2eCrcOver (parts : List Octets) : UInt32 :=
  parts.foldl (fun crc part => part.foldl crc32Update crc) 0xFFFFFFFF ^^^ 0xFFFFFFFF

theorem e2eCrcOver_flatten (parts : List Octets) : e2eCrcOver parts = e2eCrc32 parts.flatten := by
  rw [e2eCrcOver, e2eCrc32, List.foldl_flatten]

/-- The loops of `rcp_e2e_compute_crc` one after the other. -/
theorem e2eComputeCrc_parts (h : E2eHeader) (acfFrame : Octets) :
    e2eComputeCrc h acfFrame =
      e2eCrcOver [[h.avtpSubtype], [h.headerOctet1], [if h.tu then 0x01 else 0x00], putU64 h.streamId,
        putU32 h.avtpTimestamp, acfFrame] := by
  simp only [e2eComputeCrc, e2eCrcOver, E2eHeader.octets, List.foldl_append, List.foldl_cons, List.foldl_nil]

theorem e2eComputeCrc_eq (h : E2eHeader) (acfFrame : Octets) :
    e2eComputeCrc h acfFrame = e2eCrc32 (h.octets ++ acfFrame) := by
  rw [e2eComputeCrc_parts, e2eCrcOver_flatten, E2eHeader.octets]
  simp only [List.flatten_cons, List.flatten_nil, List.append_assoc, List.append_nil, List.cons_append, List.nil_append]

theorem e2eComputeFragmentedCrc_eq (h : E2eHeader) (firstFragmentHeader reassembledPayload : Octets) :
    e2eComputeFragmentedCrc h firstFragmentHeader reassembledPayload =
      e2eCrc32 (h.octets ++ (firstFragmentHeader ++ reassembledPayload)) := by
  rw [e2eComputeFragmentedCrc, e2eCrc32, List.foldl_append, List.foldl_append]

/-- The CRC of a message is the remainder of the octets it covers, however they are handed to it. -/
theorem crc_exact (h : E2eHeader) :
    h.octets.length = 15 ∧
    (∀ acfFrame, e2eComputeCrc h acfFrame = e2eCrc32 (h.octets ++ acfFrame)) ∧
    (∀ firstFragmentHeader reassembledPayload,
      e2eComputeFragmentedCrc h firstFragmentHeader reassembledPayload =
        e2eCrc32 (h.octets ++ (firstFragmentHeader ++ reassembledPayload))) ∧
    (∀ firstFragmentHeader (fragments : List Octets),
      e2eComputeFragmentedCrc h firstFragmentHeader fragments.flatten =
          e2eComputeCrc h (firstFragmentHeader ++ fragments.flatten) ∧
        e2eCrcOver (h.octets :: firstFragmentHeader :: fragments) =
          e2eComputeCrc h (firstFragmentHeader ++ fragments.flatten)) ∧
    ∀ data, (e2eCrc32 data).toBitVec = e2eCrc.check (data.map UInt8.toBitVec) := by
  refine ⟨rfl, e2eComputeCrc_eq h, e2eComputeFragmentedCrc_eq h, ?_, e2eCrc32_check⟩
  intro firstFragmentHeader fragments
  constructor
  · rw [e2eComputeFragmentedCrc_eq, e2eComputeCrc_eq]
  · rw [e2eCrcOver_flatten, e2eComputeCrc_eq, List.flatten_cons, List.flatten_cons]

end Rcp
