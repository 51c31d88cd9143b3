import FramedTcp.Frame

/-!
# Corruption of one byte

The additive checksum covers the header fields and the payload bytes.  A single changed byte shifts
the sum by less than `2 ^ 32` and is noticed, except when it makes the announced length smaller:
then the sum loses both the difference of the lengths and the payload bytes that are cut off, and
these may add up to a multiple of `2 ^ 32`.
-/

namespace FramedTcp
namespace Frame

/-! ## The checksum as a sum of natural numbers -/

/-- Sum of the values of some bytes. -/
def byteSum (bytes : List UInt8) : ℕ := (bytes.map UInt8.toNat).sum

/-- The sum that the checksum is the remainder of. -/
def checksumTotal (frame : Frame) : ℕ :=
  frame.length.toNat + frame.streamId.toNat + frame.sequence.toNat + byteSum frame.payload

theorem byteSum_append (front back : List UInt8) :
    byteSum (front ++ back) = byteSum front + byteSum back := by
  simp [byteSum]

theorem byteSum_le (bytes : List UInt8) : byteSum bytes ≤ 255 * bytes.length := by
  induction bytes with
  | nil => exact le_rfl
  | cons byte bytes induction =>
      have bounded := byte.toNat_lt
      simp only [byteSum, List.map_cons, List.sum_cons, List.length_cons] at induction ⊢
      omega

theorem byteSum_set (bytes : List UInt8) (position : ℕ) (inside : position < bytes.length)
    (byte : UInt8) :
    byteSum (bytes.set position byte) + bytes[position].toNat = byteSum bytes + byte.toNat := by
  induction bytes generalizing position with
  | nil => contradiction
  | cons first bytes induction =>
      cases position with
      | zero =>
          simp only [byteSum, List.set_cons_zero, List.map_cons, List.sum_cons,
            List.getElem_cons_zero]
          omega
      | succ position =>
          have later := induction position (Nat.lt_of_succ_lt_succ inside)
          simp only [byteSum, List.set_cons_succ, List.map_cons, List.sum_cons,
            List.getElem_cons_succ] at later ⊢
          omega

private theorem toNat_foldl_add (bytes : List UInt8) (total : UInt32) :
    (bytes.foldl (fun total byte => total + byte.toUInt32) total).toNat =
      (total.toNat + byteSum bytes) % 2 ^ 32 := by
  induction bytes generalizing total with
  | nil =>
      have bounded := total.toNat_lt
      simp only [List.foldl_nil, byteSum, List.map_nil, List.sum_nil]
      omega
  | cons byte bytes induction =>
      rw [List.foldl_cons, induction, UInt32.toNat_add, UInt8.toNat_toUInt32]
      simp only [byteSum, List.map_cons, List.sum_cons]
      omega

theorem toNat_calculateChecksum (frame : Frame) :
    (frame.calculateChecksum true).toNat = frame.checksumTotal % 2 ^ 32 := by
  obtain ⟨length, streamId, sequence, checksum, payload, clientId⟩ := frame
  cases payload with
  | nil =>
      simp only [calculateChecksum, checksumTotal, byteSum, List.map_nil, List.sum_nil,
        List.isEmpty_nil, Bool.not_true, Bool.false_eq_true, ↓reduceIte, UInt32.toNat_add]
      omega
  | cons byte bytes =>
      simp only [calculateChecksum, checksumTotal, List.isEmpty_cons, Bool.not_true,
        Bool.false_eq_true, ↓reduceIte, UInt32.toNat_add, toNat_foldl_add, UInt32.toNat_zero]
      omega

/-- A frame that carries the checksum of another one is accepted exactly when both sums agree
modulo `2 ^ 32`. -/
theorem verifyChecksum_iff_modEq {sent received : Frame}
    (carried : received.checksum = sent.calculateChecksum true) :
    received.verifyChecksum true = true ↔
      sent.checksumTotal ≡ received.checksumTotal [MOD 2 ^ 32] := by
  rw [Nat.ModEq, ← toNat_calculateChecksum, ← toNat_calculateChecksum, UInt32.toNat_inj]
  simp [verifyChecksum, carried]

/-! ## Reading corrupted bytes -/

/-- The receiver notices that something is wrong. -/
def Detected (data : List UInt8) : Prop :=
  (∃ message, deserialize data = .error message) ∨
    ∃ frame, deserialize data = .ok frame ∧ frame.verifyChecksum true = false

theorem detected_iff_of_ok {data : List UInt8} {frame : Frame}
    (parsed : deserialize data = .ok frame) :
    Detected data ↔ ¬ frame.verifyChecksum true = true := by
  simp [Detected, parsed]

/-- The bytes of a frame with one byte replaced. -/
def corrupt (frame : Frame) (position : ℕ) (byte : UInt8) : List UInt8 :=
  (frame.serialize true).set position byte

theorem length_corrupt (frame : Frame) (position : ℕ) (byte : UInt8) :
    (frame.corrupt position byte).length = 16 + frame.payload.length := by
  rw [corrupt, List.length_set, length_serialize, headerSize]

/-- A header word of corrupted bytes. -/
def corruptWord (frame : Frame) (position : ℕ) (byte : UInt8) (offset : ℕ)
    (bound : offset + 4 ≤ 16 := by decide) : UInt32 :=
  readWord (frame.corrupt position byte) offset (by rw [length_corrupt]; omega)

/-- The frame read from corrupted bytes. -/
def received (frame : Frame) (position : ℕ) (byte : UInt8) : Frame :=
  { length := frame.corruptWord position byte 0
    streamId := frame.corruptWord position byte 4
    sequence := frame.corruptWord position byte 8
    checksum := frame.corruptWord position byte 12
    payload := ((frame.corrupt position byte).drop headerSize).take
      (frame.corruptWord position byte 0).toNat }

/-- The one corruption that goes unnoticed: the announced length is smaller, by as much as makes
up, together with the payload bytes cut off, a multiple of `2 ^ 32`. -/
def CompensatedCut (frame : Frame) (position : ℕ) (byte : UInt8) : Prop :=
  position < 4 ∧ ∃ cut, 1 ≤ cut ∧
    (frame.corruptWord position byte 0).toNat + cut = frame.length.toNat ∧
    2 ^ 32 ∣ cut + byteSum (frame.payload.drop (frame.payload.length - cut))

section Position

variable {frame : Frame} {position : ℕ} {byte : UInt8}

theorem deserialize_corrupt (frame : Frame) (position : ℕ) (byte : UInt8)
    (fits : (frame.corruptWord position byte 0).toNat ≤ frame.payload.length) :
    deserialize (frame.corrupt position byte) = .ok (frame.received position byte) := by
  have size := frame.length_corrupt position byte
  exact deserialize_eq_ok (by omega) ((Nat.add_le_add_left fits 16).trans size.ge)

theorem deserialize_corrupt_of_lt
    (truncated : frame.payload.length < (frame.corruptWord position byte 0).toNat) :
    ∃ message, deserialize (frame.corrupt position byte) = .error message := by
  have size := frame.length_corrupt position byte
  exact ⟨_, deserialize_of_truncated (by omega)
    (size.trans_lt (Nat.add_lt_add_left truncated 16))⟩

/-- The header words of the uncorrupted bytes. -/
theorem readWord_serialize (frame : Frame) (inside : 16 ≤ (frame.serialize true).length) :
    readWord (frame.serialize true) 0 = frame.length ∧
      readWord (frame.serialize true) 4 = frame.streamId ∧
      readWord (frame.serialize true) 8 = frame.sequence ∧
      readWord (frame.serialize true) 12 = frame.calculateChecksum true :=
  (frame.onWire true).readWord_bytes inside

/-- Header words that are not hit stay. -/
theorem corruptWord_of_outside (frame : Frame) (position : ℕ) (byte : UInt8) :
    (4 ≤ position → frame.corruptWord position byte 0 = frame.length) ∧
      (position < 4 ∨ 8 ≤ position → frame.corruptWord position byte 4 = frame.streamId) ∧
      (position < 8 ∨ 12 ≤ position → frame.corruptWord position byte 8 = frame.sequence) ∧
      (position < 12 ∨ 16 ≤ position →
        frame.corruptWord position byte 12 = frame.calculateChecksum true) := by
  have inside : 16 ≤ (frame.serialize true).length := by
    rw [length_serialize]
    exact Nat.le_add_right _ _
  obtain ⟨length_eq, streamId_eq, sequence_eq, checksum_eq⟩ := frame.readWord_serialize inside
  refine ⟨fun outside => ?_, fun outside => ?_, fun outside => ?_, fun outside => ?_⟩
  · rw [← length_eq]
    exact readWord_set_of_outside _ 0 position byte _ (Or.inr outside)
  · rw [← streamId_eq]
    exact readWord_set_of_outside _ 4 position byte _ outside
  · rw [← sequence_eq]
    exact readWord_set_of_outside _ 8 position byte _ outside
  · rw [← checksum_eq]
    exact readWord_set_of_outside _ 12 position byte _ outside

/-- A header word that is hit changes. -/
theorem corruptWord_ne (present : position < (frame.serialize true).length)
    (different : byte ≠ (frame.serialize true)[position]) :
    (position < 4 → frame.corruptWord position byte 0 ≠ frame.length) ∧
      (4 ≤ position → position < 8 → frame.corruptWord position byte 4 ≠ frame.streamId) ∧
      (8 ≤ position → position < 12 → frame.corruptWord position byte 8 ≠ frame.sequence) ∧
      (12 ≤ position → position < 16 →
        frame.corruptWord position byte 12 ≠ frame.calculateChecksum true) := by
  have inside : 16 ≤ (frame.serialize true).length := by
    rw [length_serialize]
    exact Nat.le_add_right _ _
  obtain ⟨length_eq, streamId_eq, sequence_eq, checksum_eq⟩ := frame.readWord_serialize inside
  refine ⟨fun upper => ?_, fun lower upper => ?_, fun lower upper => ?_, fun lower upper => ?_⟩
  · rw [← length_eq]
    exact readWord_set_ne _ 0 position byte _ (Nat.zero_le _) upper different
  · rw [← streamId_eq]
    exact readWord_set_ne _ 4 position byte _ lower upper different
  · rw [← sequence_eq]
    exact readWord_set_ne _ 8 position byte _ lower upper different
  · rw [← checksum_eq]
    exact readWord_set_ne _ 12 position byte _ lower upper different

theorem drop_corrupt (frame : Frame) (position : ℕ) (byte : UInt8) :
    (frame.corrupt position byte).drop headerSize =
      if position < 16 then frame.payload else frame.payload.set (position - 16) byte := by
  rw [corrupt, List.drop_set]
  rfl

/-- Without a change to the length field the payload is read in full. -/
theorem payload_received (byte : UInt8) (wellFormed : frame.WellFormed)
    (behind : 4 ≤ position) :
    (frame.received position byte).payload =
      if position < 16 then frame.payload else frame.payload.set (position - 16) byte := by
  have payload_size : frame.length.toNat = frame.payload.length := wellFormed
  rw [← drop_corrupt, received, (frame.corruptWord_of_outside position byte).1 behind]
  apply List.take_of_length_le
  rw [List.length_drop, length_corrupt, headerSize, payload_size]
  omega

/-- A payload byte contributes its own value to the sum. -/
theorem byteSum_received_ne (wellFormed : frame.WellFormed) (behind : 16 ≤ position)
    (present : position < (frame.serialize true).length)
    (different : byte ≠ (frame.serialize true)[position]) :
    ¬ byteSum frame.payload ≡ byteSum (frame.received position byte).payload [MOD 2 ^ 32] := by
  have inside : position - 16 < frame.payload.length := by
    rw [length_serialize, headerSize] at present
    omega
  have old_eq : frame.payload[position - 16] = (frame.serialize true)[position] := by
    have dropped : (frame.serialize true).drop headerSize = frame.payload := rfl
    simp only [← dropped, List.getElem_drop, headerSize, Nat.add_sub_cancel' behind]
  have payload_eq := payload_received byte wellFormed (by omega : 4 ≤ position)
  rw [if_neg (Nat.not_lt.mpr behind)] at payload_eq
  have shifted := byteSum_set frame.payload (position - 16) inside byte
  have values : byte.toNat ≠ (frame.payload[position - 16]).toNat :=
    fun same => different (old_eq ▸ UInt8.toNat_inj.mp same)
  have new_lt := byte.toNat_lt
  have old_lt := (frame.payload[position - 16]).toNat_lt
  rw [payload_eq, Nat.ModEq]
  omega

/-- A byte behind the length field that is changed is always noticed. -/
theorem detected_of_le (wellFormed : frame.WellFormed) (behind : 4 ≤ position)
    (present : position < (frame.serialize true).length)
    (different : byte ≠ (frame.serialize true)[position]) :
    Detected (frame.corrupt position byte) := by
  have payload_size : frame.length.toNat = frame.payload.length := wellFormed
  have payload_eq := payload_received byte wellFormed behind
  obtain ⟨length_eq, streamId_eq, sequence_eq, checksum_eq⟩ :=
    frame.corruptWord_of_outside position byte
  obtain ⟨-, streamId_ne, sequence_ne, checksum_ne⟩ := corruptWord_ne present different
  have parsed := deserialize_corrupt frame position byte
    (by rw [length_eq behind, payload_size])
  rw [detected_iff_of_ok parsed]
  have total_eq : (frame.received position byte).checksumTotal =
      frame.length.toNat + (frame.corruptWord position byte 4).toNat +
        (frame.corruptWord position byte 8).toNat +
        byteSum (frame.received position byte).payload := by
    rw [← length_eq behind]
    rfl
  rcases Nat.lt_or_ge position 12 with before | behind_sequence
  · rw [if_pos (by omega)] at payload_eq
    rw [verifyChecksum_iff_modEq (checksum_eq (Or.inl before)), total_eq, payload_eq,
      checksumTotal, Nat.ModEq]
    have streamId_lt := frame.streamId.toNat_lt
    have sequence_lt := frame.sequence.toNat_lt
    rcases Nat.lt_or_ge position 8 with in_streamId | in_sequence
    · have changed : (frame.corruptWord position byte 4).toNat ≠ frame.streamId.toNat :=
        fun same => streamId_ne behind in_streamId (UInt32.toNat_inj.mp same)
      have bounded := (frame.corruptWord position byte 4).toNat_lt
      rw [sequence_eq (Or.inl in_streamId)]
      omega
    · have changed : (frame.corruptWord position byte 8).toNat ≠ frame.sequence.toNat :=
        fun same => sequence_ne in_sequence before (UInt32.toNat_inj.mp same)
      have bounded := (frame.corruptWord position byte 8).toNat_lt
      rw [streamId_eq (Or.inr in_sequence)]
      omega
  · rw [streamId_eq (Or.inr (by omega)), sequence_eq (Or.inr behind_sequence)] at total_eq
    rcases Nat.lt_or_ge position 16 with before | in_payload
    · rw [if_pos before] at payload_eq
      have recomputed : (frame.received position byte).calculateChecksum true =
          frame.calculateChecksum true := by
        apply UInt32.toNat_inj.mp
        rw [toNat_calculateChecksum, toNat_calculateChecksum, total_eq, payload_eq, checksumTotal]
      have kept : (frame.received position byte).checksum ≠ frame.calculateChecksum true :=
        checksum_ne behind_sequence before
      simpa [verifyChecksum, recomputed] using kept
    · rw [verifyChecksum_iff_modEq (checksum_eq (Or.inr in_payload)), total_eq, checksumTotal]
      exact fun same => byteSum_received_ne wellFormed in_payload present different
        (Nat.ModEq.add_left_cancel' _ same)

/-- A changed length field is noticed unless the cut is compensated. -/
theorem detected_iff_of_lt (wellFormed : frame.WellFormed) (before : position < 4)
    (present : position < (frame.serialize true).length)
    (different : byte ≠ (frame.serialize true)[position]) :
    Detected (frame.corrupt position byte) ↔ ¬ frame.CompensatedCut position byte := by
  have payload_size : frame.length.toNat = frame.payload.length := wellFormed
  obtain ⟨-, streamId_eq, sequence_eq, checksum_eq⟩ := frame.corruptWord_of_outside position byte
  have length_ne : (frame.corruptWord position byte 0).toNat ≠ frame.length.toNat :=
    fun same => (corruptWord_ne present different).1 before (UInt32.toNat_inj.mp same)
  rcases Nat.lt_or_ge frame.payload.length (frame.corruptWord position byte 0).toNat with
    longer | fits
  · refine iff_of_true (Or.inl (deserialize_corrupt_of_lt longer)) ?_
    rintro ⟨-, cut, -, shorter, -⟩
    omega
  · rw [detected_iff_of_ok (deserialize_corrupt frame position byte fits),
      verifyChecksum_iff_modEq (checksum_eq (Or.inl (by omega)))]
    have received_eq : (frame.received position byte).checksumTotal =
        (frame.corruptWord position byte 0).toNat + frame.streamId.toNat + frame.sequence.toNat +
          byteSum (frame.payload.take (frame.corruptWord position byte 0).toNat) := by
      rw [← streamId_eq (Or.inl before), ← sequence_eq (Or.inl (by omega)), checksumTotal,
        received, drop_corrupt, if_pos (by omega)]
    have sent_eq : frame.checksumTotal = (frame.received position byte).checksumTotal +
        ((frame.length.toNat - (frame.corruptWord position byte 0).toNat) +
          byteSum (frame.payload.drop (frame.corruptWord position byte 0).toNat)) := by
      have split := byteSum_append (frame.payload.take (frame.corruptWord position byte 0).toNat)
        (frame.payload.drop (frame.corruptWord position byte 0).toNat)
      rw [List.take_append_drop] at split
      rw [received_eq, checksumTotal]
      omega
    rw [Nat.ModEq.comm, Nat.modEq_iff_dvd' (by omega), sent_eq, Nat.add_sub_cancel_left,
      not_iff_not]
    constructor
    · intro divides
      refine ⟨before, frame.length.toNat - (frame.corruptWord position byte 0).toNat, by omega,
        by omega, ?_⟩
      rwa [show frame.payload.length - (frame.length.toNat -
        (frame.corruptWord position byte 0).toNat) =
          (frame.corruptWord position byte 0).toNat by omega]
    · rintro ⟨-, cut, -, shorter, divides⟩
      have cut_eq : frame.length.toNat - (frame.corruptWord position byte 0).toNat = cut := by omega
      have kept_eq : frame.payload.length - cut = (frame.corruptWord position byte 0).toNat := by
        omega
      rwa [cut_eq, ← kept_eq]

/-- Less than `2 ^ 24` bytes cut off cannot make up a multiple of `2 ^ 32`. -/
theorem not_compensatedCut_of_length (wellFormed : frame.WellFormed)
    (short : frame.payload.length < 2 ^ 24) : ¬ frame.CompensatedCut position byte := by
  have payload_size : frame.length.toNat = frame.payload.length := wellFormed
  rintro ⟨-, cut, positive, shorter, divides⟩
  have bounded := byteSum_le (frame.payload.drop (frame.payload.length - cut))
  rw [List.length_drop] at bounded
  have reached := Nat.le_of_dvd (by omega) divides
  omega

end Position

/-- The bound on the payload is sharp: `2 ^ 24` bytes of value `255` can be cut off unnoticed. -/
theorem compensatedCut_of_full (streamId sequence : UInt32) {payload : List UInt8}
    (size : payload.length = 2 ^ 24) (full : ∀ byte ∈ payload, byte = 255) :
    (create streamId sequence payload).CompensatedCut 0 0 := by
  have length_eq : (create streamId sequence payload).length = 0x1000000 := by
    rw [create, size]
    rfl
  have front : bigEndian 0x1000000 = [1, 0, 0, 0] := by decide
  have emptied : (create streamId sequence payload).corruptWord 0 0 0 = 0 := by
    simp only [corruptWord, corrupt, serialize, length_eq, front, List.cons_append,
      List.set_cons_zero]
    exact readWord_bigEndian_append 0 _ _
  have sum_eq : byteSum payload = payload.length * 255 := by
    rw [byteSum, ← List.length_map UInt8.toNat]
    refine List.sum_eq_card_nsmul _ _ fun value member => ?_
    obtain ⟨byte, in_payload, rfl⟩ := List.mem_map.mp member
    rw [full byte in_payload]
    rfl
  refine ⟨by decide, 2 ^ 24, by decide, ?_, ?_⟩
  · rw [emptied, length_eq]
    rfl
  · have payload_eq : (create streamId sequence payload).payload = payload := rfl
    rw [payload_eq, size, Nat.sub_self, List.drop_zero, sum_eq, size]
    decide

/-- A receiver with checksums enabled notices every single changed byte, except for a compensated
cut; there is none in payloads shorter than `2 ^ 24` bytes. -/
theorem corruption_detected_iff (frame : Frame) (wellFormed : frame.WellFormed) (position : ℕ)
    (present : position < (frame.serialize true).length) (byte : UInt8)
    (different : byte ≠ (frame.serialize true)[position]) :
    (Detected ((frame.serialize true).set position byte) ↔ ¬ frame.CompensatedCut position byte) ∧
      (frame.payload.length < 2 ^ 24 → Detected ((frame.serialize true).set position byte)) := by
  have detected_iff : Detected ((frame.serialize true).set position byte) ↔
      ¬ frame.CompensatedCut position byte := by
    rcases Nat.lt_or_ge position 4 with before | behind
    · exact detected_iff_of_lt wellFormed before present different
    · refine iff_of_true (detected_of_le wellFormed behind present different) ?_
      exact fun compensated => absurd compensated.1 (Nat.not_lt.mpr behind)
  exact ⟨detected_iff, fun short =>
    detected_iff.mpr (not_compensatedCut_of_length wellFormed short)⟩

/-- The length of a one-byte payload is set to zero. -/
theorem corruption_detected_iff_emptied :
    Detected (((Frame.create 1 0 [7]).serialize true).set 3 0) :=
  (corruption_detected_iff (Frame.create 1 0 [7]) (by decide) 3 (by decide) 0 (by decide)).2
    (by decide)

end Frame
end FramedTcp
