import FramedTcp.Word

/-!
# Frames

The frame layout `length | stream_id | sequence | checksum | payload`, its additive checksum, and
the two directions of its wire format.  The switch `enableChecksum` stands for the static member
`Frame::enable_checksum`, which each process sets once.
-/

namespace FramedTcp

/-- One frame; `clientId` is set by the server on arrival and never serialized. -/
structure Frame where
  /-- Payload length announced in the header. -/
  length : UInt32
  /-- Stream identifier. -/
  streamId : UInt32
  /-- Sequence number. -/
  sequence : UInt32
  /-- Checksum read from the header; `serialize` computes its own. -/
  checksum : UInt32
  /-- Payload bytes. -/
  payload : List UInt8
  /-- Client the frame came from, `-1` when unset. -/
  clientId : Int32 := -1
  deriving DecidableEq, Repr

namespace Frame

/-- Bytes of the four header fields. -/
def headerSize : ℕ := 16

/-- Sum of the header fields and the payload bytes, `0` while checksums are off. -/
def calculateChecksum (enableChecksum : Bool) (frame : Frame) : UInt32 :=
  if !enableChecksum then
    0
  else
    let sum := frame.length + frame.streamId + frame.sequence
    if frame.payload.isEmpty then
      sum
    else
      sum + frame.payload.foldl (fun total byte => total + byte.toUInt32) 0

/-- Does the stored checksum match, or are checksums off? -/
def verifyChecksum (enableChecksum : Bool) (frame : Frame) : Bool :=
  if !enableChecksum then true else frame.checksum == frame.calculateChecksum enableChecksum

/-- The bytes of a frame, with a freshly computed checksum. -/
def serialize (enableChecksum : Bool) (frame : Frame) : List UInt8 :=
  bigEndian frame.length ++ (bigEndian frame.streamId ++ (bigEndian frame.sequence ++
    (bigEndian (frame.calculateChecksum enableChecksum) ++ frame.payload)))

/-- Read one frame off the front of the data. -/
def deserialize (data : List UInt8) : Except String Frame :=
  if short : data.length < headerSize then
    .error "数据太短，无法解析帧头"
  else
    have inside : 16 ≤ data.length := Nat.le_of_not_lt short
    let length := readWord data 0
    let streamId := readWord data 4
    let sequence := readWord data 8
    let checksum := readWord data 12
    if data.length < headerSize + length.toNat then
      .error "数据太短，无法解析完整payload"
    else
      .ok { length, streamId, sequence, checksum,
            payload := (data.drop headerSize).take length.toNat }

/-- The announced length is the payload's length. -/
def WellFormed (frame : Frame) : Prop := frame.length.toNat = frame.payload.length

instance (frame : Frame) : Decidable frame.WellFormed := inferInstanceAs (Decidable (_ = _))

/-- A frame as its receiver sees it: the sender's checksum is in place and no client is set. -/
def onWire (enableChecksum : Bool) (frame : Frame) : Frame :=
  { frame with checksum := frame.calculateChecksum enableChecksum, clientId := -1 }

/-- The bytes of the stored fields; `serialize` writes a fresh checksum instead. -/
def bytes (frame : Frame) : List UInt8 :=
  bigEndian frame.length ++ (bigEndian frame.streamId ++ (bigEndian frame.sequence ++
    (bigEndian frame.checksum ++ frame.payload)))

/-- `FrameHandler::createFrame`, also written out where frames are built by hand; the checksum
member stays uninitialized and is never read. -/
def create (streamId sequence : UInt32) (payload : List UInt8) : Frame :=
  { length := UInt32.ofNat payload.length, streamId, sequence, checksum := 0, payload }

/-! ## Checksums -/

@[simp]
theorem calculateChecksum_disabled (frame : Frame) : frame.calculateChecksum false = 0 := rfl

theorem verifyChecksum_onWire (receiver sender : Bool) (frame : Frame)
    (agree : receiver = false ∨ receiver = sender) :
    (frame.onWire sender).verifyChecksum receiver = true := by
  rcases agree with rfl | rfl
  · rfl
  · cases receiver <;> simp [verifyChecksum, onWire, calculateChecksum]

@[simp]
theorem wellFormed_onWire (enableChecksum : Bool) (frame : Frame) :
    (frame.onWire enableChecksum).WellFormed ↔ frame.WellFormed := Iff.rfl

theorem wellFormed_create (streamId sequence : UInt32) {payload : List UInt8}
    (short : payload.length < 2 ^ 32) : (create streamId sequence payload).WellFormed := by
  rw [WellFormed, create, UInt32.toNat_ofNat', Nat.mod_eq_of_lt short]

/-! ## The wire format -/

@[simp]
theorem length_bytes (frame : Frame) : frame.bytes.length = headerSize + frame.payload.length := by
  simp only [bytes, List.length_append, length_bigEndian, headerSize]
  omega

@[simp]
theorem length_serialize (enableChecksum : Bool) (frame : Frame) :
    (frame.serialize enableChecksum).length = headerSize + frame.payload.length :=
  (frame.onWire enableChecksum).length_bytes

/-- Deserialization reads the four header words and the announced payload. -/
theorem deserialize_eq_ok {data : List UInt8} (inside : 16 ≤ data.length)
    (complete : headerSize + (readWord data 0).toNat ≤ data.length) :
    deserialize data = .ok
      { length := readWord data 0, streamId := readWord data 4
        sequence := readWord data 8, checksum := readWord data 12
        payload := (data.drop headerSize).take (readWord data 0).toNat } := by
  have long : ¬ data.length < headerSize := Nat.not_lt.mpr inside
  simp only [deserialize, long, ↓reduceDIte, Nat.not_lt.mpr complete, ↓reduceIte]

theorem deserialize_of_short {data : List UInt8} (short : data.length < headerSize) :
    deserialize data = .error "数据太短，无法解析帧头" := by
  rw [deserialize, dif_pos short]

theorem deserialize_of_truncated {data : List UInt8} (inside : 16 ≤ data.length)
    (truncated : data.length < headerSize + (readWord data 0).toNat) :
    deserialize data = .error "数据太短，无法解析完整payload" := by
  have long : ¬ data.length < headerSize := Nat.not_lt.mpr inside
  simp only [deserialize, long, ↓reduceDIte, truncated, ↓reduceIte]

/-- Everything a successful deserialization says about its input. -/
theorem deserialize_inv {data : List UInt8} {frame : Frame}
    (parsed : deserialize data = .ok frame) :
    ∃ inside : 16 ≤ data.length,
      headerSize + (readWord data 0).toNat ≤ data.length ∧
      frame =
        { length := readWord data 0, streamId := readWord data 4
          sequence := readWord data 8, checksum := readWord data 12
          payload := (data.drop headerSize).take (readWord data 0).toNat } := by
  by_cases short : data.length < headerSize
  · rw [deserialize_of_short short] at parsed
    contradiction
  · have inside : 16 ≤ data.length := Nat.le_of_not_lt short
    by_cases truncated : data.length < headerSize + (readWord data 0).toNat
    · rw [deserialize_of_truncated inside truncated] at parsed
      contradiction
    · have complete := Nat.le_of_not_lt truncated
      rw [deserialize_eq_ok inside complete] at parsed
      exact ⟨inside, complete, (Except.ok.inj parsed).symm⟩

/-- A deserialized frame lies inside its input and is well formed. -/
theorem deserialize_width_le {data : List UInt8} {frame : Frame}
    (parsed : deserialize data = .ok frame) : headerSize + frame.length.toNat ≤ data.length := by
  obtain ⟨inside, complete, rfl⟩ := deserialize_inv parsed
  exact complete

theorem deserialize_wellFormed {data : List UInt8} {frame : Frame}
    (parsed : deserialize data = .ok frame) : frame.WellFormed := by
  obtain ⟨inside, complete, rfl⟩ := deserialize_inv parsed
  simp only [WellFormed, List.length_take, List.length_drop]
  omega

theorem clientId_of_deserialize {data : List UInt8} {frame : Frame}
    (parsed : deserialize data = .ok frame) : frame.clientId = -1 := by
  obtain ⟨inside, complete, rfl⟩ := deserialize_inv parsed
  rfl

/-- Bytes behind a complete frame do not change it. -/
theorem deserialize_append {data : List UInt8} {frame : Frame}
    (parsed : deserialize data = .ok frame) (later : List UInt8) :
    deserialize (data ++ later) = .ok frame := by
  obtain ⟨inside, complete, rfl⟩ := deserialize_inv parsed
  have inside' : 16 ≤ (data ++ later).length := by
    rw [List.length_append]
    omega
  have word (offset : ℕ) (bound : offset + 4 ≤ data.length) :=
    readWord_append data later offset bound
  rw [deserialize_eq_ok inside' (by rw [word 0 (by omega), List.length_append]; omega),
    word 0 (by omega), word 4 (by omega), word 8 (by omega), word 12 (by omega)]
  have payload_inside : (readWord data 0).toNat ≤ (data.drop headerSize).length := by
    rw [List.length_drop]
    omega
  rw [List.drop_append_of_le_length (show headerSize ≤ data.length from inside),
    List.take_append_of_le_length payload_inside]

/-- The four header words of a frame's bytes. -/
theorem readWord_bytes (frame : Frame) (inside : 16 ≤ frame.bytes.length) :
    readWord frame.bytes 0 = frame.length ∧ readWord frame.bytes 4 = frame.streamId ∧
      readWord frame.bytes 8 = frame.sequence ∧ readWord frame.bytes 12 = frame.checksum := by
  refine ⟨readWord_bigEndian_append _ _ _, ?_, ?_, ?_⟩
  · rw [← readWord_drop _ 4 (by omega)]
    exact readWord_bigEndian_append _ _ _
  · rw [← readWord_drop _ 8 (by omega)]
    exact readWord_bigEndian_append _ _ _
  · rw [← readWord_drop _ 12 (by omega)]
    exact readWord_bigEndian_append _ _ _

/-- A well-formed frame is read back from its bytes. -/
theorem deserialize_bytes (frame : Frame) (wellFormed : frame.WellFormed) :
    deserialize frame.bytes = .ok { frame with clientId := -1 } := by
  have size := frame.length_bytes
  have inside : 16 ≤ frame.bytes.length := by
    rw [size, headerSize]
    omega
  obtain ⟨length_eq, streamId_eq, sequence_eq, checksum_eq⟩ := frame.readWord_bytes inside
  have payload_eq : frame.bytes.drop headerSize = frame.payload := rfl
  rw [deserialize_eq_ok inside (by rw [length_eq, size, wellFormed]), length_eq, streamId_eq,
    sequence_eq, checksum_eq, payload_eq, wellFormed, List.take_length]

/-- The header and payload of a well-formed frame are read back as they were written. -/
theorem deserialize_serialize {frame : Frame} (wellFormed : frame.WellFormed)
    (enableChecksum : Bool) :
    deserialize (frame.serialize enableChecksum) = .ok (frame.onWire enableChecksum) :=
  (frame.onWire enableChecksum).deserialize_bytes wellFormed

/-- The bytes of a complete frame at the front of the data suffice to read it. -/
theorem deserialize_take {data : List UInt8} {frame : Frame}
    (parsed : deserialize data = .ok frame) :
    deserialize (data.take (headerSize + frame.length.toNat)) = .ok frame := by
  obtain ⟨inside, complete, rfl⟩ := deserialize_inv parsed
  set width := headerSize + (readWord data 0).toNat with width_eq
  have width_ge : 16 ≤ width := by
    rw [width_eq, headerSize]
    omega
  have front_size : (data.take width).length = width := by
    rw [List.length_take]
    omega
  have word (offset : ℕ) (bound : offset + 4 ≤ 16) :
      readWord (data.take width) offset (by omega) = readWord data offset (by omega) := by
    have whole := readWord_append (data.take width) (data.drop width) offset (by omega)
    simpa only [List.take_append_drop] using whole.symm
  have payload_eq : ((data.take width).drop headerSize).take (readWord data 0).toNat =
      (data.drop headerSize).take (readWord data 0).toNat := by
    rw [List.drop_take, List.take_take]
    congr 1
    omega
  rw [deserialize_eq_ok (by omega) (by rw [word 0 (by omega)]; omega), word 0 (by omega),
    word 4 (by omega), word 8 (by omega), word 12 (by omega), payload_eq]

/-! ## Writing back what was read -/

/-- A frame is read from its own bytes. -/
theorem take_of_deserialize {data : List UInt8} {frame : Frame}
    (parsed : deserialize data = .ok frame) :
    data.take (headerSize + frame.length.toNat) = frame.bytes := by
  obtain ⟨inside, complete, rfl⟩ := deserialize_inv parsed
  simp only [bytes]
  rw [bigEndian_readWord, bigEndian_readWord, bigEndian_readWord, bigEndian_readWord,
    List.drop_zero]
  calc data.take (headerSize + (readWord data 0).toNat)
      = data.take 4 ++ ((data.drop 4).take 4 ++ ((data.drop 8).take 4 ++ ((data.drop 12).take 4 ++
          (data.drop 16).take (readWord data 0).toNat))) := by
        simp only [headerSize, List.take_add, List.append_assoc,
          show (16 : ℕ) = 4 + 4 + 4 + 4 from rfl]
    _ = _ := rfl

/-- Only the checksum bytes depend on the stored checksum. -/
theorem getElem?_serialize (enableChecksum : Bool) (frame : Frame) {position : ℕ}
    (outside : position < 12 ∨ 16 ≤ position) :
    (frame.serialize enableChecksum)[position]? = frame.bytes[position]? := by
  simp only [serialize, bytes, ← List.append_assoc]
  rcases outside with before | behind
  · have inside : position < (bigEndian frame.length ++ bigEndian frame.streamId ++
        bigEndian frame.sequence).length := by simpa using before
    rw [List.append_assoc _ (bigEndian (frame.calculateChecksum enableChecksum)),
      List.append_assoc _ (bigEndian frame.checksum), List.getElem?_append_left inside,
      List.getElem?_append_left inside]
  · rw [List.getElem?_append_right (by simpa using behind),
      List.getElem?_append_right (by simpa using behind)]
    rfl

theorem serialize_eq_bytes_iff (enableChecksum : Bool) (frame : Frame) :
    frame.serialize enableChecksum = frame.bytes ↔
      frame.checksum = frame.calculateChecksum enableChecksum := by
  simp only [serialize, bytes, List.append_cancel_left_eq, List.append_cancel_right_eq,
    bigEndian_injective.eq_iff, eq_comm]

/-- Serializing a frame that has been read restores the bytes it was read from, apart from its
checksum, and restores these too exactly when the received checksum is right. -/
theorem serialize_of_deserialize (enableChecksum : Bool) (data : List UInt8) (frame : Frame)
    (parsed : deserialize data = .ok frame) :
    (frame.serialize enableChecksum).length = headerSize + frame.length.toNat ∧
    (∀ position < headerSize + frame.length.toNat, position < 12 ∨ 16 ≤ position →
      (frame.serialize enableChecksum)[position]? = data[position]?) ∧
    (∃ inside : 12 + 4 ≤ data.length,
      frame.serialize enableChecksum = data.take (headerSize + frame.length.toNat) ↔
        readWord data 12 inside = frame.calculateChecksum enableChecksum) ∧
    frame.calculateChecksum false = 0 ∧
    (frame.serialize true = data.take (headerSize + frame.length.toNat) ↔
      frame.verifyChecksum true = true) := by
  have front := take_of_deserialize parsed
  have wellFormed : frame.length.toNat = frame.payload.length := deserialize_wellFormed parsed
  refine ⟨?_, ?_, ?_, rfl, ?_⟩
  · rw [length_serialize, wellFormed]
  · intro position below outside
    rw [getElem?_serialize enableChecksum frame outside, ← front, List.getElem?_take_of_lt below]
  · obtain ⟨inside, -, frame_eq⟩ := deserialize_inv parsed
    have checksum_eq : frame.checksum = readWord data 12 inside := by rw [frame_eq]
    refine ⟨inside, ?_⟩
    rw [front, serialize_eq_bytes_iff, checksum_eq]
  · rw [front, serialize_eq_bytes_iff]
    simp [verifyChecksum]

/-- A header whose checksum does not match, with two bytes behind it. -/
def mismatchedHeader : List UInt8 := [0, 0, 0, 0, 0, 0, 0, 9, 0, 0, 0, 0, 0, 0, 0, 8, 5, 6]

theorem serialize_of_deserialize_mismatched :
    serialize true { length := 0, streamId := 9, sequence := 0, checksum := 8, payload := [] } =
        mismatchedHeader.take (headerSize + 0) ↔
      verifyChecksum true
        { length := 0, streamId := 9, sequence := 0, checksum := 8, payload := [] } = true :=
  (serialize_of_deserialize true mismatchedHeader _ (by decide)).2.2.2.2

end Frame
end FramedTcp
