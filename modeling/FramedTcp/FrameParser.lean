import FramedTcp.Frame
import FramedTcp.PrefixDecoder

/-!
# The frame parser

`FrameParser::processData` scans a buffer for complete frames.  Its loop is embedded with its
counters and its `catch` branch; every header read carries the proof that it lies inside the
buffer.  The parser's member `active_frames_` is neither read nor written by it.  The loop is then
identified with greedy decoding by a prefix decoder for frames.
-/

namespace FramedTcp

open PrefixDecoding

namespace FrameParser

/-- Result of one attempt to parse a complete frame. -/
inductive Attempt
  | completed (frame : Frame) (frameLength : UInt32)
  | incomplete
  | thrown (message : String)

/-- The loop body of `processData` at the current number of consumed bytes. -/
def parseAt (data : List UInt8) (bytesConsumed : ℕ) : Attempt :=
  if header : data.length - bytesConsumed ≥ 16 then
    let frameLength := readWord data bytesConsumed
    if data.length - bytesConsumed ≥ Frame.headerSize + frameLength.toNat then
      match Frame.deserialize
          ((data.drop bytesConsumed).take (Frame.headerSize + frameLength.toNat)) with
      | .ok frame => .completed frame frameLength
      | .error message => .thrown message
    else
      .incomplete
  else
    .incomplete

/-- The `while` loop of `processData`; an exception skips one byte and leaves the loop. -/
def processLoop (data : List UInt8) (completedFrames : List Frame) (bytesConsumed : ℕ) :
    List Frame × ℕ :=
  if bytesConsumed < data.length then
    match parseAt data bytesConsumed with
    | .completed frame frameLength =>
        processLoop data (completedFrames ++ [frame])
          (bytesConsumed + (Frame.headerSize + frameLength.toNat))
    | .incomplete => (completedFrames, bytesConsumed)
    | .thrown _ => (completedFrames, bytesConsumed + 1)
  else
    (completedFrames, bytesConsumed)
termination_by data.length - bytesConsumed
decreasing_by
  have positive : 0 < Frame.headerSize := by decide
  omega

/-- The complete frames of a buffer and the number of bytes they occupy. -/
def processData (data : List UInt8) : List Frame × ℕ := processLoop data [] 0

/-! ## Frames as self-delimiting messages -/

/-- Decode one frame at the front of a buffer. -/
def nextFrame (data : List UInt8) : Option (Frame × ℕ) :=
  match Frame.deserialize data with
  | .ok frame => some (frame, Frame.headerSize + frame.length.toNat)
  | .error _ => none

theorem nextFrame_eq_some_iff {data : List UInt8} {frame : Frame} {width : ℕ} :
    nextFrame data = some (frame, width) ↔
      Frame.deserialize data = .ok frame ∧ Frame.headerSize + frame.length.toNat = width := by
  cases parsed : Frame.deserialize data with
  | error message => simp [nextFrame, parsed]
  | ok found =>
      simp only [nextFrame, parsed, Option.some.injEq, Prod.mk.injEq, Except.ok.injEq]
      constructor
      · rintro ⟨rfl, rfl⟩
        exact ⟨rfl, rfl⟩
      · rintro ⟨rfl, rfl⟩
        exact ⟨rfl, rfl⟩

/-- The prefix decoder for frames. -/
def decoder : PrefixDecoder UInt8 Frame where
  next := nextFrame
  width_pos found := by
    obtain ⟨-, rfl⟩ := nextFrame_eq_some_iff.mp found
    exact Nat.add_pos_left (by decide) _
  width_le found := by
    obtain ⟨parsed, rfl⟩ := nextFrame_eq_some_iff.mp found
    exact Frame.deserialize_width_le parsed
  next_append found later := by
    obtain ⟨parsed, rfl⟩ := nextFrame_eq_some_iff.mp found
    exact nextFrame_eq_some_iff.mpr ⟨Frame.deserialize_append parsed later, rfl⟩

theorem next_eq_some_iff {data : List UInt8} {frame : Frame} {width : ℕ} :
    decoder.next data = some (frame, width) ↔
      Frame.deserialize data = .ok frame ∧ Frame.headerSize + frame.length.toNat = width :=
  nextFrame_eq_some_iff

theorem next_eq_none_of_error {data : List UInt8} {message : String}
    (thrown : Frame.deserialize data = .error message) : decoder.next data = none := by
  simp [decoder, nextFrame, thrown]

/-- A loop iteration parses exactly the frame at the front of the unconsumed bytes; in
particular it never throws. -/
theorem parseAt_eq (data : List UInt8) (bytesConsumed : ℕ) :
    (decoder.next (data.drop bytesConsumed) = none ∧ parseAt data bytesConsumed = .incomplete) ∨
      ∃ frame, parseAt data bytesConsumed = .completed frame frame.length ∧
        decoder.next (data.drop bytesConsumed) =
          some (frame, Frame.headerSize + frame.length.toNat) := by
  have size : (data.drop bytesConsumed).length = data.length - bytesConsumed := List.length_drop
  by_cases header : data.length - bytesConsumed ≥ 16
  · have inside : 16 ≤ (data.drop bytesConsumed).length := size ▸ header
    have front := readWord_drop data bytesConsumed (by omega)
    by_cases complete : data.length - bytesConsumed ≥
        Frame.headerSize + (readWord data bytesConsumed).toNat
    · right
      have parsed := Frame.deserialize_eq_ok inside (by rw [front, size]; exact complete)
      have copied := Frame.deserialize_take parsed
      simp only [front] at copied
      refine ⟨_, ?_, next_eq_some_iff.mpr ⟨parsed, rfl⟩⟩
      simp only [parseAt, header, ↓reduceDIte, complete, ↓reduceIte, copied, front]
    · left
      have truncated : (data.drop bytesConsumed).length <
          Frame.headerSize + (readWord (data.drop bytesConsumed) 0).toNat := by
        rw [front, size]
        exact Nat.lt_of_not_le complete
      refine ⟨next_eq_none_of_error (Frame.deserialize_of_truncated inside truncated), ?_⟩
      simp only [parseAt, header, ↓reduceDIte, complete, ↓reduceIte]
  · left
    have short : (data.drop bytesConsumed).length < Frame.headerSize := by
      rw [size]
      exact Nat.lt_of_not_le header
    refine ⟨next_eq_none_of_error (Frame.deserialize_of_short short), ?_⟩
    simp only [parseAt, header, ↓reduceDIte]

/-- The parser loop decodes the bytes it has not consumed yet. -/
theorem processLoop_eq (data : List UInt8) (completedFrames : List Frame) (bytesConsumed : ℕ) :
    processLoop data completedFrames bytesConsumed =
      (completedFrames ++ decoder.messages (data.drop bytesConsumed),
        bytesConsumed + (decoder.decode (data.drop bytesConsumed)).2) := by
  induction completedFrames, bytesConsumed using processLoop.induct data with
  | case1 completed consumed more frame frameLength attempt induction =>
      rw [processLoop, if_pos more, attempt]
      rcases parseAt_eq data consumed with ⟨-, incomplete⟩ | ⟨found, completed_eq, next_eq⟩
      · rw [attempt] at incomplete
        contradiction
      · obtain ⟨rfl, rfl⟩ : frame = found ∧ frameLength = found.length := by
          rw [attempt] at completed_eq
          simpa using completed_eq
        simp only [induction]
        rw [decoder.messages_of_some next_eq, decoder.decode_of_some next_eq, List.drop_drop]
        simp [Nat.add_assoc]
  | case2 completed consumed more attempt =>
      rw [processLoop, if_pos more, attempt]
      rcases parseAt_eq data consumed with ⟨next_eq, -⟩ | ⟨found, completed_eq, -⟩
      · simp [next_eq, decoder.decode_of_none next_eq]
      · rw [attempt] at completed_eq
        contradiction
  | case3 completed consumed more message attempt =>
      rcases parseAt_eq data consumed with ⟨-, incomplete⟩ | ⟨found, completed_eq, -⟩
      · rw [attempt] at incomplete
        contradiction
      · rw [attempt] at completed_eq
        contradiction
  | case4 completed consumed done =>
      have empty : data.drop consumed = [] := List.drop_eq_nil_of_le (Nat.le_of_not_lt done)
      rw [processLoop, if_neg done, empty]
      simp [decoder.decode_of_none decoder.next_nil]

/-- `processData` is greedy decoding. -/
theorem processData_eq_decode (data : List UInt8) : processData data = decoder.decode data := by
  rw [processData, processLoop_eq]
  simp [PrefixDecoder.messages]

theorem processData_frames (data : List UInt8) : (processData data).1 = decoder.messages data := by
  rw [processData_eq_decode, PrefixDecoder.messages]

theorem drop_processData (data : List UInt8) :
    data.drop (processData data).2 = decoder.residue data := by
  rw [processData_eq_decode, PrefixDecoder.residue]

theorem processData_consumed_le (data : List UInt8) : (processData data).2 ≤ data.length := by
  rw [processData_eq_decode]
  exact decoder.decode_width_le data

/-- A frame is decoded from its own bytes. -/
theorem encodes_bytes (frame : Frame) (wellFormed : frame.WellFormed) :
    decoder.Encodes Frame.bytes (fun frame => { frame with clientId := -1 }) frame := by
  refine next_eq_some_iff.mpr ⟨frame.deserialize_bytes wellFormed, ?_⟩
  rw [Frame.length_bytes]
  exact congrArg _ wellFormed

/-- Serialization encodes every well-formed frame as itself on the wire. -/
theorem encodes_serialize {frame : Frame} (wellFormed : frame.WellFormed)
    (enableChecksum : Bool) :
    decoder.Encodes (Frame.serialize enableChecksum) (Frame.onWire enableChecksum) frame :=
  encodes_bytes (frame.onWire enableChecksum) wellFormed

/-! ## What the parser returns -/

/-- The bytes do not hold a complete frame at their front. -/
def Incomplete (data : List UInt8) : Prop :=
  data.length < Frame.headerSize ∨
    ∃ inside : 0 + 4 ≤ data.length,
      data.length < Frame.headerSize + (readWord data 0 inside).toNat

/-- What `processData` is for: the frames are the complete frames at the front of the data, read
from as many bytes as are consumed, and no complete frame follows. -/
structure Parsed (data : List UInt8) (completedFrames : List Frame) (bytesConsumed : ℕ) : Prop where
  consumed_le : bytesConsumed ≤ data.length
  consumed_eq : data.take bytesConsumed = (completedFrames.map Frame.bytes).flatten
  wellFormed : ∀ frame ∈ completedFrames, frame.WellFormed
  clientId_eq : ∀ frame ∈ completedFrames, frame.clientId = -1
  rest_incomplete : Incomplete (data.drop bytesConsumed)

theorem next_eq_none_iff (data : List UInt8) : decoder.next data = none ↔ Incomplete data := by
  constructor
  · intro incomplete
    by_cases short : data.length < Frame.headerSize
    · exact Or.inl short
    · have inside : 16 ≤ data.length := Nat.le_of_not_lt short
      refine Or.inr ⟨by omega, ?_⟩
      by_contra complete
      have parsed := Frame.deserialize_eq_ok inside (Nat.le_of_not_lt complete)
      rw [next_eq_some_iff.mpr ⟨parsed, rfl⟩] at incomplete
      contradiction
  · rintro (short | ⟨inside, truncated⟩)
    · exact next_eq_none_of_error (Frame.deserialize_of_short short)
    · by_cases short : data.length < Frame.headerSize
      · exact next_eq_none_of_error (Frame.deserialize_of_short short)
      · exact next_eq_none_of_error
          (Frame.deserialize_of_truncated (Nat.le_of_not_lt short) truncated)

theorem parsed_processData (data : List UInt8) :
    Parsed data (processData data).1 (processData data).2 := by
  have rest_eq := decoder.next_residue data
  rw [← drop_processData] at rest_eq
  refine ⟨processData_consumed_le data, ?_, ?_, ?_, (next_eq_none_iff _).mp rest_eq⟩
  · rw [processData_eq_decode]
    apply decoder.take_decode
    intro word frame width found
    obtain ⟨parsed, rfl⟩ := next_eq_some_iff.mp found
    exact Frame.take_of_deserialize parsed
  · rw [processData_frames]
    exact decoder.forall_messages
      (fun found => Frame.deserialize_wellFormed (next_eq_some_iff.mp found).1) data
  · rw [processData_frames]
    exact decoder.forall_messages
      (fun found => Frame.clientId_of_deserialize (next_eq_some_iff.mp found).1) data

/-- Complete frames in front of an incomplete rest are what the parser returns. -/
theorem processData_of_split {frames : List Frame} (wellFormed : ∀ frame ∈ frames, frame.WellFormed)
    {rest : List UInt8} (incomplete : Incomplete rest) :
    processData ((frames.map Frame.bytes).flatten ++ rest) =
      (frames.map (fun frame => { frame with clientId := -1 }),
        (frames.map Frame.bytes).flatten.length) := by
  have next_eq := (next_eq_none_iff rest).mpr incomplete
  rw [processData_eq_decode, PrefixDecoder.decode_flatten frames
    fun frame member => encodes_bytes frame (wellFormed frame member)]
  simp [next_eq, decoder.decode_of_none next_eq]

theorem Parsed.eq_processData {data : List UInt8} {completedFrames : List Frame}
    {bytesConsumed : ℕ} (parsed : Parsed data completedFrames bytesConsumed) :
    (completedFrames, bytesConsumed) = processData data := by
  have split := processData_of_split parsed.wellFormed parsed.rest_incomplete
  have unset : completedFrames.map (fun frame => { frame with clientId := -1 }) =
      completedFrames := by
    conv_rhs => rw [← List.map_id completedFrames]
    refine List.map_congr_left fun frame member => ?_
    rw [id, ← parsed.clientId_eq frame member]
  rw [unset, ← parsed.consumed_eq, List.take_append_drop, List.length_take,
    Nat.min_eq_left parsed.consumed_le] at split
  exact split.symm

/-- The parser never throws, copies no byte from outside its buffer, and returns the only result
that splits the buffer into complete frames and an incomplete rest. -/
theorem processData_spec (data : List UInt8) :
    (∀ bytesConsumed < data.length, (∀ message, parseAt data bytesConsumed ≠ .thrown message) ∧
      ∀ frame frameLength, parseAt data bytesConsumed = .completed frame frameLength →
        bytesConsumed + (Frame.headerSize + frameLength.toNat) ≤ data.length) ∧
    Parsed data (processData data).1 (processData data).2 ∧
    ∀ completedFrames bytesConsumed, Parsed data completedFrames bytesConsumed →
      (completedFrames, bytesConsumed) = processData data := by
  refine ⟨?_, parsed_processData data, fun _ _ => Parsed.eq_processData⟩
  intro bytesConsumed inside
  rcases parseAt_eq data bytesConsumed with ⟨-, incomplete⟩ | ⟨found, completed_eq, next_eq⟩
  · rw [incomplete]
    exact ⟨nofun, nofun⟩
  · rw [completed_eq]
    refine ⟨nofun, fun frame frameLength same => ?_⟩
    obtain ⟨rfl, rfl⟩ := Attempt.completed.inj same
    have bounded := decoder.width_le next_eq
    rw [List.length_drop] at bounded
    omega

/-- Two bytes of a header behind a frame with one byte of payload. -/
theorem processData_spec_cut :
    ([{ length := 1, streamId := 9, sequence := 0, checksum := 0, payload := [7] }], 17) =
      processData [0, 0, 0, 1, 0, 0, 0, 9, 0, 0, 0, 0, 0, 0, 0, 0, 7, 0, 0] := by
  apply (processData_spec _).2.2
  exact ⟨by decide, by decide, by decide, by decide, Or.inl (by decide)⟩

/-! ## Receiving in chunks -/

/-- One round of the receive loops: append the received bytes to the buffer, parse the buffer, and
erase the bytes that were consumed. -/
def receiveChunk (frameBuffer chunk : List UInt8) : List Frame × List UInt8 :=
  let frameBuffer := frameBuffer ++ chunk
  let parsed := processData frameBuffer
  (parsed.1, if parsed.2 > 0 then frameBuffer.drop parsed.2 else frameBuffer)

theorem receiveChunk_eq_feed (frameBuffer chunk : List UInt8) :
    receiveChunk frameBuffer chunk = decoder.feed frameBuffer chunk := by
  rw [receiveChunk, PrefixDecoder.feed, processData_frames, ← drop_processData]
  split
  · rfl
  · rename_i nothing
    rw [Nat.eq_zero_of_not_pos nothing, List.drop_zero]

/-! ## Parsing serialized frames -/

theorem encodes_serialize_of_forall {frames : List Frame}
    (wellFormed : ∀ frame ∈ frames, frame.WellFormed) (enableChecksum : Bool) :
    ∀ frame ∈ frames,
      decoder.Encodes (Frame.serialize enableChecksum) (Frame.onWire enableChecksum) frame :=
  fun frame member => encodes_serialize (wellFormed frame member) enableChecksum

/-- An incomplete tail behind serialized frames is left alone. -/
theorem processData_serialized {frames : List Frame}
    (wellFormed : ∀ frame ∈ frames, frame.WellFormed) (enableChecksum : Bool)
    {tail : List UInt8} (incomplete : decoder.next tail = none) :
    processData ((frames.map (Frame.serialize enableChecksum)).flatten ++ tail) =
      (frames.map (Frame.onWire enableChecksum),
        (frames.map (Frame.serialize enableChecksum)).flatten.length) := by
  rw [processData_eq_decode,
    PrefixDecoder.decode_flatten frames (encodes_serialize_of_forall wellFormed enableChecksum),
    decoder.messages_of_none incomplete, decoder.decode_of_none incomplete, List.append_nil,
    Nat.add_zero]

/-- A chunk that is one serialized frame is parsed whole. -/
theorem receiveChunk_serialize {frame : Frame} (wellFormed : frame.WellFormed)
    (enableChecksum : Bool) :
    receiveChunk [] (frame.serialize enableChecksum) = ([frame.onWire enableChecksum], []) := by
  have wellFormed' : ∀ other ∈ [frame], other.WellFormed := by simpa using wellFormed
  have parsed := PrefixDecoder.decode_flatten [frame]
    (encodes_serialize_of_forall wellFormed' enableChecksum) []
  simp only [List.map_singleton, List.flatten_singleton, List.append_nil] at parsed
  rw [receiveChunk_eq_feed, PrefixDecoder.feed, List.nil_append, PrefixDecoder.messages,
    PrefixDecoder.residue, parsed]
  simp [decoder.decode_of_none decoder.next_nil]

/-- Parsing undoes serialization on a stream of frames that ends inside one more frame. -/
theorem processData_undoes_serialize (sender : Bool) (frames : List Frame) (last : Frame)
    (tail : List UInt8) (wellFormed : ∀ frame ∈ frames, frame.WellFormed)
    (last_wellFormed : last.WellFormed) (tail_le : tail <+: last.serialize sender)
    (tail_ne : tail ≠ last.serialize sender) :
    processData ((frames.map (Frame.serialize sender)).flatten ++ tail) =
        (frames.map (Frame.onWire sender),
          (frames.map (Frame.serialize sender)).flatten.length) ∧
      ∀ receiver : Bool, receiver = false ∨ receiver = sender →
        ∀ frame ∈ (processData ((frames.map (Frame.serialize sender)).flatten ++ tail)).1,
          frame.verifyChecksum receiver = true := by
  have incomplete := (encodes_serialize last_wellFormed sender).next_truncated tail_le tail_ne
  have parsed := processData_serialized wellFormed sender incomplete
  refine ⟨parsed, fun receiver agree frame member => ?_⟩
  rw [parsed] at member
  obtain ⟨sent, -, rfl⟩ := List.mem_map.mp member
  exact Frame.verifyChecksum_onWire receiver sender sent agree

/-- One frame with a top-bit-set stream, cut off inside the header of the next. -/
theorem processData_undoes_serialize_cut :
    processData (([Frame.create 0xFFFFFFFF 0 [0x80]].map (Frame.serialize true)).flatten ++
        [0, 0, 0]) =
      ([Frame.onWire true (Frame.create 0xFFFFFFFF 0 [0x80])], 17) :=
  (processData_undoes_serialize true [Frame.create 0xFFFFFFFF 0 [0x80]] (Frame.create 0 0 [])
    [0, 0, 0] (by decide) (by decide) ⟨_, rfl⟩ (by decide)).1

end FrameParser
end FramedTcp
