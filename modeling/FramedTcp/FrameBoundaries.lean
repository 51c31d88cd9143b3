import FramedTcp.FrameHandler

/-!
# Frame boundaries in the frame handler

What one packet erases from the frame handler's buffer, and where in the peer's byte stream the
frames lie that the callback is invoked with.  The buffer is always an end piece of the received
bytes, so an offset in it is a position in the stream; nothing in the handler records whether that
position is a frame boundary.
-/

namespace FramedTcp

open PrefixDecoding EventSystems FrameParser

namespace FrameHandler

/-! ## Erasing complete frames -/

/-- Does the loop give up after its last round? -/
def interrupted (handler : FrameHandler) (iterationCount bytesConsumed : ℕ) : Bool :=
  if iterationCount > maxIterations then
    true
  else
    let parsed := processData handler.frameBuffer
    if parsed.2 = 0 then
      false
    else
      let bytesConsumed := bytesConsumed + parsed.2
      if bytesConsumed < handler.frameBuffer.length then
        interrupted handler (iterationCount + 1) bytesConsumed
      else
        false
termination_by maxIterations + 1 - iterationCount

/-- The buffer with a packet appended. -/
def appended (handler : FrameHandler) (data : List UInt8) : FrameHandler :=
  { handler with frameBuffer := handler.frameBuffer ++ data }

/-- The loop erases the complete frames at the front of the buffer, and it ends by itself. -/
structure ErasesCompleteFrames (enableChecksum : Bool) (handler : FrameHandler) : Prop where
  inside : (processIterations enableChecksum handler 0 0 []).1 ≤ handler.frameBuffer.length
  erased : 0 < (processIterations enableChecksum handler 0 0 []).1 → ∃ completedFrames,
    Parsed handler.frameBuffer completedFrames
      (processIterations enableChecksum handler 0 0 []).1
  uninterrupted : handler.interrupted 0 0 = false

/-- Complete frames are followed by a piece of another one. -/
def Overruns (data : List UInt8) : Prop :=
  ∃ completedFrames rest, completedFrames ≠ [] ∧ rest ≠ [] ∧
    (∀ frame ∈ completedFrames, frame.WellFormed) ∧ Incomplete rest ∧
    data = (completedFrames.map Frame.bytes).flatten ++ rest

theorem overruns_iff (data : List UInt8) :
    Overruns data ↔ 0 < (processData data).2 ∧ (processData data).2 < data.length := by
  have parsed := parsed_processData data
  constructor
  · rintro ⟨completedFrames, rest, frames_ne, rest_ne, wellFormed, incomplete, rfl⟩
    rw [processData_of_split wellFormed incomplete, List.length_append]
    refine ⟨?_, Nat.lt_add_of_pos_right (List.length_pos_iff.mpr rest_ne)⟩
    cases completedFrames with
    | nil => contradiction
    | cons frame frames => simp [Frame.headerSize]
  · rintro ⟨something, more⟩
    refine ⟨(processData data).1, data.drop (processData data).2, ?_, ?_, parsed.wellFormed,
      parsed.rest_incomplete, ?_⟩
    · intro nothing
      have front := congrArg List.length parsed.consumed_eq
      rw [nothing, List.length_take, Nat.min_eq_left parsed.consumed_le] at front
      exact something.ne' front
    · exact List.length_pos_iff.mp (by rw [List.length_drop]; omega)
    · rw [← parsed.consumed_eq, List.take_append_drop]

section Erase

variable {enableChecksum : Bool} {handler : FrameHandler}

theorem interrupted_of_nothing (nothing : (processData handler.frameBuffer).2 = 0) :
    handler.interrupted 0 0 = false := by
  rw [interrupted, if_neg (by decide), if_pos nothing]

theorem interrupted_of_all (something : (processData handler.frameBuffer).2 ≠ 0)
    (all : (processData handler.frameBuffer).2 = handler.frameBuffer.length) :
    handler.interrupted 0 0 = false := by
  rw [interrupted, if_neg (by decide), if_neg something, if_neg (by omega)]

/-- A buffer without an overrun is erased up to its last complete frame. -/
theorem erasesCompleteFrames_of_not_overruns (fits : ¬ Overruns handler.frameBuffer) :
    ErasesCompleteFrames enableChecksum handler := by
  have parsed := parsed_processData handler.frameBuffer
  rw [overruns_iff] at fits
  rcases Nat.eq_zero_or_pos (processData handler.frameBuffer).2 with nothing | something
  · have result := @processIterations_of_nothing enableChecksum handler nothing
    refine ⟨by simp [result], fun erased => ?_, interrupted_of_nothing nothing⟩
    simp [result] at erased
  · have all : (processData handler.frameBuffer).2 = handler.frameBuffer.length :=
      (processData_consumed_le _).antisymm (Nat.le_of_not_lt fun more => fits ⟨something, more⟩)
    have nonempty : handler.frameBuffer ≠ [] := by
      rw [← List.length_pos_iff, ← all]
      exact something
    have result := @processIterations_of_all enableChecksum handler nonempty all
    refine ⟨by simp [result], fun _ => ⟨(processData handler.frameBuffer).1, ?_⟩,
      interrupted_of_all something.ne' all⟩
    rw [result, ← all]
    exact parsed

end Erase

/-- What one packet erases is the complete frames at the front of the buffer exactly when these are
not followed by a piece of another frame. -/
theorem erases_complete_frames_iff (enableChecksum : Bool) (handler : FrameHandler)
    (data : List UInt8) :
    (handler.Accepted data → ErasesCompleteFrames enableChecksum (handler.appended data)) ↔
      (handler.Accepted data → ¬ Overruns (handler.frameBuffer ++ data)) := by
  refine forall_congr' fun _ => ⟨fun erases overruns => ?_, fun fits => ?_⟩
  · obtain ⟨something, more⟩ := (overruns_iff _).mp overruns
    have twice := @processIterations_of_some enableChecksum (handler.appended data) something more
    obtain ⟨completedFrames, parsed⟩ := erases.erased (by
      refine lt_of_lt_of_le ?_ twice
      exact Nat.mul_pos (by decide) something)
    have consumed_eq := congrArg Prod.snd parsed.eq_processData
    dsimp only [appended] at consumed_eq twice
    omega
  · exact erasesCompleteFrames_of_not_overruns fits

/-- An empty frame and the first three bytes of another one arrive together. -/
def overrunPacket : List UInt8 :=
  Frame.serialize true (Frame.create 1 0 []) ++ [0, 0, 0]

/-- Thirty-two bytes are to be erased from a buffer of nineteen. -/
theorem overrun_erases_past_end :
    ¬ ∀ trace handler invoked data, (packets true).Reaches trace (handler, invoked) →
      handler.Accepted data → ErasesCompleteFrames true (handler.appended data) := by
  intro erases
  have first := erases [] _ _ overrunPacket EventSystem.reaches_nil ⟨by decide, by decide⟩
  have fits := (erases_complete_frames_iff true { frameCallback := true } overrunPacket).mp
    (fun _ => first) ⟨by decide, by decide⟩
  exact fits ⟨[Frame.onWire true (Frame.create 1 0 [])], [0, 0, 0], by decide, by decide,
    by decide, Or.inl (by decide), by decide⟩

/-! ## Positions in the peer's stream -/

/-- Frames that follow each other from an offset on, with the offsets where they start. -/
def located (start : ℕ) : List Frame → List (ℕ × Frame)
  | [] => []
  | frame :: frames =>
      (start, frame) :: located (start + (Frame.headerSize + frame.length.toNat)) frames

/-- The call for this packet passes to the callback a frame read at an offset of the buffer. -/
def Invokes (enableChecksum : Bool) (handler : FrameHandler) (data : List UInt8) (offset : ℕ)
    (frame : Frame) : Prop :=
  handler.Accepted data ∧
    (offset, frame) ∈ located 0 (processData (handler.frameBuffer ++ data)).1 ∧
    handler.frameCallback = true ∧ frame.verifyChecksum enableChecksum = true

/-- The peer's stream has this frame at this position. -/
def SentAt (sender : Bool) (frames : List Frame) (position : ℕ) (frame : Frame) : Prop :=
  ∃ done next todo, frames = done ++ next :: todo ∧
    position = (done.map (Frame.serialize sender)).flatten.length ∧ frame = next.onWire sender

/-- Every frame passed to the callback is a frame of the peer's, read at its own position; the
buffer starts as many bytes behind the start of the stream as have left it. -/
def NeverFabricates (receiver sender : Bool) (frames : List Frame) (data : List (List UInt8)) :
    Prop :=
  ∀ front packet, front ++ [packet] <+: data → ∀ handler invoked,
    (packets receiver).Reaches front (handler, invoked) → ∀ offset frame,
      handler.Invokes receiver packet offset frame →
        SentAt sender frames (front.flatten.length - handler.frameBuffer.length + offset) frame

/-- Every packet that is dropped at the limit or completes a frame ends with the last byte of a
frame. -/
def KeepsBoundaries (receiver sender : Bool) (frames : List Frame) (data : List (List UInt8)) :
    Prop :=
  ∀ front packet, front ++ [packet] <+: data → ∀ handler invoked,
    (packets receiver).Reaches front (handler, invoked) →
      maxBufferSize < handler.frameBuffer.length + packet.length ∨
        (PrefixDecoder.cut (Frame.serialize sender) frames front.flatten).1.length <
          (PrefixDecoder.cut (Frame.serialize sender) frames
            (front ++ [packet]).flatten).1.length →
      (PrefixDecoder.cut (Frame.serialize sender) frames (front ++ [packet]).flatten).2 = []

/-- Offsets of the parser are where its loop parses a frame. -/
theorem parseAt_of_mem_located {data : List UInt8} (consumed : ℕ) {offset : ℕ} {frame : Frame}
    (member : (offset, frame) ∈ located consumed (decoder.messages (data.drop consumed))) :
    parseAt data offset = .completed frame frame.length := by
  generalize rest_eq : data.drop consumed = rest at member
  induction rest using decoder.word_induction generalizing consumed with
  | incomplete rest incomplete => simp [incomplete, located] at member
  | complete rest first width found induction =>
      rw [decoder.messages_of_some found, located, List.mem_cons] at member
      obtain ⟨parsed, rfl⟩ := next_eq_some_iff.mp found
      rcases member with front | later
      · obtain ⟨rfl, rfl⟩ := Prod.mk.inj front
        rcases parseAt_eq data offset with ⟨next_eq, -⟩ | ⟨other, completed_eq, next_eq⟩
        · rw [rest_eq, found] at next_eq
          contradiction
        · rw [rest_eq, found] at next_eq
          obtain ⟨rfl, -⟩ := Prod.mk.inj (Option.some.inj next_eq)
          exact completed_eq
      · exact induction _ (by rw [← rest_eq, List.drop_drop]) later

theorem mem_of_mem_located {start offset : ℕ} {frame : Frame} {frames : List Frame}
    (member : (offset, frame) ∈ located start frames) : frame ∈ frames := by
  induction frames generalizing start with
  | nil => contradiction
  | cons first frames induction =>
      rcases List.mem_cons.mp member with front | later
      · exact (Prod.mk.inj front).2 ▸ List.mem_cons_self
      · exact List.mem_cons_of_mem _ (induction later)

theorem exists_mem_located (start : ℕ) {frame : Frame} {frames : List Frame}
    (member : frame ∈ frames) : ∃ offset, (offset, frame) ∈ located start frames := by
  induction frames generalizing start with
  | nil => contradiction
  | cons first frames induction =>
      rcases List.mem_cons.mp member with rfl | later
      · exact ⟨start, List.mem_cons_self⟩
      · obtain ⟨offset, found⟩ := induction (start + (Frame.headerSize + first.length.toNat)) later
        exact ⟨offset, List.mem_cons_of_mem _ found⟩

/-- The callback is invoked with the valid frames of the buffer, in one or more rounds. -/
theorem mem_invoked_iff {enableChecksum : Bool} {handler : FrameHandler} (frame : Frame) :
    frame ∈ (processIterations enableChecksum handler 0 0 []).2 ↔
      frame ∈ handler.invoke enableChecksum (processData handler.frameBuffer).1 := by
  rcases Nat.eq_zero_or_pos (processData handler.frameBuffer).2 with nothing | something
  · have no_frames : (processData handler.frameBuffer).1 = [] := by
      rw [processData_eq_decode] at nothing
      rw [processData_frames]
      exact (decoder.decode_width_eq_zero_iff _).mp nothing
    rw [processIterations_of_nothing nothing, no_frames]
    simp [invoke]
  · rw [processIterations, if_neg (by decide), if_neg something.ne', List.nil_append]
    dsimp only
    split
    · obtain ⟨rounds, result⟩ := @processIterations_eq enableChecksum handler (0 + 1)
        (0 + (processData handler.frameBuffer).2)
        (handler.invoke enableChecksum (processData handler.frameBuffer).1)
      rw [result]
      simp +contextual
    · rfl

/-- The located invocations are those that the loop makes, repetitions apart. -/
theorem mem_processIterations_iff {enableChecksum : Bool} {handler : FrameHandler}
    {data : List UInt8} (accepted : handler.Accepted data) (frame : Frame) :
    frame ∈ (processIterations enableChecksum (handler.appended data) 0 0 []).2 ↔
      ∃ offset, handler.Invokes enableChecksum data offset frame := by
  rw [mem_invoked_iff]
  constructor
  · intro member
    rw [invoke] at member
    split at member
    · rename_i callback
      obtain ⟨found, valid⟩ := List.mem_filter.mp member
      obtain ⟨offset, located⟩ := exists_mem_located 0 found
      exact ⟨offset, accepted, located, callback, valid⟩
    · contradiction
  · rintro ⟨offset, -, found, callback, valid⟩
    have callback' : (handler.appended data).frameCallback = true := callback
    rw [invoke, if_pos callback']
    exact List.mem_filter.mpr ⟨mem_of_mem_located found, valid⟩

section Stream

variable {receiver sender : Bool} {frames : List Frame} {data : List (List UInt8)}

/-- The buffer is an end piece of the received bytes. -/
theorem frameBuffer_suffix {state : FrameHandler × List Frame}
    (reached : (packets receiver).Reaches data state) : state.1.frameBuffer <:+ data.flatten := by
  refine reached.invariant
    (motive := fun data state => state.1.frameBuffer <:+ data.flatten) List.suffix_rfl ?_
  intro data before packet next _ suffix stepped
  obtain ⟨invoked, processed, -⟩ := packets_step.mp stepped
  have extended : before.1.frameBuffer ++ packet <:+ (data ++ [packet]).flatten := by
    obtain ⟨gone, whole⟩ := suffix
    exact ⟨gone, by rw [← List.append_assoc, whole]; simp⟩
  rcases processIncomingData_cases processed with
    ⟨rfl, kept, -⟩ | ⟨-, dropped, -⟩ | ⟨-, bytesConsumed, erased, -⟩
  · rw [kept]
    simpa using suffix
  · rw [dropped]
    exact List.nil_suffix
  · rw [erased]
    exact (List.drop_suffix _ _).trans extended

/-- The received front of the stream, as the parser and as the frames' own sizes cut it. -/
theorem cut_stream (wellFormed : ∀ frame ∈ frames, frame.WellFormed)
    (stream : data.flatten <+: (frames.map (Frame.serialize sender)).flatten)
    {front : List (List UInt8)} (front_le : front <+: data) :
    front.flatten <+: (frames.map (Frame.serialize sender)).flatten ∧
      decoder.messages front.flatten =
        (PrefixDecoder.cut (Frame.serialize sender) frames front.flatten).1.map
          (Frame.onWire sender) ∧
      decoder.residue front.flatten =
        (PrefixDecoder.cut (Frame.serialize sender) frames front.flatten).2 := by
  have front_stream : front.flatten <+: (frames.map (Frame.serialize sender)).flatten := by
    obtain ⟨back, rfl⟩ := front_le
    rw [List.flatten_append] at stream
    exact (List.prefix_append _ _).trans stream
  exact ⟨front_stream,
    PrefixDecoder.cut_eq frames (encodes_serialize_of_forall wellFormed sender) front_stream⟩

/-- While boundaries are kept, the buffer is the received piece of the next frame. -/
theorem KeepsBoundaries.frameBuffer_eq (keeps : KeepsBoundaries receiver sender frames data)
    (wellFormed : ∀ frame ∈ frames, frame.WellFormed)
    (stream : data.flatten <+: (frames.map (Frame.serialize sender)).flatten)
    {front : List (List UInt8)} (front_le : front <+: data) {state : FrameHandler × List Frame}
    (reached : (packets receiver).Reaches front state) :
    state.1.frameBuffer = decoder.residue front.flatten := by
  induction front using List.reverseRecOn generalizing state with
  | nil =>
      obtain rfl := reached.eq_init
      simp [packets]
  | append_singleton front packet induction =>
      obtain ⟨before, before_reached, stepped⟩ := EventSystem.reaches_concat.mp reached
      have earlier_le := (List.prefix_append _ _).trans front_le
      have buffer_eq := induction earlier_le before_reached
      obtain ⟨invoked, processed, -⟩ := packets_step.mp stepped
      have boundary := keeps front packet front_le _ _ before_reached
      obtain ⟨-, earlier_eq, -⟩ := cut_stream wellFormed stream earlier_le
      obtain ⟨-, later_eq, residue_eq⟩ := cut_stream wellFormed stream front_le
      have earlier_length := congrArg List.length earlier_eq
      have later_length := congrArg List.length later_eq
      rw [List.length_map] at earlier_length later_length
      rw [← earlier_length, ← later_length, ← residue_eq, List.flatten_append,
        List.flatten_singleton, decoder.messages_append, List.length_append,
        decoder.residue_append, ← buffer_eq] at boundary
      rw [List.flatten_append, List.flatten_singleton, decoder.residue_append, ← buffer_eq]
      rcases processIncomingData_cases processed with
        ⟨rfl, kept, -⟩ | ⟨exceeds, dropped, -⟩ | ⟨accepted, -⟩
      · rw [kept, List.append_nil, buffer_eq, decoder.residue_of_none (decoder.next_residue _)]
      · rw [dropped, boundary (Or.inl exceeds)]
      · cases completes : decoder.messages (before.1.frameBuffer ++ packet) with
        | nil =>
            rw [processIncomingData_of_waiting accepted completes] at processed
            rw [← (Prod.mk.inj (Option.some.inj processed)).1,
              decoder.residue_of_none ((decoder.messages_eq_nil_iff _).mp completes)]
        | cons frame later =>
            have ends := boundary (Or.inr (by rw [completes, List.length_cons]; omega))
            rw [processIncomingData_of_boundary accepted ends] at processed
            rw [← (Prod.mk.inj (Option.some.inj processed)).1, ends]

/-- Frames of an encoded piece lie where the encodings of the frames before them end. -/
theorem sentAt_of_mem_located (sent : List Frame) (wellFormed : ∀ frame ∈ sent, frame.WellFormed)
    {start offset : ℕ} {frame : Frame}
    (member : (offset, frame) ∈ located start (sent.map (Frame.onWire sender))) :
    ∃ position, offset = start + position ∧ SentAt sender sent position frame := by
  induction sent generalizing start with
  | nil => contradiction
  | cons first sent induction =>
      rcases List.mem_cons.mp member with front | later
      · obtain ⟨rfl, rfl⟩ := Prod.mk.inj front
        exact ⟨0, rfl, [], first, sent, rfl, rfl, rfl⟩
      · have first_wellFormed : first.length.toNat = first.payload.length :=
          wellFormed first List.mem_cons_self
        obtain ⟨position, rfl, done, next, todo, rfl, rfl, rfl⟩ :=
          induction (fun other inside => wellFormed other (List.mem_cons_of_mem _ inside)) later
        refine ⟨_, ?_, first :: done, next, todo, rfl, rfl, rfl⟩
        rw [List.map_cons, List.flatten_cons, List.length_append, Frame.length_serialize,
          ← first_wellFormed, Nat.add_assoc]
        rfl

/-- A frame keeps its place when frames are sent before and after. -/
theorem SentAt.append {current : List Frame} {position : ℕ} {frame : Frame}
    (sent : SentAt sender current position frame) (done later : List Frame) :
    SentAt sender (done ++ (current ++ later))
      ((done.map (Frame.serialize sender)).flatten.length + position) frame := by
  obtain ⟨earlier, next, todo, rfl, rfl, rfl⟩ := sent
  refine ⟨done ++ earlier, next, todo ++ later, by simp, ?_, rfl⟩
  rw [List.map_append, List.flatten_append, List.length_append]

end Stream

/-- One packet for each frame keeps the boundaries, whether it is dropped at the limit or not. -/
theorem keepsBoundaries_of_framePackets {receiver sender : Bool} {frames : List Frame}
    (wellFormed : ∀ frame ∈ frames, frame.WellFormed) :
    KeepsBoundaries receiver sender frames (frames.map (Frame.serialize sender)) := by
  intro front packet front_le _ _ _ _
  obtain ⟨-, -, residue_eq⟩ := cut_stream wellFormed List.prefix_rfl front_le
  obtain ⟨done, done_le, packets_eq⟩ := List.prefix_map_iff.mp front_le
  rw [← residue_eq, decoder.residue_eq_nil_iff, packets_eq]
  have whole := PrefixDecoder.decode_flatten done (encodes_serialize_of_forall
    (fun frame member => wellFormed frame (done_le.subset member)) sender) []
  rw [List.append_nil] at whole
  rw [whole, decoder.decode_of_none decoder.next_nil, Nat.add_zero]

/-- A packet that is dropped at the limit, and one that holds a frame. -/
theorem reaches_of_dropped {dropped : List UInt8} (exceeds : maxBufferSize < dropped.length)
    {frame : Frame} (wellFormed : frame.WellFormed)
    (short : (frame.serialize true).length ≤ maxBufferSize) :
    (packets true).Reaches [dropped, frame.serialize true]
      ({ frameCallback := true }, [frame.onWire true]) := by
  have first : processIncomingData true { frameCallback := true } dropped =
      some ({ frameCallback := true }, []) := by
    refine processIncomingData_of_exceeds (List.length_pos_iff.mp (Nat.zero_lt_of_lt exceeds)) ?_
    exact exceeds.trans_le (Nat.le_add_left _ _)
  have second : processIncomingData true { frameCallback := true } (frame.serialize true) =
      some ({ frameCallback := true }, [frame.onWire true]) := by
    have found := (encodes_serialize wellFormed true).next_append []
    rw [List.append_nil] at found
    have accepted : Accepted { frameCallback := true } (frame.serialize true) := by
      refine ⟨List.length_pos_iff.mp ?_, by simpa using short⟩
      rw [Frame.length_serialize]
      exact Nat.add_pos_left (by decide) _
    have boundary : decoder.residue (frame.serialize true) = [] := by
      rw [decoder.residue_of_some found, List.drop_length,
        decoder.residue_of_none decoder.next_nil]
    have messages_eq : decoder.messages (frame.serialize true) = [frame.onWire true] := by
      rw [decoder.messages_of_some found, List.drop_length,
        decoder.messages_of_none decoder.next_nil]
    rw [processIncomingData_of_boundary accepted boundary]
    simp [invoke, messages_eq, Frame.verifyChecksum_onWire]
  have reached : (packets true).Reaches [dropped] ({ frameCallback := true }, []) :=
    EventSystem.reaches_concat.mpr
      ⟨_, EventSystem.reaches_nil, packets_step.mpr ⟨[], first, rfl⟩⟩
  exact EventSystem.reaches_concat.mpr ⟨_, reached, packets_step.mpr ⟨_, second, rfl⟩⟩

/-- As long as every packet that is dropped at the limit or completes a frame ends with the last
byte of a frame, only frames of the peer's are passed to the callback, each read at its own
position. -/
theorem never_fabricates_of_keepsBoundaries (receiver sender : Bool) (frames : List Frame)
    (wellFormed : ∀ frame ∈ frames, frame.WellFormed) (data : List (List UInt8))
    (stream : data.flatten <+: (frames.map (Frame.serialize sender)).flatten)
    (keeps : KeepsBoundaries receiver sender frames data) :
    NeverFabricates receiver sender frames data := by
  rintro front packet front_le handler invoked reached offset frame ⟨-, member, -, -⟩
  have earlier_le := (List.prefix_append front [packet]).trans front_le
  have buffer_eq := keeps.frameBuffer_eq wellFormed stream earlier_le reached
  dsimp only at buffer_eq
  have encodes := encodes_serialize_of_forall wellFormed sender
  obtain ⟨⟨back, whole⟩, -⟩ := cut_stream wellFormed stream front_le
  rw [List.flatten_append, List.flatten_singleton, List.append_assoc] at whole
  obtain ⟨done, todo, rfl, -, front_eq, rest_eq⟩ :=
    PrefixDecoder.split_of_append_eq frames encodes whole
  rw [← List.append_assoc, ← buffer_eq] at rest_eq
  obtain ⟨current, later, rfl, messages_eq, -, -⟩ := PrefixDecoder.split_of_append_eq todo
    (fun other inside => encodes other (List.mem_append_right _ inside)) rest_eq
  rw [processData_frames, messages_eq] at member
  obtain ⟨position, offset_eq, sent⟩ := sentAt_of_mem_located current
    (fun other inside => wellFormed other (by simp [inside])) member
  have start_eq : front.flatten.length - handler.frameBuffer.length =
      (done.map (Frame.serialize sender)).flatten.length := by
    have size := congrArg List.length front_eq
    rw [List.length_append, ← buffer_eq] at size
    omega
  rw [start_eq, offset_eq, Nat.zero_add]
  exact sent.append done later

/-- A frame that exceeds the limit as one packet, and another frame. -/
def exceedingFrames : List Frame :=
  [Frame.create 1 0 (List.replicate maxBufferSize 0), Frame.create 1 1 [7]]

/-- The first packet is dropped at the limit and ends with its frame; the frame in the second one is
passed to the callback. -/
theorem never_fabricates_of_keepsBoundaries_dropped :
    NeverFabricates true true exceedingFrames (exceedingFrames.map (Frame.serialize true)) ∧
      (packets true).Reaches (exceedingFrames.map (Frame.serialize true))
        ({ frameCallback := true }, [(Frame.create 1 1 [7]).onWire true]) := by
  have size : (List.replicate maxBufferSize (0 : UInt8)).length = maxBufferSize :=
    List.length_replicate
  rw [exceedingFrames]
  generalize List.replicate maxBufferSize (0 : UInt8) = filler at size ⊢
  have wellFormed : ∀ frame ∈ [Frame.create 1 0 filler, Frame.create 1 1 [7]],
      frame.WellFormed := by
    intro frame member
    rcases List.mem_pair.mp member with rfl | rfl
    · apply Frame.wellFormed_create
      rw [size]
      decide
    · decide
  refine ⟨never_fabricates_of_keepsBoundaries true true _ wellFormed _ List.prefix_rfl
    (keepsBoundaries_of_framePackets wellFormed), reaches_of_dropped ?_ (by decide) (by decide)⟩
  have payload_eq : (Frame.create 1 0 filler).payload = filler := rfl
  rw [Frame.length_serialize, payload_eq, size]
  decide

/-! ## A frame inside a payload -/

/-- The bytes of a frame that is hidden at the end of another one's payload. -/
def hiddenBytes : List UInt8 := Frame.serialize true (Frame.create 9 9 [])

/-- A frame whose payload ends with the bytes of another one. -/
def carrier (filler : List UInt8) : Frame := Frame.create 1 0 (filler ++ hiddenBytes)

/-- The bytes of the carrier in front of the hidden ones. -/
def carrierFront (filler : List UInt8) : List UInt8 :=
  bigEndian (carrier filler).length ++ (bigEndian (carrier filler).streamId ++
    (bigEndian (carrier filler).sequence ++
      (bigEndian ((carrier filler).calculateChecksum true) ++ filler)))

theorem carrier_split (filler : List UInt8) :
    [carrierFront filler, hiddenBytes].flatten =
      ([carrier filler].map (Frame.serialize true)).flatten := by
  simp [carrierFront, carrier, Frame.serialize, Frame.create]

theorem length_carrierFront (filler : List UInt8) :
    (carrierFront filler).length = 16 + filler.length := by
  simp only [carrierFront, List.length_append, length_bigEndian]
  omega

/-- If the front of the carrier is dropped at the limit, the hidden bytes are taken for a frame. -/
theorem not_neverFabricates_of_dropped {filler : List UInt8}
    (size : maxBufferSize ≤ filler.length) :
    ¬ NeverFabricates true true [carrier filler] [carrierFront filler, hiddenBytes] := by
  intro never
  have front_length := length_carrierFront filler
  have dropped : processIncomingData true { frameCallback := true } (carrierFront filler) =
      some ({ frameCallback := true }, []) := by
    refine processIncomingData_of_exceeds (List.length_pos_iff.mp (by omega)) ?_
    simp only [List.length_nil]
    omega
  have reached : (packets true).Reaches [carrierFront filler] ({ frameCallback := true }, []) :=
    EventSystem.reaches_concat.mpr
      ⟨_, EventSystem.reaches_nil, packets_step.mpr ⟨[], dropped, rfl⟩⟩
  have invokes : FrameHandler.Invokes true { frameCallback := true } hiddenBytes 0
      (Frame.onWire true (Frame.create 9 9 [])) := by
    refine ⟨⟨by decide, by decide⟩, ?_, rfl, by decide⟩
    have parsed := (processData_spec hiddenBytes).2.2
      [Frame.onWire true (Frame.create 9 9 [])] 16
      ⟨by decide, by decide, by decide, by decide, Or.inl (by decide)⟩
    rw [List.nil_append, ← parsed]
    exact List.mem_cons_self
  obtain ⟨done, next, todo, frames_eq, position_eq, -⟩ :=
    never [carrierFront filler] hiddenBytes List.prefix_rfl _ _ reached _ _ invokes
  obtain rfl : done = [] := by
    have count := congrArg List.length frames_eq
    simp only [List.length_append, List.length_cons, List.length_nil] at count
    exact List.eq_nil_of_length_eq_zero (by omega)
  simp only [List.flatten_cons, List.flatten_nil, List.append_nil, List.map_nil,
    List.length_nil] at position_eq
  omega

/-- Ten mebibytes of filler make the first packet exceed the limit inside the carrier's payload. -/
theorem dropped_packet_fabricates :
    ¬ ∀ receiver sender frames data, (∀ frame ∈ frames, frame.WellFormed) →
      data.flatten = (frames.map (Frame.serialize sender)).flatten →
      NeverFabricates receiver sender frames data := by
  intro never
  have size : (List.replicate maxBufferSize (0 : UInt8)).length = maxBufferSize :=
    List.length_replicate
  generalize List.replicate maxBufferSize (0 : UInt8) = filler at size
  refine not_neverFabricates_of_dropped size.ge
    (never true true [carrier filler] _ ?_ (carrier_split filler))
  intro frame member
  rw [List.mem_singleton.mp member]
  apply Frame.wellFormed_create
  rw [List.length_append, size]
  decide

end FrameHandler
end FramedTcp
