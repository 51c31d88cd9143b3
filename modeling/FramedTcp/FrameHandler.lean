import FramedTcp.EventSystem
import FramedTcp.FrameParser

/-!
# The frame handler

`FrameHandler::processIncomingData` calls the parser again and again on its buffer, adds up the
numbers of consumed bytes, and erases that many bytes at the end.  The buffer is not shortened in
between, so every further round parses the same frames again.
-/

namespace FramedTcp

open PrefixDecoding EventSystems FrameParser

/-- The frame handler's buffer, and whether a frame callback is set. -/
structure FrameHandler where
  /-- Received bytes not yet processed. -/
  frameBuffer : List UInt8 := []
  /-- Is `frame_callback_` set? -/
  frameCallback : Bool := false

namespace FrameHandler

/-- The buffer is dropped rather than let grow beyond ten mebibytes. -/
def maxBufferSize : ℕ := 10 * 1024 * 1024

/-- Rounds after which the loop gives up. -/
def maxIterations : ℕ := 1000

/-- The frames of one round that the callback is invoked with. -/
def invoke (enableChecksum : Bool) (handler : FrameHandler) (frames : List Frame) : List Frame :=
  if handler.frameCallback then frames.filter (Frame.verifyChecksum enableChecksum) else []

/-- The `do`-`while` loop: the number of bytes to erase and the callback's invocations. -/
def processIterations (enableChecksum : Bool) (handler : FrameHandler)
    (iterationCount bytesConsumed : ℕ) (invoked : List Frame) : ℕ × List Frame :=
  if iterationCount > maxIterations then
    (bytesConsumed, invoked)
  else
    let parsed := processData handler.frameBuffer
    if parsed.2 = 0 then
      (bytesConsumed, invoked)
    else
      let bytesConsumed := bytesConsumed + parsed.2
      let invoked := invoked ++ handler.invoke enableChecksum parsed.1
      if bytesConsumed < handler.frameBuffer.length then
        processIterations enableChecksum handler (iterationCount + 1) bytesConsumed invoked
      else
        (bytesConsumed, invoked)
termination_by maxIterations + 1 - iterationCount

/-- Erase bytes at the front of the buffer; erasing past its end is undefined. -/
def erase (handler : FrameHandler) (bytesConsumed : ℕ) : Option FrameHandler :=
  if bytesConsumed ≤ handler.frameBuffer.length then
    some { handler with frameBuffer := handler.frameBuffer.drop bytesConsumed }
  else
    none

/-- Process one data packet; the result lists the invocations of the callback. -/
def processIncomingData (enableChecksum : Bool) (handler : FrameHandler) (data : List UInt8) :
    Option (FrameHandler × List Frame) :=
  if data.isEmpty then
    some (handler, [])
  else if handler.frameBuffer.length + data.length > maxBufferSize then
    some ({ handler with frameBuffer := [] }, [])
  else
    let handler := { handler with frameBuffer := handler.frameBuffer ++ data }
    let processed := processIterations enableChecksum handler 0 0 []
    if processed.1 > 0 then
      (handler.erase processed.1).map fun handler => (handler, processed.2)
    else
      some (handler, processed.2)

/-- A run over packets, with the invocations of the callback since the start. -/
def packets (enableChecksum : Bool) : EventSystem (FrameHandler × List Frame) (List UInt8) where
  init := ({ frameCallback := true }, [])
  step state data :=
    (processIncomingData enableChecksum state.1 data).map fun next => (next.1, state.2 ++ next.2)

/-! ## The loop -/

section Loop

variable {enableChecksum : Bool} {handler : FrameHandler}

/-- Every round consumes and delivers the same frames. -/
theorem processIterations_eq (iterationCount bytesConsumed : ℕ) (invoked : List Frame) :
    ∃ rounds, processIterations enableChecksum handler iterationCount bytesConsumed invoked =
      (bytesConsumed + rounds * (processData handler.frameBuffer).2,
        invoked ++ (List.replicate rounds
          (handler.invoke enableChecksum (processData handler.frameBuffer).1)).flatten) := by
  induction iterationCount, bytesConsumed, invoked using
      processIterations.induct enableChecksum handler with
  | case1 iterationCount bytesConsumed invoked exhausted =>
      refine ⟨0, ?_⟩
      rw [processIterations, if_pos exhausted]
      simp
  | case2 iterationCount bytesConsumed invoked running parsed nothing =>
      refine ⟨0, ?_⟩
      rw [processIterations, if_neg running, if_pos nothing]
      simp
  | case3 iterationCount bytesConsumed invoked running parsed something total later more
      induction =>
      obtain ⟨rounds, later_eq⟩ := induction
      refine ⟨rounds + 1, ?_⟩
      rw [processIterations, if_neg running, if_neg something, if_pos more, later_eq]
      simp only [total, later, parsed, List.replicate_succ, List.flatten_cons, List.append_assoc,
        Prod.mk.injEq, and_true]
      ring
  | case4 iterationCount bytesConsumed invoked running parsed something total done =>
      refine ⟨1, ?_⟩
      rw [processIterations, if_neg running, if_neg something, if_neg done]
      simp

theorem le_processIterations (iterationCount bytesConsumed : ℕ) (invoked : List Frame) :
    bytesConsumed ≤
      (processIterations enableChecksum handler iterationCount bytesConsumed invoked).1 := by
  obtain ⟨rounds, result_eq⟩ := processIterations_eq iterationCount bytesConsumed invoked
  rw [result_eq]
  exact Nat.le_add_right _ _

theorem processIterations_of_nothing (nothing : (processData handler.frameBuffer).2 = 0) :
    processIterations enableChecksum handler 0 0 [] = (0, []) := by
  rw [processIterations, if_neg (by decide), if_pos nothing]

/-- A buffer that is consumed whole is processed in one round. -/
theorem processIterations_of_all
    (nonempty : handler.frameBuffer ≠ [])
    (all : (processData handler.frameBuffer).2 = handler.frameBuffer.length) :
    processIterations enableChecksum handler 0 0 [] =
      (handler.frameBuffer.length,
        handler.invoke enableChecksum (processData handler.frameBuffer).1) := by
  have something : (processData handler.frameBuffer).2 ≠ 0 :=
    fun nothing => nonempty (List.eq_nil_of_length_eq_zero (all ▸ nothing))
  rw [processIterations, if_neg (by decide), if_neg something, if_neg (by omega), all,
    Nat.zero_add, List.nil_append]

/-- If frames are followed by an incomplete one, at least two rounds are made. -/
theorem processIterations_of_some
    (something : 0 < (processData handler.frameBuffer).2)
    (more : (processData handler.frameBuffer).2 < handler.frameBuffer.length) :
    2 * (processData handler.frameBuffer).2 ≤
      (processIterations enableChecksum handler 0 0 []).1 := by
  rw [processIterations, if_neg (by decide), if_neg something.ne', if_pos (by omega),
    processIterations, if_neg (by decide), if_neg something.ne']
  dsimp only
  split
  · refine le_trans ?_ (le_processIterations _ _ _)
    omega
  · dsimp only
    omega

end Loop

/-! ## One packet -/

section Packet

variable {enableChecksum : Bool} {handler : FrameHandler} {data : List UInt8}

/-- A packet that is taken into the buffer. -/
def Accepted (handler : FrameHandler) (data : List UInt8) : Prop :=
  data ≠ [] ∧ handler.frameBuffer.length + data.length ≤ maxBufferSize

/-- A packet that would make the buffer exceed the limit drops it. -/
theorem processIncomingData_of_exceeds (nonempty : data ≠ [])
    (exceeds : maxBufferSize < handler.frameBuffer.length + data.length) :
    processIncomingData enableChecksum handler data =
      some ({ handler with frameBuffer := [] }, []) := by
  rw [processIncomingData, if_neg (by simpa using nonempty), if_pos exceeds]

theorem processIncomingData_of_accepted (accepted : handler.Accepted data) :
    processIncomingData enableChecksum handler data =
      let handler := { handler with frameBuffer := handler.frameBuffer ++ data }
      let processed := processIterations enableChecksum handler 0 0 []
      if processed.1 > 0 then
        (handler.erase processed.1).map fun handler => (handler, processed.2)
      else
        some (handler, processed.2) := by
  have nonempty : ¬ data.isEmpty := by simpa using accepted.1
  rw [processIncomingData, if_neg nonempty, if_neg (Nat.not_lt.mpr accepted.2)]

theorem erase_eq_some_iff {bytesConsumed : ℕ} {next : FrameHandler} :
    handler.erase bytesConsumed = some next ↔
      bytesConsumed ≤ handler.frameBuffer.length ∧
        next = { handler with frameBuffer := handler.frameBuffer.drop bytesConsumed } := by
  rw [erase, Option.ite_none_right_eq_some, Option.some.injEq, eq_comm (a := next)]

/-- A packet that completes no frame is only appended. -/
theorem processIncomingData_of_waiting (accepted : handler.Accepted data)
    (waiting : decoder.messages (handler.frameBuffer ++ data) = []) :
    processIncomingData enableChecksum handler data =
      some ({ handler with frameBuffer := handler.frameBuffer ++ data }, []) := by
  rw [processIncomingData_of_accepted accepted]
  have nothing : (processData (handler.frameBuffer ++ data)).2 = 0 := by
    rwa [processData_eq_decode, decoder.decode_width_eq_zero_iff]
  dsimp only
  rw [processIterations_of_nothing nothing, if_neg (lt_irrefl 0)]

/-- A packet that ends with the last byte of a frame is processed in one round. -/
theorem processIncomingData_of_boundary (accepted : handler.Accepted data)
    (boundary : decoder.residue (handler.frameBuffer ++ data) = []) :
    processIncomingData enableChecksum handler data =
      some ({ handler with frameBuffer := [] },
        handler.invoke enableChecksum (decoder.messages (handler.frameBuffer ++ data))) := by
  rw [processIncomingData_of_accepted accepted]
  have nonempty : handler.frameBuffer ++ data ≠ [] := by simp [accepted.1]
  have all : (processData (handler.frameBuffer ++ data)).2 =
      (handler.frameBuffer ++ data).length := by
    rwa [processData_eq_decode, ← decoder.residue_eq_nil_iff]
  dsimp only
  rw [processIterations_of_all nonempty all, if_pos (List.length_pos_iff.mpr nonempty),
    processData_frames]
  simp [erase, invoke]

/-- A packet that completes a frame and goes on inside the next one loses bytes of the latter. -/
theorem frameBuffer_ne_of_overrun (accepted : handler.Accepted data)
    (completes : decoder.messages (handler.frameBuffer ++ data) ≠ [])
    (overrun : decoder.residue (handler.frameBuffer ++ data) ≠ []) {next : FrameHandler}
    {invoked : List Frame}
    (processed : processIncomingData enableChecksum handler data = some (next, invoked)) :
    next.frameBuffer ≠ decoder.residue (handler.frameBuffer ++ data) := by
  rw [processIncomingData_of_accepted accepted] at processed
  have something : 0 < (processData (handler.frameBuffer ++ data)).2 := by
    rw [processData_eq_decode]
    exact Nat.pos_of_ne_zero fun nothing =>
      completes ((decoder.decode_width_eq_zero_iff _).mp nothing)
  have more : (processData (handler.frameBuffer ++ data)).2 <
      (handler.frameBuffer ++ data).length := by
    rw [processData_eq_decode]
    exact lt_of_le_of_ne (decoder.decode_width_le _) fun all =>
      overrun ((decoder.residue_eq_nil_iff _).mpr all)
  have twice := @processIterations_of_some enableChecksum
    { handler with frameBuffer := handler.frameBuffer ++ data } something more
  dsimp only at twice
  dsimp only at processed
  rw [if_pos (by omega), Option.map_eq_some_iff] at processed
  obtain ⟨erased, erased_eq, pair_eq⟩ := processed
  obtain ⟨rfl, -⟩ := Prod.mk.inj pair_eq
  obtain ⟨inside, rfl⟩ := erase_eq_some_iff.mp erased_eq
  intro same
  have lengths := congrArg List.length same
  rw [← drop_processData] at lengths
  simp only [List.length_drop] at lengths inside
  omega

/-- Everything one packet can do: nothing, drop the buffer, or append and erase. -/
theorem processIncomingData_cases {next : FrameHandler} {invoked : List Frame}
    (processed : processIncomingData enableChecksum handler data = some (next, invoked)) :
    (data = [] ∧ next = handler ∧ invoked = []) ∨
      (maxBufferSize < handler.frameBuffer.length + data.length ∧
        next = { handler with frameBuffer := [] } ∧ invoked = []) ∨
      (handler.Accepted data ∧ ∃ bytesConsumed,
        next =
          { handler with frameBuffer := (handler.frameBuffer ++ data).drop bytesConsumed } ∧
        invoked = (processIterations enableChecksum
          { handler with frameBuffer := handler.frameBuffer ++ data } 0 0 []).2) := by
  rcases eq_or_ne data [] with rfl | nonempty
  · obtain ⟨rfl, rfl⟩ := Prod.mk.inj (Option.some.inj processed)
    exact Or.inl ⟨rfl, rfl, rfl⟩
  rcases Nat.lt_or_ge maxBufferSize (handler.frameBuffer.length + data.length) with
    exceeds | within
  · rw [processIncomingData_of_exceeds nonempty exceeds] at processed
    obtain ⟨rfl, rfl⟩ := Prod.mk.inj (Option.some.inj processed)
    exact Or.inr (Or.inl ⟨exceeds, rfl, rfl⟩)
  · have accepted : handler.Accepted data := ⟨nonempty, within⟩
    rw [processIncomingData_of_accepted accepted] at processed
    dsimp only at processed
    split at processed
    · rw [Option.map_eq_some_iff] at processed
      obtain ⟨erased, erased_eq, pair_eq⟩ := processed
      obtain ⟨rfl, rfl⟩ := Prod.mk.inj pair_eq
      obtain ⟨-, rfl⟩ := erase_eq_some_iff.mp erased_eq
      exact Or.inr (Or.inr ⟨accepted, _, rfl, rfl⟩)
    · obtain ⟨rfl, rfl⟩ := Prod.mk.inj (Option.some.inj processed)
      exact Or.inr (Or.inr ⟨accepted, 0, rfl, rfl⟩)

theorem length_le_of_processIncomingData {next : FrameHandler} {invoked : List Frame}
    (processed : processIncomingData enableChecksum handler data = some (next, invoked)) :
    next.frameBuffer.length ≤ handler.frameBuffer.length + data.length := by
  rcases processIncomingData_cases processed with
    ⟨-, rfl, -⟩ | ⟨-, rfl, -⟩ | ⟨-, bytesConsumed, rfl, -⟩
  · exact Nat.le_add_right _ _
  · exact Nat.zero_le _
  · rw [List.length_drop, List.length_append]
    exact Nat.sub_le _ _

end Packet

/-! ## Whole runs -/

/-- Over the packets the callback gets every frame once and in order, and after each packet the
buffer holds the bytes behind the last complete frame. -/
structure DeliversOnce (receiver sender : Bool) (frames : List Frame)
    (data : List (List UInt8)) : Prop where
  invoked_eq : ∃ handler,
    (packets receiver).Reaches data (handler, frames.map (Frame.onWire sender))
  frameBuffer_eq : ∀ front, front <+: data → ∃ handler invoked,
    (packets receiver).Reaches front (handler, invoked) ∧
      handler.frameBuffer =
        (PrefixDecoder.cut (Frame.serialize sender) frames front.flatten).2

/-- Every packet that completes a frame ends with the last byte of a frame. -/
def CompletesAtBoundary (sender : Bool) (frames : List Frame) (data : List (List UInt8)) : Prop :=
  ∀ front packet, front ++ [packet] <+: data →
    (PrefixDecoder.cut (Frame.serialize sender) frames front.flatten).1.length <
      (PrefixDecoder.cut (Frame.serialize sender) frames
        (front ++ [packet]).flatten).1.length →
    (PrefixDecoder.cut (Frame.serialize sender) frames (front ++ [packet]).flatten).2 = []

/-- No packet takes the buffer past its limit. -/
def WithinLimit (receiver : Bool) (data : List (List UInt8)) : Prop :=
  ∀ front packet, front ++ [packet] <+: data → ∀ handler invoked,
    (packets receiver).Reaches front (handler, invoked) →
      handler.frameBuffer.length + packet.length ≤ maxBufferSize

section Run

variable {receiver sender : Bool} {frames : List Frame} {data : List (List UInt8)}

theorem packets_step {state next : FrameHandler × List Frame} {packet : List UInt8} :
    (packets receiver).step state packet = some next ↔
      ∃ invoked, processIncomingData receiver state.1 packet = some (next.1, invoked) ∧
        next.2 = state.2 ++ invoked := by
  obtain ⟨handler, invoked⟩ := next
  simp only [packets, Option.map_eq_some_iff, Prod.mk.injEq, Prod.exists]
  constructor
  · rintro ⟨_, new, processed, rfl, rfl⟩
    exact ⟨new, processed, rfl⟩
  · rintro ⟨new, processed, rfl⟩
    exact ⟨handler, new, processed, rfl, rfl⟩

/-- The received front of the frames, as the parser and as the frames' own sizes cut it. -/
theorem cut_received (wellFormed : ∀ frame ∈ frames, frame.WellFormed)
    (whole : data.flatten = (frames.map (Frame.serialize sender)).flatten)
    {front : List (List UInt8)} (front_le : front <+: data) :
    decoder.messages front.flatten =
        (PrefixDecoder.cut (Frame.serialize sender) frames front.flatten).1.map
          (Frame.onWire sender) ∧
      decoder.residue front.flatten =
        (PrefixDecoder.cut (Frame.serialize sender) frames front.flatten).2 := by
  apply PrefixDecoder.cut_eq frames (encodes_serialize_of_forall wellFormed sender)
  rw [← whole]
  obtain ⟨back, rfl⟩ := front_le
  rw [List.flatten_append]
  exact List.prefix_append _ _

theorem verify_of_mem_received (agree : receiver = false ∨ receiver = sender)
    (wellFormed : ∀ frame ∈ frames, frame.WellFormed)
    (whole : data.flatten = (frames.map (Frame.serialize sender)).flatten)
    {front : List (List UInt8)} (front_le : front <+: data) :
    ∀ frame ∈ decoder.messages front.flatten, frame.verifyChecksum receiver = true := by
  intro frame member
  rw [(cut_received wellFormed whole front_le).1] at member
  obtain ⟨sent, -, rfl⟩ := List.mem_map.mp member
  exact Frame.verifyChecksum_onWire receiver sender sent agree

/-- One more packet completes a frame exactly when the parser finds one behind the old buffer. -/
theorem completes_iff (wellFormed : ∀ frame ∈ frames, frame.WellFormed)
    (whole : data.flatten = (frames.map (Frame.serialize sender)).flatten)
    {front : List (List UInt8)} {packet : List UInt8} (front_le : front ++ [packet] <+: data) :
    (PrefixDecoder.cut (Frame.serialize sender) frames front.flatten).1.length <
        (PrefixDecoder.cut (Frame.serialize sender) frames
          (front ++ [packet]).flatten).1.length ↔
      decoder.messages (decoder.residue front.flatten ++ packet) ≠ [] := by
  have earlier := congrArg List.length (cut_received wellFormed whole
    ((List.prefix_append front [packet]).trans front_le)).1
  have later := congrArg List.length (cut_received wellFormed whole front_le).1
  rw [List.length_map] at earlier later
  rw [← earlier, ← later, List.flatten_append, List.flatten_singleton, decoder.messages_append,
    List.length_append, ← List.length_pos_iff]
  omega

/-- While completing packets end at boundaries, the handler keeps exactly what is incomplete. -/
theorem reaches_of_completesAtBoundary (agree : receiver = false ∨ receiver = sender)
    (wellFormed : ∀ frame ∈ frames, frame.WellFormed)
    (nonempty : ∀ packet ∈ data, packet ≠ [])
    (whole : data.flatten = (frames.map (Frame.serialize sender)).flatten)
    (within : WithinLimit receiver data) (boundary : CompletesAtBoundary sender frames data)
    {front : List (List UInt8)} (front_le : front <+: data) :
    (packets receiver).Reaches front
      ({ frameBuffer := decoder.residue front.flatten, frameCallback := true },
        decoder.messages front.flatten) := by
  induction front using List.reverseRecOn with
  | nil => simp [EventSystem.Reaches, EventSystem.run, packets]
  | append_singleton front packet induction =>
      have reached := induction ((List.prefix_append front [packet]).trans front_le)
      have accepted : FrameHandler.Accepted
          { frameBuffer := decoder.residue front.flatten, frameCallback := true } packet :=
        ⟨nonempty packet (front_le.subset (by simp)), within front packet front_le _ _ reached⟩
      refine EventSystem.reaches_concat.mpr ⟨_, reached, packets_step.mpr ?_⟩
      have flat : (front ++ [packet]).flatten = front.flatten ++ packet := by simp
      by_cases completes : decoder.messages (decoder.residue front.flatten ++ packet) = []
      · refine ⟨[], ?_, ?_⟩
        · rw [processIncomingData_of_waiting accepted completes, flat, decoder.residue_append,
            decoder.residue_of_none ((decoder.messages_eq_nil_iff _).mp completes)]
        · rw [flat, decoder.messages_append, completes]
      · have ends := boundary front packet front_le
          ((completes_iff wellFormed whole front_le).mpr completes)
        rw [← (cut_received wellFormed whole front_le).2, flat, decoder.residue_append] at ends
        refine ⟨decoder.messages (decoder.residue front.flatten ++ packet), ?_, ?_⟩
        · rw [processIncomingData_of_boundary accepted ends, flat, decoder.residue_append, ends]
          have all_valid := verify_of_mem_received agree wellFormed whole front_le
          rw [flat, decoder.messages_append] at all_valid
          have kept := List.filter_eq_self.mpr fun frame member =>
            all_valid frame (List.mem_append_right _ member)
          simp only [invoke, if_true, kept]
        · rw [flat, decoder.messages_append]

/-- A packet that completes a frame short of a boundary spoils the buffer for good. -/
theorem DeliversOnce.completesAtBoundary (wellFormed : ∀ frame ∈ frames, frame.WellFormed)
    (nonempty : ∀ packet ∈ data, packet ≠ [])
    (whole : data.flatten = (frames.map (Frame.serialize sender)).flatten)
    (within : WithinLimit receiver data) (delivers : DeliversOnce receiver sender frames data) :
    CompletesAtBoundary sender frames data := by
  intro front packet front_le completes
  have earlier_le := (List.prefix_append front [packet]).trans front_le
  obtain ⟨handler, invoked, reached, buffer_eq⟩ := delivers.frameBuffer_eq _ earlier_le
  obtain ⟨next, later, later_reached, next_eq⟩ := delivers.frameBuffer_eq _ front_le
  obtain ⟨state, state_reached, stepped⟩ := EventSystem.reaches_concat.mp later_reached
  obtain rfl := state_reached.unique reached
  obtain ⟨new, processed, -⟩ := packets_step.mp stepped
  have accepted : handler.Accepted packet :=
    ⟨nonempty packet (front_le.subset (by simp)), within front packet front_le _ _ reached⟩
  rw [← (cut_received wellFormed whole earlier_le).2] at buffer_eq
  rw [← (cut_received wellFormed whole front_le).2, List.flatten_append,
    List.flatten_singleton, decoder.residue_append, ← buffer_eq] at next_eq ⊢
  have found := (completes_iff wellFormed whole front_le).mp completes
  rw [← buffer_eq] at found
  by_contra overrun
  exact frameBuffer_ne_of_overrun accepted found overrun processed next_eq

theorem deliversOnce_of_completesAtBoundary (agree : receiver = false ∨ receiver = sender)
    (wellFormed : ∀ frame ∈ frames, frame.WellFormed)
    (nonempty : ∀ packet ∈ data, packet ≠ [])
    (whole : data.flatten = (frames.map (Frame.serialize sender)).flatten)
    (within : WithinLimit receiver data) (boundary : CompletesAtBoundary sender frames data) :
    DeliversOnce receiver sender frames data := by
  have reached {front : List (List UInt8)} (front_le : front <+: data) :=
    reaches_of_completesAtBoundary agree wellFormed nonempty whole within boundary front_le
  have all : decoder.messages data.flatten = frames.map (Frame.onWire sender) := by
    rw [whole, ← List.append_nil (frames.map (Frame.serialize sender)).flatten,
      PrefixDecoder.messages_flatten frames (encodes_serialize_of_forall wellFormed sender)]
    simp
  have final := reached List.prefix_rfl
  rw [all] at final
  exact ⟨⟨_, final⟩, fun front front_le =>
    ⟨_, _, reached front_le, (cut_received wellFormed whole front_le).2⟩⟩

/-- The buffer never holds more bytes than have arrived. -/
theorem length_frameBuffer_le {state : FrameHandler × List Frame}
    (reached : (packets receiver).Reaches data state) :
    state.1.frameBuffer.length ≤ data.flatten.length := by
  refine reached.invariant
    (motive := fun data state => state.1.frameBuffer.length ≤ data.flatten.length)
    (Nat.zero_le _) ?_
  intro data before packet next _ bounded stepped
  obtain ⟨invoked, processed, -⟩ := packets_step.mp stepped
  rw [List.flatten_append, List.flatten_singleton, List.length_append]
  refine le_trans ?_ (Nat.add_le_add_right bounded packet.length)
  exact length_le_of_processIncomingData processed

theorem withinLimit_of_length (short : data.flatten.length ≤ maxBufferSize) :
    WithinLimit receiver data := by
  rintro front packet ⟨back, rfl⟩ handler invoked reached
  have bounded := length_frameBuffer_le reached
  simp only [List.flatten_append, List.flatten_singleton, List.length_append] at short bounded ⊢
  omega

end Run

/-- The handler delivers every frame once exactly when each packet that completes a frame ends with
the last byte of a frame. -/
theorem delivers_once_iff (receiver sender : Bool) (agree : receiver = false ∨ receiver = sender)
    (frames : List Frame) (wellFormed : ∀ frame ∈ frames, frame.WellFormed)
    (data : List (List UInt8)) (nonempty : ∀ packet ∈ data, packet ≠ [])
    (whole : data.flatten = (frames.map (Frame.serialize sender)).flatten)
    (within : WithinLimit receiver data) :
    DeliversOnce receiver sender frames data ↔ CompletesAtBoundary sender frames data :=
  ⟨DeliversOnce.completesAtBoundary wellFormed nonempty whole within,
    deliversOnce_of_completesAtBoundary agree wellFormed nonempty whole within⟩

/-- An empty frame and a frame with one byte. -/
def twoFrames : List Frame := [Frame.create 1 0 [], Frame.create 1 1 [7]]

/-- The first packet ends inside the second frame, behind its header. -/
def overrunPackets : List (List UInt8) :=
  [Frame.serialize true (Frame.create 1 0 []) ++
    (Frame.serialize true (Frame.create 1 1 [7])).take 16, [7]]

theorem delivers_once_iff_overrun :
    DeliversOnce true true twoFrames overrunPackets ↔
      CompletesAtBoundary true twoFrames overrunPackets :=
  delivers_once_iff true true (Or.inr rfl) twoFrames (by decide) overrunPackets (by decide)
    (by decide) (withinLimit_of_length (by decide))

/-- The first frame is delivered twice and the header of the second one is erased. -/
theorem overrun_not_delivered_once :
    (∀ frame ∈ twoFrames, frame.WellFormed) ∧ (∀ packet ∈ overrunPackets, packet ≠ []) ∧
      overrunPackets.flatten = (twoFrames.map (Frame.serialize true)).flatten ∧
      WithinLimit true overrunPackets ∧ ¬ DeliversOnce true true twoFrames overrunPackets := by
  have within : WithinLimit true overrunPackets := withinLimit_of_length (by decide)
  refine ⟨by decide, by decide, by decide, within, fun delivers => ?_⟩
  have boundary := delivers.completesAtBoundary (by decide) (by decide) (by decide) within
  have ends := boundary [] _ ⟨[[7]], rfl⟩ (by decide)
  revert ends
  decide

end FrameHandler
end FramedTcp
