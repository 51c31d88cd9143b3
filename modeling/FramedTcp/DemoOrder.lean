import FramedTcp.DemoFlow

/-!
# The order of the demo's responses

`sendMessage` numbers the messages of a stream, the server answers message `q` with the responses
`5 * q, ..., 5 * q + 4`, and the client puts them back in order.  A message of `2 ^ 32` bytes or
more is announced with a shorter length, and the rest of it is read as further frames.
-/

namespace FramedTcp

open PrefixDecoding EventSystems FrameParser Reassembly Server

/-! ## The numbers of the responses -/

namespace Server

/-- The numbers of the responses to message `number`. -/
def block (number : ℕ) : List ℕ := (List.range 5).map (5 * number + ·)

theorem flatMap_block_range (count : ℕ) :
    (List.range count).flatMap block = List.range (5 * count) := by
  induction count with
  | zero => rfl
  | succ count induction =>
      rw [List.range_succ, List.flatMap_append, induction, Nat.mul_succ, List.range_add]
      simp [block]

theorem toNat_sequence_response {request : Frame} {i : ℕ}
    (bounded : 5 * request.sequence.toNat + i < 2 ^ 32) :
    (response request i).sequence.toNat = 5 * request.sequence.toNat + i := by
  simp only [response, Frame.create, UInt32.toNat_add, UInt32.toNat_mul, UInt32.toNat_ofNat']
  change (request.sequence.toNat * 5 % 2 ^ 32 + i % 2 ^ 32) % 2 ^ 32 = _
  omega

theorem streamId_of_mem_answers {request answer : Frame} (member : answer ∈ answers request) :
    answer.streamId = request.streamId := by
  obtain ⟨i, -, rfl⟩ := List.mem_map.mp member
  simp only [response, Frame.create]

theorem onStream_answers (stream : UInt32) (request : Frame) :
    onStream stream (answers request) =
      if request.streamId = stream then answers request else [] := by
  split
  · rename_i own
    refine List.filter_eq_self.mpr fun answer member => ?_
    simpa [streamId_of_mem_answers member] using own
  · rename_i other
    refine List.filter_eq_nil_iff.mpr fun answer member => ?_
    simpa [streamId_of_mem_answers member] using other

theorem length_onStream_flatMap_answers (stream : UInt32) (requests : List Frame) :
    (onStream stream (requests.flatMap answers)).length =
      5 * (onStream stream requests).length := by
  induction requests with
  | nil => rfl
  | cons request requests induction =>
      rw [List.flatMap_cons, onStream_append, List.length_append, onStream_answers, induction]
      by_cases own : request.streamId = stream
      · simp [own, onStream, answers]
        ring
      · simp [own, onStream]

/-- The responses carry the blocks of the numbers of the requests. -/
theorem numbers_flatMap_answers {stream : UInt32} {requests : List Frame} {count : ℕ}
    (below : ∀ number ∈ numbers stream requests, number < count) (bounded : 5 * count < 2 ^ 32) :
    numbers stream (requests.flatMap answers) = (numbers stream requests).flatMap block := by
  induction requests with
  | nil => rfl
  | cons request requests induction =>
      have later := induction fun number member => below number (by
        obtain ⟨frame, in_requests, found⟩ := mem_numbers.mp member
        exact mem_numbers.mpr ⟨frame, List.mem_cons_of_mem request in_requests, found⟩)
      rw [List.flatMap_cons, numbers, onStream_append, List.map_append, onStream_answers]
      change _ ++ numbers stream _ = _
      rw [later]
      by_cases own : request.streamId = stream
      · have small : request.sequence.toNat < count :=
          below _ (mem_numbers.mpr ⟨request, List.mem_cons_self, own, rfl⟩)
        have head : (answers request).map (fun frame => frame.sequence.toNat) =
            block request.sequence.toNat := by
          rw [answers, List.map_map]
          refine List.map_congr_left fun i member => ?_
          have i_lt := List.mem_range.mp member
          exact toNat_sequence_response (by omega)
        simp [own, head, numbers, onStream]
      · simp [own, numbers, onStream]

end Server

theorem Reassembly.numbers_map_onWire (enableChecksum : Bool) (stream : UInt32)
    (frames : List Frame) :
    numbers stream (frames.map (Frame.onWire enableChecksum)) = numbers stream frames := by
  rw [numbers, onStream, List.filter_map, List.map_map]
  rfl

namespace Demo

/-! ## In order -/

namespace Flow

variable {enableChecksum : Bool} {history : History} {demo : Demo}

/-- What the client has handled is the beginning of the responses to what it has sent. -/
theorem handled_le (flow : Flow enableChecksum history demo) :
    history.handled <+: history.sent.flatMap answers := by
  have queued : history.handled <+: history.served.flatMap answers ++ demo.server.answered := by
    rw [← flow.queued_eq]
    simp only [List.append_assoc]
    exact List.prefix_append _ _
  apply queued.trans
  rw [History.sent, List.flatMap_append, List.prefix_append_right_inj]
  cases handling : demo.server.handling with
  | none => simp [Connection.answered, handling]
  | some current =>
      obtain ⟨frame, frameLength, i⟩ := current
      obtain ⟨bounded, complete⟩ := flow.serving.handling handling
      obtain ⟨request, rest, waiting_eq, rfl, -⟩ := flow.serving.front complete
      rw [waiting_eq, List.flatMap_cons]
      refine List.IsPrefix.trans ?_ (List.prefix_append _ _)
      simp only [Connection.answered, handling, answers, response_onWire]
      apply List.IsPrefix.map
      obtain ⟨more, five_eq⟩ := Nat.exists_eq_add_of_le bounded
      rw [five_eq, List.range_add]
      exact List.prefix_append _ _

/-- At rest every response to every request sent has been handled. -/
theorem handled_eq (flow : Flow enableChecksum history demo) (settled : demo.Settled) :
    history.handled = history.sent.flatMap answers := by
  obtain ⟨serving, receiving, queued_eq, -, -⟩ := flow
  rw [settled.requests] at serving
  rw [settled.responses] at receiving
  have parsed_eq : history.parsed = [] :=
    List.map_eq_nil_iff.mp (receiving.parsed_eq.symm.trans settled.completedFrames)
  rw [parsed_eq, receiving.coming_eq_nil, settled.taken, settled.queue] at queued_eq
  rw [History.sent, serving.waiting_eq_nil settled.incomplete]
  simpa [Connection.answered, settled.handling] using queued_eq

/-- The client's output is in order on a stream to which few messages have been sent. -/
theorem numbers_output (flow : Flow enableChecksum history demo) {stream : UInt32}
    (few : 5 * (onStream stream history.sent).length < 2 ^ 32) :
    numbers stream demo.client.reader.output =
      List.range (onStream stream demo.client.reader.output).length := by
  have fewer := (flow.handled_le.filter fun frame => frame.streamId = stream).length_le
  change (onStream stream _).length ≤ (onStream stream _).length at fewer
  rw [length_onStream_flatMap_answers] at fewer
  have arrived : (onStream stream (history.handled.map (Frame.onWire enableChecksum))).length =
      (onStream stream history.handled).length := by
    simpa [numbers] using congrArg List.length
      (numbers_map_onWire enableChecksum stream history.handled)
  rw [flow.receiving.output_eq]
  refine numbers_addAll _ ((length_onStream_addAll_le _ stream).trans_lt ?_)
  omega

/-- At rest the client has output all responses on a stream whose messages carry the numbers
below `count`. -/
theorem length_output (flow : Flow enableChecksum history demo) (settled : demo.Settled)
    {stream : UInt32} {count : ℕ}
    (sent : (numbers stream history.sent).Perm (List.range count)) (few : 5 * count < 2 ^ 32) :
    (onStream stream demo.client.reader.output).length = 5 * count := by
  have below : ∀ number ∈ numbers stream history.sent, number < count :=
    fun number member => List.mem_range.mp (sent.mem_iff.mp member)
  rw [flow.receiving.output_eq]
  refine length_onStream_addAll ?_ few
  rw [numbers_map_onWire, flow.handled_eq settled, numbers_flatMap_answers below few,
    ← flatMap_block_range]
  exact sent.flatMap_right block

end Flow

/-! ## Numbering the messages -/

/-- The stream on which an event calls `sendMessage`. -/
def Event.stream? : Event → Option UInt32
  | .sendMessage _ streamId => some streamId
  | _ => none

/-- The number of calls of `sendMessage` on a stream. -/
def sends (stream : UInt32) (trace : List Event) : ℕ :=
  trace.countP fun event => event.stream? = some stream

/-- Every message fits the length field of a frame. -/
def Short (trace : List Event) : Prop :=
  ∀ message streamId, Event.sendMessage message streamId ∈ trace → message.length < 2 ^ 32

theorem Short.append {trace later : List Event} (short : Short trace)
    (internal : ∀ event ∈ later, event.Internal) : Short (trace ++ later) := by
  intro message streamId member
  rcases List.mem_append.mp member with earlier | new
  · exact short message streamId earlier
  · exact absurd rfl (internal _ new message streamId)

/-- The frames sent or about to be sent carry, on each stream, the numbers of the calls of
`sendMessage` so far. -/
structure Numbered (enableChecksum : Bool) (trace : List Event) (history : History)
    (demo : Demo) : Prop where
  flow : Flow enableChecksum history demo
  wellFormed : ∀ frame ∈ history.sent ++ demo.client.pending, frame.WellFormed
  numbers_perm : ∀ stream, (numbers stream (history.sent ++ demo.client.pending)).Perm
    ((List.range (sends stream trace)).map (· % 2 ^ 32))
  nextSequence_eq : ∀ stream,
    (demo.client.nextSequence stream).toNat = sends stream trace % 2 ^ 32

theorem sends_concat (stream : UInt32) (trace : List Event) (event : Event) :
    sends stream (trace ++ [event]) =
      sends stream trace + if event.stream? = some stream then 1 else 0 := by
  simp [sends, List.countP_append, List.countP_singleton]

theorem Event.Internal.stream_eq_none {event : Event} (internal : event.Internal) :
    event.stream? = none := by
  cases event with
  | sendMessage message streamId => exact absurd rfl (internal message streamId)
  | _ => rfl

theorem sends_append_internal (stream : UInt32) (trace : List Event) {later : List Event}
    (internal : ∀ event ∈ later, event.Internal) :
    sends stream (trace ++ later) = sends stream trace := by
  have silent : later.countP (fun event => event.stream? = some stream) = 0 :=
    List.countP_eq_zero.mpr fun event member => by simp [(internal event member).stream_eq_none]
  rw [sends, List.countP_append, silent, Nat.add_zero, sends]

theorem Event.Internal.nextSequence_eq {enableChecksum : Bool} {demo next : Demo} {event : Event}
    (internal : event.Internal) (stepped : Step enableChecksum demo event next) :
    next.client.nextSequence = demo.client.nextSequence := by
  cases stepped with
  | sendMessage message streamId => exact absurd rfl (internal message streamId)
  | _ => rfl

namespace Numbered

variable {enableChecksum : Bool} {trace : List Event} {history : History} {demo next : Demo}
  {event : Event}

theorem initial : Numbered enableChecksum [] {} {} :=
  ⟨Flow.initial, nofun, fun _ => .refl _, fun _ => rfl⟩

/-- A call of `sendMessage` draws the next number of its stream. -/
theorem sendMessage (numbered : Numbered enableChecksum trace history demo)
    {message : List UInt8} {streamId : UInt32} (short : message.length < 2 ^ 32)
    (stepped : Step enableChecksum demo (.sendMessage message streamId) next) :
    ∃ after, Numbered enableChecksum (trace ++ [.sendMessage message streamId]) after next := by
  obtain ⟨flow, wellFormed, numbers_perm, nextSequence_eq⟩ := numbered
  obtain ⟨after, after_flow, perm⟩ := flow.step
    (fun frame member => wellFormed frame (List.mem_append_right _ member)) stepped
  have created_wellFormed :=
    Frame.wellFormed_create streamId (demo.client.nextSequence streamId) short
  have counted (stream : UInt32) :
      sends stream (trace ++ [.sendMessage message streamId]) =
        sends stream trace + if streamId = stream then 1 else 0 := by
    rw [sends_concat]
    simp [Event.stream?]
  cases stepped with
  | sendMessage =>
      refine ⟨after, after_flow, fun frame member => ?_, fun stream => ?_, fun stream => ?_⟩
      · rcases List.mem_append.mp (perm.subset member) with earlier | new
        · exact wellFormed frame earlier
        · exact List.mem_singleton.mp new ▸ created_wellFormed
      · apply (perm_numbers stream perm).trans
        rw [numbers_append, Event.created, numbers_create, counted]
        by_cases own : streamId = stream
        · subst own
          rw [if_pos rfl, if_pos rfl, List.range_succ, List.map_append, nextSequence_eq]
          exact (numbers_perm streamId).append_right _
        · rw [if_neg own, if_neg own, List.append_nil, Nat.add_zero]
          exact numbers_perm stream
      · rw [counted]
        by_cases own : streamId = stream
        · subst own
          simp [Client.sendMessage, UInt32.toNat_add, nextSequence_eq]
        · rw [if_neg own, Nat.add_zero, ← nextSequence_eq]
          simp [Client.sendMessage, Function.update_of_ne (Ne.symm own)]

/-- Every other event passes the frames on. -/
theorem internal (numbered : Numbered enableChecksum trace history demo)
    (internal : event.Internal) (stepped : Step enableChecksum demo event next) :
    ∃ after, Numbered enableChecksum (trace ++ [event]) after next := by
  obtain ⟨flow, wellFormed, numbers_perm, nextSequence_eq⟩ := numbered
  obtain ⟨after, after_flow, perm⟩ := flow.step
    (fun frame member => wellFormed frame (List.mem_append_right _ member)) stepped
  rw [internal.created_eq_nil, List.append_nil] at perm
  have counted (stream : UInt32) := sends_append_internal stream trace
    (List.forall_mem_singleton.mpr internal)
  refine ⟨after, after_flow, fun frame member => wellFormed frame (perm.subset member),
    fun stream => ?_, fun stream => ?_⟩
  · rw [counted]
    exact (perm_numbers stream perm).trans (numbers_perm stream)
  · rw [counted, internal.nextSequence_eq stepped, nextSequence_eq]

end Numbered

theorem numbered_of_reaches {enableChecksum : Bool} {trace : List Event} {demo : Demo}
    (reached : (system enableChecksum).Reaches trace demo) (short : Short trace) :
    ∃ history, Numbered enableChecksum trace history demo := by
  revert short
  refine reached.invariant (motive := fun trace demo => Short trace →
    ∃ history, Numbered enableChecksum trace history demo) ?_ ?_
  · exact fun _ => ⟨{}, Numbered.initial⟩
  · intro trace demo event next _ earlier stepped short
    obtain ⟨history, numbered⟩ := earlier fun message streamId member =>
      short message streamId (List.mem_append_left _ member)
    replace stepped := step_of_eq_some stepped
    by_cases internal : event.Internal
    · exact numbered.internal internal stepped
    · obtain ⟨message, streamId, rfl⟩ :
          ∃ message streamId, event = .sendMessage message streamId := by
        simpa [Event.Internal] using internal
      exact numbered.sendMessage
        (short message streamId (List.mem_append_right _ (List.mem_singleton_self _))) stepped

/-- Every state reached can be brought to rest without further messages. -/
theorem exists_settled_of_reaches {enableChecksum : Bool} {trace : List Event} {demo : Demo}
    (reached : (system enableChecksum).Reaches trace demo) (short : Short trace) :
    ∃ later final, (∀ event ∈ later, event.Internal) ∧
      (system enableChecksum).Reaches (trace ++ later) final ∧ final.Settled := by
  obtain ⟨history, numbered⟩ := numbered_of_reaches reached short
  obtain ⟨later, final, -, internal, ran, -, settled, -⟩ :=
    Carries.exists_settled ⟨history, numbered.flow, .refl _⟩ numbered.wellFormed
  exact ⟨later, final, internal, reached.append ran, settled⟩

/-! ## The first message -/

/-- The first message of a client is sent. -/
def messageTrace (message : List UInt8) (streamId : UInt32) : List Event :=
  [.sendMessage message streamId, .push (Frame.create streamId 0 message), .pop, .sendRequest]

/-- The first message of a client is under way. -/
def messageSent (enableChecksum : Bool) (message : List UInt8) (streamId : UInt32) : Demo where
  client := { nextSequence := Function.update (fun _ => 0) streamId 1 }
  requests := (Frame.create streamId 0 message).serialize enableChecksum

theorem reaches_messageSent (enableChecksum : Bool) (message : List UInt8) (streamId : UInt32) :
    (system enableChecksum).Reaches (messageTrace message streamId)
      (messageSent enableChecksum message streamId) := by
  simp [EventSystem.Reaches, EventSystem.run, system, step, messageTrace, messageSent,
    Client.sendMessage, Client.push, Client.pop]

/-! ## Responses in order -/

/-- In every run with messages below `2 ^ 32` bytes, the client's output on a stream carries the
numbers `0, 1, ...` in order, and at rest it holds five responses for each message. -/
theorem responses_in_order (enableChecksum : Bool) (trace : List Event) (demo : Demo)
    (stream : UInt32) (reached : (system enableChecksum).Reaches trace demo) (short : Short trace)
    (few : 5 * sends stream trace < 2 ^ 32) :
    numbers stream demo.client.reader.output =
        List.range (onStream stream demo.client.reader.output).length ∧
      (demo.Settled →
        (onStream stream demo.client.reader.output).length = 5 * sends stream trace) := by
  obtain ⟨history, flow, -, numbers_perm, -⟩ := numbered_of_reaches reached short
  have sent := numbers_perm stream
  have unwrapped : (List.range (sends stream trace)).map (· % 2 ^ 32) =
      List.range (sends stream trace) := by
    refine (List.map_congr_left fun number member => ?_).trans (List.map_id _)
    have below := List.mem_range.mp member
    exact Nat.mod_eq_of_lt (by omega)
  rw [unwrapped] at sent
  constructor
  · apply flow.numbers_output
    have length_eq := sent.length_eq
    simp only [numbers, onStream_append, List.length_map, List.length_append,
      List.length_range] at length_eq
    omega
  · intro settled
    rw [settled.pending, List.append_nil] at sent
    exact flow.length_output settled sent few

/-- The message `[7]` on stream `1` is answered in order. -/
theorem responses_in_order_answered :
    ∃ later demo, (system true).Reaches (messageTrace [7] 1 ++ later) demo ∧ demo.Settled ∧
      numbers 1 demo.client.reader.output = [0, 1, 2, 3, 4] := by
  have short : Short (messageTrace [7] 1) := by
    intro message streamId member
    obtain ⟨rfl, rfl⟩ : message = [7] ∧ streamId = 1 := by simpa [messageTrace] using member
    norm_num
  have once : sends 1 (messageTrace [7] 1) = 1 := rfl
  obtain ⟨later, demo, internal, reached, settled⟩ :=
    exists_settled_of_reaches (reaches_messageSent true [7] 1) short
  have sends_eq := (sends_append_internal 1 (messageTrace [7] 1) internal).trans once
  have ordered := responses_in_order true _ demo 1 reached (short.append internal)
    (by rw [sends_eq]; norm_num)
  refine ⟨later, demo, reached, settled, ?_⟩
  rw [ordered.1, ordered.2 settled, sends_eq]
  rfl

/-! ## A message that is too long -/

/-- The length field of a message of `2 ^ 32` bytes reads `0`: the message is taken for a frame of
its own. -/
theorem serialize_of_wrapped {inner : Frame} (long : (inner.serialize false).length = 2 ^ 32)
    (streamId sequence : UInt32) :
    (Frame.create streamId sequence (inner.serialize false)).serialize false =
      ([Frame.create streamId sequence [], inner].map (Frame.serialize false)).flatten := by
  have outer : (Frame.create streamId sequence (inner.serialize false)).serialize false =
      (Frame.create streamId sequence []).serialize false ++ inner.serialize false := by
    have wrapped : UInt32.ofNat (2 ^ 32) = UInt32.ofNat 0 := rfl
    rw [Frame.create, long, wrapped]
    simp only [Frame.serialize, Frame.calculateChecksum_disabled, Frame.create, List.length_nil,
      List.append_assoc, List.nil_append]
  rw [outer]
  simp

/-- The server finds two requests in such a message. -/
theorem flow_of_wrapped {inner : Frame} (wellFormed : inner.WellFormed)
    (long : (inner.serialize false).length = 2 ^ 32) (streamId : UInt32) :
    Flow false { waiting := [Frame.create streamId 0 [], inner] }
      (messageSent false (inner.serialize false) streamId) := by
  refine ⟨⟨fun request member => ?_, serialize_of_wrapped long streamId 0, nofun⟩,
    Client.Receiving.initial.of_reader rfl rfl, rfl, nofun, nofun⟩
  rcases List.mem_pair.mp member with rfl | rfl
  · exact Frame.wellFormed_create streamId 0 (by norm_num)
  · exact wellFormed

/-- A frame of `2 ^ 32` bytes on stream `0`. -/
def longFrame : Frame := Frame.create 0 0 (List.replicate (2 ^ 32 - 16) 0)

theorem length_payload_longFrame : longFrame.payload.length = 2 ^ 32 - 16 := List.length_replicate

theorem wellFormed_longFrame : longFrame.WellFormed :=
  Frame.wellFormed_create 0 0 (by rw [List.length_replicate]; norm_num)

theorem length_serialize_longFrame : (longFrame.serialize false).length = 2 ^ 32 := by
  rw [Frame.length_serialize, length_payload_longFrame, Frame.headerSize]
  norm_num

/-- After one message of `2 ^ 32` bytes on stream `1`, the client outputs five responses on stream
`0`, on which nothing has been sent. -/
theorem long_message_answered_elsewhere :
    ∃ later demo,
      (system false).Reaches (messageTrace (longFrame.serialize false) 1 ++ later) demo ∧
        demo.Settled ∧ sends 0 (messageTrace (longFrame.serialize false) 1 ++ later) = 0 ∧
        (onStream 0 demo.client.reader.output).length = 5 := by
  have flow := flow_of_wrapped wellFormed_longFrame length_serialize_longFrame 1
  obtain ⟨later, demo, history, internal, ran, final, settled, perm⟩ :=
    Carries.exists_settled ⟨_, flow, .refl _⟩ flow.serving.wellFormed
  have sent : (numbers 0 history.sent).Perm (List.range 1) := perm_numbers 0 perm
  refine ⟨later, demo, (reaches_messageSent false _ 1).append ran, settled, ?_, ?_⟩
  · rw [sends_append_internal 0 _ internal]
    rfl
  · exact final.length_output settled sent (by norm_num)

end Demo
end FramedTcp
