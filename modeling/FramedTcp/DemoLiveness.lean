import FramedTcp.DemoOrder

/-!
# Every message is answered

The demo comes to rest by itself, provided that each `send` returns having taken its whole frame.
Once no further message is given to `sendMessage`, the threads of both sides finish after finitely
many steps, in whatever order they take them, and the client has then output every response to every
message.
-/

namespace FramedTcp

open PrefixDecoding EventSystems FrameParser Reassembly Server

/-! ## The frames of the output -/

namespace Server

/-- The response with a given number on a stream. -/
def numberedResponse (stream : UInt32) (number : ℕ) : Frame :=
  Frame.create stream (UInt32.ofNat number) (List.replicate 4096 65)

/-- A response is determined by its stream and its number. -/
theorem eq_numberedResponse {enableChecksum : Bool} {requests : List Frame} {frame : Frame}
    (member : frame ∈ (requests.flatMap answers).map (Frame.onWire enableChecksum)) :
    frame = (numberedResponse frame.streamId frame.sequence.toNat).onWire enableChecksum := by
  obtain ⟨answer, answer_member, rfl⟩ := List.mem_map.mp member
  obtain ⟨request, -, own⟩ := List.mem_flatMap.mp answer_member
  obtain ⟨i, -, rfl⟩ := List.mem_map.mp own
  simp only [numberedResponse, UInt32.ofNat_toNat, response, Frame.onWire, Frame.create]

end Server

namespace Demo

variable {enableChecksum : Bool} {trace : List Event} {history : History} {demo next : Demo}
  {event : Event}

/-- Few responses have been sent on a stream on which few messages have been. -/
theorem Numbered.length_handled_le (numbered : Numbered enableChecksum trace history demo)
    (stream : UInt32) :
    (onStream stream (history.handled.map (Frame.onWire enableChecksum))).length ≤
      5 * sends stream trace := by
  have wire_length : (onStream stream (history.handled.map (Frame.onWire enableChecksum))).length =
      (onStream stream history.handled).length := by
    simpa [numbers] using congrArg List.length
      (numbers_map_onWire enableChecksum stream history.handled)
  have answers_le :=
    (numbered.flow.handled_le.filter fun frame => frame.streamId = stream).length_le
  change (onStream stream _).length ≤ (onStream stream _).length at answers_le
  rw [length_onStream_flatMap_answers] at answers_le
  have drawn := (numbered.numbers_perm stream).length_eq
  simp only [numbers, onStream_append, List.length_map, List.length_append,
    List.length_range] at drawn
  omega

/-- What the client has output on a stream are the first responses, in order. -/
theorem Numbered.output_prefix (numbered : Numbered enableChecksum trace history demo)
    {stream : UInt32} (few : 5 * sends stream trace < 2 ^ 32) :
    onStream stream demo.client.reader.output <+:
      (List.range (5 * sends stream trace)).map fun number =>
        (numberedResponse stream number).onWire enableChecksum := by
  have flow := numbered.flow
  have handled_le := numbered.length_handled_le stream
  have output_le :=
    (length_onStream_addAll_le (history.handled.map (Frame.onWire enableChecksum)) stream).trans
      handled_le
  have inOrder := inOrderOnce_addAll (history.handled.map (Frame.onWire enableChecksum)) stream
    (output_le.trans_lt few)
  rw [flow.receiving.output_eq, List.prefix_iff_eq_take]
  refine List.ext_getElem (by simp [output_le]) ?_
  intro number inside _
  obtain ⟨frame, found, number_eq, arrived⟩ :=
    inOrder.released_eq number (inOrder.next_eq ▸ inside)
  obtain ⟨_, frame_eq⟩ := List.getElem?_eq_some_iff.mp found
  obtain ⟨answer, answered, rfl⟩ := List.mem_map.mp (List.mem_of_find?_eq_some arrived)
  have determined := eq_numberedResponse
    (List.mem_map_of_mem (f := Frame.onWire enableChecksum) (flow.handled_le.subset answered))
  have own := (mem_onStream.mp (List.mem_of_getElem? found)).2
  rw [own, number_eq] at determined
  rw [frame_eq, determined, List.getElem_take, List.getElem_map, List.getElem_range]

/-- At rest the numbers of the messages sent on a stream are those of the calls. -/
theorem Numbered.sent_perm (numbered : Numbered enableChecksum trace history demo)
    (settled : demo.Settled) {stream : UInt32} (few : sends stream trace ≤ 2 ^ 32) :
    (numbers stream history.sent).Perm (List.range (sends stream trace)) := by
  have sent := numbered.numbers_perm stream
  have unwrapped : (List.range (sends stream trace)).map (· % 2 ^ 32) =
      List.range (sends stream trace) := by
    refine (List.map_congr_left fun number member => ?_).trans (List.map_id _)
    exact Nat.mod_eq_of_lt ((List.mem_range.mp member).trans_le few)
  rwa [unwrapped, settled.pending, List.append_nil] at sent

/-- At rest the client has output every response to every message, in order. -/
theorem Numbered.output_eq (numbered : Numbered enableChecksum trace history demo)
    (settled : demo.Settled) {stream : UInt32} (few : 5 * sends stream trace < 2 ^ 32) :
    onStream stream demo.client.reader.output =
      (List.range (5 * sends stream trace)).map fun number =>
        (numberedResponse stream number).onWire enableChecksum := by
  refine (numbered.output_prefix few).eq_of_length ?_
  rw [numbered.flow.length_output settled (numbered.sent_perm settled (by omega)) few,
    List.length_map, List.length_range]

/-! ## Every step leaves less work -/

/-- The server's threads know what they have found: the frame that is handled stands at the front of
the buffer, and a queue found not empty is not. -/
structure Orderly (server : Connection) : Prop where
  handling : ∀ {frame frameLength i}, server.handling = some (frame, frameLength, i) →
    i ≤ 5 ∧ frontFrame server.frameBuffer = .completed frame frameLength
  ready : server.writer = .ready → server.streamManager.outgoingFrames ≠ []

theorem Flow.orderly (flow : Flow enableChecksum history demo) : Orderly demo.server :=
  ⟨flow.serving.handling, flow.ready⟩

/-- The handled frame lies inside the buffer. -/
theorem Orderly.inside {server : Connection} (orderly : Orderly server) {frame : Frame}
    {frameLength : UInt32} {i : ℕ} (handling : server.handling = some (frame, frameLength, i)) :
    Frame.headerSize + frameLength.toNat ≤ server.frameBuffer.length :=
  decoder.width_le (frontFrame_eq_completed_iff.mp (orderly.handling handling).2).2

/-- Is the event more than a look at the empty queue, which changes nothing? -/
def Event.effective (demo : Demo) : Event → Bool
  | .hasOutgoingFrames => demo.server.streamManager.hasOutgoingFrames
  | _ => true

/-- Client and server, without the looks at the empty queue. -/
def effective (enableChecksum : Bool) : EventSystem Demo Event :=
  (system enableChecksum).restrict fun demo event => event.effective demo

theorem work_lt_of_step (orderly : Orderly demo.server) (internal : event.Internal)
    (effective : event.effective demo) (stepped : Step enableChecksum demo event next) :
    next.work < demo.work := by
  cases stepped with
  | sendMessage message streamId => exact absurd rfl (internal message streamId)
  | @push frame drawn =>
      refine work_lt_of_send ?_
      have positive := List.length_pos_of_mem drawn
      simp only [sendWork, Client.push, List.length_erase_of_mem drawn, List.length_append,
        List.length_singleton]
      omega
  | pop idle queue =>
      refine work_lt_of_send ?_
      simp only [sendWork, Client.pop, idle, queue, List.length_cons, Option.toList_some,
        Option.toList_none, List.length_nil]
      omega
  | sendRequest writing =>
      refine work_lt_of_send ?_
      simp [sendWork, writing]
  | recvResponses handled positive fits sent =>
      refine work_lt_of_responses rfl rfl rfl (Or.inl ?_)
      rw [List.length_drop]
      omega
  | outputFrame parsed =>
      refine work_lt_of_responses rfl rfl rfl (Or.inr ⟨rfl, ?_⟩)
      simp [Client.handleFrame, parsed]
  | recvRequests idle incomplete positive fits sent =>
      refine work_lt_of_recv rfl ?_
      rw [List.length_drop]
      omega
  | handleFrame idle complete =>
      refine work_lt_of_read rfl rfl ?_
      simp [readWork, idle]
  | respond handling more =>
      refine work_lt_of_read rfl rfl ?_
      simp only [readWork, Connection.respond, handling]
      omega
  | eraseFrame handling =>
      have inside := orderly.inside handling
      have positive : 0 < Frame.headerSize := by decide
      refine work_lt_of_read rfl rfl ?_
      simp only [readWork, Connection.eraseFrame, handling, List.length_drop]
      omega
  | hasOutgoingFrames idle nonempty =>
      refine work_lt_of_write rfl rfl rfl ?_
      simp [writeWork, idle]
  | hasNoOutgoingFrames idle empty =>
      simp [Event.effective, StreamManager.hasOutgoingFrames, empty] at effective
  | getNextOutgoingFrame ready queue =>
      refine work_lt_of_write rfl rfl rfl ?_
      simp only [writeWork, ready, queue, List.length_cons]
      omega
  | sendResponse writing =>
      refine work_lt_of_write rfl rfl rfl ?_
      simp [writeWork, writing]

/-- Everything is at rest, and the client has output the responses to the messages of the run. -/
def Answered (enableChecksum : Bool) (trace : List Event) (demo : Demo) : Prop :=
  demo.Settled ∧ ∀ stream, 5 * sends stream trace < 2 ^ 32 →
    onStream stream demo.client.reader.output =
      (List.range (5 * sends stream trace)).map fun number =>
        (numberedResponse stream number).onWire enableChecksum

/-- The run has gone on without further messages. -/
def GoneOn (enableChecksum : Bool) (trace : List Event) (demo : Demo) : Prop :=
  ∃ later, (∀ event ∈ later, event.Internal) ∧
    (system enableChecksum).Reaches (trace ++ later) demo

theorem GoneOn.numbered (goneOn : GoneOn enableChecksum trace demo) (short : Short trace) :
    ∃ later history, (∀ event ∈ later, event.Internal) ∧
      Numbered enableChecksum (trace ++ later) history demo := by
  obtain ⟨later, internal, reached⟩ := goneOn
  obtain ⟨history, numbered⟩ := numbered_of_reaches reached (short.append internal)
  exact ⟨later, history, internal, numbered⟩

theorem GoneOn.step (goneOn : GoneOn enableChecksum trace demo) (internal : event.Internal)
    (stepped : (system enableChecksum).step demo event = some next) :
    GoneOn enableChecksum trace next := by
  obtain ⟨later, earlier, reached⟩ := goneOn
  refine ⟨later ++ [event], ?_, ?_⟩
  · exact List.forall_mem_append.mpr ⟨earlier, List.forall_mem_singleton.mpr internal⟩
  · rw [← List.append_assoc]
    exact EventSystem.reaches_concat.mpr ⟨demo, reached, stepped⟩

end Demo
end FramedTcp
