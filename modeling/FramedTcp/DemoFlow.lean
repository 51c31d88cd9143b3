import FramedTcp.Demo
import Mathlib.Data.Prod.Lex

/-!
# Frames on their way through the demo

Nothing is lost, repeated or reordered between the client's `send` and the server's handling of
requests, and between the server's queue and the client's handling of responses.  Both halves are
byte streams that encode the frames still under way.
-/

namespace FramedTcp

open PrefixDecoding EventSystems FrameParser Reassembly Server

/-! ## The requests -/

namespace Server

theorem response_onWire (enableChecksum : Bool) (request : Frame) :
    response (request.onWire enableChecksum) = response request := rfl

theorem wellFormed_response (request : Frame) (i : ℕ) : (response request i).WellFormed :=
  Frame.wellFormed_create _ _ (by rw [List.length_replicate]; norm_num)

/-- The responses to a request. -/
def answers (request : Frame) : List Frame := (List.range 5).map (response request)

/-- The frame taken by the write thread. -/
def Writer.taken : Writer → List Frame
  | .writing frame => [frame]
  | _ => []

/-- The responses already queued for the request that is being handled. -/
def Connection.answered (connection : Connection) : List Frame :=
  match connection.handling with
  | some (frame, _, i) => (List.range i).map (response frame)
  | none => []

/-- The requests in `waiting` have been sent and are not handled to the end. -/
structure Serving (enableChecksum : Bool) (waiting : List Frame) (server : Connection)
    (requests : List UInt8) : Prop where
  wellFormed : ∀ request ∈ waiting, request.WellFormed
  bytes_eq : server.frameBuffer ++ requests =
    (waiting.map (Frame.serialize enableChecksum)).flatten
  handling : ∀ {frame frameLength i}, server.handling = some (frame, frameLength, i) →
    i ≤ 5 ∧ frontFrame server.frameBuffer = .completed frame frameLength

namespace Serving

variable {enableChecksum : Bool} {waiting : List Frame} {server : Connection}
  {requests : List UInt8}

/-- A frame at the front of the buffer is the first request that waits. -/
theorem front (serving : Serving enableChecksum waiting server requests) {frame : Frame}
    {frameLength : UInt32}
    (complete : frontFrame server.frameBuffer = .completed frame frameLength) :
    ∃ request rest, waiting = request :: rest ∧ frame = request.onWire enableChecksum ∧
      Frame.headerSize + frameLength.toNat = (request.serialize enableChecksum).length ∧
      Frame.headerSize + frameLength.toNat ≤ server.frameBuffer.length := by
  obtain ⟨-, found⟩ := frontFrame_eq_completed_iff.mp complete
  have inside := decoder.width_le found
  have whole := decoder.next_append found requests
  rw [serving.bytes_eq] at whole
  cases waiting with
  | nil =>
      rw [List.map_nil, List.flatten_nil, decoder.next_nil] at whole
      contradiction
  | cons request rest =>
      have encodes := encodes_serialize (serving.wellFormed request List.mem_cons_self)
        enableChecksum
      rw [List.map_cons, List.flatten_cons, encodes.next_append] at whole
      obtain ⟨frame_eq, width_eq⟩ := Prod.mk.inj (Option.some.inj whole)
      exact ⟨request, rest, rfl, frame_eq.symm, width_eq.symm, inside⟩

/-- Once all request bytes are received and no frame is complete, no request waits. -/
theorem waiting_eq_nil (serving : Serving enableChecksum waiting server [])
    (incomplete : frontFrame server.frameBuffer = .incomplete) : waiting = [] := by
  cases waiting with
  | nil => rfl
  | cons request rest =>
      have encodes := encodes_serialize (serving.wellFormed request List.mem_cons_self)
        enableChecksum
      have bytes_eq := serving.bytes_eq
      rw [List.append_nil, List.map_cons, List.flatten_cons] at bytes_eq
      rw [frontFrame_eq_incomplete_iff, bytes_eq, encodes.next_append] at incomplete
      contradiction

theorem send (serving : Serving enableChecksum waiting server requests) {frame : Frame}
    (wellFormed : frame.WellFormed) :
    Serving enableChecksum (waiting ++ [frame]) server
      (requests ++ frame.serialize enableChecksum) := by
  refine ⟨?_, ?_, serving.handling⟩
  · exact List.forall_mem_append.mpr ⟨serving.wellFormed, by simpa using wellFormed⟩
  · rw [← List.append_assoc, serving.bytes_eq]
    simp

theorem recv (serving : Serving enableChecksum waiting server requests)
    (idle : server.handling = none) (bytesRead : ℕ) :
    Serving enableChecksum waiting
      { server with frameBuffer := server.frameBuffer ++ requests.take bytesRead }
      (requests.drop bytesRead) := by
  refine ⟨serving.wellFormed, ?_, fun handling => ?_⟩
  · rw [List.append_assoc, List.take_append_drop, serving.bytes_eq]
  · rw [show _ = none from idle] at handling
    contradiction

theorem handleFrame (serving : Serving enableChecksum waiting server requests) {frame : Frame}
    {frameLength : UInt32}
    (complete : frontFrame server.frameBuffer = .completed frame frameLength) :
    Serving enableChecksum waiting { server with handling := some (frame, frameLength, 0) }
      requests := by
  refine ⟨serving.wellFormed, serving.bytes_eq, fun handling => ?_⟩
  obtain ⟨rfl, rfl, rfl⟩ : frame = _ ∧ frameLength = _ ∧ 0 = _ := by simpa using handling
  exact ⟨Nat.zero_le 5, complete⟩

theorem respond (serving : Serving enableChecksum waiting server requests) {frame : Frame}
    {frameLength : UInt32} {i : ℕ} (handling : server.handling = some (frame, frameLength, i))
    (more : i < 5) :
    Serving enableChecksum waiting (server.respond frame frameLength i) requests := by
  refine ⟨serving.wellFormed, serving.bytes_eq, fun next_handling => ?_⟩
  obtain ⟨rfl, rfl, rfl⟩ : frame = _ ∧ frameLength = _ ∧ i + 1 = _ := by
    simpa [Connection.respond] using next_handling
  exact ⟨more, (serving.handling handling).2⟩

/-- Erasing the handled frame leaves the requests behind it. -/
theorem eraseFrame (serving : Serving enableChecksum waiting server requests) {frame : Frame}
    {frameLength : UInt32} {i : ℕ} (handling : server.handling = some (frame, frameLength, i)) :
    ∃ request rest, waiting = request :: rest ∧ frame = request.onWire enableChecksum ∧
      Serving enableChecksum rest (server.eraseFrame frameLength) requests := by
  obtain ⟨request, rest, rfl, frame_eq, width_eq, inside⟩ :=
    serving.front (serving.handling handling).2
  refine ⟨request, rest, rfl, frame_eq, ?_, ?_, nofun⟩
  · exact fun other member => serving.wellFormed other (List.mem_cons_of_mem request member)
  · have dropped := congrArg (List.drop (Frame.headerSize + frameLength.toNat)) serving.bytes_eq
    rw [List.drop_append_of_le_length inside, List.map_cons, List.flatten_cons, width_eq,
      List.drop_left, ← width_eq] at dropped
    exact dropped

end Serving
end Server

/-! ## The responses -/

namespace Reassembly

theorem addAll_concat (reassembly : Reassembly) (front : List Frame) (frame : Frame) :
    reassembly.addAll (front ++ [frame]) =
      ((reassembly.addAll front).1 ++ ((reassembly.addAll front).2.add frame).1,
        ((reassembly.addAll front).2.add frame).2) := by
  induction front generalizing reassembly with
  | nil => simp [addAll]
  | cons first front induction => simp [addAll, induction, List.append_assoc]

end Reassembly

namespace Client

/-- The frames a client still has to send. -/
def pending (client : Client) : List Frame :=
  client.writing.toList ++ client.outgoingFrames ++ client.sending

/-- The responses in `handled` have been handled, those in `parsed` are parsed and those in
`coming` are sent. -/
structure Receiving (enableChecksum : Bool) (handled parsed coming : List Frame)
    (client : Client) (responses : List UInt8) : Prop where
  wellFormed : ∀ frame ∈ coming, frame.WellFormed
  bytes_eq : client.reader.frameBuffer ++ responses =
    (coming.map (Frame.serialize enableChecksum)).flatten
  incomplete : decoder.next client.reader.frameBuffer = none
  parsed_eq : client.completedFrames = parsed.map (Frame.onWire enableChecksum)
  reassembly_eq : client.reader.toReassembly =
    (addAll {} (handled.map (Frame.onWire enableChecksum))).2
  output_eq : client.reader.output = (addAll {} (handled.map (Frame.onWire enableChecksum))).1

namespace Receiving

variable {enableChecksum : Bool} {handled parsed coming : List Frame} {client : Client}
  {responses : List UInt8}

theorem initial : Receiving enableChecksum [] [] [] {} [] :=
  ⟨nofun, rfl, decoder.next_nil, rfl, rfl, rfl⟩

/-- What the client does to send requests leaves its read thread alone. -/
theorem of_reader (receiving : Receiving enableChecksum handled parsed coming client responses)
    {next : Client} (reader_eq : next.reader = client.reader)
    (completedFrames_eq : next.completedFrames = client.completedFrames) :
    Receiving enableChecksum handled parsed coming next responses := by
  obtain ⟨wellFormed, bytes_eq, incomplete, parsed_eq, reassembly_eq, output_eq⟩ := receiving
  rw [← reader_eq] at bytes_eq incomplete reassembly_eq output_eq
  exact ⟨wellFormed, bytes_eq, incomplete, completedFrames_eq.trans parsed_eq, reassembly_eq,
    output_eq⟩

theorem send (receiving : Receiving enableChecksum handled parsed coming client responses)
    {frame : Frame} (wellFormed : frame.WellFormed) :
    Receiving enableChecksum handled parsed (coming ++ [frame]) client
      (responses ++ frame.serialize enableChecksum) := by
  refine ⟨?_, ?_, receiving.incomplete, receiving.parsed_eq, receiving.reassembly_eq,
    receiving.output_eq⟩
  · exact List.forall_mem_append.mpr ⟨receiving.wellFormed, by simpa using wellFormed⟩
  · rw [← List.append_assoc, receiving.bytes_eq]
    simp

/-- A received chunk completes the responses that lie wholly inside what is received. -/
theorem recv (receiving : Receiving enableChecksum handled [] coming client responses)
    (bytesRead : ℕ) :
    ∃ arrived later, coming = arrived ++ later ∧
      Receiving enableChecksum handled arrived later
        (client.readChunk (responses.take bytesRead)) (responses.drop bytesRead) := by
  have stream : client.reader.frameBuffer ++ responses.take bytesRead ++ responses.drop bytesRead =
      (coming.map (Frame.serialize enableChecksum)).flatten := by
    rw [List.append_assoc, List.take_append_drop, receiving.bytes_eq]
  obtain ⟨arrived, later, rfl, messages_eq, -, residue_eq⟩ :=
    PrefixDecoder.split_of_append_eq coming
      (encodes_serialize_of_forall receiving.wellFormed enableChecksum) stream
  refine ⟨arrived, later, rfl, ?_, ?_, ?_, ?_, receiving.reassembly_eq, receiving.output_eq⟩
  · exact fun frame member => receiving.wellFormed frame (List.mem_append_right arrived member)
  · simpa only [readChunk, receiveChunk_eq_feed, PrefixDecoder.feed] using residue_eq
  · simpa only [readChunk, receiveChunk_eq_feed, PrefixDecoder.feed] using decoder.next_residue _
  · simpa only [readChunk, receiveChunk_eq_feed, PrefixDecoder.feed] using messages_eq

/-- A parsed response passes its checksum test and is filed. -/
theorem output {frame : Frame} {frames : List Frame}
    (receiving : Receiving enableChecksum handled parsed coming client responses)
    (waiting : client.completedFrames = frame :: frames) :
    ∃ response rest, parsed = response :: rest ∧
      Receiving enableChecksum (handled ++ [response]) rest coming
        (client.handleFrame enableChecksum frame frames) responses := by
  have parsed_eq := waiting.symm.trans receiving.parsed_eq
  cases parsed with
  | nil => contradiction
  | cons response rest =>
      obtain ⟨rfl, rfl⟩ := List.cons.inj parsed_eq
      have verified := Frame.verifyChecksum_onWire enableChecksum enableChecksum response
        (Or.inr rfl)
      refine ⟨response, rest, rfl, receiving.wellFormed, ?_, ?_, rfl, ?_, ?_⟩
      · simpa [handleFrame, Reader.handleFrame, verified] using receiving.bytes_eq
      · simpa [handleFrame, Reader.handleFrame, verified] using receiving.incomplete
      · simp [handleFrame, Reader.handleFrame, verified, addAll_concat, receiving.reassembly_eq]
      · simp [handleFrame, Reader.handleFrame, verified, addAll_concat, receiving.reassembly_eq,
          receiving.output_eq]

/-- Once all response bytes are received, no response is still coming. -/
theorem coming_eq_nil (receiving : Receiving enableChecksum handled parsed coming client []) :
    coming = [] := by
  cases coming with
  | nil => rfl
  | cons frame rest =>
      have encodes := encodes_serialize (receiving.wellFormed frame List.mem_cons_self)
        enableChecksum
      have incomplete := receiving.incomplete
      have bytes_eq := receiving.bytes_eq
      rw [List.append_nil, List.map_cons, List.flatten_cons] at bytes_eq
      rw [bytes_eq, encodes.next_append] at incomplete
      contradiction

end Receiving
end Client

/-! ## Both directions -/

namespace Demo

/-- The frames that have been sent over a connection, in order. -/
structure History where
  /-- Requests handled to the end. -/
  served : List Frame := []
  /-- Requests sent after those. -/
  waiting : List Frame := []
  /-- Responses handled. -/
  handled : List Frame := []
  /-- Responses parsed after those. -/
  parsed : List Frame := []
  /-- Responses sent after those. -/
  coming : List Frame := []

/-- All requests sent. -/
def History.sent (history : History) : List Frame := history.served ++ history.waiting

/-- Every frame between the client's two threads is accounted for. -/
structure Flow (enableChecksum : Bool) (history : History) (demo : Demo) : Prop where
  serving : Serving enableChecksum history.waiting demo.server demo.requests
  receiving : Client.Receiving enableChecksum history.handled history.parsed history.coming
    demo.client demo.responses
  queued_eq : history.handled ++ history.parsed ++ history.coming ++ demo.server.writer.taken ++
      demo.server.streamManager.outgoingFrames =
    history.served.flatMap answers ++ demo.server.answered
  wellFormed : ∀ frame ∈ demo.server.writer.taken ++ demo.server.streamManager.outgoingFrames,
    frame.WellFormed
  ready : demo.server.writer = .ready → demo.server.streamManager.outgoingFrames ≠ []

/-- The frame that a call of `sendMessage` creates. -/
def Event.created (demo : Demo) : Event → List Frame
  | .sendMessage message streamId =>
      [Frame.create streamId (demo.client.nextSequence streamId) message]
  | _ => []

namespace Flow

variable {enableChecksum : Bool} {history : History} {demo next : Demo} {event : Event}

theorem initial : Flow enableChecksum {} {} :=
  ⟨⟨nofun, rfl, nofun⟩, Client.Receiving.initial, rfl, nofun, nofun⟩

/-- Every step keeps account of the frames, and loses or repeats no request. -/
theorem step (flow : Flow enableChecksum history demo)
    (wellFormed : ∀ frame ∈ demo.client.pending, frame.WellFormed)
    (stepped : Step enableChecksum demo event next) :
    ∃ after, Flow enableChecksum after next ∧
      (after.sent ++ next.client.pending).Perm
        (history.sent ++ demo.client.pending ++ event.created demo) := by
  obtain ⟨serving, receiving, queued_eq, queue_wellFormed, ready⟩ := flow
  cases stepped with
  | sendMessage message streamId =>
      refine ⟨history, ⟨serving, receiving.of_reader rfl rfl, queued_eq, queue_wellFormed, ready⟩,
        ?_⟩
      simp [Client.pending, Client.sendMessage, Event.created]
  | push drawn =>
      refine ⟨history, ⟨serving, receiving.of_reader rfl rfl, queued_eq, queue_wellFormed, ready⟩,
        ?_⟩
      have moved := (List.perm_cons_erase drawn).symm.append_left
        (history.sent ++ demo.client.writing.toList ++ demo.client.outgoingFrames)
      simpa [Client.pending, Client.push, Event.created] using moved
  | pop idle queue =>
      refine ⟨history, ⟨serving, receiving.of_reader rfl rfl, queued_eq, queue_wellFormed, ready⟩,
        ?_⟩
      simp [Client.pending, Client.pop, Event.created, idle, queue]
  | @sendRequest frame writing =>
      have member : frame ∈ demo.client.pending := by simp [Client.pending, writing]
      refine ⟨{ history with waiting := history.waiting ++ [frame] },
        ⟨serving.send (wellFormed frame member), receiving.of_reader rfl rfl, queued_eq,
          queue_wellFormed, ready⟩, ?_⟩
      simp [Client.pending, Event.created, writing, History.sent]
  | @recvResponses bytesRead handled positive fits sent =>
      have parsed_nil : history.parsed = [] :=
        List.map_eq_nil_iff.mp (receiving.parsed_eq.symm.trans handled)
      rw [parsed_nil] at receiving queued_eq
      obtain ⟨arrived, later, coming_eq, received⟩ := receiving.recv bytesRead
      refine ⟨{ history with
          parsed := arrived
          coming := later }, ⟨serving, received, ?_, queue_wellFormed, ready⟩, ?_⟩
      · rw [coming_eq] at queued_eq
        simpa using queued_eq
      · simp [Client.pending, Client.readChunk, Event.created, History.sent]
  | @outputFrame frame frames parsed =>
      obtain ⟨response, rest, parsed_eq, received⟩ := receiving.output parsed
      refine ⟨{ history with
          handled := history.handled ++ [response]
          parsed := rest }, ⟨serving, received, ?_, queue_wellFormed, ready⟩, ?_⟩
      · rw [parsed_eq] at queued_eq
        simpa using queued_eq
      · simp [Client.pending, Client.handleFrame, Event.created, History.sent]
  | @recvRequests bytesRead idle incomplete positive fits sent =>
      refine ⟨history, ⟨serving.recv idle bytesRead, receiving, queued_eq, queue_wellFormed,
        ready⟩, ?_⟩
      simp [Event.created]
  | handleFrame idle complete =>
      refine ⟨history, ⟨serving.handleFrame complete, receiving, ?_, queue_wellFormed, ready⟩, ?_⟩
      · simpa [Connection.answered, idle] using queued_eq
      · simp [Event.created]
  | @respond frame frameLength i handling more =>
      refine ⟨history, ⟨serving.respond handling more, receiving, ?_, ?_, fun writer_eq => ?_⟩, ?_⟩
      · have answered_eq : demo.server.answered = (List.range i).map (response frame) := by
          simp [Connection.answered, handling]
        rw [answered_eq] at queued_eq
        simp [Connection.respond, Connection.answered, StreamManager.sendFrame, List.range_succ,
          ← List.append_assoc, ← queued_eq]
      · rw [Connection.respond, StreamManager.sendFrame, ← List.append_assoc]
        exact List.forall_mem_append.mpr
          ⟨queue_wellFormed, by simpa using wellFormed_response frame i⟩
      · simp [Connection.respond, StreamManager.sendFrame]
      · simp [Event.created]
  | @eraseFrame frame frameLength handling =>
      obtain ⟨request, rest, waiting_eq, rfl, served⟩ := serving.eraseFrame handling
      refine ⟨{ history with
          served := history.served ++ [request]
          waiting := rest }, ⟨served, receiving, ?_, queue_wellFormed, ready⟩, ?_⟩
      · have answered_eq : demo.server.answered = answers request := by
          simp [Connection.answered, handling, answers, response_onWire]
        rw [answered_eq] at queued_eq
        simpa [Connection.eraseFrame, Connection.answered] using queued_eq
      · simp [Event.created, History.sent, waiting_eq]
  | hasOutgoingFrames idle nonempty =>
      rw [idle] at queued_eq queue_wellFormed
      exact ⟨history, ⟨⟨serving.wellFormed, serving.bytes_eq, serving.handling⟩, receiving,
        queued_eq, queue_wellFormed, fun _ => nonempty⟩, by simp [Event.created]⟩
  | hasNoOutgoingFrames idle empty =>
      exact ⟨history, ⟨serving, receiving, queued_eq, queue_wellFormed, ready⟩,
        by simp [Event.created]⟩
  | @getNextOutgoingFrame frame frames ready queue =>
      rw [ready, queue] at queued_eq queue_wellFormed
      refine ⟨history, ⟨⟨serving.wellFormed, serving.bytes_eq, serving.handling⟩, receiving, ?_,
        queue_wellFormed, nofun⟩, by simp [Event.created]⟩
      simpa [Writer.taken, Connection.answered] using queued_eq
  | @sendResponse frame writing =>
      rw [writing] at queued_eq queue_wellFormed
      have wellFormed : frame.WellFormed := queue_wellFormed frame (by simp [Writer.taken])
      refine ⟨{ history with coming := history.coming ++ [frame] },
        ⟨⟨serving.wellFormed, serving.bytes_eq, serving.handling⟩, receiving.send wellFormed, ?_,
          fun other member => ?_, nofun⟩, ?_⟩
      · simpa [Writer.taken, Connection.answered] using queued_eq
      · exact queue_wellFormed other
          (List.mem_append_right _ (by simpa [Writer.taken] using member))
      · simp [Event.created, History.sent]

end Flow

/-! ## Coming to rest -/

/-- Everything sent has been received and handled. -/
structure Settled (demo : Demo) : Prop where
  pending : demo.client.pending = []
  requests : demo.requests = []
  handling : demo.server.handling = none
  incomplete : frontFrame demo.server.frameBuffer = .incomplete
  taken : demo.server.writer.taken = []
  queue : demo.server.streamManager.outgoingFrames = []
  responses : demo.responses = []
  completedFrames : demo.client.completedFrames = []

/-- An event that is not a new call of `sendMessage`. -/
def Event.Internal (event : Event) : Prop :=
  ∀ message streamId, event ≠ .sendMessage message streamId

/-- Steps left before the frames at hand are sent by the client. -/
def sendWork (client : Client) : ℕ :=
  3 * client.sending.length + 2 * client.outgoingFrames.length + client.writing.toList.length

/-- Steps left before the bytes at hand are handled by the server. -/
def readWork (server : Connection) : ℕ :=
  7 * server.frameBuffer.length +
    match server.handling with
    | none => 6
    | some (_, _, i) => 5 - i

/-- Steps left before the frames at hand are sent by the server. -/
def writeWork (server : Connection) : ℕ :=
  3 * server.streamManager.outgoingFrames.length +
    match server.writer with
    | .idle => 1
    | .ready => 0
    | .writing _ => 2

/-- The work at hand, in the order in which it is passed on. -/
def work (demo : Demo) : ℕ ×ₗ ℕ ×ₗ ℕ ×ₗ ℕ ×ₗ ℕ ×ₗ ℕ :=
  toLex (sendWork demo.client, toLex (demo.requests.length, toLex (readWork demo.server,
    toLex (writeWork demo.server,
      toLex (demo.responses.length, demo.client.completedFrames.length)))))

section Work

variable {demo next : Demo}

theorem work_lt_of_send (less : sendWork next.client < sendWork demo.client) :
    next.work < demo.work :=
  Prod.Lex.toLex_lt_toLex.mpr (Or.inl less)

theorem work_lt_of_recv (send_eq : sendWork next.client = sendWork demo.client)
    (less : next.requests.length < demo.requests.length) : next.work < demo.work := by
  simp [work, Prod.Lex.toLex_lt_toLex, send_eq, less]

theorem work_lt_of_read (client_eq : next.client = demo.client)
    (requests_eq : next.requests = demo.requests)
    (less : readWork next.server < readWork demo.server) : next.work < demo.work := by
  simp [work, Prod.Lex.toLex_lt_toLex, client_eq, requests_eq, less]

theorem work_lt_of_write (client_eq : next.client = demo.client)
    (requests_eq : next.requests = demo.requests)
    (read_eq : readWork next.server = readWork demo.server)
    (less : writeWork next.server < writeWork demo.server) : next.work < demo.work := by
  simp [work, Prod.Lex.toLex_lt_toLex, client_eq, requests_eq, read_eq, less]

theorem work_lt_of_responses (send_eq : sendWork next.client = sendWork demo.client)
    (requests_eq : next.requests = demo.requests) (server_eq : next.server = demo.server)
    (less : next.responses.length < demo.responses.length ∨
      next.responses = demo.responses ∧
        next.client.completedFrames.length < demo.client.completedFrames.length) :
    next.work < demo.work := by
  rcases less with less | ⟨responses_eq, less⟩
  · simp [work, Prod.Lex.toLex_lt_toLex, send_eq, requests_eq, server_eq, less]
  · simp [work, Prod.Lex.toLex_lt_toLex, send_eq, requests_eq, server_eq, responses_eq, less]

end Work

/-- Some event passes work on. -/
def Progresses (enableChecksum : Bool) (demo : Demo) : Prop :=
  ∃ event next, event.Internal ∧ Step enableChecksum demo event next ∧ next.work < demo.work

theorem progresses_of_pending (enableChecksum : Bool) {demo : Demo}
    (busy : demo.client.pending ≠ []) : Progresses enableChecksum demo := by
  cases sending : demo.client.sending with
  | cons frame frames =>
      refine ⟨.push frame, _, nofun, .push (sending ▸ List.mem_cons_self), work_lt_of_send ?_⟩
      simp only [sendWork, Client.push, sending, List.erase_cons_head, List.length_append,
        List.length_cons, List.length_nil]
      omega
  | nil =>
      cases writing : demo.client.writing with
      | some frame =>
          refine ⟨.sendRequest, _, nofun, .sendRequest writing, work_lt_of_send ?_⟩
          simp [sendWork, writing]
      | none =>
          cases queue : demo.client.outgoingFrames with
          | nil => simp [Client.pending, sending, writing, queue] at busy
          | cons frame frames =>
              refine ⟨.pop, _, nofun, .pop writing queue, work_lt_of_send ?_⟩
              simp only [sendWork, Client.pop, writing, queue, List.length_cons,
                Option.toList_some, Option.toList_none, List.length_nil]
              omega

theorem progresses_of_requests (enableChecksum : Bool) {demo : Demo}
    (idle : demo.server.handling = none)
    (busy : demo.requests ≠ [] ∨ frontFrame demo.server.frameBuffer ≠ .incomplete) :
    Progresses enableChecksum demo := by
  cases front : frontFrame demo.server.frameBuffer with
  | completed frame frameLength =>
      refine ⟨.handleFrame, _, nofun, .handleFrame idle front, work_lt_of_read rfl rfl ?_⟩
      simp [readWork, idle]
  | incomplete =>
      have nonempty : 0 < demo.requests.length :=
        List.length_pos_iff.mpr (busy.resolve_right (not_not.mpr front))
      refine ⟨.recvRequests (min 1024 demo.requests.length), _, nofun,
        .recvRequests idle front (by omega) (Nat.min_le_left _ _) (Nat.min_le_right _ _),
        work_lt_of_recv rfl ?_⟩
      rw [List.length_drop]
      omega
  | thrown message =>
      rw [frontFrame_eq] at front
      rcases parseAt_eq demo.server.frameBuffer 0 with ⟨-, incomplete⟩ | ⟨frame, completed, -⟩
      · rw [front] at incomplete
        contradiction
      · rw [front] at completed
        contradiction

theorem progresses_of_responses (enableChecksum : Bool) {demo : Demo}
    (busy : demo.responses ≠ [] ∨ demo.client.completedFrames ≠ []) :
    Progresses enableChecksum demo := by
  cases parsed : demo.client.completedFrames with
  | cons frame frames =>
      refine ⟨.outputFrame, _, nofun, .outputFrame parsed,
        work_lt_of_responses rfl rfl rfl (Or.inr ⟨rfl, ?_⟩)⟩
      simp [Client.handleFrame, parsed]
  | nil =>
      have nonempty : 0 < demo.responses.length :=
        List.length_pos_iff.mpr (busy.resolve_right (not_not.mpr parsed))
      refine ⟨.recvResponses (min 256 demo.responses.length), _, nofun,
        .recvResponses parsed (by omega) (Nat.min_le_left _ _) (Nat.min_le_right _ _),
        work_lt_of_responses rfl rfl rfl (Or.inl ?_)⟩
      rw [List.length_drop]
      omega

namespace Flow

variable {enableChecksum : Bool} {history : History} {demo : Demo}

theorem progresses_of_handling (flow : Flow enableChecksum history demo)
    (busy : demo.server.handling ≠ none) : Progresses enableChecksum demo := by
  obtain ⟨⟨frame, frameLength, i⟩, handling⟩ := Option.ne_none_iff_exists'.mp busy
  obtain ⟨bounded, complete⟩ := flow.serving.handling handling
  rcases Nat.lt_or_eq_of_le bounded with more | rfl
  · refine ⟨.respond, _, nofun, .respond handling more, work_lt_of_read rfl rfl ?_⟩
    simp only [readWork, Connection.respond, handling]
    omega
  · obtain ⟨-, -, -, -, -, inside⟩ := flow.serving.front complete
    have positive : 0 < Frame.headerSize := by decide
    refine ⟨.eraseFrame, _, nofun, .eraseFrame handling, work_lt_of_read rfl rfl ?_⟩
    simp only [readWork, Connection.eraseFrame, handling, List.length_drop]
    omega

theorem progresses_of_queue (flow : Flow enableChecksum history demo)
    (busy : demo.server.writer.taken ++ demo.server.streamManager.outgoingFrames ≠ []) :
    Progresses enableChecksum demo := by
  cases writer : demo.server.writer with
  | idle =>
      have nonempty : demo.server.streamManager.outgoingFrames ≠ [] := by
        simpa [writer, Writer.taken] using busy
      refine ⟨.hasOutgoingFrames, _, nofun, .hasOutgoingFrames writer nonempty,
        work_lt_of_write rfl rfl rfl ?_⟩
      simp [writeWork, writer]
  | ready =>
      obtain ⟨frame, frames, queue⟩ := List.exists_cons_of_ne_nil (flow.ready writer)
      refine ⟨.getNextOutgoingFrame, _, nofun, .getNextOutgoingFrame writer queue,
        work_lt_of_write rfl rfl rfl ?_⟩
      simp only [writeWork, writer, queue, List.length_cons]
      omega
  | writing frame =>
      refine ⟨.sendResponse, _, nofun, .sendResponse writer, work_lt_of_write rfl rfl rfl ?_⟩
      simp [writeWork, writer]

end Flow

/-- As long as something is under way, some thread can go on. -/
theorem Flow.settled_or_progresses {enableChecksum : Bool} {history : History} {demo : Demo}
    (flow : Flow enableChecksum history demo) :
    demo.Settled ∨ Progresses enableChecksum demo := by
  by_contra neither
  obtain ⟨unsettled, stuck⟩ := not_or.mp neither
  have handling : demo.server.handling = none := by
    by_contra busy
    exact stuck (flow.progresses_of_handling busy)
  have requests := not_or.mp fun busy =>
    stuck (progresses_of_requests enableChecksum handling busy)
  have queue : demo.server.writer.taken ++ demo.server.streamManager.outgoingFrames = [] := by
    by_contra busy
    exact stuck (flow.progresses_of_queue busy)
  have responses := not_or.mp fun busy => stuck (progresses_of_responses enableChecksum busy)
  refine unsettled
    { pending := ?_
      requests := not_not.mp requests.1
      handling
      incomplete := not_not.mp requests.2
      taken := (List.append_eq_nil_iff.mp queue).1
      queue := (List.append_eq_nil_iff.mp queue).2
      responses := not_not.mp responses.1
      completedFrames := not_not.mp responses.2 }
  by_contra busy
  exact stuck (progresses_of_pending enableChecksum busy)

theorem Event.Internal.created_eq_nil {event : Event} (internal : event.Internal) (demo : Demo) :
    event.created demo = [] := by
  cases event with
  | sendMessage message streamId => exact absurd rfl (internal message streamId)
  | _ => rfl

/-- The requests sent and the frames to be sent are, in some order, `requests`. -/
def Carries (enableChecksum : Bool) (requests : List Frame) (demo : Demo) : Prop :=
  ∃ history, Flow enableChecksum history demo ∧
    (history.sent ++ demo.client.pending).Perm requests

theorem Carries.step {enableChecksum : Bool} {requests : List Frame} {demo next : Demo}
    {event : Event} (carries : Carries enableChecksum requests demo)
    (wellFormed : ∀ frame ∈ requests, frame.WellFormed) (internal : event.Internal)
    (stepped : Step enableChecksum demo event next) : Carries enableChecksum requests next := by
  obtain ⟨history, flow, perm⟩ := carries
  obtain ⟨after, after_flow, after_perm⟩ := flow.step
    (fun frame member => wellFormed frame (perm.subset (List.mem_append_right _ member))) stepped
  rw [internal.created_eq_nil, List.append_nil] at after_perm
  exact ⟨after, after_flow, after_perm.trans perm⟩

/-- Whatever is under way, the system can be brought to rest without further messages, and then
every request at hand has been sent. -/
theorem Carries.exists_settled {enableChecksum : Bool} {requests : List Frame} {demo : Demo}
    (carries : Carries enableChecksum requests demo)
    (wellFormed : ∀ frame ∈ requests, frame.WellFormed) :
    ∃ trace final history, (∀ event ∈ trace, event.Internal) ∧
      (system enableChecksum).run demo trace = some final ∧ Flow enableChecksum history final ∧
        final.Settled ∧ history.sent.Perm requests := by
  have progress (state : Demo) (holds : Carries enableChecksum requests state) : state.Settled ∨
      ∃ event next, event.Internal ∧ (system enableChecksum).step state event = some next ∧
        Carries enableChecksum requests next ∧ next.work < state.work := by
    obtain ⟨history, flow, perm⟩ := holds
    apply flow.settled_or_progresses.imp_right
    rintro ⟨event, next, internal, stepped, decreased⟩
    have carried := Carries.step ⟨history, flow, perm⟩ wellFormed internal stepped
    exact ⟨event, next, internal, step_eq_some stepped, carried, decreased⟩
  obtain ⟨trace, final, internal, ran, ⟨history, flow, perm⟩, settled⟩ :=
    EventSystem.exists_run_of_variant work progress demo carries
  rw [settled.pending, List.append_nil] at perm
  exact ⟨trace, final, history, internal, ran, flow, settled, perm⟩

end Demo
end FramedTcp
