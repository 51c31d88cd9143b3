import FramedTcp.EventSystem
import FramedTcp.FrameParser

/-!
# Server-side connections

The per-client handler of `TcpServer` with its read loop and its write queue, and the stream
processors.  `TcpServer` has one `FrameParser` for all clients; its `processData` touches no member,
so `processFrames` is the same function for every client.
-/

namespace FramedTcp

open PrefixDecoding EventSystems FrameParser

/-- The state of a client handler; `pushed` and `transmitted` record what its queue and its socket
have been given so far. -/
structure ClientHandler where
  /-- The client's identifier, its file descriptor. -/
  id : Int32
  /-- Received bytes not yet parsed. -/
  frameBuffer : List UInt8 := []
  /-- Frames the read thread still has to dispatch. -/
  frames : List Frame := []
  /-- Serialized frames waiting for the write thread. -/
  outgoingQueue : List (List UInt8) := []
  /-- The batch the write thread is sending. -/
  pendingData : List (List UInt8) := []
  /-- Bytes of the first pending item that have been sent. -/
  totalSent : ℕ := 0
  /-- Everything ever pushed to `outgoing_queue_`. -/
  pushed : List (List UInt8) := []
  /-- All bytes accepted by `send`. -/
  transmitted : List UInt8 := []

namespace ClientHandler

/-- Push data to the outgoing queue. -/
def write (handler : ClientHandler) (data : List UInt8) : ClientHandler :=
  { handler with
    outgoingQueue := handler.outgoingQueue ++ [data]
    pushed := handler.pushed ++ [data] }

/-- A received chunk is parsed, and the frames to dispatch are marked with the client. -/
def readChunk (handler : ClientHandler) (chunk : List UInt8) : List Frame × ClientHandler :=
  let round := receiveChunk handler.frameBuffer chunk
  (round.1.map fun frame => { frame with clientId := handler.id },
    { handler with frameBuffer := round.2 })

/-- The read loop over the chunks returned by `recv`: the frames dispatched, in order. -/
def handleRead (handler : ClientHandler) : List (List UInt8) → List Frame × ClientHandler
  | [] => ([], handler)
  | chunk :: chunks =>
      let round := handler.readChunk chunk
      let later := round.2.handleRead chunks
      (round.1 ++ later.1, later.2)

/-- The invocations of the request callback, if one is set, for the frames dispatched. -/
def requests (requestCallback : Bool) (frames : List Frame) : List Frame :=
  if requestCallback then frames else []

/-! ## Steps of the two threads -/

/-- The read thread receives a chunk once it has dispatched the frames of the last one. -/
def receive (handler : ClientHandler) (chunk : List UInt8) : Option ClientHandler :=
  if handler.frames = [] ∧ chunk ≠ [] then
    let round := handler.readChunk chunk
    some { round.2 with frames := round.1 }
  else
    none

/-- The write thread takes the whole queue. -/
def takeBatch (handler : ClientHandler) : Option ClientHandler :=
  if handler.pendingData = [] ∧ handler.outgoingQueue ≠ [] then
    some { handler with
      pendingData := handler.outgoingQueue
      outgoingQueue := [] }
  else
    none

/-- `send` accepts some bytes of the item being sent. -/
def send (handler : ClientHandler) (count : ℕ) : Option ClientHandler :=
  match handler.pendingData with
  | data :: _ =>
      if 0 < count ∧ handler.totalSent + count ≤ data.length then
        some { handler with
          totalSent := handler.totalSent + count
          transmitted := handler.transmitted ++ (data.drop handler.totalSent).take count }
      else
        none
  | [] => none

/-- The write thread goes on to the next item. -/
def nextData (handler : ClientHandler) : Option ClientHandler :=
  match handler.pendingData with
  | data :: rest =>
      if handler.totalSent = data.length then
        some { handler with
          pendingData := rest
          totalSent := 0 }
      else
        none
  | [] => none

/-! ## What a step can do -/

section

variable {handler next : ClientHandler}

theorem receive_eq_some_iff {chunk : List UInt8} :
    handler.receive chunk = some next ↔
      (handler.frames = [] ∧ chunk ≠ []) ∧
        { (handler.readChunk chunk).2 with frames := (handler.readChunk chunk).1 } = next := by
  rw [receive, Option.ite_none_right_eq_some, Option.some_inj]

theorem takeBatch_eq_some_iff :
    handler.takeBatch = some next ↔
      (handler.pendingData = [] ∧ handler.outgoingQueue ≠ []) ∧
        { handler with pendingData := handler.outgoingQueue, outgoingQueue := [] } = next := by
  rw [takeBatch, Option.ite_none_right_eq_some, Option.some_inj]

theorem send_eq_some_iff {count : ℕ} :
    handler.send count = some next ↔
      ∃ data rest, handler.pendingData = data :: rest ∧
        (0 < count ∧ handler.totalSent + count ≤ data.length) ∧
        { handler with
          totalSent := handler.totalSent + count
          transmitted := handler.transmitted ++ (data.drop handler.totalSent).take count } =
            next := by
  rw [send]
  cases handler.pendingData <;> simp

theorem nextData_eq_some_iff :
    handler.nextData = some next ↔
      ∃ data rest, handler.pendingData = data :: rest ∧ handler.totalSent = data.length ∧
        { handler with pendingData := rest, totalSent := 0 } = next := by
  rw [nextData]
  cases handler.pendingData <;> simp

end

/-! ## The write queue -/

/-- What has been pushed is what has been transmitted, followed by the rest of the batch and by the
queue. -/
structure Delivers (handler : ClientHandler) : Prop where
  transmitted_eq : handler.transmitted ++
    (handler.pendingData.flatten.drop handler.totalSent ++ handler.outgoingQueue.flatten) =
      handler.pushed.flatten
  totalSent_le : handler.totalSent ≤ (handler.pendingData.headD []).length

namespace Delivers

variable {handler next : ClientHandler}

theorem initial (id : Int32) : Delivers { id } := ⟨rfl, le_rfl⟩

theorem write (delivers : handler.Delivers) (data : List UInt8) :
    (handler.write data).Delivers := by
  refine ⟨?_, delivers.totalSent_le⟩
  simp only [ClientHandler.write, List.flatten_append, List.flatten_singleton,
    ← delivers.transmitted_eq, List.append_assoc]

theorem takeBatch (delivers : handler.Delivers) (taken : handler.takeBatch = some next) :
    next.Delivers := by
  obtain ⟨⟨finished, -⟩, rfl⟩ := takeBatch_eq_some_iff.mp taken
  have unsent : handler.totalSent = 0 := by simpa [finished] using delivers.totalSent_le
  have transmitted_eq := delivers.transmitted_eq
  rw [finished] at transmitted_eq
  constructor
  · simpa [unsent] using transmitted_eq
  · simp [unsent]

theorem send (delivers : handler.Delivers) {count : ℕ} (sent : handler.send count = some next) :
    next.Delivers := by
  obtain ⟨data, rest, pending, ⟨-, inside⟩, rfl⟩ := send_eq_some_iff.mp sent
  have transmitted_eq := delivers.transmitted_eq
  rw [pending, List.flatten_cons, List.drop_append_of_le_length (by omega)] at transmitted_eq
  constructor
  · rw [← transmitted_eq]
    simp only [pending, List.flatten_cons]
    rw [List.drop_append_of_le_length inside, ← List.drop_drop]
    conv_rhs => rw [← List.take_append_drop count (data.drop handler.totalSent)]
    simp only [List.append_assoc]
  · simpa [pending] using inside

theorem nextData (delivers : handler.Delivers) (moved : handler.nextData = some next) :
    next.Delivers := by
  obtain ⟨data, rest, pending, finished, rfl⟩ := nextData_eq_some_iff.mp moved
  have transmitted_eq := delivers.transmitted_eq
  rw [pending, List.flatten_cons, finished, List.drop_left] at transmitted_eq
  exact ⟨transmitted_eq, Nat.zero_le _⟩

/-- What has been transmitted is a front piece of what has been pushed. -/
theorem transmitted_le (delivers : handler.Delivers) :
    handler.transmitted <+: handler.pushed.flatten :=
  ⟨_, delivers.transmitted_eq⟩

end Delivers

/-! ## The read loop -/

theorem handleRead_eq_feedAll (handler : ClientHandler) (chunks : List (List UInt8)) :
    handler.handleRead chunks =
      ((decoder.feedAll handler.frameBuffer chunks).1.map
          fun frame => { frame with clientId := handler.id },
        { handler with frameBuffer := (decoder.feedAll handler.frameBuffer chunks).2 }) := by
  induction chunks generalizing handler with
  | nil => rfl
  | cons chunk chunks induction =>
      rw [handleRead, induction, PrefixDecoder.feedAll]
      simp only [readChunk, receiveChunk_eq_feed, List.map_append]

/-- The read loop dispatches the frames of the whole byte stream and keeps its incomplete rest. -/
theorem handleRead_eq (id : Int32) (chunks : List (List UInt8)) :
    handleRead { id } chunks =
      ((processData chunks.flatten).1.map fun frame => { frame with clientId := id },
        { id, frameBuffer := chunks.flatten.drop (processData chunks.flatten).2 }) := by
  rw [handleRead_eq_feedAll, decoder.feedAll_eq chunks [] decoder.next_nil, List.nil_append,
    processData_frames, drop_processData]

/-- However a byte stream is cut into chunks, the read loop dispatches the frames that one call of
the parser finds in it, and is left with the bytes that call does not consume. -/
theorem handleRead_chunking (id : Int32) (chunks : List (List UInt8)) :
    ((handleRead { id } chunks).1 =
        (processData chunks.flatten).1.map (fun frame => { frame with clientId := id }) ∧
      (handleRead { id } chunks).2.frameBuffer =
        chunks.flatten.drop (processData chunks.flatten).2) ∧
    ∀ others : List (List UInt8), others.flatten = chunks.flatten →
      (handleRead { id } others).1 = (handleRead { id } chunks).1 ∧
        (handleRead { id } others).2.frameBuffer = (handleRead { id } chunks).2.frameBuffer := by
  refine ⟨?_, fun others same => ?_⟩
  · rw [handleRead_eq]
    exact ⟨rfl, rfl⟩
  · rw [handleRead_eq, handleRead_eq, same]
    exact ⟨rfl, rfl⟩

/-- A header and its one-byte payload, cut into two chunks or into single bytes. -/
theorem handleRead_chunking_bytes :
    (handleRead { id := 4 } [[0], [0], [0], [1], [0, 0, 0, 9, 0, 0, 0, 0], [0, 0, 0, 0, 7]]).1 =
      (handleRead { id := 4 } [[0, 0, 0, 1, 0, 0], [0, 9, 0, 0, 0, 0, 0, 0, 0, 0, 7]]).1 :=
  ((handleRead_chunking 4 [[0, 0, 0, 1, 0, 0], [0, 9, 0, 0, 0, 0, 0, 0, 0, 0, 7]]).2 _
    (by decide)).1

end ClientHandler

/-! ## Stream processors -/

/-- Which callbacks of the server are set. -/
structure Callbacks where
  /-- Is `request_callback_` set? -/
  request : Bool
  /-- Is `checksum_callback_` set? -/
  checksum : Bool

/-- A stream processor's queue and the invocations of the callbacks it has made. -/
structure StreamProcessor where
  /-- Frames waiting for the worker thread. -/
  frameQueue : List Frame := []
  /-- Invocations of the checksum callback. -/
  checksums : List (Bool × UInt32 × UInt32) := []
  /-- Frames the request callback was invoked with. -/
  requests : List Frame := []

namespace StreamProcessor

/-- Steps of a stream processor. -/
inductive Event
  | addFrame (frame : Frame)
  | processFrame

/-- One round of `processLoop` on the frame it has taken out of the queue. -/
def processFrame (enableChecksum : Bool) (callbacks : Callbacks) (processor : StreamProcessor)
    (frame : Frame) : StreamProcessor :=
  let checksumValid := frame.verifyChecksum enableChecksum
  let processor := if callbacks.checksum then
      { processor with
        checksums := processor.checksums ++ [(checksumValid, frame.streamId, frame.sequence)] }
    else
      processor
  if !checksumValid then
    processor
  else if callbacks.request && decide (frame.clientId ≥ 0) then
    { processor with requests := processor.requests ++ [frame] }
  else
    processor

/-- A stream processor whose queue is filled while its worker runs. -/
def processLoop (enableChecksum : Bool) (callbacks : Callbacks) :
    EventSystem StreamProcessor Event where
  init := {}
  step processor
    | .addFrame frame => some { processor with frameQueue := processor.frameQueue ++ [frame] }
    | .processFrame =>
        match processor.frameQueue with
        | [] => none
        | frame :: frames =>
            some ({ processor with frameQueue := frames }.processFrame enableChecksum callbacks
              frame)

/-- The request callback is invoked with frames that pass the checksum test and have a client. -/
theorem requests_processFrame (enableChecksum : Bool) (callbacks : Callbacks)
    (processor : StreamProcessor) (frame : Frame) :
    (processor.processFrame enableChecksum callbacks frame).requests =
      processor.requests ++
        if frame.verifyChecksum enableChecksum && (callbacks.request && frame.clientId ≥ 0) then
          [frame]
        else
          [] := by
  unfold processFrame
  cases frame.verifyChecksum enableChecksum <;> cases callbacks.checksum <;>
    cases callbacks.request && decide (frame.clientId ≥ 0) <;> simp

theorem verify_of_mem_requests {enableChecksum : Bool} {callbacks : Callbacks}
    {trace : List Event} {processor : StreamProcessor}
    (reached : (processLoop enableChecksum callbacks).Reaches trace processor) :
    ∀ request ∈ processor.requests, request.verifyChecksum enableChecksum = true := by
  refine reached.invariant (motive := fun _ processor =>
    ∀ request ∈ processor.requests, request.verifyChecksum enableChecksum = true) ?_ ?_
  · exact fun _ member => absurd member List.not_mem_nil
  · intro trace processor event next _ earlier stepped request member
    cases event with
    | addFrame frame =>
        obtain rfl := Option.some.inj stepped
        exact earlier request member
    | processFrame =>
        cases queue : processor.frameQueue with
        | nil => simp [processLoop, queue] at stepped
        | cons frame frames =>
            obtain rfl : processFrame enableChecksum callbacks
                { processor with frameQueue := frames } frame = next := by
              simpa [processLoop, queue] using stepped
            rw [requests_processFrame, List.mem_append] at member
            rcases member with old | new
            · exact earlier request old
            · split at new
              · rename_i accepted
                obtain rfl := List.mem_singleton.mp new
                exact (Bool.and_eq_true_iff.mp accepted).1
              · contradiction

end StreamProcessor
end FramedTcp
