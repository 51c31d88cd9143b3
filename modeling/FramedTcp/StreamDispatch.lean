import FramedTcp.OrderedMap
import FramedTcp.TcpServer

/-!
# Dispatch to stream processors

`TcpServer::processIncomingData` parses a client's bytes and hands every frame to the processor of
its stream, `StreamProcessor::processLoop` examines the frames, and `cleanupInactiveStreams` removes
processors.  The critical sections of these threads are the events of one system.  Processors are
shared objects with the reference count that `std::shared_ptr` keeps for them.
-/

namespace FramedTcp

open PrefixDecoding EventSystems FrameParser

/-- Where a worker thread stands in `processLoop`. -/
inductive Worker
  | testing
  | waiting
  | processing (frame : Frame)
  | returned

/-- A stream processor with its worker thread; `added` and `examined` record the frames that
`addFrame` was called with and those that `processLoop` has examined. -/
structure SharedProcessor where
  /-- The stream it was created for. -/
  streamId : UInt32 := 0
  /-- Number of shared pointers to it. -/
  useCount : ℕ := 0
  /-- Cleared by the destructor. -/
  running : Bool := false
  /-- Where the worker thread stands. -/
  worker : Worker := .returned
  /-- Frames waiting for the worker. -/
  frameQueue : List Frame := []
  /-- Has the destructor joined the worker and returned? -/
  destroyed : Bool := false
  /-- Frames ever pushed to the queue. -/
  added : List Frame := []
  /-- Frames examined by the worker. -/
  examined : List Frame := []

namespace SharedProcessor

/-- A processor that has just been created, held by the map and by its creator. -/
def create (streamId : UInt32) : SharedProcessor :=
  { streamId
    useCount := 2
    running := true
    worker := .testing }

/-- Copy a shared pointer. -/
def acquire (processor : SharedProcessor) : SharedProcessor :=
  { processor with useCount := processor.useCount + 1 }

/-- Drop a shared pointer; the last one starts the destructor, which clears `running`. -/
def release (processor : SharedProcessor) : SharedProcessor :=
  { processor with
    useCount := processor.useCount - 1
    running := processor.running && processor.useCount != 1 }

/-- Push a frame to the queue. -/
def addFrame (processor : SharedProcessor) (frame : Frame) : SharedProcessor :=
  { processor with
    frameQueue := processor.frameQueue ++ [frame]
    added := processor.added ++ [frame] }

/-- The worker evaluates `while (running)`. -/
def testRunning (processor : SharedProcessor) : Option SharedProcessor :=
  match processor.worker with
  | .testing => some { processor with worker := if processor.running then .waiting else .returned }
  | _ => none

/-- The worker finds a frame in the queue, at once or when it wakes up. -/
def takeFrame (processor : SharedProcessor) : Option SharedProcessor :=
  match processor.frameQueue, processor.worker with
  | frame :: frames, .waiting =>
      some { processor with
        worker := .processing frame
        frameQueue := frames }
  | _, _ => none

/-- The worker wakes up and finds the queue empty. -/
def timeOut (processor : SharedProcessor) : Option SharedProcessor :=
  match processor.worker, processor.frameQueue with
  | .waiting, [] => some { processor with worker := .testing }
  | _, _ => none

/-- The worker is done with a frame. -/
def finishFrame (processor : SharedProcessor) (frame : Frame) : SharedProcessor :=
  { processor with
    worker := .testing
    examined := processor.examined ++ [frame] }

/-- The destructor joins the worker once it has returned. -/
def join (processor : SharedProcessor) : Option SharedProcessor :=
  match processor.worker with
  | .returned => some { processor with destroyed := true }
  | _ => none

/-- The frame that the worker has taken out and not finished. -/
def inHand (processor : SharedProcessor) : List Frame :=
  match processor.worker with
  | .processing frame => [frame]
  | _ => []

/-- The frames added are the examined ones, the one in hand and the queued ones, in this order. -/
def Recorded (processor : SharedProcessor) : Prop :=
  processor.added = processor.examined ++ (processor.inHand ++ processor.frameQueue)

end SharedProcessor

/-- A call of `processIncomingData` in its loop over the frames: the client, the frames that the
loop has not come to, and the current frame or the processor that was found for it. -/
inductive DispatchCall
  | finding (client : Int32) (frames : List Frame) (frame : Frame)
  | found (client : Int32) (frames : List Frame) (frame : Frame) (processor : ℕ)
  | added (client : Int32) (frames : List Frame) (processor : ℕ)
  | destroying (client : Int32) (frames : List Frame) (processor : ℕ)

namespace DispatchCall

/-- The processor that the call holds a shared pointer to. -/
def pointer : DispatchCall → Option ℕ
  | .finding _ _ _ => none
  | .found _ _ _ processor => some processor
  | .added _ _ processor => some processor
  | .destroying _ _ _ => none

/-- Go on to the next frame, or return. -/
def next (client : Int32) : List Frame → Option DispatchCall
  | [] => none
  | frame :: frames => some (.finding client frames frame)

end DispatchCall

/-- Where the cleanup thread stands; it holds `stream_processors_mutex_` unless it sleeps. -/
inductive Cleaner
  | sleeping
  | checking (entries : List (UInt32 × ℕ)) (streamsToRemove : List UInt32)
  | erasing (streamsToRemove : List UInt32)
  | destroying (streamsToRemove : List UInt32) (processor : ℕ)

/-- The clients in `clients_`; identifiers are file descriptors. -/
structure ClientSet where
  /-- Is the client in the map? -/
  present : Int32 → Bool
  /-- File descriptors are not negative. -/
  nonneg : ∀ client, present client = true → 0 ≤ client

/-- The part of the server that takes part in dispatching. -/
structure StreamDispatch where
  /-- Unparsed bytes of each client. -/
  clientBuffers : Int32 → List UInt8 := fun _ => []
  /-- Calls in progress, by thread. -/
  calls : ℕ → Option DispatchCall := fun _ => none
  /-- The map `stream_processors_`; a processor is named by a number. -/
  streamProcessors : OrderedMap UInt32 ℕ := ∅
  /-- All processors ever created. -/
  processors : ℕ → SharedProcessor := fun _ => {}
  /-- Name of the next processor. -/
  created : ℕ := 0
  /-- The cleanup thread. -/
  cleaner : Cleaner := .sleeping
  /-- Invocations of the request callback. -/
  requests : List Frame := []
  /-- Invocations of the checksum callback. -/
  checksums : List (Bool × UInt32 × UInt32) := []

namespace StreamDispatch

/-- Steps of the calling threads, the workers and the cleanup thread. -/
inductive Event
  | processIncomingData (thread : ℕ) (client : Int32) (data : List UInt8)
  | findProcessor (thread : ℕ)
  | addFrame (thread : ℕ)
  | releaseProcessor (thread : ℕ)
  | joinReleased (thread : ℕ)
  | testRunning (processor : ℕ)
  | takeFrame (processor : ℕ)
  | timeOut (processor : ℕ)
  | processFrame (processor : ℕ)
  | startCleanup
  | checkStream
  | eraseStream
  | joinErased
  deriving DecidableEq

/-- Write a processor back. -/
def setProcessor (state : StreamDispatch) (processor : ℕ) (value : SharedProcessor) :
    StreamDispatch :=
  { state with processors := Function.update state.processors processor value }

theorem processors_setProcessor (state : StreamDispatch) (processor : ℕ)
    (value : SharedProcessor) : (state.setProcessor processor value).processors =
      Function.update state.processors processor value :=
  rfl

/-- Write a call back. -/
def setCall (state : StreamDispatch) (thread : ℕ) (call : Option DispatchCall) : StreamDispatch :=
  { state with calls := Function.update state.calls thread call }

theorem calls_setCall (state : StreamDispatch) (thread : ℕ) (call : Option DispatchCall) :
    (state.setCall thread call).calls = Function.update state.calls thread call :=
  rfl

/-- The first critical section: append the data, parse, and erase what was consumed. -/
def processIncomingData (clients : ClientSet) (state : StreamDispatch) (thread : ℕ)
    (client : Int32) (data : List UInt8) : Option StreamDispatch :=
  match state.calls thread with
  | some _ => none
  | none =>
      if clients.present client then
        let round := receiveChunk (state.clientBuffers client) data
        let buffers := Function.update state.clientBuffers client round.2
        some ({ state with clientBuffers := buffers }.setCall thread
          (DispatchCall.next client round.1))
      else
        some state

/-- The second critical section: find or create the processor of the current frame's stream. -/
def findProcessor (state : StreamDispatch) (thread : ℕ) : Option StreamDispatch :=
  match state.cleaner, state.calls thread with
  | .sleeping, some (.finding client frames frame) =>
      let frame := { frame with clientId := client }
      match state.streamProcessors.lookup frame.streamId with
      | none =>
          let processor := state.created
          let streamProcessors := state.streamProcessors.tryInsert frame.streamId processor
          some (({ state with streamProcessors, created := processor + 1 }.setProcessor processor
            (SharedProcessor.create frame.streamId)).setCall thread
              (some (.found client frames frame processor)))
      | some processor =>
          some ((state.setProcessor processor (state.processors processor).acquire).setCall thread
            (some (.found client frames frame processor)))
  | _, _ => none

/-- `addFrame` on the processor that was found. -/
def addFrame (state : StreamDispatch) (thread : ℕ) : Option StreamDispatch :=
  match state.calls thread with
  | some (.found client frames frame processor) =>
      some ((state.setProcessor processor ((state.processors processor).addFrame frame)).setCall
        thread (some (.added client frames processor)))
  | _ => none

/-- The local pointer goes out of scope at the end of an iteration. -/
def releaseProcessor (state : StreamDispatch) (thread : ℕ) : Option StreamDispatch :=
  match state.calls thread with
  | some (.added client frames processor) =>
      let value := state.processors processor
      some ((state.setProcessor processor value.release).setCall thread
        (if value.useCount = 1 then
          some (.destroying client frames processor)
        else
          DispatchCall.next client frames))
  | _ => none

/-- A destructor run by a call ends. -/
def joinReleased (state : StreamDispatch) (thread : ℕ) : Option StreamDispatch :=
  match state.calls thread with
  | some (.destroying client frames processor) =>
      (state.processors processor).join.map fun value =>
        (state.setProcessor processor value).setCall thread (DispatchCall.next client frames)
  | _ => none

/-- One iteration of `processLoop` with the frame that was taken. -/
def processFrame (enableChecksum : Bool) (callbacks : Callbacks) (state : StreamDispatch)
    (processor : ℕ) : Option StreamDispatch :=
  match (state.processors processor).worker with
  | .processing frame =>
      let invoked := StreamProcessor.processFrame enableChecksum callbacks {} frame
      let finished := state.setProcessor processor ((state.processors processor).finishFrame frame)
      some { finished with
        requests := state.requests ++ invoked.requests
        checksums := state.checksums ++ invoked.checksums }
  | _ => none

/-- The cleanup thread locks the map. -/
def startCleanup (state : StreamDispatch) : Option StreamDispatch :=
  match state.cleaner with
  | .sleeping => some { state with cleaner := .checking state.streamProcessors.entries [] }
  | _ => none

/-- The cleanup thread looks at the next entry of the map. -/
def checkStream (state : StreamDispatch) : Option StreamDispatch :=
  match state.cleaner with
  | .checking [] streamsToRemove => some { state with cleaner := .erasing streamsToRemove }
  | .checking (entry :: entries) streamsToRemove =>
      some { state with
        cleaner := .checking entries
          (if (state.processors entry.2).useCount = 1 then
            streamsToRemove ++ [entry.1]
          else
            streamsToRemove) }
  | _ => none

/-- The cleanup thread erases the next stream, or unlocks the map when there is none. -/
def eraseStream (state : StreamDispatch) : Option StreamDispatch :=
  match state.cleaner with
  | .erasing [] => some { state with cleaner := .sleeping }
  | .erasing (streamId :: streams) =>
      match state.streamProcessors.lookup streamId with
      | none => some { state with cleaner := .erasing streams }
      | some processor =>
          let value := state.processors processor
          let streamProcessors := state.streamProcessors.erase streamId
          let cleaner :=
            if value.useCount = 1 then .destroying streams processor else .erasing streams
          some ({ state with streamProcessors, cleaner }.setProcessor processor value.release)
  | _ => none

/-- A destructor run by the cleanup thread ends. -/
def joinErased (state : StreamDispatch) : Option StreamDispatch :=
  match state.cleaner with
  | .destroying streams processor =>
      (state.processors processor).join.map fun value =>
        { state with cleaner := .erasing streams }.setProcessor processor value
  | _ => none

/-- The dispatching part of the server, while `clients_` does not change. -/
def dispatch (enableChecksum : Bool) (callbacks : Callbacks) (clients : ClientSet) :
    EventSystem StreamDispatch Event where
  init := {}
  step state
    | .processIncomingData thread client data =>
        state.processIncomingData clients thread client data
    | .findProcessor thread => state.findProcessor thread
    | .addFrame thread => state.addFrame thread
    | .releaseProcessor thread => state.releaseProcessor thread
    | .joinReleased thread => state.joinReleased thread
    | .testRunning processor =>
        (state.processors processor).testRunning.map (state.setProcessor processor)
    | .takeFrame processor =>
        (state.processors processor).takeFrame.map (state.setProcessor processor)
    | .timeOut processor =>
        (state.processors processor).timeOut.map (state.setProcessor processor)
    | .processFrame processor => state.processFrame enableChecksum callbacks processor
    | .startCleanup => state.startCleanup
    | .checkStream => state.checkStream
    | .eraseStream => state.eraseStream
    | .joinErased => state.joinErased

end StreamDispatch

/-! ## What a step can do -/

/-- A step of the worker or of the destructor moves a frame from the queue to the hand at most. -/
structure SharedProcessor.Moves (before after : SharedProcessor) : Prop where
  streamId_eq : after.streamId = before.streamId
  useCount_eq : after.useCount = before.useCount
  added_eq : after.added = before.added
  examined_eq : after.examined = before.examined
  pending_eq : after.inHand ++ after.frameQueue = before.inHand ++ before.frameQueue
  frameQueue_suffix : after.frameQueue <:+ before.frameQueue

namespace SharedProcessor

variable {before after : SharedProcessor}

theorem testRunning_moves (stepped : before.testRunning = some after) : before.Moves after := by
  unfold testRunning at stepped
  split at stepped
  · rename_i testing
    obtain rfl := Option.some.inj stepped
    refine ⟨rfl, rfl, rfl, rfl, ?_, List.suffix_rfl⟩
    cases running : before.running <;> simp [inHand, testing]
  · contradiction

theorem takeFrame_moves (stepped : before.takeFrame = some after) : before.Moves after := by
  unfold takeFrame at stepped
  split at stepped
  · rename_i queue waiting
    obtain rfl := Option.some.inj stepped
    refine ⟨rfl, rfl, rfl, rfl, ?_, ?_⟩
    · simp [inHand, waiting, queue]
    · rw [queue]
      exact List.suffix_cons _ _
  · contradiction

theorem timeOut_moves (stepped : before.timeOut = some after) : before.Moves after := by
  unfold timeOut at stepped
  split at stepped
  · rename_i waiting queue
    obtain rfl := Option.some.inj stepped
    exact ⟨rfl, rfl, rfl, rfl, by simp [inHand, waiting], List.suffix_rfl⟩
  · contradiction

theorem join_moves (stepped : before.join = some after) : before.Moves after := by
  unfold join at stepped
  split at stepped
  · obtain rfl := Option.some.inj stepped
    exact ⟨rfl, rfl, rfl, rfl, rfl, List.suffix_rfl⟩
  · contradiction

end SharedProcessor

namespace StreamDispatch

/-- The steps of the dispatching part, with their guards. -/
inductive Step (enableChecksum : Bool) (callbacks : Callbacks) (clients : ClientSet)
    (state : StreamDispatch) : Event → StreamDispatch → Prop
  | ignored {thread client data} (idle : state.calls thread = none)
      (absent : clients.present client = false) :
      Step enableChecksum callbacks clients state (.processIncomingData thread client data) state
  | received {thread client data} (idle : state.calls thread = none)
      (present : clients.present client = true) :
      Step enableChecksum callbacks clients state (.processIncomingData thread client data)
        ({ state with
          clientBuffers := Function.update state.clientBuffers client
            (receiveChunk (state.clientBuffers client) data).2 }.setCall thread
              (DispatchCall.next client (receiveChunk (state.clientBuffers client) data).1))
  | created {thread client frames frame} (unlocked : state.cleaner = .sleeping)
      (finding : state.calls thread = some (.finding client frames frame))
      (absent : state.streamProcessors.lookup frame.streamId = none) :
      Step enableChecksum callbacks clients state (.findProcessor thread)
        (({ state with
          streamProcessors := state.streamProcessors.tryInsert frame.streamId state.created
          created := state.created + 1 }.setProcessor state.created
            (SharedProcessor.create frame.streamId)).setCall thread
              (some (.found client frames { frame with clientId := client } state.created)))
  | shared {thread client frames frame processor} (unlocked : state.cleaner = .sleeping)
      (finding : state.calls thread = some (.finding client frames frame))
      (present : state.streamProcessors.lookup frame.streamId = some processor) :
      Step enableChecksum callbacks clients state (.findProcessor thread)
        ((state.setProcessor processor (state.processors processor).acquire).setCall thread
          (some (.found client frames { frame with clientId := client } processor)))
  | added {thread client frames frame processor}
      (found : state.calls thread = some (.found client frames frame processor)) :
      Step enableChecksum callbacks clients state (.addFrame thread)
        ((state.setProcessor processor ((state.processors processor).addFrame frame)).setCall
          thread (some (.added client frames processor)))
  | released {thread client frames processor}
      (added : state.calls thread = some (.added client frames processor)) :
      Step enableChecksum callbacks clients state (.releaseProcessor thread)
        ((state.setProcessor processor (state.processors processor).release).setCall thread
          (if (state.processors processor).useCount = 1 then
            some (.destroying client frames processor)
          else
            DispatchCall.next client frames))
  | joinedReleased {thread client frames processor value}
      (destroying : state.calls thread = some (.destroying client frames processor))
      (moves : (state.processors processor).Moves value) :
      Step enableChecksum callbacks clients state (.joinReleased thread)
        ((state.setProcessor processor value).setCall thread (DispatchCall.next client frames))
  | moved {event processor value}
      (own : event ∈ [.testRunning processor, .takeFrame processor, .timeOut processor])
      (moves : (state.processors processor).Moves value) :
      Step enableChecksum callbacks clients state event (state.setProcessor processor value)
  | processed {processor frame}
      (holding : (state.processors processor).worker = .processing frame) :
      Step enableChecksum callbacks clients state (.processFrame processor)
        { state.setProcessor processor ((state.processors processor).finishFrame frame) with
          requests := state.requests ++
            (StreamProcessor.processFrame enableChecksum callbacks {} frame).requests
          checksums := state.checksums ++
            (StreamProcessor.processFrame enableChecksum callbacks {} frame).checksums }
  | locked (unlocked : state.cleaner = .sleeping) :
      Step enableChecksum callbacks clients state .startCleanup
        { state with cleaner := .checking state.streamProcessors.entries [] }
  | checkEnded {streamsToRemove} (checking : state.cleaner = .checking [] streamsToRemove) :
      Step enableChecksum callbacks clients state .checkStream
        { state with cleaner := .erasing streamsToRemove }
  | checked {entry entries streamsToRemove}
      (checking : state.cleaner = .checking (entry :: entries) streamsToRemove) :
      Step enableChecksum callbacks clients state .checkStream
        { state with
          cleaner := .checking entries
            (if (state.processors entry.2).useCount = 1 then
              streamsToRemove ++ [entry.1]
            else
              streamsToRemove) }
  | unlocked (erasing : state.cleaner = .erasing []) :
      Step enableChecksum callbacks clients state .eraseStream { state with cleaner := .sleeping }
  | missing {streamId streams} (erasing : state.cleaner = .erasing (streamId :: streams))
      (absent : state.streamProcessors.lookup streamId = none) :
      Step enableChecksum callbacks clients state .eraseStream
        { state with cleaner := .erasing streams }
  | erased {streamId streams processor}
      (erasing : state.cleaner = .erasing (streamId :: streams))
      (present : state.streamProcessors.lookup streamId = some processor) :
      Step enableChecksum callbacks clients state .eraseStream
        ({ state with
          streamProcessors := state.streamProcessors.erase streamId
          cleaner :=
            if (state.processors processor).useCount = 1 then
              .destroying streams processor
            else
              .erasing streams }.setProcessor processor (state.processors processor).release)
  | joinedErased {streams processor value}
      (destroying : state.cleaner = .destroying streams processor)
      (moves : (state.processors processor).Moves value) :
      Step enableChecksum callbacks clients state .joinErased
        ({ state with cleaner := .erasing streams }.setProcessor processor value)

theorem step_of_eq_some {enableChecksum : Bool} {callbacks : Callbacks} {clients : ClientSet}
    {state next : StreamDispatch} {event : Event}
    (stepped : (dispatch enableChecksum callbacks clients).step state event = some next) :
    Step enableChecksum callbacks clients state event next := by
  cases event with
  | processIncomingData thread client data =>
      simp only [dispatch, processIncomingData] at stepped
      split at stepped
      · contradiction
      · rename_i idle
        split at stepped
        · rename_i present
          obtain rfl := Option.some.inj stepped
          exact .received idle present
        · rename_i absent
          obtain rfl := Option.some.inj stepped
          exact .ignored idle (by simpa using absent)
  | findProcessor thread =>
      simp only [dispatch, findProcessor] at stepped
      split at stepped
      · rename_i unlocked finding
        split at stepped
        · rename_i absent
          obtain rfl := Option.some.inj stepped
          exact .created unlocked finding absent
        · rename_i present
          obtain rfl := Option.some.inj stepped
          exact .shared unlocked finding present
      · contradiction
  | addFrame thread =>
      simp only [dispatch, addFrame] at stepped
      split at stepped
      · rename_i found
        obtain rfl := Option.some.inj stepped
        exact .added found
      · contradiction
  | releaseProcessor thread =>
      simp only [dispatch, releaseProcessor] at stepped
      split at stepped
      · rename_i added
        obtain rfl := Option.some.inj stepped
        exact .released added
      · contradiction
  | joinReleased thread =>
      simp only [dispatch, joinReleased] at stepped
      split at stepped
      · rename_i destroying
        obtain ⟨value, joined, rfl⟩ := Option.map_eq_some_iff.mp stepped
        exact .joinedReleased destroying (SharedProcessor.join_moves joined)
      · contradiction
  | testRunning processor =>
      obtain ⟨value, moved, rfl⟩ := Option.map_eq_some_iff.mp stepped
      exact .moved (by simp) (SharedProcessor.testRunning_moves moved)
  | takeFrame processor =>
      obtain ⟨value, moved, rfl⟩ := Option.map_eq_some_iff.mp stepped
      exact .moved (by simp) (SharedProcessor.takeFrame_moves moved)
  | timeOut processor =>
      obtain ⟨value, moved, rfl⟩ := Option.map_eq_some_iff.mp stepped
      exact .moved (by simp) (SharedProcessor.timeOut_moves moved)
  | processFrame processor =>
      simp only [dispatch, processFrame] at stepped
      split at stepped
      · rename_i holding
        obtain rfl := Option.some.inj stepped
        exact .processed holding
      · contradiction
  | startCleanup =>
      simp only [dispatch, startCleanup] at stepped
      split at stepped
      · rename_i unlocked
        obtain rfl := Option.some.inj stepped
        exact .locked unlocked
      · contradiction
  | checkStream =>
      simp only [dispatch, checkStream] at stepped
      split at stepped
      · rename_i checking
        obtain rfl := Option.some.inj stepped
        exact .checkEnded checking
      · rename_i checking
        obtain rfl := Option.some.inj stepped
        exact .checked checking
      · contradiction
  | eraseStream =>
      simp only [dispatch, eraseStream] at stepped
      split at stepped
      · rename_i erasing
        obtain rfl := Option.some.inj stepped
        exact .unlocked erasing
      · rename_i erasing
        split at stepped
        · rename_i absent
          obtain rfl := Option.some.inj stepped
          exact .missing erasing absent
        · rename_i present
          obtain rfl := Option.some.inj stepped
          exact .erased erasing present
      · contradiction
  | joinErased =>
      simp only [dispatch, joinErased] at stepped
      split at stepped
      · rename_i destroying
        obtain ⟨value, joined, rfl⟩ := Option.map_eq_some_iff.mp stepped
        exact .joinedErased destroying (SharedProcessor.join_moves joined)
      · contradiction

/-- What a step does to one processor. -/
inductive Evolves (state : StreamDispatch) (processor : ℕ) : SharedProcessor → Prop
  | kept : Evolves state processor (state.processors processor)
  | created (streamId : UInt32) : Evolves state processor (SharedProcessor.create streamId)
  | acquired : Evolves state processor (state.processors processor).acquire
  | released : Evolves state processor (state.processors processor).release
  | added {thread client frames frame}
      (found : state.calls thread = some (.found client frames frame processor)) :
      Evolves state processor ((state.processors processor).addFrame frame)
  | moved {value} (moves : (state.processors processor).Moves value) :
      Evolves state processor value
  | finished {frame} (holding : (state.processors processor).worker = .processing frame) :
      Evolves state processor ((state.processors processor).finishFrame frame)

theorem Evolves.update {state : StreamDispatch} {processor : ℕ} {value : SharedProcessor}
    (evolves : state.Evolves processor value) (other : ℕ) :
    state.Evolves other (Function.update state.processors processor value other) := by
  rcases eq_or_ne other processor with rfl | different
  · rw [Function.update_self]
    exact evolves
  · rw [Function.update_of_ne different]
    exact .kept

theorem Step.evolves {enableChecksum : Bool} {callbacks : Callbacks} {clients : ClientSet}
    {state next : StreamDispatch} {event : Event}
    (stepped : Step enableChecksum callbacks clients state event next) (processor : ℕ) :
    state.Evolves processor (next.processors processor) := by
  cases stepped with
  | created unlocked finding absent => exact Evolves.update (.created _) processor
  | shared unlocked finding present => exact Evolves.update .acquired processor
  | added found => exact Evolves.update (.added found) processor
  | released added => exact Evolves.update .released processor
  | joinedReleased destroying moves => exact Evolves.update (.moved moves) processor
  | moved own moves => exact Evolves.update (.moved moves) processor
  | processed holding => exact Evolves.update (.finished holding) processor
  | erased erasing present => exact Evolves.update .released processor
  | joinedErased destroying moves => exact Evolves.update (.moved moves) processor
  | _ => exact .kept

theorem Evolves.recorded {state : StreamDispatch} {processor : ℕ} {value : SharedProcessor}
    (evolves : state.Evolves processor value)
    (recorded : (state.processors processor).Recorded) : value.Recorded := by
  unfold SharedProcessor.Recorded at *
  cases evolves with
  | kept => exact recorded
  | created streamId => rfl
  | acquired => exact recorded
  | released => exact recorded
  | @added _ _ _ frame found =>
      change (state.processors processor).added ++ [frame] =
        (state.processors processor).examined ++
          ((state.processors processor).inHand ++
            ((state.processors processor).frameQueue ++ [frame]))
      rw [recorded]
      simp only [List.append_assoc]
  | moved moves => rw [moves.added_eq, moves.examined_eq, moves.pending_eq, recorded]
  | @finished frame holding =>
      have hand_eq : (state.processors processor).inHand = [frame] := by
        rw [SharedProcessor.inHand, holding]
      rw [hand_eq] at recorded
      change (state.processors processor).added =
        ((state.processors processor).examined ++ [frame]) ++
          ([] ++ (state.processors processor).frameQueue)
      rw [recorded]
      simp only [List.append_assoc, List.nil_append]

theorem recorded_of_reaches {enableChecksum : Bool} {callbacks : Callbacks} {clients : ClientSet}
    {trace : List Event} {state : StreamDispatch}
    (reached : (dispatch enableChecksum callbacks clients).Reaches trace state) (processor : ℕ) :
    (state.processors processor).Recorded := by
  refine reached.invariant (motive := fun _ state => (state.processors processor).Recorded) ?_ ?_
  · rfl
  · intro trace state event next _ recorded stepped
    exact ((step_of_eq_some stepped).evolves processor).recorded recorded

/-- Only erasing takes a processor out of the map. -/
theorem Step.registered_or_erased {enableChecksum : Bool} {callbacks : Callbacks}
    {clients : ClientSet} {state next : StreamDispatch} {event : Event}
    (stepped : Step enableChecksum callbacks clients state event next) {streamId : UInt32}
    {processor : ℕ} (present : state.streamProcessors.lookup streamId = some processor) :
    next.streamProcessors.lookup streamId = some processor ∨
      event = .eraseStream ∧ ∃ streams, state.cleaner = .erasing (streamId :: streams) := by
  cases stepped with
  | @created thread client frames frame unlocked finding absent =>
      left
      change (state.streamProcessors.tryInsert frame.streamId state.created).lookup streamId = _
      rw [OrderedMap.lookup_tryInsert _ absent, if_neg, present]
      rintro rfl
      rw [absent] at present
      contradiction
  | @erased other streams found erasing _ =>
      rcases eq_or_ne streamId other with rfl | different
      · exact Or.inr ⟨rfl, streams, erasing⟩
      · left
        change (state.streamProcessors.erase other).lookup streamId = _
        rw [OrderedMap.lookup_erase, if_neg different, present]
  | _ => exact Or.inl present

/-! ## Reference counts -/

/-- The processor that a thread holds a shared pointer to. -/
def pointer (state : StreamDispatch) (thread : ℕ) : Option ℕ :=
  (state.calls thread).bind DispatchCall.pointer

@[simp]
theorem pointer_next (client : Int32) (frames : List Frame) :
    (DispatchCall.next client frames).bind DispatchCall.pointer = none := by
  cases frames <;> rfl

theorem pointer_of_call {state : StreamDispatch} {thread : ℕ} {call : DispatchCall}
    (calling : state.calls thread = some call) : state.pointer thread = call.pointer := by
  rw [pointer, calling, Option.bind_some]

theorem pointer_setCall (state : StreamDispatch) (thread : ℕ) (call : Option DispatchCall) :
    (state.setCall thread call).pointer =
      Function.update state.pointer thread (call.bind DispatchCall.pointer) := by
  funext other
  rcases eq_or_ne other thread with rfl | different
  · simp [pointer, setCall]
  · simp [pointer, setCall, Function.update_of_ne different]

theorem pointer_setCall_same {state : StreamDispatch} {thread : ℕ} {call : Option DispatchCall}
    (same : state.pointer thread = call.bind DispatchCall.pointer) :
    (state.setCall thread call).pointer = state.pointer := by
  rw [pointer_setCall, ← same, Function.update_eq_self]

/-- The streams that the cleanup thread is going to erase. -/
def streamsToRemove (state : StreamDispatch) : List UInt32 :=
  match state.cleaner with
  | .sleeping => []
  | .checking _ streams => streams
  | .erasing streams => streams
  | .destroying streams _ => streams

theorem streamId_update {state next : StreamDispatch} {processor : ℕ} {value : SharedProcessor}
    (processors_eq : next.processors = Function.update state.processors processor value)
    (same : value.streamId = (state.processors processor).streamId) (other : ℕ) :
    (next.processors other).streamId = (state.processors other).streamId := by
  rw [processors_eq]
  rcases eq_or_ne other processor with rfl | different
  · rw [Function.update_self, same]
  · rw [Function.update_of_ne different]

/-- The map and the reference counts agree: a processor in the map has one pointer from there and
one from each thread that holds it, threads hold processors of the map only, and nobody holds a
processor that is going to be erased. -/
structure Linked (state : StreamDispatch) : Prop where
  registered : ∀ {streamId processor}, state.streamProcessors.lookup streamId = some processor →
    (state.processors processor).streamId = streamId ∧ processor < state.created
  held : ∀ {thread processor}, state.pointer thread = some processor →
    state.streamProcessors.lookup (state.processors processor).streamId = some processor
  counted : ∀ {streamId processor}, state.streamProcessors.lookup streamId = some processor →
    ∃ holders : Finset ℕ, (∀ thread, thread ∈ holders ↔ state.pointer thread = some processor) ∧
      (state.processors processor).useCount = holders.card + 1
  entries_eq : ∀ {entries streams}, state.cleaner = .checking entries streams →
    ∀ entry ∈ entries, state.streamProcessors.lookup entry.1 = some entry.2
  removable : ∀ streamId ∈ state.streamsToRemove, ∀ processor,
    state.streamProcessors.lookup streamId = some processor →
      (state.processors processor).useCount = 1

namespace Linked

variable {state next : StreamDispatch}

theorem initial : Linked {} where
  registered found := by simp at found
  held found := by simp [pointer] at found
  counted found := by simp at found
  entries_eq checking := by simp at checking
  removable _ member := by simp [streamsToRemove] at member

/-- Nothing changes for the references. -/
theorem of_same (linked : Linked state)
    (map_eq : next.streamProcessors = state.streamProcessors)
    (created_eq : next.created = state.created) (cleaner_eq : next.cleaner = state.cleaner)
    (pointer_eq : ∀ thread, next.pointer thread = state.pointer thread)
    (same : ∀ processor, (next.processors processor).streamId =
        (state.processors processor).streamId ∧
      (next.processors processor).useCount = (state.processors processor).useCount) :
    Linked next where
  registered found := by
    rw [map_eq] at found
    rw [(same _).1, created_eq]
    exact linked.registered found
  held found := by
    rw [pointer_eq] at found
    rw [map_eq, (same _).1]
    exact linked.held found
  counted found := by
    rw [map_eq] at found
    obtain ⟨holders, mem_iff, count_eq⟩ := linked.counted found
    exact ⟨holders, fun thread => by rw [mem_iff, pointer_eq], by rw [(same _).2, count_eq]⟩
  entries_eq checking := by
    rw [cleaner_eq] at checking
    rw [map_eq]
    exact linked.entries_eq checking
  removable streamId member processor found := by
    rw [map_eq] at found
    rw [streamsToRemove, cleaner_eq] at member
    rw [(same _).2]
    exact linked.removable streamId member processor found

/-- A processor with one shared pointer is held by the map alone. -/
theorem pointer_ne (linked : Linked state) {streamId : UInt32} {processor : ℕ}
    (found : state.streamProcessors.lookup streamId = some processor)
    (unique : (state.processors processor).useCount = 1) (thread : ℕ) :
    state.pointer thread ≠ some processor := by
  obtain ⟨holders, mem_iff, count_eq⟩ := linked.counted found
  have none_holds : holders = ∅ := Finset.card_eq_zero.mp (by omega)
  intro holds
  have member := (mem_iff thread).mpr holds
  rw [none_holds] at member
  exact absurd member (Finset.notMem_empty thread)

/-- A processor that a thread holds has at least two shared pointers. -/
theorem useCount_ne_one (linked : Linked state) {thread processor : ℕ}
    (holds : state.pointer thread = some processor) :
    (state.processors processor).useCount ≠ 1 :=
  fun unique => linked.pointer_ne (linked.held holds) unique thread holds

/-- A processor is in the map under its own stream only. -/
theorem lookup_unique (linked : Linked state) {left right : UInt32} {processor : ℕ}
    (left_found : state.streamProcessors.lookup left = some processor)
    (right_found : state.streamProcessors.lookup right = some processor) : left = right :=
  (linked.registered left_found).1.symm.trans (linked.registered right_found).1

theorem lt_created (linked : Linked state) {thread processor : ℕ}
    (holds : state.pointer thread = some processor) : processor < state.created :=
  (linked.registered (linked.held holds)).2

/-- While the cleanup thread sleeps there is nothing to check or to erase. -/
theorem of_sleeping (cleaner_eq : state.cleaner = .sleeping)
    (registered : ∀ {streamId processor},
      state.streamProcessors.lookup streamId = some processor →
        (state.processors processor).streamId = streamId ∧ processor < state.created)
    (held : ∀ {thread processor}, state.pointer thread = some processor →
      state.streamProcessors.lookup (state.processors processor).streamId = some processor)
    (counted : ∀ {streamId processor},
      state.streamProcessors.lookup streamId = some processor →
        ∃ holders : Finset ℕ,
          (∀ thread, thread ∈ holders ↔ state.pointer thread = some processor) ∧
            (state.processors processor).useCount = holders.card + 1) : Linked state where
  registered := registered
  held := held
  counted := counted
  entries_eq checking := by
    rw [cleaner_eq] at checking
    contradiction
  removable _ member := by
    rw [streamsToRemove, cleaner_eq] at member
    contradiction

/-- A new processor is put into the map and held by its creator. -/
theorem created (linked : Linked state) {thread : ℕ} {streamId : UInt32}
    (idle : state.pointer thread = none)
    (absent : state.streamProcessors.lookup streamId = none)
    (map_eq : next.streamProcessors = state.streamProcessors.tryInsert streamId state.created)
    (created_eq : next.created = state.created + 1) (cleaner_eq : next.cleaner = .sleeping)
    (pointer_eq : next.pointer = Function.update state.pointer thread (some state.created))
    (processors_eq : next.processors =
      Function.update state.processors state.created (SharedProcessor.create streamId)) :
    Linked next := by
  have lookup_eq (other : UInt32) : next.streamProcessors.lookup other =
      if other = streamId then some state.created else state.streamProcessors.lookup other := by
    rw [map_eq, OrderedMap.lookup_tryInsert _ absent]
  have own : next.processors state.created = SharedProcessor.create streamId := by
    rw [processors_eq, Function.update_self]
  have others {processor : ℕ} (old : processor < state.created) :
      next.processors processor = state.processors processor := by
    rw [processors_eq, Function.update_of_ne old.ne]
  have kept {other : UInt32} {processor : ℕ}
      (found : state.streamProcessors.lookup other = some processor) :
      next.streamProcessors.lookup other = some processor := by
    rw [lookup_eq, if_neg, found]
    rintro rfl
    rw [absent] at found
    contradiction
  have found_cases {other : UInt32} {processor : ℕ}
      (found : next.streamProcessors.lookup other = some processor) :
      (other = streamId ∧ processor = state.created) ∨
        state.streamProcessors.lookup other = some processor := by
    rw [lookup_eq] at found
    split at found
    · exact Or.inl ⟨‹_›, (Option.some.inj found).symm⟩
    · exact Or.inr found
  refine of_sleeping cleaner_eq (fun found => ?_) (fun {other processor} holds => ?_)
    fun found => ?_
  · rcases found_cases found with ⟨rfl, rfl⟩ | old
    · rw [own, created_eq]
      exact ⟨rfl, Nat.lt_succ_self _⟩
    · obtain ⟨streamId_eq, below⟩ := linked.registered old
      rw [others below, created_eq]
      exact ⟨streamId_eq, Nat.lt_succ_of_lt below⟩
  · rw [pointer_eq] at holds
    rcases eq_or_ne other thread with rfl | different
    · rw [Function.update_self] at holds
      obtain rfl := Option.some.inj holds
      rw [own, lookup_eq]
      exact if_pos rfl
    · rw [Function.update_of_ne different] at holds
      rw [others (linked.lt_created holds)]
      exact kept (linked.held holds)
  · rcases found_cases found with ⟨rfl, rfl⟩ | old
    · refine ⟨{thread}, fun other => ?_, by rw [own]; rfl⟩
      rw [Finset.mem_singleton, pointer_eq]
      rcases eq_or_ne other thread with rfl | different
      · simp
      · rw [Function.update_of_ne different]
        refine iff_of_false different fun holds => ?_
        exact lt_irrefl _ (linked.lt_created holds)
    · have below := (linked.registered old).2
      obtain ⟨holders, mem_iff, count_eq⟩ := linked.counted old
      refine ⟨holders, fun other => ?_, by rw [others below, count_eq]⟩
      rw [mem_iff, pointer_eq]
      rcases eq_or_ne other thread with rfl | different
      · rw [Function.update_self, idle]
        simp [below.ne']
      · rw [Function.update_of_ne different]

/-- A thread copies the pointer of the map. -/
theorem shared (linked : Linked state) {thread processor : ℕ} {streamId : UInt32}
    (idle : state.pointer thread = none)
    (present : state.streamProcessors.lookup streamId = some processor)
    (map_eq : next.streamProcessors = state.streamProcessors)
    (created_eq : next.created = state.created) (cleaner_eq : next.cleaner = .sleeping)
    (pointer_eq : next.pointer = Function.update state.pointer thread (some processor))
    (processors_eq : next.processors =
      Function.update state.processors processor (state.processors processor).acquire) :
    Linked next := by
  have streamId_eq := streamId_update processors_eq rfl
  refine of_sleeping cleaner_eq (fun found => ?_) (fun {other held} holds => ?_)
    fun {other held} found => ?_
  · rw [map_eq] at found
    rw [streamId_eq, created_eq]
    exact linked.registered found
  · rw [map_eq, streamId_eq]
    rw [pointer_eq] at holds
    rcases eq_or_ne other thread with rfl | different
    · rw [Function.update_self] at holds
      obtain rfl := Option.some.inj holds
      rw [(linked.registered present).1, present]
    · rw [Function.update_of_ne different] at holds
      exact linked.held holds
  · rw [map_eq] at found
    obtain ⟨holders, mem_iff, count_eq⟩ := linked.counted found
    rw [processors_eq, pointer_eq]
    rcases eq_or_ne held processor with rfl | different
    · have fresh : thread ∉ holders := by simp [mem_iff, idle]
      refine ⟨insert thread holders, fun other => ?_, ?_⟩
      · rcases eq_or_ne other thread with rfl | elsewhere
        · simp
        · simp [elsewhere, mem_iff]
      · rw [Function.update_self, Finset.card_insert_of_notMem fresh, ← count_eq]
        rfl
    · refine ⟨holders, fun other => ?_, by rw [Function.update_of_ne different, count_eq]⟩
      rw [mem_iff]
      rcases eq_or_ne other thread with rfl | elsewhere
      · simp [idle, different.symm]
      · rw [Function.update_of_ne elsewhere]

/-- A thread drops its pointer. -/
theorem released (linked : Linked state) {thread processor : ℕ}
    (holds : state.pointer thread = some processor)
    (map_eq : next.streamProcessors = state.streamProcessors)
    (created_eq : next.created = state.created) (cleaner_eq : next.cleaner = state.cleaner)
    (pointer_eq : next.pointer = Function.update state.pointer thread none)
    (processors_eq : next.processors =
      Function.update state.processors processor (state.processors processor).release) :
    Linked next := by
  have streamId_eq := streamId_update processors_eq rfl
  refine ⟨fun found => ?_, fun {other held} still => ?_, fun {other held} found => ?_, ?_, ?_⟩
  · rw [map_eq] at found
    rw [streamId_eq, created_eq]
    exact linked.registered found
  · rw [map_eq, streamId_eq]
    rw [pointer_eq] at still
    rcases eq_or_ne other thread with rfl | different
    · rw [Function.update_self] at still
      contradiction
    · rw [Function.update_of_ne different] at still
      exact linked.held still
  · rw [map_eq] at found
    obtain ⟨holders, mem_iff, count_eq⟩ := linked.counted found
    rw [processors_eq, pointer_eq]
    rcases eq_or_ne held processor with rfl | different
    · have member : thread ∈ holders := (mem_iff thread).mpr holds
      have positive : 0 < holders.card := Finset.card_pos.mpr ⟨thread, member⟩
      refine ⟨holders.erase thread, fun other => ?_, ?_⟩
      · rcases eq_or_ne other thread with rfl | elsewhere
        · simp
        · simp [elsewhere, mem_iff]
      · rw [Function.update_self, Finset.card_erase_of_mem member, SharedProcessor.release]
        change (state.processors held).useCount - 1 = _
        omega
    · refine ⟨holders, fun other => ?_, by rw [Function.update_of_ne different, count_eq]⟩
      rw [mem_iff]
      rcases eq_or_ne other thread with rfl | elsewhere
      · simp [holds, different.symm]
      · rw [Function.update_of_ne elsewhere]
  · intro entries streams checking
    rw [cleaner_eq] at checking
    rw [map_eq]
    exact linked.entries_eq checking
  · intro other member erased found
    rw [map_eq] at found
    rw [streamsToRemove, cleaner_eq] at member
    have unique := linked.removable other member erased found
    rw [processors_eq, Function.update_of_ne, unique]
    rintro rfl
    exact linked.useCount_ne_one holds unique

/-- The cleanup thread moves on, with the map locked. -/
theorem of_cleaner (linked : Linked state) {cleaner : Cleaner}
    (entries_eq : ∀ {entries streams}, cleaner = .checking entries streams →
      ∀ entry ∈ entries, state.streamProcessors.lookup entry.1 = some entry.2)
    (removable : ∀ streamId ∈ { state with cleaner }.streamsToRemove, ∀ processor,
      state.streamProcessors.lookup streamId = some processor →
        (state.processors processor).useCount = 1) : Linked { state with cleaner } :=
  ⟨linked.registered, linked.held, linked.counted, entries_eq, removable⟩

/-- Only the state of one processor changes, and not its references. -/
theorem setProcessor (linked : Linked state) {processor : ℕ} {value : SharedProcessor}
    (streamId_eq : value.streamId = (state.processors processor).streamId)
    (useCount_eq : value.useCount = (state.processors processor).useCount) :
    Linked (state.setProcessor processor value) := by
  refine linked.of_same rfl rfl rfl (fun _ => rfl) fun other => ?_
  rcases eq_or_ne other processor with rfl | different
  · simp [StreamDispatch.setProcessor, streamId_eq, useCount_eq]
  · simp [StreamDispatch.setProcessor, Function.update_of_ne different]

/-- A call moves on, with the same pointer. -/
theorem setCall (linked : Linked state) {thread : ℕ} {call : Option DispatchCall}
    (same : state.pointer thread = call.bind DispatchCall.pointer) :
    Linked (state.setCall thread call) :=
  linked.of_same rfl rfl rfl (fun _ => by rw [pointer_setCall_same same]) fun _ => ⟨rfl, rfl⟩

/-- Only the map holds a processor that is being erased. -/
theorem useCount_of_erasing (linked : Linked state) {streamId : UInt32} {streams : List UInt32}
    {processor : ℕ} (erasing : state.cleaner = .erasing (streamId :: streams))
    (present : state.streamProcessors.lookup streamId = some processor) :
    (state.processors processor).useCount = 1 :=
  linked.removable streamId (by simp [streamsToRemove, erasing]) processor present

/-- A processor that only the map holds is erased. -/
theorem erased (linked : Linked state) {streamId : UInt32} {streams : List UInt32}
    {processor : ℕ} (erasing : state.cleaner = .erasing (streamId :: streams))
    (present : state.streamProcessors.lookup streamId = some processor)
    (map_eq : next.streamProcessors = state.streamProcessors.erase streamId)
    (created_eq : next.created = state.created) (pointer_eq : next.pointer = state.pointer)
    (processors_eq : next.processors =
      Function.update state.processors processor (state.processors processor).release)
    (cleaner_eq : next.cleaner = .destroying streams processor) : Linked next := by
  have unique := linked.useCount_of_erasing erasing present
  have kept {other : UInt32} {found : ℕ}
      (still : next.streamProcessors.lookup other = some found) :
      other ≠ streamId ∧ state.streamProcessors.lookup other = some found := by
    rw [map_eq, OrderedMap.lookup_erase] at still
    split at still
    · contradiction
    · exact ⟨‹_›, still⟩
  have others {other : UInt32} {found : ℕ}
      (still : next.streamProcessors.lookup other = some found) :
      next.processors found = state.processors found := by
    rw [processors_eq, Function.update_of_ne]
    rintro rfl
    exact (kept still).1 (linked.lookup_unique (kept still).2 present)
  refine ⟨fun found => ?_, fun {thread held} holds => ?_, fun found => ?_, ?_, ?_⟩
  · rw [others found, created_eq]
    exact linked.registered (kept found).2
  · rw [pointer_eq] at holds
    have found := linked.held holds
    have different : held ≠ processor := by
      rintro rfl
      exact linked.pointer_ne present unique thread holds
    rw [processors_eq, Function.update_of_ne different, map_eq, OrderedMap.lookup_erase, if_neg,
      found]
    intro same
    rw [same, present] at found
    exact different (Option.some.inj found).symm
  · rw [others found, pointer_eq]
    exact linked.counted (kept found).2
  · intro entries streams checking
    rw [cleaner_eq] at checking
    contradiction
  · intro other member found still
    rw [others still]
    apply linked.removable other ?_ found (kept still).2
    rw [streamsToRemove, cleaner_eq] at member
    simp [streamsToRemove, erasing, member]

/-- Every step keeps the map and the reference counts in agreement. -/
theorem step {enableChecksum : Bool} {callbacks : Callbacks} {clients : ClientSet} {event : Event}
    (linked : Linked state) (stepped : Step enableChecksum callbacks clients state event next) :
    Linked next := by
  cases stepped with
  | ignored idle absent => exact linked
  | @received thread client data idle present =>
      have appended : Linked { state with
          clientBuffers := Function.update state.clientBuffers client
            (receiveChunk (state.clientBuffers client) data).2 } :=
        linked.of_same rfl rfl rfl (fun _ => rfl) fun _ => ⟨rfl, rfl⟩
      refine appended.setCall ?_
      rw [pointer_next]
      simp [pointer, idle]
  | created unlocked finding absent =>
      exact linked.created (pointer_of_call finding) absent rfl rfl unlocked
        (pointer_setCall _ _ _) rfl
  | shared unlocked finding present =>
      exact linked.shared (pointer_of_call finding) present rfl rfl unlocked
        (pointer_setCall _ _ _) rfl
  | added found =>
      refine (linked.setProcessor ?_ ?_).setCall ?_
      · rfl
      · rfl
      · exact pointer_of_call found
  | released added =>
      have holds := pointer_of_call added
      rw [if_neg (linked.useCount_ne_one holds)]
      refine linked.released holds ?_ ?_ ?_ ?_ ?_
      · rfl
      · rfl
      · rfl
      · rw [pointer_setCall, pointer_next]
        rfl
      · rfl
  | joinedReleased destroying moves =>
      refine (linked.setProcessor moves.streamId_eq moves.useCount_eq).setCall ?_
      rw [pointer_next]
      exact pointer_of_call destroying
  | moved own moves => exact linked.setProcessor moves.streamId_eq moves.useCount_eq
  | @processed processor frame holding =>
      have finished : Linked (state.setProcessor processor
          ((state.processors processor).finishFrame frame)) := linked.setProcessor rfl rfl
      exact finished.of_same rfl rfl rfl (fun _ => rfl) fun _ => ⟨rfl, rfl⟩
  | locked unlocked =>
      refine linked.of_cleaner ?_ ?_
      · intro entries streams checking entry member
        obtain ⟨rfl, rfl⟩ := Cleaner.checking.inj checking
        exact (OrderedMap.lookup_eq_some_iff _).mpr member
      · intro streamId member
        exact absurd member List.not_mem_nil
  | checkEnded checking =>
      refine linked.of_cleaner nofun fun streamId member => ?_
      exact linked.removable streamId (by simpa [streamsToRemove, checking] using member)
  | @checked entry entries streams checking =>
      have listed := linked.entries_eq checking
      refine linked.of_cleaner ?_ ?_
      · intro later streams checking entry member
        obtain ⟨rfl, rfl⟩ := Cleaner.checking.inj checking
        exact listed entry (List.mem_cons_of_mem _ member)
      · intro streamId member processor found
        have earlier := linked.removable streamId
        simp only [streamsToRemove, checking] at earlier member
        split at member
        · rename_i unique
          rcases List.mem_append.mp member with old | new
          · exact earlier old processor found
          · obtain rfl := List.mem_singleton.mp new
            rw [listed entry List.mem_cons_self] at found
            rw [← Option.some.inj found, unique]
        · exact earlier member processor found
  | unlocked erasing =>
      refine linked.of_cleaner nofun fun streamId member => ?_
      exact absurd member List.not_mem_nil
  | missing erasing absent =>
      refine linked.of_cleaner nofun fun streamId member => ?_
      apply linked.removable streamId
      simpa [streamsToRemove, erasing] using Or.inr member
  | erased erasing present =>
      refine linked.erased erasing present ?_ ?_ ?_ ?_ ?_
      · rfl
      · rfl
      · rfl
      · rfl
      · exact if_pos (linked.useCount_of_erasing erasing present)
  | @joinedErased streams processor value destroying moves =>
      have moved : Linked { state with cleaner := .erasing streams } := by
        refine linked.of_cleaner ?_ fun streamId member => ?_
        · nofun
        · exact linked.removable streamId (by simpa [streamsToRemove, destroying] using member)
      exact moved.setProcessor moves.streamId_eq moves.useCount_eq

end Linked

theorem linked_of_reaches {enableChecksum : Bool} {callbacks : Callbacks} {clients : ClientSet}
    {trace : List Event} {state : StreamDispatch}
    (reached : (dispatch enableChecksum callbacks clients).Reaches trace state) : Linked state :=
  reached.invariant (motive := fun _ state => Linked state) Linked.initial
    fun _ linked stepped => linked.step (step_of_eq_some stepped)

end StreamDispatch
end FramedTcp
