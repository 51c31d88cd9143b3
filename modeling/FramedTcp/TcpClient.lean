import FramedTcp.EventSystem
import FramedTcp.FrameParser
import Mathlib.Data.List.TakeWhile

/-!
# The client's calls and their responses

`TcpClient` from `connect` on.  The threads that call `sendAndWaitResponse`, the read thread and
`disconnect` interleave; each event is one critical section or one system call of one of them.
Calls are numbered in the order in which they draw their stream identifiers.
-/

namespace FramedTcp

open PrefixDecoding EventSystems FrameParser

namespace TcpClient

/-- How far a call of `sendAndWaitResponse` has come. -/
inductive Phase
  /-- The stream identifier is drawn. -/
  | allocated
  /-- The response handler is registered. -/
  | registered
  /-- `write` holds the write lock. -/
  | writing
  /-- `write` has returned `false`. -/
  | writeFailed
  /-- `write` has returned `true`. -/
  | waiting
  /-- `wait_for` has timed out. -/
  | timedOut
  /-- The call has returned its response, or `false`. -/
  | returned (response : Option (List UInt8))
  deriving DecidableEq

/-- One call of `sendAndWaitResponse`. -/
structure Call where
  /-- The payload to send. -/
  payload : List UInt8
  /-- The stream identifier drawn. -/
  streamId : Int32
  /-- Bytes of the request that `write` has sent. -/
  totalSent : ℕ := 0
  /-- The value of the promise, once it is set. -/
  promise : Option (List UInt8) := none
  /-- Progress of the call. -/
  phase : Phase := .allocated

/-- The request frame of a call. -/
def Call.request (call : Call) : Frame := Frame.create call.streamId.toUInt32 1 call.payload

/-- Has the call not returned yet? -/
def Call.Live (call : Call) : Prop := ∀ response, call.phase ≠ .returned response

/-- Steps of the client; calls are named by their numbers. -/
inductive Event
  | call (payload : List UInt8)
  | register (call : ℕ)
  | lockWrite (call : ℕ)
  | send (call count : ℕ)
  | sendInterrupted (call : ℕ)
  | sendFailed (call : ℕ)
  | writeDone (call : ℕ)
  | eraseFailed (call : ℕ)
  | timeout (call : ℕ)
  | eraseTimedOut (call : ℕ)
  | get (call : ℕ)
  | recv (chunk : List UInt8)
  | dispatch (frame : Frame)
  | stopReading
  | disconnect
  | clear
  deriving DecidableEq

end TcpClient

open TcpClient in
/-- A connected client; `transmitted` and `completions` record the bytes sent and the frames that
have completed a call. -/
structure TcpClient where
  /-- Is the socket open? -/
  socket : Bool := true
  /-- The flag `running_`. -/
  running : Bool := true
  /-- Is the read thread still running? -/
  reading : Bool := true
  /-- The next stream identifier. -/
  nextStreamId : Int32 := 0
  /-- The call whose promise the handler of a stream identifier sets. -/
  responseHandlers : Int32 → Option ℕ := fun _ => none
  /-- The call that holds the write lock. -/
  writeMutex : Option ℕ := none
  /-- Received bytes not yet parsed. -/
  frameBuffer : List UInt8 := []
  /-- Frames the read thread still has to handle. -/
  frames : List Frame := []
  /-- All calls so far. -/
  calls : List Call := []
  /-- Has an exception left the read thread? -/
  terminated : Bool := false
  /-- All bytes accepted by `send`. -/
  transmitted : List UInt8 := []
  /-- The frames whose payloads promises were set to. -/
  completions : List Frame := []

namespace TcpClient

/-- Move one call to another phase. -/
def setPhase (client : TcpClient) (number : ℕ) (phase : Phase) : TcpClient :=
  { client with calls := client.calls.modify number fun call => { call with phase } }

/-- A step of a call that has come to a given phase. -/
def callStep (client : TcpClient) (number : ℕ) (phase : Phase)
    (next : Call → Option TcpClient) : Option TcpClient :=
  match client.calls[number]? with
  | some call => if call.phase = phase then next call else none
  | none => none

/-- `getNextStreamId`, and the promise of the new call. -/
def getNextStreamId (client : TcpClient) (payload : List UInt8) : TcpClient :=
  { client with
    nextStreamId := client.nextStreamId + 1
    calls := client.calls ++ [{ payload, streamId := client.nextStreamId }] }

/-- Set the handler of a stream identifier. -/
def setHandler (client : TcpClient) (streamId : Int32) (handler : Option ℕ) : TcpClient :=
  { client with responseHandlers := Function.update client.responseHandlers streamId handler }

/-- Take or release the write lock. -/
def holdLock (client : TcpClient) (holder : Option ℕ) : TcpClient :=
  { client with writeMutex := holder }

/-- `send` has accepted some bytes of a call's request. -/
def transmit (client : TcpClient) (number : ℕ) (data : List UInt8) : TcpClient :=
  { client with
    calls := client.calls.modify number fun call =>
      { call with totalSent := call.totalSent + data.length }
    transmitted := client.transmitted ++ data }

/-- The promise of a call is set to the payload of a frame. -/
def complete (client : TcpClient) (number : ℕ) (frame : Frame) : TcpClient :=
  { client with
    calls := client.calls.modify number fun call => { call with promise := some frame.payload }
    completions := client.completions ++ [frame] }

/-- `set_value` on the promise of a call; a promise that is set already throws. -/
def setValue (client : TcpClient) (number : ℕ) (frame : Frame) : Option TcpClient :=
  match client.calls[number]? with
  | some call =>
      if call.promise = none then some (client.complete number frame) else none
  | none => none

/-- The body of the read thread's loop over the parsed frames. -/
def handleFrame (client : TcpClient) (frame : Frame) : TcpClient :=
  match client.responseHandlers frame.streamId.toInt32 with
  | some number =>
      match client.setValue number frame with
      | some next => next.setHandler frame.streamId.toInt32 none
      | none => { client with terminated := true }
  | none => client

/-- One step of a client whose process still runs. -/
def stepAlive (enableChecksum : Bool) (client : TcpClient) : Event → Option TcpClient
  | .call payload => some (client.getNextStreamId payload)
  | .register number => client.callStep number .allocated fun call =>
      some ((client.setPhase number .registered).setHandler call.streamId (some number))
  | .lockWrite number => client.callStep number .registered fun _ =>
      if client.writeMutex = none then
        some ((client.setPhase number .writing).holdLock (some number))
      else
        none
  | .send number count => client.callStep number .writing fun call =>
      let data := call.request.serialize enableChecksum
      if client.socket ∧ 0 < count ∧ call.totalSent + count ≤ data.length then
        some (client.transmit number ((data.drop call.totalSent).take count))
      else
        none
  | .sendInterrupted number => client.callStep number .writing fun _ => some client
  | .sendFailed number => client.callStep number .writing fun _ =>
      some ((client.setPhase number .writeFailed).holdLock none)
  | .writeDone number => client.callStep number .writing fun call =>
      if call.totalSent = (call.request.serialize enableChecksum).length then
        some ((client.setPhase number .waiting).holdLock none)
      else
        none
  | .eraseFailed number => client.callStep number .writeFailed fun call =>
      some ((client.setPhase number (.returned none)).setHandler call.streamId none)
  | .timeout number => client.callStep number .waiting fun call =>
      if call.promise = none then some (client.setPhase number .timedOut) else none
  | .eraseTimedOut number => client.callStep number .timedOut fun call =>
      some ((client.setPhase number (.returned none)).setHandler call.streamId none)
  | .get number => client.callStep number .waiting fun call =>
      match call.promise with
      | some response => some (client.setPhase number (.returned (some response)))
      | none => none
  | .recv chunk =>
      if client.reading ∧ client.frames = [] ∧ chunk ≠ [] then
        let round := receiveChunk client.frameBuffer chunk
        some { client with
          frames := round.1
          frameBuffer := round.2 }
      else
        none
  | .dispatch frame =>
      match client.frames with
      | next :: frames =>
          if next = frame then some ({ client with frames }.handleFrame frame) else none
      | [] => none
  | .stopReading =>
      if client.reading ∧ client.frames = [] then some { client with reading := false } else none
  | .disconnect =>
      some { client with
        running := false
        socket := false }
  | .clear =>
      if client.running = false ∧ client.reading = false then
        some { client with responseHandlers := fun _ => none }
      else
        none

/-- The client as an event system; an exception in the read thread ends the process. -/
def system (enableChecksum : Bool) : EventSystem TcpClient Event where
  init := {}
  step client event := if client.terminated then none else client.stepAlive enableChecksum event

theorem callStep_eq_some_iff {client result : TcpClient} {number : ℕ} {phase : Phase}
    {next : Call → Option TcpClient} :
    client.callStep number phase next = some result ↔
      ∃ call, client.calls[number]? = some call ∧ call.phase = phase ∧ next call = some result := by
  unfold callStep
  cases client.calls[number]? with
  | none => simp
  | some call => simp

/-- Handling a frame does nothing, answers a call, or throws. -/
theorem handleFrame_cases (client : TcpClient) (frame : Frame) :
    (client.responseHandlers frame.streamId.toInt32 = none ∧
        client.handleFrame frame = client) ∨
      (∃ number, client.responseHandlers frame.streamId.toInt32 = some number ∧
        client.handleFrame frame =
          (client.complete number frame).setHandler frame.streamId.toInt32 none) ∨
      client.responseHandlers frame.streamId.toInt32 ≠ none ∧
        client.handleFrame frame = { client with terminated := true } := by
  cases handler : client.responseHandlers frame.streamId.toInt32 with
  | none => simp [handleFrame, handler]
  | some number =>
      right
      cases found : client.calls[number]? with
      | none => simp [handleFrame, handler, setValue, found]
      | some call =>
          by_cases unanswered : call.promise = none <;>
            simp [handleFrame, handler, setValue, found, unanswered]

/-- What a step does, and when it is possible. -/
inductive Step (enableChecksum : Bool) (client : TcpClient) : Event → TcpClient → Prop
  | call (payload : List UInt8) :
      Step enableChecksum client (.call payload) (client.getNextStreamId payload)
  | register {number : ℕ} {call : Call} (found : client.calls[number]? = some call)
      (phase : call.phase = .allocated) :
      Step enableChecksum client (.register number)
        ((client.setPhase number .registered).setHandler call.streamId (some number))
  | lockWrite {number : ℕ} {call : Call} (found : client.calls[number]? = some call)
      (phase : call.phase = .registered) (free : client.writeMutex = none) :
      Step enableChecksum client (.lockWrite number)
        ((client.setPhase number .writing).holdLock (some number))
  | send {number count : ℕ} {call : Call} (found : client.calls[number]? = some call)
      (phase : call.phase = .writing) (connected : client.socket = true) (positive : 0 < count)
      (inside : call.totalSent + count ≤ (call.request.serialize enableChecksum).length) :
      Step enableChecksum client (.send number count)
        (client.transmit number
          (((call.request.serialize enableChecksum).drop call.totalSent).take count))
  | sendInterrupted {number : ℕ} {call : Call} (found : client.calls[number]? = some call)
      (phase : call.phase = .writing) : Step enableChecksum client (.sendInterrupted number) client
  | sendFailed {number : ℕ} {call : Call} (found : client.calls[number]? = some call)
      (phase : call.phase = .writing) :
      Step enableChecksum client (.sendFailed number)
        ((client.setPhase number .writeFailed).holdLock none)
  | writeDone {number : ℕ} {call : Call} (found : client.calls[number]? = some call)
      (phase : call.phase = .writing)
      (all_sent : call.totalSent = (call.request.serialize enableChecksum).length) :
      Step enableChecksum client (.writeDone number)
        ((client.setPhase number .waiting).holdLock none)
  | eraseFailed {number : ℕ} {call : Call} (found : client.calls[number]? = some call)
      (phase : call.phase = .writeFailed) :
      Step enableChecksum client (.eraseFailed number)
        ((client.setPhase number (.returned none)).setHandler call.streamId none)
  | timeout {number : ℕ} {call : Call} (found : client.calls[number]? = some call)
      (phase : call.phase = .waiting) (unanswered : call.promise = none) :
      Step enableChecksum client (.timeout number) (client.setPhase number .timedOut)
  | eraseTimedOut {number : ℕ} {call : Call} (found : client.calls[number]? = some call)
      (phase : call.phase = .timedOut) :
      Step enableChecksum client (.eraseTimedOut number)
        ((client.setPhase number (.returned none)).setHandler call.streamId none)
  | get {number : ℕ} {call : Call} {response : List UInt8}
      (found : client.calls[number]? = some call) (phase : call.phase = .waiting)
      (answered : call.promise = some response) :
      Step enableChecksum client (.get number)
        (client.setPhase number (.returned (some response)))
  | recv {chunk : List UInt8} (reading : client.reading = true) (handled : client.frames = [])
      (nonempty : chunk ≠ []) :
      Step enableChecksum client (.recv chunk)
        { client with
          frames := (receiveChunk client.frameBuffer chunk).1
          frameBuffer := (receiveChunk client.frameBuffer chunk).2 }
  | dispatch {frame : Frame} {frames : List Frame} (next : client.frames = frame :: frames) :
      Step enableChecksum client (.dispatch frame) ({ client with frames }.handleFrame frame)
  | stopReading (reading : client.reading = true) (handled : client.frames = []) :
      Step enableChecksum client .stopReading { client with reading := false }
  | disconnect :
      Step enableChecksum client .disconnect
        { client with
          running := false
          socket := false }
  | clear (stopped : client.running = false) (joined : client.reading = false) :
      Step enableChecksum client .clear { client with responseHandlers := fun _ => none }

theorem step_of_eq_some {enableChecksum : Bool} {client next : TcpClient} {event : Event}
    (stepped : (system enableChecksum).step client event = some next) :
    Step enableChecksum client event next := by
  replace stepped : client.stepAlive enableChecksum event = some next := by
    simp only [system] at stepped
    split at stepped
    · contradiction
    · exact stepped
  cases event <;> simp only [stepAlive, callStep_eq_some_iff, Option.ite_none_right_eq_some,
    Option.some.injEq] at stepped
  case call payload => exact stepped ▸ .call payload
  case register number =>
    obtain ⟨call, found, phase, rfl⟩ := stepped
    exact .register found phase
  case lockWrite number =>
    obtain ⟨call, found, phase, free, rfl⟩ := stepped
    exact .lockWrite found phase free
  case send number count =>
    obtain ⟨call, found, phase, ⟨connected, positive, inside⟩, rfl⟩ := stepped
    exact .send found phase connected positive inside
  case sendInterrupted number =>
    obtain ⟨call, found, phase, rfl⟩ := stepped
    exact .sendInterrupted found phase
  case sendFailed number =>
    obtain ⟨call, found, phase, rfl⟩ := stepped
    exact .sendFailed found phase
  case writeDone number =>
    obtain ⟨call, found, phase, all_sent, rfl⟩ := stepped
    exact .writeDone found phase all_sent
  case eraseFailed number =>
    obtain ⟨call, found, phase, rfl⟩ := stepped
    exact .eraseFailed found phase
  case timeout number =>
    obtain ⟨call, found, phase, unanswered, rfl⟩ := stepped
    exact .timeout found phase unanswered
  case eraseTimedOut number =>
    obtain ⟨call, found, phase, rfl⟩ := stepped
    exact .eraseTimedOut found phase
  case get number =>
    obtain ⟨call, found, phase, result⟩ := stepped
    split at result
    · rename_i response answered
      obtain rfl := Option.some.inj result
      exact .get found phase answered
    · contradiction
  case recv chunk =>
    obtain ⟨⟨reading, handled, nonempty⟩, rfl⟩ := stepped
    exact .recv reading handled nonempty
  case dispatch frame =>
    split at stepped
    · rename_i head frames next
      simp only [Option.ite_none_right_eq_some, Option.some.injEq] at stepped
      obtain ⟨rfl, rfl⟩ := stepped
      exact .dispatch next
    · contradiction
  case stopReading =>
    obtain ⟨⟨reading, handled⟩, rfl⟩ := stepped
    exact .stopReading reading handled
  case disconnect => exact stepped ▸ .disconnect
  case clear =>
    obtain ⟨⟨stopped, joined⟩, rfl⟩ := stepped
    exact .clear stopped joined

/-! ## Histories of a call -/

/-- The frame handled by an event. -/
def Event.handled? : Event → Option Frame
  | .dispatch frame => some frame
  | _ => none

/-- The events from a call's registration on. -/
def since (number : ℕ) (trace : List Event) : List Event :=
  trace.dropWhile (· ≠ .register number)

/-- The frames handled after a call's registration. -/
def handledSince (number : ℕ) (trace : List Event) : List Frame :=
  (since number trace).filterMap Event.handled?

/-- The events that answer, time out, fail or clear a registered call.  A call that fails to write
or times out is closed by the critical section that erases its handler. -/
def Event.Closes (number : ℕ) (streamId : Int32) : Event → Prop
  | .eraseFailed other => other = number
  | .eraseTimedOut other => other = number
  | .dispatch frame => frame.streamId = streamId.toUInt32
  | .clear => True
  | _ => False

/-- The call has registered and has not been answered, timed out, failed or cleared since. -/
def Outstanding (trace : List Event) (number : ℕ) (streamId : Int32) : Prop :=
  Event.register number ∈ trace ∧ ∀ event ∈ since number trace, ¬ event.Closes number streamId

theorem since_eq_nil {number : ℕ} {trace : List Event}
    (unregistered : Event.register number ∉ trace) : since number trace = [] := by
  simp only [since, List.dropWhile_eq_nil_iff]
  intro event member
  simpa using fun equality : event = Event.register number => unregistered (equality ▸ member)

theorem since_concat {number : ℕ} {trace : List Event}
    (registered : Event.register number ∈ trace) (event : Event) :
    since number (trace ++ [event]) = since number trace ++ [event] := by
  rw [since, List.dropWhile_append, if_neg]
  · rfl
  · simp only [List.isEmpty_iff, List.dropWhile_eq_nil_iff]
    intro never
    simpa using never _ registered

theorem since_register {number : ℕ} {trace : List Event}
    (unregistered : Event.register number ∉ trace) :
    since number (trace ++ [.register number]) = [.register number] := by
  have nothing := since_eq_nil unregistered
  rw [since] at nothing
  rw [since, List.dropWhile_append, nothing]
  simp

/-- An outstanding call stays so until it is closed; a registration makes a call outstanding. -/
theorem outstanding_concat {trace : List Event} {event : Event} {number : ℕ} {streamId : Int32} :
    Outstanding (trace ++ [event]) number streamId ↔
      (Outstanding trace number streamId ∧ ¬ event.Closes number streamId) ∨
        (event = .register number ∧ Event.register number ∉ trace) := by
  by_cases registered : Event.register number ∈ trace
  · simp only [Outstanding, List.mem_append, registered, true_or, true_and, since_concat registered,
      List.mem_singleton, not_true_eq_false, and_false, or_false]
    constructor
    · intro unclosed
      exact ⟨fun earlier member => unclosed earlier (Or.inl member), unclosed event (Or.inr rfl)⟩
    · rintro ⟨unclosed, last⟩ earlier (member | rfl)
      · exact unclosed earlier member
      · exact last
  · by_cases new : event = .register number
    · subst new
      simp [Outstanding, registered, since_register registered, Event.Closes]
    · simp [Outstanding, registered, new, Ne.symm new]

theorem mem_since_of_handled {number : ℕ} {trace : List Event} {frame : Frame}
    (member : frame ∈ handledSince number trace) : .dispatch frame ∈ since number trace := by
  obtain ⟨event, event_member, handled⟩ := List.mem_filterMap.mp member
  cases event with
  | dispatch other =>
      obtain rfl := Option.some.inj handled
      exact event_member
  | _ => contradiction

/-! ## The correlation invariant -/

/-- What the history says about one call. -/
structure CallConsistent (trace : List Event) (number : ℕ) (call : Call) : Prop where
  streamId_eq : call.streamId = Int32.ofNat number
  registered_iff : Event.register number ∈ trace ↔ call.phase ≠ .allocated
  answered : ∀ response, call.promise = some response → ∃ frame,
    (handledSince number trace).find? (fun frame => frame.streamId = call.streamId.toUInt32) =
      some frame ∧ frame.payload = response
  returned : ∀ response, call.phase = .returned (some response) → call.promise = some response
  closed : call.phase = .returned none →
    ∃ event ∈ since number trace, event.Closes number call.streamId

theorem CallConsistent.concat {trace : List Event} {number : ℕ} {call : Call}
    (consistent : CallConsistent trace number call) {event : Event}
    (other : event ≠ .register number) : CallConsistent (trace ++ [event]) number call := by
  refine ⟨consistent.streamId_eq, ?_, ?_, consistent.returned, ?_⟩
  · rw [← consistent.registered_iff]
    simp [Ne.symm other]
  · intro response promise
    obtain ⟨frame, found, payload_eq⟩ := consistent.answered response promise
    have registered : Event.register number ∈ trace := by
      by_contra unregistered
      simp [handledSince, since_eq_nil unregistered] at found
    refine ⟨frame, ?_, payload_eq⟩
    rw [handledSince, since_concat registered, List.filterMap_append, List.find?_append, ←
      handledSince, found, Option.some_or]
  · intro phase
    obtain ⟨closing, member, closes⟩ := consistent.closed phase
    have registered : Event.register number ∈ trace := by
      by_contra unregistered
      simp [since_eq_nil unregistered] at member
    refine ⟨closing, ?_, closes⟩
    rw [since_concat registered]
    exact List.mem_append_left _ member

/-- An outstanding call has no response yet. -/
theorem CallConsistent.promise_eq_none {trace : List Event} {number : ℕ} {call : Call}
    (consistent : CallConsistent trace number call)
    (outstanding : Outstanding trace number call.streamId) : call.promise = none := by
  by_contra answered
  obtain ⟨response, promise⟩ := Option.ne_none_iff_exists'.mp answered
  obtain ⟨frame, found, -⟩ := consistent.answered response promise
  have matching : frame.streamId = call.streamId.toUInt32 := by
    simpa using List.find?_some found
  exact outstanding.2 _ (mem_since_of_handled (List.mem_of_find?_eq_some found)) matching

theorem CallConsistent.live {trace : List Event} {number : ℕ} {call : Call}
    (consistent : CallConsistent trace number call)
    (outstanding : Outstanding trace number call.streamId) : call.Live := by
  rintro (_ | response) phase
  · obtain ⟨event, member, closes⟩ := consistent.closed phase
    exact outstanding.2 event member closes
  · have unanswered := consistent.promise_eq_none outstanding
    rw [consistent.returned response phase] at unanswered
    contradiction

/-- The handlers, the promises and the calls agree with the history. -/
structure Consistent (trace : List Event) (client : TcpClient) : Prop where
  terminated_eq : client.terminated = false
  nextStreamId_eq : client.nextStreamId = Int32.ofNat client.calls.length
  fresh : ∀ number, client.calls.length ≤ number → Event.register number ∉ trace
  calls : ∀ number call, client.calls[number]? = some call → CallConsistent trace number call
  handlers : ∀ streamId number, client.responseHandlers streamId = some number ↔
    streamId = Int32.ofNat number ∧ Outstanding trace number streamId

/-- During the lifetime of a call fewer than `2 ^ 32` further identifiers are drawn. -/
def LifetimesBounded (client : TcpClient) : Prop :=
  ∀ number call, client.calls[number]? = some call → call.Live →
    client.calls.length ≤ number + 2 ^ 32

/-- Stream identifiers are drawn again after `2 ^ 32` others only. -/
theorem eq_of_streamId_eq {left right : ℕ} (same : Int32.ofNat left = Int32.ofNat right)
    (left_near : left < right + 2 ^ 32) (right_near : right < left + 2 ^ 32) : left = right := by
  have residues := congrArg (fun streamId : Int32 => streamId.toUInt32.toNat) same
  simp only [Int32.toUInt32_ofNat', UInt32.toNat_ofNat'] at residues
  omega

theorem toInt32_eq_iff {word : UInt32} {streamId : Int32} :
    word.toInt32 = streamId ↔ word = streamId.toUInt32 := by
  constructor
  · rintro rfl
    simp
  · rintro rfl
    simp

theorem getElem?_modify_eq_some {calls : List Call} {number other : ℕ} {change : Call → Call}
    {result : Call} :
    (calls.modify number change)[other]? = some result ↔
      ∃ call, calls[other]? = some call ∧
        result = if number = other then change call else call := by
  simp [List.getElem?_modify, eq_comm]

namespace Consistent

variable {trace : List Event} {client next : TcpClient}

/-- An outstanding call is among the client's calls, and live. -/
theorem live (consistent : Consistent trace client) {number : ℕ}
    (outstanding : Outstanding trace number (Int32.ofNat number)) :
    ∃ call, client.calls[number]? = some call ∧ call.Live := by
  have inside : number < client.calls.length := by
    by_contra outside
    exact consistent.fresh number (Nat.le_of_not_lt outside) outstanding.1
  have found := List.getElem?_eq_getElem inside
  have own := consistent.calls number _ found
  exact ⟨_, found, own.live (own.streamId_eq ▸ outstanding)⟩

/-- While a call is live, no other call is outstanding under its stream identifier. -/
theorem eq_of_outstanding (consistent : Consistent trace client) (bounded : client.LifetimesBounded)
    {number other : ℕ} {call : Call} (found : client.calls[number]? = some call)
    (live : call.Live) (outstanding : Outstanding trace other call.streamId)
    (same : call.streamId = Int32.ofNat other) : number = other := by
  obtain ⟨otherCall, other_found, other_live⟩ := consistent.live (same ▸ outstanding)
  have inside := (List.getElem?_eq_some_iff.mp found).1
  have other_inside := (List.getElem?_eq_some_iff.mp other_found).1
  exact eq_of_streamId_eq ((consistent.calls number call found).streamId_eq.symm.trans same)
    (inside.trans_le (bounded other otherCall other_found other_live))
    (other_inside.trans_le (bounded number call found live))

/-- Only an existing call can register. -/
theorem fresh_concat (consistent : Consistent trace client) {event : Event}
    (length_eq : next.calls.length = client.calls.length)
    (existing : ∀ number, event = .register number → number < client.calls.length) :
    ∀ number, next.calls.length ≤ number → Event.register number ∉ trace ++ [event] := by
  intro number outside member
  rw [length_eq] at outside
  rcases List.mem_append.mp member with earlier | new
  · exact consistent.fresh number outside earlier
  · exact absurd (existing number (List.mem_singleton.mp new).symm) (Nat.not_lt.mpr outside)

/-- An event changes one call; it registers no other one. -/
theorem calls_modify (consistent : Consistent trace client) {event : Event} {number : ℕ}
    {change : Call → Call} (calls_eq : next.calls = client.calls.modify number change)
    (not_register : ∀ other, number ≠ other → event ≠ .register other)
    (changed : ∀ call, client.calls[number]? = some call →
      CallConsistent (trace ++ [event]) number (change call)) :
    ∀ other call, next.calls[other]? = some call →
      CallConsistent (trace ++ [event]) other call := by
  intro other result found
  rw [calls_eq, getElem?_modify_eq_some] at found
  obtain ⟨before, found, rfl⟩ := found
  split
  · rename_i equality
    subst equality
    exact changed before found
  · rename_i different
    exact (consistent.calls other before found).concat (not_register other different)

end Consistent

/-- The event registers no call and closes none. -/
def Event.Quiet (event : Event) : Prop :=
  ∀ number streamId, event ≠ .register number ∧ ¬ event.Closes number streamId

theorem outstanding_concat_of_quiet {trace : List Event} {event : Event} (quiet : event.Quiet)
    {number : ℕ} {streamId : Int32} :
    Outstanding (trace ++ [event]) number streamId ↔ Outstanding trace number streamId := by
  obtain ⟨not_register, open_still⟩ := quiet number streamId
  simp [outstanding_concat, not_register, open_still]

namespace Consistent

variable {trace : List Event} {client next : TcpClient}

/-- A quiet event that changes one call only. -/
theorem modify (consistent : Consistent trace client) {event : Event} (quiet : event.Quiet)
    (terminated_eq : next.terminated = client.terminated)
    (nextStreamId_eq : next.nextStreamId = client.nextStreamId)
    (handlers_eq : next.responseHandlers = client.responseHandlers) {number : ℕ}
    {change : Call → Call} (calls_eq : next.calls = client.calls.modify number change)
    (changed : ∀ call, client.calls[number]? = some call →
      CallConsistent (trace ++ [event]) number (change call)) :
    Consistent (trace ++ [event]) next := by
  refine ⟨terminated_eq.trans consistent.terminated_eq, ?_, consistent.fresh_concat ?_ ?_,
    consistent.calls_modify calls_eq (fun other _ => (quiet other 0).1) changed, ?_⟩
  · rw [nextStreamId_eq, consistent.nextStreamId_eq, calls_eq, List.length_modify]
  · rw [calls_eq, List.length_modify]
  · exact fun other equality => absurd equality (quiet other 0).1
  · intro streamId other
    rw [handlers_eq, consistent.handlers, outstanding_concat_of_quiet quiet]

/-- A quiet event that changes no call. -/
theorem rest (consistent : Consistent trace client) {event : Event} (quiet : event.Quiet)
    (terminated_eq : next.terminated = client.terminated)
    (nextStreamId_eq : next.nextStreamId = client.nextStreamId)
    (handlers_eq : next.responseHandlers = client.responseHandlers)
    (calls_eq : next.calls = client.calls) : Consistent (trace ++ [event]) next := by
  have unchanged : next.calls = client.calls.modify 0 id := by simp [calls_eq]
  exact consistent.modify quiet terminated_eq nextStreamId_eq handlers_eq unchanged
    fun call found => (consistent.calls 0 call found).concat (quiet 0 0).1

/-- A call moves on between its registration and its return. -/
theorem setPhase (consistent : Consistent trace client) {event : Event} (quiet : event.Quiet)
    (terminated_eq : next.terminated = client.terminated)
    (nextStreamId_eq : next.nextStreamId = client.nextStreamId)
    (handlers_eq : next.responseHandlers = client.responseHandlers) {number : ℕ} {call : Call}
    (found : client.calls[number]? = some call) (registered : call.phase ≠ .allocated)
    (phase : Phase) (new : phase ≠ .allocated) (not_failed : phase ≠ .returned none)
    (answer : ∀ response, phase = .returned (some response) → call.promise = some response)
    (calls_eq : next.calls = client.calls.modify number fun call => { call with phase }) :
    Consistent (trace ++ [event]) next := by
  apply consistent.modify quiet terminated_eq nextStreamId_eq handlers_eq calls_eq
  intro before before_found
  obtain rfl := Option.some.inj (before_found.symm.trans found)
  obtain ⟨streamId_eq, registered_iff, answered, -, -⟩ :=
    (consistent.calls number before found).concat (quiet number 0).1
  exact ⟨streamId_eq, registered_iff.trans ⟨fun _ => new, fun _ => registered⟩, answered, answer,
    fun failed => absurd failed not_failed⟩

theorem getNextStreamId (consistent : Consistent trace client) (payload : List UInt8) :
    Consistent (trace ++ [.call payload]) (client.getNextStreamId payload) := by
  have quiet : (Event.call payload).Quiet := fun _ _ => ⟨nofun, id⟩
  have unregistered := consistent.fresh client.calls.length le_rfl
  refine ⟨consistent.terminated_eq, ?_, ?_, ?_, ?_⟩
  · simp only [TcpClient.getNextStreamId, List.length_append, List.length_singleton,
      consistent.nextStreamId_eq]
    rw [Int32.ofNat_add]
    rfl
  · intro number outside member
    simp only [TcpClient.getNextStreamId, List.length_append, List.length_singleton] at outside
    exact consistent.fresh number (by omega) (by simpa using member)
  · intro number call found
    simp only [TcpClient.getNextStreamId, List.getElem?_append] at found
    split at found
    · exact (consistent.calls number call found).concat (quiet number 0).1
    · rename_i outside
      obtain ⟨index_eq, rfl⟩ : number - client.calls.length = 0 ∧
          { payload, streamId := client.nextStreamId } = call := by
        simpa [List.getElem?_singleton] using found
      obtain rfl : number = client.calls.length := by omega
      exact ⟨consistent.nextStreamId_eq, by simp [unregistered], nofun, nofun, nofun⟩
  · intro streamId number
    rw [outstanding_concat_of_quiet quiet]
    exact consistent.handlers streamId number

theorem register (consistent : Consistent trace client) {number : ℕ} {call : Call}
    (found : client.calls[number]? = some call) (allocated : call.phase = .allocated)
    (bounded : client.LifetimesBounded) :
    Consistent (trace ++ [.register number])
      ((client.setPhase number .registered).setHandler call.streamId (some number)) := by
  have own := consistent.calls number call found
  have unregistered : Event.register number ∉ trace :=
    fun registered => own.registered_iff.mp registered allocated
  have fresh_live : call.Live := by
    intro response
    simp [allocated]
  have calls_eq : ((client.setPhase number .registered).setHandler call.streamId
      (some number)).calls = client.calls.modify number fun call =>
        { call with phase := .registered } := rfl
  refine ⟨consistent.terminated_eq, ?_, consistent.fresh_concat ?_ ?_,
    consistent.calls_modify calls_eq ?_ fun before before_found => ?_, ?_⟩
  · simpa [TcpClient.setPhase, setHandler] using consistent.nextStreamId_eq
  · rw [calls_eq, List.length_modify]
  · rintro other ⟨⟩
    exact (List.getElem?_eq_some_iff.mp found).1
  · simp
  · obtain rfl := Option.some.inj (before_found.symm.trans found)
    have unanswered : before.promise = none := by
      by_contra answered
      obtain ⟨response, promise⟩ := Option.ne_none_iff_exists'.mp answered
      obtain ⟨frame, handled, -⟩ := own.answered response promise
      simp [handledSince, since_eq_nil unregistered] at handled
    exact ⟨own.streamId_eq, by simp, by simp [unanswered], nofun, nofun⟩
  · intro streamId other
    by_cases own_id : streamId = call.streamId
    · subst own_id
      simp only [setHandler, Function.update_self, Option.some.injEq]
      constructor
      · rintro rfl
        exact ⟨own.streamId_eq, outstanding_concat.mpr (Or.inr ⟨rfl, unregistered⟩)⟩
      · rintro ⟨id_eq, outstanding⟩
        rcases outstanding_concat.mp outstanding with ⟨earlier, -⟩ | ⟨same, -⟩
        · exact consistent.eq_of_outstanding bounded found fresh_live earlier id_eq
        · simpa using same
    · simp only [setHandler, Function.update_of_ne own_id]
      refine (consistent.handlers streamId other).trans (and_congr_right fun id_eq => ?_)
      constructor
      · exact fun earlier => outstanding_concat.mpr (Or.inl ⟨earlier, id⟩)
      · intro outstanding
        rcases outstanding_concat.mp outstanding with ⟨earlier, -⟩ | ⟨same, -⟩
        · exact earlier
        · obtain rfl : number = other := by simpa using same
          exact absurd (id_eq.trans own.streamId_eq.symm) own_id

/-- A call that has failed or timed out takes its own handler away, and no other. -/
theorem erase (consistent : Consistent trace client) {event : Event} {number : ℕ} {call : Call}
    (found : client.calls[number]? = some call) (registered : call.phase ≠ .allocated)
    (live : call.Live) (bounded : client.LifetimesBounded)
    (not_register : ∀ other, event ≠ .register other)
    (closes_iff : ∀ other streamId, event.Closes other streamId ↔ number = other) :
    Consistent (trace ++ [event])
      ((client.setPhase number (.returned none)).setHandler call.streamId none) := by
  have own := consistent.calls number call found
  have calls_eq : ((client.setPhase number (.returned none)).setHandler call.streamId none).calls =
      client.calls.modify number fun call => { call with phase := .returned none } := rfl
  refine ⟨consistent.terminated_eq, ?_, consistent.fresh_concat ?_ ?_,
    consistent.calls_modify calls_eq (fun other _ => not_register other)
      fun before before_found => ?_, ?_⟩
  · simpa [TcpClient.setPhase, setHandler] using consistent.nextStreamId_eq
  · rw [calls_eq, List.length_modify]
  · exact fun other equality => absurd equality (not_register other)
  · obtain rfl := Option.some.inj (before_found.symm.trans found)
    obtain ⟨streamId_eq, registered_iff, answered, -, -⟩ := own.concat (not_register number)
    refine ⟨streamId_eq, registered_iff.trans ⟨fun _ => nofun, fun _ => registered⟩, answered,
      nofun, fun _ => ⟨event, ?_, (closes_iff number _).mpr rfl⟩⟩
    rw [since_concat (own.registered_iff.mpr registered)]
    exact List.mem_append_right _ (List.mem_singleton_self event)
  · intro streamId other
    have remaining : Outstanding (trace ++ [event]) other streamId ↔
        Outstanding trace other streamId ∧ number ≠ other := by
      simp [outstanding_concat, closes_iff, not_register]
    rw [remaining]
    by_cases own_id : streamId = call.streamId
    · subst own_id
      simp only [setHandler, Function.update_self, reduceCtorEq, false_iff, not_and, not_not]
      exact fun id_eq outstanding =>
        consistent.eq_of_outstanding bounded found live outstanding id_eq
    · simp only [setHandler, Function.update_of_ne own_id]
      refine (consistent.handlers streamId other).trans (and_congr_right fun id_eq => ?_)
      refine (and_iff_left ?_).symm
      rintro rfl
      exact own_id (id_eq.trans own.streamId_eq.symm)

end Consistent

/-- The first matching frame answers an outstanding call. -/
theorem CallConsistent.answer {trace : List Event} {number : ℕ} {call : Call}
    (consistent : CallConsistent trace number call)
    (outstanding : Outstanding trace number call.streamId) {frame : Frame}
    (matching : frame.streamId = call.streamId.toUInt32) :
    CallConsistent (trace ++ [.dispatch frame]) number
      { call with promise := some frame.payload } := by
  have live := consistent.live outstanding
  have later : CallConsistent (trace ++ [.dispatch frame]) number call := consistent.concat nofun
  refine ⟨later.streamId_eq, later.registered_iff, ?_,
    fun response returned => absurd returned (live _), fun failed => absurd failed (live _)⟩
  intro response value
  obtain rfl := Option.some.inj value
  have none_before : (handledSince number trace).find?
      (fun frame => frame.streamId = call.streamId.toUInt32) = none := by
    refine List.find?_eq_none.mpr fun earlier member => ?_
    have unclosed := outstanding.2 _ (mem_since_of_handled member)
    simpa [Event.Closes] using unclosed
  refine ⟨frame, ?_, rfl⟩
  rw [handledSince, since_concat outstanding.1, List.filterMap_append, List.find?_append,
    ← handledSince, none_before]
  simp [Event.handled?, matching]

namespace Consistent

variable {trace : List Event} {client : TcpClient}

theorem outstanding_dispatch {frame : Frame} {number : ℕ} {streamId : Int32} :
    Outstanding (trace ++ [.dispatch frame]) number streamId ↔
      Outstanding trace number streamId ∧ streamId ≠ frame.streamId.toInt32 := by
  have matching : frame.streamId = streamId.toUInt32 ↔ streamId = frame.streamId.toInt32 :=
    toInt32_eq_iff.symm.trans eq_comm
  simp [outstanding_concat, Event.Closes, matching]

theorem setValue_eq (consistent : Consistent trace client) {frame : Frame} {number : ℕ}
    (handler : client.responseHandlers frame.streamId.toInt32 = some number) :
    ∃ call, client.calls[number]? = some call ∧ call.streamId = frame.streamId.toInt32 ∧
      Outstanding trace number call.streamId ∧
      client.setValue number frame =
        some (client.complete number frame) := by
  obtain ⟨id_eq, outstanding⟩ := (consistent.handlers _ number).mp handler
  obtain ⟨call, found, -⟩ := consistent.live (id_eq ▸ outstanding)
  have own := consistent.calls number call found
  have streamId_eq : call.streamId = frame.streamId.toInt32 := own.streamId_eq.trans id_eq.symm
  rw [← streamId_eq] at outstanding
  refine ⟨call, found, streamId_eq, outstanding, ?_⟩
  simp [setValue, found, own.promise_eq_none outstanding]

theorem handleFrame (consistent : Consistent trace client) (frame : Frame) :
    Consistent (trace ++ [.dispatch frame]) (client.handleFrame frame) := by
  cases handler : client.responseHandlers frame.streamId.toInt32 with
  | none =>
      have unchanged : client.handleFrame frame = client := by
        simp [TcpClient.handleFrame, handler]
      rw [unchanged]
      refine ⟨consistent.terminated_eq, consistent.nextStreamId_eq,
        consistent.fresh_concat rfl nofun, ?_, ?_⟩
      · exact fun number call found => (consistent.calls number call found).concat nofun
      · intro streamId number
        rw [outstanding_dispatch]
        refine (consistent.handlers streamId number).trans (and_congr_right fun id_eq => ?_)
        refine ⟨fun outstanding => ⟨outstanding, ?_⟩, And.left⟩
        rintro rfl
        have registered := (consistent.handlers _ number).mpr ⟨id_eq, outstanding⟩
        rw [handler] at registered
        contradiction
  | some number =>
      obtain ⟨call, found, streamId_eq, outstanding, value_eq⟩ := consistent.setValue_eq handler
      have changed : client.handleFrame frame =
          (client.complete number frame).setHandler frame.streamId.toInt32 none := by
        simp only [TcpClient.handleFrame, handler, value_eq]
      rw [changed]
      have calls_eq :
          ((client.complete number frame).setHandler frame.streamId.toInt32 none).calls =
            client.calls.modify number fun call =>
              { call with promise := some frame.payload } := rfl
      refine ⟨consistent.terminated_eq, ?_, consistent.fresh_concat ?_ nofun,
        consistent.calls_modify calls_eq (fun _ _ => nofun) fun before before_found => ?_, ?_⟩
      · simpa [complete, setHandler] using consistent.nextStreamId_eq
      · rw [calls_eq, List.length_modify]
      · obtain rfl := Option.some.inj (before_found.symm.trans found)
        exact (consistent.calls number before found).answer outstanding
          (toInt32_eq_iff.mp streamId_eq.symm)
      · intro streamId other
        rw [outstanding_dispatch]
        by_cases own_id : streamId = frame.streamId.toInt32
        · simp [setHandler, own_id]
        · simp only [setHandler, Function.update_of_ne own_id, ne_eq, own_id, not_false_eq_true,
            and_true]
          exact consistent.handlers streamId other

theorem clear (consistent : Consistent trace client) :
    Consistent (trace ++ [.clear]) { client with responseHandlers := fun _ => none } := by
  refine ⟨consistent.terminated_eq, consistent.nextStreamId_eq, consistent.fresh_concat rfl nofun,
    ?_, ?_⟩
  · exact fun number call found => (consistent.calls number call found).concat nofun
  · intro streamId number
    simp [outstanding_concat, Event.Closes]

theorem initial : Consistent [] ({} : TcpClient) := by
  refine ⟨rfl, rfl, fun _ _ => List.not_mem_nil, nofun, fun streamId number => ?_⟩
  simp [Outstanding]

/-- Every step keeps the handlers, the promises and the calls consistent with the history. -/
theorem step {enableChecksum : Bool} {event : Event} (bounded : client.LifetimesBounded)
    (consistent : Consistent trace client) (stepped : Step enableChecksum client event next) :
    Consistent (trace ++ [event]) next := by
  cases stepped with
  | call payload => exact consistent.getNextStreamId payload
  | register found phase => exact consistent.register found phase bounded
  | lockWrite found phase =>
      exact consistent.setPhase (fun _ _ => ⟨nofun, id⟩) rfl rfl rfl found (by simp [phase])
        .writing nofun nofun nofun rfl
  | @send number count call found phase =>
      refine consistent.modify (fun _ _ => ⟨nofun, id⟩) rfl rfl rfl rfl fun before found => ?_
      have own : CallConsistent (trace ++ [.send number count]) number before :=
        (consistent.calls number before found).concat nofun
      exact ⟨own.streamId_eq, own.registered_iff, own.answered, own.returned, own.closed⟩
  | sendInterrupted => exact consistent.rest (fun _ _ => ⟨nofun, id⟩) rfl rfl rfl rfl
  | sendFailed found phase =>
      exact consistent.setPhase (fun _ _ => ⟨nofun, id⟩) rfl rfl rfl found (by simp [phase])
        .writeFailed nofun nofun nofun rfl
  | writeDone found phase =>
      exact consistent.setPhase (fun _ _ => ⟨nofun, id⟩) rfl rfl rfl found (by simp [phase])
        .waiting nofun nofun nofun rfl
  | eraseFailed found phase =>
      exact consistent.erase found (by simp [phase]) (by simp [Call.Live, phase]) bounded nofun
        fun _ _ => Iff.rfl
  | timeout found phase =>
      exact consistent.setPhase (fun _ _ => ⟨nofun, id⟩) rfl rfl rfl found (by simp [phase])
        .timedOut nofun nofun nofun rfl
  | eraseTimedOut found phase =>
      exact consistent.erase found (by simp [phase]) (by simp [Call.Live, phase]) bounded nofun
        fun _ _ => Iff.rfl
  | @get number call response found phase answered =>
      refine consistent.setPhase (fun _ _ => ⟨nofun, id⟩) rfl rfl rfl found (by simp [phase])
        (.returned (some response)) nofun nofun (fun other equality => ?_) rfl
      simpa [answered] using equality
  | recv => exact consistent.rest (fun _ _ => ⟨nofun, id⟩) rfl rfl rfl rfl
  | @dispatch frame frames =>
      have shorter : Consistent trace { client with frames } :=
        ⟨consistent.terminated_eq, consistent.nextStreamId_eq, consistent.fresh, consistent.calls,
          consistent.handlers⟩
      exact shorter.handleFrame frame
  | stopReading => exact consistent.rest (fun _ _ => ⟨nofun, id⟩) rfl rfl rfl rfl
  | disconnect => exact consistent.rest (fun _ _ => ⟨nofun, id⟩) rfl rfl rfl rfl
  | clear => exact consistent.clear

end Consistent

/-- In every run whose identifiers are not drawn again too early, the invariant holds. -/
theorem consistent_of_reaches {enableChecksum : Bool} {trace : List Event} {client : TcpClient}
    (bounded : (system enableChecksum).Along LifetimesBounded trace)
    (reached : (system enableChecksum).Reaches trace client) : Consistent trace client :=
  bounded.invariant (motive := Consistent) Consistent.initial
    (fun _ before _ consistent stepped => consistent.step before (step_of_eq_some stepped)) reached

/-- The payload of the call that an event starts. -/
def Event.payload? : Event → Option (List UInt8)
  | .call payload => some payload
  | _ => none

/-- The payloads of all calls started. -/
def payloads (trace : List Event) : List (List UInt8) := trace.filterMap Event.payload?

theorem map_payload_modify {calls : List Call} {number : ℕ} {change : Call → Call}
    (kept : ∀ call, (change call).payload = call.payload) :
    (calls.modify number change).map Call.payload = calls.map Call.payload := by
  refine List.ext_getElem? fun other => ?_
  simp only [List.getElem?_map, List.getElem?_modify]
  cases calls[other]? with
  | none => rfl
  | some call =>
      by_cases same : number = other
      · simp [same, kept]
      · simp [same]

theorem map_payload_handleFrame (client : TcpClient) (frame : Frame) :
    (client.handleFrame frame).calls.map Call.payload = client.calls.map Call.payload := by
  rcases client.handleFrame_cases frame with ⟨-, same⟩ | ⟨number, -, answered⟩ | ⟨-, thrown⟩
  · rw [same]
  · rw [answered]
    exact map_payload_modify fun _ => rfl
  · rw [thrown]

/-- The calls of a client are those started, in order. -/
theorem map_payload_calls {enableChecksum : Bool} {trace : List Event} {client : TcpClient}
    (reached : (system enableChecksum).Reaches trace client) :
    client.calls.map Call.payload = payloads trace := by
  refine reached.invariant
    (motive := fun trace client => client.calls.map Call.payload = payloads trace) rfl ?_
  intro trace before event next _ payloads_eq stepped
  have quiet (nothing : event.payload? = none)
      (same : next.calls.map Call.payload = before.calls.map Call.payload) :
      next.calls.map Call.payload = payloads (trace ++ [event]) := by
    rw [same, payloads_eq]
    simp [payloads, nothing]
  cases step_of_eq_some stepped with
  | call payload =>
      simp only [TcpClient.getNextStreamId, List.map_append, payloads_eq]
      simp [payloads, Event.payload?]
  | sendInterrupted => exact quiet rfl rfl
  | recv => exact quiet rfl rfl
  | @dispatch frame frames =>
      exact quiet rfl (map_payload_handleFrame { before with frames } frame)
  | stopReading => exact quiet rfl rfl
  | disconnect => exact quiet rfl rfl
  | clear => exact quiet rfl rfl
  | _ => exact quiet rfl (map_payload_modify fun _ => rfl)

theorem length_calls {enableChecksum : Bool} {trace : List Event} {client : TcpClient}
    (reached : (system enableChecksum).Reaches trace client) :
    client.calls.length = (payloads trace).length := by
  rw [← map_payload_calls reached, List.length_map]

/-- Identifiers are not drawn again in a run of at most `2 ^ 32` calls. -/
theorem along_lifetimesBounded {enableChecksum : Bool} {trace : List Event}
    (few : (payloads trace).length ≤ 2 ^ 32) :
    (system enableChecksum).Along LifetimesBounded trace := by
  intro front front_le client reached number call _ _
  have fewer : (payloads front).length ≤ (payloads trace).length :=
    (front_le.filterMap Event.payload?).length_le
  have length_eq := length_calls reached
  omega

/-- Whatever the server sends and however the threads interleave: no promise is set twice, the
handlers are those of the outstanding calls, and a call returns the payload of the first frame with
its identifier that is handled after its registration. -/
theorem response_correlation (enableChecksum : Bool) (trace : List Event) (client : TcpClient)
    (bounded : (system enableChecksum).Along LifetimesBounded trace)
    (reached : (system enableChecksum).Reaches trace client) :
    client.terminated = false ∧
      (∀ streamId number, client.responseHandlers streamId = some number ↔
        ∃ call, client.calls[number]? = some call ∧ call.streamId = streamId ∧
          Outstanding trace number streamId) ∧
      ∀ number call response, client.calls[number]? = some call →
        call.phase = .returned (some response) →
        ∃ frame, (handledSince number trace).find?
          (fun frame => frame.streamId = call.streamId.toUInt32) = some frame ∧
            frame.payload = response := by
  have consistent := consistent_of_reaches bounded reached
  refine ⟨consistent.terminated_eq, fun streamId number => ?_, ?_⟩
  · rw [consistent.handlers]
    constructor
    · rintro ⟨rfl, outstanding⟩
      obtain ⟨call, found, -⟩ := consistent.live outstanding
      exact ⟨call, found, (consistent.calls number call found).streamId_eq, outstanding⟩
    · rintro ⟨call, found, rfl, outstanding⟩
      exact ⟨(consistent.calls number call found).streamId_eq, outstanding⟩
  · intro number call response found phase
    have own := consistent.calls number call found
    exact own.answered response (own.returned response phase)

/-- A call of the payload `[7]` that is written in two pieces. -/
def requestTrace : List Event :=
  [.call [7], .register 0, .lockWrite 0, .send 0 10, .send 0 7, .writeDone 0]

/-- The call is waiting. -/
def requestSent (enableChecksum : Bool) : TcpClient where
  nextStreamId := 1
  responseHandlers := Function.update (fun _ => none) 0 (some 0)
  calls :=
    [{  payload := [7]
        streamId := 0
        totalSent := 17
        phase := .waiting }]
  transmitted := (Frame.create 0 1 [7]).serialize enableChecksum

/-- The answer `[8]` arrives and is handled. -/
def answerTrace (sender : Bool) : List Event :=
  [.recv ((Frame.create 0 1 [8]).serialize sender),
    .dispatch ((Frame.create 0 1 [8]).onWire sender)]

/-- The call's promise is set. -/
def requestAnswered (receiver sender : Bool) : TcpClient :=
  { requestSent receiver with
    responseHandlers := Function.update (Function.update (fun _ => none) 0 (some 0)) 0 none
    calls :=
      [{  payload := [7]
          streamId := 0
          totalSent := 17
          promise := some [8]
          phase := .waiting }]
    completions := [(Frame.create 0 1 [8]).onWire sender] }

theorem reaches_requestAnswered (receiver sender : Bool) :
    (system receiver).Reaches (requestTrace ++ answerTrace sender)
      (requestAnswered receiver sender) := by
  have received := receiveChunk_serialize (show (Frame.create 0 1 [8]).WellFormed by decide) sender
  have sent : (system receiver).Reaches requestTrace (requestSent receiver) := by
    cases receiver <;> rfl
  have parsed : (system receiver).step (requestSent receiver)
      (.recv ((Frame.create 0 1 [8]).serialize sender)) =
      some { requestSent receiver with frames := [(Frame.create 0 1 [8]).onWire sender] } := by
    have nonempty : (Frame.create 0 1 [8]).serialize sender ≠ [] := nofun
    simp [system, stepAlive, requestSent, received, nonempty]
  have handled : (system receiver).step
      { requestSent receiver with frames := [(Frame.create 0 1 [8]).onWire sender] }
      (.dispatch ((Frame.create 0 1 [8]).onWire sender)) =
      some (requestAnswered receiver sender) := by
    cases sender <;> cases receiver <;> rfl
  have later := EventSystem.reaches_concat.mpr
    ⟨_, EventSystem.reaches_concat.mpr ⟨_, sent, parsed⟩, handled⟩
  rwa [List.append_assoc] at later

theorem response_correlation_answered :
    ∃ client, (system true).Reaches (requestTrace ++ answerTrace true ++ [.get 0]) client ∧
      ∃ frame, (handledSince 0 (requestTrace ++ answerTrace true ++ [.get 0])).find?
          (fun frame => frame.streamId = (0 : Int32).toUInt32) = some frame ∧
        frame.payload = [8] := by
  have reached : (system true).Reaches (requestTrace ++ answerTrace true ++ [.get 0])
      ((requestAnswered true true).setPhase 0 (.returned (some [8]))) :=
    EventSystem.reaches_concat.mpr ⟨_, reaches_requestAnswered true true, rfl⟩
  have correlated := response_correlation true _ _ (along_lifetimesBounded (by decide)) reached
  exact ⟨_, reached, correlated.2.2 0 _ _ rfl rfl⟩

end TcpClient
end FramedTcp
