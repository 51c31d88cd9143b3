import FramedTcp.ClientProgress
import FramedTcp.ClientStatistics
import FramedTcp.DemoLiveness

/-!
# The demo with the threads of its client

`client.cpp` with `running_`, the wait of its write thread and `stop`, against one connection of
`server.cpp`.  The server closes a connection after the client has, so that until then no `recv` of
the client reports the end of the stream.  On both sides each `send` returns having taken its whole
frame, as in the demo.  Every run of the two is a run of the demo in which the client's threads
neither wait nor end.
-/

namespace FramedTcp

open PrefixDecoding EventSystems FrameParser Reassembly Server

/-- A client process, a connection of the server, and the bytes in flight between them. -/
structure DemoProcess where
  /-- The client. -/
  process : ClientProcess := {}
  /-- The server's side of the connection. -/
  server : Connection := {}
  /-- Bytes sent by the client and not received yet. -/
  requests : List UInt8 := []
  /-- Bytes sent by the server and not received yet. -/
  responses : List UInt8 := []

namespace Demo

/-- The message and the stream given to `sendMessage`. -/
def Event.message? : Event → Option (List UInt8 × UInt32)
  | .sendMessage message streamId => some (message, streamId)
  | _ => none

/-- The messages of a run, with their streams. -/
def messages (trace : List Event) : List (List UInt8 × UInt32) := trace.filterMap Event.message?

theorem sends_eq_countP (stream : UInt32) (trace : List Event) :
    sends stream trace = (messages trace).countP fun message => message.2 = stream := by
  rw [sends, messages, List.countP_filterMap]
  refine List.countP_congr fun event _ => ?_
  cases event <;> simp [Event.stream?, Event.message?]

theorem short_of_messages {trace : List Event}
    (short : ∀ message ∈ messages trace, message.1.length < 2 ^ 32) : Short trace :=
  fun message streamId member =>
    short (message, streamId) (List.mem_filterMap.mpr ⟨_, member, rfl⟩)

end Demo

/-- Is it a step of the connection's threads? -/
def Demo.Event.ofServer : Demo.Event → Bool
  | .recvRequests _ | .handleFrame | .respond | .eraseFrame | .hasOutgoingFrames
  | .getNextOutgoingFrame | .sendResponse => true
  | _ => false

namespace ClientProcess

/-- The bytes that an event gives to `send`. -/
def requested (enableChecksum : Bool) (process : ClientProcess) : Event → List UInt8
  | .send => (process.client.writing.toList.map (Frame.serialize enableChecksum)).flatten
  | _ => []

/-- What the client does, as far as its queues and its read thread's state are concerned. -/
def followed (process : ClientProcess) : Event → List Demo.Event
  | .sendMessage message streamId => [.sendMessage message streamId]
  | .push frame => [.push frame]
  | .leave => if process.running then [.pop] else []
  | .send => [.sendRequest]
  | .recv chunk => [.recvResponses chunk.length]
  | .outputFrame => [.outputFrame]
  | _ => []

end ClientProcess

namespace DemoProcess

/-- Steps of the client's threads and of the connection's threads. -/
inductive Event
  | client (event : ClientProcess.Event)
  | server (event : Demo.Event)

/-- The two programs without the threads of the client. -/
def demo (state : DemoProcess) : Demo where
  client := state.process.client
  server := state.server
  requests := state.requests
  responses := state.responses

/-- May the client make this step?  It receives what the server has sent. -/
def Possible (state : DemoProcess) : ClientProcess.Event → Prop
  | .recv chunk => chunk <+: state.responses
  | .endOfStream => False
  | _ => True

instance (state : DemoProcess) : DecidablePred state.Possible := fun event => by
  cases event <;> (unfold Possible; infer_instance)

/-- The client has made a step. -/
def afterClient (enableChecksum : Bool) (state : DemoProcess) (event : ClientProcess.Event)
    (process : ClientProcess) : DemoProcess :=
  { state with
    process
    requests := state.requests ++ state.process.requested enableChecksum event
    responses := state.responses.drop (event.chunk?.getD []).length }

/-- The server has made a step. -/
def afterServer (state : DemoProcess) (demo : Demo) : DemoProcess :=
  { state with
    server := demo.server
    requests := demo.requests
    responses := demo.responses }

@[simp]
theorem process_afterClient (enableChecksum : Bool) (state : DemoProcess)
    (event : ClientProcess.Event) (process : ClientProcess) :
    (state.afterClient enableChecksum event process).process = process := rfl

/-- One step; nothing is said about the server once the client has closed its socket. -/
def step (enableChecksum : Bool) (state : DemoProcess) : Event → Option DemoProcess
  | .client event =>
      if state.Possible event then
        (state.process.step enableChecksum event).map (state.afterClient enableChecksum event)
      else
        none
  | .server event =>
      if event.ofServer ∧ state.process.stopping ≠ .stopped then
        (state.demo.step enableChecksum event).map state.afterServer
      else
        none

/-- A client whose `connect` has returned `true` and the connection that the server has accepted,
with the same setting of `enable_checksum`. -/
def system (enableChecksum : Bool) : EventSystem DemoProcess Event where
  init := {}
  step := step enableChecksum

/-- What a step does, and when it is possible. -/
inductive Step (enableChecksum : Bool) (state : DemoProcess) : Event → DemoProcess → Prop
  | client {event : ClientProcess.Event} {process : ClientProcess} (possible : state.Possible event)
      (stepped : ClientProcess.Step enableChecksum state.process event process) :
      Step enableChecksum state (.client event) (state.afterClient enableChecksum event process)
  | server {event : Demo.Event} {demo : Demo} (own : event.ofServer)
      (connected : state.process.stopping ≠ .stopped)
      (stepped : Demo.Step enableChecksum state.demo event demo) :
      Step enableChecksum state (.server event) (state.afterServer demo)

variable {enableChecksum : Bool} {trace : List Event} {state next : DemoProcess} {event : Event}

theorem step_eq_some_iff : (system enableChecksum).step state event = some next ↔
    Step enableChecksum state event next := by
  change state.step enableChecksum event = some next ↔ _
  constructor
  · intro stepped
    cases event with
    | client event =>
        obtain ⟨possible, stepped⟩ := Option.ite_none_right_eq_some.mp stepped
        obtain ⟨process, moved, rfl⟩ := Option.map_eq_some_iff.mp stepped
        exact .client possible (ClientProcess.step_of_eq_some moved)
    | server event =>
        obtain ⟨⟨own, connected⟩, stepped⟩ := Option.ite_none_right_eq_some.mp stepped
        obtain ⟨demo, moved, rfl⟩ := Option.map_eq_some_iff.mp stepped
        exact .server own connected (Demo.step_of_eq_some moved)
  · intro stepped
    cases stepped with
    | client possible stepped =>
        refine Option.ite_none_right_eq_some.mpr ⟨possible, Option.map_eq_some_iff.mpr ?_⟩
        exact ⟨_, ClientProcess.step_eq_some stepped, rfl⟩
    | server own connected stepped =>
        refine Option.ite_none_right_eq_some.mpr ⟨⟨own, connected⟩, Option.map_eq_some_iff.mpr ?_⟩
        exact ⟨_, Demo.step_eq_some stepped, rfl⟩

/-! ## The client alone -/

/-- The steps of the client. -/
def Event.client? : Event → Option ClientProcess.Event
  | .client event => some event
  | .server _ => none

/-- The client is a client whose server behaves in one of the ways it may. -/
def component (enableChecksum : Bool) :
    (system enableChecksum).Component (ClientProcess.system enableChecksum) where
  view := process
  project := Event.client?
  view_init := rfl
  view_step _ stepped := by
    cases step_eq_some_iff.mp stepped with
    | client _ moved => exact ClientProcess.step_eq_some moved
    | server => rfl

/-- What is known about the threads of the client. -/
structure Threads (enableChecksum : Bool) (trace : List ClientProcess.Event)
    (process : ClientProcess) : Prop where
  writeSide : process.WriteSide trace
  joined : process.Joined
  reads : process.Reads enableChecksum trace
  active : process.running = true → process.writeThread ≠ .returned

/-- While `running_` is set, `stop` has not been called. -/
theorem Threads.uncalled {history : List ClientProcess.Event} {process : ClientProcess}
    (threads : Threads enableChecksum history process) (running : process.running = true) :
    process.stopping = .notCalled := by
  by_contra called
  rw [threads.joined.cleared.mpr called] at running
  contradiction

theorem threads_of_reaches (reached : (system enableChecksum).Reaches trace state) :
    Threads enableChecksum (trace.filterMap Event.client?) state.process := by
  have alone := (component enableChecksum).reaches reached
  obtain ⟨writeSide, joined⟩ := ClientProcess.writeSide_and_joined_of_reaches alone
  exact ⟨writeSide, joined, ClientProcess.reads_of_reaches alone,
    ClientProcess.not_returned_of_reaches alone⟩

/-! ## The demo without the threads -/

theorem run_singleton {demo after : Demo} {event : Demo.Event} :
    (Demo.system enableChecksum).run demo [event] = some after ↔
      Demo.Step enableChecksum demo event after := by
  constructor
  · intro ran
    obtain ⟨middle, moved, ended⟩ := Option.bind_eq_some_iff.mp ran
    rw [← Option.some.inj ended]
    exact Demo.step_of_eq_some moved
  · intro stepped
    rw [EventSystem.run, Demo.step_eq_some stepped, Option.bind_some, EventSystem.run]

/-- A step of the client that neither sends nor receives. -/
theorem demo_afterClient {event : ClientProcess.Event} (process : ClientProcess)
    (unsent : state.process.requested enableChecksum event = []) (silent : event.chunk? = none) :
    (state.afterClient enableChecksum event process).demo =
      { state.demo with client := process.client } := by
  simp [afterClient, demo, unsent, silent]

/-- The demo follows a step of the client. -/
theorem run_followed {event : ClientProcess.Event} {process : ClientProcess}
    {history : List ClientProcess.Event} (threads : Threads enableChecksum history state.process)
    (possible : state.Possible event)
    (stepped : ClientProcess.Step enableChecksum state.process event process) :
    (Demo.system enableChecksum).run state.demo (state.process.followed event) =
      some (state.afterClient enableChecksum event process).demo := by
  cases stepped with
  | sendMessage message streamId =>
      rw [demo_afterClient _ rfl rfl]
      exact run_singleton.mpr (.sendMessage message streamId)
  | push drawn =>
      rw [demo_afterClient _ rfl rfl]
      exact run_singleton.mpr (.push drawn)
  | takeFrame left running queue =>
      have idle : state.process.client.writing = none := by
        rw [← Option.not_isSome_iff_eq_none, threads.writeSide.sending, left]
        simp
      rw [demo_afterClient _ rfl rfl, ClientProcess.followed, if_pos running]
      exact run_singleton.mpr (.pop idle queue)
  | leave left ended =>
      rw [demo_afterClient _ rfl rfl, ClientProcess.followed, ended]
      rfl
  | @send frame sending writing =>
      have requested_eq : state.process.requested enableChecksum .send =
          frame.serialize enableChecksum := by
        simp [ClientProcess.requested, writing]
      rw [afterClient, requested_eq]
      exact run_singleton.mpr (.sendRequest writing)
  | @recv chunk receiving nonempty fits =>
      have handled : state.process.client.completedFrames = [] :=
        threads.reads.all_handled (by simp [receiving])
      have sent : chunk <+: state.responses := possible
      have received : Demo.Step enableChecksum state.demo (.recvResponses chunk.length) _ :=
        .recvResponses handled (List.length_pos_iff.mpr nonempty) fits sent.length_le
      have taken : state.demo.responses.take chunk.length = chunk :=
        (List.prefix_iff_eq_take.mp sent).symm
      rw [taken] at received
      rw [ClientProcess.followed, run_singleton.mpr received, afterClient, demo]
      simp [ClientProcess.requested, ClientProcess.Event.chunk?, demo]
  | endOfStream => exact possible.elim
  | outputFrame looping parsed =>
      rw [demo_afterClient _ rfl rfl]
      exact run_singleton.mpr (.outputFrame parsed)
  | writeRunning | lock | mustWait | mayLeave | wait | spuriousWakeup | readRunning | stop
  | joinRead | joinWrite | close =>
      rw [demo_afterClient _ rfl rfl]
      rfl

/-- The connection's threads leave the client alone. -/
theorem demo_afterServer {demo : Demo} {event : Demo.Event} (own : event.ofServer)
    (stepped : Demo.Step enableChecksum state.demo event demo) :
    (state.afterServer demo).demo = demo := by
  cases stepped with
  | sendMessage | push | pop | sendRequest | recvResponses | outputFrame => contradiction
  | _ => rfl

/-- The message and the stream given to `sendMessage`. -/
def Event.message? : Event → Option (List UInt8 × UInt32)
  | .client (.sendMessage message streamId) => some (message, streamId)
  | _ => none

/-- The messages of a run, with their streams. -/
def messages (trace : List Event) : List (List UInt8 × UInt32) := trace.filterMap Event.message?

/-- The number of calls of `sendMessage` on a stream. -/
def sends (stream : UInt32) (trace : List Event) : ℕ :=
  (messages trace).countP fun message => message.2 = stream

/-- Every message fits the length field of a frame. -/
def Short (trace : List Event) : Prop := ∀ message ∈ messages trace, message.1.length < 2 ^ 32

theorem messages_followed (process : ClientProcess) (event : ClientProcess.Event) :
    Demo.messages (process.followed event) = messages [.client event] := by
  cases event with
  | leave => cases running : process.running <;> simp [ClientProcess.followed, running] <;> rfl
  | _ => rfl

/-- The demo without the threads has a run with the same messages. -/
theorem exists_demo_run (reached : (system enableChecksum).Reaches trace state) :
    ∃ abstract, (Demo.system enableChecksum).Reaches abstract state.demo ∧
      Demo.messages abstract = messages trace := by
  refine reached.invariant (motive := fun trace state =>
    ∃ abstract, (Demo.system enableChecksum).Reaches abstract state.demo ∧
      Demo.messages abstract = messages trace) ⟨[], EventSystem.reaches_nil, rfl⟩ ?_
  rintro trace state event next reached ⟨abstract, abstract_reached, messages_eq⟩ stepped
  cases step_eq_some_iff.mp stepped with
  | @client event process possible moved =>
      refine ⟨abstract ++ state.process.followed event, abstract_reached.append
        (run_followed (threads_of_reaches reached) possible moved), ?_⟩
      have same := messages_followed state.process event
      simp only [Demo.messages, messages, List.filterMap_append] at messages_eq same ⊢
      rw [messages_eq, same]
  | @server event demo own _ moved =>
      refine ⟨abstract ++ [event], ?_, ?_⟩
      · rw [demo_afterServer own moved]
        exact abstract_reached.append (run_singleton.mpr moved)
      · have silent : event.message? = none := by cases event <;> first | rfl | contradiction
        simp only [Demo.messages, messages, List.filterMap_append] at messages_eq ⊢
        simp [messages_eq, silent, Event.message?]

/-- The frames are accounted for as they are without the threads. -/
theorem exists_numbered (reached : (system enableChecksum).Reaches trace state)
    (short : Short trace) :
    ∃ abstract history, Demo.Numbered enableChecksum abstract history state.demo ∧
      ∀ stream, Demo.sends stream abstract = sends stream trace := by
  obtain ⟨abstract, abstract_reached, messages_eq⟩ := exists_demo_run reached
  have abstract_short : Demo.Short abstract := Demo.short_of_messages (messages_eq ▸ short)
  obtain ⟨history, numbered⟩ := Demo.numbered_of_reaches abstract_reached abstract_short
  refine ⟨abstract, history, numbered, fun stream => ?_⟩
  rw [Demo.sends_eq_countP, messages_eq, sends]

/-- No new message, no call of `stop`, and no spurious wakeup. -/
def Event.GoesOn : Event → Prop
  | .client event => event.Ordinary ∧ event.goesOn = true
  | .server _ => True

/-- Is the event more than a look of the server at its empty queue, which changes nothing? -/
def Event.effective (state : DemoProcess) : Event → Bool
  | .client _ => true
  | .server event => event.effective state.demo

/-- Client and server, without the looks at the empty queue. -/
def effective (enableChecksum : Bool) : EventSystem DemoProcess Event :=
  (system enableChecksum).restrict fun state event => event.effective state

theorem effective_client {event : ClientProcess.Event} {process : ClientProcess}
    (possible : state.Possible event)
    (stepped : ClientProcess.Step enableChecksum state.process event process) :
    (effective enableChecksum).step state (.client event) =
      some (state.afterClient enableChecksum event process) :=
  EventSystem.restrict_step_iff.mpr ⟨rfl, step_eq_some_iff.mpr (.client possible stepped)⟩

theorem effective_server {event : Demo.Event} {demo : Demo} (own : event.ofServer)
    (connected : state.process.stopping ≠ .stopped) (effective : event.effective state.demo)
    (stepped : Demo.Step enableChecksum state.demo event demo) :
    (DemoProcess.effective enableChecksum).step state (.server event) =
      some (state.afterServer demo) :=
  EventSystem.restrict_step_iff.mpr
    ⟨effective, step_eq_some_iff.mpr (.server own connected stepped)⟩

/-- Everything is at rest, and the client has output the responses to the messages of the run. -/
def Answered (enableChecksum : Bool) (trace : List Event) (state : DemoProcess) : Prop :=
  state.demo.Settled ∧ ∀ stream, 5 * sends stream trace < 2 ^ 32 →
    onStream stream state.process.client.reader.output =
      (List.range (5 * sends stream trace)).map fun number =>
        (numberedResponse stream number).onWire enableChecksum

/-- While `running_` is set, the read thread has not returned. -/
theorem not_returned_of_reaches (reached : (system enableChecksum).Reaches trace state)
    (running : state.process.running = true) : state.process.readThread ≠ .returned := by
  refine reached.invariant (motive := fun _ state => state.process.running = true →
    state.process.readThread ≠ .returned) (by simp [system]) ?_ running
  intro trace state event next _ reading stepped running
  cases step_eq_some_iff.mp stepped with
  | server => exact reading running
  | client possible moved =>
      cases moved with
      | endOfStream => exact possible.elim
      | readRunning => simp [show state.process.running = true from running]
      | recv => simp
      | stop => contradiction
      | _ => exact reading running

/-- A step of the server passes a frame on. -/
theorem work_lt_of_server {event : Demo.Event} {demo : Demo} (orderly : Demo.Orderly state.server)
    (own : event.ofServer) (effective : event.effective state.demo)
    (stepped : Demo.Step enableChecksum state.demo event demo) :
    (state.afterServer demo).demo.work < state.demo.work := by
  have internal : event.Internal := by
    rintro message streamId rfl
    contradiction
  rw [demo_afterServer own stepped]
  exact Demo.work_lt_of_step orderly internal effective stepped

/-- The run has gone on without further messages, and `stop` has not been called. -/
structure GoneOn (enableChecksum : Bool) (trace : List Event) (state : DemoProcess) : Prop where
  reached : ∃ later, messages later = [] ∧ (system enableChecksum).Reaches (trace ++ later) state
  running : state.process.running = true

theorem GoneOn.numbered (goneOn : GoneOn enableChecksum trace state) (short : Short trace) :
    ∃ abstract history, Demo.Numbered enableChecksum abstract history state.demo ∧
      ∀ stream, Demo.sends stream abstract = sends stream trace := by
  obtain ⟨later, silent, reached⟩ := goneOn.reached
  have messages_eq : messages (trace ++ later) = messages trace := by
    rw [messages, List.filterMap_append, ← messages, ← messages, silent, List.append_nil]
  have sends_eq (stream : UInt32) : sends stream (trace ++ later) = sends stream trace := by
    rw [sends, messages_eq, sends]
  rw [Short, ← messages_eq] at short
  obtain ⟨abstract, history, numbered, abstract_sends⟩ := exists_numbered reached short
  exact ⟨abstract, history, numbered, fun stream => (abstract_sends stream).trans (sends_eq stream)⟩

theorem GoneOn.step (goneOn : GoneOn enableChecksum trace state) (goesOn : event.GoesOn)
    (stepped : (system enableChecksum).step state event = some next) :
    GoneOn enableChecksum trace next := by
  obtain ⟨⟨later, silent, reached⟩, running⟩ := goneOn
  refine ⟨⟨later ++ [event], ?_, ?_⟩, ?_⟩
  · have quiet : event.message? = none := by
      cases event with
      | server => rfl
      | client event =>
          cases event with
          | sendMessage => exact goesOn.1.elim
          | _ => rfl
    rw [messages, List.filterMap_append, ← messages, silent]
    simp [quiet]
  · rw [← List.append_assoc]
    exact EventSystem.reaches_concat.mpr ⟨state, reached, stepped⟩
  · cases step_eq_some_iff.mp stepped with
    | server => exact running
    | client _ moved =>
        cases moved with
        | stop => exact absurd goesOn.2 (by simp [ClientProcess.Event.goesOn])
        | _ => exact running

end DemoProcess
end FramedTcp
