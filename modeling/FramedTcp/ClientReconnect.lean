import FramedTcp.ClientStreams
import FramedTcp.TimeoutBoundary

/-!
# A client that reconnects

A `TcpClient` may be connected again after `disconnect`.  The identifiers go on, the read thread
starts with an empty buffer, and `disconnect` clears the handlers when the old read thread has been
joined.  Calls may be under way all the time; one thread calls `connect` and `disconnect`.
-/

namespace FramedTcp

open PrefixDecoding EventSystems FrameParser

/-- A client and whether a call of `disconnect` is under way; one thread calls `connect` and
`disconnect`. -/
structure ReconnectingClient where
  /-- The client and its calls; it is constructed without a socket. -/
  client : TcpClient :=
    { socket := false
      running := false
      reading := false }
  /-- Has `disconnect` closed the socket and not returned yet? -/
  disconnecting : Bool := false

namespace ReconnectingClient

/-- A connection is made, or the client makes a step. -/
inductive Event
  | connect
  | client (event : TcpClient.Event)

/-- `connect` succeeds; a connected client refuses it. -/
def connect (state : ReconnectingClient) : Option ReconnectingClient :=
  if state.client.socket = false ∧ state.disconnecting = false ∧
      state.client.terminated = false then
    some { state with
      client := { state.client with
        socket := true
        running := true
        reading := true
        frameBuffer := []
        frames := [] } }
  else
    none

/-- One step. -/
def step (enableChecksum : Bool) (state : ReconnectingClient) : Event → Option ReconnectingClient
  | .connect => state.connect
  | .client .disconnect =>
      if state.disconnecting then
        none
      else
        ((TcpClient.system enableChecksum).step state.client .disconnect).map fun client =>
          { state with
            client
            disconnecting := true }
  | .client .clear =>
      if state.disconnecting then
        ((TcpClient.system enableChecksum).step state.client .clear).map fun client =>
          { state with
            client
            disconnecting := false }
      else
        none
  | .client event =>
      ((TcpClient.system enableChecksum).step state.client event).map fun client =>
        { state with client }

/-- A client from its construction on. -/
def system (enableChecksum : Bool) : EventSystem ReconnectingClient Event where
  init := {}
  step := step enableChecksum

/-- The client's own step. -/
def Event.own? : Event → Option TcpClient.Event
  | .client event => some event
  | .connect => none

/-- What the client does over all its connections. -/
def history (trace : List Event) : List TcpClient.Event := trace.filterMap Event.own?

/-- What the client does from the last `connect` on. -/
def session (trace : List Event) : List TcpClient.Event :=
  trace.foldl (fun events event =>
    match event with
    | .connect => []
    | .client own => events ++ [own]) []

/-- A response has been taken for the call off the connection that was open: nothing has closed the
call between its registration and that moment, and the frame had come in on that connection. -/
def Answered (trace : List Event) (number : ℕ) (streamId : Int32) (response : List UInt8) : Prop :=
  ∃ front frame back, trace = front ++ .client (.dispatch frame) :: back ∧
    TcpClient.Outstanding (history front) number streamId ∧
    frame.streamId = streamId.toUInt32 ∧ frame.payload = response ∧
    frame ∈ decoder.messages (TcpClient.received (session front))

variable {enableChecksum : Bool} {trace : List Event} {event : Event}
  {state next : ReconnectingClient}

@[simp]
theorem session_connect : session (trace ++ [.connect]) = [] := by
  simp [session]

@[simp]
theorem session_client (own : TcpClient.Event) :
    session (trace ++ [.client own]) = session trace ++ [own] := by
  simp [session]

@[simp]
theorem history_connect : history (trace ++ [.connect]) = history trace := by
  simp [history, Event.own?]

@[simp]
theorem history_client (own : TcpClient.Event) :
    history (trace ++ [.client own]) = history trace ++ [own] := by
  simp [history, Event.own?]

theorem Answered.concat {number : ℕ} {streamId : Int32} {response : List UInt8}
    (answered : Answered trace number streamId response) (event : Event) :
    Answered (trace ++ [event]) number streamId response := by
  obtain ⟨front, frame, back, rfl, rest⟩ := answered
  exact ⟨front, frame, back ++ [event], by simp, rest⟩

/-- The client's part of a step. -/
theorem client_step {own : TcpClient.Event}
    (stepped : (system enableChecksum).step state (.client own) = some next) :
    (TcpClient.system enableChecksum).step state.client own = some next.client := by
  replace stepped : state.step enableChecksum (.client own) = some next := stepped
  cases own with
  | disconnect =>
      obtain ⟨-, result⟩ := Option.ite_none_left_eq_some.mp stepped
      obtain ⟨client, moved, rfl⟩ := Option.map_eq_some_iff.mp result
      exact moved
  | clear =>
      obtain ⟨-, result⟩ := Option.ite_none_right_eq_some.mp stepped
      obtain ⟨client, moved, rfl⟩ := Option.map_eq_some_iff.mp result
      exact moved
  | _ =>
      obtain ⟨client, moved, rfl⟩ := Option.map_eq_some_iff.mp stepped
      exact moved

theorem connect_eq_some_iff :
    state.connect = some next ↔
      (state.client.socket = false ∧ state.disconnecting = false ∧
        state.client.terminated = false) ∧
      next = { state with
        client := { state.client with
          socket := true
          running := true
          reading := true
          frameBuffer := []
          frames := [] } } := by
  rw [connect, Option.ite_none_right_eq_some, Option.some.injEq, eq_comm (b := next)]

/-- The handlers, promises and calls agree with the history of all connections, and the frames with
the bytes of the last one. -/
structure Follows (trace : List Event) (state : ReconnectingClient) : Prop where
  consistent : TcpClient.Consistent (history trace) state.client
  reading : TcpClient.Reading (session trace) state.client
  answered : ∀ (number : ℕ) (call : TcpClient.Call) (response : List UInt8),
    state.client.calls[number]? = some call → call.promise = some response →
      Answered trace number call.streamId response

/-- Every handler belongs to a call that waits. -/
theorem handlersOpen_of_consistent {trace : List TcpClient.Event} {client : TcpClient}
    (consistent : TcpClient.Consistent trace client) : client.HandlersOpen := by
  intro streamId number handler
  obtain ⟨rfl, outstanding⟩ := (consistent.handlers _ number).mp handler
  obtain ⟨call, found, live⟩ := consistent.live outstanding
  have own := consistent.calls number call found
  rw [← own.streamId_eq] at outstanding
  exact ⟨call, found, own.streamId_eq, own.promise_eq_none outstanding,
    own.registered_iff.mp outstanding.1, live⟩

theorem pending_of_dispatch {client after : TcpClient} {frame : Frame}
    (moved : TcpClient.Step enableChecksum client (.dispatch frame) after) :
    frame ∈ client.frames := by
  cases moved with
  | dispatch waiting => exact waiting ▸ List.mem_cons_self

theorem calls_of_clear {client after : TcpClient}
    (moved : TcpClient.Step enableChecksum client .clear after) : after.calls = client.calls := by
  cases moved with
  | clear => rfl

theorem length_calls_step {client after : TcpClient} {own : TcpClient.Event}
    (moved : TcpClient.Step enableChecksum client own after) :
    after.calls.length ≤ client.calls.length + 1 := by
  cases moved with
  | call payload => simp [TcpClient.getNextStreamId]
  | @dispatch frame frames =>
      have same := congrArg List.length
        (TcpClient.map_payload_handleFrame { client with frames } frame)
      rw [List.length_map, List.length_map] at same
      exact same.le.trans (Nat.le_succ _)
  | sendInterrupted | recv | stopReading | disconnect | clear => exact Nat.le_succ _
  | _ => exact (List.length_modify ..).le.trans (Nat.le_succ _)

namespace Follows

theorem initial : Follows [] ({} : ReconnectingClient) where
  consistent := by
    obtain ⟨terminated_eq, nextStreamId_eq, fresh, calls, handlers⟩ :=
      TcpClient.Consistent.initial
    exact ⟨terminated_eq, nextStreamId_eq, fresh, calls, handlers⟩
  reading := by
    constructor
    · change [] = decoder.residue []
      simp
    · change [] = decoder.messages []
      simp
  answered number call response found := by simp at found

/-- A new connection changes no call, and nothing has come in on it. -/
theorem connect (follows : Follows trace state) (connected : state.connect = some next) :
    Follows (trace ++ [.connect]) next := by
  obtain ⟨-, rfl⟩ := connect_eq_some_iff.mp connected
  obtain ⟨⟨terminated_eq, nextStreamId_eq, fresh, calls, handlers⟩, -, answered⟩ := follows
  refine ⟨?_, ?_, ?_⟩
  · rw [history_connect]
    exact ⟨terminated_eq, nextStreamId_eq, fresh, calls, handlers⟩
  · rw [session_connect]
    constructor
    · change [] = decoder.residue []
      simp
    · change [] = decoder.messages []
      simp
  · intro number call response found promise
    exact (answered number call response found promise).concat .connect

/-- A frame that completes a call has come in on the last connection, and the call has been
outstanding. -/
theorem dispatched (follows : Follows trace state) {frame : Frame} {number : ℕ}
    {call : TcpClient.Call} (found : state.client.calls[number]? = some call)
    (handler : state.client.responseHandlers frame.streamId.toInt32 = some number)
    (pending : frame ∈ state.client.frames) :
    Answered (trace ++ [.client (.dispatch frame)]) number call.streamId frame.payload := by
  obtain ⟨id_eq, outstanding⟩ := (follows.consistent.handlers _ number).mp handler
  have streamId_eq := (follows.consistent.calls number call found).streamId_eq.trans id_eq.symm
  refine ⟨trace, frame, [], rfl, streamId_eq ▸ outstanding, ?_, rfl, ?_⟩
  · exact TcpClient.toInt32_eq_iff.mp streamId_eq.symm
  · rw [← follows.reading.handled_eq]
    exact List.mem_append_right _ pending

theorem client (follows : Follows trace state) (bounded : state.client.LifetimesBounded)
    {own : TcpClient.Event}
    (stepped : (TcpClient.system enableChecksum).step state.client own = some next.client) :
    Follows (trace ++ [.client own]) next := by
  have moved := TcpClient.step_of_eq_some stepped
  refine ⟨?_, ?_, ?_⟩
  · rw [history_client]
    exact follows.consistent.step bounded moved
  · rw [session_client]
    exact follows.reading.step moved
  · intro number after response after_found promise
    rcases TcpClient.moves_of_step (handlersOpen_of_consistent follows.consistent) moved
        after_found with ⟨before, found, moves⟩ | ⟨-, -, unanswered⟩
    · have kept (same : after.promise = before.promise) (id_eq : after.streamId = before.streamId) :
          Answered (trace ++ [.client own]) number after.streamId response := by
        rw [id_eq]
        exact (follows.answered number before response found (same ▸ promise)).concat _
      cases moves with
      | kept promise_eq _ streamId_eq => exact kept promise_eq streamId_eq
      | registered | locked | failed | done | erasedFailed | timedOut | erasedTimedOut | got =>
          exact kept rfl rfl
      | answered frame handler =>
          obtain rfl := Option.some.inj promise
          have answered := follows.dispatched found handler (pending_of_dispatch moved)
          exact answered
    · rw [unanswered] at promise
      contradiction

theorem step (follows : Follows trace state) (bounded : state.client.LifetimesBounded)
    (stepped : (system enableChecksum).step state event = some next) :
    Follows (trace ++ [event]) next := by
  cases event with
  | connect => exact follows.connect stepped
  | client own => exact follows.client bounded (client_step stepped)

end Follows

theorem follows_of_reaches
    (bounded : (system enableChecksum).Along (fun state => state.client.LifetimesBounded) trace)
    (reached : (system enableChecksum).Reaches trace state) : Follows trace state :=
  bounded.invariant (motive := Follows) Follows.initial
    (fun _ before _ follows stepped => follows.step before stepped) reached

/-! ## Calls that a disconnection has closed -/

/-- A call that has been closed without a response. -/
structure Closed (trace : List Event) (number : ℕ) (state : ReconnectingClient) : Prop where
  registered : TcpClient.Event.register number ∈ history trace
  closed : ¬ TcpClient.Outstanding (history trace) number (Int32.ofNat number)
  unanswered : ∀ call : TcpClient.Call, state.client.calls[number]? = some call →
    call.promise = none

namespace Closed

variable {number : ℕ}

/-- `clear` closes every call that has registered. -/
theorem of_clear (follows : Follows trace state)
    (stepped : (system enableChecksum).step state (.client .clear) = some next)
    {call : TcpClient.Call} (found : next.client.calls[number]? = some call)
    (registered : call.phase ≠ .allocated) (unanswered : call.promise = none) :
    Closed (trace ++ [.client .clear]) number next where
  registered := by
    have same := calls_of_clear (TcpClient.step_of_eq_some (client_step stepped))
    rw [same] at found
    rw [history_client]
    exact List.mem_append_left _
      ((follows.consistent.calls number call found).registered_iff.mpr registered)
  closed := by simp [TcpClient.outstanding_concat, TcpClient.Event.Closes]
  unanswered other other_found := by
    obtain rfl := Option.some.inj (other_found.symm.trans found)
    exact unanswered

/-- It gets no response any more: its handler is gone. -/
theorem step (closed : Closed trace number state) (follows : Follows trace state)
    (stepped : (system enableChecksum).step state event = some next) :
    Closed (trace ++ [event]) number next := by
  obtain ⟨registered, not_outstanding, unanswered⟩ := closed
  cases event with
  | connect =>
      obtain ⟨-, rfl⟩ := connect_eq_some_iff.mp stepped
      refine ⟨?_, ?_, unanswered⟩
      · rwa [history_connect]
      · rwa [history_connect]
  | client own =>
      refine ⟨?_, ?_, ?_⟩
      · rw [history_client]
        exact List.mem_append_left _ registered
      · rw [history_client, TcpClient.outstanding_concat]
        rintro (⟨outstanding, -⟩ | ⟨-, unregistered⟩)
        · exact not_outstanding outstanding
        · exact unregistered registered
      · intro after after_found
        rcases TcpClient.moves_of_step (handlersOpen_of_consistent follows.consistent)
            (TcpClient.step_of_eq_some (client_step stepped)) after_found with
          ⟨before, found, moves⟩ | ⟨-, -, new_unanswered⟩
        · cases moves with
          | kept promise_eq => rw [promise_eq, unanswered before found]
          | answered frame handler =>
              obtain ⟨id_eq, outstanding⟩ := (follows.consistent.handlers _ number).mp handler
              exact absurd (id_eq ▸ outstanding) not_outstanding
          | _ => exact unanswered before found
        · exact new_unanswered

end Closed

theorem closed_of_reaches {earlier : List Event} {number : ℕ}
    (bounded : (system enableChecksum).Along (fun state => state.client.LifetimesBounded) trace)
    (reached : (system enableChecksum).Reaches trace state) (earlier_le : earlier <+: trace)
    (closed : ∀ middle, (system enableChecksum).Reaches earlier middle →
      Closed earlier number middle) : Closed trace number state := by
  refine (bounded.invariant (motive := fun front state => Follows front state ∧
    (earlier <+: front → Closed front number state)) ?_ ?_ reached).2 earlier_le
  · refine ⟨Follows.initial, fun earlier_le => ?_⟩
    obtain rfl := List.prefix_nil.mp earlier_le
    exact closed _ rfl
  · rintro front state event next front_reached bounded - ⟨follows, closed_before⟩ stepped
    refine ⟨follows.step bounded stepped, fun earlier_le => ?_⟩
    rcases List.prefix_concat_iff.mp earlier_le with rfl | front_le
    · exact closed next (EventSystem.reaches_concat.mpr ⟨state, front_reached, stepped⟩)
    · exact (closed_before front_le).step follows stepped

/-- Over any number of connections: no promise is set twice; the frames handled on a connection are
those of the bytes received on it; a call returns a response that has come in on the connection
that was open, while nothing had closed the call since its registration; and a call that has
registered and has no response when `disconnect` clears the handlers never gets one. -/
theorem responses_stay_on_connection (enableChecksum : Bool) (trace : List Event)
    (state : ReconnectingClient)
    (bounded : (system enableChecksum).Along (fun state => state.client.LifetimesBounded) trace)
    (reached : (system enableChecksum).Reaches trace state) :
    state.client.terminated = false ∧
      TcpClient.handled (session trace) ++ state.client.frames =
        decoder.messages (TcpClient.received (session trace)) ∧
      (∀ (number : ℕ) (call : TcpClient.Call) (response : List UInt8),
        state.client.calls[number]? = some call → call.phase = .returned (some response) →
          Answered trace number call.streamId response) ∧
      ∀ front back, trace = front ++ .client .clear :: back →
        ∀ cleared, (system enableChecksum).Reaches (front ++ [.client .clear]) cleared →
          ∀ (number : ℕ) (call : TcpClient.Call), cleared.client.calls[number]? = some call →
            call.phase ≠ .allocated → call.promise = none →
              ∀ after : TcpClient.Call, state.client.calls[number]? = some after →
                after.promise = none := by
  have follows := follows_of_reaches bounded reached
  refine ⟨follows.consistent.terminated_eq, follows.reading.handled_eq, ?_, ?_⟩
  · intro number call response found phase
    exact follows.answered number call response found
      ((follows.consistent.calls number call found).returned response phase)
  · intro front back trace_eq cleared cleared_reached number call found registered unanswered
    have earlier_le : front ++ [.client .clear] <+: trace := ⟨back, by simp [trace_eq]⟩
    refine (closed_of_reaches bounded reached earlier_le fun middle middle_reached => ?_).unanswered
    obtain rfl := cleared_reached.unique middle_reached
    obtain ⟨before, before_reached, stepped⟩ := EventSystem.reaches_concat.mp cleared_reached
    have front_le := (List.prefix_append front [.client .clear]).trans earlier_le
    exact .of_clear (follows_of_reaches (bounded.of_front front_le) before_reached) stepped found
      registered unanswered

theorem length_calls_le (reached : (system enableChecksum).Reaches trace state) :
    state.client.calls.length ≤ trace.length := by
  refine reached.invariant
    (motive := fun trace state => state.client.calls.length ≤ trace.length) le_rfl ?_
  intro trace state event next _ length_le stepped
  rw [List.length_append, List.length_singleton]
  cases event with
  | connect =>
      obtain ⟨-, rfl⟩ := connect_eq_some_iff.mp stepped
      exact length_le.trans (Nat.le_succ _)
  | client own =>
      have grown := length_calls_step (TcpClient.step_of_eq_some (client_step stepped))
      omega

/-- Identifiers are not drawn again in a run of at most `2 ^ 32` events. -/
theorem along_lifetimesBounded (short : trace.length ≤ 2 ^ 32) :
    (system enableChecksum).Along (fun state => state.client.LifetimesBounded) trace := by
  intro front front_le state reached number call _ _
  have length_le := length_calls_le reached
  have shorter := front_le.length_le
  omega

/-- One call sends its request and waits; the client disconnects and connects again, a second call
sends its request, and the responses to both calls come in. -/
def lateResponse : List Event :=
  [.connect, .client (.call [7]), .client (.register 0), .client (.lockWrite 0),
    .client (.send 0 17), .client (.writeDone 0), .client .disconnect, .client .stopReading,
    .client .clear, .connect, .client (.call [9]), .client (.register 1), .client (.lockWrite 1),
    .client (.send 1 17), .client (.writeDone 1),
    .client (.recv ((Frame.create 0 1 [8]).serialize false ++
      (Frame.create 1 1 [10]).serialize false)),
    .client (.dispatch (Frame.create 0 1 [8])), .client (.dispatch (Frame.create 1 1 [10])),
    .client (.get 1)]

theorem responses_stay_on_connection_late :
    ∃ state, (system false).Reaches lateResponse state ∧ Answered lateResponse 1 1 [10] ∧
      ∀ call : TcpClient.Call, state.client.calls[0]? = some call → call.promise = none := by
  have cleared : ((system false).run {} (lateResponse.take 9)).bind (fun state =>
      state.client.calls[0]?.map fun call => (call.promise, call.phase)) =
        some (none, .waiting) := by decide +kernel
  have returned : ((system false).run {} lateResponse).bind (fun state =>
      state.client.calls[1]?.map fun call => (call.streamId, call.phase)) =
        some (1, .returned (some [10])) := by decide +kernel
  obtain ⟨middle, middle_reached, waiting⟩ := Option.bind_eq_some_iff.mp cleared
  obtain ⟨pending, pending_found, pending_eq⟩ := Option.map_eq_some_iff.mp waiting
  obtain ⟨unanswered, waits⟩ := Prod.mk.inj pending_eq
  obtain ⟨state, reached, answered⟩ := Option.bind_eq_some_iff.mp returned
  obtain ⟨call, found, call_eq⟩ := Option.map_eq_some_iff.mp answered
  obtain ⟨streamId_eq, phase⟩ := Prod.mk.inj call_eq
  obtain ⟨-, -, responses, closed⟩ := responses_stay_on_connection false lateResponse state
    (along_lifetimesBounded (by decide)) reached
  refine ⟨state, reached, ?_, ?_⟩
  · rw [← streamId_eq]
    exact responses 1 call [10] found phase
  · exact closed (lateResponse.take 8) (lateResponse.drop 9) rfl middle middle_reached 0 pending
      pending_found (by simp [waits]) unanswered

end ReconnectingClient
end FramedTcp
