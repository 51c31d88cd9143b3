import FramedTcp.RpcProgress

/-!
# Every call completes

Whatever the other clients do short of disconnecting, and whichever of a connection's threads goes
first: as long as nothing fails on the connection, the calls of its client return after finitely
many steps of its threads.  Had the server noticed the end of any connection, it would have
destroyed a handler whose threads have not been joined, which hangs or terminates the process.
-/

namespace FramedTcp

open PrefixDecoding EventSystems FrameParser

/-! ## Work of the client -/

namespace TcpClient

variable {enableChecksum : Bool} {event : Event} {client next : TcpClient}

/-- Steps left, at most, before the request of a call has been sent. -/
def Call.requestWork (enableChecksum : Bool) (call : Call) : ℕ :=
  match call.phase with
  | .allocated => 3 + (call.request.serialize enableChecksum).length
  | .registered => 2 + (call.request.serialize enableChecksum).length
  | .writing => 1 + ((call.request.serialize enableChecksum).length - call.totalSent)
  | _ => 0

/-- Steps left, at most, before the requests of all calls have been sent. -/
def requestWork (enableChecksum : Bool) (client : TcpClient) : ℕ :=
  (client.calls.map (Call.requestWork enableChecksum)).sum

/-- The client has sent more of its requests, handled a response or let a call return. -/
inductive Advances (enableChecksum : Bool) (client next : TcpClient) : Prop
  | sends (less : next.requestWork enableChecksum < client.requestWork enableChecksum)
  | handles (same : next.requestWork enableChecksum = client.requestWork enableChecksum)
      (transmitted_eq : next.transmitted = client.transmitted)
      (less : next.frames.length < client.frames.length)
  | returns (same : next.requestWork enableChecksum = client.requestWork enableChecksum)
      (transmitted_eq : next.transmitted = client.transmitted)
      (frames_eq : next.frames = client.frames) (less : next.getWork < client.getWork)

/-- A call that returns had nothing left to send. -/
theorem advances_of_return {number : ℕ} {call : Call} (found : client.calls[number]? = some call)
    (ready : call.phase = .waiting ∨ call.phase = .timedOut) (response : Option (List UInt8))
    (next_calls : next.calls = (client.setPhase number (.returned response)).calls)
    (transmitted_eq : next.transmitted = client.transmitted)
    (frames_eq : next.frames = client.frames) : Advances enableChecksum client next := by
  refine .returns ?_ transmitted_eq frames_eq ?_
  · rw [requestWork, next_calls]
    refine sum_modify_eq fun other other_found => ?_
    obtain rfl := Option.some.inj (other_found.symm.trans found)
    rcases ready with phase | phase <;> simp [Call.requestWork, phase]
  · rw [getWork, next_calls]
    refine sum_modify_lt found ?_
    rcases ready with phase | phase <;> simp [Call.getWork, phase]

/-- Every event by which the client goes on advances it, or receives something. -/
theorem advances_of_step (proceeds : event.Proceeds)
    (stepped : Step enableChecksum client event next) :
    (∃ chunk, event = .recv chunk ∧ chunk ≠ [] ∧
        next.requestWork enableChecksum = client.requestWork enableChecksum ∧
          next.transmitted = client.transmitted) ∨
      event.chunk? = none ∧ Advances enableChecksum client next := by
  cases stepped with
  | call | sendInterrupted | sendFailed | eraseFailed | timeout | stopReading | disconnect
  | clear => exact proceeds.elim
  | recv reading handled nonempty => exact .inl ⟨_, rfl, nonempty, rfl, rfl⟩
  | register found phase =>
      refine .inr ⟨rfl, .sends (sum_modify_lt found ?_)⟩
      simp [Call.requestWork, phase, Call.request]
  | lockWrite found phase =>
      refine .inr ⟨rfl, .sends (sum_modify_lt found ?_)⟩
      simp only [Call.requestWork, phase, Call.request]
      omega
  | send found phase _ positive inside =>
      refine .inr ⟨rfl, .sends (sum_modify_lt found ?_)⟩
      simp only [Call.requestWork, phase, Call.request] at inside ⊢
      simp only [List.length_take, List.length_drop]
      omega
  | writeDone found phase =>
      refine .inr ⟨rfl, .sends (sum_modify_lt found ?_)⟩
      simp only [Call.requestWork, phase]
      omega
  | eraseTimedOut found phase =>
      exact .inr ⟨rfl, advances_of_return found (.inr phase) none rfl rfl rfl⟩
  | get found phase => exact .inr ⟨rfl, advances_of_return found (.inl phase) _ rfl rfl rfl⟩
  | @dispatch frame frames waiting =>
      refine .inr ⟨rfl, ?_⟩
      have less : frames.length < client.frames.length := by
        rw [waiting]
        exact Nat.lt_succ_self _
      rcases handleFrame_cases { client with frames } frame with
        ⟨-, same⟩ | ⟨number, -, answered⟩ | ⟨-, thrown⟩
      · rw [same]
        exact .handles rfl rfl less
      · rw [answered]
        exact .handles (sum_modify_eq fun _ _ => rfl) rfl less
      · rw [thrown]
        exact .handles rfl rfl less

end TcpClient

/-! ## Work of a handler -/

namespace RpcServer

/-- Steps left, at most, before a handler has sent the responses at hand. -/
def handlerWork : Option ClientHandler → ℕ
  | some handler =>
      2 * handler.outgoingQueue.length + handler.pendingData.length +
        (handler.outgoingQueue.flatten.length +
          (handler.pendingData.flatten.length - handler.totalSent))
  | none => 0

/-- Every event of a handler receives something, dispatches a frame or sends more of a response. -/
theorem advances_of_connectionStep {enableChecksum : Bool} {id : Int32}
    {before : Option ClientHandler} {event : Event} {after : ClientHandler}
    (totalSent_le : ∀ handler, before = some handler →
      handler.totalSent ≤ (handler.pendingData.headD []).length)
    (moved : connectionStep enableChecksum id before event = some after) :
    (∃ chunk, event = .recv chunk ∧ chunk ≠ []) ∨
      event.chunk? = none ∧
        (RpcSystem.dispatchWork (some after) < RpcSystem.dispatchWork before ∨
          RpcSystem.dispatchWork (some after) = RpcSystem.dispatchWork before ∧
            handlerWork (some after) < handlerWork before) := by
  cases before with
  | none =>
      cases event with
      | accept =>
          obtain rfl := Option.some.inj moved
          exact .inr ⟨rfl, .inl Nat.one_pos⟩
      | _ => contradiction
  | some handler =>
      have sent_le := totalSent_le handler rfl
      cases event with
      | accept => contradiction
      | recv chunk =>
          obtain ⟨⟨-, nonempty⟩, -⟩ := ClientHandler.receive_eq_some_iff.mp moved
          exact .inl ⟨chunk, rfl, nonempty⟩
      | dispatch =>
          refine .inr ⟨rfl, .inl ?_⟩
          cases waiting : handler.frames with
          | nil => simp [connectionStep, answerNext, waiting] at moved
          | cons frame frames =>
              simp only [connectionStep, answerNext, waiting, Option.some.injEq] at moved
              rw [← moved]
              simp [RpcSystem.dispatchWork, ClientHandler.write, waiting]
      | takeBatch =>
          obtain ⟨⟨finished, queued⟩, rfl⟩ := ClientHandler.takeBatch_eq_some_iff.mp moved
          have positive := List.length_pos_iff.mpr queued
          refine .inr ⟨rfl, .inr ⟨rfl, ?_⟩⟩
          simp only [handlerWork, finished, List.flatten_nil, List.length_nil]
          omega
      | send count =>
          obtain ⟨data, rest, pending, ⟨positive, inside⟩, rfl⟩ :=
            ClientHandler.send_eq_some_iff.mp moved
          refine .inr ⟨rfl, .inr ⟨rfl, ?_⟩⟩
          simp only [handlerWork, pending, List.flatten_cons, List.length_append]
          omega
      | nextData =>
          obtain ⟨data, rest, pending, whole, rfl⟩ := ClientHandler.nextData_eq_some_iff.mp moved
          refine .inr ⟨rfl, .inr ⟨rfl, ?_⟩⟩
          simp only [handlerWork, pending, whole, List.flatten_cons, List.length_append,
            List.length_cons]
          omega

end RpcServer

namespace RpcSystem

variable {clientChecksum : Int32 → Bool} {serverChecksum : Bool} {trace : List Event}
  {state next : RpcSystem} {id : Int32} {event : Event}

/-! ## Work of a connection -/

/-- The work at hand on one connection, in the order in which it is passed on. -/
def connectionWork (clientChecksum : Int32 → Bool) (id : Int32) (state : RpcSystem) :
    ℕ ×ₗ ℕ ×ₗ ℕ ×ₗ ℕ ×ₗ ℕ ×ₗ ℕ ×ₗ ℕ :=
  toLex (TcpClient.requestWork (clientChecksum id) (state.tcpClients id),
    toLex (state.unreadRequests id, toLex (dispatchWork (state.server.clients id),
      toLex (RpcServer.handlerWork (state.server.clients id), toLex (state.unreadResponses id,
        toLex ((state.tcpClients id).frames.length, (state.tcpClients id).getWork))))))

/-- Receiving bytes on their way leaves fewer on their way. -/
theorem unread_lt {sent chunk : List UInt8} {received : ℕ}
    (available : chunk <+: sent.drop received) (nonempty : chunk ≠ []) :
    sent.length - (received + chunk.length) < sent.length - received := by
  have inside := available.length_le
  have positive := List.length_pos_iff.mpr nonempty
  rw [List.length_drop] at inside
  omega

/-- Every event by which a connection goes on leaves less work. -/
theorem connectionWork_lt (reached : (system clientChecksum serverChecksum).Reaches trace state)
    (proceeds : event.Proceeds id)
    (stepped : (system clientChecksum serverChecksum).step state event = some next) :
    connectionWork clientChecksum id next < connectionWork clientChecksum id state := by
  cases event with
  | client own event =>
      obtain ⟨rfl, proceeds⟩ := proceeds
      obtain ⟨available, client, moved, rfl⟩ := step_client_iff.mp stepped
      rcases TcpClient.advances_of_step proceeds (TcpClient.step_of_eq_some moved) with
        ⟨chunk, rfl, nonempty, same, transmitted_eq⟩ | ⟨silent, advances⟩
      · have less := unread_lt available nonempty
        simp only [responsesSent, TcpClient.Event.chunk?, Option.getD_some] at less
        simp [connectionWork, Prod.Lex.toLex_lt_toLex, unreadRequests, unreadResponses,
          responsesSent, TcpClient.Event.chunk?, same, transmitted_eq, less]
      · cases advances with
        | sends less => simp [connectionWork, Prod.Lex.toLex_lt_toLex, less]
        | handles same transmitted_eq less =>
            simp [connectionWork, Prod.Lex.toLex_lt_toLex, unreadRequests, unreadResponses,
              responsesSent, silent, same, transmitted_eq, less]
        | returns same transmitted_eq frames_eq less =>
            simp [connectionWork, Prod.Lex.toLex_lt_toLex, unreadRequests, unreadResponses,
              responsesSent, silent, same, transmitted_eq, frames_eq, less]
  | server own event =>
      obtain rfl := proceeds
      obtain ⟨available, server, moved, rfl⟩ := step_server_iff.mp stepped
      have server_reached := server_reaches reached
      rw [RpcServer.step_eq (RpcServer.keyed_of_reaches server_reached)] at moved
      obtain ⟨after, own_moved, rfl⟩ := Option.map_eq_some_iff.mp moved
      rcases RpcServer.advances_of_connectionStep
        (fun handler found => (RpcServer.serves_of_clients server_reached found).totalSent_le)
        own_moved with ⟨chunk, rfl, nonempty⟩ | ⟨silent, less | ⟨dispatch_eq, less⟩⟩
      · have less := unread_lt available nonempty
        simp only [RpcServer.Event.chunk?, Option.getD_some] at less
        simp [connectionWork, Prod.Lex.toLex_lt_toLex, unreadRequests, RpcServer.Event.chunk?, less]
      · simp [connectionWork, Prod.Lex.toLex_lt_toLex, unreadRequests, RpcServer.setClient, silent,
          less]
      · simp [connectionWork, Prod.Lex.toLex_lt_toLex, unreadRequests, RpcServer.setClient, silent,
          dispatch_eq, less]

/-! ## A connection by itself -/

/-- The connection on which an event happens. -/
def Event.connection : Event → Int32
  | .client id _ | .server id _ => id

/-- One connection, without the others. -/
def alone (id : Int32) (state : RpcSystem) : RpcSystem where
  server := RpcServer.setClient {} id (state.server.clients id)
  tcpClients := Function.update (fun _ => {}) id (state.tcpClients id)
  requestsRead := Function.update (fun _ => 0) id (state.requestsRead id)
  responsesRead := Function.update (fun _ => 0) id (state.responsesRead id)

@[simp]
theorem alone_tcpClients (id : Int32) (state : RpcSystem) :
    (state.alone id).tcpClients id = state.tcpClients id := by
  simp [alone]

@[simp]
theorem alone_clients (id : Int32) (state : RpcSystem) :
    (state.alone id).server.clients id = state.server.clients id := by
  simp [alone, RpcServer.setClient]

@[simp]
theorem alone_requestsRead (id : Int32) (state : RpcSystem) :
    (state.alone id).requestsRead id = state.requestsRead id := by
  simp [alone]

@[simp]
theorem alone_responsesRead (id : Int32) (state : RpcSystem) :
    (state.alone id).responsesRead id = state.responsesRead id := by
  simp [alone]

@[simp]
theorem alone_responsesSent (id : Int32) (state : RpcSystem) :
    (state.alone id).responsesSent id = state.responsesSent id := by
  rw [responsesSent, alone_clients, responsesSent]

/-- A connection takes its steps as if it were alone. -/
theorem step_alone (keyed : state.server.Keyed) (own : event.connection = id) :
    (system clientChecksum serverChecksum).step (state.alone id) event =
      ((system clientChecksum serverChecksum).step state event).map (alone id) := by
  cases event with
  | client client event =>
      obtain rfl : client = id := own
      simp only [system, step, alone_responsesSent, alone_responsesRead, alone_tcpClients]
      split
      · rw [Option.map_map]
        congr 1
        funext after
        simp [alone]
      · rfl
  | server client event =>
      obtain rfl : client = id := own
      have alone_keyed : (state.alone client).server.Keyed := by
        intro id handler found
        by_cases own : id = client
        · subst own
          exact keyed id handler (alone_clients id state ▸ found)
        · simp [alone, RpcServer.setClient, Function.update_of_ne own] at found
      simp only [system, step, alone_requestsRead, alone_tcpClients]
      rw [RpcServer.step_eq keyed, RpcServer.step_eq alone_keyed, alone_clients]
      split
      · rw [Option.map_map, Option.map_map, Option.map_map]
        congr 1
        funext after
        simp [alone, RpcServer.setClient]
      · rfl

/-- Other connections leave a connection alone. -/
theorem alone_of_step (keyed : state.server.Keyed) (other : event.connection ≠ id)
    (stepped : (system clientChecksum serverChecksum).step state event = some next) :
    next.alone id = state.alone id := by
  cases event with
  | client client event =>
      replace other : id ≠ client := Ne.symm other
      obtain ⟨-, after, -, rfl⟩ := step_client_iff.mp stepped
      simp [alone, Function.update_of_ne other]
  | server client event =>
      replace other : id ≠ client := Ne.symm other
      obtain ⟨-, after, moved, rfl⟩ := step_server_iff.mp stepped
      rw [RpcServer.step_eq keyed] at moved
      obtain ⟨handler, -, rfl⟩ := Option.map_eq_some_iff.mp moved
      simp [alone, RpcServer.setClient, Function.update_of_ne other]

/-- What a connection does in a run, it can do alone. -/
theorem alone_reaches (reached : (system clientChecksum serverChecksum).Reaches trace state)
    (id : Int32) :
    (system clientChecksum serverChecksum).Reaches
      (trace.filter fun event => event.connection = id) (state.alone id) := by
  refine reached.invariant (motive := fun trace state =>
    (system clientChecksum serverChecksum).Reaches
      (trace.filter fun event => event.connection = id) (state.alone id)) ?_ ?_
  · have initial : (RpcSystem.alone id {}) = {} := by simp [alone, RpcServer.setClient]
    exact initial ▸ EventSystem.reaches_nil
  · intro trace before event after before_reached before_alone stepped
    have keyed := RpcServer.keyed_of_reaches (server_reaches before_reached)
    rw [List.filter_append]
    by_cases own : event.connection = id
    · rw [List.filter_singleton, decide_eq_true own, cond_true]
      refine EventSystem.reaches_concat.mpr ⟨_, before_alone, ?_⟩
      rw [step_alone keyed own, stepped, Option.map_some]
    · rw [List.filter_singleton, decide_eq_false own, cond_false, List.append_nil,
        alone_of_step keyed own stepped]
      exact before_alone

/-! ## Whatever the others do -/

/-- What is assumed of a run with regard to one connection: no client has disconnected, and of the
connection's own client the sends succeed, payloads leave room for the prefix, and stream
identifiers are not drawn again. -/
structure RegularOn (id : Int32) (trace : List Event) (state : RpcSystem) : Prop where
  connected : ∀ client, Event.client client .disconnect ∉ trace
  successful : ∀ number, Event.client id (.sendFailed number) ∉ trace
  short : ∀ call ∈ (state.tcpClients id).calls,
    call.payload.length + RpcServer.responsePrefix.length < 2 ^ 32
  few : (state.tcpClients id).calls.length < 2 ^ 32

/-- A connection that is regular is so alone. -/
theorem RegularOn.regular (regular : RegularOn id trace state) :
    Regular (trace.filter fun event => event.connection = id) (state.alone id) := by
  refine ⟨fun client number listed => ?_, fun client => ?_, fun client => ?_⟩
  · obtain ⟨member, own⟩ := List.mem_filter.mp listed
    obtain rfl : client = id := of_decide_eq_true own
    exact regular.successful number member
  · by_cases own : client = id
    · subst own
      simpa using regular.short
    · simp [alone, Function.update_of_ne own]
  · by_cases own : client = id
    · subst own
      simpa using regular.few
    · simp [alone, Function.update_of_ne own]

/-- No client disconnects, and on one connection no call is started, times out or fails to send and
the client does not stop reading; an interrupted `send` is tried again. -/
def Event.undisturbed (id : Int32) : Event → Bool
  | .client own event =>
      match event with
      | .register _ | .lockWrite _ | .send _ _ | .sendInterrupted _ | .writeDone _
      | .eraseTimedOut _ | .get _ | .recv _ | .dispatch _ => true
      | .disconnect => false
      | _ => own != id
  | .server _ _ => true

variable (clientChecksum serverChecksum) in
/-- The whole system, while one connection is left undisturbed. -/
def undisturbed (id : Int32) : EventSystem RpcSystem Event :=
  (system clientChecksum serverChecksum).restrict fun _ event => event.undisturbed id

/-- The events by which a connection goes on do not disturb it. -/
theorem Event.Proceeds.undisturbed (proceeds : event.Proceeds id) : event.undisturbed id := by
  cases event with
  | server => rfl
  | client own event =>
      obtain ⟨rfl, proceeds⟩ := proceeds
      cases event <;> first | exact proceeds.elim | simp [Event.undisturbed]

/-- Nothing else that is allowed changes the connection. -/
theorem alone_of_foreign (keyed : state.server.Keyed) (allowed : event.undisturbed id)
    (foreign : ¬ event.Proceeds id)
    (stepped : (system clientChecksum serverChecksum).step state event = some next) :
    next.alone id = state.alone id := by
  by_cases own : event.connection = id
  · cases event with
    | server client event => exact absurd own foreign
    | client client event =>
        obtain rfl : client = id := own
        obtain ⟨-, after, moved, rfl⟩ := step_client_iff.mp stepped
        have step := TcpClient.step_of_eq_some moved
        simp only [Event.undisturbed, bne_self_eq_false] at allowed
        replace foreign : ¬ event.Proceeds := fun proceeds => foreign ⟨rfl, proceeds⟩
        cases step with
        | sendInterrupted => simp [alone, TcpClient.Event.chunk?]
        | call | sendFailed | eraseFailed | timeout | stopReading | disconnect | clear =>
            contradiction
        | _ => exact absurd trivial foreign
  · exact alone_of_step keyed own stepped

@[simp]
theorem connectionWork_alone (clientChecksum : Int32 → Bool) (id : Int32) (state : RpcSystem) :
    connectionWork clientChecksum id (state.alone id) = connectionWork clientChecksum id state := by
  simp [connectionWork, unreadRequests, unreadResponses]

theorem Event.Proceeds.connection_eq (proceeds : event.Proceeds id) : event.connection = id := by
  cases event with
  | client => exact proceeds.1
  | server => exact proceeds

/-- The connection has gone on from `start` amid the steps of the others. -/
structure UnderwayAmid (clientChecksum : Int32 → Bool) (serverChecksum : Bool) (front : List Event)
    (start : RpcSystem) (id : Int32) (state : RpcSystem) : Prop where
  reached : ∃ trace, (system clientChecksum serverChecksum).Reaches trace state
  underway : Underway clientChecksum serverChecksum front (start.alone id) id (state.alone id)

namespace UnderwayAmid

variable {front : List Event} {start : RpcSystem}

theorem keyed (amid : UnderwayAmid clientChecksum serverChecksum front start id state) :
    state.server.Keyed := by
  obtain ⟨trace, reached⟩ := amid.reached
  exact RpcServer.keyed_of_reaches (server_reaches reached)

/-- Until its calls have returned, some thread of the connection can go on. -/
theorem completed_or_possible
    (amid : UnderwayAmid clientChecksum serverChecksum front start id state)
    (regular : Regular front (start.alone id))
    (start_reached : (system clientChecksum serverChecksum).Reaches front (start.alone id)) :
    Completed id start state ∨ ∃ event next, event.Proceeds id ∧
      (undisturbed clientChecksum serverChecksum id).step state event = some next := by
  rcases amid.underway.returned_or_progresses regular start_reached with
    returned | ⟨event, after, proceeds, stepped, -⟩
  · left
    simpa [Completed] using amid.underway.completed regular start_reached returned
  · right
    rw [step_alone amid.keyed proceeds.connection_eq] at stepped
    obtain ⟨next, stepped, -⟩ := Option.map_eq_some_iff.mp stepped
    exact ⟨event, next, proceeds,
      EventSystem.restrict_step_iff.mpr ⟨proceeds.undisturbed, stepped⟩⟩

/-- An event of the connection takes it further. -/
theorem own (amid : UnderwayAmid clientChecksum serverChecksum front start id state)
    (proceeds : event.Proceeds id)
    (stepped : (system clientChecksum serverChecksum).step state event = some next) :
    UnderwayAmid clientChecksum serverChecksum front start id next ∧
      connectionWork clientChecksum id next < connectionWork clientChecksum id state := by
  obtain ⟨trace, reached⟩ := amid.reached
  have alone_stepped :
      (system clientChecksum serverChecksum).step (state.alone id) event =
        some (next.alone id) := by
    rw [step_alone amid.keyed proceeds.connection_eq, stepped, Option.map_some]
  exact ⟨⟨⟨_, EventSystem.reaches_concat.mpr ⟨state, reached, stepped⟩⟩,
    amid.underway.step proceeds alone_stepped⟩, connectionWork_lt reached proceeds stepped⟩

/-- The other events leave it where it is. -/
theorem foreign (amid : UnderwayAmid clientChecksum serverChecksum front start id state)
    (allowed : event.undisturbed id) (foreign : ¬ event.Proceeds id)
    (stepped : (system clientChecksum serverChecksum).step state event = some next) :
    UnderwayAmid clientChecksum serverChecksum front start id next ∧
      connectionWork clientChecksum id next ≤ connectionWork clientChecksum id state := by
  obtain ⟨trace, reached⟩ := amid.reached
  have same := alone_of_foreign amid.keyed allowed foreign stepped
  refine ⟨⟨⟨_, EventSystem.reaches_concat.mpr ⟨state, reached, stepped⟩⟩, same ▸ amid.underway⟩, ?_⟩
  rw [← connectionWork_alone, same, connectionWork_alone]

end UnderwayAmid

/-- Whatever the other connections do in the meantime, and for however long: while a connection is
left undisturbed and no client disconnects, all calls of its client return after finitely many steps
of its threads, with their own responses unless they had failed before.  The server's side has no
end of stream and no failing `send`. -/
theorem every_call_returns (clientChecksum : Int32 → Bool) (serverChecksum : Bool)
    (trace : List Event) (state : RpcSystem)
    (reached : (system clientChecksum serverChecksum).Reaches trace state) (id : Int32)
    (regular : RegularOn id trace state) (connected : (state.tcpClients id).socket = true)
    (reading : (state.tcpClients id).reading = true) :
    (undisturbed clientChecksum serverChecksum id).InevitablyAmid (Event.Proceeds id)
      (Completed id state) state := by
  have alone_reached := alone_reaches reached id
  refine EventSystem.inevitablyAmid_of_variant (connectionWork clientChecksum id)
    (fun current amid => UnderwayAmid.completed_or_possible amid regular.regular alone_reached)
    ?_ ?_ state ⟨⟨trace, reached⟩, Underway.initial alone_reached ?_ ?_⟩
  · intro current event next amid proceeds stepped
    exact .inr (amid.own proceeds (EventSystem.restrict_step_iff.mp stepped).2)
  · intro current event next amid foreign stepped
    obtain ⟨allowed, stepped⟩ := EventSystem.restrict_step_iff.mp stepped
    exact amid.foreign allowed foreign stepped
  · simpa using connected
  · simpa using reading

/-- A call whose request is sent in part, and a call of another client whose `send` has failed. -/
def otherFailed : List Event :=
  [.client 4 (.call [7]), .client 4 (.register 0), .client 9 (.call [1]), .client 9 (.register 0),
    .client 4 (.lockWrite 0), .client 9 (.lockWrite 0), .client 4 (.send 0 10),
    .client 9 (.sendFailed 0)]

theorem every_call_returns_otherFailed :
    ∃ state, (system (fun _ => false) false).Reaches otherFailed state ∧
      (undisturbed (fun _ => false) false 4).InevitablyAmid (Event.Proceeds 4)
        (Completed 4 state) state := by
  have started : (((system (fun _ => false) false).run {} otherFailed).map fun state =>
      ((state.tcpClients 4).calls.map TcpClient.Call.payload, (state.tcpClients 4).socket,
        (state.tcpClients 4).reading)) = some ([[7]], true, true) := by decide +kernel
  obtain ⟨state, reached, started⟩ := Option.map_eq_some_iff.mp started
  obtain ⟨payloads_eq, connected, reading⟩ :
      (state.tcpClients 4).calls.map TcpClient.Call.payload = [[7]] ∧
        (state.tcpClients 4).socket = true ∧ (state.tcpClients 4).reading = true := by
    simpa using started
  have prefix_length : RpcServer.responsePrefix.length = 17 := by decide +kernel
  have regular : RegularOn 4 otherFailed state := by
    refine ⟨fun client member => by simp [otherFailed] at member,
      fun number member => by simp [otherFailed] at member, fun call member => ?_, ?_⟩
    · have payload := List.mem_map_of_mem (f := TcpClient.Call.payload) member
      rw [payloads_eq, List.mem_singleton] at payload
      rw [payload, prefix_length]
      decide
    · have length_eq := congrArg List.length payloads_eq
      rw [List.length_map] at length_eq
      rw [length_eq]
      decide
  exact ⟨state, reached,
    every_call_returns _ _ otherFailed state reached 4 regular connected reading⟩

end RpcSystem
end FramedTcp
