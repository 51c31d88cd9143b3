import FramedTcp.ClientStreams
import FramedTcp.RpcServer

/-!
# Clients and server together

Any number of `TcpClient`s call one `rpcServer`.  Each connection is a pair of byte streams; what
one side has sent, the other side receives in order and in chunks of any size.  Clients and
connections are named by the server's descriptor.  A client may disconnect; the server does not
notice.
-/

namespace FramedTcp

open PrefixDecoding EventSystems FrameParser

/-- The server, its clients, and how much of each byte stream has been received. -/
structure RpcSystem where
  /-- The server. -/
  server : RpcServer := {}
  /-- The client at the other end of each connection. -/
  tcpClients : Int32 → TcpClient := fun _ => {}
  /-- Request bytes received by the server. -/
  requestsRead : Int32 → ℕ := fun _ => 0
  /-- Response bytes received by the client. -/
  responsesRead : Int32 → ℕ := fun _ => 0

namespace RpcSystem

/-- A step of one client, or of the handler of one client in the server. -/
inductive Event
  | client (id : Int32) (event : TcpClient.Event)
  | server (id : Int32) (event : RpcServer.Event)

/-- The bytes the server has sent on a connection. -/
def responsesSent (state : RpcSystem) (id : Int32) : List UInt8 :=
  match state.server.clients id with
  | some handler => handler.transmitted
  | none => []

/-- One step; `recv` returns bytes that have been sent and not been received yet. -/
def step (clientChecksum : Int32 → Bool) (serverChecksum : Bool) (state : RpcSystem) :
    Event → Option RpcSystem
  | .client id event =>
      let chunk := event.chunk?.getD []
      if chunk <+: (state.responsesSent id).drop (state.responsesRead id) then
        ((TcpClient.system (clientChecksum id)).step (state.tcpClients id) event).map fun client =>
          { state with
            tcpClients := Function.update state.tcpClients id client
            responsesRead :=
              Function.update state.responsesRead id (state.responsesRead id + chunk.length) }
      else
        none
  | .server id event =>
      let chunk := event.chunk?.getD []
      if chunk <+: (state.tcpClients id).transmitted.drop (state.requestsRead id) then
        (state.server.step serverChecksum id event).map fun server =>
          { state with
            server
            requestsRead :=
              Function.update state.requestsRead id (state.requestsRead id + chunk.length) }
      else
        none

/-- The whole system. -/
def system (clientChecksum : Int32 → Bool) (serverChecksum : Bool) :
    EventSystem RpcSystem Event where
  init := {}
  step := step clientChecksum serverChecksum

/-! ## Components -/

/-- The event of one client. -/
def clientEvent (id : Int32) : Event → Option TcpClient.Event
  | .client client event => if client = id then some event else none
  | .server _ _ => none

/-- The event of the server. -/
def serverEvent : Event → Option (Int32 × RpcServer.Event)
  | .client _ _ => none
  | .server id event => some (id, event)

variable {clientChecksum : Int32 → Bool} {serverChecksum : Bool}

theorem step_client_iff {state next : RpcSystem} {id : Int32} {event : TcpClient.Event} :
    (system clientChecksum serverChecksum).step state (.client id event) = some next ↔
      event.chunk?.getD [] <+: (state.responsesSent id).drop (state.responsesRead id) ∧
        ∃ client, (TcpClient.system (clientChecksum id)).step (state.tcpClients id) event =
            some client ∧
          next = { state with
            tcpClients := Function.update state.tcpClients id client
            responsesRead := Function.update state.responsesRead id
              (state.responsesRead id + (event.chunk?.getD []).length) } := by
  simp [system, step, eq_comm]

theorem step_server_iff {state next : RpcSystem} {id : Int32} {event : RpcServer.Event} :
    (system clientChecksum serverChecksum).step state (.server id event) = some next ↔
      event.chunk?.getD [] <+: (state.tcpClients id).transmitted.drop (state.requestsRead id) ∧
        ∃ server, state.server.step serverChecksum id event = some server ∧
          next = { state with
            server
            requestsRead := Function.update state.requestsRead id
              (state.requestsRead id + (event.chunk?.getD []).length) } := by
  simp [system, step, eq_comm]

variable (clientChecksum serverChecksum) in
/-- Each client is a component. -/
def clientComponent (id : Int32) :
    (system clientChecksum serverChecksum).Component
      (TcpClient.system (clientChecksum id)) where
  view state := state.tcpClients id
  project := clientEvent id
  view_init := rfl
  view_step := by
    intro trace state event next _ stepped
    cases event with
    | client client event =>
        obtain ⟨-, after, moved, rfl⟩ := step_client_iff.mp stepped
        by_cases own : client = id
        · subst own
          simp [clientEvent, moved]
        · simp [clientEvent, own, Function.update_of_ne (Ne.symm own)]
    | server client event =>
        obtain ⟨-, after, -, rfl⟩ := step_server_iff.mp stepped
        simp [clientEvent]

variable (clientChecksum serverChecksum) in
/-- The server is a component. -/
def serverComponent :
    (system clientChecksum serverChecksum).Component (RpcServer.system serverChecksum) where
  view := server
  project := serverEvent
  view_init := rfl
  view_step := by
    intro trace state event next _ stepped
    cases event with
    | client client event =>
        obtain ⟨-, after, -, rfl⟩ := step_client_iff.mp stepped
        simp [serverEvent]
    | server client event =>
        obtain ⟨-, after, moved, rfl⟩ := step_server_iff.mp stepped
        simpa [serverEvent, RpcServer.system] using moved

theorem client_reaches {trace : List Event} {state : RpcSystem}
    (reached : (system clientChecksum serverChecksum).Reaches trace state) (id : Int32) :
    (TcpClient.system (clientChecksum id)).Reaches (trace.filterMap (clientEvent id))
      (state.tcpClients id) :=
  (clientComponent clientChecksum serverChecksum id).reaches reached

theorem server_reaches {trace : List Event} {state : RpcSystem}
    (reached : (system clientChecksum serverChecksum).Reaches trace state) :
    (RpcServer.system serverChecksum).Reaches (trace.filterMap serverEvent) state.server :=
  (serverComponent clientChecksum serverChecksum).reaches reached

/-! ## What is received has been sent -/

end RpcSystem

theorem TcpClient.transmitted_le {enableChecksum : Bool} {client next : TcpClient}
    {event : TcpClient.Event} (stepped : TcpClient.Step enableChecksum client event next) :
    client.transmitted <+: next.transmitted := by
  cases stepped with
  | send => exact List.prefix_append _ _
  | @dispatch frame frames =>
      rcases TcpClient.handleFrame_cases { client with frames } frame with
        ⟨-, same⟩ | ⟨number, -, answered⟩ | ⟨-, thrown⟩
      · rw [same]
      · rw [answered]
        exact List.prefix_rfl
      · rw [thrown]
  | _ => exact List.prefix_rfl

/-- What has been received is a front piece of what has been sent, and stays so. -/
theorem prefix_of_drop {received sent chunk : List UInt8} (received_le : received <+: sent)
    (chunk_le : chunk <+: sent.drop received.length) : received ++ chunk <+: sent := by
  obtain ⟨rest, rfl⟩ := received_le
  rw [List.drop_left] at chunk_le
  exact (List.prefix_append_right_inj received).mpr chunk_le

namespace RpcSystem

/-- The bytes received by a client. -/
def clientReceived (id : Int32) (trace : List Event) : List UInt8 :=
  TcpClient.received (trace.filterMap (clientEvent id))

/-- The bytes received by the server on a connection. -/
def serverReceived (id : Int32) (trace : List Event) : List UInt8 :=
  RpcServer.bytesReceived id (trace.filterMap serverEvent)

/-- Both byte streams of every connection are delivered in order. -/
structure Delivered (trace : List Event) (state : RpcSystem) : Prop where
  requestsRead_eq : ∀ id, state.requestsRead id = (serverReceived id trace).length
  requests_le : ∀ id, serverReceived id trace <+: (state.tcpClients id).transmitted
  responsesRead_eq : ∀ id, state.responsesRead id = (clientReceived id trace).length
  responses_le : ∀ id, clientReceived id trace <+: state.responsesSent id

theorem clientReceived_client (trace : List Event) (id client : Int32)
    (event : TcpClient.Event) :
    clientReceived id (trace ++ [.client client event]) =
      clientReceived id trace ++ if client = id then event.chunk?.getD [] else [] := by
  by_cases own : client = id
  · cases chunk : event.chunk? <;>
      simp [clientReceived, clientEvent, own, TcpClient.received, chunk]
  · simp [clientReceived, clientEvent, own]

theorem clientReceived_server (trace : List Event) (id client : Int32)
    (event : RpcServer.Event) :
    clientReceived id (trace ++ [.server client event]) = clientReceived id trace := by
  have silent : clientEvent id (.server client event) = none := rfl
  simp [clientReceived, silent]

theorem serverReceived_server (trace : List Event) (id client : Int32)
    (event : RpcServer.Event) :
    serverReceived id (trace ++ [.server client event]) =
      serverReceived id trace ++ if client = id then event.chunk?.getD [] else [] := by
  by_cases own : client = id
  · cases chunk : event.chunk? <;>
      simp [serverReceived, serverEvent, own, RpcServer.bytesReceived, RpcServer.ownEvent,
        RpcServer.received, chunk]
  · simp [serverReceived, serverEvent, own, RpcServer.bytesReceived, RpcServer.ownEvent]

theorem serverReceived_client (trace : List Event) (id client : Int32)
    (event : TcpClient.Event) :
    serverReceived id (trace ++ [.client client event]) = serverReceived id trace := by
  have silent : serverEvent (.client client event) = none := rfl
  simp [serverReceived, silent]

theorem responsesSent_le {trace : List (Int32 × RpcServer.Event)} {state next : RpcSystem}
    {client : Int32} {event : RpcServer.Event}
    (reached : (RpcServer.system serverChecksum).Reaches trace state.server)
    (stepped : state.server.step serverChecksum client event = some next.server) (id : Int32) :
    state.responsesSent id <+: next.responsesSent id := by
  rw [RpcServer.step_eq (RpcServer.keyed_of_reaches reached)] at stepped
  obtain ⟨after, moved, next_eq⟩ := Option.map_eq_some_iff.mp stepped
  simp only [responsesSent, ← next_eq, RpcServer.setClient]
  by_cases own : id = client
  · subst own
    rw [Function.update_self]
    cases found : state.server.clients id with
    | none => exact List.nil_prefix
    | some handler => exact (RpcServer.connectionStep_keeps (found ▸ moved)).2
  · rw [Function.update_of_ne own]

theorem delivered_of_reaches {trace : List Event} {state : RpcSystem}
    (reached : (system clientChecksum serverChecksum).Reaches trace state) :
    Delivered trace state := by
  refine reached.invariant (motive := Delivered) ?_ ?_
  · exact ⟨fun _ => rfl, fun _ => List.nil_prefix, fun _ => rfl, fun _ => List.nil_prefix⟩
  · intro trace before event next before_reached delivered stepped
    cases event with
    | client client event =>
        obtain ⟨available, after, moved, rfl⟩ := step_client_iff.mp stepped
        refine ⟨fun id => ?_, fun id => ?_, fun id => ?_, fun id => ?_⟩
        · rw [serverReceived_client]
          exact delivered.requestsRead_eq id
        · rw [serverReceived_client]
          apply (delivered.requests_le id).trans
          by_cases own : id = client
          · subst own
            simpa using TcpClient.transmitted_le (TcpClient.step_of_eq_some moved)
          · simp [Function.update_of_ne own]
        · rw [clientReceived_client]
          by_cases own : id = client
          · subst own
            simp [delivered.responsesRead_eq]
          · simp [Function.update_of_ne own, Ne.symm own, delivered.responsesRead_eq]
        · rw [clientReceived_client]
          by_cases own : id = client
          · subst own
            rw [delivered.responsesRead_eq] at available
            rw [if_pos rfl]
            exact prefix_of_drop (delivered.responses_le id) available
          · rw [if_neg (Ne.symm own), List.append_nil]
            exact delivered.responses_le id
    | server client event =>
        obtain ⟨available, after, moved, rfl⟩ := step_server_iff.mp stepped
        have server_reached := server_reaches before_reached
        refine ⟨fun id => ?_, fun id => ?_, fun id => ?_, fun id => ?_⟩
        · rw [serverReceived_server]
          by_cases own : id = client
          · subst own
            simp [delivered.requestsRead_eq]
          · simp [Function.update_of_ne own, Ne.symm own, delivered.requestsRead_eq]
        · rw [serverReceived_server]
          by_cases own : id = client
          · subst own
            rw [delivered.requestsRead_eq] at available
            rw [if_pos rfl]
            exact prefix_of_drop (delivered.requests_le id) available
          · rw [if_neg (Ne.symm own), List.append_nil]
            exact delivered.requests_le id
        · rw [clientReceived_server]
          exact delivered.responsesRead_eq id
        · rw [clientReceived_server]
          exact (delivered.responses_le id).trans
            (responsesSent_le server_reached moved id)

/-! ## Every response is the call's own -/

/-- A request frame, as the server answers it. -/
def replyFrame (frame : Frame) : Frame :=
  Frame.create frame.streamId frame.sequence (RpcServer.responsePrefix ++ frame.payload)

/-- No `send` of a client fails. -/
def SendsSucceed (trace : List Event) : Prop :=
  ∀ id number, Event.client id (.sendFailed number) ∉ trace

/-- The payloads of all calls leave room for the prefix of the response. -/
def PayloadsShort (state : RpcSystem) : Prop :=
  ∀ id, ∀ call ∈ (state.tcpClients id).calls,
    call.payload.length + RpcServer.responsePrefix.length < 2 ^ 32

theorem wellFormed_request {call : TcpClient.Call}
    (short : call.payload.length + RpcServer.responsePrefix.length < 2 ^ 32) :
    call.request.WellFormed :=
  Frame.wellFormed_create _ _ (by omega)

theorem wellFormed_replyFrame {call : TcpClient.Call} (enableChecksum : Bool)
    (short : call.payload.length + RpcServer.responsePrefix.length < 2 ^ 32) :
    (replyFrame (call.request.onWire enableChecksum)).WellFormed := by
  apply Frame.wellFormed_create
  rw [List.length_append, Nat.add_comm]
  exact short

section Exchange

variable {trace : List Event} {state : RpcSystem}

/-- The frames a handler finds are requests of its client. -/
theorem requests_of_client
    (reached : (system clientChecksum serverChecksum).Reaches trace state)
    (successful : SendsSucceed trace) (short : state.PayloadsShort) (id : Int32) :
    ∀ frame ∈ decoder.messages (serverReceived id trace), ∃ call ∈ (state.tcpClients id).calls,
      frame = call.request.onWire (clientChecksum id) := by
  have client_reached := client_reaches reached id
  have own_successful : ∀ number,
      TcpClient.Event.sendFailed number ∉ trace.filterMap (clientEvent id) := by
    intro number member
    obtain ⟨event, event_member, own⟩ := List.mem_filterMap.mp member
    cases event with
    | server => contradiction
    | client client event =>
        simp only [clientEvent, Option.ite_none_right_eq_some, Option.some.injEq] at own
        obtain ⟨rfl, rfl⟩ := own
        exact successful client number event_member
  obtain ⟨sent, writing⟩ := TcpClient.writing_of_reaches own_successful client_reached
  have sent_call (frame : Frame) (member : frame ∈ sent) :
      ∃ call ∈ (state.tcpClients id).calls, call.request = frame := by
    obtain ⟨number, call, found, request_eq⟩ := writing.requested frame member
    exact ⟨call, List.mem_of_getElem? found, request_eq⟩
  have wellFormed : ∀ frame ∈ sent, frame.WellFormed := by
    intro frame member
    obtain ⟨call, call_member, rfl⟩ := sent_call frame member
    exact wellFormed_request (short id call call_member)
  have transmitted_le := List.prefix_append (state.tcpClients id).transmitted
    ((state.tcpClients id).unsent (clientChecksum id))
  have front_le := ((delivered_of_reaches reached).requests_le id).trans
    (writing.transmitted_eq ▸ transmitted_le)
  obtain ⟨done, done_le, messages_eq⟩ := PrefixDecoder.messages_of_front sent
    (encodes_serialize_of_forall wellFormed (clientChecksum id)) front_le
  intro frame member
  rw [messages_eq] at member
  obtain ⟨request, request_member, rfl⟩ := List.mem_map.mp member
  obtain ⟨call, call_member, rfl⟩ := sent_call request (done_le.subset request_member)
  exact ⟨call, call_member, rfl⟩

/-- The frames a client finds are replies to its own requests. -/
theorem replies_to_client
    (reached : (system clientChecksum serverChecksum).Reaches trace state)
    (successful : SendsSucceed trace) (short : state.PayloadsShort) (id : Int32) :
    ∀ frame ∈ decoder.messages (clientReceived id trace), ∃ call ∈ (state.tcpClients id).calls,
      frame.streamId = call.streamId.toUInt32 ∧
        frame.payload = RpcServer.responsePrefix ++ call.payload := by
  have delivered := delivered_of_reaches reached
  have requests := requests_of_client reached successful short id
  have front_le := delivered.responses_le id
  cases found : state.server.clients id with
  | none =>
      have nothing : clientReceived id trace = [] := by
        simpa [responsesSent, found] using front_le
      simp [nothing]
  | some handler =>
      have server_reached := server_reaches reached
      have serves := RpcServer.serves_of_clients server_reached found
      have pushed_le : handler.pushed <+:
          ((decoder.messages (serverReceived id trace)).map replyFrame).map
            (Frame.serialize serverChecksum) := by
        rw [List.map_map]
        exact ⟨_, serves.pushed_eq⟩
      have transmitted_le : handler.transmitted <+: handler.pushed.flatten :=
        ⟨_, serves.transmitted_eq⟩
      have wellFormed : ∀ frame ∈ (decoder.messages (serverReceived id trace)).map replyFrame,
          frame.WellFormed := by
        intro frame member
        obtain ⟨request, request_member, rfl⟩ := List.mem_map.mp member
        obtain ⟨call, call_member, rfl⟩ := requests request request_member
        exact wellFormed_replyFrame (clientChecksum id) (short id call call_member)
      have sent_le : clientReceived id trace <+:
          (((decoder.messages (serverReceived id trace)).map replyFrame).map
            (Frame.serialize serverChecksum)).flatten := by
        have sent_eq : state.responsesSent id = handler.transmitted := by
          simp [responsesSent, found]
        rw [sent_eq] at front_le
        exact front_le.trans (transmitted_le.trans pushed_le.flatten)
      obtain ⟨done, done_le, messages_eq⟩ := PrefixDecoder.messages_of_front _
        (encodes_serialize_of_forall wellFormed serverChecksum) sent_le
      intro frame member
      rw [messages_eq] at member
      obtain ⟨reply, reply_member, rfl⟩ := List.mem_map.mp member
      obtain ⟨request, request_member, rfl⟩ := List.mem_map.mp (done_le.subset reply_member)
      obtain ⟨call, call_member, rfl⟩ := requests request request_member
      exact ⟨call, call_member, rfl, rfl⟩

end Exchange

/-- Whatever the interleaving, the chunks and the timeouts: a call that returns a response returns
the prefix followed by its own payload. -/
theorem response_is_own (clientChecksum : Int32 → Bool) (serverChecksum : Bool)
    (trace : List Event) (state : RpcSystem)
    (reached : (system clientChecksum serverChecksum).Reaches trace state)
    (successful : SendsSucceed trace) (short : state.PayloadsShort)
    (few : ∀ id, (state.tcpClients id).calls.length < 2 ^ 32) :
    ∀ (id : Int32) (number : ℕ) (call : TcpClient.Call) (response : List UInt8),
      (state.tcpClients id).calls[number]? = some call →
        call.phase = .returned (some response) →
        response = RpcServer.responsePrefix ++ call.payload := by
  intro id number call response found phase
  have client_reached := client_reaches reached id
  have length_eq := TcpClient.length_calls client_reached
  have consistent := TcpClient.consistent_of_reaches
    (TcpClient.along_lifetimesBounded (length_eq ▸ (few id).le)) client_reached
  have own := consistent.calls number call found
  obtain ⟨frame, answer, rfl⟩ := own.answered response (own.returned response phase)
  have matching : frame.streamId = call.streamId.toUInt32 := by
    simpa using List.find?_some answer
  have received : frame ∈ decoder.messages (clientReceived id trace) := by
    rw [clientReceived, ← (TcpClient.reading_of_reaches client_reached).handled_eq]
    exact List.mem_append_left _
      (TcpClient.handledSince_subset (List.mem_of_find?_eq_some answer))
  obtain ⟨other, other_member, streamId_eq, payload_eq⟩ :=
    replies_to_client reached successful short id frame received
  obtain ⟨otherNumber, other_found⟩ := List.mem_iff_getElem?.mp other_member
  have same_id : Int32.ofNat number = Int32.ofNat otherNumber := by
    rw [← own.streamId_eq, ← (consistent.calls otherNumber other other_found).streamId_eq]
    exact (TcpClient.toInt32_eq_iff.mpr matching).symm.trans
      (TcpClient.toInt32_eq_iff.mpr streamId_eq)
  have inside := (List.getElem?_eq_some_iff.mp found).1
  have other_inside := (List.getElem?_eq_some_iff.mp other_found).1
  have bounded := few id
  obtain rfl : number = otherNumber :=
    TcpClient.eq_of_streamId_eq same_id (by omega) (by omega)
  obtain rfl := Option.some.inj (other_found.symm.trans found)
  exact payload_eq

/-- Every call of a client has been started in the run. -/
theorem call_mem_trace {trace : List Event} {state : RpcSystem}
    (reached : (system clientChecksum serverChecksum).Reaches trace state) {id : Int32}
    {call : TcpClient.Call} (member : call ∈ (state.tcpClients id).calls) :
    Event.client id (.call call.payload) ∈ trace := by
  have started : call.payload ∈ TcpClient.payloads (trace.filterMap (clientEvent id)) := by
    rw [← TcpClient.map_payload_calls (client_reaches reached id)]
    exact List.mem_map_of_mem member
  obtain ⟨own, own_member, payload_eq⟩ := List.mem_filterMap.mp started
  obtain ⟨event, event_member, own_eq⟩ := List.mem_filterMap.mp own_member
  cases event with
  | server => contradiction
  | client client event =>
      simp only [clientEvent, Option.ite_none_right_eq_some, Option.some.injEq] at own_eq
      obtain ⟨rfl, rfl⟩ := own_eq
      cases event with
      | call payload =>
          obtain rfl := Option.some.inj payload_eq
          exact event_member
      | _ => contradiction

theorem payloadsShort_of_calls {trace : List Event} {state : RpcSystem}
    (reached : (system clientChecksum serverChecksum).Reaches trace state)
    (short : ∀ id payload, Event.client id (.call payload) ∈ trace →
      payload.length + RpcServer.responsePrefix.length < 2 ^ 32) : state.PayloadsShort :=
  fun id call member => short id call.payload (call_mem_trace reached member)

theorem length_calls_le {trace : List Event} {state : RpcSystem}
    (reached : (system clientChecksum serverChecksum).Reaches trace state) (id : Int32) :
    (state.tcpClients id).calls.length ≤ trace.length := by
  rw [TcpClient.length_calls (client_reaches reached id)]
  exact (List.length_filterMap_le _ _).trans (List.length_filterMap_le _ _)

/-- The bytes of two requests on connection `4`; the later call has taken the write lock first. -/
def requestBytes : List UInt8 :=
  (Frame.create 1 1 [8]).serialize false ++ (Frame.create 0 1 [7]).serialize false

/-- The response to the request of a call. -/
def responseTo (streamId : UInt32) (payload : List UInt8) : Frame :=
  Frame.create streamId 1 (RpcServer.responsePrefix ++ payload)

/-- The bytes of the responses. -/
def responseBytes : List UInt8 :=
  (responseTo 1 [8]).serialize false ++ (responseTo 0 [7]).serialize false

/-- Two calls on connection `4`, the later one sent first, and one on connection `9`, all answered
by the server. -/
def exchange : List Event :=
  [.client 4 (.call [7]), .client 4 (.call [8]), .client 9 (.call [5]), .client 4 (.register 0),
    .client 9 (.register 0), .client 4 (.register 1), .client 4 (.lockWrite 1),
    .client 4 (.send 1 17), .client 9 (.lockWrite 0), .client 4 (.writeDone 1),
    .client 4 (.lockWrite 0), .client 4 (.send 0 10), .client 9 (.send 0 17),
    .client 4 (.send 0 7), .client 9 (.writeDone 0), .client 4 (.writeDone 0),
    .server 9 .accept, .server 4 .accept, .server 4 (.recv (requestBytes.take 20)),
    .server 9 (.recv ((Frame.create 0 1 [5]).serialize false)), .server 4 .dispatch,
    .server 9 .dispatch, .server 4 (.recv (requestBytes.drop 20)), .server 4 .dispatch,
    .server 4 .takeBatch, .server 9 .takeBatch, .server 4 (.send 34), .server 4 .nextData,
    .server 9 (.send 34), .server 9 .nextData, .server 4 (.send 34), .server 4 .nextData,
    .client 4 (.recv (responseBytes.take 40)),
    .client 4 (.dispatch ((responseTo 1 [8]).onWire false)),
    .client 4 (.recv (responseBytes.drop 40)),
    .client 4 (.dispatch ((responseTo 0 [7]).onWire false)),
    .client 9 (.recv ((responseTo 0 [5]).serialize false)),
    .client 9 (.dispatch ((responseTo 0 [5]).onWire false)), .client 4 (.get 0),
    .client 4 (.get 1), .client 9 (.get 0)]

theorem sendsSucceed_exchange : SendsSucceed exchange :=
  fun id number member => by simp [exchange] at member

theorem exists_reaches_exchange :
    ∃ state, (system (fun _ => false) false).Reaches exchange state ∧ state.PayloadsShort ∧
      (∀ id, (state.tcpClients id).calls.length < 2 ^ 32) ∧
      (state.tcpClients 4).calls.map TcpClient.Call.phase =
        [.returned (some (RpcServer.responsePrefix ++ [7])),
          .returned (some (RpcServer.responsePrefix ++ [8]))] ∧
      (state.tcpClients 9).calls.map TcpClient.Call.phase =
        [.returned (some (RpcServer.responsePrefix ++ [5]))] := by
  have answered : (((system (fun _ => false) false).run {} exchange).map fun state =>
      ((state.tcpClients 4).calls.map TcpClient.Call.phase,
        (state.tcpClients 9).calls.map TcpClient.Call.phase)) =
      some ([.returned (some (RpcServer.responsePrefix ++ [7])),
        .returned (some (RpcServer.responsePrefix ++ [8]))],
          [.returned (some (RpcServer.responsePrefix ++ [5]))]) := by decide +kernel
  obtain ⟨state, reached, answered⟩ := Option.map_eq_some_iff.mp answered
  obtain ⟨first, second⟩ := Prod.mk.inj answered
  have prefix_length : RpcServer.responsePrefix.length = 17 := by decide +kernel
  refine ⟨state, reached, payloadsShort_of_calls reached fun id payload member => ?_, fun id => ?_,
    first, second⟩
  · have short : payload.length = 1 := by
      have listed : (id = 4 ∧ payload = [7]) ∨ (id = 4 ∧ payload = [8]) ∨
          id = 9 ∧ payload = [5] := by simpa [exchange] using member
      rcases listed with ⟨-, rfl⟩ | ⟨-, rfl⟩ | ⟨-, rfl⟩ <;> rfl
    rw [short, prefix_length]
    decide
  · exact (length_calls_le reached id).trans_lt (by decide)

/-- Each of the three calls has returned its own response. -/
theorem response_is_own_exchange :
    ∃ state, (system (fun _ => false) false).Reaches exchange state ∧
      ∀ id ∈ [(4 : Int32), 9], ∀ call ∈ (state.tcpClients id).calls,
        call.phase = .returned (some (RpcServer.responsePrefix ++ call.payload)) := by
  obtain ⟨state, reached, short, few, first, second⟩ := exists_reaches_exchange
  refine ⟨state, reached, fun id own call member => ?_⟩
  obtain ⟨number, found⟩ := List.mem_iff_getElem?.mp member
  obtain ⟨response, phase⟩ : ∃ response, call.phase = .returned (some response) := by
    have listed := List.mem_map_of_mem (f := TcpClient.Call.phase) member
    rcases List.mem_pair.mp own with rfl | rfl
    · rw [first] at listed
      rcases List.mem_pair.mp listed with phase | phase
      · exact ⟨_, phase⟩
      · exact ⟨_, phase⟩
    · rw [second] at listed
      exact ⟨_, List.mem_singleton.mp listed⟩
  rw [phase, response_is_own _ _ exchange state reached sendsSucceed_exchange short few id number
    call response found phase]

end RpcSystem
end FramedTcp
