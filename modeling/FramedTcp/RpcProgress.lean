import FramedTcp.RpcOrder

/-!
# Every call can complete

In no reachable state are the client and the server stuck: whatever has happened so far, once the
threads of one connection go on and nothing more fails, every call of its client returns, with its
own response unless it had failed before.
-/

namespace FramedTcp

open PrefixDecoding EventSystems FrameParser

/-! ## Steps of the client -/

namespace TcpClient

variable {enableChecksum : Bool} {trace : List Event} {event : Event} {client next : TcpClient}

/-- Every step described is possible while the process runs. -/
theorem step_eq_some (alive : client.terminated = false)
    (stepped : Step enableChecksum client event next) :
    (system enableChecksum).step client event = some next := by
  have running : (system enableChecksum).step client event =
      client.stepAlive enableChecksum event := by
    simp [system, alive]
  rw [running]
  cases stepped with
  | call | disconnect => rfl
  | register found phase | sendInterrupted found phase | sendFailed found phase
  | eraseFailed found phase | eraseTimedOut found phase =>
      exact callStep_eq_some_iff.mpr ⟨_, found, phase, rfl⟩
  | lockWrite found phase free =>
      exact callStep_eq_some_iff.mpr ⟨_, found, phase, if_pos free⟩
  | send found phase connected positive inside =>
      exact callStep_eq_some_iff.mpr ⟨_, found, phase, if_pos ⟨connected, positive, inside⟩⟩
  | writeDone found phase all_sent =>
      exact callStep_eq_some_iff.mpr ⟨_, found, phase, if_pos all_sent⟩
  | timeout found phase unanswered =>
      exact callStep_eq_some_iff.mpr ⟨_, found, phase, if_pos unanswered⟩
  | get found phase answered =>
      exact callStep_eq_some_iff.mpr ⟨_, found, phase, by rw [answered]⟩
  | recv reading handled nonempty => exact if_pos ⟨reading, handled, nonempty⟩
  | dispatch next => simp only [stepAlive, next, if_pos]
  | stopReading reading handled => exact if_pos ⟨reading, handled⟩
  | clear stopped joined => exact if_pos ⟨stopped, joined⟩

/-- The events by which calls and responses go on; nothing fails, times out or is started. -/
def Event.Proceeds : Event → Prop
  | .register _ | .lockWrite _ | .send _ _ | .writeDone _ | .eraseTimedOut _ | .get _ | .recv _
  | .dispatch _ => True
  | _ => False

/-- What an event by which the client goes on leaves alone. -/
theorem proceeds_keeps (proceeds : event.Proceeds)
    (stepped : Step enableChecksum client event next) :
    next.socket = client.socket ∧ next.reading = client.reading ∧
      next.calls.length = client.calls.length := by
  cases stepped with
  | call | sendInterrupted | sendFailed | eraseFailed | timeout | stopReading | disconnect
  | clear => exact proceeds.elim
  | recv => exact ⟨rfl, rfl, rfl⟩
  | @dispatch frame frames =>
      rcases handleFrame_cases { client with frames } frame with
        ⟨-, same⟩ | ⟨number, -, answered⟩ | ⟨-, thrown⟩
      · rw [same]
        exact ⟨rfl, rfl, rfl⟩
      · rw [answered]
        exact ⟨rfl, rfl, List.length_modify _ _ _⟩
      · rw [thrown]
        exact ⟨rfl, rfl, rfl⟩
  | _ => exact ⟨rfl, rfl, List.length_modify _ _ _⟩

/-- A call that has registered and has not given up. -/
def Call.Awaiting (call : Call) : Prop :=
  call.phase = .registered ∨ call.phase = .writing ∨ call.phase = .waiting

theorem reading_of_step (stepped : Step enableChecksum client event next)
    (reading : next.reading = true) : client.reading = true := by
  cases stepped with
  | stopReading => contradiction
  | @dispatch frame frames =>
      rcases handleFrame_cases { client with frames } frame with
        ⟨-, same⟩ | ⟨number, -, answered⟩ | ⟨-, thrown⟩
      · rwa [same] at reading
      · rwa [answered] at reading
      · rwa [thrown] at reading
  | _ => exact reading

/-- The event of a step that neither answers nor fails a call closes it only by mistake. -/
theorem not_closes_of_moves (consistent : Consistent trace client) (reading : client.reading = true)
    (stepped : Step enableChecksum client event next) {number : ℕ} {before after : Call}
    (found : client.calls[number]? = some before)
    (outstanding : Outstanding trace number before.streamId)
    (failing : before.phase ≠ .writeFailed) (timedOut : before.phase ≠ .timedOut)
    (moves : Moves client number before event after) (unanswered : after.promise = none) :
    ¬ event.Closes number before.streamId := by
  have streamId_eq := (consistent.calls number before found).streamId_eq
  have handler := (consistent.handlers before.streamId number).mpr ⟨streamId_eq, outstanding⟩
  intro closes
  cases stepped with
  | eraseFailed other_found phase =>
      obtain rfl := closes
      exact failing (Option.some.inj (found.symm.trans other_found) ▸ phase)
  | eraseTimedOut other_found phase =>
      obtain rfl := closes
      exact timedOut (Option.some.inj (found.symm.trans other_found) ▸ phase)
  | @dispatch frame frames =>
      rw [← toInt32_eq_iff.mpr closes] at handler
      cases moves with
      | kept _ _ _ _ not_answered => exact not_answered frame rfl handler
      | answered => contradiction
  | clear stopped joined =>
      rw [reading] at joined
      contradiction
  | _ => exact closes

/-- While the client reads, a call that awaits its response has its handler. -/
theorem outstanding_of_awaiting (bounded : (system enableChecksum).Along LifetimesBounded trace)
    (reached : (system enableChecksum).Reaches trace client) (reading : client.reading = true)
    {number : ℕ} {call : Call} (found : client.calls[number]? = some call)
    (awaiting : call.Awaiting) (unanswered : call.promise = none) :
    Outstanding trace number call.streamId := by
  suffices Consistent trace client ∧ (client.reading = true → ∀ (number : ℕ) (call : Call),
      client.calls[number]? = some call → call.Awaiting → call.promise = none →
        Outstanding trace number call.streamId) from
    this.2 reading number call found awaiting unanswered
  refine bounded.invariant (motive := fun trace client => Consistent trace client ∧
    (client.reading = true → ∀ (number : ℕ) (call : Call), client.calls[number]? = some call →
      call.Awaiting → call.promise = none → Outstanding trace number call.streamId))
    ⟨Consistent.initial, fun _ number call found => absurd found (by simp [system])⟩ ?_ reached
  intro trace client event next before_reached before_bounded _ earlier stepped
  obtain ⟨consistent, open_still⟩ := earlier
  have moved := step_of_eq_some stepped
  refine ⟨consistent.step before_bounded moved, ?_⟩
  intro reading number after after_found awaiting unanswered
  have before_reading := reading_of_step moved reading
  rcases moves_of_step (orderly_of_reaches before_reached).handlersOpen moved after_found with
    ⟨before, found, moves⟩ | ⟨-, allocated, -⟩
  · rw [outstanding_concat]
    have kept (before_awaiting : before.Awaiting) (before_unanswered : before.promise = none)
        (same : after.streamId = before.streamId) :
        Outstanding trace number after.streamId ∧ ¬ event.Closes number after.streamId := by
      have outstanding := open_still before_reading number before found before_awaiting
        before_unanswered
      rw [same]
      refine ⟨outstanding, ?_⟩
      refine not_closes_of_moves consistent before_reading moved found outstanding ?_ ?_ moves
        unanswered
      · rcases before_awaiting with phase | phase | phase <;> simp [phase]
      · rcases before_awaiting with phase | phase | phase <;> simp [phase]
    cases moves with
    | kept promise_eq phase_eq streamId_eq =>
        left
        refine kept ?_ (promise_eq.symm.trans unanswered) streamId_eq
        rwa [Call.Awaiting, phase_eq] at awaiting
    | registered allocated =>
        right
        have own := (consistent.calls number before found).registered_iff
        exact ⟨rfl, fun registered => own.mp registered allocated⟩
    | locked registered => exact Or.inl (kept (Or.inl registered) unanswered rfl)
    | done writing => exact Or.inl (kept (Or.inr (Or.inl writing)) unanswered rfl)
    | answered => contradiction
    | failed | erasedFailed | timedOut | erasedTimedOut | got => simp [Call.Awaiting] at awaiting
  · simp [Call.Awaiting, allocated] at awaiting

/-! ## Work of the client -/

/-- Steps left before the request of a call has been sent. -/
def Call.sendWork (enableChecksum : Bool) (call : Call) : ℕ :=
  match call.phase with
  | .allocated => 4
  | .registered => 3
  | .writing => if call.totalSent < (call.request.serialize enableChecksum).length then 2 else 1
  | _ => 0

/-- Steps left before the requests of all calls have been sent. -/
def sendWork (enableChecksum : Bool) (client : TcpClient) : ℕ :=
  (client.calls.map (Call.sendWork enableChecksum)).sum

/-- Has the call not returned? -/
def Call.getWork (call : Call) : ℕ :=
  match call.phase with
  | .returned _ => 0
  | _ => 1

/-- The number of calls that have not returned. -/
def getWork (client : TcpClient) : ℕ := (client.calls.map Call.getWork).sum

theorem sum_modify_lt {work : Call → ℕ} {change : Call → Call} {calls : List Call} {number : ℕ}
    {call : Call} (found : calls[number]? = some call) (less : work (change call) < work call) :
    ((calls.modify number change).map work).sum < (calls.map work).sum := by
  induction calls generalizing number with
  | nil => simp at found
  | cons first calls induction =>
      cases number with
      | zero =>
          obtain rfl : first = call := by simpa using found
          simpa using less
      | succ number => simpa using induction (by simpa using found)

theorem sum_modify_eq {work : Call → ℕ} {change : Call → Call} {calls : List Call} {number : ℕ}
    (same : ∀ call, calls[number]? = some call → work (change call) = work call) :
    ((calls.modify number change).map work).sum = (calls.map work).sum := by
  induction calls generalizing number with
  | nil => simp
  | cons first calls induction =>
      cases number with
      | zero => simpa using same first rfl
      | succ number => simpa using induction fun call found => same call (by simpa using found)

end TcpClient

namespace RpcSystem

variable {clientChecksum : Int32 → Bool} {serverChecksum : Bool} {trace : List Event}
  {state : RpcSystem}

/-! ## What an unanswered call has heard -/

/-- What is assumed of a run: no `send` fails, payloads leave room for the prefix, and stream
identifiers are not drawn again.  As all along, the server has noticed no disconnect. -/
structure Regular (trace : List Event) (state : RpcSystem) : Prop where
  successful : SendsSucceed trace
  short : state.PayloadsShort
  few : ∀ id, (state.tcpClients id).calls.length < 2 ^ 32

/-- The payloads of a client's calls are those started in the run. -/
theorem map_payload_eq
    (reached : (system clientChecksum serverChecksum).Reaches trace state) (id : Int32) :
    (state.tcpClients id).calls.map TcpClient.Call.payload =
      TcpClient.payloads (trace.filterMap (clientEvent id)) :=
  TcpClient.map_payload_calls (client_reaches reached id)

/-- A run that starts no further calls is as regular as the run before. -/
theorem Regular.of_payloads {otherTrace : List Event} {other : RpcSystem}
    (regular : Regular trace state)
    (reached : (system clientChecksum serverChecksum).Reaches trace state)
    (other_reached : (system clientChecksum serverChecksum).Reaches otherTrace other)
    (successful : SendsSucceed otherTrace)
    (payloads_le : ∀ id, TcpClient.payloads (otherTrace.filterMap (clientEvent id)) <+:
      TcpClient.payloads (trace.filterMap (clientEvent id))) : Regular otherTrace other := by
  refine ⟨successful, fun id call member => ?_, fun id => ?_⟩
  · have started := List.mem_map_of_mem (f := TcpClient.Call.payload) member
    rw [map_payload_eq other_reached] at started
    replace started := (payloads_le id).subset started
    rw [← map_payload_eq reached] at started
    obtain ⟨same, same_member, payload_eq⟩ := List.mem_map.mp started
    exact payload_eq ▸ regular.short id same same_member
  · have shorter := (payloads_le id).length_le
    rw [← map_payload_eq other_reached, ← map_payload_eq reached, List.length_map,
      List.length_map] at shorter
    exact shorter.trans_lt (regular.few id)

/-- The front of a regular run is regular. -/
theorem Regular.of_front {front : List Event} {before : RpcSystem} (regular : Regular trace state)
    (reached : (system clientChecksum serverChecksum).Reaches trace state)
    (before_reached : (system clientChecksum serverChecksum).Reaches front before)
    (front_le : front <+: trace) : Regular front before := by
  refine regular.of_payloads reached before_reached ?_ fun id => ?_
  · exact fun id number member => regular.successful id number (front_le.subset member)
  · exact (front_le.filterMap _).filterMap _

theorem Regular.consistent (regular : Regular trace state)
    (reached : (system clientChecksum serverChecksum).Reaches trace state) (id : Int32) :
    (TcpClient.system (clientChecksum id)).Along TcpClient.LifetimesBounded
        (trace.filterMap (clientEvent id)) ∧
      TcpClient.Consistent (trace.filterMap (clientEvent id)) (state.tcpClients id) := by
  have client_reached := client_reaches reached id
  have bounded : (TcpClient.system (clientChecksum id)).Along TcpClient.LifetimesBounded _ :=
    TcpClient.along_lifetimesBounded (TcpClient.length_calls client_reached ▸ (regular.few id).le)
  exact ⟨bounded, TcpClient.consistent_of_reaches bounded client_reached⟩

/-- The frames handled are responses to calls that have taken the write lock. -/
theorem Regular.handled_call (regular : Regular trace state)
    (reached : (system clientChecksum serverChecksum).Reaches trace state) {id : Int32}
    {frame : Frame} (handled : frame ∈ framesHandled id trace) :
    ∃ number ∈ writers id trace, ∃ call, (state.tcpClients id).calls[number]? = some call ∧
      frame.streamId = call.streamId.toUInt32 := by
  obtain ⟨requested, answered, requested_le, answered_le, -, responses⟩ :=
    exists_records reached regular.successful regular.short id
  obtain ⟨number, member, call, found, rfl⟩ := responses.exists_call handled
  exact ⟨number, requested_le.subset (answered_le.subset member), call, found, rfl⟩

/-- No frame with the identifier of an unanswered call has been handled. -/
theorem Regular.unheard (regular : Regular trace state)
    (reached : (system clientChecksum serverChecksum).Reaches trace state) {id : Int32}
    (reading : (state.tcpClients id).reading = true) {number : ℕ} {call : TcpClient.Call}
    (found : (state.tcpClients id).calls[number]? = some call) (awaiting : call.Awaiting)
    (unanswered : call.promise = none) {frame : Frame} (handled : frame ∈ framesHandled id trace) :
    frame.streamId ≠ call.streamId.toUInt32 := by
  obtain ⟨bounded, consistent⟩ := regular.consistent reached id
  have outstanding := TcpClient.outstanding_of_awaiting bounded (client_reaches reached id) reading
    found awaiting unanswered
  intro matching
  -- the frame has been handled before the call's registration
  have split := List.takeWhile_append_dropWhile (p := (· ≠ TcpClient.Event.register number))
    (l := trace.filterMap (clientEvent id))
  obtain ⟨front, back, rfl, front_eq, back_eq⟩ := List.filterMap_eq_append_iff.mp split.symm
  have early : frame ∈ framesHandled id front := by
    rw [framesHandled, ← split, TcpClient.handled, List.filterMap_append] at handled
    rcases List.mem_append.mp handled with early | late
    · rwa [framesHandled, front_eq]
    · exact absurd matching (outstanding.2 _ (TcpClient.mem_since_of_handled late))
  obtain ⟨before, before_reached, -⟩ := reached.exists_front
  have before_regular := regular.of_front reached before_reached (List.prefix_append front back)
  obtain ⟨other, locked, otherCall, other_found, streamId_eq⟩ :=
    before_regular.handled_call before_reached early
  obtain ⟨-, before_consistent⟩ := before_regular.consistent before_reached id
  have other_own := before_consistent.calls other otherCall other_found
  have same_id : Int32.ofNat number = Int32.ofNat other := by
    rw [← (consistent.calls number call found).streamId_eq, ← other_own.streamId_eq]
    exact (TcpClient.toInt32_eq_iff.mpr matching).symm.trans
      (TcpClient.toInt32_eq_iff.mpr streamId_eq)
  have inside := (List.getElem?_eq_some_iff.mp found).1
  have other_inside := (List.getElem?_eq_some_iff.mp other_found).1
  have few := regular.few id
  have before_few := before_regular.few id
  obtain rfl : number = other := TcpClient.eq_of_streamId_eq same_id (by omega) (by omega)
  have ledger := TcpClient.ledger_of_reaches (client_reaches before_reached id)
  have registered := other_own.registered_iff.mpr fun allocated =>
    ledger.unlocked number otherCall other_found (Or.inl allocated) locked
  rw [front_eq] at registered
  simpa using List.mem_takeWhile_imp registered

/-! ## At rest -/

/-- The requests of a client have been written, and everything sent on its connection has been
received and handled. -/
structure Drained (id : Int32) (state : RpcSystem) : Prop where
  written : ∀ call ∈ (state.tcpClients id).calls,
    call.phase ≠ .allocated ∧ call.phase ≠ .registered ∧ call.phase ≠ .writing
  requests : (state.tcpClients id).transmitted.length ≤ state.requestsRead id
  served : ∃ handler, state.server.clients id = some handler ∧ handler.frames = [] ∧
    handler.outgoingQueue = [] ∧ handler.pendingData = []
  responses : (state.responsesSent id).length ≤ state.responsesRead id
  handled : (state.tcpClients id).frames = []

/-- Everything transmitted has been received. -/
theorem Drained.received {id : Int32} (drained : Drained id state)
    (reached : (system clientChecksum serverChecksum).Reaches trace state) :
    serverReceived id trace = (state.tcpClients id).transmitted ∧
      clientReceived id trace = state.responsesSent id := by
  have delivered := delivered_of_reaches reached
  constructor
  · apply (delivered.requests_le id).eq_of_length_le
    rw [← delivered.requestsRead_eq]
    exact drained.requests
  · apply (delivered.responses_le id).eq_of_length_le
    rw [← delivered.responsesRead_eq]
    exact drained.responses

theorem messages_serialize {frames : List Frame} (wellFormed : ∀ frame ∈ frames, frame.WellFormed)
    (enableChecksum : Bool) :
    decoder.messages (frames.map (Frame.serialize enableChecksum)).flatten =
      frames.map (Frame.onWire enableChecksum) := by
  have decoded := decoder.messages_flatten frames
    (encodes_serialize_of_forall wellFormed enableChecksum) []
  simpa using decoded

/-- At rest the client has handled the response to every request. -/
theorem Regular.handled_of_drained (regular : Regular trace state)
    (reached : (system clientChecksum serverChecksum).Reaches trace state) {id : Int32}
    (drained : Drained id state) :
    framesHandled id trace =
      ((state.tcpClients id).requestsOf (writers id trace)).map fun frame =>
        (replyFrame (frame.onWire (clientChecksum id))).onWire serverChecksum := by
  have client_reached := client_reaches reached id
  obtain ⟨requests_eq, responses_eq⟩ := drained.received reached
  set requests := (state.tcpClients id).requestsOf (writers id trace) with requests_def
  have short : ∀ frame ∈ requests, ∃ call ∈ (state.tcpClients id).calls, call.request = frame := by
    intro frame member
    obtain ⟨number, -, found⟩ := List.mem_filterMap.mp member
    obtain ⟨call, call_found, rfl⟩ := Option.map_eq_some_iff.mp found
    exact ⟨call, List.mem_of_getElem? call_found, rfl⟩
  have free : (state.tcpClients id).writeMutex = none := by
    by_contra held
    obtain ⟨number, held⟩ := Option.ne_none_iff_exists'.mp held
    obtain ⟨call, found, phase⟩ := (TcpClient.lockHeld_of_reaches client_reached number).mp held
    exact (drained.written call (List.mem_of_getElem? found)).2.2 phase
  have transmitted_eq := TcpClient.transmitted_eq_requests
    (sendsSucceed_client regular.successful id) client_reached
  rw [TcpClient.unsent_of_free free, List.append_nil, ← requests_eq, ← writers,
    ← requests_def] at transmitted_eq
  have messages_eq : decoder.messages (serverReceived id trace) =
      requests.map (Frame.onWire (clientChecksum id)) := by
    rw [transmitted_eq]
    refine messages_serialize (fun frame member => ?_) _
    obtain ⟨call, call_member, rfl⟩ := short frame member
    exact wellFormed_request (regular.short id call call_member)
  obtain ⟨handler, found, frames_eq, queue_eq, pending_eq⟩ := drained.served
  have serves := RpcServer.serves_of_clients (server_reaches reached) found
  have pushed_eq := serves.pushed_eq
  rw [frames_eq, List.map_nil, List.append_nil] at pushed_eq
  change _ = (decoder.messages (serverReceived id trace)).map _ at pushed_eq
  have sent_eq := serves.transmitted_eq
  rw [queue_eq, pending_eq, List.flatten_nil, List.drop_nil, List.append_nil, List.append_nil,
    pushed_eq, messages_eq, List.map_map] at sent_eq
  have handled_eq := (TcpClient.reading_of_reaches client_reached).handled_eq
  rw [drained.handled, List.append_nil] at handled_eq
  change framesHandled id trace = decoder.messages (clientReceived id trace) at handled_eq
  have responses_sent : state.responsesSent id = handler.transmitted := by
    simp [responsesSent, found]
  have replies_eq :
      requests.map (RpcServer.reply serverChecksum ∘ Frame.onWire (clientChecksum id)) =
        (requests.map fun frame => replyFrame (frame.onWire (clientChecksum id))).map
          (Frame.serialize serverChecksum) := by
    rw [List.map_map]
    rfl
  rw [handled_eq, responses_eq, responses_sent, sent_eq, replies_eq, messages_serialize,
    List.map_map]
  · rfl
  · intro frame member
    obtain ⟨request, request_member, rfl⟩ := List.mem_map.mp member
    obtain ⟨call, call_member, rfl⟩ := short request request_member
    exact wellFormed_replyFrame (clientChecksum id) (regular.short id call call_member)

/-- At rest no call waits for its response. -/
theorem Regular.answered_of_drained (regular : Regular trace state)
    (reached : (system clientChecksum serverChecksum).Reaches trace state) {id : Int32}
    (reading : (state.tcpClients id).reading = true) (drained : Drained id state) {number : ℕ}
    {call : TcpClient.Call} (found : (state.tcpClients id).calls[number]? = some call)
    (waiting : call.phase = .waiting) : call.promise ≠ none := by
  intro unanswered
  have client_reached := client_reaches reached id
  obtain ⟨sendsWhole, -⟩ := TcpClient.sendsWhole_of_reaches
    (sendsSucceed_client regular.successful id) client_reached
  have sent := (sendsWhole number call found).whole (by simp [waiting]) (by simp [waiting])
    (by simp [waiting])
  have positive : 0 < call.totalSent := by
    rw [sent, Frame.length_serialize]
    exact Nat.add_pos_left (by decide) _
  have locked := (TcpClient.ledger_of_reaches client_reached).started number call found positive
  have requested : call.request ∈ (state.tcpClients id).requestsOf (writers id trace) :=
    List.mem_filterMap.mpr ⟨number, locked, by simp [found]⟩
  have handled : responseReceived (clientChecksum id) serverChecksum call ∈
      framesHandled id trace := by
    rw [regular.handled_of_drained reached drained]
    exact List.mem_map_of_mem requested
  exact regular.unheard reached reading found (Or.inr (Or.inr waiting)) unanswered handled rfl

/-! ## Going on -/

/-- The events by which one connection goes on. -/
def Event.Proceeds (id : Int32) : Event → Prop
  | .client own event => own = id ∧ event.Proceeds
  | .server own _ => own = id

/-- Bytes of the requests on their way. -/
def unreadRequests (state : RpcSystem) (id : Int32) : ℕ :=
  (state.tcpClients id).transmitted.length - state.requestsRead id

/-- Bytes of the responses on their way. -/
def unreadResponses (state : RpcSystem) (id : Int32) : ℕ :=
  (state.responsesSent id).length - state.responsesRead id

/-- Steps left before the handler has dispatched the frames at hand. -/
def dispatchWork : Option ClientHandler → ℕ
  | some handler => handler.frames.length
  | none => 1

/-- Steps left before the handler has sent the responses at hand. -/
def writeWork : Option ClientHandler → ℕ
  | some handler => 4 * handler.outgoingQueue.length + 2 * handler.pendingData.length +
      if handler.totalSent < (handler.pendingData.headD []).length then 1 else 0
  | none => 0

/-- The work at hand on one connection, in the order in which it is passed on. -/
def work (clientChecksum : Int32 → Bool) (id : Int32) (state : RpcSystem) :
    ℕ ×ₗ ℕ ×ₗ ℕ ×ₗ ℕ ×ₗ ℕ ×ₗ ℕ ×ₗ ℕ :=
  toLex (TcpClient.sendWork (clientChecksum id) (state.tcpClients id),
    toLex (state.unreadRequests id, toLex (dispatchWork (state.server.clients id),
      toLex (writeWork (state.server.clients id), toLex (state.unreadResponses id,
        toLex ((state.tcpClients id).frames.length, (state.tcpClients id).getWork))))))

/-- Some event passes work on. -/
def Progresses (clientChecksum : Int32 → Bool) (serverChecksum : Bool) (id : Int32)
    (state : RpcSystem) : Prop :=
  ∃ event next, Event.Proceeds id event ∧
    (system clientChecksum serverChecksum).step state event = some next ∧
      work clientChecksum id next < work clientChecksum id state

/-- A step of the client that receives nothing. -/
theorem step_client_silent {id : Int32} {event : TcpClient.Event} {client : TcpClient}
    (silent : event.chunk? = none)
    (stepped : (TcpClient.system (clientChecksum id)).step (state.tcpClients id) event =
      some client) :
    (system clientChecksum serverChecksum).step state (.client id event) =
      some { state with tcpClients := Function.update state.tcpClients id client } := by
  rw [step_client_iff]
  simp [silent, stepped]

/-- A step of a handler that receives nothing. -/
theorem step_server_silent
    (reached : (system clientChecksum serverChecksum).Reaches trace state) {id : Int32}
    {event : RpcServer.Event} {handler : ClientHandler} (silent : event.chunk? = none)
    (moved : RpcServer.connectionStep serverChecksum id (state.server.clients id) event =
      some handler) :
    (system clientChecksum serverChecksum).step state (.server id event) =
      some { state with server := state.server.setClient id (some handler) } := by
  rw [step_server_iff, RpcServer.step_eq (RpcServer.keyed_of_reaches (server_reaches reached)),
    moved]
  simp [silent]

section Progress

variable {id : Int32}

theorem progresses_of_client {event : TcpClient.Event} {client : TcpClient}
    (alive : (state.tcpClients id).terminated = false)
    (stepped : TcpClient.Step (clientChecksum id) (state.tcpClients id) event client)
    (proceeds : event.Proceeds) (silent : event.chunk? = none)
    (less : TcpClient.sendWork (clientChecksum id) client <
          TcpClient.sendWork (clientChecksum id) (state.tcpClients id) ∨
        TcpClient.sendWork (clientChecksum id) client =
            TcpClient.sendWork (clientChecksum id) (state.tcpClients id) ∧
          client.transmitted = (state.tcpClients id).transmitted ∧
            (client.frames.length < (state.tcpClients id).frames.length ∨
              client.frames = (state.tcpClients id).frames ∧
                client.getWork < (state.tcpClients id).getWork)) :
    Progresses clientChecksum serverChecksum id state := by
  refine ⟨.client id event, _, ⟨rfl, proceeds⟩,
    step_client_silent silent (TcpClient.step_eq_some alive stepped), ?_⟩
  rcases less with less | ⟨send_eq, transmitted_eq, less | ⟨frames_eq, less⟩⟩
  · simp [work, Prod.Lex.toLex_lt_toLex, less]
  · simp [work, Prod.Lex.toLex_lt_toLex, send_eq, unreadRequests, unreadResponses, responsesSent,
      transmitted_eq, less]
  · simp [work, Prod.Lex.toLex_lt_toLex, send_eq, unreadRequests, unreadResponses, responsesSent,
      transmitted_eq, frames_eq, less]

theorem progresses_of_server
    (reached : (system clientChecksum serverChecksum).Reaches trace state)
    {event : RpcServer.Event} {handler : ClientHandler} (silent : event.chunk? = none)
    (moved : RpcServer.connectionStep serverChecksum id (state.server.clients id) event =
      some handler)
    (less : dispatchWork (some handler) < dispatchWork (state.server.clients id) ∨
      dispatchWork (some handler) = dispatchWork (state.server.clients id) ∧
        writeWork (some handler) < writeWork (state.server.clients id)) :
    Progresses clientChecksum serverChecksum id state := by
  refine ⟨.server id event, _, rfl, step_server_silent reached silent moved, ?_⟩
  rcases less with less | ⟨dispatch_eq, less⟩
  · simp [work, Prod.Lex.toLex_lt_toLex, unreadRequests, RpcServer.setClient, less]
  · simp [work, Prod.Lex.toLex_lt_toLex, unreadRequests, RpcServer.setClient, dispatch_eq, less]

/-- A request that has not been sent can be sent. -/
theorem progresses_of_unwritten (alive : (state.tcpClients id).terminated = false)
    (connected : (state.tcpClients id).socket = true) (lockHeld : (state.tcpClients id).LockHeld)
    (sendsWhole : (state.tcpClients id).SendsWhole (clientChecksum id)) {number : ℕ}
    {call : TcpClient.Call} (found : (state.tcpClients id).calls[number]? = some call)
    (unwritten : call.phase = .allocated ∨ call.phase = .registered ∨ call.phase = .writing) :
    Progresses clientChecksum serverChecksum id state := by
  cases held : (state.tcpClients id).writeMutex with
  | none =>
      rcases unwritten with phase | phase | phase
      · refine progresses_of_client alive (.register found phase) trivial rfl
          (Or.inl (TcpClient.sum_modify_lt found ?_))
        simp [TcpClient.Call.sendWork, phase]
      · refine progresses_of_client alive (.lockWrite found phase held) trivial rfl
          (Or.inl (TcpClient.sum_modify_lt found ?_))
        simp only [TcpClient.Call.sendWork, phase]
        split <;> omega
      · rw [(lockHeld number).mpr ⟨call, found, phase⟩] at held
        contradiction
  | some holder =>
      obtain ⟨writing, writing_found, phase⟩ := (lockHeld holder).mp held
      have inside := (sendsWhole holder writing writing_found).inside
      set data := writing.request.serialize (clientChecksum id) with data_eq
      by_cases unfinished : writing.totalSent < data.length
      · have step := TcpClient.Step.send writing_found phase connected
          (Nat.sub_pos_of_lt unfinished) (by rw [← data_eq]; omega)
        refine progresses_of_client alive step trivial rfl
          (Or.inl (TcpClient.sum_modify_lt writing_found ?_))
        have rest : ((data.drop writing.totalSent).take (data.length - writing.totalSent)).length =
            data.length - writing.totalSent := by simp
        have finished : ¬ writing.totalSent + (data.length - writing.totalSent) < data.length := by
          omega
        simp only [TcpClient.Call.sendWork, phase, ← data_eq, if_pos unfinished]
        rw [rest, if_neg]
        · exact Nat.one_lt_two
        · exact finished
      · have whole : writing.totalSent = data.length := by omega
        refine progresses_of_client alive (.writeDone writing_found phase whole) trivial rfl
          (Or.inl (TcpClient.sum_modify_lt writing_found ?_))
        simp only [TcpClient.Call.sendWork, phase, ← data_eq, if_neg unfinished]
        exact Nat.one_pos

/-- A request on its way can be received, and a frame at hand can be dispatched. -/
theorem progresses_of_requests
    (reached : (system clientChecksum serverChecksum).Reaches trace state)
    (busy : 0 < state.unreadRequests id ∨ 0 < dispatchWork (state.server.clients id)) :
    Progresses clientChecksum serverChecksum id state := by
  cases found : state.server.clients id with
  | none =>
      have moved : RpcServer.connectionStep serverChecksum id (state.server.clients id) .accept =
          some { id } := by
        rw [found]
        rfl
      exact progresses_of_server reached rfl moved (Or.inl (by simp [found, dispatchWork]))
  | some handler =>
      cases waiting : handler.frames with
      | cons frame frames =>
          have moved : RpcServer.connectionStep serverChecksum id (state.server.clients id)
              .dispatch = some ({ handler with frames }.write
                (RpcServer.reply serverChecksum frame)) := by
            simp [found, RpcServer.connectionStep, RpcServer.answerNext, waiting]
          refine progresses_of_server reached rfl moved (Or.inl ?_)
          simp [found, dispatchWork, ClientHandler.write, waiting]
      | nil =>
          have unread : 0 < state.unreadRequests id := by
            simpa [found, dispatchWork, waiting] using busy
          set chunk := (state.tcpClients id).transmitted.drop (state.requestsRead id) with chunk_eq
          have chunk_length : chunk.length = state.unreadRequests id := List.length_drop
          have nonempty : chunk ≠ [] := List.ne_nil_of_length_pos (chunk_length ▸ unread)
          have moved : RpcServer.connectionStep serverChecksum id (state.server.clients id)
              (.recv chunk) =
                some { (handler.readChunk chunk).2 with
                  frames := (handler.readChunk chunk).1 } := by
            rw [found]
            exact ClientHandler.receive_eq_some_iff.mpr ⟨⟨waiting, nonempty⟩, rfl⟩
          have stepped := RpcServer.step_eq (RpcServer.keyed_of_reaches (server_reaches reached))
            serverChecksum id (.recv chunk)
          rw [moved, Option.map_some] at stepped
          refine ⟨.server id (.recv chunk), _, rfl,
            step_server_iff.mpr ⟨List.prefix_rfl, _, stepped, rfl⟩, ?_⟩
          have less : (state.tcpClients id).transmitted.length -
              (state.requestsRead id + chunk.length) <
                (state.tcpClients id).transmitted.length - state.requestsRead id := by
            rw [chunk_length]
            simp only [unreadRequests] at unread ⊢
            omega
          simp [work, Prod.Lex.toLex_lt_toLex, unreadRequests, RpcServer.Event.chunk?, less]

/-- A response at hand can be sent. -/
theorem progresses_of_queue
    (reached : (system clientChecksum serverChecksum).Reaches trace state)
    (busy : 0 < writeWork (state.server.clients id)) :
    Progresses clientChecksum serverChecksum id state := by
  cases found : state.server.clients id with
  | none => simp [found, writeWork] at busy
  | some handler =>
      have totalSent_le :=
        (RpcServer.serves_of_clients (server_reaches reached) found).totalSent_le
      cases pending : handler.pendingData with
      | nil =>
          have queued : handler.outgoingQueue ≠ [] := by
            rintro empty
            simp [found, writeWork, pending, empty] at busy
          have moved : RpcServer.connectionStep serverChecksum id (state.server.clients id)
              .takeBatch = some { handler with
                pendingData := handler.outgoingQueue
                outgoingQueue := [] } := by
            rw [found]
            exact ClientHandler.takeBatch_eq_some_iff.mpr ⟨⟨pending, queued⟩, rfl⟩
          refine progresses_of_server reached rfl moved (Or.inr ⟨by simp [found, dispatchWork], ?_⟩)
          have positive := List.length_pos_iff.mpr queued
          simp only [found, writeWork, pending, List.length_nil]
          split <;> split <;> omega
      | cons data rest =>
          rw [pending, List.headD_cons] at totalSent_le
          by_cases unfinished : handler.totalSent < data.length
          · have moved : RpcServer.connectionStep serverChecksum id (state.server.clients id)
                (.send (data.length - handler.totalSent)) = some { handler with
                  totalSent := handler.totalSent + (data.length - handler.totalSent)
                  transmitted := handler.transmitted ++
                    (data.drop handler.totalSent).take (data.length - handler.totalSent) } := by
              rw [found]
              exact ClientHandler.send_eq_some_iff.mpr ⟨data, rest, pending, by omega, rfl⟩
            refine progresses_of_server reached rfl moved
              (Or.inr ⟨by simp [found, dispatchWork], ?_⟩)
            have finished :
                ¬ handler.totalSent + (data.length - handler.totalSent) < data.length := by
              omega
            simp [found, writeWork, pending, unfinished, finished]
          · have whole : handler.totalSent = data.length := by omega
            have moved : RpcServer.connectionStep serverChecksum id (state.server.clients id)
                .nextData = some { handler with
                  pendingData := rest
                  totalSent := 0 } := by
              rw [found]
              exact ClientHandler.nextData_eq_some_iff.mpr ⟨data, rest, pending, whole, rfl⟩
            refine progresses_of_server reached rfl moved
              (Or.inr ⟨by simp [found, dispatchWork], ?_⟩)
            simp only [found, writeWork, pending, List.length_cons, List.headD_cons,
              if_neg unfinished]
            split <;> omega

/-- A response on its way can be received and handled. -/
theorem progresses_of_responses (alive : (state.tcpClients id).terminated = false)
    (reading : (state.tcpClients id).reading = true)
    (busy : 0 < state.unreadResponses id ∨ (state.tcpClients id).frames ≠ []) :
    Progresses clientChecksum serverChecksum id state := by
  cases waiting : (state.tcpClients id).frames with
  | cons frame frames =>
      refine progresses_of_client alive (.dispatch waiting) trivial rfl (Or.inr ?_)
      obtain ⟨-, frames_eq⟩ :=
        TcpClient.handleFrame_reading { state.tcpClients id with frames } frame
      refine ⟨?_, ?_, Or.inl ?_⟩
      · rcases TcpClient.handleFrame_cases { state.tcpClients id with frames } frame with
          ⟨-, same⟩ | ⟨number, -, answered⟩ | ⟨-, thrown⟩
        · rw [same]
          rfl
        · rw [answered]
          exact TcpClient.sum_modify_eq fun _ _ => rfl
        · rw [thrown]
          rfl
      · rcases TcpClient.handleFrame_cases { state.tcpClients id with frames } frame with
          ⟨-, same⟩ | ⟨number, -, answered⟩ | ⟨-, thrown⟩
        · rw [same]
        · rw [answered]
          rfl
        · rw [thrown]
      · rw [frames_eq, waiting]
        exact Nat.lt_succ_self _
  | nil =>
      have unread : 0 < state.unreadResponses id := by simpa [waiting] using busy
      set chunk := (state.responsesSent id).drop (state.responsesRead id) with chunk_eq
      have chunk_length : chunk.length = state.unreadResponses id := List.length_drop
      have nonempty : chunk ≠ [] := List.ne_nil_of_length_pos (chunk_length ▸ unread)
      have stepped := TcpClient.step_eq_some alive
        (TcpClient.Step.recv reading waiting nonempty : TcpClient.Step (clientChecksum id) _ _ _)
      refine ⟨.client id (.recv chunk), _, ⟨rfl, trivial⟩,
        step_client_iff.mpr ⟨List.prefix_rfl, _, stepped, rfl⟩, ?_⟩
      have less : (state.responsesSent id).length - (state.responsesRead id + chunk.length) <
          (state.responsesSent id).length - state.responsesRead id := by
        rw [chunk_length]
        simp only [unreadResponses] at unread ⊢
        omega
      simp only [responsesSent] at less
      simp [work, Prod.Lex.toLex_lt_toLex, unreadRequests, unreadResponses, responsesSent,
        TcpClient.Event.chunk?, TcpClient.sendWork, less]

/-- A call that has its response, or has timed out, can return. -/
theorem progresses_of_return (alive : (state.tcpClients id).terminated = false) {number : ℕ}
    {call : TcpClient.Call} (found : (state.tcpClients id).calls[number]? = some call)
    (ready : call.phase = .waiting ∧ call.promise ≠ none ∨ call.phase = .timedOut) :
    Progresses clientChecksum serverChecksum id state := by
  have unsent {response : Option (List UInt8)}
      (phase : call.phase = .waiting ∨ call.phase = .timedOut) :
      TcpClient.sendWork (clientChecksum id)
          ((state.tcpClients id).setPhase number (.returned response)) =
        TcpClient.sendWork (clientChecksum id) (state.tcpClients id) := by
    refine TcpClient.sum_modify_eq fun other other_found => ?_
    obtain rfl := Option.some.inj (other_found.symm.trans found)
    rcases phase with phase | phase <;> simp [TcpClient.Call.sendWork, phase]
  have ungot {response : Option (List UInt8)}
      (phase : call.phase = .waiting ∨ call.phase = .timedOut) :
      TcpClient.getWork ((state.tcpClients id).setPhase number (.returned response)) <
        TcpClient.getWork (state.tcpClients id) := by
    refine TcpClient.sum_modify_lt found ?_
    rcases phase with phase | phase <;> simp [TcpClient.Call.getWork, phase]
  rcases ready with ⟨phase, answered⟩ | phase
  · obtain ⟨response, promise⟩ := Option.ne_none_iff_exists'.mp answered
    exact progresses_of_client alive (.get found phase promise) trivial rfl
      (Or.inr ⟨unsent (Or.inl phase), rfl, Or.inr ⟨rfl, ungot (Or.inl phase)⟩⟩)
  · exact progresses_of_client alive (.eraseTimedOut found phase) trivial rfl
      (Or.inr ⟨unsent (Or.inr phase), rfl, Or.inr ⟨rfl, ungot (Or.inr phase)⟩⟩)

end Progress

/-- All calls of the client have returned. -/
def AllReturned (id : Int32) (state : RpcSystem) : Prop :=
  ∀ call ∈ (state.tcpClients id).calls, ∃ response, call.phase = .returned response

/-- As long as a call has not returned, some thread can go on. -/
theorem Regular.returned_or_progresses (regular : Regular trace state)
    (reached : (system clientChecksum serverChecksum).Reaches trace state) {id : Int32}
    (connected : (state.tcpClients id).socket = true)
    (reading : (state.tcpClients id).reading = true) :
    AllReturned id state ∨ Progresses clientChecksum serverChecksum id state := by
  by_contra neither
  obtain ⟨unreturned, stuck⟩ := not_or.mp neither
  obtain ⟨-, consistent⟩ := regular.consistent reached id
  have client_reached := client_reaches reached id
  have alive := consistent.terminated_eq
  obtain ⟨sendsWhole, failures⟩ := TcpClient.sendsWhole_of_reaches
    (sendsSucceed_client regular.successful id) client_reached
  have written (number : ℕ) (call : TcpClient.Call)
      (found : (state.tcpClients id).calls[number]? = some call) :
      ¬ (call.phase = .allocated ∨ call.phase = .registered ∨ call.phase = .writing) :=
    fun unwritten => stuck (progresses_of_unwritten alive connected
      (TcpClient.lockHeld_of_reaches client_reached) sendsWhole found unwritten)
  have requests := not_or.mp fun busy => stuck (progresses_of_requests reached busy)
  have queue : ¬ 0 < writeWork (state.server.clients id) := fun busy =>
    stuck (progresses_of_queue reached busy)
  have responses := not_or.mp fun busy => stuck (progresses_of_responses alive reading busy)
  have drained : Drained id state := by
    refine ⟨?_, ?_, ?_, ?_, not_not.mp responses.2⟩
    · intro call member
      obtain ⟨number, found⟩ := List.mem_iff_getElem?.mp member
      simpa only [not_or] using written number call found
    · exact Nat.le_of_sub_eq_zero (Nat.eq_zero_of_not_pos requests.1)
    · cases found : state.server.clients id with
      | none => simp [found, dispatchWork] at requests
      | some handler =>
          simp only [found, writeWork] at queue
          simp only [found, dispatchWork] at requests
          refine ⟨handler, rfl, ?_, ?_, ?_⟩
          · exact List.length_eq_zero_iff.mp (by omega)
          · exact List.length_eq_zero_iff.mp (by omega)
          · exact List.length_eq_zero_iff.mp (by omega)
    · exact Nat.le_of_sub_eq_zero (Nat.eq_zero_of_not_pos responses.1)
  refine unreturned fun call member => ?_
  obtain ⟨number, found⟩ := List.mem_iff_getElem?.mp member
  obtain ⟨not_allocated, not_registered, not_writing⟩ := drained.written call member
  cases phase : call.phase with
  | allocated => exact absurd phase not_allocated
  | registered => exact absurd phase not_registered
  | writing => exact absurd phase not_writing
  | writeFailed => exact absurd phase (failures number call found)
  | waiting =>
      have answered := regular.answered_of_drained reached reading drained found phase
      exact absurd (progresses_of_return alive found (Or.inl ⟨phase, answered⟩)) stuck
  | timedOut => exact absurd (progresses_of_return alive found (Or.inr phase)) stuck
  | returned response => exact ⟨response, rfl⟩

/-! ## Bringing every call to its end -/

/-- An event by which a connection goes on decides about no call that it fails. -/
theorem failing_of_moves {client : TcpClient} {event : TcpClient.Event} {number : ℕ}
    {before after : TcpClient.Call} (proceeds : event.Proceeds)
    (moves : TcpClient.Moves client number before event after) :
    after.Failing ↔ before.Failing := by
  cases moves with
  | kept _ phase_eq => simp [TcpClient.Call.Failing, phase_eq]
  | failed | erasedFailed | timedOut => exact proceeds.elim
  | registered phase | locked phase | done phase | erasedTimedOut phase | got phase =>
      simp [TcpClient.Call.Failing, phase]
  | answered => exact Iff.rfl

/-- The connection has gone on: the client is still connected, and the same calls fail. -/
structure GoesOn (id : Int32) (start state : RpcSystem) : Prop where
  connected : (state.tcpClients id).socket = true
  reading : (state.tcpClients id).reading = true
  length_eq : (state.tcpClients id).calls.length = (start.tcpClients id).calls.length
  failing : ∀ (number : ℕ) (before after : TcpClient.Call),
    (start.tcpClients id).calls[number]? = some before →
      (state.tcpClients id).calls[number]? = some after → (after.Failing ↔ before.Failing)

theorem GoesOn.step {id : Int32} {start next : RpcSystem} {event : Event}
    (goesOn : GoesOn id start state)
    (reached : (system clientChecksum serverChecksum).Reaches trace state)
    (proceeds : event.Proceeds id)
    (stepped : (system clientChecksum serverChecksum).step state event = some next) :
    GoesOn id start next := by
  cases event with
  | server own event =>
      obtain ⟨-, server, -, rfl⟩ := step_server_iff.mp stepped
      exact ⟨goesOn.connected, goesOn.reading, goesOn.length_eq, goesOn.failing⟩
  | client own event =>
      obtain ⟨rfl, proceeds⟩ := proceeds
      obtain ⟨-, client, moved, rfl⟩ := step_client_iff.mp stepped
      have step := TcpClient.step_of_eq_some moved
      obtain ⟨socket_eq, reading_eq, length_eq⟩ := TcpClient.proceeds_keeps proceeds step
      have orderly := TcpClient.orderly_of_reaches (client_reaches reached own)
      refine ⟨?_, ?_, ?_, ?_⟩ <;> simp only [Function.update_self]
      · exact socket_eq.trans goesOn.connected
      · exact reading_eq.trans goesOn.reading
      · exact length_eq.trans goesOn.length_eq
      · intro number before after before_found after_found
        rcases TcpClient.moves_of_step orderly.handlersOpen step after_found with
          ⟨middle, found, moves⟩ | ⟨missing, -⟩
        · exact (failing_of_moves proceeds moves).trans
            (goesOn.failing number before middle before_found found)
        · have inside := (List.getElem?_eq_some_iff.mp before_found).1
          rw [List.getElem?_eq_none_iff, goesOn.length_eq] at missing
          omega

theorem payloads_of_proceeds {id : Int32} {later : List Event}
    (proceeds : ∀ event ∈ later, event.Proceeds id) (client : Int32) :
    TcpClient.payloads ((trace ++ later).filterMap (clientEvent client)) =
      TcpClient.payloads (trace.filterMap (clientEvent client)) := by
  have nothing : TcpClient.payloads (later.filterMap (clientEvent client)) = [] := by
    refine List.filterMap_eq_nil_iff.mpr fun own own_member => ?_
    obtain ⟨event, member, own_eq⟩ := List.mem_filterMap.mp own_member
    cases event with
    | server => contradiction
    | client other event =>
        obtain ⟨-, same⟩ := Option.ite_none_right_eq_some.mp own_eq
        obtain rfl := Option.some.inj same
        have goes := (proceeds _ member).2
        cases event with
        | call => exact goes.elim
        | _ => rfl
  rw [TcpClient.payloads] at nothing
  rw [List.filterMap_append, TcpClient.payloads, List.filterMap_append, nothing, List.append_nil,
    TcpClient.payloads]

theorem Regular.of_proceeds {id : Int32} {later : List Event} {final : RpcSystem}
    (regular : Regular trace state)
    (reached : (system clientChecksum serverChecksum).Reaches trace state)
    (proceeds : ∀ event ∈ later, event.Proceeds id)
    (final_reached : (system clientChecksum serverChecksum).Reaches (trace ++ later) final) :
    Regular (trace ++ later) final := by
  refine regular.of_payloads reached final_reached ?_ fun client => ?_
  · intro client number member
    rcases List.mem_append.mp member with earlier | new
    · exact regular.successful client number earlier
    · exact (proceeds _ new).2.elim
  · rw [payloads_of_proceeds proceeds client]

/-- The connection has gone on from `start`, which the run `trace` has reached. -/
def Underway (clientChecksum : Int32 → Bool) (serverChecksum : Bool) (trace : List Event)
    (start : RpcSystem) (id : Int32) (state : RpcSystem) : Prop :=
  ∃ later, (∀ event ∈ later, event.Proceeds id) ∧
    (system clientChecksum serverChecksum).Reaches (trace ++ later) state ∧ GoesOn id start state

theorem Underway.step {id : Int32} {start next : RpcSystem} {event : Event}
    (underway : Underway clientChecksum serverChecksum trace start id state)
    (proceeds : event.Proceeds id)
    (stepped : (system clientChecksum serverChecksum).step state event = some next) :
    Underway clientChecksum serverChecksum trace start id next := by
  obtain ⟨later, earlier, reached, goesOn⟩ := underway
  refine ⟨later ++ [event], ?_, ?_, goesOn.step reached proceeds stepped⟩
  · intro other member
    rcases List.mem_append.mp member with old | new
    · exact earlier other old
    · exact List.mem_singleton.mp new ▸ proceeds
  · rw [← List.append_assoc]
    exact EventSystem.reaches_concat.mpr ⟨state, reached, stepped⟩

theorem Underway.initial {id : Int32}
    (reached : (system clientChecksum serverChecksum).Reaches trace state)
    (connected : (state.tcpClients id).socket = true)
    (reading : (state.tcpClients id).reading = true) :
    Underway clientChecksum serverChecksum trace state id state := by
  refine ⟨[], nofun, by rwa [List.append_nil], connected, reading, rfl, ?_⟩
  intro number before after before_found after_found
  obtain rfl := Option.some.inj (before_found.symm.trans after_found)
  exact Iff.rfl

/-- The calls under way in `start` have returned: one that had failed has returned `false`, and
every other one its own response. -/
def Completed (id : Int32) (start final : RpcSystem) : Prop :=
  (final.tcpClients id).calls.length = (start.tcpClients id).calls.length ∧
    ∀ (number : ℕ) (call : TcpClient.Call),
      (start.tcpClients id).calls[number]? = some call →
        ∃ after : TcpClient.Call, (final.tcpClients id).calls[number]? = some after ∧
          after.payload = call.payload ∧
          (call.Failing → after.phase = .returned none) ∧
          (¬ call.Failing → after.phase =
            .returned (some (RpcServer.responsePrefix ++ call.payload)))

theorem Underway.completed {id : Int32} {final : RpcSystem} (regular : Regular trace state)
    (reached : (system clientChecksum serverChecksum).Reaches trace state)
    (underway : Underway clientChecksum serverChecksum trace state id final)
    (returned : AllReturned id final) : Completed id state final := by
  obtain ⟨since, proceeds, final_reached, goesOn⟩ := underway
  refine ⟨goesOn.length_eq, fun number call found => ?_⟩
  have inside := (List.getElem?_eq_some_iff.mp found).1
  obtain ⟨after, after_found⟩ : ∃ after, (final.tcpClients id).calls[number]? = some after :=
    ⟨_, List.getElem?_eq_getElem (goesOn.length_eq ▸ inside)⟩
  have payload_eq : after.payload = call.payload := by
    have payloads_eq := map_payload_eq final_reached id
    rw [payloads_of_proceeds proceeds, ← map_payload_eq reached] at payloads_eq
    have same := congrArg (fun payloads => payloads[number]?) payloads_eq
    simpa [found, after_found] using same
  have failing := goesOn.failing number call after found after_found
  obtain ⟨response, phase⟩ := returned after (List.mem_of_getElem? after_found)
  refine ⟨after, after_found, payload_eq, ?_, ?_⟩
  · intro failed
    simpa [TcpClient.Call.Failing, phase] using failing.mpr failed
  · intro successful
    cases response with
    | none => exact absurd (failing.mp (Or.inr (Or.inr phase))) successful
    | some response =>
        have final_regular := regular.of_proceeds reached proceeds final_reached
        obtain ⟨-, answered, -, -, -, responses⟩ := exists_records final_reached
          final_regular.successful final_regular.short id
        have promise := (TcpClient.orderly_of_reaches (client_reaches final_reached id)).returned
          number after response after_found phase
        obtain ⟨-, rfl⟩ := answered_of_promise final_reached final_regular.few responses
          after_found promise
        rw [phase, payload_eq]

/-- While a connection goes on, its calls have returned or some thread can go on. -/
theorem Underway.returned_or_progresses {id : Int32} {current : RpcSystem}
    (regular : Regular trace state)
    (reached : (system clientChecksum serverChecksum).Reaches trace state)
    (underway : Underway clientChecksum serverChecksum trace state id current) :
    AllReturned id current ∨ Progresses clientChecksum serverChecksum id current := by
  obtain ⟨later, proceeds, current_reached, goesOn⟩ := underway
  exact (regular.of_proceeds reached proceeds current_reached).returned_or_progresses
    current_reached goesOn.connected goesOn.reading

/-- From every reachable state of a regular run in which the client is connected and still reads,
the threads of its connection can go on until every call has returned: a call that had failed
returns `false`, and every other one its own response. -/
theorem every_call_completes (clientChecksum : Int32 → Bool) (serverChecksum : Bool)
    (trace : List Event) (state : RpcSystem)
    (reached : (system clientChecksum serverChecksum).Reaches trace state)
    (regular : Regular trace state) (id : Int32)
    (connected : (state.tcpClients id).socket = true)
    (reading : (state.tcpClients id).reading = true) :
    ∃ later final, (∀ event ∈ later, event.Proceeds id) ∧
      (system clientChecksum serverChecksum).run state later = some final ∧
      (final.tcpClients id).calls.length = (state.tcpClients id).calls.length ∧
      ∀ (number : ℕ) (call : TcpClient.Call),
        (state.tcpClients id).calls[number]? = some call →
          ∃ after : TcpClient.Call, (final.tcpClients id).calls[number]? = some after ∧
            after.payload = call.payload ∧
            (call.Failing → after.phase = .returned none) ∧
            (¬ call.Failing → after.phase =
              .returned (some (RpcServer.responsePrefix ++ call.payload))) := by
  have progress (current : RpcSystem)
      (underway : Underway clientChecksum serverChecksum trace state id current) :
      AllReturned id current ∨ ∃ event next, event.Proceeds id ∧
        (system clientChecksum serverChecksum).step current event = some next ∧
        Underway clientChecksum serverChecksum trace state id next ∧
          work clientChecksum id next < work clientChecksum id current := by
    refine (underway.returned_or_progresses regular reached).imp_right ?_
    rintro ⟨event, next, proceeds, stepped, decreased⟩
    exact ⟨event, next, proceeds, stepped, underway.step proceeds stepped, decreased⟩
  obtain ⟨later, final, proceeds, ran, underway, returned⟩ :=
    EventSystem.exists_run_of_variant (work clientChecksum id) progress state
      (Underway.initial reached connected reading)
  exact ⟨later, final, proceeds, ran, underway.completed regular reached returned⟩

/-- Two calls on connection `4`; the later one has taken the write lock first and sent a part of its
request. -/
def halfSent : List Event :=
  [.client 4 (.call [7]), .client 4 (.call [8]), .client 4 (.register 0), .client 4 (.register 1),
    .client 9 (.call [5]), .client 4 (.lockWrite 1), .client 4 (.send 1 10)]

theorem every_call_completes_halfSent :
    ∃ state final, (system (fun _ => false) false).Reaches halfSent state ∧
      (∃ later, (system (fun _ => false) false).run state later = some final) ∧
      (final.tcpClients 4).calls.map TcpClient.Call.phase =
        [.returned (some (RpcServer.responsePrefix ++ [7])),
          .returned (some (RpcServer.responsePrefix ++ [8]))] := by
  have started : (((system (fun _ => false) false).run {} halfSent).map fun state =>
      ((state.tcpClients 4).calls.map fun call => (call.payload, call.phase),
        (state.tcpClients 4).socket, (state.tcpClients 4).reading)) =
      some ([([7], .registered), ([8], .writing)], true, true) := by decide +kernel
  obtain ⟨state, reached, started⟩ := Option.map_eq_some_iff.mp started
  obtain ⟨calls_eq, connected, reading⟩ :
      (state.tcpClients 4).calls.map (fun call => (call.payload, call.phase)) =
          [([7], .registered), ([8], .writing)] ∧
        (state.tcpClients 4).socket = true ∧ (state.tcpClients 4).reading = true := by
    simpa using started
  have prefix_length : RpcServer.responsePrefix.length = 17 := by decide +kernel
  have regular : Regular halfSent state := by
    refine ⟨fun id number member => by simp [halfSent] at member, ?_, fun id => ?_⟩
    · refine payloadsShort_of_calls reached fun id payload member => ?_
      have short : payload.length = 1 := by
        have listed : (id = 4 ∧ payload = [7]) ∨ (id = 4 ∧ payload = [8]) ∨
            id = 9 ∧ payload = [5] := by simpa [halfSent] using member
        rcases listed with ⟨-, rfl⟩ | ⟨-, rfl⟩ | ⟨-, rfl⟩ <;> rfl
      rw [short, prefix_length]
      decide
    · exact (length_calls_le reached id).trans_lt (by decide)
  obtain ⟨later, final, -, ran, length_eq, completed⟩ :=
    every_call_completes _ _ halfSent state reached regular 4 connected reading
  have answered {number : ℕ} {payload : List UInt8} {phase : TcpClient.Phase}
      (listed : ((state.tcpClients 4).calls.map fun call => (call.payload, call.phase))[number]? =
        some (payload, phase)) (going : phase = .registered ∨ phase = .writing) :
      ((final.tcpClients 4).calls.map TcpClient.Call.phase)[number]? =
        some (.returned (some (RpcServer.responsePrefix ++ payload))) := by
    rw [List.getElem?_map] at listed ⊢
    obtain ⟨call, found, pair_eq⟩ := Option.map_eq_some_iff.mp listed
    obtain ⟨rfl, rfl⟩ := Prod.mk.inj pair_eq
    obtain ⟨after, after_found, -, -, own⟩ := completed number call found
    rw [after_found, Option.map_some, own]
    rcases going with phase | phase <;> simp [TcpClient.Call.Failing, phase]
  refine ⟨state, final, reached, ⟨later, ran⟩, List.ext_getElem? fun number => ?_⟩
  rw [calls_eq] at answered
  have two := congrArg List.length calls_eq
  rw [List.length_map] at two
  rcases number with _ | _ | number
  · exact answered rfl (.inl rfl)
  · exact answered rfl (.inr rfl)
  · simp [length_eq, two]

end RpcSystem
end FramedTcp
