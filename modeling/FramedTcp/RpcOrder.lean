import FramedTcp.FrameSplicing
import FramedTcp.RpcSystem
import FramedTcp.TimeoutBoundary

/-!
# Every call is handled once, in write-lock order

The order in which the calls of a client take the write lock is the order of their requests on the
connection, of the invocations of `handleRequest`, of the responses and of the frames that the
client's read thread handles.
-/

namespace FramedTcp

open PrefixDecoding EventSystems FrameParser ShortWrites

namespace TcpClient

/-! ## Requests in write-lock order -/

/-- A request that has not been given up has been sent in full once its call has left `write`. -/
structure Call.SentWhole (enableChecksum : Bool) (call : Call) : Prop where
  inside : call.totalSent ≤ (call.request.serialize enableChecksum).length
  whole : call.phase ≠ .allocated → call.phase ≠ .registered → call.phase ≠ .writing →
    call.totalSent = (call.request.serialize enableChecksum).length

/-- Every request of the client is sent in full. -/
def SendsWhole (enableChecksum : Bool) (client : TcpClient) : Prop :=
  ∀ (number : ℕ) (call : Call), client.calls[number]? = some call →
    call.SentWhole enableChecksum

/-- The requests of some calls. -/
def requestsOf (client : TcpClient) (numbers : List ℕ) : List Frame :=
  numbers.filterMap fun number => client.calls[number]?.map Call.request

variable {enableChecksum : Bool} {trace : List Event} {event : Event} {client next : TcpClient}

theorem SendsWhole.modify (sendsWhole : client.SendsWhole enableChecksum) {number : ℕ}
    {change : Call → Call} (calls_eq : next.calls = client.calls.modify number change)
    (own : ∀ call, client.calls[number]? = some call → call.SentWhole enableChecksum →
      (change call).SentWhole enableChecksum) : next.SendsWhole enableChecksum := by
  intro other after found
  rw [calls_eq, getElem?_modify_eq_some] at found
  obtain ⟨before, before_found, rfl⟩ := found
  split
  · rename_i same
    subst same
    exact own before before_found (sendsWhole number before before_found)
  · exact sendsWhole other before before_found

/-- A call changes its phase without sending anything. -/
theorem SendsWhole.setPhase (sendsWhole : client.SendsWhole enableChecksum) {number : ℕ}
    {phase : Phase} (calls_eq : next.calls = client.calls.modify number fun call =>
      { call with phase })
    (own : ∀ call, client.calls[number]? = some call → call.SentWhole enableChecksum →
      phase ≠ .allocated → phase ≠ .registered → phase ≠ .writing →
        call.totalSent = (call.request.serialize enableChecksum).length) :
    next.SendsWhole enableChecksum :=
  sendsWhole.modify calls_eq fun call found sentWhole =>
    ⟨sentWhole.inside, own call found sentWhole⟩

theorem SendsWhole.step (sendsWhole : client.SendsWhole enableChecksum)
    (successful : ∀ number, event ≠ .sendFailed number)
    (failures : ∀ (number : ℕ) (call : Call), client.calls[number]? = some call →
      call.phase ≠ .writeFailed)
    (stepped : Step enableChecksum client event next) : next.SendsWhole enableChecksum := by
  have left {number : ℕ} {call before : Call} {phase : Phase}
      (found : client.calls[number]? = some call) (call_phase : call.phase = phase)
      (not_allocated : phase ≠ .allocated) (not_registered : phase ≠ .registered)
      (not_writing : phase ≠ .writing) (before_found : client.calls[number]? = some before)
      (sentWhole : before.SentWhole enableChecksum) :
      before.totalSent = (before.request.serialize enableChecksum).length := by
    obtain rfl := Option.some.inj (before_found.symm.trans found)
    subst call_phase
    exact sentWhole.whole not_allocated not_registered not_writing
  cases stepped with
  | call payload =>
      intro number call found
      simp only [getNextStreamId, List.getElem?_append] at found
      split at found
      · exact sendsWhole number call found
      · rw [List.getElem?_singleton, Option.ite_none_right_eq_some, Option.some.injEq] at found
        obtain ⟨-, rfl⟩ := found
        exact ⟨Nat.zero_le _, fun allocated => absurd rfl allocated⟩
  | register => exact sendsWhole.setPhase rfl fun _ _ _ _ registered => absurd rfl registered
  | lockWrite => exact sendsWhole.setPhase rfl fun _ _ _ _ _ writing => absurd rfl writing
  | send found phase _ _ inside =>
      refine sendsWhole.modify rfl fun before before_found _ => ?_
      obtain rfl := Option.some.inj (before_found.symm.trans found)
      refine ⟨?_, fun _ _ writing => absurd phase writing⟩
      refine le_trans (Nat.add_le_add_left ?_ _) inside
      exact List.length_take_le _ _
  | sendInterrupted | recv | stopReading | disconnect | clear => exact sendsWhole
  | sendFailed => exact absurd rfl (successful _)
  | writeDone found phase all_sent =>
      refine sendsWhole.setPhase rfl fun before before_found _ _ _ _ => ?_
      obtain rfl := Option.some.inj (before_found.symm.trans found)
      exact all_sent
  | eraseFailed found phase => exact absurd phase (failures _ _ found)
  | timeout found phase | eraseTimedOut found phase | get found phase =>
      refine sendsWhole.setPhase rfl fun before before_found sentWhole _ _ _ => ?_
      exact left found phase (by simp) (by simp) (by simp) before_found sentWhole
  | @dispatch frame frames =>
      rcases handleFrame_cases { client with frames } frame with
        ⟨-, same⟩ | ⟨number, -, answered⟩ | ⟨-, thrown⟩
      · rw [same]
        exact sendsWhole
      · rw [answered]
        exact sendsWhole.modify rfl fun call _ sentWhole => ⟨sentWhole.inside, sentWhole.whole⟩
      · rw [thrown]
        exact sendsWhole

/-- Without a failed `send` every request that has been begun is sent in full. -/
theorem sendsWhole_of_reaches (successful : ∀ number, Event.sendFailed number ∉ trace)
    (reached : (system enableChecksum).Reaches trace client) :
    client.SendsWhole enableChecksum ∧ ∀ (number : ℕ) (call : Call),
      client.calls[number]? = some call → call.phase ≠ .writeFailed := by
  revert successful
  refine reached.invariant (motive := fun trace client =>
    (∀ number, Event.sendFailed number ∉ trace) → client.SendsWhole enableChecksum ∧
      ∀ (number : ℕ) (call : Call), client.calls[number]? = some call →
        call.phase ≠ .writeFailed) ?_ ?_
  · exact fun _ => ⟨nofun, nofun⟩
  intro trace client event next before_reached earlier stepped successful
  obtain ⟨sendsWhole, failures⟩ := earlier fun number member =>
    successful number (List.mem_append_left _ member)
  have not_failed (number : ℕ) : event ≠ .sendFailed number := fun equality =>
    successful number (List.mem_append_right _ (equality ▸ List.mem_singleton_self _))
  have moved := step_of_eq_some stepped
  refine ⟨sendsWhole.step not_failed failures moved, ?_⟩
  intro number after after_found failed
  rcases moves_of_step (orderly_of_reaches before_reached).handlersOpen moved after_found with
    ⟨before, found, moves⟩ | ⟨-, allocated, -⟩
  · cases moves with
    | kept _ phase_eq => exact failures number before found (phase_eq.symm.trans failed)
    | failed => exact not_failed number rfl
    | answered => exact failures number before found failed
    | _ => contradiction
  · rw [allocated] at failed
    contradiction

/-- The calls that have taken the write lock have sent their requests one after the other. -/
theorem transmitted_eq_requests (successful : ∀ number, Event.sendFailed number ∉ trace)
    (reached : (system enableChecksum).Reaches trace client) :
    client.transmitted ++ client.unsent enableChecksum =
      ((client.requestsOf (lockOrder trace)).map (Frame.serialize enableChecksum)).flatten := by
  have ledger := ledger_of_reaches reached
  have lockHeld := lockHeld_of_reaches reached
  obtain ⟨sendsWhole, -⟩ := sendsWhole_of_reaches successful reached
  have buffers (numbers : List ℕ) :
      (writesOf enableChecksum client numbers).map Write.buffer =
        (client.requestsOf numbers).map (Frame.serialize enableChecksum) := by
    simp only [writesOf, requestsOf, List.map_filterMap, Option.map_map]
    rfl
  have whole (numbers : List ℕ) (locked : ∀ number ∈ numbers, number ∈ lockOrder trace)
      (others : ∀ number ∈ numbers, client.writeMutex ≠ some number) :
      channel (writesOf enableChecksum client numbers) =
        ((client.requestsOf numbers).map (Frame.serialize enableChecksum)).flatten := by
    rw [(channel_eq_iff _).mpr, buffers]
    intro write member
    obtain ⟨number, number_member, call, found, rfl⟩ := mem_writesOf_iff.mp member
    have sentWhole := sendsWhole number call found
    rw [Call.written, Write.accepted_ofCount sentWhole.inside]
    refine sentWhole.whole ?_ ?_ ?_
    · exact fun phase => ledger.unlocked number call found (Or.inl phase) (locked _ number_member)
    · exact fun phase => ledger.unlocked number call found (Or.inr phase) (locked _ number_member)
    · exact fun phase => others number number_member ((lockHeld number).mpr ⟨call, found, phase⟩)
  rw [ledger.transmitted_eq, writes]
  cases held : client.writeMutex with
  | none =>
      rw [unsent_of_free held, List.append_nil]
      exact whole _ (fun _ => id) (by simp [held])
  | some number =>
      obtain ⟨earlier, order, fresh⟩ := ledger.last number held
      obtain ⟨call, found, phase⟩ := (lockHeld number).mp held
      have inside := (sendsWhole number call found).inside
      have last : writesOf enableChecksum client [number] = [call.written enableChecksum] := by
        simp [writesOf, found]
      have front := whole earlier (fun other member => order ▸ List.mem_append_left _ member)
        fun other member same => fresh (Option.some.inj (held.symm.trans same) ▸ member)
      rw [unsent_of_holder held found, order, writesOf, List.filterMap_append, channel_append,
        ← writesOf, ← writesOf, front, last, channel_singleton, Call.written,
        Write.carried_ofCount inside, List.append_assoc, List.take_append_drop]
      simp [requestsOf, found]

/-- No call takes the write lock twice. -/
theorem nodup_lockOrder (reached : (system enableChecksum).Reaches trace client) :
    (lockOrder trace).Nodup := by
  refine reached.invariant (motive := fun trace _ => (lockOrder trace).Nodup) List.nodup_nil ?_
  intro trace client event next before_reached nodup stepped
  cases locked : event.locked? with
  | none => rwa [lockOrder_concat locked]
  | some number =>
      cases event with
      | lockWrite other =>
          obtain rfl := Option.some.inj locked
          cases step_of_eq_some stepped with
          | lockWrite found phase =>
              have fresh := (ledger_of_reaches before_reached).unlocked _ _ found (Or.inr phase)
              rw [lockOrder_lockWrite, ← List.concat_eq_append]
              exact nodup.concat fresh
      | _ => contradiction

end TcpClient

namespace RpcSystem

/-! ## From the lock to the response -/

/-- The calls of a client that have taken the write lock, in order. -/
def writers (id : Int32) (trace : List Event) : List ℕ :=
  TcpClient.lockOrder (trace.filterMap (clientEvent id))

/-- The responses that have been queued for a client, in order. -/
def responsesQueued (state : RpcSystem) (id : Int32) : List (List UInt8) :=
  match state.server.clients id with
  | some handler => handler.pushed
  | none => []

/-- The frames that the read thread of a client has handled, in order. -/
def framesHandled (id : Int32) (trace : List Event) : List Frame :=
  TcpClient.handled (trace.filterMap (clientEvent id))

/-- The frame that answers a call, as its client receives it. -/
def responseReceived (clientChecksum serverChecksum : Bool) (call : TcpClient.Call) : Frame :=
  (replyFrame (call.request.onWire clientChecksum)).onWire serverChecksum

variable {clientChecksum : Int32 → Bool} {serverChecksum : Bool} {trace : List Event}
  {state : RpcSystem}

theorem sendsSucceed_client (successful : SendsSucceed trace) (id : Int32) :
    ∀ number, TcpClient.Event.sendFailed number ∉ trace.filterMap (clientEvent id) := by
  intro number member
  obtain ⟨event, event_member, own⟩ := List.mem_filterMap.mp member
  cases event with
  | server => contradiction
  | client client event =>
      obtain ⟨rfl, own_eq⟩ := Option.ite_none_right_eq_some.mp own
      obtain rfl := Option.some.inj own_eq
      exact successful client number event_member

/-- The server finds the requests of a client in write-lock order. -/
theorem requests_in_lock_order
    (reached : (system clientChecksum serverChecksum).Reaches trace state)
    (successful : SendsSucceed trace) (short : state.PayloadsShort) (id : Int32) :
    decoder.messages (serverReceived id trace) <+:
      ((state.tcpClients id).requestsOf (writers id trace)).map
        (Frame.onWire (clientChecksum id)) := by
  have client_reached := client_reaches reached id
  have own_successful := sendsSucceed_client successful id
  have transmitted_eq := TcpClient.transmitted_eq_requests own_successful client_reached
  have wellFormed : ∀ frame ∈ (state.tcpClients id).requestsOf (writers id trace),
      frame.WellFormed := by
    intro frame member
    obtain ⟨number, -, found⟩ := List.mem_filterMap.mp member
    obtain ⟨call, call_found, rfl⟩ := Option.map_eq_some_iff.mp found
    exact wellFormed_request (short id call (List.mem_of_getElem? call_found))
  have received_le := (delivered_of_reaches reached).requests_le id
  have front_le := received_le.trans ⟨_, transmitted_eq⟩
  obtain ⟨done, done_le, messages_eq⟩ := PrefixDecoder.messages_of_front _
    (encodes_serialize_of_forall wellFormed (clientChecksum id)) front_le
  rw [messages_eq]
  exact done_le.map _

/-- The responses queued are those to a front piece of the requests. -/
theorem responsesQueued_le
    (reached : (system clientChecksum serverChecksum).Reaches trace state) (id : Int32) :
    state.responsesQueued id <+:
      (decoder.messages (serverReceived id trace)).map (RpcServer.reply serverChecksum) := by
  cases found : state.server.clients id with
  | none => simp [responsesQueued, found]
  | some handler =>
      have serves := RpcServer.serves_of_clients (server_reaches reached) found
      simp only [responsesQueued, found]
      exact ⟨_, serves.pushed_eq⟩

theorem responsesSent_le_queued
    (reached : (system clientChecksum serverChecksum).Reaches trace state) (id : Int32) :
    state.responsesSent id <+: (state.responsesQueued id).flatten := by
  cases found : state.server.clients id with
  | none => simp [responsesSent, found]
  | some handler =>
      have serves := RpcServer.serves_of_clients (server_reaches reached) found
      simp only [responsesSent, responsesQueued, found]
      exact serves.toDelivers.transmitted_le

/-- The read thread of a client handles the responses in the order in which they were queued. -/
theorem framesHandled_le
    (reached : (system clientChecksum serverChecksum).Reaches trace state) {id : Int32}
    {replies : List Frame} (wellFormed : ∀ frame ∈ replies, frame.WellFormed)
    (queued : state.responsesQueued id = replies.map (Frame.serialize serverChecksum)) :
    framesHandled id trace <+: replies.map (Frame.onWire serverChecksum) := by
  have sent_le := (delivered_of_reaches reached).responses_le id
  have front_le := sent_le.trans (responsesSent_le_queued reached id)
  rw [queued] at front_le
  obtain ⟨done, done_le, messages_eq⟩ := PrefixDecoder.messages_of_front _
    (encodes_serialize_of_forall wellFormed serverChecksum) front_le
  have reading := TcpClient.reading_of_reaches (client_reaches reached id)
  have handled_le : framesHandled id trace <+: decoder.messages (clientReceived id trace) :=
    ⟨_, reading.handled_eq⟩
  rw [messages_eq] at handled_le
  exact handled_le.trans (done_le.map _)

/-- Some calls of a client, in an order, with what is recorded of each. -/
def Records {β : Type} (client : TcpClient) (record : TcpClient.Call → β) (numbers : List ℕ)
    (entries : List β) : Prop :=
  numbers.map (fun number => client.calls[number]?.map record) = entries.map some

/-- A front piece of the requests belongs to a front piece of the calls. -/
theorem records_of_requests {client : TcpClient} {numbers : List ℕ} {requests : List Frame}
    (existing : ∀ number ∈ numbers, number < client.calls.length)
    (requests_le : requests <+: client.requestsOf numbers) :
    ∃ front, front <+: numbers ∧ Records client TcpClient.Call.request front requests := by
  obtain ⟨front, front_le, rfl⟩ := List.prefix_filterMap_iff.mp requests_le
  refine ⟨front, front_le, ?_⟩
  have inside (number : ℕ) (member : number ∈ front) := existing number (front_le.subset member)
  clear front_le requests_le
  induction front with
  | nil => rfl
  | cons number front induction =>
      have found := List.getElem?_eq_getElem (inside number List.mem_cons_self)
      have later := induction fun other member => inside other (List.mem_cons_of_mem _ member)
      rw [Records] at later
      simp [Records, found, later]

theorem Records.map {β γ : Type} {client : TcpClient} {record : TcpClient.Call → β}
    {numbers : List ℕ} {entries : List β} (records : Records client record numbers entries)
    {change : β → γ} {changed : TcpClient.Call → γ}
    (same : ∀ call, changed call = change (record call)) :
    Records client changed numbers (entries.map change) := by
  have mapped := congrArg (List.map (Option.map change)) records
  obtain rfl : changed = change ∘ record := funext same
  simpa [Records, Function.comp_def] using mapped

theorem Records.take {β : Type} {client : TcpClient} {record : TcpClient.Call → β}
    {numbers : List ℕ} {entries front : List β} (records : Records client record numbers entries)
    (front_le : front <+: entries) :
    ∃ fewer, fewer <+: numbers ∧ Records client record fewer front := by
  have some_le := front_le.map some
  rw [← records] at some_le
  obtain ⟨fewer, fewer_le, front_eq⟩ := List.prefix_map_iff.mp some_le
  exact ⟨fewer, fewer_le, front_eq.symm⟩

theorem Records.exists_call {β : Type} {client : TcpClient} {record : TcpClient.Call → β}
    {numbers : List ℕ} {entries : List β} (records : Records client record numbers entries)
    {entry : β} (member : entry ∈ entries) :
    ∃ number ∈ numbers, ∃ call, client.calls[number]? = some call ∧ record call = entry := by
  have some_member := List.mem_map_of_mem (f := some) member
  rw [← records] at some_member
  obtain ⟨number, number_member, entry_eq⟩ := List.mem_map.mp some_member
  obtain ⟨call, found, record_eq⟩ := Option.map_eq_some_iff.mp entry_eq
  exact ⟨number, number_member, call, found, record_eq⟩

section Run

variable (reached : (system clientChecksum serverChecksum).Reaches trace state)
  (successful : SendsSucceed trace) (short : state.PayloadsShort)
include reached successful short

/-- The server answers the calls of a client, and the client handles the responses, in write-lock
order. -/
theorem exists_records (id : Int32) :
    ∃ requested answered, requested <+: writers id trace ∧ answered <+: requested ∧
      Records (state.tcpClients id)
        (fun call => RpcServer.reply serverChecksum (call.request.onWire (clientChecksum id)))
        requested (state.responsesQueued id) ∧
      Records (state.tcpClients id) (responseReceived (clientChecksum id) serverChecksum)
        answered (framesHandled id trace) := by
  have existing := (TcpClient.ledger_of_reaches (client_reaches reached id)).existing
  have queued_le := (responsesQueued_le reached id).trans
    ((requests_in_lock_order reached successful short id).map _)
  rw [List.map_map] at queued_le
  obtain ⟨requests, requests_le, queued_eq⟩ := List.prefix_map_iff.mp queued_le
  obtain ⟨requested, requested_le, records⟩ := records_of_requests existing requests_le
  have handled_le : framesHandled id trace <+:
      (requests.map fun frame => replyFrame (frame.onWire (clientChecksum id))).map
        (Frame.onWire serverChecksum) := by
    refine framesHandled_le reached ?_ ?_
    · intro frame member
      obtain ⟨request, request_member, rfl⟩ := List.mem_map.mp member
      obtain ⟨number, -, call, found, rfl⟩ := records.exists_call request_member
      exact wellFormed_replyFrame (clientChecksum id)
        (short id call (List.mem_of_getElem? found))
    · rw [queued_eq, List.map_map]
      rfl
  rw [List.map_map] at handled_le
  obtain ⟨handled, handled_front, handled_eq⟩ := List.prefix_map_iff.mp handled_le
  obtain ⟨answered, answered_le, answers⟩ := records.take handled_front
  refine ⟨requested, answered, requested_le, answered_le, ?_, ?_⟩
  · rw [queued_eq]
    exact records.map fun _ => rfl
  · rw [handled_eq]
    exact answers.map fun _ => rfl

omit successful short in
/-- The frame that has completed a call is the response to this call. -/
theorem answered_of_promise (few : ∀ id, (state.tcpClients id).calls.length < 2 ^ 32) {id : Int32}
    {answered : List ℕ}
    (responses : Records (state.tcpClients id) (responseReceived (clientChecksum id) serverChecksum)
      answered (framesHandled id trace))
    {number : ℕ} {call : TcpClient.Call} {response : List UInt8}
    (found : (state.tcpClients id).calls[number]? = some call)
    (promise : call.promise = some response) :
    number ∈ answered ∧ response = RpcServer.responsePrefix ++ call.payload := by
  have client_reached := client_reaches reached id
  have consistent := TcpClient.consistent_of_reaches
    (TcpClient.along_lifetimesBounded (TcpClient.length_calls client_reached ▸ (few id).le))
    client_reached
  have own := consistent.calls number call found
  obtain ⟨frame, answer, rfl⟩ := own.answered response promise
  have matching : frame.streamId = call.streamId.toUInt32 := by
    simpa using List.find?_some answer
  have received : frame ∈ framesHandled id trace :=
    TcpClient.handledSince_subset (List.mem_of_find?_eq_some answer)
  obtain ⟨other, other_member, otherCall, other_found, rfl⟩ := responses.exists_call received
  have same_id : Int32.ofNat number = Int32.ofNat other := by
    rw [← own.streamId_eq, ← (consistent.calls other otherCall other_found).streamId_eq]
    exact (TcpClient.toInt32_eq_iff.mpr matching).symm.trans (TcpClient.toInt32_eq_iff.mpr rfl)
  have inside := (List.getElem?_eq_some_iff.mp found).1
  have other_inside := (List.getElem?_eq_some_iff.mp other_found).1
  have bounded := few id
  obtain rfl : number = other := TcpClient.eq_of_streamId_eq same_id (by omega) (by omega)
  obtain rfl := Option.some.inj (other_found.symm.trans found)
  exact ⟨other_member, rfl⟩

end Run

/-- Whatever the interleaving, the chunks and the timeouts: no call is handled twice, the server
answers the calls of a client in the order in which they took the write lock, the client handles
the responses in that order, and the calls that have returned one are among those answered. -/
theorem handled_once_in_lock_order (clientChecksum : Int32 → Bool) (serverChecksum : Bool)
    (trace : List Event) (state : RpcSystem)
    (reached : (system clientChecksum serverChecksum).Reaches trace state)
    (successful : SendsSucceed trace) (short : state.PayloadsShort)
    (few : ∀ id, (state.tcpClients id).calls.length < 2 ^ 32) (id : Int32) :
    (writers id trace).Nodup ∧
      ∃ requested answered, requested <+: writers id trace ∧ answered <+: requested ∧
        Records (state.tcpClients id)
          (fun call => RpcServer.reply serverChecksum (call.request.onWire (clientChecksum id)))
          requested (state.responsesQueued id) ∧
        Records (state.tcpClients id) (responseReceived (clientChecksum id) serverChecksum)
          answered (framesHandled id trace) ∧
        ∀ (number : ℕ) (call : TcpClient.Call) (response : List UInt8),
          (state.tcpClients id).calls[number]? = some call →
            call.phase = .returned (some response) → number ∈ answered := by
  have client_reached := client_reaches reached id
  obtain ⟨requested, answered, requested_le, answered_le, requests, responses⟩ :=
    exists_records reached successful short id
  refine ⟨TcpClient.nodup_lockOrder client_reached, requested, answered, requested_le,
    answered_le, requests, responses, ?_⟩
  intro number call response found phase
  have promise := (TcpClient.orderly_of_reaches client_reached).returned number call response
    found phase
  exact (answered_of_promise reached few responses found promise).1

/-- The responses come in the order in which the calls have taken the write lock. -/
theorem handled_once_in_lock_order_exchange :
    ∃ state, (system (fun _ => false) false).Reaches exchange state ∧
      writers 4 exchange = [1, 0] ∧
      Records (state.tcpClients 4) (responseReceived false false) [1, 0]
        (framesHandled 4 exchange) := by
  obtain ⟨state, reached, short, few, phases, -⟩ := exists_reaches_exchange
  obtain ⟨-, requested, answered, requested_le, answered_le, -, responses, returned⟩ :=
    handled_once_in_lock_order _ _ exchange state reached sendsSucceed_exchange short few 4
  have writers_eq : writers 4 exchange = [1, 0] := by decide +kernel
  have zero_mem : 0 ∈ answered := by
    have first := congrArg (fun phases => phases[0]?) phases
    simp only [List.getElem?_map] at first
    obtain ⟨call, found, phase⟩ := Option.map_eq_some_iff.mp first
    exact returned 0 call _ found phase
  obtain rfl : answered = [1, 0] := by
    have front_le := answered_le.trans requested_le
    rw [writers_eq] at front_le
    rcases List.prefix_cons_iff.mp front_le with rfl | ⟨later, rfl, later_le⟩
    · simp at zero_mem
    · rcases List.prefix_cons_iff.mp later_le with rfl | ⟨last, rfl, last_le⟩
      · simp at zero_mem
      · rw [List.prefix_nil.mp last_le]
  exact ⟨state, reached, writers_eq, responses⟩

end RpcSystem
end FramedTcp
