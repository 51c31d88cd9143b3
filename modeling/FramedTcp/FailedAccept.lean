import FramedTcp.ServerLifecycle

/-!
# An accept whose callback throws

`acceptLoop` stores the new handler in `clients_` before it invokes the connect callback.  When the
callback throws, the descriptor is closed and the handler stays in the map, under a number that
`accept` may return again.
-/

namespace FramedTcp

open EventSystems

namespace Connection

/-- The identifier of a handler and the descriptor of its socket. -/
def socket (connection : Connection) : Int32 × Int32 :=
  (connection.handler.id, connection.clientFd)

variable {requestCallback : Bool} {before after : Connection} {event : ThreadEvent}

theorem clientFd_of_sendBatch {step : ClientHandler → Option ClientHandler}
    (stepped : before.sendBatch step = some after) : after.clientFd = before.clientFd := by
  unfold sendBatch at stepped
  split at stepped
  · obtain ⟨handler, -, rfl⟩ := Option.map_eq_some_iff.mp stepped
    rfl
  · contradiction

theorem clientFd_of_step (stepped : before.step requestCallback event = some after) :
    after.clientFd = before.clientFd := by
  cases event with
  | testReader | dispatch | notifyDisconnect | testWriter | wake | endBatch =>
      simp only [step, testReader, dispatch, notifyDisconnect, testWriter, wake, endBatch]
        at stepped
      split at stepped
      · obtain rfl := Option.some.inj stepped
        rfl
      · contradiction
  | recv chunk =>
      simp only [step, recv] at stepped
      split at stepped
      · split at stepped
        · obtain rfl := Option.some.inj stepped
          rfl
        · obtain ⟨handler, -, rfl⟩ := Option.map_eq_some_iff.mp stepped
          rfl
      · contradiction
  | takeBatch =>
      simp only [step, takeBatch] at stepped
      split at stepped
      · obtain ⟨handler, -, rfl⟩ := Option.map_eq_some_iff.mp stepped
        rfl
      · contradiction
  | send count =>
      change before.sendBatch (fun handler => handler.send count) = some after at stepped
      exact clientFd_of_sendBatch stepped
  | nextData =>
      change before.sendBatch ClientHandler.nextData = some after at stepped
      exact clientFd_of_sendBatch stepped
  | failSend =>
      simp only [step, failSend] at stepped
      split at stepped
      · obtain ⟨-, result⟩ := Option.ite_none_right_eq_some.mp stepped
        obtain rfl := Option.some.inj result
        rfl
      · contradiction

/-- The threads of a handler do not change its socket. -/
theorem socket_of_step (stepped : before.step requestCallback event = some after) :
    after.socket = before.socket :=
  Prod.ext (moves_of_step stepped).id_eq (clientFd_of_step stepped)

end Connection

/-- The accepting thread has a connection in hand. -/
def Acceptor.Busy : Acceptor → Prop
  | .creating _ | .notifying _ => True
  | _ => False

/-- `stop` has joined the accepting thread. -/
def Stopper.Joined : Stopper → Prop
  | .idle | .exchanging | .closing | .joiningAccept => False
  | _ => True

namespace ServerLifecycle

/-! ## The property -/

/-- The descriptor is open, it is the handler's socket, and it has been issued to this handler
only. -/
structure Owns (state : ServerLifecycle) (client : Int32) (connection : ℕ) : Prop where
  opened : state.openSockets client = true
  existing : connection < state.created
  socket_eq : (state.connections connection).socket = (client, client)
  not_pending : state.acceptor ≠ .creating client
  unique : ∀ other < state.created, (state.connections other).handler.id = client →
    other = connection

/-- Each key of the map is a descriptor that its handler owns; a handler that is about to be created
overwrites none; and `response` reaches only the owner of the identifier. -/
structure Intact (state : ServerLifecycle) : Prop where
  owned : ∀ key connection, state.clients.lookup key = some connection →
    ∃ client : Int32, client.toInt = key ∧ state.Owns client connection
  not_overwritten : ∀ client, state.acceptor = .creating client →
    state.clients.lookup client.toInt = none
  reached : ∀ client data connection,
    (state.response client data).connections connection ≠ state.connections connection →
      state.Owns client connection

/-- Once the connect callback of an accepted connection has thrown, the map is as it was before the
accept, and the descriptor has been closed exactly once. -/
def Restores (requestCallback : Bool) (trace : List Event) : Prop :=
  ∀ front client middle, front ++ .accept client :: (middle ++ [.notifyConnect true]) <+: trace →
    (∀ other, .accept other ∉ middle) →
    ∀ before during after connection, (lifecycle requestCallback).Reaches front before →
      (lifecycle requestCallback).Reaches (front ++ .accept client :: middle) during →
      during.acceptor = .notifying connection →
      (lifecycle requestCallback).step during (.notifyConnect true) = some after →
      after.clients = before.clients ∧ (after.connections connection).closes = 1

/-! ## What a step does to the map and to the sockets -/

/-- What most steps keep: the sockets, and the connection that the accepting thread has in hand. -/
structure Keeps (state next : ServerLifecycle) : Prop where
  created_eq : next.created = state.created
  openSockets_eq : next.openSockets = state.openSockets
  socket_eq : ∀ connection,
    (next.connections connection).socket = (state.connections connection).socket
  acceptor_eq : next.acceptor = state.acceptor ∨ ¬ next.acceptor.Busy
  returned : (state.stopper.Joined → state.acceptor = .returned) →
    next.stopper.Joined → next.acceptor = .returned

/-- What the steps do to the map and to the sockets. -/
inductive Registers (state : ServerLifecycle) : Event → ServerLifecycle → Prop
  | accepted {client} (accepting : state.acceptor = .accepting)
      (unused : state.openSockets client = false) :
      Registers state (.accept client)
        { state with
          acceptor := .creating client
          openSockets := Function.update state.openSockets client true }
  | created {client} (creating : state.acceptor = .creating client) :
      Registers state .createHandler
        { ({ state with created := state.created + 1 }.setConnection state.created
            (Connection.create client)).destroyClient client with
          acceptor := .notifying state.created
          clients := (state.clients.erase client.toInt).tryInsert client.toInt state.created }
  | thrown {connection} (notifying : state.acceptor = .notifying connection) :
      Registers state (.notifyConnect true)
        { state.setConnection connection { state.connections connection with
            notices := (state.connections connection).notices ++
              [.connect (state.connections connection).handler.id true]
            closes := (state.connections connection).closes + 1 } with
          acceptor := .testing
          openSockets := Function.update state.openSockets
            (state.connections connection).handler.id false }
  | erased {event next} (not_thrown : event ≠ .notifyConnect true) (client : Int32)
      (clients_eq : next.clients = state.clients.erase client.toInt)
      (destroyed : ∀ connection ∈ state.clients.lookup client.toInt,
        (state.connections connection).readJoined = false → next.destroyedUnjoined = true)
      (keeps : state.Keeps next) : Registers state event next
  | moved {next} (joined : state.stopper.Joined) (clients_eq : next.clients = ∅)
      (keeps : state.Keeps next) : Registers state .moveClients next
  | kept {event next} (not_thrown : event ≠ .notifyConnect true)
      (clients_eq : next.clients = state.clients) (keeps : state.Keeps next) :
      Registers state event next

variable {requestCallback : Bool} {trace : List Event} {state next : ServerLifecycle}
  {event : Event}

/-- Only the ownership of the keys is at stake. -/
theorem Intact.of_owned (owned : ∀ key connection, state.clients.lookup key = some connection →
    ∃ client : Int32, client.toInt = key ∧ state.Owns client connection) : state.Intact where
  owned := owned
  not_overwritten client creating := by
    refine Option.eq_none_iff_forall_ne_some.mpr fun connection found => ?_
    obtain ⟨other, other_eq, owns⟩ := owned _ connection found
    obtain rfl := Int32.toInt_inj.mp other_eq
    exact owns.not_pending creating
  reached client data connection changed := by
    unfold response at changed
    split at changed
    · exact absurd rfl changed
    · rename_i other found
      obtain rfl : connection = other := by
        by_contra different
        exact changed (Function.update_of_ne different _ _)
      obtain ⟨owner, owner_eq, owns⟩ := owned _ connection found
      obtain rfl := Int32.toInt_inj.mp owner_eq
      exact owns

/-- A step that leaves the handlers alone. -/
theorem Keeps.of_same (created_eq : next.created = state.created)
    (openSockets_eq : next.openSockets = state.openSockets)
    (connections_eq : next.connections = state.connections)
    (acceptor_eq : next.acceptor = state.acceptor ∨ ¬ next.acceptor.Busy)
    (returned : (state.stopper.Joined → state.acceptor = .returned) →
      next.stopper.Joined → next.acceptor = .returned) : state.Keeps next where
  created_eq := created_eq
  openSockets_eq := openSockets_eq
  socket_eq _ := by rw [connections_eq]
  acceptor_eq := acceptor_eq
  returned := returned

/-- A step of the accepting thread, which has not been joined. -/
theorem Keeps.of_acceptor {acceptor : Acceptor} (going : state.acceptor ≠ .returned)
    (free : ¬ acceptor.Busy) : state.Keeps { state with acceptor } where
  created_eq := rfl
  openSockets_eq := rfl
  socket_eq _ := rfl
  acceptor_eq := Or.inr free
  returned induction joined := absurd (induction joined) going

/-- A step that changes a handler, and not its socket. -/
theorem Keeps.setConnection {connection : ℕ} {value : Connection}
    (socket_eq : value.socket = (state.connections connection).socket) :
    state.Keeps (state.setConnection connection value) where
  created_eq := rfl
  openSockets_eq := rfl
  socket_eq other := by
    rw [connections_setConnection]
    rcases eq_or_ne other connection with rfl | different
    · rw [Function.update_self, socket_eq]
    · rw [Function.update_of_ne different]
  acceptor_eq := Or.inl rfl
  returned := id

theorem Keeps.trans {middle : ServerLifecycle} (first : state.Keeps middle)
    (second : middle.Keeps next) : state.Keeps next where
  created_eq := second.created_eq.trans first.created_eq
  openSockets_eq := second.openSockets_eq.trans first.openSockets_eq
  socket_eq connection := (second.socket_eq connection).trans (first.socket_eq connection)
  acceptor_eq := by
    rcases second.acceptor_eq with same | free
    · rw [same]
      exact first.acceptor_eq
    · exact Or.inr free
  returned induction := second.returned (first.returned induction)

theorem Keeps.destroy (state : ServerLifecycle) (connection : ℕ) :
    state.Keeps (state.destroy connection) where
  created_eq := rfl
  openSockets_eq := rfl
  socket_eq other := by
    rw [connections_destroy]
    rfl
  acceptor_eq := Or.inl rfl
  returned := id

theorem Keeps.destroyClient (state : ServerLifecycle) (client : Int32) :
    state.Keeps (state.destroyClient client) := by
  unfold ServerLifecycle.destroyClient
  cases state.clients.lookup client.toInt with
  | none => exact .of_same rfl rfl rfl (Or.inl rfl) id
  | some connection => exact .destroy state connection

theorem Step.registers (stepped : Step requestCallback state event next) :
    state.Registers event next := by
  cases stepped with
  | start idle =>
      refine .kept (by simp) rfl (.of_same rfl rfl rfl (Or.inr id) fun _ joined => ?_)
      rw [idle] at joined
      exact joined.elim
  | testAccept testing =>
      refine .kept (by simp) rfl (.of_acceptor (by simp [testing]) ?_)
      split <;> exact id
  | accept accepting _ unused => exact .accepted accepting unused.2
  | retryAccept accepting | failAccept accepting =>
      exact .kept (by simp) rfl (.of_acceptor (by simp [accepting]) id)
  | createHandler creating => exact .created creating
  | notifyConnect notifying =>
      have going : state.acceptor ≠ .returned := by simp [notifying]
      exact .kept (by simp) rfl (.trans (.of_acceptor going id) (.setConnection rfl))
  | throwConnect notifying => exact .thrown notifying
  | thread moved => exact .kept (by simp) rfl (.setConnection (Connection.socket_of_step moved))
  | @eraseClient connection erasing =>
      refine .erased (by simp) (state.connections connection).handler.id rfl ?_ ?_
      · intro other found unjoined
        refine destroyedUnjoined_destroyClient found ?_
        rw [connections_setConnection]
        rcases eq_or_ne other connection with rfl | different
        · rw [Function.update_self, unjoined]
        · rw [Function.update_of_ne different, unjoined]
      · have returned : state.Keeps (state.setConnection connection
            { state.connections connection with reader := .returned }) := .setConnection rfl
        exact (returned.trans (.destroyClient _ _)).trans (.of_same rfl rfl rfl (Or.inl rfl) id)
  | response => exact .kept (by simp) rfl (.setConnection rfl)
  | loseResponse | testDisconnect | pollNothing | pollDisconnect | skipScheduled =>
      exact .kept (by simp) rfl (.of_same rfl rfl rfl (Or.inl rfl) id)
  | @notifyScheduled client connection notifying =>
      have worked : state.Keeps { state with worker := .erasing client } :=
        .of_same rfl rfl rfl (Or.inl rfl) id
      exact .kept (by simp) rfl (worked.trans (.setConnection rfl))
  | @eraseScheduled client erasing =>
      refine .erased (by simp) client rfl
        (fun connection found => destroyedUnjoined_destroyClient found) ?_
      exact .trans (.destroyClient _ _) (.of_same rfl rfl rfl (Or.inl rfl) id)
  | stop | exchangeFd | closeListening | returnStop =>
      refine .kept (by simp) rfl (.of_same rfl rfl rfl (Or.inl rfl) fun _ joined => ?_)
      exact joined.elim
  | joinAccept _ returned =>
      exact .kept (by simp) rfl (.of_same rfl rfl rfl (Or.inl rfl) fun _ _ => returned)
  | joinDisconnect joining =>
      refine .kept (by simp) rfl (.of_same rfl rfl rfl (Or.inl rfl) fun induction _ => ?_)
      exact induction (by simp [joining, Stopper.Joined])
  | moveClients moving =>
      have joined : state.stopper.Joined := by simp [moving, Stopper.Joined]
      exact .moved joined rfl (.of_same rfl rfl rfl (Or.inl rfl) fun induction _ =>
        induction joined)
  | @dropClient connection clientsToClose dropping =>
      refine .kept (by simp) rfl (.trans (.destroy state connection)
        (.of_same rfl rfl rfl (Or.inl rfl) fun induction _ => induction ?_))
      change state.stopper.Joined
      simp [dropping, Stopper.Joined]

theorem Keeps.acceptor_of_busy (keeps : state.Keeps next) (busy : next.acceptor.Busy) :
    next.acceptor = state.acceptor :=
  keeps.acceptor_eq.resolve_right (not_not_intro busy)

/-- The sockets once a handler has been created for the client. -/
theorem socket_created (state : ServerLifecycle) (client : Int32) (connection : ℕ) :
    ((({ state with created := state.created + 1 }.setConnection state.created
        (Connection.create client)).destroyClient client).connections connection).socket =
      if connection = state.created then (client, client)
      else (state.connections connection).socket := by
  rw [(Keeps.destroyClient _ client).socket_eq, connections_setConnection]
  split
  · rename_i new
    rw [new, Function.update_self]
    rfl
  · rename_i old
    rw [Function.update_of_ne old]

/-- The map once a handler has been created for the client. -/
theorem lookup_created (state : ServerLifecycle) (client : Int32) (key : ℤ) :
    ((state.clients.erase client.toInt).tryInsert client.toInt state.created).lookup key =
      if key = client.toInt then some state.created else state.clients.lookup key := by
  have absent : (state.clients.erase client.toInt).lookup client.toInt = none := by
    rw [OrderedMap.lookup_erase, if_pos rfl]
  rw [OrderedMap.lookup_tryInsert _ absent]
  split
  · rfl
  · rename_i different
    rw [OrderedMap.lookup_erase, if_neg different]

/-! ## Runs -/

/-- The accepting thread has returned once `stop` has joined it. -/
theorem acceptor_returned_of_reaches (reached : (lifecycle requestCallback).Reaches trace state)
    (joined : state.stopper.Joined) : state.acceptor = .returned := by
  refine reached.invariant
    (motive := fun _ state => state.stopper.Joined → state.acceptor = .returned) ?_ ?_ joined
  · exact fun joined => joined.elim
  · intro trace state event next _ induction stepped
    cases (step_of_eq_some stepped).registers with
    | accepted accepting => exact fun joined => absurd (induction joined) (by simp [accepting])
    | @created client creating =>
        intro joined
        have destroys := Keeps.destroyClient
          ({ state with created := state.created + 1 }.setConnection state.created
            (Connection.create client)) client
        have returned := destroys.returned induction joined
        rw [(destroyClient_same _ client).2.1] at returned
        exact absurd (creating.symm.trans returned) (by simp)
    | thrown notifying => exact fun joined => absurd (induction joined) (by simp [notifying])
    | erased not_thrown client clients_eq destroyed keeps => exact keeps.returned induction
    | moved joined clients_eq keeps => exact keeps.returned induction
    | kept not_thrown clients_eq keeps => exact keeps.returned induction

/-- While the connect callback is invoked, the map holds the new handler. -/
theorem lookup_of_notifying (reached : (lifecycle requestCallback).Reaches trace state)
    (alive : state.destroyedUnjoined = false) {connection : ℕ}
    (notifying : state.acceptor = .notifying connection) :
    state.clients.lookup (state.connections connection).socket.1.toInt = some connection := by
  refine reached.invariant (motive := fun _ state => state.destroyedUnjoined = false →
    ∀ connection, state.acceptor = .notifying connection →
      state.clients.lookup (state.connections connection).socket.1.toInt = some connection)
    ?_ ?_ alive connection notifying
  · exact fun _ connection notifying => absurd notifying (by simp [lifecycle])
  · intro trace state event next state_reached induction stepped alive connection notifying
    have before := induction (alive_of_step stepped) connection
    cases (step_of_eq_some stepped).registers with
    | accepted accepting => simp at notifying
    | @created client creating =>
        obtain rfl : state.created = connection := by simpa using notifying
        change ((state.clients.erase client.toInt).tryInsert client.toInt state.created).lookup
          (((destroyClient _ client).connections state.created).socket.1.toInt) = _
        rw [socket_created, if_pos rfl, lookup_created, if_pos rfl]
    | thrown thrown => simp at notifying
    | erased not_thrown client clients_eq destroyed keeps =>
        rw [keeps.acceptor_of_busy (by simp [notifying, Acceptor.Busy])] at notifying
        rw [clients_eq, keeps.socket_eq, OrderedMap.lookup_erase]
        split
        · rename_i same
          have found := before notifying
          rw [same] at found
          rw [destroyed connection found (unjoined_of_reaches state_reached connection)] at alive
          contradiction
        · exact before notifying
    | moved joined clients_eq keeps =>
        rw [keeps.acceptor_of_busy (by simp [notifying, Acceptor.Busy]),
          acceptor_returned_of_reaches state_reached joined] at notifying
        contradiction
    | kept not_thrown clients_eq keeps =>
        rw [keeps.acceptor_of_busy (by simp [notifying, Acceptor.Busy])] at notifying
        rw [clients_eq, keeps.socket_eq]
        exact before notifying

/-- The sockets and the map in a run in which no callback throws: no descriptor has been issued
twice. -/
structure Registered (state : ServerLifecycle) : Prop where
  opened : ∀ connection < state.created, ∃ client, state.openSockets client = true ∧
    (state.connections connection).socket = (client, client)
  unique : ∀ left < state.created, ∀ right < state.created,
    (state.connections left).socket.1 = (state.connections right).socket.1 → left = right
  pending : ∀ client, state.acceptor = .creating client → state.openSockets client = true ∧
    ∀ connection < state.created, (state.connections connection).socket.1 ≠ client
  mapped : ∀ key connection, state.clients.lookup key = some connection →
    connection < state.created ∧ (state.connections connection).socket.1.toInt = key

namespace Registered

theorem of_keeps (registered : state.Registered) (keeps : state.Keeps next)
    (clients_le : ∀ key connection, next.clients.lookup key = some connection →
      state.clients.lookup key = some connection) : next.Registered where
  opened connection existing := by
    rw [keeps.created_eq] at existing
    rw [keeps.openSockets_eq, keeps.socket_eq]
    exact registered.opened connection existing
  unique left left_existing right right_existing same := by
    rw [keeps.created_eq] at left_existing right_existing
    rw [keeps.socket_eq, keeps.socket_eq] at same
    exact registered.unique left left_existing right right_existing same
  pending client creating := by
    rw [keeps.acceptor_of_busy (by simp [creating, Acceptor.Busy])] at creating
    simp only [keeps.openSockets_eq, keeps.created_eq, keeps.socket_eq]
    exact registered.pending client creating
  mapped key connection found := by
    rw [keeps.created_eq, keeps.socket_eq]
    exact registered.mapped key connection (clients_le key connection found)

/-- An accepted descriptor was not open before. -/
theorem accepted (registered : state.Registered) {client : Int32}
    (unused : state.openSockets client = false) :
    Registered { state with
      acceptor := .creating client
      openSockets := Function.update state.openSockets client true } where
  opened connection existing := by
    obtain ⟨own, opened, socket_eq⟩ := registered.opened connection existing
    refine ⟨own, ?_, socket_eq⟩
    rcases eq_or_ne own client with rfl | different
    · exact Function.update_self own true state.openSockets
    · exact (Function.update_of_ne different true state.openSockets).trans opened
  unique := registered.unique
  pending other creating := by
    obtain rfl : client = other := by simpa using creating
    refine ⟨Function.update_self client true state.openSockets, ?_⟩
    intro connection existing same
    obtain ⟨own, opened, socket_eq⟩ := registered.opened connection existing
    obtain rfl : own = client := by rw [← same, socket_eq]
    rw [opened] at unused
    contradiction
  mapped := registered.mapped

/-- The new handler is the only one with its descriptor. -/
theorem created (registered : state.Registered) {client : Int32}
    (creating : state.acceptor = .creating client) (created_eq : next.created = state.created + 1)
    (openSockets_eq : next.openSockets = state.openSockets)
    (acceptor_eq : next.acceptor = .notifying state.created)
    (socket_eq : ∀ connection, (next.connections connection).socket =
      if connection = state.created then (client, client)
      else (state.connections connection).socket)
    (lookup_eq : ∀ key, next.clients.lookup key =
      if key = client.toInt then some state.created else state.clients.lookup key) :
    next.Registered := by
  obtain ⟨opened, fresh⟩ := registered.pending client creating
  have old {connection : ℕ} (existing : connection < next.created)
      (different : connection ≠ state.created) : connection < state.created := by omega
  refine ⟨fun connection existing => ?_, fun left left_existing right right_existing => ?_,
    fun other pending => ?_, fun key connection found => ?_⟩
  · rw [socket_eq, openSockets_eq]
    split
    · exact ⟨client, opened, rfl⟩
    · rename_i different
      exact registered.opened connection (old existing different)
  · rw [socket_eq, socket_eq]
    split <;> split
    · simp [*]
    · rename_i different
      exact fun same => absurd same.symm (fresh right (old right_existing different))
    · rename_i different _
      exact fun same => absurd same (fresh left (old left_existing different))
    · rename_i left_different right_different
      exact registered.unique left (old left_existing left_different) right
        (old right_existing right_different)
  · rw [acceptor_eq] at pending
    contradiction
  · rw [lookup_eq] at found
    rw [socket_eq, created_eq]
    split at found
    · rename_i same
      obtain rfl := Option.some.inj found
      rw [if_pos rfl]
      exact ⟨Nat.lt_succ_self _, same.symm⟩
    · obtain ⟨existing, key_eq⟩ := registered.mapped key connection found
      rw [if_neg existing.ne]
      exact ⟨Nat.lt_succ_of_lt existing, key_eq⟩

theorem step (registered : state.Registered) (moved : state.Registers event next)
    (not_thrown : event ≠ .notifyConnect true) : next.Registered := by
  cases moved with
  | accepted accepting unused => exact registered.accepted unused
  | @created client creating =>
      have destroys := Keeps.destroyClient
        ({ state with created := state.created + 1 }.setConnection state.created
          (Connection.create client)) client
      exact registered.created creating destroys.created_eq destroys.openSockets_eq rfl
        (socket_created state client) (lookup_created state client)
  | thrown notifying => contradiction
  | erased not_thrown client clients_eq destroyed keeps =>
      refine registered.of_keeps keeps fun key connection found => ?_
      rw [clients_eq, OrderedMap.lookup_erase] at found
      exact (Option.ite_none_left_eq_some.mp found).2
  | moved joined clients_eq keeps =>
      refine registered.of_keeps keeps fun key connection found => ?_
      rw [clients_eq, OrderedMap.lookup_empty] at found
      contradiction
  | kept not_thrown clients_eq keeps =>
      refine registered.of_keeps keeps fun key connection found => ?_
      rwa [clients_eq] at found

theorem intact (registered : state.Registered) : state.Intact := by
  refine .of_owned fun key connection found => ?_
  obtain ⟨existing, key_eq⟩ := registered.mapped key connection found
  obtain ⟨client, opened, socket_eq⟩ := registered.opened connection existing
  refine ⟨client, by rw [← key_eq, socket_eq], opened, existing, socket_eq, ?_, ?_⟩
  · intro creating
    exact (registered.pending client creating).2 connection existing (by rw [socket_eq])
  · intro other other_existing id_eq
    apply registered.unique other other_existing connection existing
    rw [socket_eq]
    exact id_eq

end Registered

theorem registered_of_reaches (reached : (lifecycle requestCallback).Reaches trace state)
    (each : (lifecycle requestCallback).EachStep
      (fun _ event => event ≠ .notifyConnect true) trace) :
    state.Registered := by
  refine reached.invariant (motive := fun front state => front <+: trace → state.Registered)
    ?_ ?_ List.prefix_rfl
  · intro _
    exact ⟨nofun, nofun, nofun, nofun⟩
  · intro front state event next state_reached induction stepped front_le
    apply (induction ((List.prefix_append front [event]).trans front_le)).step
      ((step_of_eq_some stepped).registers)
    exact each front event front_le state next state_reached stepped

/-- When the callback throws, the map keeps the handler under a descriptor that has been closed. -/
theorem not_intact_of_throw (reached : (lifecycle requestCallback).Reaches trace state)
    (stepped : (lifecycle requestCallback).step state (.notifyConnect true) = some next) :
    ¬ next.Intact := by
  intro intact
  have alive := alive_of_step stepped
  cases (step_of_eq_some stepped).registers with
  | @thrown connection notifying =>
      have found := lookup_of_notifying reached alive notifying
      obtain ⟨client, client_eq, owns⟩ := intact.owned _ connection found
      obtain rfl := Int32.toInt_inj.mp client_eq
      have closed := Function.update_self (state.connections connection).handler.id false
        state.openSockets
      exact absurd (closed.symm.trans owns.opened) Bool.false_ne_true
  | erased not_thrown client clients_eq destroyed keeps => contradiction
  | kept not_thrown clients_eq keeps => contradiction

/-- Failing accepts leave the map and the sockets intact exactly in the runs in which no connect
callback throws. -/
theorem intact_iff (requestCallback : Bool) (trace : List Event) :
    Restores requestCallback trace ∧ (lifecycle requestCallback).Along Intact trace ↔
      (lifecycle requestCallback).EachStep (fun _ event => event ≠ .notifyConnect true) trace := by
  constructor
  · rintro ⟨-, along⟩ front event front_le state next reached stepped rfl
    apply not_intact_of_throw reached stepped
    exact along _ front_le next (EventSystem.reaches_concat.mpr ⟨state, reached, stepped⟩)
  · intro each
    constructor
    · intro front client middle front_le _ before during after connection _ reached _ stepped
      rw [← List.cons_append, ← List.append_assoc] at front_le
      exact absurd rfl (each _ _ front_le during after reached stepped)
    · intro front front_le state reached
      exact (registered_of_reaches reached (each.of_front front_le)).intact

/-- The callback throws for the connection on descriptor 4, and `accept` returns 4 again. -/
def reusedTrace : List Event :=
  [.start, .testAccept, .accept 4, .createHandler, .notifyConnect true, .testAccept, .accept 4]

/-- The map keeps the handler under the closed descriptor 4; the next accept returns 4, `response`
pushes to the old handler, and the creation of the new handler overwrites it. -/
theorem thrown_callback_keeps_handler :
    ∃ before thrown reused next,
      (lifecycle true).Reaches (reusedTrace.take 2) before ∧ before.clients.lookup 4 = none ∧
      (lifecycle true).Reaches (reusedTrace.take 5) thrown ∧ thrown.clients.lookup 4 = some 0 ∧
      thrown.openSockets 4 = false ∧ (thrown.connections 0).closes = 1 ∧
      (lifecycle true).Reaches reusedTrace reused ∧ reused.openSockets 4 = true ∧
      ((reused.response 4 [1]).connections 0).handler.outgoingQueue = [[1]] ∧
      (lifecycle true).step reused .createHandler = some next ∧
      (next.connections 0).destroyed = true ∧ next.destroyedUnjoined = true ∧
      ¬ (Restores true reusedTrace ∧ (lifecycle true).Along Intact reusedTrace) := by
  refine ⟨_, _, _, _, rfl, rfl, rfl, rfl, rfl, rfl, rfl, rfl, rfl, rfl, rfl, rfl, ?_⟩
  rintro ⟨-, along⟩
  have intact := along (reusedTrace.take 5) (List.take_prefix 5 reusedTrace) _ rfl
  obtain ⟨client, client_eq, owns⟩ := intact.owned 4 0 rfl
  obtain rfl : client = 4 := Int32.toInt_inj.mp client_eq
  exact absurd owns.opened (by decide)

end ServerLifecycle
end FramedTcp
