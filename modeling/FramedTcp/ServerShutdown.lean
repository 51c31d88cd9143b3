import FramedTcp.FailedAccept

/-!
# Stopping the server

`stop()` clears `running_`, closes the listening socket, joins the accepting thread and the
disconnect worker, and destroys the handlers that are left.  Until the listening socket is closed, a
client may still be accepted.  Nobody joins the threads of a handler, so the destruction of the
first handler that is left hangs or terminates the process.  The threads of the handlers go on in
the meantime, for as long as their clients keep sending.
-/

namespace FramedTcp

open EventSystems

/-- Steps left to the accepting thread once `running_` has been cleared; the handler it creates
makes one more for `stop`. -/
def Acceptor.work : Acceptor → ℕ
  | .testing => 1
  | .accepting => 5
  | .creating _ => 4
  | .notifying _ => 2
  | .returned => 0

/-- Steps left to the disconnect worker. -/
def DisconnectWorker.work : DisconnectWorker → ℕ
  | .testing => 1
  | .polling => 2
  | .notifying _ => 3
  | .erasing _ => 2
  | .returned => 0

/-- Steps left to `stop` when the map holds so many handlers. -/
def Stopper.work (clients : ℕ) : Stopper → ℕ
  | .idle => 0
  | .exchanging => clients + 6
  | .closing => clients + 5
  | .joiningAccept => clients + 4
  | .joiningDisconnect => clients + 3
  | .moving => clients + 2
  | .dropping clientsToClose => clientsToClose.length + 1

theorem Stopper.work_le {stopper : Stopper} {clients more : ℕ} (length_le : more ≤ clients + 1) :
    stopper.work more ≤ stopper.work clients + 1 := by
  cases stopper <;> simp only [Stopper.work] <;> omega

namespace ServerLifecycle

/-- Steps of the accepting thread, of the disconnect worker and of `stop` itself. -/
def Event.OfServer : Event → Prop
  | .start | .stop | .thread _ _ | .eraseClient _ | .response _ _ => False
  | _ => True

/-- No call of `stop` is under way. -/
def Stopped (state : ServerLifecycle) : Prop := state.stopper = .idle

/-- A handler has been destroyed whose threads had not been joined: the process hangs there, or is
terminated. -/
def DestroyedUnjoined (state : ServerLifecycle) : Prop := state.destroyedUnjoined = true

/-- A handler is in the map, is about to be created, or is left for `stop` to destroy. -/
def Occupied (state : ServerLifecycle) : Prop :=
  state.clients.entries ≠ [] ∨ (∃ client, state.acceptor = .creating client) ∨
    ∃ connection clientsToClose, state.stopper = .dropping (connection :: clientsToClose)

/-- A call of `accept` is under way that can still return a client. -/
structure Expecting (state : ServerLifecycle) : Prop where
  accepting : state.acceptor = .accepting
  listening : state.listening = true
  unused : ∃ client ≥ 0, state.openSockets client = false

/-- Steps left until `stop` returns. -/
def work (state : ServerLifecycle) : ℕ :=
  state.acceptor.work + state.worker.work + state.stopper.work state.clients.entries.length

/-! ## What a step does to the threads that `stop` joins -/

/-- A step of the handlers' threads, or of a thread that calls `response`. -/
structure Undriven (state next : ServerLifecycle) : Prop where
  running_eq : next.running = state.running
  acceptor_eq : next.acceptor = state.acceptor
  worker_eq : next.worker = state.worker
  stopper_eq : next.stopper = state.stopper
  expecting : next.Expecting → state.Expecting
  length_le : next.clients.entries.length ≤ state.clients.entries.length
  clients_cases :
    next.destroyedUnjoined = state.destroyedUnjoined ∧ next.clients = state.clients ∨
      next.destroyedUnjoined = true ∧ state.clients.entries ≠ []

/-- What the other threads do once `running_` has been cleared. -/
inductive Drives (state : ServerLifecycle) (next : ServerLifecycle) : Prop
  | accepts {client} (expecting : state.Expecting) (creating : next.acceptor = .creating client)
      (same : next.worker = state.worker ∧ next.stopper = state.stopper ∧
        next.clients = state.clients)
  | ends (less : next.acceptor.work < state.acceptor.work)
      (no_client : ∀ client, state.acceptor ≠ .creating client ∧ next.acceptor ≠ .creating client)
      (same : next.worker = state.worker ∧ next.stopper = state.stopper ∧
        next.clients = state.clients ∧ next.destroyedUnjoined = state.destroyedUnjoined)
  | creates {client} (creating : state.acceptor = .creating client)
      (notifying : next.acceptor = .notifying state.created)
      (same : next.worker = state.worker ∧ next.stopper = state.stopper)
      (stored : next.clients.entries ≠ [])
      (length_le : next.clients.entries.length ≤ state.clients.entries.length + 1)
  | works (less : next.worker.work < state.worker.work)
      (same : next.acceptor = state.acceptor ∧ next.stopper = state.stopper ∧
        next.clients = state.clients ∧ next.destroyedUnjoined = state.destroyedUnjoined)
  | joins (less : ∀ clients, next.stopper.work clients < state.stopper.work clients)
      (kept : ∀ clientsToClose, state.stopper ≠ .dropping clientsToClose ∧
        next.stopper ≠ .dropping clientsToClose)
      (going : next.stopper ≠ .idle)
      (same : next.acceptor = state.acceptor ∧ next.worker = state.worker ∧
        next.clients = state.clients ∧ next.destroyedUnjoined = state.destroyedUnjoined)
  | moves (moving : state.stopper = .moving)
      (dropping : next.stopper = .dropping (state.clients.entries.map Prod.snd))
      (cleared : next.clients = ∅)
      (same : next.acceptor = state.acceptor ∧ next.worker = state.worker ∧
        next.destroyedUnjoined = state.destroyedUnjoined)
  | drops {connection clientsToClose}
      (dropping : state.stopper = .dropping (connection :: clientsToClose))
      (left : next.stopper = .dropping clientsToClose) (destroyed : next.destroyedUnjoined = true)
      (same : next.acceptor = state.acceptor ∧ next.worker = state.worker ∧
        next.clients = state.clients)
  | returns (dropped : state.stopper = .dropping []) (idle : next.stopper = .idle)
      (same : next.acceptor = state.acceptor ∧ next.worker = state.worker ∧
        next.clients = state.clients ∧ next.destroyedUnjoined = state.destroyedUnjoined)

/-- A step of the threads that `stop` joins, or of `stop` itself, once `running_` has been
cleared. -/
structure Driven (state next : ServerLifecycle) : Prop where
  drives : state.Drives next
  running_eq : next.running = false
  expecting : next.Expecting → state.Expecting

variable {requestCallback : Bool} {trace : List Event} {state next : ServerLifecycle}
  {event : Event}

theorem destroyClient_rest (state : ServerLifecycle) (client : Int32) :
    (state.destroyClient client).running = state.running ∧
      (state.destroyClient client).listening = state.listening ∧
      (state.destroyClient client).stopper = state.stopper ∧
      (state.destroyClient client).openSockets = state.openSockets := by
  unfold destroyClient
  cases state.clients.lookup client.toInt with
  | none => exact ⟨rfl, rfl, rfl, rfl⟩
  | some connection => exact ⟨rfl, rfl, rfl, rfl⟩

theorem Undriven.of_setConnection (state : ServerLifecycle) (connection : ℕ) (value : Connection) :
    state.Undriven (state.setConnection connection value) where
  running_eq := rfl
  acceptor_eq := rfl
  worker_eq := rfl
  stopper_eq := rfl
  expecting := fun ⟨accepting, listening, unused⟩ => ⟨accepting, listening, unused⟩
  length_le := le_rfl
  clients_cases := .inl ⟨rfl, rfl⟩

/-- A read thread erases its client; if the map holds a handler, that destroys it unjoined. -/
theorem Undriven.of_eraseClient {connection : ℕ} {client : Int32} {value : Connection}
    (unjoined : ∀ other, ((state.setConnection connection value).connections other).readJoined
      = false) :
    state.Undriven { (state.setConnection connection value).destroyClient client with
      clients := state.clients.erase client.toInt } where
  running_eq := (destroyClient_rest _ client).1
  acceptor_eq := (destroyClient_same _ client).2.1
  worker_eq := (destroyClient_same _ client).2.2.2
  stopper_eq := (destroyClient_rest _ client).2.2.1
  expecting := by
    rintro ⟨accepting, listening, unused⟩
    have rest := destroyClient_rest (state.setConnection connection value) client
    have same := destroyClient_same (state.setConnection connection value) client
    simp only [rest.2.1, rest.2.2.2, same.2.1] at accepting listening unused
    exact ⟨accepting, listening, unused⟩
  length_le := List.length_filter_le _ _
  clients_cases := by
    cases found : state.clients.lookup client.toInt with
    | none =>
        left
        have absent : (state.setConnection connection value).clients.lookup client.toInt = none :=
          found
        refine ⟨?_, OrderedMap.erase_of_lookup_eq_none _ found⟩
        simp only [destroyClient, absent]
        rfl
    | some other =>
        have member := (OrderedMap.lookup_eq_some_iff _).mp found
        exact .inr ⟨destroyedUnjoined_destroyClient found (unjoined other),
          List.ne_nil_of_mem member⟩

theorem Step.undriven (stepped : Step requestCallback state event next) (foreign : ¬ event.OfServer)
    (called : ¬ state.Stopped)
    (unjoined : ∀ connection, (state.connections connection).readJoined = false) :
    state.Undriven next := by
  cases stepped with
  | start idle | stop idle => exact absurd idle called
  | thread | response => exact .of_setConnection state _ _
  | @eraseClient connection erasing =>
      refine .of_eraseClient fun other => ?_
      rw [connections_setConnection]
      rcases eq_or_ne other connection with rfl | different
      · rw [Function.update_self, unjoined]
      · rw [Function.update_of_ne different, unjoined]
  | loseResponse => exact ⟨rfl, rfl, rfl, rfl, id, le_rfl, .inl ⟨rfl, rfl⟩⟩
  | _ => exact absurd trivial foreign

theorem entries_created (state : ServerLifecycle) (client : Int32) :
    ((state.clients.erase client.toInt).tryInsert client.toInt state.created).entries ≠ [] ∧
      ((state.clients.erase client.toInt).tryInsert client.toInt state.created).entries.length ≤
        state.clients.entries.length + 1 := by
  constructor
  · have found := lookup_created state client client.toInt
    rw [if_pos rfl, OrderedMap.lookup_eq_some_iff] at found
    exact List.ne_nil_of_mem found
  · have erased : (state.clients.erase client.toInt).entries.length ≤
        state.clients.entries.length := List.length_filter_le _ _
    have inserted := OrderedMap.length_insertEntry_le client.toInt state.created
      (state.clients.erase client.toInt).entries
    exact inserted.trans (Nat.succ_le_succ erased)

/-- A step that leaves the accepting thread and the sockets as they are. -/
theorem Driven.of_same (drives : state.Drives next) (running_eq : next.running = false)
    (acceptor_eq : next.acceptor = state.acceptor)
    (listening_le : next.listening = true → state.listening = true)
    (openSockets_eq : next.openSockets = state.openSockets) : state.Driven next where
  drives := drives
  running_eq := running_eq
  expecting expecting :=
    ⟨acceptor_eq ▸ expecting.accepting, listening_le expecting.listening,
      openSockets_eq ▸ expecting.unused⟩

/-- A step after which the accepting thread is not in `accept`. -/
theorem Driven.of_busy (drives : state.Drives next) (running_eq : next.running = false)
    (busy : next.acceptor ≠ .accepting) : state.Driven next where
  drives := drives
  running_eq := running_eq
  expecting expecting := absurd expecting.accepting busy

theorem Step.driven (stepped : Step requestCallback state event next) (own : event.OfServer)
    (down : state.running = false) (nothing : state.NothingScheduled)
    (unjoined : ∀ connection, (state.connections connection).readJoined = false) :
    state.Driven next := by
  cases stepped with
  | start | thread | eraseClient | response | loseResponse | stop => exact own.elim
  | testAccept testing =>
      have ended : (if state.running && state.sockFd then Acceptor.accepting else .returned) =
          .returned := by simp [down]
      rw [ended]
      refine .of_busy (.ends ?_ (by simp [testing]) ⟨rfl, rfl, rfl, rfl⟩) down (by simp)
      simp [testing, Acceptor.work]
  | @accept client accepting listening unused =>
      exact .of_busy (.accepts ⟨accepting, listening, client, unused⟩ rfl ⟨rfl, rfl, rfl⟩) down
        (by simp)
  | retryAccept accepting | failAccept accepting =>
      refine .of_busy (.ends ?_ (by simp [accepting]) ⟨rfl, rfl, rfl, rfl⟩) down (by simp)
      simp [accepting, Acceptor.work]
  | @createHandler client creating =>
      have entries := entries_created state client
      have rest := destroyClient_rest ({ state with created := state.created + 1 }.setConnection
        state.created (Connection.create client)) client
      have same := destroyClient_same ({ state with created := state.created + 1 }.setConnection
        state.created (Connection.create client)) client
      exact .of_busy (.creates creating rfl ⟨same.2.2.2, rest.2.2.1⟩ entries.1 entries.2)
        (rest.1.trans down) (by simp)
  | notifyConnect notifying | throwConnect notifying =>
      refine .of_busy (.ends ?_ (by simp [notifying]) ⟨rfl, rfl, rfl, rfl⟩) down (by simp)
      simp [notifying, Acceptor.work]
  | testDisconnect testing =>
      have ended : (if state.running then DisconnectWorker.polling else .returned) = .returned := by
        simp [down]
      rw [ended]
      refine .of_same (.works ?_ ⟨rfl, rfl, rfl, rfl⟩) down rfl id rfl
      simp [testing, DisconnectWorker.work]
  | pollNothing polling =>
      refine .of_same (.works ?_ ⟨rfl, rfl, rfl, rfl⟩) down rfl id rfl
      simp [polling, DisconnectWorker.work]
  | pollDisconnect queue_eq => exact absurd queue_eq (by simp [nothing.queue_eq])
  | notifyScheduled notifying | skipScheduled notifying =>
      exact absurd notifying (nothing.not_notifying _)
  | eraseScheduled erasing => exact absurd erasing (nothing.not_erasing _)
  | exchangeFd here | joinAccept here | joinDisconnect here =>
      refine .of_same (.joins ?_ ?_ (by simp) ⟨rfl, rfl, rfl, rfl⟩) down rfl id rfl
      · simp [here, Stopper.work]
      · simp [here]
  | closeListening closing =>
      refine .of_same (.joins ?_ ?_ (by simp) ⟨rfl, rfl, rfl, rfl⟩) down rfl nofun rfl
      · simp [closing, Stopper.work]
      · simp [closing]
  | moveClients moving =>
      exact .of_same (.moves moving rfl rfl ⟨rfl, rfl, rfl⟩) down rfl id rfl
  | @dropClient connection clientsToClose dropping =>
      exact .of_same (.drops dropping rfl (destroyedUnjoined_destroy (unjoined connection))
        ⟨rfl, rfl, rfl⟩) down rfl id rfl
  | returnStop dropped => exact .of_same (.returns dropped rfl ⟨rfl, rfl, rfl, rfl⟩) down rfl id rfl

/-! ## Handlers that are left -/

/-- Nobody destroys a handler, and none turns up. -/
theorem Drives.unoccupied (drives : state.Drives next) (unoccupied : ¬ state.Occupied)
    (unexpecting : ¬ state.Expecting) :
    ¬ next.Occupied ∧ next.destroyedUnjoined = state.destroyedUnjoined := by
  simp only [Occupied, not_or, not_exists, not_not] at unoccupied ⊢
  obtain ⟨empty, not_creating, not_dropping⟩ := unoccupied
  cases drives with
  | accepts expecting => exact absurd expecting unexpecting
  | ends _ no_client same =>
      obtain ⟨-, stopper_eq, clients_eq, destroyed_eq⟩ := same
      rw [stopper_eq, clients_eq]
      exact ⟨⟨empty, fun client => (no_client client).2, not_dropping⟩, destroyed_eq⟩
  | creates creating => exact absurd creating (not_creating _)
  | works _ same =>
      obtain ⟨acceptor_eq, stopper_eq, clients_eq, destroyed_eq⟩ := same
      rw [acceptor_eq, stopper_eq, clients_eq]
      exact ⟨⟨empty, not_creating, not_dropping⟩, destroyed_eq⟩
  | joins _ kept _ same =>
      obtain ⟨acceptor_eq, -, clients_eq, destroyed_eq⟩ := same
      rw [acceptor_eq, clients_eq]
      exact ⟨⟨empty, not_creating, fun _ _ => (kept _).2⟩, destroyed_eq⟩
  | moves moving dropping cleared same =>
      obtain ⟨acceptor_eq, -, destroyed_eq⟩ := same
      rw [acceptor_eq, cleared, dropping, empty]
      exact ⟨⟨rfl, not_creating, by simp⟩, destroyed_eq⟩
  | drops dropping => exact absurd dropping (not_dropping _ _)
  | returns dropped idle same =>
      obtain ⟨acceptor_eq, -, clients_eq, destroyed_eq⟩ := same
      rw [acceptor_eq, clients_eq, idle]
      exact ⟨⟨empty, not_creating, by simp⟩, destroyed_eq⟩

/-- A handler that is left stays until it is destroyed, and `stop` does not return before. -/
theorem Drives.occupied (drives : state.Drives next) (occupied : state.Occupied)
    (called : ¬ state.Stopped) (returned : state.stopper.Joined → state.acceptor = .returned)
    (emptied : ∀ clientsToClose, state.stopper = .dropping clientsToClose →
      state.clients.entries = []) :
    (next.destroyedUnjoined = true ∨ next.Occupied) ∧ ¬ next.Stopped := by
  cases drives with
  | @accepts client _ creating same =>
      exact ⟨.inr (.inr (.inl ⟨client, creating⟩)), by rwa [Stopped, same.2.1]⟩
  | ends _ no_client same =>
      obtain ⟨-, stopper_eq, clients_eq, -⟩ := same
      rw [Occupied, Stopped, stopper_eq, clients_eq]
      refine ⟨.inr ?_, called⟩
      rcases occupied with mapped | ⟨client, creating⟩ | dropping
      · exact .inl mapped
      · exact absurd creating (no_client client).1
      · exact .inr (.inr dropping)
  | creates _ _ same stored => exact ⟨.inr (.inl stored), by rwa [Stopped, same.2]⟩
  | works _ same =>
      obtain ⟨acceptor_eq, stopper_eq, clients_eq, -⟩ := same
      rw [Occupied, Stopped, acceptor_eq, stopper_eq, clients_eq]
      exact ⟨.inr occupied, called⟩
  | joins _ kept going same =>
      obtain ⟨acceptor_eq, -, clients_eq, -⟩ := same
      rw [Occupied, Stopped, acceptor_eq, clients_eq]
      refine ⟨.inr ?_, going⟩
      rcases occupied with mapped | creating | ⟨connection, clientsToClose, dropping⟩
      · exact .inl mapped
      · exact .inr (.inl creating)
      · exact absurd dropping (kept _).1
  | moves moving dropping =>
      rw [Occupied, Stopped, dropping]
      refine ⟨.inr (.inr (.inr ?_)), by simp⟩
      rcases occupied with mapped | ⟨client, creating⟩ | ⟨_, _, earlier⟩
      · obtain ⟨entry, entries, entries_eq⟩ := List.exists_cons_of_ne_nil mapped
        exact ⟨entry.2, entries.map Prod.snd, by rw [entries_eq, List.map_cons]⟩
      · have joined := returned (by simp [moving, Stopper.Joined])
        simp [creating] at joined
      · simp [moving] at earlier
  | drops dropping left destroyed => exact ⟨.inl destroyed, by simp [Stopped, left]⟩
  | returns dropped =>
      rcases occupied with mapped | ⟨client, creating⟩ | ⟨_, _, dropping⟩
      · exact absurd (emptied _ dropped) mapped
      · have joined := returned (by simp [dropped, Stopper.Joined])
        simp [creating] at joined
      · simp [dropped] at dropping

theorem Undriven.occupied_iff (undriven : state.Undriven next)
    (same : next.destroyedUnjoined = state.destroyedUnjoined)
    (alive : state.destroyedUnjoined = false) : next.Occupied ↔ state.Occupied := by
  rcases undriven.clients_cases with ⟨-, clients_eq⟩ | ⟨destroyed, -⟩
  · rw [Occupied, undriven.acceptor_eq, undriven.stopper_eq, clients_eq, Occupied]
  · simp [same, alive] at destroyed

/-! ## The work that is left -/

theorem Drives.work_lt (drives : state.Drives next) : next.work < state.work := by
  unfold work
  cases drives with
  | accepts expecting creating same =>
      obtain ⟨worker_eq, stopper_eq, clients_eq⟩ := same
      rw [expecting.accepting, creating, worker_eq, stopper_eq, clients_eq]
      simp only [Acceptor.work]
      omega
  | ends less _ same =>
      obtain ⟨worker_eq, stopper_eq, clients_eq, -⟩ := same
      rw [worker_eq, stopper_eq, clients_eq]
      omega
  | creates creating notifying same _ length_le =>
      have more : state.stopper.work next.clients.entries.length ≤
          state.stopper.work state.clients.entries.length + 1 := Stopper.work_le length_le
      rw [creating, notifying, same.1, same.2]
      simp only [Acceptor.work]
      omega
  | works less same =>
      obtain ⟨acceptor_eq, stopper_eq, clients_eq, -⟩ := same
      rw [acceptor_eq, stopper_eq, clients_eq]
      omega
  | joins less _ _ same =>
      obtain ⟨acceptor_eq, worker_eq, clients_eq, -⟩ := same
      rw [acceptor_eq, worker_eq, clients_eq]
      exact Nat.add_lt_add_left (less _) _
  | moves moving dropping _ same =>
      rw [same.1, same.2.1, moving, dropping]
      simp [Stopper.work]
  | drops dropping left _ same =>
      rw [same.1, same.2.1, dropping, left]
      simp [Stopper.work]
  | returns dropped idle same =>
      rw [same.1, same.2.1, dropped, idle]
      simp [Stopper.work]

theorem Undriven.work_le (undriven : state.Undriven next) : next.work ≤ state.work := by
  have length_le := undriven.length_le
  rw [work, undriven.acceptor_eq, undriven.worker_eq, undriven.stopper_eq, work]
  cases state.stopper <;> simp only [Stopper.work] <;> omega

/-- Until `stop` returns, one of the threads that it waits for can go on, or `stop` itself. -/
theorem stopped_or_progresses (alive : state.destroyedUnjoined = false) :
    state.Stopped ∨
      ∃ event next, event.OfServer ∧ (lifecycle requestCallback).step state event = some next := by
  have goes_on (event : Event) (own : event.OfServer)
      (possible : (state.stepAlive requestCallback event).isSome = true) :
      ∃ event next, event.OfServer ∧
        (lifecycle requestCallback).step state event = some next := by
    obtain ⟨next, stepped⟩ := Option.isSome_iff_exists.mp possible
    exact ⟨event, next, own, by simpa [lifecycle, alive] using stepped⟩
  cases stopping : state.stopper with
  | idle => exact .inl stopping
  | exchanging =>
      exact .inr (goes_on .exchangeFd trivial (by simp [stepAlive, exchangeFd, stopping]))
  | closing =>
      exact .inr (goes_on .closeListening trivial (by simp [stepAlive, closeListening, stopping]))
  | joiningAccept =>
      right
      cases accepting : state.acceptor with
      | testing => exact goes_on .testAccept trivial (by simp [stepAlive, testAccept, accepting])
      | accepting => exact goes_on .failAccept trivial (by simp [stepAlive, failAccept, accepting])
      | creating client =>
          exact goes_on .createHandler trivial (by simp [stepAlive, createHandler, accepting])
      | notifying connection =>
          exact goes_on (.notifyConnect false) trivial
            (by simp [stepAlive, notifyConnect, accepting])
      | returned =>
          exact goes_on .joinAccept trivial (by simp [stepAlive, joinAccept, stopping, accepting])
  | joiningDisconnect =>
      right
      cases working : state.worker with
      | testing =>
          exact goes_on .testDisconnect trivial (by simp [stepAlive, testDisconnect, working])
      | polling =>
          refine goes_on .pollDisconnect trivial ?_
          cases queue : state.disconnectQueue <;> simp [stepAlive, pollDisconnect, working, queue]
      | notifying client =>
          refine goes_on .notifyScheduled trivial ?_
          cases found : state.clients.lookup client.toInt <;>
            simp [stepAlive, notifyScheduled, working, found]
      | erasing client =>
          exact goes_on .eraseScheduled trivial (by simp [stepAlive, eraseScheduled, working])
      | returned =>
          exact goes_on .joinDisconnect trivial
            (by simp [stepAlive, joinDisconnect, stopping, working])
  | moving =>
      exact .inr (goes_on .moveClients trivial (by simp [stepAlive, moveClients, stopping]))
  | dropping clientsToClose =>
      refine .inr (goes_on .dropClient trivial ?_)
      cases clientsToClose <;> simp [stepAlive, dropClient, stopping]

/-! ## Runs -/

/-- What holds while `stop` is under way. -/
structure Closing (state : ServerLifecycle) : Prop where
  down : ¬ state.Stopped → state.running = false
  emptied : ∀ clientsToClose, state.stopper = .dropping clientsToClose →
    state.clients.entries = []

theorem Step.stopped_or_down (stepped : Step requestCallback state event next)
    (idle : state.Stopped) :
    next.Stopped ∨ next.stopper = .exchanging ∧ next.running = false := by
  cases stepped with
  | stop => exact .inr ⟨rfl, rfl⟩
  | createHandler | eraseClient | eraseScheduled =>
      exact .inl ((destroyClient_rest _ _).2.2.1.trans idle)
  | exchangeFd here | closeListening here | joinAccept here | joinDisconnect here
  | moveClients here | dropClient here | returnStop here => simp [Stopped, here] at idle
  | _ => exact .inl idle

namespace Closing

theorem driven (closing : state.Closing) (driven : state.Driven next)
    (returned : state.stopper.Joined → state.acceptor = .returned) : next.Closing where
  down _ := driven.running_eq
  emptied clientsToClose dropping := by
    cases driven.drives with
    | accepts _ _ same =>
        obtain ⟨-, stopper_eq, clients_eq⟩ := same
        rw [clients_eq]
        exact closing.emptied clientsToClose (stopper_eq ▸ dropping)
    | ends _ _ same | works _ same =>
        obtain ⟨-, stopper_eq, clients_eq, -⟩ := same
        rw [clients_eq]
        exact closing.emptied clientsToClose (stopper_eq ▸ dropping)
    | creates creating _ same =>
        have joined := returned (by simp [← same.2, dropping, Stopper.Joined])
        simp [creating] at joined
    | joins _ kept => exact absurd dropping (kept clientsToClose).2
    | moves _ _ cleared => rw [cleared, OrderedMap.entries_empty]
    | drops earlier _ _ same =>
        rw [same.2.2]
        exact closing.emptied _ earlier
    | returns _ idle => simp [idle] at dropping

theorem undriven (closing : state.Closing) (undriven : state.Undriven next)
    (called : ¬ state.Stopped) : next.Closing where
  down _ := undriven.running_eq.trans (closing.down called)
  emptied clientsToClose dropping := by
    have empty := closing.emptied clientsToClose (undriven.stopper_eq ▸ dropping)
    rcases undriven.clients_cases with ⟨-, clients_eq⟩ | ⟨-, mapped⟩
    · rw [clients_eq, empty]
    · exact absurd empty mapped

end Closing

/-- What every step of a run does while `stop` is under way. -/
theorem driven_of_reaches (reached : (lifecycle requestCallback).Reaches trace state)
    (closing : state.Closing) (called : ¬ state.Stopped)
    (stepped : (lifecycle requestCallback).step state event = some next) :
    (event.OfServer → state.Driven next) ∧ (¬ event.OfServer → state.Undriven next) := by
  have moved := step_of_eq_some stepped
  constructor
  · exact fun own => moved.driven own (closing.down called) (nothingScheduled_of_reaches reached)
      (unjoined_of_reaches reached)
  · exact fun foreign => moved.undriven foreign called (unjoined_of_reaches reached)

theorem closing_of_reaches (reached : (lifecycle requestCallback).Reaches trace state) :
    state.Closing := by
  refine reached.invariant (motive := fun _ state => state.Closing) ?_ ?_
  · exact ⟨fun called => absurd rfl called, fun _ dropping => by simp [lifecycle] at dropping⟩
  · intro trace state event next state_reached closing stepped
    by_cases idle : state.Stopped
    · rcases (step_of_eq_some stepped).stopped_or_down idle with still | ⟨exchanging, down⟩
      · exact ⟨fun called => absurd still called, fun _ dropping => by
          rw [Stopped] at still
          simp [still] at dropping⟩
      · exact ⟨fun _ => down, fun _ dropping => by simp [exchanging] at dropping⟩
    · obtain ⟨own, foreign⟩ := driven_of_reaches state_reached closing idle stepped
      by_cases of_server : event.OfServer
      · exact closing.driven (own of_server) (acceptor_returned_of_reaches state_reached)
      · exact closing.undriven (foreign of_server) idle

/-- A handler that is left stays until it is destroyed, and `stop` does not return. -/
theorem occupied_step (reached : (lifecycle requestCallback).Reaches trace state)
    (called : ¬ state.Stopped) (occupied : state.destroyedUnjoined = false → state.Occupied)
    (stepped : (lifecycle requestCallback).step state event = some next) :
    ¬ next.Stopped ∧ (next.destroyedUnjoined = false → next.Occupied) := by
  have closing := closing_of_reaches reached
  have alive := alive_of_step stepped
  obtain ⟨own, foreign⟩ := driven_of_reaches reached closing called stepped
  by_cases of_server : event.OfServer
  · obtain ⟨left, uncalled⟩ := (own of_server).drives.occupied (occupied alive) called
      (acceptor_returned_of_reaches reached) closing.emptied
    exact ⟨uncalled, fun next_alive => left.resolve_left (by simp [next_alive])⟩
  · have undriven := foreign of_server
    refine ⟨?_, fun next_alive => ?_⟩
    · rwa [Stopped, undriven.stopper_eq]
    · exact (undriven.occupied_iff (next_alive.trans alive.symm) alive).mpr (occupied alive)

/-- While a handler is left, `stop` does not return, whatever happens. -/
theorem never_stopped_of_occupied (reached : (lifecycle requestCallback).Reaches trace state)
    (called : ¬ state.Stopped) (occupied : state.Occupied) {later : List Event}
    {final : ServerLifecycle} (ran : (lifecycle requestCallback).run state later = some final) :
    ¬ final.Stopped := by
  have unrestricted : ∀ event ∈ later, True := fun _ _ => trivial
  have kept := EventSystem.run_invariant
    (motive := fun state => (∃ trace, (lifecycle requestCallback).Reaches trace state) ∧
      ¬ state.Stopped ∧ (state.destroyedUnjoined = false → state.Occupied)) ?_ unrestricted ran
    ⟨⟨trace, reached⟩, called, fun _ => occupied⟩
  · exact kept.2.1
  · rintro state event next ⟨⟨trace, reached⟩, called, occupied⟩ - stepped
    exact ⟨⟨_, EventSystem.reaches_concat.mpr ⟨state, reached, stepped⟩⟩,
      occupied_step reached called occupied stepped⟩

/-- `running_` has been cleared, and no handler is left or can turn up. -/
structure Vacant (requestCallback : Bool) (state : ServerLifecycle) : Prop where
  reached : ∃ trace, (lifecycle requestCallback).Reaches trace state
  down : state.running = false
  unoccupied : ¬ state.Occupied
  unexpecting : ¬ state.Expecting
  alive : state.destroyedUnjoined = false

namespace Vacant

theorem driven (vacant : Vacant requestCallback state) (own : event.OfServer)
    (stepped : (lifecycle requestCallback).step state event = some next) :
    Vacant requestCallback next ∧ state.Driven next := by
  obtain ⟨trace, reached⟩ := vacant.reached
  have driven := (step_of_eq_some stepped).driven own vacant.down
    (nothingScheduled_of_reaches reached) (unjoined_of_reaches reached)
  obtain ⟨unoccupied, destroyed_eq⟩ :=
    driven.drives.unoccupied vacant.unoccupied vacant.unexpecting
  refine ⟨⟨?_, driven.running_eq, unoccupied, ?_, destroyed_eq.trans vacant.alive⟩, driven⟩
  · exact ⟨_, EventSystem.reaches_concat.mpr ⟨state, reached, stepped⟩⟩
  · exact mt driven.expecting vacant.unexpecting

theorem undriven (vacant : Vacant requestCallback state) (foreign : ¬ event.OfServer)
    (called : ¬ state.Stopped)
    (stepped : (lifecycle requestCallback).step state event = some next) :
    Vacant requestCallback next ∧ state.Undriven next := by
  obtain ⟨trace, reached⟩ := vacant.reached
  have undriven := (step_of_eq_some stepped).undriven foreign called (unjoined_of_reaches reached)
  have same : next.destroyedUnjoined = state.destroyedUnjoined := by
    rcases undriven.clients_cases with ⟨same, -⟩ | ⟨-, mapped⟩
    · exact same
    · exact absurd (.inl mapped) vacant.unoccupied
  refine ⟨⟨?_, undriven.running_eq.trans vacant.down, ?_, ?_, same.trans vacant.alive⟩, undriven⟩
  · exact ⟨_, EventSystem.reaches_concat.mpr ⟨state, reached, stepped⟩⟩
  · rw [undriven.occupied_iff same vacant.alive]
    exact vacant.unoccupied
  · exact mt undriven.expecting vacant.unexpecting

/-- Left to themselves, the threads of a server without handlers destroy none. -/
theorem alive_of_run (vacant : Vacant requestCallback state) {later : List Event}
    {final : ServerLifecycle} (own : ∀ event ∈ later, event.OfServer)
    (ran : (lifecycle requestCallback).run state later = some final) :
    final.destroyedUnjoined = false := by
  have kept := EventSystem.run_invariant (motive := Vacant requestCallback) ?_ own ran vacant
  · exact kept.alive
  · exact fun state event next vacant own stepped => (vacant.driven own stepped).1

theorem inevitably_stopped (vacant : Vacant requestCallback state) (called : ¬ state.Stopped) :
    (lifecycle requestCallback).InevitablyAmid Event.OfServer Stopped state := by
  refine EventSystem.inevitablyAmid_of_variant work
    (motive := fun state => Vacant requestCallback state ∧ ¬ state.Stopped) ?_ ?_ ?_ state
    ⟨vacant, called⟩
  · exact fun state ⟨vacant, _⟩ => stopped_or_progresses vacant.alive
  · rintro state event next ⟨vacant, called⟩ own stepped
    obtain ⟨next_vacant, driven⟩ := vacant.driven own stepped
    by_cases stopped : next.Stopped
    · exact .inl stopped
    · exact .inr ⟨⟨next_vacant, stopped⟩, driven.drives.work_lt⟩
  · rintro state event next ⟨vacant, called⟩ foreign stepped
    obtain ⟨next_vacant, undriven⟩ := vacant.undriven foreign called stepped
    refine ⟨⟨next_vacant, ?_⟩, undriven.work_le⟩
    rwa [Stopped, undriven.stopper_eq]

end Vacant

theorem inevitably_destroyedUnjoined
    (reached : (lifecycle requestCallback).Reaches trace state) (called : ¬ state.Stopped)
    (occupied : state.Occupied) :
    (lifecycle requestCallback).InevitablyAmid Event.OfServer DestroyedUnjoined state := by
  refine EventSystem.inevitablyAmid_of_variant work
    (motive := fun state => (∃ trace, (lifecycle requestCallback).Reaches trace state) ∧
      ¬ state.Stopped ∧ (state.destroyedUnjoined = false → state.Occupied))
    ?_ ?_ ?_ state ⟨⟨trace, reached⟩, called, fun _ => occupied⟩
  · rintro state ⟨-, called, -⟩
    by_cases destroyed : state.destroyedUnjoined = true
    · exact .inl destroyed
    · exact .inr ((stopped_or_progresses (Bool.eq_false_of_not_eq_true destroyed)).resolve_left
        called)
  · rintro state event next ⟨⟨trace, reached⟩, called, occupied⟩ of_server stepped
    have driven := (driven_of_reaches reached (closing_of_reaches reached) called
      stepped).1 of_server
    exact .inr ⟨⟨⟨_, EventSystem.reaches_concat.mpr ⟨state, reached, stepped⟩⟩,
      occupied_step reached called occupied stepped⟩, driven.drives.work_lt⟩
  · rintro state event next ⟨⟨trace, reached⟩, called, occupied⟩ foreign stepped
    have undriven := (driven_of_reaches reached (closing_of_reaches reached) called
      stepped).2 foreign
    exact ⟨⟨⟨_, EventSystem.reaches_concat.mpr ⟨state, reached, stepped⟩⟩,
      occupied_step reached called occupied stepped⟩, undriven.work_le⟩

/-- The call of `accept` that is under way may return a client. -/
theorem Expecting.exists_accept (expecting : state.Expecting)
    (alive : state.destroyedUnjoined = false) :
    ∃ client next, (lifecycle requestCallback).step state (.accept client) = some next ∧
      next.Occupied ∧ next.stopper = state.stopper := by
  obtain ⟨accepting, listening, client, nonneg, unused⟩ := expecting
  refine ⟨client, { state with
    acceptor := .creating client
    openSockets := Function.update state.openSockets client true }, ?_, ?_, rfl⟩
  · have allowed : (0 : Int32) ≤ client := nonneg
    simp [lifecycle, alive, stepAlive, accept, accepting, listening, unused, allowed]
  · exact .inr (.inl ⟨client, rfl⟩)

/-- It may also fail. -/
theorem Expecting.step_failAccept (expecting : state.Expecting)
    (alive : state.destroyedUnjoined = false) :
    (lifecycle requestCallback).step state .failAccept =
      some { state with acceptor := .returned } := by
  simp [lifecycle, alive, stepAlive, failAccept, expecting.accepting]

/-- Whatever the threads of the handlers do in the meantime, and for however long: a call of `stop`
returns after finitely many steps of the threads it waits for exactly if no handler is left and
`accept` can return no client any more.  If a handler is left, a handler is destroyed unjoined after
finitely many of them (which hangs or terminates the process), and `stop` does not return before.
Otherwise it depends on `accept`. -/
theorem server_stops_iff (requestCallback : Bool) (trace : List Event) (state : ServerLifecycle)
    (reached : (lifecycle requestCallback).Reaches trace state) (called : ¬ state.Stopped)
    (alive : ¬ state.DestroyedUnjoined) :
    ((lifecycle requestCallback).InevitablyAmid Event.OfServer Stopped state ↔
        ¬ state.Occupied ∧ ¬ state.Expecting) ∧
      ((lifecycle requestCallback).InevitablyAmid Event.OfServer DestroyedUnjoined state ↔
        state.Occupied) ∧
      (state.Occupied → ∀ later final,
        (lifecycle requestCallback).run state later = some final → ¬ final.Stopped) := by
  have alive := Bool.eq_false_of_not_eq_true alive
  have down := (closing_of_reaches reached).down called
  refine ⟨⟨fun inevitably => ⟨fun occupied => ?_, fun expecting => ?_⟩, fun vacant => ?_⟩,
    ⟨fun inevitably => ?_, inevitably_destroyedUnjoined reached called⟩,
    fun occupied _ _ => never_stopped_of_occupied reached called occupied⟩
  · obtain ⟨later, final, -, ran, stopped⟩ := inevitably.exists_run
    exact never_stopped_of_occupied reached called occupied ran stopped
  · obtain ⟨client, next, stepped, occupied, stopper_eq⟩ := expecting.exists_accept alive
    have next_reached := EventSystem.reaches_concat.mpr ⟨state, reached, stepped⟩
    have next_called : ¬ next.Stopped := by rwa [Stopped, stopper_eq]
    have own : Event.OfServer (.accept client) := trivial
    obtain ⟨later, final, -, ran, stopped⟩ := (inevitably.of_step called own stepped).exists_run
    exact never_stopped_of_occupied next_reached next_called occupied ran stopped
  · exact Vacant.inevitably_stopped ⟨⟨trace, reached⟩, down, vacant.1, vacant.2, alive⟩ called
  · by_contra unoccupied
    by_cases expecting : state.Expecting
    · have stepped : (lifecycle requestCallback).step state .failAccept =
          some { state with acceptor := .returned } := expecting.step_failAccept alive
      have vacant : Vacant requestCallback { state with acceptor := .returned } := by
        refine ⟨⟨_, EventSystem.reaches_concat.mpr ⟨state, reached, stepped⟩⟩, down, ?_, ?_, alive⟩
        · rintro (mapped | ⟨client, creating⟩ | dropping)
          · exact unoccupied (.inl mapped)
          · contradiction
          · exact unoccupied (.inr (.inr dropping))
        · exact fun still => absurd still.accepting (by simp)
      have own : Event.failAccept.OfServer := trivial
      obtain ⟨later, final, own, ran, destroyed⟩ :=
        (inevitably.of_step (by simp [DestroyedUnjoined, alive]) own stepped).exists_run
      exact Bool.false_ne_true ((vacant.alive_of_run own ran).symm.trans destroyed)
    · have vacant : Vacant requestCallback state :=
        ⟨⟨trace, reached⟩, down, unoccupied, expecting, alive⟩
      obtain ⟨later, final, own, ran, destroyed⟩ := inevitably.exists_run
      exact Bool.false_ne_true ((vacant.alive_of_run own ran).symm.trans destroyed)

/-- `stop` is called while the accepting thread is in `accept`. -/
def stoppingTrace : List Event := [.start, .testAccept, .stop, .exchangeFd, .closeListening]

/-- A client is accepted while `stop` is about to close the listening socket. -/
def stoppingBusyTrace : List Event := [.start, .testAccept, .stop, .exchangeFd, .accept 4]

/-- Before the listening socket is closed, it depends on `accept`; afterwards `stop` returns if no
client has been accepted. -/
theorem server_stops_iff_accepted :
    (∃ state, (lifecycle true).Reaches (stoppingTrace.take 4) state ∧
      ¬ (lifecycle true).InevitablyAmid Event.OfServer Stopped state ∧
      ¬ (lifecycle true).InevitablyAmid Event.OfServer DestroyedUnjoined state) ∧
    (∃ state, (lifecycle true).Reaches stoppingTrace state ∧
      (lifecycle true).InevitablyAmid Event.OfServer Stopped state) ∧
    ∃ state, (lifecycle true).Reaches stoppingBusyTrace state ∧
      (lifecycle true).InevitablyAmid Event.OfServer DestroyedUnjoined state ∧
      ¬ (lifecycle true).InevitablyAmid Event.OfServer Stopped state := by
  refine ⟨⟨_, rfl, fun inevitably => ?_, fun inevitably => ?_⟩, ⟨_, rfl, ?_⟩, _, rfl, ?_,
    fun inevitably => ?_⟩
  · exact ((server_stops_iff true (stoppingTrace.take 4) _ rfl (by simp [Stopped])
      (by simp [DestroyedUnjoined, lifecycle])).1.mp inevitably).2 ⟨rfl, rfl, 4, by decide, rfl⟩
  · have occupied := (server_stops_iff true (stoppingTrace.take 4) _ rfl (by simp [Stopped])
      (by simp [DestroyedUnjoined, lifecycle])).2.1.mp inevitably
    simp [Occupied, lifecycle] at occupied
  · refine (server_stops_iff true stoppingTrace _ rfl (by simp [Stopped])
      (by simp [DestroyedUnjoined, lifecycle])).1.mpr ⟨by simp [Occupied, lifecycle], ?_⟩
    exact fun expecting => absurd expecting.listening (by simp)
  · exact (server_stops_iff true stoppingBusyTrace _ rfl (by simp [Stopped])
      (by simp [DestroyedUnjoined, lifecycle])).2.1.mpr (.inr (.inl ⟨4, rfl⟩))
  · exact ((server_stops_iff true stoppingBusyTrace _ rfl (by simp [Stopped])
      (by simp [DestroyedUnjoined, lifecycle])).1.mp inevitably).1 (.inr (.inl ⟨4, rfl⟩))

end ServerLifecycle
end FramedTcp
