import FramedTcp.OrderedMap
import FramedTcp.TcpServer

/-!
# Life of the client handlers

`acceptLoop` creates a handler with two threads for every connection; the read thread runs until
the connection ends and then erases the handler in `handleClientDisconnect`; `stop()` drops the
handlers that are left.  The accepting thread, the threads of the handlers, the disconnect worker
and `stop()` are the parties of one system.

A handler has no destructor of its own.  Its members are destroyed in reverse order, `write_cv_`
before the two threads: the destruction of a handler whose threads have not been joined hangs while
the write thread waits on `write_cv_`, and otherwise a `std::thread` terminates the process.  A run
is followed up to such a destruction.
-/

namespace FramedTcp

open PrefixDecoding EventSystems FrameParser

/-- Invocations of the callbacks for one connection. -/
inductive Notice
  | connect (client : Int32) (connected : Bool)
  | request (frame : Frame)
  deriving DecidableEq

/-- Where the read thread of a handler stands: in `handleRead`, or in `handleClientDisconnect`. -/
inductive Reader
  | testing
  | receiving
  | dispatching
  | disconnecting
  | erasing
  | returned
  deriving DecidableEq

/-- Where the write thread of a handler stands. -/
inductive Writer
  | testing
  | waiting
  | sending
  | returned
  deriving DecidableEq

/-- A client handler with its threads and its socket.  Only `ClientHandler::stop` joins the threads,
and nothing calls it. -/
structure Connection where
  /-- Its identifier, buffers and queues. -/
  handler : ClientHandler
  /-- The descriptor of its socket. -/
  clientFd : Int32
  /-- Cleared when a send fails. -/
  running : Bool := true
  /-- Where the read thread stands. -/
  reader : Reader := .testing
  /-- Where the write thread stands. -/
  writer : Writer := .testing
  /-- Has the read thread been joined? -/
  readJoined : Bool := false
  /-- Has the write thread been joined? -/
  writeJoined : Bool := false
  /-- How often its socket has been closed. -/
  closes : ℕ := 0
  /-- Has the handler been destroyed? -/
  destroyed : Bool := false
  /-- The callbacks invoked for the connection. -/
  notices : List Notice := []

/-- Steps of the two threads of a handler. -/
inductive ThreadEvent
  | testReader
  | recv (chunk : List UInt8)
  | dispatch
  | notifyDisconnect
  | testWriter
  | takeBatch
  | wake
  | send (count : ℕ)
  | nextData
  | endBatch
  | failSend

namespace Connection

/-- The constructor starts both threads. -/
def create (client : Int32) : Connection where
  handler := { id := client }
  clientFd := client

/-- The read thread evaluates `while (running_)`. -/
def testReader (connection : Connection) : Option Connection :=
  match connection.reader with
  | .testing =>
      some { connection with reader := if connection.running then .receiving else .disconnecting }
  | _ => none

/-- `recv` returns a chunk, or nothing when the connection has ended or failed. -/
def recv (connection : Connection) (chunk : List UInt8) : Option Connection :=
  match connection.reader with
  | .receiving =>
      if chunk = [] then
        some { connection with reader := .disconnecting }
      else
        (connection.handler.receive chunk).map fun handler =>
          { connection with
            handler
            reader := if handler.frames = [] then .testing else .dispatching }
  | _ => none

/-- The read thread invokes the request callback, if one is set, for the next frame. -/
def dispatch (requestCallback : Bool) (connection : Connection) : Option Connection :=
  match connection.reader, connection.handler.frames with
  | .dispatching, frame :: frames =>
      some { connection with
        handler := { connection.handler with frames }
        reader := if frames = [] then .testing else .dispatching
        notices := connection.notices ++ if requestCallback then [.request frame] else [] }
  | _, _ => none

/-- The read thread invokes the connect callback in `handleClientDisconnect`. -/
def notifyDisconnect (connection : Connection) : Option Connection :=
  match connection.reader with
  | .disconnecting =>
      some { connection with
        reader := .erasing
        notices := connection.notices ++ [.connect connection.handler.id false] }
  | _ => none

/-- The write thread evaluates `while (running_)`. -/
def testWriter (connection : Connection) : Option Connection :=
  match connection.writer with
  | .testing =>
      some { connection with writer := if connection.running then .waiting else .returned }
  | _ => none

/-- The write thread takes the whole queue. -/
def takeBatch (connection : Connection) : Option Connection :=
  match connection.writer, connection.running with
  | .waiting, true =>
      connection.handler.takeBatch.map fun handler =>
        { connection with
          handler
          writer := .sending }
  | _, _ => none

/-- The write thread wakes up and finds the handler stopped. -/
def wake (connection : Connection) : Option Connection :=
  match connection.writer, connection.running with
  | .waiting, false => some { connection with writer := .returned }
  | _, _ => none

/-- A step of the write thread in its loop over the batch. -/
def sendBatch (connection : Connection) (step : ClientHandler → Option ClientHandler) :
    Option Connection :=
  match connection.writer with
  | .sending => (step connection.handler).map fun handler => { connection with handler }
  | _ => none

/-- The write thread is done with the batch. -/
def endBatch (connection : Connection) : Option Connection :=
  match connection.writer, connection.handler.pendingData with
  | .sending, [] => some { connection with writer := .testing }
  | _, _ => none

/-- `send` fails. -/
def failSend (connection : Connection) : Option Connection :=
  match connection.writer, connection.handler.pendingData with
  | .sending, data :: _ =>
      if connection.handler.totalSent < data.length then
        some { connection with
          running := false
          writer := .returned }
      else
        none
  | _, _ => none

/-- One step of the handler's threads. -/
def step (requestCallback : Bool) (connection : Connection) : ThreadEvent → Option Connection
  | .testReader => connection.testReader
  | .recv chunk => connection.recv chunk
  | .dispatch => connection.dispatch requestCallback
  | .notifyDisconnect => connection.notifyDisconnect
  | .testWriter => connection.testWriter
  | .takeBatch => connection.takeBatch
  | .wake => connection.wake
  | .send count => connection.sendBatch fun handler => handler.send count
  | .nextData => connection.sendBatch ClientHandler.nextData
  | .endBatch => connection.endBatch
  | .failSend => connection.failSend

end Connection

/-- Where the accepting thread stands. -/
inductive Acceptor
  | testing
  | accepting
  | creating (client : Int32)
  | notifying (connection : ℕ)
  | returned
  deriving DecidableEq

/-- Where the disconnect worker stands. -/
inductive DisconnectWorker
  | testing
  | polling
  | notifying (client : Int32)
  | erasing (client : Int32)
  | returned
  deriving DecidableEq

/-- Where a call of `stop()` stands. -/
inductive Stopper
  | idle
  | exchanging
  | closing
  | joiningAccept
  | joiningDisconnect
  | moving
  | dropping (clientsToClose : List ℕ)
  deriving DecidableEq

/-- The part of the server that creates and destroys client handlers. -/
structure ServerLifecycle where
  /-- Set by `start` and cleared by `stop`. -/
  running : Bool := false
  /-- Does `sock_fd_` hold the descriptor of the listening socket? -/
  sockFd : Bool := false
  /-- Is the listening socket open? -/
  listening : Bool := false
  /-- The accepting thread. -/
  acceptor : Acceptor := .returned
  /-- The disconnect worker. -/
  worker : DisconnectWorker := .returned
  /-- The call of `stop` in progress. -/
  stopper : Stopper := .idle
  /-- The map `clients_`, ordered by the identifiers as integers; a handler is named by a number. -/
  clients : OrderedMap ℤ ℕ := ∅
  /-- All handlers ever created. -/
  connections : ℕ → Connection := fun _ =>
    { Connection.create 0 with
      reader := .returned
      writer := .returned }
  /-- Name of the next handler. -/
  created : ℕ := 0
  /-- Descriptors of accepted connections that are open. -/
  openSockets : Int32 → Bool := fun _ => false
  /-- Clients whose disconnection has been scheduled. -/
  disconnectQueue : List Int32 := []
  /-- Has a handler been destroyed whose threads had not been joined? -/
  destroyedUnjoined : Bool := false

namespace ServerLifecycle

/-- Steps of the threads, and the results of the system calls they make. -/
inductive Event
  | start
  | testAccept
  | accept (client : Int32)
  | retryAccept
  | failAccept
  | createHandler
  | notifyConnect (throws : Bool)
  | thread (connection : ℕ) (event : ThreadEvent)
  | eraseClient (connection : ℕ)
  | response (client : Int32) (data : List UInt8)
  | testDisconnect
  | pollDisconnect
  | notifyScheduled
  | eraseScheduled
  | stop
  | exchangeFd
  | closeListening
  | joinAccept
  | joinDisconnect
  | moveClients
  | dropClient

/-- Write a handler back. -/
def setConnection (state : ServerLifecycle) (connection : ℕ) (value : Connection) :
    ServerLifecycle :=
  { state with connections := Function.update state.connections connection value }

/-- Destroy a handler.  If its threads have not been joined, its destruction hangs or terminates the
process. -/
def destroy (state : ServerLifecycle) (connection : ℕ) : ServerLifecycle :=
  let value := state.connections connection
  { state.setConnection connection { value with destroyed := true } with
    destroyedUnjoined := state.destroyedUnjoined || !(value.readJoined && value.writeJoined) }

/-- Destroy the handler of a client, if there is one. -/
def destroyClient (state : ServerLifecycle) (client : Int32) : ServerLifecycle :=
  match state.clients.lookup client.toInt with
  | none => state
  | some connection => state.destroy connection

/-- `start` opens the listening socket and starts the threads; those of an earlier run have been
joined by `stop`. -/
def start (state : ServerLifecycle) : Option ServerLifecycle :=
  match state.running, state.stopper, state.acceptor, state.worker with
  | false, .idle, .returned, .returned =>
      some { state with
        running := true
        sockFd := true
        listening := true
        acceptor := .testing
        worker := .testing }
  | _, _, _, _ => none

/-- The accepting thread evaluates `while (running_)` and loads the listening descriptor. -/
def testAccept (state : ServerLifecycle) : Option ServerLifecycle :=
  match state.acceptor with
  | .testing =>
      some { state with
        acceptor := if state.running && state.sockFd then .accepting else .returned }
  | _ => none

/-- `accept` returns a descriptor that is not open. -/
def accept (state : ServerLifecycle) (client : Int32) : Option ServerLifecycle :=
  match state.acceptor with
  | .accepting =>
      if state.listening && decide (client ≥ 0) && !state.openSockets client then
        some { state with
          acceptor := .creating client
          openSockets := Function.update state.openSockets client true }
      else
        none
  | _ => none

/-- `accept` fails, and the loop goes on or ends. -/
def failAccept (state : ServerLifecycle) (after : Acceptor) : Option ServerLifecycle :=
  match state.acceptor with
  | .accepting => some { state with acceptor := after }
  | _ => none

/-- The accepting thread creates a handler and puts it into the map. -/
def createHandler (state : ServerLifecycle) : Option ServerLifecycle :=
  match state.acceptor with
  | .creating client =>
      let created := { state with created := state.created + 1 }.setConnection state.created
        (Connection.create client)
      let overwritten := created.destroyClient client
      some { overwritten with
        acceptor := .notifying state.created
        clients := (state.clients.erase client.toInt).tryInsert client.toInt state.created }
  | _ => none

/-- The accepting thread invokes the connect callback; if it throws, the socket is closed. -/
def notifyConnect (state : ServerLifecycle) (throws : Bool) : Option ServerLifecycle :=
  match state.acceptor with
  | .notifying connection =>
      let value := state.connections connection
      let notices := value.notices ++ [.connect value.handler.id true]
      if throws then
        some { state.setConnection connection { value with
            notices
            closes := value.closes + 1 } with
          acceptor := .testing
          openSockets := Function.update state.openSockets value.handler.id false }
      else
        some { state.setConnection connection { value with notices } with acceptor := .testing }
  | _ => none

/-- A thread of a handler makes a step. -/
def thread (requestCallback : Bool) (state : ServerLifecycle) (connection : ℕ)
    (event : ThreadEvent) : Option ServerLifecycle :=
  ((state.connections connection).step requestCallback event).map (state.setConnection connection)

/-- The read thread erases its client in `handleClientDisconnect` and returns. -/
def eraseClient (state : ServerLifecycle) (connection : ℕ) : Option ServerLifecycle :=
  let value := state.connections connection
  match value.reader with
  | .erasing =>
      let returned := state.setConnection connection { value with reader := .returned }
      some { returned.destroyClient value.handler.id with
        clients := state.clients.erase value.handler.id.toInt }
  | _ => none

/-- `response` pushes data to the queue of a client's handler. -/
def response (state : ServerLifecycle) (client : Int32) (data : List UInt8) : ServerLifecycle :=
  match state.clients.lookup client.toInt with
  | none => state
  | some connection =>
      let value := state.connections connection
      state.setConnection connection { value with handler := value.handler.write data }

/-- The disconnect worker evaluates `while (running_)`. -/
def testDisconnect (state : ServerLifecycle) : Option ServerLifecycle :=
  match state.worker with
  | .testing => some { state with worker := if state.running then .polling else .returned }
  | _ => none

/-- The disconnect worker takes a client from its queue, or starts over when there is none. -/
def pollDisconnect (state : ServerLifecycle) : Option ServerLifecycle :=
  match state.worker, state.disconnectQueue with
  | .polling, [] => some { state with worker := .testing }
  | .polling, client :: clients =>
      some { state with
        worker := .notifying client
        disconnectQueue := clients }
  | _, _ => none

/-- The disconnect worker invokes the connect callback. -/
def notifyScheduled (state : ServerLifecycle) : Option ServerLifecycle :=
  match state.worker with
  | .notifying client =>
      let notified := { state with worker := .erasing client }
      match state.clients.lookup client.toInt with
      | none => some notified
      | some connection =>
          let value := state.connections connection
          some (notified.setConnection connection
            { value with notices := value.notices ++ [.connect client false] })
  | _ => none

/-- The disconnect worker erases the client. -/
def eraseScheduled (state : ServerLifecycle) : Option ServerLifecycle :=
  match state.worker with
  | .erasing client =>
      some { state.destroyClient client with
        worker := .testing
        clients := state.clients.erase client.toInt }
  | _ => none

/-- `stop` clears `running_`. -/
def stop (state : ServerLifecycle) : Option ServerLifecycle :=
  match state.stopper, state.running with
  | .idle, true =>
      some { state with
        running := false
        stopper := .exchanging }
  | _, _ => none

/-- `stop` takes the descriptor out of `sock_fd_`. -/
def exchangeFd (state : ServerLifecycle) : Option ServerLifecycle :=
  match state.stopper with
  | .exchanging =>
      some { state with
        sockFd := false
        stopper := .closing }
  | _ => none

/-- `stop` shuts the listening socket down and closes it; until then a call of `accept` can return a
client. -/
def closeListening (state : ServerLifecycle) : Option ServerLifecycle :=
  match state.stopper with
  | .closing =>
      some { state with
        listening := false
        stopper := .joiningAccept }
  | _ => none

/-- `stop` joins the accepting thread. -/
def joinAccept (state : ServerLifecycle) : Option ServerLifecycle :=
  match state.stopper, state.acceptor with
  | .joiningAccept, .returned => some { state with stopper := .joiningDisconnect }
  | _, _ => none

/-- `stop` joins the disconnect worker. -/
def joinDisconnect (state : ServerLifecycle) : Option ServerLifecycle :=
  match state.stopper, state.worker with
  | .joiningDisconnect, .returned => some { state with stopper := .moving }
  | _, _ => none

/-- `stop` moves all handlers out of the map. -/
def moveClients (state : ServerLifecycle) : Option ServerLifecycle :=
  match state.stopper with
  | .moving =>
      some { state with
        stopper := .dropping (state.clients.entries.map Prod.snd)
        clients := ∅ }
  | _ => none

/-- `stop` destroys the next handler, or returns when there is none. -/
def dropClient (state : ServerLifecycle) : Option ServerLifecycle :=
  match state.stopper with
  | .dropping [] => some { state with stopper := .idle }
  | .dropping (connection :: clientsToClose) =>
      some { state.destroy connection with stopper := .dropping clientsToClose }
  | _ => none

/-- A step of a process in which no handler has been destroyed unjoined. -/
def stepAlive (requestCallback : Bool) (state : ServerLifecycle) : Event → Option ServerLifecycle
  | .start => state.start
  | .testAccept => state.testAccept
  | .accept client => state.accept client
  | .retryAccept => state.failAccept .testing
  | .failAccept => state.failAccept .returned
  | .createHandler => state.createHandler
  | .notifyConnect throws => state.notifyConnect throws
  | .thread connection event => state.thread requestCallback connection event
  | .eraseClient connection => state.eraseClient connection
  | .response client data => some (state.response client data)
  | .testDisconnect => state.testDisconnect
  | .pollDisconnect => state.pollDisconnect
  | .notifyScheduled => state.notifyScheduled
  | .eraseScheduled => state.eraseScheduled
  | .stop => state.stop
  | .exchangeFd => state.exchangeFd
  | .closeListening => state.closeListening
  | .joinAccept => state.joinAccept
  | .joinDisconnect => state.joinDisconnect
  | .moveClients => state.moveClients
  | .dropClient => state.dropClient

/-- The server's threads that create, serve and destroy client handlers. -/
def lifecycle (requestCallback : Bool) : EventSystem ServerLifecycle Event where
  init := {}
  step state event :=
    if state.destroyedUnjoined then none else state.stepAlive requestCallback event

end ServerLifecycle

/-! ## What the threads of a handler can do -/

namespace Connection

/-- The read thread has invoked the callback of `handleClientDisconnect`. -/
def Ended (connection : Connection) : Prop :=
  connection.reader = .erasing ∨ connection.reader = .returned

/-- The callbacks that a step of the threads invokes. -/
def invocations (requestCallback : Bool) (connection : Connection) : ThreadEvent → List Notice
  | .dispatch => if requestCallback then (connection.handler.frames.take 1).map .request else []
  | .notifyDisconnect => [.connect connection.handler.id false]
  | _ => []

/-- What a step of the threads keeps, and what it records. -/
structure Moves (requestCallback : Bool) (before : Connection) (event : ThreadEvent)
    (after : Connection) : Prop where
  id_eq : after.handler.id = before.handler.id
  readJoined_eq : after.readJoined = before.readJoined
  destroyed_eq : after.destroyed = before.destroyed
  notices_eq : after.notices = before.notices ++ before.invocations requestCallback event
  ended_iff : after.Ended ↔ before.Ended ∨ event = .notifyDisconnect
  live : before.Ended → event ≠ .notifyDisconnect

variable {requestCallback : Bool} {before after : Connection} {event : ThreadEvent}

theorem id_of_receive {handler later : ClientHandler} {chunk : List UInt8}
    (received : handler.receive chunk = some later) : later.id = handler.id := by
  obtain ⟨-, rfl⟩ := ClientHandler.receive_eq_some_iff.mp received
  rfl

theorem id_of_takeBatch {handler later : ClientHandler} (taken : handler.takeBatch = some later) :
    later.id = handler.id := by
  obtain ⟨-, rfl⟩ := ClientHandler.takeBatch_eq_some_iff.mp taken
  rfl

theorem id_of_send {handler later : ClientHandler} {count : ℕ}
    (sent : handler.send count = some later) : later.id = handler.id := by
  obtain ⟨_, _, -, -, rfl⟩ := ClientHandler.send_eq_some_iff.mp sent
  rfl

theorem id_of_nextData {handler later : ClientHandler} (moved : handler.nextData = some later) :
    later.id = handler.id := by
  obtain ⟨_, _, -, -, rfl⟩ := ClientHandler.nextData_eq_some_iff.mp moved
  rfl

/-- A step of the write thread invokes nothing and leaves the read thread where it is. -/
theorem Moves.of_writer (silent : ∀ connection, invocations requestCallback connection event = [])
    (not_notified : event ≠ .notifyDisconnect) (id_eq : after.handler.id = before.handler.id)
    (same : after.readJoined = before.readJoined ∧ after.destroyed = before.destroyed ∧
      after.notices = before.notices ∧ after.reader = before.reader) :
    Moves requestCallback before event after where
  id_eq := id_eq
  readJoined_eq := same.1
  destroyed_eq := same.2.1
  notices_eq := by rw [same.2.2.1, silent, List.append_nil]
  ended_iff := by
    rw [Ended, same.2.2.2]
    exact (or_iff_left not_notified).symm
  live _ := not_notified

/-- A step of the read thread that invokes nothing. -/
theorem Moves.of_reader (silent : ∀ connection, invocations requestCallback connection event = [])
    (not_notified : event ≠ .notifyDisconnect) (id_eq : after.handler.id = before.handler.id)
    (same : after.readJoined = before.readJoined ∧ after.destroyed = before.destroyed ∧
      after.notices = before.notices)
    (going : ¬ before.Ended) (still_going : ¬ after.Ended) :
    Moves requestCallback before event after where
  id_eq := id_eq
  readJoined_eq := same.1
  destroyed_eq := same.2.1
  notices_eq := by rw [same.2.2, silent, List.append_nil]
  ended_iff := iff_of_false still_going (not_or.mpr ⟨going, not_notified⟩)
  live _ := not_notified

theorem moves_of_sendBatch {step : ClientHandler → Option ClientHandler}
    (silent : ∀ connection, invocations requestCallback connection event = [])
    (not_notified : event ≠ .notifyDisconnect)
    (id_of : ∀ {handler later}, step handler = some later → later.id = handler.id)
    (stepped : before.sendBatch step = some after) : Moves requestCallback before event after := by
  unfold sendBatch at stepped
  split at stepped
  · obtain ⟨handler, moved, rfl⟩ := Option.map_eq_some_iff.mp stepped
    exact .of_writer silent not_notified (id_of moved) ⟨rfl, rfl, rfl, rfl⟩
  · contradiction

theorem moves_of_step (stepped : before.step requestCallback event = some after) :
    Moves requestCallback before event after := by
  cases event with
  | testReader =>
      simp only [step, testReader] at stepped
      split at stepped
      · rename_i testing
        obtain rfl := Option.some.inj stepped
        refine .of_reader (fun _ => rfl) nofun rfl ⟨rfl, rfl, rfl⟩ ?_ ?_
        · simp [Ended, testing]
        · cases running : before.running <;> simp [Ended]
      · contradiction
  | recv chunk =>
      simp only [step, recv] at stepped
      split at stepped
      · rename_i receiving
        have going : ¬ before.Ended := by simp [Ended, receiving]
        split at stepped
        · obtain rfl := Option.some.inj stepped
          exact .of_reader (fun _ => rfl) nofun rfl ⟨rfl, rfl, rfl⟩ going (by simp [Ended])
        · obtain ⟨handler, received, rfl⟩ := Option.map_eq_some_iff.mp stepped
          refine .of_reader (fun _ => rfl) nofun (id_of_receive received) ⟨rfl, rfl, rfl⟩ going ?_
          rw [Ended]
          split <;> simp
      · contradiction
  | dispatch =>
      simp only [step, dispatch] at stepped
      split at stepped
      · rename_i dispatching frames_eq
        obtain rfl := Option.some.inj stepped
        have going : ¬ before.Ended := by simp [Ended, dispatching]
        refine ⟨rfl, rfl, rfl, ?_, ?_, nofun⟩
        · cases requestCallback <;> simp [invocations, frames_eq]
        · refine iff_of_false ?_ (not_or.mpr ⟨going, nofun⟩)
          rw [Ended]
          split <;> simp
      · contradiction
  | notifyDisconnect =>
      simp only [step, notifyDisconnect] at stepped
      split at stepped
      · rename_i disconnecting
        obtain rfl := Option.some.inj stepped
        have going : ¬ before.Ended := by simp [Ended, disconnecting]
        exact ⟨rfl, rfl, rfl, rfl, iff_of_true (Or.inl rfl) (Or.inr rfl),
          fun ended => absurd ended going⟩
      · contradiction
  | testWriter =>
      simp only [step, testWriter] at stepped
      split at stepped
      · obtain rfl := Option.some.inj stepped
        exact .of_writer (fun _ => rfl) nofun rfl ⟨rfl, rfl, rfl, rfl⟩
      · contradiction
  | takeBatch =>
      simp only [step, takeBatch] at stepped
      split at stepped
      · obtain ⟨handler, taken, rfl⟩ := Option.map_eq_some_iff.mp stepped
        exact .of_writer (fun _ => rfl) nofun (id_of_takeBatch taken) ⟨rfl, rfl, rfl, rfl⟩
      · contradiction
  | wake =>
      simp only [step, wake] at stepped
      split at stepped
      · obtain rfl := Option.some.inj stepped
        exact .of_writer (fun _ => rfl) nofun rfl ⟨rfl, rfl, rfl, rfl⟩
      · contradiction
  | send count => exact moves_of_sendBatch (fun _ => rfl) nofun id_of_send stepped
  | nextData => exact moves_of_sendBatch (fun _ => rfl) nofun id_of_nextData stepped
  | endBatch =>
      simp only [step, endBatch] at stepped
      split at stepped
      · obtain rfl := Option.some.inj stepped
        exact .of_writer (fun _ => rfl) nofun rfl ⟨rfl, rfl, rfl, rfl⟩
      · contradiction
  | failSend =>
      simp only [step, failSend] at stepped
      split at stepped
      · split at stepped
        · obtain rfl := Option.some.inj stepped
          exact .of_writer (fun _ => rfl) nofun rfl ⟨rfl, rfl, rfl, rfl⟩
        · contradiction
      · contradiction

end Connection

namespace ServerLifecycle

/-! ## What a step can do -/

/-- Nothing has been scheduled for the disconnect worker. -/
structure NothingScheduled (state : ServerLifecycle) : Prop where
  queue_eq : state.disconnectQueue = []
  not_notifying : ∀ client, state.worker ≠ .notifying client
  not_erasing : ∀ client, state.worker ≠ .erasing client

/-- The handlers that a step destroys. -/
def dropped (state : ServerLifecycle) : Event → List ℕ
  | .createHandler =>
      match state.acceptor with
      | .creating client => (state.clients.lookup client.toInt).toList
      | _ => []
  | .eraseClient connection =>
      (state.clients.lookup (state.connections connection).handler.id.toInt).toList
  | .eraseScheduled =>
      match state.worker with
      | .erasing client => (state.clients.lookup client.toInt).toList
      | _ => []
  | .dropClient =>
      match state.stopper with
      | .dropping clientsToClose => clientsToClose.take 1
      | _ => []
  | _ => []

/-- The callbacks that a step invokes for a handler; nothing is scheduled. -/
def noticed (requestCallback : Bool) (state : ServerLifecycle) (event : Event)
    (connection : ℕ) : List Notice :=
  match event with
  | .thread other own =>
      if other = connection then
        (state.connections connection).invocations requestCallback own
      else
        []
  | .notifyConnect _ =>
      if state.acceptor = .notifying connection then
        [.connect (state.connections connection).handler.id true]
      else
        []
  | _ => []

/-- The steps of the server's threads, each with its guards and with the state it leads to. -/
inductive Step (requestCallback : Bool) (state : ServerLifecycle) : Event → ServerLifecycle → Prop
  | start (idle : state.stopper = .idle) (accept_over : state.acceptor = .returned)
      (worker_over : state.worker = .returned) :
      Step requestCallback state .start
        { state with
          running := true
          sockFd := true
          listening := true
          acceptor := .testing
          worker := .testing }
  | testAccept (testing : state.acceptor = .testing) :
      Step requestCallback state .testAccept
        { state with
          acceptor := if state.running && state.sockFd then .accepting else .returned }
  | accept {client} (accepting : state.acceptor = .accepting) (listening : state.listening = true)
      (unused : client ≥ 0 ∧ state.openSockets client = false) :
      Step requestCallback state (.accept client)
        { state with
          acceptor := .creating client
          openSockets := Function.update state.openSockets client true }
  | retryAccept (accepting : state.acceptor = .accepting) :
      Step requestCallback state .retryAccept { state with acceptor := .testing }
  | failAccept (accepting : state.acceptor = .accepting) :
      Step requestCallback state .failAccept { state with acceptor := .returned }
  | createHandler {client} (creating : state.acceptor = .creating client) :
      Step requestCallback state .createHandler
        { ({ state with created := state.created + 1 }.setConnection state.created
            (Connection.create client)).destroyClient client with
          acceptor := .notifying state.created
          clients := (state.clients.erase client.toInt).tryInsert client.toInt state.created }
  | notifyConnect {connection} (notifying : state.acceptor = .notifying connection) :
      Step requestCallback state (.notifyConnect false)
        { state.setConnection connection { state.connections connection with
            notices := (state.connections connection).notices ++
              [.connect (state.connections connection).handler.id true] } with
          acceptor := .testing }
  | throwConnect {connection} (notifying : state.acceptor = .notifying connection) :
      Step requestCallback state (.notifyConnect true)
        { state.setConnection connection { state.connections connection with
            notices := (state.connections connection).notices ++
              [.connect (state.connections connection).handler.id true]
            closes := (state.connections connection).closes + 1 } with
          acceptor := .testing
          openSockets := Function.update state.openSockets
            (state.connections connection).handler.id false }
  | thread {connection own value}
      (moved : (state.connections connection).step requestCallback own = some value) :
      Step requestCallback state (.thread connection own) (state.setConnection connection value)
  | eraseClient {connection} (erasing : (state.connections connection).reader = .erasing) :
      Step requestCallback state (.eraseClient connection)
        { (state.setConnection connection
            { state.connections connection with reader := .returned }).destroyClient
              (state.connections connection).handler.id with
          clients := state.clients.erase (state.connections connection).handler.id.toInt }
  | response {client data connection}
      (found : state.clients.lookup client.toInt = some connection) :
      Step requestCallback state (.response client data)
        (state.setConnection connection { state.connections connection with
          handler := (state.connections connection).handler.write data })
  | loseResponse {client data} (absent : state.clients.lookup client.toInt = none) :
      Step requestCallback state (.response client data) state
  | testDisconnect (testing : state.worker = .testing) :
      Step requestCallback state .testDisconnect
        { state with worker := if state.running then .polling else .returned }
  | pollNothing (polling : state.worker = .polling) :
      Step requestCallback state .pollDisconnect { state with worker := .testing }
  | pollDisconnect {client clients} (queue_eq : state.disconnectQueue = client :: clients) :
      Step requestCallback state .pollDisconnect
        { state with
          worker := .notifying client
          disconnectQueue := clients }
  | notifyScheduled {client connection} (notifying : state.worker = .notifying client) :
      Step requestCallback state .notifyScheduled
        ({ state with worker := .erasing client }.setConnection connection
          { state.connections connection with
            notices := (state.connections connection).notices ++
              [Notice.connect client false] })
  | skipScheduled {client} (notifying : state.worker = .notifying client) :
      Step requestCallback state .notifyScheduled { state with worker := .erasing client }
  | eraseScheduled {client} (erasing : state.worker = .erasing client) :
      Step requestCallback state .eraseScheduled
        { state.destroyClient client with
          worker := .testing
          clients := state.clients.erase client.toInt }
  | stop (idle : state.stopper = .idle) :
      Step requestCallback state .stop
        { state with
          running := false
          stopper := .exchanging }
  | exchangeFd (exchanging : state.stopper = .exchanging) :
      Step requestCallback state .exchangeFd
        { state with
          sockFd := false
          stopper := .closing }
  | closeListening (closing : state.stopper = .closing) :
      Step requestCallback state .closeListening
        { state with
          listening := false
          stopper := .joiningAccept }
  | joinAccept (joining : state.stopper = .joiningAccept) (returned : state.acceptor = .returned) :
      Step requestCallback state .joinAccept { state with stopper := .joiningDisconnect }
  | joinDisconnect (joining : state.stopper = .joiningDisconnect) :
      Step requestCallback state .joinDisconnect { state with stopper := .moving }
  | moveClients (moving : state.stopper = .moving) :
      Step requestCallback state .moveClients
        { state with
          stopper := .dropping (state.clients.entries.map Prod.snd)
          clients := ∅ }
  | dropClient {connection clientsToClose}
      (dropping : state.stopper = .dropping (connection :: clientsToClose)) :
      Step requestCallback state .dropClient
        { state.destroy connection with stopper := .dropping clientsToClose }
  | returnStop (dropping : state.stopper = .dropping []) :
      Step requestCallback state .dropClient { state with stopper := .idle }

variable {requestCallback : Bool} {state next : ServerLifecycle} {event : Event}

/-- A step is taken only while no handler has been destroyed unjoined. -/
theorem alive_of_step (stepped : (lifecycle requestCallback).step state event = some next) :
    state.destroyedUnjoined = false := by
  by_contra destroyed
  simp [lifecycle, destroyed] at stepped

theorem Step.of_start (moved : state.start = some next) :
    Step requestCallback state .start next := by
  simp only [ServerLifecycle.start] at moved
  split at moved
  · rename_i idle accept_over worker_over
    obtain rfl := Option.some.inj moved
    exact .start idle accept_over worker_over
  · contradiction

theorem Step.of_testAccept (moved : state.testAccept = some next) :
    Step requestCallback state .testAccept next := by
  simp only [ServerLifecycle.testAccept] at moved
  split at moved
  · rename_i testing
    obtain rfl := Option.some.inj moved
    exact .testAccept testing
  · contradiction

theorem Step.of_accept {client : Int32} (moved : state.accept client = some next) :
    Step requestCallback state (.accept client) next := by
  simp only [ServerLifecycle.accept] at moved
  split at moved
  · rename_i accepting
    obtain ⟨allowed, result⟩ := Option.ite_none_right_eq_some.mp moved
    obtain rfl := Option.some.inj result
    simp only [Bool.and_eq_true, decide_eq_true_eq, Bool.not_eq_true'] at allowed
    exact .accept accepting allowed.1.1 ⟨allowed.1.2, allowed.2⟩
  · contradiction

theorem Step.of_retryAccept (moved : state.failAccept .testing = some next) :
    Step requestCallback state .retryAccept next := by
  simp only [ServerLifecycle.failAccept] at moved
  split at moved
  · rename_i accepting
    obtain rfl := Option.some.inj moved
    exact .retryAccept accepting
  · contradiction

theorem Step.of_failAccept (moved : state.failAccept .returned = some next) :
    Step requestCallback state .failAccept next := by
  simp only [ServerLifecycle.failAccept] at moved
  split at moved
  · rename_i accepting
    obtain rfl := Option.some.inj moved
    exact .failAccept accepting
  · contradiction

theorem Step.of_createHandler (moved : state.createHandler = some next) :
    Step requestCallback state .createHandler next := by
  simp only [ServerLifecycle.createHandler] at moved
  split at moved
  · rename_i creating
    obtain rfl := Option.some.inj moved
    exact .createHandler creating
  · contradiction

theorem Step.of_notifyConnect {throws : Bool} (moved : state.notifyConnect throws = some next) :
    Step requestCallback state (.notifyConnect throws) next := by
  simp only [ServerLifecycle.notifyConnect] at moved
  split at moved
  · rename_i notifying
    cases throws with
    | true =>
        obtain rfl := Option.some.inj moved
        exact .throwConnect notifying
    | false =>
        obtain rfl := Option.some.inj moved
        exact .notifyConnect notifying
  · contradiction

theorem Step.of_eraseClient {connection : ℕ} (moved : state.eraseClient connection = some next) :
    Step requestCallback state (.eraseClient connection) next := by
  simp only [ServerLifecycle.eraseClient] at moved
  split at moved
  · rename_i erasing
    obtain rfl := Option.some.inj moved
    exact .eraseClient erasing
  · contradiction

theorem Step.of_testDisconnect (moved : state.testDisconnect = some next) :
    Step requestCallback state .testDisconnect next := by
  simp only [ServerLifecycle.testDisconnect] at moved
  split at moved
  · rename_i testing
    obtain rfl := Option.some.inj moved
    exact .testDisconnect testing
  · contradiction

theorem Step.of_pollDisconnect (moved : state.pollDisconnect = some next) :
    Step requestCallback state .pollDisconnect next := by
  simp only [ServerLifecycle.pollDisconnect] at moved
  split at moved
  · rename_i polling _
    obtain rfl := Option.some.inj moved
    exact .pollNothing polling
  · rename_i queue_eq
    obtain rfl := Option.some.inj moved
    exact .pollDisconnect queue_eq
  · contradiction

theorem Step.of_notifyScheduled (moved : state.notifyScheduled = some next) :
    Step requestCallback state .notifyScheduled next := by
  simp only [ServerLifecycle.notifyScheduled] at moved
  split at moved
  · rename_i notifying
    split at moved
    · obtain rfl := Option.some.inj moved
      exact .skipScheduled notifying
    · obtain rfl := Option.some.inj moved
      exact .notifyScheduled notifying
  · contradiction

theorem Step.of_eraseScheduled (moved : state.eraseScheduled = some next) :
    Step requestCallback state .eraseScheduled next := by
  simp only [ServerLifecycle.eraseScheduled] at moved
  split at moved
  · rename_i erasing
    obtain rfl := Option.some.inj moved
    exact .eraseScheduled erasing
  · contradiction

theorem Step.of_stop (moved : state.stop = some next) :
    Step requestCallback state .stop next := by
  simp only [ServerLifecycle.stop] at moved
  split at moved
  · rename_i idle _
    obtain rfl := Option.some.inj moved
    exact .stop idle
  · contradiction

theorem Step.of_exchangeFd (moved : state.exchangeFd = some next) :
    Step requestCallback state .exchangeFd next := by
  simp only [ServerLifecycle.exchangeFd] at moved
  split at moved
  · rename_i exchanging
    obtain rfl := Option.some.inj moved
    exact .exchangeFd exchanging
  · contradiction

theorem Step.of_closeListening (moved : state.closeListening = some next) :
    Step requestCallback state .closeListening next := by
  simp only [ServerLifecycle.closeListening] at moved
  split at moved
  · rename_i closing
    obtain rfl := Option.some.inj moved
    exact .closeListening closing
  · contradiction

theorem Step.of_joinAccept (moved : state.joinAccept = some next) :
    Step requestCallback state .joinAccept next := by
  simp only [ServerLifecycle.joinAccept] at moved
  split at moved
  · rename_i joining returned
    obtain rfl := Option.some.inj moved
    exact .joinAccept joining returned
  · contradiction

theorem Step.of_joinDisconnect (moved : state.joinDisconnect = some next) :
    Step requestCallback state .joinDisconnect next := by
  simp only [ServerLifecycle.joinDisconnect] at moved
  split at moved
  · rename_i joining _
    obtain rfl := Option.some.inj moved
    exact .joinDisconnect joining
  · contradiction

theorem Step.of_moveClients (moved : state.moveClients = some next) :
    Step requestCallback state .moveClients next := by
  simp only [ServerLifecycle.moveClients] at moved
  split at moved
  · rename_i moving
    obtain rfl := Option.some.inj moved
    exact .moveClients moving
  · contradiction

theorem Step.of_dropClient (moved : state.dropClient = some next) :
    Step requestCallback state .dropClient next := by
  simp only [ServerLifecycle.dropClient] at moved
  split at moved
  · rename_i dropping
    obtain rfl := Option.some.inj moved
    exact .returnStop dropping
  · rename_i dropping
    obtain rfl := Option.some.inj moved
    exact .dropClient dropping
  · contradiction

theorem step_of_eq_some
    (stepped : (lifecycle requestCallback).step state event = some next) :
    Step requestCallback state event next := by
  have alive := alive_of_step stepped
  simp only [lifecycle, alive, Bool.false_eq_true, if_false] at stepped
  cases event with
  | start => exact .of_start stepped
  | testAccept => exact .of_testAccept stepped
  | accept client => exact .of_accept stepped
  | retryAccept => exact .of_retryAccept stepped
  | failAccept => exact .of_failAccept stepped
  | createHandler => exact .of_createHandler stepped
  | notifyConnect throws => exact .of_notifyConnect stepped
  | thread connection own =>
      obtain ⟨value, moved, rfl⟩ := Option.map_eq_some_iff.mp stepped
      exact .thread moved
  | eraseClient connection => exact .of_eraseClient stepped
  | response client data =>
      simp only [stepAlive, ServerLifecycle.response, Option.some.injEq] at stepped
      subst stepped
      split
      · rename_i absent
        exact .loseResponse absent
      · rename_i found
        exact .response found
  | testDisconnect => exact .of_testDisconnect stepped
  | pollDisconnect => exact .of_pollDisconnect stepped
  | notifyScheduled => exact .of_notifyScheduled stepped
  | eraseScheduled => exact .of_eraseScheduled stepped
  | stop => exact .of_stop stepped
  | exchangeFd => exact .of_exchangeFd stepped
  | closeListening => exact .of_closeListening stepped
  | joinAccept => exact .of_joinAccept stepped
  | joinDisconnect => exact .of_joinDisconnect stepped
  | moveClients => exact .of_moveClients stepped
  | dropClient => exact .of_dropClient stepped

/-- What a step does to a handler that it does not create. -/
structure Effect (requestCallback : Bool) (state : ServerLifecycle) (event : Event)
    (connection : ℕ) (after : Connection) : Prop where
  id_eq : after.handler.id = (state.connections connection).handler.id
  readJoined_eq : after.readJoined = (state.connections connection).readJoined
  destroyed_iff : after.destroyed = true ↔
    (state.connections connection).destroyed = true ∨ connection ∈ state.dropped event
  notices_eq : after.notices = (state.connections connection).notices ++
    state.noticed requestCallback event connection
  ended_iff : after.Ended ↔
    (state.connections connection).Ended ∨ event = .thread connection .notifyDisconnect
  live : (state.connections connection).Ended → event ≠ .thread connection .notifyDisconnect

theorem connections_setConnection (state : ServerLifecycle) (connection : ℕ) (value : Connection) :
    (state.setConnection connection value).connections =
      Function.update state.connections connection value :=
  rfl

theorem connections_destroy (state : ServerLifecycle) (connection other : ℕ) :
    (state.destroy connection).connections other =
      { state.connections other with
        destroyed := (state.connections other).destroyed || decide (other = connection) } := by
  change Function.update state.connections connection _ other = _
  rcases eq_or_ne other connection with rfl | different
  · simp
  · rw [Function.update_of_ne different]
    simp [different]

theorem connections_destroyClient (state : ServerLifecycle) (client : Int32) (other : ℕ) :
    (state.destroyClient client).connections other =
      { state.connections other with
        destroyed := (state.connections other).destroyed ||
          decide (other ∈ state.clients.lookup client.toInt) } := by
  unfold destroyClient
  cases state.clients.lookup client.toInt with
  | none => simp
  | some connection =>
      rw [connections_destroy]
      simp only [Option.mem_def, Option.some.injEq, eq_comm]

/-- A step leaves a handler alone. -/
theorem Effect.kept {connection : ℕ} {event : Event}
    (not_dropped : connection ∉ state.dropped event)
    (not_noticed : state.noticed requestCallback event connection = [])
    (not_ended : event ≠ .thread connection .notifyDisconnect) :
    state.Effect requestCallback event connection (state.connections connection) where
  id_eq := rfl
  readJoined_eq := rfl
  destroyed_iff := (or_iff_left not_dropped).symm
  notices_eq := by rw [not_noticed, List.append_nil]
  ended_iff := (or_iff_left not_ended).symm
  live _ := not_ended

/-- A step does no more to a handler than to destroy it. -/
theorem Effect.destroyed {connection : ℕ} {event : Event}
    (not_noticed : state.noticed requestCallback event connection = [])
    (not_ended : event ≠ .thread connection .notifyDisconnect) {destroyed : Bool}
    (destroyed_iff : destroyed = true ↔ connection ∈ state.dropped event) :
    state.Effect requestCallback event connection
      { state.connections connection with
        destroyed := (state.connections connection).destroyed || destroyed } where
  id_eq := rfl
  readJoined_eq := rfl
  destroyed_iff := by rw [Bool.or_eq_true, destroyed_iff]
  notices_eq := by rw [not_noticed, List.append_nil]
  ended_iff := (or_iff_left not_ended).symm
  live _ := not_ended

theorem Step.effect (stepped : Step requestCallback state event next)
    (nothing : state.NothingScheduled) {connection : ℕ}
    (old : event = .createHandler → connection ≠ state.created) :
    state.Effect requestCallback event connection (next.connections connection) := by
  cases stepped with
  | start | testAccept | accept | retryAccept | failAccept | loseResponse | testDisconnect
  | pollNothing | stop | exchangeFd | closeListening | joinAccept | joinDisconnect
  | moveClients => exact .kept List.not_mem_nil rfl nofun
  | @createHandler client creating =>
      change state.Effect requestCallback .createHandler connection
        ((destroyClient _ client).connections connection)
      rw [connections_destroyClient, connections_setConnection, Function.update_of_ne (old rfl)]
      refine Effect.destroyed ?_ ?_ ?_
      · rfl
      · exact nofun
      · rw [decide_eq_true_iff, dropped, creating]
        exact Option.mem_toList.symm
  | @notifyConnect other notifying | @throwConnect other notifying =>
      change state.Effect requestCallback _ connection
        ((state.setConnection other _).connections connection)
      rw [connections_setConnection]
      rcases eq_or_ne connection other with rfl | different
      · rw [Function.update_self]
        refine ⟨rfl, rfl, (or_iff_left List.not_mem_nil).symm, ?_, (or_iff_left nofun).symm, nofun⟩
        rw [noticed, if_pos notifying]
      · rw [Function.update_of_ne different]
        refine .kept List.not_mem_nil (if_neg ?_) nofun
        rw [notifying]
        rintro ⟨⟩
        exact different rfl
  | @thread other event value moved =>
      have moves := Connection.moves_of_step moved
      rw [connections_setConnection]
      rcases eq_or_ne connection other with rfl | different
      · rw [Function.update_self]
        refine ⟨moves.id_eq, moves.readJoined_eq, ?_, ?_, ?_, ?_⟩
        · rw [moves.destroyed_eq]
          exact (or_iff_left List.not_mem_nil).symm
        · rw [moves.notices_eq, noticed, if_pos rfl]
        · rw [moves.ended_iff]
          simp
        · simpa using moves.live
      · rw [Function.update_of_ne different]
        refine .kept List.not_mem_nil (if_neg different.symm) ?_
        rintro ⟨⟩
        exact different rfl
  | @eraseClient other erasing =>
      change state.Effect requestCallback (.eraseClient other) connection
        ((destroyClient _ _).connections connection)
      rw [connections_destroyClient, connections_setConnection]
      have member_iff : connection ∈ state.clients.lookup
          (state.connections other).handler.id.toInt ↔
            connection ∈ state.dropped (.eraseClient other) := Option.mem_toList.symm
      rcases eq_or_ne connection other with rfl | different
      · rw [Function.update_self]
        refine ⟨rfl, rfl, ?_, (List.append_nil _).symm, ?_, nofun⟩
        · rw [Bool.or_eq_true, ← member_iff]
          exact or_congr_right decide_eq_true_iff
        · exact iff_of_true (Or.inr rfl) (Or.inl (Or.inl erasing))
      · rw [Function.update_of_ne different]
        refine Effect.destroyed ?_ ?_ ?_
        · rfl
        · exact nofun
        · rw [← member_iff]
          exact decide_eq_true_iff
  | @response client data other =>
      rw [connections_setConnection]
      rcases eq_or_ne connection other with rfl | different
      · rw [Function.update_self]
        exact ⟨rfl, rfl, (or_iff_left List.not_mem_nil).symm, (List.append_nil _).symm,
          (or_iff_left nofun).symm, nofun⟩
      · rw [Function.update_of_ne different]
        exact .kept List.not_mem_nil rfl nofun
  | pollDisconnect queue_eq => exact absurd queue_eq (by simp [nothing.queue_eq])
  | notifyScheduled notifying | skipScheduled notifying =>
      exact absurd notifying (nothing.not_notifying _)
  | eraseScheduled erasing => exact absurd erasing (nothing.not_erasing _)
  | @dropClient other clientsToClose dropping =>
      change state.Effect requestCallback .dropClient connection
        ((destroy _ _).connections connection)
      rw [connections_destroy]
      refine Effect.destroyed ?_ ?_ ?_
      · rfl
      · exact nofun
      · rw [decide_eq_true_iff, dropped, dropping]
        exact List.mem_singleton.symm
  | returnStop dropping =>
      refine .kept ?_ rfl nofun
      rw [dropped, dropping]
      exact List.not_mem_nil

theorem destroyClient_same (state : ServerLifecycle) (client : Int32) :
    (state.destroyClient client).created = state.created ∧
      (state.destroyClient client).acceptor = state.acceptor ∧
      (state.destroyClient client).disconnectQueue = state.disconnectQueue ∧
      (state.destroyClient client).worker = state.worker := by
  unfold destroyClient
  cases state.clients.lookup client.toInt with
  | none => exact ⟨rfl, rfl, rfl, rfl⟩
  | some connection => exact ⟨rfl, rfl, rfl, rfl⟩

/-- The handler that the accepting thread creates, which is destroyed at once only if it is in the
map already. -/
theorem Step.fresh (stepped : Step requestCallback state .createHandler next) :
    ∃ client, next.connections state.created =
        { Connection.create client with
          destroyed := decide (state.created ∈ state.dropped .createHandler) } ∧
      next.created = state.created + 1 ∧ next.acceptor = .notifying state.created := by
  cases stepped with
  | @createHandler client creating =>
      refine ⟨client, ?_, (destroyClient_same _ client).1, rfl⟩
      change (destroyClient _ client).connections state.created = _
      rw [connections_destroyClient, connections_setConnection, Function.update_self, dropped,
        creating]
      simp only [Connection.create, Bool.false_or, Option.mem_toList]
      rfl

/-- What a step does to the accepting thread and to the disconnect worker. -/
structure Control (state : ServerLifecycle) (event : Event) (next : ServerLifecycle) : Prop where
  created_eq : event ≠ .createHandler → next.created = state.created
  acceptor_iff : ∀ {connection}, (event = .createHandler → connection ≠ state.created) →
    (next.acceptor = .notifying connection ↔
      state.acceptor = .notifying connection ∧ ∀ throws, event ≠ .notifyConnect throws)
  scheduled : next.NothingScheduled

theorem NothingScheduled.of_same (nothing : state.NothingScheduled)
    (queue_eq : next.disconnectQueue = state.disconnectQueue)
    (worker_eq : next.worker = state.worker) : next.NothingScheduled where
  queue_eq := queue_eq.trans nothing.queue_eq
  not_notifying client := worker_eq ▸ nothing.not_notifying client
  not_erasing client := worker_eq ▸ nothing.not_erasing client

theorem Control.of_same (nothing : state.NothingScheduled)
    (not_notified : ∀ throws, event ≠ .notifyConnect throws)
    (same : next.created = state.created ∧ next.acceptor = state.acceptor ∧
      next.disconnectQueue = state.disconnectQueue ∧ next.worker = state.worker) :
    state.Control event next where
  created_eq _ := same.1
  acceptor_iff _ := by
    rw [same.2.1]
    exact (and_iff_left not_notified).symm
  scheduled := nothing.of_same same.2.2.1 same.2.2.2

/-- A step of the accepting thread, before and after which it has no connect callback to invoke. -/
theorem Control.of_acceptor {acceptor : Acceptor} (nothing : next.NothingScheduled)
    (created_eq : next.created = state.created) (acceptor_eq : next.acceptor = acceptor)
    (free : ∀ connection, state.acceptor ≠ .notifying connection)
    (still_free : ∀ connection, acceptor ≠ .notifying connection) : state.Control event next where
  created_eq _ := created_eq
  acceptor_iff _ := by
    rw [acceptor_eq]
    exact iff_of_false (still_free _) fun both => free _ both.1
  scheduled := nothing

/-- The disconnect worker goes on without a client. -/
theorem Control.of_worker {worker : DisconnectWorker} (nothing : state.NothingScheduled)
    (not_notified : ∀ throws, event ≠ .notifyConnect throws)
    (free : ∀ client, worker ≠ .notifying client ∧ worker ≠ .erasing client) :
    state.Control event { state with worker } where
  created_eq _ := rfl
  acceptor_iff _ := (and_iff_left not_notified).symm
  scheduled := ⟨nothing.queue_eq, fun client => (free client).1, fun client => (free client).2⟩

theorem Step.control (stepped : Step requestCallback state event next)
    (nothing : state.NothingScheduled) : state.Control event next := by
  cases stepped with
  | start idle accept_over worker_over =>
      exact .of_acceptor ⟨nothing.queue_eq, nofun, nofun⟩ rfl rfl (by simp [accept_over]) nofun
  | testAccept testing =>
      refine .of_acceptor (nothing.of_same rfl rfl) rfl rfl (by simp [testing]) ?_
      intro connection
      split <;> exact nofun
  | accept accepting | retryAccept accepting | failAccept accepting =>
      exact .of_acceptor (nothing.of_same rfl rfl) rfl rfl (by simp [accepting]) nofun
  | @createHandler client creating =>
      have same := destroyClient_same ({ state with created := state.created + 1 }.setConnection
        state.created (Connection.create client)) client
      refine ⟨fun other => absurd rfl other, fun {connection} old => ?_,
        nothing.of_same same.2.2.1 same.2.2.2⟩
      rw [creating]
      simp [Ne.symm (old rfl)]
  | notifyConnect notifying | throwConnect notifying =>
      refine ⟨fun _ => rfl, fun _ => ?_, nothing.of_same rfl rfl⟩
      exact iff_of_false nofun fun both => both.2 _ rfl
  | thread | response | loseResponse | stop | exchangeFd | closeListening | joinAccept
  | joinDisconnect | moveClients | dropClient | returnStop =>
      exact .of_same nothing nofun ⟨rfl, rfl, rfl, rfl⟩
  | @eraseClient connection erasing =>
      exact .of_same nothing nofun (destroyClient_same
        (state.setConnection connection { state.connections connection with reader := .returned })
        (state.connections connection).handler.id)
  | testDisconnect =>
      refine .of_worker nothing nofun fun client => ?_
      split <;> exact ⟨nofun, nofun⟩
  | pollNothing => exact .of_worker nothing nofun fun client => ⟨nofun, nofun⟩
  | pollDisconnect queue_eq => exact absurd queue_eq (by simp [nothing.queue_eq])
  | notifyScheduled notifying | skipScheduled notifying =>
      exact absurd notifying (nothing.not_notifying _)
  | eraseScheduled erasing => exact absurd erasing (nothing.not_erasing _)

/-- Nobody schedules a disconnection, so the disconnect worker never has a client. -/
theorem nothingScheduled_of_reaches {trace : List Event}
    (reached : (lifecycle requestCallback).Reaches trace state) : state.NothingScheduled := by
  refine reached.invariant (motive := fun _ state => state.NothingScheduled) ?_ ?_
  · exact ⟨rfl, nofun, nofun⟩
  · intro trace state event next _ nothing stepped
    exact ((step_of_eq_some stepped).control nothing).scheduled

/-! ## Destroyed handlers -/

/-- The threads of every destroyed handler have been joined, and its socket has been closed exactly
once. -/
def SafelyTornDown (state : ServerLifecycle) : Prop :=
  ∀ connection, (state.connections connection).destroyed = true →
    (state.connections connection).readJoined = true ∧
      (state.connections connection).writeJoined = true ∧
      (state.connections connection).closes = 1

/-- A step creates a handler or has an effect on it. -/
theorem Step.handler_cases (stepped : Step requestCallback state event next)
    (nothing : state.NothingScheduled) (connection : ℕ) :
    state.Effect requestCallback event connection (next.connections connection) ∨
      ∃ client, next.connections connection =
        { Connection.create client with
          destroyed := decide (connection ∈ state.dropped event) } := by
  rcases Classical.em (event = .createHandler ∧ connection = state.created) with
    ⟨rfl, rfl⟩ | old
  · obtain ⟨client, created_eq, -⟩ := stepped.fresh
    exact Or.inr ⟨client, created_eq⟩
  · exact Or.inl (stepped.effect nothing (not_and.mp old))

theorem Step.destroyed_of_dropped (stepped : Step requestCallback state event next)
    (nothing : state.NothingScheduled) {connection : ℕ}
    (member : connection ∈ state.dropped event) :
    (next.connections connection).destroyed = true := by
  rcases stepped.handler_cases nothing connection with effect | ⟨client, created_eq⟩
  · exact effect.destroyed_iff.mpr (Or.inr member)
  · rw [created_eq]
    exact decide_eq_true member

theorem Step.destroyed_cases (stepped : Step requestCallback state event next)
    (nothing : state.NothingScheduled) {connection : ℕ}
    (destroyed : (next.connections connection).destroyed = true) :
    (state.connections connection).destroyed = true ∨ connection ∈ state.dropped event := by
  rcases stepped.handler_cases nothing connection with effect | ⟨client, created_eq⟩
  · exact effect.destroyed_iff.mp destroyed
  · rw [created_eq] at destroyed
    exact Or.inr (of_decide_eq_true destroyed)

/-- Nobody calls `ClientHandler::stop`, so no thread of a handler is ever joined. -/
theorem unjoined_of_reaches {trace : List Event}
    (reached : (lifecycle requestCallback).Reaches trace state) (connection : ℕ) :
    (state.connections connection).readJoined = false := by
  refine reached.invariant
    (motive := fun _ state => (state.connections connection).readJoined = false) ?_ ?_
  · rfl
  · intro trace state event next state_reached unjoined stepped
    rcases (step_of_eq_some stepped).handler_cases (nothingScheduled_of_reaches state_reached)
      connection with effect | ⟨client, created_eq⟩
    · rw [effect.readJoined_eq, unjoined]
    · rw [created_eq]
      rfl

theorem destroyedUnjoined_destroy {connection : ℕ}
    (unjoined : (state.connections connection).readJoined = false) :
    (state.destroy connection).destroyedUnjoined = true := by
  change (state.destroyedUnjoined || !((state.connections connection).readJoined && _)) = true
  rw [unjoined, Bool.false_and, Bool.not_false, Bool.or_true]

theorem destroyedUnjoined_destroyClient {client : Int32} {connection : ℕ}
    (member : connection ∈ state.clients.lookup client.toInt)
    (unjoined : (state.connections connection).readJoined = false) :
    (state.destroyClient client).destroyedUnjoined = true := by
  rw [destroyClient, Option.mem_def.mp member]
  exact destroyedUnjoined_destroy unjoined

/-- Handlers are torn down safely exactly in the runs that destroy none. -/
theorem safelyTornDown_along_iff (requestCallback : Bool) (trace : List Event) :
    (lifecycle requestCallback).Along SafelyTornDown trace ↔
      (lifecycle requestCallback).EachStep (fun state event => state.dropped event = []) trace := by
  apply EventSystem.along_iff_eachStep
  · exact fun _ destroyed => absurd destroyed Bool.false_ne_true
  · intro trace state event next reached safe stepped
    have moved := step_of_eq_some stepped
    have nothing := nothingScheduled_of_reaches reached
    have next_reached := EventSystem.reaches_concat.mpr ⟨state, reached, stepped⟩
    constructor
    · intro next_safe
      refine List.eq_nil_iff_forall_not_mem.mpr fun connection member => ?_
      have joined := (next_safe connection (moved.destroyed_of_dropped nothing member)).1
      rw [unjoined_of_reaches next_reached] at joined
      contradiction
    · intro none_dropped connection destroyed
      rcases moved.destroyed_cases nothing destroyed with earlier | member
      · have joined := (safe connection earlier).1
        rw [unjoined_of_reaches reached] at joined
        contradiction
      · rw [none_dropped] at member
        contradiction

/-- A client connects and closes its connection. -/
def disconnectingTrace : List Event :=
  [.start, .testAccept, .accept 4, .createHandler, .notifyConnect false, .thread 0 .testReader,
    .thread 0 (.recv []), .thread 0 .notifyDisconnect, .eraseClient 0]

/-- The read thread destroys its own handler: no thread has been joined, and the socket is still
open.  The destruction hangs while the write thread waits on `write_cv_`; otherwise it terminates
the process. -/
theorem disconnect_destroys_unjoined :
    ∃ state, (lifecycle true).Reaches disconnectingTrace state ∧ ¬ SafelyTornDown state ∧
      (state.connections 0).destroyed = true ∧ (state.connections 0).readJoined = false ∧
      (state.connections 0).writeJoined = false ∧ (state.connections 0).closes = 0 ∧
      state.destroyedUnjoined = true := by
  refine ⟨_, rfl, ?_, rfl, rfl, rfl, rfl, rfl⟩
  intro safe
  exact absurd (safe 0 rfl).1 Bool.false_ne_true

end ServerLifecycle
end FramedTcp
