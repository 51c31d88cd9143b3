import FramedTcp.DescriptorTable
import FramedTcp.EventSystem

/-!
# The listening socket

`TcpServer::start` and `TcpServer::stop` as one thread calls them on a server that no client
connects to; every system call is free to fail.  `TcpConnection`, from which the server is derived,
keeps a descriptor and a flag of its own.
-/

namespace FramedTcp.Listening

open Descriptors EventSystems

/-- The base class of the server. -/
structure TcpConnection where
  sockFd : Int32 := -1
  running : Bool := false
  deriving DecidableEq

/-- The descriptor that the destructor of the base class closes. -/
def TcpConnection.destructor (connection : TcpConnection) : Option Int32 :=
  if connection.running ∧ connection.sockFd ≥ 0 then some connection.sockFd else none

/-- Where a thread of the server stands. -/
inductive Position
  | testing
  | loading
  | accepting (serverFd : Int32)
  | waiting
  | returned
  deriving DecidableEq

/-- Steps of the threads; with `retry`, a failed `accept` leaves `EINTR` or `EAGAIN`. -/
inductive ThreadStep
  | test
  | load
  | accept (retry : Bool)
  | wake
  deriving DecidableEq

/-- The server without clients; a thread that is not joinable is `none`. -/
@[ext]
structure TcpServer where
  /-- The members of the base class. -/
  base : TcpConnection := {}
  sockFd : Int32 := -1
  running : Bool := false
  acceptThread : Option Position := none
  disconnectThread : Option Position := none
  cleanupThread : Option Position := none
  deriving DecidableEq

namespace TcpServer

/-- Is one of the threads joinable? -/
def joinable (server : TcpServer) : Bool :=
  server.acceptThread.isSome || server.disconnectThread.isSome || server.cleanupThread.isSome

/-- The descriptor stored. -/
def stored (server : TcpServer) : Option Int32 :=
  if 0 ≤ server.sockFd then some server.sockFd else none

/-- `acceptLoop`; nobody connects, so `accept` fails. -/
def acceptLoop (server : TcpServer) : Position → ThreadStep → Option Position
  | .testing, .test => some (if server.running then .loading else .returned)
  | .loading, .load => some (if server.sockFd < 0 then .returned else .accepting server.sockFd)
  | .accepting _, .accept retry => some (if retry then .testing else .returned)
  | _, _ => none

/-- A loop that tests the flag and waits. -/
def waitLoop (server : TcpServer) : Position → ThreadStep → Option Position
  | .testing, .test => some (if server.running then .waiting else .returned)
  | .waiting, .wake => some .testing
  | _, _ => none

/-- `disconnectWorker`, whose queue stays empty. -/
def disconnectWorker (server : TcpServer) : Position → ThreadStep → Option Position :=
  server.waitLoop

/-- `cleanupInactiveStreams`, without streams. -/
def cleanupInactiveStreams (server : TcpServer) : Position → ThreadStep → Option Position :=
  server.waitLoop

end TcpServer

/-- Where the calling thread stands; the destructor calls `stop()` too. -/
inductive Caller
  | idle
  | opening
  | binding (fd : Int32)
  | listening (fd : Int32)
  | closing (destroying : Bool)
  | joiningAccept (destroying : Bool)
  | joiningDisconnect (destroying : Bool)
  | joiningCleanup (destroying : Bool)
  | destroyed
  deriving DecidableEq

/-- Calls, system calls with their outcomes, and steps of the threads. -/
inductive Event
  | start
  | socket (descriptor : Option Int32)
  | bind (succeeds : Bool)
  | listen (succeeds : Bool)
  | stop (destroying : Bool)
  | close
  | joinAccept
  | joinDisconnect
  | joinCleanup
  | acceptLoop (step : ThreadStep)
  | disconnectWorker (step : ThreadStep)
  | cleanupInactiveStreams (step : ThreadStep)
  deriving DecidableEq

/-- A server in use. -/
abbrev State : Type := Usage TcpServer Caller Int32

/-- A call of `start()`, up to the system call `socket`. -/
def start (state : State) : Option State :=
  match state.caller with
  | .idle =>
      if state.object.running then
        some (state.enter.conclude .idle false)
      else
        some { state.enter with caller := .opening }
  | _ => none

/-- Close the descriptor and return `false`. -/
def fail (state : State) (fd : Int32) : State :=
  let closed : State :=
    { state with
      object := { state.object with sockFd := -1 }
      descriptors := state.descriptors.close fd }
  closed.conclude .idle false

/-- `socket` returns a descriptor that is not in use, or fails. -/
def socket (state : State) (descriptor : Option Int32) : Option State :=
  match state.caller, descriptor with
  | .opening, none => some (state.conclude .idle false)
  | .opening, some fd =>
      if 0 ≤ fd ∧ ¬ state.descriptors.IsOpen fd then
        some { state with
          object := { state.object with sockFd := fd }
          caller := .binding fd
          descriptors := state.descriptors.allocate fd }
      else
        none
  | _, _ => none

/-- `bind`. -/
def bind (state : State) (succeeds : Bool) : Option State :=
  match state.caller with
  | .binding fd =>
      some (if succeeds then { state with caller := .listening fd } else fail state fd)
  | _ => none

/-- Set the flag, create the threads and return `true`; to assign to a joinable thread terminates
the process. -/
def serve (state : State) (fd : Int32) : State :=
  let running : State :=
    { state with
      object := { state.object with
        running := true
        cleanupThread := some .testing
        disconnectThread := some .testing
        acceptThread := some .testing }
      opened := some fd
      terminated := state.terminated || state.object.joinable }
  running.conclude .idle true

/-- `listen`. -/
def listen (state : State) (succeeds : Bool) : Option State :=
  match state.caller with
  | .listening fd => some (if succeeds then serve state fd else fail state fd)
  | _ => none

/-- `stop()` returns; its caller may be the destructor, which then destroys the members and the
base class. -/
def finish (state : State) (destroying : Bool) : State :=
  if destroying then
    { state with
      caller := .destroyed
      descriptors :=
        match state.object.base.destructor with
        | some fd => state.descriptors.close fd
        | none => state.descriptors
      terminated := state.terminated || state.object.joinable }
  else
    { state with caller := .idle }

/-- A call of `stop()`, up to the exchange of the descriptor. -/
def stop (state : State) (destroying : Bool) : Option State :=
  match state.caller with
  | .idle =>
      if state.object.running then
        some { state with
          object := { state.object with running := false }
          caller := .closing destroying }
      else
        some (finish state destroying)
  | _ => none

/-- `stop()` takes the descriptor and closes it. -/
def close (state : State) : Option State :=
  match state.caller with
  | .closing destroying =>
      some { state with
        object := { state.object with sockFd := -1 }
        caller := .joiningAccept destroying
        descriptors :=
          if state.object.sockFd ≥ 0 then state.descriptors.close state.object.sockFd
          else state.descriptors }
  | _ => none

/-- A thread that is joinable can be joined when it has returned. -/
def Joins (thread : Option Position) : Prop := thread = none ∨ thread = some .returned

instance (thread : Option Position) : Decidable (Joins thread) :=
  inferInstanceAs (Decidable (_ ∨ _))

/-- `stop()` joins the accepting thread. -/
def joinAccept (state : State) : Option State :=
  match state.caller with
  | .joiningAccept destroying =>
      if Joins state.object.acceptThread then
        some { state with
          object := { state.object with acceptThread := none }
          caller := .joiningDisconnect destroying }
      else
        none
  | _ => none

/-- `stop()` joins the disconnect worker. -/
def joinDisconnect (state : State) : Option State :=
  match state.caller with
  | .joiningDisconnect destroying =>
      if Joins state.object.disconnectThread then
        some { state with
          object := { state.object with disconnectThread := none }
          caller := .joiningCleanup destroying }
      else
        none
  | _ => none

/-- `stop()` joins the cleanup thread and returns. -/
def joinCleanup (state : State) : Option State :=
  match state.caller with
  | .joiningCleanup destroying =>
      if Joins state.object.cleanupThread then
        let joined : State := { state with object := { state.object with cleanupThread := none } }
        some (finish joined destroying)
      else
        none
  | _ => none

/-- One step. -/
def step (state : State) : Event → Option State
  | .start => start state
  | .socket descriptor => socket state descriptor
  | .bind succeeds => bind state succeeds
  | .listen succeeds => listen state succeeds
  | .stop destroying => stop state destroying
  | .close => close state
  | .joinAccept => joinAccept state
  | .joinDisconnect => joinDisconnect state
  | .joinCleanup => joinCleanup state
  | .acceptLoop threadStep =>
      state.object.acceptThread.bind fun position =>
        (state.object.acceptLoop position threadStep).map fun next =>
          { state with object := { state.object with acceptThread := some next } }
  | .disconnectWorker threadStep =>
      state.object.disconnectThread.bind fun position =>
        (state.object.disconnectWorker position threadStep).map fun next =>
          { state with object := { state.object with disconnectThread := some next } }
  | .cleanupInactiveStreams threadStep =>
      state.object.cleanupThread.bind fun position =>
        (state.object.cleanupInactiveStreams position threadStep).map fun next =>
          { state with object := { state.object with cleanupThread := some next } }

/-- The server as an event system. -/
def system : EventSystem State Event where
  init :=
    { object := {}
      caller := .idle }
  step

/-! ## What a step does -/

/-- What a step does, and when it is possible. -/
inductive Step (state : State) : Event → State → Prop
  | refused (idle : state.caller = .idle) (running : state.object.running = true) :
      Step state .start (state.enter.conclude .idle false)
  | entered (idle : state.caller = .idle) (stopped : state.object.running = false) :
      Step state .start { state.enter with caller := .opening }
  | socketFails (opening : state.caller = .opening) :
      Step state (.socket none) (state.conclude .idle false)
  | socket {fd : Int32} (opening : state.caller = .opening) (nonneg : 0 ≤ fd)
      (unused : ¬ state.descriptors.IsOpen fd) :
      Step state (.socket (some fd))
        { state with
          object := { state.object with sockFd := fd }
          caller := .binding fd
          descriptors := state.descriptors.allocate fd }
  | binds {fd : Int32} (binding : state.caller = .binding fd) :
      Step state (.bind true) { state with caller := .listening fd }
  | bindFails {fd : Int32} (binding : state.caller = .binding fd) :
      Step state (.bind false) (fail state fd)
  | listens {fd : Int32} (listening : state.caller = .listening fd) :
      Step state (.listen true) (serve state fd)
  | listenFails {fd : Int32} (listening : state.caller = .listening fd) :
      Step state (.listen false) (fail state fd)
  | stops {destroying : Bool} (idle : state.caller = .idle)
      (running : state.object.running = true) :
      Step state (.stop destroying)
        { state with
          object := { state.object with running := false }
          caller := .closing destroying }
  | rests {destroying : Bool} (idle : state.caller = .idle)
      (stopped : state.object.running = false) :
      Step state (.stop destroying) (finish state destroying)
  | closes {destroying : Bool} (closing : state.caller = .closing destroying) :
      Step state .close
        { state with
          object := { state.object with sockFd := -1 }
          caller := .joiningAccept destroying
          descriptors :=
            if state.object.sockFd ≥ 0 then state.descriptors.close state.object.sockFd
            else state.descriptors }
  | joinsAccept {destroying : Bool} (joining : state.caller = .joiningAccept destroying)
      (joins : Joins state.object.acceptThread) :
      Step state .joinAccept
        { state with
          object := { state.object with acceptThread := none }
          caller := .joiningDisconnect destroying }
  | joinsDisconnect {destroying : Bool} (joining : state.caller = .joiningDisconnect destroying)
      (joins : Joins state.object.disconnectThread) :
      Step state .joinDisconnect
        { state with
          object := { state.object with disconnectThread := none }
          caller := .joiningCleanup destroying }
  | joinsCleanup {destroying : Bool} (joining : state.caller = .joiningCleanup destroying)
      (joins : Joins state.object.cleanupThread) :
      Step state .joinCleanup
        (finish { state with object := { state.object with cleanupThread := none } } destroying)
  | acceptLoop {threadStep : ThreadStep} {position next : Position}
      (started : state.object.acceptThread = some position)
      (moved : state.object.acceptLoop position threadStep = some next) :
      Step state (.acceptLoop threadStep)
        { state with object := { state.object with acceptThread := some next } }
  | disconnectWorker {threadStep : ThreadStep} {position next : Position}
      (started : state.object.disconnectThread = some position)
      (moved : state.object.disconnectWorker position threadStep = some next) :
      Step state (.disconnectWorker threadStep)
        { state with object := { state.object with disconnectThread := some next } }
  | cleanupInactiveStreams {threadStep : ThreadStep} {position next : Position}
      (started : state.object.cleanupThread = some position)
      (moved : state.object.cleanupInactiveStreams position threadStep = some next) :
      Step state (.cleanupInactiveStreams threadStep)
        { state with object := { state.object with cleanupThread := some next } }

theorem step_of_eq_some {state next : State} {event : Event}
    (stepped : system.step state event = some next) : Step state event next := by
  cases event <;> simp only [system, step] at stepped
  case start =>
    simp only [start] at stepped
    split at stepped
    · rename_i idle
      by_cases running : state.object.running = true
      · rw [if_pos running] at stepped
        exact Option.some.inj stepped ▸ .refused idle running
      · rw [if_neg running] at stepped
        exact Option.some.inj stepped ▸ .entered idle (Bool.eq_false_iff.mpr running)
    · contradiction
  case socket descriptor =>
    simp only [socket] at stepped
    split at stepped
    · rename_i opening
      exact Option.some.inj stepped ▸ .socketFails opening
    · rename_i opening
      obtain ⟨⟨nonneg, unused⟩, ⟨⟩⟩ := Option.ite_none_right_eq_some.mp stepped
      exact .socket opening nonneg unused
    · contradiction
  case bind succeeds =>
    simp only [bind] at stepped
    split at stepped
    · rename_i binding
      cases succeeds with
      | true => exact Option.some.inj stepped ▸ .binds binding
      | false => exact Option.some.inj stepped ▸ .bindFails binding
    · contradiction
  case listen succeeds =>
    simp only [listen] at stepped
    split at stepped
    · rename_i listening
      cases succeeds with
      | true => exact Option.some.inj stepped ▸ .listens listening
      | false => exact Option.some.inj stepped ▸ .listenFails listening
    · contradiction
  case stop destroying =>
    simp only [stop] at stepped
    split at stepped
    · rename_i idle
      by_cases running : state.object.running = true
      · rw [if_pos running] at stepped
        exact Option.some.inj stepped ▸ .stops idle running
      · rw [if_neg running] at stepped
        exact Option.some.inj stepped ▸ .rests idle (Bool.eq_false_iff.mpr running)
    · contradiction
  case close =>
    simp only [close] at stepped
    split at stepped
    · rename_i closing
      exact Option.some.inj stepped ▸ .closes closing
    · contradiction
  case joinAccept =>
    simp only [joinAccept] at stepped
    split at stepped
    · rename_i joining
      obtain ⟨joins, ⟨⟩⟩ := Option.ite_none_right_eq_some.mp stepped
      exact .joinsAccept joining joins
    · contradiction
  case joinDisconnect =>
    simp only [joinDisconnect] at stepped
    split at stepped
    · rename_i joining
      obtain ⟨joins, ⟨⟩⟩ := Option.ite_none_right_eq_some.mp stepped
      exact .joinsDisconnect joining joins
    · contradiction
  case joinCleanup =>
    simp only [joinCleanup] at stepped
    split at stepped
    · rename_i joining
      obtain ⟨joins, ⟨⟩⟩ := Option.ite_none_right_eq_some.mp stepped
      exact .joinsCleanup joining joins
    · contradiction
  case acceptLoop threadStep =>
    obtain ⟨position, started, moves⟩ := Option.bind_eq_some_iff.mp stepped
    obtain ⟨_, moved, rfl⟩ := Option.map_eq_some_iff.mp moves
    exact .acceptLoop started moved
  case disconnectWorker threadStep =>
    obtain ⟨position, started, moves⟩ := Option.bind_eq_some_iff.mp stepped
    obtain ⟨_, moved, rfl⟩ := Option.map_eq_some_iff.mp moves
    exact .disconnectWorker started moved
  case cleanupInactiveStreams threadStep =>
    obtain ⟨position, started, moves⟩ := Option.bind_eq_some_iff.mp stepped
    obtain ⟨_, moved, rfl⟩ := Option.map_eq_some_iff.mp moves
    exact .cleanupInactiveStreams started moved

/-! ## The states between and within the calls -/

/-- The server is as constructed. -/
structure AtRest (state : State) : Prop where
  object_eq : state.object = {}
  accounted : state.descriptors.Accounted none

/-- The server serves on the socket of the last successful `start()`. -/
structure Serving (state : State) : Prop where
  base_eq : state.object.base = {}
  fd_nonneg : 0 ≤ state.object.sockFd
  running : state.object.running = true
  accounted : state.descriptors.Accounted (some state.object.sockFd)
  opened_eq : state.opened = some state.object.sockFd

/-- `start()` has stored a descriptor in a server as constructed. -/
structure Opening (state : State) (fd : Int32) : Prop where
  object_eq : state.object = { sockFd := fd }
  entered_eq : state.entered = {}
  fd_nonneg : 0 ≤ fd
  accounted : state.descriptors.Accounted (some fd)

/-- `stop()` has cleared the flag. -/
structure Closing (state : State) : Prop where
  base_eq : state.object.base = {}
  fd_nonneg : 0 ≤ state.object.sockFd
  stopped : state.object.running = false
  accounted : state.descriptors.Accounted (some state.object.sockFd)

/-- `stop()` has closed the socket. -/
structure Joining (state : State) : Prop where
  base_eq : state.object.base = {}
  fd_eq : state.object.sockFd = -1
  stopped : state.object.running = false
  accounted : state.descriptors.Accounted none

/-- The state for each place where the calling thread may stand. -/
def Consistent (state : State) : Prop :=
  match state.caller with
  | .idle => AtRest state ∨ Serving state
  | .opening => AtRest state ∧ state.entered = {}
  | .binding fd | .listening fd => Opening state fd
  | .closing _ => Closing state
  | .joiningAccept _ => Joining state
  | .joiningDisconnect _ => Joining state ∧ state.object.acceptThread = none
  | .joiningCleanup _ =>
      Joining state ∧ state.object.acceptThread = none ∧ state.object.disconnectThread = none
  | .destroyed => AtRest state

/-- The invariant. -/
structure Sound (state : State) : Prop where
  consistent : Consistent state
  unchanged : FailedUnchanged state.returns
  not_terminated : state.terminated = false

section

variable {state next : State}

theorem Sound.idle (sound : Sound state) (idle : state.caller = .idle) :
    AtRest state ∨ Serving state := by
  have consistent := sound.consistent
  rwa [Consistent, idle] at consistent

theorem AtRest.stopped (rest : AtRest state) : state.object.running = false := by
  rw [rest.object_eq]

theorem AtRest.joinable_eq (rest : AtRest state) : state.object.joinable = false := by
  rw [rest.object_eq]
  rfl

/-- A server that is idle and not running is as constructed. -/
theorem Sound.atRest (sound : Sound state) (idle : state.caller = .idle)
    (stopped : state.object.running = false) : AtRest state := by
  rcases sound.idle idle with rest | serving
  · exact rest
  · rw [serving.running] at stopped
    contradiction

theorem Sound.serving (sound : Sound state) (idle : state.caller = .idle)
    (running : state.object.running = true) : Serving state := by
  rcases sound.idle idle with rest | serving
  · rw [rest.stopped] at running
    contradiction
  · exact serving

/-- A call that fails after `socket` closes the socket and restores the server. -/
theorem Sound.fail (sound : Sound state) {fd : Int32} (opening : Opening state fd) :
    Sound (fail state fd) where
  consistent := by
    refine Or.inl ⟨?_, opening.accounted.close⟩
    simp only [Listening.fail, Usage.conclude, opening.object_eq]
  unchanged := by
    apply sound.unchanged.concat
    intro _
    simp only [opening.object_eq, opening.entered_eq]
  not_terminated := sound.not_terminated

theorem Sound.serve (sound : Sound state) {fd : Int32} (opening : Opening state fd) :
    Sound (serve state fd) where
  consistent := by
    right
    constructor
    all_goals simp only [Listening.serve, Usage.conclude, opening.object_eq]
    · exact opening.fd_nonneg
    · exact opening.accounted
  unchanged := sound.unchanged.concat fun failed => by contradiction
  not_terminated := by
    simp only [Listening.serve, Usage.conclude, sound.not_terminated, opening.object_eq]
    rfl

theorem AtRest.finish (rest : AtRest state) (unchanged : FailedUnchanged state.returns)
    (not_terminated : state.terminated = false) (destroying : Bool) :
    Sound (finish state destroying) := by
  cases destroying with
  | false => exact ⟨Or.inl ⟨rest.object_eq, rest.accounted⟩, unchanged, not_terminated⟩
  | true =>
      refine ⟨⟨rest.object_eq, ?_⟩, unchanged, ?_⟩
      · simp only [Listening.finish, rest.object_eq]
        exact rest.accounted
      · simp only [Listening.finish, ↓reduceIte, not_terminated, rest.joinable_eq, Bool.or_self]

/-- When all threads are joined the server is as constructed. -/
theorem Joining.atRest (joining : Joining state)
    (accept_joined : state.object.acceptThread = none)
    (disconnect_joined : state.object.disconnectThread = none) :
    AtRest { state with object := { state.object with cleanupThread := none } } where
  object_eq := TcpServer.ext joining.base_eq joining.fd_eq joining.stopped accept_joined
    disconnect_joined rfl
  accounted := joining.accounted

/-- The server with its threads elsewhere. -/
def withThreads (state : State) (acceptThread disconnectThread cleanupThread : Option Position) :
    State :=
  { state with object := { state.object with acceptThread, disconnectThread, cleanupThread } }

section

variable {acceptThread disconnectThread cleanupThread : Option Position}

@[simp]
theorem withThreads_caller :
    (withThreads state acceptThread disconnectThread cleanupThread).caller = state.caller := rfl

theorem Consistent.withThreads (consistent : Consistent state)
    (accept_iff : acceptThread = none ↔ state.object.acceptThread = none)
    (disconnect_iff : disconnectThread = none ↔ state.object.disconnectThread = none)
    (cleanup_iff : cleanupThread = none ↔ state.object.cleanupThread = none) :
    Consistent (withThreads state acceptThread disconnectThread cleanupThread) := by
  have object_eq_of {fd : Int32} (object_eq : state.object = { sockFd := fd }) :
      (Listening.withThreads state acceptThread disconnectThread cleanupThread).object =
        { sockFd := fd } := by
    rw [object_eq] at accept_iff disconnect_iff cleanup_iff
    simp only [Listening.withThreads, object_eq, accept_iff.mpr rfl, disconnect_iff.mpr rfl,
      cleanup_iff.mpr rfl]
  have rest_of (rest : AtRest state) :
      AtRest (Listening.withThreads state acceptThread disconnectThread cleanupThread) :=
    ⟨object_eq_of rest.object_eq, rest.accounted⟩
  have joining_of (joining : Joining state) :
      Joining (Listening.withThreads state acceptThread disconnectThread cleanupThread) :=
    ⟨joining.base_eq, joining.fd_eq, joining.stopped, joining.accounted⟩
  cases stands : state.caller <;>
    simp only [Consistent, withThreads_caller, stands] at consistent ⊢
  case idle =>
    rcases consistent with rest | serving
    · exact Or.inl (rest_of rest)
    · exact Or.inr ⟨serving.base_eq, serving.fd_nonneg, serving.running, serving.accounted,
        serving.opened_eq⟩
  case opening => exact ⟨rest_of consistent.1, consistent.2⟩
  case binding fd | listening fd =>
    exact ⟨object_eq_of consistent.object_eq, consistent.entered_eq, consistent.fd_nonneg,
      consistent.accounted⟩
  case closing destroying =>
    exact ⟨consistent.base_eq, consistent.fd_nonneg, consistent.stopped, consistent.accounted⟩
  case joiningAccept destroying => exact joining_of consistent
  case joiningDisconnect destroying => exact ⟨joining_of consistent.1, accept_iff.mpr consistent.2⟩
  case joiningCleanup destroying =>
    obtain ⟨joining, accept_joined, disconnect_joined⟩ := consistent
    exact ⟨joining_of joining, accept_iff.mpr accept_joined, disconnect_iff.mpr disconnect_joined⟩
  case destroyed => exact rest_of consistent

theorem Sound.withThreads (sound : Sound state)
    (accept_iff : acceptThread = none ↔ state.object.acceptThread = none)
    (disconnect_iff : disconnectThread = none ↔ state.object.disconnectThread = none)
    (cleanup_iff : cleanupThread = none ↔ state.object.cleanupThread = none) :
    Sound (withThreads state acceptThread disconnectThread cleanupThread) :=
  ⟨sound.consistent.withThreads accept_iff disconnect_iff cleanup_iff, sound.unchanged,
    sound.not_terminated⟩

end

/-- Every step keeps the invariant. -/
theorem Sound.step {event : Event} (sound : Sound state) (stepped : Step state event next) :
    Sound next := by
  have consistent := sound.consistent
  cases stepped with
  | refused idle running =>
      have serving := sound.serving idle running
      refine ⟨Or.inr ⟨serving.base_eq, serving.fd_nonneg, running, serving.accounted,
        serving.opened_eq⟩, ?_, sound.not_terminated⟩
      exact sound.unchanged.concat fun _ => rfl
  | entered idle stopped =>
      have rest := sound.atRest idle stopped
      exact ⟨⟨⟨rest.object_eq, rest.accounted⟩, rest.object_eq⟩, sound.unchanged,
        sound.not_terminated⟩
  | socketFails opening =>
      simp only [Consistent, opening] at consistent
      obtain ⟨rest, entered_eq⟩ := consistent
      refine ⟨Or.inl ⟨rest.object_eq, rest.accounted⟩, ?_, sound.not_terminated⟩
      exact sound.unchanged.concat fun _ => rest.object_eq.trans entered_eq.symm
  | socket opening nonneg unused =>
      simp only [Consistent, opening] at consistent
      obtain ⟨rest, entered_eq⟩ := consistent
      refine ⟨⟨?_, entered_eq, nonneg, rest.accounted.allocate⟩, sound.unchanged,
        sound.not_terminated⟩
      rw [rest.object_eq]
  | binds binding =>
      simp only [Consistent, binding] at consistent
      exact ⟨⟨consistent.object_eq, consistent.entered_eq, consistent.fd_nonneg,
        consistent.accounted⟩, sound.unchanged, sound.not_terminated⟩
  | bindFails binding =>
      simp only [Consistent, binding] at consistent
      exact sound.fail consistent
  | listens listening =>
      simp only [Consistent, listening] at consistent
      exact sound.serve consistent
  | listenFails listening =>
      simp only [Consistent, listening] at consistent
      exact sound.fail consistent
  | stops idle running =>
      have serving := sound.serving idle running
      exact ⟨⟨serving.base_eq, serving.fd_nonneg, rfl, serving.accounted⟩, sound.unchanged,
        sound.not_terminated⟩
  | rests idle stopped =>
      exact (sound.atRest idle stopped).finish sound.unchanged sound.not_terminated _
  | closes closing =>
      simp only [Consistent, closing] at consistent
      refine ⟨⟨consistent.base_eq, rfl, consistent.stopped, ?_⟩, sound.unchanged,
        sound.not_terminated⟩
      simp only [ge_iff_le, consistent.fd_nonneg, ↓reduceIte]
      exact consistent.accounted.close
  | joinsAccept joining joins =>
      simp only [Consistent, joining] at consistent
      exact ⟨⟨⟨consistent.base_eq, consistent.fd_eq, consistent.stopped, consistent.accounted⟩,
        rfl⟩, sound.unchanged, sound.not_terminated⟩
  | joinsDisconnect joining joins =>
      simp only [Consistent, joining] at consistent
      obtain ⟨joined, accept_joined⟩ := consistent
      exact ⟨⟨⟨joined.base_eq, joined.fd_eq, joined.stopped, joined.accounted⟩, accept_joined,
        rfl⟩, sound.unchanged, sound.not_terminated⟩
  | joinsCleanup joining joins =>
      simp only [Consistent, joining] at consistent
      obtain ⟨joined, accept_joined, disconnect_joined⟩ := consistent
      exact (joined.atRest accept_joined disconnect_joined).finish sound.unchanged
        sound.not_terminated _
  | acceptLoop started moved => exact sound.withThreads (by simp [started]) Iff.rfl Iff.rfl
  | disconnectWorker started moved => exact sound.withThreads Iff.rfl (by simp [started]) Iff.rfl
  | cleanupInactiveStreams started moved =>
      exact sound.withThreads Iff.rfl Iff.rfl (by simp [started])

theorem sound_init : Sound system.init where
  consistent := Or.inl ⟨rfl, DescriptorTable.accounted_empty⟩
  unchanged _ member := absurd member List.not_mem_nil
  not_terminated := rfl

theorem sound {trace : List Event} {state : State} (reached : system.Reaches trace state) :
    Sound state :=
  reached.invariant (motive := fun _ state => Sound state) sound_init
    fun _ before stepped => before.step (step_of_eq_some stepped)

/-- The server runs between the calls only. -/
theorem Sound.idle_of_running (sound : Sound state) (running : state.object.running = true) :
    state.caller = .idle := by
  have consistent := sound.consistent
  cases stands : state.caller <;> simp only [Consistent, stands] at consistent
  case idle => rfl
  case opening =>
    rw [consistent.1.stopped] at running
    contradiction
  case binding fd | listening fd =>
    rw [consistent.object_eq] at running
    contradiction
  case closing destroying | joiningAccept destroying | destroyed =>
    rw [consistent.stopped] at running
    contradiction
  case joiningDisconnect destroying | joiningCleanup destroying =>
    rw [consistent.1.stopped] at running
    contradiction

/-- No call of the server is in progress. -/
def Resting (caller : Caller) : Prop := caller = .idle ∨ caller = .destroyed

/-- The destructor leaves the object at rest. -/
theorem Sound.atRest_of_destroyed (sound : Sound state) (destroyed : state.caller = .destroyed) :
    AtRest state := by
  have consistent := sound.consistent
  rwa [Consistent, destroyed] at consistent

/-- Between the calls every descriptor is closed exactly once or stored. -/
theorem Sound.accounted (sound : Sound state) (resting : Resting state.caller) :
    state.descriptors.Accounted state.object.stored := by
  have of_rest (rest : AtRest state) : state.descriptors.Accounted state.object.stored := by
    rw [rest.object_eq]
    exact rest.accounted
  rcases resting with idle | destroyed
  · rcases sound.idle idle with rest | serving
    · exact of_rest rest
    · rw [TcpServer.stored, if_pos serving.fd_nonneg]
      exact serving.accounted
  · exact of_rest (sound.atRest_of_destroyed destroyed)

theorem leavesNoTrace {trace : List Event} {state : State}
    (reached : system.Reaches trace state) :
    state.LeavesNoTrace TcpServer.stored TcpServer.running Resting .destroyed where
  failed_unchanged := (sound reached).unchanged
  accounted := (sound reached).accounted
  all_closed destroyed := ((sound reached).atRest_of_destroyed destroyed).accounted.all_closed
  running_opened running := by
    have idle := (sound reached).idle_of_running running
    have serving := (sound reached).serving idle running
    exact ⟨state.object.sockFd, if_pos serving.fd_nonneg, serving.opened_eq⟩
  not_terminated := (sound reached).not_terminated

end

end FramedTcp.Listening
