import FramedTcp.ListeningSocket

/-!
# The client's socket

`TcpClient::connect` and `TcpClient::disconnect` as one thread calls them; every system call is free
to fail.  With the server of `ListeningSocket` these are the calls that open and close sockets.
-/

namespace FramedTcp.Connecting

open Descriptors EventSystems

/-- Where the read thread stands. -/
inductive ReadLoop
  | testing
  | receiving
  | returned
  deriving DecidableEq

/-- Steps of the read thread; with `again`, bytes were received or `recv` was interrupted. -/
inductive ReadStep
  | test
  | recv (again : Bool)
  deriving DecidableEq

/-- The client between requests; a thread that is not joinable is `none`. -/
@[ext]
structure TcpClient where
  socket : Int32 := -1
  running : Bool := false
  readThread : Option ReadLoop := none
  deriving DecidableEq

namespace TcpClient

/-- The descriptor stored. -/
def stored (client : TcpClient) : Option Int32 :=
  if 0 ≤ client.socket then some client.socket else none

/-- `handleRead`; no response is awaited, so the frames received have no effect. -/
def handleRead (client : TcpClient) : ReadLoop → ReadStep → Option ReadLoop
  | .testing, .test => some (if client.running then .receiving else .returned)
  | .receiving, .recv again => some (if again then .testing else .returned)
  | _, _ => none

end TcpClient

/-- Where the calling thread stands; the destructor calls `disconnect()` too. -/
inductive Caller
  | idle
  | opening
  | converting
  | connecting
  | closing (destroying : Bool)
  | joining (destroying : Bool)
  | destroyed
  deriving DecidableEq

/-- Calls, system calls with their outcomes, and steps of the read thread. -/
inductive Event
  | connect
  | socket (descriptor : Option Int32)
  | inetPton (succeeds : Bool)
  | connected (succeeds : Bool)
  | disconnect (destroying : Bool)
  | close
  | join
  | handleRead (step : ReadStep)
  deriving DecidableEq

/-- A client in use. -/
abbrev State : Type := Usage TcpClient Caller Int32

/-- A call of `connect()`, up to the system call `socket`. -/
def connect (state : State) : Option State :=
  match state.caller with
  | .idle =>
      if state.object.socket ≥ 0 then
        some (state.enter.conclude .idle false)
      else
        some { state.enter with caller := .opening }
  | _ => none

/-- `socket` returns a descriptor that is not in use, or fails; its result is stored. -/
def socket (state : State) (descriptor : Option Int32) : Option State :=
  match state.caller, descriptor with
  | .opening, none =>
      let stored : State := { state with object := { state.object with socket := -1 } }
      some (stored.conclude .idle false)
  | .opening, some fd =>
      if 0 ≤ fd ∧ ¬ state.descriptors.IsOpen fd then
        some { state with
          object := { state.object with socket := fd }
          caller := .converting
          descriptors := state.descriptors.allocate fd }
      else
        none
  | _, _ => none

/-- Close the socket and return `false`. -/
def fail (state : State) : State :=
  let closed : State :=
    { state with
      object := { state.object with socket := -1 }
      descriptors := state.descriptors.close state.object.socket }
  closed.conclude .idle false

/-- `inet_pton`. -/
def inetPton (state : State) (succeeds : Bool) : Option State :=
  match state.caller with
  | .converting => some (if succeeds then { state with caller := .connecting } else fail state)
  | _ => none

/-- Set the flag, create the read thread and return `true`; to assign to a joinable thread
terminates the process. -/
def serve (state : State) : State :=
  let running : State :=
    { state with
      object := { state.object with
        running := true
        readThread := some .testing }
      opened := some state.object.socket
      terminated := state.terminated || state.object.readThread.isSome }
  running.conclude .idle true

/-- The system call `connect`. -/
def connected (state : State) (succeeds : Bool) : Option State :=
  match state.caller with
  | .connecting => some (if succeeds then serve state else fail state)
  | _ => none

/-- A call of `disconnect()`: clear the flag. -/
def disconnect (state : State) (destroying : Bool) : Option State :=
  match state.caller with
  | .idle =>
      some { state with
        object := { state.object with running := false }
        caller := .closing destroying }
  | _ => none

/-- `disconnect()` closes the socket if there is one. -/
def close (state : State) : Option State :=
  match state.caller with
  | .closing destroying =>
      if state.object.socket ≥ 0 then
        some { state with
          object := { state.object with socket := -1 }
          caller := .joining destroying
          descriptors := state.descriptors.close state.object.socket }
      else
        some { state with caller := .joining destroying }
  | _ => none

/-- `disconnect()` returns; its caller may be the destructor, which then destroys the members. -/
def finish (state : State) (destroying : Bool) : State :=
  if destroying then
    { state with
      caller := .destroyed
      terminated := state.terminated || state.object.readThread.isSome }
  else
    { state with caller := .idle }

/-- `disconnect()` joins the read thread, if it is joinable, when it has returned. -/
def join (state : State) : Option State :=
  match state.caller with
  | .joining destroying =>
      if state.object.readThread = none ∨ state.object.readThread = some .returned then
        let joined : State := { state with object := { state.object with readThread := none } }
        some (finish joined destroying)
      else
        none
  | _ => none

/-- One step. -/
def step (state : State) : Event → Option State
  | .connect => connect state
  | .socket descriptor => socket state descriptor
  | .inetPton succeeds => inetPton state succeeds
  | .connected succeeds => connected state succeeds
  | .disconnect destroying => disconnect state destroying
  | .close => close state
  | .join => join state
  | .handleRead readStep =>
      state.object.readThread.bind fun position =>
        (state.object.handleRead position readStep).map fun next =>
          { state with object := { state.object with readThread := some next } }

/-- The client as an event system. -/
def system : EventSystem State Event where
  init :=
    { object := {}
      caller := .idle }
  step

/-! ## What a step does -/

/-- What a step does, and when it is possible. -/
inductive Step (state : State) : Event → State → Prop
  | refused (idle : state.caller = .idle) (stored : 0 ≤ state.object.socket) :
      Step state .connect (state.enter.conclude .idle false)
  | entered (idle : state.caller = .idle) (unstored : ¬ 0 ≤ state.object.socket) :
      Step state .connect { state.enter with caller := .opening }
  | socketFails (opening : state.caller = .opening) :
      Step state (.socket none)
        (Usage.conclude { state with object := { state.object with socket := -1 } } .idle false)
  | socket {fd : Int32} (opening : state.caller = .opening) (nonneg : 0 ≤ fd)
      (unused : ¬ state.descriptors.IsOpen fd) :
      Step state (.socket (some fd))
        { state with
          object := { state.object with socket := fd }
          caller := .converting
          descriptors := state.descriptors.allocate fd }
  | converts (converting : state.caller = .converting) :
      Step state (.inetPton true) { state with caller := .connecting }
  | conversionFails (converting : state.caller = .converting) :
      Step state (.inetPton false) (fail state)
  | connects (connecting : state.caller = .connecting) :
      Step state (.connected true) (serve state)
  | connectFails (connecting : state.caller = .connecting) :
      Step state (.connected false) (fail state)
  | disconnects {destroying : Bool} (idle : state.caller = .idle) :
      Step state (.disconnect destroying)
        { state with
          object := { state.object with running := false }
          caller := .closing destroying }
  | closes {destroying : Bool} (closing : state.caller = .closing destroying)
      (stored : 0 ≤ state.object.socket) :
      Step state .close
        { state with
          object := { state.object with socket := -1 }
          caller := .joining destroying
          descriptors := state.descriptors.close state.object.socket }
  | closesNothing {destroying : Bool} (closing : state.caller = .closing destroying)
      (unstored : ¬ 0 ≤ state.object.socket) :
      Step state .close { state with caller := .joining destroying }
  | joins {destroying : Bool} (joining : state.caller = .joining destroying)
      (joinable : state.object.readThread = none ∨ state.object.readThread = some .returned) :
      Step state .join
        (finish { state with object := { state.object with readThread := none } } destroying)
  | handleRead {readStep : ReadStep} {position next : ReadLoop}
      (started : state.object.readThread = some position)
      (moved : state.object.handleRead position readStep = some next) :
      Step state (.handleRead readStep)
        { state with object := { state.object with readThread := some next } }

theorem step_of_eq_some {state next : State} {event : Event}
    (stepped : system.step state event = some next) : Step state event next := by
  cases event <;> simp only [system, step] at stepped
  case connect =>
    simp only [connect] at stepped
    split at stepped
    · rename_i idle
      by_cases stored : 0 ≤ state.object.socket
      · rw [if_pos stored] at stepped
        exact Option.some.inj stepped ▸ .refused idle stored
      · rw [if_neg stored] at stepped
        exact Option.some.inj stepped ▸ .entered idle stored
    · contradiction
  case socket descriptor =>
    simp only [socket] at stepped
    split at stepped
    · rename_i opening
      exact Option.some.inj stepped ▸ .socketFails opening
    · rename_i opening
      obtain ⟨⟨nonneg, unused⟩, ⟨⟩⟩ := Option.ite_none_right_eq_some.mp stepped
      exact .socket opening nonneg unused
    · contradiction
  case inetPton succeeds =>
    simp only [inetPton] at stepped
    split at stepped
    · rename_i converting
      cases succeeds with
      | true => exact Option.some.inj stepped ▸ .converts converting
      | false => exact Option.some.inj stepped ▸ .conversionFails converting
    · contradiction
  case connected succeeds =>
    simp only [connected] at stepped
    split at stepped
    · rename_i connecting
      cases succeeds with
      | true => exact Option.some.inj stepped ▸ .connects connecting
      | false => exact Option.some.inj stepped ▸ .connectFails connecting
    · contradiction
  case disconnect destroying =>
    simp only [disconnect] at stepped
    split at stepped
    · rename_i idle
      exact Option.some.inj stepped ▸ .disconnects idle
    · contradiction
  case close =>
    simp only [close] at stepped
    split at stepped
    · rename_i closing
      by_cases stored : 0 ≤ state.object.socket
      · rw [if_pos stored] at stepped
        exact Option.some.inj stepped ▸ .closes closing stored
      · rw [if_neg stored] at stepped
        exact Option.some.inj stepped ▸ .closesNothing closing stored
    · contradiction
  case join =>
    simp only [join] at stepped
    split at stepped
    · rename_i joining
      obtain ⟨joinable, ⟨⟩⟩ := Option.ite_none_right_eq_some.mp stepped
      exact .joins joining joinable
    · contradiction
  case handleRead readStep =>
    obtain ⟨position, started, moves⟩ := Option.bind_eq_some_iff.mp stepped
    obtain ⟨_, moved, rfl⟩ := Option.map_eq_some_iff.mp moves
    exact .handleRead started moved

/-! ## The states between and within the calls -/

/-- The client is as constructed. -/
structure AtRest (state : State) : Prop where
  object_eq : state.object = {}
  accounted : state.descriptors.Accounted none

/-- The client is connected through the socket of the last successful `connect()`. -/
structure Serving (state : State) : Prop where
  socket_nonneg : 0 ≤ state.object.socket
  running : state.object.running = true
  accounted : state.descriptors.Accounted (some state.object.socket)
  opened_eq : state.opened = some state.object.socket

/-- `connect()` has stored a descriptor in a client as constructed. -/
structure Opening (state : State) : Prop where
  socket_nonneg : 0 ≤ state.object.socket
  stopped : state.object.running = false
  thread_eq : state.object.readThread = none
  entered_eq : state.entered = {}
  accounted : state.descriptors.Accounted (some state.object.socket)

/-- `disconnect()` has closed the socket. -/
structure Joining (state : State) : Prop where
  socket_eq : state.object.socket = -1
  stopped : state.object.running = false
  accounted : state.descriptors.Accounted none

/-- The state for each place where the calling thread may stand. -/
def Consistent (state : State) : Prop :=
  match state.caller with
  | .idle => AtRest state ∨ Serving state
  | .opening => AtRest state ∧ state.entered = {}
  | .converting | .connecting => Opening state
  | .closing _ => state.object.running = false ∧
      (AtRest state ∨
        0 ≤ state.object.socket ∧ state.descriptors.Accounted (some state.object.socket))
  | .joining _ => Joining state
  | .destroyed => AtRest state

/-- The invariant. -/
structure Sound (state : State) : Prop where
  consistent : Consistent state
  unchanged : FailedUnchanged state.returns
  not_terminated : state.terminated = false

section

variable {state next : State}

theorem Sound.idle (sound : Sound state) (idle : state.caller = .idle) :
    AtRest state ∨ Serving state := by
  have consistent := sound.consistent
  rwa [Consistent, idle] at consistent

theorem AtRest.unstored (rest : AtRest state) : ¬ 0 ≤ state.object.socket := by
  rw [rest.object_eq]
  decide

theorem AtRest.stopped (rest : AtRest state) : state.object.running = false := by
  rw [rest.object_eq]

/-- A call that fails after `socket` closes the socket and restores the client. -/
theorem Sound.fail (sound : Sound state) (opening : Opening state) : Sound (fail state) := by
  have restored : (Connecting.fail state).object = {} :=
    TcpClient.ext rfl opening.stopped opening.thread_eq
  refine ⟨Or.inl ⟨restored, opening.accounted.close⟩, ?_, sound.not_terminated⟩
  exact sound.unchanged.concat fun _ => restored.trans opening.entered_eq.symm

theorem Sound.serve (sound : Sound state) (opening : Opening state) : Sound (serve state) where
  consistent := Or.inr ⟨opening.socket_nonneg, rfl, opening.accounted, rfl⟩
  unchanged := sound.unchanged.concat fun failed => by contradiction
  not_terminated := by
    simp only [Connecting.serve, Usage.conclude, sound.not_terminated, opening.thread_eq]
    rfl

/-- When the read thread is joined the client is as constructed. -/
theorem Sound.finish (sound : Sound state) (joining : Joining state) (destroying : Bool) :
    Sound
      (finish { state with object := { state.object with readThread := none } } destroying) := by
  have object_eq : ({ state.object with readThread := none } : TcpClient) = {} :=
    TcpClient.ext joining.socket_eq joining.stopped rfl
  cases destroying with
  | false => exact ⟨Or.inl ⟨object_eq, joining.accounted⟩, sound.unchanged, sound.not_terminated⟩
  | true =>
      refine ⟨⟨object_eq, joining.accounted⟩, sound.unchanged, ?_⟩
      simp only [Connecting.finish, ↓reduceIte, sound.not_terminated, Option.isSome_none,
        Bool.or_self]

/-- A step of the read thread changes where it stands only. -/
theorem Sound.handleRead (sound : Sound state) {position : ReadLoop}
    (started : state.object.readThread = some position) (moved : ReadLoop) :
    Sound { state with object := { state.object with readThread := some moved } } := by
  have not_rest (rest : AtRest state) : False := by
    rw [rest.object_eq] at started
    contradiction
  refine ⟨?_, sound.unchanged, sound.not_terminated⟩
  have consistent := sound.consistent
  cases stands : state.caller <;> simp only [Consistent, stands] at consistent ⊢
  case idle =>
    rcases consistent with rest | serving
    · exact (not_rest rest).elim
    · exact Or.inr ⟨serving.socket_nonneg, serving.running, serving.accounted, serving.opened_eq⟩
  case opening => exact (not_rest consistent.1).elim
  case converting | connecting =>
    rw [consistent.thread_eq] at started
    contradiction
  case closing destroying =>
    obtain ⟨stopped, rest | stored⟩ := consistent
    · exact (not_rest rest).elim
    · exact ⟨stopped, Or.inr stored⟩
  case joining destroying =>
    exact ⟨consistent.socket_eq, consistent.stopped, consistent.accounted⟩
  case destroyed => exact (not_rest consistent).elim

/-- Every step keeps the invariant. -/
theorem Sound.step {event : Event} (sound : Sound state) (stepped : Step state event next) :
    Sound next := by
  have consistent := sound.consistent
  cases stepped with
  | refused idle stored =>
      rcases sound.idle idle with rest | serving
      · exact absurd stored rest.unstored
      · refine ⟨Or.inr ⟨serving.socket_nonneg, serving.running, serving.accounted,
          serving.opened_eq⟩, ?_, sound.not_terminated⟩
        exact sound.unchanged.concat fun _ => rfl
  | entered idle unstored =>
      rcases sound.idle idle with rest | serving
      · exact ⟨⟨⟨rest.object_eq, rest.accounted⟩, rest.object_eq⟩, sound.unchanged,
          sound.not_terminated⟩
      · exact absurd serving.socket_nonneg unstored
  | socketFails opening =>
      simp only [Consistent, opening] at consistent
      obtain ⟨rest, entered_eq⟩ := consistent
      have object_eq : ({ state.object with socket := -1 } : TcpClient) = {} := by
        rw [rest.object_eq]
      refine ⟨Or.inl ⟨object_eq, rest.accounted⟩, ?_, sound.not_terminated⟩
      exact sound.unchanged.concat fun _ => object_eq.trans entered_eq.symm
  | socket opening nonneg unused =>
      simp only [Consistent, opening] at consistent
      obtain ⟨rest, entered_eq⟩ := consistent
      refine ⟨⟨nonneg, rest.stopped, ?_, entered_eq, rest.accounted.allocate⟩, sound.unchanged,
        sound.not_terminated⟩
      rw [rest.object_eq]
  | converts converting =>
      simp only [Consistent, converting] at consistent
      exact ⟨⟨consistent.socket_nonneg, consistent.stopped, consistent.thread_eq,
        consistent.entered_eq, consistent.accounted⟩, sound.unchanged, sound.not_terminated⟩
  | conversionFails converting =>
      simp only [Consistent, converting] at consistent
      exact sound.fail consistent
  | connects connecting =>
      simp only [Consistent, connecting] at consistent
      exact sound.serve consistent
  | connectFails connecting =>
      simp only [Consistent, connecting] at consistent
      exact sound.fail consistent
  | disconnects idle =>
      refine ⟨⟨rfl, ?_⟩, sound.unchanged, sound.not_terminated⟩
      rcases sound.idle idle with rest | serving
      · left
        refine ⟨?_, rest.accounted⟩
        rw [rest.object_eq]
      · exact Or.inr ⟨serving.socket_nonneg, serving.accounted⟩
  | closes closing stored =>
      simp only [Consistent, closing] at consistent
      obtain ⟨stopped, rest | ⟨-, accounted⟩⟩ := consistent
      · exact absurd stored rest.unstored
      · exact ⟨⟨rfl, stopped, accounted.close⟩, sound.unchanged, sound.not_terminated⟩
  | closesNothing closing unstored =>
      simp only [Consistent, closing] at consistent
      obtain ⟨stopped, rest | ⟨stored, -⟩⟩ := consistent
      · refine ⟨⟨?_, stopped, rest.accounted⟩, sound.unchanged, sound.not_terminated⟩
        rw [rest.object_eq]
      · exact absurd stored unstored
  | joins joining joinable =>
      simp only [Consistent, joining] at consistent
      exact sound.finish consistent _
  | handleRead started moved => exact sound.handleRead started _

theorem sound_init : Sound system.init where
  consistent := Or.inl ⟨rfl, DescriptorTable.accounted_empty⟩
  unchanged _ member := absurd member List.not_mem_nil
  not_terminated := rfl

theorem sound {trace : List Event} {state : State} (reached : system.Reaches trace state) :
    Sound state :=
  reached.invariant (motive := fun _ state => Sound state) sound_init
    fun _ before stepped => before.step (step_of_eq_some stepped)

/-- The client runs between the calls only. -/
theorem Sound.serving_of_running (sound : Sound state) (running : state.object.running = true) :
    Serving state := by
  have consistent := sound.consistent
  cases stands : state.caller <;> simp only [Consistent, stands] at consistent
  case idle =>
    rcases consistent with rest | serving
    · rw [rest.stopped] at running
      contradiction
    · exact serving
  case opening =>
    rw [consistent.1.stopped] at running
    contradiction
  case closing destroying =>
    rw [consistent.1] at running
    contradiction
  case converting | connecting | joining destroying | destroyed =>
    rw [consistent.stopped] at running
    contradiction

/-- No call of the client is in progress. -/
def Resting (caller : Caller) : Prop := caller = .idle ∨ caller = .destroyed

/-- The destructor leaves the object at rest. -/
theorem Sound.atRest_of_destroyed (sound : Sound state) (destroyed : state.caller = .destroyed) :
    AtRest state := by
  have consistent := sound.consistent
  rwa [Consistent, destroyed] at consistent

/-- Between the calls every descriptor is closed exactly once or stored. -/
theorem Sound.accounted (sound : Sound state) (resting : Resting state.caller) :
    state.descriptors.Accounted state.object.stored := by
  have of_rest (rest : AtRest state) : state.descriptors.Accounted state.object.stored := by
    rw [rest.object_eq]
    exact rest.accounted
  rcases resting with idle | destroyed
  · rcases sound.idle idle with rest | serving
    · exact of_rest rest
    · rw [TcpClient.stored, if_pos serving.socket_nonneg]
      exact serving.accounted
  · exact of_rest (sound.atRest_of_destroyed destroyed)

theorem leavesNoTrace {trace : List Event} {state : State}
    (reached : system.Reaches trace state) :
    state.LeavesNoTrace TcpClient.stored TcpClient.running Resting .destroyed where
  failed_unchanged := (sound reached).unchanged
  accounted := (sound reached).accounted
  all_closed destroyed := ((sound reached).atRest_of_destroyed destroyed).accounted.all_closed
  running_opened running := by
    have serving := (sound reached).serving_of_running running
    exact ⟨state.object.socket, if_pos serving.socket_nonneg, serving.opened_eq⟩
  not_terminated := (sound reached).not_terminated

end

end FramedTcp.Connecting

namespace FramedTcp

/-- Whatever the system calls of `start()`, `stop()`, `connect()` and `disconnect()` return, a call
that fails changes nothing; between the calls every descriptor is closed exactly once or stored, and
after the destructor every descriptor is closed exactly once; the flag is set only while the
descriptor of the last successful call is stored; and no joinable thread is assigned or
destroyed. -/
theorem failed_calls_leave_no_trace :
    (∀ trace state, Listening.system.Reaches trace state →
      state.LeavesNoTrace Listening.TcpServer.stored Listening.TcpServer.running
        Listening.Resting .destroyed) ∧
      ∀ trace state, Connecting.system.Reaches trace state →
        state.LeavesNoTrace Connecting.TcpClient.stored Connecting.TcpClient.running
          Connecting.Resting .destroyed :=
  ⟨fun _ _ => Listening.leavesNoTrace, fun _ _ => Connecting.leavesNoTrace⟩

end FramedTcp
