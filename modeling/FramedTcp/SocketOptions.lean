import FramedTcp.ListeningSocket

/-!
# Socket options

The option operations are inherited from `TcpConnection` and read the descriptor of the base class.
`start()` and `stop()` change the members of the same names that `TcpServer` declares itself.
-/

namespace FramedTcp.Listening

open EventSystems

/-- System calls about options. -/
inductive Request
  | setsockopt (fd level optname : Int32) (optval : List UInt8)
  | getsockopt (fd level optname : Int32) (optlen : ℕ)
  deriving DecidableEq

/-- The descriptor of a system call. -/
def Request.fd : Request → Int32
  | .setsockopt fd _ _ _ => fd
  | .getsockopt fd _ _ _ => fd

/-- The operating system, and how it stores an `int`. -/
structure Sockets where
  /-- What `setsockopt` returns. -/
  setsockopt : Int32 → Int32 → Int32 → List UInt8 → Int32
  /-- What `getsockopt` returns, and what it writes to `optval`. -/
  getsockopt : Int32 → Int32 → Int32 → ℕ → Int32 × List UInt8
  /-- The bytes of an `int`. -/
  toBytes : Int32 → List UInt8
  /-- The `int` with the given bytes. -/
  ofBytes : List UInt8 → Int32

/-- What an operation asks the operating system, and its result. -/
structure Outcome (α : Type) where
  requests : List Request
  result : α

/-- `SOL_SOCKET`. -/
def solSocket : Int32 := 1

/-- `SO_SNDBUF`. -/
def soSndbuf : Int32 := 7

/-- `SO_RCVBUF`. -/
def soRcvbuf : Int32 := 8

namespace TcpConnection

variable (sockets : Sockets) (connection : TcpConnection)

/-- `setSockOpt`. -/
def setSockOpt (level optname : Int32) (optval : List UInt8) : Outcome Bool :=
  if connection.sockFd < 0 then
    { requests := []
      result := false }
  else
    { requests := [.setsockopt connection.sockFd level optname optval]
      result := sockets.setsockopt connection.sockFd level optname optval = 0 }

/-- `getSockOpt`: the bytes of the option if it returns `true`. -/
def getSockOpt (level optname : Int32) (optlen : ℕ) : Outcome (Option (List UInt8)) :=
  if connection.sockFd < 0 then
    { requests := []
      result := none }
  else
    let answer := sockets.getsockopt connection.sockFd level optname optlen
    { requests := [.getsockopt connection.sockFd level optname optlen]
      result := if answer.1 = 0 then some answer.2 else none }

/-- `setSendBufferSize`. -/
def setSendBufferSize (size : Int32) : Outcome Bool :=
  connection.setSockOpt sockets solSocket soSndbuf (sockets.toBytes size)

/-- `setRecvBufferSize`. -/
def setRecvBufferSize (size : Int32) : Outcome Bool :=
  connection.setSockOpt sockets solSocket soRcvbuf (sockets.toBytes size)

/-- The size in an option, or -1. -/
def getBufferSize (optname : Int32) : Outcome Int32 :=
  let answer := connection.getSockOpt sockets solSocket optname 4
  { requests := answer.requests
    result :=
      match answer.result with
      | some size => sockets.ofBytes size
      | none => -1 }

/-- `getSendBufferSize`. -/
def getSendBufferSize : Outcome Int32 := connection.getBufferSize sockets soSndbuf

/-- `getRecvBufferSize`. -/
def getRecvBufferSize : Outcome Int32 := connection.getBufferSize sockets soRcvbuf

end TcpConnection

/-- The option operations. -/
inductive Operation
  | setSockOpt (level optname : Int32) (optval : List UInt8)
  | getSockOpt (level optname : Int32) (optlen : ℕ)
  | setSendBufferSize (size : Int32)
  | setRecvBufferSize (size : Int32)
  | getSendBufferSize
  | getRecvBufferSize

/-- What an operation asks the operating system. -/
def Operation.requests (sockets : Sockets) (connection : TcpConnection) :
    Operation → List Request
  | .setSockOpt level optname optval =>
      (connection.setSockOpt sockets level optname optval).requests
  | .getSockOpt level optname optlen =>
      (connection.getSockOpt sockets level optname optlen).requests
  | .setSendBufferSize size => (connection.setSendBufferSize sockets size).requests
  | .setRecvBufferSize size => (connection.setRecvBufferSize sockets size).requests
  | .getSendBufferSize => (connection.getSendBufferSize sockets).requests
  | .getRecvBufferSize => (connection.getRecvBufferSize sockets).requests

/-- An operation on an open descriptor is one system call about it. -/
theorem Operation.exists_request {connection : TcpConnection} (nonneg : 0 ≤ connection.sockFd)
    (sockets : Sockets) (operation : Operation) :
    ∃ request, operation.requests sockets connection = [request] ∧
      request.fd = connection.sockFd := by
  have opened : ¬ connection.sockFd < 0 := Int32.not_lt.mpr nonneg
  cases operation <;>
    simp [Operation.requests, TcpConnection.setSockOpt, TcpConnection.getSockOpt,
      TcpConnection.setSendBufferSize, TcpConnection.setRecvBufferSize,
      TcpConnection.getSendBufferSize, TcpConnection.getRecvBufferSize,
      TcpConnection.getBufferSize, opened, Request.fd]

/-- The members of the base class are those that `start()` and `stop()` maintain; while the server
runs, every option operation is a system call about the listening socket. -/
structure InStep (server : TcpServer) : Prop where
  sockFd_eq : server.base.sockFd = server.sockFd
  running_eq : server.base.running = server.running
  reaches : server.running = true → ∀ sockets operation,
    ∃ request, Operation.requests sockets server.base operation = [request] ∧
      request.fd = server.sockFd

/-- With equal members the operations reach the socket of a running server. -/
theorem inStep_of_eq {server : TcpServer} (sockFd_eq : server.base.sockFd = server.sockFd)
    (running_eq : server.base.running = server.running)
    (nonneg : server.running = true → 0 ≤ server.sockFd) : InStep server where
  sockFd_eq := sockFd_eq
  running_eq := running_eq
  reaches running sockets operation := by
    rw [← sockFd_eq]
    apply Operation.exists_request
    rw [sockFd_eq]
    exact nonneg running

/-- Between the calls, the base class follows the server exactly while it does not run. -/
theorem inStep_iff {state : State} (sound : Sound state) (idle : state.caller = .idle) :
    InStep state.object ↔ state.object.running = false := by
  constructor
  · intro inStep
    by_contra running
    have serving := sound.serving idle (Bool.eq_true_of_not_eq_false running)
    have same := inStep.running_eq
    rw [serving.base_eq, serving.running] at same
    contradiction
  · intro stopped
    have rest := sound.atRest idle stopped
    rw [rest.object_eq]
    exact inStep_of_eq rfl rfl fun running => by contradiction

/-- Only a successful `listen` sets the flag. -/
theorem Step.running_of {state next : State} {event : Event} (stepped : Step state event next)
    (running : next.object.running = true) :
    state.object.running = true ∨ event = .listen true := by
  cases stepped with
  | listens listening => exact Or.inr rfl
  | stops idle was_running => exact Or.inl was_running
  | rests idle stopped =>
      unfold finish at running
      split at running <;> exact Or.inl running
  | joinsCleanup joining joins =>
      unfold finish at running
      split at running <;> exact Or.inl running
  | _ => exact Or.inl running

/-- In every run the base class follows the server between all calls exactly if no `start()`
succeeds. -/
theorem options_follow_iff (trace : List Event) :
    system.Along (fun state => state.caller = .idle → InStep state.object) trace ↔
      system.EachStep (fun _ event => event ≠ .listen true) trace := by
  apply EventSystem.along_iff_eachStep
  · exact fun idle => (inStep_iff sound_init idle).mpr rfl
  · intro trace state event next reached before stepped
    have moved := step_of_eq_some stepped
    have next_sound := (sound reached).step moved
    constructor
    · rintro follows rfl
      obtain ⟨idle, running⟩ : next.caller = .idle ∧ next.object.running = true := by
        cases moved with
        | listens listening => exact ⟨rfl, rfl⟩
      rw [(inStep_iff next_sound idle).mp (follows idle)] at running
      contradiction
    · intro unsuccessful idle
      rw [inStep_iff next_sound idle]
      by_contra running
      rcases moved.running_of (Bool.eq_true_of_not_eq_false running) with was_running | succeeded
      · have was_idle := (sound reached).idle_of_running was_running
        rw [(inStep_iff (sound reached) was_idle).mp (before was_idle)] at was_running
        contradiction
      · exact unsuccessful succeeded

/-- The server listens on descriptor 3; `setSendBufferSize` does nothing and returns `false`. -/
theorem options_miss_listener :
    ∃ state, system.Reaches [.start, .socket (some 3), .bind true, .listen true] state ∧
      state.caller = .idle ∧ state.object.running = true ∧ state.object.sockFd = 3 ∧
      ¬ InStep state.object ∧
      ∀ sockets, state.object.base.setSendBufferSize sockets 65536 =
        { requests := []
          result := false } := by
  refine ⟨_, rfl, rfl, rfl, rfl, fun inStep => ?_, fun sockets => rfl⟩
  exact absurd inStep.running_eq (by decide)

end FramedTcp.Listening
