import FramedTcp.TcpClient

/-!
# The byte streams of a client

What a `TcpClient` writes is the concatenation of whole request frames, as long as no `send` fails:
the write lock keeps the pieces of one frame together.  What it reads is parsed like the byte stream
itself, and the frames found are handled in order.
-/

namespace FramedTcp
namespace TcpClient

open PrefixDecoding EventSystems FrameParser

/-! ## Writing -/

/-- The bytes that the holder of the write lock has not sent yet. -/
def unsent (enableChecksum : Bool) (client : TcpClient) : List UInt8 :=
  match client.writeMutex with
  | some number =>
      match client.calls[number]? with
      | some call => (call.request.serialize enableChecksum).drop call.totalSent
      | none => []
  | none => []

theorem unsent_of_free {enableChecksum : Bool} {client : TcpClient}
    (free : client.writeMutex = none) : client.unsent enableChecksum = [] := by
  simp [unsent, free]

theorem unsent_of_holder {enableChecksum : Bool} {client : TcpClient} {number : ℕ} {call : Call}
    (held : client.writeMutex = some number) (found : client.calls[number]? = some call) :
    client.unsent enableChecksum =
      (call.request.serialize enableChecksum).drop call.totalSent := by
  simp [unsent, held, found]

/-- The write lock is held by the call that is in `write`. -/
def LockHeld (client : TcpClient) : Prop :=
  ∀ number, client.writeMutex = some number ↔
    ∃ call : Call, client.calls[number]? = some call ∧ call.phase = .writing

namespace LockHeld

variable {client next : TcpClient}

/-- A call that neither enters nor leaves `write` leaves the lock to its holder. -/
theorem modify (lockHeld : client.LockHeld) (writeMutex_eq : next.writeMutex = client.writeMutex)
    {number : ℕ} {change : Call → Call} (calls_eq : next.calls = client.calls.modify number change)
    (writing_iff : ∀ call, client.calls[number]? = some call →
      ((change call).phase = .writing ↔ call.phase = .writing)) : next.LockHeld := by
  intro other
  rw [writeMutex_eq, lockHeld]
  constructor
  · rintro ⟨call, found, phase⟩
    refine ⟨_, calls_eq ▸ getElem?_modify_eq_some.mpr ⟨call, found, rfl⟩, ?_⟩
    split
    · rename_i same
      subst same
      exact (writing_iff call found).mpr phase
    · exact phase
  · rintro ⟨result, found, phase⟩
    rw [calls_eq, getElem?_modify_eq_some] at found
    obtain ⟨call, found, rfl⟩ := found
    refine ⟨call, found, ?_⟩
    split at phase
    · rename_i same
      subst same
      exact (writing_iff call found).mp phase
    · exact phase

/-- A step that changes neither the calls nor the lock. -/
theorem rest (lockHeld : client.LockHeld) (writeMutex_eq : next.writeMutex = client.writeMutex)
    (calls_eq : next.calls = client.calls) : next.LockHeld := by
  intro number
  rw [writeMutex_eq, calls_eq]
  exact lockHeld number

/-- A call moves on outside `write`. -/
theorem setPhase (lockHeld : client.LockHeld) (writeMutex_eq : next.writeMutex = client.writeMutex)
    {number : ℕ} {call : Call} (found : client.calls[number]? = some call)
    (old : call.phase ≠ .writing) (phase : Phase) (new : phase ≠ .writing)
    (calls_eq : next.calls = client.calls.modify number fun call => { call with phase }) :
    next.LockHeld := by
  apply lockHeld.modify writeMutex_eq calls_eq
  intro before before_found
  obtain rfl := Option.some.inj (before_found.symm.trans found)
  exact iff_of_false new old

/-- A new call is not in `write`. -/
theorem getNextStreamId (lockHeld : client.LockHeld) (payload : List UInt8) :
    (client.getNextStreamId payload).LockHeld := by
  intro number
  refine (lockHeld number).trans ⟨?_, ?_⟩
  · rintro ⟨call, found, phase⟩
    have inside := (List.getElem?_eq_some_iff.mp found).1
    refine ⟨call, ?_, phase⟩
    simp [TcpClient.getNextStreamId, List.getElem?_append_left inside, found]
  · rintro ⟨call, found, phase⟩
    simp only [TcpClient.getNextStreamId, List.getElem?_append] at found
    split at found
    · exact ⟨call, found, phase⟩
    · rw [List.getElem?_singleton, Option.ite_none_right_eq_some, Option.some.injEq] at found
      obtain ⟨-, rfl⟩ := found
      contradiction

theorem lockWrite (lockHeld : client.LockHeld) {number : ℕ} {call : Call}
    (found : client.calls[number]? = some call) (free : client.writeMutex = none) :
    ((client.setPhase number .writing).holdLock (some number)).LockHeld := by
  have lookup {other : ℕ} {result : Call} :
      ((client.setPhase number .writing).holdLock (some number)).calls[other]? = some result ↔
        ∃ call, client.calls[other]? = some call ∧
          result = if number = other then { call with phase := .writing } else call :=
    getElem?_modify_eq_some
  intro other
  constructor
  · intro held
    obtain rfl := Option.some.inj held
    exact ⟨_, lookup.mpr ⟨call, found, rfl⟩, by simp⟩
  · rintro ⟨result, result_found, phase⟩
    obtain ⟨before, before_found, rfl⟩ := lookup.mp result_found
    split at phase
    · rename_i same
      exact congrArg some same
    · have held := (lockHeld other).mpr ⟨before, before_found, phase⟩
      rw [free] at held
      contradiction

/-- The holder leaves `write`. -/
theorem release (lockHeld : client.LockHeld) {number : ℕ} {call : Call}
    (found : client.calls[number]? = some call) (writing : call.phase = .writing) (phase : Phase)
    (left : phase ≠ .writing) : ((client.setPhase number phase).holdLock none).LockHeld := by
  intro other
  refine iff_of_false nofun ?_
  rintro ⟨result, result_found, result_phase⟩
  obtain ⟨before, before_found, rfl⟩ := getElem?_modify_eq_some.mp result_found
  split at result_phase
  · exact left result_phase
  · rename_i different
    have held := (lockHeld number).mpr ⟨call, found, writing⟩
    have other_held := (lockHeld other).mpr ⟨before, before_found, result_phase⟩
    exact different (Option.some.inj (held.symm.trans other_held))

theorem handleFrame (lockHeld : client.LockHeld) (frame : Frame) :
    (client.handleFrame frame).LockHeld := by
  rcases client.handleFrame_cases frame with ⟨-, same⟩ | ⟨number, -, answered⟩ | ⟨-, thrown⟩
  · rwa [same]
  · rw [answered]
    exact lockHeld.modify rfl rfl fun _ _ => Iff.rfl
  · rw [thrown]
    exact lockHeld.rest rfl rfl

theorem step {enableChecksum : Bool} {event : Event} (lockHeld : client.LockHeld)
    (stepped : Step enableChecksum client event next) : next.LockHeld := by
  cases stepped with
  | call payload => exact lockHeld.getNextStreamId payload
  | register found phase =>
      exact lockHeld.setPhase rfl found (by simp [phase]) .registered nofun rfl
  | lockWrite found phase free => exact lockHeld.lockWrite found free
  | send => exact lockHeld.modify rfl rfl fun _ _ => Iff.rfl
  | sendInterrupted => exact lockHeld
  | sendFailed found phase => exact lockHeld.release found phase .writeFailed nofun
  | writeDone found phase => exact lockHeld.release found phase .waiting nofun
  | eraseFailed found phase =>
      exact lockHeld.setPhase rfl found (by simp [phase]) (.returned none) nofun rfl
  | timeout found phase => exact lockHeld.setPhase rfl found (by simp [phase]) .timedOut nofun rfl
  | eraseTimedOut found phase =>
      exact lockHeld.setPhase rfl found (by simp [phase]) (.returned none) nofun rfl
  | @get number call response found phase =>
      exact lockHeld.setPhase rfl found (by simp [phase]) (.returned (some response)) nofun rfl
  | recv => exact lockHeld.rest rfl rfl
  | @dispatch frame frames =>
      have shorter : LockHeld { client with frames } := lockHeld.rest rfl rfl
      exact shorter.handleFrame frame
  | stopReading => exact lockHeld.rest rfl rfl
  | disconnect => exact lockHeld.rest rfl rfl
  | clear => exact lockHeld.rest rfl rfl

end LockHeld

/-- At any time at most one call is in `write`. -/
theorem lockHeld_of_reaches {enableChecksum : Bool} {trace : List Event} {client : TcpClient}
    (reached : (system enableChecksum).Reaches trace client) : client.LockHeld := by
  refine reached.invariant (motive := fun _ client => client.LockHeld) ?_ ?_
  · exact fun _ => iff_of_false nofun nofun
  · exact fun _ lockHeld stepped => lockHeld.step (step_of_eq_some stepped)

/-- The requests in `sent` have been written, the last one perhaps in part. -/
structure Writing (enableChecksum : Bool) (sent : List Frame) (client : TcpClient) : Prop where
  transmitted_eq : client.transmitted ++ client.unsent enableChecksum =
    (sent.map (Frame.serialize enableChecksum)).flatten
  requested : ∀ frame ∈ sent, ∃ (number : ℕ) (call : Call),
    client.calls[number]? = some call ∧ call.request = frame
  unwritten : ∀ (number : ℕ) (call : Call), client.calls[number]? = some call →
    call.phase = .allocated ∨ call.phase = .registered → call.totalSent = 0
  holder : ∀ number, client.writeMutex = some number ↔
    ∃ call : Call, client.calls[number]? = some call ∧ call.phase = .writing

namespace Writing

variable {enableChecksum : Bool} {sent : List Frame} {client next : TcpClient}

/-- A request that has been written stays the request of its call. -/
theorem requested_modify (writing : Writing enableChecksum sent client) {number : ℕ}
    {change : Call → Call} (calls_eq : next.calls = client.calls.modify number change)
    (request_eq : ∀ call, (change call).request = call.request) :
    ∀ frame ∈ sent, ∃ (other : ℕ) (call : Call),
      next.calls[other]? = some call ∧ call.request = frame := by
  intro frame member
  obtain ⟨other, call, found, rfl⟩ := writing.requested frame member
  refine ⟨other, _, calls_eq ▸ getElem?_modify_eq_some.mpr ⟨call, found, rfl⟩, ?_⟩
  split
  · exact request_eq call
  · rfl

/-- A call that has not come to `write` yet has sent nothing. -/
theorem unwritten_modify (writing : Writing enableChecksum sent client) {number : ℕ}
    {change : Call → Call} (calls_eq : next.calls = client.calls.modify number change)
    (own : ∀ call, client.calls[number]? = some call →
      (change call).phase = .allocated ∨ (change call).phase = .registered →
        (change call).totalSent = 0) :
    ∀ (other : ℕ) (call : Call), next.calls[other]? = some call →
      call.phase = .allocated ∨ call.phase = .registered → call.totalSent = 0 := by
  intro other result found phase
  rw [calls_eq, getElem?_modify_eq_some] at found
  obtain ⟨call, found, rfl⟩ := found
  by_cases same : number = other
  · subst same
    rw [if_pos rfl] at phase ⊢
    exact own call found phase
  · rw [if_neg same] at phase ⊢
    exact writing.unwritten other call found phase

/-- A change of one call that does not touch the lock or what has been written. -/
theorem modify (writing : Writing enableChecksum sent client)
    (transmitted_eq : next.transmitted = client.transmitted)
    (writeMutex_eq : next.writeMutex = client.writeMutex) {number : ℕ} {change : Call → Call}
    (calls_eq : next.calls = client.calls.modify number change)
    (request_eq : ∀ call, (change call).request = call.request)
    (totalSent_eq : ∀ call, (change call).totalSent = call.totalSent)
    (writing_iff : ∀ call, client.calls[number]? = some call →
      ((change call).phase = .writing ↔ call.phase = .writing))
    (early : ∀ call, client.calls[number]? = some call →
      (change call).phase = .allocated ∨ (change call).phase = .registered →
        call.phase = .allocated ∨ call.phase = .registered) :
    Writing enableChecksum sent next := by
  have unsent_eq : next.unsent enableChecksum = client.unsent enableChecksum := by
    cases held : client.writeMutex with
    | none => rw [unsent_of_free held, unsent_of_free (writeMutex_eq.trans held)]
    | some other =>
        obtain ⟨call, found, -⟩ := (writing.holder other).mp held
        have changed : next.calls[other]? =
            some (if number = other then change call else call) :=
          calls_eq ▸ getElem?_modify_eq_some.mpr ⟨call, found, rfl⟩
        rw [unsent_of_holder held found,
          unsent_of_holder (writeMutex_eq.trans held) changed]
        split
        · rw [request_eq, totalSent_eq]
        · rfl
  refine ⟨?_, writing.requested_modify calls_eq request_eq,
    writing.unwritten_modify calls_eq fun call found phase => ?_,
    LockHeld.modify writing.holder writeMutex_eq calls_eq writing_iff⟩
  · rw [transmitted_eq, unsent_eq]
    exact writing.transmitted_eq
  · exact (totalSent_eq call).trans (writing.unwritten _ call found (early call found phase))

/-- A step that changes neither the calls nor what has been written. -/
theorem rest (writing : Writing enableChecksum sent client)
    (transmitted_eq : next.transmitted = client.transmitted)
    (writeMutex_eq : next.writeMutex = client.writeMutex) (calls_eq : next.calls = client.calls) :
    Writing enableChecksum sent next := by
  have unchanged : next.calls = client.calls.modify 0 id := by simp [calls_eq]
  exact writing.modify transmitted_eq writeMutex_eq unchanged (fun _ => rfl) (fun _ => rfl)
    (fun _ _ => Iff.rfl) fun _ _ => id

/-- A call moves on outside `write`. -/
theorem setPhase (writing : Writing enableChecksum sent client)
    (transmitted_eq : next.transmitted = client.transmitted)
    (writeMutex_eq : next.writeMutex = client.writeMutex) {number : ℕ} {call : Call}
    (found : client.calls[number]? = some call) (old : call.phase ≠ .writing) (phase : Phase)
    (new : phase ≠ .writing)
    (early : phase = .allocated ∨ phase = .registered →
      call.phase = .allocated ∨ call.phase = .registered)
    (calls_eq : next.calls = client.calls.modify number fun call => { call with phase }) :
    Writing enableChecksum sent next := by
  refine writing.modify transmitted_eq writeMutex_eq calls_eq (fun _ => rfl) (fun _ => rfl) ?_ ?_
  · intro before before_found
    obtain rfl := Option.some.inj (before_found.symm.trans found)
    exact iff_of_false new old
  · intro before before_found
    obtain rfl := Option.some.inj (before_found.symm.trans found)
    exact early

theorem getNextStreamId (writing : Writing enableChecksum sent client) (payload : List UInt8) :
    Writing enableChecksum sent (client.getNextStreamId payload) := by
  have kept {number : ℕ} {call : Call} (found : client.calls[number]? = some call) :
      (client.getNextStreamId payload).calls[number]? = some call := by
    have inside := (List.getElem?_eq_some_iff.mp found).1
    simp [TcpClient.getNextStreamId, List.getElem?_append_left inside, found]
  have origin {number : ℕ} {call : Call}
      (found : (client.getNextStreamId payload).calls[number]? = some call) :
      client.calls[number]? = some call ∨ (call.totalSent = 0 ∧ call.phase = .allocated) := by
    simp only [TcpClient.getNextStreamId, List.getElem?_append] at found
    split at found
    · exact Or.inl found
    · right
      rw [List.getElem?_singleton, Option.ite_none_right_eq_some, Option.some.injEq] at found
      obtain ⟨-, rfl⟩ := found
      exact ⟨rfl, rfl⟩
  refine ⟨?_, ?_, ?_, ?_⟩
  · rw [← writing.transmitted_eq]
    cases held : client.writeMutex with
    | none =>
        rw [unsent_of_free held]
        exact congrArg _ (unsent_of_free held)
    | some number =>
        obtain ⟨call, found, -⟩ := (writing.holder number).mp held
        rw [unsent_of_holder held found]
        exact congrArg _ (unsent_of_holder held (kept found))
  · intro frame member
    obtain ⟨number, call, found, request_eq⟩ := writing.requested frame member
    exact ⟨number, call, kept found, request_eq⟩
  · intro number call found phase
    rcases origin found with earlier | ⟨nothing, -⟩
    · exact writing.unwritten number call earlier phase
    · exact nothing
  · exact LockHeld.getNextStreamId writing.holder payload

theorem lockWrite (writing : Writing enableChecksum sent client) {number : ℕ} {call : Call}
    (found : client.calls[number]? = some call) (phase : call.phase = .registered)
    (free : client.writeMutex = none) :
    Writing enableChecksum (sent ++ [call.request])
      ((client.setPhase number .writing).holdLock (some number)) := by
  have lookup {other : ℕ} {result : Call} :
      ((client.setPhase number .writing).holdLock (some number)).calls[other]? = some result ↔
        ∃ call, client.calls[other]? = some call ∧
          result = if number = other then { call with phase := .writing } else call :=
    getElem?_modify_eq_some
  have own : ((client.setPhase number .writing).holdLock (some number)).calls[number]? =
      some { call with phase := .writing } := lookup.mpr ⟨call, found, by simp⟩
  have calls_eq : ((client.setPhase number .writing).holdLock (some number)).calls =
      client.calls.modify number fun call => { call with phase := .writing } := rfl
  refine ⟨?_, ?_, writing.unwritten_modify calls_eq fun _ _ => by simp, ?_⟩
  · have before := writing.transmitted_eq
    rw [unsent_of_free free, List.append_nil] at before
    have nothing := writing.unwritten number call found (Or.inr phase)
    rw [unsent_of_holder rfl own, List.map_append, List.flatten_append, ← before]
    simp only [nothing, List.drop_zero, List.map_singleton, List.flatten_singleton]
    rfl
  · intro frame member
    rcases List.mem_append.mp member with earlier | new
    · exact writing.requested_modify calls_eq (fun _ => rfl) frame earlier
    · obtain rfl := List.mem_singleton.mp new
      exact ⟨number, _, own, rfl⟩
  · exact LockHeld.lockWrite writing.holder found free

/-- In `write`, the call is the holder of the lock. -/
theorem held (writing : Writing enableChecksum sent client) {number : ℕ} {call : Call}
    (found : client.calls[number]? = some call) (phase : call.phase = .writing) :
    client.writeMutex = some number :=
  (writing.holder number).mpr ⟨call, found, phase⟩

theorem transmit (writing : Writing enableChecksum sent client) {number count : ℕ} {call : Call}
    (found : client.calls[number]? = some call) (phase : call.phase = .writing)
    (inside : call.totalSent + count ≤ (call.request.serialize enableChecksum).length) :
    Writing enableChecksum sent
      (client.transmit number
        (((call.request.serialize enableChecksum).drop call.totalSent).take count)) := by
  set data := call.request.serialize enableChecksum with data_eq
  set piece := (data.drop call.totalSent).take count with piece_eq
  have piece_length : piece.length = count := by
    rw [piece_eq, List.length_take, List.length_drop]
    omega
  have calls_eq : (client.transmit number piece).calls = client.calls.modify number fun call =>
      { call with totalSent := call.totalSent + piece.length } := rfl
  have own : (client.transmit number piece).calls[number]? =
      some { call with totalSent := call.totalSent + piece.length } := by
    rw [calls_eq, getElem?_modify_eq_some]
    exact ⟨call, found, by simp⟩
  have held := writing.held found phase
  refine ⟨?_, writing.requested_modify calls_eq (fun _ => rfl),
    writing.unwritten_modify calls_eq fun before before_found before_phase => ?_,
    LockHeld.modify writing.holder rfl calls_eq fun _ _ => Iff.rfl⟩
  · have before := writing.transmitted_eq
    rw [unsent_of_holder held found, ← data_eq] at before
    have held_next : (client.transmit number piece).writeMutex = some number := held
    rw [unsent_of_holder held_next own, ← before]
    change client.transmitted ++ piece ++ data.drop (call.totalSent + piece.length) = _
    rw [piece_length, ← List.drop_drop, List.append_assoc, piece_eq, List.take_append_drop]
  · obtain rfl := Option.some.inj (before_found.symm.trans found)
    simp [phase] at before_phase

theorem writeDone (writing : Writing enableChecksum sent client) {number : ℕ} {call : Call}
    (found : client.calls[number]? = some call) (phase : call.phase = .writing)
    (all_sent : call.totalSent = (call.request.serialize enableChecksum).length) :
    Writing enableChecksum sent ((client.setPhase number .waiting).holdLock none) := by
  have calls_eq : ((client.setPhase number .waiting).holdLock none).calls =
      client.calls.modify number fun call => { call with phase := .waiting } := rfl
  have held := writing.held found phase
  refine ⟨?_, writing.requested_modify calls_eq (fun _ => rfl),
    writing.unwritten_modify calls_eq fun _ _ => by simp, ?_⟩
  · have before := writing.transmitted_eq
    rw [unsent_of_holder held found, all_sent, List.drop_length] at before
    rw [unsent_of_free rfl]
    exact before
  · exact LockHeld.release writing.holder found phase .waiting nofun

theorem handleFrame (writing : Writing enableChecksum sent client) (frame : Frame) :
    Writing enableChecksum sent (client.handleFrame frame) := by
  rcases client.handleFrame_cases frame with ⟨-, same⟩ | ⟨number, -, answered⟩ | ⟨-, thrown⟩
  · rwa [same]
  · rw [answered]
    exact writing.modify rfl rfl rfl (fun _ => rfl) (fun _ => rfl) (fun _ _ => Iff.rfl)
      fun _ _ => id
  · rw [thrown]
    exact writing.rest rfl rfl rfl

/-- Every step other than a failing `send` keeps the written requests whole. -/
theorem step {event : Event} (writing : Writing enableChecksum sent client)
    (successful : ∀ number, event ≠ .sendFailed number)
    (stepped : Step enableChecksum client event next) :
    ∃ sent, Writing enableChecksum sent next := by
  cases stepped with
  | call payload => exact ⟨sent, writing.getNextStreamId payload⟩
  | register found phase =>
      exact ⟨sent, writing.setPhase rfl rfl found (by simp [phase]) .registered nofun
        (fun _ => Or.inl phase) rfl⟩
  | lockWrite found phase free => exact ⟨_, writing.lockWrite found phase free⟩
  | send found phase connected positive inside => exact ⟨sent, writing.transmit found phase inside⟩
  | sendInterrupted => exact ⟨sent, writing⟩
  | sendFailed => exact absurd rfl (successful _)
  | writeDone found phase all_sent => exact ⟨sent, writing.writeDone found phase all_sent⟩
  | eraseFailed found phase =>
      exact ⟨sent, writing.setPhase rfl rfl found (by simp [phase]) (.returned none) nofun
        (by simp) rfl⟩
  | timeout found phase =>
      exact ⟨sent, writing.setPhase rfl rfl found (by simp [phase]) .timedOut nofun (by simp) rfl⟩
  | eraseTimedOut found phase =>
      exact ⟨sent, writing.setPhase rfl rfl found (by simp [phase]) (.returned none) nofun
        (by simp) rfl⟩
  | @get number call response found phase =>
      exact ⟨sent, writing.setPhase rfl rfl found (by simp [phase]) (.returned (some response))
        nofun (by simp) rfl⟩
  | recv => exact ⟨sent, writing.rest rfl rfl rfl⟩
  | @dispatch frame frames =>
      have shorter : Writing enableChecksum sent { client with frames } :=
        writing.rest rfl rfl rfl
      exact ⟨sent, shorter.handleFrame frame⟩
  | stopReading => exact ⟨sent, writing.rest rfl rfl rfl⟩
  | disconnect => exact ⟨sent, writing.rest rfl rfl rfl⟩
  | clear => exact ⟨sent, writing.rest rfl rfl rfl⟩

end Writing

/-- While no `send` fails, whole request frames are written one after the other. -/
theorem writing_of_reaches {enableChecksum : Bool} {trace : List Event} {client : TcpClient}
    (successful : ∀ number, Event.sendFailed number ∉ trace)
    (reached : (system enableChecksum).Reaches trace client) :
    ∃ sent, Writing enableChecksum sent client := by
  revert successful
  refine reached.invariant (motive := fun trace client =>
    (∀ number, Event.sendFailed number ∉ trace) → ∃ sent, Writing enableChecksum sent client) ?_ ?_
  · exact fun _ => ⟨[], rfl, nofun, nofun, fun _ => iff_of_false nofun nofun⟩
  · intro trace before event next _ earlier stepped successful
    obtain ⟨sent, writing⟩ := earlier fun number member =>
      successful number (List.mem_append_left _ member)
    refine writing.step (fun number equality => ?_) (step_of_eq_some stepped)
    exact successful number (List.mem_append_right _ (equality ▸ List.mem_singleton_self _))

/-! ## Reading -/

/-- The bytes received by an event. -/
def Event.chunk? : Event → Option (List UInt8)
  | .recv chunk => some chunk
  | _ => none

/-- All bytes received from the server. -/
def received (trace : List Event) : List UInt8 := (trace.filterMap Event.chunk?).flatten

/-- All frames handled. -/
def handled (trace : List Event) : List Frame := trace.filterMap Event.handled?

/-- The read thread has parsed all bytes received and handled the frames in order. -/
structure Reading (trace : List Event) (client : TcpClient) : Prop where
  frameBuffer_eq : client.frameBuffer = decoder.residue (received trace)
  handled_eq : handled trace ++ client.frames = decoder.messages (received trace)

theorem handleFrame_reading (client : TcpClient) (frame : Frame) :
    (client.handleFrame frame).frameBuffer = client.frameBuffer ∧
      (client.handleFrame frame).frames = client.frames := by
  rcases client.handleFrame_cases frame with ⟨-, same⟩ | ⟨number, -, answered⟩ | ⟨-, thrown⟩
  · rw [same]
    exact ⟨rfl, rfl⟩
  · rw [answered]
    exact ⟨rfl, rfl⟩
  · rw [thrown]
    exact ⟨rfl, rfl⟩

theorem Reading.step {enableChecksum : Bool} {trace : List Event} {event : Event}
    {client next : TcpClient} (reading : Reading trace client)
    (stepped : Step enableChecksum client event next) : Reading (trace ++ [event]) next := by
  have quiet (silent : event.chunk? = none) (nothing : event.handled? = none)
      (frameBuffer_eq : next.frameBuffer = client.frameBuffer)
      (frames_eq : next.frames = client.frames) : Reading (trace ++ [event]) next := by
    obtain ⟨buffer, frames⟩ := reading
    constructor
    · simpa [received, silent, frameBuffer_eq] using buffer
    · simpa [received, handled, silent, nothing, frames_eq] using frames
  cases stepped with
  | @recv chunk running waiting nonempty =>
      have received_eq : received (trace ++ [.recv chunk]) = received trace ++ chunk := by
        simp [received, Event.chunk?]
      have handled_eq := reading.handled_eq
      rw [waiting, List.append_nil] at handled_eq
      constructor
      · simp only [receiveChunk_eq_feed, PrefixDecoder.feed, reading.frameBuffer_eq, received_eq]
        rw [← decoder.residue_append]
      · simp only [receiveChunk_eq_feed, PrefixDecoder.feed, reading.frameBuffer_eq, received_eq]
        rw [decoder.messages_append (received trace), ← handled_eq]
        simp [handled, Event.handled?]
  | @dispatch frame frames waiting =>
      obtain ⟨frameBuffer_eq, frames_eq⟩ := handleFrame_reading { client with frames } frame
      have received_eq : received (trace ++ [.dispatch frame]) = received trace := by
        simp [received, Event.chunk?]
      constructor
      · rw [frameBuffer_eq, received_eq]
        exact reading.frameBuffer_eq
      · rw [frames_eq, received_eq, ← reading.handled_eq, waiting]
        simp [handled, Event.handled?]
  | _ => exact quiet rfl rfl rfl rfl

theorem reading_of_reaches {enableChecksum : Bool} {trace : List Event} {client : TcpClient}
    (reached : (system enableChecksum).Reaches trace client) : Reading trace client := by
  refine reached.invariant (motive := Reading) ?_ ?_
  · constructor
    · change [] = decoder.residue []
      simp
    · change [] = decoder.messages []
      simp
  · exact fun _ reading stepped => reading.step (step_of_eq_some stepped)

theorem handledSince_subset {number : ℕ} {trace : List Event} {frame : Frame}
    (member : frame ∈ handledSince number trace) : frame ∈ handled trace := by
  refine List.mem_filterMap.mpr ⟨.dispatch frame, ?_, rfl⟩
  exact (List.dropWhile_suffix _).subset (mem_since_of_handled member)

end TcpClient
end FramedTcp
