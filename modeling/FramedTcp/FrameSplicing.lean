import FramedTcp.ClientStreams
import FramedTcp.ShortWrites

/-!
# Frames cut short by a failed write

`TcpClient::write` gives up when `send` fails, whatever part of the frame has been sent by then, and
leaves the socket to the calls that come after it.  What a client transmits is described by the
order in which its calls take the write lock and by how much of each request `send` has accepted.
-/

namespace FramedTcp
namespace TcpClient

open EventSystems ShortWrites

/-- The call that takes the write lock. -/
def Event.locked? : Event → Option ℕ
  | .lockWrite number => some number
  | _ => none

/-- The calls that have taken the write lock, in order. -/
def lockOrder (trace : List Event) : List ℕ := trace.filterMap Event.locked?

/-- A call's request and how much of it has been sent. -/
def Call.written (enableChecksum : Bool) (call : Call) : Write UInt8 :=
  .ofCount (call.request.serialize enableChecksum) call.totalSent

/-- The requests of some calls. -/
def writesOf (enableChecksum : Bool) (client : TcpClient) (numbers : List ℕ) :
    List (Write UInt8) :=
  numbers.filterMap fun number => client.calls[number]?.map (Call.written enableChecksum)

/-- The requests in the order in which their calls have taken the write lock. -/
def writes (enableChecksum : Bool) (trace : List Event) (client : TcpClient) :
    List (Write UInt8) :=
  writesOf enableChecksum client (lockOrder trace)

/-- The call has sent a part of its request and has left `write`. -/
def Call.CutShort (enableChecksum : Bool) (call : Call) : Prop :=
  call.phase ≠ .writing ∧ 0 < call.totalSent ∧
    call.totalSent < (call.request.serialize enableChecksum).length

/-- In every state of the run, whole requests in write-lock order have been transmitted, the last
one perhaps in part, and nothing has followed a request that has been cut. -/
def SpliceFree (enableChecksum : Bool) (trace : List Event) : Prop :=
  ∀ front, front <+: trace → ∀ client, (system enableChecksum).Reaches front client →
    client.transmitted <+: begun (writes enableChecksum front client) ∧
      Unspliced (writes enableChecksum front client)

/-! ## What a step does to the requests -/

/-- The step changes no request, sends nothing and starts no call. -/
structure Kept (client next : TcpClient) : Prop where
  transmitted_eq : next.transmitted = client.transmitted
  length_eq : next.calls.length = client.calls.length
  writeMutex_of : ∀ number, next.writeMutex = some number → client.writeMutex = some number
  call : ∀ (number : ℕ) (after : Call), next.calls[number]? = some after → ∃ before : Call,
    client.calls[number]? = some before ∧ after.payload = before.payload ∧
      after.streamId = before.streamId ∧ after.totalSent = before.totalSent ∧
        (after.phase = .allocated ∨ after.phase = .registered →
          before.phase = .allocated ∨ before.phase = .registered)

/-- The steps that matter to what is transmitted. -/
inductive Writes (enableChecksum : Bool) (client : TcpClient) : Event → TcpClient → Prop
  | called (payload : List UInt8) :
      Writes enableChecksum client (.call payload) (client.getNextStreamId payload)
  | locked {number : ℕ} {call : Call} (found : client.calls[number]? = some call)
      (registered : call.phase = .registered) :
      Writes enableChecksum client (.lockWrite number)
        ((client.setPhase number .writing).holdLock (some number))
  | sent {number count : ℕ} {call : Call} (found : client.calls[number]? = some call)
      (writing : call.phase = .writing) (positive : 0 < count)
      (inside : call.totalSent + count ≤ (call.request.serialize enableChecksum).length) :
      Writes enableChecksum client (.send number count)
        (client.transmit number
          (((call.request.serialize enableChecksum).drop call.totalSent).take count))
  | kept {event : Event} {next : TcpClient} (kept : Kept client next)
      (not_locked : event.locked? = none) (not_sent : ∀ number count, event ≠ .send number count) :
      Writes enableChecksum client event next

variable {enableChecksum : Bool} {trace : List Event} {event : Event} {client next : TcpClient}

theorem Kept.of_modify (transmitted_eq : next.transmitted = client.transmitted)
    (writeMutex_of : ∀ number, next.writeMutex = some number → client.writeMutex = some number)
    {number : ℕ} {change : Call → Call} (calls_eq : next.calls = client.calls.modify number change)
    (same : ∀ call, (change call).payload = call.payload ∧ (change call).streamId = call.streamId ∧
      (change call).totalSent = call.totalSent)
    (early : ∀ call, client.calls[number]? = some call →
      (change call).phase = .allocated ∨ (change call).phase = .registered →
        call.phase = .allocated ∨ call.phase = .registered) : Kept client next := by
  refine ⟨transmitted_eq, by rw [calls_eq, List.length_modify], writeMutex_of, ?_⟩
  intro other after after_found
  rw [calls_eq, getElem?_modify_eq_some] at after_found
  obtain ⟨before, found, rfl⟩ := after_found
  refine ⟨before, found, ?_⟩
  split
  · rename_i equality
    subst equality
    obtain ⟨payload_eq, streamId_eq, totalSent_eq⟩ := same before
    exact ⟨payload_eq, streamId_eq, totalSent_eq, early before found⟩
  · exact ⟨rfl, rfl, rfl, id⟩

theorem Kept.of_same (transmitted_eq : next.transmitted = client.transmitted)
    (writeMutex_eq : next.writeMutex = client.writeMutex) (calls_eq : next.calls = client.calls) :
    Kept client next := by
  refine ⟨transmitted_eq, by rw [calls_eq], fun number held => writeMutex_eq ▸ held, ?_⟩
  intro number after found
  exact ⟨after, calls_eq ▸ found, rfl, rfl, rfl, id⟩

theorem Kept.of_setPhase (transmitted_eq : next.transmitted = client.transmitted)
    (writeMutex_of : ∀ number, next.writeMutex = some number → client.writeMutex = some number)
    {number : ℕ} {phase : Phase}
    (calls_eq : next.calls = client.calls.modify number fun call => { call with phase })
    (late : phase ≠ .allocated ∧ phase ≠ .registered) : Kept client next := by
  apply Kept.of_modify transmitted_eq writeMutex_of calls_eq
  · exact fun _ => ⟨rfl, rfl, rfl⟩
  · rintro call - (early | early)
    · exact absurd early late.1
    · exact absurd early late.2

theorem kept_handleFrame (client : TcpClient) (frame : Frame) :
    Kept client (client.handleFrame frame) := by
  rcases client.handleFrame_cases frame with ⟨-, same⟩ | ⟨number, -, answered⟩ | ⟨-, thrown⟩
  · rw [same]
    exact .of_same rfl rfl rfl
  · rw [answered]
    exact .of_modify rfl (fun _ => id) rfl (fun _ => ⟨rfl, rfl, rfl⟩) fun _ _ => id
  · rw [thrown]
    exact .of_same rfl rfl rfl

theorem writes_of_step (stepped : Step enableChecksum client event next) :
    Writes enableChecksum client event next := by
  cases stepped with
  | call payload => exact .called payload
  | @register number call found phase =>
      refine .kept ?_ rfl nofun
      apply Kept.of_modify
      · rfl
      · exact fun _ => id
      · rfl
      · exact fun _ => ⟨rfl, rfl, rfl⟩
      · intro before before_found _
        obtain rfl := Option.some.inj (before_found.symm.trans found)
        exact Or.inl phase
  | lockWrite found phase free => exact .locked found phase
  | send found phase connected positive inside => exact .sent found phase positive inside
  | sendFailed | writeDone =>
      exact .kept (.of_setPhase rfl (fun _ held => absurd held nofun) rfl ⟨nofun, nofun⟩) rfl nofun
  | eraseFailed | timeout | eraseTimedOut | get =>
      exact .kept (.of_setPhase rfl (fun _ => id) rfl ⟨nofun, nofun⟩) rfl nofun
  | @dispatch frame frames =>
      have kept := kept_handleFrame { client with frames } frame
      refine .kept ?_ rfl nofun
      exact ⟨kept.transmitted_eq, kept.length_eq, kept.writeMutex_of, kept.call⟩
  | sendInterrupted | recv | stopReading | disconnect | clear =>
      exact .kept (.of_same rfl rfl rfl) rfl nofun

/-! ## The ledger of the write lock -/

/-- What has been transmitted belongs to the calls that have taken the lock, in that order. -/
structure Ledger (enableChecksum : Bool) (trace : List Event) (client : TcpClient) : Prop where
  transmitted_eq : client.transmitted = channel (writes enableChecksum trace client)
  existing : ∀ number ∈ lockOrder trace, number < client.calls.length
  started : ∀ (number : ℕ) (call : Call), client.calls[number]? = some call →
    0 < call.totalSent → number ∈ lockOrder trace
  unlocked : ∀ (number : ℕ) (call : Call), client.calls[number]? = some call →
    call.phase = .allocated ∨ call.phase = .registered → number ∉ lockOrder trace
  last : ∀ number, client.writeMutex = some number →
    ∃ earlier, lockOrder trace = earlier ++ [number] ∧ number ∉ earlier

theorem lockOrder_concat (not_locked : event.locked? = none) :
    lockOrder (trace ++ [event]) = lockOrder trace := by
  simp [lockOrder, not_locked]

theorem written_eq {before after : Call} (payload_eq : after.payload = before.payload)
    (streamId_eq : after.streamId = before.streamId)
    (totalSent_eq : after.totalSent = before.totalSent) :
    after.written enableChecksum = before.written enableChecksum := by
  simp only [Call.written, Call.request, payload_eq, streamId_eq, totalSent_eq]

/-- Calls that are still the same make the same writes. -/
theorem writesOf_congr {numbers : List ℕ} (same : ∀ number ∈ numbers,
      next.calls[number]?.map (Call.written enableChecksum) =
        client.calls[number]?.map (Call.written enableChecksum)) :
    writesOf enableChecksum next numbers = writesOf enableChecksum client numbers :=
  List.filterMap_congr same

theorem Kept.writes_eq (kept : Kept client next) (not_locked : event.locked? = none) :
    writes enableChecksum (trace ++ [event]) next = writes enableChecksum trace client := by
  rw [writes, lockOrder_concat not_locked, writes]
  apply writesOf_congr
  intro number _
  cases after_found : next.calls[number]? with
  | none =>
      have outside : client.calls[number]? = none := by
        rw [List.getElem?_eq_none_iff] at after_found ⊢
        exact kept.length_eq ▸ after_found
      rw [outside]
  | some after =>
      obtain ⟨before, found, payload_eq, streamId_eq, totalSent_eq, -⟩ :=
        kept.call number after after_found
      rw [found, Option.map_some, Option.map_some,
        written_eq payload_eq streamId_eq totalSent_eq]

theorem writes_getNextStreamId (existing : ∀ number ∈ lockOrder trace, number < client.calls.length)
    (payload : List UInt8) :
    writes enableChecksum (trace ++ [.call payload]) (client.getNextStreamId payload) =
      writes enableChecksum trace client := by
  rw [writes, lockOrder_concat rfl, writes]
  apply writesOf_congr
  intro number member
  rw [TcpClient.getNextStreamId, List.getElem?_append_left (existing number member)]

theorem lockOrder_lockWrite (trace : List Event) (number : ℕ) :
    lockOrder (trace ++ [.lockWrite number]) = lockOrder trace ++ [number] := by
  simp [lockOrder, Event.locked?]

theorem map_written_modify {calls : List Call} {number other : ℕ} {change : Call → Call}
    (same : ∀ call, (change call).written enableChecksum = call.written enableChecksum) :
    (calls.modify number change)[other]?.map (Call.written enableChecksum) =
      calls[other]?.map (Call.written enableChecksum) := by
  rw [List.getElem?_modify]
  cases calls[other]? with
  | none => rfl
  | some call =>
      by_cases equality : number = other
      · simp [equality, same]
      · simp [equality]

theorem writes_lockWrite {number : ℕ} {call : Call} (found : client.calls[number]? = some call)
    (phase : Phase) (holder : Option ℕ) :
    writes enableChecksum (trace ++ [.lockWrite number])
        ((client.setPhase number phase).holdLock holder) =
      writes enableChecksum trace client ++ [call.written enableChecksum] := by
  have same (other : ℕ) :
      ((client.setPhase number phase).holdLock holder).calls[other]?.map
          (Call.written enableChecksum) =
        client.calls[other]?.map (Call.written enableChecksum) :=
    map_written_modify fun _ => rfl
  rw [writes, lockOrder_lockWrite, writesOf, List.filterMap_append]
  congr 1
  · exact writesOf_congr fun other _ => same other
  · simp [same, found]

/-- The writes before and after the holder of the lock has sent something. -/
theorem writes_send {earlier : List ℕ} {number count : ℕ} {call : Call}
    (order : lockOrder trace = earlier ++ [number]) (fresh : number ∉ earlier)
    (found : client.calls[number]? = some call) (data : List UInt8) :
    writes enableChecksum trace client =
        writesOf enableChecksum client earlier ++ [call.written enableChecksum] ∧
      writes enableChecksum (trace ++ [.send number count]) (client.transmit number data) =
        writesOf enableChecksum client earlier ++ [Call.written enableChecksum
          { call with totalSent := call.totalSent + data.length }] := by
  constructor
  · simp [writes, writesOf, order, found]
  · rw [writes, lockOrder_concat rfl, order, writesOf, List.filterMap_append]
    congr 1
    · apply writesOf_congr
      intro other member
      have different : number ≠ other := fun equality => fresh (equality ▸ member)
      simp [transmit, different]
    · simp [transmit, found]

theorem mem_writesOf_iff {numbers : List ℕ} {write : Write UInt8} :
    write ∈ writesOf enableChecksum client numbers ↔
      ∃ number ∈ numbers, ∃ call : Call, client.calls[number]? = some call ∧
        call.written enableChecksum = write := by
  simp [writesOf]

namespace Ledger

theorem initial : Ledger enableChecksum [] ({} : TcpClient) :=
  ⟨rfl, nofun, nofun, nofun, nofun⟩

/-- A call that has not come to `write` yet has sent nothing. -/
theorem totalSent_eq_zero (ledger : Ledger enableChecksum trace client) {number : ℕ} {call : Call}
    (found : client.calls[number]? = some call)
    (early : call.phase = .allocated ∨ call.phase = .registered) : call.totalSent = 0 :=
  Nat.eq_zero_of_not_pos fun positive =>
    ledger.unlocked number call found early (ledger.started number call found positive)

theorem called (ledger : Ledger enableChecksum trace client) (payload : List UInt8) :
    Ledger enableChecksum (trace ++ [.call payload]) (client.getNextStreamId payload) := by
  have order : lockOrder (trace ++ [.call payload]) = lockOrder trace := lockOrder_concat rfl
  have origin {number : ℕ} {call : Call}
      (found : (client.getNextStreamId payload).calls[number]? = some call) :
      client.calls[number]? = some call ∨ number = client.calls.length ∧ call.totalSent = 0 := by
    simp only [TcpClient.getNextStreamId, List.getElem?_append] at found
    split at found
    · exact Or.inl found
    · rename_i outside
      rw [List.getElem?_singleton, Option.ite_none_right_eq_some, Option.some.injEq] at found
      obtain ⟨first, rfl⟩ := found
      exact Or.inr ⟨by omega, rfl⟩
  refine ⟨?_, ?_, ?_, ?_, ?_⟩
  · rw [writes_getNextStreamId ledger.existing]
    exact ledger.transmitted_eq
  · intro number member
    rw [order] at member
    exact (ledger.existing number member).trans (by simp [TcpClient.getNextStreamId])
  · intro number call found positive
    rw [order]
    rcases origin found with earlier | ⟨-, nothing⟩
    · exact ledger.started number call earlier positive
    · omega
  · intro number call found early member
    rw [order] at member
    rcases origin found with earlier | ⟨rfl, -⟩
    · exact ledger.unlocked number call earlier early member
    · exact absurd (ledger.existing _ member) (lt_irrefl _)
  · rw [order]
    exact ledger.last

theorem locked (ledger : Ledger enableChecksum trace client) {number : ℕ} {call : Call}
    (found : client.calls[number]? = some call) (registered : call.phase = .registered) :
    Ledger enableChecksum (trace ++ [.lockWrite number])
      ((client.setPhase number .writing).holdLock (some number)) := by
  have nothing := ledger.totalSent_eq_zero found (Or.inr registered)
  have empty : (call.written enableChecksum).accepted = 0 := by
    rw [Call.written, nothing]
    exact Write.accepted_ofCount (Nat.zero_le _)
  have order := lockOrder_lockWrite trace number
  have lookup {other : ℕ} {result : Call}
      (result_found : ((client.setPhase number .writing).holdLock
        (some number)).calls[other]? = some result) :
      ∃ call, client.calls[other]? = some call ∧
        result = if number = other then { call with phase := .writing } else call :=
    getElem?_modify_eq_some.mp result_found
  refine ⟨?_, ?_, ?_, ?_, ?_⟩
  · rw [writes_lockWrite found, channel_append, channel_singleton, Write.carried_eq_nil empty,
      List.append_nil]
    exact ledger.transmitted_eq
  · intro other member
    have same : ((client.setPhase number .writing).holdLock (some number)).calls.length =
        client.calls.length := List.length_modify ..
    rw [same]
    rcases List.mem_append.mp (order ▸ member) with earlier | new
    · exact ledger.existing other earlier
    · obtain rfl := List.mem_singleton.mp new
      exact (List.getElem?_eq_some_iff.mp found).1
  · intro other result result_found positive
    obtain ⟨before, before_found, rfl⟩ := lookup result_found
    rw [order, List.mem_append]
    split at positive
    · rename_i same
      exact Or.inr (List.mem_singleton.mpr same.symm)
    · exact Or.inl (ledger.started other before before_found positive)
  · intro other result result_found early member
    obtain ⟨before, before_found, rfl⟩ := lookup result_found
    split at early
    · simp at early
    · rename_i different
      rcases List.mem_append.mp (order ▸ member) with earlier | new
      · exact ledger.unlocked other before before_found early earlier
      · exact different (List.mem_singleton.mp new).symm
  · intro holder held
    obtain rfl := Option.some.inj held
    exact ⟨_, order, ledger.unlocked number call found (Or.inr registered)⟩

theorem kept (ledger : Ledger enableChecksum trace client) (kept : Kept client next)
    (not_locked : event.locked? = none) : Ledger enableChecksum (trace ++ [event]) next := by
  have order : lockOrder (trace ++ [event]) = lockOrder trace := lockOrder_concat not_locked
  refine ⟨?_, ?_, ?_, ?_, ?_⟩
  · rw [kept.transmitted_eq, kept.writes_eq not_locked, ledger.transmitted_eq]
  · rw [order, kept.length_eq]
    exact ledger.existing
  · intro number after found positive
    obtain ⟨before, before_found, -, -, totalSent_eq, -⟩ := kept.call number after found
    rw [order]
    exact ledger.started number before before_found (totalSent_eq ▸ positive)
  · intro number after found early
    obtain ⟨before, before_found, -, -, -, early_before⟩ := kept.call number after found
    rw [order]
    exact ledger.unlocked number before before_found (early_before early)
  · intro number held
    rw [order]
    exact ledger.last number (kept.writeMutex_of number held)

theorem sent (ledger : Ledger enableChecksum trace client) (lockHeld : client.LockHeld)
    {number count : ℕ} {call : Call} (found : client.calls[number]? = some call)
    (writing : call.phase = .writing)
    (inside : call.totalSent + count ≤ (call.request.serialize enableChecksum).length) :
    Ledger enableChecksum (trace ++ [.send number count])
      (client.transmit number
        (((call.request.serialize enableChecksum).drop call.totalSent).take count)) := by
  set data := ((call.request.serialize enableChecksum).drop call.totalSent).take count with data_eq
  have data_length : data.length = count := by
    rw [data_eq, List.length_take, List.length_drop]
    omega
  have order : lockOrder (trace ++ [.send number count]) = lockOrder trace := lockOrder_concat rfl
  obtain ⟨earlier, held, fresh⟩ := ledger.last number ((lockHeld number).mpr ⟨call, found, writing⟩)
  have lookup {other : ℕ} {result : Call}
      (result_found : (client.transmit number data).calls[other]? = some result) :
      ∃ call : Call, client.calls[other]? = some call ∧
        result = if number = other then
          { call with totalSent := call.totalSent + data.length } else call :=
    getElem?_modify_eq_some.mp result_found
  refine ⟨?_, ?_, ?_, ?_, ?_⟩
  · obtain ⟨writes_eq, later_eq⟩ := writes_send held fresh found data
    have advanced := Write.carried_ofCount_add inside
    rw [← data_eq] at advanced
    rw [later_eq, data_length, channel_append, channel_singleton]
    refine Eq.trans ?_ (congrArg _ advanced.symm)
    change client.transmitted ++ data = _
    rw [ledger.transmitted_eq, writes_eq, channel_append, channel_singleton, List.append_assoc]
    rfl
  · rw [order, transmit, List.length_modify]
    exact ledger.existing
  · intro other result result_found positive
    obtain ⟨before, before_found, rfl⟩ := lookup result_found
    rw [order]
    split at positive
    · rename_i same
      exact same ▸ held ▸ List.mem_append_right _ (List.mem_singleton_self _)
    · exact ledger.started other before before_found positive
  · intro other result result_found early
    obtain ⟨before, before_found, rfl⟩ := lookup result_found
    rw [order]
    apply ledger.unlocked other before before_found
    split at early
    · exact early
    · exact early
  · rw [order]
    exact ledger.last

theorem step (ledger : Ledger enableChecksum trace client) (lockHeld : client.LockHeld)
    (moved : Writes enableChecksum client event next) :
    Ledger enableChecksum (trace ++ [event]) next := by
  cases moved with
  | called payload => exact ledger.called payload
  | locked found registered => exact ledger.locked found registered
  | sent found writing positive inside => exact ledger.sent lockHeld found writing inside
  | kept kept not_locked => exact ledger.kept kept not_locked

end Ledger

theorem ledger_of_reaches (reached : (system enableChecksum).Reaches trace client) :
    Ledger enableChecksum trace client := by
  refine reached.invariant (motive := Ledger enableChecksum) Ledger.initial ?_
  exact fun before_reached ledger stepped =>
    ledger.step (lockHeld_of_reaches before_reached) (writes_of_step (step_of_eq_some stepped))

/-! ## Splices -/

/-- The holder of the lock splices nothing exactly if no request has been cut. -/
theorem unspliced_send_iff (ledger : Ledger enableChecksum trace client)
    (lockHeld : client.LockHeld) (unspliced : Unspliced (writes enableChecksum trace client))
    {number count : ℕ} {call : Call} (found : client.calls[number]? = some call)
    (writing : call.phase = .writing) (positive : 0 < count)
    (inside : call.totalSent + count ≤ (call.request.serialize enableChecksum).length) :
    Unspliced (writes enableChecksum (trace ++ [.send number count]) (client.transmit number
        (((call.request.serialize enableChecksum).drop call.totalSent).take count))) ↔
      ∀ (other : ℕ) (otherCall : Call), client.calls[other]? = some otherCall →
        ¬ otherCall.CutShort enableChecksum := by
  set data := ((call.request.serialize enableChecksum).drop call.totalSent).take count with data_eq
  have data_length : data.length = count := by
    rw [data_eq, List.length_take, List.length_drop]
    omega
  have holder := (lockHeld number).mpr ⟨call, found, writing⟩
  obtain ⟨earlier, held, fresh⟩ := ledger.last number holder
  obtain ⟨writes_eq, later_eq⟩ := writes_send held fresh found data
  rw [writes_eq, unspliced_append_singleton] at unspliced
  rw [later_eq, unspliced_append_singleton, and_iff_right unspliced.1, data_length]
  have accepted : (Call.written enableChecksum
      { call with totalSent := call.totalSent + count }).accepted ≠ 0 :=
    ne_of_eq_of_ne (Write.accepted_ofCount inside) (Nat.add_pos_right _ positive).ne'
  constructor
  · rintro uncut other otherCall other_found ⟨left, started, short⟩
    have different : other ≠ number := by
      rintro rfl
      obtain rfl := Option.some.inj (other_found.symm.trans found)
      exact left writing
    have member := ledger.started other otherCall other_found started
    rw [held, List.mem_append, List.mem_singleton, or_iff_left different] at member
    exact accepted (uncut _ (mem_writesOf_iff.mpr ⟨other, member, otherCall, other_found, rfl⟩)
      (Write.cut_ofCount_iff.mpr ⟨started, short⟩))
  · intro uncut write member cut
    obtain ⟨other, other_member, otherCall, other_found, rfl⟩ := mem_writesOf_iff.mp member
    refine absurd ⟨?_, Write.cut_ofCount_iff.mp cut⟩ (uncut other otherCall other_found)
    intro other_writing
    have other_holder := (lockHeld other).mpr ⟨otherCall, other_found, other_writing⟩
    have same := Option.some.inj (holder.symm.trans other_holder)
    exact fresh (same ▸ other_member)

/-- A step keeps the requests unspliced exactly if it sends nothing after a request that has been
cut. -/
theorem unspliced_step_iff (ledger : Ledger enableChecksum trace client)
    (lockHeld : client.LockHeld) (unspliced : Unspliced (writes enableChecksum trace client))
    (moved : Writes enableChecksum client event next) :
    Unspliced (writes enableChecksum (trace ++ [event]) next) ↔
      ∀ number count, event = .send number count →
        ∀ (other : ℕ) (otherCall : Call), client.calls[other]? = some otherCall →
          ¬ otherCall.CutShort enableChecksum := by
  cases moved with
  | called payload =>
      rw [writes_getNextStreamId ledger.existing]
      exact iff_of_true unspliced nofun
  | @locked number call found registered =>
      have nothing := ledger.totalSent_eq_zero found (Or.inr registered)
      rw [writes_lockWrite found, unspliced_append_singleton]
      refine iff_of_true ⟨unspliced, fun _ _ _ => ?_⟩ nofun
      rw [Call.written, nothing]
      exact Write.accepted_ofCount (Nat.zero_le _)
  | sent found writing positive inside =>
      rw [unspliced_send_iff ledger lockHeld unspliced found writing positive inside]
      constructor
      · exact fun uncut _ _ _ => uncut
      · exact fun uncut => uncut _ _ rfl
  | kept kept not_locked not_sent =>
      rw [kept.writes_eq not_locked]
      exact iff_of_true unspliced fun number count equality =>
        absurd equality (not_sent number count)

/-- The client never splices two requests exactly in the runs in which, after a `send` has failed
inside a request, no later `send` accepts anything. -/
theorem spliceFree_iff (enableChecksum : Bool) (trace : List Event) :
    SpliceFree enableChecksum trace ↔
      (system enableChecksum).EachStep (fun client event =>
        ∀ number count, event = .send number count →
          ∀ (other : ℕ) (otherCall : Call), client.calls[other]? = some otherCall →
            ¬ otherCall.CutShort enableChecksum) trace := by
  constructor
  · intro free front event front_le client next reached stepped
    have before := free front ((List.prefix_append front [event]).trans front_le) client reached
    have after := free _ front_le next (EventSystem.reaches_concat.mpr ⟨client, reached, stepped⟩)
    exact (unspliced_step_iff (ledger_of_reaches reached) (lockHeld_of_reaches reached) before.2
      (writes_of_step (step_of_eq_some stepped))).mp after.2
  · intro each front front_le client reached
    have unspliced : Unspliced (writes enableChecksum front client) := by
      refine reached.invariant (motive := fun front client => front <+: trace →
        Unspliced (writes enableChecksum front client)) ?_ ?_ front_le
      · exact fun _ => List.Pairwise.nil
      · intro front client event next client_reached earlier stepped front_le
        apply (unspliced_step_iff (ledger_of_reaches client_reached)
          (lockHeld_of_reaches client_reached)
          (earlier ((List.prefix_append front [event]).trans front_le))
          (writes_of_step (step_of_eq_some stepped))).mpr
        exact each front event front_le client next client_reached stepped
    refine ⟨?_, unspliced⟩
    rw [(ledger_of_reaches reached).transmitted_eq]
    exact unspliced.channel_le

/-- The first call's `send` fails after one byte of its frame, and the second call sends its own. -/
def splicingTrace : List Event :=
  [.call [7], .register 0, .call [8], .register 1, .lockWrite 0, .send 0 1, .sendFailed 0,
    .lockWrite 1, .send 1 17, .writeDone 1]

/-- The two requests in full. -/
def splicedRequests : List (List UInt8) :=
  [(Frame.create 0 1 [7]).serialize false, (Frame.create 1 1 [8]).serialize false]

/-- The second frame follows the first byte of the first one. -/
theorem failed_write_splices :
    ∃ client, (system false).Reaches splicingTrace client ∧
      client.transmitted = 0 :: (Frame.create 1 1 [8]).serialize false ∧
      begun (writes false splicingTrace client) = splicedRequests.flatten ∧
      ¬ client.transmitted <+: begun (writes false splicingTrace client) ∧
      ¬ SpliceFree false splicingTrace := by
  refine ⟨_, rfl, by decide, by decide, by decide, ?_⟩
  intro free
  exact absurd (free splicingTrace List.prefix_rfl _ rfl).1 (by decide)

end TcpClient
end FramedTcp
