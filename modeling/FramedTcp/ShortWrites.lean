import FramedTcp.EventSystem
import Mathlib.Data.List.Basic
import Mathlib.Data.List.Infix
import Mathlib.Data.List.Pairwise
import Mathlib.Tactic.ByContra

/-!
# Short writes

A writer offers buffers one after the other to a channel that may accept a front piece of a buffer
only.  The channel carries a front piece of the offered stream as long as nothing is accepted after
a buffer that has been cut, and the whole stream exactly when every buffer is accepted whole.
-/

namespace ShortWrites

open EventSystems

/-- A buffer and how much of it has been accepted. -/
structure Write (α : Type*) where
  /-- The buffer. -/
  buffer : List α
  /-- The number of symbols accepted. -/
  accepted : ℕ
  /-- No more is accepted than there is. -/
  accepted_le : accepted ≤ buffer.length

variable {α : Type*}

namespace Write

/-- The symbols accepted. -/
def carried (write : Write α) : List α := write.buffer.take write.accepted

/-- A part of the buffer has been accepted, and a part has not. -/
def Cut (write : Write α) : Prop := 0 < write.accepted ∧ write.accepted < write.buffer.length

theorem length_carried (write : Write α) : write.carried.length = write.accepted := by
  rw [carried, List.length_take, Nat.min_eq_left write.accepted_le]

theorem carried_eq_nil {write : Write α} (nothing : write.accepted = 0) : write.carried = [] := by
  rw [carried, nothing, List.take_zero]

theorem carried_eq_buffer_iff {write : Write α} :
    write.carried = write.buffer ↔ write.accepted = write.buffer.length := by
  rw [carried, List.take_eq_self_iff, write.accepted_le.ge_iff_eq', eq_comm]

/-- A buffer of which at most so much has been accepted. -/
def ofCount (buffer : List α) (count : ℕ) : Write α where
  buffer := buffer
  accepted := min count buffer.length
  accepted_le := min_le_right _ _

theorem accepted_ofCount {buffer : List α} {count : ℕ} (inside : count ≤ buffer.length) :
    (ofCount buffer count).accepted = count :=
  min_eq_left inside

theorem cut_ofCount_iff {buffer : List α} {count : ℕ} :
    (ofCount buffer count).Cut ↔ 0 < count ∧ count < buffer.length := by
  simp only [Cut, ofCount]
  omega

theorem carried_ofCount {buffer : List α} {count : ℕ} (inside : count ≤ buffer.length) :
    (ofCount buffer count).carried = buffer.take count := by
  rw [carried, accepted_ofCount inside, ofCount]

/-- More of the buffer is accepted. -/
theorem carried_ofCount_add {buffer : List α} {accepted count : ℕ}
    (inside : accepted + count ≤ buffer.length) :
    (ofCount buffer (accepted + count)).carried =
      (ofCount buffer accepted).carried ++ (buffer.drop accepted).take count := by
  rw [carried_ofCount inside, carried_ofCount (by omega), List.take_add]

end Write

/-- What the channel carries. -/
def channel (writes : List (Write α)) : List α := (writes.map Write.carried).flatten

/-- The buffers of which something has been accepted, one after the other. -/
def begun (writes : List (Write α)) : List α :=
  ((writes.filter fun write => 0 < write.accepted).map Write.buffer).flatten

/-- Nothing is accepted after a buffer that has been cut. -/
def Unspliced (writes : List (Write α)) : Prop :=
  writes.Pairwise fun earlier later => earlier.Cut → later.accepted = 0

@[simp]
theorem channel_append (front back : List (Write α)) :
    channel (front ++ back) = channel front ++ channel back := by
  simp [channel]

@[simp]
theorem channel_singleton (write : Write α) : channel [write] = write.carried := by
  simp [channel]

theorem channel_eq_nil {writes : List (Write α)}
    (nothing : ∀ write ∈ writes, write.accepted = 0) : channel writes = [] := by
  rw [channel, List.flatten_eq_nil_iff]
  intro carried member
  obtain ⟨write, write_member, rfl⟩ := List.mem_map.mp member
  exact Write.carried_eq_nil (nothing write write_member)

theorem unspliced_append_singleton {writes : List (Write α)} {write : Write α} :
    Unspliced (writes ++ [write]) ↔
      Unspliced writes ∧ ∀ earlier ∈ writes, earlier.Cut → write.accepted = 0 := by
  simp [Unspliced, List.pairwise_append]

/-- The channel carries a front piece of the buffers it has begun to accept. -/
theorem Unspliced.channel_le {writes : List (Write α)} (unspliced : Unspliced writes) :
    channel writes <+: begun writes := by
  induction writes with
  | nil => exact List.prefix_rfl
  | cons write writes induction =>
      obtain ⟨after, later⟩ := List.pairwise_cons.mp unspliced
      have front : channel (write :: writes) = write.carried ++ channel writes := rfl
      by_cases positive : 0 < write.accepted
      · have whole : begun (write :: writes) = write.buffer ++ begun writes := by
          simp [begun, positive]
        rw [front, whole]
        by_cases short : write.accepted < write.buffer.length
        · have nothing := channel_eq_nil fun other member =>
            after other member ⟨positive, short⟩
          rw [nothing, List.append_nil]
          exact (List.take_prefix _ _).trans (List.prefix_append _ _)
        · have complete : write.carried = write.buffer :=
            Write.carried_eq_buffer_iff.mpr (write.accepted_le.antisymm (Nat.le_of_not_lt short))
          rw [complete, List.prefix_append_right_inj]
          exact induction later
      · have nothing := Write.carried_eq_nil (Nat.eq_zero_of_not_pos positive)
        have skipped : begun (write :: writes) = begun writes := by simp [begun, positive]
        rw [front, nothing, skipped, List.nil_append]
        exact induction later

theorem length_channel_le (writes : List (Write α)) :
    (channel writes).length ≤ (writes.map Write.buffer).flatten.length := by
  induction writes with
  | nil => exact le_rfl
  | cons write writes induction =>
      have bounded := write.accepted_le
      simp only [channel, List.map_cons, List.flatten_cons, List.length_append,
        Write.length_carried] at induction ⊢
      omega

/-- The whole stream is carried exactly when every buffer is accepted whole. -/
theorem channel_eq_iff (writes : List (Write α)) :
    channel writes = (writes.map Write.buffer).flatten ↔
      ∀ write ∈ writes, write.accepted = write.buffer.length := by
  induction writes with
  | nil => exact iff_of_true rfl nofun
  | cons write writes induction =>
      have front : channel (write :: writes) = write.carried ++ channel writes := rfl
      rw [front, List.map_cons, List.flatten_cons, List.forall_mem_cons, ← induction,
        ← Write.carried_eq_buffer_iff]
      constructor
      · intro same
        have lengths := congrArg List.length same
        have later := length_channel_le writes
        have bounded := write.accepted_le
        simp only [List.length_append, Write.length_carried] at lengths
        exact List.append_inj same (by rw [Write.length_carried]; omega)
      · rintro ⟨write_eq, writes_eq⟩
        rw [write_eq, writes_eq]

/-! ## One send for each buffer -/

/-- Every buffer but the last one has been accepted whole. -/
def WholeButLast (writes : List (Write α)) : Prop :=
  ∀ write ∈ writes.dropLast, write.accepted = write.buffer.length

theorem wholeButLast_append_singleton {writes : List (Write α)} {write : Write α} :
    WholeButLast (writes ++ [write]) ↔
      ∀ earlier ∈ writes, earlier.accepted = earlier.buffer.length := by
  rw [WholeButLast, List.dropLast_concat]

theorem WholeButLast.unspliced {writes : List (Write α)} (whole : WholeButLast writes) :
    Unspliced writes := by
  cases writes using List.reverseRecOn with
  | nil => exact List.Pairwise.nil
  | append_singleton writes write =>
      rw [wholeButLast_append_singleton] at whole
      have uncut : ∀ earlier ∈ writes, ¬ earlier.Cut :=
        fun earlier member cut => cut.2.ne (whole earlier member)
      refine unspliced_append_singleton.mpr ⟨?_, ?_⟩
      · exact List.Pairwise.imp_of_mem (fun member _ _ cut => absurd cut (uncut _ member))
          (List.pairwise_of_forall fun _ _ => trivial)
      · exact fun earlier member cut => absurd cut (uncut earlier member)

theorem begun_eq {writes : List (Write α)} (positive : ∀ write ∈ writes, 0 < write.accepted) :
    begun writes = (writes.map Write.buffer).flatten := by
  rw [begun, List.filter_eq_self.mpr fun write member => decide_eq_true (positive write member)]

/-- A thread that takes buffers from a queue and gives each of them to one `send`. -/
structure SingleSend (α : Type*) where
  /-- Buffers waiting to be sent. -/
  queue : List (List α) := []
  /-- The buffer taken and not sent yet. -/
  current : Option (List α) := none
  /-- The buffers that have been sent. -/
  sends : List (Write α) := []

namespace SingleSend

/-- A buffer is queued, taken, or sent. -/
inductive Event (α : Type*)
  | push (buffer : List α)
  | pop
  | send (count : ℕ)

/-- One step; `send` accepts at least one symbol. -/
def step (state : SingleSend α) : Event α → Option (SingleSend α)
  | .push buffer => some { state with queue := state.queue ++ [buffer] }
  | .pop =>
      match state.current, state.queue with
      | none, buffer :: buffers => some { state with
          queue := buffers
          current := some buffer }
      | _, _ => none
  | .send count =>
      match state.current with
      | some buffer =>
          if 0 < count ∧ count ≤ buffer.length then
            some { state with
              current := none
              sends := state.sends ++ [.ofCount buffer count] }
          else
            none
      | none => none

/-- The thread, started on an empty queue. -/
def system (α : Type*) : EventSystem (SingleSend α) (Event α) where
  init := {}
  step := step

/-- The buffer an event queues. -/
def Event.pushed? : Event α → Option (List α)
  | .push buffer => some buffer
  | _ => none

/-- The buffers queued, in order. -/
def pushed (trace : List (Event α)) : List (List α) := trace.filterMap Event.pushed?

/-- Buffers are sent in the order in which they have been queued. -/
structure InOrder (trace : List (Event α)) (state : SingleSend α) : Prop where
  pushed_eq : pushed trace = state.sends.map Write.buffer ++ (state.current.toList ++ state.queue)
  positive : ∀ write ∈ state.sends, 0 < write.accepted

variable {trace : List (Event α)} {state : SingleSend α}

theorem inOrder_of_reaches (reached : (system α).Reaches trace state) : InOrder trace state := by
  refine reached.invariant (motive := InOrder)
    ⟨rfl, fun _ member => absurd member List.not_mem_nil⟩ ?_
  intro trace state event next _ inOrder stepped
  replace stepped : state.step event = some next := stepped
  have pushed_concat : pushed (trace ++ [event]) = pushed trace ++ event.pushed?.toList := by
    cases event <;> simp [pushed, Event.pushed?]
  cases event with
  | push buffer =>
      obtain rfl := Option.some.inj stepped
      refine ⟨?_, inOrder.positive⟩
      rw [pushed_concat, inOrder.pushed_eq]
      simp [Event.pushed?]
  | pop =>
      simp only [step] at stepped
      split at stepped
      · rename_i idle waiting
        obtain rfl := Option.some.inj stepped
        refine ⟨?_, inOrder.positive⟩
        rw [pushed_concat, inOrder.pushed_eq, idle, waiting]
        simp [Event.pushed?]
      · contradiction
  | send count =>
      simp only [step] at stepped
      split at stepped
      · rename_i buffer taken
        obtain ⟨⟨positive, inside⟩, result⟩ := Option.ite_none_right_eq_some.mp stepped
        obtain rfl := Option.some.inj result
        constructor
        · rw [pushed_concat, inOrder.pushed_eq, taken]
          simp [Event.pushed?, Write.ofCount]
        · intro write member
          rcases List.mem_append.mp member with earlier | new
          · exact inOrder.positive write earlier
          · obtain rfl := List.mem_singleton.mp new
            rwa [Write.accepted_ofCount inside]
      · contradiction

/-- While every buffer but the last has been accepted whole, the channel carries a front piece of
the stream of all buffers queued. -/
theorem channel_le (reached : (system α).Reaches trace state) (whole : WholeButLast state.sends) :
    channel state.sends <+: (pushed trace).flatten := by
  have inOrder := inOrder_of_reaches reached
  have begun_le := whole.unspliced.channel_le
  rw [begun_eq inOrder.positive] at begun_le
  rw [inOrder.pushed_eq, List.flatten_append]
  exact begun_le.trans (List.prefix_append _ _)

/-- The channel carries all that has been given to `send` exactly if nothing has been cut. -/
theorem channel_eq_taken_iff (reached : (system α).Reaches trace state) :
    channel state.sends = ((pushed trace).take state.sends.length).flatten ↔
      ∀ write ∈ state.sends, write.accepted = write.buffer.length := by
  rw [(inOrder_of_reaches reached).pushed_eq, List.take_append_of_le_length (by simp),
    List.take_of_length_le (by simp)]
  exact channel_eq_iff state.sends

variable {σ ε : Type*} {larger : EventSystem σ ε} (component : larger.Component (system α))

/-- In a larger system: if nothing is sent after a buffer that has been cut, then only the last
buffer can have been cut. -/
theorem wholeButLast_of_eachStep {trace : List ε}
    (each : larger.EachStep (fun state event =>
      ∀ count, component.project event = some (.send count) →
        ∀ write ∈ (component.view state).sends, write.accepted = write.buffer.length) trace)
    {state : σ} (reached : larger.Reaches trace state) :
    WholeButLast (component.view state).sends := by
  refine reached.invariant (motive := fun front state => front <+: trace →
    WholeButLast (component.view state).sends) ?_ ?_ List.prefix_rfl
  · intro _
    rw [component.view_init]
    exact fun _ member => absurd member List.not_mem_nil
  · intro front state event next state_reached whole stepped front_le
    have earlier := whole ((List.prefix_append front [event]).trans front_le)
    have moved := component.view_step state_reached stepped
    cases own : component.project event with
    | none =>
        rw [own] at moved
        rwa [moved]
    | some ownEvent =>
        rw [own] at moved
        replace moved : (component.view state).step ownEvent = some (component.view next) := moved
        cases ownEvent with
        | push buffer =>
            rw [← Option.some.inj moved]
            exact earlier
        | pop =>
            simp only [step] at moved
            split at moved
            · rw [← Option.some.inj moved]
              exact earlier
            · contradiction
        | send count =>
            simp only [step] at moved
            split at moved
            · obtain ⟨-, result⟩ := Option.ite_none_right_eq_some.mp moved
              rw [← Option.some.inj result, wholeButLast_append_singleton]
              exact each front event front_le state next state_reached stepped count own
            · contradiction

end SingleSend
end ShortWrites
