import Mathlib.Data.List.Basic
import Mathlib.Data.List.Infix
import Mathlib.Logic.Function.Basic

/-!
# Descriptors and their owner

The operating system hands out descriptors and takes them back; a descriptor that has been closed
may be handed out again, so the table numbers what it hands out and counts the closes of each
number.  An object owns at most one descriptor; its methods are called by one thread.
-/

namespace Descriptors

/-! ## The table -/

/-- What has been handed out so far. -/
structure DescriptorTable (δ : Type*) where
  /-- How often each resource has been closed, in the order in which they were handed out. -/
  closes : List ℕ := []
  /-- The last resource for which a descriptor was handed out. -/
  owner : δ → Option ℕ := fun _ => none

namespace DescriptorTable

variable {δ : Type*}

/-- The descriptor stands for a resource that has not been closed. -/
def IsOpen (table : DescriptorTable δ) (descriptor : δ) : Prop :=
  ((table.owner descriptor).bind fun number => table.closes[number]?) = some 0

instance (table : DescriptorTable δ) (descriptor : δ) : Decidable (table.IsOpen descriptor) :=
  inferInstanceAs (Decidable (_ = some 0))

/-- Hand out a descriptor. -/
def allocate [DecidableEq δ] (table : DescriptorTable δ) (descriptor : δ) : DescriptorTable δ where
  closes := table.closes ++ [0]
  owner := Function.update table.owner descriptor (some table.closes.length)

/-- Close whatever the descriptor stands for. -/
def close (table : DescriptorTable δ) (descriptor : δ) : DescriptorTable δ :=
  match table.owner descriptor with
  | some number => { table with closes := table.closes.modify number (· + 1) }
  | none => table

/-- The open resource that a descriptor stands for. -/
def target (table : DescriptorTable δ) (descriptor : δ) : Option ℕ :=
  if table.IsOpen descriptor then table.owner descriptor else none

/-- Descriptors stand for resources that have been handed out. -/
def WellFormed (table : DescriptorTable δ) : Prop :=
  ∀ descriptor number, table.owner descriptor = some number → number < table.closes.length

/-- Every resource has been closed exactly once, or it has not been closed and its descriptor is
stored; the stored descriptor is open. -/
structure Accounted (table : DescriptorTable δ) (stored : Option δ) : Prop where
  closed_or_stored : ∀ number count, table.closes[number]? = some count →
    (count = 1 ∧ ∀ descriptor ∈ stored, table.owner descriptor ≠ some number) ∨
      (count = 0 ∧ ∃ descriptor ∈ stored, table.owner descriptor = some number)
  stored_open : ∀ descriptor ∈ stored, table.IsOpen descriptor

theorem accounted_empty : ({} : DescriptorTable δ).Accounted none where
  closed_or_stored number count found := by
    rw [List.getElem?_nil] at found
    contradiction
  stored_open descriptor stored := by contradiction

variable {table : DescriptorTable δ} {descriptor : δ}

/-- Where nothing is stored, everything handed out has been closed exactly once. -/
theorem Accounted.all_closed (accounted : table.Accounted none) :
    ∀ count ∈ table.closes, count = 1 := by
  intro count member
  obtain ⟨number, found⟩ := List.mem_iff_getElem?.mp member
  rcases accounted.closed_or_stored number count found with ⟨closed, -⟩ | ⟨-, _, absent, -⟩
  · exact closed
  · contradiction

theorem owner_allocate [DecidableEq δ] :
    (table.allocate descriptor).owner descriptor = some table.closes.length :=
  Function.update_self _ _ _

theorem Accounted.allocate [DecidableEq δ] (accounted : table.Accounted none) :
    (table.allocate descriptor).Accounted (some descriptor) where
  closed_or_stored number count found := by
    by_cases older : number < table.closes.length
    · left
      simp only [DescriptorTable.allocate, List.getElem?_append_left older] at found
      rcases accounted.closed_or_stored number count found with ⟨closed, -⟩ | ⟨-, stored⟩
      · refine ⟨closed, ?_⟩
        rintro _ ⟨⟩
        rw [owner_allocate]
        exact fun same => older.ne (Option.some.inj same).symm
      · obtain ⟨_, absent, -⟩ := stored
        contradiction
    · right
      have bound := (List.getElem?_eq_some_iff.mp found).1
      simp only [DescriptorTable.allocate, List.length_append, List.length_singleton] at bound
      obtain rfl : number = table.closes.length := by omega
      simp only [DescriptorTable.allocate, List.getElem?_concat_length, Option.some.injEq] at found
      exact ⟨found.symm, descriptor, rfl, owner_allocate⟩
  stored_open := by
    rintro _ ⟨⟩
    rw [IsOpen, owner_allocate, Option.bind_some, DescriptorTable.allocate,
      List.getElem?_concat_length]

theorem Accounted.close (accounted : table.Accounted (some descriptor)) :
    (table.close descriptor).Accounted none where
  closed_or_stored number count found := by
    left
    obtain ⟨owned, owner_eq, -⟩ := Option.bind_eq_some_iff.mp
      (accounted.stored_open descriptor rfl)
    simp only [DescriptorTable.close, owner_eq, List.getElem?_modify] at found
    obtain ⟨before, before_found, count_eq⟩ := Option.map_eq_some_iff.mp found
    refine ⟨?_, fun _ absent => by contradiction⟩
    rcases accounted.closed_or_stored number before before_found with
      ⟨closed, unstored⟩ | ⟨unclosed, stored⟩
    · have different : owned ≠ number := by
        rintro rfl
        exact unstored descriptor rfl owner_eq
      rw [← count_eq, if_neg different, closed]
    · obtain ⟨_, ⟨⟩, also_owner⟩ := stored
      obtain rfl := Option.some.inj (owner_eq.symm.trans also_owner)
      rw [← count_eq, if_pos rfl, unclosed]
  stored_open := by
    intro _ absent
    contradiction

/-! ### Descriptors handed out again -/

theorem target_eq_some_iff {number : ℕ} :
    table.target descriptor = some number ↔
      table.owner descriptor = some number ∧ table.closes[number]? = some 0 := by
  rw [target, Option.ite_none_right_eq_some, IsOpen, Option.bind_eq_some_iff]
  constructor
  · rintro ⟨⟨owned, owner_eq, unclosed⟩, also_owner⟩
    obtain rfl := Option.some.inj (owner_eq.symm.trans also_owner)
    exact ⟨also_owner, unclosed⟩
  · rintro ⟨owner_eq, unclosed⟩
    exact ⟨⟨number, owner_eq, unclosed⟩, owner_eq⟩

theorem isOpen_iff : table.IsOpen descriptor ↔ table.target descriptor ≠ none := by
  unfold target
  split
  · rename_i unclosed
    obtain ⟨number, owner_eq, -⟩ := Option.bind_eq_some_iff.mp unclosed
    simp [unclosed, owner_eq]
  · rename_i closed
    simp [closed]

theorem WellFormed.allocate [DecidableEq δ] (wellFormed : table.WellFormed) :
    (table.allocate descriptor).WellFormed := by
  intro other number owner_eq
  simp only [DescriptorTable.allocate, List.length_append, List.length_singleton]
  by_cases same : other = descriptor
  · subst same
    obtain rfl := Option.some.inj (owner_allocate.symm.trans owner_eq)
    exact Nat.lt_succ_self _
  · simp only [DescriptorTable.allocate, Function.update_of_ne same] at owner_eq
    exact Nat.lt_succ_of_lt (wellFormed other number owner_eq)

theorem owner_close (other : δ) : (table.close descriptor).owner other = table.owner other := by
  unfold close
  split <;> rfl

theorem length_closes_close : (table.close descriptor).closes.length = table.closes.length := by
  unfold close
  split
  · exact List.length_modify _ _ _
  · rfl

theorem WellFormed.close (wellFormed : table.WellFormed) :
    (table.close descriptor).WellFormed := by
  intro other number owner_eq
  rw [owner_close] at owner_eq
  rw [length_closes_close]
  exact wellFormed other number owner_eq

/-- A descriptor handed out stands for the new resource; the others stand for what they did. -/
theorem target_allocate [DecidableEq δ] (wellFormed : table.WellFormed) (other : δ) :
    (table.allocate descriptor).target other =
      if other = descriptor then some table.closes.length else table.target other := by
  split
  · rename_i same
    subst same
    exact target_eq_some_iff.mpr ⟨owner_allocate, by simp [DescriptorTable.allocate]⟩
  · rename_i different
    have owner_eq : (table.allocate descriptor).owner other = table.owner other :=
      Function.update_of_ne different _ _
    ext number
    simp only [target_eq_some_iff, owner_eq]
    refine and_congr_right fun owned => ?_
    rw [DescriptorTable.allocate, List.getElem?_append_left (wellFormed other number owned)]

/-- A descriptor that is closed stands for nothing any more, nor does any other for the same
resource. -/
theorem target_close (other : δ) :
    (table.close descriptor).target other =
      if table.owner other = table.owner descriptor then none else table.target other := by
  ext number
  rw [target_eq_some_iff, owner_close]
  cases owned : table.owner descriptor with
  | none =>
      have same : table.close descriptor = table := by simp [DescriptorTable.close, owned]
      rw [same]
      split
      · rename_i unowned
        simp [unowned]
      · rw [target_eq_some_iff]
  | some own =>
      have closes_eq : (table.close descriptor).closes = table.closes.modify own (· + 1) := by
        simp [DescriptorTable.close, owned]
      rw [closes_eq, List.getElem?_modify]
      by_cases same : table.owner other = some own
      · rw [if_pos same, same]
        refine iff_of_false ?_ nofun
        rintro ⟨number_eq, unclosed⟩
        obtain rfl := Option.some.inj number_eq
        simp at unclosed
      · rw [if_neg same, target_eq_some_iff]
        refine and_congr_right fun owner_eq => ?_
        have apart : own ≠ number := by
          rintro rfl
          exact same owner_eq
        simp [apart]

end DescriptorTable

/-! ## Objects that own a descriptor -/

/-- A call that has returned. -/
structure Return (Object : Type*) where
  /-- The object when the call was made. -/
  before : Object
  /-- The object when it returned. -/
  after : Object
  /-- What it returned. -/
  result : Bool

/-- Calls that failed have changed nothing. -/
def FailedUnchanged {Object : Type*} (returns : List (Return Object)) : Prop :=
  ∀ call ∈ returns, call.result = false → call.after = call.before

theorem FailedUnchanged.concat {Object : Type*} {returns : List (Return Object)}
    (unchanged : FailedUnchanged returns) {call : Return Object}
    (restored : call.result = false → call.after = call.before) :
    FailedUnchanged (returns ++ [call]) := by
  intro other member failed
  rcases List.mem_append.mp member with earlier | last
  · exact unchanged other earlier failed
  · obtain rfl := List.mem_singleton.mp last
    exact restored failed

/-- An object in use; `opened` is the descriptor that the last successful call has stored. -/
structure Usage (Object Caller δ : Type*) where
  /-- The object. -/
  object : Object
  /-- Where the thread that calls its methods stands. -/
  caller : Caller
  /-- The object when the current call was made. -/
  entered : Object := object
  /-- The calls that have returned a result. -/
  returns : List (Return Object) := []
  /-- The descriptors handed out to the object. -/
  descriptors : DescriptorTable δ := {}
  /-- The descriptor of the last successful call. -/
  opened : Option δ := none
  /-- Has a thread object been assigned or destroyed while it was joinable? -/
  terminated : Bool := false

namespace Usage

variable {Object Caller δ : Type*}

/-- A call is made. -/
def enter (usage : Usage Object Caller δ) : Usage Object Caller δ :=
  { usage with entered := usage.object }

/-- A call returns. -/
def conclude (usage : Usage Object Caller δ) (caller : Caller) (result : Bool) :
    Usage Object Caller δ :=
  { usage with
    caller
    returns := usage.returns ++ [⟨usage.entered, usage.object, result⟩] }

/-- Calls that failed have changed nothing; between the calls every descriptor is closed exactly
once or stored; nothing that was opened outlives the object; while the object runs it stores the
descriptor of the last successful call; and no joinable thread has been lost. -/
structure LeavesNoTrace (stored : Object → Option δ) (running : Object → Bool)
    (resting : Caller → Prop) (destroyed : Caller) (usage : Usage Object Caller δ) : Prop where
  failed_unchanged : FailedUnchanged usage.returns
  accounted : resting usage.caller → usage.descriptors.Accounted (stored usage.object)
  all_closed : usage.caller = destroyed → ∀ count ∈ usage.descriptors.closes, count = 1
  running_opened : running usage.object = true →
    ∃ descriptor, stored usage.object = some descriptor ∧ usage.opened = some descriptor
  not_terminated : usage.terminated = false

end Usage
end Descriptors
