import Mathlib.Algebra.GroupWithZero.Nat
import Mathlib.Algebra.Order.BigOperators.Group.List
import Mathlib.Algebra.Order.Group.Nat
import Mathlib.Data.List.Basic

/-!
# Monitors with one condition variable

Threads run `lock; while (condition) wait; …; unlock` on a mutex and a condition variable; others
lock the mutex, change what the condition speaks of, notify and unlock.  The file counts the threads
which hold the mutex and those which are on their way to the condition, so that a notification that
wakes nobody, or the wrong thread, can be seen to do no harm.
-/

namespace Monitors

/-- Where a thread stands that runs `lock; while (condition) wait; …; unlock`. -/
inductive Waiter
  /-- It is not in this code. -/
  | outside
  /-- It needs the mutex, at first or back from `wait`. -/
  | locking
  /-- It holds the mutex and is about to evaluate the condition. -/
  | testing
  /-- It has found the condition true and still holds the mutex. -/
  | waiting
  /-- It is in `wait`, without the mutex. -/
  | blocked
  /-- It has found the condition false and holds the mutex. -/
  | leaving
  deriving DecidableEq

namespace Waiter

/-- The steps of such a thread; `wake` is one without a notification. -/
inductive Event
  | enter
  | lock
  | test (condition : Bool)
  | wait
  | wake
  | leave
  deriving DecidableEq

/-- The mutex after a step. -/
def Event.mutex : Event → Bool → Option Bool
  | .lock, false => some true
  | .lock, true => none
  | .wait, _ => some false
  | .leave, _ => some false
  | _, locked => some locked

/-- A step of the thread. -/
def step : Waiter → Event → Option Waiter
  | .outside, .enter => some .locking
  | .locking, .lock => some .testing
  | .testing, .test true => some .waiting
  | .testing, .test false => some .leaving
  | .waiting, .wait => some .blocked
  | .blocked, .wake => some .locking
  | .leaving, .leave => some .outside
  | _, _ => none

/-- What a step does. -/
inductive Step : Waiter → Event → Waiter → Prop
  | enter : Step .outside .enter .locking
  | lock : Step .locking .lock .testing
  | mustWait : Step .testing (.test true) .waiting
  | mayLeave : Step .testing (.test false) .leaving
  | wait : Step .waiting .wait .blocked
  | wake : Step .blocked .wake .locking
  | leave : Step .leaving .leave .outside

theorem step_eq_some_iff {waiter next : Waiter} {event : Event} :
    waiter.step event = some next ↔ Step waiter event next := by
  constructor
  · intro stepped
    rw [step.eq_def] at stepped
    split at stepped
    all_goals first | contradiction | (obtain rfl := Option.some.inj stepped; constructor)
  · rintro ⟨⟩ <;> rfl

/-- One if the thread holds the mutex. -/
def holding : Waiter → ℕ
  | .testing | .waiting | .leaving => 1
  | _ => 0

/-- One if the thread will evaluate the condition, or has found it false. -/
def awake : Waiter → ℕ
  | .locking | .testing | .leaving => 1
  | _ => 0

/-- Steps left before the thread blocks or has left. -/
def work : Waiter → ℕ
  | .locking => 3
  | .testing => 2
  | .waiting | .leaving => 1
  | .outside | .blocked => 0

/-- The thread waits for a notification, or is bound to. -/
def Waits (waiter : Waiter) : Prop := waiter = .waiting ∨ waiter = .blocked

instance (waiter : Waiter) : Decidable waiter.Waits := inferInstanceAs (Decidable (_ ∨ _))

/-- What a notification does to a thread. -/
def notify : Waiter → Waiter
  | .blocked => .locking
  | waiter => waiter

/-- A notification comes in vain for a thread which is bound to wait but does not yet. -/
theorem waits_notify_iff {waiter : Waiter} : waiter.notify.Waits ↔ waiter = .waiting := by
  cases waiter <;> simp [notify, Waits]

end Waiter

open Waiter

/-- The mutex and the threads. -/
structure Monitor where
  /-- Is the mutex held? -/
  locked : Bool := false
  /-- The threads. -/
  waiters : List Waiter := []

/-- The sum of a quantity over the threads when one of them moves. -/
theorem sum_map_set {quantity : Waiter → ℕ} {waiters : List Waiter} {i : ℕ} {waiter : Waiter}
    (next : Waiter) (found : waiters[i]? = some waiter) :
    ((waiters.set i next).map quantity).sum + quantity waiter =
      (waiters.map quantity).sum + quantity next := by
  obtain ⟨bound, rfl⟩ := List.getElem?_eq_some_iff.mp found
  have before := List.sum_set (waiters.map quantity) i (quantity waiters[i])
  have after := List.sum_set (waiters.map quantity) i (quantity next)
  rw [← List.map_set, List.set_getElem_self] at before
  rw [List.map_set, after, before, List.length_map, if_pos bound, if_pos bound]
  omega

namespace Monitor

/-- A step of one thread. -/
def step (monitor : Monitor) (i : ℕ) (event : Event) : Option Monitor :=
  match monitor.waiters[i]? with
  | some waiter =>
      match waiter.step event, event.mutex monitor.locked with
      | some next, some locked => some { locked, waiters := monitor.waiters.set i next }
      | _, _ => none
  | none => none

/-- `notify_one`: it wakes a thread that is in `wait`, unless there is none. -/
def notifyOne (monitor : Monitor) : Option ℕ → Option Monitor
  | some i =>
      if monitor.waiters[i]? = some .blocked then
        some { monitor with waiters := monitor.waiters.set i .locking }
      else
        none
  | none => if .blocked ∈ monitor.waiters then none else some monitor

variable {monitor next : Monitor} {i : ℕ} {event : Event}

theorem step_eq_some_iff :
    monitor.step i event = some next ↔
      ∃ waiter after locked, monitor.waiters[i]? = some waiter ∧ Step waiter event after ∧
        event.mutex monitor.locked = some locked ∧
        next = { locked, waiters := monitor.waiters.set i after } := by
  constructor
  · intro stepped
    simp only [step] at stepped
    split at stepped
    · rename_i waiter found
      split at stepped
      · rename_i after locked moved mutex
        exact ⟨waiter, after, locked, found, Waiter.step_eq_some_iff.mp moved, mutex,
          (Option.some.inj stepped).symm⟩
      · contradiction
    · contradiction
  · rintro ⟨waiter, after, locked, found, moved, mutex, rfl⟩
    simp [step, found, Waiter.step_eq_some_iff.mpr moved, mutex]

theorem exists_notifyOne (monitor : Monitor) :
    ∃ woken next, monitor.notifyOne woken = some next := by
  by_cases blocked : .blocked ∈ monitor.waiters
  · obtain ⟨i, found⟩ := List.getElem?_of_mem blocked
    exact ⟨some i, _, if_pos found⟩
  · exact ⟨none, _, if_neg blocked⟩

theorem outside_notifyOne_iff {woken : Option ℕ} (notified : monitor.notifyOne woken = some next)
    (j : ℕ) : next.waiters[j]? = some .outside ↔ monitor.waiters[j]? = some .outside := by
  cases woken with
  | some i =>
      obtain ⟨found, ⟨⟩⟩ := Option.ite_none_right_eq_some.mp notified
      rw [List.getElem?_set]
      split
      · rename_i same
        subst same
        simp [found]
      · rfl
  | none =>
      obtain ⟨-, ⟨⟩⟩ := Option.ite_none_left_eq_some.mp notified
      rfl

theorem outside_enter_iff (waiters : List Waiter) (j : ℕ) :
    (waiters ++ [.locking])[j]? = some .outside ↔ waiters[j]? = some .outside := by
  rw [List.getElem?_append]
  split
  · rfl
  · rename_i beyond
    rw [List.getElem?_eq_none (Nat.not_lt.mp beyond), List.getElem?_singleton]
    simp

/-! ## Mutual exclusion -/

/-- The mutex is held by as many threads as hold it: by one of the waiters or, if `others` is one,
by another critical section. -/
def Exclusive (monitor : Monitor) (others : ℕ) : Prop :=
  (monitor.waiters.map holding).sum + others = if monitor.locked then 1 else 0

theorem Exclusive.step {others : ℕ} (exclusive : monitor.Exclusive others)
    (stepped : monitor.step i event = some next) : next.Exclusive others := by
  obtain ⟨waiter, after, locked, found, moved, mutex, rfl⟩ := step_eq_some_iff.mp stepped
  have changed : _ + holding waiter = _ + holding after := sum_map_set after found
  have within : holding waiter ≤ _ :=
    List.le_sum_of_mem (List.mem_map_of_mem (List.mem_of_getElem? found))
  simp only [Exclusive] at exclusive ⊢
  cases moved with
  | lock =>
      cases free : monitor.locked with
      | false =>
          rw [free] at mutex exclusive
          obtain rfl := Option.some.inj mutex
          simp only [holding] at changed
          grind
      | true =>
          rw [free] at mutex
          contradiction
  | wait | leave =>
      obtain rfl := Option.some.inj mutex
      simp only [holding] at changed within
      grind
  | enter | mustWait | mayLeave | wake =>
      obtain rfl := Option.some.inj mutex
      simp only [holding, Nat.add_zero, Nat.add_right_cancel_iff] at changed
      rw [changed]
      exact exclusive

theorem Exclusive.enter {others : ℕ} (exclusive : monitor.Exclusive others) :
    Exclusive { monitor with waiters := monitor.waiters ++ [.locking] } others := by
  simpa [Exclusive, holding] using exclusive

theorem Exclusive.notifyOne {others : ℕ} {woken : Option ℕ} (exclusive : monitor.Exclusive others)
    (notified : monitor.notifyOne woken = some next) : next.Exclusive others := by
  cases woken with
  | some i =>
      obtain ⟨found, ⟨⟩⟩ := Option.ite_none_right_eq_some.mp notified
      have changed : _ + holding .blocked = _ + holding .locking := sum_map_set .locking found
      simp only [holding, Nat.add_zero] at changed
      rw [Exclusive, changed]
      exact exclusive
  | none =>
      obtain ⟨-, ⟨⟩⟩ := Option.ite_none_left_eq_some.mp notified
      exact exclusive

theorem Exclusive.acquire (exclusive : monitor.Exclusive 0) (free : monitor.locked = false) :
    Exclusive { monitor with locked := true } 1 := by
  simpa [Exclusive, free] using exclusive

theorem Exclusive.release (exclusive : monitor.Exclusive 1) :
    Exclusive { monitor with locked := false } 0 := by
  simp only [Exclusive] at exclusive ⊢
  grind

/-- Nobody else holds the mutex while a thread does. -/
theorem Exclusive.holder (exclusive : monitor.Exclusive 0) {j : ℕ} {waiter other : Waiter}
    (found : monitor.waiters[i]? = some waiter) (other_found : monitor.waiters[j]? = some other)
    (holds : waiter.holding = 1) (other_holds : other.holding = 1) : i = j := by
  by_contra different
  have changed : _ + holding waiter = _ + holding .outside := sum_map_set .outside found
  have still : (monitor.waiters.set i .outside)[j]? = some other := by
    rw [List.getElem?_set_ne different, other_found]
  have within : holding other ≤ _ :=
    List.le_sum_of_mem (List.mem_map_of_mem (List.mem_of_getElem? still))
  rw [holds, show holding .outside = 0 from rfl] at changed
  rw [other_holds] at within
  rw [Exclusive] at exclusive
  split at exclusive <;> omega

/-- While the mutex is free or held by another critical section, no thread holds it. -/
theorem Exclusive.unheld {others : ℕ} (exclusive : monitor.Exclusive others)
    (free : others = 1 ∨ monitor.locked = false) : (monitor.waiters.map holding).sum = 0 := by
  rw [Exclusive] at exclusive
  rcases free with rfl | free
  · split at exclusive <;> omega
  · simp only [free, Bool.false_eq_true, ↓reduceIte] at exclusive
    omega

/-- What a thread has found of the condition is still so while it holds the mutex. -/
def Tested (monitor : Monitor) (condition : Bool) : Prop :=
  ∀ waiter ∈ monitor.waiters,
    (waiter = .waiting → condition = true) ∧ (waiter = .leaving → condition = false)

theorem tested_of_unheld (unheld : (monitor.waiters.map holding).sum = 0) (condition : Bool) :
    monitor.Tested condition := by
  intro waiter member
  have within : holding waiter ≤ _ := List.le_sum_of_mem (List.mem_map_of_mem member)
  rw [unheld] at within
  constructor <;> (rintro rfl; simp [holding] at within)

theorem Tested.step {condition : Bool} (tested : monitor.Tested condition)
    (stepped : monitor.step i event = some next) (truly : event ≠ .test (!condition)) :
    next.Tested condition := by
  obtain ⟨waiter, after, locked, found, moved, -, rfl⟩ := step_eq_some_iff.mp stepped
  intro other member
  rcases List.mem_or_eq_of_mem_set member with earlier | rfl
  · exact tested other earlier
  · cases moved with
    | mustWait => exact ⟨fun _ => by simpa using truly, by simp⟩
    | mayLeave => exact ⟨by simp, fun _ => by simpa using truly⟩
    | enter | lock | wait | wake | leave => simp

theorem Tested.enter {condition : Bool} (tested : monitor.Tested condition) :
    Tested { monitor with waiters := monitor.waiters ++ [.locking] } condition := by
  intro waiter member
  rcases List.mem_append.mp member with earlier | new
  · exact tested waiter earlier
  · simp [List.mem_singleton.mp new]

/-! ## Notifications are not lost -/

/-- While a thread is blocked, whatever is available is matched by a thread on its way to the
condition or by a notification to come. -/
def Served (monitor : Monitor) (available pending : ℕ) : Prop :=
  .blocked ∈ monitor.waiters → available ≤ (monitor.waiters.map awake).sum + pending

theorem Served.mono {available less pending : ℕ} (served : monitor.Served available pending)
    (le : less ≤ available) : monitor.Served less pending :=
  fun blocked => Nat.le_trans le (served blocked)

/-- What becomes available is announced. -/
theorem Served.produce {available : ℕ} (served : monitor.Served available 0) (count : ℕ) :
    monitor.Served (available + count) count :=
  fun blocked => Nat.add_le_add_right (served blocked) count

theorem Served.enter {available pending : ℕ} (served : monitor.Served available pending) :
    Served { monitor with waiters := monitor.waiters ++ [.locking] } available pending := by
  intro blocked
  have earlier := served (by simpa using blocked)
  simp only [List.map_append, List.sum_append]
  omega

theorem mem_of_mem_set {waiters : List Waiter} {after : Waiter} (different : after ≠ .blocked)
    (blocked : .blocked ∈ waiters.set i after) : .blocked ∈ waiters :=
  (List.mem_or_eq_of_mem_set blocked).resolve_right different.symm

theorem Served.notifyOne {available pending : ℕ} {woken : Option ℕ}
    (served : monitor.Served available (pending + 1))
    (notified : monitor.notifyOne woken = some next) : next.Served available pending := by
  cases woken with
  | some i =>
      obtain ⟨found, ⟨⟩⟩ := Option.ite_none_right_eq_some.mp notified
      intro blocked
      have earlier := served (mem_of_mem_set (by simp) blocked)
      have changed : _ + awake .blocked = _ + awake .locking := sum_map_set .locking found
      simp only [awake] at changed
      change available ≤ ((monitor.waiters.set i .locking).map awake).sum + pending
      omega
  | none =>
      obtain ⟨unblocked, ⟨⟩⟩ := Option.ite_none_left_eq_some.mp notified
      exact fun blocked => absurd blocked unblocked

/-- A thread may only wait for what is not available, and takes one of what is. -/
theorem Served.step {available pending : ℕ} (served : monitor.Served available pending)
    (stepped : monitor.step i event = some next)
    (nothing : event = .test true ∨ event = .wait → available = 0) :
    next.Served (if event = .leave then available - 1 else available) pending := by
  obtain ⟨waiter, after, locked, found, moved, -, rfl⟩ := step_eq_some_iff.mp stepped
  have changed : _ + awake waiter = _ + awake after := sum_map_set after found
  intro blocked
  change _ ≤ ((monitor.waiters.set i after).map awake).sum + pending
  cases moved with
  | mustWait => simp [nothing (.inl rfl)]
  | wait => simp [nothing (.inr rfl)]
  | enter | lock | mayLeave | wake | leave =>
      have earlier := served (mem_of_mem_set (by simp) blocked)
      simp only [awake, reduceCtorEq, ↓reduceIte] at changed ⊢
      omega

/-! ## Work -/

/-- Without a thread that enters or wakes by itself every step brings the threads closer to being
blocked or outside. -/
theorem work_step (stepped : monitor.step i event = some next) (inside : event ≠ .enter)
    (not_woken : event ≠ .wake) : (next.waiters.map work).sum < (monitor.waiters.map work).sum := by
  obtain ⟨waiter, after, locked, found, moved, -, rfl⟩ := step_eq_some_iff.mp stepped
  have changed : _ + work waiter = _ + work after := sum_map_set after found
  change ((monitor.waiters.set i after).map work).sum < _
  cases moved with
  | enter => exact absurd rfl inside
  | wake => exact absurd rfl not_woken
  | lock | mustWait | mayLeave | wait | leave =>
      simp only [work] at changed
      omega

theorem work_notifyOne {woken : Option ℕ} (notified : monitor.notifyOne woken = some next) :
    (next.waiters.map work).sum ≤ (monitor.waiters.map work).sum + 3 := by
  cases woken with
  | some i =>
      obtain ⟨found, ⟨⟩⟩ := Option.ite_none_right_eq_some.mp notified
      have changed : _ + work .blocked = _ + work .locking := sum_map_set .locking found
      simp only [work, Nat.add_zero] at changed
      exact Nat.le_of_eq changed
  | none =>
      obtain ⟨-, ⟨⟩⟩ := Option.ite_none_left_eq_some.mp notified
      exact Nat.le_add_right _ _

/-- Some thread can go on, unless all are blocked or outside. -/
theorem at_rest_or_progresses (exclusive : monitor.Exclusive 0) (condition : Bool) :
    (∀ waiter ∈ monitor.waiters, waiter = .outside ∨ waiter = .blocked) ∨
      ∃ i event next, event ≠ .enter ∧ event ≠ .wake ∧ event ≠ .test (!condition) ∧
        monitor.step i event = some next := by
  by_cases holder : ∃ waiter ∈ monitor.waiters, waiter.holding = 1
  · obtain ⟨waiter, member, holds⟩ := holder
    obtain ⟨i, found⟩ := List.getElem?_of_mem member
    right
    cases waiter with
    | testing =>
        cases condition with
        | true => exact ⟨i, .test true, _, by simp, by simp, by simp, step_eq_some_iff.mpr
            ⟨_, _, _, found, .mustWait, rfl, rfl⟩⟩
        | false => exact ⟨i, .test false, _, by simp, by simp, by simp, step_eq_some_iff.mpr
            ⟨_, _, _, found, .mayLeave, rfl, rfl⟩⟩
    | waiting => exact ⟨i, .wait, _, by simp, by simp, by simp, step_eq_some_iff.mpr
        ⟨_, _, _, found, .wait, rfl, rfl⟩⟩
    | leaving => exact ⟨i, .leave, _, by simp, by simp, by simp, step_eq_some_iff.mpr
        ⟨_, _, _, found, .leave, rfl, rfl⟩⟩
    | outside | locking | blocked => simp [holding] at holds
  · rw [Exclusive, List.sum_eq_zero (List.forall_mem_map.mpr fun waiter member => ?_)] at exclusive
    · have free : monitor.locked = false := by simpa using exclusive
      by_cases resting : ∀ waiter ∈ monitor.waiters, waiter = .outside ∨ waiter = .blocked
      · exact .inl resting
      · obtain ⟨waiter, member, active⟩ : ∃ waiter ∈ monitor.waiters,
            ¬ (waiter = .outside ∨ waiter = .blocked) := by simpa using resting
        obtain ⟨i, found⟩ := List.getElem?_of_mem member
        right
        cases waiter with
        | locking =>
            refine ⟨i, .lock, _, by simp, by simp, by simp, step_eq_some_iff.mpr
              ⟨_, _, true, found, .lock, ?_, rfl⟩⟩
            rw [free]
            rfl
        | outside => exact absurd (.inl rfl) active
        | blocked => exact absurd (.inr rfl) active
        | testing | waiting | leaving => exact absurd ⟨_, member, rfl⟩ holder
    · by_contra other
      refine holder ⟨waiter, member, ?_⟩
      cases waiter <;> simp_all [holding]

/-- If nothing moves and no notification is to come, then whoever is blocked has nothing to wait
for. -/
theorem Served.at_rest {available : ℕ} (served : monitor.Served available 0)
    (resting : ∀ waiter ∈ monitor.waiters, waiter = .outside ∨ waiter = .blocked) :
    available = 0 ∨ ∀ waiter ∈ monitor.waiters, waiter = .outside := by
  by_cases blocked : .blocked ∈ monitor.waiters
  · left
    have available_le := served blocked
    rw [List.sum_eq_zero (List.forall_mem_map.mpr fun waiter member => ?_)] at available_le
    · exact Nat.le_zero.mp available_le
    · rcases resting waiter member with rfl | rfl <;> rfl
  · refine .inr fun waiter member => (resting waiter member).resolve_right ?_
    rintro rfl
    exact blocked member

end Monitor

/-! ## A loop around the critical section -/

/-- Where a thread stands that runs such a critical section in a loop and works on what it has
taken there. -/
inductive Consumer
  /-- It is about to evaluate the condition of the loop, without the mutex. -/
  | looping
  /-- It is between `lock` and the end of its critical section. -/
  | monitor (waiter : Waiter)
  /-- It works on what it has taken. -/
  | working
  /-- It has returned. -/
  | returned
  deriving DecidableEq

namespace Consumer

/-- Does the thread hold the mutex? -/
def Holds : Consumer → Prop
  | .monitor waiter => waiter.holding = 1
  | _ => False

instance (thread : Consumer) : Decidable thread.Holds := by
  cases thread <;> (unfold Holds; infer_instance)

/-- Does it wait for a notification, or is bound to? -/
def Waits : Consumer → Prop
  | .monitor waiter => waiter.Waits
  | _ => False

/-- What a notification does to it. -/
def notify : Consumer → Consumer
  | .monitor waiter => .monitor waiter.notify
  | thread => thread

variable {thread : Consumer}

/-- A notification from within a critical section never comes in vain. -/
theorem not_waits_notify (free : ¬ thread.Holds) : ¬ thread.notify.Waits := by
  cases thread with
  | monitor waiter =>
      intro waits
      obtain rfl := Waiter.waits_notify_iff.mp waits
      exact free rfl
  | looping | working | returned => exact id

theorem notify_eq_working_iff : thread.notify = .working ↔ thread = .working := by
  cases thread <;> simp [notify]

theorem notify_ne_outside (inside : thread ≠ .monitor .outside) :
    thread.notify ≠ .monitor .outside := by
  cases thread with
  | monitor waiter => cases waiter <;> simp_all [notify, Waiter.notify]
  | looping | working | returned => simp [notify]

theorem notify_ne_leaving (free : ¬ thread.Holds) : thread.notify ≠ .monitor .leaving := by
  cases thread with
  | monitor waiter => cases waiter <;> simp_all [notify, Waiter.notify, Holds, Waiter.holding]
  | looping | working | returned => simp [notify]

theorem notify_eq_returned (returned : thread = .returned) : thread.notify = .returned := by
  subst returned
  rfl

/-- Steps to the next work, as long as the condition is false. -/
def distance : Consumer → ℕ
  | .looping => 5
  | .monitor .locking => 4
  | .monitor .testing => 3
  | .monitor .leaving => 2
  | .working => 1
  | _ => 0

/-- Steps left once the loop is to end. -/
def work : Consumer → ℕ
  | .looping => 1
  | .monitor waiter => waiter.work
  | .working => 2
  | .returned => 0

theorem work_notify_le (thread : Consumer) : thread.notify.work ≤ thread.work + 3 := by
  cases thread with
  | monitor waiter => cases waiter <;> simp [notify, work, Waiter.notify, Waiter.work]
  | looping | working | returned => exact Nat.le_add_right _ _

end Consumer
end Monitors
