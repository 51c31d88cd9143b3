import FramedTcp.ConditionVariable
import FramedTcp.EventSystem
import FramedTcp.Reassembly

/-!
# The stream manager shared by threads

Every operation of `StreamManager` runs under `mutex_`, and the one condition variable `cv_` is
notified for incoming and for outgoing frames alike, although only `receiveFrame` waits on it.
Any number of threads may call the operations.
-/

namespace FramedTcp

open EventSystems Monitors

/-- A stream manager with its mutex, its condition variable and the calls of `receiveFrame`. -/
structure StreamMonitor where
  /-- The maps and the queues. -/
  manager : StreamManager := {}
  /-- The mutex and where the calls of `receiveFrame` stand. -/
  monitor : Monitor := {}
  /-- The `notify_one` calls left to `addIncomingFrame` or `sendFrame`, while it holds the mutex. -/
  notifying : Option ℕ := none
  /-- The calls of `receiveFrame` that have taken a frame, with it, in order. -/
  received : List (ℕ × Frame) := []
  /-- The frames taken by `getNextOutgoingFrame`, in order. -/
  taken : List Frame := []

namespace StreamMonitor

/-- Steps of the threads.  `addIncomingFrame` and `sendFrame` stand for what these do to the queues;
nobody sees them before the mutex is released, so that the notifications may follow. -/
inductive Event
  | addIncomingFrame (frame : Frame)
  | sendFrame (frame : Frame)
  | notifyOne (woken : Option ℕ)
  | unlock
  | getNextOutgoingFrame
  | receiveFrame
  | lock (call : ℕ)
  | test (call : ℕ)
  | wait (call : ℕ)
  | spuriousWakeup (call : ℕ)
  | takeFrame (call : ℕ)

/-- One step; `getNextOutgoingFrame` is called after `hasOutgoingFrames` has returned `true`. -/
def step (shared : StreamMonitor) : Event → Option StreamMonitor
  | .addIncomingFrame frame =>
      if shared.monitor.locked then
        none
      else
        some { shared with
          manager := shared.manager.addIncomingFrame frame
          monitor := { shared.monitor with locked := true }
          notifying := some (shared.manager.add frame).1.length }
  | .sendFrame frame =>
      if shared.monitor.locked then
        none
      else
        some { shared with
          manager := shared.manager.sendFrame frame
          monitor := { shared.monitor with locked := true }
          notifying := some 1 }
  | .notifyOne woken =>
      match shared.notifying with
      | some (count + 1) =>
          (shared.monitor.notifyOne woken).map fun monitor =>
            { shared with monitor, notifying := some count }
      | _ => none
  | .unlock =>
      match shared.notifying with
      | some 0 =>
          some { shared with monitor := { shared.monitor with locked := false }, notifying := none }
      | _ => none
  | .getNextOutgoingFrame =>
      if shared.monitor.locked then
        none
      else
        shared.manager.getNextOutgoingFrame.map fun next =>
          { shared with manager := next.2, taken := shared.taken ++ [next.1] }
  | .receiveFrame =>
      some { shared with
        monitor := { shared.monitor with waiters := shared.monitor.waiters ++ [.locking] } }
  | .lock call =>
      (shared.monitor.step call .lock).map fun monitor => { shared with monitor }
  | .test call =>
      (shared.monitor.step call (.test shared.manager.incomingFrames.isEmpty)).map fun monitor =>
        { shared with monitor }
  | .wait call =>
      (shared.monitor.step call .wait).map fun monitor => { shared with monitor }
  | .spuriousWakeup call =>
      (shared.monitor.step call .wake).map fun monitor => { shared with monitor }
  | .takeFrame call =>
      match shared.manager.incomingFrames with
      | frame :: frames =>
          (shared.monitor.step call .leave).map fun monitor =>
            { shared with
              manager := { shared.manager with incomingFrames := frames }
              monitor
              received := shared.received ++ [(call, frame)] }
      | [] => none

/-- A stream manager and the threads that use it. -/
def system : EventSystem StreamMonitor Event where
  init := {}
  step := step

/-- What a step does, and when it is possible. -/
inductive Step (shared : StreamMonitor) : Event → StreamMonitor → Prop
  | addIncomingFrame (frame : Frame) (free : shared.monitor.locked = false) :
      Step shared (.addIncomingFrame frame)
        { shared with
          manager := shared.manager.addIncomingFrame frame
          monitor := { shared.monitor with locked := true }
          notifying := some (shared.manager.add frame).1.length }
  | sendFrame (frame : Frame) (free : shared.monitor.locked = false) :
      Step shared (.sendFrame frame)
        { shared with
          manager := shared.manager.sendFrame frame
          monitor := { shared.monitor with locked := true }
          notifying := some 1 }
  | notifyOne {woken : Option ℕ} {count : ℕ} {monitor : Monitor}
      (notifying : shared.notifying = some (count + 1))
      (notified : shared.monitor.notifyOne woken = some monitor) :
      Step shared (.notifyOne woken) { shared with monitor, notifying := some count }
  | unlock (notifying : shared.notifying = some 0) :
      Step shared .unlock
        { shared with monitor := { shared.monitor with locked := false }, notifying := none }
  | getNextOutgoingFrame {frame : Frame} {frames : List Frame}
      (free : shared.monitor.locked = false)
      (queue : shared.manager.outgoingFrames = frame :: frames) :
      Step shared .getNextOutgoingFrame
        { shared with
          manager := { shared.manager with outgoingFrames := frames }
          taken := shared.taken ++ [frame] }
  | receiveFrame :
      Step shared .receiveFrame
        { shared with
          monitor := { shared.monitor with waiters := shared.monitor.waiters ++ [.locking] } }
  | lock {call : ℕ} {monitor : Monitor} (moved : shared.monitor.step call .lock = some monitor) :
      Step shared (.lock call) { shared with monitor }
  | test {call : ℕ} {monitor : Monitor}
      (moved : shared.monitor.step call (.test shared.manager.incomingFrames.isEmpty) =
        some monitor) :
      Step shared (.test call) { shared with monitor }
  | wait {call : ℕ} {monitor : Monitor} (moved : shared.monitor.step call .wait = some monitor) :
      Step shared (.wait call) { shared with monitor }
  | spuriousWakeup {call : ℕ} {monitor : Monitor}
      (moved : shared.monitor.step call .wake = some monitor) :
      Step shared (.spuriousWakeup call) { shared with monitor }
  | takeFrame {call : ℕ} {frame : Frame} {frames : List Frame} {monitor : Monitor}
      (queue : shared.manager.incomingFrames = frame :: frames)
      (moved : shared.monitor.step call .leave = some monitor) :
      Step shared (.takeFrame call)
        { shared with
          manager := { shared.manager with incomingFrames := frames }
          monitor
          received := shared.received ++ [(call, frame)] }

theorem step_eq_some_iff {shared next : StreamMonitor} {event : Event} :
    shared.step event = some next ↔ Step shared event next := by
  constructor
  · intro stepped
    cases event with
    | addIncomingFrame frame =>
        obtain ⟨free, ⟨⟩⟩ := Option.ite_none_left_eq_some.mp stepped
        exact .addIncomingFrame frame (Bool.eq_false_iff.mpr free)
    | sendFrame frame =>
        obtain ⟨free, ⟨⟩⟩ := Option.ite_none_left_eq_some.mp stepped
        exact .sendFrame frame (Bool.eq_false_iff.mpr free)
    | notifyOne woken =>
        simp only [step] at stepped
        split at stepped
        · rename_i notifying
          obtain ⟨monitor, notified, rfl⟩ := Option.map_eq_some_iff.mp stepped
          exact .notifyOne notifying notified
        · contradiction
    | unlock =>
        simp only [step] at stepped
        split at stepped
        · rename_i notifying
          obtain rfl := Option.some.inj stepped
          exact .unlock notifying
        · contradiction
    | getNextOutgoingFrame =>
        obtain ⟨free, taken⟩ := Option.ite_none_left_eq_some.mp stepped
        obtain ⟨found, found_eq, rfl⟩ := Option.map_eq_some_iff.mp taken
        cases queue : shared.manager.outgoingFrames with
        | nil => simp [StreamManager.getNextOutgoingFrame, queue] at found_eq
        | cons first rest =>
            simp only [StreamManager.getNextOutgoingFrame, queue, Option.some.injEq] at found_eq
            subst found_eq
            exact .getNextOutgoingFrame (Bool.eq_false_iff.mpr free) queue
    | receiveFrame =>
        obtain rfl := Option.some.inj stepped
        exact .receiveFrame
    | lock call =>
        obtain ⟨monitor, moved, rfl⟩ := Option.map_eq_some_iff.mp stepped
        exact .lock moved
    | test call =>
        obtain ⟨monitor, moved, rfl⟩ := Option.map_eq_some_iff.mp stepped
        exact .test moved
    | wait call =>
        obtain ⟨monitor, moved, rfl⟩ := Option.map_eq_some_iff.mp stepped
        exact .wait moved
    | spuriousWakeup call =>
        obtain ⟨monitor, moved, rfl⟩ := Option.map_eq_some_iff.mp stepped
        exact .spuriousWakeup moved
    | takeFrame call =>
        simp only [step] at stepped
        split at stepped
        · rename_i queue
          obtain ⟨monitor, moved, rfl⟩ := Option.map_eq_some_iff.mp stepped
          exact .takeFrame queue moved
        · contradiction
  · intro stepped
    cases stepped with
    | addIncomingFrame frame free | sendFrame frame free => simp [step, free]
    | notifyOne notifying notified => simp [step, notifying, notified]
    | unlock notifying => simp [step, notifying]
    | getNextOutgoingFrame free queue =>
        simp [step, free, StreamManager.getNextOutgoingFrame, queue]
    | receiveFrame => rfl
    | lock moved | test moved | wait moved | spuriousWakeup moved => simp [step, moved]
    | takeFrame queue moved => simp [step, queue, moved]

/-! ## Every frame is received once -/

/-- The frames given to `addIncomingFrame`. -/
def arrivals (trace : List Event) : List Frame :=
  trace.filterMap fun
    | .addIncomingFrame frame => some frame
    | _ => none

/-- The frames given to `sendFrame`. -/
def sentFrames (trace : List Event) : List Frame :=
  trace.filterMap fun
    | .sendFrame frame => some frame
    | _ => none

/-- The queues hold what has been released, or sent, and not taken. -/
structure Accounts (trace : List Event) (shared : StreamMonitor) : Prop where
  reassembly :
    shared.manager.toReassembly = (StreamManager.receiveAll (arrivals trace)).toReassembly
  incoming : shared.received.map Prod.snd ++ shared.manager.incomingFrames =
    (StreamManager.receiveAll (arrivals trace)).incomingFrames
  outgoing : shared.taken ++ shared.manager.outgoingFrames = sentFrames trace

theorem receiveAll_concat (arrived : List Frame) (frame : Frame) :
    StreamManager.receiveAll (arrived ++ [frame]) =
      (StreamManager.receiveAll arrived).addIncomingFrame frame := by
  rw [StreamManager.receiveAll, List.foldl_concat, StreamManager.receiveAll]

theorem Accounts.step {trace : List Event} {shared next : StreamMonitor} {event : Event}
    (accounts : shared.Accounts trace) (stepped : Step shared event next) :
    next.Accounts (trace ++ [event]) := by
  obtain ⟨reassembly, incoming, outgoing⟩ := accounts
  cases stepped with
  | addIncomingFrame frame =>
      have arrived : arrivals (trace ++ [.addIncomingFrame frame]) = arrivals trace ++ [frame] := by
        simp [arrivals]
      refine ⟨?_, ?_, ?_⟩
      · rw [arrived, receiveAll_concat]
        simp only [StreamManager.addIncomingFrame, reassembly]
      · rw [arrived, receiveAll_concat]
        simp only [StreamManager.addIncomingFrame, ← incoming, ← reassembly, List.append_assoc]
      · simpa [sentFrames, StreamManager.addIncomingFrame] using outgoing
  | sendFrame frame =>
      refine ⟨?_, ?_, ?_⟩
      · simpa [arrivals, StreamManager.sendFrame] using reassembly
      · simpa [arrivals, StreamManager.sendFrame] using incoming
      · simp only [sentFrames] at outgoing
        simp [sentFrames, StreamManager.sendFrame, ← outgoing]
  | getNextOutgoingFrame free queue =>
      refine ⟨by simpa [arrivals] using reassembly, by simpa [arrivals] using incoming, ?_⟩
      simpa [sentFrames, queue] using outgoing
  | takeFrame queue =>
      refine ⟨by simpa [arrivals] using reassembly, ?_, by simpa [sentFrames] using outgoing⟩
      simpa [arrivals, queue] using incoming
  | notifyOne | unlock | receiveFrame | lock | test | wait | spuriousWakeup =>
      refine ⟨?_, ?_, by simpa [sentFrames] using outgoing⟩
      · simpa [arrivals] using reassembly
      · simpa [arrivals] using incoming

/-! ## The monitor -/

/-- The mutex excludes, no notification is missing, and a call is outside exactly if it has
received a frame. -/
structure Consistent (shared : StreamMonitor) : Prop where
  exclusive : shared.monitor.Exclusive (if shared.notifying.isSome then 1 else 0)
  served : shared.monitor.Served shared.manager.incomingFrames.length (shared.notifying.getD 0)
  tested : shared.monitor.Tested shared.manager.incomingFrames.isEmpty
  nodup : (shared.received.map Prod.fst).Nodup
  returned : ∀ call, call ∈ shared.received.map Prod.fst ↔
    shared.monitor.waiters[call]? = some .outside

theorem Consistent.initial : Consistent {} where
  exclusive := rfl
  served := fun blocked => absurd blocked (by simp)
  tested := fun _ member => absurd member (by simp)
  nodup := List.nodup_nil
  returned := by simp

variable {shared next : StreamMonitor}

/-- A call moves within `receiveFrame`. -/
theorem Consistent.move (consistent : shared.Consistent) {call : ℕ} {event : Waiter.Event}
    {monitor : Monitor} (moved : shared.monitor.step call event = some monitor)
    (staying : event ≠ .leave) (inside : event ≠ .enter)
    (truly : ∀ condition, event = .test condition →
      condition = shared.manager.incomingFrames.isEmpty) :
    Consistent { shared with monitor } := by
  obtain ⟨exclusive, served, tested, nodup, returned⟩ := consistent
  obtain ⟨waiter, after, locked, found, step, -, rfl⟩ := Monitor.step_eq_some_iff.mp moved
  refine ⟨exclusive.step moved, ?_, tested.step moved ?_, nodup, fun other => ?_⟩
  · have later := served.step moved fun tests => ?_
    · rwa [if_neg staying] at later
    · rw [List.length_eq_zero_iff, ← List.isEmpty_iff]
      rcases tests with tests | rfl
      · exact (truly true tests).symm
      · cases step with
        | wait => exact (tested _ (List.mem_of_getElem? found)).1 rfl
  · intro tests
    have same := truly _ tests
    simp at same
  · rw [returned other, List.getElem?_set]
    split
    · rename_i same
      subst same
      rw [found]
      cases step with
      | enter => exact absurd rfl inside
      | leave => exact absurd rfl staying
      | lock | mustWait | mayLeave | wait | wake => simp
    · rfl

/-- A call takes the first frame and returns. -/
theorem Consistent.takeFrame (consistent : shared.Consistent) {call : ℕ} {frame : Frame}
    {frames : List Frame} {monitor : Monitor}
    (queue : shared.manager.incomingFrames = frame :: frames)
    (moved : shared.monitor.step call .leave = some monitor) :
    Consistent { shared with
      manager := { shared.manager with incomingFrames := frames }
      monitor
      received := shared.received ++ [(call, frame)] } := by
  obtain ⟨exclusive, served, tested, nodup, returned⟩ := consistent
  have exclusive_after := exclusive.step moved
  obtain ⟨waiter, after, locked, found, ⟨⟩, ⟨⟩, rfl⟩ := Monitor.step_eq_some_iff.mp moved
  have fresh : call ∉ shared.received.map Prod.fst := by
    rw [returned, found]
    simp
  refine ⟨exclusive_after, ?_, ?_, ?_, fun other => ?_⟩
  · have later := served.step moved fun tests => by simp at tests
    rw [if_pos rfl, queue, List.length_cons, Nat.add_sub_cancel] at later
    exact later
  · exact Monitor.tested_of_unheld (exclusive_after.unheld (.inr rfl)) _
  · rw [List.map_append, List.map_singleton, ← List.concat_eq_append]
    exact nodup.concat fresh
  · rw [List.map_append, List.map_singleton, List.mem_append, List.mem_singleton,
      List.getElem?_set, returned other]
    split
    · rename_i same
      subst same
      simp [(List.getElem?_eq_some_iff.mp found).1]
    · rename_i different
      simp [Ne.symm different]

/-- Another operation takes the mutex; it announces at least as many frames as it releases. -/
theorem Consistent.produce (consistent : shared.Consistent) (free : shared.monitor.locked = false)
    {manager : StreamManager} {released : List Frame} {count : ℕ}
    (grown : manager.incomingFrames = shared.manager.incomingFrames ++ released)
    (announced : released.length ≤ count) :
    Consistent { shared with
      manager
      monitor := { shared.monitor with locked := true }
      notifying := some count } := by
  obtain ⟨exclusive, served, -, nodup, returned⟩ := consistent
  have idle : shared.notifying = none := by
    cases notifying : shared.notifying with
    | none => rfl
    | some count => simp [notifying, Monitor.Exclusive, free] at exclusive
  rw [idle] at exclusive served
  refine ⟨exclusive.acquire free, (served.produce count).mono ?_, ?_, nodup, returned⟩
  · rw [grown, List.length_append]
    exact Nat.add_le_add_left announced _
  · exact Monitor.tested_of_unheld (exclusive.unheld (.inr free)) _

theorem Consistent.step {event : Event} (consistent : shared.Consistent)
    (stepped : Step shared event next) : next.Consistent := by
  have ⟨exclusive, served, tested, nodup, returned⟩ := consistent
  cases stepped with
  | addIncomingFrame frame free => exact consistent.produce free rfl le_rfl
  | sendFrame frame free =>
      exact consistent.produce free (List.append_nil _).symm (Nat.zero_le 1)
  | notifyOne notifying notified =>
      rw [notifying] at exclusive served
      have exclusive_after := exclusive.notifyOne notified
      refine ⟨exclusive_after, served.notifyOne notified, ?_, nodup, fun call => ?_⟩
      · exact Monitor.tested_of_unheld (exclusive_after.unheld (.inl rfl)) _
      · rw [returned call, Monitor.outside_notifyOne_iff notified]
  | unlock notifying =>
      rw [notifying] at exclusive served
      refine ⟨exclusive.release, served, ?_, nodup, returned⟩
      exact Monitor.tested_of_unheld (exclusive.unheld (.inl rfl)) _
  | getNextOutgoingFrame => exact ⟨exclusive, served, tested, nodup, returned⟩
  | receiveFrame =>
      refine ⟨exclusive.enter, served.enter, tested.enter, nodup, fun call => ?_⟩
      rw [returned call, Monitor.outside_enter_iff]
  | lock moved | wait moved | spuriousWakeup moved =>
      exact consistent.move moved (by simp) (by simp) (by simp)
  | test moved => exact consistent.move moved (by simp) (by simp) (by simp)
  | takeFrame queue moved => exact consistent.takeFrame queue moved

theorem accounts_and_consistent_of_reaches {trace : List Event}
    (reached : system.Reaches trace shared) : shared.Accounts trace ∧ shared.Consistent := by
  refine reached.invariant (motive := fun trace shared => shared.Accounts trace ∧ shared.Consistent)
    ⟨⟨rfl, rfl, rfl⟩, Consistent.initial⟩ ?_
  rintro trace shared event next - ⟨accounts, consistent⟩ stepped
  have moved := step_eq_some_iff.mp stepped
  exact ⟨accounts.step moved, consistent.step moved⟩

/-- However the threads interleave and whomever the notifications wake: the frames received are
those released, in order, each by one call, which returns with it; the frames to send are taken in
the order of their `sendFrame` calls; no frame is taken from an empty queue; and no two calls hold
the mutex. -/
theorem frames_received_once (trace : List Event) (shared : StreamMonitor)
    (reached : system.Reaches trace shared) :
    shared.received.map Prod.snd ++ shared.manager.incomingFrames =
        (StreamManager.receiveAll (arrivals trace)).incomingFrames ∧
      shared.taken ++ shared.manager.outgoingFrames = sentFrames trace ∧
      (shared.received.map Prod.fst).Nodup ∧
      (∀ call, shared.monitor.waiters[call]? = some .outside ↔
        ∃ frame, (call, frame) ∈ shared.received) ∧
      (.leaving ∈ shared.monitor.waiters → shared.manager.incomingFrames ≠ []) ∧
      ∀ (first second : ℕ) (waiter other : Waiter),
        shared.monitor.waiters[first]? = some waiter → waiter.holding = 1 →
          shared.monitor.waiters[second]? = some other → other.holding = 1 → first = second := by
  obtain ⟨accounts, consistent⟩ := accounts_and_consistent_of_reaches reached
  refine ⟨accounts.incoming, accounts.outgoing, consistent.nodup, fun call => ?_, fun leaving => ?_,
    ?_⟩
  · rw [← consistent.returned call]
    simp
  · simpa using (consistent.tested _ leaving).2 rfl
  · intro first second waiter other found holds other_found other_holds
    have within : Waiter.holding waiter ≤ _ :=
      List.le_sum_of_mem (List.mem_map_of_mem (List.mem_of_getElem? found))
    cases notifying : shared.notifying with
    | none =>
        have exclusive := consistent.exclusive
        rw [notifying] at exclusive
        exact exclusive.holder found other_found holds other_holds
    | some count =>
        have exclusive := consistent.exclusive
        rw [notifying] at exclusive
        rw [exclusive.unheld (.inl rfl), holds] at within
        contradiction

/-- Two calls of `receiveFrame`: the frame that the first is woken for is taken by the second. -/
def overtaken : List Event :=
  [.receiveFrame, .lock 0, .test 0, .wait 0, .receiveFrame,
    .addIncomingFrame (Frame.create 1 0 [65]), .notifyOne (some 0), .unlock,
    .lock 1, .test 1, .takeFrame 1, .lock 0, .test 0]

theorem exists_reaches_overtaken :
    ∃ shared, system.Reaches overtaken shared ∧
      shared.received = [(1, Frame.create 1 0 [65])] ∧
      shared.monitor.waiters = [.waiting, .outside] := by
  have ran : (system.run {} overtaken).map (fun shared =>
      (shared.received, shared.monitor.waiters)) =
        some ([(1, Frame.create 1 0 [65])], [.waiting, .outside]) := by
    decide +kernel
  obtain ⟨shared, reached, observed⟩ := Option.map_eq_some_iff.mp ran
  obtain ⟨received_eq, waiters_eq⟩ := Prod.mk.inj observed
  exact ⟨shared, reached, received_eq, waiters_eq⟩

theorem frames_received_once_overtaken :
    ∃ shared, system.Reaches overtaken shared ∧
      Frame.create 1 0 [65] :: shared.manager.incomingFrames =
        (StreamManager.receiveAll [Frame.create 1 0 [65]]).incomingFrames := by
  obtain ⟨shared, reached, received_eq, -⟩ := exists_reaches_overtaken
  have accounted := (frames_received_once overtaken shared reached).1
  rw [received_eq] at accounted
  exact ⟨shared, reached, accounted⟩

/-! ## No call waits while a frame is there -/

/-- Steps of the calls of `receiveFrame` under way and of the operation which has the mutex. -/
def Event.Underway : Event → Prop
  | .notifyOne _ | .unlock | .lock _ | .test _ | .wait _ | .takeFrame _ => True
  | _ => False

/-- Every call waits or has returned, and no call waits while a frame is there. -/
def Settled (shared : StreamMonitor) : Prop :=
  (∀ waiter ∈ shared.monitor.waiters, waiter = .outside ∨ waiter = .blocked) ∧
    (.blocked ∈ shared.monitor.waiters → shared.manager.incomingFrames = [])

/-- Steps left until then; a notification may cost one waiter another round. -/
def work (shared : StreamMonitor) : ℕ :=
  (shared.notifying.elim 0 fun count => 4 * count + 1) +
    (shared.monitor.waiters.map Waiter.work).sum

theorem work_lt_of_underway {event : Event} (underway : event.Underway)
    (stepped : Step shared event next) : next.work < shared.work := by
  cases stepped with
  | notifyOne notifying notified =>
      have bounded := Monitor.work_notifyOne notified
      simp only [work, notifying, Option.elim]
      omega
  | unlock notifying => simp [work, notifying]
  | lock moved | test moved | wait moved | takeFrame _ moved =>
      exact Nat.add_lt_add_left (Monitor.work_step moved (by simp) (by simp)) _
  | addIncomingFrame | sendFrame | getNextOutgoingFrame | receiveFrame | spuriousWakeup =>
      exact underway.elim

theorem Consistent.settled_or_underway (consistent : shared.Consistent) :
    shared.Settled ∨ ∃ event next, event.Underway ∧ system.step shared event = some next := by
  obtain ⟨exclusive, served, tested, -, -⟩ := consistent
  cases notifying : shared.notifying with
  | some count =>
      right
      cases count with
      | zero => exact ⟨.unlock, _, trivial, step_eq_some_iff.mpr (.unlock notifying)⟩
      | succ count =>
          obtain ⟨woken, after, notified⟩ := shared.monitor.exists_notifyOne
          exact ⟨.notifyOne woken, _, trivial, step_eq_some_iff.mpr (.notifyOne notifying notified)⟩
  | none =>
      rw [notifying] at exclusive served
      rcases Monitor.at_rest_or_progresses exclusive shared.manager.incomingFrames.isEmpty with
        resting | ⟨call, event, after, inside, not_woken, truly, moved⟩
      · refine .inl ⟨resting, fun blocked => ?_⟩
        rcases served.at_rest resting with nothing | all_outside
        · exact List.length_eq_zero_iff.mp nothing
        · have outside := all_outside _ blocked
          contradiction
      · right
        cases event with
        | enter => exact absurd rfl inside
        | wake => exact absurd rfl not_woken
        | lock => exact ⟨.lock call, _, trivial, step_eq_some_iff.mpr (.lock moved)⟩
        | wait => exact ⟨.wait call, _, trivial, step_eq_some_iff.mpr (.wait moved)⟩
        | test condition =>
            obtain rfl : condition = shared.manager.incomingFrames.isEmpty := by simpa using truly
            exact ⟨.test call, _, trivial, step_eq_some_iff.mpr (.test moved)⟩
        | leave =>
            obtain ⟨_, _, _, found, ⟨⟩, -, -⟩ := Monitor.step_eq_some_iff.mp moved
            have nonempty := (tested _ (List.mem_of_getElem? found)).2 rfl
            obtain ⟨frame, frames, queue⟩ := List.exists_cons_of_ne_nil (by simpa using nonempty)
            exact ⟨.takeFrame call, _, trivial, step_eq_some_iff.mpr (.takeFrame queue moved)⟩

/-- From every reachable state, however the calls under way are scheduled and without a spurious
wakeup: they all return or come to wait, and none of them waits while a frame is there. -/
theorem receiveFrame_settles (trace : List Event) (shared : StreamMonitor)
    (reached : system.Reaches trace shared) :
    system.Inevitably Event.Underway Settled shared := by
  refine EventSystem.inevitably_of_variant work (motive := Consistent)
    (fun _ consistent => consistent.settled_or_underway) ?_ shared
    (accounts_and_consistent_of_reaches reached).2
  intro state event after consistent underway stepped
  have moved := step_eq_some_iff.mp stepped
  exact ⟨consistent.step moved, work_lt_of_underway underway moved⟩

theorem receiveFrame_settles_overtaken :
    ∃ shared, system.Reaches overtaken shared ∧
      shared.monitor.waiters = [.waiting, .outside] ∧
      system.Inevitably Event.Underway Settled shared := by
  obtain ⟨shared, reached, -, waiters_eq⟩ := exists_reaches_overtaken
  exact ⟨shared, reached, waiters_eq, receiveFrame_settles overtaken shared reached⟩

end StreamMonitor
end FramedTcp
