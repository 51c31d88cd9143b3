import FramedTcp.ConditionVariable
import FramedTcp.ServerWriter

/-!
# The mutex and the condition variable of a client handler

`ClientHandler::write` pushes to the queue under `write_mutex_` and notifies one thread;
`handleWrite` waits on `write_cv_` until the queue has something and then takes all of it.  Nothing
calls `ClientHandler::stop`, so `running_` is cleared by a failing `send` only.
-/

namespace FramedTcp

open EventSystems Monitors

/-- The write path of a client handler. -/
structure HandlerMonitor where
  /-- The queue, the batch and what has been transmitted. -/
  handler : ClientHandler
  /-- The descriptor `client_fd_`. -/
  clientFd : Int32
  /-- The flag `running_`. -/
  running : Bool := true
  /-- The write thread; it is `working` while it sends a batch. -/
  writeThread : Consumer := .looping

namespace HandlerMonitor

/-- Steps of the threads; a write stands for the critical section that ends with `notify_one`. -/
inductive Event
  | write (data : List UInt8)
  | writeRunning
  | lock
  | test
  | wait
  | spuriousWakeup
  | leave
  | send (sent : ℤ)
  | nextData
  | endBatch

/-- A step of the write thread between `lock` and the end of the loop around `wait`. -/
def move (monitor : HandlerMonitor) (event : Waiter.Event) : Option HandlerMonitor :=
  match monitor.writeThread with
  | .monitor waiter =>
      (waiter.step event).map fun after => { monitor with writeThread := .monitor after }
  | _ => none

/-- The write thread takes the whole queue. -/
def takeQueue (monitor : HandlerMonitor) : HandlerMonitor :=
  { monitor with
    handler := { monitor.handler with
      pendingData := monitor.handler.outgoingQueue
      outgoingQueue := [] }
    writeThread := .working }

/-- `send` fails, or it accepts some bytes; the descriptor `-1` accepts nothing. -/
def send (monitor : HandlerMonitor) (sent : ℤ) : Option HandlerMonitor :=
  match monitor.writeThread, monitor.handler.pendingData with
  | .working, data :: _ =>
      if monitor.handler.totalSent < data.length then
        if sent ≤ 0 then
          some { monitor with
            running := false
            writeThread := .returned }
        else if 0 ≤ monitor.clientFd then
          (monitor.handler.send sent.toNat).map fun handler => { monitor with handler }
        else
          none
      else
        none
  | _, _ => none

/-- One step. -/
def step (monitor : HandlerMonitor) : Event → Option HandlerMonitor
  | .write data =>
      if monitor.writeThread.Holds then
        none
      else
        some { monitor with
          handler := monitor.handler.write data
          writeThread := monitor.writeThread.notify }
  | .writeRunning =>
      if monitor.writeThread = .looping then
        some { monitor with
          writeThread := if monitor.running then .monitor .locking else .returned }
      else
        none
  | .lock => monitor.move .lock
  | .test => monitor.move (.test (monitor.running && monitor.handler.outgoingQueue.isEmpty))
  | .wait => monitor.move .wait
  | .spuriousWakeup => monitor.move .wake
  | .leave =>
      if monitor.writeThread = .monitor .leaving then
        some (if monitor.running then
          monitor.takeQueue
        else
          { monitor with writeThread := .returned })
      else
        none
  | .send sent => monitor.send sent
  | .nextData =>
      if monitor.writeThread = .working then
        monitor.handler.nextData.map fun handler => { monitor with handler }
      else
        none
  | .endBatch =>
      if monitor.writeThread = .working ∧ monitor.handler.pendingData = [] then
        some { monitor with writeThread := .looping }
      else
        none

/-- The write path of a client from its accept on. -/
def system (client : Int32) : EventSystem HandlerMonitor Event where
  init :=
    { handler := { id := client }
      clientFd := client }
  step := step

/-- What a step does, and when it is possible. -/
inductive Step (monitor : HandlerMonitor) : Event → HandlerMonitor → Prop
  | write (data : List UInt8) (free : ¬ monitor.writeThread.Holds) :
      Step monitor (.write data)
        { monitor with
          handler := monitor.handler.write data
          writeThread := monitor.writeThread.notify }
  | writeRunning (looping : monitor.writeThread = .looping) :
      Step monitor .writeRunning
        { monitor with
          writeThread := if monitor.running then .monitor .locking else .returned }
  | lock (locking : monitor.writeThread = .monitor .locking) :
      Step monitor .lock { monitor with writeThread := .monitor .testing }
  | mustWait (testing : monitor.writeThread = .monitor .testing) (running : monitor.running = true)
      (empty : monitor.handler.outgoingQueue = []) :
      Step monitor .test { monitor with writeThread := .monitor .waiting }
  | mayLeave (testing : monitor.writeThread = .monitor .testing)
      (found_false : monitor.running = false ∨ monitor.handler.outgoingQueue ≠ []) :
      Step monitor .test { monitor with writeThread := .monitor .leaving }
  | wait (waiting : monitor.writeThread = .monitor .waiting) :
      Step monitor .wait { monitor with writeThread := .monitor .blocked }
  | spuriousWakeup (blocked : monitor.writeThread = .monitor .blocked) :
      Step monitor .spuriousWakeup { monitor with writeThread := .monitor .locking }
  | takeQueue (leaving : monitor.writeThread = .monitor .leaving)
      (running : monitor.running = true) : Step monitor .leave monitor.takeQueue
  | leave (leaving : monitor.writeThread = .monitor .leaving) (ended : monitor.running = false) :
      Step monitor .leave { monitor with writeThread := .returned }
  | sendFailed {sent : ℤ} {data : List UInt8} {rest : List (List UInt8)}
      (sending : monitor.writeThread = .working)
      (pending : monitor.handler.pendingData = data :: rest)
      (unsent : monitor.handler.totalSent < data.length) (failure : sent ≤ 0) :
      Step monitor (.send sent)
        { monitor with
          running := false
          writeThread := .returned }
  | send {sent : ℤ} {data : List UInt8} {rest : List (List UInt8)} {handler : ClientHandler}
      (sending : monitor.writeThread = .working)
      (pending : monitor.handler.pendingData = data :: rest)
      (unsent : monitor.handler.totalSent < data.length) (positive : 0 < sent)
      (valid : 0 ≤ monitor.clientFd) (accepted : monitor.handler.send sent.toNat = some handler) :
      Step monitor (.send sent) { monitor with handler }
  | nextData {handler : ClientHandler} (sending : monitor.writeThread = .working)
      (finished : monitor.handler.nextData = some handler) :
      Step monitor .nextData { monitor with handler }
  | endBatch (sending : monitor.writeThread = .working)
      (finished : monitor.handler.pendingData = []) :
      Step monitor .endBatch { monitor with writeThread := .looping }

variable {client : Int32} {monitor next : HandlerMonitor} {event : Event} {trace : List Event}

theorem move_eq_some {event : Waiter.Event} (moved : monitor.move event = some next) :
    ∃ waiter after, monitor.writeThread = .monitor waiter ∧ Waiter.Step waiter event after ∧
      next = { monitor with writeThread := .monitor after } := by
  simp only [move] at moved
  split at moved
  · rename_i waiter inside
    obtain ⟨after, stepped, rfl⟩ := Option.map_eq_some_iff.mp moved
    exact ⟨waiter, after, inside, Waiter.step_eq_some_iff.mp stepped, rfl⟩
  · contradiction

theorem step_of_eq_some (stepped : (system client).step monitor event = some next) :
    Step monitor event next := by
  replace stepped : monitor.step event = some next := stepped
  cases event with
  | write data =>
      simp only [step] at stepped
      split at stepped
      · contradiction
      · rename_i free
        obtain rfl := Option.some.inj stepped
        exact .write data free
  | writeRunning =>
      obtain ⟨looping, ⟨⟩⟩ := Option.ite_none_right_eq_some.mp stepped
      exact .writeRunning looping
  | lock =>
      obtain ⟨_, _, locking, ⟨⟩, rfl⟩ := move_eq_some stepped
      exact .lock locking
  | test =>
      obtain ⟨waiter, after, testing, moved, rfl⟩ := move_eq_some stepped
      cases found : monitor.running && monitor.handler.outgoingQueue.isEmpty with
      | true =>
          rw [found] at moved
          obtain ⟨running, empty⟩ := Bool.and_eq_true_iff.mp found
          cases moved
          exact .mustWait testing running (List.isEmpty_iff.mp empty)
      | false =>
          rw [found] at moved
          cases moved
          rw [Bool.and_eq_false_iff, List.isEmpty_eq_false_iff] at found
          exact .mayLeave testing found
  | wait =>
      obtain ⟨_, _, waiting, ⟨⟩, rfl⟩ := move_eq_some stepped
      exact .wait waiting
  | spuriousWakeup =>
      obtain ⟨_, _, blocked, ⟨⟩, rfl⟩ := move_eq_some stepped
      exact .spuriousWakeup blocked
  | leave =>
      obtain ⟨leaving, ⟨⟩⟩ := Option.ite_none_right_eq_some.mp stepped
      split
      · rename_i running
        exact .takeQueue leaving running
      · rename_i ended
        exact .leave leaving (Bool.eq_false_iff.mpr ended)
  | send sent =>
      simp only [step, send] at stepped
      split at stepped
      · rename_i sending pending
        obtain ⟨unsent, result⟩ := Option.ite_none_right_eq_some.mp stepped
        split at result
        · rename_i failure
          obtain rfl := Option.some.inj result
          exact .sendFailed sending pending unsent failure
        · rename_i positive
          obtain ⟨valid, result⟩ := Option.ite_none_right_eq_some.mp result
          obtain ⟨handler, accepted, rfl⟩ := Option.map_eq_some_iff.mp result
          exact .send sending pending unsent (Int.not_le.mp positive) valid accepted
      · contradiction
  | nextData =>
      obtain ⟨sending, result⟩ := Option.ite_none_right_eq_some.mp stepped
      obtain ⟨handler, finished, rfl⟩ := Option.map_eq_some_iff.mp result
      exact .nextData sending finished
  | endBatch =>
      obtain ⟨⟨sending, finished⟩, ⟨⟩⟩ := Option.ite_none_right_eq_some.mp stepped
      exact .endBatch sending finished

theorem step_eq_some (stepped : Step monitor event next) :
    (system client).step monitor event = some next := by
  change monitor.step event = some next
  cases stepped with
  | write data free => exact if_neg free
  | writeRunning looping => exact if_pos looping
  | lock inside | wait inside | spuriousWakeup inside =>
      simp [step, move, inside, Waiter.step]
  | mustWait testing running empty => simp [step, move, testing, running, empty, Waiter.step]
  | mayLeave testing found_false =>
      have condition : (monitor.running && monitor.handler.outgoingQueue.isEmpty) = false := by
        rw [Bool.and_eq_false_iff, List.isEmpty_eq_false_iff]
        exact found_false
      simp [step, move, testing, condition, Waiter.step]
  | takeQueue leaving running => simp [step, leaving, running]
  | leave leaving ended => simp [step, leaving, ended]
  | sendFailed sending pending unsent failure =>
      simp [step, send, sending, pending, unsent, failure]
  | send sending pending unsent positive valid accepted =>
      simp [step, send, sending, pending, unsent, positive.not_ge, valid, accepted]
  | nextData sending finished => simp [step, sending, finished]
  | endBatch sending finished => exact if_pos ⟨sending, finished⟩

/-! ## What the write thread has found -/

/-- The write thread waits, or has found a reason not to, in accordance with the queue; nothing
pushed has gone missing. -/
structure Consistent (client : Int32) (monitor : HandlerMonitor) : Prop where
  clientFd_eq : monitor.clientFd = client
  delivers : monitor.handler.Delivers
  items : monitor.handler.pendingData ++ monitor.handler.outgoingQueue <:+ monitor.handler.pushed
  inside : monitor.writeThread ≠ .monitor .outside
  returned : monitor.writeThread = .returned ↔ monitor.running = false
  between : monitor.writeThread = .working ∨ monitor.writeThread = .returned ∨
    monitor.handler.pendingData = []
  waits : monitor.writeThread.Waits → monitor.handler.outgoingQueue = []
  leaving : monitor.writeThread = .monitor .leaving → monitor.handler.outgoingQueue ≠ []

namespace Consistent

theorem initial (client : Int32) : Consistent client (system client).init where
  clientFd_eq := rfl
  delivers := .initial client
  items := List.suffix_rfl
  inside := by simp [system]
  returned := by simp [system]
  between := .inr (.inr rfl)
  waits := fun waits => waits.elim
  leaving := by simp [system]

/-- The write thread moves between `lock` and `wait`, with the handler as it is. -/
theorem move (consistent : Consistent client monitor) {before after : Waiter}
    (inside : monitor.writeThread = .monitor before) (still_inside : after ≠ .outside)
    (waits : after.Waits → monitor.handler.outgoingQueue = [])
    (leaving : after = .leaving → monitor.handler.outgoingQueue ≠ []) :
    Consistent client { monitor with writeThread := .monitor after } := by
  obtain ⟨clientFd_eq, delivers, items, -, returned, between, -, -⟩ := consistent
  rw [inside] at returned between
  refine ⟨clientFd_eq, delivers, items, by simpa using still_inside, ?_, ?_, waits, ?_⟩
  · simpa using returned
  · simpa using between
  · simpa using leaving

/-- Data are given to `send`, or an item is done with. -/
theorem progress (consistent : Consistent client monitor) {handler : ClientHandler}
    (sending : monitor.writeThread = .working) (delivers : handler.Delivers)
    (pushed_eq : handler.pushed = monitor.handler.pushed)
    (items : handler.pendingData ++ handler.outgoingQueue <:+
      monitor.handler.pendingData ++ monitor.handler.outgoingQueue) :
    Consistent client { monitor with handler } where
  clientFd_eq := consistent.clientFd_eq
  delivers := delivers
  items := pushed_eq ▸ items.trans consistent.items
  inside := consistent.inside
  returned := consistent.returned
  between := .inl sending
  waits := by simp [sending, Consumer.Waits]
  leaving := by simp [sending]

theorem step (consistent : Consistent client monitor) (stepped : Step monitor event next) :
    Consistent client next := by
  have ⟨clientFd_eq, delivers, items, inside, returned, between, waits, leaving⟩ := consistent
  cases stepped with
  | write data free =>
      refine ⟨clientFd_eq, delivers.write data, ?_, Consumer.notify_ne_outside inside, ?_, ?_,
        fun waits => absurd waits (Consumer.not_waits_notify free),
        fun left => absurd left (Consumer.notify_ne_leaving free)⟩
      · obtain ⟨done, pushed_eq⟩ := items
        refine ⟨done, ?_⟩
        simp only [ClientHandler.write, ← List.append_assoc, ← pushed_eq]
      · rw [← returned]
        cases thread : monitor.writeThread <;> simp [Consumer.notify]
      · cases thread : monitor.writeThread with
        | working => exact .inl rfl
        | returned => exact .inr (.inl rfl)
        | looping | monitor =>
            rw [thread] at between
            exact .inr (.inr (by simpa [ClientHandler.write] using between))
  | writeRunning looping =>
      rw [looping] at returned between
      have running : monitor.running = true := by simpa using returned
      refine ⟨clientFd_eq, delivers, items, ?_, ?_, .inr (.inr (by simpa using between)), ?_, ?_⟩
      all_goals simp [running, Consumer.Waits, Waiter.Waits]
  | lock inside | spuriousWakeup inside =>
      exact consistent.move inside (by simp) (by simp [Waiter.Waits]) (by simp)
  | mustWait inside _ empty => exact consistent.move inside (by simp) (fun _ => empty) (by simp)
  | mayLeave inside found_false =>
      refine consistent.move inside (by simp) (by simp [Waiter.Waits]) fun _ => ?_
      refine found_false.resolve_left fun ended => ?_
      simp [returned.mpr ended] at inside
  | wait inside =>
      refine consistent.move inside (by simp) (fun _ => waits ?_) (by simp)
      rw [inside]
      exact .inl rfl
  | takeQueue left running =>
      have finished : monitor.handler.pendingData = [] := by simpa [left] using between
      have taken : monitor.handler.takeBatch = some monitor.takeQueue.handler :=
        ClientHandler.takeBatch_eq_some_iff.mpr ⟨⟨finished, leaving left⟩, rfl⟩
      refine ⟨clientFd_eq, delivers.takeBatch taken, ?_, ?_, ?_, .inl rfl, ?_, ?_⟩
      · rw [finished, List.nil_append] at items
        simpa [takeQueue] using items
      · simp [takeQueue]
      · simp [takeQueue, running]
      · simp [takeQueue, Consumer.Waits]
      · simp [takeQueue]
  | leave left ended => simp [returned.mpr ended] at left
  | sendFailed sending =>
      exact ⟨clientFd_eq, delivers, items, by simp, by simp, .inr (.inl rfl),
        by simp [Consumer.Waits], by simp⟩
  | send sending pending unsent positive valid accepted =>
      refine consistent.progress sending (delivers.send accepted) ?_ ?_
      · exact HandlerWriter.pushed_of_send accepted
      · obtain ⟨_, _, -, -, rfl⟩ := ClientHandler.send_eq_some_iff.mp accepted
        exact List.suffix_rfl
  | nextData sending finished =>
      refine consistent.progress sending (delivers.nextData finished) ?_ ?_
      · exact (HandlerWriter.nextData_same finished).2
      · obtain ⟨_, _, pending, -, rfl⟩ := ClientHandler.nextData_eq_some_iff.mp finished
        rw [pending]
        exact List.suffix_cons _ _
  | endBatch sending finished =>
      rw [sending] at returned
      exact ⟨clientFd_eq, delivers, items, by simp, by simpa using returned, .inr (.inr finished),
        by simp [Consumer.Waits], by simp⟩

end Consistent

theorem consistent_of_reaches (reached : (system client).Reaches trace monitor) :
    Consistent client monitor :=
  reached.invariant (motive := fun _ monitor => Consistent client monitor)
    (Consistent.initial client)
    fun _ consistent stepped => consistent.step (step_of_eq_some stepped)

/-! ## The write path without its monitor -/

/-- The write thread without its place between `lock` and `wait`. -/
def progress : Consumer → HandlerWriter.Progress
  | .looping => .testing
  | .monitor _ => .waiting
  | .working => .sending
  | .returned => .returned

/-- The write path without the mutex and the condition variable. -/
def writePath (monitor : HandlerMonitor) : HandlerWriter where
  handler := monitor.handler
  clientFd := monitor.clientFd
  running := monitor.running
  writer := progress monitor.writeThread

/-- What an event does there. -/
def Event.translate : Event → List HandlerWriter.Event
  | .write data => [.write data]
  | .writeRunning => [.testRunning]
  | .lock | .test | .wait | .spuriousWakeup => []
  | .leave => [.takeBatch]
  | .send sent => [.loadSocket, .send sent]
  | .nextData => [.nextData]
  | .endBatch => [.endBatch]

theorem progress_notify (thread : Consumer) : progress thread.notify = progress thread := by
  cases thread <;> rfl

/-- The write path takes the same steps without its monitor. -/
theorem run_translate (consistent : Consistent client monitor)
    (stepped : Step monitor event next) :
    (HandlerWriter.writePath client).run monitor.writePath event.translate =
      some next.writePath := by
  cases stepped with
  | write data free =>
      simp [Event.translate, EventSystem.run, HandlerWriter.writePath, HandlerWriter.step,
        writePath, progress_notify]
  | writeRunning looping =>
      cases running : monitor.running <;>
        simp [Event.translate, EventSystem.run, HandlerWriter.writePath, HandlerWriter.step,
          HandlerWriter.testRunning, writePath, looping, progress, running]
  | lock inside | spuriousWakeup inside | mustWait inside | mayLeave inside | wait inside =>
      simp [Event.translate, EventSystem.run, writePath, progress, inside]
  | takeQueue left running =>
      have finished : monitor.handler.pendingData = [] := by simpa [left] using consistent.between
      have taken : monitor.handler.takeBatch = some monitor.takeQueue.handler :=
        ClientHandler.takeBatch_eq_some_iff.mpr ⟨⟨finished, consistent.leaving left⟩, rfl⟩
      simp [Event.translate, EventSystem.run, HandlerWriter.writePath, HandlerWriter.step,
        HandlerWriter.takeBatch, writePath, left, progress, running, taken, takeQueue]
  | leave left ended => simp [consistent.returned.mpr ended] at left
  | sendFailed sending pending unsent failure =>
      simp [Event.translate, EventSystem.run, HandlerWriter.writePath, HandlerWriter.step,
        HandlerWriter.loadSocket, HandlerWriter.send, writePath, sending, pending, unsent, failure,
        progress]
  | send sending pending unsent positive valid accepted =>
      simp [Event.translate, EventSystem.run, HandlerWriter.writePath, HandlerWriter.step,
        HandlerWriter.loadSocket, HandlerWriter.send, writePath, sending, pending, unsent,
        positive.not_ge, valid, accepted, progress]
  | nextData sending finished =>
      simp [Event.translate, EventSystem.run, HandlerWriter.writePath, HandlerWriter.step,
        HandlerWriter.nextData, writePath, sending, finished, progress]
  | endBatch sending finished =>
      simp [Event.translate, EventSystem.run, HandlerWriter.writePath, HandlerWriter.step,
        HandlerWriter.endBatch, writePath, sending, finished, progress]

/-- The write path with its monitor is simulated by the one without. -/
def simulation (client : Int32) :
    (system client).Simulation (HandlerWriter.writePath client) where
  related monitor state := state = monitor.writePath
  translate := Event.translate
  related_init := rfl
  related_step := by
    rintro trace monitor event next _ reached rfl stepped
    exact ⟨_, run_translate (consistent_of_reaches reached) (step_of_eq_some stepped), rfl⟩

/-- The mutex and the condition variable add no behaviour: every run is one of the write path that
takes the queue whenever it has something.  No wakeup is lost: the write thread waits only when
everything pushed has been sent, and it never takes an empty batch. -/
theorem monitor_refines_writePath (client : Int32) (trace : List Event) (monitor : HandlerMonitor)
    (reached : (system client).Reaches trace monitor) :
    (HandlerWriter.writePath client).Reaches (trace.flatMap Event.translate) monitor.writePath ∧
      (monitor.writeThread.Waits →
        monitor.handler.transmitted = monitor.handler.pushed.flatten) ∧
      (monitor.writeThread = .monitor .leaving → monitor.handler.outgoingQueue ≠ []) := by
  have consistent := consistent_of_reaches reached
  refine ⟨?_, fun waits => ?_, consistent.leaving⟩
  · obtain ⟨state, followed, rfl⟩ := (simulation client).reaches reached
    exact followed
  · have finished : monitor.handler.pendingData = [] := by
      rcases consistent.between with thread | thread | finished
      · simp [thread, Consumer.Waits] at waits
      · simp [thread, Consumer.Waits] at waits
      · exact finished
    have transmitted_eq := consistent.delivers.transmitted_eq
    rw [finished, consistent.waits waits] at transmitted_eq
    simpa using transmitted_eq

/-- Data are pushed while the write thread is bound to wait, and again while it sends. -/
def pushedTwice : List Event :=
  [.writeRunning, .lock, .test, .wait, .write [1, 2, 3], .lock, .test, .leave, .send 2, .write [4],
    .send 1, .nextData]

theorem monitor_refines_writePath_twice :
    ∃ monitor, (system 4).Reaches pushedTwice monitor ∧
      monitor.handler.transmitted = [1, 2, 3] ∧ monitor.handler.outgoingQueue = [[4]] ∧
      (HandlerWriter.writePath 4).Reaches (pushedTwice.flatMap Event.translate)
        monitor.writePath :=
  ⟨_, rfl, rfl, rfl, (monitor_refines_writePath 4 pushedTwice _ rfl).1⟩

/-! ## Every item is sent -/

/-- Steps of the write thread. -/
def Event.OfWriter : Event → Prop
  | .write _ | .spuriousWakeup => False
  | _ => True

/-- Is the event anything but a failing `send`? -/
def Event.succeeds : Event → Bool
  | .send sent => 0 < sent
  | _ => true

/-- A client to which every `send` succeeds. -/
def reachable (client : Int32) : EventSystem HandlerMonitor Event :=
  (system client).restrict fun _ event => event.succeeds

/-- The items have been pushed, and no `send` has failed. -/
structure Active (client : Int32) (items : List (List UInt8)) (monitor : HandlerMonitor) :
    Prop where
  reached : ∃ trace, (system client).Reaches trace monitor
  pushed : items <+: monitor.handler.pushed
  running : monitor.running = true

/-- Moreover, not all of their bytes have been sent. -/
structure Pending (client : Int32) (items : List (List UInt8)) (monitor : HandlerMonitor) : Prop
    extends Active client items monitor where
  unsent : monitor.handler.transmitted.length < items.flatten.length

/-- Steps of the write thread up to the next item it works on. -/
def distance (monitor : HandlerMonitor) : ℕ :=
  if monitor.writeThread = .working ∧ monitor.handler.pendingData = [] then
    6
  else
    monitor.writeThread.distance

/-- The bytes and the items left of those pushed first, and the steps up to the next one. -/
def sendingWork (items : List (List UInt8)) (monitor : HandlerMonitor) : ℕ ×ₗ ℕ ×ₗ ℕ :=
  toLex (items.flatten.length - monitor.handler.transmitted.length,
    toLex (items.length + (monitor.handler.pendingData.length +
      monitor.handler.outgoingQueue.length) - monitor.handler.pushed.length, monitor.distance))

variable {items : List (List UInt8)}

namespace Active

theorem consistent (active : Active client items monitor) : Consistent client monitor := by
  obtain ⟨trace, reached⟩ := active.reached
  exact consistent_of_reaches reached

theorem step (active : Active client items monitor)
    (stepped : (reachable client).step monitor event = some next) : Active client items next := by
  obtain ⟨allowed, stepped⟩ := EventSystem.restrict_step_iff.mp stepped
  obtain ⟨⟨trace, reached⟩, pushed, running⟩ := active
  have later := EventSystem.reaches_concat.mpr ⟨monitor, reached, stepped⟩
  cases step_of_eq_some stepped with
  | sendFailed _ _ _ failure => exact absurd (of_decide_eq_true allowed) failure.not_gt
  | write => exact ⟨⟨_, later⟩, pushed.trans (List.prefix_append _ _), running⟩
  | send _ _ _ _ _ accepted =>
      exact ⟨⟨_, later⟩, HandlerWriter.pushed_of_send accepted ▸ pushed, running⟩
  | nextData _ finished =>
      exact ⟨⟨_, later⟩, (HandlerWriter.nextData_same finished).2 ▸ pushed, running⟩
  | _ => exact ⟨⟨_, later⟩, pushed, running⟩

end Active

namespace Pending

/-- The bytes that are missing wait in the batch or in the queue. -/
theorem not_empty (pending : Pending client items monitor)
    (finished : monitor.handler.pendingData = []) : monitor.handler.outgoingQueue ≠ [] := by
  intro empty
  have transmitted_eq := pending.consistent.delivers.transmitted_eq
  rw [finished, empty, List.flatten_nil, List.drop_nil, List.append_nil, List.append_nil]
    at transmitted_eq
  exact absurd pending.pushed.flatten.length_le (transmitted_eq ▸ Nat.not_le.mpr pending.unsent)

/-- Not all of the items have been taken out of the batch. -/
theorem unfinished (pending : Pending client items monitor) :
    monitor.handler.pushed.length < items.length + (monitor.handler.pendingData.length +
      monitor.handler.outgoingQueue.length) := by
  obtain ⟨done, pushed_eq⟩ := pending.consistent.items
  by_contra all_done
  have count_eq := congrArg List.length pushed_eq
  simp only [List.length_append] at count_eq
  have items_le : items <+: done := by
    refine List.prefix_of_prefix_length_le pending.pushed ?_ (by omega)
    rw [← pushed_eq]
    exact List.prefix_append _ _
  -- the bytes of items that are done with have been sent
  have bytes_eq := congrArg List.length pending.consistent.delivers.transmitted_eq
  rw [← pushed_eq, List.flatten_append, List.flatten_append] at bytes_eq
  simp only [List.length_append, List.length_drop] at bytes_eq
  have fewer := items_le.flatten.length_le
  have unsent := pending.unsent
  omega

/-- The write thread does not wait. -/
theorem awake (pending : Pending client items monitor) : ¬ monitor.writeThread.Waits := by
  intro waits
  have consistent := pending.consistent
  refine pending.not_empty ?_ (consistent.waits waits)
  rcases consistent.between with thread | thread | finished
  · simp [thread, Consumer.Waits] at waits
  · simp [thread, Consumer.Waits] at waits
  · exact finished

theorem not_returned (pending : Pending client items monitor) :
    monitor.writeThread ≠ .returned := by
  intro returned
  have ended := pending.consistent.returned.mp returned
  rw [pending.running] at ended
  contradiction

/-- Something is queued while the write thread is not at its batch. -/
theorem queued (pending : Pending client items monitor)
    (idle : monitor.writeThread ≠ .working) : monitor.handler.outgoingQueue ≠ [] :=
  pending.not_empty
    ((pending.consistent.between.resolve_left idle).resolve_left pending.not_returned)

/-- The write thread can go on. -/
theorem exists_step (pending : Pending client items monitor) (nonneg : 0 ≤ client) :
    ∃ event next, event.OfWriter ∧ (reachable client).step monitor event = some next := by
  have possible {event : Event} {next : HandlerMonitor} (stepped : Step monitor event next)
      (own : event.OfWriter) (allowed : event.succeeds = true) :
      ∃ event next, event.OfWriter ∧ (reachable client).step monitor event = some next :=
    ⟨event, next, own, EventSystem.restrict_step_iff.mpr ⟨allowed, step_eq_some stepped⟩⟩
  have consistent := pending.consistent
  cases thread : monitor.writeThread with
  | looping => exact possible (.writeRunning thread) trivial rfl
  | returned => exact absurd thread pending.not_returned
  | working =>
      cases batch : monitor.handler.pendingData with
      | nil => exact possible (.endBatch thread batch) trivial rfl
      | cons data rest =>
          have inside := consistent.delivers.totalSent_le
          rw [batch, List.headD_cons] at inside
          by_cases unsent : monitor.handler.totalSent < data.length
          · have accepted : monitor.handler.send (1 : ℤ).toNat = some _ :=
              ClientHandler.send_eq_some_iff.mpr ⟨data, rest, batch, ⟨Nat.one_pos, unsent⟩, rfl⟩
            exact possible (.send thread batch unsent Int.one_pos (consistent.clientFd_eq ▸ nonneg)
              accepted) trivial rfl
          · have finished : monitor.handler.nextData = some _ :=
              ClientHandler.nextData_eq_some_iff.mpr ⟨data, rest, batch, by omega, rfl⟩
            exact possible (.nextData thread finished) trivial rfl
  | monitor waiter =>
      cases waiter with
      | outside => exact absurd thread consistent.inside
      | locking => exact possible (.lock thread) trivial rfl
      | testing =>
          have queued := pending.queued (by simp [thread])
          exact possible (.mayLeave thread (.inr queued)) trivial rfl
      | leaving => exact possible (.takeQueue thread pending.running) trivial rfl
      | waiting | blocked =>
          exact absurd (by simp [thread, Consumer.Waits, Waiter.Waits]) pending.awake

/-- The write thread sends some bytes, is done with an item, or comes closer to the next one. -/
theorem own (pending : Pending client items monitor) (own : event.OfWriter)
    (allowed : event.succeeds = true) (stepped : Step monitor event next) :
    next.sendingWork items < monitor.sendingWork items := by
  have unsent := pending.unsent
  rw [sendingWork, sendingWork, Prod.Lex.toLex_lt_toLex, Prod.Lex.toLex_lt_toLex]
  cases stepped with
  | write | spuriousWakeup => exact own.elim
  | mustWait inside _ empty => exact absurd empty (pending.queued (by simp [inside]))
  | wait inside => exact absurd (by simp [inside, Consumer.Waits, Waiter.Waits]) pending.awake
  | leave _ ended => simp [pending.running] at ended
  | sendFailed _ _ _ failure => exact absurd (of_decide_eq_true allowed) failure.not_gt
  | send _ _ _ positive _ accepted =>
      left
      obtain ⟨data, rest, -, ⟨-, inside⟩, rfl⟩ := ClientHandler.send_eq_some_iff.mp accepted
      simp only [List.length_append, List.length_take, List.length_drop]
      omega
  | nextData _ finished =>
      have unfinished := pending.unfinished
      obtain ⟨data, rest, batch, -, rfl⟩ := ClientHandler.nextData_eq_some_iff.mp finished
      rw [batch, List.length_cons] at unfinished
      refine .inr ⟨rfl, .inl ?_⟩
      simp only [batch, List.length_cons]
      omega
  | endBatch sending finished =>
      exact .inr ⟨rfl, .inr ⟨rfl, by simp [distance, sending, finished, Consumer.distance]⟩⟩
  | takeQueue left =>
      have queued := pending.queued (by simp [left])
      have finished := (pending.consistent.between.resolve_left (by simp [left])).resolve_left
        pending.not_returned
      refine .inr ⟨rfl, .inr ⟨by simp [takeQueue, finished], ?_⟩⟩
      simp [distance, takeQueue, queued, left, Consumer.distance]
  | writeRunning inside | lock inside | mayLeave inside =>
      refine .inr ⟨rfl, .inr ⟨rfl, ?_⟩⟩
      simp [distance, inside, pending.running, Consumer.distance]

/-- What the others do leaves the write thread and its batch as they are. -/
theorem foreign (pending : Pending client items monitor) (foreign : ¬ event.OfWriter)
    (stepped : Step monitor event next) :
    next.handler.transmitted = monitor.handler.transmitted ∧
      next.sendingWork items = monitor.sendingWork items := by
  cases stepped with
  | spuriousWakeup blocked =>
      exact absurd (by simp [blocked, Consumer.Waits, Waiter.Waits]) pending.awake
  | write data =>
      have thread_eq : monitor.writeThread.notify = monitor.writeThread := by
        cases thread : monitor.writeThread with
        | monitor waiter =>
            cases waiter with
            | blocked =>
                exact absurd (by simp [thread, Consumer.Waits, Waiter.Waits]) pending.awake
            | _ => rfl
        | looping | working | returned => rfl
      -- one more item is pushed, and one more is queued
      have same : items.length + (monitor.handler.pendingData.length +
          (monitor.handler.outgoingQueue.length + 1)) - (monitor.handler.pushed.length + 1) =
          items.length + (monitor.handler.pendingData.length +
            monitor.handler.outgoingQueue.length) - monitor.handler.pushed.length := by
        omega
      refine ⟨rfl, ?_⟩
      simp only [sendingWork, distance, thread_eq, ClientHandler.write, List.length_append,
        List.length_singleton, same]
  | _ => exact absurd trivial foreign

end Pending

/-- While no `send` fails, everything pushed reaches the client after finitely many steps of the
write thread, in the order of the pushes, however `send` cuts it, whatever other threads push in the
meantime, and however often the write thread is woken for nothing. -/
theorem every_item_sent (client : Int32) (nonneg : 0 ≤ client) (trace : List Event)
    (monitor : HandlerMonitor) (reached : (system client).Reaches trace monitor)
    (running : monitor.running = true) :
    (reachable client).InevitablyAmid Event.OfWriter
      (fun later => monitor.handler.pushed.flatten <+: later.handler.transmitted) monitor := by
  refine EventSystem.inevitablyAmid_recorded (sendingWork monitor.handler.pushed)
    (fun later => later.handler.transmitted) monitor.handler.pushed.flatten
    (motive := Active client monitor.handler.pushed) ?_ ?_ ?_ ?_ ?_ monitor
    ⟨⟨trace, reached⟩, List.prefix_rfl, running⟩
  · exact fun _ active =>
      ⟨_, active.consistent.delivers.transmitted_le, active.pushed.flatten⟩
  · exact fun _ _ _ active stepped => active.step stepped
  · exact fun _ active unsent => Pending.exists_step ⟨active, unsent⟩ nonneg
  · intro _ _ _ active unsent own stepped
    obtain ⟨allowed, stepped⟩ := EventSystem.restrict_step_iff.mp stepped
    exact Pending.own ⟨active, unsent⟩ own allowed (step_of_eq_some stepped)
  · intro _ _ _ active unsent foreign stepped
    obtain ⟨transmitted_eq, work_eq⟩ := Pending.foreign ⟨active, unsent⟩ foreign
      (step_of_eq_some (EventSystem.restrict_step_iff.mp stepped).2)
    exact ⟨transmitted_eq, work_eq.le⟩

/-- In the state after `pushedTwice` one byte is still queued. -/
theorem every_item_sent_twice :
    ∃ monitor, (system 4).Reaches pushedTwice monitor ∧
      monitor.handler.transmitted = [1, 2, 3] ∧
      (reachable 4).InevitablyAmid Event.OfWriter
        (fun later => [1, 2, 3, 4] <+: later.handler.transmitted) monitor :=
  ⟨_, rfl, rfl, every_item_sent 4 (by decide) pushedTwice _ rfl rfl⟩

end HandlerMonitor
end FramedTcp
