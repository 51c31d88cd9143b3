import FramedTcp.ConditionVariable
import FramedTcp.Demo

/-!
# Stopping the demo client

`Client::stop` clears `running_`, joins the read thread and then the write thread, and closes the
socket.  It neither notifies `cv_` nor ends a `recv` under way.

Every call of `send` is taken to return.  It would block for as long as the server does not read,
and raise `SIGPIPE` once the server has closed the connection.
-/

namespace FramedTcp

open EventSystems Monitors

/-- Where `handleRead` stands. -/
inductive ClientProcess.ReadThread
  /-- It handles the parsed frames and then evaluates `running_`. -/
  | looping
  /-- It is in `recv`. -/
  | receiving
  /-- It has returned. -/
  | returned
  deriving DecidableEq

/-- How far `stop` has come. -/
inductive ClientProcess.Stopping
  | notCalled
  | joiningRead
  | joiningWrite
  | closing
  | stopped
  deriving DecidableEq

/-- A client whose `connect` has returned `true`. -/
structure ClientProcess where
  /-- The queues and the read thread's local state. -/
  client : Client := {}
  /-- The flag `running_`. -/
  running : Bool := true
  /-- The write thread; it is `working` while it sends a frame. -/
  writeThread : Consumer := .looping
  /-- The read thread. -/
  readThread : ClientProcess.ReadThread := .looping
  /-- The thread that calls `stop`. -/
  stopping : ClientProcess.Stopping := .notCalled
  /-- The frames given to `send`, in order. -/
  sent : List Frame := []

namespace ClientProcess

/-- Steps of the threads; a push stands for the critical section that ends with `notify_one`. -/
inductive Event
  | sendMessage (message : List UInt8) (streamId : UInt32)
  | push (frame : Frame)
  | writeRunning
  | lock
  | test
  | wait
  | spuriousWakeup
  | leave
  | send
  | readRunning
  | recv (chunk : List UInt8)
  | endOfStream
  | outputFrame
  | stop
  | joinRead
  | joinWrite
  | close

/-- A step of the write thread between `lock` and the end of the loop around `wait`. -/
def move (process : ClientProcess) (event : Waiter.Event) : Option ClientProcess :=
  match process.writeThread with
  | .monitor waiter =>
      (waiter.step event).map fun after => { process with writeThread := .monitor after }
  | _ => none

/-- One step; a call of `send` always returns. -/
def step (enableChecksum : Bool) (process : ClientProcess) : Event → Option ClientProcess
  | .sendMessage message streamId =>
      some { process with client := process.client.sendMessage message streamId }
  | .push frame =>
      if frame ∈ process.client.sending ∧ ¬ process.writeThread.Holds then
        some { process with
          client := process.client.push frame
          writeThread := process.writeThread.notify }
      else
        none
  | .writeRunning =>
      if process.writeThread = .looping then
        some { process with
          writeThread := if process.running then .monitor .locking else .returned }
      else
        none
  | .lock => process.move .lock
  | .test => process.move (.test (process.client.outgoingFrames.isEmpty && process.running))
  | .wait => process.move .wait
  | .spuriousWakeup => process.move .wake
  | .leave =>
      if process.writeThread = .monitor .leaving then
        if process.running then
          match process.client.outgoingFrames with
          | frame :: frames => some { process with
              client := process.client.pop frame frames
              writeThread := .working }
          | [] => none
        else
          some { process with writeThread := .returned }
      else
        none
  | .send =>
      match process.writeThread, process.client.writing with
      | .working, some frame => some { process with
          client := { process.client with writing := none }
          writeThread := .looping
          sent := process.sent ++ [frame] }
      | _, _ => none
  | .readRunning =>
      if process.readThread = .looping ∧ process.client.completedFrames = [] then
        some { process with readThread := if process.running then .receiving else .returned }
      else
        none
  | .recv chunk =>
      if process.readThread = .receiving ∧ chunk ≠ [] ∧ chunk.length ≤ 256 then
        some { process with client := process.client.readChunk chunk, readThread := .looping }
      else
        none
  | .endOfStream =>
      if process.readThread = .receiving then
        some { process with readThread := .returned }
      else
        none
  | .outputFrame =>
      match process.readThread, process.client.completedFrames with
      | .looping, frame :: frames => some { process with
          client := process.client.handleFrame enableChecksum frame frames }
      | _, _ => none
  | .stop =>
      if process.stopping = .notCalled then
        some { process with running := false, stopping := .joiningRead }
      else
        none
  | .joinRead =>
      if process.stopping = .joiningRead ∧ process.readThread = .returned then
        some { process with stopping := .joiningWrite }
      else
        none
  | .joinWrite =>
      if process.stopping = .joiningWrite ∧ process.writeThread = .returned then
        some { process with stopping := .closing }
      else
        none
  | .close =>
      if process.stopping = .closing then some { process with stopping := .stopped } else none

/-- A connected client, with the setting of `enable_checksum`. -/
def system (enableChecksum : Bool) : EventSystem ClientProcess Event where
  init := {}
  step := step enableChecksum

/-- What a step does, and when it is possible. -/
inductive Step (enableChecksum : Bool) (process : ClientProcess) : Event → ClientProcess → Prop
  | sendMessage (message : List UInt8) (streamId : UInt32) :
      Step enableChecksum process (.sendMessage message streamId)
        { process with client := process.client.sendMessage message streamId }
  | push {frame : Frame} (drawn : frame ∈ process.client.sending)
      (free : ¬ process.writeThread.Holds) :
      Step enableChecksum process (.push frame)
        { process with
          client := process.client.push frame
          writeThread := process.writeThread.notify }
  | writeRunning (looping : process.writeThread = .looping) :
      Step enableChecksum process .writeRunning
        { process with
          writeThread := if process.running then .monitor .locking else .returned }
  | lock (locking : process.writeThread = .monitor .locking) :
      Step enableChecksum process .lock { process with writeThread := .monitor .testing }
  | mustWait (testing : process.writeThread = .monitor .testing)
      (empty : process.client.outgoingFrames = []) (running : process.running = true) :
      Step enableChecksum process .test { process with writeThread := .monitor .waiting }
  | mayLeave (testing : process.writeThread = .monitor .testing)
      (found_false : process.client.outgoingFrames ≠ [] ∨ process.running = false) :
      Step enableChecksum process .test { process with writeThread := .monitor .leaving }
  | wait (waiting : process.writeThread = .monitor .waiting) :
      Step enableChecksum process .wait { process with writeThread := .monitor .blocked }
  | spuriousWakeup (blocked : process.writeThread = .monitor .blocked) :
      Step enableChecksum process .spuriousWakeup
        { process with writeThread := .monitor .locking }
  | takeFrame {frame : Frame} {frames : List Frame}
      (leaving : process.writeThread = .monitor .leaving) (running : process.running = true)
      (queue : process.client.outgoingFrames = frame :: frames) :
      Step enableChecksum process .leave
        { process with client := process.client.pop frame frames, writeThread := .working }
  | leave (leaving : process.writeThread = .monitor .leaving) (ended : process.running = false) :
      Step enableChecksum process .leave { process with writeThread := .returned }
  | send {frame : Frame} (sending : process.writeThread = .working)
      (writing : process.client.writing = some frame) :
      Step enableChecksum process .send
        { process with
          client := { process.client with writing := none }
          writeThread := .looping
          sent := process.sent ++ [frame] }
  | readRunning (looping : process.readThread = .looping)
      (handled : process.client.completedFrames = []) :
      Step enableChecksum process .readRunning
        { process with readThread := if process.running then .receiving else .returned }
  | recv {chunk : List UInt8} (receiving : process.readThread = .receiving)
      (nonempty : chunk ≠ []) (fits : chunk.length ≤ 256) :
      Step enableChecksum process (.recv chunk)
        { process with client := process.client.readChunk chunk, readThread := .looping }
  | endOfStream (receiving : process.readThread = .receiving) :
      Step enableChecksum process .endOfStream { process with readThread := .returned }
  | outputFrame {frame : Frame} {frames : List Frame} (looping : process.readThread = .looping)
      (parsed : process.client.completedFrames = frame :: frames) :
      Step enableChecksum process .outputFrame
        { process with client := process.client.handleFrame enableChecksum frame frames }
  | stop (uncalled : process.stopping = .notCalled) :
      Step enableChecksum process .stop
        { process with running := false, stopping := .joiningRead }
  | joinRead (joining : process.stopping = .joiningRead)
      (joined : process.readThread = .returned) :
      Step enableChecksum process .joinRead { process with stopping := .joiningWrite }
  | joinWrite (joining : process.stopping = .joiningWrite)
      (joined : process.writeThread = .returned) :
      Step enableChecksum process .joinWrite { process with stopping := .closing }
  | close (closing : process.stopping = .closing) :
      Step enableChecksum process .close { process with stopping := .stopped }

variable {enableChecksum : Bool} {process next : ClientProcess}

theorem move_eq_some {event : Waiter.Event} (moved : process.move event = some next) :
    ∃ waiter after, process.writeThread = .monitor waiter ∧ Waiter.Step waiter event after ∧
      next = { process with writeThread := .monitor after } := by
  simp only [move] at moved
  split at moved
  · rename_i waiter inside
    obtain ⟨after, stepped, rfl⟩ := Option.map_eq_some_iff.mp moved
    exact ⟨waiter, after, inside, Waiter.step_eq_some_iff.mp stepped, rfl⟩
  · contradiction

theorem step_of_eq_some {event : Event}
    (stepped : (system enableChecksum).step process event = some next) :
    Step enableChecksum process event next := by
  replace stepped : process.step enableChecksum event = some next := stepped
  cases event with
  | sendMessage message streamId =>
      obtain rfl := Option.some.inj stepped
      exact .sendMessage message streamId
  | push frame =>
      obtain ⟨⟨drawn, free⟩, ⟨⟩⟩ := Option.ite_none_right_eq_some.mp stepped
      exact .push drawn free
  | writeRunning =>
      obtain ⟨looping, ⟨⟩⟩ := Option.ite_none_right_eq_some.mp stepped
      exact .writeRunning looping
  | lock =>
      obtain ⟨_, _, locking, ⟨⟩, rfl⟩ := move_eq_some stepped
      exact .lock locking
  | test =>
      obtain ⟨waiter, after, testing, moved, rfl⟩ := move_eq_some stepped
      cases found : process.client.outgoingFrames.isEmpty && process.running with
      | true =>
          rw [found] at moved
          obtain ⟨empty, running⟩ := Bool.and_eq_true_iff.mp found
          cases moved
          exact .mustWait testing (List.isEmpty_iff.mp empty) running
      | false =>
          rw [found] at moved
          cases moved
          rw [Bool.and_eq_false_iff, List.isEmpty_eq_false_iff] at found
          exact .mayLeave testing found
  | wait =>
      obtain ⟨_, _, waiting, ⟨⟩, rfl⟩ := move_eq_some stepped
      exact .wait waiting
  | spuriousWakeup =>
      obtain ⟨_, _, blocked, ⟨⟩, rfl⟩ := move_eq_some stepped
      exact .spuriousWakeup blocked
  | leave =>
      obtain ⟨leaving, left⟩ := Option.ite_none_right_eq_some.mp stepped
      split at left
      · rename_i running
        split at left
        · rename_i queue
          obtain rfl := Option.some.inj left
          exact .takeFrame leaving running queue
        · contradiction
      · rename_i ended
        obtain rfl := Option.some.inj left
        exact .leave leaving (Bool.eq_false_iff.mpr ended)
  | send =>
      simp only [step] at stepped
      split at stepped
      · rename_i sending writing
        obtain rfl := Option.some.inj stepped
        exact .send sending writing
      · contradiction
  | readRunning =>
      obtain ⟨⟨looping, handled⟩, ⟨⟩⟩ := Option.ite_none_right_eq_some.mp stepped
      exact .readRunning looping handled
  | recv chunk =>
      obtain ⟨⟨receiving, nonempty, fits⟩, ⟨⟩⟩ := Option.ite_none_right_eq_some.mp stepped
      exact .recv receiving nonempty fits
  | endOfStream =>
      obtain ⟨receiving, ⟨⟩⟩ := Option.ite_none_right_eq_some.mp stepped
      exact .endOfStream receiving
  | outputFrame =>
      simp only [step] at stepped
      split at stepped
      · rename_i looping parsed
        obtain rfl := Option.some.inj stepped
        exact .outputFrame looping parsed
      · contradiction
  | stop =>
      obtain ⟨uncalled, ⟨⟩⟩ := Option.ite_none_right_eq_some.mp stepped
      exact .stop uncalled
  | joinRead =>
      obtain ⟨⟨joining, joined⟩, ⟨⟩⟩ := Option.ite_none_right_eq_some.mp stepped
      exact .joinRead joining joined
  | joinWrite =>
      obtain ⟨⟨joining, joined⟩, ⟨⟩⟩ := Option.ite_none_right_eq_some.mp stepped
      exact .joinWrite joining joined
  | close =>
      obtain ⟨closing, ⟨⟩⟩ := Option.ite_none_right_eq_some.mp stepped
      exact .close closing

theorem step_eq_some {event : Event} (stepped : Step enableChecksum process event next) :
    (system enableChecksum).step process event = some next := by
  change process.step enableChecksum event = some next
  cases stepped with
  | sendMessage => rfl
  | push drawn free => exact if_pos ⟨drawn, free⟩
  | writeRunning looping => exact if_pos looping
  | lock inside | wait inside | spuriousWakeup inside =>
      simp [step, move, inside, Waiter.step]
  | mustWait testing empty running => simp [step, move, testing, empty, running, Waiter.step]
  | mayLeave testing found_false =>
      have condition : (process.client.outgoingFrames.isEmpty && process.running) = false := by
        rw [Bool.and_eq_false_iff, List.isEmpty_eq_false_iff]
        exact found_false
      simp [step, move, testing, condition, Waiter.step]
  | takeFrame leaving running queue => simp [step, leaving, running, queue]
  | leave leaving ended => simp [step, leaving, ended]
  | send sending writing => simp [step, sending, writing]
  | readRunning looping handled => exact if_pos ⟨looping, handled⟩
  | recv receiving nonempty fits => exact if_pos ⟨receiving, nonempty, fits⟩
  | endOfStream receiving => exact if_pos receiving
  | outputFrame looping parsed => simp [step, looping, parsed]
  | stop uncalled => exact if_pos uncalled
  | joinRead joining joined | joinWrite joining joined => exact if_pos ⟨joining, joined⟩
  | close closing => exact if_pos closing

/-! ## Frames and threads -/

/-- The frames pushed. -/
def pushed (trace : List Event) : List Frame :=
  trace.filterMap fun
    | .push frame => some frame
    | _ => none

/-- What the write thread has found about its queue still holds, and no frame has gone missing. -/
structure WriteSide (trace : List Event) (process : ClientProcess) : Prop where
  order : process.sent ++ process.client.writing.toList ++ process.client.outgoingFrames =
    pushed trace
  sending : process.client.writing.isSome = true ↔ process.writeThread = .working
  inside : process.writeThread ≠ .monitor .outside
  waits : process.writeThread.Waits → process.client.outgoingFrames = []
  leaving : process.writeThread = .monitor .leaving → process.running = true →
    process.client.outgoingFrames ≠ []

theorem WriteSide.of_same {trace : List Event} {event : Event}
    (writeSide : process.WriteSide trace) (thread_eq : next.writeThread = process.writeThread)
    (sent_eq : next.sent = process.sent) (writing_eq : next.client.writing = process.client.writing)
    (queue_eq : next.client.outgoingFrames = process.client.outgoingFrames)
    (running_of : next.running = true → process.running = true)
    (quiet : ∀ frame, event ≠ .push frame) : next.WriteSide (trace ++ [event]) := by
  have same : pushed (trace ++ [event]) = pushed trace := by
    cases event with
    | push frame => exact absurd rfl (quiet frame)
    | _ => simp [pushed]
  obtain ⟨order, sending, inside, waits, leaving⟩ := writeSide
  constructor
  · rw [sent_eq, writing_eq, queue_eq, same, order]
  · rw [writing_eq, thread_eq, sending]
  · rw [thread_eq]
    exact inside
  · rw [thread_eq, queue_eq]
    exact waits
  · rw [thread_eq, queue_eq]
    exact fun left running => leaving left (running_of running)

/-- The write thread moves without touching its queue. -/
theorem WriteSide.move {trace : List Event} {event : Event} {thread : Consumer}
    (writeSide : process.WriteSide trace) (before : process.writeThread ≠ .working)
    (after : thread ≠ .working) (inside : thread ≠ .monitor .outside)
    (waits : thread.Waits → process.client.outgoingFrames = [])
    (leaving : thread = .monitor .leaving → process.running = true →
      process.client.outgoingFrames ≠ [])
    (quiet : pushed (trace ++ [event]) = pushed trace) :
    WriteSide (trace ++ [event]) { process with writeThread := thread } := by
  refine ⟨by rw [quiet]; exact writeSide.order, ?_, inside, waits, leaving⟩
  rw [writeSide.sending]
  exact iff_of_false before after

theorem WriteSide.step {trace : List Event} {event : Event} (writeSide : process.WriteSide trace)
    (stepped : Step enableChecksum process event next) : next.WriteSide (trace ++ [event]) := by
  have ⟨order, sending, inside, waits, leaving⟩ := writeSide
  cases stepped with
  | sendMessage | readRunning | recv | endOfStream | outputFrame | joinRead | joinWrite | close =>
      exact writeSide.of_same rfl rfl rfl rfl id (by simp)
  | stop => exact writeSide.of_same rfl rfl rfl rfl (by simp) (by simp)
  | @push frame drawn free =>
      have grown : pushed (trace ++ [.push frame]) = pushed trace ++ [frame] := by simp [pushed]
      refine ⟨?_, ?_, Consumer.notify_ne_outside inside,
        fun waits => absurd waits (Consumer.not_waits_notify free),
        fun left => absurd left (Consumer.notify_ne_leaving free)⟩
      · rw [grown, ← order, List.append_assoc _ _ [frame]]
        rfl
      · rw [Consumer.notify_eq_working_iff]
        exact sending
  | writeRunning looping =>
      refine writeSide.move (by simp [looping]) ?_ ?_ ?_ ?_ (by simp [pushed])
      all_goals split <;> simp [Consumer.Waits, Waiter.Waits]
  | lock inside =>
      exact writeSide.move (by simp [inside]) (by simp) (by simp)
        (by simp [Consumer.Waits, Waiter.Waits]) (by simp) (by simp [pushed])
  | mustWait testing empty =>
      exact writeSide.move (by simp [testing]) (by simp) (by simp) (fun _ => empty) (by simp)
        (by simp [pushed])
  | mayLeave testing found_false =>
      refine writeSide.move (by simp [testing]) (by simp) (by simp)
        (by simp [Consumer.Waits, Waiter.Waits]) (fun _ running => ?_) (by simp [pushed])
      exact found_false.resolve_right (by simp [running])
  | wait waiting =>
      refine writeSide.move (by simp [waiting]) (by simp) (by simp) (fun _ => waits ?_) (by simp)
        (by simp [pushed])
      rw [waiting]
      exact .inl rfl
  | spuriousWakeup blocked =>
      exact writeSide.move (by simp [blocked]) (by simp) (by simp)
        (by simp [Consumer.Waits, Waiter.Waits]) (by simp) (by simp [pushed])
  | takeFrame left running queue =>
      have idle : process.client.writing = none := by
        cases writing : process.client.writing with
        | none => rfl
        | some frame => simp [left, writing] at sending
      refine ⟨?_, by simp [Client.pop], by simp, by simp [Consumer.Waits], by simp⟩
      rw [idle, queue] at order
      simpa [pushed, Client.pop] using order
  | leave left ended =>
      exact writeSide.move (by simp [left]) (by simp) (by simp) (by simp [Consumer.Waits])
        (by simp) (by simp [pushed])
  | send taken writing =>
      refine ⟨?_, by simp, by simp, by simp [Consumer.Waits], by simp⟩
      rw [writing] at order
      simpa [pushed] using order

/-- `stop` has cleared `running_`, and goes on when a thread has returned. -/
structure Joined (process : ClientProcess) : Prop where
  cleared : process.running = false ↔ process.stopping ≠ .notCalled
  read : process.stopping ≠ .notCalled → process.stopping ≠ .joiningRead →
    process.readThread = .returned
  write : process.stopping = .closing ∨ process.stopping = .stopped →
    process.writeThread = .returned

theorem Joined.step {event : Event} (joined : process.Joined)
    (stepped : Step enableChecksum process event next) : next.Joined := by
  have ⟨cleared, read, write⟩ := joined
  -- `stop` only goes on, and a thread that has returned takes no step.
  cases stepped with
  | sendMessage | outputFrame => exact ⟨cleared, read, write⟩
  | push => exact ⟨cleared, read, fun stopping => Consumer.notify_eq_returned (write stopping)⟩
  | writeRunning inside | lock inside | mustWait inside | mayLeave inside | wait inside
  | spuriousWakeup inside | takeFrame inside | leave inside | send inside =>
      refine ⟨cleared, read, fun stopping => ?_⟩
      exact absurd ((write stopping).symm.trans inside) (by simp)
  | readRunning inside | recv inside | endOfStream inside =>
      refine ⟨cleared, fun called joining => ?_, write⟩
      exact absurd ((read called joining).symm.trans inside) (by simp)
  | stop uncalled => exact ⟨by simp, by simp, by simp⟩
  | joinRead joining returned =>
      refine ⟨?_, fun _ _ => returned, by simp⟩
      rw [cleared, joining]
      simp
  | joinWrite joining returned =>
      refine ⟨?_, fun _ _ => read (by simp [joining]) (by simp [joining]), fun _ => returned⟩
      rw [cleared, joining]
      simp
  | close closing =>
      refine ⟨?_, fun _ _ => read (by simp [closing]) (by simp [closing]),
        fun _ => write (.inl closing)⟩
      rw [cleared, closing]
      simp

theorem WriteSide.initial : WriteSide [] {} where
  order := rfl
  sending := by simp
  inside := by simp
  waits := by simp [Consumer.Waits]
  leaving := by simp

theorem Joined.initial : Joined {} where
  cleared := by simp
  read := by simp
  write := by simp

theorem writeSide_and_joined_of_reaches {trace : List Event}
    (reached : (system enableChecksum).Reaches trace process) :
    process.WriteSide trace ∧ process.Joined := by
  refine reached.invariant (motive := fun trace process => process.WriteSide trace ∧ process.Joined)
    ⟨WriteSide.initial, Joined.initial⟩ ?_
  rintro trace process event next - ⟨writeSide, joined⟩ stepped
  have moved := step_of_eq_some stepped
  exact ⟨writeSide.step moved, joined.step moved⟩

/-- In every reachable state the frames given to `send` are those pushed, in order, without the one
being sent and those queued; the write thread waits only while its queue is empty, and takes no
frame from an empty queue.  When `stop` closes the socket both threads have returned, and the frames
still queued are all that is left of those pushed. -/
theorem frames_sent_until_stopped (enableChecksum : Bool) (trace : List Event)
    (process : ClientProcess) (reached : (system enableChecksum).Reaches trace process) :
    process.sent ++ process.client.writing.toList ++ process.client.outgoingFrames = pushed trace ∧
      (process.writeThread.Waits → process.client.outgoingFrames = []) ∧
      (process.writeThread = .monitor .leaving → process.running = true →
        process.client.outgoingFrames ≠ []) ∧
      (process.stopping = .closing ∨ process.stopping = .stopped →
        process.readThread = .returned ∧ process.writeThread = .returned ∧
          process.sent ++ process.client.outgoingFrames = pushed trace) := by
  obtain ⟨writeSide, joined⟩ := writeSide_and_joined_of_reaches reached
  refine ⟨writeSide.order, writeSide.waits, writeSide.leaving, fun stopping => ?_⟩
  have returned := joined.write stopping
  have idle : process.client.writing = none := by
    rw [← Option.not_isSome_iff_eq_none, writeSide.sending, returned]
    simp
  refine ⟨?_, returned, ?_⟩
  · rcases stopping with closing | stopped
    · exact joined.read (by simp [closing]) (by simp [closing])
    · exact joined.read (by simp [stopped]) (by simp [stopped])
  · simpa [idle] using writeSide.order

/-- `stop` is called while a frame is being sent and another one is queued. -/
def stoppedSending : List Event :=
  [.readRunning, .sendMessage [65] 1, .push (Frame.create 1 0 [65]), .writeRunning, .lock, .test,
    .leave, .sendMessage [66] 1, .push (Frame.create 1 1 [66]), .stop, .send, .writeRunning,
    .endOfStream, .joinRead, .joinWrite, .close]

theorem frames_sent_until_stopped_sending :
    ∃ process, (system false).Reaches stoppedSending process ∧ process.stopping = .stopped ∧
      process.sent = [Frame.create 1 0 [65]] ∧
      process.sent ++ process.client.outgoingFrames =
        [Frame.create 1 0 [65], Frame.create 1 1 [66]] := by
  have ran : ((system false).run {} stoppedSending).map (fun process =>
      (process.stopping, process.sent)) = some (.stopped, [Frame.create 1 0 [65]]) := by
    decide +kernel
  obtain ⟨process, reached, observed⟩ := Option.map_eq_some_iff.mp ran
  obtain ⟨stopped, sent_eq⟩ := Prod.mk.inj observed
  have accounted := frames_sent_until_stopped false stoppedSending process reached
  exact ⟨process, reached, stopped, sent_eq, (accounted.2.2.2 (.inr stopped)).2.2⟩

/-! ## When `stop` returns -/

/-- No new call of `sendMessage`, and no spurious wakeup. -/
def Event.Ordinary : Event → Prop
  | .sendMessage _ _ | .spuriousWakeup => False
  | _ => True

/-- Moreover the server sends nothing and keeps the connection open. -/
def Event.Silent : Event → Prop
  | .recv _ | .endOfStream => False
  | event => event.Ordinary

theorem Event.Silent.ordinary {event : Event} (silent : event.Silent) : event.Ordinary := by
  cases event with
  | recv | endOfStream => exact silent.elim
  | _ => exact silent

/-- `stop` has closed the socket. -/
def Stopped (process : ClientProcess) : Prop := process.stopping = .stopped

/-- The write thread waits, or is bound to, and no call of `sendMessage` is left to notify it. -/
def Doomed (process : ClientProcess) : Prop :=
  process.writeThread.Waits ∧ process.client.sending = []

theorem Doomed.step {event : Event} (doomed : process.Doomed) (ordinary : event.Ordinary)
    (stepped : Step enableChecksum process event next) : next.Doomed := by
  obtain ⟨waits, nobody⟩ := doomed
  cases stepped with
  | sendMessage | spuriousWakeup => exact ordinary.elim
  | push drawn => simp [nobody] at drawn
  | wait => exact ⟨.inr rfl, nobody⟩
  | writeRunning inside | lock inside | mustWait inside | mayLeave inside | takeFrame inside
  | leave inside | send inside =>
      rw [inside] at waits
      simp [Consumer.Waits, Waiter.Waits] at waits
  | readRunning | recv | endOfStream | outputFrame | stop | joinRead | joinWrite | close =>
      exact ⟨waits, nobody⟩

/-- Once `running_` is cleared, nothing makes the write thread wait any more. -/
theorem not_doomed_of_step {event : Event} (alive : ¬ process.Doomed)
    (ended : process.running = false) (ordinary : event.Ordinary)
    (stepped : Step enableChecksum process event next) : ¬ next.Doomed := by
  cases stepped with
  | sendMessage | spuriousWakeup => exact ordinary.elim
  | push drawn free => exact fun doomed => Consumer.not_waits_notify free doomed.1
  | mustWait _ _ running => simp [ended] at running
  | wait waiting =>
      refine fun doomed => alive ⟨?_, doomed.2⟩
      rw [waiting]
      exact .inl rfl
  | writeRunning | lock | mayLeave | takeFrame | leave | send =>
      simp [Doomed, Consumer.Waits, Waiter.Waits, ended]
  | readRunning | recv | endOfStream | outputFrame | stop | joinRead | joinWrite | close =>
      exact alive

/-- Steps left to `stop` itself. -/
def Stopping.work : Stopping → ℕ
  | .notCalled => 4
  | .joiningRead => 3
  | .joiningWrite => 2
  | .closing => 1
  | .stopped => 0

/-- Steps left once `running_` is cleared; first whether a chunk may still come in. -/
def work (process : ClientProcess) : ℕ ×ₗ ℕ :=
  toLex (if process.readThread = .receiving then 1 else 0,
    4 * process.client.sending.length + process.writeThread.work +
      process.client.completedFrames.length + (if process.readThread = .looping then 1 else 0) +
      process.stopping.work)

theorem work_lt_of_ordinary {event : Event} (ended : process.running = false)
    (called : process.stopping ≠ .notCalled) (ordinary : event.Ordinary)
    (stepped : Step enableChecksum process event next) : next.work < process.work := by
  rw [work, work, Prod.Lex.toLex_lt_toLex]
  cases stepped with
  | sendMessage | spuriousWakeup => exact ordinary.elim
  | stop uncalled => exact absurd uncalled called
  | mustWait _ _ running | takeFrame _ running => simp [ended] at running
  | recv receiving | endOfStream receiving =>
      left
      simp [receiving]
  | @push frame drawn =>
      have cost := process.writeThread.work_notify_le
      have positive := List.length_pos_of_mem drawn
      refine .inr ⟨rfl, ?_⟩
      simp only [Client.push, List.length_erase_of_mem drawn]
      omega
  | writeRunning inside | lock inside | mayLeave inside | wait inside | leave inside
  | send inside =>
      right
      simp [inside, ended, Consumer.work, Waiter.work]
  | readRunning looping =>
      right
      simp [looping, ended]
  | outputFrame looping parsed =>
      right
      simp [looping, parsed, Client.handleFrame]
  | joinRead stopping | joinWrite stopping | close stopping =>
      right
      simp [stopping, Stopping.work]

/-- While `stop` waits, some thread it depends on can go on. -/
theorem stopped_or_progresses {trace : List Event} {enabled : Event → Prop}
    (writeSide : process.WriteSide trace) (joined : process.Joined)
    (called : process.stopping ≠ .notCalled) (alive : ¬ process.Doomed)
    (silent : ∀ event, event.Silent → enabled event)
    (ends : process.readThread = .receiving → enabled .endOfStream) :
    process.Stopped ∨
      ∃ event next, enabled event ∧ (system enableChecksum).step process event = some next := by
  have ended := joined.cleared.mpr called
  cases stopping : process.stopping with
  | notCalled => exact absurd stopping called
  | joiningRead =>
      right
      cases reading : process.readThread with
      | looping =>
          cases handled : process.client.completedFrames with
          | nil =>
              exact ⟨.readRunning, _, silent _ trivial, step_eq_some (.readRunning reading handled)⟩
          | cons frame frames =>
              exact ⟨.outputFrame, _, silent _ trivial, step_eq_some (.outputFrame reading handled)⟩
      | receiving => exact ⟨.endOfStream, _, ends reading, step_eq_some (.endOfStream reading)⟩
      | returned =>
          exact ⟨.joinRead, _, silent _ trivial, step_eq_some (.joinRead stopping reading)⟩
  | joiningWrite =>
      right
      cases writing : process.writeThread with
      | looping => exact ⟨.writeRunning, _, silent _ trivial, step_eq_some (.writeRunning writing)⟩
      | working =>
          obtain ⟨frame, taken⟩ := Option.isSome_iff_exists.mp (writeSide.sending.mpr writing)
          exact ⟨.send, _, silent _ trivial, step_eq_some (.send writing taken)⟩
      | returned =>
          exact ⟨.joinWrite, _, silent _ trivial, step_eq_some (.joinWrite stopping writing)⟩
      | monitor waiter =>
          cases waiter with
          | outside => exact absurd writing writeSide.inside
          | locking => exact ⟨.lock, _, silent _ trivial, step_eq_some (.lock writing)⟩
          | testing =>
              exact ⟨.test, _, silent _ trivial, step_eq_some (.mayLeave writing (.inr ended))⟩
          | waiting => exact ⟨.wait, _, silent _ trivial, step_eq_some (.wait writing)⟩
          | leaving => exact ⟨.leave, _, silent _ trivial, step_eq_some (.leave writing ended)⟩
          | blocked =>
              cases drawn : process.client.sending with
              | nil =>
                  refine absurd ⟨?_, drawn⟩ alive
                  rw [writing]
                  exact .inr rfl
              | cons frame frames =>
                  refine ⟨.push frame, _, silent _ trivial, step_eq_some (.push ?_ ?_)⟩
                  · simp [drawn]
                  · simp [writing, Consumer.Holds, Waiter.holding]
  | closing => exact .inr ⟨.close, _, silent _ trivial, step_eq_some (.close stopping)⟩
  | stopped => exact .inl stopping

theorem receiving_of_step {event : Event} (ended : process.running = false)
    (stepped : Step enableChecksum process event next) (receiving : next.readThread = .receiving) :
    process.readThread = .receiving := by
  cases stepped with
  | readRunning => simp [ended] at receiving
  | recv => simp at receiving
  | endOfStream => simp at receiving
  | _ => exact receiving

theorem receiving_step {event : Event} (receiving : process.readThread = .receiving)
    (silent : event.Silent) (stepped : Step enableChecksum process event next) :
    next.readThread = .receiving := by
  cases stepped with
  | recv | endOfStream => exact silent.elim
  | readRunning looping => exact absurd (looping.symm.trans receiving) (by simp)
  | _ => exact receiving

theorem called_of_step {event : Event} (called : process.stopping ≠ .notCalled)
    (stepped : Step enableChecksum process event next) : next.stopping ≠ .notCalled := by
  cases stepped with
  | stop | joinRead | joinWrite | close => simp
  | _ => exact called

theorem inevitably_stopped {trace : List Event} {enabled : Event → Prop}
    (reached : (system enableChecksum).Reaches trace process)
    (called : process.stopping ≠ .notCalled) (alive : ¬ process.Doomed)
    (silent : ∀ event, event.Silent → enabled event)
    (ordinary : ∀ event, enabled event → event.Ordinary)
    (ends : process.readThread = .receiving → enabled .endOfStream) :
    (system enableChecksum).Inevitably enabled Stopped process := by
  refine EventSystem.inevitably_of_variant work
    (motive := fun process => (∃ trace, (system enableChecksum).Reaches trace process) ∧
      process.stopping ≠ .notCalled ∧ ¬ process.Doomed ∧
      (process.readThread = .receiving → enabled .endOfStream))
    ?_ ?_ process ⟨⟨trace, reached⟩, called, alive, ends⟩
  · rintro process ⟨⟨trace, reached⟩, called, alive, ends⟩
    obtain ⟨writeSide, joined⟩ := writeSide_and_joined_of_reaches reached
    exact stopped_or_progresses writeSide joined called alive silent ends
  · rintro process event next ⟨⟨trace, reached⟩, called, alive, ends⟩ allowed stepped
    have ended := (writeSide_and_joined_of_reaches reached).2.cleared.mpr called
    have moved := step_of_eq_some stepped
    have later := EventSystem.reaches_concat.mpr ⟨process, reached, stepped⟩
    refine ⟨⟨⟨_, later⟩, called_of_step called moved,
      not_doomed_of_step alive ended (ordinary event allowed) moved,
      fun receiving => ends (receiving_of_step ended moved receiving)⟩, ?_⟩
    exact work_lt_of_ordinary ended called (ordinary event allowed) moved

/-- A doomed write thread is never joined. -/
theorem never_stopped_of_doomed {trace : List Event}
    (reached : (system enableChecksum).Reaches trace process) (doomed : process.Doomed)
    {later : List Event} {final : ClientProcess} (ordinary : ∀ event ∈ later, event.Ordinary)
    (ran : (system enableChecksum).run process later = some final) : ¬ final.Stopped := by
  have still : final.Doomed := EventSystem.run_invariant
    (fun _ _ _ doomed ordinary stepped => doomed.step ordinary (step_of_eq_some stepped))
    ordinary ran doomed
  intro stopped
  have returned := (writeSide_and_joined_of_reaches (reached.append ran)).2.write (.inr stopped)
  have waits := still.1
  rw [returned] at waits
  exact waits

/-- From every state reached after the call, however the threads are scheduled and without a further
`sendMessage`, provided that each `send` returns: if each `recv` returns as well, `stop` returns
unless the write thread waits, or is bound to, with no `sendMessage` left to notify it, and then it
never does.  If the server stays silent, so that `recv` does not return, `stop` returns unless
moreover the read thread is in `recv`. -/
theorem stop_returns_iff (enableChecksum : Bool) (trace : List Event) (process : ClientProcess)
    (reached : (system enableChecksum).Reaches trace process)
    (called : process.stopping ≠ .notCalled) :
    ((system enableChecksum).Inevitably Event.Ordinary Stopped process ↔ ¬ process.Doomed) ∧
      ((system enableChecksum).Inevitably Event.Silent Stopped process ↔
        ¬ process.Doomed ∧ process.readThread ≠ .receiving) ∧
      (process.Doomed → ∀ later final, (∀ event ∈ later, event.Ordinary) →
        (system enableChecksum).run process later = some final → ¬ final.Stopped) := by
  refine ⟨⟨fun inevitably doomed => ?_, fun alive => ?_⟩,
    ⟨fun inevitably => ⟨fun doomed => ?_, fun receiving => ?_⟩, fun ⟨alive, reading⟩ => ?_⟩,
    fun doomed _ _ ordinary ran => never_stopped_of_doomed reached doomed ordinary ran⟩
  · obtain ⟨later, final, ordinary, ran, stopped⟩ := inevitably.exists_run
    exact never_stopped_of_doomed reached doomed ordinary ran stopped
  · exact inevitably_stopped reached called alive (fun _ silent => silent.ordinary)
      (fun _ ordinary => ordinary) fun _ => trivial
  · obtain ⟨later, final, silent, ran, stopped⟩ := inevitably.exists_run
    have ordinary := fun event member => (silent event member).ordinary
    exact never_stopped_of_doomed reached doomed ordinary ran stopped
  · obtain ⟨later, final, silent, ran, stopped⟩ := inevitably.exists_run
    have still : final.readThread = .receiving := EventSystem.run_invariant
      (fun _ _ _ receiving silent stepped =>
        receiving_step receiving silent (step_of_eq_some stepped)) silent ran receiving
    have joined := (writeSide_and_joined_of_reaches (reached.append ran)).2
    rw [Stopped] at stopped
    have returned := joined.read (by simp [stopped]) (by simp [stopped])
    exact absurd (returned.symm.trans still) (by simp)
  · exact inevitably_stopped reached called alive (fun _ silent => silent)
      (fun _ silent => silent.ordinary) fun receiving => absurd receiving reading

/-- Both threads wait when `stop` is called. -/
def stoppedIdle : List Event := [.writeRunning, .lock, .test, .wait, .readRunning, .stop]

/-- The write thread is about to look at its queue when `stop` is called. -/
def stoppedBusy : List Event := [.writeRunning, .lock, .readRunning, .stop]

theorem stop_returns_iff_idle :
    (∃ process, (system false).Reaches stoppedIdle process ∧
      ¬ (system false).Inevitably Event.Ordinary Stopped process) ∧
    ∃ process, (system false).Reaches stoppedBusy process ∧
      (system false).Inevitably Event.Ordinary Stopped process ∧
      ¬ (system false).Inevitably Event.Silent Stopped process := by
  refine ⟨⟨_, rfl, fun inevitably => ?_⟩, _, rfl, ?_, fun inevitably => ?_⟩
  · exact (stop_returns_iff false stoppedIdle _ rfl (by simp)).1.mp inevitably ⟨.inr rfl, rfl⟩
  · exact (stop_returns_iff false stoppedBusy _ rfl (by simp)).1.mpr
      fun doomed => by simp [Doomed, Consumer.Waits, Waiter.Waits] at doomed
  · exact ((stop_returns_iff false stoppedBusy _ rfl (by simp)).2.1.mp inevitably).2 rfl

end ClientProcess
end FramedTcp
