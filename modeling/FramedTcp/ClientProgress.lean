import FramedTcp.ClientShutdown

/-!
# Every pushed frame is sent

However many messages other threads of the demo client go on to push, whatever the server sends,
and however often the write thread is woken for nothing: a frame in the queue is sent after finitely
many steps of the write thread, unless `stop` is called or a `send` does not return.
-/

namespace FramedTcp

open EventSystems Monitors

namespace ClientProcess

/-- Steps of the write thread. -/
def Event.OfWriter : Event → Prop
  | .writeRunning | .lock | .test | .wait | .leave | .send => True
  | _ => False

/-- Is the event anything but a call of `stop`? -/
def Event.goesOn : Event → Bool
  | .stop => false
  | _ => true

theorem Event.OfWriter.goesOn {event : Event} (own : event.OfWriter) : event.goesOn = true := by
  cases event with
  | stop => exact own.elim
  | _ => rfl

/-- A client for which `stop` is not called. -/
def unstopped (enableChecksum : Bool) : EventSystem ClientProcess Event :=
  (system enableChecksum).restrict fun _ event => event.goesOn

variable {enableChecksum : Bool} {trace : List Event} {frames : List Frame}
  {process next : ClientProcess} {event : Event}

/-- While `running_` is set, the write thread has not returned. -/
theorem not_returned_of_reaches (reached : (system enableChecksum).Reaches trace process)
    (running : process.running = true) : process.writeThread ≠ .returned := by
  refine reached.invariant (motive := fun _ process => process.running = true →
    process.writeThread ≠ .returned) (by simp [system]) ?_ running
  intro trace process event next _ active stepped running
  cases step_of_eq_some stepped with
  | push =>
      intro returned
      apply active running
      cases thread : process.writeThread with
      | returned => rfl
      | _ => simp [thread, Consumer.notify] at returned
  | writeRunning => simp [show process.running = true from running]
  | leave _ ended => simp [ended] at running
  | stop => contradiction
  | lock | mustWait | mayLeave | wait | spuriousWakeup | takeFrame | send => simp
  | _ => exact active running

/-- While `running_` is set, the write thread can go on, unless it is blocked. -/
theorem writer_goesOn (enableChecksum : Bool) {trace : List Event}
    (writeSide : process.WriteSide trace) (active : process.writeThread ≠ .returned)
    (running : process.running = true)
    (unblocked : process.writeThread ≠ .monitor .blocked) :
    ∃ event next, event.OfWriter ∧ Step enableChecksum process event next := by
  cases thread : process.writeThread with
  | looping => exact ⟨.writeRunning, _, trivial, .writeRunning thread⟩
  | working =>
      obtain ⟨frame, taken⟩ := Option.isSome_iff_exists.mp (writeSide.sending.mpr thread)
      exact ⟨.send, _, trivial, .send thread taken⟩
  | returned => exact absurd thread active
  | monitor waiter =>
      cases waiter with
      | outside => exact absurd thread writeSide.inside
      | blocked => exact absurd thread unblocked
      | locking => exact ⟨.lock, _, trivial, .lock thread⟩
      | waiting => exact ⟨.wait, _, trivial, .wait thread⟩
      | testing =>
          by_cases empty : process.client.outgoingFrames = []
          · exact ⟨.test, _, trivial, .mustWait thread empty running⟩
          · exact ⟨.test, _, trivial, .mayLeave thread (.inl empty)⟩
      | leaving =>
          obtain ⟨frame, frames, queue⟩ :=
            List.exists_cons_of_ne_nil (writeSide.leaving thread running)
          exact ⟨.leave, _, trivial, .takeFrame thread running queue⟩

/-- The frames have been pushed, and `stop` has not been called. -/
structure Active (enableChecksum : Bool) (frames : List Frame) (process : ClientProcess) :
    Prop where
  reached : ∃ trace, (system enableChecksum).Reaches trace process ∧ frames <+: pushed trace
  running : process.running = true

/-- Moreover, not all of them have been sent. -/
structure Pending (enableChecksum : Bool) (frames : List Frame) (process : ClientProcess) : Prop
    extends Active enableChecksum frames process where
  unsent : process.sent.length < frames.length

/-- Steps of the write thread, at most, before the first frames have been sent. -/
def sendingWork (count : ℕ) (process : ClientProcess) : ℕ :=
  6 * (count - process.sent.length) + process.writeThread.distance

namespace Pending

/-- A frame is queued, unless the write thread has just taken one. -/
theorem queued (pending : Pending enableChecksum frames process)
    (idle : process.writeThread ≠ .working) : process.client.outgoingFrames ≠ [] := by
  intro empty
  obtain ⟨trace, reached, pushed_le⟩ := pending.reached
  obtain ⟨writeSide, -⟩ := writeSide_and_joined_of_reaches reached
  have nothing : process.client.writing = none := by
    rwa [← Option.not_isSome_iff_eq_none, writeSide.sending]
  have order := writeSide.order
  rw [nothing, empty, List.append_nil, Option.toList_none, List.append_nil] at order
  exact absurd pushed_le.length_le (order ▸ Nat.not_le.mpr pending.unsent)

/-- The write thread does not wait. -/
theorem awake (pending : Pending enableChecksum frames process) : ¬ process.writeThread.Waits := by
  intro waits
  obtain ⟨trace, reached, -⟩ := pending.reached
  obtain ⟨writeSide, -⟩ := writeSide_and_joined_of_reaches reached
  refine pending.queued ?_ (writeSide.waits waits)
  intro sending
  rw [sending] at waits
  exact waits

/-- The write thread can go on. -/
theorem exists_step (pending : Pending enableChecksum frames process) :
    ∃ event next, event.OfWriter ∧ (unstopped enableChecksum).step process event = some next := by
  obtain ⟨trace, reached, -⟩ := pending.reached
  obtain ⟨writeSide, -⟩ := writeSide_and_joined_of_reaches reached
  have unblocked : process.writeThread ≠ .monitor .blocked := by
    intro blocked
    apply pending.awake
    rw [blocked]
    exact .inr rfl
  obtain ⟨event, next, own, stepped⟩ := writer_goesOn enableChecksum writeSide
    (not_returned_of_reaches reached pending.running) pending.running unblocked
  exact ⟨event, next, own, EventSystem.restrict_step_iff.mpr ⟨own.goesOn, step_eq_some stepped⟩⟩

/-- The write thread comes closer to its next `send`, or sends a frame. -/
theorem own (pending : Pending enableChecksum frames process) (own : event.OfWriter)
    (stepped : Step enableChecksum process event next) :
    next.sendingWork frames.length < process.sendingWork frames.length := by
  have unsent := pending.unsent
  unfold sendingWork
  cases stepped with
  | sendMessage | push | spuriousWakeup | readRunning | recv | endOfStream | outputFrame | stop
  | joinRead | joinWrite | close => exact own.elim
  | writeRunning inside => simp [inside, pending.running, Consumer.distance]
  | lock inside | mayLeave inside | takeFrame inside => simp [inside, Consumer.distance]
  | mustWait inside empty => exact absurd empty (pending.queued (by simp [inside]))
  | wait inside =>
      exact absurd (by simp [inside, Consumer.Waits, Waiter.Waits]) pending.awake
  | leave _ ended => simp [pending.running] at ended
  | send sending =>
      simp only [sending, Consumer.distance, List.length_append, List.length_singleton]
      omega

/-- What the others do leaves the write thread where it is. -/
theorem foreign (pending : Pending enableChecksum frames process) (foreign : ¬ event.OfWriter)
    (allowed : event.goesOn = true) (stepped : Step enableChecksum process event next) :
    next.sent = process.sent ∧ next.writeThread = process.writeThread := by
  cases stepped with
  | writeRunning | lock | mustWait | mayLeave | wait | takeFrame | leave | send =>
      exact absurd trivial foreign
  | stop => contradiction
  | push =>
      refine ⟨rfl, ?_⟩
      cases thread : process.writeThread with
      | monitor waiter =>
          cases waiter with
          | blocked =>
              exact absurd (by simp [thread, Consumer.Waits, Waiter.Waits]) pending.awake
          | _ => rfl
      | looping | working | returned => rfl
  | spuriousWakeup blocked =>
      exact absurd (by simp [blocked, Consumer.Waits, Waiter.Waits]) pending.awake
  | sendMessage | readRunning | recv | endOfStream | outputFrame | joinRead | joinWrite | close =>
      exact ⟨rfl, rfl⟩

end Pending

namespace Active

theorem step (active : Active enableChecksum frames process)
    (stepped : (unstopped enableChecksum).step process event = some next) :
    Active enableChecksum frames next := by
  obtain ⟨allowed, stepped⟩ := EventSystem.restrict_step_iff.mp stepped
  obtain ⟨⟨trace, reached, pushed_le⟩, running⟩ := active
  refine ⟨⟨trace ++ [event], EventSystem.reaches_concat.mpr ⟨process, reached, stepped⟩, ?_⟩, ?_⟩
  · rw [pushed, List.filterMap_append]
    exact pushed_le.trans (List.prefix_append _ _)
  · cases step_of_eq_some stepped with
    | stop => contradiction
    | _ => exact running

/-- What has been sent and the frames are both front pieces of what has been pushed. -/
theorem comparable (active : Active enableChecksum frames process) :
    ∃ whole, process.sent <+: whole ∧ frames <+: whole := by
  obtain ⟨trace, reached, pushed_le⟩ := active.reached
  refine ⟨pushed trace, ?_, pushed_le⟩
  rw [← (writeSide_and_joined_of_reaches reached).1.order, List.append_assoc]
  exact List.prefix_append _ _

end Active

/-- While `stop` is not called and each `send` returns, every frame pushed is given to `send` after
finitely many steps of the write thread, in the order of the pushes, whatever the other threads do
and the server sends in the meantime, and however often the write thread is woken for nothing. -/
theorem every_pushed_frame_sent (enableChecksum : Bool) (trace : List Event)
    (process : ClientProcess) (reached : (system enableChecksum).Reaches trace process)
    (running : process.running = true) :
    (unstopped enableChecksum).InevitablyAmid Event.OfWriter
      (fun later => pushed trace <+: later.sent) process := by
  refine EventSystem.inevitablyAmid_recorded (sendingWork (pushed trace).length) sent
    (pushed trace) (motive := Active enableChecksum (pushed trace)) ?_ ?_ ?_ ?_ ?_ process
    ⟨⟨trace, reached, List.prefix_rfl⟩, running⟩
  · exact fun _ active => active.comparable
  · exact fun _ _ _ active stepped => active.step stepped
  · exact fun _ active unsent => Pending.exists_step ⟨active, unsent⟩
  · intro _ _ _ active unsent own stepped
    exact Pending.own ⟨active, unsent⟩ own
      (step_of_eq_some (EventSystem.restrict_step_iff.mp stepped).2)
  · intro _ _ _ active unsent foreign stepped
    obtain ⟨allowed, stepped⟩ := EventSystem.restrict_step_iff.mp stepped
    obtain ⟨sent_eq, thread_eq⟩ :=
      Pending.foreign ⟨active, unsent⟩ foreign allowed (step_of_eq_some stepped)
    exact ⟨sent_eq, by rw [sendingWork, sent_eq, thread_eq, sendingWork]⟩

/-- The write thread waits, is notified of a frame, and has to wait for the mutex. -/
def wokenForFrame : List Event :=
  [.writeRunning, .lock, .test, .wait, .sendMessage [65] 1, .sendMessage [66] 2,
    .push (Frame.create 2 0 [66]), .push (Frame.create 1 0 [65])]

theorem every_pushed_frame_sent_woken :
    ∃ process, (system false).Reaches wokenForFrame process ∧ process.sent = [] ∧
      (unstopped false).InevitablyAmid Event.OfWriter
        (fun later => [Frame.create 2 0 [66], Frame.create 1 0 [65]] <+: later.sent) process :=
  ⟨_, rfl, rfl, every_pushed_frame_sent false wokenForFrame _ rfl rfl⟩

end ClientProcess
end FramedTcp
