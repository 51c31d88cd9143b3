import FramedTcp.TcpClient

/-!
# Responses at the timeout boundary

`sendAndWaitResponse` decides that it has timed out in one step and removes its handler in another.
In between, and while a failed write has not removed its handler yet, `handleRead` may still take a
response off the stream for the call.  The file follows one call through all steps of the client.
-/

namespace FramedTcp
namespace TcpClient

open EventSystems FrameParser

/-- In the run, `handleRead` has found the handler of the call for this frame. -/
def Answers (enableChecksum : Bool) (trace : List Event) (number : ℕ) (frame : Frame) : Prop :=
  ∃ front, front ++ [.dispatch frame] <+: trace ∧ ∃ client,
    (system enableChecksum).Reaches front client ∧
      client.responseHandlers frame.streamId.toInt32 = some number

/-- The call will return `false`. -/
def Call.Failing (call : Call) : Prop :=
  call.phase = .writeFailed ∨ call.phase = .timedOut ∨ call.phase = .returned none

/-- A response comes for a call that will return `false`, or the write fails of a call that has its
response. -/
def Late (number : ℕ) (client : TcpClient) (event : Event) : Prop :=
  ∃ call : Call, client.calls[number]? = some call ∧
    ((∃ frame, event = .dispatch frame ∧
        client.responseHandlers frame.streamId.toInt32 = some number ∧ call.Failing) ∨
      event = .sendFailed number ∧ call.promise ≠ none)

/-! ## What a step does to one call -/

/-- The steps of a call. -/
inductive Moves (client : TcpClient) (number : ℕ) (before : Call) : Event → Call → Prop
  | kept {event : Event} {after : Call} (promise_eq : after.promise = before.promise)
      (phase_eq : after.phase = before.phase) (streamId_eq : after.streamId = before.streamId)
      (not_failed : event ≠ .sendFailed number)
      (not_answered : ∀ frame, event = .dispatch frame →
        client.responseHandlers frame.streamId.toInt32 ≠ some number) :
      Moves client number before event after
  | registered (allocated : before.phase = .allocated) :
      Moves client number before (.register number) { before with phase := .registered }
  | locked (registered : before.phase = .registered) :
      Moves client number before (.lockWrite number) { before with phase := .writing }
  | failed (writing : before.phase = .writing) :
      Moves client number before (.sendFailed number) { before with phase := .writeFailed }
  | done (writing : before.phase = .writing) :
      Moves client number before (.writeDone number) { before with phase := .waiting }
  | erasedFailed (failed : before.phase = .writeFailed) :
      Moves client number before (.eraseFailed number) { before with phase := .returned none }
  | timedOut (waiting : before.phase = .waiting) (unanswered : before.promise = none) :
      Moves client number before (.timeout number) { before with phase := .timedOut }
  | erasedTimedOut (timedOut : before.phase = .timedOut) :
      Moves client number before (.eraseTimedOut number) { before with phase := .returned none }
  | got {response : List UInt8} (waiting : before.phase = .waiting)
      (answered : before.promise = some response) :
      Moves client number before (.get number)
        { before with phase := .returned (some response) }
  | answered (frame : Frame)
      (handler : client.responseHandlers frame.streamId.toInt32 = some number) :
      Moves client number before (.dispatch frame) { before with promise := some frame.payload }

/-- Every handler belongs to a call that waits for a response or is about to remove it. -/
def HandlersOpen (client : TcpClient) : Prop :=
  ∀ streamId number, client.responseHandlers streamId = some number →
    ∃ call : Call, client.calls[number]? = some call ∧ call.streamId = streamId ∧
      call.promise = none ∧ call.phase ≠ .allocated ∧ call.Live

variable {enableChecksum : Bool} {trace : List Event} {event : Event} {client next : TcpClient}
  {number : ℕ}

theorem moves_of_modify {other : ℕ} {change : Call → Call} {after : Call}
    (found : next.calls[number]? = some after)
    (calls_eq : next.calls = client.calls.modify other change)
    (own : ∀ before, client.calls[number]? = some before → other = number →
      Moves client number before event (change before))
    (not_failed : other ≠ number → event ≠ .sendFailed number)
    (not_answered : other ≠ number → ∀ frame, event = .dispatch frame →
      client.responseHandlers frame.streamId.toInt32 ≠ some number) :
    ∃ before, client.calls[number]? = some before ∧ Moves client number before event after := by
  rw [calls_eq, getElem?_modify_eq_some] at found
  obtain ⟨before, before_found, rfl⟩ := found
  refine ⟨before, before_found, ?_⟩
  split
  · rename_i same
    exact own before before_found same
  · rename_i different
    exact .kept rfl rfl rfl (not_failed different) (not_answered different)

theorem moves_of_setPhase {other : ℕ} {call : Call} {phase : Phase} {after : Call}
    (found : next.calls[number]? = some after)
    (calls_eq : next.calls = client.calls.modify other fun call => { call with phase })
    (other_found : client.calls[other]? = some call)
    (own : other = number → Moves client number call event { call with phase })
    (not_failed : other ≠ number → event ≠ .sendFailed number)
    (not_dispatch : ∀ frame, event ≠ .dispatch frame) :
    ∃ before, client.calls[number]? = some before ∧ Moves client number before event after := by
  apply moves_of_modify found calls_eq
  · rintro before before_found rfl
    obtain rfl := Option.some.inj (before_found.symm.trans other_found)
    exact own rfl
  · exact not_failed
  · exact fun _ frame equality => absurd equality (not_dispatch frame)

theorem moves_of_same {after : Call} (found : next.calls[number]? = some after)
    (calls_eq : next.calls = client.calls) (not_failed : event ≠ .sendFailed number)
    (not_answered : ∀ frame, event = .dispatch frame →
      client.responseHandlers frame.streamId.toInt32 ≠ some number) :
    ∃ before, client.calls[number]? = some before ∧ Moves client number before event after :=
  ⟨after, calls_eq ▸ found, .kept rfl rfl rfl not_failed not_answered⟩

/-- While handlers belong to waiting calls, no promise is set twice. -/
theorem HandlersOpen.handleFrame_eq (handlersOpen : client.HandlersOpen) {frame : Frame}
    (handler : client.responseHandlers frame.streamId.toInt32 = some number) :
    client.handleFrame frame =
      (client.complete number frame).setHandler frame.streamId.toInt32 none := by
  obtain ⟨call, found, -, unanswered, -⟩ := handlersOpen _ number handler
  simp [TcpClient.handleFrame, handler, setValue, found, unanswered]

theorem moves_of_handleFrame (handlersOpen : client.HandlersOpen) {frame : Frame} {after : Call}
    (found : (client.handleFrame frame).calls[number]? = some after) :
    ∃ before, client.calls[number]? = some before ∧
      Moves client number before (.dispatch frame) after := by
  cases handler : client.responseHandlers frame.streamId.toInt32 with
  | none =>
      have unchanged : client.handleFrame frame = client := by
        simp [TcpClient.handleFrame, handler]
      rw [unchanged] at found
      refine moves_of_same found rfl (by simp) fun other equality => ?_
      obtain rfl := Event.dispatch.inj equality
      simp [handler]
  | some answered =>
      rw [handlersOpen.handleFrame_eq handler] at found
      apply moves_of_modify found rfl
      · rintro before - rfl
        exact .answered frame handler
      · simp
      · intro different other equality
        obtain rfl := Event.dispatch.inj equality
        simpa [handler] using different

/-- A step moves a call, or has started it. -/
theorem moves_of_step (handlersOpen : client.HandlersOpen)
    (stepped : Step enableChecksum client event next) {after : Call}
    (found : next.calls[number]? = some after) :
    (∃ before, client.calls[number]? = some before ∧ Moves client number before event after) ∨
      client.calls[number]? = none ∧ after.phase = .allocated ∧ after.promise = none := by
  cases stepped with
  | call payload =>
      simp only [getNextStreamId, List.getElem?_append] at found
      split at found
      · exact Or.inl ⟨after, found, .kept rfl rfl rfl (by simp) (by simp)⟩
      · rename_i outside
        rw [List.getElem?_singleton, Option.ite_none_right_eq_some, Option.some.injEq] at found
        obtain ⟨-, rfl⟩ := found
        exact Or.inr ⟨List.getElem?_eq_none (Nat.le_of_not_lt outside), rfl, rfl⟩
  | register own phase =>
      exact Or.inl (moves_of_setPhase found rfl own (fun same => same ▸ .registered phase)
        (by simp) (by simp))
  | lockWrite own phase =>
      exact Or.inl (moves_of_setPhase found rfl own (fun same => same ▸ .locked phase)
        (by simp) (by simp))
  | send own phase =>
      left
      apply moves_of_modify found rfl
      · exact fun before _ _ => .kept rfl rfl rfl (by simp) (by simp)
      · simp
      · simp
  | sendInterrupted => exact Or.inl (moves_of_same found rfl (by simp) (by simp))
  | sendFailed own phase =>
      exact Or.inl (moves_of_setPhase found rfl own (fun same => same ▸ .failed phase)
        (fun different equality => different (Event.sendFailed.inj equality)) (by simp))
  | writeDone own phase =>
      exact Or.inl (moves_of_setPhase found rfl own (fun same => same ▸ .done phase)
        (by simp) (by simp))
  | eraseFailed own phase =>
      exact Or.inl (moves_of_setPhase found rfl own (fun same => same ▸ .erasedFailed phase)
        (by simp) (by simp))
  | timeout own phase unanswered =>
      exact Or.inl (moves_of_setPhase found rfl own
        (fun same => same ▸ .timedOut phase unanswered) (by simp) (by simp))
  | eraseTimedOut own phase =>
      exact Or.inl (moves_of_setPhase found rfl own (fun same => same ▸ .erasedTimedOut phase)
        (by simp) (by simp))
  | get own phase answered =>
      exact Or.inl (moves_of_setPhase found rfl own (fun same => same ▸ .got phase answered)
        (by simp) (by simp))
  | recv => exact Or.inl (moves_of_same found rfl (by simp) (by simp))
  | @dispatch frame frames =>
      left
      have shorter : HandlersOpen { client with frames } := handlersOpen
      obtain ⟨before, before_found, moves⟩ := moves_of_handleFrame shorter found
      refine ⟨before, before_found, ?_⟩
      cases moves with
      | kept promise_eq phase_eq streamId_eq not_failed not_answered =>
          exact .kept promise_eq phase_eq streamId_eq not_failed not_answered
      | answered _ handler => exact .answered frame handler
  | stopReading => exact Or.inl (moves_of_same found rfl (by simp) (by simp))
  | disconnect => exact Or.inl (moves_of_same found rfl (by simp) (by simp))
  | clear => exact Or.inl (moves_of_same found rfl (by simp) (by simp))

/-! ## Handlers -/

/-- A handler has been registered by its call just now, or it was there before and its call has not
been answered or erased. -/
theorem handler_of_step (handlersOpen : client.HandlersOpen)
    (stepped : Step enableChecksum client event next) {streamId : Int32}
    (handler : next.responseHandlers streamId = some number) :
    (event = .register number ∧ ∃ call : Call, client.calls[number]? = some call ∧
        call.streamId = streamId ∧ call.phase = .allocated) ∨
      client.responseHandlers streamId = some number ∧
        (∀ frame, event = .dispatch frame → frame.streamId.toInt32 ≠ streamId) ∧
        ∀ (other : ℕ) (call : Call), client.calls[other]? = some call →
          event = .eraseFailed other ∨ event = .eraseTimedOut other →
            call.streamId ≠ streamId := by
  have erased {other : ℕ} {call : Call} (found : client.calls[other]? = some call)
      (handler : Function.update client.responseHandlers call.streamId none streamId =
        some number) :
      client.responseHandlers streamId = some number ∧ call.streamId ≠ streamId := by
    by_cases same : streamId = call.streamId
    · simp [same] at handler
    · exact ⟨by simpa [same] using handler, Ne.symm same⟩
  cases stepped with
  | @register other call found phase =>
      by_cases same : streamId = call.streamId
      · subst same
        obtain rfl : other = number := by simpa [setHandler] using handler
        exact Or.inl ⟨rfl, call, found, rfl, phase⟩
      · refine Or.inr ⟨?_, (by simp), fun _ _ _ => by simp⟩
        simpa [setHandler, setPhase, same] using handler
  | @eraseFailed other call found phase =>
      obtain ⟨old, different⟩ := erased found handler
      refine Or.inr ⟨old, (by simp), fun another anotherCall another_found erases => ?_⟩
      obtain rfl : other = another := by simpa using erases
      obtain rfl := Option.some.inj (found.symm.trans another_found)
      exact different
  | @eraseTimedOut other call found phase =>
      obtain ⟨old, different⟩ := erased found handler
      refine Or.inr ⟨old, (by simp), fun another anotherCall another_found erases => ?_⟩
      obtain rfl : other = another := by simpa using erases
      obtain rfl := Option.some.inj (found.symm.trans another_found)
      exact different
  | @dispatch frame frames =>
      have shorter : HandlersOpen { client with frames } := handlersOpen
      cases answered : client.responseHandlers frame.streamId.toInt32 with
      | none =>
          have unchanged : handleFrame { client with frames } frame = { client with frames } := by
            simp [handleFrame, answered]
          rw [unchanged] at handler
          refine Or.inr ⟨handler, ?_, fun _ _ _ => by simp⟩
          rintro other equality rfl
          obtain rfl := Event.dispatch.inj equality
          rw [answered] at handler
          contradiction
      | some other =>
          rw [shorter.handleFrame_eq answered] at handler
          by_cases same : streamId = frame.streamId.toInt32
          · simp [setHandler, same] at handler
          · refine Or.inr ⟨?_, ?_, fun _ _ _ => by simp⟩
            · simpa [setHandler, complete, same] using handler
            · rintro another equality rfl
              obtain rfl := Event.dispatch.inj equality
              exact same rfl
  | clear => simp at handler
  | _ => exact Or.inr ⟨handler, (by simp), fun _ _ _ => by simp⟩

theorem exists_call (reached : (system enableChecksum).Reaches trace client)
    (next_reached : (system enableChecksum).Reaches (trace ++ [event]) next) {before : Call}
    (found : client.calls[number]? = some before) : ∃ after, next.calls[number]? = some after := by
  have inside := (List.getElem?_eq_some_iff.mp found).1
  have longer : (payloads trace).length ≤ (payloads (trace ++ [event])).length :=
    ((List.prefix_append trace [event]).filterMap Event.payload?).length_le
  have length_eq := length_calls reached
  have next_length_eq := length_calls next_reached
  exact ⟨_, List.getElem?_eq_getElem (by omega)⟩

/-- What holds of every call in every run. -/
structure Orderly (client : TcpClient) : Prop where
  handlersOpen : client.HandlersOpen
  unanswered : ∀ (number : ℕ) (call : Call), client.calls[number]? = some call →
    call.phase = .allocated → call.promise = none
  returned : ∀ (number : ℕ) (call : Call) (response : List UInt8),
    client.calls[number]? = some call → call.phase = .returned (some response) →
      call.promise = some response

/-- A handler that is still there belongs to a call that still waits. -/
theorem handler_open_of_moves {streamId : Int32} {before after : Call}
    (found : client.calls[number]? = some before) (streamId_eq : before.streamId = streamId)
    (unanswered : before.promise = none) (started : before.phase ≠ .allocated)
    (live : before.Live)
    (not_answered : ∀ frame, event = .dispatch frame → frame.streamId.toInt32 ≠ streamId)
    (not_erased : ∀ (other : ℕ) (call : Call), client.calls[other]? = some call →
      event = .eraseFailed other ∨ event = .eraseTimedOut other → call.streamId ≠ streamId)
    (handlersOpen : client.HandlersOpen) (moves : Moves client number before event after) :
    after.streamId = streamId ∧ after.promise = none ∧ after.phase ≠ .allocated ∧ after.Live := by
  cases moves with
  | kept promise_eq phase_eq after_eq =>
      rw [Call.Live, after_eq, promise_eq, phase_eq]
      exact ⟨streamId_eq, unanswered, started, live⟩
  | registered allocated => exact absurd allocated started
  | locked | failed | done | timedOut =>
      exact ⟨streamId_eq, unanswered, (by simp), fun _ => by simp⟩
  | erasedFailed => exact absurd streamId_eq (not_erased number before found (Or.inl rfl))
  | erasedTimedOut => exact absurd streamId_eq (not_erased number before found (Or.inr rfl))
  | got waiting answered =>
      rw [unanswered] at answered
      contradiction
  | answered frame own =>
      obtain ⟨call, call_found, own_eq, -⟩ := handlersOpen _ number own
      obtain rfl := Option.some.inj (call_found.symm.trans found)
      exact absurd (own_eq.symm.trans streamId_eq) (not_answered frame rfl)

theorem Orderly.step (orderly : client.Orderly)
    (reached : (system enableChecksum).Reaches trace client)
    (stepped : (system enableChecksum).step client event = some next) : next.Orderly := by
  have next_reached := EventSystem.reaches_concat.mpr ⟨client, reached, stepped⟩
  have moved := step_of_eq_some stepped
  refine ⟨?_, ?_, ?_⟩
  · intro streamId number handler
    rcases handler_of_step orderly.handlersOpen moved handler with
      ⟨rfl, call, found, streamId_eq, allocated⟩ | ⟨old, not_answered, not_erased⟩
    · cases moved with
      | @register _ own own_found =>
          obtain rfl := Option.some.inj (own_found.symm.trans found)
          refine ⟨_, getElem?_modify_eq_some.mpr ⟨own, own_found, rfl⟩, ?_⟩
          rw [if_pos rfl]
          exact ⟨streamId_eq, orderly.unanswered _ own found allocated, (by simp),
            fun _ => by simp⟩
    · obtain ⟨before, found, streamId_eq, unanswered, started, live⟩ :=
        orderly.handlersOpen streamId number old
      obtain ⟨after, after_found⟩ := exists_call reached next_reached found
      rcases moves_of_step orderly.handlersOpen moved after_found with
        ⟨call, call_found, moves⟩ | ⟨missing, -⟩
      · obtain rfl := Option.some.inj (call_found.symm.trans found)
        exact ⟨after, after_found, handler_open_of_moves found streamId_eq unanswered started live
          not_answered not_erased orderly.handlersOpen moves⟩
      · rw [found] at missing
        contradiction
  · intro number after after_found allocated
    rcases moves_of_step orderly.handlersOpen moved after_found with
      ⟨before, found, moves⟩ | ⟨-, -, nothing⟩
    · cases moves with
      | kept promise_eq phase_eq =>
          rw [promise_eq]
          exact orderly.unanswered number before found (phase_eq ▸ allocated)
      | answered frame handler =>
          obtain ⟨call, call_found, -, -, started, -⟩ := orderly.handlersOpen _ number handler
          obtain rfl := Option.some.inj (call_found.symm.trans found)
          exact absurd allocated started
      | _ => contradiction
    · exact nothing
  · intro number after response after_found phase
    rcases moves_of_step orderly.handlersOpen moved after_found with
      ⟨before, found, moves⟩ | ⟨-, allocated, -⟩
    · cases moves with
      | kept promise_eq phase_eq =>
          rw [promise_eq]
          exact orderly.returned number before response found (phase_eq ▸ phase)
      | got waiting answered =>
          obtain rfl : _ = response := by simpa using phase
          exact answered
      | answered frame handler =>
          obtain ⟨call, call_found, -, -, -, live⟩ := orderly.handlersOpen _ number handler
          obtain rfl := Option.some.inj (call_found.symm.trans found)
          exact absurd phase (live _)
      | erasedFailed | erasedTimedOut => simp at phase
      | _ => contradiction
    · rw [allocated] at phase
      contradiction

theorem orderly_of_reaches (reached : (system enableChecksum).Reaches trace client) :
    client.Orderly := by
  refine reached.invariant (motive := fun _ client => client.Orderly) ⟨nofun, nofun, nofun⟩ ?_
  exact fun before_reached orderly stepped => orderly.step before_reached stepped

/-! ## The history of a promise -/

theorem answers_concat (reached : (system enableChecksum).Reaches trace client) {frame : Frame} :
    Answers enableChecksum (trace ++ [event]) number frame ↔
      Answers enableChecksum trace number frame ∨
        event = .dispatch frame ∧
          client.responseHandlers frame.streamId.toInt32 = some number := by
  constructor
  · rintro ⟨front, front_le, before, before_reached, handler⟩
    rcases List.prefix_concat_iff.mp front_le with whole | inside
    · obtain ⟨rfl, rfl⟩ : front = trace ∧ Event.dispatch frame = event := by simpa using whole
      rw [before_reached.unique reached] at handler
      exact Or.inr ⟨rfl, handler⟩
    · exact Or.inl ⟨front, inside, before, before_reached, handler⟩
  · rintro (⟨front, front_le, rest⟩ | ⟨rfl, handler⟩)
    · exact ⟨front, front_le.trans (List.prefix_append _ _), rest⟩
    · exact ⟨trace, List.prefix_rfl, client, reached, handler⟩

/-- Only a call that has been started is answered. -/
theorem exists_call_of_answers (reached : (system enableChecksum).Reaches trace client)
    {frame : Frame} (answers : Answers enableChecksum trace number frame) :
    ∃ call, client.calls[number]? = some call := by
  obtain ⟨front, front_le, before, before_reached, handler⟩ := answers
  obtain ⟨call, found, -⟩ := (orderly_of_reaches before_reached).handlersOpen _ number handler
  have inside := (List.getElem?_eq_some_iff.mp found).1
  have fewer : (payloads front).length ≤ (payloads trace).length :=
    (((List.prefix_append front _).trans front_le).filterMap Event.payload?).length_le
  have length_eq := length_calls reached
  have before_length_eq := length_calls before_reached
  exact ⟨_, List.getElem?_eq_getElem (by omega)⟩

/-- A promise holds the payload of the frame for which its handler has been found. -/
theorem promise_iff (reached : (system enableChecksum).Reaches trace client) :
    ∀ (number : ℕ) (call : Call), client.calls[number]? = some call → ∀ response,
      call.promise = some response ↔
        ∃ frame, Answers enableChecksum trace number frame ∧ frame.payload = response := by
  refine reached.invariant (motive := fun trace client =>
    ∀ (number : ℕ) (call : Call), client.calls[number]? = some call → ∀ response,
      call.promise = some response ↔
        ∃ frame, Answers enableChecksum trace number frame ∧ frame.payload = response) ?_ ?_
  · exact fun number call found => absurd found (by simp [system])
  intro trace client event next state_reached earlier stepped number after after_found response
  have orderly := orderly_of_reaches state_reached
  simp only [answers_concat state_reached]
  have unanswered {before : Call} (found : client.calls[number]? = some before)
      (promise_eq : after.promise = before.promise)
      (not_answered : ∀ frame, event = .dispatch frame →
        client.responseHandlers frame.streamId.toInt32 ≠ some number) :
      after.promise = some response ↔ ∃ frame, (Answers enableChecksum trace number frame ∨
        event = .dispatch frame ∧ client.responseHandlers frame.streamId.toInt32 = some number) ∧
          frame.payload = response := by
    rw [promise_eq, earlier number before found response]
    refine exists_congr fun frame => and_congr_left fun _ => (or_iff_left ?_).symm
    exact fun answered => not_answered frame answered.1 answered.2
  rcases moves_of_step orderly.handlersOpen (step_of_eq_some stepped) after_found with
    ⟨before, found, moves⟩ | ⟨missing, -, nothing⟩
  · cases moves with
    | kept promise_eq phase_eq streamId_eq not_failed not_answered =>
        exact unanswered found promise_eq not_answered
    | answered frame handler =>
        obtain ⟨call, call_found, -, open_still, -⟩ := orderly.handlersOpen _ number handler
        obtain rfl := Option.some.inj (call_found.symm.trans found)
        have never (other : Frame) : ¬ Answers enableChecksum trace number other := by
          intro answers
          have answered := (earlier number call found other.payload).mpr ⟨other, answers, rfl⟩
          rw [open_still] at answered
          contradiction
        constructor
        · intro payload_eq
          exact ⟨frame, Or.inr ⟨rfl, handler⟩, Option.some.inj payload_eq⟩
        · rintro ⟨other, answers | ⟨same, -⟩, rfl⟩
          · exact absurd answers (never other)
          · rw [Event.dispatch.inj same]
    | _ => exact unanswered found rfl (by simp)
  · rw [nothing]
    refine iff_of_false (by simp) ?_
    rintro ⟨frame, answers | ⟨-, handler⟩, -⟩
    · obtain ⟨call, found⟩ := exists_call_of_answers state_reached answers
      rw [missing] at found
      contradiction
    · obtain ⟨call, found, -⟩ := orderly.handlersOpen _ number handler
      rw [missing] at found
      contradiction

/-! ## Late responses -/

/-- A response of the call has been taken off the stream, and the call will return `false`. -/
def Lost (number : ℕ) (client : TcpClient) : Prop :=
  ∃ call : Call, client.calls[number]? = some call ∧ call.Failing ∧ call.promise ≠ none

/-- A call loses its response by a late step only, and for good. -/
theorem lost_step_iff (reached : (system enableChecksum).Reaches trace client)
    (stepped : (system enableChecksum).step client event = some next) :
    Lost number next ↔ Lost number client ∨ Late number client event := by
  have orderly := orderly_of_reaches reached
  have next_reached := EventSystem.reaches_concat.mpr ⟨client, reached, stepped⟩
  have moved := step_of_eq_some stepped
  cases found : client.calls[number]? with
  | none =>
      refine iff_of_false ?_ (by simp [Lost, Late, found])
      rintro ⟨after, after_found, -, answered⟩
      rcases moves_of_step orderly.handlersOpen moved after_found with
        ⟨before, before_found, -⟩ | ⟨-, -, nothing⟩
      · rw [found] at before_found
        contradiction
      · exact answered nothing
  | some before =>
      obtain ⟨after, after_found⟩ := exists_call reached next_reached found
      rcases moves_of_step orderly.handlersOpen moved after_found with
        ⟨call, call_found, moves⟩ | ⟨missing, -⟩
      · obtain rfl := Option.some.inj (call_found.symm.trans found)
        have lost_iff : Lost number next ↔ after.Failing ∧ after.promise ≠ none := by
          simp [Lost, after_found]
        have before_lost_iff : Lost number client ↔ call.Failing ∧ call.promise ≠ none := by
          simp [Lost, found]
        have late_iff : Late number client event ↔
            (∃ frame, event = .dispatch frame ∧
              client.responseHandlers frame.streamId.toInt32 = some number ∧ call.Failing) ∨
              event = .sendFailed number ∧ call.promise ≠ none := by
          simp [Late, found]
        rw [lost_iff, before_lost_iff, late_iff]
        cases moves with
        | kept promise_eq phase_eq streamId_eq not_failed not_answered =>
            rw [Call.Failing, promise_eq, phase_eq]
            refine (or_iff_left ?_).symm
            rintro (⟨frame, dispatched, handler, -⟩ | ⟨failed, -⟩)
            · exact not_answered frame dispatched handler
            · exact not_failed failed
        | answered frame handler =>
            obtain ⟨other, other_found, -, unanswered, -⟩ := orderly.handlersOpen _ number handler
            obtain rfl := Option.some.inj (other_found.symm.trans found)
            simp [unanswered, handler, Call.Failing]
        | registered phase | locked phase | failed phase | done phase => simp [Call.Failing, phase]
        | erasedFailed phase | erasedTimedOut phase => simp [Call.Failing, phase]
        | timedOut phase unanswered => simp [Call.Failing, phase, unanswered]
        | got phase answered => simp [Call.Failing, phase]
      · rw [found] at missing
        contradiction

theorem Lost.of_front (reached : (system enableChecksum).Reaches trace client) :
    ∀ front, front <+: trace → ∀ before, (system enableChecksum).Reaches front before →
      Lost number before → Lost number client := by
  refine reached.invariant (motive := fun trace client => ∀ front, front <+: trace →
    ∀ before, (system enableChecksum).Reaches front before → Lost number before →
      Lost number client) ?_ ?_
  · intro front front_le before before_reached lost
    obtain rfl := List.prefix_nil.mp front_le
    exact before_reached.eq_init ▸ lost
  · intro trace client event next state_reached earlier stepped front front_le before
      before_reached lost
    rcases List.prefix_concat_iff.mp front_le with rfl | inside
    · have next_reached := EventSystem.reaches_concat.mpr ⟨client, state_reached, stepped⟩
      exact before_reached.unique next_reached ▸ lost
    · exact (lost_step_iff state_reached stepped).mpr
        (Or.inl (earlier front inside before before_reached lost))

/-- A call keeps its response exactly if no step has come late for it. -/
theorem not_lost_iff (reached : (system enableChecksum).Reaches trace client) :
    ¬ Lost number client ↔ (system enableChecksum).EachStep
      (fun client event => ¬ Late number client event) trace := by
  have along_iff : (system enableChecksum).Along (fun client => ¬ Lost number client) trace ↔
      (system enableChecksum).EachStep (fun client event => ¬ Late number client event) trace := by
    apply EventSystem.along_iff_eachStep
    · rintro ⟨call, found, -⟩
      simp [system] at found
    · intro trace before event next before_reached kept stepped
      rw [lost_step_iff before_reached stepped, or_iff_right kept]
  rw [← along_iff]
  constructor
  · exact fun kept front front_le before before_reached lost =>
      kept (Lost.of_front reached front front_le before before_reached lost)
  · exact fun along => along.final reached

/-- A call that has returned has returned every response that was taken off the stream for it,
exactly if neither its write failed after a response had come nor a response came between its
failure or time-out and the removal of its handler. -/
theorem response_returned_iff (enableChecksum : Bool) (trace : List Event) (client : TcpClient)
    (reached : (system enableChecksum).Reaches trace client) (number : ℕ) (call : Call)
    (response : Option (List UInt8)) (found : client.calls[number]? = some call)
    (returned : call.phase = .returned response) :
    (∀ frame, Answers enableChecksum trace number frame → response = some frame.payload) ↔
      (system enableChecksum).EachStep (fun client event => ¬ Late number client event) trace := by
  have orderly := orderly_of_reaches reached
  have promise := promise_iff reached number call found
  rw [← not_lost_iff reached]
  constructor
  · rintro honest ⟨other, other_found, failing, answered⟩
    obtain rfl := Option.some.inj (other_found.symm.trans found)
    obtain ⟨payload, promise_eq⟩ := Option.ne_none_iff_exists'.mp answered
    obtain ⟨frame, answers, rfl⟩ := (promise payload).mp promise_eq
    rw [Call.Failing, returned, honest frame answers] at failing
    simp at failing
  · intro kept frame answers
    have promise_eq := (promise frame.payload).mpr ⟨frame, answers, rfl⟩
    cases response with
    | none =>
        have lost : Lost number client :=
          ⟨call, found, Or.inr (Or.inr returned), by simp [promise_eq]⟩
        exact absurd lost kept
    | some payload => rw [← promise_eq, orderly.returned number call payload found returned]

/-- A response that arrives in time is returned. -/
theorem response_returned_in_time :
    ∃ client, (system true).Reaches (requestTrace ++ answerTrace true ++ [.get 0]) client ∧
      ((∀ frame, Answers true (requestTrace ++ answerTrace true ++ [.get 0]) 0 frame →
          some [8] = some frame.payload) ↔
        (system true).EachStep (fun client event => ¬ Late 0 client event)
          (requestTrace ++ answerTrace true ++ [.get 0])) := by
  have reached : (system true).Reaches (requestTrace ++ answerTrace true ++ [.get 0])
      ((requestAnswered true true).setPhase 0 (.returned (some [8]))) :=
    EventSystem.reaches_concat.mpr ⟨_, reaches_requestAnswered true true, rfl⟩
  exact ⟨_, reached, response_returned_iff true _ _ reached 0 _ _ rfl rfl⟩

/-- The call has timed out and has not removed its handler. -/
def requestTimedOut : TcpClient := (requestSent true).setPhase 0 .timedOut

/-- The call's promise is set after all. -/
def requestAnsweredLate : TcpClient := (requestAnswered true true).setPhase 0 .timedOut

/-- The call times out, its response is handled, and only then its handler is removed. -/
def boundaryTrace : List Event :=
  requestTrace ++ [.timeout 0] ++ answerTrace true ++ [.eraseTimedOut 0]

theorem reaches_requestAnsweredLate :
    (system true).Reaches (requestTrace ++ [.timeout 0] ++ answerTrace true)
      requestAnsweredLate := by
  have received := receiveChunk_serialize (show (Frame.create 0 1 [8]).WellFormed by decide) true
  have sent : (system true).Reaches (requestTrace ++ [.timeout 0]) requestTimedOut := rfl
  have parsed : (system true).step requestTimedOut
      (.recv ((Frame.create 0 1 [8]).serialize true)) =
      some { requestTimedOut with frames := [(Frame.create 0 1 [8]).onWire true] } := by
    have nonempty : (Frame.create 0 1 [8]).serialize true ≠ [] := nofun
    simp [system, stepAlive, requestTimedOut, requestSent, setPhase, received, nonempty]
  have handled : (system true).step
      { requestTimedOut with frames := [(Frame.create 0 1 [8]).onWire true] }
      (.dispatch ((Frame.create 0 1 [8]).onWire true)) = some requestAnsweredLate := rfl
  have later := EventSystem.reaches_concat.mpr
    ⟨_, EventSystem.reaches_concat.mpr ⟨_, sent, parsed⟩, handled⟩
  rwa [List.append_assoc] at later

/-- The response `[8]` is taken off the stream for a call that returns `false`. -/
theorem timed_out_call_loses_response :
    ∃ client, (system true).Reaches boundaryTrace client ∧
      ∃ call : Call, client.calls[0]? = some call ∧ call.phase = .returned none ∧
        ∃ frame, Answers true boundaryTrace 0 frame ∧ frame.payload = [8] := by
  have reached : (system true).Reaches boundaryTrace _ :=
    EventSystem.reaches_concat.mpr ⟨_, reaches_requestAnsweredLate, rfl⟩
  refine ⟨_, reached, _, rfl, rfl, ?_⟩
  exact (promise_iff reached 0 _ rfl [8]).mp rfl

end TcpClient
end FramedTcp
