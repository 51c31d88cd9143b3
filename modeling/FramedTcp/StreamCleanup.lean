import FramedTcp.StreamDispatch

/-!
# Cleanup of inactive streams

`cleanupInactiveStreams` takes a stream for inactive when the map holds the only pointer to its
processor.  Callers hold a pointer for one call of `addFrame` only, so frames can be queued in a
processor that is taken for inactive.  Its destructor stops the worker before they are examined.
-/

namespace FramedTcp

open PrefixDecoding EventSystems FrameParser

namespace StreamDispatch

/-- A processor is held by `stream_processors_` or by a caller of `processIncomingData`. -/
def Held (state : StreamDispatch) (processor : ℕ) : Prop :=
  (∃ streamId, state.streamProcessors.lookup streamId = some processor) ∨
    ∃ thread, state.pointer thread = some processor

/-- Every frame ever added was taken out and examined, or is taken out, or is queued in a processor
that is held. -/
def Accounted (state : StreamDispatch) : Prop :=
  ∀ processor, (state.processors processor).Recorded ∧
    ((state.processors processor).frameQueue ≠ [] → state.Held processor)

/-- The queue of the processor that the cleanup thread erases next, if any, is empty. -/
def ErasesDrained (state : StreamDispatch) : Prop :=
  ∀ streamId streams processor, state.cleaner = .erasing (streamId :: streams) →
    state.streamProcessors.lookup streamId = some processor →
      (state.processors processor).frameQueue = []

variable {enableChecksum : Bool} {callbacks : Callbacks} {clients : ClientSet}
variable {state next : StreamDispatch} {event : Event}

/-- Callers hold processors of the map only. -/
theorem Linked.held_iff (linked : Linked state) (processor : ℕ) :
    state.Held processor ↔ ∃ streamId, state.streamProcessors.lookup streamId = some processor := by
  constructor
  · rintro (registered | ⟨thread, holds⟩)
    · exact registered
    · exact ⟨_, linked.held holds⟩
  · exact Or.inl

/-- A queue becomes nonempty in a caller's hands only. -/
theorem Evolves.held_of_queued {processor : ℕ} {value : SharedProcessor}
    (evolves : state.Evolves processor value)
    (held : (state.processors processor).frameQueue ≠ [] → state.Held processor)
    (queued : value.frameQueue ≠ []) : state.Held processor := by
  cases evolves with
  | kept => exact held queued
  | created streamId => exact absurd rfl queued
  | acquired => exact held queued
  | released => exact held queued
  | added found => exact Or.inr ⟨_, pointer_of_call found⟩
  | moved moves =>
      apply held
      intro empty
      have suffix := moves.frameQueue_suffix
      rw [empty, List.suffix_nil] at suffix
      exact queued suffix
  | finished holding => exact held queued

theorem Step.frameQueue_of_erase
    (stepped : Step enableChecksum callbacks clients state .eraseStream next) (processor : ℕ) :
    (next.processors processor).frameQueue = (state.processors processor).frameQueue := by
  cases stepped with
  | moved own moves => simp at own
  | unlocked erasing => rfl
  | missing erasing absent => rfl
  | @erased streamId streams found erasing present =>
      rw [processors_setProcessor]
      rcases eq_or_ne processor found with rfl | different
      · rw [Function.update_self]
        rfl
      · rw [Function.update_of_ne different]

/-- A step accounts for all frames unless it erases a processor with frames in its queue. -/
theorem Accounted.step (accounted : Accounted state) (linked : Linked state)
    (stepped : Step enableChecksum callbacks clients state event next)
    (drained : event = .eraseStream → state.ErasesDrained) : Accounted next := by
  intro processor
  have evolves := stepped.evolves processor
  obtain ⟨recorded, held⟩ := accounted processor
  refine ⟨evolves.recorded recorded, fun queued => ?_⟩
  obtain ⟨streamId, present⟩ := (linked.held_iff processor).mp (evolves.held_of_queued held queued)
  rcases stepped.registered_or_erased present with still | ⟨rfl, streams, erasing⟩
  · exact Or.inl ⟨streamId, still⟩
  · have empty := drained rfl streamId streams processor erasing present
    rw [stepped.frameQueue_of_erase, empty] at queued
    contradiction

/-- A processor that is erased is not held afterwards, and its queue stays as it is. -/
theorem Linked.exists_erased (linked : Linked state) {streamId : UInt32} {streams : List UInt32}
    {processor : ℕ} (erasing : state.cleaner = .erasing (streamId :: streams))
    (present : state.streamProcessors.lookup streamId = some processor) :
    ∃ next, (dispatch enableChecksum callbacks clients).step state .eraseStream = some next ∧
      (next.processors processor).frameQueue = (state.processors processor).frameQueue ∧
      ¬ next.Held processor := by
  have unique := linked.useCount_of_erasing erasing present
  refine ⟨{ state with
    streamProcessors := state.streamProcessors.erase streamId
    cleaner := .destroying streams processor }.setProcessor processor
      (state.processors processor).release, ?_, ?_, ?_⟩
  · simp [dispatch, eraseStream, erasing, present, unique]
  · rw [processors_setProcessor, Function.update_self]
    rfl
  · rintro (⟨other, still⟩ | ⟨thread, holds⟩)
    · change (state.streamProcessors.erase streamId).lookup other = some processor at still
      rw [OrderedMap.lookup_erase] at still
      split at still
      · contradiction
      · rename_i different
        exact different (linked.lookup_unique still present)
    · exact linked.pointer_ne present unique thread holds

/-- Cleanup loses no frame exactly when it erases processors with an empty queue only. -/
theorem accounted_along_iff (enableChecksum : Bool) (callbacks : Callbacks) (clients : ClientSet)
    (trace : List Event) :
    (dispatch enableChecksum callbacks clients).Along Accounted trace ↔
      (dispatch enableChecksum callbacks clients).EachStep
        (fun state event => event = .eraseStream → state.ErasesDrained) trace := by
  apply EventSystem.along_iff_eachStep
  · intro processor
    exact ⟨rfl, fun queued => absurd rfl queued⟩
  · intro trace state event next reached accounted stepped
    have linked := linked_of_reaches reached
    constructor
    · rintro next_accounted rfl streamId streams processor erasing present
      obtain ⟨after, after_stepped, queue_eq, unheld⟩ := linked.exists_erased erasing present
      obtain rfl := Option.some.inj (after_stepped.symm.trans stepped)
      rw [← queue_eq]
      by_contra queued
      exact unheld ((next_accounted processor).2 queued)
    · exact accounted.step linked (step_of_eq_some stepped)

/-! ## A frame that is lost -/

/-- One client. -/
def oneClient : ClientSet where
  present client := client == 4
  nonneg client present := by
    obtain rfl := beq_iff_eq.mp present
    decide

/-- The frame is queued before the worker starts, and cleanup runs. -/
def discardingTrace : List Event :=
  [.processIncomingData 0 4 ((Frame.create 1 1 [8]).serialize true), .findProcessor 0,
    .addFrame 0, .releaseProcessor 0, .startCleanup, .checkStream, .checkStream, .eraseStream,
    .testRunning 0, .joinErased]

/-- Cleanup destroys a processor with a frame in its queue that was never examined. -/
theorem cleanup_discards_frame :
    ∃ state, (dispatch true { request := true, checksum := true } oneClient).Reaches
        discardingTrace state ∧ ¬ Accounted state ∧
      (state.processors 0).destroyed = true ∧ (state.processors 0).examined = [] ∧
      (state.processors 0).frameQueue =
        [{ (Frame.create 1 1 [8]).onWire true with clientId := 4 }] := by
  have received := receiveChunk_serialize (show (Frame.create 1 1 [8]).WellFormed by decide) true
  have parsed : (dispatch true { request := true, checksum := true } oneClient).Reaches
      [.processIncomingData 0 4 ((Frame.create 1 1 [8]).serialize true)]
      ({ clientBuffers := Function.update (fun _ => []) 4 [] : StreamDispatch }.setCall 0
        (some (.finding 4 [] ((Frame.create 1 1 [8]).onWire true)))) := by
    simp [EventSystem.Reaches, EventSystem.run, dispatch, processIncomingData, oneClient, received,
      DispatchCall.next]
  refine ⟨_, parsed.append rfl, ?_, rfl, rfl, rfl⟩
  intro accounted
  rcases (accounted 0).2 (List.cons_ne_nil _ _) with ⟨streamId, registered⟩ | ⟨thread, holds⟩
  · have found := (OrderedMap.lookup_eq_some_iff _).mp registered
    exact absurd found List.not_mem_nil
  · cases thread with
    | zero => contradiction
    | succ thread => contradiction

end StreamDispatch
end FramedTcp
