import FramedTcp.Http2

/-!
# What closed streams leave behind

The session registers no callback for the closing of a stream, so only the end of a body removes an
entry of `stream_data`.  A stream that is reset or closed before leaves its entry in the map.
-/

namespace FramedTcp.Http2

open EventSystems

/-- Chunks are delivered for open streams only. -/
def DeliversToOpen (trace : List Event) : Prop :=
  connection.EachStep (fun state event =>
    ∀ streamId data, event = .dataChunkRecv streamId data →
      state.openStreams streamId = true) trace

/-- Every key of `stream_data` belongs to a stream that is open. -/
def Connection.NoResidue (state : Connection) : Prop :=
  ∀ key data, state.session.streamData.lookup key = some data →
    ∃ streamId : Int32, streamId.toInt = key ∧ state.openStreams streamId = true

/-- A chunk has been delivered for the stream, and its body has not ended since. -/
def Unfinished (streamId : Int32) (trace : List Event) : Prop :=
  ∃ front data back, trace = front ++ .dataChunkRecv streamId data :: back ∧
    ∀ later ∈ back, later.streamId = streamId → ¬ later.EndsBody

theorem unfinished_concat {streamId : Int32} {trace : List Event} {event : Event} :
    Unfinished streamId (trace ++ [event]) ↔
      (∃ data, event = .dataChunkRecv streamId data) ∨
        Unfinished streamId trace ∧ (event.streamId = streamId → ¬ event.EndsBody) := by
  constructor
  · rintro ⟨front, data, back, trace_eq, unended⟩
    rcases List.eq_nil_or_concat back with rfl | ⟨earlier, last, rfl⟩
    · obtain ⟨-, last_eq⟩ := List.append_inj' trace_eq rfl
      exact Or.inl ⟨data, List.singleton_injective last_eq⟩
    · rw [List.concat_eq_append, ← List.cons_append, ← List.append_assoc] at trace_eq
      obtain ⟨rfl, last_eq⟩ := List.append_inj' trace_eq rfl
      obtain rfl := List.singleton_injective last_eq
      refine Or.inr ⟨⟨front, data, earlier, rfl, fun later member => ?_⟩, ?_⟩
      · exact unended later (by simp [member])
      · exact unended event (by simp)
  · rintro (⟨data, rfl⟩ | ⟨⟨front, data, back, rfl, unended⟩, continues⟩)
    · exact ⟨trace, data, [], rfl, fun later member => absurd member List.not_mem_nil⟩
    · refine ⟨front, data, back ++ [event], by simp, fun later member => ?_⟩
      rcases List.mem_append.mp member with earlier | last
      · exact unended later earlier
      · rwa [List.mem_singleton.mp last]

/-! ## The entries of the map -/

/-- A step leaves a body in the map if it delivers a chunk, or does not end the body. -/
theorem body_step_ne_none_iff (state : Connection) (event : Event) (streamId : Int32) :
    (state.step event).session.body streamId ≠ none ↔
      (∃ data, event = .dataChunkRecv streamId data) ∨
        state.session.body streamId ≠ none ∧ (event.streamId = streamId → ¬ event.EndsBody) := by
  by_cases own : event.streamId = streamId
  · subst own
    have stepped := congrArg Stream.body (streamOf_step_own state event)
    replace stepped : (state.step event).session.body event.streamId =
      ((state.streamOf event.streamId).step event).body := stepped
    rw [stepped]
    cases event with
    | dataChunkRecv streamId data => simp [Stream.step, Event.streamId]
    | frameRecv frame submitted sent =>
        by_cases ends : frame.EndsBody <;>
          simp [Stream.step, Event.streamId, Event.EndsBody, Connection.streamOf, ends]
    | streamClose streamId =>
        simp [Stream.step, Event.streamId, Event.EndsBody, Connection.streamOf]
  · have stepped := congrArg Stream.body (streamOf_step_of_ne state own)
    replace stepped : (state.step event).session.body streamId = state.session.body streamId :=
      stepped
    rw [stepped]
    constructor
    · exact fun present => Or.inr ⟨present, fun same => absurd same own⟩
    · rintro (⟨data, rfl⟩ | ⟨present, -⟩)
      · exact absurd rfl own
      · exact present

/-- The map has an entry exactly for the streams with an unfinished body. -/
theorem body_ne_none_iff {trace : List Event} {state : Connection}
    (reached : connection.Reaches trace state) (streamId : Int32) :
    state.session.body streamId ≠ none ↔ Unfinished streamId trace := by
  refine reached.invariant (motive := fun trace state =>
    state.session.body streamId ≠ none ↔ Unfinished streamId trace) ?_ ?_
  · refine iff_of_false (fun present => present rfl) ?_
    rintro ⟨front, data, back, nil_eq, -⟩
    exact List.append_ne_nil_of_right_ne_nil _ (List.cons_ne_nil _ _) nil_eq.symm
  · rintro trace state event next - induction stepped
    obtain rfl : state.step event = next := Option.some.inj stepped
    rw [body_step_ne_none_iff, unfinished_concat, induction]

/-- The keys of the map are identifiers of streams. -/
theorem exists_streamId_of_lookup {trace : List Event} {state : Connection}
    (reached : connection.Reaches trace state) {key : ℤ} {data : List UInt8}
    (found : state.session.streamData.lookup key = some data) :
    ∃ streamId : Int32, streamId.toInt = key := by
  refine reached.invariant (motive := fun _ state => ∀ key data,
    state.session.streamData.lookup key = some data → ∃ streamId : Int32, streamId.toInt = key)
    (fun _ _ nothing => absurd nothing (by simp [connection])) ?_ key data found
  rintro trace state event next - induction stepped key data found
  obtain rfl : state.step event = next := Option.some.inj stepped
  cases event with
  | dataChunkRecv streamId chunk =>
      simp only [Connection.step, Http2Session.onDataChunkRecv, OrderedMap.lookup_insert] at found
      split at found
      · rename_i same
        exact ⟨streamId, same.symm⟩
      · exact induction key data found
  | frameRecv frame submitted sent =>
      cases collected : state.session.body frame.streamId with
      | none =>
          simp only [Connection.step, Http2Session.onFrameRecv_of_empty collected] at found
          exact induction key data found
      | some body =>
          by_cases ends : frame.EndsBody
          · simp only [Connection.step, Http2Session.onFrameRecv_of_collected ends collected,
              OrderedMap.lookup_erase, Option.ite_none_left_eq_some] at found
            exact induction key data found.2
          · simp only [Connection.step, Http2Session.onFrameRecv_of_not_endsBody _ ends] at found
            exact induction key data found
  | streamClose streamId => exact induction key data found

theorem noResidue_iff {trace : List Event} {state : Connection}
    (reached : connection.Reaches trace state) :
    state.NoResidue ↔
      ∀ streamId, state.session.body streamId ≠ none → state.openStreams streamId = true := by
  constructor
  · intro clean streamId present
    obtain ⟨data, found⟩ := Option.ne_none_iff_exists'.mp present
    obtain ⟨owner, same, opened⟩ := clean _ data found
    rwa [← Int32.toInt_inj.mp same]
  · intro opened key data found
    obtain ⟨streamId, rfl⟩ := exists_streamId_of_lookup reached found
    exact ⟨streamId, rfl, opened streamId (Option.ne_none_iff_exists'.mpr ⟨data, found⟩)⟩

/-! ## Closing streams -/

theorem openStreams_frameRecv (state : Connection) (frame : Frame) (submitted sent : Int32)
    {streamId : Int32} (opened : state.openStreams streamId = true) :
    (state.step (.frameRecv frame submitted sent)).openStreams streamId = true := by
  simp only [Connection.step]
  split
  · rw [Function.update_apply]
    split
    · rfl
    · exact opened
  · exact opened

/-- A step keeps the map free of residue unless it closes a stream that has an entry. -/
theorem noResidue_step_iff {trace : List Event} {state next : Connection} {event : Event}
    (reached : connection.Reaches trace state) (clean : state.NoResidue)
    (delivers : ∀ streamId data, event = .dataChunkRecv streamId data →
      state.openStreams streamId = true)
    (stepped : connection.step state event = some next) :
    next.NoResidue ↔
      ∀ streamId, event = .streamClose streamId → state.session.body streamId = none := by
  rw [noResidue_iff (EventSystem.reaches_concat.mpr ⟨state, reached, stepped⟩)]
  rw [noResidue_iff reached] at clean
  obtain rfl : state.step event = next := Option.some.inj stepped
  cases event with
  | dataChunkRecv streamId data =>
      refine iff_of_true (fun other present => ?_) (fun _ => nofun)
      rcases (body_step_ne_none_iff state _ other).mp present with ⟨_, same⟩ | ⟨earlier, -⟩
      · exact delivers other _ same
      · exact clean other earlier
  | frameRecv frame submitted sent =>
      refine iff_of_true (fun other present => ?_) (fun _ => nofun)
      rcases (body_step_ne_none_iff state _ other).mp present with ⟨_, same⟩ | ⟨earlier, -⟩
      · contradiction
      · exact openStreams_frameRecv state frame submitted sent (clean other earlier)
  | streamClose streamId =>
      constructor
      · rintro opened _ ⟨⟩
        by_contra present
        have still_open := opened streamId present
        simp [Connection.step] at still_open
      · intro removed other present
        have different : other ≠ streamId := by
          rintro rfl
          exact present (removed other rfl)
        simp only [Connection.step, Function.update_of_ne different]
        exact clean other present

/-- Whatever the events, a connection goes on. -/
theorem exists_reaches (trace : List Event) : ∃ state, connection.Reaches trace state := by
  induction trace using List.reverseRecOn with
  | nil => exact ⟨_, EventSystem.reaches_nil⟩
  | append_singleton trace event induction =>
      obtain ⟨state, reached⟩ := induction
      exact ⟨_, EventSystem.reaches_concat.mpr ⟨state, reached, rfl⟩⟩

/-- Every key of `stream_data` belongs to an open stream all the time if and only if no stream is
closed after a chunk has been delivered for it and before its body has ended. -/
theorem no_residue_iff (trace : List Event) (delivers : DeliversToOpen trace) :
    connection.Along Connection.NoResidue trace ↔
      ∀ front streamId, front ++ [.streamClose streamId] <+: trace →
        ¬ Unfinished streamId front := by
  have initial : connection.init.NoResidue := fun _ _ found => absurd found (by simp [connection])
  rw [EventSystem.along_iff_eachStep_of initial noResidue_step_iff delivers]
  constructor
  · intro each front streamId front_le unfinished
    obtain ⟨state, reached⟩ := exists_reaches front
    have removed := each front _ front_le state _ reached rfl streamId rfl
    exact (body_ne_none_iff reached streamId).mpr unfinished removed
  · rintro finished front _ front_le state next reached - streamId rfl
    by_contra present
    exact finished front streamId front_le ((body_ne_none_iff reached streamId).mp present)

/-- A request opens its stream, and a chunk of its body is delivered. -/
def begun : List Event :=
  [.frameRecv { type := .headers .request, flags := 4, streamId := 1 } 0 0,
    .dataChunkRecv 1 [7]]

theorem deliversToOpen_begun : DeliversToOpen begun := by
  have opened : DeliversToOpen (begun.take 1) :=
    EventSystem.EachStep.concat EventSystem.eachStep_nil fun _ _ _ _ _ _ => nofun
  refine EventSystem.EachStep.concat opened fun state next reached _ streamId data same => ?_
  obtain rfl := Option.some.inj reached
  obtain ⟨rfl, -⟩ := Event.dataChunkRecv.inj same
  rfl

/-- What is delivered after the chunk is no further chunk. -/
theorem DeliversToOpen.concat {trace : List Event} (delivers : DeliversToOpen trace)
    {event : Event} (silent : event.chunk? = none) : DeliversToOpen (trace ++ [event]) := by
  refine EventSystem.EachStep.concat delivers fun _ _ _ _ streamId data same => ?_
  rw [same] at silent
  contradiction

/-- The body ends before the stream is closed. -/
def finished : List Event :=
  begun ++ [.frameRecv { type := .data, flags := 1, streamId := 1 } 0 0] ++ [.streamClose 1]

theorem no_residue_iff_finished :
    connection.Along Connection.NoResidue finished := by
  refine (no_residue_iff finished ((deliversToOpen_begun.concat rfl).concat rfl)).mpr ?_
  intro front streamId front_le unfinished
  rcases List.prefix_concat_iff.mp front_le with whole | earlier
  · obtain ⟨rfl, close_eq⟩ := List.append_inj' whole rfl
    obtain rfl := Event.streamClose.inj (List.singleton_injective close_eq)
    rcases unfinished_concat.mp unfinished with ⟨data, same⟩ | ⟨-, continues⟩
    · contradiction
    · exact continues rfl ⟨rfl, rfl⟩
  · have member := earlier.subset (List.mem_append_right _ (List.mem_singleton_self _))
    simp [begun] at member

/-- The stream is reset (`NGHTTP2_RST_STREAM`) before its body ends. -/
def reset : List Event :=
  begun ++ [.frameRecv { type := .other 3, flags := 0, streamId := 1 } 0 0] ++ [.streamClose 1]

/-- Its entry is left behind. -/
theorem reset_leaves_entry :
    ∃ state, connection.Reaches reset state ∧ DeliversToOpen reset ∧
      state.session.streamData.lookup 1 = some [7] ∧ state.openStreams 1 = false ∧
      ¬ state.NoResidue := by
  refine ⟨_, rfl, (deliversToOpen_begun.concat rfl).concat rfl, by decide, rfl, ?_⟩
  intro clean
  obtain ⟨streamId, same, opened⟩ := clean 1 [7] (by decide)
  obtain rfl : streamId = 1 := Int32.toInt_inj.mp same
  contradiction

end FramedTcp.Http2
