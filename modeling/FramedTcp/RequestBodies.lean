import FramedTcp.Http2

/-!
# Request bodies

A stream collects the chunks delivered for it until its body ends, and then hands them over once.  A
request is answered if and only if a chunk has been delivered before a `DATA` frame with
`END_STREAM`; a request without a body, or with an empty one, is not answered.
-/

namespace FramedTcp.Http2

open EventSystems

/-! ## What is delivered -/

/-- The chunks delivered, in the order of their arrival. -/
def chunks (trace : List Event) : List (List UInt8) := trace.filterMap Event.chunk?

/-- The concatenation of the chunks delivered for a stream. -/
def bodyOf (streamId : Int32) (trace : List Event) : List UInt8 :=
  (chunks (eventsOf streamId trace)).flatten

/-- Nothing is delivered for a stream after its request has ended. -/
def NothingAfterEnd (trace : List Event) : Prop :=
  trace.Pairwise fun earlier later =>
    earlier.EndsRequest → earlier.streamId = later.streamId → later.chunk? = none

instance (trace : List Event) : Decidable (NothingAfterEnd trace) :=
  inferInstanceAs (Decidable (List.Pairwise _ trace))

/-- The request of a stream has ended. -/
def RequestEnded (streamId : Int32) (trace : List Event) : Prop :=
  ∃ event ∈ trace, event.EndsRequest ∧ event.streamId = streamId

/-- The body has ended after a chunk. -/
def BodyEnded (trace : List Event) : Prop :=
  ∃ front event, front ++ [event] <+: trace ∧ event.EndsBody ∧ chunks front ≠ []

theorem chunks_concat (trace : List Event) (event : Event) :
    chunks (trace ++ [event]) = chunks trace ++ event.chunk?.toList := by
  cases chunk_eq : event.chunk? <;> simp [chunks, chunk_eq]

theorem bodyEnded_concat {trace : List Event} {event : Event} :
    BodyEnded (trace ++ [event]) ↔ BodyEnded trace ∨ event.EndsBody ∧ chunks trace ≠ [] := by
  constructor
  · rintro ⟨front, last, front_le, ends, nonempty⟩
    rcases List.prefix_concat_iff.mp front_le with whole | earlier
    · obtain ⟨rfl, last_eq⟩ := List.append_inj' whole rfl
      obtain rfl := List.singleton_injective last_eq
      exact Or.inr ⟨ends, nonempty⟩
    · exact Or.inl ⟨front, last, earlier, ends, nonempty⟩
  · rintro (⟨front, last, front_le, ends, nonempty⟩ | ⟨ends, nonempty⟩)
    · exact ⟨front, last, front_le.trans (List.prefix_append _ _), ends, nonempty⟩
    · exact ⟨trace, event, List.prefix_rfl, ends, nonempty⟩

theorem Event.EndsBody.endsRequest {event : Event} (ends : event.EndsBody) :
    event.EndsRequest := by
  cases event with
  | frameRecv frame submitted sent =>
      obtain ⟨type_eq, flag⟩ := ends
      refine ⟨?_, flag⟩
      rw [type_eq]
      trivial
  | dataChunkRecv | streamClose => exact ends.elim

theorem mem_eventsOf {streamId : Int32} {trace : List Event} {event : Event} :
    event ∈ eventsOf streamId trace ↔ event ∈ trace ∧ event.streamId = streamId := by
  simp only [eventsOf, ownEvent, List.mem_filterMap, Option.ite_none_right_eq_some,
    Option.some.injEq]
  constructor
  · rintro ⟨own, member, same, rfl⟩
    exact ⟨member, same⟩
  · rintro ⟨member, same⟩
    exact ⟨event, member, same, rfl⟩

/-- The events of one stream are in order as well. -/
theorem NothingAfterEnd.eventsOf {trace : List Event} (orderly : NothingAfterEnd trace)
    (streamId : Int32) : NothingAfterEnd (eventsOf streamId trace) := by
  refine List.Pairwise.filterMap (ownEvent streamId) ?_ orderly
  intro earlier later related own own_eq other other_eq
  simp only [ownEvent, Option.ite_none_right_eq_some, Option.some.injEq] at *
  obtain ⟨-, rfl⟩ := own_eq
  obtain ⟨-, rfl⟩ := other_eq
  exact related

/-! ## A stream collects and hands over -/

/-- A stream has what has been delivered for it, or it has handed it over in one call. -/
inductive Collects (trace : List Event) (state : Stream) : Prop
  | collecting (continues : ¬ BodyEnded trace) (posts_eq : state.posts = [])
      (body_eq : state.body =
        if chunks trace = [] then none else some (chunks trace).flatten)
  | handedOver {frame submitted sent} (ended : BodyEnded trace)
      (member : .frameRecv frame submitted sent ∈ trace) (ends : frame.EndsBody)
      (posts_eq : state.posts =
        [handlePostData frame.streamId (chunks trace).flatten submitted sent])
      (body_eq : state.body = none)

namespace Collects

variable {trace : List Event} {state : Stream} {event : Event}

/-- A chunk is added to what has been collected. -/
theorem addChunk (continues : ¬ BodyEnded trace) (posts_eq : state.posts = [])
    (body_eq : state.body = if chunks trace = [] then none else some (chunks trace).flatten)
    (streamId : Int32) (data : List UInt8) :
    Collects (trace ++ [.dataChunkRecv streamId data])
      (state.step (.dataChunkRecv streamId data)) := by
  refine .collecting ?_ posts_eq ?_
  · rw [bodyEnded_concat]
    exact not_or.mpr ⟨continues, fun ends => ends.1⟩
  · have chunks_eq : chunks (trace ++ [.dataChunkRecv streamId data]) = chunks trace ++ [data] :=
      chunks_concat _ _
    rw [chunks_eq, if_neg (List.append_ne_nil_of_right_ne_nil _ (List.cons_ne_nil _ _)),
      List.flatten_append, List.flatten_singleton]
    simp only [Stream.step, body_eq]
    split
    · rename_i nothing
      rw [nothing]
      rfl
    · rfl

/-- The end of the body hands over what has been collected. -/
theorem endBody (continues : ¬ BodyEnded trace) (posts_eq : state.posts = [])
    (body_eq : state.body = if chunks trace = [] then none else some (chunks trace).flatten)
    {frame : Frame} (ends : frame.EndsBody) (submitted sent : Int32) :
    Collects (trace ++ [.frameRecv frame submitted sent])
      (state.step (.frameRecv frame submitted sent)) := by
  have chunks_eq : chunks (trace ++ [.frameRecv frame submitted sent]) = chunks trace :=
    (chunks_concat _ _).trans (List.append_nil _)
  by_cases nothing : chunks trace = []
  · rw [if_pos nothing] at body_eq
    refine .collecting ?_ ?_ ?_
    · rw [bodyEnded_concat]
      exact not_or.mpr ⟨continues, fun ended => ended.2 nothing⟩
    · simp [Stream.step, posts_eq, body_eq]
    · simp [Stream.step, ends, chunks_eq, nothing]
  · rw [if_neg nothing] at body_eq
    refine .handedOver (bodyEnded_concat.mpr (Or.inr ⟨ends, nothing⟩))
      (List.mem_append_right _ (List.mem_singleton_self _)) ends ?_ ?_
    · simp [Stream.step, ends, posts_eq, body_eq, chunks_eq]
    · simp [Stream.step, ends]

theorem step (collects : Collects trace state)
    (quiet : ∀ earlier ∈ trace, earlier.EndsRequest → event.chunk? = none) :
    Collects (trace ++ [event]) (state.step event) := by
  cases collects with
  | collecting continues posts_eq body_eq =>
      cases event with
      | dataChunkRecv streamId data => exact addChunk continues posts_eq body_eq streamId data
      | frameRecv frame submitted sent =>
          by_cases ends : frame.EndsBody
          · exact endBody continues posts_eq body_eq ends submitted sent
          · refine .collecting ?_ ?_ ?_
            · rw [bodyEnded_concat]
              exact not_or.mpr ⟨continues, fun ended => ends ended.1⟩
            · simpa [Stream.step, ends] using posts_eq
            · simpa [Stream.step, ends, chunks_concat, Event.chunk?] using body_eq
      | streamClose streamId =>
          refine .collecting ?_ posts_eq ?_
          · rw [bodyEnded_concat]
            exact not_or.mpr ⟨continues, fun ended => ended.1⟩
          · simpa [Stream.step, chunks_concat, Event.chunk?] using body_eq
  | handedOver ended member ends posts_eq body_eq =>
      have silent : event.chunk? = none := quiet _ member (Event.EndsBody.endsRequest ends)
      have chunks_eq : chunks (trace ++ [event]) = chunks trace := by
        rw [chunks_concat, silent]
        exact List.append_nil _
      refine .handedOver (bodyEnded_concat.mpr (Or.inl ended)) (List.mem_append_left _ member) ends
        ?_ ?_
      · rw [chunks_eq, ← posts_eq]
        cases event with
        | frameRecv frame submitted sent => simp [Stream.step, body_eq]
        | dataChunkRecv | streamClose => rfl
      · cases event with
        | dataChunkRecv streamId data => contradiction
        | frameRecv frame submitted sent => simp [Stream.step, body_eq]
        | streamClose streamId => exact body_eq

end Collects

/-- In every run of a stream. -/
theorem collects_of_reaches {streamId : Int32} {trace : List Event} {state : Stream}
    (reached : stream.Reaches trace state) (orderly : NothingAfterEnd trace)
    (own : ∀ event ∈ trace, event.streamId = streamId) : Collects trace state := by
  refine reached.invariant (motive := fun trace state => NothingAfterEnd trace →
    (∀ event ∈ trace, event.streamId = streamId) → Collects trace state) ?_ ?_ orderly own
  · intro _ _
    refine .collecting ?_ rfl rfl
    rintro ⟨front, event, front_le, -⟩
    exact List.append_ne_nil_of_right_ne_nil _ (List.cons_ne_nil _ _) (List.prefix_nil.mp front_le)
  · rintro trace state event next - collects stepped orderly own
    obtain rfl : state.step event = next := Option.some.inj stepped
    have own_earlier := fun earlier member => own earlier (List.mem_append_left _ member)
    have own_event := own event (List.mem_append_right _ (List.mem_singleton_self _))
    obtain ⟨earlier_orderly, -, quiet⟩ := List.pairwise_append.mp orderly
    refine (collects earlier_orderly own_earlier).step fun earlier member ends => ?_
    exact quiet earlier member event (List.mem_singleton_self _) ends
      ((own_earlier earlier member).trans own_event.symm)

/-! ## The streams of a connection -/

section

variable {trace : List Event} {state : Connection}

/-- In every run of a connection, each of its streams collects and hands over. -/
theorem collects_streamOf (reached : connection.Reaches trace state)
    (orderly : NothingAfterEnd trace) (streamId : Int32) :
    Collects (eventsOf streamId trace) (state.streamOf streamId) :=
  collects_of_reaches ((streamComponent streamId).reaches reached) (orderly.eventsOf streamId)
    fun _ member => (mem_eventsOf.mp member).2

theorem length_postsOf_le (reached : connection.Reaches trace state)
    (orderly : NothingAfterEnd trace) (streamId : Int32) :
    (state.postsOf streamId).length ≤ 1 := by
  cases collects_streamOf reached orderly streamId with
  | collecting continues posts_eq body_eq =>
      replace posts_eq : state.postsOf streamId = [] := posts_eq
      simp [posts_eq]
  | handedOver ended member ends posts_eq body_eq =>
      replace posts_eq : state.postsOf streamId = [_] := posts_eq
      simp [posts_eq]

/-- What has been handed over is the body, and it is no longer in the map. -/
theorem handed_over (reached : connection.Reaches trace state) (orderly : NothingAfterEnd trace)
    {post : Post} (member : post ∈ state.posts) :
    RequestEnded post.streamId trace ∧ post.data = bodyOf post.streamId trace ∧
      state.session.body post.streamId = none := by
  have own : post ∈ (state.streamOf post.streamId).posts :=
    List.mem_filter.mpr ⟨member, decide_eq_true rfl⟩
  cases collects_streamOf reached orderly post.streamId with
  | collecting continues posts_eq body_eq =>
      rw [posts_eq] at own
      contradiction
  | handedOver ended frame_member ends posts_eq body_eq =>
      rw [posts_eq, List.mem_singleton] at own
      obtain ⟨in_trace, same⟩ := mem_eventsOf.mp frame_member
      refine ⟨⟨_, in_trace, Event.EndsBody.endsRequest ends, same⟩, ?_, body_eq⟩
      conv_lhs => rw [own, data_handlePostData]
      rfl

/-- A body that is in the map is what has been delivered so far. -/
theorem body_collected (reached : connection.Reaches trace state)
    (orderly : NothingAfterEnd trace) {streamId : Int32} {data : List UInt8}
    (collected : state.session.body streamId = some data) : data = bodyOf streamId trace := by
  cases collects_streamOf reached orderly streamId with
  | collecting continues posts_eq body_eq =>
      replace body_eq := collected.symm.trans body_eq
      split at body_eq
      · contradiction
      · exact Option.some.inj body_eq
  | handedOver ended member ends posts_eq body_eq =>
      replace body_eq := collected.symm.trans body_eq
      contradiction

end

/-- `handle_post_data` is called at most once for a stream, when its body ends, with exactly the
chunks delivered for the stream; the map then has no entry for it, and all other entries are as they
were. -/
theorem body_integrity (trace : List Event) (state : Connection)
    (reached : connection.Reaches trace state) (orderly : NothingAfterEnd trace) :
    (∀ streamId, (state.postsOf streamId).length ≤ 1) ∧
      (∀ post ∈ state.posts, RequestEnded post.streamId trace ∧
        post.data = bodyOf post.streamId trace ∧ state.session.body post.streamId = none) ∧
      ∀ event next, connection.step state event = some next →
        next.posts = state.posts ∨
          ∃ post, next.posts = state.posts ++ [post] ∧ event.EndsBody ∧
            event.streamId = post.streamId ∧ post.data = bodyOf post.streamId trace ∧
            next.session.body post.streamId = none ∧
            ∀ other, other ≠ post.streamId →
              next.session.body other = state.session.body other := by
  refine ⟨length_postsOf_le reached orderly, fun post => handed_over reached orderly, ?_⟩
  intro event next stepped
  obtain rfl : state.step event = next := Option.some.inj stepped
  cases event with
  | dataChunkRecv streamId data => exact Or.inl rfl
  | streamClose streamId => exact Or.inl rfl
  | frameRecv frame submitted sent =>
      cases collected : state.session.body frame.streamId with
      | none =>
          refine Or.inl ?_
          simp [Connection.step, Http2Session.onFrameRecv_of_empty collected]
      | some data =>
          by_cases ends : frame.EndsBody
          · have handed := Http2Session.onFrameRecv_of_collected ends collected submitted sent
            refine Or.inr ⟨handlePostData frame.streamId data submitted sent, ?_, ends, ?_, ?_, ?_,
              fun other different => ?_⟩
            · simp [Connection.step, handed]
            · simp [Event.streamId]
            · rw [data_handlePostData, streamId_handlePostData]
              exact body_collected reached orderly collected
            · simp [Connection.step, handed, Http2Session.body_erase]
            · rw [streamId_handlePostData] at different
              simp [Connection.step, handed, Http2Session.body_erase, different.symm]
          · refine Or.inl ?_
            simp [Connection.step, Http2Session.onFrameRecv_of_not_endsBody _ ends]

/-- The chunks of two streams, one of which ends. -/
def interleaved : List Event :=
  [.dataChunkRecv 1 [7], .dataChunkRecv 3 [8], .dataChunkRecv 1 [9],
    .frameRecv { type := .data, flags := 1, streamId := 1 } 0 0]

/-- The chunks of the stream that has ended are handed over once; those of the other are kept. -/
theorem body_integrity_interleaved :
    ∃ state, connection.Reaches interleaved state ∧
      (state.posts.map fun post => (post.streamId, post.data)) = [(1, [7, 9])] ∧
      state.session.body 3 = some [8] ∧
      ∀ post ∈ state.posts, RequestEnded post.streamId interleaved ∧
        post.data = bodyOf post.streamId interleaved ∧
        state.session.body post.streamId = none := by
  exact ⟨_, rfl, rfl, rfl, (body_integrity interleaved _ rfl (by decide)).2.1⟩

/-! ## Responses -/

/-- A stream has a response exactly if its body has ended after a chunk. -/
theorem length_responsesTo {trace : List Event} {state : Connection}
    (reached : connection.Reaches trace state) (orderly : NothingAfterEnd trace)
    (accepted : ∀ event ∈ trace, event.SubmitSucceeds) (streamId : Int32) :
    (state.responsesTo streamId).length = 1 ↔ BodyEnded (eventsOf streamId trace) := by
  rw [Connection.responsesTo_eq]
  cases collects_streamOf reached orderly streamId with
  | collecting continues posts_eq body_eq =>
      replace posts_eq : state.postsOf streamId = [] := posts_eq
      simp [posts_eq, continues]
  | @handedOver frame submitted sent ended member ends posts_eq body_eq =>
      replace posts_eq : state.postsOf streamId = [_] := posts_eq
      obtain rfl : submitted = 0 := accepted _ (mem_eventsOf.mp member).1
      simp [posts_eq, ended, handlePostData]

/-- Every request that has ended has exactly one response if and only if each of them ended with a
`DATA` frame after a chunk of its body. -/
theorem exactly_one_response_iff (trace : List Event) (state : Connection)
    (reached : connection.Reaches trace state) (orderly : NothingAfterEnd trace)
    (accepted : ∀ event ∈ trace, event.SubmitSucceeds) :
    (∀ streamId, RequestEnded streamId trace → (state.responsesTo streamId).length = 1) ↔
      ∀ streamId, RequestEnded streamId trace → BodyEnded (eventsOf streamId trace) :=
  forall₂_congr fun streamId _ => length_responsesTo reached orderly accepted streamId

/-- A request with a body. -/
def oneBody : List Event :=
  [.frameRecv { type := .headers .request, flags := 4, streamId := 1 } 0 0,
    .dataChunkRecv 1 [7], .frameRecv { type := .data, flags := 1, streamId := 1 } 0 0]

theorem exactly_one_response_iff_one_body :
    ∃ state, connection.Reaches oneBody state ∧
      ∀ streamId, RequestEnded streamId oneBody → (state.responsesTo streamId).length = 1 := by
  have accepted : ∀ event ∈ oneBody, event.SubmitSucceeds := by
    simp [oneBody, Event.SubmitSucceeds]
  refine ⟨_, rfl, (exactly_one_response_iff oneBody _ rfl (by decide) accepted).mpr ?_⟩
  rintro streamId ⟨event, member, -, rfl⟩
  have own : event.streamId = 1 := by
    simp only [oneBody, List.mem_cons, List.not_mem_nil, or_false] at member
    rcases member with rfl | rfl | rfl <;> rfl
  rw [own]
  exact ⟨oneBody.take 2, .frameRecv { type := .data, flags := 1, streamId := 1 } 0 0,
    List.prefix_rfl, ⟨rfl, rfl⟩, by decide⟩

/-- A request without a body, and one with an empty body. -/
def noBodies : List Event :=
  [.frameRecv { type := .headers .request, flags := 5, streamId := 1 } 0 0,
    .frameRecv { type := .headers .request, flags := 4, streamId := 3 } 0 0,
    .frameRecv { type := .data, flags := 1, streamId := 3 } 0 0]

/-- Neither of them is answered. -/
theorem empty_bodies_unanswered :
    ∃ state, connection.Reaches noBodies state ∧ NothingAfterEnd noBodies ∧
      (∀ event ∈ noBodies, event.SubmitSucceeds) ∧
      (RequestEnded 1 noBodies ∧ (state.responsesTo 1).length ≠ 1) ∧
      RequestEnded 3 noBodies ∧ (state.responsesTo 3).length ≠ 1 := by
  refine ⟨_, rfl, by decide, ?_, ⟨?_, by decide⟩, ?_, by decide⟩
  · simp [noBodies, Event.SubmitSucceeds]
  · exact ⟨_, List.mem_cons_self, ⟨trivial, rfl⟩, rfl⟩
  · exact ⟨_, List.mem_cons_of_mem _ (List.mem_cons_of_mem _ List.mem_cons_self), ⟨trivial, rfl⟩,
      rfl⟩

end FramedTcp.Http2
