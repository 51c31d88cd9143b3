import FramedTcp.StreamDispatch

/-!
# Order of dispatched frames

Clients that use the same stream share its processor, so their frames are mixed in one queue.  As
long as no cleanup runs and each client has one call of `processIncomingData` at a time, the frames
of one client on one stream stay in order from its bytes to the request callback.
-/

namespace FramedTcp

open PrefixDecoding EventSystems FrameParser

/-- Mark a frame with the client it was received from. -/
def Frame.mark (client : Int32) (frame : Frame) : Frame := { frame with clientId := client }

namespace DispatchCall

/-- The client that the call was made for. -/
def client : DispatchCall → Int32
  | .finding client _ _ => client
  | .found client _ _ _ => client
  | .added client _ _ => client
  | .destroying client _ _ => client

/-- The frames that the call has yet to add. -/
def pending : DispatchCall → List Frame
  | .finding client frames frame => frame.mark client :: frames.map (Frame.mark client)
  | .found client frames frame _ => frame :: frames.map (Frame.mark client)
  | .added client frames _ => frames.map (Frame.mark client)
  | .destroying client frames _ => frames.map (Frame.mark client)

theorem pending_next (client : Int32) (frames : List Frame) :
    (next client frames).elim [] pending = frames.map (Frame.mark client) := by
  cases frames with
  | nil => rfl
  | cons frame frames => rfl

theorem next_ne_found {client other : Int32} {frames later : List Frame} {frame : Frame}
    {processor : ℕ} : next client frames ≠ some (.found other later frame processor) := by
  cases frames with
  | nil => exact nofun
  | cons head frames => exact nofun

theorem client_of_next {client : Int32} {frames : List Frame} {call : DispatchCall}
    (continues : next client frames = some call) : call.client = client := by
  cases frames with
  | nil => contradiction
  | cons frame frames =>
      obtain rfl := Option.some.inj continues
      rfl

end DispatchCall

namespace StreamDispatch

/-! ## What was received and what was requested -/

/-- The data that an event brings from a client. -/
def Event.data? (client : Int32) : Event → Option (List UInt8)
  | .processIncomingData _ other data => if other = client then some data else none
  | _ => none

/-- All bytes received from a client. -/
def received (client : Int32) (trace : List Event) : List UInt8 :=
  (trace.filterMap (Event.data? client)).flatten

/-- The frames on a stream with a valid checksum in the bytes of a client. -/
def validFrames (enableChecksum : Bool) (client : Int32) (streamId : UInt32)
    (trace : List Event) : List Frame :=
  ((processData (received client trace)).1.filter fun frame =>
    frame.streamId == streamId && frame.verifyChecksum enableChecksum).map (Frame.mark client)

/-- The invocations of the request callback for a client and a stream. -/
def requestsFor (state : StreamDispatch) (client : Int32) (streamId : UInt32) : List Frame :=
  state.requests.filter fun frame => frame.clientId == client && frame.streamId == streamId

/-- No client has two calls in progress. -/
def OneCallPerClient (state : StreamDispatch) : Prop :=
  ∀ thread other call otherCall, state.calls thread = some call →
    state.calls other = some otherCall → call.client = otherCall.client → thread = other

/-- No call and no iteration of a worker is in progress, and all queues are empty. -/
def Quiescent (state : StreamDispatch) : Prop :=
  (∀ thread, state.calls thread = none) ∧
    ∀ processor, (state.processors processor).inHand = [] ∧
      (state.processors processor).frameQueue = []

theorem received_concat (client : Int32) (trace : List Event) (event : Event) :
    received client (trace ++ [event]) =
      received client trace ++ (event.data? client).getD [] := by
  rw [received, List.filterMap_append, List.flatten_append]
  congr 1
  cases own : event.data? client <;> simp [own]

variable {enableChecksum : Bool} {callbacks : Callbacks} {clients : ClientSet}
variable {state next : StreamDispatch} {event : Event}

/-! ## Where frames are added -/

/-- Without cleanup, a frame is added to the processor that the map has for its stream. -/
structure Routed (state : StreamDispatch) : Prop where
  unlocked : state.cleaner = .sleeping
  marked : ∀ {thread client frames frame processor},
    state.calls thread = some (.found client frames frame processor) → frame.clientId = client
  targeted : ∀ {thread client frames frame processor},
    state.calls thread = some (.found client frames frame processor) →
      state.streamProcessors.lookup frame.streamId = some processor
  added : ∀ {processor frame}, frame ∈ (state.processors processor).added →
    state.streamProcessors.lookup frame.streamId = some processor

theorem call_cases_of_setCall {thread other : ℕ} {after : Option DispatchCall}
    {call : DispatchCall} (calling : (state.setCall thread after).calls other = some call) :
    after = some call ∨ state.calls other = some call := by
  rcases eq_or_ne other thread with rfl | different
  · left
    rwa [calls_setCall, Function.update_self] at calling
  · right
    rwa [calls_setCall, Function.update_of_ne different] at calling

theorem Step.found_cases (stepped : Step enableChecksum callbacks clients state event next)
    {thread processor : ℕ} {client : Int32} {frames : List Frame} {frame : Frame}
    (found : next.calls thread = some (.found client frames frame processor)) :
    state.calls thread = some (.found client frames frame processor) ∨
      frame.clientId = client ∧ next.streamProcessors.lookup frame.streamId = some processor := by
  cases stepped with
  | received idle present =>
      rcases call_cases_of_setCall found with own | earlier
      · exact absurd own DispatchCall.next_ne_found
      · exact Or.inl earlier
  | created unlocked finding absent =>
      rcases call_cases_of_setCall found with own | earlier
      · obtain ⟨rfl, rfl, rfl, rfl⟩ := DispatchCall.found.inj (Option.some.inj own)
        refine Or.inr ⟨rfl, ?_⟩
        exact (OrderedMap.lookup_tryInsert _ absent _ _).trans (if_pos rfl)
      · exact Or.inl earlier
  | shared unlocked finding present =>
      rcases call_cases_of_setCall found with own | earlier
      · obtain ⟨rfl, rfl, rfl, rfl⟩ := DispatchCall.found.inj (Option.some.inj own)
        exact Or.inr ⟨rfl, present⟩
      · exact Or.inl earlier
  | added other =>
      rcases call_cases_of_setCall found with own | earlier
      · simp at own
      · exact Or.inl earlier
  | released added =>
      rcases call_cases_of_setCall found with own | earlier
      · split at own
        · simp at own
        · exact absurd own DispatchCall.next_ne_found
      · exact Or.inl earlier
  | joinedReleased destroying moves =>
      rcases call_cases_of_setCall found with own | earlier
      · exact absurd own DispatchCall.next_ne_found
      · exact Or.inl earlier
  | _ => exact Or.inl found

theorem Evolves.mem_added {processor : ℕ} {value : SharedProcessor}
    (evolves : state.Evolves processor value) {frame : Frame} (member : frame ∈ value.added) :
    frame ∈ (state.processors processor).added ∨
      ∃ thread client frames, state.calls thread = some (.found client frames frame processor) := by
  cases evolves with
  | kept => exact Or.inl member
  | created streamId => contradiction
  | acquired => exact Or.inl member
  | released => exact Or.inl member
  | added found =>
      rcases List.mem_append.mp member with old | new
      · exact Or.inl old
      · obtain rfl := List.mem_singleton.mp new
        exact Or.inr ⟨_, _, _, found⟩
  | moved moves => exact Or.inl (moves.added_eq ▸ member)
  | finished holding => exact Or.inl member

theorem Step.stays_unlocked (stepped : Step enableChecksum callbacks clients state event next)
    (unlocked : state.cleaner = .sleeping) (no_cleanup : event ≠ .startCleanup) :
    next.cleaner = .sleeping := by
  cases stepped with
  | locked _ => contradiction
  | checkEnded checking => simp [unlocked] at checking
  | checked checking => simp [unlocked] at checking
  | unlocked erasing => rfl
  | missing erasing absent => simp [unlocked] at erasing
  | erased erasing present => simp [unlocked] at erasing
  | joinedErased destroying moves => simp [unlocked] at destroying
  | _ => exact unlocked

theorem Routed.step (routed : Routed state)
    (stepped : Step enableChecksum callbacks clients state event next)
    (no_cleanup : event ≠ .startCleanup) : Routed next := by
  have kept {streamId : UInt32} {processor : ℕ}
      (present : state.streamProcessors.lookup streamId = some processor) :
      next.streamProcessors.lookup streamId = some processor := by
    rcases stepped.registered_or_erased present with still | ⟨-, streams, erasing⟩
    · exact still
    · rw [routed.unlocked] at erasing
      contradiction
  refine ⟨stepped.stays_unlocked routed.unlocked no_cleanup, fun found => ?_, fun found => ?_,
    fun {processor} _ member => ?_⟩
  · rcases stepped.found_cases found with earlier | ⟨marked, -⟩
    · exact routed.marked earlier
    · exact marked
  · rcases stepped.found_cases found with earlier | ⟨-, present⟩
    · exact kept (routed.targeted earlier)
    · exact present
  · rcases (stepped.evolves processor).mem_added member with old | ⟨thread, client, frames, found⟩
    · exact kept (routed.added old)
    · exact kept (routed.targeted found)

/-! ## The frames on their way -/

/-- The frames of a client that its call in progress, if any, has yet to add. -/
def Awaits (state : StreamDispatch) (client : Int32) (rest : List Frame) : Prop :=
  (rest = [] ∧ ∀ thread call, state.calls thread = some call → call.client ≠ client) ∨
    ∃ thread call, state.calls thread = some call ∧ call.client = client ∧ rest = call.pending

/-- The call of another client moves on. -/
theorem Awaits.other {client : Int32} {rest : List Frame} (awaits : state.Awaits client rest)
    {thread : ℕ} {after : Option DispatchCall}
    (foreign : ∀ call, state.calls thread = some call → call.client ≠ client)
    (still_foreign : ∀ call, after = some call → call.client ≠ client) :
    (state.setCall thread after).Awaits client rest := by
  rcases awaits with ⟨rfl, idle⟩ | ⟨caller, call, calling, own, rfl⟩
  · refine Or.inl ⟨rfl, fun other call calling => ?_⟩
    rcases call_cases_of_setCall calling with new | old
    · exact still_foreign call new
    · exact idle other call old
  · refine Or.inr ⟨caller, call, ?_, own, rfl⟩
    rw [calls_setCall, Function.update_of_ne, calling]
    rintro rfl
    exact foreign call calling own

/-- The call of the client moves on. -/
theorem Awaits.own {client : Int32} {rest : List Frame} (awaits : state.Awaits client rest)
    (one_call : state.OneCallPerClient) {thread : ℕ} {call : DispatchCall}
    {after : Option DispatchCall} (calling : state.calls thread = some call)
    (own : call.client = client) (still_own : ∀ later, after = some later → later.client = client) :
    rest = call.pending ∧
      (state.setCall thread after).Awaits client (after.elim [] DispatchCall.pending) := by
  constructor
  · rcases awaits with ⟨-, idle⟩ | ⟨caller, current, current_calling, current_own, rfl⟩
    · exact absurd own (idle thread call calling)
    · obtain rfl := one_call _ _ _ _ current_calling calling (current_own.trans own.symm)
      rw [calling] at current_calling
      rw [Option.some.inj current_calling]
  · cases after with
    | some later =>
        refine Or.inr ⟨thread, later, ?_, still_own later rfl, rfl⟩
        rw [calls_setCall, Function.update_self]
    | none =>
        refine Or.inl ⟨rfl, fun other current current_calling current_own => ?_⟩
        rcases eq_or_ne other thread with rfl | different
        · rw [calls_setCall, Function.update_self] at current_calling
          contradiction
        · rw [calls_setCall, Function.update_of_ne different] at current_calling
          exact different (one_call _ _ _ _ current_calling calling (current_own.trans own.symm))

/-- A call that moves on without adding a frame leaves the same frames on their way. -/
theorem Awaits.same {client : Int32} {rest : List Frame} (awaits : state.Awaits client rest)
    (one_call : state.OneCallPerClient) {thread : ℕ} {call : DispatchCall}
    {after : Option DispatchCall} (calling : state.calls thread = some call)
    (same_client : ∀ later, after = some later → later.client = call.client)
    (same_pending : after.elim [] DispatchCall.pending = call.pending) :
    (state.setCall thread after).Awaits client rest := by
  rcases eq_or_ne call.client client with own | foreign
  · obtain ⟨rfl, moved⟩ := awaits.own one_call calling own fun later continues =>
      (same_client later continues).trans own
    rwa [same_pending] at moved
  · apply awaits.other
    · intro current current_calling
      rw [calling] at current_calling
      rwa [← Option.some.inj current_calling]
    · intro later continues
      rwa [same_client later continues]

/-- A call that starts puts the frames it has parsed on their way. -/
theorem Awaits.start {client : Int32} {rest frames : List Frame}
    (awaits : state.Awaits client rest) {thread : ℕ} (idle : state.calls thread = none)
    (one_call : (state.setCall thread (DispatchCall.next client frames)).OneCallPerClient) :
    (state.setCall thread (DispatchCall.next client frames)).Awaits client
      (rest ++ frames.map (Frame.mark client)) := by
  cases frames with
  | nil =>
      rw [List.map_nil, List.append_nil]
      apply awaits.other
      · simp [idle]
      · simp [DispatchCall.next]
  | cons frame frames =>
      have started : (state.setCall thread (DispatchCall.next client (frame :: frames))).calls
          thread = some (.finding client frames frame) := by
        rw [calls_setCall, Function.update_self]
        rfl
      rcases awaits with ⟨rfl, -⟩ | ⟨caller, call, calling, own, -⟩
      · exact Or.inr ⟨thread, _, started, rfl, rfl⟩
      · have different : caller ≠ thread := by
          rintro rfl
          rw [idle] at calling
          contradiction
        refine absurd (one_call caller thread call _ ?_ started own) different
        rw [calls_setCall, Function.update_of_ne different, calling]

/-! ## From the bytes to the queues -/

/-- The processor of a stream; a stream without one has added and examined nothing. -/
def processorOf (state : StreamDispatch) (streamId : UInt32) : SharedProcessor :=
  (state.streamProcessors.lookup streamId).elim {} state.processors

/-- The frames on a stream in the bytes of a client. -/
def framesOn (client : Int32) (streamId : UInt32) (trace : List Event) : List Frame :=
  ((decoder.messages (received client trace)).map (Frame.mark client)).filter
    fun frame => frame.streamId == streamId

theorem processorOf_setProcessor (linked : Linked state) {streamId : UInt32} {processor : ℕ}
    (present : state.streamProcessors.lookup streamId = some processor) (value : SharedProcessor)
    (other : UInt32) : (state.setProcessor processor value).processorOf other =
      if other = streamId then value else state.processorOf other := by
  split
  · rename_i same
    rw [same]
    change (state.streamProcessors.lookup streamId).elim ({} : SharedProcessor) _ = value
    rw [present, Option.elim_some, processors_setProcessor, Function.update_self]
  · rename_i different
    change (state.streamProcessors.lookup other).elim ({} : SharedProcessor) _ =
      (state.streamProcessors.lookup other).elim ({} : SharedProcessor) _
    cases found : state.streamProcessors.lookup other with
    | none => rfl
    | some registered =>
        rw [Option.elim_some, Option.elim_some, processors_setProcessor, Function.update_of_ne]
        rintro rfl
        exact different (linked.lookup_unique found present)

theorem processorOf_of_lookup {streamId : UInt32} {processor : ℕ}
    (present : state.streamProcessors.lookup streamId = some processor) :
    state.processorOf streamId = state.processors processor := by
  rw [processorOf, present, Option.elim_some]

/-- A frame that a processor is given or has examined counts for the frame's stream. -/
theorem field_setProcessor_concat (field : SharedProcessor → List Frame) (linked : Linked state)
    {frame : Frame} {processor : ℕ}
    (present : state.streamProcessors.lookup frame.streamId = some processor)
    {value : SharedProcessor} (concat : field value = field (state.processors processor) ++ [frame])
    (streamId : UInt32) : field ((state.setProcessor processor value).processorOf streamId) =
      field (state.processorOf streamId) ++
        [frame].filter fun frame => frame.streamId == streamId := by
  rw [processorOf_setProcessor linked present]
  split
  · rename_i same
    rw [same, processorOf_of_lookup present, concat]
    simp
  · rename_i different
    simp [Ne.symm different]

/-- What a step does not change in one processor it does not change on any stream. -/
theorem field_setProcessor {α : Type*} (field : SharedProcessor → α) {processor : ℕ}
    {value : SharedProcessor} (same : field value = field (state.processors processor))
    (streamId : UInt32) : field ((state.setProcessor processor value).processorOf streamId) =
      field (state.processorOf streamId) := by
  change field ((state.streamProcessors.lookup streamId).elim {} _) =
    field ((state.streamProcessors.lookup streamId).elim {} _)
  cases state.streamProcessors.lookup streamId with
  | none => rfl
  | some registered =>
      rw [Option.elim_some, Option.elim_some, processors_setProcessor]
      rcases eq_or_ne registered processor with rfl | different
      · rw [Function.update_self, same]
      · rw [Function.update_of_ne different]

/-- A new processor has added and examined nothing, like a stream without one. -/
theorem field_created {α : Type*} (field : SharedProcessor → α) (linked : Linked state)
    {streamId : UInt32} (absent : state.streamProcessors.lookup streamId = none)
    (same : field (SharedProcessor.create streamId) = field {}) (other : UInt32) :
    field (({ state with
      streamProcessors := state.streamProcessors.tryInsert streamId state.created
      created := state.created + 1 }.setProcessor state.created
        (SharedProcessor.create streamId)).processorOf other) =
      field (state.processorOf other) := by
  change field (((state.streamProcessors.tryInsert streamId state.created).lookup other).elim {}
    _) = field ((state.streamProcessors.lookup other).elim {} _)
  rw [OrderedMap.lookup_tryInsert _ absent, processors_setProcessor]
  split
  · rename_i own
    rw [own, absent, Option.elim_some, Option.elim_none, Function.update_self, same]
  · cases found : state.streamProcessors.lookup other with
    | none => rfl
    | some processor =>
        have below := (linked.registered found).2
        rw [Option.elim_some, Option.elim_some, Function.update_of_ne below.ne]

/-- For one client and one stream: the buffer has the bytes not yet parsed, the frames added and
those on their way are the frames parsed, and the requests are the examined frames that pass. -/
structure Delivered (enableChecksum : Bool) (callbacks : Callbacks) (client : Int32)
    (streamId : UInt32) (trace : List Event) (state : StreamDispatch) : Prop where
  buffer_eq : state.clientBuffers client = decoder.residue (received client trace)
  awaits : ∃ rest, state.Awaits client rest ∧
    ((state.processorOf streamId).added.filter fun frame => frame.clientId == client) ++
      (rest.filter fun frame => frame.streamId == streamId) = framesOn client streamId trace
  requests_eq : state.requestsFor client streamId =
    (state.processorOf streamId).examined.filter fun frame =>
      frame.clientId == client && (frame.verifyChecksum enableChecksum && callbacks.request)

namespace Delivered

variable {client : Int32} {streamId : UInt32} {trace : List Event}

theorem initial : Delivered enableChecksum callbacks client streamId [] {} where
  buffer_eq := by
    rw [received, List.filterMap_nil, List.flatten_nil, decoder.residue_of_none decoder.next_nil]
  awaits := by
    refine ⟨[], Or.inl ⟨rfl, nofun⟩, ?_⟩
    rw [framesOn, received, List.filterMap_nil, List.flatten_nil,
      decoder.messages_of_none decoder.next_nil]
    rfl
  requests_eq := rfl

/-- A step that brings no data. -/
theorem of_no_data (delivered : Delivered enableChecksum callbacks client streamId trace state)
    (no_data : event.data? client = none)
    (buffers_eq : next.clientBuffers client = state.clientBuffers client)
    (awaits : ∃ rest, next.Awaits client rest ∧
      ((next.processorOf streamId).added.filter fun frame => frame.clientId == client) ++
        (rest.filter fun frame => frame.streamId == streamId) = framesOn client streamId trace)
    (requests_eq : next.requestsFor client streamId =
      (next.processorOf streamId).examined.filter fun frame =>
        frame.clientId == client && (frame.verifyChecksum enableChecksum && callbacks.request)) :
    Delivered enableChecksum callbacks client streamId (trace ++ [event]) next := by
  have received_eq : received client (trace ++ [event]) = received client trace := by
    rw [received_concat, no_data, Option.getD_none, List.append_nil]
  refine ⟨?_, ?_, requests_eq⟩
  · rw [buffers_eq, received_eq, delivered.buffer_eq]
  · rwa [framesOn, received_eq]

/-- A step that neither brings data nor adds or examines a frame of the stream. -/
theorem of_same (delivered : Delivered enableChecksum callbacks client streamId trace state)
    (no_data : event.data? client = none)
    (buffers_eq : next.clientBuffers client = state.clientBuffers client)
    (added_eq : (next.processorOf streamId).added = (state.processorOf streamId).added)
    (examined_eq : (next.processorOf streamId).examined = (state.processorOf streamId).examined)
    (requests_eq : next.requests = state.requests)
    (awaits_of : ∀ {rest}, state.Awaits client rest → next.Awaits client rest) :
    Delivered enableChecksum callbacks client streamId (trace ++ [event]) next := by
  obtain ⟨rest, awaits, frames_eq⟩ := delivered.awaits
  apply delivered.of_no_data no_data buffers_eq
  · exact ⟨rest, awaits_of awaits, by rw [added_eq, frames_eq]⟩
  · rw [requestsFor, requests_eq, examined_eq, ← delivered.requests_eq, requestsFor]

/-- A call moves on without adding a frame, and a processor without examining one. -/
theorem of_call (delivered : Delivered enableChecksum callbacks client streamId trace state)
    (one_call : state.OneCallPerClient) (no_data : event.data? client = none)
    {thread processor : ℕ} {value : SharedProcessor} {call : DispatchCall}
    {after : Option DispatchCall} (calling : state.calls thread = some call)
    (added_eq : value.added = (state.processors processor).added)
    (examined_eq : value.examined = (state.processors processor).examined)
    (same_client : ∀ later, after = some later → later.client = call.client)
    (same_pending : after.elim [] DispatchCall.pending = call.pending) :
    Delivered enableChecksum callbacks client streamId (trace ++ [event])
      ((state.setProcessor processor value).setCall thread after) := by
  refine delivered.of_same no_data rfl ?_ ?_ rfl fun awaits => ?_
  · exact field_setProcessor SharedProcessor.added added_eq streamId
  · exact field_setProcessor SharedProcessor.examined examined_eq streamId
  · exact awaits.same one_call calling same_client same_pending

/-- Data of the client goes through its buffer. -/
theorem receive (delivered : Delivered enableChecksum callbacks client streamId trace state)
    {thread : ℕ} {data : List UInt8} (idle : state.calls thread = none)
    (one_call : (state.setCall thread (DispatchCall.next client
      (receiveChunk (state.clientBuffers client) data).1)).OneCallPerClient) :
    Delivered enableChecksum callbacks client streamId
      (trace ++ [.processIncomingData thread client data])
      ({ state with
        clientBuffers := Function.update state.clientBuffers client
          (receiveChunk (state.clientBuffers client) data).2 }.setCall thread
            (DispatchCall.next client (receiveChunk (state.clientBuffers client) data).1)) := by
  have received_eq : received client (trace ++ [.processIncomingData thread client data]) =
      received client trace ++ data := by
    rw [received_concat, Event.data?, if_pos rfl, Option.getD_some]
  have round_eq : receiveChunk (state.clientBuffers client) data =
      (decoder.messages (decoder.residue (received client trace) ++ data),
        decoder.residue (decoder.residue (received client trace) ++ data)) := by
    rw [receiveChunk_eq_feed, PrefixDecoder.feed, delivered.buffer_eq]
  obtain ⟨rest, awaits, frames_eq⟩ := delivered.awaits
  refine ⟨?_, ⟨_, awaits.start idle one_call, ?_⟩, delivered.requests_eq⟩
  · change Function.update state.clientBuffers client _ client = _
    rw [Function.update_self, round_eq, received_eq]
    exact (decoder.residue_append _ _).symm
  · change ((state.processorOf streamId).added.filter _) ++ _ = _
    rw [List.filter_append, ← List.append_assoc, frames_eq, framesOn, framesOn, received_eq,
      decoder.messages_append, List.map_append, List.filter_append, round_eq]

/-- A call adds the frame it has found a processor for. -/
theorem add (delivered : Delivered enableChecksum callbacks client streamId trace state)
    (linked : Linked state) (routed : Routed state) (one_call : state.OneCallPerClient)
    {thread processor : ℕ} {caller : Int32} {frames : List Frame} {frame : Frame}
    (found : state.calls thread = some (.found caller frames frame processor)) :
    Delivered enableChecksum callbacks client streamId (trace ++ [.addFrame thread])
      ((state.setProcessor processor ((state.processors processor).addFrame frame)).setCall thread
        (some (.added caller frames processor))) := by
  have added_eq := field_setProcessor_concat SharedProcessor.added linked (routed.targeted found)
    (show ((state.processors processor).addFrame frame).added = _ from rfl) streamId
  obtain ⟨rest, awaits, frames_eq⟩ := delivered.awaits
  have moved : ∃ later, (state.setCall thread (some (.added caller frames processor))).Awaits
      client later ∧ ([frame].filter fun frame => frame.clientId == client) ++ later = rest := by
    rcases eq_or_ne caller client with rfl | different
    · have own : ∀ later, some (DispatchCall.added caller frames processor) = some later →
          later.client = caller := by
        rintro later ⟨⟩
        rfl
      obtain ⟨rfl, moved⟩ := awaits.own one_call found rfl own
      exact ⟨_, moved, by simp [routed.marked found, DispatchCall.pending]⟩
    · refine ⟨rest, awaits.other ?_ ?_, by simp [routed.marked found, different]⟩
      · intro call calling
        rw [found] at calling
        obtain rfl := Option.some.inj calling
        exact different
      · rintro later ⟨⟩
        exact different
  obtain ⟨later, later_awaits, rfl⟩ := moved
  refine delivered.of_no_data ?_ ?_ ?_ ?_
  · rfl
  · rfl
  · refine ⟨later, later_awaits, ?_⟩
    change (((state.setProcessor processor _).processorOf streamId).added.filter _) ++ _ = _
    rw [added_eq, ← frames_eq, List.filter_append, List.filter_append, List.filter_filter,
      List.filter_filter, List.append_assoc]
    simp only [Bool.and_comm]
  · have examined_eq := field_setProcessor SharedProcessor.examined
      (show ((state.processors processor).addFrame frame).examined = _ from rfl) streamId
    exact delivered.requests_eq.trans (congrArg (List.filter _) examined_eq.symm)

theorem filter_ite (condition : Bool) (test : Frame → Bool) (frame : Frame) :
    (if condition then [frame] else []).filter test =
      [frame].filter fun frame => test frame && condition := by
  cases condition <;> simp

/-- A worker examines a frame. -/
theorem examine (delivered : Delivered enableChecksum callbacks client streamId trace state)
    (linked : Linked state) (routed : Routed state) (nonneg : 0 ≤ client) {processor : ℕ}
    {frame : Frame} (recorded : (state.processors processor).Recorded)
    (holding : (state.processors processor).worker = .processing frame) :
    Delivered enableChecksum callbacks client streamId (trace ++ [.processFrame processor])
      { state.setProcessor processor ((state.processors processor).finishFrame frame) with
        requests := state.requests ++
          (StreamProcessor.processFrame enableChecksum callbacks {} frame).requests
        checksums := state.checksums ++
          (StreamProcessor.processFrame enableChecksum callbacks {} frame).checksums } := by
  have taken : frame ∈ (state.processors processor).added := by
    rw [recorded, SharedProcessor.inHand, holding]
    simp
  have examined_eq := field_setProcessor_concat SharedProcessor.examined linked
    (routed.added taken)
    (show ((state.processors processor).finishFrame frame).examined = _ from rfl) streamId
  have added_eq := field_setProcessor SharedProcessor.added
    (show ((state.processors processor).finishFrame frame).added = _ from rfl) streamId
  obtain ⟨rest, awaits, frames_eq⟩ := delivered.awaits
  refine delivered.of_no_data ?_ ?_ ?_ ?_
  · rfl
  · rfl
  · refine ⟨rest, awaits, ?_⟩
    rw [← frames_eq, ← added_eq]
    rfl
  · change (state.requests ++ _).filter _ =
      ((state.setProcessor processor _).processorOf streamId).examined.filter _
    rw [examined_eq, List.filter_append, List.filter_append, List.filter_filter,
      ← delivered.requests_eq, requestsFor, StreamProcessor.requests_processFrame]
    congr 1
    rw [List.nil_append, filter_ite]
    refine List.filter_congr fun other member => ?_
    obtain rfl := List.mem_singleton.mp member
    rcases eq_or_ne other.clientId client with rfl | different
    · simp only [beq_self_eq_true, Bool.true_and, ge_iff_le, nonneg, decide_true, Bool.and_true]
      exact Bool.and_comm _ _
    · simp only [beq_false_of_ne different, Bool.false_and]

theorem step (delivered : Delivered enableChecksum callbacks client streamId trace state)
    (linked : Linked state) (routed : Routed state)
    (recorded : ∀ processor, (state.processors processor).Recorded)
    (one_call : state.OneCallPerClient) (next_one_call : next.OneCallPerClient)
    (present : clients.present client = true) (no_cleanup : event ≠ .startCleanup)
    (stepped : Step enableChecksum callbacks clients state event next) :
    Delivered enableChecksum callbacks client streamId (trace ++ [event]) next := by
  cases stepped with
  | @ignored thread other data idle absent =>
      refine delivered.of_same ?_ rfl rfl rfl rfl id
      rw [Event.data?, if_neg]
      rintro rfl
      rw [present] at absent
      contradiction
  | @received thread other data idle _ =>
      rcases eq_or_ne other client with rfl | different
      · exact delivered.receive idle next_one_call
      · refine delivered.of_same ?_ ?_ rfl rfl rfl fun awaits => awaits.other ?_ ?_
        · rw [Event.data?, if_neg different]
        · exact Function.update_of_ne different.symm _ _
        · simp [idle]
        · intro call continues
          rwa [DispatchCall.client_of_next continues]
  | created unlocked finding absent =>
      refine delivered.of_same rfl rfl ?_ ?_ rfl fun awaits => ?_
      · exact field_created SharedProcessor.added linked absent rfl streamId
      · exact field_created SharedProcessor.examined linked absent rfl streamId
      · refine awaits.same one_call finding ?_ rfl
        rintro later ⟨⟩
        rfl
  | shared unlocked finding present =>
      refine delivered.of_call one_call rfl finding rfl rfl ?_ rfl
      rintro later ⟨⟩
      rfl
  | added found => exact delivered.add linked routed one_call found
  | released added =>
      rw [if_neg (linked.useCount_ne_one (pointer_of_call added))]
      exact delivered.of_call one_call rfl added rfl rfl (fun _ => DispatchCall.client_of_next)
        (DispatchCall.pending_next _ _)
  | joinedReleased destroying moves =>
      exact delivered.of_call one_call rfl destroying moves.added_eq moves.examined_eq
        (fun _ => DispatchCall.client_of_next) (DispatchCall.pending_next _ _)
  | moved own moves =>
      refine delivered.of_same ?_ rfl ?_ ?_ rfl id
      · simp only [List.mem_cons, List.not_mem_nil, or_false] at own
        rcases own with rfl | rfl | rfl <;> rfl
      · exact field_setProcessor SharedProcessor.added moves.added_eq streamId
      · exact field_setProcessor SharedProcessor.examined moves.examined_eq streamId
  | processed holding =>
      exact delivered.examine linked routed (clients.nonneg client present) (recorded _) holding
  | locked _ => contradiction
  | checkEnded checking => simp [routed.unlocked] at checking
  | checked checking => simp [routed.unlocked] at checking
  | unlocked erasing => simp [routed.unlocked] at erasing
  | missing erasing absent => simp [routed.unlocked] at erasing
  | erased erasing present => simp [routed.unlocked] at erasing
  | joinedErased destroying moves => simp [routed.unlocked] at destroying

end Delivered

theorem Routed.initial : Routed {} where
  unlocked := rfl
  marked := nofun
  targeted := nofun
  added := nofun

theorem delivered_of_reaches {trace : List Event} {client : Int32}
    (no_cleanup : Event.startCleanup ∉ trace)
    (one_call : (dispatch enableChecksum callbacks clients).Along OneCallPerClient trace)
    (reached : (dispatch enableChecksum callbacks clients).Reaches trace state)
    (present : clients.present client = true) (streamId : UInt32) :
    Delivered enableChecksum callbacks client streamId trace state := by
  suffices invariants : Event.startCleanup ∉ trace → Routed state ∧
      Delivered enableChecksum callbacks client streamId trace state from
    (invariants no_cleanup).2
  refine one_call.invariant
    (motive := fun trace state => Event.startCleanup ∉ trace → Routed state ∧
      Delivered enableChecksum callbacks client streamId trace state) ?_ ?_ reached
  · exact fun _ => ⟨Routed.initial, Delivered.initial⟩
  · intro trace state event next earlier one_call next_one_call invariants stepped no_cleanup
    rw [List.mem_append, not_or, List.mem_singleton] at no_cleanup
    obtain ⟨routed, delivered⟩ := invariants no_cleanup.1
    have moved := step_of_eq_some stepped
    exact ⟨routed.step moved (Ne.symm no_cleanup.2),
      delivered.step (linked_of_reaches earlier) routed (recorded_of_reaches earlier) one_call
        next_one_call present (Ne.symm no_cleanup.2) moved⟩

/-! ## The requests of one client on one stream -/

/-- The checksum does not cover the client. -/
theorem verifyChecksum_mark (enableChecksum : Bool) (client : Int32) (frame : Frame) :
    (frame.mark client).verifyChecksum enableChecksum = frame.verifyChecksum enableChecksum :=
  rfl

theorem validFrames_eq (enableChecksum : Bool) (client : Int32) (streamId : UInt32)
    (trace : List Event) : validFrames enableChecksum client streamId trace =
      (framesOn client streamId trace).filter (Frame.verifyChecksum enableChecksum) := by
  rw [validFrames, framesOn, processData_frames, List.filter_filter, List.filter_map]
  congr 2
  funext frame
  rw [Function.comp_apply, verifyChecksum_mark, Bool.and_comm]
  rfl

theorem recorded_processorOf
    (recorded : ∀ processor, (state.processors processor).Recorded) (streamId : UInt32) :
    (state.processorOf streamId).Recorded := by
  rw [processorOf]
  cases state.streamProcessors.lookup streamId with
  | none => rfl
  | some processor => exact recorded processor

theorem Quiescent.added_eq (quiescent : Quiescent state)
    (recorded : ∀ processor, (state.processors processor).Recorded) (streamId : UInt32) :
    (state.processorOf streamId).added = (state.processorOf streamId).examined := by
  rw [recorded_processorOf recorded streamId, processorOf]
  cases state.streamProcessors.lookup streamId with
  | none => rfl
  | some processor =>
      obtain ⟨hand_eq, queue_eq⟩ := quiescent.2 processor
      rw [Option.elim_some, hand_eq, queue_eq, List.append_nil, List.append_nil]

theorem Quiescent.eq_nil (quiescent : Quiescent state) {client : Int32} {rest : List Frame}
    (awaits : state.Awaits client rest) : rest = [] := by
  rcases awaits with ⟨rfl, -⟩ | ⟨thread, call, calling, -⟩
  · rfl
  · rw [quiescent.1 thread] at calling
    contradiction

/-- Without cleanup, and with one call per client at a time, the request callback is invoked for a
client and a stream with the valid frames of the stream in the bytes of the client, in order and
each once.  When the system is quiescent it has been invoked with all of them. -/
theorem stream_fifo (enableChecksum : Bool) (callbacks : Callbacks) (clients : ClientSet)
    (trace : List Event) (state : StreamDispatch)
    (reached : (dispatch enableChecksum callbacks clients).Reaches trace state)
    (no_cleanup : Event.startCleanup ∉ trace)
    (one_call : (dispatch enableChecksum callbacks clients).Along OneCallPerClient trace)
    (client : Int32) (present : clients.present client = true) (streamId : UInt32) :
    state.requestsFor client streamId <+: validFrames enableChecksum client streamId trace ∧
      (callbacks.request = true → state.Quiescent →
        state.requestsFor client streamId = validFrames enableChecksum client streamId trace) := by
  have delivered := delivered_of_reaches no_cleanup one_call reached present streamId
  have recorded := recorded_of_reaches reached
  obtain ⟨rest, awaits, frames_eq⟩ := delivered.awaits
  have requests_eq (requested : callbacks.request = true) :
      state.requestsFor client streamId = ((state.processorOf streamId).examined.filter
        fun frame => frame.clientId == client).filter (Frame.verifyChecksum enableChecksum) := by
    rw [delivered.requests_eq, requested, List.filter_filter]
    simp only [Bool.and_true]
    simp only [Bool.and_comm]
  have examined_front : (state.processorOf streamId).examined <+:
      (state.processorOf streamId).added := by
    rw [recorded_processorOf recorded streamId]
    exact List.prefix_append _ _
  rw [validFrames_eq, ← frames_eq]
  constructor
  · cases requested : callbacks.request with
    | false =>
        have none_requested : state.requestsFor client streamId = [] := by
          rw [delivered.requests_eq, requested]
          simp
        rw [none_requested]
        exact List.nil_prefix
    | true =>
        rw [requests_eq requested]
        apply List.IsPrefix.filter
        exact (examined_front.filter _).trans (List.prefix_append _ _)
  · intro requested quiescent
    rw [requests_eq requested, quiescent.eq_nil awaits, List.filter_nil, List.append_nil,
      quiescent.added_eq recorded]

/-! ## One thread per client -/

theorem call_cases_of_update {thread other : ℕ} {before call : DispatchCall}
    {after : Option DispatchCall} (calling : (state.setCall thread after).calls other = some call)
    (earlier : state.calls thread = some before)
    (same_client : ∀ later, after = some later → later.client = before.client) :
    ∃ before, state.calls other = some before ∧ before.client = call.client := by
  rcases eq_or_ne other thread with rfl | different
  · rw [calls_setCall, Function.update_self] at calling
    exact ⟨before, earlier, (same_client call calling).symm⟩
  · rw [calls_setCall, Function.update_of_ne different] at calling
    exact ⟨call, calling, rfl⟩

/-- A thread works for the client that its last call was made for. -/
theorem Step.client_cases (stepped : Step enableChecksum callbacks clients state event next)
    {thread : ℕ} {call : DispatchCall} (calling : next.calls thread = some call) :
    (∃ before, state.calls thread = some before ∧ before.client = call.client) ∨
      ∃ data, event = .processIncomingData thread call.client data := by
  cases stepped with
  | @received starting client data idle present =>
      rcases eq_or_ne thread starting with rfl | different
      · rw [calls_setCall, Function.update_self] at calling
        exact Or.inr ⟨data, by rw [DispatchCall.client_of_next calling]⟩
      · rw [calls_setCall, Function.update_of_ne different] at calling
        exact Or.inl ⟨call, calling, rfl⟩
  | created unlocked finding absent =>
      refine Or.inl (call_cases_of_update calling finding ?_)
      rintro later ⟨⟩
      rfl
  | shared unlocked finding present =>
      refine Or.inl (call_cases_of_update calling finding ?_)
      rintro later ⟨⟩
      rfl
  | added found =>
      refine Or.inl (call_cases_of_update calling found ?_)
      rintro later ⟨⟩
      rfl
  | released added =>
      refine Or.inl (call_cases_of_update calling added fun later continues => ?_)
      split at continues
      · obtain rfl := Option.some.inj continues
        rfl
      · exact DispatchCall.client_of_next continues
  | joinedReleased destroying moves =>
      exact Or.inl (call_cases_of_update calling destroying fun _ => DispatchCall.client_of_next)
  | _ => exact Or.inl ⟨call, calling, rfl⟩

/-- If every client has a thread of its own, it has one call at a time. -/
theorem oneCallPerClient_of_owner (owner : Int32 → ℕ) {trace : List Event}
    (owned : ∀ thread client data,
      .processIncomingData thread client data ∈ trace → thread = owner client) :
    (dispatch enableChecksum callbacks clients).Along OneCallPerClient trace := by
  intro front front_le state reached
  have works_for : ∀ thread call, state.calls thread = some call → thread = owner call.client := by
    refine reached.invariant (motive := fun front state => front <+: trace →
      ∀ thread call, state.calls thread = some call → thread = owner call.client) ?_ ?_ front_le
    · exact fun _ => nofun
    · intro front state event next _ works_for stepped front_le thread call calling
      rcases (step_of_eq_some stepped).client_cases calling with ⟨before, earlier, same⟩ | started
      · rw [← same]
        exact works_for ((List.prefix_append _ _).trans front_le) thread before earlier
      · obtain ⟨data, rfl⟩ := started
        apply owned thread call.client data
        exact front_le.subset (List.mem_append_right _ (List.mem_singleton_self _))
  intro thread other call otherCall calling other_calling same
  rw [works_for thread call calling, works_for other otherCall other_calling, same]

/-- Two clients on one stream: both frames go through one processor, each to its own client. -/
def sharingTrace : List Event :=
  [.processIncomingData 0 4 ((Frame.create 1 1 [8]).serialize true),
    .processIncomingData 1 5 ((Frame.create 1 1 [8]).serialize true), .findProcessor 1,
    .findProcessor 0, .addFrame 0, .addFrame 1, .releaseProcessor 0, .releaseProcessor 1,
    .testRunning 0, .takeFrame 0, .processFrame 0, .testRunning 0, .takeFrame 0, .processFrame 0]

/-- Two clients. -/
def twoClients : ClientSet where
  present client := client == 4 || client == 5
  nonneg client present := by
    rcases Bool.or_eq_true_iff.mp present with first | second
    · obtain rfl := beq_iff_eq.mp first
      decide
    · obtain rfl := beq_iff_eq.mp second
      decide

theorem stream_fifo_shared :
    ∃ state, (dispatch true { request := true, checksum := true } twoClients).Reaches sharingTrace
        state ∧ state.requestsFor 4 1 = validFrames true 4 1 sharingTrace ∧
      state.requestsFor 4 1 = [((Frame.create 1 1 [8]).onWire true).mark 4] := by
  have received := receiveChunk_serialize (show (Frame.create 1 1 [8]).WellFormed by decide) true
  have parsed : (dispatch true { request := true, checksum := true } twoClients).Reaches
      (sharingTrace.take 2)
      (({ clientBuffers := Function.update (Function.update (fun _ => []) 4 []) 5 [] :
        StreamDispatch }.setCall 0
          (some (.finding 4 [] ((Frame.create 1 1 [8]).onWire true)))).setCall 1
            (some (.finding 5 [] ((Frame.create 1 1 [8]).onWire true)))) := by
    simp [EventSystem.Reaches, EventSystem.run, sharingTrace, dispatch, processIncomingData,
      twoClients, received, DispatchCall.next, setCall]
  obtain ⟨state, reached, quiescent, requests_eq⟩ : ∃ state,
      (dispatch true { request := true, checksum := true } twoClients).Reaches sharingTrace state ∧
      state.Quiescent ∧
      state.requestsFor 4 1 = [((Frame.create 1 1 [8]).onWire true).mark 4] := by
    refine ⟨_, parsed.append rfl, ⟨fun thread => ?_, fun processor => ?_⟩, rfl⟩
    · rcases thread with _ | _ | thread <;> rfl
    · cases processor with
      | zero => exact ⟨rfl, rfl⟩
      | succ processor => exact ⟨rfl, rfl⟩
  have one_call : (dispatch true { request := true, checksum := true } twoClients).Along
      OneCallPerClient sharingTrace := by
    apply oneCallPerClient_of_owner fun client => if client = 4 then 0 else 1
    intro thread client data member
    simp only [sharingTrace, List.mem_cons, Event.processIncomingData.injEq, reduceCtorEq,
      List.not_mem_nil, or_false] at member
    rcases member with ⟨rfl, rfl, -⟩ | ⟨rfl, rfl, -⟩ <;> rfl
  have fifo := stream_fifo _ _ _ _ _ reached (by decide) one_call 4 rfl 1
  exact ⟨state, reached, fifo.2 rfl quiescent, requests_eq⟩

end StreamDispatch
end FramedTcp
