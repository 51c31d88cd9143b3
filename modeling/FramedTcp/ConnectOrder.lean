import FramedTcp.ServerLifecycle

/-!
# Order of the connect notifications

A handler's read thread starts in its constructor, before `acceptLoop` has invoked the connect
callback.  If the client sends or closes at once, the read thread can be the first to invoke a
callback for the connection.
-/

namespace FramedTcp

open PrefixDecoding EventSystems FrameParser

/-- The arguments of the connect callback. -/
def Notice.connect? : Notice → Option (Int32 × Bool)
  | .connect client connected => some (client, connected)
  | .request _ => none

/-- The notifications of a connection are in order, and requests come after the first one. -/
structure NoticesOrdered (client : Int32) (notices : List Notice) : Prop where
  connects : notices.filterMap Notice.connect? <+: [(client, true), (client, false)]
  requests : ∀ front frame, front ++ [.request frame] <+: notices →
    Notice.connect client true ∈ front

namespace NoticesOrdered

variable {client : Int32} {notices : List Notice}

theorem nil (client : Int32) : NoticesOrdered client [] where
  connects := List.nil_prefix
  requests front frame front_le := by
    have empty := List.prefix_nil.mp front_le
    simp at empty

theorem mem_connects {client : Int32} {connected : Bool} {notices : List Notice} :
    (client, connected) ∈ notices.filterMap Notice.connect? ↔
      Notice.connect client connected ∈ notices := by
  rw [List.mem_filterMap]
  constructor
  · rintro ⟨notice, member, connect_eq⟩
    cases notice with
    | connect other flag =>
        obtain ⟨rfl, rfl⟩ := Prod.mk.inj (Option.some.inj connect_eq)
        exact member
    | request frame => contradiction
  · exact fun member => ⟨_, member, rfl⟩

/-- Before the connected notification there is nothing. -/
theorem eq_nil (ordered : NoticesOrdered client notices)
    (unconnected : Notice.connect client true ∉ notices) : notices = [] := by
  cases notices with
  | nil => rfl
  | cons notice notices =>
      exfalso
      cases notice with
      | connect other connected =>
          have first : (other, connected) :: notices.filterMap Notice.connect? <+:
              [(client, true), (client, false)] := ordered.connects
          obtain ⟨rfl, rfl⟩ := Prod.mk.inj (List.cons_prefix_cons.mp first).1
          exact unconnected List.mem_cons_self
      | request frame =>
          have earlier := ordered.requests [] frame (List.prefix_append [_] notices)
          contradiction

/-- After the connected notification a request may follow. -/
theorem concat_request (ordered : NoticesOrdered client notices)
    (connected : Notice.connect client true ∈ notices) (frame : Frame) :
    NoticesOrdered client (notices ++ [.request frame]) where
  connects := by
    rw [List.filterMap_append]
    exact (List.append_nil _).symm ▸ ordered.connects
  requests front other front_le := by
    rcases List.prefix_concat_iff.mp front_le with whole | earlier
    · rw [(List.append_inj_left' whole rfl)]
      exact connected
    · exact ordered.requests front other earlier

/-- The notifications may be followed by the one that is due. -/
theorem concat_connect (ordered : NoticesOrdered client notices) {connected : Bool}
    (due : notices.filterMap Notice.connect? ++ [(client, connected)] <+:
      [(client, true), (client, false)]) :
    NoticesOrdered client (notices ++ [.connect client connected]) where
  connects := by
    rw [List.filterMap_append]
    exact due
  requests front other front_le := by
    rcases List.prefix_concat_iff.mp front_le with whole | earlier
    · have last := List.append_inj_right' whole rfl
      simp at last
    · exact ordered.requests front other earlier

/-- After the connected notification the disconnected one may follow, once. -/
theorem concat_disconnect (ordered : NoticesOrdered client notices)
    (connected : Notice.connect client true ∈ notices)
    (not_ended : Notice.connect client false ∉ notices) :
    NoticesOrdered client (notices ++ [.connect client false]) := by
  apply ordered.concat_connect
  have present := mem_connects.mpr connected
  have absent := mt mem_connects.mp not_ended
  rcases List.prefix_cons_iff.mp ordered.connects with none_yet | ⟨rest, connects_eq, rest_le⟩
  · rw [none_yet] at present
    contradiction
  · rw [connects_eq] at absent ⊢
    rcases List.prefix_cons_iff.mp rest_le with rfl | ⟨later, rfl, -⟩
    · exact List.prefix_rfl
    · exact absurd (List.mem_cons_of_mem _ List.mem_cons_self) absent

end NoticesOrdered

namespace ServerLifecycle

/-- The notifications of every accepted connection are in order. -/
def WellOrdered (state : ServerLifecycle) : Prop :=
  ∀ connection < state.created, NoticesOrdered (state.connections connection).handler.id
    (state.connections connection).notices

/-- A read thread invokes a callback only when the accepting thread does not have the handler's
connect callback still to invoke. -/
def AfterConnect (requestCallback : Bool) (state : ServerLifecycle) : Event → Prop
  | .thread connection event =>
      (state.connections connection).invocations requestCallback event ≠ [] →
        state.acceptor ≠ .notifying connection
  | _ => True

variable {requestCallback : Bool} {state next : ServerLifecycle} {event : Event}

theorem noticed_cases (requestCallback : Bool) (state : ServerLifecycle) (event : Event)
    (connection : ℕ) :
    state.noticed requestCallback event connection = [] ∨
      (∃ own frame, event = .thread connection own ∧
        state.noticed requestCallback event connection = [.request frame]) ∨
      (event = .thread connection .notifyDisconnect ∧
        state.noticed requestCallback event connection =
          [.connect (state.connections connection).handler.id false]) ∨
      (∃ throws, event = .notifyConnect throws) ∧ state.acceptor = .notifying connection ∧
        state.noticed requestCallback event connection =
          [.connect (state.connections connection).handler.id true] := by
  cases event with
  | thread other own =>
      rcases eq_or_ne other connection with rfl | different
      · rw [noticed, if_pos rfl]
        cases own with
        | dispatch =>
            rw [Connection.invocations]
            cases requestCallback with
            | false => exact Or.inl rfl
            | true =>
                cases (state.connections other).handler.frames with
                | nil => exact Or.inl rfl
                | cons frame frames => exact Or.inr (Or.inl ⟨_, frame, rfl, rfl⟩)
        | notifyDisconnect => exact Or.inr (Or.inr (Or.inl ⟨rfl, rfl⟩))
        | _ => exact Or.inl rfl
      · exact Or.inl (if_neg different)
  | notifyConnect throws =>
      rcases Classical.em (state.acceptor = .notifying connection) with notifying | other
      · exact Or.inr (Or.inr (Or.inr ⟨⟨throws, rfl⟩, notifying, if_pos notifying⟩))
      · exact Or.inl (if_neg other)
  | _ => exact Or.inl rfl

/-- The accepting thread has the connect callback of a handler still to invoke exactly when there is
no such notification, and the read thread has ended when there is the other one. -/
structure Interleaved (state : ServerLifecycle) : Prop where
  notifying_lt : ∀ {connection}, state.acceptor = .notifying connection →
    connection < state.created
  notifying_iff : ∀ {connection}, connection < state.created →
    (state.acceptor = .notifying connection ↔
      Notice.connect (state.connections connection).handler.id true ∉
        (state.connections connection).notices)
  ended : ∀ {connection}, connection < state.created →
    Notice.connect (state.connections connection).handler.id false ∈
        (state.connections connection).notices →
      (state.connections connection).Ended

theorem connected_mem_noticed {connection : ℕ}
    (notifying : state.acceptor = .notifying connection) :
    Notice.connect (state.connections connection).handler.id true ∈
        state.noticed requestCallback event connection ↔
      ∃ throws, event = .notifyConnect throws := by
  constructor
  · intro member
    rcases noticed_cases requestCallback state event connection with
      none_eq | ⟨own, frame, -, request_eq⟩ | ⟨-, disconnect_eq⟩ | ⟨notified, -, -⟩
    · rw [none_eq] at member
      contradiction
    · rw [request_eq] at member
      simp at member
    · rw [disconnect_eq] at member
      simp at member
    · exact notified
  · rintro ⟨throws, rfl⟩
    rw [noticed, if_pos notifying]
    exact List.mem_singleton_self _

theorem disconnected_mem_noticed {connection : ℕ}
    (member : Notice.connect (state.connections connection).handler.id false ∈
      state.noticed requestCallback event connection) :
    event = .thread connection .notifyDisconnect := by
  rcases noticed_cases requestCallback state event connection with
    none_eq | ⟨own, frame, -, request_eq⟩ | ⟨disconnected, -⟩ | ⟨-, -, connect_eq⟩
  · rw [none_eq] at member
    contradiction
  · rw [request_eq] at member
    simp at member
  · exact disconnected
  · rw [connect_eq] at member
    simp at member

theorem Interleaved.step (interleaved : Interleaved state)
    (stepped : Step requestCallback state event next) (nothing : state.NothingScheduled) :
    Interleaved next := by
  have control := stepped.control nothing
  have old_notifying {connection : ℕ} (old : connection < state.created) :
      next.acceptor = .notifying connection ↔
        Notice.connect (next.connections connection).handler.id true ∉
          (next.connections connection).notices := by
    have effect := stepped.effect nothing fun _ => old.ne
    rw [control.acceptor_iff fun _ => old.ne, effect.id_eq, effect.notices_eq, List.mem_append,
      not_or, ← interleaved.notifying_iff old]
    refine and_congr_right fun notifying => ?_
    rw [connected_mem_noticed notifying, not_exists]
  have old_ended {connection : ℕ} (old : connection < state.created)
      (member : Notice.connect (next.connections connection).handler.id false ∈
        (next.connections connection).notices) : (next.connections connection).Ended := by
    have effect := stepped.effect nothing fun _ => old.ne
    rw [effect.id_eq, effect.notices_eq, List.mem_append] at member
    rw [effect.ended_iff]
    exact member.imp (interleaved.ended old) disconnected_mem_noticed
  rcases Classical.em (event = .createHandler) with rfl | other
  · obtain ⟨client, fresh_eq, created_eq, acceptor_eq⟩ := stepped.fresh
    refine ⟨fun notifying => ?_, fun below => ?_, fun below member => ?_⟩
    · rw [acceptor_eq] at notifying
      obtain rfl := Acceptor.notifying.inj notifying
      rw [created_eq]
      exact Nat.lt_succ_self _
    · rw [created_eq] at below
      rcases Nat.lt_succ_iff_lt_or_eq.mp below with old | rfl
      · exact old_notifying old
      · rw [fresh_eq]
        exact iff_of_true acceptor_eq List.not_mem_nil
    · rw [created_eq] at below
      rcases Nat.lt_succ_iff_lt_or_eq.mp below with old | rfl
      · exact old_ended old member
      · rw [fresh_eq] at member
        contradiction
  · have created_eq := control.created_eq other
    refine ⟨fun notifying => ?_, fun below => ?_, fun below => ?_⟩
    · rw [created_eq]
      exact interleaved.notifying_lt
        ((control.acceptor_iff fun same => absurd same other).mp notifying).1
    · exact old_notifying (created_eq ▸ below)
    · exact old_ended (created_eq ▸ below)

theorem interleaved_of_reaches {trace : List Event}
    (reached : (lifecycle requestCallback).Reaches trace state) : Interleaved state := by
  refine reached.invariant (motive := fun _ state => Interleaved state) ?_ ?_
  · exact ⟨nofun, nofun, nofun⟩
  · intro trace state event next state_reached interleaved stepped
    exact interleaved.step (step_of_eq_some stepped) (nothingScheduled_of_reaches state_reached)

/-- A step keeps the notifications in order if its callbacks come after the connect callback. -/
theorem WellOrdered.step (ordered : WellOrdered state) (interleaved : Interleaved state)
    (stepped : Step requestCallback state event next) (nothing : state.NothingScheduled)
    (after : state.AfterConnect requestCallback event) : WellOrdered next := by
  have kept {connection : ℕ} (old : connection < state.created) :
      NoticesOrdered (next.connections connection).handler.id
        (next.connections connection).notices := by
    have effect := stepped.effect nothing fun _ => old.ne
    have earlier := ordered connection old
    rw [effect.id_eq, effect.notices_eq]
    have connected_of {own : ThreadEvent} (thread : event = .thread connection own)
        (invokes : state.noticed requestCallback event connection ≠ []) :
        Notice.connect (state.connections connection).handler.id true ∈
          (state.connections connection).notices := by
      subst thread
      rw [noticed, if_pos rfl] at invokes
      exact not_not.mp (mt (interleaved.notifying_iff old).mpr (after invokes))
    rcases noticed_cases requestCallback state event connection with
      none_eq | ⟨own, frame, thread, request_eq⟩ | ⟨thread, disconnect_eq⟩ |
        ⟨-, notifying, connect_eq⟩
    · rw [none_eq, List.append_nil]
      exact earlier
    · have connected := connected_of thread (by simp [request_eq])
      rw [request_eq]
      exact earlier.concat_request connected frame
    · have connected := connected_of thread (by simp [disconnect_eq])
      rw [disconnect_eq]
      apply earlier.concat_disconnect connected
      exact fun ended => effect.live (interleaved.ended old ended) thread
    · rw [connect_eq, earlier.eq_nil ((interleaved.notifying_iff old).mp notifying)]
      exact (NoticesOrdered.nil _).concat_connect (List.prefix_append [_] _)
  intro connection below
  rcases Classical.em (event = .createHandler) with rfl | other
  · obtain ⟨client, fresh_eq, created_eq, -⟩ := stepped.fresh
    rw [created_eq] at below
    rcases Nat.lt_succ_iff_lt_or_eq.mp below with old | rfl
    · exact kept old
    · rw [fresh_eq]
      exact .nil client
  · exact kept ((stepped.control nothing).created_eq other ▸ below)

/-- The notifications of all connections are in order exactly in the runs in which no read thread
invokes a callback while the handler's connect callback is still to be invoked. -/
theorem wellOrdered_along_iff (requestCallback : Bool) (trace : List Event) :
    (lifecycle requestCallback).Along WellOrdered trace ↔
      (lifecycle requestCallback).EachStep (AfterConnect requestCallback) trace := by
  apply EventSystem.along_iff_eachStep
  · exact fun _ below => absurd below (Nat.not_lt_zero _)
  · intro trace state event next reached ordered stepped
    have moved := step_of_eq_some stepped
    have nothing := nothingScheduled_of_reaches reached
    have interleaved := interleaved_of_reaches reached
    constructor
    · intro next_ordered
      cases event with
      | thread connection own =>
          intro invokes notifying
          have old := interleaved.notifying_lt notifying
          have effect := moved.effect nothing fun _ => old.ne
          have first := (ordered connection old).eq_nil
            ((interleaved.notifying_iff old).mp notifying)
          have later := next_ordered connection ((moved.control nothing).created_eq nofun ▸ old)
          rw [effect.id_eq, effect.notices_eq, first, List.nil_append] at later
          have silent := later.eq_nil (mt (connected_mem_noticed notifying).mp nofun)
          rw [noticed, if_pos rfl] at silent
          exact invokes silent
      | _ => trivial
    · exact fun after => ordered.step interleaved moved nothing after

/-- A client connects and closes its connection before the connect callback is invoked. -/
def hastyTrace : List Event :=
  [.start, .testAccept, .accept 4, .createHandler, .thread 0 .testReader, .thread 0 (.recv []),
    .thread 0 .notifyDisconnect, .notifyConnect false]

/-- The disconnected notification comes before the connected one. -/
theorem disconnect_before_connect :
    ∃ state, (lifecycle true).Reaches hastyTrace state ∧ ¬ WellOrdered state ∧
      (state.connections 0).notices = [.connect 4 false, .connect 4 true] := by
  refine ⟨_, rfl, ?_, rfl⟩
  intro ordered
  have connects : [((4 : Int32), false), (4, true)] <+: [(4, true), (4, false)] :=
    (ordered 0 Nat.zero_lt_one).connects
  exact absurd connects (by decide)

end ServerLifecycle
end FramedTcp
