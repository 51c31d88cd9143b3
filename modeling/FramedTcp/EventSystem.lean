import Mathlib.Data.List.Basic
import Mathlib.Data.List.Infix
import Mathlib.Order.WellFounded

/-!
# Event systems

A labelled transition system whose events name every choice of the environment, so that a run is
determined by its trace.  Concurrent programs are interleavings of such events.  The file has the
two ways to prove something about all runs: induction over the trace, possibly under an assumption
on the states passed, and projection to a component.
-/

namespace EventSystems

/-- A system driven by events; an event that is not enabled has no successor. -/
structure EventSystem (σ ε : Type*) where
  /-- Initial state. -/
  init : σ
  /-- The state after one event. -/
  step : σ → ε → Option σ

namespace EventSystem

variable {σ ε τ δ : Type*} (system : EventSystem σ ε)

/-- The state after a sequence of events. -/
def run (state : σ) : List ε → Option σ
  | [] => some state
  | event :: events => (system.step state event).bind fun next => run next events

/-- The trace leads from the initial state to `state`. -/
def Reaches (trace : List ε) (state : σ) : Prop := system.run system.init trace = some state

theorem run_append (state : σ) (front back : List ε) :
    system.run state (front ++ back) =
      (system.run state front).bind fun middle => system.run middle back := by
  induction front generalizing state with
  | nil => rfl
  | cons event front induction =>
      simp only [List.cons_append, run]
      cases system.step state event with
      | none => rfl
      | some next => exact induction next

variable {system}

theorem reaches_nil : system.Reaches [] system.init := rfl

theorem Reaches.eq_init {state : σ} (reached : system.Reaches [] state) : state = system.init :=
  (Option.some.inj reached).symm

theorem reaches_concat {trace : List ε} {event : ε} {next : σ} :
    system.Reaches (trace ++ [event]) next ↔
      ∃ state, system.Reaches trace state ∧ system.step state event = some next := by
  simp [Reaches, run_append, run, Option.bind_eq_some_iff]

theorem Reaches.append {front back : List ε} {state final : σ}
    (reached : system.Reaches front state) (ran : system.run state back = some final) :
    system.Reaches (front ++ back) final := by
  rw [Reaches, run_append, reached, Option.bind_some, ran]

theorem Reaches.exists_front {front back : List ε} {state : σ}
    (reached : system.Reaches (front ++ back) state) :
    ∃ middle, system.Reaches front middle ∧ system.run middle back = some state := by
  rw [Reaches, run_append, Option.bind_eq_some_iff] at reached
  exact reached

theorem Reaches.unique {trace : List ε} {left right : σ} (reached : system.Reaches trace left)
    (also_reached : system.Reaches trace right) : left = right :=
  Option.some.inj (reached.symm.trans also_reached)

/-- What holds initially and is preserved by every event holds along all runs. -/
theorem Reaches.invariant {motive : List ε → σ → Prop} (initial : motive [] system.init)
    (preserved : ∀ {trace state event next}, system.Reaches trace state → motive trace state →
      system.step state event = some next → motive (trace ++ [event]) next)
    {trace : List ε} {state : σ} (reached : system.Reaches trace state) : motive trace state := by
  induction trace using List.reverseRecOn generalizing state with
  | nil => exact reached.eq_init ▸ initial
  | append_singleton trace event induction =>
      obtain ⟨before, before_reached, stepped⟩ := reaches_concat.mp reached
      exact preserved before_reached (induction before_reached) stepped

/-! ## Assumptions on the states of a run -/

variable (system) in
/-- Every state passed by the run satisfies the assumption. -/
def Along (assumption : σ → Prop) (trace : List ε) : Prop :=
  ∀ front, front <+: trace → ∀ state, system.Reaches front state → assumption state

theorem Along.of_front {assumption : σ → Prop} {front trace : List ε}
    (along : system.Along assumption trace) (front_le : front <+: trace) :
    system.Along assumption front :=
  fun earlier earlier_le => along earlier (earlier_le.trans front_le)

theorem Along.final {assumption : σ → Prop} {trace : List ε} {state : σ}
    (along : system.Along assumption trace) (reached : system.Reaches trace state) :
    assumption state :=
  along trace List.prefix_rfl state reached

/-- The invariant rule under an assumption on the states passed. -/
theorem Along.invariant {assumption : σ → Prop} {motive : List ε → σ → Prop}
    (initial : motive [] system.init)
    (preserved : ∀ {trace state event next}, system.Reaches trace state → assumption state →
      assumption next → motive trace state → system.step state event = some next →
      motive (trace ++ [event]) next)
    {trace : List ε} {state : σ} (along : system.Along assumption trace)
    (reached : system.Reaches trace state) : motive trace state := by
  induction trace using List.reverseRecOn generalizing state with
  | nil => exact reached.eq_init ▸ initial
  | append_singleton trace event induction =>
      obtain ⟨before, before_reached, stepped⟩ := reaches_concat.mp reached
      have earlier := along.of_front (List.prefix_append trace [event])
      exact preserved before_reached (earlier.final before_reached) (along.final reached)
        (induction earlier before_reached) stepped

variable (system) in
/-- Every step of the run satisfies the condition. -/
def EachStep (condition : σ → ε → Prop) (trace : List ε) : Prop :=
  ∀ front event, front ++ [event] <+: trace → ∀ state next, system.Reaches front state →
    system.step state event = some next → condition state event

theorem EachStep.of_front {condition : σ → ε → Prop} {front trace : List ε}
    (each : system.EachStep condition trace) (front_le : front <+: trace) :
    system.EachStep condition front :=
  fun earlier event earlier_le => each earlier event (earlier_le.trans front_le)

theorem eachStep_nil {condition : σ → ε → Prop} : system.EachStep condition [] :=
  fun _ _ front_le => absurd (List.prefix_nil.mp front_le) (by simp)

theorem EachStep.concat {condition : σ → ε → Prop} {trace : List ε} {event : ε}
    (each : system.EachStep condition trace)
    (last : ∀ state next, system.Reaches trace state → system.step state event = some next →
      condition state event) : system.EachStep condition (trace ++ [event]) := by
  intro front final front_le state next reached stepped
  rcases List.prefix_concat_iff.mp front_le with whole | earlier
  · obtain ⟨rfl, final_eq⟩ := List.append_inj' whole rfl
    obtain rfl := List.singleton_injective final_eq
    exact last state next reached stepped
  · exact each front final earlier state next reached stepped

theorem EachStep.imp {condition weaker : σ → ε → Prop} {trace : List ε}
    (each : system.EachStep condition trace)
    (implies : ∀ state event, condition state event → weaker state event) :
    system.EachStep weaker trace :=
  fun front event front_le state next reached stepped =>
    implies state event (each front event front_le state next reached stepped)

/-- If a condition decides at every step whether the assumption still holds, then the assumption
holds along a run exactly when every step satisfies the condition; what every step of the run
satisfies anyway may be used for it. -/
theorem along_iff_eachStep_of {assumption : σ → Prop} {condition given : σ → ε → Prop}
    (initial : assumption system.init)
    (decides : ∀ {trace state event next}, system.Reaches trace state → assumption state →
      given state event → system.step state event = some next →
      (assumption next ↔ condition state event))
    {trace : List ε} (each_given : system.EachStep given trace) :
    system.Along assumption trace ↔ system.EachStep condition trace := by
  constructor
  · intro along front event front_le state next reached stepped
    have before := along front ((List.prefix_append front [event]).trans front_le) state reached
    apply (decides reached before (each_given front event front_le state next reached stepped)
      stepped).mp
    exact along _ front_le next (reaches_concat.mpr ⟨state, reached, stepped⟩)
  · intro each front front_le final reached
    refine reached.invariant (motive := fun front state => front <+: trace → assumption state)
      ?_ ?_ front_le
    · exact fun _ => initial
    · intro front state event next state_reached holds stepped front_le
      have before := holds ((List.prefix_append front [event]).trans front_le)
      apply (decides state_reached before
        (each_given front event front_le state next state_reached stepped) stepped).mpr
      exact each front event front_le state next state_reached stepped

theorem along_iff_eachStep {assumption : σ → Prop} {condition : σ → ε → Prop}
    (initial : assumption system.init)
    (decides : ∀ {trace state event next}, system.Reaches trace state → assumption state →
      system.step state event = some next → (assumption next ↔ condition state event))
    (trace : List ε) : system.Along assumption trace ↔ system.EachStep condition trace := by
  have unrestricted : system.EachStep (fun _ _ => True) trace := fun _ _ _ _ _ _ _ => trivial
  exact along_iff_eachStep_of initial
    (fun reached before _ stepped => decides reached before stepped) unrestricted

/-! ## Coming to rest -/

/-- If, wherever the invariant holds, either the system is at rest or some event decreases a
well-founded variant and keeps the invariant, then the system can be brought to rest. -/
theorem exists_run_of_variant {α : Type*} [Preorder α] [WellFoundedLT α] (variant : σ → α)
    {enabled : ε → Prop} {invariant rest : σ → Prop}
    (progress : ∀ state, invariant state → rest state ∨
      ∃ event next, enabled event ∧ system.step state event = some next ∧ invariant next ∧
        variant next < variant state)
    (state : σ) (holds : invariant state) :
    ∃ trace final, (∀ event ∈ trace, enabled event) ∧ system.run state trace = some final ∧
      invariant final ∧ rest final := by
  induction measured : variant state using WellFoundedLT.induction generalizing state with
  | ind bound induction =>
      subst measured
      rcases progress state holds with resting | ⟨event, next, allowed, stepped, kept, decreased⟩
      · exact ⟨[], state, nofun, rfl, holds, resting⟩
      · obtain ⟨trace, final, all_allowed, ran, final_holds, resting⟩ :=
          induction _ decreased next kept rfl
        refine ⟨event :: trace, final, ?_, ?_, final_holds, resting⟩
        · exact List.forall_mem_cons.mpr ⟨allowed, all_allowed⟩
        · rw [run, stepped, Option.bind_some, ran]

/-- What every enabled event keeps holds after a run of enabled events. -/
theorem run_invariant {enabled : ε → Prop} {motive : σ → Prop}
    (kept : ∀ state event next, motive state → enabled event →
      system.step state event = some next → motive next)
    {trace : List ε} {state final : σ} (all_enabled : ∀ event ∈ trace, enabled event)
    (ran : system.run state trace = some final) (holds : motive state) : motive final := by
  induction trace generalizing state with
  | nil =>
      obtain rfl := Option.some.inj ran
      exact holds
  | cons event events induction =>
      obtain ⟨allowed, later_allowed⟩ := List.forall_mem_cons.mp all_enabled
      obtain ⟨next, stepped, later_ran⟩ := Option.bind_eq_some_iff.mp ran
      exact induction later_allowed later_ran (kept state event next holds allowed stepped)

variable (system) in
/-- However the enabled events are scheduled, they do not stop before the goal is reached, and it
is reached after finitely many of them. -/
inductive Inevitably (enabled : ε → Prop) (goal : σ → Prop) : σ → Prop
  | now {state : σ} (attained : goal state) : Inevitably enabled goal state
  | later {state : σ}
      (possible : ∃ event next, enabled event ∧ system.step state event = some next)
      (always : ∀ event next, enabled event → system.step state event = some next →
        Inevitably enabled goal next) : Inevitably enabled goal state

/-- What is inevitable can be brought about. -/
theorem Inevitably.exists_run {enabled : ε → Prop} {goal : σ → Prop} {state : σ}
    (inevitably : system.Inevitably enabled goal state) :
    ∃ trace final, (∀ event ∈ trace, enabled event) ∧ system.run state trace = some final ∧
      goal final := by
  induction inevitably with
  | now attained => exact ⟨[], _, nofun, rfl, attained⟩
  | later possible _ induction =>
      obtain ⟨event, next, allowed, stepped⟩ := possible
      obtain ⟨trace, final, all_allowed, ran, attained⟩ := induction event next allowed stepped
      refine ⟨event :: trace, final, List.forall_mem_cons.mpr ⟨allowed, all_allowed⟩, ?_, attained⟩
      rw [run, stepped, Option.bind_some, ran]

/-- If, short of the goal, some event is enabled and every enabled one decreases a well-founded
variant, then the goal is inevitable. -/
theorem inevitably_of_variant {α : Type*} [Preorder α] [WellFoundedLT α] (variant : σ → α)
    {enabled : ε → Prop} {motive goal : σ → Prop}
    (possible : ∀ state, motive state → goal state ∨
      ∃ event next, enabled event ∧ system.step state event = some next)
    (decreases : ∀ state event next, motive state → enabled event →
      system.step state event = some next → motive next ∧ variant next < variant state)
    (state : σ) (holds : motive state) : system.Inevitably enabled goal state := by
  induction measured : variant state using WellFoundedLT.induction generalizing state with
  | ind bound induction =>
      subst measured
      rcases possible state holds with attained | enabled_event
      · exact .now attained
      · refine .later enabled_event fun event next allowed stepped => ?_
        obtain ⟨kept, decreased⟩ := decreases state event next holds allowed stepped
        exact induction _ decreased next kept rfl

variable (system) in
/-- However other events come in between, an own event stays possible until the goal is reached, and
it is reached after finitely many own events. -/
inductive InevitablyAmid (own : ε → Prop) (goal : σ → Prop) : σ → Prop
  | now {state : σ} (attained : goal state) : InevitablyAmid own goal state
  | later {state : σ}
      (possible : ∀ others middle, (∀ event ∈ others, ¬ own event) →
        system.run state others = some middle → ¬ goal middle →
        ∃ event next, own event ∧ system.step middle event = some next)
      (always : ∀ others middle event next, (∀ event ∈ others, ¬ own event) →
        system.run state others = some middle → ¬ goal middle → own event →
        system.step middle event = some next → InevitablyAmid own goal next) :
      InevitablyAmid own goal state

/-- Left alone, the own events bring the goal about. -/
theorem InevitablyAmid.exists_run {own : ε → Prop} {goal : σ → Prop} {state : σ}
    (inevitably : system.InevitablyAmid own goal state) :
    ∃ trace final, (∀ event ∈ trace, own event) ∧ system.run state trace = some final ∧
      goal final := by
  induction inevitably with
  | now attained => exact ⟨[], _, by simp, rfl, attained⟩
  | @later state possible _ induction =>
      by_cases attained : goal state
      · exact ⟨[], _, by simp, rfl, attained⟩
      · obtain ⟨event, next, allowed, stepped⟩ := possible [] state (by simp) rfl attained
        obtain ⟨trace, final, all_allowed, ran, final_attained⟩ :=
          induction [] state event next (by simp) rfl attained allowed stepped
        refine ⟨event :: trace, final, List.forall_mem_cons.mpr ⟨allowed, all_allowed⟩, ?_,
          final_attained⟩
        rw [run, stepped, Option.bind_some, ran]

/-- What is inevitable remains so after an own event. -/
theorem InevitablyAmid.of_step {own : ε → Prop} {goal : σ → Prop} {state next : σ} {event : ε}
    (inevitably : system.InevitablyAmid own goal state) (unattained : ¬ goal state)
    (allowed : own event) (stepped : system.step state event = some next) :
    system.InevitablyAmid own goal next := by
  cases inevitably with
  | now attained => exact absurd attained unattained
  | later _ always => exact always [] state event next (by simp) rfl unattained allowed stepped

/-- If, short of the goal, some own event is enabled, every own event attains the goal or decreases
a well-founded variant, and no other event increases it, then the goal is inevitable. -/
theorem inevitablyAmid_of_variant {α : Type*} [Preorder α] [WellFoundedLT α] (variant : σ → α)
    {own : ε → Prop} {motive goal : σ → Prop}
    (possible : ∀ state, motive state → goal state ∨
      ∃ event next, own event ∧ system.step state event = some next)
    (decreases : ∀ state event next, motive state → own event →
      system.step state event = some next →
      goal next ∨ motive next ∧ variant next < variant state)
    (keeps : ∀ state event next, motive state → ¬ own event →
      system.step state event = some next → motive next ∧ variant next ≤ variant state)
    (state : σ) (holds : motive state) : system.InevitablyAmid own goal state := by
  induction measured : variant state using WellFoundedLT.induction generalizing state with
  | ind bound induction =>
      subst measured
      -- the others leave the invariant intact and the variant no greater
      have kept {others : List ε} {middle : σ} (foreign : ∀ event ∈ others, ¬ own event)
          (ran : system.run state others = some middle) :
          motive middle ∧ variant middle ≤ variant state := by
        refine run_invariant (motive := fun later => motive later ∧ variant later ≤ variant state)
          (fun before event after => ?_) foreign ran ⟨holds, le_rfl⟩
        rintro ⟨before_holds, before_le⟩ not_own stepped
        obtain ⟨after_holds, after_le⟩ := keeps before event after before_holds not_own stepped
        exact ⟨after_holds, after_le.trans before_le⟩
      refine .later ?_ ?_
      · intro others middle foreign ran unattained
        exact (possible middle (kept foreign ran).1).resolve_left unattained
      · intro others middle event next foreign ran _ allowed stepped
        obtain ⟨middle_holds, middle_le⟩ := kept foreign ran
        rcases decreases middle event next middle_holds allowed stepped with
          attained | ⟨next_holds, decreased⟩
        · exact .now attained
        · exact induction _ (decreased.trans_le middle_le) next next_holds rfl

/-- If a record is a front piece of what the target is a front piece of, then the target is recorded
inevitably: while the record is shorter, some own event is enabled, every own event decreases a
well-founded variant, and no other event increases it or records anything. -/
theorem inevitablyAmid_recorded {α β : Type*} [Preorder α] [WellFoundedLT α] (variant : σ → α)
    (record : σ → List β) (target : List β) {own : ε → Prop} {motive : σ → Prop}
    (comparable : ∀ state, motive state → ∃ whole, record state <+: whole ∧ target <+: whole)
    (kept : ∀ state event next, motive state → system.step state event = some next → motive next)
    (possible : ∀ state, motive state → (record state).length < target.length →
      ∃ event next, own event ∧ system.step state event = some next)
    (decreases : ∀ state event next, motive state → (record state).length < target.length →
      own event → system.step state event = some next → variant next < variant state)
    (keeps : ∀ state event next, motive state → (record state).length < target.length →
      ¬ own event → system.step state event = some next →
      record next = record state ∧ variant next ≤ variant state)
    (state : σ) (holds : motive state) :
    system.InevitablyAmid own (fun later => target <+: record later) state := by
  have recorded {later : σ} (later_holds : motive later)
      (long : ¬ (record later).length < target.length) : target <+: record later := by
    obtain ⟨whole, record_le, target_le⟩ := comparable later later_holds
    exact List.prefix_of_prefix_length_le target_le record_le (Nat.not_lt.mp long)
  by_cases short : (record state).length < target.length
  · refine inevitablyAmid_of_variant variant
      (motive := fun state => motive state ∧ (record state).length < target.length)
      (fun state holds => .inr (possible state holds.1 holds.2)) ?_ ?_ state ⟨holds, short⟩
    · rintro state event next ⟨holds, short⟩ allowed stepped
      have next_holds := kept state event next holds stepped
      by_cases still : (record next).length < target.length
      · exact .inr ⟨⟨next_holds, still⟩, decreases state event next holds short allowed stepped⟩
      · exact .inl (recorded next_holds still)
    · rintro state event next ⟨holds, short⟩ foreign stepped
      obtain ⟨same, not_more⟩ := keeps state event next holds short foreign stepped
      exact ⟨⟨kept state event next holds stepped, same ▸ short⟩, not_more⟩
  · exact .now (recorded holds short)

/-! ## Restriction -/

variable (system) in
/-- The system in which only the allowed steps are taken. -/
def restrict (allowed : σ → ε → Prop) [DecidableRel allowed] : EventSystem σ ε where
  init := system.init
  step state event := if allowed state event then system.step state event else none

theorem restrict_step_iff {allowed : σ → ε → Prop} [DecidableRel allowed] {state next : σ}
    {event : ε} :
    (system.restrict allowed).step state event = some next ↔
      allowed state event ∧ system.step state event = some next := by
  rw [restrict, Option.ite_none_right_eq_some]

/-- A run of the restricted system is one of the whole system. -/
theorem run_of_restrict {allowed : σ → ε → Prop} [DecidableRel allowed] {trace : List ε}
    {state final : σ} (ran : (system.restrict allowed).run state trace = some final) :
    system.run state trace = some final := by
  induction trace generalizing state with
  | nil => exact ran
  | cons event events induction =>
      obtain ⟨next, stepped, later_ran⟩ := Option.bind_eq_some_iff.mp ran
      obtain ⟨-, moved⟩ := restrict_step_iff.mp stepped
      exact Option.bind_eq_some_iff.mpr ⟨next, moved, induction later_ran⟩

/-! ## Components -/

variable (system) in
/-- A part of a system which sees some of the events and changes by those only. -/
structure Component (part : EventSystem τ δ) where
  /-- State of the part. -/
  view : σ → τ
  /-- The part's own event, for the events it takes part in. -/
  project : ε → Option δ
  /-- The part starts in its initial state. -/
  view_init : view system.init = part.init
  /-- In every run the part makes its own step, or rests. -/
  view_step : ∀ {trace state event next}, system.Reaches trace state →
    system.step state event = some next →
    match project event with
    | none => view next = view state
    | some own => part.step (view state) own = some (view next)

/-- A run of the system is a run of each of its components. -/
theorem Component.reaches {part : EventSystem τ δ} (component : system.Component part)
    {trace : List ε} {state : σ} (reached : system.Reaches trace state) :
    part.Reaches (trace.filterMap component.project) (component.view state) := by
  refine reached.invariant (motive := fun trace state =>
    part.Reaches (trace.filterMap component.project) (component.view state)) ?_ ?_
  · rw [component.view_init]
    exact reaches_nil
  · intro trace state event next state_reached followed stepped
    have moved := component.view_step state_reached stepped
    rw [List.filterMap_append]
    cases own : component.project event with
    | none =>
        rw [own] at moved
        simpa [own, moved] using followed
    | some ownEvent =>
        rw [own] at moved
        have concat := reaches_concat.mpr ⟨_, followed, moved⟩
        simpa [own] using concat

/-! ## Simulation -/

variable (system) in
/-- Another system that can follow every step, with a run of its own. -/
structure Simulation (abstract : EventSystem τ δ) where
  /-- The states that belong together. -/
  related : σ → τ → Prop
  /-- What the other system does when an event happens. -/
  translate : ε → List δ
  /-- The initial states belong together. -/
  related_init : related system.init abstract.init
  /-- In every run the other system can follow. -/
  related_step : ∀ {trace state event next other}, system.Reaches trace state →
    related state other → system.step state event = some next →
    ∃ after, abstract.run other (translate event) = some after ∧ related next after

/-- Every run of the system is followed by a run of the other one. -/
theorem Simulation.reaches {abstract : EventSystem τ δ} (simulation : system.Simulation abstract)
    {trace : List ε} {state : σ} (reached : system.Reaches trace state) :
    ∃ other, abstract.Reaches (trace.flatMap simulation.translate) other ∧
      simulation.related state other := by
  refine reached.invariant (motive := fun trace state =>
    ∃ other, abstract.Reaches (trace.flatMap simulation.translate) other ∧
      simulation.related state other) ?_ ?_
  · exact ⟨_, reaches_nil, simulation.related_init⟩
  · rintro trace state event next state_reached ⟨other, followed, related⟩ stepped
    obtain ⟨after, ran, related_after⟩ := simulation.related_step state_reached related stepped
    refine ⟨after, ?_, related_after⟩
    rw [List.flatMap_append, List.flatMap_singleton]
    exact followed.append ran

end EventSystem
end EventSystems
