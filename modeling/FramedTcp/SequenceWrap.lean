import FramedTcp.Reassembly

/-!
# Sequence numbers that wrap

The expected number is a 32-bit counter and wraps to `0`, but the held values are ordered by their
raw numbers.  This file follows a reorder buffer through a window of consecutive numbers, taken
modulo `2 ^ 32`, and determines which orders of arrival it survives.
-/

namespace ReorderBuffer

variable {ν : Type*} {sequence : ν → UInt32}

/-- Consecutive sequence numbers from a first one on, modulo `2 ^ 32`. -/
def window (first : UInt32) (count : ℕ) : List UInt32 :=
  (List.range count).map fun index => first + UInt32.ofNat index

@[simp]
theorem length_window (first : UInt32) (count : ℕ) : (window first count).length = count := by
  simp [window]

/-- A window continues where its front ends. -/
theorem window_add (first : UInt32) (front back : ℕ) :
    window first (front + back) =
      window first front ++ window (first + UInt32.ofNat front) back := by
  simp [window, List.range_add, UInt32.ofNat_add, UInt32.add_assoc]

/-- The numbers of a window that does not wrap. -/
theorem map_toNat_window {first : UInt32} {count : ℕ} (unwrapped : first.toNat + count ≤ 2 ^ 32) :
    (window first count).map UInt32.toNat = List.range' first.toNat count := by
  rw [window, List.map_map, List.range'_eq_map_range]
  refine List.map_congr_left fun index member => ?_
  have below := List.mem_range.mp member
  simp only [Function.comp_apply, UInt32.toNat_add, UInt32.toNat_ofNat']
  omega

/-- All arrivals are released in the order of the window, each once, and nothing remains held. -/
def ReleasesWindow (sequence : ν → UInt32) (first : UInt32) (arrivals : List ν)
    (result : List ν × ReorderBuffer ν) : Prop :=
  result.1.map sequence = window first arrivals.length ∧ result.1.Perm arrivals ∧
    result.2.held.entries = []

/-- No value whose number has wrapped arrives before one whose number has not. -/
def WrapsLast (sequence : ν → UInt32) (first : UInt32) (arrivals : List ν) : Prop :=
  arrivals.Pairwise fun earlier later => first ≤ sequence later → first ≤ sequence earlier

/-! ## Without a wrap -/

/-- Arrivals so far are released up to a gap and held above it. -/
structure Fills (sequence : ν → UInt32) (first : UInt32) (arrivals released : List ν)
    (buffer : ReorderBuffer ν) : Prop where
  expected_eq : buffer.expected = first + UInt32.ofNat released.length
  released_eq : released.map (fun value => (sequence value).toNat) =
    List.range' first.toNat released.length
  perm : (released ++ buffer.held.entries.map Prod.snd).Perm arrivals
  held_eq : ∀ entry ∈ buffer.held.entries, entry.1 = sequence entry.2
  above : ∀ entry ∈ buffer.held.entries, first.toNat + released.length < entry.1.toNat

theorem fills_nil {first : UInt32} {buffer : ReorderBuffer ν} (empty : buffer.held.entries = [])
    (expected_eq : buffer.expected = first) : Fills sequence first [] [] buffer where
  expected_eq := by simp [expected_eq]
  released_eq := rfl
  perm := by simp [empty]
  held_eq := by simp [empty]
  above := by simp [empty]

variable {first : UInt32} {arrivals released : List ν} {buffer : ReorderBuffer ν}

/-- A number that has not arrived lies behind those released. -/
theorem Fills.le_of_new (fills : Fills sequence first arrivals released buffer) {value : ν}
    (new : sequence value ∉ arrivals.map sequence) (inside : first ≤ sequence value) :
    first.toNat + released.length ≤ (sequence value).toNat := by
  by_contra below
  have first_le := UInt32.le_iff_toNat_le.mp inside
  have listed : (sequence value).toNat ∈
      released.map (fun value => (sequence value).toNat) := by
    rw [fills.released_eq, List.mem_range'_1]
    omega
  obtain ⟨other, member, number_eq⟩ := List.mem_map.mp listed
  refine new (List.mem_map.mpr ⟨other, ?_, UInt32.toNat_inj.mp number_eq⟩)
  exact fills.perm.subset (List.mem_append_left _ member)

theorem Fills.expected_toNat (fills : Fills sequence first arrivals released buffer)
    (bounded : first.toNat + released.length < 2 ^ 32) :
    buffer.expected.toNat = first.toNat + released.length := by
  rw [fills.expected_eq, UInt32.toNat_add, UInt32.toNat_ofNat']
  omega

/-- The accounting survives the arrival of a number that has not wrapped. -/
theorem Fills.accept (fills : Fills sequence first arrivals released buffer) {value : ν}
    (new : sequence value ∉ arrivals.map sequence) (inside : first ≤ sequence value) :
    Fills sequence first (arrivals ++ [value])
      (released ++ (buffer.accept (sequence value) value).1)
      (buffer.accept (sequence value) value).2 := by
  have number_ge := fills.le_of_new new inside
  have expected_toNat := fills.expected_toNat (number_ge.trans_lt (sequence value).toNat_lt)
  have absent : ∀ entry ∈ buffer.held.entries, entry.1 ≠ sequence value := by
    rintro entry member same
    refine new (List.mem_map.mpr ⟨entry.2, ?_, (fills.held_eq entry member).symm.trans same⟩)
    exact fills.perm.subset (List.mem_append_right _ (List.mem_map_of_mem member))
  have inserted := buffer.held.perm_tryInsert value absent
  let stored : ReorderBuffer ν :=
    { buffer with held := buffer.held.tryInsert (sequence value) value }
  have stored_eq : ∀ entry ∈ stored.held.entries, entry.1 = sequence entry.2 := by
    intro entry member
    rcases List.mem_cons.mp (inserted.subset member) with rfl | old
    · rfl
    · exact fills.held_eq entry old
  have fresh : ∀ entry ∈ stored.held.entries, stored.expected.toNat ≤ entry.1.toNat := by
    intro entry member
    have expected_le : buffer.expected.toNat ≤ entry.1.toNat := by
      rw [expected_toNat]
      rcases List.mem_cons.mp (inserted.subset member) with rfl | old
      · exact number_ge
      · exact (fills.above entry old).le
    exact expected_le
  obtain ⟨run, values_eq, split, final_eq, numbers, -⟩ := drain_spec stored
  have passed := drain_above fresh
  have run_eq : run.map (fun entry => (sequence entry.2).toNat) =
      List.range' (first.toNat + released.length) run.length := by
    rw [← expected_toNat, ← numbers]
    refine List.map_congr_left fun entry member => ?_
    rw [stored_eq entry (split ▸ List.mem_append_left _ member)]
  have accept_eq : buffer.accept (sequence value) value = drain stored := rfl
  rw [accept_eq, values_eq]
  rw [values_eq, List.length_map] at passed
  refine ⟨?_, ?_, ?_, ?_, ?_⟩
  · have expected_eq : stored.expected = first + UInt32.ofNat released.length := fills.expected_eq
    rw [final_eq, expected_eq, List.length_append, List.length_map, UInt32.ofNat_add,
      UInt32.add_assoc]
  · rw [List.map_append, fills.released_eq, List.map_map, List.length_append, List.length_map,
      ← List.range'_append_1, ← run_eq]
    rfl
  · rw [List.append_assoc, ← List.map_append, ← split]
    calc released ++ stored.held.entries.map Prod.snd
        |>.Perm (released ++ value :: buffer.held.entries.map Prod.snd) :=
          (inserted.map Prod.snd).append_left released
      _ |>.Perm (value :: (released ++ buffer.held.entries.map Prod.snd)) := List.perm_middle
      _ |>.Perm (value :: arrivals) := fills.perm.cons value
      _ |>.Perm (arrivals ++ [value]) := (List.perm_append_singleton value arrivals).symm
  · exact fun entry member => stored_eq entry (split ▸ List.mem_append_right _ member)
  · intro entry member
    have number_lt := passed entry member
    have stored_expected : stored.expected.toNat = first.toNat + released.length := expected_toNat
    rw [List.length_append, List.length_map]
    omega

theorem fills_receive (empty : buffer.held.entries = []) (expected_eq : buffer.expected = first)
    (arrivals : List ν) (distinct : (arrivals.map sequence).Nodup)
    (inside : ∀ value ∈ arrivals, first ≤ sequence value) :
    Fills sequence first arrivals (receive sequence buffer arrivals).1
      (receive sequence buffer arrivals).2 := by
  induction arrivals using List.reverseRecOn with
  | nil => exact fills_nil empty expected_eq
  | append_singleton front value induction =>
      rw [List.map_append, List.nodup_append] at distinct
      obtain ⟨front_distinct, -, separate⟩ := distinct
      rw [receive_concat]
      apply (induction front_distinct fun other member => inside other (by simp [member])).accept
      · exact fun member => separate _ member _ (by simp) rfl
      · exact inside value (by simp)

/-- When a whole window has arrived, there is no gap left. -/
theorem Fills.length_eq (fills : Fills sequence first arrivals released buffer)
    (arrived : (arrivals.map sequence).Perm (window first arrivals.length))
    (unwrapped : first.toNat + arrivals.length ≤ 2 ^ 32) :
    released.length = arrivals.length := by
  have lengths := fills.perm.length_eq
  rw [List.length_append] at lengths
  by_contra short
  have listed : first + UInt32.ofNat released.length ∈ arrivals.map sequence := by
    rw [arrived.mem_iff, window]
    exact List.mem_map_of_mem (List.mem_range.mpr (by omega))
  obtain ⟨value, member, number_eq⟩ := List.mem_map.mp listed
  have number_toNat : (sequence value).toNat = first.toNat + released.length := by
    rw [number_eq, UInt32.toNat_add, UInt32.toNat_ofNat']
    omega
  rcases List.mem_append.mp (fills.perm.mem_iff.mpr member) with gone | waiting
  · have below : (sequence value).toNat ∈ released.map fun value => (sequence value).toNat :=
      List.mem_map_of_mem gone
    rw [fills.released_eq, List.mem_range'_1] at below
    omega
  · obtain ⟨entry, held, rfl⟩ := List.mem_map.mp waiting
    have number_lt := fills.above entry held
    rw [fills.held_eq entry held] at number_lt
    omega

theorem Fills.releasesWindow (fills : Fills sequence first arrivals released buffer)
    (arrived : (arrivals.map sequence).Perm (window first arrivals.length))
    (unwrapped : first.toNat + arrivals.length ≤ 2 ^ 32) :
    ReleasesWindow sequence first arrivals (released, buffer) := by
  have length_eq := fills.length_eq arrived unwrapped
  have lengths := fills.perm.length_eq
  rw [List.length_append, List.length_map] at lengths
  have empty : buffer.held.entries = [] := List.eq_nil_of_length_eq_zero (by omega)
  refine ⟨?_, ?_, empty⟩
  · have injective : Function.Injective UInt32.toNat := fun _ _ => UInt32.toNat_inj.mp
    apply injective.list_map
    rw [map_toNat_window unwrapped, ← length_eq, ← fills.released_eq, List.map_map]
    rfl
  · simpa [empty] using fills.perm

/-! ## Across the wrap -/

/-- In an order that wraps last, the values below the wrap come first. -/
theorem WrapsLast.split (wraps : WrapsLast sequence first arrivals) :
    arrivals = arrivals.filter (fun value => first ≤ sequence value) ++
      arrivals.filter (fun value => sequence value < first) := by
  induction arrivals with
  | nil => rfl
  | cons value arrivals induction =>
      obtain ⟨value_first, later⟩ := List.pairwise_cons.mp wraps
      rcases le_or_gt first (sequence value) with high | low
      · rw [List.filter_cons_of_pos (by simpa using high),
          List.filter_cons_of_neg (by simpa using high), List.cons_append, ← induction later]
      · have none_high : ∀ other ∈ arrivals, sequence other < first :=
          fun other member => lt_of_not_ge fun high =>
            absurd (value_first other member high) (not_le_of_gt low)
        rw [List.filter_eq_nil_iff.mpr, List.nil_append, List.filter_eq_self.mpr]
        · simpa [low] using none_high
        · simpa [low] using none_high

/-- In any other order a wrapped value arrives while an unwrapped one is missing. -/
theorem exists_of_not_wrapsLast (early : ¬ WrapsLast sequence first arrivals) :
    ∃ front low back high, arrivals = front ++ low :: back ∧
      (∀ value ∈ front, first ≤ sequence value) ∧ sequence low < first ∧ high ∈ back ∧
      first ≤ sequence high := by
  induction arrivals with
  | nil => exact absurd List.Pairwise.nil early
  | cons value arrivals induction =>
      rcases le_or_gt first (sequence value) with high | low
      · have later : ¬ WrapsLast sequence first arrivals := fun wraps =>
          early (List.pairwise_cons.mpr ⟨fun _ _ _ => high, wraps⟩)
        obtain ⟨front, low, back, other, rfl, front_high, rest⟩ := induction later
        exact ⟨value :: front, low, back, other, rfl,
          List.forall_mem_cons.mpr ⟨high, front_high⟩, rest⟩
      · by_cases some_high : ∃ high ∈ arrivals, first ≤ sequence high
        · obtain ⟨high, member, high_ge⟩ := some_high
          exact ⟨[], value, arrivals, high, rfl, nofun, low, member, high_ge⟩
        · refine absurd (List.pairwise_cons.mpr ⟨?_, ?_⟩) early
          · exact fun high member high_ge => absurd ⟨high, member, high_ge⟩ some_high
          · exact List.pairwise_of_forall_mem_list fun _ _ high member high_ge =>
              absurd ⟨high, member, high_ge⟩ some_high

/-- A wrapped value that arrives too early stays in front of the map for good. -/
theorem stalled_of_not_wrapsLast (empty : buffer.held.entries = [])
    (expected_eq : buffer.expected = first) (distinct : (arrivals.map sequence).Nodup)
    (early : ¬ WrapsLast sequence first arrivals) :
    (receive sequence buffer arrivals).2.Stalled := by
  obtain ⟨front, low, back, high, rfl, front_high, low_lt, member, high_ge⟩ :=
    exists_of_not_wrapsLast early
  rw [List.map_append, List.map_cons, List.nodup_append] at distinct
  obtain ⟨front_distinct, -, separate⟩ := distinct
  have fills := fills_receive empty expected_eq front front_distinct front_high
  have new : sequence high ∉ front.map sequence := fun present =>
    separate _ present _ (List.mem_cons_of_mem _ (List.mem_map_of_mem member)) rfl
  have high_number := fills.le_of_new new high_ge
  have expected_toNat := fills.expected_toNat (high_number.trans_lt (sequence high).toNat_lt)
  have below : sequence low < (receive sequence buffer front).2.expected := by
    rw [UInt32.lt_iff_toNat_lt] at low_lt ⊢
    omega
  rw [show front ++ low :: back = front ++ [low] ++ back by simp, receive_append, receive_concat]
  exact receive_of_stalled sequence (accept_of_lt below low) back

/-- How a window is split by the wrap. -/
theorem window_split (first : UInt32) {count : ℕ} (bounded : count ≤ 2 ^ 32) :
    ∃ high low, count = high + low ∧ first.toNat + high ≤ 2 ^ 32 ∧ low ≤ first.toNat ∧
      window first count = window first high ++ window 0 low ∧
      (0 < low → first + UInt32.ofNat high = 0) := by
  have first_lt := first.toNat_lt
  rcases Nat.le_total (first.toNat + count) (2 ^ 32) with inside | across
  · exact ⟨count, 0, rfl, inside, Nat.zero_le _, by simp [window], nofun⟩
  · have wrapped : first + UInt32.ofNat (2 ^ 32 - first.toNat) = 0 := by
      apply UInt32.toNat_inj.mp
      rw [UInt32.toNat_add, UInt32.toNat_ofNat', UInt32.toNat_zero]
      omega
    refine ⟨2 ^ 32 - first.toNat, count - (2 ^ 32 - first.toNat), by omega, by omega, by omega,
      ?_, fun _ => wrapped⟩
    have parts := window_add first (2 ^ 32 - first.toNat) (count - (2 ^ 32 - first.toNat))
    rwa [wrapped, Nat.add_sub_cancel' (by omega)] at parts

theorem mem_window_of_unwrapped {count : ℕ} (unwrapped : first.toNat + count ≤ 2 ^ 32)
    {number : UInt32} (member : number ∈ window first count) :
    first.toNat ≤ number.toNat ∧ number.toNat < first.toNat + count := by
  have listed := List.mem_map_of_mem (f := UInt32.toNat) member
  rwa [map_toNat_window unwrapped, List.mem_range'_1] at listed

theorem nodup_window (first : UInt32) {count : ℕ} (bounded : count ≤ 2 ^ 32) :
    (window first count).Nodup := by
  refine (List.nodup_map_iff_inj_on List.nodup_range).mpr ?_
  intro left left_mem right right_mem same
  have left_lt := List.mem_range.mp left_mem
  have right_lt := List.mem_range.mp right_mem
  have values := congrArg UInt32.toNat same
  simp only [UInt32.toNat_add, UInt32.toNat_ofNat'] at values
  have first_lt := first.toNat_lt
  omega

/-- The values below and above the wrap arrive as windows of their own. -/
theorem perm_window_split {high low : ℕ} (high_le : first.toNat + high ≤ 2 ^ 32)
    (low_le : low ≤ first.toNat)
    (arrived : (arrivals.map sequence).Perm (window first high ++ window 0 low)) :
    ((arrivals.filter fun value => first ≤ sequence value).map sequence).Perm
        (window first high) ∧
      ((arrivals.filter fun value => sequence value < first).map sequence).Perm
        (window 0 low) := by
  have first_lt := first.toNat_lt
  have high_number : ∀ number ∈ window first high, first ≤ number := fun number member =>
    UInt32.le_iff_toNat_le.mpr (mem_window_of_unwrapped high_le member).1
  have low_number : ∀ number ∈ window 0 low, number < first := fun number member => by
    have inside := mem_window_of_unwrapped (by rw [UInt32.toNat_zero]; omega) member
    rw [UInt32.toNat_zero] at inside
    exact UInt32.lt_iff_toNat_lt.mpr (by omega)
  have high_filter : ((window first high ++ window 0 low).filter fun number => first ≤ number) =
      window first high := by
    rw [List.filter_append, List.filter_eq_self.mpr (by simpa using high_number),
      List.filter_eq_nil_iff.mpr (by simpa using low_number), List.append_nil]
  have low_filter : ((window first high ++ window 0 low).filter fun number => number < first) =
      window 0 low := by
    rw [List.filter_append, List.filter_eq_nil_iff.mpr (by simpa using high_number),
      List.filter_eq_self.mpr (by simpa using low_number), List.nil_append]
  constructor
  · have high_perm := arrived.filter fun number => first ≤ number
    rwa [high_filter, List.filter_map] at high_perm
  · have low_perm := arrived.filter fun number => number < first
    rwa [low_filter, List.filter_map] at low_perm

/-- A window is released completely if the wrapped values arrive after all others. -/
theorem releasesWindow_of_wrapsLast (empty : buffer.held.entries = [])
    (expected_eq : buffer.expected = first) (bounded : arrivals.length ≤ 2 ^ 32)
    (arrived : (arrivals.map sequence).Perm (window first arrivals.length))
    (wraps : WrapsLast sequence first arrivals) :
    ReleasesWindow sequence first arrivals (receive sequence buffer arrivals) := by
  obtain ⟨high, low, count_eq, high_le, low_le, window_eq, wrapped⟩ := window_split first bounded
  have distinct := arrived.nodup_iff.mpr (nodup_window first bounded)
  rw [window_eq] at arrived
  obtain ⟨high_perm, low_perm⟩ := perm_window_split high_le low_le arrived
  have split := wraps.split
  rw [ReleasesWindow, window_eq]
  rw [split, List.map_append, List.nodup_append] at distinct
  generalize highs_eq : (arrivals.filter fun value => first ≤ sequence value) = highs at *
  generalize lows_eq : (arrivals.filter fun value => sequence value < first) = lows at *
  have high_length : highs.length = high := by simpa using high_perm.length_eq
  have low_length : lows.length = low := by simpa using low_perm.length_eq
  subst high_length low_length
  have fills := fills_receive empty expected_eq highs distinct.1 fun value member => by
    rw [← highs_eq] at member
    simpa using (List.mem_filter.mp member).2
  have first_part := fills.releasesWindow high_perm high_le
  have second_part : ReleasesWindow sequence 0 lows
      (receive sequence (receive sequence buffer highs).2 lows) := by
    rcases Nat.eq_zero_or_pos lows.length with none_low | some_low
    · obtain rfl := List.eq_nil_of_length_eq_zero none_low
      exact ⟨rfl, List.Perm.refl _, first_part.2.2⟩
    · have expected_zero := fills.expected_eq
      rw [fills.length_eq high_perm high_le, wrapped some_low] at expected_zero
      have low_fills := fills_receive first_part.2.2 expected_zero lows distinct.2.1
        fun _ _ => UInt32.le_iff_toNat_le.mpr (Nat.zero_le _)
      apply low_fills.releasesWindow low_perm
      rw [UInt32.toNat_zero]
      have first_lt := first.toNat_lt
      omega
  rw [split, receive_append]
  refine ⟨?_, first_part.2.1.append second_part.2.1, second_part.2.2⟩
  rw [List.map_append, first_part.1, second_part.1]

/-- A window is released completely exactly when the wrapped values arrive after all others. -/
theorem releasesWindow_iff (empty : buffer.held.entries = [])
    (expected_eq : buffer.expected = first) (bounded : arrivals.length ≤ 2 ^ 32)
    (arrived : (arrivals.map sequence).Perm (window first arrivals.length)) :
    ReleasesWindow sequence first arrivals (receive sequence buffer arrivals) ↔
      WrapsLast sequence first arrivals := by
  refine ⟨fun releases => ?_, releasesWindow_of_wrapsLast empty expected_eq bounded arrived⟩
  by_contra early
  have distinct := arrived.nodup_iff.mpr (nodup_window first bounded)
  obtain ⟨entry, member, -⟩ := stalled_of_not_wrapsLast empty expected_eq distinct early
  rw [releases.2.2] at member
  contradiction

end ReorderBuffer

/-! ## Both reassembly loops -/

namespace FramedTcp

open ReorderBuffer Reassembly

namespace Reassembly

theorem addAll_append (reassembly : Reassembly) (front back : List Frame) :
    reassembly.addAll (front ++ back) =
      ((reassembly.addAll front).1 ++ ((reassembly.addAll front).2.addAll back).1,
        ((reassembly.addAll front).2.addAll back).2) := by
  induction front generalizing reassembly with
  | nil => simp [addAll]
  | cons frame front induction => simp [addAll, induction, List.append_assoc]

theorem Filed.addAll {reassembly : Reassembly} (filed : reassembly.Filed)
    (arrivals : List Frame) : (reassembly.addAll arrivals).2.Filed := by
  induction arrivals generalizing reassembly with
  | nil => exact filed
  | cons frame arrivals induction => exact induction (filed.add frame)

/-- Between two outcomes, the arrivals on a stream are released in the order of the window that
starts with the number expected before, each once, and none of the stream's frames remains held. -/
def ReleasesNext (before after : List Frame × Reassembly) (arrivals : List Frame)
    (stream : UInt32) : Prop :=
  ∃ released, after.1 = before.1 ++ released ∧
    ReleasesWindow Frame.sequence (before.2.nextSequence stream) (onStream stream arrivals)
      (onStream stream released, after.2.buffer stream)

theorem releasesNext_iff {earlier arrivals : List Frame} {stream : UInt32} {count : ℕ}
    (bounded : count ≤ 2 ^ 32)
    (empty : ((addAll {} earlier).2.streamFrames stream).entries = [])
    (arrived : ((onStream stream arrivals).map Frame.sequence).Perm
      (window ((addAll {} earlier).2.nextSequence stream) count)) :
    ReleasesNext (addAll {} earlier) (addAll {} (earlier ++ arrivals)) arrivals stream ↔
      WrapsLast Frame.sequence ((addAll {} earlier).2.nextSequence stream)
        (onStream stream arrivals) := by
  obtain ⟨released_eq, buffer_eq⟩ :=
    addAll_onStream (filed_initial.addAll earlier) arrivals stream
  have count_eq : (onStream stream arrivals).length = count := by simpa using arrived.length_eq
  rw [← count_eq] at arrived bounded
  have empty' : ((addAll {} earlier).2.buffer stream).held.entries = [] := empty
  have next_eq : ((addAll {} earlier).2.buffer stream).expected =
      (addAll {} earlier).2.nextSequence stream := rfl
  rw [← releasesWindow_iff empty' next_eq bounded arrived, ReleasesNext, addAll_append]
  simp only [List.append_cancel_left_eq, exists_eq_left', released_eq, buffer_eq]

/-- Every expected number is reached, with nothing held, by arrivals in order. -/
theorem exists_expected (stream first : UInt32) :
    ∃ earlier, ((addAll {} earlier).2.streamFrames stream).entries = [] ∧
      (addAll {} earlier).2.nextSequence stream = first := by
  let earlier := (window 0 first.toNat).map fun sequence => Frame.create stream sequence []
  have own : onStream stream earlier = earlier := by
    simp [onStream, earlier, Frame.create]
  have numbers : earlier.map Frame.sequence = window 0 first.toNat := by
    simp only [earlier, List.map_map]
    exact List.map_id _
  have size : earlier.length = first.toNat := by simp [earlier]
  have first_lt := first.toNat_lt
  have unwrapped : (0 : UInt32).toNat + earlier.length ≤ 2 ^ 32 := by
    rw [UInt32.toNat_zero]
    omega
  have empty : (initial : ReorderBuffer Frame).held.entries = [] := rfl
  have start : (initial : ReorderBuffer Frame).expected = 0 := rfl
  have fills := fills_receive empty start earlier (numbers ▸ nodup_window 0 (by omega))
    fun _ _ => UInt32.le_iff_toNat_le.mpr (Nat.zero_le _)
  have arrived : (earlier.map Frame.sequence).Perm (window 0 earlier.length) := by
    rw [numbers, size]
  have buffer_eq := (addAll_onStream filed_initial earlier stream).2
  rw [own] at buffer_eq
  refine ⟨earlier, ?_, ?_⟩
  · exact (congrArg (fun buffer => buffer.held.entries) buffer_eq).trans
      (fills.releasesWindow arrived unwrapped).2.2
  · refine (congrArg ReorderBuffer.expected buffer_eq).trans (fills.expected_eq.trans ?_)
    rw [fills.length_eq arrived unwrapped, size]
    simp

end Reassembly

/-- What a manager has released, and its maps. -/
def StreamManager.outcome (manager : StreamManager) : List Frame × Reassembly :=
  (manager.incomingFrames, manager.toReassembly)

/-- What a reader has printed, and its maps. -/
def Client.Reader.outcome (reader : Client.Reader) : List Frame × Reassembly :=
  (reader.output, reader.toReassembly)

theorem StreamManager.outcome_receiveAll (arrivals : List Frame) :
    (receiveAll arrivals).outcome = addAll {} arrivals := by
  rw [outcome, incomingFrames_receiveAll, toReassembly_receiveAll]

theorem Client.Reader.outcome_handleAll (enableChecksum : Bool) (frames : List Frame) :
    (handleAll enableChecksum frames).outcome = addAll {} (valid enableChecksum frames) := by
  rw [outcome, output_handleAll, toReassembly_handleAll]

/-- Both loops release a window of a stream's frames completely exactly when no frame whose number
has wrapped arrives before one whose number has not: such a frame goes to the front of the map and
stays there. -/
theorem reassembly_wraps_iff (enableChecksum : Bool) (stream : UInt32) (count : ℕ)
    (small : count < 2 ^ 31) :
    (∀ earlier arrivals : List Frame,
      ((StreamManager.receiveAll earlier).streamFrames stream).entries = [] →
      ((onStream stream arrivals).map Frame.sequence).Perm
        (window ((StreamManager.receiveAll earlier).nextSequence stream) count) →
      (ReleasesNext (StreamManager.receiveAll earlier).outcome
          (StreamManager.receiveAll (earlier ++ arrivals)).outcome arrivals stream ↔
        WrapsLast Frame.sequence ((StreamManager.receiveAll earlier).nextSequence stream)
          (onStream stream arrivals))) ∧
    ∀ earlier arrivals : List Frame,
      ((Client.Reader.handleAll enableChecksum earlier).streamFrames stream).entries = [] →
      (∀ frame ∈ arrivals, frame.verifyChecksum enableChecksum = true) →
      ((onStream stream arrivals).map Frame.sequence).Perm
        (window ((Client.Reader.handleAll enableChecksum earlier).nextSequence stream) count) →
      (ReleasesNext (Client.Reader.handleAll enableChecksum earlier).outcome
          (Client.Reader.handleAll enableChecksum (earlier ++ arrivals)).outcome arrivals stream ↔
        WrapsLast Frame.sequence
          ((Client.Reader.handleAll enableChecksum earlier).nextSequence stream)
          (onStream stream arrivals)) := by
  constructor
  · intro earlier arrivals empty arrived
    rw [StreamManager.toReassembly_receiveAll] at empty arrived ⊢
    rw [StreamManager.outcome_receiveAll, StreamManager.outcome_receiveAll]
    exact releasesNext_iff (by omega) empty arrived
  · intro earlier arrivals empty all_valid arrived
    have valid_append : Client.valid enableChecksum (earlier ++ arrivals) =
        Client.valid enableChecksum earlier ++ arrivals := by
      rw [Client.valid, List.filter_append, List.filter_eq_self.mpr all_valid]
      rfl
    rw [Client.Reader.toReassembly_handleAll] at empty arrived ⊢
    rw [Client.Reader.outcome_handleAll, Client.Reader.outcome_handleAll, valid_append]
    exact releasesNext_iff (by omega) empty arrived

/-- The frames numbered `0` and `2 ^ 32 - 1`, in this order. -/
def earlyWrap : List Frame := [Frame.create 1 0 [], Frame.create 1 0xFFFFFFFF []]

theorem earlyWrap_perm :
    ((onStream 1 earlyWrap).map Frame.sequence).Perm (window 0xFFFFFFFF 2) := by decide

/-- Frame `0` arrives while `2 ^ 32 - 1` is expected, and neither is released. -/
theorem early_wrap_not_released :
    (¬ ∀ (stream : UInt32) (count : ℕ) (earlier arrivals : List Frame), count < 2 ^ 31 →
      ((StreamManager.receiveAll earlier).streamFrames stream).entries = [] →
      ((onStream stream arrivals).map Frame.sequence).Perm
        (window ((StreamManager.receiveAll earlier).nextSequence stream) count) →
      ReleasesNext (StreamManager.receiveAll earlier).outcome
        (StreamManager.receiveAll (earlier ++ arrivals)).outcome arrivals stream) ∧
    ¬ ∀ (stream : UInt32) (count : ℕ) (earlier arrivals : List Frame), count < 2 ^ 31 →
      ((Client.Reader.handleAll false earlier).streamFrames stream).entries = [] →
      ((onStream stream arrivals).map Frame.sequence).Perm
        (window ((Client.Reader.handleAll false earlier).nextSequence stream) count) →
      ReleasesNext (Client.Reader.handleAll false earlier).outcome
        (Client.Reader.handleAll false (earlier ++ arrivals)).outcome arrivals stream := by
  obtain ⟨earlier, empty, next_eq⟩ := exists_expected 1 0xFFFFFFFF
  have stuck : ¬ ReleasesNext (addAll {} earlier) (addAll {} (earlier ++ earlyWrap))
      earlyWrap 1 := by
    have arrived : ((onStream 1 earlyWrap).map Frame.sequence).Perm
        (window ((addAll {} earlier).2.nextSequence 1) 2) := by
      rw [next_eq]
      exact earlyWrap_perm
    rw [releasesNext_iff (by decide) empty arrived, next_eq]
    intro wraps
    exact absurd ((List.pairwise_cons.mp wraps).1 (Frame.create 1 0xFFFFFFFF []) (by decide)
      (by decide)) (by decide)
  have all_valid (frames : List Frame) : Client.valid false frames = frames :=
    List.filter_eq_self.mpr fun _ _ => rfl
  constructor
  · intro releases
    have released := releases 1 2 earlier earlyWrap (by decide)
    rw [StreamManager.toReassembly_receiveAll, StreamManager.outcome_receiveAll,
      StreamManager.outcome_receiveAll, next_eq] at released
    exact stuck (released empty earlyWrap_perm)
  · intro releases
    have released := releases 1 2 earlier earlyWrap (by decide)
    rw [Client.Reader.toReassembly_handleAll, Client.Reader.outcome_handleAll,
      Client.Reader.outcome_handleAll, all_valid, all_valid, next_eq] at released
    exact stuck (released empty earlyWrap_perm)

/-- The frames numbered `2 ^ 32 - 1` and `0`, in this order. -/
def lateWrap : List Frame := [Frame.create 1 0xFFFFFFFF [], Frame.create 1 0 []]

/-- Two frames that arrive in the order of their numbers while `2 ^ 32 - 1` is expected. -/
theorem reassembly_wraps_iff_in_order :
    ∃ earlier : List Frame,
      (StreamManager.receiveAll earlier).nextSequence 1 = 0xFFFFFFFF ∧
      ReleasesNext (StreamManager.receiveAll earlier).outcome
        (StreamManager.receiveAll (earlier ++ lateWrap)).outcome lateWrap 1 ∧
      (Client.Reader.handleAll false earlier).nextSequence 1 = 0xFFFFFFFF ∧
      ReleasesNext (Client.Reader.handleAll false earlier).outcome
        (Client.Reader.handleAll false (earlier ++ lateWrap)).outcome lateWrap 1 := by
  obtain ⟨earlier, empty, next_eq⟩ := exists_expected 1 0xFFFFFFFF
  have all_valid : Client.valid false earlier = earlier := List.filter_eq_self.mpr fun _ _ => rfl
  have server_expected : (StreamManager.receiveAll earlier).nextSequence 1 = 0xFFFFFFFF := by
    rw [StreamManager.toReassembly_receiveAll]
    exact next_eq
  have client_expected :
      (Client.Reader.handleAll false earlier).nextSequence 1 = 0xFFFFFFFF := by
    rw [Client.Reader.toReassembly_handleAll, all_valid]
    exact next_eq
  have arrived : ((onStream 1 lateWrap).map Frame.sequence).Perm (window 0xFFFFFFFF 2) := by decide
  have wraps_last : WrapsLast Frame.sequence 0xFFFFFFFF (onStream 1 lateWrap) := by
    unfold WrapsLast
    decide
  refine ⟨earlier, server_expected, ?_, client_expected, ?_⟩
  · refine ((reassembly_wraps_iff false 1 2 (by decide)).1 earlier lateWrap ?_ ?_).mpr ?_
    · rw [StreamManager.toReassembly_receiveAll]
      exact empty
    · rwa [server_expected]
    · rwa [server_expected]
  · refine ((reassembly_wraps_iff false 1 2 (by decide)).2 earlier lateWrap ?_ (by decide)
      ?_).mpr ?_
    · rw [Client.Reader.toReassembly_handleAll, all_valid]
      exact empty
    · rwa [client_expected]
    · rwa [client_expected]

end FramedTcp
