import FramedTcp.OrderedMap
import FramedTcp.Word
import Mathlib.Order.Bounds.Defs

/-!
# Reorder buffers

A reorder buffer releases values in the order of their 32-bit sequence numbers: an arriving value
is held in a sorted map, and values are released from the front of the map for as long as the
front carries the expected number.  This file determines what is released and what is held after an
arbitrary sequence of arrivals, and exactly which arrivals leave the buffer stuck.
-/

/-- Values held back, and the sequence number to be released next. -/
structure ReorderBuffer (ν : Type*) where
  /-- Values that have arrived and have not been released. -/
  held : OrderedMap UInt32 ν
  /-- Sequence number of the next value to be released. -/
  expected : UInt32

namespace ReorderBuffer

variable {ν : Type*}

/-- Release values from the front while the front carries the expected number. -/
def drainEntries (expected : UInt32) :
    List (UInt32 × ν) → List ν × List (UInt32 × ν) × UInt32
  | [] => ([], [], expected)
  | entry :: rest =>
      if entry.1 = expected then
        let later := drainEntries (expected + 1) rest
        (entry.2 :: later.1, later.2)
      else
        ([], entry :: rest, expected)

theorem drainEntries_suffix (expected : UInt32) (entries : List (UInt32 × ν)) :
    (drainEntries expected entries).2.1 <:+ entries := by
  induction entries generalizing expected with
  | nil => exact List.suffix_rfl
  | cons entry rest induction =>
      rw [drainEntries]
      split
      · exact (induction (expected + 1)).trans (List.suffix_cons entry rest)
      · exact List.suffix_rfl

/-- Drain a buffer, returning the released values. -/
def drain (buffer : ReorderBuffer ν) : List ν × ReorderBuffer ν :=
  let drained := drainEntries buffer.expected buffer.held.entries
  (drained.1,
    { held :=
        { entries := drained.2.1
          ordered := buffer.held.ordered.sublist
            (drainEntries_suffix buffer.expected buffer.held.entries).sublist }
      expected := drained.2.2 })

/-- Accept one arriving value and release what has become ready. -/
def accept (buffer : ReorderBuffer ν) (sequence : UInt32) (value : ν) : List ν × ReorderBuffer ν :=
  drain { buffer with held := buffer.held.tryInsert sequence value }

/-- The buffer before any arrival. -/
def initial : ReorderBuffer ν := { held := ∅, expected := 0 }

/-- The values released over a sequence of arrivals, and the final buffer. -/
def receive (sequence : ν → UInt32) (buffer : ReorderBuffer ν) : List ν → List ν × ReorderBuffer ν
  | [] => ([], buffer)
  | value :: values =>
      let first := buffer.accept (sequence value) value
      let later := receive sequence first.2 values
      (first.1 ++ later.1, later.2)

theorem receive_append (sequence : ν → UInt32) (buffer : ReorderBuffer ν) (front back : List ν) :
    receive sequence buffer (front ++ back) =
      ((receive sequence buffer front).1 ++
          (receive sequence (receive sequence buffer front).2 back).1,
        (receive sequence (receive sequence buffer front).2 back).2) := by
  induction front generalizing buffer with
  | nil => simp [receive]
  | cons value front induction => simp [receive, induction, List.append_assoc]

/-! ## One drain -/

/-- A drain releases a run of consecutively numbered entries and stops in front of a different
number.  The run cannot pass the largest number, since keys strictly increase. -/
theorem drainEntries_spec (expected : UInt32) (entries : List (UInt32 × ν))
    (ordered : entries.Pairwise fun left right => left.1 < right.1) :
    ∃ run rest, entries = run ++ rest ∧
      drainEntries expected entries =
        (run.map Prod.snd, rest, expected + UInt32.ofNat run.length) ∧
      run.map (fun entry => entry.1.toNat) = List.range' expected.toNat run.length ∧
      ∀ entry ∈ rest.head?, entry.1 ≠ expected + UInt32.ofNat run.length := by
  induction entries generalizing expected with
  | nil => exact ⟨[], [], rfl, by simp [drainEntries], rfl, by simp⟩
  | cons entry rest induction =>
      obtain ⟨entry_lt, rest_ordered⟩ := List.pairwise_cons.mp ordered
      rw [drainEntries]
      split
      · rename_i entry_eq
        obtain ⟨run, left, rfl, drained, numbers, stops⟩ := induction (expected + 1) rest_ordered
        have shifted : expected + 1 + UInt32.ofNat run.length =
            expected + UInt32.ofNat (run.length + 1) := by
          apply UInt32.toNat_inj.mp
          simp only [UInt32.toNat_add, UInt32.toNat_ofNat']
          change ((expected.toNat + 1) % _ + _) % _ = _
          omega
        refine ⟨entry :: run, left, rfl, ?_, ?_, ?_⟩
        · simp only [drained, List.map_cons, List.length_cons, shifted]
        · rw [List.map_cons, numbers, List.length_cons, List.range'_succ, entry_eq]
          cases run with
          | nil => rfl
          | cons next run =>
              have next_lt := UInt32.lt_iff_toNat_lt.mp (entry_lt next (by simp))
              have bounded := next.1.toNat_lt
              have successor : (expected + 1).toNat = expected.toNat + 1 := by
                rw [UInt32.toNat_add, UInt32.toNat_one]
                rw [entry_eq] at next_lt
                omega
              rw [successor]
        · rw [List.length_cons, ← shifted]
          exact stops
      · rename_i entry_ne
        refine ⟨[], entry :: rest, rfl, by simp, rfl, ?_⟩
        simpa using entry_ne

/-- A drain at the level of the buffer. -/
theorem drain_spec (buffer : ReorderBuffer ν) :
    ∃ run, (drain buffer).1 = run.map Prod.snd ∧
      buffer.held.entries = run ++ (drain buffer).2.held.entries ∧
      (drain buffer).2.expected = buffer.expected + UInt32.ofNat run.length ∧
      run.map (fun entry => entry.1.toNat) = List.range' buffer.expected.toNat run.length ∧
      ∀ entry ∈ (drain buffer).2.held.entries.head?, entry.1 ≠ (drain buffer).2.expected := by
  obtain ⟨run, rest, split, drained, numbers, stops⟩ :=
    drainEntries_spec buffer.expected buffer.held.entries buffer.held.ordered
  refine ⟨run, ?_, ?_, ?_, numbers, ?_⟩
  · simp only [drain, drained]
  · simpa only [drain, drained] using split
  · simp only [drain, drained]
  · simpa only [drain, drained] using stops

/-- No value is released or held twice. -/
theorem length_accept_le (buffer : ReorderBuffer ν) (sequence : UInt32) (value : ν) :
    (buffer.accept sequence value).1.length +
        (buffer.accept sequence value).2.held.entries.length ≤
      buffer.held.entries.length + 1 := by
  obtain ⟨run, values_eq, split, -⟩ :=
    drain_spec { buffer with held := buffer.held.tryInsert sequence value }
  have inserted : (buffer.held.tryInsert sequence value).entries.length ≤
      buffer.held.entries.length + 1 := OrderedMap.length_insertEntry_le ..
  have lengths := congrArg List.length split
  rw [List.length_append] at lengths
  rw [accept, values_eq, List.length_map, ← lengths]
  exact inserted

/-- At most what was held and what arrives is released. -/
theorem length_receive_le (sequence : ν → UInt32) (buffer : ReorderBuffer ν) (arrivals : List ν) :
    (receive sequence buffer arrivals).1.length ≤
      buffer.held.entries.length + arrivals.length := by
  induction arrivals generalizing buffer with
  | nil => exact Nat.zero_le _
  | cons value arrivals induction =>
      have first := buffer.length_accept_le (sequence value) value
      have later := induction (buffer.accept (sequence value) value).2
      rw [receive, List.length_append, List.length_cons]
      omega

/-- What a buffer releases or keeps was held before or has just arrived. -/
theorem forall_accept {buffer : ReorderBuffer ν} {sequence : UInt32} {value : ν} (P : ν → Prop)
    (held : ∀ entry ∈ buffer.held.entries, P entry.2) (arrived : P value) :
    (∀ released ∈ (buffer.accept sequence value).1, P released) ∧
      ∀ entry ∈ (buffer.accept sequence value).2.held.entries, P entry.2 := by
  obtain ⟨run, values_eq, split, -⟩ :=
    drain_spec { buffer with held := buffer.held.tryInsert sequence value }
  have present : ∀ entry ∈ (buffer.held.tryInsert sequence value).entries, P entry.2 := by
    intro entry member
    rcases buffer.held.mem_tryInsert_iff.mp member with old | ⟨rfl, -⟩
    · exact held entry old
    · exact arrived
  simp only at split
  rw [split] at present
  constructor
  · intro released member
    rw [accept, values_eq] at member
    obtain ⟨entry, in_run, rfl⟩ := List.mem_map.mp member
    exact present entry (List.mem_append_left _ in_run)
  · intro entry member
    exact present entry (List.mem_append_right _ member)

/-- An entry below the expected number blocks the buffer. -/
def Stalled (buffer : ReorderBuffer ν) : Prop :=
  ∃ entry ∈ buffer.held.entries, entry.1 < buffer.expected

/-- A stalled buffer releases nothing. -/
theorem drain_of_stalled {buffer : ReorderBuffer ν} (stalled : buffer.Stalled) :
    drain buffer = ([], buffer) := by
  obtain ⟨⟨entries, ordered⟩, expected⟩ := buffer
  obtain ⟨entry, member, below⟩ := stalled
  cases entries with
  | nil => contradiction
  | cons head rest =>
      have head_lt : head.1 < expected := by
        rcases List.mem_cons.mp member with rfl | later
        · exact below
        · exact ((List.pairwise_cons.mp ordered).1 entry later).trans below
      simp only [drain, drainEntries, if_neg (ne_of_lt head_lt)]

/-- Once stalled, a buffer stays stalled and releases nothing, whatever arrives. -/
theorem accept_of_stalled {buffer : ReorderBuffer ν} (stalled : buffer.Stalled)
    (sequence : UInt32) (value : ν) :
    (buffer.accept sequence value).1 = [] ∧
      (buffer.accept sequence value).2.expected = buffer.expected ∧
      (buffer.accept sequence value).2.Stalled := by
  obtain ⟨entry, member, below⟩ := stalled
  have blocked : ReorderBuffer.Stalled
      { buffer with held := buffer.held.tryInsert sequence value } :=
    ⟨entry, (buffer.held.mem_tryInsert_iff).mpr (Or.inl member), below⟩
  rw [accept, drain_of_stalled blocked]
  exact ⟨rfl, rfl, blocked⟩

/-- A number below the expected one stalls the buffer. -/
theorem accept_of_lt {buffer : ReorderBuffer ν} {sequence : UInt32}
    (below : sequence < buffer.expected) (value : ν) :
    (buffer.accept sequence value).2.Stalled := by
  obtain ⟨present, member⟩ := buffer.held.exists_mem_tryInsert sequence value
  have blocked : ReorderBuffer.Stalled
      { buffer with held := buffer.held.tryInsert sequence value } := ⟨_, member, below⟩
  rw [accept, drain_of_stalled blocked]
  exact blocked

theorem receive_of_stalled (sequence : ν → UInt32) {buffer : ReorderBuffer ν}
    (stalled : buffer.Stalled) (arrivals : List ν) :
    (receive sequence buffer arrivals).2.Stalled := by
  induction arrivals generalizing buffer with
  | nil => exact stalled
  | cons value arrivals induction =>
      exact induction (accept_of_stalled stalled (sequence value) value).2.2

/-! ## Sequences of arrivals -/

section Arrivals

variable (sequence : ν → UInt32)

/-- A value with this number is among the arrivals. -/
def Arrived (arrivals : List ν) (number : ℕ) : Prop :=
  ∃ value ∈ arrivals, (sequence value).toNat = number

/-- The first arrival with a given number. -/
def firstArrival (arrivals : List ν) (number : ℕ) : Option ν :=
  arrivals.find? fun value => (sequence value).toNat = number

variable {sequence}

theorem arrived_append {front back : List ν} {number : ℕ} :
    Arrived sequence (front ++ back) number ↔
      Arrived sequence front number ∨ Arrived sequence back number := by
  simp only [Arrived, List.mem_append, or_and_right, exists_or]

theorem arrived_iff_firstArrival {arrivals : List ν} {number : ℕ} :
    Arrived sequence arrivals number ↔
      ∃ value, firstArrival sequence arrivals number = some value := by
  rw [← Option.isSome_iff_exists, firstArrival, List.find?_isSome]
  simp [Arrived]

theorem firstArrival_append (front back : List ν) (number : ℕ) :
    firstArrival sequence (front ++ back) number =
      (firstArrival sequence front number).or (firstArrival sequence back number) :=
  List.find?_append

theorem firstArrival_singleton (value : ν) (number : ℕ) :
    firstArrival sequence [value] number =
      if (sequence value).toNat = number then some value else none := by
  simp [firstArrival, List.find?_singleton]

/-- Accounting of a buffer: the released values are the first arrivals of the numbers `0, 1, ...`,
and at or above the expected number exactly the first arrivals are held. -/
structure Tracks (sequence : ν → UInt32) (arrivals released : List ν)
    (buffer : ReorderBuffer ν) : Prop where
  expected_eq : buffer.expected.toNat = released.length
  released_eq : ∀ number < released.length,
    firstArrival sequence arrivals number = released[number]?
  held_iff : ∀ key {value}, released.length ≤ key.toNat →
    ((key, value) ∈ buffer.held.entries ↔
      firstArrival sequence arrivals key.toNat = some value)

theorem tracks_initial : Tracks sequence [] [] (initial : ReorderBuffer ν) where
  expected_eq := rfl
  released_eq _ below := absurd below (Nat.not_lt_zero _)
  held_iff _ _ _ := by simp [initial, firstArrival]

theorem Tracks.arrived_of_lt {arrivals released : List ν} {buffer : ReorderBuffer ν}
    (tracks : Tracks sequence arrivals released buffer) {number : ℕ}
    (below : number < released.length) : Arrived sequence arrivals number := by
  refine arrived_iff_firstArrival.mpr ⟨released[number], ?_⟩
  rw [tracks.released_eq number below, List.getElem?_eq_getElem below]

/-- Insertion extends the accounting by one arrival. -/
theorem Tracks.tryInsert {arrivals released : List ν} {buffer : ReorderBuffer ν}
    (tracks : Tracks sequence arrivals released buffer) (value : ν) :
    Tracks sequence (arrivals ++ [value]) released
      { buffer with held := buffer.held.tryInsert (sequence value) value } where
  expected_eq := tracks.expected_eq
  released_eq number below := by
    rw [firstArrival_append, tracks.released_eq number below, List.getElem?_eq_getElem below,
      Option.some_or]
  held_iff key other above := by
    rw [OrderedMap.mem_tryInsert_iff, tracks.held_iff _ above, firstArrival_append,
      firstArrival_singleton]
    cases found : firstArrival sequence arrivals key.toNat with
    | some earlier =>
        have present := (tracks.held_iff _ above).mpr found
        constructor
        · rintro (equality | ⟨equality, absent⟩)
          · rw [equality, Option.some_or]
          · obtain ⟨rfl, -⟩ := Prod.ext_iff.mp equality
            exact absurd present (absent earlier)
        · intro equality
          exact Or.inl (by simpa using equality)
    | none =>
        rw [Option.none_or]
        constructor
        · rintro (equality | ⟨equality, -⟩)
          · contradiction
          · obtain ⟨key_eq, value_eq⟩ := Prod.mk.inj equality
            rw [key_eq, value_eq, if_pos rfl]
        · intro equality
          split at equality
          · rename_i number_eq
            obtain rfl := Option.some.inj equality
            obtain rfl := UInt32.toNat_inj.mp number_eq
            refine Or.inr ⟨rfl, fun present member => ?_⟩
            rw [(tracks.held_iff _ above).mp member] at found
            contradiction
          · contradiction

/-- A drain keeps the accounting, as long as the expected number does not wrap. -/
theorem Tracks.drain {arrivals released : List ν} {buffer : ReorderBuffer ν}
    (tracks : Tracks sequence arrivals released buffer)
    (bounded : (released ++ (drain buffer).1).length < 2 ^ 32) :
    Tracks sequence arrivals (released ++ (drain buffer).1) (drain buffer).2 := by
  obtain ⟨run, values_eq, split, expected_eq, numbers, -⟩ := drain_spec buffer
  have size : (released ++ (ReorderBuffer.drain buffer).1).length =
      released.length + run.length := by
    rw [values_eq, List.length_append, List.length_map]
  have run_number : ∀ (index : ℕ) (inside : index < run.length),
      run[index].1.toNat = released.length + index := by
    intro index inside
    have entry := congrArg (fun numbers => numbers[index]?) numbers
    simpa [inside, tracks.expected_eq] using entry
  refine ⟨?_, ?_, ?_⟩
  · rw [size] at bounded
    rw [expected_eq, UInt32.toNat_add, UInt32.toNat_ofNat', tracks.expected_eq, size]
    omega
  · intro number below
    rw [size] at below
    by_cases old : number < released.length
    · rw [tracks.released_eq number old, List.getElem?_append_left old]
    · obtain ⟨index, rfl⟩ := Nat.exists_eq_add_of_le (Nat.le_of_not_lt old)
      have inside : index < run.length := Nat.lt_of_add_lt_add_left below
      have member : run[index] ∈ buffer.held.entries := by
        rw [split]
        exact List.mem_append_left _ (List.getElem_mem inside)
      have above : released.length ≤ run[index].1.toNat := by
        rw [run_number index inside]
        exact Nat.le_add_right _ _
      rw [← run_number index inside, (tracks.held_iff _ above).mp member, run_number index inside,
        List.getElem?_append_right (Nat.le_add_right _ _), values_eq]
      simp [inside]
  · intro key value above
    rw [size] at above
    rw [← tracks.held_iff key (Nat.le_of_add_right_le above), split, List.mem_append]
    refine ⟨Or.inr, fun member => member.resolve_left fun in_run => ?_⟩
    obtain ⟨index, inside, entry_eq⟩ := List.getElem_of_mem in_run
    have number := run_number index inside
    rw [entry_eq] at number
    simp only at number
    omega

/-- The accounting survives one arrival. -/
theorem Tracks.accept {arrivals released : List ν} {buffer : ReorderBuffer ν}
    (tracks : Tracks sequence arrivals released buffer) (value : ν)
    (bounded : (released ++ (buffer.accept (sequence value) value).1).length < 2 ^ 32) :
    Tracks sequence (arrivals ++ [value]) (released ++ (buffer.accept (sequence value) value).1)
      (buffer.accept (sequence value) value).2 :=
  (tracks.tryInsert value).drain bounded

theorem receive_concat (buffer : ReorderBuffer ν) (front : List ν) (value : ν) :
    receive sequence buffer (front ++ [value]) =
      ((receive sequence buffer front).1 ++
          ((receive sequence buffer front).2.accept (sequence value) value).1,
        ((receive sequence buffer front).2.accept (sequence value) value).2) := by
  simp [receive_append, receive]

/-- The accounting holds after every sequence of arrivals. -/
theorem tracks_receive (arrivals : List ν)
    (bounded : (receive sequence initial arrivals).1.length < 2 ^ 32) :
    Tracks sequence arrivals (receive sequence initial arrivals).1
      (receive sequence initial arrivals).2 := by
  induction arrivals using List.reverseRecOn with
  | nil => exact tracks_initial
  | append_singleton front value induction =>
      rw [receive_concat] at bounded ⊢
      have earlier : (receive sequence initial front).1.length < 2 ^ 32 := by
        rw [List.length_append] at bounded
        exact Nat.lt_of_le_of_lt (Nat.le_add_right _ _) bounded
      exact (induction earlier).accept value bounded

/-! ## Progress and stalls -/

/-- Every held number lies above the expected one. -/
def Settled (buffer : ReorderBuffer ν) : Prop :=
  ∀ entry ∈ buffer.held.entries, buffer.expected.toNat < entry.1.toNat

/-- A drain that starts without stale entries passes every number that is present. -/
theorem drain_above {buffer : ReorderBuffer ν}
    (fresh : ∀ entry ∈ buffer.held.entries, buffer.expected.toNat ≤ entry.1.toNat) :
    ∀ entry ∈ (drain buffer).2.held.entries,
      buffer.expected.toNat + (drain buffer).1.length < entry.1.toNat := by
  obtain ⟨run, values_eq, split, expected_eq, numbers, stops⟩ := drain_spec buffer
  rw [values_eq, List.length_map]
  have ordered := split ▸ buffer.held.ordered
  obtain ⟨-, rest_ordered, run_lt⟩ := List.pairwise_append.mp ordered
  have reached : ∀ entry ∈ (drain buffer).2.held.entries,
      buffer.expected.toNat + run.length ≤ entry.1.toNat := by
    intro entry member
    by_contra below
    have above := fresh entry (split ▸ List.mem_append_right run member)
    have inside : entry.1.toNat - buffer.expected.toNat < run.length := by omega
    have number := congrArg (fun numbers => numbers[entry.1.toNat - buffer.expected.toNat]?) numbers
    have earlier := UInt32.lt_iff_toNat_lt.mp (run_lt _ (List.getElem_mem inside) entry member)
    simp only [List.getElem?_map, List.getElem?_eq_getElem inside, Option.map_some,
      List.getElem?_range' inside, Option.some.injEq] at number
    omega
  intro entry member
  refine lt_of_le_of_ne (reached entry member) fun equality => ?_
  cases rest_eq : (drain buffer).2.held.entries with
  | nil => simp [rest_eq] at member
  | cons head rest =>
      have head_ne : head.1 ≠ (drain buffer).2.expected := stops head (by simp [rest_eq])
      have head_le := reached head (by simp [rest_eq])
      have head_lt := head.1.toNat_lt
      have entry_lt := entry.1.toNat_lt
      have final : (drain buffer).2.expected.toNat = buffer.expected.toNat + run.length := by
        rw [expected_eq, UInt32.toNat_add, UInt32.toNat_ofNat']
        omega
      rw [rest_eq] at member rest_ordered
      rcases List.mem_cons.mp member with rfl | later
      · exact head_ne (UInt32.toNat_inj.mp (equality.symm.trans final.symm))
      · have less := UInt32.lt_iff_toNat_lt.mp ((List.pairwise_cons.mp rest_ordered).1 entry later)
        omega

theorem drain_settled {buffer : ReorderBuffer ν}
    (fresh : ∀ entry ∈ buffer.held.entries, buffer.expected.toNat ≤ entry.1.toNat)
    (bounded : buffer.expected.toNat + (drain buffer).1.length < 2 ^ 32) :
    (drain buffer).2.Settled := by
  obtain ⟨run, values_eq, -, expected_eq, -⟩ := drain_spec buffer
  have above := drain_above fresh
  rw [values_eq, List.length_map] at bounded above
  intro entry member
  rw [expected_eq, UInt32.toNat_add, UInt32.toNat_ofNat']
  have number_lt := above entry member
  omega
/-- In a settled buffer the expected number is the least one that has not arrived. -/
theorem Tracks.isLeast_missing {arrivals released : List ν} {buffer : ReorderBuffer ν}
    (tracks : Tracks sequence arrivals released buffer) (settled : buffer.Settled) :
    IsLeast {number | ¬ Arrived sequence arrivals number} released.length := by
  constructor
  · intro arrived
    rw [← tracks.expected_eq] at arrived
    obtain ⟨value, found⟩ := arrived_iff_firstArrival.mp arrived
    have member := (tracks.held_iff buffer.expected tracks.expected_eq.ge).mpr found
    exact absurd (settled _ member) (lt_irrefl _)
  · intro number missing
    by_contra below
    exact missing (tracks.arrived_of_lt (Nat.lt_of_not_le below))

/-- In a settled buffer without repeated numbers, the values above the expected number are held. -/
theorem Tracks.held_iff_arrived {arrivals released : List ν} {buffer : ReorderBuffer ν}
    (tracks : Tracks sequence arrivals released buffer) (settled : buffer.Settled)
    (distinct : (arrivals.map sequence).Nodup) (value : ν) :
    (∃ key, (key, value) ∈ buffer.held.entries) ↔
      value ∈ arrivals ∧ buffer.expected.toNat < (sequence value).toNat := by
  constructor
  · rintro ⟨key, member⟩
    have above := settled _ member
    have found := (tracks.held_iff key (tracks.expected_eq ▸ above.le)).mp member
    have number_eq : (sequence value).toNat = key.toNat := by simpa using List.find?_some found
    exact ⟨List.mem_of_find?_eq_some found, number_eq ▸ above⟩
  · rintro ⟨member, above⟩
    obtain ⟨first, found⟩ := arrived_iff_firstArrival.mp ⟨value, member, rfl⟩
    have number_eq : (sequence first).toNat = (sequence value).toNat := by
      simpa using List.find?_some found
    have first_eq : first = value := List.inj_on_of_nodup_map distinct
      (List.mem_of_find?_eq_some found) member (UInt32.toNat_inj.mp number_eq)
    rw [first_eq] at found
    exact ⟨sequence value, (tracks.held_iff _ (tracks.expected_eq ▸ above.le)).mpr found⟩

/-- An arrival at or above the expected number keeps a buffer settled. -/
theorem Settled.accept {buffer : ReorderBuffer ν} (settled : buffer.Settled) {value : ν}
    (above : buffer.expected.toNat ≤ (sequence value).toNat)
    (bounded : buffer.expected.toNat +
      (buffer.accept (sequence value) value).1.length < 2 ^ 32) :
    (buffer.accept (sequence value) value).2.Settled := by
  refine drain_settled ?_ bounded
  intro entry member
  rcases buffer.held.mem_tryInsert_iff.mp member with old | ⟨rfl, -⟩
  · exact (settled entry old).le
  · exact above

/-- If the number that is missing does not arrive, nothing is released. -/
theorem Tracks.accept_of_missing {arrivals released : List ν} {buffer : ReorderBuffer ν}
    (tracks : Tracks sequence arrivals released buffer) {value : ν}
    (missing : ¬ Arrived sequence arrivals released.length)
    (other : (sequence value).toNat ≠ released.length) :
    (buffer.accept (sequence value) value).1 = [] := by
  obtain ⟨run, values_eq, split, -, numbers, -⟩ :=
    drain_spec { buffer with held := buffer.held.tryInsert (sequence value) value }
  rw [ReorderBuffer.accept, values_eq]
  cases run with
  | nil => rfl
  | cons entry run =>
      have number : entry.1.toNat = released.length := by
        have heads := congrArg List.head? numbers
        simpa [tracks.expected_eq, List.head?_range'] using heads
      have member : entry ∈ (buffer.held.tryInsert (sequence value) value).entries := by
        rw [split]
        exact List.mem_cons_self
      rcases buffer.held.mem_tryInsert_iff.mp member with old | ⟨rfl, -⟩
      · have found := (tracks.held_iff entry.1 number.ge).mp old
        rw [number] at found
        exact absurd (arrived_iff_firstArrival.mpr ⟨_, found⟩) missing
      · exact absurd number other

/-- Without repeated numbers a buffer is always settled. -/
theorem settled_of_nodup (arrivals : List ν) (distinct : (arrivals.map sequence).Nodup)
    (bounded : (receive sequence initial arrivals).1.length < 2 ^ 32) :
    (receive sequence initial arrivals).2.Settled := by
  induction arrivals using List.reverseRecOn with
  | nil => exact fun _ member => absurd member List.not_mem_nil
  | append_singleton front value induction =>
      rw [receive_concat] at bounded ⊢
      rw [List.map_append, List.nodup_append] at distinct
      obtain ⟨front_distinct, -, separate⟩ := distinct
      rw [List.length_append] at bounded
      have earlier : (receive sequence initial front).1.length < 2 ^ 32 := by omega
      have tracks := tracks_receive front earlier
      rw [← tracks.expected_eq] at bounded
      refine (induction front_distinct earlier).accept ?_ bounded
      rw [tracks.expected_eq]
      by_contra below
      obtain ⟨other, member, number_eq⟩ := tracks.arrived_of_lt (Nat.lt_of_not_le below)
      exact separate _ (List.mem_map_of_mem member) _ (by simp) (UInt32.toNat_inj.mp number_eq)

/-- A copy of a value arrives after its number and all smaller ones have arrived. -/
def LateCopy (sequence : ν → UInt32) (arrivals : List ν) : Prop :=
  ∃ early copy late, arrivals = early ++ copy :: late ∧
    ∀ number ≤ (sequence copy).toNat, Arrived sequence early number

theorem LateCopy.append {front : List ν} (late : LateCopy sequence front) (back : List ν) :
    LateCopy sequence (front ++ back) := by
  obtain ⟨early, copy, rest, rfl, arrived⟩ := late
  exact ⟨early, copy, rest ++ back, by simp, arrived⟩

/-- After every prefix of the arrivals the expected number is the least missing one. -/
def NeverStalls (sequence : ν → UInt32) (arrivals : List ν) : Prop :=
  ∀ front, front <+: arrivals →
    IsLeast {number | ¬ Arrived sequence front number}
      (receive sequence initial front).2.expected.toNat

theorem length_receive_le_of_front {front arrivals : List ν} (front_le : front <+: arrivals) :
    (receive sequence initial front).1.length ≤ (receive sequence initial arrivals).1.length := by
  obtain ⟨back, rfl⟩ := front_le
  rw [receive_append, List.length_append]
  exact Nat.le_add_right _ _

/-- A late copy stalls a buffer whose expected number was the least missing one. -/
theorem stalled_of_lateCopy {front : List ν} (never : NeverStalls sequence front)
    (late : LateCopy sequence front) : (receive sequence initial front).2.Stalled := by
  obtain ⟨early, copy, rest, rfl, arrived⟩ := late
  have least := never early (List.prefix_append _ _)
  have below : (sequence copy).toNat < (receive sequence initial early).2.expected.toNat := by
    by_contra above
    exact least.1 (arrived _ (Nat.le_of_not_lt above))
  rw [show early ++ copy :: rest = early ++ [copy] ++ rest by simp, receive_append, receive_concat]
  exact receive_of_stalled sequence (accept_of_lt (UInt32.lt_iff_toNat_lt.mpr below) copy) rest

/-- The expected number is the least missing one, and only a late copy can have left an entry
below it. -/
def KeepsUp (sequence : ν → UInt32) (arrivals : List ν) (buffer : ReorderBuffer ν) : Prop :=
  IsLeast {number | ¬ Arrived sequence arrivals number} buffer.expected.toNat ∧
    (¬ LateCopy sequence arrivals → buffer.Settled)

theorem keepsUp_initial : KeepsUp sequence [] (initial : ReorderBuffer ν) := by
  refine ⟨⟨?_, fun _ _ => Nat.zero_le _⟩, fun _ _ member => absurd member List.not_mem_nil⟩
  rintro ⟨value, member, -⟩
  contradiction

/-- When the missing number arrives at a settled buffer, everything that is ready is released. -/
theorem Tracks.keepsUp_of_ready {arrivals released : List ν} {buffer : ReorderBuffer ν}
    (tracks : Tracks sequence arrivals released buffer) (settled : buffer.Settled) {value : ν}
    (ready : released.length ≤ (sequence value).toNat)
    (bounded : (released ++ (buffer.accept (sequence value) value).1).length < 2 ^ 32) :
    KeepsUp sequence (arrivals ++ [value]) (buffer.accept (sequence value) value).2 := by
  have after := tracks.accept value bounded
  rw [List.length_append, ← tracks.expected_eq] at bounded
  rw [← tracks.expected_eq] at ready
  have after_settled := settled.accept ready bounded
  refine ⟨?_, fun _ => after_settled⟩
  rw [after.expected_eq]
  exact after.isLeast_missing after_settled

/-- When another number arrives, nothing is released and the same number stays missing. -/
theorem Tracks.keepsUp_of_waiting {arrivals released : List ν} {buffer : ReorderBuffer ν}
    (tracks : Tracks sequence arrivals released buffer)
    (keepsUp : KeepsUp sequence arrivals buffer) {value : ν}
    (waiting : (sequence value).toNat ≠ released.length)
    (bounded : (released ++ (buffer.accept (sequence value) value).1).length < 2 ^ 32) :
    KeepsUp sequence (arrivals ++ [value]) (buffer.accept (sequence value) value).2 := by
  obtain ⟨least, settled⟩ := keepsUp
  rw [tracks.expected_eq] at least
  have nothing := tracks.accept_of_missing least.1 waiting
  have expected_eq := (tracks.accept value bounded).expected_eq
  rw [nothing, List.append_nil] at expected_eq
  refine ⟨?_, fun no_late => (settled fun late => no_late (late.append [value])).accept ?_ ?_⟩
  · rw [expected_eq]
    constructor
    · intro arrived
      rcases arrived_append.mp arrived with old | ⟨other, member, number_eq⟩
      · exact least.1 old
      · rw [List.mem_singleton.mp member] at number_eq
        exact waiting number_eq
    · intro number missing
      exact least.2 fun old => missing (arrived_append.mpr (Or.inl old))
  · rw [tracks.expected_eq]
    by_contra below
    refine no_late ⟨arrivals, value, [], rfl, fun number number_le => ?_⟩
    exact tracks.arrived_of_lt (number_le.trans_lt (Nat.lt_of_not_le below))
  · rw [tracks.expected_eq, nothing]
    simpa [nothing] using bounded

theorem keepsUp_receive (arrivals : List ν)
    (condition : ∀ front value, front ++ [value] <+: arrivals →
      IsLeast {number | ¬ Arrived sequence front number} (sequence value).toNat →
      ¬ LateCopy sequence front)
    (bounded : (receive sequence initial arrivals).1.length < 2 ^ 32) :
    KeepsUp sequence arrivals (receive sequence initial arrivals).2 := by
  induction arrivals using List.reverseRecOn with
  | nil => exact keepsUp_initial
  | append_singleton front value induction =>
      have front_le := List.prefix_append front [value]
      have earlier := (length_receive_le_of_front front_le).trans_lt bounded
      have keepsUp := induction
        (fun first other first_le => condition first other (first_le.trans front_le)) earlier
      have tracks := tracks_receive front earlier
      rw [receive_concat] at bounded ⊢
      by_cases ready : (sequence value).toNat = (receive sequence initial front).1.length
      · have least := keepsUp.1
        rw [tracks.expected_eq, ← ready] at least
        have settled := keepsUp.2 (condition front value List.prefix_rfl least)
        exact tracks.keepsUp_of_ready settled ready.ge bounded
      · exact tracks.keepsUp_of_waiting keepsUp ready bounded

/-- A buffer keeps up with its arrivals exactly when, once a late copy has arrived, the number
that is then missing never arrives. -/
theorem neverStalls_iff (arrivals : List ν)
    (bounded : (receive sequence initial arrivals).1.length < 2 ^ 32) :
    NeverStalls sequence arrivals ↔
      ∀ front value, front ++ [value] <+: arrivals →
        IsLeast {number | ¬ Arrived sequence front number} (sequence value).toNat →
        ¬ LateCopy sequence front := by
  constructor
  · intro never front value front_le missing late
    have front_never : NeverStalls sequence front := fun earlier earlier_le =>
      never earlier (earlier_le.trans ((List.prefix_append _ _).trans front_le))
    have stuck := accept_of_stalled (stalled_of_lateCopy front_never late) (sequence value) value
    have least := never (front ++ [value]) front_le
    have before := front_never front List.prefix_rfl
    rw [receive_concat, stuck.2.1, before.unique missing] at least
    exact least.1 ⟨value, by simp, rfl⟩
  · intro condition front front_le
    have front_bounded := (length_receive_le_of_front front_le).trans_lt bounded
    exact (keepsUp_receive front
      (fun first value first_le => condition first value (first_le.trans front_le))
      front_bounded).1

end Arrivals

end ReorderBuffer
