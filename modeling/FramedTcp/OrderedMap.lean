import Mathlib.Data.List.Pairwise
import Mathlib.Order.Basic
import Mathlib.Tactic

/-!
# Sorted maps

A finite map kept as its entries in strictly increasing key order, as an iteration over a balanced
tree visits them.  Insertion keeps an entry that is already present.
-/

/-- A finite map with its entries in strictly increasing key order. -/
structure OrderedMap (κ ν : Type*) [LinearOrder κ] where
  /-- Entries in iteration order. -/
  entries : List (κ × ν)
  /-- Keys strictly increase. -/
  ordered : entries.Pairwise fun left right => left.1 < right.1

namespace OrderedMap

variable {κ ν : Type*} [LinearOrder κ]

/-- The map without entries. -/
def empty : OrderedMap κ ν := ⟨[], List.Pairwise.nil⟩

instance : EmptyCollection (OrderedMap κ ν) := ⟨empty⟩

@[simp]
theorem entries_empty : (∅ : OrderedMap κ ν).entries = [] := rfl

/-- Insert an entry at its place unless its key is already present. -/
def insertEntry (key : κ) (value : ν) : List (κ × ν) → List (κ × ν)
  | [] => [(key, value)]
  | entry :: rest =>
      if key < entry.1 then
        (key, value) :: entry :: rest
      else if key = entry.1 then
        entry :: rest
      else
        entry :: insertEntry key value rest

theorem mem_insertEntry_of_mem {key : κ} {value : ν} {entries : List (κ × ν)} {entry : κ × ν}
    (member : entry ∈ entries) : entry ∈ insertEntry key value entries := by
  induction entries with
  | nil => contradiction
  | cons head rest induction =>
      rw [insertEntry]
      split
      · exact List.mem_cons_of_mem _ member
      · split
        · exact member
        · rcases List.mem_cons.mp member with rfl | later
          · exact List.mem_cons_self
          · exact List.mem_cons_of_mem _ (induction later)

theorem mem_or_eq_of_mem_insertEntry {key : κ} {value : ν} {entries : List (κ × ν)}
    {entry : κ × ν} (member : entry ∈ insertEntry key value entries) :
    entry ∈ entries ∨ entry = (key, value) := by
  induction entries with
  | nil => exact Or.inr (List.mem_singleton.mp member)
  | cons head rest induction =>
      rw [insertEntry] at member
      split at member
      · rcases List.mem_cons.mp member with rfl | later
        · exact Or.inr rfl
        · exact Or.inl later
      · split at member
        · exact Or.inl member
        · rcases List.mem_cons.mp member with rfl | later
          · exact Or.inl List.mem_cons_self
          · exact (induction later).imp_left (List.mem_cons_of_mem head)

theorem ordered_insertEntry (key : κ) (value : ν) {entries : List (κ × ν)}
    (ordered : entries.Pairwise fun left right => left.1 < right.1) :
    (insertEntry key value entries).Pairwise fun left right => left.1 < right.1 := by
  induction entries with
  | nil => exact List.pairwise_singleton _ _
  | cons head rest induction =>
      obtain ⟨head_lt, rest_ordered⟩ := List.pairwise_cons.mp ordered
      rw [insertEntry]
      split
      · rename_i key_lt
        refine List.pairwise_cons.mpr ⟨?_, ordered⟩
        intro entry member
        rcases List.mem_cons.mp member with rfl | later
        · exact key_lt
        · exact key_lt.trans (head_lt entry later)
      · split
        · exact ordered
        · rename_i not_lt not_eq
          have head_lt_key : head.1 < key := lt_of_le_of_ne (le_of_not_gt not_lt) (Ne.symm not_eq)
          refine List.pairwise_cons.mpr ⟨?_, induction rest_ordered⟩
          intro entry member
          rcases mem_or_eq_of_mem_insertEntry member with later | rfl
          · exact head_lt entry later
          · exact head_lt_key

theorem length_insertEntry_le (key : κ) (value : ν) (entries : List (κ × ν)) :
    (insertEntry key value entries).length ≤ entries.length + 1 := by
  induction entries with
  | nil => exact le_rfl
  | cons head rest induction =>
      rw [insertEntry]
      split
      · exact le_rfl
      · split
        · exact Nat.le_succ _
        · exact Nat.succ_le_succ induction

/-- Insert an entry; an entry already present under the key stays. -/
def tryInsert (map : OrderedMap κ ν) (key : κ) (value : ν) : OrderedMap κ ν :=
  ⟨insertEntry key value map.entries, ordered_insertEntry key value map.ordered⟩

/-- A map holds at most one value for a key. -/
theorem value_unique (map : OrderedMap κ ν) {key : κ} {left right : ν}
    (left_mem : (key, left) ∈ map.entries) (right_mem : (key, right) ∈ map.entries) :
    left = right := by
  obtain ⟨entries, ordered⟩ := map
  induction entries with
  | nil => contradiction
  | cons head rest induction =>
      obtain ⟨head_lt, rest_ordered⟩ := List.pairwise_cons.mp ordered
      rcases List.mem_cons.mp left_mem with left_head | left_later
      · rcases List.mem_cons.mp right_mem with right_head | right_later
        · exact (Prod.ext_iff.mp (left_head.trans right_head.symm)).2
        · exact absurd (head_lt _ right_later) (left_head ▸ lt_irrefl _)
      · rcases List.mem_cons.mp right_mem with right_head | right_later
        · exact absurd (head_lt _ left_later) (right_head ▸ lt_irrefl _)
        · exact induction rest_ordered left_later right_later

/-- Some value is present under the inserted key afterwards. -/
theorem exists_mem_tryInsert (map : OrderedMap κ ν) (key : κ) (value : ν) :
    ∃ present, (key, present) ∈ (map.tryInsert key value).entries := by
  obtain ⟨entries, ordered⟩ := map
  simp only [tryInsert]
  clear ordered
  induction entries with
  | nil => exact ⟨value, List.mem_cons_self⟩
  | cons head rest induction =>
      rw [insertEntry]
      split
      · exact ⟨value, List.mem_cons_self⟩
      · split
        · rename_i key_eq
          exact ⟨head.2, key_eq ▸ List.mem_cons_self⟩
        · obtain ⟨present, member⟩ := induction
          exact ⟨present, List.mem_cons_of_mem _ member⟩

/-- The entries after an insertion. -/
theorem mem_tryInsert_iff (map : OrderedMap κ ν) {key : κ} {value : ν} {entry : κ × ν} :
    entry ∈ (map.tryInsert key value).entries ↔
      entry ∈ map.entries ∨ entry = (key, value) ∧ ∀ present, (key, present) ∉ map.entries := by
  constructor
  · intro member
    rcases mem_or_eq_of_mem_insertEntry member with old | rfl
    · exact Or.inl old
    · by_cases absent : ∀ present, (key, present) ∉ map.entries
      · exact Or.inr ⟨rfl, absent⟩
      · obtain ⟨present, present_mem⟩ := not_forall_not.mp absent
        have kept : (key, present) ∈ (map.tryInsert key value).entries :=
          mem_insertEntry_of_mem present_mem
        exact Or.inl ((map.tryInsert key value).value_unique member kept ▸ present_mem)
  · rintro (old | ⟨rfl, absent⟩)
    · exact mem_insertEntry_of_mem old
    · obtain ⟨present, member⟩ := map.exists_mem_tryInsert key value
      rcases mem_or_eq_of_mem_insertEntry member with old | equality
      · exact absurd old (absent present)
      · exact equality ▸ member

theorem perm_insertEntry {key : κ} (value : ν) {entries : List (κ × ν)}
    (absent : ∀ entry ∈ entries, entry.1 ≠ key) :
    (insertEntry key value entries).Perm ((key, value) :: entries) := by
  induction entries with
  | nil => exact List.Perm.refl _
  | cons head rest induction =>
      obtain ⟨head_ne, rest_absent⟩ := List.forall_mem_cons.mp absent
      rw [insertEntry]
      split
      · exact List.Perm.refl _
      · rw [if_neg head_ne.symm]
        exact ((induction rest_absent).cons head).trans (List.Perm.swap _ _ _)

/-- Insertion under a new key adds one entry. -/
theorem perm_tryInsert (map : OrderedMap κ ν) {key : κ} (value : ν)
    (absent : ∀ entry ∈ map.entries, entry.1 ≠ key) :
    (map.tryInsert key value).entries.Perm ((key, value) :: map.entries) :=
  perm_insertEntry value absent

/-! ## Lookup and removal -/

/-- The value under a key. -/
def lookup (map : OrderedMap κ ν) (key : κ) : Option ν :=
  (map.entries.find? fun entry => entry.1 = key).map Prod.snd

/-- Remove the entry under a key. -/
def erase (map : OrderedMap κ ν) (key : κ) : OrderedMap κ ν :=
  ⟨map.entries.filter fun entry => entry.1 ≠ key, map.ordered.filter _⟩

@[simp]
theorem lookup_empty (key : κ) : (∅ : OrderedMap κ ν).lookup key = none := rfl

theorem lookup_eq_some_iff (map : OrderedMap κ ν) {key : κ} {value : ν} :
    map.lookup key = some value ↔ (key, value) ∈ map.entries := by
  rw [lookup, Option.map_eq_some_iff]
  constructor
  · rintro ⟨entry, found, rfl⟩
    have key_eq : entry.1 = key := by simpa using List.find?_some found
    exact key_eq ▸ List.mem_of_find?_eq_some found
  · intro member
    cases found : map.entries.find? fun entry => entry.1 = key with
    | none => simpa using List.find?_eq_none.mp found _ member
    | some entry =>
        have key_eq : entry.1 = key := by simpa using List.find?_some found
        have entry_mem : (key, entry.2) ∈ map.entries :=
          key_eq ▸ List.mem_of_find?_eq_some found
        exact ⟨entry, rfl, map.value_unique entry_mem member⟩

theorem lookup_eq_none_iff (map : OrderedMap κ ν) {key : κ} :
    map.lookup key = none ↔ ∀ value, (key, value) ∉ map.entries := by
  rw [Option.eq_none_iff_forall_ne_some]
  exact forall_congr' fun value => not_congr map.lookup_eq_some_iff

theorem lookup_erase (map : OrderedMap κ ν) (key other : κ) :
    (map.erase key).lookup other = if other = key then none else map.lookup other := by
  apply Option.ext
  intro value
  rw [lookup_eq_some_iff, erase, List.mem_filter]
  split
  · simp [*]
  · rw [lookup_eq_some_iff]
    simp [*]

theorem erase_of_lookup_eq_none (map : OrderedMap κ ν) {key : κ}
    (absent : map.lookup key = none) : map.erase key = map := by
  obtain ⟨entries, ordered⟩ := map
  simp only [erase, mk.injEq, List.filter_eq_self, decide_eq_true_eq]
  rintro ⟨other, value⟩ member rfl
  exact (lookup_eq_none_iff _).mp absent value member

/-- After an insertion under a new key. -/
theorem lookup_tryInsert (map : OrderedMap κ ν) {key : κ} (absent : map.lookup key = none)
    (value : ν) (other : κ) :
    (map.tryInsert key value).lookup other =
      if other = key then some value else map.lookup other := by
  apply Option.ext
  intro found
  rw [lookup_eq_some_iff, mem_tryInsert_iff]
  split
  · rename_i equality
    subst equality
    have none_present := map.lookup_eq_none_iff.mp absent
    simp [none_present, eq_comm]
  · rename_i different
    rw [lookup_eq_some_iff]
    simp [different]

/-- Put a value under a key; a value already present is replaced. -/
def insert (map : OrderedMap κ ν) (key : κ) (value : ν) : OrderedMap κ ν :=
  (map.erase key).tryInsert key value

theorem lookup_insert (map : OrderedMap κ ν) (key : κ) (value : ν) (other : κ) :
    (map.insert key value).lookup other = if other = key then some value else map.lookup other := by
  have absent : (map.erase key).lookup key = none := by rw [lookup_erase, if_pos rfl]
  rw [insert, lookup_tryInsert _ absent, lookup_erase]
  split <;> rfl

end OrderedMap
