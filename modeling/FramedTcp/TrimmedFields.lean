import Mathlib.Data.List.DropRight

/-!
# Trimmed fields

A text is cut into fields at a separator; the blanks around each field are removed, and fields of
which nothing is left are dropped.
-/

namespace TrimmedFields

variable {α : Type*}

/-- A field without the blanks at its ends. -/
def trim (blank : α → Bool) (field : List α) : List α :=
  (field.dropWhile blank).rdropWhile blank

/-- A name that trimming and cutting leave whole, between blanks. -/
structure Padded (blank : α → Bool) (separator : α) where
  /-- Blanks before the name. -/
  before : List α
  /-- The name. -/
  name : List α
  /-- Blanks after the name. -/
  after : List α
  before_blank : ∀ character ∈ before, blank character = true
  after_blank : ∀ character ∈ after, blank character = true
  name_ne : name ≠ []
  head_visible : ¬ blank (name.head name_ne) = true
  last_visible : ¬ blank (name.getLast name_ne) = true
  uncut : separator ∉ name

/-- The name with the blanks around it. -/
def Padded.text {blank : α → Bool} {separator : α} (padded : Padded blank separator) : List α :=
  padded.before ++ (padded.name ++ padded.after)

variable {blank : α → Bool} {separator : α}

/-! ## Trimming -/

theorem rdropWhile_append {field after : List α}
    (after_blank : ∀ character ∈ after, blank character = true) :
    (field ++ after).rdropWhile blank = field.rdropWhile blank := by
  rw [List.rdropWhile, List.reverse_append, List.dropWhile_append_of_pos, List.rdropWhile]
  exact fun character member => after_blank character (List.mem_reverse.mp member)

theorem trim_text (padded : Padded blank separator) : trim blank padded.text = padded.name := by
  have visible : (padded.name ++ padded.after).dropWhile blank = padded.name ++ padded.after := by
    refine List.dropWhile_eq_self_iff.mpr fun _ => ?_
    rw [List.getElem_zero, List.head_append_of_ne_nil padded.name_ne]
    exact padded.head_visible
  rw [trim, Padded.text, List.dropWhile_append_of_pos padded.before_blank, visible,
    rdropWhile_append padded.after_blank, List.rdropWhile_eq_self_iff]
  exact fun _ => padded.last_visible

theorem Padded.separator_not_mem_text (padded : Padded blank separator)
    (visible : ¬ blank separator = true) : separator ∉ padded.text := by
  rw [Padded.text, List.mem_append, List.mem_append]
  rintro (before | name | after)
  · exact visible (padded.before_blank separator before)
  · exact padded.uncut name
  · exact visible (padded.after_blank separator after)

/-! ## Cutting -/

variable [DecidableEq α]

/-- The fields of a text, trimmed, without the empty ones. -/
def trimmedFields (blank : α → Bool) (separator : α) (text : List α) : List (List α) :=
  ((text.splitOn separator).map (trim blank)).filter fun field => field ≠ []

theorem trimmedFields_nil : trimmedFields blank separator [] = [] := by
  simp [trimmedFields, trim]

/-- The field after the last separator. -/
theorem trimmedFields_last {field : List α} (uncut : separator ∉ field) :
    trimmedFields blank separator field = [trim blank field].filter fun field => field ≠ [] := by
  rw [trimmedFields, List.splitOn_eq_singleton uncut, List.map_singleton]

/-- A field and the separator that ends it. -/
theorem trimmedFields_append {field rest : List α} (uncut : separator ∉ field) :
    trimmedFields blank separator (field ++ separator :: rest) =
      ([trim blank field].filter fun field => field ≠ []) ++
        trimmedFields blank separator rest := by
  rw [trimmedFields, List.splitOn_append_cons_self_of_not_mem uncut, List.map_cons,
    ← List.singleton_append, List.filter_append]
  rfl

/-- Padded names joined by the separator are cut into the names. -/
theorem trimmedFields_intercalate (visible : ¬ blank separator = true)
    (names : List (Padded blank separator)) :
    trimmedFields blank separator ([separator].intercalate (names.map Padded.text)) =
      names.map Padded.name := by
  rcases eq_or_ne names [] with rfl | names_ne
  · exact trimmedFields_nil
  have uncut : ∀ field ∈ names.map Padded.text, separator ∉ field := by
    intro field member
    obtain ⟨padded, -, rfl⟩ := List.mem_map.mp member
    exact padded.separator_not_mem_text visible
  have trimmed : (names.map Padded.text).map (trim blank) = names.map Padded.name := by
    rw [List.map_map]
    exact List.map_congr_left fun padded _ => trim_text padded
  rw [trimmedFields, List.splitOn_intercalate separator uncut (by simpa using names_ne), trimmed,
    List.filter_eq_self]
  intro field member
  obtain ⟨padded, -, rfl⟩ := List.mem_map.mp member
  exact decide_eq_true padded.name_ne

end TrimmedFields
