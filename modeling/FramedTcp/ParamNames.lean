import FramedTcp.TrimmedFields
import Mathlib.Tactic

/-!
# Splitting parameter names

`rpc::detail::split` reads the fields of a string with `std::getline` and erases the blanks at
their ends.  The positions are `size_t` values, of which the largest, `npos`, stands for "not
found".
-/

namespace FramedTcp.Rpc

open TrimmedFields

/-- The largest `size_t`. -/
def npos : ℕ := 2 ^ 64 - 1

/-- A string, whose positions are all below `npos`. -/
def StdString := { characters : List Char // characters.length < npos }

/-- The exception of `erase` for a position past the end. -/
structure OutOfRange where
  /-- The position. -/
  position : ℕ
  /-- The length of the string. -/
  size : ℕ
  deriving DecidableEq

/-- The characters `" \t\n\r\f\v"`. -/
def whitespace : List Char :=
  [' ', Char.ofNat 9, Char.ofNat 10, Char.ofNat 13, Char.ofNat 12, Char.ofNat 11]

/-- Is the character one of `whitespace`? -/
def isBlank (character : Char) : Bool := decide (character ∈ whitespace)

/-- `find_first_not_of(whitespace)`. -/
def findFirstNotOf (token : List Char) : ℕ :=
  (token.findIdx? fun character => !isBlank character).getD npos

/-- `find_last_not_of(whitespace)`. -/
def findLastNotOf (token : List Char) : ℕ :=
  match token.reverse.findIdx? fun character => !isBlank character with
  | some index => token.length - 1 - index
  | none => npos

/-- `erase(position, count)`. -/
def erase (token : List Char) (position count : ℕ) : Except OutOfRange (List Char) :=
  if position ≤ token.length then
    .ok (token.take position ++
      token.drop (position + min count (token.length - position)))
  else
    .error ⟨position, token.length⟩

/-- A string stream. -/
structure StringStream where
  /-- What has not been read. -/
  rest : List Char
  /-- Has a read reached the end? -/
  eof : Bool := false

/-- `std::getline`: the characters up to the delimiter, which is read as well, or up to the end. It
fails when the end has been reached before, or when there is nothing to read. -/
def getline (stream : StringStream) (delimiter : Char) : Option (List Char × StringStream) :=
  if stream.eof || stream.rest.isEmpty then
    none
  else
    let unread := stream.rest.dropWhile (· ≠ delimiter)
    some (stream.rest.takeWhile (· ≠ delimiter),
      { rest := unread.tail
        eof := unread.isEmpty })

theorem length_of_getline {stream next : StringStream} {delimiter : Char} {token : List Char}
    (read : getline stream delimiter = some (token, next)) :
    next.rest.length < stream.rest.length := by
  unfold getline at read
  obtain ⟨unfinished, result⟩ := Option.ite_none_left_eq_some.mp read
  obtain ⟨-, rfl⟩ := Prod.mk.inj (Option.some.inj result)
  have unread_le := (List.dropWhile_suffix (l := stream.rest) (· ≠ delimiter)).length_le
  have rest_positive : 0 < stream.rest.length := by
    rw [List.length_pos_iff]
    rintro empty
    simp [empty] at unfinished
  rw [List.length_tail]
  omega

/-- The loop of `split`. -/
def splitLoop (delimiter : Char) (stream : StringStream) (tokens : List (List Char)) :
    Except OutOfRange (List (List Char)) :=
  match _ : getline stream delimiter with
  | none => .ok tokens
  | some (token, next) => do
      let token ← erase token 0 (findFirstNotOf token)
      let token ← erase token ((findLastNotOf token + 1) % 2 ^ 64) npos
      splitLoop delimiter next (if token = [] then tokens else tokens ++ [token])
  termination_by stream.rest.length
  decreasing_by exact length_of_getline (by assumption)

/-- The names between the delimiters. -/
def split (s : StdString) (delimiter : Char) : Except OutOfRange (List (List Char)) :=
  splitLoop delimiter { rest := s.val } []

/-! ## Erasing the blanks -/

theorem erase_leading {token : List Char} (short : token.length < npos) :
    erase token 0 (findFirstNotOf token) = .ok (token.dropWhile isBlank) := by
  have position : min (findFirstNotOf token) token.length =
      token.findIdx fun character => !isBlank character := by
    unfold findFirstNotOf
    cases found : token.findIdx? fun character => !isBlank character with
    | none =>
        rw [List.findIdx_eq_length.mpr (by simpa using found)]
        exact min_eq_right short.le
    | some index =>
        obtain ⟨index_lt, index_eq⟩ := List.findIdx?_eq_some_iff_findIdx_eq.mp found
        rw [index_eq]
        exact min_eq_left index_lt.le
  rw [erase, if_pos (Nat.zero_le _), List.take_zero, List.nil_append, Nat.zero_add, Nat.sub_zero,
    position, List.dropWhile_eq_drop_findIdx_not]

/-- The position after the last character that is not blank; without one, `npos + 1` is zero. -/
theorem findLastNotOf_succ {token : List Char} (short : token.length < npos) :
    (findLastNotOf token + 1) % 2 ^ 64 =
      token.length - token.reverse.findIdx fun character => !isBlank character := by
  unfold findLastNotOf
  unfold npos at *
  split
  · rename_i index found
    obtain ⟨index_lt, index_eq⟩ := List.findIdx?_eq_some_iff_findIdx_eq.mp found
    rw [List.length_reverse] at index_lt
    rw [index_eq]
    omega
  · rename_i found
    rw [List.findIdx_eq_length.mpr (by simpa using found), List.length_reverse]
    omega

theorem erase_trailing {token : List Char} (short : token.length < npos) :
    erase token ((findLastNotOf token + 1) % 2 ^ 64) npos = .ok (token.rdropWhile isBlank) := by
  rw [findLastNotOf_succ short, erase, if_pos (Nat.sub_le _ _)]
  set position := token.length - token.reverse.findIdx fun character => !isBlank character
  have position_le : position ≤ token.length := Nat.sub_le _ _
  have erased : token.drop (position + min npos (token.length - position)) = [] := by
    apply List.drop_eq_nil_of_le
    omega
  rw [erased, List.append_nil, List.rdropWhile, List.dropWhile_eq_drop_findIdx_not,
    ← List.rdrop_eq_reverse_drop_reverse]
  rfl

/-! ## Reading the fields -/

theorem getline_append {field rest : List Char} {delimiter : Char} (uncut : delimiter ∉ field) :
    getline { rest := field ++ delimiter :: rest } delimiter = some (field, { rest }) := by
  have inside : ∀ character ∈ field, decide (character ≠ delimiter) = true :=
    fun character member => decide_eq_true (ne_of_mem_of_not_mem member uncut)
  have taken : (field ++ delimiter :: rest).takeWhile (· ≠ delimiter) = field := by
    rw [List.takeWhile_append_of_pos inside, List.takeWhile_cons_of_neg (by simp),
      List.append_nil]
  have unread : (field ++ delimiter :: rest).dropWhile (· ≠ delimiter) = delimiter :: rest := by
    rw [List.dropWhile_append_of_pos inside, List.dropWhile_cons_of_neg (by simp)]
  simp only [getline, taken, unread]
  simp

theorem getline_last {field : List Char} {delimiter : Char} (uncut : delimiter ∉ field)
    (field_ne : field ≠ []) :
    getline { rest := field } delimiter =
      some (field, { rest := [], eof := true }) := by
  have inside : ∀ character ∈ field, decide (character ≠ delimiter) = true :=
    fun character member => decide_eq_true (ne_of_mem_of_not_mem member uncut)
  have taken : field.takeWhile (· ≠ delimiter) = field := List.takeWhile_eq_self_iff.mpr inside
  have nothing : field.dropWhile (· ≠ delimiter) = [] := List.dropWhile_eq_nil_iff.mpr inside
  simp only [getline, taken, nothing]
  simp [field_ne]

theorem splitLoop_of_getline {stream next : StringStream} {delimiter : Char} {field : List Char}
    (read : getline stream delimiter = some (field, next)) (short : field.length < npos)
    (tokens : List (List Char)) :
    splitLoop delimiter stream tokens = splitLoop delimiter next
      (tokens ++ [trim isBlank field].filter fun field => field ≠ []) := by
  have shorter : (field.dropWhile isBlank).length < npos :=
    ((List.dropWhile_suffix isBlank).length_le).trans_lt short
  rw [splitLoop]
  split
  · rename_i nothing
    rw [read] at nothing
    contradiction
  · rename_i _ _ also_read
    obtain ⟨rfl, rfl⟩ := Prod.mk.inj (Option.some.inj (read.symm.trans also_read))
    simp only [erase_leading short, bind, Except.bind, erase_trailing shorter]
    rw [← trim]
    by_cases empty : trim isBlank field = []
    · simp [empty]
    · simp [empty]

theorem splitLoop_of_end {stream : StringStream} {delimiter : Char}
    (ended : getline stream delimiter = none) (tokens : List (List Char)) :
    splitLoop delimiter stream tokens = .ok tokens := by
  rw [splitLoop]
  split
  · rfl
  · rename_i read
    rw [ended] at read
    contradiction

theorem splitLoop_eq (delimiter : Char) (text : List Char) (short : text.length < npos)
    (tokens : List (List Char)) :
    splitLoop delimiter { rest := text } tokens =
      .ok (tokens ++ trimmedFields isBlank delimiter text) := by
  induction measured : text.length using Nat.strong_induction_on generalizing text tokens with
  | _ length induction =>
      subst measured
      by_cases cut : delimiter ∈ text
      · obtain ⟨field, rest, rfl, uncut⟩ := List.eq_append_cons_of_mem cut
        rw [List.length_append, List.length_cons] at short induction
        rw [splitLoop_of_getline (getline_append uncut) (by omega),
          induction rest.length (by omega) rest (by omega) _ rfl, trimmedFields_append uncut,
          List.append_assoc]
      · rcases eq_or_ne text [] with rfl | text_ne
        · rw [trimmedFields_nil, List.append_nil, splitLoop_of_end rfl]
        · rw [splitLoop_of_getline (getline_last cut text_ne) short, splitLoop_of_end rfl,
            trimmedFields_last cut]

/-- `split` never erases at a position outside a token; it returns the fields of the string without
the blanks around them and without those that are empty then; and it takes names that have been
joined with blanks around them apart again. -/
theorem split_spec (delimiter : Char) (visible : delimiter ∉ whitespace) :
    (∀ s : StdString, split s delimiter = .ok (trimmedFields isBlank delimiter s.val)) ∧
      ∀ (names : List (Padded isBlank delimiter)) (s : StdString),
        s.val = [delimiter].intercalate (names.map Padded.text) →
          split s delimiter = .ok (names.map Padded.name) := by
  have trimmed (s : StdString) : split s delimiter = .ok (trimmedFields isBlank delimiter s.val) :=
    splitLoop_eq delimiter s.val s.property []
  refine ⟨trimmed, ?_⟩
  intro names s joined
  rw [trimmed, joined, trimmedFields_intercalate (by simpa [isBlank] using visible)]

/-- The name `a` without blanks around it. -/
def nameA : Padded isBlank ',' where
  before := []
  name := ['a']
  after := []
  before_blank := by simp
  after_blank := by simp
  name_ne := by decide
  head_visible := by decide
  last_visible := by decide
  uncut := by decide

/-- The name `b` with a blank before it. -/
def nameB : Padded isBlank ',' where
  before := [' ']
  name := ['b']
  after := []
  before_blank := List.forall_mem_singleton.mpr rfl
  after_blank := by simp
  name_ne := by decide
  head_visible := by decide
  last_visible := by decide
  uncut := by decide

/-- The names in `a, b`. -/
theorem split_spec_two :
    split ⟨['a', ',', ' ', 'b'], by decide⟩ ',' = .ok [['a'], ['b']] :=
  (split_spec ',' (by decide)).2 [nameA, nameB] ⟨['a', ',', ' ', 'b'], by decide⟩ rfl

end FramedTcp.Rpc
