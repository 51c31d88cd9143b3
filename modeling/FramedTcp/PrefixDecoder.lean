import Mathlib.Data.List.Basic
import Mathlib.Tactic

/-!
# Streaming decoders for self-delimiting messages

A prefix decoder takes one message off the front of a word, or reports that the front is still
incomplete.  This file develops the greedy decoding of a whole word, the receive loop which is fed
the word in arbitrary chunks, and the relation of both to an encoder.
-/

namespace PrefixDecoding

/-- A decoder for one self-delimiting message at the front of a word. -/
structure PrefixDecoder (α β : Type*) where
  /-- The message at the front of a word and its width, once the message is complete. -/
  next : List α → Option (β × ℕ)
  /-- A message is never empty. -/
  width_pos : ∀ {word message width}, next word = some (message, width) → 0 < width
  /-- A message lies inside the word. -/
  width_le : ∀ {word message width}, next word = some (message, width) → width ≤ word.length
  /-- Later input does not change a message that is already complete. -/
  next_append : ∀ {word message width}, next word = some (message, width) →
    ∀ later, next (word ++ later) = some (message, width)

namespace PrefixDecoder

variable {α β γ : Type*} (decoder : PrefixDecoder α β)

@[simp]
theorem next_nil : decoder.next [] = none := by
  cases equality : decoder.next [] with
  | none => rfl
  | some found =>
      have positive : 0 < found.2 := decoder.width_pos equality
      have bounded : found.2 ≤ 0 := decoder.width_le equality
      exact absurd positive (Nat.not_lt.mpr bounded)

theorem length_drop_lt {word : List α} {message : β} {width : ℕ}
    (found : decoder.next word = some (message, width)) :
    (word.drop width).length < word.length := by
  have positive := decoder.width_pos found
  have bounded := decoder.width_le found
  simp only [List.length_drop]
  omega

/-- All complete messages at the front of a word, and the number of symbols they occupy. -/
def decode (word : List α) : List β × ℕ :=
  match _ : decoder.next word with
  | none => ([], 0)
  | some (message, width) =>
      let later := decode (word.drop width)
      (message :: later.1, width + later.2)
termination_by word.length
decreasing_by exact decoder.length_drop_lt (by assumption)

/-- The complete messages at the front of a word. -/
def messages (word : List α) : List β := (decoder.decode word).1

/-- The incomplete rest of a word after its complete messages. -/
def residue (word : List α) : List α := word.drop (decoder.decode word).2

theorem decode_of_none {word : List α} (incomplete : decoder.next word = none) :
    decoder.decode word = ([], 0) := by
  rw [decode]
  split <;> simp_all

theorem decode_of_some {word : List α} {message : β} {width : ℕ}
    (found : decoder.next word = some (message, width)) :
    decoder.decode word =
      (message :: (decoder.decode (word.drop width)).1,
        width + (decoder.decode (word.drop width)).2) := by
  rw [decode]
  split <;> simp_all

@[simp]
theorem messages_of_none {word : List α} (incomplete : decoder.next word = none) :
    decoder.messages word = [] := by
  rw [messages, decoder.decode_of_none incomplete]

@[simp]
theorem residue_of_none {word : List α} (incomplete : decoder.next word = none) :
    decoder.residue word = word := by
  rw [residue, decoder.decode_of_none incomplete, List.drop_zero]

theorem messages_of_some {word : List α} {message : β} {width : ℕ}
    (found : decoder.next word = some (message, width)) :
    decoder.messages word = message :: decoder.messages (word.drop width) := by
  rw [messages, decoder.decode_of_some found, messages]

theorem residue_of_some {word : List α} {message : β} {width : ℕ}
    (found : decoder.next word = some (message, width)) :
    decoder.residue word = decoder.residue (word.drop width) := by
  rw [residue, decoder.decode_of_some found, residue, List.drop_drop]

/-- Induction along the messages at the front of a word. -/
theorem word_induction {motive : List α → Prop}
    (incomplete : ∀ word, decoder.next word = none → motive word)
    (complete : ∀ word message width, decoder.next word = some (message, width) →
      motive (word.drop width) → motive word)
    (word : List α) : motive word := by
  induction size : word.length using Nat.strong_induction_on generalizing word with
  | _ size induction =>
      cases found : decoder.next word with
      | none => exact incomplete word found
      | some pair =>
          obtain ⟨message, width⟩ := pair
          have shorter := size ▸ decoder.length_drop_lt found
          exact complete word message width found (induction _ shorter _ rfl)

theorem decode_width_le (word : List α) : (decoder.decode word).2 ≤ word.length := by
  induction word using decoder.word_induction with
  | incomplete word incomplete => simp [decoder.decode_of_none incomplete]
  | complete word message width found later_le =>
      have bounded := decoder.width_le found
      rw [decoder.decode_of_some found]
      simp only [List.length_drop] at later_le ⊢
      omega

/-- What is left over holds no complete message. -/
@[simp]
theorem next_residue (word : List α) : decoder.next (decoder.residue word) = none := by
  induction word using decoder.word_induction with
  | incomplete word incomplete => rw [decoder.residue_of_none incomplete, incomplete]
  | complete word message width found later => rw [decoder.residue_of_some found, later]

/-- A word yields messages exactly when its front message is complete. -/
theorem decode_width_pos_iff (word : List α) :
    0 < (decoder.decode word).2 ↔ (decoder.next word).isSome := by
  cases found : decoder.next word with
  | none => simp [decoder.decode_of_none found]
  | some pair =>
      obtain ⟨message, width⟩ := pair
      have positive := decoder.width_pos found
      simp only [decoder.decode_of_some found, Option.isSome_some, iff_true]
      omega

theorem messages_eq_nil_iff (word : List α) :
    decoder.messages word = [] ↔ decoder.next word = none := by
  cases found : decoder.next word with
  | none => simp [found]
  | some pair => simp [decoder.messages_of_some found]

theorem decode_width_eq_zero_iff (word : List α) :
    (decoder.decode word).2 = 0 ↔ decoder.messages word = [] := by
  rw [messages_eq_nil_iff, ← Option.not_isSome_iff_eq_none, ← decode_width_pos_iff]
  omega

theorem residue_eq_nil_iff (word : List α) :
    decoder.residue word = [] ↔ (decoder.decode word).2 = word.length := by
  rw [residue, List.drop_eq_nil_iff]
  exact ⟨(decoder.decode_width_le word).antisymm, Eq.ge⟩

/-- If every message is decoded from its own encoding, the decoded front of a word is the encoding
of its messages. -/
theorem take_decode {encode : β → List α}
    (own : ∀ {word message width}, decoder.next word = some (message, width) →
      word.take width = encode message) (word : List α) :
    word.take (decoder.decode word).2 = ((decoder.decode word).1.map encode).flatten := by
  induction word using decoder.word_induction with
  | incomplete word incomplete => simp [decoder.decode_of_none incomplete]
  | complete word message width found later =>
      rw [decoder.decode_of_some found, List.take_add, later, own found]
      rfl

theorem forall_messages {P : β → Prop}
    (holds : ∀ {word message width}, decoder.next word = some (message, width) → P message)
    (word : List α) : ∀ message ∈ decoder.messages word, P message := by
  induction word using decoder.word_induction with
  | incomplete word incomplete => simp [incomplete]
  | complete word message width found later =>
      rw [decoder.messages_of_some found]
      exact List.forall_mem_cons.mpr ⟨holds found, later⟩

/-! ## Decoding a word in pieces -/

/-- Input appended to a word is decoded after the incomplete rest of that word. -/
theorem decode_append (word later : List α) :
    decoder.decode (word ++ later) =
      (decoder.messages word ++ decoder.messages (decoder.residue word ++ later),
        (decoder.decode word).2 + (decoder.decode (decoder.residue word ++ later)).2) := by
  induction word using decoder.word_induction with
  | incomplete word incomplete =>
      rw [decoder.messages_of_none incomplete, decoder.residue_of_none incomplete,
        decoder.decode_of_none incomplete]
      simp [messages]
  | complete word message width found later_eq =>
      have whole := decoder.decode_of_some (decoder.next_append found later)
      have split : (word ++ later).drop width = word.drop width ++ later := by
        rw [List.drop_append_of_le_length (decoder.width_le found)]
      rw [whole, split, later_eq, decoder.messages_of_some found, decoder.residue_of_some found,
        decoder.decode_of_some found]
      simp [Nat.add_assoc]

theorem messages_append (word later : List α) :
    decoder.messages (word ++ later) =
      decoder.messages word ++ decoder.messages (decoder.residue word ++ later) := by
  rw [messages, decoder.decode_append]

theorem residue_append (word later : List α) :
    decoder.residue (word ++ later) = decoder.residue (decoder.residue word ++ later) := by
  have bounded := decoder.decode_width_le word
  rw [residue, decoder.decode_append, residue, ← List.drop_drop,
    List.drop_append_of_le_length bounded, residue]

/-- One round of a receive loop: append a chunk, take the complete messages, keep the rest. -/
def feed (buffer chunk : List α) : List β × List α :=
  (decoder.messages (buffer ++ chunk), decoder.residue (buffer ++ chunk))

/-- A whole run of the receive loop. -/
def feedAll (buffer : List α) : List (List α) → List β × List α
  | [] => ([], buffer)
  | chunk :: chunks =>
      let round := decoder.feed buffer chunk
      let later := feedAll round.2 chunks
      (round.1 ++ later.1, later.2)

/-- However a word is cut into chunks, the receive loop decodes the word itself. -/
theorem feedAll_eq (chunks : List (List α)) (buffer : List α)
    (incomplete : decoder.next buffer = none) :
    decoder.feedAll buffer chunks =
      (decoder.messages (buffer ++ chunks.flatten),
        decoder.residue (buffer ++ chunks.flatten)) := by
  induction chunks generalizing buffer with
  | nil => simp [feedAll, incomplete]
  | cons chunk chunks induction =>
      rw [feedAll]
      simp only [feed, List.flatten_cons]
      rw [induction _ (decoder.next_residue _), ← List.append_assoc,
        decoder.messages_append (buffer ++ chunk), decoder.residue_append (buffer ++ chunk)]

/-! ## Encoders -/

/-- The encoding of `item` is decoded, all of it, as `value item`. -/
def Encodes (encode : γ → List α) (value : γ → β) (item : γ) : Prop :=
  decoder.next (encode item) = some (value item, (encode item).length)

variable {decoder} {encode : γ → List α} {value : γ → β}

theorem Encodes.next_append {item : γ} (encodes : decoder.Encodes encode value item)
    (later : List α) :
    decoder.next (encode item ++ later) = some (value item, (encode item).length) :=
  decoder.next_append encodes later

/-- A proper prefix of an encoding is never taken for a message. -/
theorem Encodes.next_truncated {item : γ} (encodes : decoder.Encodes encode value item)
    {front : List α} (front_le : front <+: encode item) (front_ne : front ≠ encode item) :
    decoder.next front = none := by
  cases found : decoder.next front with
  | none => rfl
  | some pair =>
      obtain ⟨message, width⟩ := pair
      obtain ⟨later, whole⟩ := front_le
      have extended := decoder.next_append found later
      rw [whole, encodes] at extended
      have bounded := decoder.width_le found
      simp only [Option.some.injEq, Prod.mk.injEq] at extended
      have later_nil : later = [] := by
        have lengths := congrArg List.length whole
        simp only [List.length_append] at lengths
        exact List.eq_nil_of_length_eq_zero (by omega)
      subst later_nil
      exact absurd (by simpa using whole) front_ne

/-- Decoding undoes encoding, whatever follows the encoded items. -/
theorem decode_flatten (items : List γ)
    (encodes : ∀ item ∈ items, decoder.Encodes encode value item) (tail : List α) :
    decoder.decode ((items.map encode).flatten ++ tail) =
      (items.map value ++ decoder.messages tail,
        (items.map encode).flatten.length + (decoder.decode tail).2) := by
  induction items with
  | nil => simp [messages]
  | cons item items induction =>
      have head := encodes item List.mem_cons_self
      have later := induction fun other member => encodes other (List.mem_cons_of_mem item member)
      have found := head.next_append ((items.map encode).flatten ++ tail)
      rw [List.map_cons, List.flatten_cons, List.append_assoc, decoder.decode_of_some found,
        List.drop_left, later]
      simp [Nat.add_assoc]

theorem messages_flatten (items : List γ)
    (encodes : ∀ item ∈ items, decoder.Encodes encode value item) (tail : List α) :
    decoder.messages ((items.map encode).flatten ++ tail) =
      items.map value ++ decoder.messages tail := by
  rw [messages, decode_flatten items encodes]

/-- A front piece of an encoded stream decodes to the items that lie wholly inside it; what is
left over, followed by the input still to come, encodes the remaining items. -/
theorem split_of_append_eq (items : List γ)
    (encodes : ∀ item ∈ items, decoder.Encodes encode value item) {front back : List α}
    (stream : front ++ back = (items.map encode).flatten) :
    ∃ done todo, items = done ++ todo ∧
      decoder.messages front = done.map value ∧
      front = (done.map encode).flatten ++ decoder.residue front ∧
      decoder.residue front ++ back = (todo.map encode).flatten := by
  induction items generalizing front with
  | nil =>
      obtain ⟨rfl, rfl⟩ : front = [] ∧ back = [] := by simpa using stream
      exact ⟨[], [], rfl, by simp, by simp, by simp⟩
  | cons item items induction =>
      have head := encodes item List.mem_cons_self
      have later : ∀ other ∈ items, decoder.Encodes encode value other :=
        fun other member => encodes other (List.mem_cons_of_mem item member)
      rw [List.map_cons, List.flatten_cons] at stream
      by_cases whole : encode item <+: front
      · obtain ⟨rest, rfl⟩ := whole
        rw [List.append_assoc] at stream
        obtain ⟨done, todo, rfl, messages_eq, front_eq, residue_eq⟩ :=
          induction later (List.append_cancel_left stream)
        have found := head.next_append rest
        have residue_rest : decoder.residue (encode item ++ rest) = decoder.residue rest := by
          rw [decoder.residue_of_some found, List.drop_left]
        refine ⟨item :: done, todo, rfl, ?_, ?_, ?_⟩
        · rw [decoder.messages_of_some found, List.drop_left, messages_eq, List.map_cons]
        · rw [residue_rest, List.map_cons, List.flatten_cons, List.append_assoc, ← front_eq]
        · rw [residue_rest, residue_eq]
      · have front_le : front <+: encode item := by
          have in_stream : front <+: encode item ++ (items.map encode).flatten := ⟨back, stream⟩
          have item_prefix : encode item <+: encode item ++ (items.map encode).flatten :=
            List.prefix_append _ _
          exact (List.prefix_or_prefix_of_prefix in_stream item_prefix).resolve_right whole
        have front_ne : front ≠ encode item := fun equality => whole (equality ▸ List.prefix_rfl)
        have incomplete := head.next_truncated front_le front_ne
        refine ⟨[], item :: items, rfl, ?_, ?_, ?_⟩
        · simp [incomplete]
        · simp [incomplete]
        · rw [decoder.residue_of_none incomplete, stream, List.map_cons, List.flatten_cons]

/-- A front piece of an encoded stream decodes to the items at its front. -/
theorem messages_of_front (items : List γ)
    (encodes : ∀ item ∈ items, decoder.Encodes encode value item) {front : List α}
    (front_le : front <+: (items.map encode).flatten) :
    ∃ done, done <+: items ∧ decoder.messages front = done.map value := by
  obtain ⟨back, stream⟩ := front_le
  obtain ⟨done, todo, rfl, messages_eq, -, -⟩ := split_of_append_eq items encodes stream
  exact ⟨done, List.prefix_append _ _, messages_eq⟩

/-- Cut the received front of an encoded stream into the items that are complete in it and the
symbols left over. -/
def cut (encode : γ → List α) : List γ → List α → List γ × List α
  | [], received => ([], received)
  | item :: items, received =>
      if (encode item).length ≤ received.length then
        let later := cut encode items (received.drop (encode item).length)
        (item :: later.1, later.2)
      else
        ([], received)

/-- Decoding the received front of an encoded stream cuts it at the items' own boundaries. -/
theorem cut_eq (items : List γ) (encodes : ∀ item ∈ items, decoder.Encodes encode value item)
    {front : List α} (front_le : front <+: (items.map encode).flatten) :
    decoder.messages front = (cut encode items front).1.map value ∧
      decoder.residue front = (cut encode items front).2 := by
  induction items generalizing front with
  | nil =>
      obtain rfl : front = [] := by simpa using front_le
      simp [cut]
  | cons item items induction =>
      have head := encodes item List.mem_cons_self
      have later : ∀ other ∈ items, decoder.Encodes encode value other :=
        fun other member => encodes other (List.mem_cons_of_mem item member)
      rw [List.map_cons, List.flatten_cons] at front_le
      have item_le : encode item <+: encode item ++ (items.map encode).flatten :=
        List.prefix_append _ _
      by_cases whole : (encode item).length ≤ front.length
      · obtain ⟨rest, rfl⟩ := List.prefix_of_prefix_length_le item_le front_le whole
        have found := head.next_append rest
        obtain ⟨messages_eq, residue_eq⟩ :=
          induction later ((List.prefix_append_right_inj _).mp front_le)
        rw [cut, if_pos whole, decoder.messages_of_some found, decoder.residue_of_some found,
          List.drop_left, messages_eq, residue_eq]
        exact ⟨rfl, rfl⟩
      · have inside : front <+: encode item :=
          List.prefix_of_prefix_length_le front_le item_le (Nat.le_of_not_le whole)
        have front_ne : front ≠ encode item := fun equality => whole (equality ▸ le_rfl)
        have incomplete := head.next_truncated inside front_ne
        rw [cut, if_neg whole, decoder.messages_of_none incomplete,
          decoder.residue_of_none incomplete]
        exact ⟨rfl, rfl⟩

end PrefixDecoder
end PrefixDecoding
