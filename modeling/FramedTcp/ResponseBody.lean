import FramedTcp.Http2

/-!
# Streaming a response body

`nghttp2` calls the `read_callback` of the data provider until it raises the `EOF` flag.  The
callback owns the buffer behind the provider: it takes from its front and deletes it at the end.
-/

namespace FramedTcp.Http2

/-- The heap buffer of a response. -/
structure Buffer where
  /-- The bytes that have not been copied. -/
  responseData : List UInt8
  /-- How often the buffer has been deleted. -/
  deletes : ℕ := 0

/-- What a call of `read_callback` does. -/
structure Read where
  /-- The bytes copied to the buffer of `nghttp2`. -/
  copied : List UInt8
  /-- Is `NGHTTP2_DATA_FLAG_EOF` raised? -/
  eof : Bool
  /-- Does the call delete the heap buffer? -/
  deleted : Bool
  /-- The value returned. -/
  returned : ℕ

/-- `read_callback` with the heap buffer that `source->ptr` points to, if it is not null; to touch a
deleted buffer is undefined. -/
def readCallback (source : Option Buffer) (length : ℕ) : Option (Read × Option Buffer) :=
  match source with
  | none =>
      some ({
        copied := []
        eof := true
        deleted := false
        returned := 0 }, none)
  | some buffer =>
      if buffer.deletes ≠ 0 then
        none
      else if buffer.responseData = [] then
        some ({
          copied := []
          eof := true
          deleted := true
          returned := 0 }, some { buffer with deletes := buffer.deletes + 1 })
      else
        let copyLen := min length buffer.responseData.length
        let copied := buffer.responseData.take copyLen
        let rest := buffer.responseData.drop copyLen
        if rest = [] then
          some ({
            copied
            eof := true
            deleted := true
            returned := copyLen }, some { responseData := rest, deletes := buffer.deletes + 1 })
        else
          some ({
            copied
            eof := false
            deleted := false
            returned := copyLen }, some { buffer with responseData := rest })

/-- The calls that `nghttp2` makes, with the lengths of its buffers, until the flag is raised. -/
def readAll (source : Option Buffer) : List ℕ → Option (List Read × Option Buffer)
  | [] => some ([], source)
  | length :: lengths => do
      let (read, source) ← readCallback source length
      if read.eof then
        some ([read], source)
      else
        let (reads, source) ← readAll source lengths
        some (read :: reads, source)

/-! ## One call -/

/-- A call that reaches the end of the body raises the flag and deletes the buffer, ... -/
theorem readCallback_last {body : List UInt8} {length : ℕ} (last : body.length ≤ length) :
    readCallback (some { responseData := body }) length =
      some ({
        copied := body
        eof := true
        deleted := true
        returned := body.length }, some { responseData := [], deletes := 1 }) := by
  unfold readCallback
  by_cases nothing : body = []
  · simp [nothing]
  · simp [nothing, last]

/-- ... and any other call copies as much as it can. -/
theorem readCallback_next {body : List UInt8} {length : ℕ} (more : length < body.length) :
    readCallback (some { responseData := body }) length =
      some ({
        copied := body.take length
        eof := false
        deleted := false
        returned := length }, some { responseData := body.drop length }) := by
  have nonempty : body ≠ [] := List.ne_nil_of_length_pos (Nat.zero_lt_of_lt more)
  have rest_ne : ¬ body.length ≤ length := Nat.not_le.mpr more
  simp [readCallback, nonempty, rest_ne, Nat.min_eq_left more.le]

/-! ## All calls -/

/-- The calls stream the body. -/
structure Streams (body : List UInt8) (lengths : List ℕ) (reads : List Read) : Prop where
  /-- The bytes copied are a front piece of the body, at any time. -/
  copied_le : ∀ count, ((reads.take count).map Read.copied).flatten <+: body
  /-- Each call copies at most the given length, and returns how much it copies. -/
  bounded : ∀ (i : ℕ) (read : Read), reads[i]? = some read → ∃ length, lengths[i]? = some length ∧
    read.copied.length ≤ length ∧ read.returned = read.copied.length
  /-- Each call copies as much of what is left as fits. -/
  copied_eq : ∀ (i : ℕ) (read : Read) (length : ℕ), reads[i]? = some read →
    lengths[i]? = some length →
      read.copied.length =
        min length (body.length - ((reads.take i).map Read.copied).flatten.length)
  /-- The flag is raised on the call at which the whole body has been produced. -/
  eof_iff : ∀ (i : ℕ) (read : Read), reads[i]? = some read →
    (read.eof = true ↔ ((reads.take (i + 1)).map Read.copied).flatten = body)
  /-- That call, and no other, deletes the buffer. -/
  deleted_eq : ∀ read ∈ reads, read.deleted = read.eof
  /-- The calls end with the flag or with the lengths. -/
  complete : (∃ read ∈ reads, read.eof = true) ∨ reads.length = lengths.length

theorem streams_nil (body : List UInt8) : Streams body [] [] where
  copied_le count := by simp
  bounded i read found := by simp at found
  copied_eq i read length found := by simp at found
  eof_iff i read found := by simp at found
  deleted_eq read member := absurd member List.not_mem_nil
  complete := Or.inr rfl

/-- The last call copies the whole body. -/
theorem streams_last {body : List UInt8} {length : ℕ} (last : body.length ≤ length)
    (lengths : List ℕ) :
    Streams body (length :: lengths)
      [{ copied := body, eof := true, deleted := true, returned := body.length }] where
  copied_le count := by cases count <;> simp
  bounded i read found := by
    cases i with
    | zero =>
        obtain rfl := Option.some.inj found
        exact ⟨length, rfl, last, rfl⟩
    | succ i => simp at found
  copied_eq i read given found given_eq := by
    cases i with
    | zero =>
        obtain rfl := Option.some.inj found
        obtain rfl := Option.some.inj given_eq
        simp [last]
    | succ i => simp at found
  eof_iff i read found := by
    cases i with
    | zero =>
        obtain rfl := Option.some.inj found
        simp
    | succ i => simp at found
  deleted_eq read member := by rw [List.mem_singleton.mp member]
  complete := Or.inl ⟨_, List.mem_singleton_self _, rfl⟩

/-- A call that leaves something is followed by the calls for the rest. -/
theorem Streams.cons {body : List UInt8} {length : ℕ} (more : length < body.length)
    {lengths : List ℕ} {reads : List Read} (streams : Streams (body.drop length) lengths reads) :
    Streams body (length :: lengths)
      ({ copied := body.take length, eof := false, deleted := false, returned := length } ::
        reads) where
  copied_le count := by
    cases count with
    | zero => simp
    | succ count =>
        rw [List.take_succ_cons, List.map_cons, List.flatten_cons]
        conv_rhs => rw [← List.take_append_drop length body]
        exact List.prefix_append_right_inj _ |>.mpr (streams.copied_le count)
  bounded i read found := by
    cases i with
    | zero =>
        obtain rfl := Option.some.inj found
        refine ⟨length, rfl, List.length_take_le _ _, ?_⟩
        exact (List.length_take_of_le more.le).symm
    | succ i => exact streams.bounded i read found
  copied_eq i read given found given_eq := by
    cases i with
    | zero =>
        obtain rfl := Option.some.inj found
        obtain rfl := Option.some.inj given_eq
        simp
    | succ i =>
        rw [List.take_succ_cons, List.map_cons, List.flatten_cons, List.length_append,
          List.length_take_of_le more.le, ← Nat.sub_sub, ← List.length_drop]
        exact streams.copied_eq i read given found given_eq
  eof_iff i read found := by
    rw [List.take_succ_cons, List.map_cons, List.flatten_cons]
    cases i with
    | zero =>
        obtain rfl := Option.some.inj found
        refine iff_of_false Bool.false_ne_true fun whole => ?_
        rw [List.take_zero, List.map_nil, List.flatten_nil, List.append_nil,
          List.take_eq_self_iff] at whole
        exact absurd more (Nat.not_lt.mpr whole)
    | succ i =>
        rw [streams.eof_iff i read found, ← List.append_right_inj (body.take length),
          List.take_append_drop]
  deleted_eq read member := by
    rcases List.mem_cons.mp member with rfl | later
    · rfl
    · exact streams.deleted_eq read later
  complete := by
    rcases streams.complete with ⟨read, member, eof⟩ | all
    · exact Or.inl ⟨read, List.mem_cons_of_mem _ member, eof⟩
    · exact Or.inr (congrArg Nat.succ all)

/-- For every body and all lengths of the buffers, the calls never touch a deleted buffer, stream
the body, and delete the buffer once, at its end. -/
theorem read_callback_streams (body : List UInt8) (lengths : List ℕ) :
    ∃ reads buffer, readAll (some { responseData := body }) lengths = some (reads, some buffer) ∧
      Streams body lengths reads ∧
      buffer.deletes = if ∃ read ∈ reads, read.eof = true then 1 else 0 := by
  induction lengths generalizing body with
  | nil => exact ⟨[], _, rfl, streams_nil body, by simp⟩
  | cons length lengths induction =>
      rcases Nat.lt_or_ge length body.length with more | last
      · obtain ⟨reads, buffer, all, streams, deletes_eq⟩ := induction (body.drop length)
        refine ⟨_, buffer, ?_, streams.cons more, ?_⟩
        · rw [readAll, readCallback_next more]
          simp only [bind, Option.bind, all, Bool.false_eq_true, if_false]
        · simpa using deletes_eq
      · refine ⟨_, { responseData := [], deletes := 1 }, ?_, streams_last last lengths, ?_⟩
        · rw [readAll, readCallback_last last]
          rfl
        · simp

end FramedTcp.Http2
