import FramedTcp.FrameParser

/-!
# The client's read loop and `errno`

`TcpClient::handleRead` tests `errno` whenever `recv` returns no bytes, also when it returns `0`,
which leaves `errno` as some earlier call has set it.
-/

namespace FramedTcp

open FrameParser

namespace TcpClient

/-- The error code of an interrupted call. -/
def eintr : Int32 := 4

/-- What `recv` returns while the peer is connected: bytes, with what handling them leaves in
`errno`, or an error. -/
inductive Received
  | data (chunk : { bytes : List UInt8 // bytes ≠ [] }) (errno : Int32)
  | failed (errno : Int32)

/-- What `recv` returns; a closed connection yields `0` and does not touch `errno`. -/
inductive RecvResult
  | received (received : Received)
  | closed

namespace RecvResult

/-- The value returned by `recv`. -/
def bytesRead : RecvResult → ℤ
  | .received (.data chunk _) => chunk.val.length
  | .received (.failed _) => -1
  | .closed => 0

/-- `errno` after `recv`. -/
def errno (before : Int32) : RecvResult → Int32
  | .received (.failed errno) => errno
  | _ => before

end RecvResult

/-- The local state of `handleRead`, with the flag it tests. -/
structure ReadLoop where
  /-- The flag `running_`. -/
  running : Bool := true
  /-- The calling thread's `errno`. -/
  errno : Int32
  /-- Bytes received so far. -/
  totalReceived : ℕ := 0
  /-- Received bytes not yet parsed. -/
  frameBuffer : List UInt8 := []
  /-- Frames handed to the response handlers. -/
  frames : List Frame := []

namespace ReadLoop

/-- The bytes received are appended to the buffer and parsed. -/
def receive (loop : ReadLoop) (chunk : List UInt8) (errno : Int32) : ReadLoop :=
  let round := receiveChunk loop.frameBuffer chunk
  { loop with
    errno
    totalReceived := loop.totalReceived + chunk.length
    frameBuffer := round.2
    frames := loop.frames ++ round.1 }

/-- One round of the loop; the loop may be left. -/
def iterate (loop : ReadLoop) (result : RecvResult) : Option ReadLoop :=
  if loop.running then
    if result.bytesRead ≤ 0 then
      if result.errno loop.errno = eintr then
        some { loop with errno := result.errno loop.errno }
      else
        none
    else
      match result with
      | .received (.data chunk errno) => some (loop.receive chunk errno)
      | _ => some loop
  else
    none

/-- The loop over the results of `recv`; it has been left, or it waits for the next result. -/
def handleRead (loop : ReadLoop) : List RecvResult → Option ReadLoop
  | [] => some loop
  | result :: results => (loop.iterate result).bind fun next => next.handleRead results

end ReadLoop

/-- An error that ends the loop. -/
def Received.Fatal : Received → Prop
  | .failed errno => errno ≠ eintr
  | .data _ _ => False

/-- What a history of `recv` leaves in `errno`. -/
def errnoAfter (errno : Int32) : List Received → Int32
  | [] => errno
  | .data _ errno :: history => errnoAfter errno history
  | .failed errno :: history => errnoAfter errno history

namespace ReadLoop

variable {loop : ReadLoop}

theorem iterate_data (running : loop.running = true) (chunk : { bytes : List UInt8 // bytes ≠ [] })
    (errno : Int32) :
    loop.iterate (.received (.data chunk errno)) = some (loop.receive chunk errno) := by
  have positive : 0 < chunk.val.length := List.length_pos_iff.mpr chunk.property
  have read : ¬ RecvResult.bytesRead (.received (.data chunk errno)) ≤ 0 := by
    simp only [RecvResult.bytesRead]
    omega
  simp only [iterate, running, read, ↓reduceIte]

theorem iterate_interrupted (running : loop.running = true) :
    loop.iterate (.received (.failed eintr)) = some { loop with errno := eintr } := by
  simp [iterate, running, RecvResult.bytesRead, RecvResult.errno]

theorem iterate_failed {errno : Int32} (fatal : errno ≠ eintr) :
    loop.iterate (.received (.failed errno)) = none := by
  simp [iterate, RecvResult.bytesRead, RecvResult.errno, fatal]

theorem iterate_closed (running : loop.running = true) :
    loop.iterate .closed = if loop.errno = eintr then some loop else none := by
  unfold iterate
  rw [if_pos running, RecvResult.bytesRead, if_pos le_rfl]
  rfl

/-- Once the peer has closed the connection, the loop spins while `errno` is `EINTR`. -/
theorem handleRead_closed (running : loop.running = true) (interrupted : loop.errno = eintr)
    (rounds : ℕ) : loop.handleRead (List.replicate rounds .closed) = some loop := by
  induction rounds with
  | zero => rfl
  | succ rounds induction =>
      rw [List.replicate_succ, handleRead, iterate_closed running, if_pos interrupted,
        Option.bind_some, induction]

/-- The loop is left after the close exactly if `errno` is not `EINTR`. -/
theorem leaves_closed_iff (running : loop.running = true) :
    (∃ rounds, loop.handleRead (List.replicate rounds .closed) = none) ↔ loop.errno ≠ eintr := by
  constructor
  · rintro ⟨rounds, left⟩ interrupted
    rw [handleRead_closed running interrupted] at left
    contradiction
  · intro uninterrupted
    refine ⟨1, ?_⟩
    rw [List.replicate_one, handleRead, iterate_closed running, if_neg uninterrupted,
      Option.bind_none]

end ReadLoop

/-- Once the peer has closed the connection, the read loop is left after finitely many rounds
exactly if an error other than `EINTR` has ended it before, or the last call before the close has
not left `EINTR` in `errno`. -/
theorem leaves_after_close_iff (loop : ReadLoop) (running : loop.running = true)
    (history : List Received) :
    (∃ rounds, loop.handleRead
        (history.map .received ++ List.replicate rounds .closed) = none) ↔
      (∃ received ∈ history, received.Fatal) ∨ errnoAfter loop.errno history ≠ eintr := by
  induction history generalizing loop with
  | nil =>
      simp only [List.map_nil, List.nil_append, errnoAfter]
      rw [ReadLoop.leaves_closed_iff running]
      simp
  | cons received history induction =>
      simp only [List.map_cons, List.cons_append, ReadLoop.handleRead, List.exists_mem_cons_iff]
      cases received with
      | data chunk errno =>
          simp only [ReadLoop.iterate_data running, Option.bind_some, errnoAfter]
          rw [induction (loop.receive chunk errno) running]
          simp [Received.Fatal, ReadLoop.receive]
      | failed errno =>
          by_cases interrupted : errno = eintr
          · subst interrupted
            simp only [ReadLoop.iterate_interrupted running, Option.bind_some, errnoAfter]
            rw [induction { loop with errno := eintr } running]
            simp [Received.Fatal]
          · simp [ReadLoop.iterate_failed interrupted, Received.Fatal, interrupted]

/-- After an interrupted call the client receives a byte, and then sees the end of the connection;
if the interruption comes last, it does not. -/
theorem leaves_after_close_interrupted :
    (∃ rounds, ReadLoop.handleRead { errno := 0 }
      ([.failed eintr, .data ⟨[7], List.cons_ne_nil _ _⟩ 0].map .received ++
        List.replicate rounds .closed) = none) ∧
    ¬ ∃ rounds, ReadLoop.handleRead { errno := 0 }
      ([.data ⟨[7], List.cons_ne_nil _ _⟩ 0, .failed eintr].map .received ++
        List.replicate rounds .closed) = none := by
  constructor
  · exact (leaves_after_close_iff { errno := 0 } rfl _).mpr (Or.inr (by decide))
  · intro left
    rcases (leaves_after_close_iff { errno := 0 } rfl _).mp left with fatal | uninterrupted
    · simp [Received.Fatal] at fatal
    · exact uninterrupted rfl

/-- An interrupted call followed by the close of the connection: the loop is never left. -/
theorem interrupted_close_spins :
    ¬ ∃ rounds, ReadLoop.handleRead { errno := 0 }
      ([Received.failed eintr].map .received ++ List.replicate rounds .closed) = none := by
  rintro ⟨rounds, left⟩
  have interrupted : ReadLoop.iterate { errno := 0 } (.received (.failed eintr)) =
      some { errno := eintr } := ReadLoop.iterate_interrupted rfl
  rw [List.map_singleton, List.singleton_append, ReadLoop.handleRead, interrupted,
    Option.bind_some, ReadLoop.handleRead_closed rfl rfl] at left
  contradiction

end TcpClient
end FramedTcp
