import FramedTcp.Demo
import FramedTcp.TcpServer

/-!
# Two receive loops

`Server::handleRead` of `server.cpp` parses at the front of its buffer and erases frame by frame;
`Client::handleRead` and `TcpServer::ClientHandler::handleRead` scan the buffer with
`FrameParser::processData` and erase once.  Both are greedy decoding, so they agree round by round.
-/

namespace FramedTcp

open PrefixDecoding FrameParser

namespace Server

/-- What one round of the read loop leaves behind. -/
structure Round where
  /-- Frames handed to `handleFrame`. -/
  handled : List Frame
  /-- Bytes left in the buffer. -/
  frameBuffer : List UInt8
  /-- The exception that has left the loop. -/
  thrown : Option String
  deriving DecidableEq

theorem length_drop_frontFrame {frameBuffer : List UInt8} {frame : Frame} {frameLength : UInt32}
    (complete : frontFrame frameBuffer = .completed frame frameLength) :
    (frameBuffer.drop (Frame.headerSize + frameLength.toNat)).length < frameBuffer.length :=
  decoder.length_drop_lt (frontFrame_eq_completed_iff.mp complete).2

/-- The inner loop of `handleRead`: frames are handled and erased one by one. -/
def parseBuffer (handled : List Frame) (frameBuffer : List UInt8) : Round :=
  match _ : frontFrame frameBuffer with
  | .completed frame frameLength =>
      parseBuffer (handled ++ [frame])
        (frameBuffer.drop (Frame.headerSize + frameLength.toNat))
  | .incomplete => { handled, frameBuffer, thrown := none }
  | .thrown message => { handled, frameBuffer, thrown := some message }
termination_by frameBuffer.length
decreasing_by exact length_drop_frontFrame (by assumption)

/-- The rounds of `handleRead` over the chunks returned by `recv`; an exception ends it. -/
def handleRead (frameBuffer : List UInt8) : List (List UInt8) → List Round
  | [] => []
  | chunk :: chunks =>
      let round := parseBuffer [] (frameBuffer ++ chunk)
      match round.thrown with
      | none => round :: handleRead round.frameBuffer chunks
      | some _ => [round]

theorem parseBuffer_of_completed {handled : List Frame} {frameBuffer : List UInt8} {frame : Frame}
    {frameLength : UInt32} (complete : frontFrame frameBuffer = .completed frame frameLength) :
    parseBuffer handled frameBuffer = parseBuffer (handled ++ [frame])
      (frameBuffer.drop (Frame.headerSize + frameLength.toNat)) := by
  rw [parseBuffer]
  split <;> simp_all

theorem parseBuffer_of_incomplete {handled : List Frame} {frameBuffer : List UInt8}
    (incomplete : frontFrame frameBuffer = .incomplete) :
    parseBuffer handled frameBuffer = { handled, frameBuffer, thrown := none } := by
  rw [parseBuffer]
  split <;> simp_all

/-- The inner loop decodes the buffer greedily, and never throws. -/
theorem parseBuffer_eq (handled : List Frame) (frameBuffer : List UInt8) :
    parseBuffer handled frameBuffer =
      { handled := handled ++ decoder.messages frameBuffer
        frameBuffer := decoder.residue frameBuffer
        thrown := none } := by
  induction frameBuffer using decoder.word_induction generalizing handled with
  | incomplete frameBuffer incomplete =>
      rw [parseBuffer_of_incomplete (frontFrame_eq_incomplete_iff.mpr incomplete),
        decoder.messages_of_none incomplete, decoder.residue_of_none incomplete, List.append_nil]
  | complete frameBuffer frame width found induction =>
      obtain ⟨-, rfl⟩ := next_eq_some_iff.mp found
      have complete := frontFrame_eq_completed_iff.mpr ⟨rfl, found⟩
      rw [parseBuffer_of_completed complete, induction, decoder.messages_of_some found,
        decoder.residue_of_some found, List.append_assoc, List.singleton_append]

end Server

/-- The rounds of `Client::handleRead` over the chunks returned by `recv`: the parsed frames and
the bytes left in the buffer. -/
def Client.receiveRounds (frameBuffer : List UInt8) :
    List (List UInt8) → List (List Frame × List UInt8)
  | [] => []
  | chunk :: chunks =>
      let round := receiveChunk frameBuffer chunk
      round :: receiveRounds round.2 chunks

/-- The rounds of `ClientHandler::handleRead`. -/
def ClientHandler.receiveRounds (handler : ClientHandler) :
    List (List UInt8) → List (List Frame × List UInt8)
  | [] => []
  | chunk :: chunks =>
      let round := handler.readChunk chunk
      (round.1, round.2.frameBuffer) :: round.2.receiveRounds chunks

namespace Server

/-- One round of each loop on the same buffer. -/
theorem parseBuffer_eq_receiveChunk (frameBuffer chunk : List UInt8) :
    parseBuffer [] (frameBuffer ++ chunk) =
      { handled := (receiveChunk frameBuffer chunk).1
        frameBuffer := (receiveChunk frameBuffer chunk).2
        thrown := none } := by
  rw [parseBuffer_eq, receiveChunk_eq_feed, List.nil_append, PrefixDecoder.feed]

theorem handleRead_cons (frameBuffer chunk : List UInt8) (chunks : List (List UInt8)) :
    handleRead frameBuffer (chunk :: chunks) =
      parseBuffer [] (frameBuffer ++ chunk) ::
        handleRead (receiveChunk frameBuffer chunk).2 chunks := by
  rw [handleRead, parseBuffer_eq_receiveChunk]

theorem handleRead_eq_client (chunks : List (List UInt8)) (frameBuffer : List UInt8) :
    handleRead frameBuffer chunks =
      (Client.receiveRounds frameBuffer chunks).map fun round =>
        { handled := round.1
          frameBuffer := round.2
          thrown := none } := by
  induction chunks generalizing frameBuffer with
  | nil => rfl
  | cons chunk chunks induction =>
      rw [handleRead_cons, parseBuffer_eq_receiveChunk, induction, Client.receiveRounds,
        List.map_cons]

theorem clientHandler_rounds_eq (chunks : List (List UInt8)) (handler : ClientHandler) :
    handler.receiveRounds chunks =
      (handleRead handler.frameBuffer chunks).map fun round =>
        (round.handled.map fun frame => { frame with clientId := handler.id },
          round.frameBuffer) := by
  induction chunks generalizing handler with
  | nil => rfl
  | cons chunk chunks induction =>
      rw [ClientHandler.receiveRounds, induction, handleRead_cons, parseBuffer_eq_receiveChunk,
        List.map_cons]
      rfl

/-- Whatever bytes arrive in whatever chunks, the parser of `server.cpp` throws nothing, and after
each chunk it has handled the same frames and keeps the same bytes as the loops around
`processData`; a client handler also marks its frames with its identifier. -/
theorem receive_loops_agree (chunks : List (List UInt8)) :
    (handleRead [] chunks = (Client.receiveRounds [] chunks).map fun round =>
        { handled := round.1
          frameBuffer := round.2
          thrown := none }) ∧
      ∀ id : Int32, ClientHandler.receiveRounds { id } chunks =
        (handleRead [] chunks).map fun round =>
          (round.handled.map fun frame => { frame with clientId := id }, round.frameBuffer) :=
  ⟨handleRead_eq_client chunks [], fun id => clientHandler_rounds_eq chunks { id }⟩

end Server
end FramedTcp
