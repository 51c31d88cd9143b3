import FramedTcp.EventSystem
import FramedTcp.FrameParser
import FramedTcp.Reassembly

/-!
# The demo client and server

`client.cpp` against one connection of `server.cpp`.  The threads that call `sendMessage`, the
client's read and write threads and those of the connection interleave; each event is one critical
section, one system call, or the local code between two of them.  What one side sends the other
side receives in order, in pieces that fit its buffer.

Each call of `send` takes the whole frame.  Neither write thread looks at what `send` returns, so
that after a short one the rest of the frame would be lost.
-/

namespace FramedTcp

open PrefixDecoding EventSystems FrameParser

/-- The demo client. -/
structure Client where
  /-- The next sequence number of each stream; an absent key reads as `0`. -/
  nextSequence : UInt32 → UInt32 := fun _ => 0
  /-- Frames of the `sendMessage` calls that have drawn a sequence number and not pushed yet. -/
  sending : List Frame := []
  /-- Frames waiting for the write thread. -/
  outgoingFrames : List Frame := []
  /-- The frame the write thread has taken and not sent yet. -/
  writing : Option Frame := none
  /-- The local state of the read thread. -/
  reader : Client.Reader := {}
  /-- Parsed frames the read thread still has to handle. -/
  completedFrames : List Frame := []

namespace Client

/-- `sendMessage` up to the end of its first critical section, which draws the number. -/
def sendMessage (client : Client) (message : List UInt8) (streamId : UInt32) : Client :=
  { client with
    nextSequence :=
      Function.update client.nextSequence streamId (client.nextSequence streamId + 1)
    sending :=
      client.sending ++ [Frame.create streamId (client.nextSequence streamId) message] }

/-- The second critical section of `sendMessage`, which queues the frame. -/
def push (client : Client) (frame : Frame) : Client :=
  { client with
    sending := client.sending.erase frame
    outgoingFrames := client.outgoingFrames ++ [frame] }

/-- The write thread takes a frame. -/
def pop (client : Client) (frame : Frame) (frames : List Frame) : Client :=
  { client with
    outgoingFrames := frames
    writing := some frame }

/-- The read thread has received and parsed a chunk. -/
def readChunk (client : Client) (chunk : List UInt8) : Client :=
  { client with
    reader :=
      { client.reader with frameBuffer := (receiveChunk client.reader.frameBuffer chunk).2 }
    completedFrames := (receiveChunk client.reader.frameBuffer chunk).1 }

/-- The read thread handles one parsed frame. -/
def handleFrame (enableChecksum : Bool) (client : Client) (frame : Frame)
    (frames : List Frame) : Client :=
  { client with
    reader := client.reader.handleFrame enableChecksum frame
    completedFrames := frames }

end Client

namespace Server

/-- The body of the inner loop of `handleRead`: the frame at the front of the buffer. -/
def frontFrame (frameBuffer : List UInt8) : Attempt :=
  if header : frameBuffer.length ≥ 16 then
    let frameLength := readWord frameBuffer 0
    if frameBuffer.length ≥ Frame.headerSize + frameLength.toNat then
      match Frame.deserialize (frameBuffer.take (Frame.headerSize + frameLength.toNat)) with
      | .error message => .thrown message
      | .ok frame => .completed frame frameLength
    else
      .incomplete
  else
    .incomplete

theorem frontFrame_eq (frameBuffer : List UInt8) :
    frontFrame frameBuffer = parseAt frameBuffer 0 := by
  simp only [frontFrame, parseAt, Nat.sub_zero, List.drop_zero]
  by_cases header : frameBuffer.length ≥ 16
  · simp only [header, ↓reduceDIte]
    cases Frame.deserialize
      (frameBuffer.take (Frame.headerSize + (readWord frameBuffer 0).toNat)) <;> rfl
  · simp only [header, ↓reduceDIte]

theorem frontFrame_eq_incomplete_iff {frameBuffer : List UInt8} :
    frontFrame frameBuffer = .incomplete ↔ decoder.next frameBuffer = none := by
  rw [frontFrame_eq]
  rcases parseAt_eq frameBuffer 0 with ⟨next_eq, incomplete⟩ | ⟨frame, completed, next_eq⟩
  · simpa [incomplete] using next_eq
  · rw [List.drop_zero] at next_eq
    simp [completed, next_eq]

theorem frontFrame_eq_completed_iff {frameBuffer : List UInt8} {frame : Frame}
    {frameLength : UInt32} :
    frontFrame frameBuffer = .completed frame frameLength ↔
      frameLength = frame.length ∧
        decoder.next frameBuffer = some (frame, Frame.headerSize + frameLength.toNat) := by
  rw [frontFrame_eq]
  rcases parseAt_eq frameBuffer 0 with ⟨next_eq, incomplete⟩ | ⟨found, completed, next_eq⟩
  · rw [List.drop_zero] at next_eq
    simp [incomplete, next_eq]
  · rw [List.drop_zero] at next_eq
    rw [completed, next_eq]
    constructor
    · intro equality
      obtain ⟨rfl, rfl⟩ : found = frame ∧ found.length = frameLength := by simpa using equality
      exact ⟨rfl, rfl⟩
    · rintro ⟨rfl, equality⟩
      obtain ⟨rfl, -⟩ := Prod.ext_iff.mp (Option.some.inj equality)
      rfl

/-- One of the five frames that `handleFrame` sends in response to a frame. -/
def response (frame : Frame) (i : ℕ) : Frame :=
  Frame.create frame.streamId (frame.sequence * 5 + UInt32.ofNat i) (List.replicate 4096 65)

/-- How far `handleWrite` has come with its round. -/
inductive Writer
  /-- The round begins. -/
  | idle
  /-- `hasOutgoingFrames` has returned `true`. -/
  | ready
  /-- A frame is taken and not sent yet. -/
  | writing (frame : Frame)

/-- One accepted connection. -/
structure Connection where
  /-- Received bytes not erased yet. -/
  frameBuffer : List UInt8 := []
  /-- The frame being handled, its length field and the loop counter of `handleFrame`. -/
  handling : Option (Frame × UInt32 × ℕ) := none
  /-- The stream manager shared by the two threads. -/
  streamManager : StreamManager := {}
  /-- Progress of the write thread. -/
  writer : Writer := .idle

namespace Connection

/-- `handleFrame` sends its next response. -/
def respond (connection : Connection) (frame : Frame) (frameLength : UInt32) (i : ℕ) :
    Connection :=
  { connection with
    handling := some (frame, frameLength, i + 1)
    streamManager := connection.streamManager.sendFrame (response frame i) }

/-- The handled frame is erased from the buffer. -/
def eraseFrame (connection : Connection) (frameLength : UInt32) : Connection :=
  { connection with
    frameBuffer := connection.frameBuffer.drop (Frame.headerSize + frameLength.toNat)
    handling := none }

end Connection
end Server

open Server

/-- Client, connection, and the bytes in flight between them. -/
structure Demo where
  /-- The client. -/
  client : Client := {}
  /-- The server's side of the connection. -/
  server : Connection := {}
  /-- Bytes sent by the client and not received yet. -/
  requests : List UInt8 := []
  /-- Bytes sent by the server and not received yet. -/
  responses : List UInt8 := []

namespace Demo

/-- Steps of the client's threads and of the connection's threads. -/
inductive Event
  | sendMessage (message : List UInt8) (streamId : UInt32)
  | push (frame : Frame)
  | pop
  | sendRequest
  | recvResponses (bytesRead : ℕ)
  | outputFrame
  | recvRequests (bytesRead : ℕ)
  | handleFrame
  | respond
  | eraseFrame
  | hasOutgoingFrames
  | getNextOutgoingFrame
  | sendResponse

/-- One step; `send` takes the whole frame. -/
def step (enableChecksum : Bool) (demo : Demo) : Event → Option Demo
  | .sendMessage message streamId =>
      some { demo with client := demo.client.sendMessage message streamId }
  | .push frame =>
      if frame ∈ demo.client.sending then
        some { demo with client := demo.client.push frame }
      else
        none
  | .pop =>
      match demo.client.writing, demo.client.outgoingFrames with
      | none, frame :: frames => some { demo with client := demo.client.pop frame frames }
      | _, _ => none
  | .sendRequest =>
      match demo.client.writing with
      | some frame => some { demo with
          client := { demo.client with writing := none }
          requests := demo.requests ++ frame.serialize enableChecksum }
      | none => none
  | .recvResponses bytesRead =>
      if demo.client.completedFrames = [] ∧ 0 < bytesRead ∧ bytesRead ≤ 256 ∧
          bytesRead ≤ demo.responses.length then
        some { demo with
          client := demo.client.readChunk (demo.responses.take bytesRead)
          responses := demo.responses.drop bytesRead }
      else
        none
  | .outputFrame =>
      match demo.client.completedFrames with
      | frame :: frames => some { demo with
          client := demo.client.handleFrame enableChecksum frame frames }
      | [] => none
  | .recvRequests bytesRead =>
      match demo.server.handling, frontFrame demo.server.frameBuffer with
      | none, .incomplete =>
          if 0 < bytesRead ∧ bytesRead ≤ 1024 ∧ bytesRead ≤ demo.requests.length then
            some { demo with
              server := { demo.server with
                frameBuffer := demo.server.frameBuffer ++ demo.requests.take bytesRead }
              requests := demo.requests.drop bytesRead }
          else
            none
      | _, _ => none
  | .handleFrame =>
      match demo.server.handling, frontFrame demo.server.frameBuffer with
      | none, .completed frame frameLength => some { demo with
          server := { demo.server with handling := some (frame, frameLength, 0) } }
      | _, _ => none
  | .respond =>
      match demo.server.handling with
      | some (frame, frameLength, i) =>
          if i < 5 then
            some { demo with server := demo.server.respond frame frameLength i }
          else
            none
      | none => none
  | .eraseFrame =>
      match demo.server.handling with
      | some (_, frameLength, i) =>
          if i = 5 then
            some { demo with server := demo.server.eraseFrame frameLength }
          else
            none
      | none => none
  | .hasOutgoingFrames =>
      match demo.server.writer with
      | .idle =>
          if demo.server.streamManager.hasOutgoingFrames then
            some { demo with server := { demo.server with writer := .ready } }
          else
            some demo
      | _ => none
  | .getNextOutgoingFrame =>
      match demo.server.writer, demo.server.streamManager.getNextOutgoingFrame with
      | .ready, some (frame, streamManager) => some { demo with
          server := { demo.server with
            streamManager
            writer := .writing frame } }
      | _, _ => none
  | .sendResponse =>
      match demo.server.writer with
      | .writing frame => some { demo with
          server := { demo.server with writer := .idle }
          responses := demo.responses ++ frame.serialize enableChecksum }
      | _ => none

/-- Both sides, with the same setting of `enable_checksum`. -/
def system (enableChecksum : Bool) : EventSystem Demo Event where
  init := {}
  step := step enableChecksum

/-- What a step does, and when it is possible. -/
inductive Step (enableChecksum : Bool) (demo : Demo) : Event → Demo → Prop
  | sendMessage (message : List UInt8) (streamId : UInt32) :
      Step enableChecksum demo (.sendMessage message streamId)
        { demo with client := demo.client.sendMessage message streamId }
  | push {frame : Frame} (drawn : frame ∈ demo.client.sending) :
      Step enableChecksum demo (.push frame) { demo with client := demo.client.push frame }
  | pop {frame : Frame} {frames : List Frame} (idle : demo.client.writing = none)
      (queue : demo.client.outgoingFrames = frame :: frames) :
      Step enableChecksum demo .pop { demo with client := demo.client.pop frame frames }
  | sendRequest {frame : Frame} (writing : demo.client.writing = some frame) :
      Step enableChecksum demo .sendRequest
        { demo with
          client := { demo.client with writing := none }
          requests := demo.requests ++ frame.serialize enableChecksum }
  | recvResponses {bytesRead : ℕ} (handled : demo.client.completedFrames = [])
      (positive : 0 < bytesRead) (fits : bytesRead ≤ 256)
      (sent : bytesRead ≤ demo.responses.length) :
      Step enableChecksum demo (.recvResponses bytesRead)
        { demo with
          client := demo.client.readChunk (demo.responses.take bytesRead)
          responses := demo.responses.drop bytesRead }
  | outputFrame {frame : Frame} {frames : List Frame}
      (parsed : demo.client.completedFrames = frame :: frames) :
      Step enableChecksum demo .outputFrame
        { demo with client := demo.client.handleFrame enableChecksum frame frames }
  | recvRequests {bytesRead : ℕ} (idle : demo.server.handling = none)
      (incomplete : frontFrame demo.server.frameBuffer = .incomplete) (positive : 0 < bytesRead)
      (fits : bytesRead ≤ 1024) (sent : bytesRead ≤ demo.requests.length) :
      Step enableChecksum demo (.recvRequests bytesRead)
        { demo with
          server := { demo.server with
            frameBuffer := demo.server.frameBuffer ++ demo.requests.take bytesRead }
          requests := demo.requests.drop bytesRead }
  | handleFrame {frame : Frame} {frameLength : UInt32} (idle : demo.server.handling = none)
      (complete : frontFrame demo.server.frameBuffer = .completed frame frameLength) :
      Step enableChecksum demo .handleFrame
        { demo with server := { demo.server with handling := some (frame, frameLength, 0) } }
  | respond {frame : Frame} {frameLength : UInt32} {i : ℕ}
      (handling : demo.server.handling = some (frame, frameLength, i)) (more : i < 5) :
      Step enableChecksum demo .respond
        { demo with server := demo.server.respond frame frameLength i }
  | eraseFrame {frame : Frame} {frameLength : UInt32}
      (handling : demo.server.handling = some (frame, frameLength, 5)) :
      Step enableChecksum demo .eraseFrame
        { demo with server := demo.server.eraseFrame frameLength }
  | hasOutgoingFrames (idle : demo.server.writer = .idle)
      (nonempty : demo.server.streamManager.outgoingFrames ≠ []) :
      Step enableChecksum demo .hasOutgoingFrames
        { demo with server := { demo.server with writer := .ready } }
  | hasNoOutgoingFrames (idle : demo.server.writer = .idle)
      (empty : demo.server.streamManager.outgoingFrames = []) :
      Step enableChecksum demo .hasOutgoingFrames demo
  | getNextOutgoingFrame {frame : Frame} {frames : List Frame}
      (ready : demo.server.writer = .ready)
      (queue : demo.server.streamManager.outgoingFrames = frame :: frames) :
      Step enableChecksum demo .getNextOutgoingFrame
        { demo with server := { demo.server with
            streamManager := { demo.server.streamManager with outgoingFrames := frames }
            writer := .writing frame } }
  | sendResponse {frame : Frame} (writing : demo.server.writer = .writing frame) :
      Step enableChecksum demo .sendResponse
        { demo with
          server := { demo.server with writer := .idle }
          responses := demo.responses ++ frame.serialize enableChecksum }

theorem step_of_eq_some {enableChecksum : Bool} {demo next : Demo} {event : Event}
    (stepped : (system enableChecksum).step demo event = some next) :
    Step enableChecksum demo event next := by
  replace stepped : demo.step enableChecksum event = some next := stepped
  cases event with
  | sendMessage message streamId =>
      obtain rfl := Option.some.inj stepped
      exact .sendMessage message streamId
  | push frame =>
      simp only [step, Option.ite_none_right_eq_some, Option.some.injEq] at stepped
      obtain ⟨drawn, rfl⟩ := stepped
      exact .push drawn
  | pop =>
      simp only [step] at stepped
      split at stepped
      · rename_i idle queue
        obtain rfl := Option.some.inj stepped
        exact .pop idle queue
      · contradiction
  | sendRequest =>
      simp only [step] at stepped
      split at stepped
      · rename_i writing
        obtain rfl := Option.some.inj stepped
        exact .sendRequest writing
      · contradiction
  | recvResponses bytesRead =>
      simp only [step, Option.ite_none_right_eq_some, Option.some.injEq] at stepped
      obtain ⟨⟨handled, positive, fits, sent⟩, rfl⟩ := stepped
      exact .recvResponses handled positive fits sent
  | outputFrame =>
      simp only [step] at stepped
      split at stepped
      · rename_i parsed
        obtain rfl := Option.some.inj stepped
        exact .outputFrame parsed
      · contradiction
  | recvRequests bytesRead =>
      simp only [step] at stepped
      split at stepped
      · rename_i idle incomplete
        simp only [Option.ite_none_right_eq_some, Option.some.injEq] at stepped
        obtain ⟨⟨positive, fits, sent⟩, rfl⟩ := stepped
        exact .recvRequests idle incomplete positive fits sent
      · contradiction
  | handleFrame =>
      simp only [step] at stepped
      split at stepped
      · rename_i idle complete
        obtain rfl := Option.some.inj stepped
        exact .handleFrame idle complete
      · contradiction
  | respond =>
      simp only [step] at stepped
      split at stepped
      · rename_i handling
        simp only [Option.ite_none_right_eq_some, Option.some.injEq] at stepped
        obtain ⟨more, rfl⟩ := stepped
        exact .respond handling more
      · contradiction
  | eraseFrame =>
      simp only [step] at stepped
      split at stepped
      · rename_i handling
        simp only [Option.ite_none_right_eq_some, Option.some.injEq] at stepped
        obtain ⟨rfl, rfl⟩ := stepped
        exact .eraseFrame handling
      · contradiction
  | hasOutgoingFrames =>
      simp only [step] at stepped
      split at stepped
      · rename_i idle
        by_cases nonempty : demo.server.streamManager.outgoingFrames = []
        · simp only [StreamManager.hasOutgoingFrames, nonempty, List.isEmpty_nil, Bool.not_true,
            Bool.false_eq_true, ↓reduceIte, Option.some.injEq] at stepped
          exact stepped ▸ .hasNoOutgoingFrames idle nonempty
        · simp only [StreamManager.hasOutgoingFrames, List.isEmpty_eq_false_iff.mpr nonempty,
            Bool.not_false, ↓reduceIte, Option.some.injEq] at stepped
          exact stepped ▸ .hasOutgoingFrames idle nonempty
      · contradiction
  | getNextOutgoingFrame =>
      simp only [step] at stepped
      split at stepped
      · rename_i ready taken
        obtain rfl := Option.some.inj stepped
        cases queue : demo.server.streamManager.outgoingFrames with
        | nil => simp [StreamManager.getNextOutgoingFrame, queue] at taken
        | cons first rest =>
            simp only [StreamManager.getNextOutgoingFrame, queue, Option.some.injEq,
              Prod.mk.injEq] at taken
            obtain ⟨rfl, rfl⟩ := taken
            exact .getNextOutgoingFrame ready queue
      · contradiction
  | sendResponse =>
      simp only [step] at stepped
      split at stepped
      · rename_i writing
        obtain rfl := Option.some.inj stepped
        exact .sendResponse writing
      · contradiction

theorem step_eq_some {enableChecksum : Bool} {demo next : Demo} {event : Event}
    (stepped : Step enableChecksum demo event next) :
    (system enableChecksum).step demo event = some next := by
  cases stepped with
  | push drawn => exact if_pos drawn
  | recvResponses handled positive fits sent => exact if_pos ⟨handled, positive, fits, sent⟩
  | _ =>
      simp_all [system, step, StreamManager.hasOutgoingFrames, StreamManager.getNextOutgoingFrame]

end Demo
end FramedTcp
