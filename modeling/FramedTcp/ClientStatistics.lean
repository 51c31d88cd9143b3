import FramedTcp.ClientShutdown

/-!
# What the demo client reads

The read thread of `client.cpp` counts the frames it handles and prints the counts when it returns.
Whatever the other threads and `stop` do, it has then handled all complete frames of the bytes it
has received.
-/

namespace FramedTcp

open PrefixDecoding EventSystems FrameParser Reassembly

namespace Client

/-- The counters after a sequence of frames; they are 32 bits wide. -/
theorem Reader.counters_handleAll (enableChecksum : Bool) (frames : List Frame) :
    (handleAll enableChecksum frames).totalFrames = UInt32.ofNat frames.length ∧
      (handleAll enableChecksum frames).validFrames =
        UInt32.ofNat (valid enableChecksum frames).length ∧
      (handleAll enableChecksum frames).invalidFrames =
        UInt32.ofNat (frames.filter fun frame => !frame.verifyChecksum enableChecksum).length := by
  induction frames using List.reverseRecOn with
  | nil => exact ⟨rfl, rfl, rfl⟩
  | append_singleton frames frame induction =>
      obtain ⟨total_eq, valid_eq, invalid_eq⟩ := induction
      have step : handleAll enableChecksum (frames ++ [frame]) =
          (handleAll enableChecksum frames).handleFrame enableChecksum frame :=
        List.foldl_append
      rw [step]
      cases verified : frame.verifyChecksum enableChecksum with
      | false =>
          simp [handleFrame, verified, valid, total_eq, valid_eq, invalid_eq, UInt32.ofNat_add]
      | true =>
          simp [handleFrame, verified, valid, total_eq, valid_eq, invalid_eq, UInt32.ofNat_add]

/-- The parsing state and the rest of the read thread's state do not meet. -/
theorem Reader.handleFrame_frameBuffer (enableChecksum : Bool) (reader : Reader) (frame : Frame)
    (frameBuffer : List UInt8) :
    { reader with frameBuffer }.handleFrame enableChecksum frame =
      { reader.handleFrame enableChecksum frame with frameBuffer } := by
  cases verified : frame.verifyChecksum enableChecksum with
  | false => simp [handleFrame, verified]
  | true => simp [handleFrame, verified]

end Client

namespace ClientProcess

open Client

/-- The bytes that an event receives. -/
def Event.chunk? : Event → Option (List UInt8)
  | .recv chunk => some chunk
  | _ => none

/-- All bytes received. -/
def received (trace : List Event) : List UInt8 := (trace.filterMap Event.chunk?).flatten

/-- The read thread has parsed all bytes received; it has handled some of the frames, in order, and
all of them while it is in `recv` or has returned. -/
structure Reads (enableChecksum : Bool) (trace : List Event) (process : ClientProcess) : Prop where
  frameBuffer_eq : process.client.reader.frameBuffer = decoder.residue (received trace)
  handled : ∃ handled,
    handled ++ process.client.completedFrames = decoder.messages (received trace) ∧
      { process.client.reader with frameBuffer := [] } = Reader.handleAll enableChecksum handled
  all_handled : process.readThread ≠ .looping → process.client.completedFrames = []

variable {enableChecksum : Bool} {trace : List Event} {event : Event}
  {process next : ClientProcess}

namespace Reads

theorem initial : Reads enableChecksum [] {} where
  frameBuffer_eq := by
    change [] = decoder.residue []
    simp
  handled := by
    refine ⟨[], ?_, rfl⟩
    change [] = decoder.messages []
    simp
  all_handled _ := rfl

/-- A step of another thread, or one that neither receives nor handles anything. -/
theorem rest (reads : Reads enableChecksum trace process) (silent : event.chunk? = none)
    (reader_eq : next.client.reader = process.client.reader)
    (frames_eq : next.client.completedFrames = process.client.completedFrames)
    (all_handled : next.readThread ≠ .looping → process.client.completedFrames = []) :
    Reads enableChecksum (trace ++ [event]) next := by
  have received_eq : received (trace ++ [event]) = received trace := by
    simp [received, silent]
  constructor
  · rw [reader_eq, received_eq]
    exact reads.frameBuffer_eq
  · rw [reader_eq, frames_eq, received_eq]
    exact reads.handled
  · rwa [frames_eq]

/-- The thread receives only when it has handled all frames before. -/
theorem recv (reads : Reads enableChecksum trace process)
    (receiving : process.readThread = .receiving) (chunk : List UInt8) :
    Reads enableChecksum (trace ++ [.recv chunk])
      { process with client := process.client.readChunk chunk, readThread := .looping } := by
  obtain ⟨frameBuffer_eq, ⟨handled, handled_eq, state_eq⟩, all_handled⟩ := reads
  have received_eq : received (trace ++ [.recv chunk]) = received trace ++ chunk := by
    simp [received, Event.chunk?]
  rw [all_handled (by simp [receiving]), List.append_nil] at handled_eq
  refine ⟨?_, ⟨handled, ?_, state_eq⟩, fun left => absurd rfl left⟩
  · simp only [readChunk, receiveChunk_eq_feed, PrefixDecoder.feed, frameBuffer_eq, received_eq]
    rw [← decoder.residue_append]
  · simp only [readChunk, receiveChunk_eq_feed, PrefixDecoder.feed, frameBuffer_eq, received_eq]
    rw [decoder.messages_append (received trace), handled_eq]

theorem outputFrame (reads : Reads enableChecksum trace process) {frame : Frame}
    {frames : List Frame} (looping : process.readThread = .looping)
    (parsed : process.client.completedFrames = frame :: frames) :
    Reads enableChecksum (trace ++ [.outputFrame])
      { process with client := process.client.handleFrame enableChecksum frame frames } := by
  obtain ⟨frameBuffer_eq, ⟨handled, handled_eq, state_eq⟩, -⟩ := reads
  have received_eq : received (trace ++ [.outputFrame]) = received trace := by
    simp [received, Event.chunk?]
  have kept := process.client.reader.handleFrame_frameBuffer enableChecksum frame
  have buffer_kept := congrArg Reader.frameBuffer (kept process.client.reader.frameBuffer)
  refine ⟨?_, ⟨handled ++ [frame], ?_, ?_⟩, fun left => absurd looping left⟩
  · rw [received_eq, ← frameBuffer_eq]
    exact buffer_kept
  · rw [received_eq, ← handled_eq, parsed]
    simp [Client.handleFrame]
  · rw [Reader.handleAll, List.foldl_append, ← Reader.handleAll, ← state_eq]
    exact (kept []).symm

theorem step (reads : Reads enableChecksum trace process)
    (stepped : Step enableChecksum process event next) :
    Reads enableChecksum (trace ++ [event]) next := by
  cases stepped with
  | readRunning looping handled => exact reads.rest rfl rfl rfl fun _ => handled
  | recv receiving => exact reads.recv receiving _
  | endOfStream receiving =>
      exact reads.rest rfl rfl rfl fun _ => reads.all_handled (by simp [receiving])
  | outputFrame looping parsed => exact reads.outputFrame looping parsed
  | _ => exact reads.rest rfl rfl rfl reads.all_handled

end Reads

theorem reads_of_reaches (reached : (system enableChecksum).Reaches trace process) :
    Reads enableChecksum trace process :=
  reached.invariant (motive := Reads enableChecksum) Reads.initial
    fun _ reads stepped => reads.step (step_of_eq_some stepped)

/-- Whatever the threads and `stop` do, and however the bytes received are cut into chunks: the
counters are those of the frames handled so far, the messages printed are the reassembly of the
valid ones among them, and when the thread returns these are all complete frames of the bytes
received. -/
theorem received_frames_counted (enableChecksum : Bool) (trace : List Event)
    (process : ClientProcess) (reached : (system enableChecksum).Reaches trace process) :
    ∃ handled, handled ++ process.client.completedFrames = decoder.messages (received trace) ∧
      (process.readThread = .returned → handled = decoder.messages (received trace)) ∧
      process.client.reader.totalFrames = UInt32.ofNat handled.length ∧
      process.client.reader.validFrames = UInt32.ofNat (valid enableChecksum handled).length ∧
      process.client.reader.totalFrames =
        process.client.reader.validFrames + process.client.reader.invalidFrames ∧
      process.client.reader.output = (addAll {} (valid enableChecksum handled)).1 ∧
      ∀ stream, Unwrapped process.client.reader.output stream →
        InOrderOnce (valid enableChecksum handled) process.client.reader.output
          process.client.reader.toReassembly stream := by
  obtain ⟨-, ⟨handled, handled_eq, state_eq⟩, all_handled⟩ := reads_of_reaches reached
  obtain ⟨total_eq, valid_eq, invalid_eq⟩ := Reader.counters_handleAll enableChecksum handled
  have output_eq := Reader.output_handleAll enableChecksum handled
  have reassembly_eq := Reader.toReassembly_handleAll enableChecksum handled
  rw [← state_eq] at total_eq valid_eq invalid_eq output_eq reassembly_eq
  simp only at total_eq valid_eq invalid_eq output_eq reassembly_eq
  refine ⟨handled, handled_eq, fun returned => ?_, total_eq, valid_eq, ?_, output_eq, ?_⟩
  · rwa [all_handled (by simp [returned]), List.append_nil] at handled_eq
  · have split := List.length_eq_length_filter_add (Frame.verifyChecksum enableChecksum)
      (l := handled)
    rw [total_eq, valid_eq, invalid_eq, ← UInt32.ofNat_add, split, valid]
  · intro stream unwrapped
    rw [output_eq] at unwrapped
    rw [output_eq, reassembly_eq]
    exact inOrderOnce_addAll _ stream unwrapped

/-- The second frame of a stream arrives in two pieces, before the first one and with a corrupted
third one; `stop` is called in between. -/
def readInPieces : List Event :=
  [.readRunning, .recv (((Frame.create 1 1 [66]).serialize true).take 10), .readRunning, .stop,
    .recv (((Frame.create 1 1 [66]).serialize true).drop 10 ++
      (Frame.create 1 0 [65]).serialize true ++ (Frame.create 1 2 [67]).serialize false),
    .outputFrame, .outputFrame, .outputFrame, .readRunning]

theorem received_frames_counted_pieces :
    ∃ process handled, (system true).Reaches readInPieces process ∧
      handled = decoder.messages (received readInPieces) ∧ UInt32.ofNat handled.length = 3 ∧
      UInt32.ofNat (valid true handled).length = 2 ∧
      process.client.reader.output.map Frame.payload = [[65], [66]] := by
  have ran : ((system true).run {} readInPieces).map (fun process =>
      (process.readThread, process.client.reader.totalFrames, process.client.reader.validFrames,
        process.client.reader.output.map Frame.payload)) =
        some (.returned, 3, 2, [[65], [66]]) := by decide +kernel
  obtain ⟨process, reached, observed⟩ := Option.map_eq_some_iff.mp ran
  simp only [Prod.mk.injEq] at observed
  obtain ⟨returned, three, two, output_eq⟩ := observed
  obtain ⟨handled, -, all_handled, total_eq, valid_eq, -⟩ :=
    received_frames_counted true readInPieces process reached
  exact ⟨process, handled, reached, all_handled returned, total_eq.symm.trans three,
    valid_eq.symm.trans two, output_eq⟩

end ClientProcess
end FramedTcp
