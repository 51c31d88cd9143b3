import FramedTcp.Frame
import FramedTcp.ReorderBuffer

/-!
# Per-stream reassembly

`StreamManager::addIncomingFrame` and the loop inlined in `Client::handleRead` hold the frames of
each stream in a map sorted by sequence number and release them in order.  Both work on the same
pair of maps.  Each stream of these maps is a reorder buffer of its own, fed with the arrivals of
that stream.
-/

namespace FramedTcp

/-- The maps `stream_frames` and `next_sequence`; an absent key reads as an empty map or as `0`. -/
structure Reassembly where
  /-- Held frames of each stream, by sequence number. -/
  streamFrames : UInt32 → OrderedMap UInt32 Frame := fun _ => ∅
  /-- Next sequence number to release on each stream. -/
  nextSequence : UInt32 → UInt32 := fun _ => 0

namespace Reassembly

/-- Insert a frame into its stream's queue and release what is in order. -/
def add (reassembly : Reassembly) (frame : Frame) : List Frame × Reassembly :=
  let streamQueue :=
    (reassembly.streamFrames frame.streamId).tryInsert frame.sequence frame
  let drained := ReorderBuffer.drain
    { held := streamQueue, expected := reassembly.nextSequence frame.streamId }
  (drained.1,
    { streamFrames :=
        Function.update reassembly.streamFrames frame.streamId drained.2.held
      nextSequence :=
        Function.update reassembly.nextSequence frame.streamId drained.2.expected })

end Reassembly

/-- The per-client stream manager of the demo server. -/
structure StreamManager extends Reassembly where
  /-- Frames released in order. -/
  incomingFrames : List Frame := []
  /-- Frames waiting to be sent. -/
  outgoingFrames : List Frame := []

namespace StreamManager

/-- Queue a frame for sending. -/
def sendFrame (manager : StreamManager) (frame : Frame) : StreamManager :=
  { manager with outgoingFrames := manager.outgoingFrames ++ [frame] }

/-- Accept an arriving frame. -/
def addIncomingFrame (manager : StreamManager) (frame : Frame) : StreamManager :=
  let step := manager.add frame
  { manager with
    toReassembly := step.2
    incomingFrames := manager.incomingFrames ++ step.1 }

/-- Is a frame waiting to be sent? -/
def hasOutgoingFrames (manager : StreamManager) : Bool := !manager.outgoingFrames.isEmpty

/-- Take the next frame to send. -/
def getNextOutgoingFrame (manager : StreamManager) : Option (Frame × StreamManager) :=
  match manager.outgoingFrames with
  | [] => none
  | frame :: frames => some (frame, { manager with outgoingFrames := frames })

end StreamManager

namespace Client

/-- The local state of the demo client's `handleRead`, and the messages it has printed. -/
structure Reader extends Reassembly where
  /-- Received bytes not yet parsed. -/
  frameBuffer : List UInt8 := []
  /-- Frames received. -/
  totalFrames : UInt32 := 0
  /-- Frames whose checksum was valid. -/
  validFrames : UInt32 := 0
  /-- Frames whose checksum was invalid. -/
  invalidFrames : UInt32 := 0
  /-- Messages printed, in order. -/
  output : List Frame := []

/-- The body of the loop over `completed_frames`. -/
def Reader.handleFrame (enableChecksum : Bool) (reader : Reader) (frame : Frame) : Reader :=
  let reader := { reader with totalFrames := reader.totalFrames + 1 }
  if frame.verifyChecksum enableChecksum then
    let step := reader.add frame
    { reader with
      toReassembly := step.2
      validFrames := reader.validFrames + 1
      output := reader.output ++ step.1 }
  else
    { reader with invalidFrames := reader.invalidFrames + 1 }

end Client

namespace Reassembly

/-- The frames of one stream. -/
def onStream (stream : UInt32) (frames : List Frame) : List Frame :=
  frames.filter fun frame => frame.streamId = stream

@[simp]
theorem onStream_append (stream : UInt32) (front back : List Frame) :
    onStream stream (front ++ back) = onStream stream front ++ onStream stream back :=
  List.filter_append ..

@[simp]
theorem mem_onStream {stream : UInt32} {frames : List Frame} {frame : Frame} :
    frame ∈ onStream stream frames ↔ frame ∈ frames ∧ frame.streamId = stream := by
  simp [onStream]

/-- All frames released over a sequence of arrivals, and the final maps. -/
def addAll (reassembly : Reassembly) : List Frame → List Frame × Reassembly
  | [] => ([], reassembly)
  | frame :: frames =>
      let first := reassembly.add frame
      let later := first.2.addAll frames
      (first.1 ++ later.1, later.2)

/-- The reorder buffer of one stream. -/
def buffer (reassembly : Reassembly) (stream : UInt32) : ReorderBuffer Frame :=
  { held := reassembly.streamFrames stream, expected := reassembly.nextSequence stream }

/-- Every held frame is filed under its own stream. -/
def Filed (reassembly : Reassembly) : Prop :=
  ∀ stream, ∀ entry ∈ (reassembly.streamFrames stream).entries, entry.2.streamId = stream

theorem buffer_add (reassembly : Reassembly) (frame : Frame) (stream : UInt32) :
    (reassembly.add frame).2.buffer stream =
      if frame.streamId = stream then
        ((reassembly.buffer stream).accept frame.sequence frame).2
      else
        reassembly.buffer stream := by
  split
  · rename_i equality
    subst equality
    simp [add, buffer, ReorderBuffer.accept]
  · rename_i different
    simp [add, buffer, Function.update_of_ne (Ne.symm different)]

theorem add_released (reassembly : Reassembly) (frame : Frame) :
    (reassembly.add frame).1 =
      ((reassembly.buffer frame.streamId).accept frame.sequence frame).1 := rfl

theorem Filed.forall_accept {reassembly : Reassembly} (filed : reassembly.Filed) (frame : Frame) :
    (∀ released ∈ (reassembly.add frame).1, released.streamId = frame.streamId) ∧
      ∀ entry ∈ ((reassembly.buffer frame.streamId).accept frame.sequence frame).2.held.entries,
        entry.2.streamId = frame.streamId := by
  have held : ∀ entry ∈ (reassembly.buffer frame.streamId).held.entries,
      entry.2.streamId = frame.streamId := filed frame.streamId
  exact ReorderBuffer.forall_accept (fun kept : Frame => kept.streamId = frame.streamId) held rfl

theorem Filed.add {reassembly : Reassembly} (filed : reassembly.Filed) (frame : Frame) :
    (reassembly.add frame).2.Filed := by
  intro stream entry member
  change entry ∈ ((reassembly.add frame).2.buffer stream).held.entries at member
  rw [buffer_add] at member
  split at member
  · rename_i equality
    subst equality
    exact (filed.forall_accept frame).2 entry member
  · exact filed stream entry member

theorem filed_initial : ({} : Reassembly).Filed :=
  fun _ _ member => absurd member List.not_mem_nil

/-- Each stream is reassembled by its own reorder buffer from the arrivals of that stream. -/
theorem addAll_onStream {reassembly : Reassembly} (filed : reassembly.Filed)
    (arrivals : List Frame) (stream : UInt32) :
    onStream stream (reassembly.addAll arrivals).1 =
        (ReorderBuffer.receive Frame.sequence (reassembly.buffer stream)
          (onStream stream arrivals)).1 ∧
      (reassembly.addAll arrivals).2.buffer stream =
        (ReorderBuffer.receive Frame.sequence (reassembly.buffer stream)
          (onStream stream arrivals)).2 := by
  induction arrivals generalizing reassembly with
  | nil => exact ⟨rfl, rfl⟩
  | cons frame arrivals induction =>
      obtain ⟨released_eq, buffer_eq⟩ := induction (filed.add frame)
      have released_stream := (filed.forall_accept frame).1
      rw [addAll]
      simp only [onStream_append]
      rw [released_eq, buffer_eq, buffer_add]
      by_cases own : frame.streamId = stream
      · subst own
        have all_own : onStream frame.streamId (reassembly.add frame).1 =
            (reassembly.add frame).1 := by
          simpa [onStream, List.filter_eq_self] using released_stream
        have arrivals_eq : onStream frame.streamId (frame :: arrivals) =
            frame :: onStream frame.streamId arrivals := by simp [onStream]
        rw [all_own, arrivals_eq, if_pos rfl, add_released]
        exact ⟨rfl, rfl⟩
      · have none_own : onStream stream (reassembly.add frame).1 = [] := by
          refine List.filter_eq_nil_iff.mpr fun released member => ?_
          simpa [released_stream released member] using own
        have arrivals_eq : onStream stream (frame :: arrivals) = onStream stream arrivals := by
          simp [onStream, own]
        rw [none_own, arrivals_eq, if_neg own]
        exact ⟨rfl, rfl⟩

/-! ## In-order, exactly-once release -/

/-- The sequence numbers that have not arrived on a stream. -/
def Missing (arrivals : List Frame) (stream : UInt32) : Set ℕ :=
  {number | ∀ frame ∈ arrivals, frame.streamId = stream → frame.sequence.toNat ≠ number}

/-- After `arrivals`, the frames `released` on a stream are one frame for each of the numbers
`0, ..., k - 1` in order, each the first arrival of its number, where `k` is the expected number;
if nothing arrived twice, `k` is the least missing number and the frames above it are held. -/
structure InOrderOnce (arrivals released : List Frame) (reassembly : Reassembly)
    (stream : UInt32) : Prop where
  next_eq : (reassembly.nextSequence stream).toNat = (onStream stream released).length
  released_eq : ∀ number < (reassembly.nextSequence stream).toNat, ∃ frame,
    (onStream stream released)[number]? = some frame ∧ frame.sequence.toNat = number ∧
      arrivals.find? (fun frame => frame.streamId = stream ∧ frame.sequence.toNat = number) =
        some frame
  complete : (arrivals.map fun frame => (frame.streamId, frame.sequence)).Nodup →
    IsLeast (Missing arrivals stream) (reassembly.nextSequence stream).toNat ∧
      ∀ frame, (∃ key, (key, frame) ∈ (reassembly.streamFrames stream).entries) ↔
        frame ∈ arrivals ∧ frame.streamId = stream ∧
          (reassembly.nextSequence stream).toNat < frame.sequence.toNat

theorem missing_eq (arrivals : List Frame) (stream : UInt32) :
    Missing arrivals stream =
      {number | ¬ ReorderBuffer.Arrived Frame.sequence (onStream stream arrivals) number} := by
  ext number
  simp [Missing, ReorderBuffer.Arrived]

theorem firstArrival_onStream (arrivals : List Frame) (stream : UInt32) (number : ℕ) :
    ReorderBuffer.firstArrival Frame.sequence (onStream stream arrivals) number =
      arrivals.find? (fun frame => frame.streamId = stream ∧ frame.sequence.toNat = number) := by
  rw [ReorderBuffer.firstArrival, onStream, List.find?_filter]
  simp

theorem nodup_sequence_onStream {arrivals : List Frame} (stream : UInt32)
    (distinct : (arrivals.map fun frame => (frame.streamId, frame.sequence)).Nodup) :
    ((onStream stream arrivals).map Frame.sequence).Nodup := by
  have filtered : ((onStream stream arrivals).map
      fun frame => (frame.streamId, frame.sequence)).Nodup :=
    distinct.sublist (List.filter_sublist.map _)
  have pairs : (onStream stream arrivals).map (fun frame => (frame.streamId, frame.sequence)) =
      ((onStream stream arrivals).map Frame.sequence).map fun sequence => (stream, sequence) := by
    rw [List.map_map]
    exact List.map_congr_left fun frame member => by simp [(mem_onStream.mp member).2]
  rw [pairs] at filtered
  exact filtered.of_map _

theorem inOrderOnce_addAll (arrivals : List Frame) (stream : UInt32)
    (unwrapped : (onStream stream (addAll {} arrivals).1).length < 2 ^ 32) :
    InOrderOnce arrivals (addAll {} arrivals).1 (addAll {} arrivals).2 stream := by
  obtain ⟨released_eq, buffer_eq⟩ := addAll_onStream filed_initial arrivals stream
  have buffer_eq : (addAll {} arrivals).2.buffer stream =
      (ReorderBuffer.receive Frame.sequence ReorderBuffer.initial (onStream stream arrivals)).2 :=
    buffer_eq
  have released_eq : onStream stream (addAll {} arrivals).1 =
      (ReorderBuffer.receive Frame.sequence ReorderBuffer.initial (onStream stream arrivals)).1 :=
    released_eq
  rw [released_eq] at unwrapped
  have tracks := ReorderBuffer.tracks_receive (onStream stream arrivals) unwrapped
  rw [← released_eq, ← buffer_eq] at tracks
  refine ⟨tracks.expected_eq, ?_, ?_⟩
  · intro number below
    have below' : number < (onStream stream (addAll {} arrivals).1).length :=
      tracks.expected_eq ▸ below
    have found := tracks.released_eq number below'
    rw [List.getElem?_eq_getElem below'] at found
    refine ⟨_, List.getElem?_eq_getElem below', ?_, ?_⟩
    · have matching := List.find?_some found
      simpa using matching
    · rw [← firstArrival_onStream, found]
  · intro distinct
    have settled := ReorderBuffer.settled_of_nodup (onStream stream arrivals)
      (nodup_sequence_onStream stream distinct) unwrapped
    rw [← buffer_eq] at settled
    have least := tracks.isLeast_missing settled
    rw [← tracks.expected_eq, ← missing_eq] at least
    refine ⟨least, fun frame => ?_⟩
    have held := tracks.held_iff_arrived settled (nodup_sequence_onStream stream distinct) frame
    rwa [mem_onStream, and_assoc] at held

/-- The number expected on a stream, incremented once per release, has not wrapped. -/
def Unwrapped (released : List Frame) (stream : UInt32) : Prop :=
  (onStream stream released).length < 2 ^ 32

/-- No more frames are released on a stream than have arrived on it. -/
theorem length_onStream_addAll_le (arrivals : List Frame) (stream : UInt32) :
    (onStream stream (addAll {} arrivals).1).length ≤ (onStream stream arrivals).length := by
  rw [(addAll_onStream filed_initial arrivals stream).1]
  refine (ReorderBuffer.length_receive_le _ _ _).trans (Eq.le ?_)
  exact Nat.zero_add _

theorem unwrapped_of_length {released : List Frame} (short : released.length < 2 ^ 32)
    (stream : UInt32) : Unwrapped released stream :=
  (List.length_filter_le _ _).trans_lt short

/-- After every prefix of the arrivals, the least missing number of every stream is expected. -/
def KeepsUp (arrivals : List Frame) : Prop :=
  ∀ front, front <+: arrivals → ∀ stream,
    IsLeast (Missing front stream) ((addAll {} front).2.nextSequence stream).toNat

/-- On no stream does the number that is missing arrive after a late copy of a smaller one. -/
def NoneMissingAfterLateCopy (arrivals : List Frame) : Prop :=
  ∀ stream front frame, front ++ [frame] <+: onStream stream arrivals →
    IsLeast (Missing front stream) frame.sequence.toNat →
    ¬ ReorderBuffer.LateCopy Frame.sequence front

theorem keepsUp_iff_neverStalls (arrivals : List Frame) :
    KeepsUp arrivals ↔ ∀ stream,
      ReorderBuffer.NeverStalls Frame.sequence (onStream stream arrivals) := by
  have local_iff : ∀ front stream,
      IsLeast (Missing front stream) ((addAll {} front).2.nextSequence stream).toNat ↔
        IsLeast {number | ¬ ReorderBuffer.Arrived Frame.sequence (onStream stream front) number}
          (ReorderBuffer.receive Frame.sequence ReorderBuffer.initial
            (onStream stream front)).2.expected.toNat := by
    intro front stream
    have buffer_eq := congrArg ReorderBuffer.expected (addAll_onStream filed_initial front stream).2
    rw [missing_eq]
    exact Iff.of_eq (congrArg _ (congrArg UInt32.toNat buffer_eq))
  constructor
  · intro keepsUp stream own own_le
    obtain ⟨front, front_le, rfl⟩ := List.prefix_filter_iff.mp own_le
    exact (local_iff front stream).mp (keepsUp front front_le stream)
  · intro never front front_le stream
    exact (local_iff front stream).mpr (never stream _ (front_le.filter _))

theorem keepsUp_iff (arrivals : List Frame)
    (unwrapped : ∀ stream, Unwrapped (addAll {} arrivals).1 stream) :
    KeepsUp arrivals ↔ NoneMissingAfterLateCopy arrivals := by
  rw [keepsUp_iff_neverStalls]
  refine forall_congr' fun stream => ?_
  have bounded := unwrapped stream
  rw [Unwrapped, (addAll_onStream filed_initial arrivals stream).1] at bounded
  rw [ReorderBuffer.neverStalls_iff _ bounded]
  refine forall_congr' fun front => forall_congr' fun frame => forall_congr' fun front_le => ?_
  have own : onStream stream front = front := by
    refine List.filter_eq_self.mpr fun other member => ?_
    have in_stream := front_le.subset (List.mem_append_left _ member)
    simpa using (mem_onStream.mp in_stream).2
  rw [missing_eq, own]

/-- A stream's releases and expected number depend on the arrivals of that stream only. -/
theorem addAll_congr {arrivals others : List Frame} {stream : UInt32}
    (same : onStream stream others = onStream stream arrivals) :
    onStream stream (addAll {} others).1 = onStream stream (addAll {} arrivals).1 ∧
      (addAll {} others).2.nextSequence stream = (addAll {} arrivals).2.nextSequence stream := by
  have left := addAll_onStream filed_initial others stream
  have right := addAll_onStream filed_initial arrivals stream
  rw [same] at left
  exact ⟨left.1.trans right.1.symm,
    congrArg ReorderBuffer.expected (left.2.trans right.2.symm)⟩

/-! ## Streams without gaps -/

/-- The sequence numbers of the frames of one stream. -/
def numbers (stream : UInt32) (frames : List Frame) : List ℕ :=
  (onStream stream frames).map fun frame => frame.sequence.toNat

theorem mem_numbers {stream : UInt32} {frames : List Frame} {number : ℕ} :
    number ∈ numbers stream frames ↔
      ∃ frame ∈ frames, frame.streamId = stream ∧ frame.sequence.toNat = number := by
  simp [numbers, and_assoc]

theorem numbers_append (stream : UInt32) (front back : List Frame) :
    numbers stream (front ++ back) = numbers stream front ++ numbers stream back := by
  simp [numbers]

theorem perm_numbers (stream : UInt32) {frames others : List Frame} (perm : frames.Perm others) :
    (numbers stream frames).Perm (numbers stream others) :=
  (perm.filter _).map _

theorem numbers_create (stream streamId sequence : UInt32) (payload : List UInt8) :
    numbers stream [Frame.create streamId sequence payload] =
      if streamId = stream then [sequence.toNat] else [] := by
  by_cases own : streamId = stream <;> simp [numbers, onStream, Frame.create, own]

/-- The numbers released on a stream are `0, 1, ...` in order. -/
theorem numbers_addAll (arrivals : List Frame) {stream : UInt32}
    (unwrapped : Unwrapped (addAll {} arrivals).1 stream) :
    numbers stream (addAll {} arrivals).1 =
      List.range (onStream stream (addAll {} arrivals).1).length := by
  have inOrder := inOrderOnce_addAll arrivals stream unwrapped
  refine List.ext_getElem (by simp [numbers]) fun number below _ => ?_
  rw [numbers, List.length_map, ← inOrder.next_eq] at below
  obtain ⟨frame, found, number_eq, -⟩ := inOrder.released_eq number below
  obtain ⟨inside, rfl⟩ := List.getElem?_eq_some_iff.mp found
  simpa [numbers] using number_eq

/-- If just the numbers below `count` have arrived on a stream, each once, all are released. -/
theorem length_onStream_addAll {arrivals : List Frame} {stream : UInt32} {count : ℕ}
    (arrived : (numbers stream arrivals).Perm (List.range count)) (bounded : count < 2 ^ 32) :
    (onStream stream (addAll {} arrivals).1).length = count := by
  have length_eq : (onStream stream arrivals).length = count := by
    simpa [numbers] using arrived.length_eq
  have own : onStream stream (onStream stream arrivals) = onStream stream arrivals := by
    simp [onStream]
  have released_eq := (addAll_congr own).1
  have unwrapped := (length_onStream_addAll_le arrivals stream).trans_lt (length_eq ▸ bounded)
  rw [← released_eq] at unwrapped ⊢
  have inOrder := inOrderOnce_addAll (onStream stream arrivals) stream unwrapped
  have distinct : ((onStream stream arrivals).map fun frame =>
      (frame.streamId, frame.sequence)).Nodup := by
    refine List.Nodup.of_map (fun key => key.2.toNat) ?_
    rw [List.map_map]
    exact arrived.nodup_iff.mpr List.nodup_range
  have missing : Missing (onStream stream arrivals) stream = Set.Ici count := by
    ext number
    have member := arrived.mem_iff (a := number)
    rw [mem_numbers, List.mem_range] at member
    simp only [Missing, mem_onStream, Set.mem_ofPred_eq, Set.mem_Ici, ← not_lt, ← member]
    grind
  have least := (inOrder.complete distinct).1
  rw [missing, inOrder.next_eq] at least
  exact least.unique isLeast_Ici

end Reassembly

open Reassembly

namespace StreamManager

/-- The manager after a sequence of arrivals. -/
def receiveAll (arrivals : List Frame) : StreamManager :=
  arrivals.foldl addIncomingFrame {}

theorem foldl_addIncomingFrame (arrivals : List Frame) (manager : StreamManager) :
    (arrivals.foldl addIncomingFrame manager).toReassembly =
        (manager.toReassembly.addAll arrivals).2 ∧
      (arrivals.foldl addIncomingFrame manager).incomingFrames =
        manager.incomingFrames ++ (manager.toReassembly.addAll arrivals).1 := by
  induction arrivals generalizing manager with
  | nil => simp [addAll]
  | cons frame arrivals induction =>
      obtain ⟨reassembly_eq, released_eq⟩ := induction (manager.addIncomingFrame frame)
      rw [List.foldl_cons, reassembly_eq, released_eq]
      simp [addAll, addIncomingFrame, List.append_assoc]

@[simp]
theorem toReassembly_receiveAll (arrivals : List Frame) :
    (receiveAll arrivals).toReassembly = (addAll {} arrivals).2 :=
  (foldl_addIncomingFrame arrivals {}).1

@[simp]
theorem incomingFrames_receiveAll (arrivals : List Frame) :
    (receiveAll arrivals).incomingFrames = (addAll {} arrivals).1 := by
  rw [receiveAll, (foldl_addIncomingFrame arrivals {}).2, List.nil_append]

end StreamManager

namespace Client

/-- The reader after handling a sequence of frames. -/
def Reader.handleAll (enableChecksum : Bool) (frames : List Frame) : Reader :=
  frames.foldl (Reader.handleFrame enableChecksum) {}

/-- The frames that pass the checksum test. -/
def valid (enableChecksum : Bool) (frames : List Frame) : List Frame :=
  frames.filter (Frame.verifyChecksum enableChecksum)

theorem Reader.foldl_handleFrame (enableChecksum : Bool) (frames : List Frame) (reader : Reader) :
    (frames.foldl (Reader.handleFrame enableChecksum) reader).toReassembly =
        (reader.toReassembly.addAll (valid enableChecksum frames)).2 ∧
      (frames.foldl (Reader.handleFrame enableChecksum) reader).output =
        reader.output ++ (reader.toReassembly.addAll (valid enableChecksum frames)).1 := by
  induction frames generalizing reader with
  | nil => simp [addAll, valid]
  | cons frame frames induction =>
      obtain ⟨reassembly_eq, output_eq⟩ := induction (reader.handleFrame enableChecksum frame)
      rw [List.foldl_cons, reassembly_eq, output_eq]
      cases verified : frame.verifyChecksum enableChecksum with
      | false => simp [handleFrame, verified, valid]
      | true => simp [handleFrame, verified, valid, addAll, List.append_assoc]

@[simp]
theorem Reader.toReassembly_handleAll (enableChecksum : Bool) (frames : List Frame) :
    (Reader.handleAll enableChecksum frames).toReassembly =
      (addAll {} (valid enableChecksum frames)).2 :=
  (Reader.foldl_handleFrame enableChecksum frames {}).1

@[simp]
theorem Reader.output_handleAll (enableChecksum : Bool) (frames : List Frame) :
    (Reader.handleAll enableChecksum frames).output =
      (addAll {} (valid enableChecksum frames)).1 := by
  rw [Reader.handleAll, (Reader.foldl_handleFrame enableChecksum frames {}).2, List.nil_append]

end Client

/-! ## Both reassembly loops -/

/-- Both loops release every stream in order and exactly once, and keep the streams apart. -/
theorem reassembly_in_order_once :
    (∀ (arrivals : List Frame) (stream : UInt32),
      Unwrapped (StreamManager.receiveAll arrivals).incomingFrames stream →
        InOrderOnce arrivals (StreamManager.receiveAll arrivals).incomingFrames
            (StreamManager.receiveAll arrivals).toReassembly stream ∧
          ∀ others, onStream stream others = onStream stream arrivals →
            onStream stream (StreamManager.receiveAll others).incomingFrames =
                onStream stream (StreamManager.receiveAll arrivals).incomingFrames ∧
              (StreamManager.receiveAll others).nextSequence stream =
                (StreamManager.receiveAll arrivals).nextSequence stream) ∧
    ∀ (enableChecksum : Bool) (frames : List Frame) (stream : UInt32),
      Unwrapped (Client.Reader.handleAll enableChecksum frames).output stream →
        InOrderOnce (Client.valid enableChecksum frames)
            (Client.Reader.handleAll enableChecksum frames).output
            (Client.Reader.handleAll enableChecksum frames).toReassembly stream ∧
          ∀ others, onStream stream (Client.valid enableChecksum others) =
              onStream stream (Client.valid enableChecksum frames) →
            onStream stream (Client.Reader.handleAll enableChecksum others).output =
                onStream stream (Client.Reader.handleAll enableChecksum frames).output ∧
              (Client.Reader.handleAll enableChecksum others).nextSequence stream =
                (Client.Reader.handleAll enableChecksum frames).nextSequence stream := by
  constructor
  · intro arrivals stream unwrapped
    simp only [StreamManager.incomingFrames_receiveAll, StreamManager.toReassembly_receiveAll]
      at unwrapped ⊢
    exact ⟨inOrderOnce_addAll arrivals stream unwrapped, fun _ same => addAll_congr same⟩
  · intro enableChecksum frames stream unwrapped
    simp only [Client.Reader.output_handleAll, Client.Reader.toReassembly_handleAll]
      at unwrapped ⊢
    exact ⟨inOrderOnce_addAll _ stream unwrapped, fun _ same => addAll_congr same⟩

/-- Two frames of one stream that arrive in the wrong order. -/
theorem reassembly_in_order_once_swapped :
    InOrderOnce [Frame.create 1 1 [7], Frame.create 1 0 [8]]
      (StreamManager.receiveAll [Frame.create 1 1 [7], Frame.create 1 0 [8]]).incomingFrames
      (StreamManager.receiveAll [Frame.create 1 1 [7], Frame.create 1 0 [8]]).toReassembly 1 ∧
    InOrderOnce (Client.valid false [Frame.create 1 1 [7], Frame.create 1 0 [8]])
      (Client.Reader.handleAll false [Frame.create 1 1 [7], Frame.create 1 0 [8]]).output
      (Client.Reader.handleAll false [Frame.create 1 1 [7], Frame.create 1 0 [8]]).toReassembly
      1 :=
  ⟨(reassembly_in_order_once.1 _ 1 (unwrapped_of_length (by decide) 1)).1,
    (reassembly_in_order_once.2 false _ 1 (unwrapped_of_length (by decide) 1)).1⟩

/-! ## Late copies -/

theorem StreamManager.keepsUp_iff (arrivals : List Frame)
    (unwrapped : ∀ stream, Unwrapped (receiveAll arrivals).incomingFrames stream) :
    (∀ front, front <+: arrivals → ∀ stream,
        IsLeast (Missing front stream) ((receiveAll front).nextSequence stream).toNat) ↔
      NoneMissingAfterLateCopy arrivals := by
  simp only [incomingFrames_receiveAll, toReassembly_receiveAll] at unwrapped ⊢
  exact Reassembly.keepsUp_iff arrivals unwrapped

theorem Client.Reader.keepsUp_iff (enableChecksum : Bool) (frames : List Frame)
    (unwrapped : ∀ stream, Unwrapped (handleAll enableChecksum frames).output stream) :
    (∀ front, front <+: frames → ∀ stream,
        IsLeast (Missing (valid enableChecksum front) stream)
          ((handleAll enableChecksum front).nextSequence stream).toNat) ↔
      NoneMissingAfterLateCopy (valid enableChecksum frames) := by
  simp only [output_handleAll, toReassembly_handleAll] at unwrapped ⊢
  rw [← Reassembly.keepsUp_iff _ unwrapped]
  constructor
  · intro keepsUp kept kept_le
    obtain ⟨front, front_le, rfl⟩ := List.prefix_filter_iff.mp kept_le
    exact keepsUp front front_le
  · intro keepsUp front front_le
    exact keepsUp _ (front_le.filter _)

/-- Both loops keep up with the arrivals exactly when no stream's missing number arrives after a
late copy of a smaller one: such a copy is inserted below the expected number and stays first. -/
theorem reassembly_keeps_up_iff (enableChecksum : Bool) (arrivals : List Frame) :
    ((∀ stream, Unwrapped (StreamManager.receiveAll arrivals).incomingFrames stream) →
      ((∀ front, front <+: arrivals → ∀ stream,
          IsLeast (Missing front stream)
            ((StreamManager.receiveAll front).nextSequence stream).toNat) ↔
        NoneMissingAfterLateCopy arrivals)) ∧
    ((∀ stream, Unwrapped (Client.Reader.handleAll enableChecksum arrivals).output stream) →
      ((∀ front, front <+: arrivals → ∀ stream,
          IsLeast (Missing (Client.valid enableChecksum front) stream)
            ((Client.Reader.handleAll enableChecksum front).nextSequence stream).toNat) ↔
        NoneMissingAfterLateCopy (Client.valid enableChecksum arrivals))) :=
  ⟨StreamManager.keepsUp_iff arrivals, Client.Reader.keepsUp_iff enableChecksum arrivals⟩

/-- Three arrivals on one stream, the second a copy of the first. -/
def lateCopyArrivals : List Frame :=
  [Frame.create 1 0 [7], Frame.create 1 0 [7], Frame.create 1 1 [8]]

theorem reassembly_keeps_up_iff_late_copy :
    ((∀ front, front <+: lateCopyArrivals → ∀ stream,
        IsLeast (Missing front stream)
          ((StreamManager.receiveAll front).nextSequence stream).toNat) ↔
      NoneMissingAfterLateCopy lateCopyArrivals) ∧
    ((∀ front, front <+: lateCopyArrivals → ∀ stream,
        IsLeast (Missing (Client.valid false front) stream)
          ((Client.Reader.handleAll false front).nextSequence stream).toNat) ↔
      NoneMissingAfterLateCopy (Client.valid false lateCopyArrivals)) :=
  ⟨(reassembly_keeps_up_iff false lateCopyArrivals).1 (unwrapped_of_length (by decide)),
    (reassembly_keeps_up_iff false lateCopyArrivals).2 (unwrapped_of_length (by decide))⟩

/-- Frame `1` is held behind the stale copy of frame `0`: the expected number stays `1`, although
`0` and `1` have arrived and `2` is the least missing number. -/
theorem late_copy_stalls :
    (∀ stream, Unwrapped (StreamManager.receiveAll lateCopyArrivals).incomingFrames stream) ∧
      ¬ IsLeast (Missing lateCopyArrivals 1)
        ((StreamManager.receiveAll lateCopyArrivals).nextSequence 1).toNat ∧
      (∀ stream,
        Unwrapped (Client.Reader.handleAll false lateCopyArrivals).output stream) ∧
      ¬ IsLeast (Missing (Client.valid false lateCopyArrivals) 1)
        ((Client.Reader.handleAll false lateCopyArrivals).nextSequence 1).toNat := by
  have arrived : (1 : ℕ) ∉ Missing lateCopyArrivals 1 := fun missing =>
    missing (Frame.create 1 1 [8]) (by simp [lateCopyArrivals]) rfl rfl
  refine ⟨unwrapped_of_length (by decide), ?_, unwrapped_of_length (by decide), ?_⟩
  · exact fun least => arrived least.1
  · exact fun least => arrived least.1

end FramedTcp
