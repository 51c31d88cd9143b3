import FramedTcp.FrameHandler
import FramedTcp.TcpClient
import FramedTcp.TcpServer

/-!
# The checksum gate

Which receive paths let a frame with a wrong checksum reach the application.  The stream processors
and the frame handler test every frame.  The read loops of `ClientHandler` and `TcpClient` do not:
there everything the parser finds is dispatched.
-/

namespace FramedTcp

open PrefixDecoding EventSystems FrameParser

/-! ## The server's read loop -/

namespace ClientHandler

/-- The read loop passes on valid frames only exactly when it passes on nothing, or the byte stream
holds no invalid frame. -/
theorem requests_valid_iff (requestCallback : Bool) (id : Int32) (chunks : List (List UInt8)) :
    (∀ frame ∈ requests requestCallback (handleRead { id } chunks).1,
        frame.verifyChecksum true = true) ↔
      requestCallback = false ∨
        ∀ frame ∈ (processData chunks.flatten).1, frame.verifyChecksum true = true := by
  rw [handleRead_eq]
  cases requestCallback with
  | false => simp [requests]
  | true =>
      simp only [requests, if_true, List.forall_mem_map, reduceCtorEq, false_or]
      rfl

end ClientHandler

/-! ## The frame handler -/

namespace FrameHandler

theorem verify_of_mem_processIterations {enableChecksum : Bool} {handler : FrameHandler} :
    ∀ frame ∈ (processIterations enableChecksum handler 0 0 []).2,
      frame.verifyChecksum enableChecksum = true := by
  intro frame member
  obtain ⟨rounds, result_eq⟩ := processIterations_eq 0 0 []
  rw [result_eq, List.nil_append] at member
  obtain ⟨round, round_member, member⟩ := List.mem_flatten.mp member
  obtain rfl := List.eq_of_mem_replicate round_member
  unfold invoke at member
  split at member
  · exact (List.mem_filter.mp member).2
  · contradiction

theorem verify_of_mem_invoked {enableChecksum : Bool} {handler next : FrameHandler}
    {data : List UInt8} {invoked : List Frame}
    (processed : processIncomingData enableChecksum handler data = some (next, invoked)) :
    ∀ frame ∈ invoked, frame.verifyChecksum enableChecksum = true := by
  unfold processIncomingData at processed
  split at processed
  · obtain ⟨-, rfl⟩ := Prod.mk.inj (Option.some.inj processed)
    nofun
  split at processed
  · obtain ⟨-, rfl⟩ := Prod.mk.inj (Option.some.inj processed)
    nofun
  dsimp only at processed
  split at processed
  · obtain ⟨erased, -, pair_eq⟩ := Option.map_eq_some_iff.mp processed
    obtain ⟨-, rfl⟩ := Prod.mk.inj pair_eq
    exact verify_of_mem_processIterations
  · obtain ⟨-, rfl⟩ := Prod.mk.inj (Option.some.inj processed)
    exact verify_of_mem_processIterations

theorem verify_of_mem_packets {enableChecksum : Bool} {data : List (List UInt8)}
    {state : FrameHandler × List Frame}
    (reached : (packets enableChecksum).Reaches data state) :
    ∀ frame ∈ state.2, frame.verifyChecksum enableChecksum = true := by
  refine reached.invariant (motive := fun _ state =>
    ∀ frame ∈ state.2, frame.verifyChecksum enableChecksum = true) nofun ?_
  intro data before packet next _ earlier stepped frame member
  obtain ⟨invoked, processed, next_eq⟩ := packets_step.mp stepped
  rw [next_eq] at member
  rcases List.mem_append.mp member with old | new
  · exact earlier frame old
  · exact verify_of_mem_invoked processed frame new

end FrameHandler

/-! ## The client's read thread -/

namespace TcpClient

/-- The frame finds a handler whose call has no response yet. -/
def Pending (client : TcpClient) (frame : Frame) : Prop :=
  ∃ number call, client.responseHandlers frame.streamId.toInt32 = some number ∧
    client.calls[number]? = some call ∧ call.promise = none

/-- Every frame handled while a call is pending for it is valid. -/
def PendingFramesValid (enableChecksum : Bool) (trace : List Event) : Prop :=
  ∀ front frame, front ++ [.dispatch frame] <+: trace → ∀ client,
    (system enableChecksum).Reaches front client → client.Pending frame →
      frame.verifyChecksum enableChecksum = true

theorem completions_handleFrame (client : TcpClient) (frame : Frame) :
    (client.Pending frame ∧
        (client.handleFrame frame).completions = client.completions ++ [frame]) ∨
      ¬ client.Pending frame ∧ (client.handleFrame frame).completions = client.completions := by
  cases handler : client.responseHandlers frame.streamId.toInt32 with
  | none => simp [Pending, handleFrame, handler]
  | some number =>
      cases found : client.calls[number]? with
      | none => simp [Pending, handleFrame, handler, setValue, found]
      | some call =>
          by_cases unanswered : call.promise = none
          · simp [Pending, handleFrame, handler, setValue, found, unanswered, complete,
              setHandler]
          · simp [Pending, handleFrame, handler, setValue, found, unanswered]

theorem pendingFramesValid_concat {enableChecksum : Bool} {trace : List Event} {event : Event}
    {client : TcpClient} (reached : (system enableChecksum).Reaches trace client) :
    PendingFramesValid enableChecksum (trace ++ [event]) ↔
      PendingFramesValid enableChecksum trace ∧
        ∀ frame, event = .dispatch frame → client.Pending frame →
          frame.verifyChecksum enableChecksum = true := by
  constructor
  · intro valid
    refine ⟨fun front frame front_le => valid front frame (front_le.trans ?_), ?_⟩
    · exact List.prefix_append _ _
    · rintro frame rfl pending
      exact valid trace frame List.prefix_rfl client reached pending
  · rintro ⟨earlier, last⟩ front frame front_le state state_reached pending
    rcases List.prefix_concat_iff.mp front_le with whole | front_le
    · obtain ⟨rfl, last_eq⟩ := List.append_inj' whole rfl
      obtain rfl := state_reached.unique reached
      exact last frame (List.singleton_inj.mp last_eq).symm pending
    · exact earlier front frame front_le state state_reached pending

theorem completions_step {enableChecksum : Bool} {client next : TcpClient} {event : Event}
    (stepped : Step enableChecksum client event next) :
    (∃ frame, event = .dispatch frame ∧ client.Pending frame ∧
        next.completions = client.completions ++ [frame]) ∨
      (∀ frame, event = .dispatch frame → ¬ client.Pending frame) ∧
        next.completions = client.completions := by
  cases stepped with
  | @dispatch frame frames =>
      rcases completions_handleFrame { client with frames } frame with ⟨pending, grown⟩ | unchanged
      · exact Or.inl ⟨frame, rfl, pending, grown⟩
      · refine Or.inr ⟨?_, unchanged.2⟩
        rintro _ ⟨⟩
        exact unchanged.1
  | _ => exact Or.inr ⟨nofun, rfl⟩

/-- A call is completed with valid frames only exactly when every frame that finds a pending call
is valid. -/
theorem completions_valid_iff {enableChecksum : Bool} {trace : List Event} {client : TcpClient}
    (reached : (system enableChecksum).Reaches trace client) :
    (∀ frame ∈ client.completions, frame.verifyChecksum enableChecksum = true) ↔
      PendingFramesValid enableChecksum trace := by
  refine reached.invariant (motive := fun trace client =>
    (∀ frame ∈ client.completions, frame.verifyChecksum enableChecksum = true) ↔
      PendingFramesValid enableChecksum trace) ?_ ?_
  · refine iff_of_true nofun fun front frame front_le => ?_
    simp at front_le
  · intro trace before event next before_reached earlier stepped
    rw [pendingFramesValid_concat before_reached, ← earlier]
    rcases completions_step (step_of_eq_some stepped) with ⟨frame, rfl, pending, grown⟩ | idle
    · rw [grown, List.forall_mem_append, List.forall_mem_singleton]
      refine and_congr_right fun _ => ⟨?_, fun valid => valid frame rfl pending⟩
      rintro valid _ ⟨⟩ -
      exact valid
    · rw [idle.2]
      refine (and_iff_left fun frame dispatched pending => ?_).symm
      exact absurd pending (idle.1 frame dispatched)

end TcpClient

/-! ## All receive paths -/

/-- With checksums on, the stream processors and the frame handler never pass an invalid frame on,
the frame handler not even while it processes a packet whose erase is undefined; the server's read
loop does so exactly when a request callback is set and the byte stream holds an
invalid frame, and the client completes a call with one exactly when it handles an invalid frame
for which a call is pending. -/
theorem checksum_gate_iff (requestCallback : Bool) (id : Int32) (callbacks : Callbacks)
    (chunks : List (List UInt8)) :
    ((∀ frame ∈ ClientHandler.requests requestCallback (ClientHandler.handleRead { id } chunks).1,
          frame.verifyChecksum true = true) ↔
        requestCallback = false ∨
          ∀ frame ∈ (processData chunks.flatten).1, frame.verifyChecksum true = true) ∧
    (∀ (trace : List StreamProcessor.Event) (processor : StreamProcessor),
      (StreamProcessor.processLoop true callbacks).Reaches trace processor →
        ∀ frame ∈ processor.requests, frame.verifyChecksum true = true) ∧
    (∀ handler : FrameHandler, ∀ frame ∈ (FrameHandler.processIterations true handler 0 0 []).2,
      frame.verifyChecksum true = true) ∧
    (∀ state : FrameHandler × List Frame,
      (FrameHandler.packets true).Reaches chunks state →
        ∀ frame ∈ state.2, frame.verifyChecksum true = true) ∧
    ∀ (trace : List TcpClient.Event) (client : TcpClient),
      (TcpClient.system true).Reaches trace client →
        ((∀ frame ∈ client.completions, frame.verifyChecksum true = true) ↔
          TcpClient.PendingFramesValid true trace) :=
  ⟨ClientHandler.requests_valid_iff requestCallback id chunks,
    fun _ _ => StreamProcessor.verify_of_mem_requests,
    fun _ => FrameHandler.verify_of_mem_processIterations,
    fun _ => FrameHandler.verify_of_mem_packets, fun _ _ => TcpClient.completions_valid_iff⟩

theorem checksum_gate_iff_runs :
    (∀ frame ∈ ({ checksums := [(false, 0, 1)] } : StreamProcessor).requests,
        frame.verifyChecksum true = true) ∧
      (∀ frame ∈ (({ frameCallback := true }, []) : FrameHandler × List Frame).2,
        frame.verifyChecksum true = true) ∧
      ((∀ frame ∈ (TcpClient.requestAnswered true true).completions,
          frame.verifyChecksum true = true) ↔
        TcpClient.PendingFramesValid true
          (TcpClient.requestTrace ++ TcpClient.answerTrace true)) := by
  have worked : (StreamProcessor.processLoop true { request := true, checksum := true }).Reaches
      [.addFrame (Frame.create 0 1 [8]), .processFrame] { checksums := [(false, 0, 1)] } := rfl
  have gate := checksum_gate_iff true 4 { request := true, checksum := true } []
  exact ⟨gate.2.1 _ _ worked, gate.2.2.2.1 _ rfl,
    gate.2.2.2.2 _ _ (TcpClient.reaches_requestAnswered true true)⟩

/-- A frame sent with its checksum field zero is passed to the request callback by the server, and
completes the call that waits for it in the client. -/
theorem invalid_frame_passes :
    (∃ frame ∈ ClientHandler.requests true
        (ClientHandler.handleRead { id := 4 } [(Frame.create 0 1 [8]).serialize false]).1,
        frame.verifyChecksum true = false) ∧
      ∃ client, (TcpClient.system true).Reaches
          (TcpClient.requestTrace ++ TcpClient.answerTrace false) client ∧
        ∃ frame ∈ client.completions, frame.verifyChecksum true = false := by
  refine ⟨?_, _, TcpClient.reaches_requestAnswered true false,
    (Frame.create 0 1 [8]).onWire false, List.mem_singleton_self _, by decide⟩
  have received := receiveChunk_serialize (show (Frame.create 0 1 [8]).WellFormed by decide) false
  refine ⟨{ (Frame.create 0 1 [8]).onWire false with clientId := 4 }, ?_, by decide⟩
  simp [ClientHandler.handleRead, ClientHandler.readChunk, received, ClientHandler.requests]

end FramedTcp
