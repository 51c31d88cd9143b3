import FramedTcp.Demo
import FramedTcp.ShortWrites

/-!
# The write threads of the demo

`Client::handleWrite` and `Server::handleWrite` give each queued frame to one call of `send` and do
not look at what it returns.  Here `send` may accept any positive part of the frame.
-/

namespace FramedTcp

open EventSystems ShortWrites

namespace Client

/-- The client with its socket. -/
structure WriteThread where
  /-- The client. -/
  client : Client := {}
  /-- The serialized frames given to `send`, with what it has accepted of them. -/
  sends : List (Write UInt8) := []

/-- Steps of the threads that call `sendMessage` and of the write thread. -/
inductive WriteEvent
  | sendMessage (message : List UInt8) (streamId : UInt32)
  | push (frame : Frame)
  | pop
  | send (sent : ℕ)

/-- One step. -/
def WriteThread.step (enableChecksum : Bool) (state : WriteThread) :
    WriteEvent → Option WriteThread
  | .sendMessage message streamId =>
      some { state with client := state.client.sendMessage message streamId }
  | .push frame =>
      if frame ∈ state.client.sending then
        some { state with client := state.client.push frame }
      else
        none
  | .pop =>
      match state.client.writing, state.client.outgoingFrames with
      | none, frame :: frames => some { state with client := state.client.pop frame frames }
      | _, _ => none
  | .send sent =>
      match state.client.writing with
      | some frame =>
          let data := frame.serialize enableChecksum
          if 0 < sent ∧ sent ≤ data.length then
            some { state with
              client := { state.client with writing := none }
              sends := state.sends ++ [.ofCount data sent] }
          else
            none
      | none => none

/-- The write thread of the client. -/
def writeThread (enableChecksum : Bool) : EventSystem WriteThread WriteEvent where
  init := {}
  step := WriteThread.step enableChecksum

/-- The frame that an event puts into the queue. -/
def WriteEvent.queued? : WriteEvent → Option Frame
  | .push frame => some frame
  | _ => none

/-- The frames put into the queue, in order. -/
def queued (trace : List WriteEvent) : List Frame := trace.filterMap WriteEvent.queued?

/-- The client's write thread sends each buffer once. -/
def singleSend (enableChecksum : Bool) :
    (writeThread enableChecksum).Component (SingleSend.system UInt8) where
  view state :=
    { queue := state.client.outgoingFrames.map (Frame.serialize enableChecksum)
      current := state.client.writing.map (Frame.serialize enableChecksum)
      sends := state.sends }
  project
    | .sendMessage _ _ => none
    | .push frame => some (.push (frame.serialize enableChecksum))
    | .pop => some .pop
    | .send sent => some (.send sent)
  view_init := rfl
  view_step {trace state event next} _ stepped := by
    replace stepped : state.step enableChecksum event = some next := stepped
    cases event with
    | sendMessage message streamId =>
        obtain rfl := Option.some.inj stepped
        rfl
    | push frame =>
        obtain ⟨-, result⟩ := Option.ite_none_right_eq_some.mp stepped
        obtain rfl := Option.some.inj result
        simp [SingleSend.system, SingleSend.step, push]
    | pop =>
        simp only [WriteThread.step] at stepped
        split at stepped
        · rename_i idle waiting
          obtain rfl := Option.some.inj stepped
          simp [SingleSend.system, SingleSend.step, pop, idle, waiting]
        · contradiction
    | send sent =>
        simp only [WriteThread.step] at stepped
        split at stepped
        · rename_i frame writing
          obtain ⟨accepted, result⟩ := Option.ite_none_right_eq_some.mp stepped
          obtain rfl := Option.some.inj result
          simp only [SingleSend.system, SingleSend.step, writing, Option.map_some]
          exact if_pos accepted
        · contradiction

theorem pushed_project (enableChecksum : Bool) (trace : List WriteEvent) :
    SingleSend.pushed (trace.filterMap (singleSend enableChecksum).project) =
      (queued trace).map (Frame.serialize enableChecksum) := by
  rw [SingleSend.pushed, queued, List.filterMap_filterMap, List.map_filterMap]
  refine List.filterMap_congr fun event _ => ?_
  cases event <;> rfl

theorem sends_in_order (enableChecksum : Bool) (trace : List WriteEvent)
    (each : (writeThread enableChecksum).EachStep (fun state event =>
      ∀ sent, event = .send sent →
        ∀ write ∈ state.sends, write.accepted = write.buffer.length) trace)
    (front : List WriteEvent) (front_le : front <+: trace) (state : WriteThread)
    (reached : (writeThread enableChecksum).Reaches front state) :
    channel state.sends <+: ((queued front).map (Frame.serialize enableChecksum)).flatten := by
  have whole := SingleSend.wholeButLast_of_eachStep (singleSend enableChecksum)
    ((each.of_front front_le).imp fun before event earlier_whole count own => by
      cases event with
      | send sent => exact earlier_whole sent rfl
      | _ => simp [singleSend] at own) reached
  rw [← pushed_project]
  exact SingleSend.channel_le ((singleSend enableChecksum).reaches reached) whole

theorem sends_whole_iff (enableChecksum : Bool) (trace : List WriteEvent) (state : WriteThread)
    (reached : (writeThread enableChecksum).Reaches trace state) :
    channel state.sends = (((queued trace).map
        (Frame.serialize enableChecksum)).take state.sends.length).flatten ↔
      ∀ write ∈ state.sends, write.accepted = write.buffer.length := by
  rw [← pushed_project]
  exact SingleSend.channel_eq_taken_iff ((singleSend enableChecksum).reaches reached)

end Client

namespace Server

/-- A connection's stream manager and write thread with the socket. -/
structure WriteThread where
  /-- The stream manager. -/
  streamManager : StreamManager := {}
  /-- Progress of the write thread. -/
  writer : Writer := .idle
  /-- The serialized frames given to `send`, with what it has accepted of them. -/
  sends : List (Write UInt8) := []

/-- Steps of the threads that call `sendFrame` and of the write thread. -/
inductive WriteEvent
  | sendFrame (frame : Frame)
  | hasOutgoingFrames
  | getNextOutgoingFrame
  | send (sent : ℕ)

/-- One step. -/
def WriteThread.step (enableChecksum : Bool) (state : WriteThread) :
    WriteEvent → Option WriteThread
  | .sendFrame frame => some { state with streamManager := state.streamManager.sendFrame frame }
  | .hasOutgoingFrames =>
      match state.writer with
      | .idle =>
          if state.streamManager.hasOutgoingFrames then
            some { state with writer := .ready }
          else
            some state
      | _ => none
  | .getNextOutgoingFrame =>
      match state.writer, state.streamManager.getNextOutgoingFrame with
      | .ready, some (frame, streamManager) => some { state with
          streamManager
          writer := .writing frame }
      | _, _ => none
  | .send sent =>
      match state.writer with
      | .writing frame =>
          let data := frame.serialize enableChecksum
          if 0 < sent ∧ sent ≤ data.length then
            some { state with
              writer := .idle
              sends := state.sends ++ [.ofCount data sent] }
          else
            none
      | _ => none

/-- The write thread of a connection. -/
def writeThread (enableChecksum : Bool) : EventSystem WriteThread WriteEvent where
  init := {}
  step := WriteThread.step enableChecksum

/-- The frame that an event puts into the queue. -/
def WriteEvent.queued? : WriteEvent → Option Frame
  | .sendFrame frame => some frame
  | _ => none

/-- The frames put into the queue, in order. -/
def queued (trace : List WriteEvent) : List Frame := trace.filterMap WriteEvent.queued?

/-- The frame the write thread has taken. -/
def Writer.frame? : Writer → Option Frame
  | .writing frame => some frame
  | _ => none

/-- A connection's write thread sends each buffer once. -/
def singleSend (enableChecksum : Bool) :
    (writeThread enableChecksum).Component (SingleSend.system UInt8) where
  view state :=
    { queue := state.streamManager.outgoingFrames.map (Frame.serialize enableChecksum)
      current := state.writer.frame?.map (Frame.serialize enableChecksum)
      sends := state.sends }
  project
    | .sendFrame frame => some (.push (frame.serialize enableChecksum))
    | .hasOutgoingFrames => none
    | .getNextOutgoingFrame => some .pop
    | .send sent => some (.send sent)
  view_init := rfl
  view_step {trace state event next} _ stepped := by
    replace stepped : state.step enableChecksum event = some next := stepped
    cases event with
    | sendFrame frame =>
        obtain rfl := Option.some.inj stepped
        simp [SingleSend.system, SingleSend.step, StreamManager.sendFrame]
    | hasOutgoingFrames =>
        simp only [WriteThread.step] at stepped
        split at stepped
        · rename_i idle
          split at stepped
          · obtain rfl := Option.some.inj stepped
            simp [idle, Writer.frame?]
          · obtain rfl := Option.some.inj stepped
            rfl
        · contradiction
    | getNextOutgoingFrame =>
        simp only [WriteThread.step] at stepped
        split at stepped
        · rename_i ready taken
          obtain rfl := Option.some.inj stepped
          cases waiting : state.streamManager.outgoingFrames with
          | nil => simp [StreamManager.getNextOutgoingFrame, waiting] at taken
          | cons first rest =>
              simp only [StreamManager.getNextOutgoingFrame, waiting, Option.some.injEq,
                Prod.mk.injEq] at taken
              obtain ⟨rfl, rfl⟩ := taken
              simp [SingleSend.system, SingleSend.step, ready, Writer.frame?]
        · contradiction
    | send sent =>
        simp only [WriteThread.step] at stepped
        split at stepped
        · rename_i frame writing
          obtain ⟨accepted, result⟩ := Option.ite_none_right_eq_some.mp stepped
          obtain rfl := Option.some.inj result
          simp only [SingleSend.system, SingleSend.step, writing, Writer.frame?, Option.map_some]
          exact if_pos accepted
        · contradiction

theorem pushed_project (enableChecksum : Bool) (trace : List WriteEvent) :
    SingleSend.pushed (trace.filterMap (singleSend enableChecksum).project) =
      (queued trace).map (Frame.serialize enableChecksum) := by
  rw [SingleSend.pushed, queued, List.filterMap_filterMap, List.map_filterMap]
  refine List.filterMap_congr fun event _ => ?_
  cases event <;> rfl

theorem sends_in_order (enableChecksum : Bool) (trace : List WriteEvent)
    (each : (writeThread enableChecksum).EachStep (fun state event =>
      ∀ sent, event = .send sent →
        ∀ write ∈ state.sends, write.accepted = write.buffer.length) trace)
    (front : List WriteEvent) (front_le : front <+: trace) (state : WriteThread)
    (reached : (writeThread enableChecksum).Reaches front state) :
    channel state.sends <+: ((queued front).map (Frame.serialize enableChecksum)).flatten := by
  have whole := SingleSend.wholeButLast_of_eachStep (singleSend enableChecksum)
    ((each.of_front front_le).imp fun before event earlier_whole count own => by
      cases event with
      | send sent => exact earlier_whole sent rfl
      | _ => simp [singleSend] at own) reached
  rw [← pushed_project]
  exact SingleSend.channel_le ((singleSend enableChecksum).reaches reached) whole

theorem sends_whole_iff (enableChecksum : Bool) (trace : List WriteEvent) (state : WriteThread)
    (reached : (writeThread enableChecksum).Reaches trace state) :
    channel state.sends = (((queued trace).map
        (Frame.serialize enableChecksum)).take state.sends.length).flatten ↔
      ∀ write ∈ state.sends, write.accepted = write.buffer.length := by
  rw [← pushed_project]
  exact SingleSend.channel_eq_taken_iff ((singleSend enableChecksum).reaches reached)

end Server

/-- If `send` accepts nothing after it has accepted a part of a frame only, both programs put a
front piece of the queued frames on the wire; and the wire carries all frames given to `send`
exactly if each of them has been accepted whole. -/
theorem write_threads_in_order (enableChecksum : Bool) :
    (∀ trace, (Client.writeThread enableChecksum).EachStep (fun state event =>
        ∀ sent, event = .send sent →
          ∀ write ∈ state.sends, write.accepted = write.buffer.length) trace →
      ∀ front, front <+: trace → ∀ state, (Client.writeThread enableChecksum).Reaches front state →
        channel state.sends <+:
          ((Client.queued front).map (Frame.serialize enableChecksum)).flatten) ∧
    (∀ trace, (Server.writeThread enableChecksum).EachStep (fun state event =>
        ∀ sent, event = .send sent →
          ∀ write ∈ state.sends, write.accepted = write.buffer.length) trace →
      ∀ front, front <+: trace → ∀ state, (Server.writeThread enableChecksum).Reaches front state →
        channel state.sends <+:
          ((Server.queued front).map (Frame.serialize enableChecksum)).flatten) ∧
    (∀ trace state, (Client.writeThread enableChecksum).Reaches trace state →
      (channel state.sends = (((Client.queued trace).map
          (Frame.serialize enableChecksum)).take state.sends.length).flatten ↔
        ∀ write ∈ state.sends, write.accepted = write.buffer.length)) ∧
    ∀ trace state, (Server.writeThread enableChecksum).Reaches trace state →
      (channel state.sends = (((Server.queued trace).map
          (Frame.serialize enableChecksum)).take state.sends.length).flatten ↔
        ∀ write ∈ state.sends, write.accepted = write.buffer.length) :=
  ⟨Client.sends_in_order enableChecksum, Server.sends_in_order enableChecksum,
    Client.sends_whole_iff enableChecksum, Server.sends_whole_iff enableChecksum⟩

/-- `send` accepts one byte of the first frame and then the whole second one. -/
def Client.shortTrace : List WriteEvent :=
  [.sendMessage [] 1, .push (Frame.create 1 0 []), .sendMessage [] 1, .push (Frame.create 1 1 []),
    .pop, .send 1, .pop, .send 16]

/-- The second frame follows the first byte of the first one. -/
theorem short_send_splices :
    ∃ state, (Client.writeThread false).Reaches Client.shortTrace state ∧
      channel state.sends = 0 :: (Frame.create 1 1 []).serialize false ∧
      ¬ channel state.sends <+:
        ((Client.queued Client.shortTrace).map (Frame.serialize false)).flatten :=
  ⟨_, rfl, by decide, by decide⟩

end FramedTcp
