import FramedTcp.TcpServer

/-!
# The RPC server

`rpcServer` answers every request through `TcpServer::response`, which looks the client up in the
shared map by its identifier.  The events of all clients interleave; clients stay connected, and no
descriptor in use is accepted again.  Every connection turns out to run by itself.

The server notices neither the end of a connection nor a failing `recv` or `send`: each of them
leads to `handleClientDisconnect` and so to the destruction of a handler, which belongs to the life
of the handlers.
-/

namespace FramedTcp

open PrefixDecoding EventSystems FrameParser

/-- The clients connected to the server, by descriptor. -/
structure RpcServer where
  /-- The map `clients_`. -/
  clients : Int32 → Option ClientHandler := fun _ => none

namespace RpcServer

/-- Steps of one client's handler. -/
inductive Event
  | accept
  | recv (chunk : List UInt8)
  | dispatch
  | takeBatch
  | send (count : ℕ)
  | nextData

/-- The text put in front of every response. -/
def responsePrefix : List UInt8 := "服务器响应: ".toUTF8.toList

/-- The bytes `response` writes. -/
def responseData (enableChecksum : Bool) (streamId sequence : UInt32) (payload : List UInt8) :
    List UInt8 :=
  (Frame.create streamId sequence payload).serialize enableChecksum

/-- Store a client's handler. -/
def setClient (server : RpcServer) (id : Int32) (handler : Option ClientHandler) : RpcServer :=
  { clients := Function.update server.clients id handler }

/-- `TcpServer::response`. -/
def response (enableChecksum : Bool) (server : RpcServer) (clientId : Int32)
    (streamId sequence : UInt32) (payload : List UInt8) : RpcServer :=
  match server.clients clientId with
  | some handler =>
      server.setClient clientId
        (handler.write (responseData enableChecksum streamId sequence payload))
  | none => server

/-- `rpcServer::handleRequest`. -/
def handleRequest (enableChecksum : Bool) (server : RpcServer) (clientId : Int32)
    (streamId sequence : UInt32) (payload : List UInt8) : RpcServer :=
  server.response enableChecksum clientId streamId sequence (responsePrefix ++ payload)

/-- A step of a connected client's handler. -/
def handlerStep (server : RpcServer) (id : Int32) (next : ClientHandler → Option ClientHandler) :
    Option RpcServer :=
  match server.clients id with
  | some handler => (next handler).map fun handler => server.setClient id (some handler)
  | none => none

/-- One step of the handler of client `id`, whose connection neither ends nor fails. -/
def step (enableChecksum : Bool) (server : RpcServer) (id : Int32) : Event → Option RpcServer
  | .accept =>
      match server.clients id with
      | some _ => none
      | none => some (server.setClient id (some { id }))
  | .recv chunk => server.handlerStep id fun handler => handler.receive chunk
  | .dispatch =>
      match server.clients id with
      | some handler =>
          match handler.frames with
          | frame :: frames =>
              some ((server.setClient id (some { handler with frames })).handleRequest
                enableChecksum handler.id frame.streamId frame.sequence frame.payload)
          | [] => none
      | none => none
  | .takeBatch => server.handlerStep id ClientHandler.takeBatch
  | .send count => server.handlerStep id fun handler => handler.send count
  | .nextData => server.handlerStep id ClientHandler.nextData

/-- The server with the events of all clients. -/
def system (enableChecksum : Bool) : EventSystem RpcServer (Int32 × Event) where
  init := {}
  step server event := server.step enableChecksum event.1 event.2

/-! ## A single connection -/

/-- The response to a request frame. -/
def reply (enableChecksum : Bool) (frame : Frame) : List UInt8 :=
  responseData enableChecksum frame.streamId frame.sequence (responsePrefix ++ frame.payload)

/-- The handler dispatches a frame and is given the response. -/
def answerNext (enableChecksum : Bool) (handler : ClientHandler) : Option ClientHandler :=
  match handler.frames with
  | frame :: frames => some ({ handler with frames }.write (reply enableChecksum frame))
  | [] => none

/-- One connection on its own: the step of its handler. -/
def connectionStep (enableChecksum : Bool) (id : Int32) :
    Option ClientHandler → Event → Option ClientHandler
  | none, .accept => some { id }
  | some handler, .recv chunk => handler.receive chunk
  | some handler, .dispatch => answerNext enableChecksum handler
  | some handler, .takeBatch => handler.takeBatch
  | some handler, .send count => handler.send count
  | some handler, .nextData => handler.nextData
  | _, _ => none

/-- One connection on its own. -/
def connection (enableChecksum : Bool) (id : Int32) :
    EventSystem (Option ClientHandler) Event where
  init := none
  step handler event := (connectionStep enableChecksum id handler event).map some

/-- Every handler is stored under its own identifier. -/
def Keyed (server : RpcServer) : Prop :=
  ∀ id handler, server.clients id = some handler → handler.id = id

/-- A step of the server is a step of one connection. -/
theorem step_eq {server : RpcServer} (keyed : server.Keyed) (enableChecksum : Bool) (id : Int32)
    (event : Event) :
    server.step enableChecksum id event =
      (connectionStep enableChecksum id (server.clients id) event).map
        fun handler => server.setClient id (some handler) := by
  cases found : server.clients id with
  | none =>
      cases event <;> simp [step, handlerStep, connectionStep, found]
  | some handler =>
      have own := keyed id handler found
      cases event with
      | dispatch =>
          cases waiting : handler.frames with
          | nil => simp [step, connectionStep, answerNext, found, waiting]
          | cons frame frames =>
              simp [step, connectionStep, answerNext, found, waiting, own, handleRequest, response,
                reply, setClient]
      | _ => simp [step, handlerStep, connectionStep, found]

/-! ## The history of a connection -/

/-- The bytes received by an event. -/
def Event.chunk? : Event → Option (List UInt8)
  | .recv chunk => some chunk
  | _ => none

/-- All bytes received on a connection. -/
def received (trace : List Event) : List UInt8 := (trace.filterMap Event.chunk?).flatten

@[simp]
theorem received_recv (trace : List Event) (chunk : List UInt8) :
    received (trace ++ [.recv chunk]) = received trace ++ chunk := by
  simp [received, Event.chunk?]

theorem received_concat {trace : List Event} {event : Event} (silent : event.chunk? = none) :
    received (trace ++ [event]) = received trace := by
  simp [received, silent]

/-- What the history of a connection says about its handler. -/
structure Serves (enableChecksum : Bool) (id : Int32) (trace : List Event)
    (handler : ClientHandler) : Prop extends handler.Delivers where
  id_eq : handler.id = id
  frameBuffer_eq : handler.frameBuffer = decoder.residue (received trace)
  pushed_eq : handler.pushed ++ handler.frames.map (reply enableChecksum) =
    (decoder.messages (received trace)).map (reply enableChecksum)

namespace Serves

variable {enableChecksum : Bool} {id : Int32} {trace : List Event} {handler next : ClientHandler}

theorem receive (serves : Serves enableChecksum id trace handler) {chunk : List UInt8}
    (result : handler.receive chunk = some next) :
    Serves enableChecksum id (trace ++ [.recv chunk]) next := by
  obtain ⟨⟨handled, -⟩, rfl⟩ := ClientHandler.receive_eq_some_iff.mp result
  have pushed_eq := serves.pushed_eq
  rw [handled, List.map_nil, List.append_nil] at pushed_eq
  refine ⟨⟨serves.transmitted_eq, serves.totalSent_le⟩, serves.id_eq, ?_, ?_⟩
  · simp only [ClientHandler.readChunk, receiveChunk_eq_feed, PrefixDecoder.feed, received_recv]
    rw [serves.frameBuffer_eq, ← decoder.residue_append]
  · simp only [ClientHandler.readChunk, receiveChunk_eq_feed, PrefixDecoder.feed, received_recv,
      List.map_map]
    rw [serves.frameBuffer_eq, decoder.messages_append (received trace), List.map_append,
      ← pushed_eq]
    rfl

/-- An event that receives nothing keeps the bytes kept and the requests answered or waiting. -/
theorem keep (serves : Serves enableChecksum id trace handler) {event : Event}
    (silent : event.chunk? = none) (delivers : next.Delivers) (same_id : next.id = handler.id)
    (same_buffer : next.frameBuffer = handler.frameBuffer)
    (same_answers : next.pushed ++ next.frames.map (reply enableChecksum) =
      handler.pushed ++ handler.frames.map (reply enableChecksum)) :
    Serves enableChecksum id (trace ++ [event]) next where
  toDelivers := delivers
  id_eq := same_id.trans serves.id_eq
  frameBuffer_eq := by
    rw [received_concat silent, same_buffer]
    exact serves.frameBuffer_eq
  pushed_eq := by
    rw [received_concat silent, same_answers]
    exact serves.pushed_eq

theorem answerNext (serves : Serves enableChecksum id trace handler)
    (result : RpcServer.answerNext enableChecksum handler = some next) :
    Serves enableChecksum id (trace ++ [.dispatch]) next := by
  unfold RpcServer.answerNext at result
  split at result
  · rename_i frame frames waiting
    obtain rfl := Option.some.inj result
    have unqueued : { handler with frames }.Delivers := ⟨serves.transmitted_eq, serves.totalSent_le⟩
    refine serves.keep rfl (unqueued.write _) rfl rfl ?_
    rw [waiting, List.map_cons, ← List.singleton_append, ← List.append_assoc]
    rfl
  · contradiction

theorem takeBatch (serves : Serves enableChecksum id trace handler)
    (result : handler.takeBatch = some next) :
    Serves enableChecksum id (trace ++ [.takeBatch]) next := by
  have delivers := serves.toDelivers.takeBatch result
  obtain ⟨-, rfl⟩ := ClientHandler.takeBatch_eq_some_iff.mp result
  exact serves.keep rfl delivers rfl rfl rfl

theorem send (serves : Serves enableChecksum id trace handler) {count : ℕ}
    (result : handler.send count = some next) :
    Serves enableChecksum id (trace ++ [.send count]) next := by
  have delivers := serves.toDelivers.send result
  obtain ⟨_, _, -, -, rfl⟩ := ClientHandler.send_eq_some_iff.mp result
  exact serves.keep rfl delivers rfl rfl rfl

theorem nextData (serves : Serves enableChecksum id trace handler)
    (result : handler.nextData = some next) :
    Serves enableChecksum id (trace ++ [.nextData]) next := by
  have delivers := serves.toDelivers.nextData result
  obtain ⟨_, _, -, -, rfl⟩ := ClientHandler.nextData_eq_some_iff.mp result
  exact serves.keep rfl delivers rfl rfl rfl

end Serves

/-- In every run of a connection, its handler serves exactly the bytes received. -/
theorem serves_of_reaches {enableChecksum : Bool} {id : Int32} {trace : List Event}
    {handler : ClientHandler}
    (reached : (connection enableChecksum id).Reaches trace (some handler)) :
    Serves enableChecksum id trace handler := by
  suffices ∀ state, (connection enableChecksum id).Reaches trace state →
      (state = none → received trace = []) ∧
        ∀ handler, state = some handler → Serves enableChecksum id trace handler from
    (this _ reached).2 handler rfl
  intro state reached
  refine reached.invariant (motive := fun trace state =>
    (state = none → received trace = []) ∧
      ∀ handler, state = some handler → Serves enableChecksum id trace handler) ?_ ?_
  · exact ⟨fun _ => rfl, nofun⟩
  · rintro trace before event next - ⟨unconnected, earlier⟩ stepped
    obtain ⟨after, moved, rfl⟩ := Option.map_eq_some_iff.mp stepped
    refine ⟨nofun, ?_⟩
    rintro _ ⟨⟩
    cases before with
    | none =>
        cases event with
        | accept =>
            obtain rfl := Option.some.inj moved
            have nothing : received (trace ++ [.accept]) = [] :=
              (received_concat rfl).trans (unconnected rfl)
            exact ⟨.initial id, rfl, by simp [nothing], by simp [nothing]⟩
        | _ => contradiction
    | some handler =>
        have serves := earlier handler rfl
        cases event with
        | accept => contradiction
        | recv chunk => exact serves.receive moved
        | dispatch => exact serves.answerNext moved
        | takeBatch => exact serves.takeBatch moved
        | send count => exact serves.send moved
        | nextData => exact serves.nextData moved

/-! ## All connections -/

/-- A step keeps the handler's identifier and everything that has been sent. -/
theorem connectionStep_keeps {enableChecksum : Bool} {id : Int32} {handler next : ClientHandler}
    {event : Event}
    (stepped : connectionStep enableChecksum id (some handler) event = some next) :
    next.id = handler.id ∧ handler.transmitted <+: next.transmitted := by
  cases event with
  | accept => contradiction
  | recv chunk =>
      obtain ⟨-, rfl⟩ := ClientHandler.receive_eq_some_iff.mp stepped
      exact ⟨rfl, List.prefix_rfl⟩
  | dispatch =>
      simp only [connectionStep, RpcServer.answerNext] at stepped
      split at stepped
      · obtain rfl := Option.some.inj stepped
        exact ⟨rfl, List.prefix_rfl⟩
      · contradiction
  | takeBatch =>
      obtain ⟨-, rfl⟩ := ClientHandler.takeBatch_eq_some_iff.mp stepped
      exact ⟨rfl, List.prefix_rfl⟩
  | send count =>
      obtain ⟨_, _, -, -, rfl⟩ := ClientHandler.send_eq_some_iff.mp stepped
      exact ⟨rfl, List.prefix_append _ _⟩
  | nextData =>
      obtain ⟨_, _, -, -, rfl⟩ := ClientHandler.nextData_eq_some_iff.mp stepped
      exact ⟨rfl, List.prefix_rfl⟩

theorem connectionStep_id {enableChecksum : Bool} {id : Int32} {state : Option ClientHandler}
    {event : Event} {next : ClientHandler}
    (keyed : ∀ handler, state = some handler → handler.id = id)
    (stepped : connectionStep enableChecksum id state event = some next) : next.id = id := by
  cases state with
  | none =>
      cases event with
      | accept => exact Option.some.inj stepped ▸ rfl
      | _ => contradiction
  | some handler => exact (connectionStep_keeps stepped).1.trans (keyed handler rfl)

theorem keyed_of_reaches {enableChecksum : Bool} {trace : List (Int32 × Event)}
    {server : RpcServer} (reached : (system enableChecksum).Reaches trace server) :
    server.Keyed := by
  refine reached.invariant (motive := fun _ server => server.Keyed) nofun ?_
  rintro trace before ⟨id, event⟩ next - keyed stepped
  change before.step enableChecksum id event = some next at stepped
  rw [step_eq keyed] at stepped
  obtain ⟨after, moved, rfl⟩ := Option.map_eq_some_iff.mp stepped
  intro other handler found
  simp only [setClient, Function.update_apply] at found
  split at found
  · rename_i same
    subst same
    obtain rfl := Option.some.inj found
    exact connectionStep_id (keyed other) moved
  · exact keyed other handler found

/-- The event of one client, if it is one of `id`. -/
def ownEvent (id : Int32) (event : Int32 × Event) : Option Event :=
  if event.1 = id then some event.2 else none

/-- Each connection is a component of the server: the shared map and parser connect no two of
them. -/
def connectionComponent (enableChecksum : Bool) (id : Int32) :
    (system enableChecksum).Component (connection enableChecksum id) where
  view server := server.clients id
  project := ownEvent id
  view_init := rfl
  view_step := by
    rintro trace server ⟨client, event⟩ next reached stepped
    change server.step enableChecksum client event = some next at stepped
    rw [step_eq (keyed_of_reaches reached)] at stepped
    obtain ⟨after, moved, rfl⟩ := Option.map_eq_some_iff.mp stepped
    by_cases own : client = id
    · subst own
      simp [ownEvent, setClient, connection, moved]
    · simp [ownEvent, own, setClient, Function.update_of_ne (Ne.symm own)]

/-- All bytes received from one client. -/
def bytesReceived (id : Int32) (trace : List (Int32 × Event)) : List UInt8 :=
  received (trace.filterMap (ownEvent id))

/-- In every run of the server, each handler serves exactly the bytes received from its client. -/
theorem serves_of_clients {enableChecksum : Bool} {trace : List (Int32 × Event)}
    {server : RpcServer} (reached : (system enableChecksum).Reaches trace server) {id : Int32}
    {handler : ClientHandler} (found : server.clients id = some handler) :
    Serves enableChecksum id (trace.filterMap (ownEvent id)) handler := by
  have own_run := (connectionComponent enableChecksum id).reaches reached
  change (connection enableChecksum id).Reaches _ (server.clients id) at own_run
  rw [found] at own_run
  exact serves_of_reaches own_run

/-- What is pushed to a client's queue is one response for each of its request frames, in order, and
depends on the bytes received from this client only. -/
theorem responses_depend_on_own_bytes (enableChecksum : Bool) (id : Int32)
    (trace : List (Int32 × Event)) (server : RpcServer) (handler : ClientHandler)
    (reached : (system enableChecksum).Reaches trace server)
    (found : server.clients id = some handler) (processed : handler.frames = []) :
    handler.pushed =
        (processData (bytesReceived id trace)).1.map (fun frame =>
          (Frame.create frame.streamId frame.sequence
            (responsePrefix ++ frame.payload)).serialize enableChecksum) ∧
      ∀ (otherTrace : List (Int32 × Event)) (otherServer : RpcServer)
        (otherHandler : ClientHandler),
        (system enableChecksum).Reaches otherTrace otherServer →
          otherServer.clients id = some otherHandler → otherHandler.frames = [] →
          bytesReceived id otherTrace = bytesReceived id trace →
          otherHandler.pushed = handler.pushed := by
  have pushed_eq {trace : List (Int32 × Event)} {server : RpcServer} {handler : ClientHandler}
      (reached : (system enableChecksum).Reaches trace server)
      (found : server.clients id = some handler) (processed : handler.frames = []) :
      handler.pushed =
        (processData (bytesReceived id trace)).1.map (reply enableChecksum) := by
    have serves := (serves_of_clients reached found).pushed_eq
    rw [processed, List.map_nil, List.append_nil] at serves
    rw [serves, processData_frames, bytesReceived]
  refine ⟨pushed_eq reached found processed, ?_⟩
  intro otherTrace otherServer otherHandler other_reached other_found other_processed same
  rw [pushed_eq reached found processed, pushed_eq other_reached other_found other_processed, same]

/-- Two clients are connected. -/
def twoConnected : RpcServer :=
  (({} : RpcServer).setClient 4 (some { id := 4 })).setClient 5 (some { id := 5 })

/-- The first of two clients sends a frame, which is answered. -/
def twoClients : List (Int32 × Event) :=
  [(4, .accept), (5, .accept)] ++ [(4, .recv ((Frame.create 9 1 [7]).serialize false))] ++
    [(4, .dispatch)]

theorem responses_depend_on_own_bytes_two_clients :
    ∃ server handler, (system false).Reaches twoClients server ∧
      server.clients 4 = some handler ∧
      handler.pushed = (processData (bytesReceived 4 twoClients)).1.map (fun frame =>
        (Frame.create frame.streamId frame.sequence
          (responsePrefix ++ frame.payload)).serialize false) := by
  let request : Frame := { (Frame.create 9 1 [7]).onWire false with clientId := 4 }
  have received := receiveChunk_serialize (show (Frame.create 9 1 [7]).WellFormed by decide) false
  have nonempty : (Frame.create 9 1 [7]).serialize false ≠ [] := nofun
  have connected : (system false).Reaches [(4, .accept), (5, .accept)] twoConnected := rfl
  have parsed : (system false).step twoConnected
      (4, .recv ((Frame.create 9 1 [7]).serialize false)) =
      some (twoConnected.setClient 4 (some { id := 4, frames := [request] })) := by
    have present : twoConnected.clients 4 = some { id := 4 } := rfl
    simp [system, step, handlerStep, present, ClientHandler.receive, ClientHandler.readChunk,
      received, nonempty, request]
  have run : (system false).Reaches twoClients _ := EventSystem.reaches_concat.mpr
    ⟨_, EventSystem.reaches_concat.mpr ⟨_, connected, parsed⟩, rfl⟩
  exact ⟨_, _, run, rfl, (responses_depend_on_own_bytes false 4 _ _ _ run rfl rfl).1⟩

end RpcServer
end FramedTcp
