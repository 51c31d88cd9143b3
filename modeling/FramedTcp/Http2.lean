import FramedTcp.EventSystem
import FramedTcp.OrderedMap

/-!
# The HTTP/2 server

`http_server.cpp` registers a callback for each chunk of a request body and one for each frame.  The
chunks of a stream are collected in `stream_data`; the end of the body hands them to
`handle_post_data`, which submits the response.  The events are the callbacks `nghttp2` makes, with
what its functions return, and the closing of streams, for which no callback is registered.
-/

namespace FramedTcp.Http2

open EventSystems

/-- `nghttp2_headers_category`. -/
inductive HeadersCategory
  | request
  | response
  | pushResponse
  | headers
  deriving DecidableEq

/-- `hd.type`; a `HEADERS` frame has its category. -/
inductive FrameType
  | data
  | headers (cat : HeadersCategory)
  | other (type : UInt8)
  deriving DecidableEq

/-- Frames of the types that make up a request. -/
def FrameType.OfRequest : FrameType → Prop
  | .data | .headers _ => True
  | .other _ => False

instance (type : FrameType) : Decidable type.OfRequest :=
  match type with
  | .data | .headers _ => .isTrue trivial
  | .other _ => .isFalse id

/-- What `on_frame_recv_callback` reads of a frame. -/
structure Frame where
  /-- `hd.type`. -/
  type : FrameType
  /-- `hd.flags`. -/
  flags : UInt8
  /-- `hd.stream_id`. -/
  streamId : Int32
  deriving DecidableEq

/-- `NGHTTP2_FLAG_END_STREAM`. -/
def flagEndStream : UInt8 := 0x01

/-- Is the flag set? -/
def Frame.endStream (frame : Frame) : Bool := frame.flags &&& flagEndStream ≠ 0

/-- A `DATA` frame with `END_STREAM`. -/
def Frame.EndsBody (frame : Frame) : Prop := frame.type = .data ∧ frame.endStream = true

instance (frame : Frame) : Decidable frame.EndsBody :=
  inferInstanceAs (Decidable (frame.type = .data ∧ frame.endStream = true))

/-! ## Responses -/

/-- What `nghttp2_submit_response` is given. -/
structure Response where
  /-- The stream. -/
  streamId : Int32
  /-- The header fields. -/
  headers : List (String × String)
  /-- The heap buffer behind the data provider. -/
  body : List UInt8

/-- The body of every response. -/
def responseBody : List UInt8 :=
  "\x7b\"status\":\"success\",\"message\":\"数据已接收\"\x7d".toUTF8.toList

/-- The header fields for a body. -/
def responseHeaders (body : List UInt8) : List (String × String) :=
  [(":status", "200"), ("content-type", "application/json"),
    ("content-length", toString body.length)]

/-- A call of `handle_post_data`. -/
structure Post where
  /-- The stream it is called for. -/
  streamId : Int32
  /-- The request body it receives. -/
  data : List UInt8
  /-- The response, if `nghttp2` has taken it. -/
  response : Option Response
  /-- Has it deleted the buffer itself? -/
  freed : Bool
  /-- What it returns; the callback ignores it. -/
  returned : Int32
  /-- The response is for the stream. -/
  streamId_eq : ∀ submitted ∈ response, submitted.streamId = streamId

/-- `handle_post_data`, with the results of `nghttp2_submit_response` and `nghttp2_session_send`. -/
def handlePostData (streamId : Int32) (data : List UInt8) (submitted sent : Int32) : Post :=
  if submitted ≠ 0 then
    { streamId
      data
      response := none
      freed := true
      returned := submitted
      streamId_eq := by simp }
  else
    { streamId
      data
      response := some
        { streamId
          headers := responseHeaders responseBody
          body := responseBody }
      freed := false
      returned := if sent ≠ 0 then sent else 0
      streamId_eq := by simp }

@[simp]
theorem streamId_handlePostData (streamId : Int32) (data : List UInt8) (submitted sent : Int32) :
    (handlePostData streamId data submitted sent).streamId = streamId := by
  unfold handlePostData
  split <;> rfl

@[simp]
theorem data_handlePostData (streamId : Int32) (data : List UInt8) (submitted sent : Int32) :
    (handlePostData streamId data submitted sent).data = data := by
  unfold handlePostData
  split <;> rfl

/-! ## The callbacks -/

/-- The part of `Http2Session` that the callbacks change. -/
structure Http2Session where
  /-- The request bodies, by the identifiers of their streams. -/
  streamData : OrderedMap ℤ (List UInt8) := ∅

namespace Http2Session

/-- `on_data_chunk_recv_callback`: `operator[]` creates a missing entry. -/
def onDataChunkRecv (session : Http2Session) (streamId : Int32) (data : List UInt8) :
    Http2Session :=
  let collected := (session.streamData.lookup streamId.toInt).getD []
  { session with streamData := session.streamData.insert streamId.toInt (collected ++ data) }

/-- `on_frame_recv_callback`: the call of `handle_post_data`, if it makes one. -/
def onFrameRecv (session : Http2Session) (frame : Frame) (submitted sent : Int32) :
    Option Post × Http2Session :=
  match frame.type with
  | .data =>
      if frame.endStream then
        match session.streamData.lookup frame.streamId.toInt with
        | some data => (some (handlePostData frame.streamId data submitted sent),
            { session with streamData := session.streamData.erase frame.streamId.toInt })
        | none => (none, session)
      else
        (none, session)
  | .headers _ => (none, session)
  | .other _ => (none, session)

/-- The collected body of a stream. -/
def body (session : Http2Session) (streamId : Int32) : Option (List UInt8) :=
  session.streamData.lookup streamId.toInt

theorem body_onDataChunkRecv (session : Http2Session) (streamId : Int32) (data : List UInt8)
    (other : Int32) :
    (session.onDataChunkRecv streamId data).body other =
      if streamId = other then some ((session.body other).getD [] ++ data)
      else session.body other := by
  simp only [body, onDataChunkRecv, OrderedMap.lookup_insert, Int32.toInt_inj, eq_comm]
  split
  · rename_i same
    rw [same]
  · rfl

theorem body_erase (session : Http2Session) (streamId other : Int32) :
    body { session with streamData := session.streamData.erase streamId.toInt } other =
      if streamId = other then none else session.body other := by
  simp only [body, OrderedMap.lookup_erase, Int32.toInt_inj, eq_comm]

/-- The end of a body that has been collected hands it over and removes it. -/
theorem onFrameRecv_of_collected {session : Http2Session} {frame : Frame} (ends : frame.EndsBody)
    {data : List UInt8} (collected : session.body frame.streamId = some data)
    (submitted sent : Int32) :
    session.onFrameRecv frame submitted sent =
      (some (handlePostData frame.streamId data submitted sent),
        { session with streamData := session.streamData.erase frame.streamId.toInt }) := by
  rw [body] at collected
  simp only [onFrameRecv, ends.1, ends.2, collected, if_true]

/-- Nothing happens at the end of an empty body, ... -/
theorem onFrameRecv_of_empty {session : Http2Session} {frame : Frame}
    (nothing : session.body frame.streamId = none) (submitted sent : Int32) :
    session.onFrameRecv frame submitted sent = (none, session) := by
  rw [body] at nothing
  unfold onFrameRecv
  split
  · simp only [nothing, ite_self]
  · rfl
  · rfl

/-- ... or when a frame is received that does not end a body. -/
theorem onFrameRecv_of_not_endsBody (session : Http2Session) {frame : Frame}
    (continues : ¬ frame.EndsBody) (submitted sent : Int32) :
    session.onFrameRecv frame submitted sent = (none, session) := by
  unfold onFrameRecv
  split
  · rename_i type_eq
    rw [if_neg fun ends => continues ⟨type_eq, ends⟩]
  · rfl
  · rfl

end Http2Session

/-- What happens on a connection. -/
inductive Event
  | dataChunkRecv (streamId : Int32) (data : List UInt8)
  | frameRecv (frame : Frame) (submitted sent : Int32)
  | streamClose (streamId : Int32)

namespace Event

/-- The stream of an event. -/
def streamId : Event → Int32
  | .dataChunkRecv streamId _ => streamId
  | .frameRecv frame _ _ => frame.streamId
  | .streamClose streamId => streamId

/-- The chunk that is delivered. -/
def chunk? : Event → Option (List UInt8)
  | .dataChunkRecv _ data => some data
  | _ => none

/-- The end of a body. -/
def EndsBody : Event → Prop
  | .frameRecv frame _ _ => frame.EndsBody
  | _ => False

/-- The end of a request: a `DATA` or `HEADERS` frame with `END_STREAM`. -/
def EndsRequest : Event → Prop
  | .frameRecv frame _ _ => frame.type.OfRequest ∧ frame.endStream = true
  | _ => False

instance (event : Event) : Decidable event.EndsRequest :=
  match event with
  | .frameRecv frame _ _ =>
      inferInstanceAs (Decidable (frame.type.OfRequest ∧ frame.endStream = true))
  | .dataChunkRecv _ _ | .streamClose _ => .isFalse id

/-- `nghttp2` takes the response submitted in the event. -/
def SubmitSucceeds : Event → Prop
  | .frameRecv _ submitted _ => submitted = 0
  | _ => True

end Event

/-- A connection: its session, the calls of `handle_post_data`, and the streams that `nghttp2` has
open. -/
structure Connection where
  /-- The session data of the callbacks. -/
  session : Http2Session := {}
  /-- The calls made so far, in order. -/
  posts : List Post := []
  /-- Is the stream open? -/
  openStreams : Int32 → Bool := fun _ => false

namespace Connection

/-- One event; a `HEADERS` frame with a request opens its stream. -/
def step (connection : Connection) : Event → Connection
  | .dataChunkRecv streamId data =>
      { connection with session := connection.session.onDataChunkRecv streamId data }
  | .frameRecv frame submitted sent =>
      let (post, session) := connection.session.onFrameRecv frame submitted sent
      { connection with
        session
        posts := connection.posts ++ post.toList
        openStreams :=
          if frame.type = .headers .request then
            Function.update connection.openStreams frame.streamId true
          else
            connection.openStreams }
  | .streamClose streamId =>
      { connection with openStreams := Function.update connection.openStreams streamId false }

/-- The calls of `handle_post_data` for a stream. -/
def postsOf (connection : Connection) (streamId : Int32) : List Post :=
  connection.posts.filter fun post => post.streamId = streamId

/-- The responses submitted for a stream. -/
def responsesTo (connection : Connection) (streamId : Int32) : List Response :=
  (connection.posts.filterMap Post.response).filter fun response => response.streamId = streamId

theorem responsesTo_eq (connection : Connection) (streamId : Int32) :
    connection.responsesTo streamId = (connection.postsOf streamId).filterMap Post.response := by
  rw [responsesTo, postsOf, List.filter_filterMap, List.filterMap_filter]
  refine List.filterMap_congr fun post _ => ?_
  cases found : post.response with
  | none => simp
  | some response =>
      have own := post.streamId_eq response found
      by_cases same : post.streamId = streamId <;> simp [own, same]

end Connection

/-- One connection. -/
def connection : EventSystem Connection Event where
  init := {}
  step state event := some (state.step event)

/-! ## A stream on its own -/

/-- What the connection has of one stream. -/
structure Stream where
  /-- The collected body. -/
  body : Option (List UInt8) := none
  /-- The calls of `handle_post_data`. -/
  posts : List Post := []
  /-- Is the stream open? -/
  isOpen : Bool := false

/-- An event of the stream. -/
def Stream.step (stream : Stream) : Event → Stream
  | .dataChunkRecv _ data => { stream with body := some (stream.body.getD [] ++ data) }
  | .frameRecv frame submitted sent =>
      { body := if frame.EndsBody then none else stream.body
        posts :=
          if frame.EndsBody then
            stream.posts ++ (stream.body.map fun data =>
              handlePostData frame.streamId data submitted sent).toList
          else
            stream.posts
        isOpen := frame.type = .headers .request || stream.isOpen }
  | .streamClose _ => { stream with isOpen := false }

/-- One stream. -/
def stream : EventSystem Stream Event where
  init := {}
  step state event := some (state.step event)

/-- The part of a connection that belongs to a stream. -/
def Connection.streamOf (connection : Connection) (streamId : Int32) : Stream where
  body := connection.session.body streamId
  posts := connection.postsOf streamId
  isOpen := connection.openStreams streamId

/-- An event changes its own stream as if there were no others, ... -/
theorem streamOf_step_own (connection : Connection) (event : Event) :
    (connection.step event).streamOf event.streamId =
      (connection.streamOf event.streamId).step event := by
  cases event with
  | dataChunkRecv streamId data =>
      simp [Connection.step, Connection.streamOf, Connection.postsOf, Event.streamId, Stream.step,
        Http2Session.body_onDataChunkRecv]
  | frameRecv frame submitted sent =>
      have opened : (if frame.type = .headers .request then
          Function.update connection.openStreams frame.streamId true
        else
          connection.openStreams) frame.streamId =
            (frame.type = .headers .request || connection.openStreams frame.streamId) := by
        split <;> simp [*]
      by_cases ends : frame.EndsBody
      · cases collected : connection.session.body frame.streamId with
        | none =>
            simp [Connection.step, Connection.streamOf, Connection.postsOf, Event.streamId,
              Stream.step, Http2Session.onFrameRecv_of_empty collected, ends, collected, opened]
        | some data =>
            simp [Connection.step, Connection.streamOf, Connection.postsOf, Event.streamId,
              Stream.step, Http2Session.onFrameRecv_of_collected ends collected,
              Http2Session.body_erase, ends, collected, opened]
      · simp [Connection.step, Connection.streamOf, Connection.postsOf, Event.streamId,
          Stream.step, Http2Session.onFrameRecv_of_not_endsBody _ ends, ends, opened]
  | streamClose streamId =>
      simp [Connection.step, Connection.streamOf, Connection.postsOf, Event.streamId, Stream.step]

/-- ... and no other stream. -/
theorem streamOf_step_of_ne (connection : Connection) {event : Event} {streamId : Int32}
    (other : event.streamId ≠ streamId) :
    (connection.step event).streamOf streamId = connection.streamOf streamId := by
  cases event with
  | dataChunkRecv own data =>
      replace other : own ≠ streamId := other
      simp [Connection.step, Connection.streamOf, Connection.postsOf,
        Http2Session.body_onDataChunkRecv, other]
  | frameRecv frame submitted sent =>
      replace other : frame.streamId ≠ streamId := other
      have opened : (if frame.type = .headers .request then
          Function.update connection.openStreams frame.streamId true
        else
          connection.openStreams) streamId = connection.openStreams streamId := by
        split
        · exact Function.update_of_ne other.symm _ _
        · rfl
      by_cases ends : frame.EndsBody
      · cases collected : connection.session.body frame.streamId with
        | none =>
            simp [Connection.step, Connection.streamOf, Connection.postsOf,
              Http2Session.onFrameRecv_of_empty collected, opened]
        | some data =>
            simp [Connection.step, Connection.streamOf, Connection.postsOf,
              Http2Session.onFrameRecv_of_collected ends collected, Http2Session.body_erase, other,
              opened]
      · simp [Connection.step, Connection.streamOf, Connection.postsOf,
          Http2Session.onFrameRecv_of_not_endsBody _ ends, opened]
  | streamClose own =>
      replace other : own ≠ streamId := other
      simp [Connection.step, Connection.streamOf, Connection.postsOf,
        Function.update_of_ne other.symm]

/-- The event, if it is one of the stream. -/
def ownEvent (streamId : Int32) (event : Event) : Option Event :=
  if event.streamId = streamId then some event else none

/-- The events of one stream. -/
def eventsOf (streamId : Int32) (trace : List Event) : List Event :=
  trace.filterMap (ownEvent streamId)

/-- Each stream is a component of its connection: the shared map connects no two of them. -/
def streamComponent (streamId : Int32) : connection.Component stream where
  view state := state.streamOf streamId
  project := ownEvent streamId
  view_init := rfl
  view_step {trace state event next} _ stepped := by
    obtain rfl : state.step event = next := Option.some.inj stepped
    by_cases own : event.streamId = streamId
    · subst own
      simp only [ownEvent, if_pos, streamOf_step_own]
      rfl
    · simp only [ownEvent, if_neg own, streamOf_step_of_ne state own]

end FramedTcp.Http2
