import FramedTcp.DescriptorTable
import FramedTcp.ResponseBody

/-!
# The HTTP/2 server with its connections

`main` of `http_server.cpp` serves one connection after the other: it creates a session for an
accepted descriptor, reads and sends until something fails, and releases the session, the descriptor
and the `Http2Session`.  Nothing but `read_callback` releases the buffer of a response.
-/

namespace FramedTcp.Http2

open EventSystems Descriptors

/-- Where `main` stands. -/
inductive HttpServer.Phase
  /-- It is in `accept`. -/
  | accepting
  /-- A descriptor has been accepted. -/
  | creating
  /-- It is in the first `nghttp2_session_send`. -/
  | sendingSettings
  /-- It is in `read`. -/
  | reading
  /-- It is in `nghttp2_session_mem_recv`. -/
  | receiving
  /-- It is in the `nghttp2_session_send` of the loop. -/
  | sending
  /-- The connection is over. -/
  | deletingSession
  /-- The `nghttp2` session is deleted. -/
  | closing
  /-- The descriptor is closed. -/
  | deleting
  deriving DecidableEq

namespace HttpServer

/-- `nghttp2` may send: `handle_post_data` calls `nghttp2_session_send` within
`nghttp2_session_mem_recv`. -/
def Phase.Sends : Phase → Prop
  | .sendingSettings | .receiving | .sending => True
  | _ => False

instance (phase : Phase) : Decidable phase.Sends := by
  cases phase <;> (unfold Phase.Sends; infer_instance)

/-- The connection is being served. -/
def Phase.Serves (phase : Phase) : Prop := phase = .reading ∨ phase.Sends

/-- The client's descriptor has been accepted and not closed. -/
def Phase.holdsSocket : Phase → Bool
  | .accepting | .deleting => false
  | _ => true

/-- A response that `nghttp2` has accepted, with the buffer behind its data provider. -/
structure Provider where
  /-- The number of the session. -/
  connection : ℕ
  /-- The stream. -/
  streamId : Int32
  /-- The buffer that `source.ptr` points to. -/
  buffer : Buffer
  /-- All bytes that `read_callback` has copied. -/
  copied : List UInt8 := []
  /-- Has it raised the `EOF` flag? -/
  eof : Bool := false
  /-- Has `nghttp2` closed the stream? -/
  streamClosed : Bool := false

/-- How often a session has been deleted, and its `Http2Session`. -/
structure Lifetime where
  sessionDeletes : ℕ := 0
  deletes : ℕ := 0
  deriving DecidableEq

end HttpServer

open HttpServer in
/-- The server. -/
structure HttpServer where
  /-- The descriptors. -/
  sockets : DescriptorTable Int32 := {}
  /-- The variable `client_fd`. -/
  clientFd : Int32 := -1
  /-- Where `main` stands. -/
  phase : Phase := .accepting
  /-- What the callbacks see of the last session. -/
  connection : Connection := {}
  /-- The sessions created so far, the last one first. -/
  sessions : List Lifetime := []
  /-- The responses that `nghttp2` has accepted, in order. -/
  providers : List Provider := []

namespace HttpServer

/-- Steps of `main`, with the results of the system calls and of `nghttp2`, and what `nghttp2` does
within its functions: callbacks, and calls of the `read_callback` of a response. -/
inductive Event
  | accept (descriptor : Int32)
  | acceptFailed
  | createSession
  | sendSettings (rv : Int32)
  | read (readLength : ℤ)
  | callback (event : Http2.Event)
  | readData (provider : ℕ) (length : ℕ)
  | memRecv (rv : ℤ)
  | send (rv : Int32)
  | sessionDel
  | close
  | delete

/-- Chunks and frames are delivered while bytes are received; streams are closed then and while
frames are sent. -/
def Phase.Delivers (phase : Phase) : Http2.Event → Prop
  | .streamClose _ => phase.Sends
  | _ => phase = .receiving

instance (phase : Phase) (event : Http2.Event) : Decidable (phase.Delivers event) := by
  cases event <;> (unfold Phase.Delivers; infer_instance)

/-- The response that `nghttp2` accepts in a callback. -/
def accepted (connection : Connection) : Http2.Event → Option Response
  | .frameRecv frame submitted sent =>
      (connection.session.onFrameRecv frame submitted sent).1.bind Post.response
  | _ => none

/-- Does `nghttp2` close the stream? -/
def closes (streamId : Int32) : Http2.Event → Bool
  | .streamClose closed => closed = streamId
  | _ => false

/-- A provider after a callback of the given session. -/
def Provider.notice (number : ℕ) (event : Http2.Event) (provider : Provider) : Provider :=
  if closes provider.streamId event ∧ provider.connection = number then
    { provider with streamClosed := true }
  else
    provider

/-- `nghttp2` asks for data as long as the session and the stream are there and the flag has not
been raised. -/
def Asks (server : HttpServer) (provider : Provider) : Prop :=
  server.phase.Sends ∧ provider.connection = server.sessions.length ∧
    provider.streamClosed = false ∧ provider.eof = false

instance (server : HttpServer) (provider : Provider) : Decidable (server.Asks provider) :=
  inferInstanceAs (Decidable (_ ∧ _))

/-- One step. -/
def step (server : HttpServer) : Event → Option HttpServer
  | .accept descriptor =>
      if server.phase = .accepting ∧ 0 ≤ descriptor.toInt ∧ ¬ server.sockets.IsOpen descriptor then
        some { server with
          sockets := server.sockets.allocate descriptor
          clientFd := descriptor
          phase := .creating }
      else
        none
  | .acceptFailed => if server.phase = .accepting then some server else none
  | .createSession =>
      if server.phase = .creating then
        some { server with
          connection := {}
          sessions := {} :: server.sessions
          phase := .sendingSettings }
      else
        none
  | .sendSettings rv =>
      if server.phase = .sendingSettings then
        some { server with phase := if rv ≠ 0 then .deletingSession else .reading }
      else
        none
  | .read readLength =>
      if server.phase = .reading ∧ readLength ≤ 4096 then
        some { server with phase := if readLength ≤ 0 then .deletingSession else .receiving }
      else
        none
  | .callback event =>
      if server.phase.Delivers event then
        some { server with
          connection := server.connection.step event
          providers := server.providers.map (Provider.notice server.sessions.length event) ++
            (accepted server.connection event).toList.map fun response =>
              { connection := server.sessions.length
                streamId := response.streamId
                buffer := { responseData := response.body } } }
      else
        none
  | .readData number length =>
      match server.providers[number]? with
      | some provider =>
          if server.Asks provider then
            match readCallback (some provider.buffer) length with
            | some (read, some buffer) => some { server with
                providers := server.providers.set number
                  { provider with
                    buffer
                    copied := provider.copied ++ read.copied
                    eof := read.eof } }
            | _ => none
          else
            none
      | none => none
  | .memRecv rv =>
      if server.phase = .receiving then
        some { server with phase := if rv < 0 then .deletingSession else .sending }
      else
        none
  | .send rv =>
      if server.phase = .sending then
        some { server with phase := if rv ≠ 0 then .deletingSession else .reading }
      else
        none
  | .sessionDel =>
      match server.phase, server.sessions with
      | .deletingSession, last :: earlier => some { server with
          sessions := { last with sessionDeletes := last.sessionDeletes + 1 } :: earlier
          phase := .closing }
      | _, _ => none
  | .close =>
      if server.phase = .closing then
        some { server with sockets := server.sockets.close server.clientFd, phase := .deleting }
      else
        none
  | .delete =>
      match server.phase, server.sessions with
      | .deleting, last :: earlier => some { server with
          sessions := { last with deletes := last.deletes + 1 } :: earlier
          phase := .accepting }
      | _, _ => none

/-- The server. -/
def system : EventSystem HttpServer Event where
  init := {}
  step := step

/-- What a step does, and when it is possible. -/
inductive Step (server : HttpServer) : Event → HttpServer → Prop
  | accept {descriptor : Int32} (waiting : server.phase = .accepting)
      (valid : 0 ≤ descriptor.toInt) (fresh : ¬ server.sockets.IsOpen descriptor) :
      Step server (.accept descriptor)
        { server with
          sockets := server.sockets.allocate descriptor
          clientFd := descriptor
          phase := .creating }
  | acceptFailed (waiting : server.phase = .accepting) : Step server .acceptFailed server
  | createSession (creating : server.phase = .creating) :
      Step server .createSession
        { server with
          connection := {}
          sessions := {} :: server.sessions
          phase := .sendingSettings }
  | sendSettings {rv : Int32} (sending : server.phase = .sendingSettings) :
      Step server (.sendSettings rv)
        { server with phase := if rv ≠ 0 then .deletingSession else .reading }
  | read {readLength : ℤ} (reading : server.phase = .reading) (fits : readLength ≤ 4096) :
      Step server (.read readLength)
        { server with phase := if readLength ≤ 0 then .deletingSession else .receiving }
  | callback {event : Http2.Event} (delivers : server.phase.Delivers event) :
      Step server (.callback event)
        { server with
          connection := server.connection.step event
          providers := server.providers.map (Provider.notice server.sessions.length event) ++
            (accepted server.connection event).toList.map fun response =>
              { connection := server.sessions.length
                streamId := response.streamId
                buffer := { responseData := response.body } } }
  | readData {number length : ℕ} {provider : Provider} {read : Read} {buffer : Buffer}
      (found : server.providers[number]? = some provider) (asks : server.Asks provider)
      (called : readCallback (some provider.buffer) length = some (read, some buffer)) :
      Step server (.readData number length)
        { server with
          providers := server.providers.set number
            { provider with
              buffer
              copied := provider.copied ++ read.copied
              eof := read.eof } }
  | memRecv {rv : ℤ} (receiving : server.phase = .receiving) :
      Step server (.memRecv rv)
        { server with phase := if rv < 0 then .deletingSession else .sending }
  | send {rv : Int32} (sending : server.phase = .sending) :
      Step server (.send rv)
        { server with phase := if rv ≠ 0 then .deletingSession else .reading }
  | sessionDel {last : Lifetime} {earlier : List Lifetime}
      (ended : server.phase = .deletingSession) (sessions_eq : server.sessions = last :: earlier) :
      Step server .sessionDel
        { server with
          sessions := { last with sessionDeletes := last.sessionDeletes + 1 } :: earlier
          phase := .closing }
  | close (closing : server.phase = .closing) :
      Step server .close
        { server with sockets := server.sockets.close server.clientFd, phase := .deleting }
  | delete {last : Lifetime} {earlier : List Lifetime} (deleting : server.phase = .deleting)
      (sessions_eq : server.sessions = last :: earlier) :
      Step server .delete
        { server with
          sessions := { last with deletes := last.deletes + 1 } :: earlier
          phase := .accepting }

theorem step_eq_some_iff {server next : HttpServer} {event : Event} :
    server.step event = some next ↔ Step server event next := by
  constructor
  · intro stepped
    cases event with
    | accept descriptor =>
        obtain ⟨⟨waiting, valid, fresh⟩, ⟨⟩⟩ := Option.ite_none_right_eq_some.mp stepped
        exact .accept waiting valid fresh
    | acceptFailed =>
        obtain ⟨waiting, ⟨⟩⟩ := Option.ite_none_right_eq_some.mp stepped
        exact .acceptFailed waiting
    | createSession =>
        obtain ⟨creating, ⟨⟩⟩ := Option.ite_none_right_eq_some.mp stepped
        exact .createSession creating
    | sendSettings rv =>
        obtain ⟨sending, ⟨⟩⟩ := Option.ite_none_right_eq_some.mp stepped
        exact .sendSettings sending
    | read readLength =>
        obtain ⟨⟨reading, fits⟩, ⟨⟩⟩ := Option.ite_none_right_eq_some.mp stepped
        exact .read reading fits
    | callback event =>
        obtain ⟨delivers, ⟨⟩⟩ := Option.ite_none_right_eq_some.mp stepped
        exact .callback delivers
    | readData number length =>
        simp only [step] at stepped
        split at stepped
        · rename_i provider found
          obtain ⟨asks, called⟩ := Option.ite_none_right_eq_some.mp stepped
          split at called
          · rename_i result
            obtain rfl := Option.some.inj called
            exact .readData found asks result
          · contradiction
        · contradiction
    | memRecv rv =>
        obtain ⟨receiving, ⟨⟩⟩ := Option.ite_none_right_eq_some.mp stepped
        exact .memRecv receiving
    | send rv =>
        obtain ⟨sending, ⟨⟩⟩ := Option.ite_none_right_eq_some.mp stepped
        exact .send sending
    | sessionDel =>
        simp only [step] at stepped
        split at stepped
        · rename_i ended sessions_eq
          obtain rfl := Option.some.inj stepped
          exact .sessionDel ended sessions_eq
        · contradiction
    | close =>
        obtain ⟨closing, ⟨⟩⟩ := Option.ite_none_right_eq_some.mp stepped
        exact .close closing
    | delete =>
        simp only [step] at stepped
        split at stepped
        · rename_i deleting sessions_eq
          obtain rfl := Option.some.inj stepped
          exact .delete deleting sessions_eq
        · contradiction
  · intro stepped
    cases stepped with
    | accept waiting valid fresh => exact if_pos ⟨waiting, valid, fresh⟩
    | acceptFailed waiting => exact if_pos waiting
    | createSession creating => exact if_pos creating
    | sendSettings sending => exact if_pos sending
    | read reading fits => exact if_pos ⟨reading, fits⟩
    | callback delivers => exact if_pos delivers
    | readData found asks called => simp [step, found, asks, called]
    | memRecv receiving => exact if_pos receiving
    | send sending => exact if_pos sending
    | sessionDel ended sessions_eq => simp [step, ended, sessions_eq]
    | close closing => exact if_pos closing
    | delete deleting sessions_eq => simp [step, deleting, sessions_eq]

variable {server next : HttpServer} {event : Event}

/-! ## Descriptors and sessions -/

/-- The lifetime of the last session, from its creation to its end. -/
def Phase.lifetimes : Phase → List Lifetime
  | .sendingSettings | .reading | .receiving | .sending | .deletingSession => [{}]
  | .closing | .deleting => [{ sessionDeletes := 1 }]
  | .accepting | .creating => []

/-- Whatever is over has been released once. -/
structure Released (server : HttpServer) : Prop where
  accounted : server.sockets.Accounted
    (if server.phase.holdsSocket then some server.clientFd else none)
  sessions : ∃ finished, server.sessions =
    server.phase.lifetimes ++ List.replicate finished { sessionDeletes := 1, deletes := 1 }
  one_each : server.sockets.closes.length =
    server.sessions.length + if server.phase = .creating then 1 else 0

theorem Released.step (released : server.Released) (stepped : Step server event next) :
    next.Released := by
  obtain ⟨accounted, ⟨finished, sessions_eq⟩, one_each⟩ := released
  cases stepped with
  | accept waiting =>
      rw [waiting] at accounted sessions_eq one_each
      refine ⟨accounted.allocate, ⟨finished, sessions_eq⟩, ?_⟩
      simpa [DescriptorTable.allocate] using one_each
  | acceptFailed => exact ⟨accounted, ⟨finished, sessions_eq⟩, one_each⟩
  | createSession creating =>
      rw [creating] at accounted sessions_eq one_each
      exact ⟨accounted, ⟨finished, congrArg _ sessions_eq⟩, one_each⟩
  | sendSettings phase_eq | read phase_eq | memRecv phase_eq | send phase_eq =>
      rw [phase_eq] at accounted sessions_eq one_each
      split <;> exact ⟨accounted, ⟨finished, sessions_eq⟩, one_each⟩
  | callback | readData => exact ⟨accounted, ⟨finished, sessions_eq⟩, one_each⟩
  | sessionDel ended found =>
      rw [ended] at accounted sessions_eq one_each
      rw [found] at one_each
      obtain ⟨rfl, rfl⟩ := List.cons.inj (found.symm.trans sessions_eq)
      exact ⟨accounted, ⟨finished, rfl⟩, one_each⟩
  | close closing =>
      rw [closing] at accounted sessions_eq one_each
      refine ⟨accounted.close, ⟨finished, sessions_eq⟩, ?_⟩
      rw [DescriptorTable.length_closes_close]
      exact one_each
  | delete deleting found =>
      rw [deleting] at accounted sessions_eq one_each
      rw [found] at one_each
      obtain ⟨rfl, rfl⟩ := List.cons.inj (found.symm.trans sessions_eq)
      exact ⟨accounted, ⟨finished + 1, rfl⟩, one_each⟩

theorem released_of_reaches {trace : List Event} (reached : system.Reaches trace server) :
    server.Released :=
  reached.invariant (motive := fun _ server => server.Released)
    ⟨DescriptorTable.accounted_empty, ⟨0, rfl⟩, rfl⟩
    fun _ released stepped => released.step (step_eq_some_iff.mp stepped)

/-- In every reachable state: an accepted descriptor has been closed once, unless it is the one
being served; one session has been created for each, and once a connection is over its session and
its `Http2Session` have been deleted once; the loop works on an open descriptor and a live
session. -/
theorem connections_released (trace : List Event) (server : HttpServer)
    (reached : system.Reaches trace server) :
    (∀ number count, server.sockets.closes[number]? = some count → count = 1 ∨
      count = 0 ∧ server.phase.holdsSocket = true ∧
        server.sockets.target server.clientFd = some number) ∧
      (∃ finished, server.sessions =
        server.phase.lifetimes ++ List.replicate finished { sessionDeletes := 1, deletes := 1 }) ∧
      server.sockets.closes.length =
        server.sessions.length + (if server.phase = .creating then 1 else 0) ∧
      (server.phase.Serves →
        server.sockets.IsOpen server.clientFd ∧ server.sessions.head? = some {}) := by
  obtain ⟨accounted, ⟨finished, sessions_eq⟩, one_each⟩ := released_of_reaches reached
  refine ⟨fun number count found => ?_, ⟨finished, sessions_eq⟩, one_each, fun serves => ?_⟩
  · rcases accounted.closed_or_stored number count found with
      ⟨once, -⟩ | ⟨rfl, descriptor, stored, owner_eq⟩
    · exact .inl once
    · obtain ⟨holds, ⟨⟩⟩ := Option.ite_none_right_eq_some.mp stored
      exact .inr ⟨rfl, holds, DescriptorTable.target_eq_some_iff.mpr ⟨owner_eq, found⟩⟩
  · have started : server.phase.holdsSocket = true ∧ server.phase.lifetimes = [{}] := by
      rcases serves with reading | sends
      · simp [reading, Phase.holdsSocket, Phase.lifetimes]
      · cases phase_eq : server.phase with
        | sendingSettings | receiving | sending => simp [Phase.holdsSocket, Phase.lifetimes]
        | _ => simp [phase_eq, Phase.Sends] at sends
    rw [sessions_eq, started.2]
    exact ⟨accounted.stored_open _ (by simp [started.1]), rfl⟩

/-- A connection with two requests; the client reads the first response to its end, and closes the
connection after ten bytes of the second. -/
def abandoned : List Event :=
  [.accept 5, .createSession, .sendSettings 0, .read 64, .callback (.dataChunkRecv 1 [65]),
    .callback (.frameRecv { type := .data, flags := 1, streamId := 1 } 0 0), .readData 0 20,
    .callback (.dataChunkRecv 3 [66]),
    .callback (.frameRecv { type := .data, flags := 1, streamId := 3 } 0 0), .readData 1 10,
    .memRecv 64, .readData 0 4096, .send 0, .read 0, .sessionDel, .close, .delete]

theorem exists_reaches_abandoned :
    ∃ server, system.Reaches abandoned server ∧ server.phase = .accepting ∧
      server.providers.map (fun provider => (provider.copied.length, provider.eof)) =
        [(responseBody.length, true), (10, false)] := by
  have ran : (system.run {} abandoned).map (fun server => (server.phase,
      server.providers.map fun provider => (provider.copied.length, provider.eof))) =
        some (.accepting, [(responseBody.length, true), (10, false)]) := by
    decide +kernel
  obtain ⟨server, reached, observed⟩ := Option.map_eq_some_iff.mp ran
  obtain ⟨waiting, copied_eq⟩ := Prod.mk.inj observed
  exact ⟨server, reached, waiting, copied_eq⟩

theorem connections_released_abandoned :
    ∃ server, system.Reaches abandoned server ∧
      ∀ (number count : ℕ), server.sockets.closes[number]? = some count → count = 1 := by
  obtain ⟨server, reached, waiting, -⟩ := exists_reaches_abandoned
  have released := connections_released abandoned server reached
  refine ⟨server, reached, fun number count found => ?_⟩
  refine (released.1 number count found).resolve_right fun unclosed => ?_
  simp [waiting, Phase.holdsSocket] at unclosed

/-! ## Response buffers -/

/-- The bytes copied and those left are the body; the buffer is deleted when none are left. -/
structure Provider.Sound (provider : Provider) : Prop where
  body : provider.copied ++ provider.buffer.responseData = responseBody
  left : provider.eof = false → provider.buffer.deletes = 0 ∧ provider.buffer.responseData ≠ []
  ended : provider.eof = true → provider.buffer.deletes = 1 ∧ provider.buffer.responseData = []

theorem responseBody_ne_nil : responseBody ≠ [] := by decide +kernel

/-- A response that `nghttp2` accepts has been submitted by `handle_post_data`. -/
theorem body_of_accepted {connection : Connection} {event : Http2.Event} {response : Response}
    (taken : accepted connection event = some response) : response.body = responseBody := by
  cases event with
  | dataChunkRecv | streamClose => contradiction
  | frameRecv frame submitted sent =>
      obtain ⟨post, posted, response_eq⟩ := Option.bind_eq_some_iff.mp taken
      by_cases ends : frame.EndsBody
      · cases collected : connection.session.body frame.streamId with
        | none =>
            rw [Http2Session.onFrameRecv_of_empty collected] at posted
            contradiction
        | some data =>
            rw [Http2Session.onFrameRecv_of_collected ends collected] at posted
            obtain rfl := Option.some.inj posted
            unfold handlePostData at response_eq
            split at response_eq
            · contradiction
            · obtain rfl := Option.some.inj response_eq
              rfl
      · rw [Http2Session.onFrameRecv_of_not_endsBody _ ends] at posted
        contradiction

theorem Provider.sound_initial (number : ℕ) {connection : Connection} {event : Http2.Event}
    {response : Response} (taken : accepted connection event = some response) :
    Sound
      { connection := number
        streamId := response.streamId
        buffer := { responseData := response.body } } := by
  rw [body_of_accepted taken]
  exact ⟨rfl, fun _ => ⟨rfl, responseBody_ne_nil⟩, by simp⟩

theorem Provider.connection_notice (number : ℕ) (event : Http2.Event) (provider : Provider) :
    (provider.notice number event).connection = provider.connection := by
  unfold notice
  split <;> rfl

theorem Provider.eof_notice (number : ℕ) (event : Http2.Event) (provider : Provider) :
    (provider.notice number event).eof = provider.eof := by
  unfold notice
  split <;> rfl

theorem Provider.streamClosed_notice (number : ℕ) (event : Http2.Event) (provider : Provider) :
    (provider.notice number event).streamClosed = false ↔ provider.streamClosed = false ∧
      ¬ (closes provider.streamId event = true ∧ provider.connection = number) := by
  unfold notice
  split <;> simp_all

theorem Provider.Sound.notice {provider : Provider} (sound : provider.Sound) (number : ℕ)
    (event : Http2.Event) : (provider.notice number event).Sound := by
  unfold Provider.notice
  split
  · exact ⟨sound.body, sound.left, sound.ended⟩
  · exact sound

/-- A call of `read_callback` is defined, and copies the next bytes. -/
theorem Provider.Sound.readData {provider : Provider} (sound : provider.Sound)
    (unread : provider.eof = false) (length : ℕ) :
    ∃ read buffer, readCallback (some provider.buffer) length = some (read, some buffer) ∧
      read.eof = decide (provider.buffer.responseData.length ≤ length) ∧
      Sound { provider with
        buffer
        copied := provider.copied ++ read.copied
        eof := read.eof } := by
  obtain ⟨body, left, -⟩ := sound
  obtain ⟨undeleted, nonempty⟩ := left unread
  have buffer_eq : provider.buffer = { responseData := provider.buffer.responseData } := by
    rw [← undeleted]
  rcases Nat.lt_or_ge length provider.buffer.responseData.length with more | last
  · have called := readCallback_next more
    rw [← buffer_eq] at called
    refine ⟨_, _, called, (decide_eq_false (Nat.not_le.mpr more)).symm, ?_,
      fun _ => ⟨rfl, ?_⟩, by simp⟩
    · simpa [List.append_assoc] using body
    · simpa using more
  · have called := readCallback_last last
    rw [← buffer_eq] at called
    refine ⟨_, _, called, (decide_eq_true last).symm, ?_, by simp, fun _ => ⟨rfl, rfl⟩⟩
    simpa using body

/-- The streams of a session that have a provider, in order. -/
def streamsOf (number : ℕ) (providers : List Provider) : List Int32 :=
  providers.filterMap fun provider =>
    if provider.connection = number then some provider.streamId else none

theorem streamsOf_append (number : ℕ) (front back : List Provider) :
    streamsOf number (front ++ back) = streamsOf number front ++ streamsOf number back :=
  List.filterMap_append

theorem streamsOf_notice (number current : ℕ) (event : Http2.Event) (providers : List Provider) :
    streamsOf number (providers.map (Provider.notice current event)) =
      streamsOf number providers := by
  rw [streamsOf, List.filterMap_map]
  refine List.filterMap_congr fun provider _ => ?_
  simp only [Function.comp_apply, Provider.notice]
  split <;> rfl

theorem streamsOf_set (number : ℕ) {providers : List Provider} {i : ℕ} {provider : Provider}
    {after : Provider} (found : providers[i]? = some provider)
    (connection_eq : after.connection = provider.connection)
    (streamId_eq : after.streamId = provider.streamId) :
    streamsOf number (providers.set i after) = streamsOf number providers := by
  induction providers generalizing i with
  | nil => simp at found
  | cons first rest induction =>
      cases i with
      | zero =>
          obtain rfl : first = provider := by simpa using found
          simp only [streamsOf, List.set_cons_zero, List.filterMap_cons, connection_eq, streamId_eq]
      | succ i =>
          have later := induction (i := i) (by simpa using found)
          simp only [streamsOf, List.set_cons_succ, List.filterMap_cons] at later ⊢
          rw [later]

theorem streamsOf_eq_nil {number : ℕ} {providers : List Provider}
    (others : ∀ provider ∈ providers, provider.connection ≠ number) :
    streamsOf number providers = [] := by
  rw [streamsOf, List.filterMap_eq_nil_iff]
  exact fun provider member => if_neg (others provider member)

theorem posts_step (connection : Connection) (event : Http2.Event) :
    (connection.step event).posts.filterMap Post.response =
      connection.posts.filterMap Post.response ++ (accepted connection event).toList := by
  cases event with
  | dataChunkRecv | streamClose => simp [Connection.step, accepted]
  | frameRecv frame submitted sent =>
      simp only [Connection.step, accepted, List.filterMap_append, List.append_cancel_left_eq]
      cases (connection.session.onFrameRecv frame submitted sent).1 with
      | none => rfl
      | some post => cases taken : post.response <;> simp [taken]

theorem Phase.Delivers.serves {phase : Phase} {event : Http2.Event}
    (delivers : phase.Delivers event) : phase.Serves := by
  cases event with
  | streamClose => exact .inr delivers
  | dataChunkRecv | frameRecv =>
      obtain rfl : phase = .receiving := delivers
      exact .inr trivial

/-- The providers are sound and belong to the sessions created; those of the session being served
are for the responses that its callbacks have submitted, in order. -/
structure Provided (server : HttpServer) : Prop where
  sound : ∀ provider ∈ server.providers, provider.Sound
  created : ∀ provider ∈ server.providers, provider.connection ≤ server.sessions.length
  submitted : server.phase.Serves →
    streamsOf server.sessions.length server.providers =
      (server.connection.posts.filterMap Post.response).map Response.streamId

theorem Provided.step (provided : server.Provided) (stepped : Step server event next) :
    next.Provided := by
  have ⟨sound, created, submitted⟩ := provided
  cases stepped with
  | accept | close => exact ⟨sound, created, by simp [Phase.Serves, Phase.Sends]⟩
  | acceptFailed => exact provided
  | createSession =>
      refine ⟨sound, fun provider member => Nat.le_succ_of_le (created provider member),
        fun _ => streamsOf_eq_nil fun provider member => ?_⟩
      exact (Nat.lt_succ_of_le (created provider member)).ne
  | sendSettings phase_eq | send phase_eq =>
      refine ⟨sound, created, fun _ => submitted ?_⟩
      rw [phase_eq]
      exact .inr trivial
  | read phase_eq =>
      exact ⟨sound, created, fun _ => submitted (.inl phase_eq)⟩
  | memRecv phase_eq =>
      refine ⟨sound, created, fun _ => submitted ?_⟩
      rw [phase_eq]
      exact .inr trivial
  | sessionDel ended found | delete ended found =>
      refine ⟨sound, fun provider member => ?_, by simp [Phase.Serves, Phase.Sends]⟩
      have bounded := created provider member
      rw [found] at bounded
      exact bounded
  | @callback event delivers =>
      refine ⟨fun provider member => ?_, fun provider member => ?_, fun _ => ?_⟩
      · rcases List.mem_append.mp member with earlier | new
        · obtain ⟨before, before_member, rfl⟩ := List.mem_map.mp earlier
          exact (sound before before_member).notice _ _
        · obtain ⟨response, taken, rfl⟩ := List.mem_map.mp new
          exact Provider.sound_initial _ (Option.mem_toList.mp taken)
      · rcases List.mem_append.mp member with earlier | new
        · obtain ⟨before, before_member, rfl⟩ := List.mem_map.mp earlier
          rw [Provider.connection_notice]
          exact created before before_member
        · obtain ⟨response, -, rfl⟩ := List.mem_map.mp new
          exact le_rfl
      · rw [streamsOf_append, streamsOf_notice, submitted delivers.serves, posts_step,
          List.map_append]
        cases accepted server.connection event with
        | none => rfl
        | some response => simp [streamsOf]
  | @readData number length provider read buffer found asks called =>
      have member := List.mem_of_getElem? found
      obtain ⟨_, _, also_called, -, sound_after⟩ :=
        (sound provider member).readData asks.2.2.2 length
      obtain ⟨rfl, ⟨⟩⟩ := Prod.mk.inj (Option.some.inj (called.symm.trans also_called))
      refine ⟨fun other other_member => ?_, fun other other_member => ?_, fun serves => ?_⟩
      · rcases List.mem_or_eq_of_mem_set other_member with earlier | rfl
        · exact sound other earlier
        · exact sound_after
      · rcases List.mem_or_eq_of_mem_set other_member with earlier | rfl
        · exact created other earlier
        · exact created provider member
      · refine (streamsOf_set _ found ?_ ?_).trans (submitted serves) <;> rfl

theorem provided_of_reaches {trace : List Event} (reached : system.Reaches trace server) :
    server.Provided := by
  refine reached.invariant (motive := fun _ server => server.Provided) ⟨?_, ?_, ?_⟩
    fun _ provided stepped => provided.step (step_eq_some_iff.mp stepped)
  · exact fun provider member => absurd member List.not_mem_nil
  · exact fun provider member => absurd member List.not_mem_nil
  · exact fun _ => rfl

/-- In every reachable state and for every response that `nghttp2` has accepted: the bytes copied
are a front piece of the body, all of it once `EOF` is raised and not before; the buffer is deleted
once then, and untouched by any call of `read_callback` after that, which are all defined.  The
responses of the session being served are those that its callbacks have submitted. -/
theorem responses_streamed (trace : List Event) (server : HttpServer)
    (reached : system.Reaches trace server) :
    (∀ provider ∈ server.providers, provider.copied <+: responseBody ∧
      (provider.eof = true ↔ provider.copied = responseBody) ∧
      provider.buffer.deletes = (if provider.eof then 1 else 0) ∧
      (server.Asks provider → ∀ length,
        (readCallback (some provider.buffer) length).isSome = true)) ∧
      (server.phase.Serves → streamsOf server.sessions.length server.providers =
        (server.connection.posts.filterMap Post.response).map Response.streamId) := by
  have provided := provided_of_reaches reached
  refine ⟨fun provider member => ?_, provided.submitted⟩
  have ⟨body, left, ended⟩ := provided.sound provider member
  refine ⟨⟨_, body⟩, ?_, ?_, fun asks length => ?_⟩
  · cases eof : provider.eof with
    | true =>
        rw [(ended eof).2, List.append_nil] at body
        simp [body]
    | false =>
        refine iff_of_false (by simp) fun whole => (left eof).2 ?_
        rwa [whole, List.append_right_eq_self] at body
  · cases eof : provider.eof with
    | true => simpa using (ended eof).1
    | false => simpa using (left eof).1
  · obtain ⟨read, buffer, called, -⟩ :=
      (provided.sound provider member).readData asks.2.2.2 length
    rw [called]
    rfl

/-- The first response has been copied whole and its buffer deleted; of the second ten bytes have
been copied, and its buffer is kept. -/
theorem responses_streamed_abandoned :
    ∃ server, system.Reaches abandoned server ∧
      (∃ provider ∈ server.providers, provider.copied = responseBody ∧
        provider.buffer.deletes = 1) ∧
      ∃ provider ∈ server.providers, provider.copied.length = 10 ∧
        provider.copied <+: responseBody ∧ provider.buffer.deletes = 0 := by
  obtain ⟨server, reached, -, copied_eq⟩ := exists_reaches_abandoned
  have member_iff (copied : ℕ × Bool) : copied ∈ [(responseBody.length, true), (10, false)] ↔
      ∃ provider ∈ server.providers, (provider.copied.length, provider.eof) = copied := by
    rw [← copied_eq, List.mem_map]
  have streamed := (responses_streamed abandoned server reached).1
  refine ⟨server, reached, ?_, ?_⟩
  · obtain ⟨provider, member, observed⟩ := (member_iff (responseBody.length, true)).mp (by simp)
    obtain ⟨-, ended⟩ := Prod.mk.inj observed
    obtain ⟨-, eof_iff, deletes_eq, -⟩ := streamed provider member
    rw [if_pos ended] at deletes_eq
    exact ⟨provider, member, eof_iff.mp ended, deletes_eq⟩
  · obtain ⟨provider, member, observed⟩ := (member_iff (10, false)).mp (by simp)
    obtain ⟨length_eq, unread⟩ := Prod.mk.inj observed
    obtain ⟨front, -, deletes_eq, -⟩ := streamed provider member
    rw [unread] at deletes_eq
    exact ⟨provider, member, length_eq, front, deletes_eq⟩

/-! ## Lost buffers -/

/-- The buffer of a response is never deleted, whatever follows. -/
def Lost (server : HttpServer) (number : ℕ) : Prop :=
  ∀ later final, system.run server later = some final →
    ∃ provider, final.providers[number]? = some provider ∧ provider.buffer.deletes = 0

/-- `nghttp2` may still ask for the data of the response. -/
def Live (server : HttpServer) (provider : Provider) : Prop :=
  server.phase.Serves ∧ provider.connection = server.sessions.length ∧
    provider.streamClosed = false

/-- Every response accepted has been read to its end or can still be read. -/
def Tidy (server : HttpServer) : Prop :=
  ∀ provider ∈ server.providers, provider.eof = true ∨ server.Live provider

/-- The event ends the loop of a connection. -/
def Event.EndsLoop : Event → Prop
  | .sendSettings rv | .send rv => rv ≠ 0
  | .read readLength => readLength ≤ 0
  | .memRecv rv => rv < 0
  | _ => False

/-- The event closes the stream. -/
def Event.ClosesStream (streamId : Int32) : Event → Prop
  | .callback event => closes streamId event = true
  | _ => False

/-- A stream is closed and a loop is left only when the responses concerned have been read to their
end. -/
def LeavesNothing (server : HttpServer) (event : Event) : Prop :=
  ∀ provider ∈ server.providers, server.Live provider →
    event.EndsLoop ∨ event.ClosesStream provider.streamId → provider.eof = true

/-- What a step does to a response accepted before. -/
structure Follows (server : HttpServer) (event : Event) (next : HttpServer)
    (before after : Provider) : Prop where
  eof_of : before.eof = true → after.eof = true
  of_eof : after.eof = true → before.eof = true ∨ next.Live after
  live_iff : next.Live after ↔
    server.Live before ∧ ¬ (event.EndsLoop ∨ event.ClosesStream before.streamId)

theorem Follows.of_phase {provider : Provider} (sessions_eq : next.sessions = server.sessions)
    (serves_iff : next.phase.Serves ↔ server.phase.Serves ∧ ¬ event.EndsLoop)
    (quiet : ¬ event.ClosesStream provider.streamId) :
    Follows server event next provider provider where
  eof_of := id
  of_eof := .inl
  live_iff := by
    simp only [Live, sessions_eq, serves_iff, quiet, or_false]
    tauto

theorem Follows.of_idle {provider : Provider} (idle : ¬ server.phase.Serves)
    (still_idle : ¬ next.phase.Serves ∨ provider.connection ≠ next.sessions.length) :
    Follows server event next provider provider where
  eof_of := id
  of_eof := .inl
  live_iff := by
    refine iff_of_false (fun live => ?_) fun live => idle live.1.1
    exact still_idle.elim (· live.1) (· live.2.1)

theorem Step.follows (stepped : Step server event next) (provided : server.Provided) {number : ℕ}
    {provider : Provider} (found : server.providers[number]? = some provider) :
    ∃ after, next.providers[number]? = some after ∧ Follows server event next provider after := by
  cases stepped with
  | accept phase_eq | close phase_eq | sessionDel phase_eq | delete phase_eq =>
      refine ⟨provider, found, .of_idle ?_ (.inl ?_)⟩
      all_goals simp [phase_eq, Phase.Serves, Phase.Sends]
  | acceptFailed phase_eq =>
      refine ⟨provider, found, .of_idle ?_ (.inl ?_)⟩
      all_goals simp [phase_eq, Phase.Serves, Phase.Sends]
  | createSession phase_eq =>
      refine ⟨provider, found, .of_idle (by simp [phase_eq, Phase.Serves, Phase.Sends]) (.inr ?_)⟩
      exact (Nat.lt_succ_of_le (provided.created provider (List.mem_of_getElem? found))).ne
  | sendSettings phase_eq | read phase_eq | memRecv phase_eq | send phase_eq =>
      refine ⟨provider, found, .of_phase rfl ?_ (by simp [Event.ClosesStream])⟩
      rw [phase_eq]
      split <;> simp_all [Phase.Serves, Phase.Sends, Event.EndsLoop]
  | @callback event delivers =>
      refine ⟨provider.notice server.sessions.length event, ?_, ?_⟩
      · have bounded := (List.getElem?_eq_some_iff.mp found).1
        rw [List.getElem?_append_left (by simpa using bounded), List.getElem?_map, found]
        rfl
      · refine ⟨fun eof => ?_, fun eof => .inl ?_, ?_⟩
        · rwa [Provider.eof_notice]
        · rwa [Provider.eof_notice] at eof
        · simp only [Live, Provider.connection_notice, Provider.streamClosed_notice,
            Event.EndsLoop, Event.ClosesStream, false_or]
          grind
  | @readData other length asked read buffer other_found asks called =>
      by_cases same : other = number
      · subst same
        obtain rfl := Option.some.inj (other_found.symm.trans found)
        have live : server.Live asked := ⟨.inr asks.1, asks.2.1, asks.2.2.1⟩
        refine ⟨_, List.getElem?_set_self (List.getElem?_eq_some_iff.mp found).1,
          fun eof => ?_, fun _ => .inr live, ?_⟩
        · exact absurd (asks.2.2.2.symm.trans eof) (by simp)
        · exact iff_of_true live ⟨live, by simp [Event.EndsLoop, Event.ClosesStream]⟩
      · refine ⟨provider, ?_, .of_phase rfl ?_ (by simp [Event.ClosesStream])⟩
        · rw [← found]
          exact List.getElem?_set_ne same
        · simp [Event.EndsLoop]

/-- Every response after a step was there before it, or can still be read. -/
theorem Step.follows_or_live (stepped : Step server event next) (provided : server.Provided)
    {after : Provider} (member : after ∈ next.providers) :
    (∃ before ∈ server.providers, Follows server event next before after) ∨ next.Live after := by
  obtain ⟨number, found⟩ := List.getElem?_of_mem member
  by_cases older : number < server.providers.length
  · obtain ⟨also_after, also_found, follows⟩ :=
      stepped.follows provided (List.getElem?_eq_getElem older)
    obtain rfl := Option.some.inj (found.symm.trans also_found)
    exact .inl ⟨_, List.getElem_mem older, follows⟩
  · right
    cases stepped with
    | callback delivers =>
        rw [List.getElem?_append_right (by simpa using older)] at found
        obtain ⟨response, -, rfl⟩ := List.mem_map.mp (List.mem_of_getElem? found)
        exact ⟨delivers.serves, rfl, rfl⟩
    | readData =>
        have bounded := (List.getElem?_eq_some_iff.mp found).1
        rw [List.length_set] at bounded
        exact absurd bounded older
    | _ => exact absurd (List.getElem?_eq_some_iff.mp found).1 older

theorem tidy_step_iff (provided : server.Provided) (tidy : server.Tidy)
    (stepped : Step server event next) : next.Tidy ↔ LeavesNothing server event := by
  constructor
  · intro still_tidy provider member live leaves
    obtain ⟨number, found⟩ := List.getElem?_of_mem member
    obtain ⟨after, after_found, follows⟩ := stepped.follows provided found
    have gone : ¬ next.Live after := fun still => (follows.live_iff.mp still).2 leaves
    have eof := (still_tidy after (List.mem_of_getElem? after_found)).resolve_right gone
    exact (follows.of_eof eof).resolve_right gone
  · intro leaves after member
    rcases stepped.follows_or_live provided member with ⟨before, before_member, follows⟩ | live
    · by_cases eof : before.eof = true
      · exact .inl (follows.eof_of eof)
      · have live := (tidy before before_member).resolve_left eof
        refine .inr (follows.live_iff.mpr ⟨live, fun ends => eof ?_⟩)
        exact leaves before before_member live ends
    · exact .inr live

/-! ### What is lost -/

/-- A response that cannot be read any more stays so. -/
def Gone (number : ℕ) (server : HttpServer) : Prop :=
  server.Provided ∧ ∃ provider, server.providers[number]? = some provider ∧
    provider.eof = false ∧ ¬ server.Live provider

theorem Gone.step {number : ℕ} (gone : server.Gone number) (stepped : Step server event next) :
    next.Gone number := by
  obtain ⟨provided, provider, found, unread, dead⟩ := gone
  obtain ⟨after, after_found, follows⟩ := stepped.follows provided found
  have still_dead : ¬ next.Live after := fun live => dead (follows.live_iff.mp live).1
  refine ⟨provided.step stepped, after, after_found, ?_, still_dead⟩
  rw [← Bool.not_eq_true]
  intro eof
  have read := (follows.of_eof eof).resolve_right still_dead
  exact absurd (unread.symm.trans read) (by simp)

theorem Gone.lost {number : ℕ} (gone : server.Gone number) : server.Lost number := by
  intro later final ran
  have kept (server : HttpServer) (event : Event) (next : HttpServer) (gone : server.Gone number)
      (_ : True) (stepped : system.step server event = some next) : next.Gone number :=
    gone.step (step_eq_some_iff.mp stepped)
  obtain ⟨provided, last, found, unread, -⟩ :=
    EventSystem.run_invariant kept (fun _ _ => trivial) ran gone
  have sound := provided.sound last (List.mem_of_getElem? found)
  exact ⟨last, found, (sound.left unread).1⟩

theorem Lost.of_step {number : ℕ} (lost : server.Lost number)
    (stepped : Step server event next) : next.Lost number := by
  intro later final ran
  have moved : system.step server event = some next := step_eq_some_iff.mpr stepped
  refine lost (event :: later) final ?_
  rw [EventSystem.run, moved, Option.bind_some, ran]

/-- A response that may be asked for can be read to its end. -/
theorem Asks.not_lost {number : ℕ} {provider : Provider} (provided : server.Provided)
    (found : server.providers[number]? = some provider) (asks : server.Asks provider) :
    ¬ server.Lost number := by
  intro lost
  obtain ⟨read, buffer, called, eof, sound⟩ :=
    (provided.sound provider (List.mem_of_getElem? found)).readData asks.2.2.2
      provider.buffer.responseData.length
  have deleted := (sound.ended (by simp [eof])).1
  obtain ⟨last, last_found, undeleted⟩ := lost.of_step (.readData found asks called) [] _ rfl
  rw [List.getElem?_set_self (List.getElem?_eq_some_iff.mp found).1] at last_found
  obtain rfl := Option.some.inj last_found
  rw [deleted] at undeleted
  contradiction

theorem not_lost_iff {number : ℕ} {provider : Provider} (provided : server.Provided)
    (found : server.providers[number]? = some provider) :
    ¬ server.Lost number ↔ provider.eof = true ∨ server.Live provider := by
  constructor
  · intro kept
    by_contra neither
    obtain ⟨unread, gone⟩ := not_or.mp neither
    exact kept (Gone.lost ⟨provided, provider, found, by simpa using unread, gone⟩)
  · rintro available lost
    by_cases eof : provider.eof = true
    · obtain ⟨last, last_found, undeleted⟩ := lost [] server rfl
      obtain rfl := Option.some.inj (found.symm.trans last_found)
      have deleted := ((provided.sound provider (List.mem_of_getElem? found)).ended eof).1
      rw [deleted] at undeleted
      contradiction
    · obtain ⟨serves, current, unclosed⟩ := available.resolve_left eof
      have unread : provider.eof = false := by simpa using eof
      rcases serves with reading | sends
      · -- Another read brings the server to where `nghttp2` may send.
        have stepped : Step server (.read 1) _ := .read reading (by norm_num)
        exact Asks.not_lost (provided.step stepped) found ⟨trivial, current, unclosed, unread⟩
          (lost.of_step stepped)
      · exact Asks.not_lost provided found ⟨sends, current, unclosed, unread⟩ lost

/-- In a run no buffer of a response is ever lost exactly if `nghttp2` closes no stream, and no
connection is ended, before the responses concerned have been read to their end. -/
theorem buffers_freed_iff (trace : List Event) :
    system.Along (fun server => ∀ number < server.providers.length, ¬ server.Lost number) trace ↔
      system.EachStep LeavesNothing trace := by
  have tidy_iff {server : HttpServer} (provided : server.Provided) :
      (∀ number < server.providers.length, ¬ server.Lost number) ↔ server.Tidy := by
    constructor
    · intro kept provider member
      obtain ⟨number, found⟩ := List.getElem?_of_mem member
      exact (not_lost_iff provided found).mp (kept number (List.getElem?_eq_some_iff.mp found).1)
    · intro tidy number inside
      have found := List.getElem?_eq_getElem inside
      exact (not_lost_iff provided found).mpr (tidy _ (List.mem_of_getElem? found))
  refine EventSystem.along_iff_eachStep ?_ ?_ trace
  · exact fun number inside => absurd inside (Nat.not_lt_zero number)
  · intro trace server event next reached kept stepped
    have provided := provided_of_reaches reached
    have moved := step_eq_some_iff.mp stepped
    rw [tidy_iff provided] at kept
    rw [tidy_iff (provided.step moved)]
    exact tidy_step_iff provided kept moved

end HttpServer
end FramedTcp.Http2
