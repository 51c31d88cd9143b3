import FramedTcp.DemoProcess

/-!
# Stopping the client against its server

`stop` waits for the read thread, which sits in `recv` until the server sends something; and the
server, which waits for the client to close, only sends what it has been asked for.  So `stop` hangs
once everything has been answered.  Each `send` returns having taken its whole frame: after a short
one, the server would wait for the rest of a request, and `stop` could hang earlier.
-/

namespace FramedTcp

open PrefixDecoding EventSystems FrameParser Server

/-- The bytes received for which not all responses have been queued. -/
def Server.Connection.unserved (server : Connection) : List UInt8 :=
  match server.handling with
  | some (_, frameLength, i) =>
      if i = 5 then
        server.frameBuffer.drop (Frame.headerSize + frameLength.toNat)
      else
        server.frameBuffer
  | none => server.frameBuffer

namespace Demo

/-- The request bytes, received, under way or about to be sent, for which not all responses have
been queued. -/
def unserved (enableChecksum : Bool) (demo : Demo) : List UInt8 :=
  demo.server.unserved ++ (demo.requests ++
    (demo.client.writing.toList.map (Frame.serialize enableChecksum)).flatten)

/-- No response will come to the client unless it takes another frame from its queue. -/
structure Exhausted (enableChecksum : Bool) (demo : Demo) : Prop where
  incomplete : frontFrame (demo.unserved enableChecksum) = .incomplete
  queue : demo.server.streamManager.outgoingFrames = []
  taken : demo.server.writer.taken = []
  responses : demo.responses = []

variable {enableChecksum : Bool} {demo next : Demo} {event : Event}

theorem frontFrame_append {bytes : List UInt8} {frame : Frame} {frameLength : UInt32}
    (completed : frontFrame bytes = .completed frame frameLength) (more : List UInt8) :
    frontFrame (bytes ++ more) = .completed frame frameLength := by
  obtain ⟨length_eq, found⟩ := frontFrame_eq_completed_iff.mp completed
  exact frontFrame_eq_completed_iff.mpr ⟨length_eq, decoder.next_append found more⟩

namespace Orderly

theorem initial : Orderly {} := ⟨nofun, nofun⟩

/-- What the server's threads have found, they find again. -/
theorem step (orderly : Orderly demo.server) (stepped : Step enableChecksum demo event next) :
    Orderly next.server := by
  obtain ⟨handling, ready⟩ := orderly
  cases stepped with
  | sendMessage | push | pop | sendRequest | recvResponses | outputFrame | hasNoOutgoingFrames =>
      exact ⟨handling, ready⟩
  | recvRequests idle => exact ⟨fun found => absurd (idle.symm.trans found) (by simp), ready⟩
  | handleFrame idle complete =>
      refine ⟨fun found => ?_, ready⟩
      obtain ⟨rfl, rfl, rfl⟩ : _ = _ ∧ _ = _ ∧ _ = _ := by simpa using found
      exact ⟨Nat.zero_le 5, complete⟩
  | respond found more =>
      refine ⟨fun after => ?_, by simp [Connection.respond, StreamManager.sendFrame]⟩
      obtain ⟨rfl, rfl, rfl⟩ : _ = _ ∧ _ = _ ∧ _ = _ := by simpa [Connection.respond] using after
      exact ⟨more, (handling found).2⟩
  | eraseFrame => exact ⟨by simp [Connection.eraseFrame], ready⟩
  | hasOutgoingFrames _ nonempty => exact ⟨handling, fun _ => nonempty⟩
  | getNextOutgoingFrame | sendResponse => exact ⟨handling, by simp⟩

theorem of_reaches {trace : List Event} (reached : (system enableChecksum).Reaches trace demo) :
    Orderly demo.server :=
  reached.invariant (motive := fun _ demo => Orderly demo.server) initial
    fun _ orderly stepped => orderly.step (step_of_eq_some stepped)

/-- A frame that still has to be answered is complete. -/
theorem frontFrame_unserved (orderly : Orderly demo.server) {frame : Frame} {frameLength : UInt32}
    {i : ℕ} (handling : demo.server.handling = some (frame, frameLength, i)) (more : i < 5)
    (bytes : List UInt8) :
    frontFrame (demo.server.unserved ++ bytes) = .completed frame frameLength := by
  have unserved_eq : demo.server.unserved = demo.server.frameBuffer := by
    simp [Connection.unserved, handling, more.ne]
  rw [unserved_eq]
  exact frontFrame_append (orderly.handling handling).2 bytes

end Orderly

theorem exhausted_congr
    (unserved_eq : next.unserved enableChecksum = demo.unserved enableChecksum)
    (queue_eq : next.server.streamManager.outgoingFrames =
      demo.server.streamManager.outgoingFrames)
    (taken_eq : next.server.writer.taken = demo.server.writer.taken)
    (responses_eq : next.responses = demo.responses) :
    Exhausted enableChecksum next ↔ Exhausted enableChecksum demo := by
  constructor
  · rintro ⟨incomplete, queue, taken, responses⟩
    exact ⟨unserved_eq ▸ incomplete, queue_eq ▸ queue, taken_eq ▸ taken, responses_eq ▸ responses⟩
  · rintro ⟨incomplete, queue, taken, responses⟩
    exact ⟨unserved_eq ▸ incomplete, queue_eq ▸ queue, taken_eq ▸ taken, responses_eq ▸ responses⟩

/-- Only a `recv` of the client can leave the server with nothing to come, and only the client's
taking a frame can change that. -/
theorem exhausted_iff_of_step (orderly : Orderly demo.server)
    (unread : ∀ bytesRead, event ≠ .recvResponses bytesRead) (untaken : event ≠ .pop)
    (stepped : Step enableChecksum demo event next) :
    Exhausted enableChecksum next ↔ Exhausted enableChecksum demo := by
  cases stepped with
  | pop => exact absurd rfl untaken
  | recvResponses => exact absurd rfl (unread _)
  | sendMessage | push | outputFrame | hasNoOutgoingFrames =>
      exact exhausted_congr rfl rfl rfl rfl
  | sendRequest writing =>
      exact exhausted_congr (by simp [unserved, writing]) rfl rfl rfl
  | @recvRequests bytesRead idle =>
      refine exhausted_congr ?_ rfl rfl rfl
      simp only [unserved, Connection.unserved, idle, List.append_assoc]
      rw [← List.append_assoc (demo.requests.take bytesRead), List.take_append_drop]
  | handleFrame idle =>
      exact exhausted_congr (by simp [unserved, Connection.unserved, idle]) rfl rfl rfl
  | @eraseFrame frame frameLength handling =>
      refine exhausted_congr ?_ rfl rfl rfl
      simp [unserved, Connection.unserved, Connection.eraseFrame, handling]
  | hasOutgoingFrames idle =>
      exact exhausted_congr rfl rfl (by simp [idle, Writer.taken]) rfl
  | respond handling more =>
      -- a response comes before and after
      refine iff_of_false (fun exhausted => ?_) fun exhausted => ?_
      · simpa [Connection.respond, StreamManager.sendFrame] using exhausted.queue
      · have incomplete := exhausted.incomplete
        rw [unserved, orderly.frontFrame_unserved handling more] at incomplete
        contradiction
  | getNextOutgoingFrame ready queue =>
      refine iff_of_false (fun exhausted => ?_) fun exhausted => ?_
      · simpa [Writer.taken] using exhausted.taken
      · exact absurd (queue.symm.trans exhausted.queue) (by simp)
  | @sendResponse frame writing =>
      refine iff_of_false (fun exhausted => ?_) fun exhausted => ?_
      · have empty := congrArg List.length exhausted.responses
        simp [Frame.length_serialize, Frame.headerSize] at empty
      · simpa [writing, Writer.taken] using exhausted.taken

end Demo

namespace DemoProcess

/-- No new message and no spurious wakeup. -/
def Event.Ordinary : Event → Prop
  | .client event => event.Ordinary
  | .server _ => True

/-- The client has closed its socket, and `stop` has returned. -/
def Stopped (state : DemoProcess) : Prop := state.process.Stopped

/-- The read thread is in `recv`, and nothing will come. -/
def Starved (enableChecksum : Bool) (state : DemoProcess) : Prop :=
  state.process.readThread = .receiving ∧ state.demo.Exhausted enableChecksum

variable {enableChecksum : Bool} {trace : List Event} {state next : DemoProcess} {event : Event}

theorem orderly_of_reaches (reached : (system enableChecksum).Reaches trace state) :
    Demo.Orderly state.server := by
  obtain ⟨abstract, abstract_reached, -⟩ := exists_demo_run reached
  exact Demo.Orderly.of_reaches abstract_reached

/-! ## What is still to come -/

/-- Once `running_` is cleared the client takes no frame, so that only its `recv` matters. -/
theorem exhausted_afterClient {event : ClientProcess.Event} {process : ClientProcess}
    {history : List ClientProcess.Event} (threads : Threads enableChecksum history state.process)
    (orderly : Demo.Orderly state.server) (ended : state.process.running = false)
    (possible : state.Possible event) (unread : event.chunk? = none)
    (stepped : ClientProcess.Step enableChecksum state.process event process) :
    (state.afterClient enableChecksum event process).demo.Exhausted enableChecksum ↔
      state.demo.Exhausted enableChecksum := by
  have ran := run_followed threads possible stepped
  have same {own : Demo.Event} (followed : state.process.followed event = [own])
      (unread : ∀ bytesRead, own ≠ .recvResponses bytesRead) (untaken : own ≠ .pop) :
      (state.afterClient enableChecksum event process).demo.Exhausted enableChecksum ↔
        state.demo.Exhausted enableChecksum := by
    rw [followed] at ran
    exact Demo.exhausted_iff_of_step orderly unread untaken (run_singleton.mp ran)
  cases stepped with
  | recv => contradiction
  | takeFrame _ running => simp [ended] at running
  | sendMessage | push | send | outputFrame => exact same rfl nofun nofun
  | _ =>
      rw [demo_afterClient _ rfl rfl]
      exact Iff.rfl

theorem exhausted_afterServer {event : Demo.Event} {demo : Demo}
    (orderly : Demo.Orderly state.server) (own : event.ofServer)
    (stepped : Demo.Step enableChecksum state.demo event demo) :
    (state.afterServer demo).demo.Exhausted enableChecksum ↔
      state.demo.Exhausted enableChecksum := by
  rw [demo_afterServer own stepped]
  refine Demo.exhausted_iff_of_step orderly ?_ ?_ stepped
  · rintro bytesRead rfl
    contradiction
  · rintro rfl
    contradiction

/-- A starved read thread stays so, whatever happens. -/
theorem Starved.step (starved : state.Starved enableChecksum)
    (reached : (system enableChecksum).Reaches trace state)
    (ended : state.process.running = false)
    (stepped : (system enableChecksum).step state event = some next) :
    next.Starved enableChecksum := by
  obtain ⟨receiving, exhausted⟩ := starved
  have orderly := orderly_of_reaches reached
  cases step_eq_some_iff.mp stepped with
  | server own _ moved => exact ⟨receiving, (exhausted_afterServer orderly own moved).mpr exhausted⟩
  | @client event process possible moved =>
      have unread : event.chunk? = none := by
        cases moved with
        | recv _ nonempty =>
            have sent : _ <+: state.responses := possible
            rw [show state.responses = [] from exhausted.responses, List.prefix_nil] at sent
            exact absurd sent nonempty
        | _ => rfl
      refine ⟨?_, (exhausted_afterClient (threads_of_reaches reached) orderly ended possible unread
        moved).mpr exhausted⟩
      cases moved with
      | recv => contradiction
      | endOfStream => exact possible.elim
      | readRunning looping => exact absurd (looping.symm.trans receiving) (by simp)
      | _ => exact receiving

/-- As long as something will come to the read thread, it is not starved. -/
theorem not_starved_of_step (fed : ¬ state.Starved enableChecksum)
    (reached : (system enableChecksum).Reaches trace state)
    (ended : state.process.running = false)
    (stepped : (system enableChecksum).step state event = some next) :
    ¬ next.Starved enableChecksum := by
  rintro ⟨receiving, exhausted⟩
  have orderly := orderly_of_reaches reached
  cases step_eq_some_iff.mp stepped with
  | server own _ moved =>
      exact fed ⟨receiving, (exhausted_afterServer orderly own moved).mp exhausted⟩
  | @client event process possible moved =>
      have unread : event.chunk? = none := by
        cases moved with
        | recv => simp at receiving
        | _ => rfl
      exact fed ⟨ClientProcess.receiving_of_step ended moved receiving,
        (exhausted_afterClient (threads_of_reaches reached) orderly ended possible unread
          moved).mp exhausted⟩

/-- A server with something queued or taken can go on to send it. -/
theorem exists_writer_step (orderly : Demo.Orderly state.server)
    (busy : state.server.streamManager.outgoingFrames ≠ [] ∨ state.server.writer.taken ≠ []) :
    ∃ event demo, event.ofServer ∧ event.effective state.demo ∧
      Demo.Step enableChecksum state.demo event demo := by
  cases writer : state.server.writer with
  | idle =>
      have nonempty : state.server.streamManager.outgoingFrames ≠ [] := by
        simpa [writer, Writer.taken] using busy
      have effective : Demo.Event.hasOutgoingFrames.effective state.demo := by
        simpa [Demo.Event.effective, StreamManager.hasOutgoingFrames, demo] using nonempty
      exact ⟨.hasOutgoingFrames, _, rfl, effective, .hasOutgoingFrames writer nonempty⟩
  | ready =>
      obtain ⟨frame, frames, queue⟩ := List.exists_cons_of_ne_nil (orderly.ready writer)
      exact ⟨.getNextOutgoingFrame, _, rfl, rfl, .getNextOutgoingFrame writer queue⟩
  | writing frame => exact ⟨.sendResponse, _, rfl, rfl, .sendResponse writer⟩

/-- A server with a request that is complete, or will be, can go on to answer it, unless the client
has still to send it. -/
theorem exists_reader_step (orderly : Demo.Orderly state.server)
    (complete : frontFrame (state.demo.unserved enableChecksum) ≠ .incomplete) :
    state.process.client.writing ≠ none ∨
      ∃ event demo, event.ofServer ∧ event.effective state.demo ∧
        Demo.Step enableChecksum state.demo event demo := by
  cases handling : state.server.handling with
  | some current =>
      obtain ⟨frame, frameLength, i⟩ := current
      rcases (orderly.handling handling).1.lt_or_eq with more | rfl
      · exact .inr ⟨.respond, _, rfl, rfl, .respond handling more⟩
      · exact .inr ⟨.eraseFrame, _, rfl, rfl, .eraseFrame handling⟩
  | none =>
      cases front : frontFrame state.server.frameBuffer with
      | completed frame frameLength =>
          exact .inr ⟨.handleFrame, _, rfl, rfl, .handleFrame handling front⟩
      | thrown message =>
          rw [frontFrame_eq] at front
          rcases parseAt_eq state.server.frameBuffer 0 with ⟨-, incomplete⟩ | ⟨_, completed, -⟩
          · rw [front] at incomplete
            contradiction
          · rw [front] at completed
            contradiction
      | incomplete =>
          by_cases received : state.requests = []
          · refine .inl fun idle => complete ?_
            simpa [Demo.unserved, Connection.unserved, demo, handling, received, idle] using front
          · have positive := List.length_pos_iff.mpr received
            exact .inr ⟨.recvRequests (min 1024 state.requests.length), _, rfl, rfl,
              .recvRequests handling front (by omega) (Nat.min_le_left _ _)
                (Nat.min_le_right _ _)⟩

/-! ## When `stop` returns -/

/-- While `stop` waits for a thread that is neither doomed nor starved, some thread can go on. -/
theorem stopped_or_possible {history : List ClientProcess.Event}
    (threads : Threads enableChecksum history state.process) (orderly : Demo.Orderly state.server)
    (called : state.process.stopping ≠ .notCalled) (alive : ¬ state.process.Doomed)
    (fed : ¬ state.Starved enableChecksum) :
    state.Stopped ∨
      ∃ event next, event.Ordinary ∧ (effective enableChecksum).step state event = some next := by
  by_cases stopped : state.Stopped
  · exact .inl stopped
  right
  have client {event : ClientProcess.Event} {process : ClientProcess}
      (stepped : ClientProcess.Step enableChecksum state.process event process)
      (possible : state.Possible event) (ordinary : event.Ordinary) :
      ∃ event next, event.Ordinary ∧ (effective enableChecksum).step state event = some next :=
    ⟨.client event, _, ordinary, effective_client possible stepped⟩
  have server (possible : ∃ event demo, event.ofServer ∧ event.effective state.demo ∧
      Demo.Step enableChecksum state.demo event demo) :
      ∃ event next, event.Ordinary ∧ (effective enableChecksum).step state event = some next := by
    obtain ⟨event, demo, own, effective, stepped⟩ := possible
    exact ⟨.server event, _, trivial, effective_server own stopped effective stepped⟩
  by_cases receiving : state.process.readThread = .receiving
  · -- the read thread waits for what is still to come
    by_contra stuck
    refine fed ⟨receiving, ?_, ?_, ?_, ?_⟩
    · by_contra complete
      rcases exists_reader_step orderly complete with taken | possible
      · obtain ⟨frame, writing⟩ := Option.ne_none_iff_exists'.mp taken
        have sending := threads.writeSide.sending.mp (Option.isSome_iff_exists.mpr ⟨_, writing⟩)
        exact stuck (client (.send sending writing) trivial trivial)
      · exact stuck (server possible)
    · by_contra queued
      exact stuck (server (exists_writer_step orderly (.inl queued)))
    · by_contra taken
      exact stuck (server (exists_writer_step orderly (.inr taken)))
    · by_contra coming
      have nonempty : state.responses.take 256 ≠ [] := by simpa [demo] using coming
      exact stuck (client (.recv receiving nonempty (List.length_take_le _ _))
        (List.take_prefix 256 state.responses) trivial)
  · have silently : state.process.Stopped ∨ ∃ event process, event.Silent ∧
        (ClientProcess.system enableChecksum).step state.process event = some process :=
      ClientProcess.stopped_or_progresses threads.writeSide threads.joined called alive
        (fun _ silent => silent) fun reading => absurd reading receiving
    obtain ⟨event, process, silent, stepped⟩ := silently.resolve_left stopped
    have possible : state.Possible event := by
      cases event with
      | recv | endOfStream => exact silent.elim
      | _ => trivial
    exact client (ClientProcess.step_of_eq_some stepped) possible silent.ordinary

/-- Steps left before `stop` has returned. -/
def stopWork (state : DemoProcess) : (ℕ ×ₗ ℕ) ×ₗ (ℕ ×ₗ ℕ ×ₗ ℕ ×ₗ ℕ ×ₗ ℕ ×ₗ ℕ) :=
  toLex (state.process.work, state.demo.work)

/-- `stop` has been called, and waits for a thread that is neither doomed nor starved. -/
structure Stops (enableChecksum : Bool) (state : DemoProcess) : Prop where
  reached : ∃ trace, (system enableChecksum).Reaches trace state
  called : state.process.stopping ≠ .notCalled
  alive : ¬ state.process.Doomed
  fed : ¬ state.Starved enableChecksum

namespace Stops

theorem ended (stops : Stops enableChecksum state) : state.process.running = false := by
  obtain ⟨trace, reached⟩ := stops.reached
  exact (threads_of_reaches reached).joined.cleared.mpr stops.called

theorem step (stops : Stops enableChecksum state) (ordinary : event.Ordinary)
    (stepped : (system enableChecksum).step state event = some next) :
    Stops enableChecksum next := by
  obtain ⟨trace, reached⟩ := stops.reached
  have fed := not_starved_of_step stops.fed reached stops.ended stepped
  refine ⟨⟨_, EventSystem.reaches_concat.mpr ⟨state, reached, stepped⟩⟩, ?_, ?_, fed⟩
  · cases step_eq_some_iff.mp stepped with
    | client _ moved => exact ClientProcess.called_of_step stops.called moved
    | server => exact stops.called
  · cases step_eq_some_iff.mp stepped with
    | client _ moved =>
        exact ClientProcess.not_doomed_of_step stops.alive stops.ended ordinary moved
    | server => exact stops.alive

theorem stopWork_lt (stops : Stops enableChecksum state) (ordinary : event.Ordinary)
    (effective : event.effective state)
    (stepped : Step enableChecksum state event next) : next.stopWork < state.stopWork := by
  obtain ⟨trace, reached⟩ := stops.reached
  rw [stopWork, stopWork, Prod.Lex.toLex_lt_toLex]
  cases stepped with
  | client _ moved =>
      exact .inl (ClientProcess.work_lt_of_ordinary stops.ended stops.called ordinary moved)
  | server own _ moved =>
      exact .inr ⟨rfl, work_lt_of_server (orderly_of_reaches reached) own effective moved⟩

end Stops

/-- `stop` has been called, and waits for a read thread that is starved. -/
structure Hangs (enableChecksum : Bool) (state : DemoProcess) : Prop where
  reached : ∃ trace, (system enableChecksum).Reaches trace state
  called : state.process.stopping ≠ .notCalled
  starved : state.Starved enableChecksum

namespace Hangs

theorem step (hangs : Hangs enableChecksum state)
    (stepped : (system enableChecksum).step state event = some next) :
    Hangs enableChecksum next := by
  obtain ⟨⟨trace, reached⟩, called, starved⟩ := hangs
  have ended := (threads_of_reaches reached).joined.cleared.mpr called
  refine ⟨⟨_, EventSystem.reaches_concat.mpr ⟨state, reached, stepped⟩⟩, ?_,
    starved.step reached ended stepped⟩
  cases step_eq_some_iff.mp stepped with
  | client _ moved => exact ClientProcess.called_of_step called moved
  | server => exact called

/-- The read thread is not joined, whatever the threads do. -/
theorem never_stopped (hangs : Hangs enableChecksum state) {later : List Event}
    {final : DemoProcess} (ran : (system enableChecksum).run state later = some final) :
    ¬ final.Stopped := by
  have anything : ∀ event ∈ later, True := fun _ _ => trivial
  obtain ⟨⟨trace, reached⟩, called, starved⟩ :=
    EventSystem.run_invariant (motive := Hangs enableChecksum)
      (fun _ _ _ hangs _ stepped => hangs.step stepped) anything ran hangs
  intro stopped
  rw [Stopped, ClientProcess.Stopped] at stopped
  have returned := (threads_of_reaches reached).joined.read (by simp [stopped]) (by simp [stopped])
  exact absurd (returned.symm.trans starved.1) (by simp)

end Hangs

/-- A doomed write thread is not joined without a further message or a spurious wakeup. -/
theorem never_stopped_of_doomed (reached : (system enableChecksum).Reaches trace state)
    (doomed : state.process.Doomed) {later : List Event} {final : DemoProcess}
    (ordinary : ∀ event ∈ later, event.Ordinary)
    (ran : (system enableChecksum).run state later = some final) : ¬ final.Stopped := by
  have still : final.process.Doomed := by
    refine EventSystem.run_invariant (motive := fun state => state.process.Doomed) ?_ ordinary ran
      doomed
    intro state event next doomed ordinary stepped
    cases step_eq_some_iff.mp stepped with
    | client _ moved => exact ClientProcess.Doomed.step doomed ordinary moved
    | server => exact doomed
  intro stopped
  have returned := (threads_of_reaches (reached.append ran)).joined.write (.inr stopped)
  have waits := still.1
  rw [returned] at waits
  exact waits

/-- From every state reached after the call, however the threads are scheduled and without a further
message, as each `send` returns having taken its whole frame: `stop` returns unless the write thread
waits with nobody left to notify it, or the read thread is in `recv` while the server has nothing to
send and nothing complete to answer.  In the first case it does not return without a further
message, and in the second it never does. -/
theorem stop_returns_iff_fed (enableChecksum : Bool) (trace : List Event) (state : DemoProcess)
    (reached : (system enableChecksum).Reaches trace state)
    (called : state.process.stopping ≠ .notCalled) :
    ((effective enableChecksum).Inevitably Event.Ordinary Stopped state ↔
        ¬ state.process.Doomed ∧ ¬ state.Starved enableChecksum) ∧
      (state.process.Doomed → ∀ later final, (∀ event ∈ later, event.Ordinary) →
        (system enableChecksum).run state later = some final → ¬ final.Stopped) ∧
      (state.Starved enableChecksum → ∀ later final,
        (system enableChecksum).run state later = some final → ¬ final.Stopped) := by
  have hangs (starved : state.Starved enableChecksum) : Hangs enableChecksum state :=
    ⟨⟨trace, reached⟩, called, starved⟩
  refine ⟨⟨fun inevitably => ?_, fun ⟨alive, fed⟩ => ?_⟩,
    fun doomed _ _ ordinary ran => never_stopped_of_doomed reached doomed ordinary ran,
    fun starved _ _ ran => (hangs starved).never_stopped ran⟩
  · obtain ⟨later, final, ordinary, ran, stopped⟩ := inevitably.exists_run
    have ran := EventSystem.run_of_restrict ran
    exact ⟨fun doomed => never_stopped_of_doomed reached doomed ordinary ran stopped,
      fun starved => (hangs starved).never_stopped ran stopped⟩
  · refine EventSystem.inevitably_of_variant stopWork (motive := Stops enableChecksum) ?_ ?_ state
      ⟨⟨trace, reached⟩, called, alive, fed⟩
    · rintro state ⟨⟨trace, reached⟩, called, alive, fed⟩
      exact stopped_or_possible (threads_of_reaches reached) (orderly_of_reaches reached) called
        alive fed
    · intro state event next stops ordinary stepped
      obtain ⟨effective, stepped⟩ := EventSystem.restrict_step_iff.mp stepped
      exact ⟨stops.step ordinary stepped,
        stops.stopWork_lt ordinary effective (step_eq_some_iff.mp stepped)⟩

/-- `stop` is called when the read thread has begun to wait. -/
def stoppedReceiving : List Event := [.client .readRunning, .client .stop]

/-- `stop` is called while the write thread has taken a frame. -/
def stoppedTaken : List Event :=
  [.client .readRunning, .client (.sendMessage [7] 1), .client (.push (Frame.create 1 0 [7])),
    .client .writeRunning, .client .lock, .client .test, .client .leave, .client .stop]

theorem stop_returns_iff_fed_taken :
    (∃ state, (system false).Reaches stoppedReceiving state ∧
      ¬ (effective false).Inevitably Event.Ordinary Stopped state) ∧
    ∃ state, (system false).Reaches stoppedTaken state ∧
      (effective false).Inevitably Event.Ordinary Stopped state := by
  refine ⟨⟨_, rfl, fun inevitably => ?_⟩, _, rfl, ?_⟩
  · have fed := ((stop_returns_iff_fed false stoppedReceiving _ rfl (by simp)).1.mp inevitably).2
    exact fed ⟨rfl, rfl, rfl, rfl, rfl⟩
  · refine (stop_returns_iff_fed false stoppedTaken _ rfl (by simp)).1.mpr ⟨?_, ?_⟩
    · simp [ClientProcess.Doomed, Monitors.Consumer.Waits]
    · rintro ⟨-, exhausted⟩
      have wellFormed : (Frame.create 1 0 [7]).WellFormed := Frame.wellFormed_create 1 0 (by decide)
      have complete := (encodes_serialize wellFormed false).next_append []
      have incomplete := frontFrame_eq_incomplete_iff.mp exhausted.incomplete
      exact absurd (incomplete.symm.trans complete) (by simp)

end DemoProcess
end FramedTcp
