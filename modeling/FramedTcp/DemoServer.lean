import FramedTcp.DemoFlow
import FramedTcp.DescriptorTable

/-!
# The demo server with all its connections

`acceptConnections` gives every accepted descriptor to two detached threads.  `handleRead` closes
the descriptor when its client is gone; `handleWrite` never learns of it and goes on sending what is
queued on the same number, which `accept` may have handed out again by then.
-/

namespace FramedTcp

open PrefixDecoding EventSystems FrameParser Descriptors

namespace Server

/-- Where `handleRead` stands. -/
inductive ReadThread
  /-- It is in its loop. -/
  | reading
  /-- It has left its loop. -/
  | closing
  /-- It has closed the descriptor. -/
  | returned
  deriving DecidableEq

/-- An accepted client with its two threads; `received` records what `recv` has returned. -/
structure Session where
  /-- The descriptor given to both threads. -/
  clientFd : Int32
  /-- The receive buffer, the stream manager and the threads' local state. -/
  connection : Connection := {}
  /-- Where `handleRead` stands. -/
  reader : ReadThread := .reading
  /-- All bytes received. -/
  received : List UInt8 := []

/-- A call of `send` by a session, with the socket its descriptor stood for and the number of bytes
accepted. -/
structure Sent where
  /-- The session. -/
  session : ℕ
  /-- The frame sent. -/
  frame : Frame
  /-- The socket, if the descriptor was open. -/
  socket : Option ℕ
  /-- Bytes accepted; none if the call failed. -/
  count : ℕ

/-- Steps of the two threads of a session that concern nobody else. -/
inductive SessionEvent
  | recv (chunk : List UInt8)
  | endOfStream
  | handleFrame
  | respond
  | eraseFrame
  | hasOutgoingFrames
  | getNextOutgoingFrame

namespace Session

/-- One step of a session. -/
def step (session : Session) : SessionEvent → Option Session
  | .recv chunk =>
      match session.reader, session.connection.handling,
          frontFrame session.connection.frameBuffer with
      | .reading, none, .incomplete =>
          if chunk ≠ [] ∧ chunk.length ≤ 1024 then
            some { session with
              connection := { session.connection with
                frameBuffer := session.connection.frameBuffer ++ chunk }
              received := session.received ++ chunk }
          else
            none
      | _, _, _ => none
  | .endOfStream =>
      match session.reader, session.connection.handling,
          frontFrame session.connection.frameBuffer with
      | .reading, none, .incomplete => some { session with reader := .closing }
      | _, _, _ => none
  | .handleFrame =>
      match session.reader, session.connection.handling,
          frontFrame session.connection.frameBuffer with
      | .reading, none, .completed frame frameLength =>
          some { session with
            connection := { session.connection with handling := some (frame, frameLength, 0) } }
      | _, _, _ => none
  | .respond =>
      match session.connection.handling with
      | some (frame, frameLength, i) =>
          if i < 5 then
            some { session with connection := session.connection.respond frame frameLength i }
          else
            none
      | none => none
  | .eraseFrame =>
      match session.connection.handling with
      | some (_, frameLength, i) =>
          if i = 5 then
            some { session with connection := session.connection.eraseFrame frameLength }
          else
            none
      | none => none
  | .hasOutgoingFrames =>
      match session.connection.writer with
      | .idle =>
          if session.connection.streamManager.hasOutgoingFrames then
            some { session with connection := { session.connection with writer := .ready } }
          else
            some session
      | _ => none
  | .getNextOutgoingFrame =>
      match session.connection.writer,
          session.connection.streamManager.getNextOutgoingFrame with
      | .ready, some (frame, streamManager) =>
          some { session with
            connection := { session.connection with
              streamManager
              writer := .writing frame } }
      | _, _ => none

/-- The write thread is done with a frame. -/
def endSend (session : Session) : Session :=
  { session with connection := { session.connection with writer := .idle } }

/-- What a step does, and when it is possible. -/
inductive Step (session : Session) : SessionEvent → Session → Prop
  | recv {chunk : List UInt8} (reading : session.reader = .reading)
      (idle : session.connection.handling = none)
      (incomplete : frontFrame session.connection.frameBuffer = .incomplete)
      (nonempty : chunk ≠ []) (fits : chunk.length ≤ 1024) :
      Step session (.recv chunk) { session with
        connection := { session.connection with
          frameBuffer := session.connection.frameBuffer ++ chunk }
        received := session.received ++ chunk }
  | endOfStream (reading : session.reader = .reading)
      (idle : session.connection.handling = none)
      (incomplete : frontFrame session.connection.frameBuffer = .incomplete) :
      Step session .endOfStream { session with reader := .closing }
  | handleFrame {frame : Frame} {frameLength : UInt32} (reading : session.reader = .reading)
      (idle : session.connection.handling = none)
      (complete : frontFrame session.connection.frameBuffer = .completed frame frameLength) :
      Step session .handleFrame { session with
        connection := { session.connection with handling := some (frame, frameLength, 0) } }
  | respond {frame : Frame} {frameLength : UInt32} {i : ℕ}
      (handling : session.connection.handling = some (frame, frameLength, i)) (more : i < 5) :
      Step session .respond { session with
        connection := session.connection.respond frame frameLength i }
  | eraseFrame {frame : Frame} {frameLength : UInt32}
      (handling : session.connection.handling = some (frame, frameLength, 5)) :
      Step session .eraseFrame { session with
        connection := session.connection.eraseFrame frameLength }
  | hasOutgoingFrames (idle : session.connection.writer = .idle)
      (nonempty : session.connection.streamManager.outgoingFrames ≠ []) :
      Step session .hasOutgoingFrames { session with
        connection := { session.connection with writer := .ready } }
  | hasNoOutgoingFrames (idle : session.connection.writer = .idle)
      (empty : session.connection.streamManager.outgoingFrames = []) :
      Step session .hasOutgoingFrames session
  | getNextOutgoingFrame {frame : Frame} {frames : List Frame}
      (ready : session.connection.writer = .ready)
      (queue : session.connection.streamManager.outgoingFrames = frame :: frames) :
      Step session .getNextOutgoingFrame { session with
        connection := { session.connection with
          streamManager := { session.connection.streamManager with outgoingFrames := frames }
          writer := .writing frame } }

theorem step_eq_some_iff {session next : Session} {event : SessionEvent} :
    session.step event = some next ↔ Step session event next := by
  constructor
  · intro stepped
    cases event with
    | recv chunk =>
        simp only [step] at stepped
        split at stepped
        · rename_i reading idle incomplete
          obtain ⟨⟨nonempty, fits⟩, ⟨⟩⟩ := Option.ite_none_right_eq_some.mp stepped
          exact .recv reading idle incomplete nonempty fits
        · contradiction
    | endOfStream =>
        simp only [step] at stepped
        split at stepped
        · rename_i reading idle incomplete
          obtain rfl := Option.some.inj stepped
          exact .endOfStream reading idle incomplete
        · contradiction
    | handleFrame =>
        simp only [step] at stepped
        split at stepped
        · rename_i reading idle complete
          obtain rfl := Option.some.inj stepped
          exact .handleFrame reading idle complete
        · contradiction
    | respond =>
        simp only [step] at stepped
        split at stepped
        · rename_i handling
          obtain ⟨more, ⟨⟩⟩ := Option.ite_none_right_eq_some.mp stepped
          exact .respond handling more
        · contradiction
    | eraseFrame =>
        simp only [step] at stepped
        split at stepped
        · rename_i handling
          obtain ⟨rfl, ⟨⟩⟩ := Option.ite_none_right_eq_some.mp stepped
          exact .eraseFrame handling
        · contradiction
    | hasOutgoingFrames =>
        simp only [step] at stepped
        split at stepped
        · rename_i idle
          by_cases nonempty : session.connection.streamManager.outgoingFrames = []
          · simp only [StreamManager.hasOutgoingFrames, nonempty, List.isEmpty_nil, Bool.not_true,
              Bool.false_eq_true, ↓reduceIte, Option.some.injEq] at stepped
            exact stepped ▸ .hasNoOutgoingFrames idle nonempty
          · simp only [StreamManager.hasOutgoingFrames, List.isEmpty_eq_false_iff.mpr nonempty,
              Bool.not_false, ↓reduceIte, Option.some.injEq] at stepped
            exact stepped ▸ .hasOutgoingFrames idle nonempty
        · contradiction
    | getNextOutgoingFrame =>
        simp only [step] at stepped
        split at stepped
        · rename_i ready taken
          obtain rfl := Option.some.inj stepped
          cases queue : session.connection.streamManager.outgoingFrames with
          | nil => simp [StreamManager.getNextOutgoingFrame, queue] at taken
          | cons first rest =>
              simp only [StreamManager.getNextOutgoingFrame, queue, Option.some.injEq,
                Prod.mk.injEq] at taken
              obtain ⟨rfl, rfl⟩ := taken
              exact .getNextOutgoingFrame ready queue
        · contradiction
  · intro stepped
    cases stepped with
    | recv reading idle incomplete nonempty fits =>
        simp [step, reading, idle, incomplete, nonempty, fits]
    | endOfStream reading idle incomplete => simp [step, reading, idle, incomplete]
    | handleFrame reading idle complete => simp [step, reading, idle, complete]
    | respond handling more => simp [step, handling, more]
    | eraseFrame handling => simp [step, handling]
    | hasOutgoingFrames idle nonempty =>
        simp [step, idle, StreamManager.hasOutgoingFrames, nonempty]
    | hasNoOutgoingFrames idle empty => simp [step, idle, StreamManager.hasOutgoingFrames, empty]
    | getNextOutgoingFrame ready queue =>
        simp [step, ready, StreamManager.getNextOutgoingFrame, queue]

/-- A thread's own step keeps the descriptor, and does not close it. -/
theorem Step.keeps {session after : Session} {event : SessionEvent}
    (moved : session.Step event after) :
    after.clientFd = session.clientFd ∧
      (after.reader = .returned ↔ session.reader = .returned) := by
  cases moved with
  | endOfStream reading => simp [reading]
  | _ => exact ⟨rfl, Iff.rfl⟩

/-! ## What a session answers -/

/-- The frames in `written` have been given to `send`.  Every request received has been answered,
is being answered, or is still in the buffer. -/
structure Serves (session : Session) (written : List Frame) : Prop where
  accounts : ∃ done,
    decoder.messages session.received =
      done ++ decoder.messages session.connection.frameBuffer ∧
    written ++ (session.connection.writer.taken ++
      session.connection.streamManager.outgoingFrames) =
        done.flatMap answers ++ session.connection.answered
  residue_eq :
    decoder.residue session.received = decoder.residue session.connection.frameBuffer
  handling : ∀ {frame frameLength i}, session.connection.handling = some (frame, frameLength, i) →
    i ≤ 5 ∧ frontFrame session.connection.frameBuffer = .completed frame frameLength
  ready : session.connection.writer = .ready →
    session.connection.streamManager.outgoingFrames ≠ []
  ended : session.reader ≠ .reading → session.connection.handling = none ∧
    frontFrame session.connection.frameBuffer = .incomplete

namespace Serves

variable {session next : Session} {written : List Frame} {event : SessionEvent}

theorem initial (clientFd : Int32) : Serves { clientFd } [] where
  accounts := ⟨[], rfl, rfl⟩
  residue_eq := rfl
  handling := nofun
  ready := nofun
  ended reader := absurd rfl reader

theorem step (serves : session.Serves written) (stepped : Step session event next) :
    next.Serves written := by
  obtain ⟨⟨done, messages_eq, queued_eq⟩, residue_eq, handled, nonempty, ended⟩ := serves
  cases stepped with
  | @recv chunk reading idle incomplete =>
      have left := frontFrame_eq_incomplete_iff.mp incomplete
      rw [decoder.residue_of_none left] at residue_eq
      rw [decoder.messages_of_none left, List.append_nil] at messages_eq
      refine ⟨⟨done, ?_, queued_eq⟩, ?_, ?_, nonempty, fun ended => absurd reading ended⟩
      · change decoder.messages (session.received ++ chunk) = _
        rw [decoder.messages_append, residue_eq, messages_eq]
      · change decoder.residue (session.received ++ chunk) = _
        rw [decoder.residue_append, residue_eq]
      · intro frame frameLength i handling
        rw [show _ = none from idle] at handling
        contradiction
  | endOfStream reading idle incomplete =>
      exact ⟨⟨done, messages_eq, queued_eq⟩, residue_eq, handled, nonempty,
        fun _ => ⟨idle, incomplete⟩⟩
  | @handleFrame frame frameLength reading idle complete =>
      refine ⟨⟨done, messages_eq, ?_⟩, residue_eq, ?_, nonempty, fun ended => absurd reading ended⟩
      · simpa [Connection.answered, idle] using queued_eq
      · rintro _ _ _ ⟨⟩
        exact ⟨Nat.zero_le _, complete⟩
  | @respond frame frameLength i handling more =>
      obtain ⟨-, complete⟩ := handled handling
      refine ⟨⟨done, messages_eq, ?_⟩, residue_eq, ?_, fun _ => ?_, fun reader => ?_⟩
      · simp only [Connection.answered, handling] at queued_eq
        simp only [Connection.answered, Connection.respond, StreamManager.sendFrame,
          List.range_succ, List.map_append, List.map_singleton, ← List.append_assoc] at queued_eq ⊢
        rw [queued_eq]
      · rintro _ _ _ ⟨⟩
        exact ⟨more, complete⟩
      · simp [Connection.respond, StreamManager.sendFrame]
      · rw [(ended reader).1] at handling
        contradiction
  | @eraseFrame frame frameLength handling =>
      obtain ⟨-, complete⟩ := handled handling
      obtain ⟨-, found⟩ := frontFrame_eq_completed_iff.mp complete
      refine ⟨⟨done ++ [frame], ?_, ?_⟩, ?_, ?_, nonempty, fun reader => ?_⟩
      · rw [messages_eq, decoder.messages_of_some found, List.append_assoc]
        rfl
      · simp only [Connection.answered, handling] at queued_eq
        simp only [Connection.answered, Connection.eraseFrame, queued_eq, List.flatMap_append,
          List.flatMap_singleton, List.append_nil]
        rfl
      · rw [residue_eq, decoder.residue_of_some found]
        rfl
      · intro _ _ _ erased
        simp [Connection.eraseFrame] at erased
      · rw [(ended reader).1] at handling
        contradiction
  | hasOutgoingFrames idle waiting =>
      refine ⟨⟨done, messages_eq, ?_⟩, residue_eq, handled, fun _ => waiting, ended⟩
      simpa [Writer.taken, Connection.answered, idle] using queued_eq
  | hasNoOutgoingFrames =>
      exact ⟨⟨done, messages_eq, queued_eq⟩, residue_eq, handled, nonempty, ended⟩
  | getNextOutgoingFrame ready queue =>
      refine ⟨⟨done, messages_eq, ?_⟩, residue_eq, handled, by simp, ended⟩
      simpa [Writer.taken, Connection.answered, ready, queue] using queued_eq

/-- The frame taken is sent. -/
theorem send (serves : session.Serves written) {frame : Frame}
    (writing : session.connection.writer = .writing frame) :
    session.endSend.Serves (written ++ [frame]) := by
  obtain ⟨⟨done, messages_eq, queued_eq⟩, residue_eq, handled, nonempty, ended⟩ := serves
  refine ⟨⟨done, messages_eq, ?_⟩, residue_eq, handled, nofun, ended⟩
  rw [writing] at queued_eq
  simpa [endSend, Writer.taken, Connection.answered] using queued_eq

/-- What has been sent is the beginning of the answers to what has been received. -/
theorem written_le (serves : session.Serves written) :
    written <+: (decoder.messages session.received).flatMap answers := by
  obtain ⟨⟨done, messages_eq, queued_eq⟩, -, handled, -, -⟩ := serves
  have front : written <+: done.flatMap answers ++ session.connection.answered :=
    ⟨_, queued_eq⟩
  apply front.trans
  rw [messages_eq, List.flatMap_append, List.prefix_append_right_inj]
  cases handling : session.connection.handling with
  | none => simp [Connection.answered, handling]
  | some current =>
      obtain ⟨frame, frameLength, i⟩ := current
      obtain ⟨bounded, complete⟩ := handled handling
      obtain ⟨-, found⟩ := frontFrame_eq_completed_iff.mp complete
      rw [decoder.messages_of_some found, List.flatMap_cons]
      refine List.IsPrefix.trans ?_ (List.prefix_append _ _)
      simp only [Connection.answered, handling, answers]
      apply List.IsPrefix.map
      obtain ⟨more, five_eq⟩ := Nat.exists_eq_add_of_le bounded
      rw [five_eq, List.range_add]
      exact List.prefix_append _ _

/-- Once nothing is at hand, everything received has been answered. -/
theorem written_eq (serves : session.Serves written)
    (idle : session.connection.handling = none)
    (incomplete : frontFrame session.connection.frameBuffer = .incomplete)
    (taken : session.connection.writer.taken = [])
    (queue : session.connection.streamManager.outgoingFrames = []) :
    written = (decoder.messages session.received).flatMap answers := by
  obtain ⟨⟨done, messages_eq, queued_eq⟩, -, -, -, -⟩ := serves
  have left := frontFrame_eq_incomplete_iff.mp incomplete
  rw [messages_eq, decoder.messages_of_none left, List.append_nil]
  simpa [taken, queue, Connection.answered, idle] using queued_eq

end Serves
end Session
end Server

open Server

/-- The server of `server.cpp` while it runs; `sockets` and `sends` record the sockets accepted and
the calls of `send`. -/
structure DemoServer where
  /-- The sessions in the order of their sockets. -/
  sessions : List Session := []
  /-- The sockets accepted and their descriptors. -/
  sockets : DescriptorTable Int32 := {}
  /-- All calls of `send`. -/
  sends : List Sent := []

namespace DemoServer

/-- Steps of the accepting thread and of the threads of the sessions. -/
inductive Event
  | accept (clientFd : Int32)
  | thread (session : ℕ) (event : SessionEvent)
  | close (session : ℕ)
  | send (session count : ℕ)

/-- A step of one session. -/
def sessionStep (server : DemoServer) (number : ℕ)
    (next : Session → Option DemoServer) : Option DemoServer :=
  match server.sessions[number]? with
  | some session => next session
  | none => none

/-- Replace a session. -/
def setSession (server : DemoServer) (number : ℕ) (session : Session) : DemoServer :=
  { server with sessions := server.sessions.set number session }

/-- One step; `accept` hands out any descriptor that is not open. -/
def step (enableChecksum : Bool) (server : DemoServer) : Event → Option DemoServer
  | .accept clientFd =>
      if 0 ≤ clientFd ∧ ¬ server.sockets.IsOpen clientFd then
        some { server with
          sessions := server.sessions ++ [{ clientFd }]
          sockets := server.sockets.allocate clientFd }
      else
        none
  | .thread number event => server.sessionStep number fun session =>
      (session.step event).map fun session => server.setSession number session
  | .close number => server.sessionStep number fun session =>
      match session.reader with
      | .closing =>
          some { server.setSession number { session with reader := .returned } with
            sockets := server.sockets.close session.clientFd }
      | _ => none
  | .send number count => server.sessionStep number fun session =>
      match session.connection.writer with
      | .writing frame =>
          let socket := server.sockets.target session.clientFd
          if count ≤ (frame.serialize enableChecksum).length ∧ (socket = none → count = 0) then
            some { server.setSession number session.endSend with
              sends := server.sends ++ [⟨number, frame, socket, count⟩] }
          else
            none
      | _ => none

/-- The server from the return of `listen` on. -/
def system (enableChecksum : Bool) : EventSystem DemoServer Event where
  init := {}
  step := step enableChecksum

/-- What a step does, and when it is possible. -/
inductive Step (enableChecksum : Bool) (server : DemoServer) : Event → DemoServer → Prop
  | accept {clientFd : Int32} (nonnegative : 0 ≤ clientFd)
      (unused : ¬ server.sockets.IsOpen clientFd) :
      Step enableChecksum server (.accept clientFd)
        { server with
          sessions := server.sessions ++ [{ clientFd }]
          sockets := server.sockets.allocate clientFd }
  | thread {number : ℕ} {event : SessionEvent} {session after : Session}
      (found : server.sessions[number]? = some session) (moved : session.Step event after) :
      Step enableChecksum server (.thread number event) (server.setSession number after)
  | close {number : ℕ} {session : Session} (found : server.sessions[number]? = some session)
      (closing : session.reader = .closing) :
      Step enableChecksum server (.close number)
        { server.setSession number { session with reader := .returned } with
          sockets := server.sockets.close session.clientFd }
  | send {number count : ℕ} {session : Session} {frame : Frame}
      (found : server.sessions[number]? = some session)
      (writing : session.connection.writer = .writing frame)
      (inside : count ≤ (frame.serialize enableChecksum).length)
      (refused : server.sockets.target session.clientFd = none → count = 0) :
      Step enableChecksum server (.send number count)
        { server.setSession number session.endSend with
          sends := server.sends ++
            [⟨number, frame, server.sockets.target session.clientFd, count⟩] }

theorem sessionStep_eq_some_iff {server result : DemoServer} {number : ℕ}
    {next : Session → Option DemoServer} :
    server.sessionStep number next = some result ↔
      ∃ session, server.sessions[number]? = some session ∧ next session = some result := by
  unfold sessionStep
  cases server.sessions[number]? <;> simp

variable {enableChecksum : Bool} {trace : List Event} {event : Event} {server next : DemoServer}

theorem step_eq_some_iff :
    (system enableChecksum).step server event = some next ↔
      Step enableChecksum server event next := by
  constructor
  · intro stepped
    replace stepped : server.step enableChecksum event = some next := stepped
    cases event with
    | accept clientFd =>
        obtain ⟨⟨nonnegative, unused⟩, ⟨⟩⟩ := Option.ite_none_right_eq_some.mp stepped
        exact .accept nonnegative unused
    | thread number event =>
        obtain ⟨session, found, moved⟩ := sessionStep_eq_some_iff.mp stepped
        obtain ⟨after, after_eq, rfl⟩ := Option.map_eq_some_iff.mp moved
        exact .thread found (Session.step_eq_some_iff.mp after_eq)
    | close number =>
        obtain ⟨session, found, moved⟩ := sessionStep_eq_some_iff.mp stepped
        split at moved
        · rename_i closing
          obtain rfl := Option.some.inj moved
          exact .close found closing
        · contradiction
    | send number count =>
        obtain ⟨session, found, moved⟩ := sessionStep_eq_some_iff.mp stepped
        split at moved
        · rename_i frame writing
          obtain ⟨⟨inside, refused⟩, ⟨⟩⟩ := Option.ite_none_right_eq_some.mp moved
          exact .send found writing inside refused
        · contradiction
  · intro stepped
    change server.step enableChecksum event = some next
    cases stepped with
    | accept nonnegative unused => exact if_pos ⟨nonnegative, unused⟩
    | thread found moved =>
        refine sessionStep_eq_some_iff.mpr ⟨_, found, ?_⟩
        rw [Session.step_eq_some_iff.mpr moved, Option.map_some]
    | close found closing =>
        exact sessionStep_eq_some_iff.mpr ⟨_, found, by rw [closing]⟩
    | send found writing inside refused =>
        refine sessionStep_eq_some_iff.mpr ⟨_, found, ?_⟩
        rw [writing]
        exact if_pos ⟨inside, refused⟩

/-! ## Every session by itself -/

/-- The frames a session has given to `send`, in order. -/
def written (server : DemoServer) (number : ℕ) : List Frame :=
  (server.sends.filter fun sent => sent.session = number).map Sent.frame

/-- What holds of the sessions and their sockets in every run. -/
structure Consistent (server : DemoServer) : Prop where
  wellFormed : server.sockets.WellFormed
  length_eq : server.sockets.closes.length = server.sessions.length
  existing : ∀ sent ∈ server.sends, sent.session < server.sessions.length
  own : ∀ (number : ℕ) (session : Session), server.sessions[number]? = some session →
    session.reader ≠ .returned → server.sockets.target session.clientFd = some number
  closed : ∀ (number : ℕ) (session : Session), server.sessions[number]? = some session →
    session.reader = .returned → server.sockets.closes[number]? = some 1
  serves : ∀ (number : ℕ) (session : Session), server.sessions[number]? = some session →
    session.Serves (server.written number)

theorem getElem?_setSession {number other : ℕ} {before session result : Session}
    (found : server.sessions[number]? = some before) :
    (server.setSession number session).sessions[other]? = some result ↔
      other = number ∧ result = session ∨
        other ≠ number ∧ server.sessions[other]? = some result := by
  have inside := (List.getElem?_eq_some_iff.mp found).1
  by_cases same : other = number
  · subst same
    simp [setSession, inside, eq_comm]
  · simp [setSession, List.getElem?_set_ne (Ne.symm same), same]

namespace Consistent

theorem initial : Consistent {} :=
  ⟨nofun, rfl, nofun, nofun, nofun, nofun⟩

theorem accept (consistent : server.Consistent) {clientFd : Int32}
    (unused : ¬ server.sockets.IsOpen clientFd) :
    Consistent { server with
      sessions := server.sessions ++ [{ clientFd }]
      sockets := server.sockets.allocate clientFd } := by
  have target_none : server.sockets.target clientFd = none := by
    rwa [DescriptorTable.isOpen_iff, not_not] at unused
  have split {number : ℕ} {session : Session}
      (found : (server.sessions ++ [({ clientFd } : Session)])[number]? = some session) :
      server.sessions[number]? = some session ∨
        number = server.sessions.length ∧ session = { clientFd } := by
    rw [List.getElem?_append] at found
    split at found
    · exact Or.inl found
    · rename_i outside
      rw [List.getElem?_singleton, Option.ite_none_right_eq_some, Option.some.injEq] at found
      exact Or.inr ⟨by omega, found.2.symm⟩
  refine ⟨consistent.wellFormed.allocate, ?_, ?_, ?_, ?_, ?_⟩
  · simp [DescriptorTable.allocate, consistent.length_eq]
  · intro sent member
    rw [List.length_append]
    exact Nat.lt_add_right _ (consistent.existing sent member)
  · intro number session found reading
    rw [DescriptorTable.target_allocate consistent.wellFormed]
    rcases split found with earlier | ⟨rfl, rfl⟩
    · have own := consistent.own number session earlier reading
      rw [if_neg, own]
      rintro same
      rw [same, target_none] at own
      contradiction
    · rw [if_pos rfl, consistent.length_eq]
  · intro number session found returned
    rcases split found with earlier | ⟨rfl, rfl⟩
    · have closed := consistent.closed number session earlier returned
      have inside := (List.getElem?_eq_some_iff.mp closed).1
      rwa [DescriptorTable.allocate, List.getElem?_append_left inside]
    · contradiction
  · intro number session found
    rcases split found with earlier | ⟨rfl, rfl⟩
    · exact consistent.serves number session earlier
    · have nothing : server.written server.sessions.length = [] := by
        rw [written, List.map_eq_nil_iff, List.filter_eq_nil_iff]
        intro sent member
        simpa using (consistent.existing sent member).ne
      change Session.Serves { clientFd } (server.written _)
      rw [nothing]
      exact Session.Serves.initial clientFd

/-- A step of one session by itself. -/
theorem setSession (consistent : server.Consistent) {number : ℕ} {before session : Session}
    (found : server.sessions[number]? = some before)
    (clientFd_eq : session.clientFd = before.clientFd)
    (returned_iff : session.reader = .returned ↔ before.reader = .returned)
    (serves : session.Serves (server.written number)) :
    (server.setSession number session).Consistent := by
  refine ⟨consistent.wellFormed, ?_, ?_, ?_, ?_, ?_⟩
  · simp [DemoServer.setSession, consistent.length_eq]
  · simpa [DemoServer.setSession] using consistent.existing
  · intro other result result_found reading
    rcases (getElem?_setSession found).mp result_found with ⟨rfl, rfl⟩ | ⟨-, earlier⟩
    · rw [clientFd_eq]
      exact consistent.own other before found fun returned => reading (returned_iff.mpr returned)
    · exact consistent.own other result earlier reading
  · intro other result result_found returned
    rcases (getElem?_setSession found).mp result_found with ⟨rfl, rfl⟩ | ⟨-, earlier⟩
    · exact consistent.closed other before found (returned_iff.mp returned)
    · exact consistent.closed other result earlier returned
  · intro other result result_found
    rcases (getElem?_setSession found).mp result_found with ⟨rfl, rfl⟩ | ⟨-, earlier⟩
    · exact serves
    · exact consistent.serves other result earlier

/-- A session keeps its descriptor, and `handleRead` has closed it or not as before. -/
theorem thread (consistent : server.Consistent) {number : ℕ} {event : SessionEvent}
    {session after : Session} (found : server.sessions[number]? = some session)
    (moved : session.Step event after) : (server.setSession number after).Consistent := by
  obtain ⟨clientFd_eq, returned_iff⟩ := moved.keeps
  exact consistent.setSession found clientFd_eq returned_iff
    ((consistent.serves number session found).step moved)

theorem close (consistent : server.Consistent) {number : ℕ} {session : Session}
    (found : server.sessions[number]? = some session) (closing : session.reader = .closing) :
    Consistent { server.setSession number { session with reader := .returned } with
      sockets := server.sockets.close session.clientFd } := by
  have own := consistent.own number session found (by simp [closing])
  obtain ⟨owner_eq, unclosed⟩ := DescriptorTable.target_eq_some_iff.mp own
  have closes_eq : (server.sockets.close session.clientFd).closes =
      server.sockets.closes.modify number (· + 1) := by
    simp [DescriptorTable.close, owner_eq]
  refine ⟨consistent.wellFormed.close, ?_, ?_, ?_, ?_, ?_⟩
  · rw [DescriptorTable.length_closes_close, consistent.length_eq]
    simp [DemoServer.setSession]
  · simpa [DemoServer.setSession] using consistent.existing
  · intro other result result_found reading
    rcases (getElem?_setSession found).mp result_found with ⟨rfl, rfl⟩ | ⟨different, earlier⟩
    · contradiction
    · have other_own := consistent.own other result earlier reading
      have other_owner := (DescriptorTable.target_eq_some_iff.mp other_own).1
      rw [DescriptorTable.target_close, if_neg, other_own]
      rw [owner_eq, other_owner]
      exact fun same => different (Option.some.inj same)
  · intro other result result_found returned
    rw [closes_eq, List.getElem?_modify]
    rcases (getElem?_setSession found).mp result_found with ⟨rfl, rfl⟩ | ⟨different, earlier⟩
    · simp [unclosed]
    · simp [consistent.closed other result earlier returned, Ne.symm different]
  · intro other result result_found
    rcases (getElem?_setSession found).mp result_found with ⟨rfl, rfl⟩ | ⟨-, earlier⟩
    · have serves := consistent.serves other session found
      exact ⟨serves.accounts, serves.residue_eq, serves.handling, serves.ready,
        fun _ => serves.ended (by simp [closing])⟩
    · exact consistent.serves other result earlier

theorem send (consistent : server.Consistent) {number count : ℕ} {session : Session}
    {frame : Frame} (found : server.sessions[number]? = some session)
    (writing : session.connection.writer = .writing frame) (socket : Option ℕ) :
    Consistent { server.setSession number session.endSend with
      sends := server.sends ++ [⟨number, frame, socket, count⟩] } := by
  have inside := (List.getElem?_eq_some_iff.mp found).1
  have written_eq (other : ℕ) :
      written { server.setSession number session.endSend with
          sends := server.sends ++ [⟨number, frame, socket, count⟩] } other =
        server.written other ++ if number = other then [frame] else [] := by
    by_cases own : number = other <;> simp [written, own]
  refine ⟨consistent.wellFormed, ?_, ?_, ?_, ?_, ?_⟩
  · simp [DemoServer.setSession, consistent.length_eq]
  · intro sent member
    have bound : sent.session < server.sessions.length := by
      rcases List.mem_append.mp member with earlier | last
      · exact consistent.existing sent earlier
      · rw [List.mem_singleton.mp last]
        exact inside
    simpa [DemoServer.setSession] using bound
  · intro other result result_found reading
    rcases (getElem?_setSession found).mp result_found with ⟨rfl, rfl⟩ | ⟨-, earlier⟩
    · exact consistent.own other session found reading
    · exact consistent.own other result earlier reading
  · intro other result result_found returned
    rcases (getElem?_setSession found).mp result_found with ⟨rfl, rfl⟩ | ⟨-, earlier⟩
    · exact consistent.closed other session found returned
    · exact consistent.closed other result earlier returned
  · intro other result result_found
    rw [written_eq]
    rcases (getElem?_setSession found).mp result_found with ⟨rfl, rfl⟩ | ⟨different, earlier⟩
    · rw [if_pos rfl]
      exact (consistent.serves other session found).send writing
    · rw [if_neg (Ne.symm different), List.append_nil]
      exact consistent.serves other result earlier

theorem step (consistent : server.Consistent) (stepped : Step enableChecksum server event next) :
    next.Consistent := by
  cases stepped with
  | accept _ unused => exact consistent.accept unused
  | thread found moved => exact consistent.thread found moved
  | close found closing => exact consistent.close found closing
  | send found writing => exact consistent.send found writing _

end Consistent

theorem consistent_of_reaches (reached : (system enableChecksum).Reaches trace server) :
    server.Consistent :=
  reached.invariant (motive := fun _ server => server.Consistent) Consistent.initial
    fun _ consistent stepped => consistent.step (step_eq_some_iff.mp stepped)

/-- Whatever the clients send and however the threads interleave: a session's descriptor stands for
its own socket until `handleRead` closes it, which happens once; the frames sent are the answers to
the frames received, in order, and all of them once nothing is at hand; and no frame is taken from
an empty queue. -/
theorem session_serves_own_requests (enableChecksum : Bool) (trace : List Event)
    (server : DemoServer) (reached : (system enableChecksum).Reaches trace server) (number : ℕ)
    (session : Session) (found : server.sessions[number]? = some session) :
    (session.reader ≠ .returned → server.sockets.target session.clientFd = some number) ∧
      server.sockets.closes[number]? = some (if session.reader = .returned then 1 else 0) ∧
      server.written number <+: (decoder.messages session.received).flatMap answers ∧
      (session.connection.handling = none →
        frontFrame session.connection.frameBuffer = .incomplete →
        session.connection.writer.taken = [] →
        session.connection.streamManager.outgoingFrames = [] →
        server.written number = (decoder.messages session.received).flatMap answers) ∧
      (session.connection.writer = .ready →
        session.connection.streamManager.outgoingFrames ≠ []) := by
  have consistent := consistent_of_reaches reached
  have serves := consistent.serves number session found
  refine ⟨consistent.own number session found, ?_, serves.written_le, serves.written_eq,
    serves.ready⟩
  split
  · rename_i returned
    exact consistent.closed number session found returned
  · rename_i reading
    exact (DescriptorTable.target_eq_some_iff.mp
      (consistent.own number session found reading)).2

/-- A session receives the frame and answers it; the answers are still queued. -/
def answering (number : ℕ) (frame : Frame) : List Event :=
  [.thread number (.recv (frame.serialize false)), .thread number .handleFrame] ++
    List.replicate 5 (.thread number .respond) ++ [.thread number .eraseFrame]

/-- The write thread of a session sends one answer; `send` takes `count` bytes. -/
def sending (number count : ℕ) : List Event :=
  [.thread number .hasOutgoingFrames, .thread number .getNextOutgoingFrame, .send number count]

/-- A client is served and leaves; its descriptor is accepted again, and the first answer for the
next client is cut. -/
def answered : List Event :=
  [.accept 5] ++ answering 0 (Frame.create 1 0 []) ++
    (List.replicate 5 (sending 0 4112)).flatten ++ [.thread 0 .endOfStream, .close 0, .accept 5] ++
      answering 1 (Frame.create 2 0 [7]) ++ sending 1 100

/-- The descriptor of a session, its read thread, and what is left to handle and to send. -/
def observed (session : Session) : Int32 × ReadThread × Bool × ℕ × ℕ :=
  (session.clientFd, session.reader, session.connection.handling.isNone,
    session.connection.frameBuffer.length, (session.connection.writer.taken ++
      session.connection.streamManager.outgoingFrames).length)

theorem exists_reaches_answered :
    ∃ server first second, (system false).Reaches answered server ∧
      server.sessions[0]? = some first ∧ server.sessions[1]? = some second ∧
      observed first = (5, .returned, true, 0, 0) ∧
      observed second = (5, .reading, true, 0, 4) ∧ (server.written 1).length = 1 := by
  have ran : ((system false).run {} answered).map (fun server => server.sessions.map observed) =
      some [(5, .returned, true, 0, 0), (5, .reading, true, 0, 4)] := by
    decide +kernel
  have sent : ((system false).run {} answered).map (fun server => (server.written 1).length) =
      some 1 := by
    decide +kernel
  obtain ⟨server, reached, sessions_eq⟩ := Option.map_eq_some_iff.mp ran
  have written_length : (server.written 1).length = 1 := by
    rw [reached] at sent
    exact Option.some.inj sent
  obtain ⟨first, last, split, first_eq, last_eq⟩ := List.map_eq_cons_iff.mp sessions_eq
  obtain ⟨second, rest, rfl, second_eq, -⟩ := List.map_eq_cons_iff.mp last_eq
  exact ⟨server, first, second, reached, by rw [split]; rfl, by rw [split]; rfl, first_eq,
    second_eq, written_length⟩

/-- The first session has closed the descriptor and sent all its answers; the second one owns the
descriptor now, and has sent one. -/
theorem session_serves_own_requests_answered :
    ∃ server first second, (system false).Reaches answered server ∧
      server.sessions[0]? = some first ∧ server.sessions[1]? = some second ∧
      first.clientFd = second.clientFd ∧ server.sockets.closes[0]? = some 1 ∧
      server.sockets.target second.clientFd = some 1 ∧
      server.written 0 = (decoder.messages first.received).flatMap answers ∧
      (server.written 1).length = 1 ∧
      server.written 1 <+: (decoder.messages second.received).flatMap answers := by
  obtain ⟨server, first, second, reached, first_found, second_found, first_eq, second_eq,
    written_length⟩ := exists_reaches_answered
  simp only [observed, Prod.mk.injEq, Option.isNone_iff_eq_none, List.length_eq_zero_iff,
    List.append_eq_nil_iff] at first_eq second_eq
  obtain ⟨first_fd, returned, idle, buffer_eq, taken, queue⟩ := first_eq
  obtain ⟨second_fd, reading, -⟩ := second_eq
  obtain ⟨-, closes_eq, -, written_eq, -⟩ :=
    session_serves_own_requests false answered server reached 0 first first_found
  obtain ⟨own, -, written_le, -⟩ :=
    session_serves_own_requests false answered server reached 1 second second_found
  have incomplete : frontFrame first.connection.frameBuffer = .incomplete := by
    rw [buffer_eq]
    rfl
  rw [if_pos returned] at closes_eq
  exact ⟨server, first, second, reached, first_found, second_found, first_fd.trans second_fd.symm,
    closes_eq, own (by simp [reading]), written_eq idle incomplete taken queue, written_length,
    written_le⟩

/-! ## Descriptors accepted again -/

end DemoServer

/-- The session has nothing left to send. -/
def Server.Session.Spent (session : Session) : Prop :=
  session.connection.writer.taken = [] ∧ session.connection.streamManager.outgoingFrames = []

/-- The bytes have reached the socket of another session. -/
def Server.Sent.Foreign (sent : Sent) : Prop :=
  0 < sent.count ∧ ∃ other, sent.socket = some other ∧ other ≠ sent.session

/-- A session that has ended has nothing more to send. -/
theorem Server.Session.Spent.step {session after : Session} {written : List Frame}
    {event : SessionEvent} (spent : session.Spent) (serves : session.Serves written)
    (ended : session.reader ≠ .reading) (moved : session.Step event after) : after.Spent := by
  obtain ⟨taken, queue⟩ := spent
  have idle := (serves.ended ended).1
  cases moved with
  | recv reading | handleFrame reading => exact absurd reading ended
  | endOfStream => exact ⟨taken, queue⟩
  | respond handling | eraseFrame handling =>
      rw [idle] at handling
      contradiction
  | hasOutgoingFrames _ nonempty => exact absurd queue nonempty
  | hasNoOutgoingFrames => exact ⟨taken, queue⟩
  | getNextOutgoingFrame _ nonempty =>
      rw [queue] at nonempty
      contradiction

namespace DemoServer

/-- Without a further `accept`, bytes may reach the socket of another session. -/
def MayMisdirect (enableChecksum : Bool) (server : DemoServer) : Prop :=
  ∃ later final, (∀ clientFd, Event.accept clientFd ∉ later) ∧
    (system enableChecksum).run server later = some final ∧ ∃ sent ∈ final.sends, sent.Foreign

/-- The descriptors of ended sessions that stand for a socket again have nothing to send to it. -/
def Safe (server : DemoServer) : Prop :=
  ∀ (number : ℕ) (session : Session), server.sessions[number]? = some session →
    session.reader = .returned → server.sockets.target session.clientFd ≠ none → session.Spent

/-- No descriptor is accepted of a session that has something left to send. -/
def AcceptsSpent (server : DemoServer) (event : Event) : Prop :=
  ∀ clientFd, event = .accept clientFd → ∀ (number : ℕ) (session : Session),
    server.sessions[number]? = some session → session.clientFd = clientFd → session.Spent

variable {enableChecksum : Bool} {trace : List Event} {event : Event} {server next : DemoServer}

theorem MayMisdirect.of_step (not_accept : ∀ clientFd, event ≠ .accept clientFd)
    (stepped : (system enableChecksum).step server event = some next)
    (misdirects : MayMisdirect enableChecksum next) : MayMisdirect enableChecksum server := by
  obtain ⟨later, final, accepts, ran, foreign⟩ := misdirects
  refine ⟨event :: later, final, fun clientFd member => ?_, ?_, foreign⟩
  · rcases List.mem_cons.mp member with first | later_member
    · exact not_accept clientFd first.symm
    · exact accepts clientFd later_member
  · rw [EventSystem.run, stepped, Option.bind_some, ran]

/-- An ended session whose descriptor stands for a new socket can send what it has left. -/
theorem mayMisdirect_of_taken {number other : ℕ} {session : Session} {frame : Frame}
    (found : server.sessions[number]? = some session)
    (reused : server.sockets.target session.clientFd = some other) (different : other ≠ number)
    (writing : session.connection.writer = .writing frame) :
    MayMisdirect enableChecksum server := by
  have stepped := step_eq_some_iff.mpr (Step.send found writing le_rfl
    (by simp [reused]) : Step enableChecksum server _ _)
  refine MayMisdirect.of_step (by simp) stepped ⟨[], _, by simp, rfl, ?_⟩
  refine ⟨_, List.mem_append_right _ (List.mem_singleton_self _), ?_, other, reused, different⟩
  rw [Frame.length_serialize]
  exact Nat.add_pos_left (by decide) _

theorem mayMisdirect_of_ready {number other : ℕ} {session : Session}
    (found : server.sessions[number]? = some session)
    (reused : server.sockets.target session.clientFd = some other) (different : other ≠ number)
    (ready : session.connection.writer = .ready)
    (nonempty : session.connection.streamManager.outgoingFrames ≠ []) :
    MayMisdirect enableChecksum server := by
  obtain ⟨frame, frames, queue⟩ := List.exists_cons_of_ne_nil nonempty
  have moved := Session.Step.getNextOutgoingFrame ready queue
  have stepped := step_eq_some_iff.mpr (Step.thread found moved : Step enableChecksum server _ _)
  refine MayMisdirect.of_step (by simp) stepped ?_
  exact mayMisdirect_of_taken ((getElem?_setSession found).mpr (Or.inl ⟨rfl, rfl⟩)) reused
    different rfl

theorem mayMisdirect_of_unspent {number other : ℕ} {session : Session}
    (consistent : server.Consistent) (found : server.sessions[number]? = some session)
    (reused : server.sockets.target session.clientFd = some other) (different : other ≠ number)
    (unspent : ¬ session.Spent) : MayMisdirect enableChecksum server := by
  cases writer : session.connection.writer with
  | writing frame => exact mayMisdirect_of_taken found reused different writer
  | ready =>
      have nonempty := (consistent.serves number session found).ready writer
      exact mayMisdirect_of_ready found reused different writer nonempty
  | idle =>
      have nonempty : session.connection.streamManager.outgoingFrames ≠ [] :=
        fun queue => unspent ⟨by rw [writer]; rfl, queue⟩
      have moved := Session.Step.hasOutgoingFrames writer nonempty
      have stepped :=
        step_eq_some_iff.mpr (Step.thread found moved : Step enableChecksum server _ _)
      refine MayMisdirect.of_step (by simp) stepped ?_
      exact mayMisdirect_of_ready ((getElem?_setSession found).mpr (Or.inl ⟨rfl, rfl⟩)) reused
        different rfl nonempty

/-- A step keeps the server safe unless it accepts a descriptor of a session that is not spent. -/
theorem safe_step_iff (consistent : server.Consistent) (safe : server.Safe)
    (stepped : Step enableChecksum server event next) :
    next.Safe ↔ server.AcceptsSpent event := by
  cases stepped with
  | @accept clientFd nonnegative unused =>
      have target_none : server.sockets.target clientFd = none := by
        rwa [DescriptorTable.isOpen_iff, not_not] at unused
      constructor
      · rintro next_safe _ ⟨⟩ number session found rfl
        have inside := (List.getElem?_eq_some_iff.mp found).1
        apply next_safe number session
        · rw [List.getElem?_append_left inside, found]
        · by_contra reading
          rw [consistent.own number session found reading] at target_none
          contradiction
        · rw [DescriptorTable.target_allocate consistent.wellFormed, if_pos rfl]
          nofun
      · intro spent number session found returned reused
        simp only [List.getElem?_append] at found
        split at found
        · by_cases same : session.clientFd = clientFd
          · exact spent clientFd rfl number session found same
          · rw [DescriptorTable.target_allocate consistent.wellFormed, if_neg same] at reused
            exact safe number session found returned reused
        · rw [List.getElem?_singleton, Option.ite_none_right_eq_some, Option.some.injEq] at found
          obtain ⟨-, rfl⟩ := found
          contradiction
  | @thread number event session after found moved =>
      refine iff_of_true ?_ nofun
      intro other result result_found returned reused
      rcases (getElem?_setSession found).mp result_found with ⟨rfl, rfl⟩ | ⟨-, earlier⟩
      · obtain ⟨clientFd_eq, returned_iff⟩ := moved.keeps
        have ended := returned_iff.mp returned
        have spent := safe other session found ended (clientFd_eq ▸ reused)
        exact spent.step (consistent.serves other session found) (by simp [ended]) moved
      · exact safe other result earlier returned reused
  | @close number session found closing =>
      refine iff_of_true ?_ nofun
      intro other result result_found returned reused
      rw [DescriptorTable.target_close] at reused
      rcases (getElem?_setSession found).mp result_found with ⟨rfl, rfl⟩ | ⟨-, earlier⟩
      · simp at reused
      · split at reused
        · contradiction
        · exact safe other result earlier returned reused
  | @send number count session frame found writing =>
      refine iff_of_true ?_ nofun
      intro other result result_found returned reused
      rcases (getElem?_setSession found).mp result_found with ⟨rfl, rfl⟩ | ⟨-, earlier⟩
      · have spent := safe other session found returned reused
        rw [Session.Spent, writing] at spent
        simp [Writer.taken] at spent
      · exact safe other result earlier returned reused

/-- While the server is safe, bytes reach the socket of their own session only. -/
theorem sends_own (consistent : server.Consistent) (safe : server.Safe)
    (own : ∀ sent ∈ server.sends, ¬ sent.Foreign)
    (stepped : Step enableChecksum server event next) :
    ∀ sent ∈ next.sends, ¬ sent.Foreign := by
  cases stepped with
  | accept | thread | close => exact own
  | @send number count session frame found writing =>
      intro sent member
      rcases List.mem_append.mp member with earlier | last
      · exact own sent earlier
      · obtain rfl := List.mem_singleton.mp last
        rintro ⟨-, other, target_eq, different⟩
        by_cases returned : session.reader = .returned
        · have reused : server.sockets.target session.clientFd ≠ none :=
            Option.ne_none_iff_exists'.mpr ⟨other, target_eq⟩
          have spent := safe number session found returned reused
          rw [Session.Spent, writing] at spent
          simp [Writer.taken] at spent
        · have target_own := consistent.own number session found returned
          exact different (Option.some.inj (target_eq.symm.trans target_own))

/-- Bytes of a session may reach another one's socket exactly if the server is not safe. -/
theorem mayMisdirect_iff (consistent : server.Consistent)
    (own : ∀ sent ∈ server.sends, ¬ sent.Foreign) :
    MayMisdirect enableChecksum server ↔ ¬ server.Safe := by
  constructor
  · rintro ⟨later, final, accepts, ran, sent, member, foreign⟩ safe
    induction later generalizing server with
    | nil =>
        obtain rfl := Option.some.inj ran
        exact own sent member foreign
    | cons event later induction =>
        obtain ⟨next, moved, ran⟩ := Option.bind_eq_some_iff.mp ran
        have stepped := step_eq_some_iff.mp moved
        refine induction (consistent.step stepped) (sends_own consistent safe own stepped)
          (fun clientFd member => accepts clientFd (List.mem_cons_of_mem event member)) ran ?_
        refine (safe_step_iff consistent safe stepped).mpr ?_
        rintro clientFd rfl
        exact absurd List.mem_cons_self (accepts clientFd)
  · intro misdirecting
    simp only [Safe, not_forall] at misdirecting
    obtain ⟨number, session, found, returned, reused, unspent⟩ := misdirecting
    obtain ⟨other, target_eq⟩ := Option.ne_none_iff_exists'.mp reused
    refine mayMisdirect_of_unspent consistent found target_eq ?_ unspent
    rintro rfl
    have unclosed := (DescriptorTable.target_eq_some_iff.mp target_eq).2
    rw [consistent.closed other session found returned] at unclosed
    contradiction

/-- In a run no session's bytes can reach the socket of another one, now or later without a further
`accept`, exactly if `accept` has never handed out the descriptor of a session that had something
left to send. -/
theorem responses_stay_iff (enableChecksum : Bool) (trace : List Event) :
    (system enableChecksum).Along (fun server => ¬ MayMisdirect enableChecksum server) trace ↔
      (system enableChecksum).EachStep AcceptsSpent trace := by
  refine EventSystem.along_iff_eachStep ?_ ?_ trace
  · change ¬ MayMisdirect enableChecksum {}
    rw [mayMisdirect_iff Consistent.initial (by simp), not_not]
    intro number session found
    simp at found
  · intro trace server event next reached stays stepped
    have consistent := consistent_of_reaches reached
    have moved := step_eq_some_iff.mp stepped
    have own : ∀ sent ∈ server.sends, ¬ sent.Foreign := fun sent member foreign =>
      stays ⟨[], server, by simp, rfl, sent, member, foreign⟩
    rw [mayMisdirect_iff consistent own, not_not] at stays
    rw [mayMisdirect_iff (consistent.step moved) (sends_own consistent stays own moved), not_not]
    exact safe_step_iff consistent stays moved

/-- A client sends a frame and is gone before it is answered, and its descriptor is accepted again:
the first answer goes to the new client. -/
example :
    ((system false).run {} ([.accept 5] ++ answering 0 (Frame.create 1 0 []) ++
        [.thread 0 .endOfStream, .close 0, .accept 5] ++ sending 0 4112)).map
      (fun server => server.sends.map fun sent => (sent.session, sent.socket, sent.count)) =
        some [(0, some 1, 4112)] := by
  decide +kernel

end DemoServer
end FramedTcp
