import FramedTcp.TcpServer

/-!
# The write path of a client handler

`ClientHandler::write` from any thread, the write thread, and `stop()`.  The write thread loads the
descriptor of the socket before every `send`; `stop()` takes the descriptor away and closes the
socket, so a descriptor loaded earlier may belong to nobody or to another connection by the time it
is used.
-/

namespace FramedTcp

open EventSystems

namespace HandlerWriter

/-- Where the write thread stands. -/
inductive Progress
  /-- It evaluates `while (running_)`. -/
  | testing
  /-- It waits for data. -/
  | waiting
  /-- It is in its loop over the batch. -/
  | sending
  /-- It has loaded the descriptor for the next `send`. -/
  | loaded (fd : Int32)
  /-- It has returned. -/
  | returned
  deriving DecidableEq

/-- Where a call of `stop()` stands. -/
inductive StopProgress
  /-- There is none. -/
  | idle
  /-- `running_` has been cleared. -/
  | exchanging
  /-- The descriptor has been taken away. -/
  | closing (fd : Int32)
  /-- The threads are being joined. -/
  | joining
  deriving DecidableEq

/-- Steps of the writing threads, of the write thread and of `stop()`. -/
inductive Event
  | write (data : List UInt8)
  | testRunning
  | takeBatch
  | wake
  | loadSocket
  | send (sent : ℤ)
  | nextData
  | endBatch
  | stop
  | exchangeFd
  | closeFd
  | join

end HandlerWriter

open HandlerWriter in
/-- A client handler as its write path sees it. -/
structure HandlerWriter where
  /-- The queue, the batch and what has been transmitted on the client's socket. -/
  handler : ClientHandler
  /-- The descriptor `client_fd_`. -/
  clientFd : Int32
  /-- The flag `running_`. -/
  running : Bool := true
  /-- Is the client's socket open? -/
  connected : Bool := true
  /-- Where the write thread stands. -/
  writer : Progress := .testing
  /-- Where `stop()` stands. -/
  stopper : StopProgress := .idle

namespace HandlerWriter

/-- The write thread evaluates `while (running_)`. -/
def testRunning (state : HandlerWriter) : Option HandlerWriter :=
  match state.writer with
  | .testing =>
      some { state with writer := if state.running then .waiting else .returned }
  | _ => none

/-- The write thread takes the whole queue. -/
def takeBatch (state : HandlerWriter) : Option HandlerWriter :=
  match state.writer, state.running with
  | .waiting, true =>
      state.handler.takeBatch.map fun handler =>
        { state with
          handler
          writer := .sending }
  | _, _ => none

/-- The write thread wakes up and finds the handler stopped. -/
def wake (state : HandlerWriter) : Option HandlerWriter :=
  match state.writer, state.running with
  | .waiting, false => some { state with writer := .returned }
  | _, _ => none

/-- The write thread loads the descriptor, as the current item is not sent yet. -/
def loadSocket (state : HandlerWriter) : Option HandlerWriter :=
  match state.writer, state.handler.pendingData with
  | .sending, data :: _ =>
      if state.handler.totalSent < data.length then
        some { state with writer := .loaded state.clientFd }
      else
        none
  | _, _ => none

/-- `send` on the loaded descriptor: it fails, or it accepts some bytes.  The bytes reach the client
only while its socket is open; the descriptor `-1` accepts nothing. -/
def send (state : HandlerWriter) (sent : ℤ) : Option HandlerWriter :=
  match state.writer with
  | .loaded fd =>
      if sent ≤ 0 then
        some { state with
          running := false
          writer := .returned }
      else if 0 ≤ fd then
        (state.handler.send sent.toNat).map fun handler =>
          { state with
            handler :=
              if state.connected then
                handler
              else
                { state.handler with totalSent := handler.totalSent }
            writer := .sending }
      else
        none
  | _ => none

/-- The write thread goes on to the next item. -/
def nextData (state : HandlerWriter) : Option HandlerWriter :=
  match state.writer with
  | .sending => state.handler.nextData.map fun handler => { state with handler }
  | _ => none

/-- The write thread is done with the batch. -/
def endBatch (state : HandlerWriter) : Option HandlerWriter :=
  match state.writer, state.handler.pendingData with
  | .sending, [] => some { state with writer := .testing }
  | _, _ => none

/-- `stop()` clears `running_`. -/
def stop (state : HandlerWriter) : Option HandlerWriter :=
  match state.stopper with
  | .idle =>
      some { state with
        running := false
        stopper := .exchanging }
  | _ => none

/-- `stop()` takes the descriptor away. -/
def exchangeFd (state : HandlerWriter) : Option HandlerWriter :=
  match state.stopper with
  | .exchanging =>
      some { state with
        clientFd := -1
        stopper := .closing state.clientFd }
  | _ => none

/-- `stop()` closes the socket, if it is the one that has found the descriptor. -/
def closeFd (state : HandlerWriter) : Option HandlerWriter :=
  match state.stopper with
  | .closing fd =>
      some { state with
        connected := if 0 ≤ fd then false else state.connected
        stopper := .joining }
  | _ => none

/-- `stop()` returns after the write thread. -/
def join (state : HandlerWriter) : Option HandlerWriter :=
  match state.stopper, state.writer with
  | .joining, .returned => some { state with stopper := .idle }
  | _, _ => none

/-- One step. -/
def step (state : HandlerWriter) : Event → Option HandlerWriter
  | .write data => some { state with handler := state.handler.write data }
  | .testRunning => state.testRunning
  | .takeBatch => state.takeBatch
  | .wake => state.wake
  | .loadSocket => state.loadSocket
  | .send sent => state.send sent
  | .nextData => state.nextData
  | .endBatch => state.endBatch
  | .stop => state.stop
  | .exchangeFd => state.exchangeFd
  | .closeFd => state.closeFd
  | .join => state.join

/-- The write path of a client from its accept on. -/
def writePath (client : Int32) : EventSystem HandlerWriter Event where
  init :=
    { handler := { id := client }
      clientFd := client }
  step := step

/-- What a step does to the handler's data. -/
inductive Moves (state : HandlerWriter) : Event → HandlerWriter → Prop
  | pushed (data : List UInt8) :
      Moves state (.write data) { state with handler := state.handler.write data }
  | took {next : HandlerWriter} (active : state.writer ≠ .returned)
      (taken : state.handler.takeBatch = some next.handler)
      (connected_eq : next.connected = state.connected) : Moves state .takeBatch next
  | sent {next : HandlerWriter} {sent : ℤ} (active : state.writer ≠ .returned) (positive : 0 < sent)
      (connected : state.connected = true)
      (accepted : state.handler.send sent.toNat = some next.handler)
      (connected_eq : next.connected = state.connected) : Moves state (.send sent) next
  | misdirected {next : HandlerWriter} {sent : ℤ} {totalSent : ℕ}
      (active : state.writer ≠ .returned) (positive : 0 < sent)
      (disconnected : state.connected = false)
      (handler_eq : next.handler = { state.handler with totalSent })
      (connected_eq : next.connected = state.connected) : Moves state (.send sent) next
  | failed {next : HandlerWriter} {sent : ℤ} (failure : sent ≤ 0)
      (handler_eq : next.handler = state.handler) (connected_eq : next.connected = state.connected)
      (returned : next.writer = .returned) : Moves state (.send sent) next
  | advanced {next : HandlerWriter} (active : state.writer ≠ .returned)
      (finished : state.handler.nextData = some next.handler)
      (connected_eq : next.connected = state.connected) : Moves state .nextData next
  | controlled {event : Event} {next : HandlerWriter} (handler_eq : next.handler = state.handler)
      (connected_of : next.connected = true → state.connected = true)
      (returned : state.writer = .returned → next.writer = .returned)
      (not_write : ∀ data, event ≠ .write data) (not_send : ∀ sent, event ≠ .send sent) :
      Moves state event next

variable {client : Int32} {trace : List Event} {event : Event} {state next : HandlerWriter}

theorem moves_of_send {sent : ℤ} (stepped : state.send sent = some next) :
    Moves state (.send sent) next := by
  unfold send at stepped
  split at stepped
  · rename_i fd loaded
    have active : state.writer ≠ .returned := by simp [loaded]
    by_cases failure : sent ≤ 0
    · rw [if_pos failure] at stepped
      obtain rfl := Option.some.inj stepped
      exact .failed failure rfl rfl rfl
    · have positive : 0 < sent := Int.not_le.mp failure
      rw [if_neg failure, Option.ite_none_right_eq_some] at stepped
      obtain ⟨-, handler, accepted, rfl⟩ := And.imp_right Option.map_eq_some_iff.mp stepped
      cases connected : state.connected with
      | true =>
          apply Moves.sent active positive connected
          · simpa [connected] using accepted
          · exact connected.symm
      | false => exact .misdirected active positive connected rfl connected.symm
  · contradiction

theorem moves_of_step (stepped : (writePath client).step state event = some next) :
    Moves state event next := by
  replace stepped : state.step event = some next := stepped
  cases event with
  | write data =>
      obtain rfl := Option.some.inj stepped
      exact .pushed data
  | testRunning =>
      simp only [step, testRunning] at stepped
      split at stepped
      · rename_i testing
        obtain rfl := Option.some.inj stepped
        exact .controlled rfl id (by simp [testing]) nofun nofun
      · contradiction
  | takeBatch =>
      simp only [step, takeBatch] at stepped
      split at stepped
      · rename_i waiting running
        obtain ⟨handler, taken, rfl⟩ := Option.map_eq_some_iff.mp stepped
        exact .took (by simp [waiting]) taken rfl
      · contradiction
  | wake =>
      simp only [step, wake] at stepped
      split at stepped
      · obtain rfl := Option.some.inj stepped
        exact .controlled rfl id (fun _ => rfl) nofun nofun
      · contradiction
  | loadSocket =>
      simp only [step, loadSocket] at stepped
      split at stepped
      · rename_i sending pending
        obtain ⟨-, result⟩ := Option.ite_none_right_eq_some.mp stepped
        obtain rfl := Option.some.inj result
        exact .controlled rfl id (by simp [sending]) nofun nofun
      · contradiction
  | send sent => exact moves_of_send stepped
  | nextData =>
      simp only [step, nextData] at stepped
      split at stepped
      · rename_i sending
        obtain ⟨handler, finished, rfl⟩ := Option.map_eq_some_iff.mp stepped
        exact .advanced (by simp [sending]) finished rfl
      · contradiction
  | endBatch =>
      simp only [step, endBatch] at stepped
      split at stepped
      · rename_i sending _
        obtain rfl := Option.some.inj stepped
        exact .controlled rfl id (by simp [sending]) nofun nofun
      · contradiction
  | stop =>
      simp only [step, stop] at stepped
      split at stepped
      · obtain rfl := Option.some.inj stepped
        exact .controlled rfl id id nofun nofun
      · contradiction
  | exchangeFd =>
      simp only [step, exchangeFd] at stepped
      split at stepped
      · obtain rfl := Option.some.inj stepped
        exact .controlled rfl id id nofun nofun
      · contradiction
  | closeFd =>
      simp only [step, closeFd] at stepped
      split at stepped
      · obtain rfl := Option.some.inj stepped
        refine .controlled rfl (fun connected => ?_) id nofun nofun
        split at connected
        · contradiction
        · exact connected
      · contradiction
  | join =>
      simp only [step, join] at stepped
      split at stepped
      · obtain rfl := Option.some.inj stepped
        exact .controlled rfl id id nofun nofun
      · contradiction

/-! ## The order of the bytes -/

theorem takeBatch_same {handler later : ClientHandler} (taken : handler.takeBatch = some later) :
    later.transmitted = handler.transmitted ∧ later.pushed = handler.pushed := by
  obtain ⟨-, rfl⟩ := ClientHandler.takeBatch_eq_some_iff.mp taken
  exact ⟨rfl, rfl⟩

theorem nextData_same {handler later : ClientHandler} (moved : handler.nextData = some later) :
    later.transmitted = handler.transmitted ∧ later.pushed = handler.pushed := by
  obtain ⟨_, _, -, -, rfl⟩ := ClientHandler.nextData_eq_some_iff.mp moved
  exact ⟨rfl, rfl⟩

theorem pushed_of_send {handler later : ClientHandler} {count : ℕ}
    (sent : handler.send count = some later) : later.pushed = handler.pushed := by
  obtain ⟨_, _, -, -, rfl⟩ := ClientHandler.send_eq_some_iff.mp sent
  rfl

/-- The data an event pushes to the queue. -/
def Event.pushed? : Event → Option (List UInt8)
  | .write data => some data
  | _ => none

/-- The bytes transmitted are in the order of the calls of `write`. -/
structure Ordered (trace : List Event) (state : HandlerWriter) : Prop where
  pushed_eq : state.handler.pushed = trace.filterMap Event.pushed?
  delivers : state.connected = true → state.handler.Delivers
  transmitted_le : state.handler.transmitted <+: state.handler.pushed.flatten

namespace Ordered

/-- A step that neither pushes nor transmits. -/
theorem keep (ordered : Ordered trace state) (silent : event.pushed? = none)
    (same : next.handler.transmitted = state.handler.transmitted ∧
      next.handler.pushed = state.handler.pushed)
    (delivers : next.connected = true → next.handler.Delivers) :
    Ordered (trace ++ [event]) next := by
  refine ⟨?_, delivers, ?_⟩
  · rw [same.2, ordered.pushed_eq]
    simp [silent]
  · rw [same.1, same.2]
    exact ordered.transmitted_le

/-- A step that leaves the handler's data in order. -/
theorem of_delivers (ordered : Ordered trace state) (silent : event.pushed? = none)
    (pushed_eq : next.handler.pushed = state.handler.pushed) (delivers : next.handler.Delivers) :
    Ordered (trace ++ [event]) next := by
  refine ⟨?_, fun _ => delivers, delivers.transmitted_le⟩
  rw [pushed_eq, ordered.pushed_eq]
  simp [silent]

theorem step (ordered : Ordered trace state) (moves : Moves state event next) :
    Ordered (trace ++ [event]) next := by
  cases moves with
  | pushed data =>
      refine ⟨?_, fun connected => (ordered.delivers connected).write data, ?_⟩
      · simp [ClientHandler.write, ordered.pushed_eq, Event.pushed?]
      · simp only [ClientHandler.write, List.flatten_append]
        exact ordered.transmitted_le.trans (List.prefix_append _ _)
  | took active taken connected_eq =>
      apply ordered.keep rfl (takeBatch_same taken)
      intro connected
      exact (ordered.delivers (connected_eq ▸ connected)).takeBatch taken
  | sent active positive connected accepted =>
      exact ordered.of_delivers rfl (pushed_of_send accepted)
        ((ordered.delivers connected).send accepted)
  | misdirected active positive disconnected handler_eq connected_eq =>
      apply ordered.keep rfl
      · rw [handler_eq]
        exact ⟨rfl, rfl⟩
      · intro connected
        rw [connected_eq, disconnected] at connected
        contradiction
  | failed failure handler_eq connected_eq =>
      apply ordered.keep rfl
      · rw [handler_eq]
        exact ⟨rfl, rfl⟩
      · intro connected
        rw [handler_eq]
        exact ordered.delivers (connected_eq ▸ connected)
  | advanced active finished connected_eq =>
      apply ordered.keep rfl (nextData_same finished)
      intro connected
      exact (ordered.delivers (connected_eq ▸ connected)).nextData finished
  | controlled handler_eq connected_of returned not_write =>
      apply ordered.keep
      · cases event with
        | write data => exact absurd rfl (not_write data)
        | _ => rfl
      · rw [handler_eq]
        exact ⟨rfl, rfl⟩
      · intro connected
        rw [handler_eq]
        exact ordered.delivers (connected_of connected)

end Ordered

theorem ordered_of_reaches (reached : (writePath client).Reaches trace state) :
    Ordered trace state := by
  refine reached.invariant (motive := Ordered) ?_ ?_
  · exact ⟨rfl, fun _ => .initial client, List.prefix_rfl⟩
  · exact fun _ ordered stepped => ordered.step (moves_of_step stepped)

/-! ## After a failure -/

/-- The write thread transmits nothing after it has returned. -/
theorem returned_step (moves : Moves state event next) (returned : state.writer = .returned) :
    next.writer = .returned ∧ next.handler.transmitted = state.handler.transmitted := by
  cases moves with
  | pushed data => exact ⟨returned, rfl⟩
  | took active | sent active | misdirected active | advanced active =>
      exact absurd returned active
  | failed failure handler_eq connected_eq later =>
      rw [handler_eq]
      exact ⟨later, rfl⟩
  | controlled handler_eq connected_of later =>
      rw [handler_eq]
      exact ⟨later returned, rfl⟩

theorem returned_run (returned : state.writer = .returned)
    (ran : (writePath client).run state trace = some next) :
    next.handler.transmitted = state.handler.transmitted := by
  induction trace generalizing state with
  | nil => rw [Option.some.inj ran]
  | cons event trace induction =>
      obtain ⟨middle, stepped, later⟩ := Option.bind_eq_some_iff.mp ran
      obtain ⟨middle_returned, same⟩ := returned_step (moves_of_step stepped) returned
      rw [induction middle_returned later, same]

/-- A failed `send` is the end of the transmission. -/
theorem failed_step {sent : ℤ} (failure : sent ≤ 0)
    (stepped : (writePath client).step state (.send sent) = some next) :
    next.writer = .returned ∧ next.handler.transmitted = state.handler.transmitted := by
  cases moves_of_step stepped with
  | failed _ handler_eq connected_eq later =>
      rw [handler_eq]
      exact ⟨later, rfl⟩
  | sent active positive | misdirected active positive => omega
  | controlled handler_eq connected_of returned not_write not_send =>
      exact absurd rfl (not_send sent)

/-- Whatever the threads and `send` do: the bytes transmitted on the client's socket are a front
piece of the buffers given to `write`, in the order of the calls; as long as the socket is open, the
rest is still waiting; and nothing is transmitted after a `send` that has failed. -/
theorem transmitted_in_order (client : Int32) (trace : List Event) (state : HandlerWriter)
    (reached : (writePath client).Reaches trace state) :
    state.handler.transmitted <+: (trace.filterMap Event.pushed?).flatten ∧
      (state.connected = true → state.handler.transmitted ++
        (state.handler.pendingData.flatten.drop state.handler.totalSent ++
          state.handler.outgoingQueue.flatten) = (trace.filterMap Event.pushed?).flatten) ∧
      ∀ front sent back, trace = front ++ .send sent :: back → sent ≤ 0 →
        ∀ before, (writePath client).Reaches front before →
          state.handler.transmitted = before.handler.transmitted := by
  have ordered := ordered_of_reaches reached
  refine ⟨?_, ?_, ?_⟩
  · exact ordered.pushed_eq ▸ ordered.transmitted_le
  · intro connected
    rw [← ordered.pushed_eq]
    exact (ordered.delivers connected).transmitted_eq
  · rintro front sent back rfl failure before before_reached
    rw [EventSystem.Reaches, EventSystem.run_append, before_reached, Option.bind_some] at reached
    obtain ⟨after, stepped, ran⟩ := Option.bind_eq_some_iff.mp reached
    obtain ⟨returned, same⟩ := failed_step failure stepped
    rw [returned_run returned ran, same]

/-- Two writes, a partial `send`, and `stop()` before the rest is sent. -/
def stoppedTrace : List Event :=
  [.write [1, 2, 3], .testRunning, .takeBatch, .write [4], .loadSocket, .send 2, .stop,
    .exchangeFd, .closeFd, .loadSocket, .send (-1), .join]

theorem transmitted_in_order_stopped :
    ∃ state, (writePath 4).Reaches stoppedTrace state ∧
      state.handler.transmitted = [1, 2] ∧
      state.handler.transmitted <+: (stoppedTrace.filterMap Event.pushed?).flatten :=
  ⟨_, rfl, rfl, (transmitted_in_order 4 stoppedTrace _ rfl).1⟩

end HandlerWriter
end FramedTcp
