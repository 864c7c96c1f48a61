-- SUMMARY: One TCP connection as a transition system (the protocol's write and close calls, the reactor's polls of the transport task) and what holds along every run of it.
import PyTokio.Transport.TcpTransport

/-!
# A connection over time

`tcp_transport_factory` spawns one `TcpTransport` task per socket. From then on two parties
act on it, in any interleaving: the protocol calls `write` and `close`, which queue messages
on the task's intake, and the reactor polls the task while it is running. The socket's
behaviour is fixed up front, as the reads it will return and the answers its sink will give.

The invariant has a read part, kept by every step, and a write part, kept while the task
runs. From them: the bytes handed to `data_received` are exactly the bytes read, in order
and in non-empty chunks, and after end of stream nothing is read or handed over any more; the
chunks written before the first `close` are, in order, those the sink accepted, then `buf`,
then those still queued. When the task resolves on `Close`, every chunk written before it has
been accepted, but only those a `poll_complete` confirmed are sure to be on the socket: the
`Close` arm returns before the flush.
-/

namespace PyTokio

/-- How the transport task stands: still polled, resolved on a `Close`, or failed. -/
inductive TaskStatus
  | running
  | completed
  | failed (e : IoError)

/-- One connection: the transport task, the messages the protocol sent it through `write`
and `close` (oldest first), and the chunks the task handed to `data_received` (oldest
first). -/
structure Connection where
  task : TcpTransport
  status : TaskStatus
  sent : List TcpTransportMessage
  received : List Chunk

namespace Connection

/-- A connection as `tcp_transport_factory` spawns it, on a socket that will read `inbound`
and whose sink answers from `sendAnswers` and `completeAnswers`. -/
def init (inbound : List ReadEvent) (sendAnswers : List SendAnswer)
    (completeAnswers : List CompleteAnswer) : Connection :=
  ⟨TcpTransport.new inbound sendAnswers completeAnswers, .running, [], []⟩

/-- `PyTcpTransport.write` (a `Bytes` message) or `close` (a `Close` message): send it to the
task's intake. -/
def send (c : Connection) (msg : TcpTransportMessage) : Connection :=
  { c with task := ⟨c.task.rd, { c.task.wr with intake := c.task.wr.intake ++ [msg] }⟩,
           sent := c.sent ++ [msg] }

/-- The status a call of `TcpTransport::poll` leaves the task in. -/
def statusOf : Except IoError (Async Unit) → TaskStatus
  | .ok .notReady => .running
  | .ok (.ready ()) => .completed
  | .error e => .failed e

/-- The reactor polls the task once. -/
def poll (c : Connection) : Connection :=
  match c.task.poll with
  | (res, task, frames) => ⟨task, statusOf res, c.sent, c.received ++ frames⟩

/-- A step of the connection: the protocol writes or closes, or the reactor polls the running
task. -/
inductive Step : Connection → Connection → Prop
  | write (c : Connection) (bytes : Chunk) : Step c (c.send (.bytes bytes))
  | close (c : Connection) : Step c (c.send .close)
  | poll (c : Connection) : c.status = .running → Step c c.poll

/-- The states some run reaches, for some behaviour of the socket. -/
def Reachable (c : Connection) : Prop :=
  ∃ inbound sendAnswers completeAnswers,
    Relation.ReflTransGen Step (init inbound sendAnswers completeAnswers) c

/-! ## The invariant -/

/-- The read side, in every state: the read half's own invariant, and the chunks handed to
`data_received` are non-empty and are, end to end, the bytes read. -/
def ReadInv (c : Connection) : Prop :=
  c.task.rd.Inv ∧ (∀ x ∈ c.received, x ≠ []) ∧ c.received.flatten = bytesRead c.task.rd.reader.log

/-- The write side, while the task runs: the intake is what is left of the messages sent, the
messages taken from it hold no `Close`, and their chunks are those the sink accepted and then
`buf`; `flushed` is set only if `poll_complete` answered `Ready` since the last accepted item. -/
def WriteInv (c : Connection) : Prop :=
  (∃ taken, c.sent = taken ++ c.task.wr.intake ∧ .close ∉ taken ∧
    bytesBeforeClose taken = c.task.wr.drained) ∧
  (c.task.wr.flushed = true → flushedSinceAccept c.task.wr.sink.log)

/-- What a task that resolved on `Close` leaves: a `Close` was sent, and every chunk written
before the first one was accepted by the sink. -/
def Closed (c : Connection) : Prop :=
  .close ∈ c.sent ∧ accepted c.task.wr.sink.log = bytesBeforeClose c.sent

/-- The invariant of a connection. -/
def Inv (c : Connection) : Prop :=
  c.ReadInv ∧ (c.status = .running → c.WriteInv) ∧ (c.status = .completed → c.Closed)

theorem bytesBeforeClose_append_of_mem {l : List TcpTransportMessage} (h : .close ∈ l)
    (rest : List TcpTransportMessage) : bytesBeforeClose (l ++ rest) = bytesBeforeClose l := by
  induction l with
  | nil => cases h
  | cons m l ih => cases m <;> simp_all

theorem inv_init (inbound : List ReadEvent) (sendAnswers : List SendAnswer)
    (completeAnswers : List CompleteAnswer) : (init inbound sendAnswers completeAnswers).Inv :=
  ⟨⟨TcpTransport.ReadHalf.inv_new inbound, by simp [init], by simp [init, TcpTransport.new,
    FramedRead.init]⟩,
   fun _ => ⟨⟨[], by simp [init, TcpTransport.new], by simp, by
     simp [init, TcpTransport.new, TcpTransport.WriteHalf.drained, accepted]⟩, nofun⟩,
   nofun⟩

theorem Inv.send {c : Connection} (h : c.Inv) (msg : TcpTransportMessage) : (c.send msg).Inv := by
  obtain ⟨hr, hw, hd⟩ := h
  refine ⟨hr, fun hs => ?_, fun hs => ?_⟩
  · obtain ⟨⟨taken, hsent, hc, hb⟩, hf⟩ := hw hs
    exact ⟨⟨taken, by simp [Connection.send, hsent], hc, hb⟩, hf⟩
  · obtain ⟨hm, ha⟩ := hd hs
    exact ⟨by simp [Connection.send, hm], by
      simp only [Connection.send, bytesBeforeClose_append_of_mem hm]; exact ha⟩

theorem ReadInv.poll {c : Connection} (h : c.ReadInv) : c.poll.ReadInv := by
  obtain ⟨hi, hne, hb⟩ := h
  rcases hp : c.task.poll with ⟨res, task, frames⟩
  obtain ⟨r, hr⟩ := TcpTransport.poll_readPart hp
  obtain ⟨hi', hne', hb'⟩ := TcpTransport.readPart_spec hi hr
  simp only [Connection.poll, hp]
  refine ⟨hi', fun x hx => ?_, by simp [hb, hb']⟩
  rcases List.mem_append.mp hx with hx | hx
  exacts [hne x hx, hne' x hx]

theorem Inv.poll {c : Connection} (h : c.Inv) (hrun : c.status = .running) : c.poll.Inv := by
  obtain ⟨hr, hw, -⟩ := h
  obtain ⟨⟨taken, hsent, hc, hb⟩, hf⟩ := hw hrun
  refine ⟨hr.poll, ?_⟩
  rcases hp : c.task.poll with ⟨res, task, frames⟩
  simp only [Connection.poll, hp]
  rcases res with e | _ | _
  · exact ⟨nofun, nofun⟩
  · obtain ⟨taken', hin, hc', ha, -⟩ := (TcpTransport.writeLoop_spec (TcpTransport.poll_ready hp)).2.1 rfl
    refine ⟨nofun, fun _ => ⟨by simp [hsent, hin], ?_⟩⟩
    rw [ha, hsent, hin, ← List.append_assoc, bytesBeforeClose_append (by simp [hc, hc']),
      bytesBeforeClose_append hc, ← hb]
    simp
  · obtain ⟨w, hw', hfl⟩ := TcpTransport.poll_notReady hp
    obtain ⟨hidle, -, hwf⟩ := TcpTransport.writeLoop_spec hw'
    obtain ⟨taken', hin, hc', hd⟩ := hidle rfl
    obtain ⟨hin', hd', hfsa⟩ := TcpTransport.flush_spec hfl
    refine ⟨fun _ => ⟨⟨taken ++ taken', ?_, by simp [hc, hc'], ?_⟩, hfsa fun hw₁ => ?_⟩, nofun⟩
    · simp [hsent, hin, hin']
    · rw [bytesBeforeClose_append hc, hb, hd', hd]
    · obtain ⟨hl, hf₀⟩ := hwf hw₁
      rw [hl]
      exact hf hf₀

theorem Inv.step {c c' : Connection} (h : c.Inv) (hs : Step c c') : c'.Inv := by
  cases hs with
  | write bytes => exact h.send _
  | close => exact h.send _
  | poll hrun => exact h.poll hrun

theorem Reachable.inv {c : Connection} (h : c.Reachable) : c.Inv := by
  obtain ⟨inbound, sendAnswers, completeAnswers, hrun⟩ := h
  induction hrun with
  | refl => exact inv_init inbound sendAnswers completeAnswers
  | tail _ hs ih => exact ih.step hs

/-! ## Reading -/

/-- After end of stream a step leaves the read half and the chunks handed over as they are. -/
theorem step_of_incomingEof {c c' : Connection} (hs : Step c c')
    (he : c.task.rd.incomingEof = true) : c'.task.rd = c.task.rd ∧ c'.received = c.received := by
  cases hs with
  | write bytes => exact ⟨rfl, rfl⟩
  | close => exact ⟨rfl, rfl⟩
  | poll _ =>
    rcases hp : c.task.poll with ⟨res, task, frames⟩
    obtain ⟨r, hr⟩ := TcpTransport.poll_readPart hp
    rw [TcpTransport.readPart_of_incomingEof he] at hr
    simp only [Prod.mk.injEq] at hr
    obtain ⟨-, hrd, rfl⟩ := hr
    simp [Connection.poll, hp, ← hrd]

/-- Along every run: the chunks handed to `data_received` are non-empty and are, end to end,
exactly the bytes the socket's reads returned, so none is lost or handed over twice;
`incoming_eof` is set exactly when a read returned end of stream; and from then on the framed
stream is never polled again (the reader, the record of its reads and the socket's coming
reads stay as they are) and no chunk is handed over. -/
theorem received_eq_bytesRead {c : Connection} (hc : c.Reachable) :
    (∀ x ∈ c.received, x ≠ []) ∧ c.received.flatten = bytesRead c.task.rd.reader.log ∧
    (c.task.rd.incomingEof = true ↔ .ready [] ∈ c.task.rd.reader.log) ∧
    ∀ c', c.task.rd.incomingEof = true → Relation.ReflTransGen Step c c' →
      c'.task.rd = c.task.rd ∧ c'.received = c.received := by
  obtain ⟨⟨⟨-, -, heof⟩, hne, hb⟩, -⟩ := hc.inv
  refine ⟨hne, hb, heof, fun c' he hrun => ?_⟩
  induction hrun with
  | refl => exact ⟨rfl, rfl⟩
  | tail _ hs ih =>
    obtain ⟨hrd, hrec⟩ := ih
    obtain ⟨hrd', hrec'⟩ := step_of_incomingEof hs (hrd ▸ he)
    exact ⟨hrd'.trans hrd, hrec'.trans hrec⟩

/-- The socket reads two chunks and then end of stream; one poll hands both over. -/
theorem received_eq_bytesRead_two_reads :
    let c := (init [.ready [1, 2], .ready [3], .ready []] [] []).poll
    c.Reachable ∧ ((∀ x ∈ c.received, x ≠ []) ∧ c.received.flatten = bytesRead c.task.rd.reader.log ∧
      (c.task.rd.incomingEof = true ↔ .ready [] ∈ c.task.rd.reader.log) ∧
      ∀ c', c.task.rd.incomingEof = true → Relation.ReflTransGen Step c c' →
        c'.task.rd = c.task.rd ∧ c'.received = c.received) :=
  have hc : ((init [.ready [1, 2], .ready [3], .ready []] [] []).poll).Reachable :=
    ⟨_, _, _, .single (.poll _ rfl)⟩
  ⟨hc, received_eq_bytesRead hc⟩

/-! ## Writing -/

/-- Along every run, while the task runs: the chunks written before the first `close` are, in
order, those the sink accepted, then the one held in `buf`, then the `Bytes` still queued, so
none is lost, duplicated or reordered and nothing behind `buf` was taken from the intake; the
intake is what is left of the messages sent; and `flushed` is set only if `poll_complete`
answered `Ready` after the last item the sink accepted. -/
theorem write_order_preserved {c : Connection} (hc : c.Reachable) (hrun : c.status = .running) :
    bytesBeforeClose c.sent =
      accepted c.task.wr.sink.log ++ c.task.wr.buf.toList ++ bytesBeforeClose c.task.wr.intake ∧
    c.task.wr.intake <:+ c.sent ∧
    (c.task.wr.flushed = true → flushedSinceAccept c.task.wr.sink.log) := by
  obtain ⟨⟨taken, hsent, hclose, hb⟩, hf⟩ := hc.inv.2.1 hrun
  refine ⟨?_, ⟨taken, hsent.symm⟩, hf⟩
  rw [hsent, bytesBeforeClose_append hclose, hb]
  rfl

/-- Two writes; the sink accepts the first and hands back the second, which waits in `buf`. -/
theorem write_order_preserved_held_back :
    let c := (((init [] [.ready, .notReady] [.notReady]).send (.bytes [1])).send (.bytes [2])).poll
    c.Reachable ∧ c.status = .running ∧
      (bytesBeforeClose c.sent =
        accepted c.task.wr.sink.log ++ c.task.wr.buf.toList ++ bytesBeforeClose c.task.wr.intake ∧
      c.task.wr.intake <:+ c.sent ∧
      (c.task.wr.flushed = true → flushedSinceAccept c.task.wr.sink.log)) :=
  have hc : ((((init [] [.ready, .notReady] [.notReady]).send (.bytes [1])).send
      (.bytes [2])).poll).Reachable :=
    ⟨_, _, _, .tail (.tail (.single (.write _ _)) (.write _ _)) (.poll _ rfl)⟩
  have hrun : ((((init [] [.ready, .notReady] [.notReady]).send (.bytes [1])).send
      (.bytes [2])).poll).status = .running := by
    simp [Connection.poll, TcpTransport.poll, TcpTransport.readPart, TcpTransport.readLoop_eq,
      FramedRead.poll, FramedRead.decodeStep, init, TcpTransport.new, FramedRead.init,
      Connection.send, TcpTransport.writeLoop_eq, TcpTransport.takeNext, Sink.startSend, statusOf,
      TcpTransport.flush, Sink.pollComplete]
  ⟨hc, hrun, write_order_preserved hc hrun⟩

/-- When the task resolves on `Close`, every chunk written before the first `close` was
accepted by the sink, and what `poll_complete` confirmed is an initial part of it. -/
theorem accepted_of_completed {c : Connection} (hc : c.Reachable) (hdone : c.status = .completed) :
    accepted c.task.wr.sink.log = bytesBeforeClose c.sent ∧
    confirmed c.task.wr.sink.log <+: bytesBeforeClose c.sent := by
  obtain ⟨-, ha⟩ := hc.inv.2.2 hdone
  exact ⟨ha, ha ▸ confirmed_prefix _⟩

/-- Two writes and a `close()`, then a poll on a sink that accepts both: the task completes with
both chunks accepted. -/
theorem accepted_of_completed_two_writes :
    let c := ((((init [] [] []).send (.bytes [1])).send (.bytes [2])).send .close).poll
    c.Reachable ∧ c.status = .completed ∧
      (accepted c.task.wr.sink.log = bytesBeforeClose c.sent ∧
        confirmed c.task.wr.sink.log <+: bytesBeforeClose c.sent) :=
  have hc : (((((init [] [] []).send (.bytes [1])).send (.bytes [2])).send .close).poll).Reachable :=
    ⟨_, _, _, .tail (.tail (.tail (.single (.write _ _)) (.write _ _)) (.close _)) (.poll _ rfl)⟩
  have hdone : (((((init [] [] []).send (.bytes [1])).send (.bytes [2])).send .close).poll).status =
      .completed := by
    simp [Connection.poll, TcpTransport.poll, TcpTransport.readPart, TcpTransport.readLoop_eq,
      FramedRead.poll, FramedRead.decodeStep, init, TcpTransport.new, FramedRead.init,
      Connection.send, TcpTransport.writeLoop_eq, TcpTransport.takeNext, Sink.startSend, statusOf]
  ⟨hc, hdone, accepted_of_completed hc hdone⟩

/-- `write(b)` then `close()` before the task is polled, on a sink that buffers what it
accepts: the poll takes `b` and the sink accepts it, then the poll takes `Close` and resolves
the task before the flush, so `poll_complete` never confirms `b`. -/
theorem close_before_flush (b : Chunk) :
    let c := (((init [] [] []).send (.bytes b)).send .close).poll
    c.Reachable ∧ c.status = .completed ∧ bytesBeforeClose c.sent = [b] ∧
      c.task.wr.sink.log = [.startSend b .ready] ∧ confirmed c.task.wr.sink.log = [] :=
  ⟨⟨_, _, _, .tail (.tail (.single (.write _ _)) (.close _)) (.poll _ rfl)⟩, by
    simp [Connection.poll, TcpTransport.poll, TcpTransport.readPart, TcpTransport.readLoop_eq,
      FramedRead.poll, FramedRead.decodeStep, init, TcpTransport.new, FramedRead.init,
      Connection.send, TcpTransport.writeLoop_eq, TcpTransport.takeNext, Sink.startSend, statusOf,
      confirmed]⟩

end Connection

end PyTokio
