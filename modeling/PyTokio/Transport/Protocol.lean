-- SUMMARY: What the protocol object of a TCP connection is told (`connection_made`, `data_received`, `connection_lost`) by `tcp_transport_factory`, `PyTcpTransport` and the spawned transport task, along every run of the connection; and `ToPyErr` for `io::Error`.
import PyTokio.Transport.Connection

/-!
# The protocol's callbacks

`tcp_transport_factory` calls the protocol factory, and `PyTcpTransport::new` looks up the
protocol's `connection_made`, `connection_lost` and `data_received` and calls `connection_made`
with the new transport. The transport task is then spawned, mapped so that its end calls the
protocol's `connection_lost`: with `None` when the task completes, and with the exception built
from its `io::Error` when it fails (`connection_error`). While it runs, the task hands every
chunk it reads to `data_received`.

A `Session` is a `Connection` together with the callbacks its protocol got, oldest first. Its
steps are the connection's; the callbacks a poll makes are the chunks it handed over and, if the
task resolved, `connection_lost`. The task resolves only on a `Close` or an error, never at end
of stream, so a peer that hangs up is not reported to the protocol.

What the callbacks return is logged and dropped, so it is not modelled; nor is a failure to
build the `PyBytes` of a chunk, which only the allocator can cause.
-/

namespace PyTokio

/-! ## Exceptions from I/O errors -/

/-- The classes of the exceptions the modelled code raises, and of those the argument
conversions of `py_class!` methods raise. -/
inductive ExcClass
  | osError
  | brokenPipeError
  | connectionRefusedError
  | connectionAbortedError
  | connectionResetError
  | interruptedError
  | socketTimeout
  | gaiError
  | valueError
  | typeError
  | runtimeError
  | overflowError
deriving DecidableEq

/-- A Python value the extension builds: an `int`, a `str`, or a tuple of values. -/
inductive PyValue
  | int (v : Int)
  | str (s : String)
  | tuple (items : List PyValue)

/-- A Python exception: its class and the arguments it was built from. -/
structure PyException where
  cls : ExcClass
  args : List PyValue

/-- The class `ToPyErr for io::Error` picks for an error kind. -/
def excClassOf : ErrorKind → ExcClass
  | .brokenPipe => .brokenPipeError
  | .connectionRefused => .connectionRefusedError
  | .connectionAborted => .connectionAbortedError
  | .connectionReset => .connectionResetError
  | .interrupted => .interruptedError
  | .timedOut | .other => .osError

/-- `ToPyErr for io::Error`: an exception of the kind's class, built from `(errno, description)`,
with `errno` the OS error code, or `0` when there is none. -/
def IoError.toPyErr (err : IoError) : PyException :=
  ⟨excClassOf err.kind, [.int (err.rawOsError.getD 0), .str err.desc]⟩

/-! ## Callbacks -/

/-- A call of one of the protocol's callbacks. -/
inductive ProtocolEvent
  | connectionMade
  | dataReceived (bytes : Chunk)
  | connectionLost (exc : Option PyException)

/-- The exception `PyTcpTransport::connection_error` hands to `connection_lost`: a new
`socket.timeout()` for a timeout, the error's `to_pyerr` otherwise. -/
def connectionErrorExc (err : IoError) : PyException :=
  match err.kind with
  | .timedOut => ⟨.socketTimeout, []⟩
  | _ => err.toPyErr

/-- The callback the spawned `transport.map(..).map_err(..)` makes once the task resolves:
`connection_lost(None)` on completion, `connection_error(err)` on failure; none while it runs. -/
def lostCalls : TaskStatus → List ProtocolEvent
  | .running => []
  | .completed => [.connectionLost none]
  | .failed err => [.connectionLost (some (connectionErrorExc err))]

/-- The protocol object the factory returns, as `PyTcpTransport::new` finds it: the results of
looking up `connection_made`, `connection_lost` and `data_received`, and of calling
`connection_made`. -/
structure ProtocolObject where
  connectionMade : Except PyException Unit
  connectionLost : Except PyException Unit
  dataReceived : Except PyException Unit
  made : Except PyException Unit

/-- `PyTcpTransport::new`: look up the three callbacks, returning the first failure; make the
transport and call `connection_made` with it, whose exception is logged and returned. Gives the
callbacks called. -/
def PyTcpTransport.new (proto : ProtocolObject) : Except PyException Unit × List ProtocolEvent :=
  match (do proto.connectionMade; proto.connectionLost; proto.dataReceived :
      Except PyException Unit) with
  | .error e => (.error e, [])
  | .ok () => (proto.made, [.connectionMade])

/-- A connection together with the callbacks its protocol got, oldest first. -/
structure Session where
  conn : Connection
  calls : List ProtocolEvent

/-- `tcp_transport_factory` on a socket that will read `inbound` and whose sink answers from
`sendAnswers` and `completeAnswers`: call the protocol factory (`factory`; its exception is
logged and returned), make the `PyTcpTransport`, and spawn the transport task. Gives the session
spawned, or the error, and the callbacks called. -/
def tcpTransportFactory (factory : Except PyException ProtocolObject) (inbound : List ReadEvent)
    (sendAnswers : List SendAnswer) (completeAnswers : List CompleteAnswer) :
    Except PyException Session × List ProtocolEvent :=
  match factory with
  | .error e => (.error e, [])
  | .ok proto =>
    match PyTcpTransport.new proto with
    | (.error e, calls) => (.error e, calls)
    | (.ok (), calls) => (.ok ⟨Connection.init inbound sendAnswers completeAnswers, calls⟩, calls)

/-- `PyTcpTransport::new` returns the transport only after calling `connection_made`, and
nothing else. -/
theorem PyTcpTransport.new_ok {proto : ProtocolObject} {calls : List ProtocolEvent}
    (h : PyTcpTransport.new proto = (.ok (), calls)) : calls = [.connectionMade] := by
  unfold PyTcpTransport.new at h
  split at h <;> simp only [Prod.mk.injEq, reduceCtorEq, false_and] at h
  exact h.2.symm

/-- A factory that spawns a task has called `connection_made` and nothing else. -/
theorem tcpTransportFactory_ok {factory : Except PyException ProtocolObject}
    {inbound : List ReadEvent} {sendAnswers : List SendAnswer}
    {completeAnswers : List CompleteAnswer} {s : Session} {calls : List ProtocolEvent}
    (h : tcpTransportFactory factory inbound sendAnswers completeAnswers = (.ok s, calls)) :
    s = ⟨Connection.init inbound sendAnswers completeAnswers, [.connectionMade]⟩ := by
  rcases factory with e | proto
  · cases h
  · rcases hn : PyTcpTransport.new proto with ⟨_ | ⟨⟩, calls'⟩ <;>
      simp only [tcpTransportFactory, hn, Prod.mk.injEq, reduceCtorEq, false_and,
        Except.ok.injEq] at h
    rw [← h.1, PyTcpTransport.new_ok hn]

namespace Session

/-- `write` or `close` on the transport. -/
def send (s : Session) (msg : TcpTransportMessage) : Session := ⟨s.conn.send msg, s.calls⟩

/-- The reactor polls the task: the chunks it reads go to `data_received`, and if the task
resolves, `connection_lost` is called. -/
def poll (s : Session) : Session :=
  match s.conn.task.poll with
  | (res, task, frames) =>
    ⟨⟨task, Connection.statusOf res, s.conn.sent, s.conn.received ++ frames⟩,
      s.calls ++ frames.map .dataReceived ++ lostCalls (Connection.statusOf res)⟩

/-- A session's poll is its connection's. -/
theorem poll_conn (s : Session) : s.poll.conn = s.conn.poll := by
  rcases h : s.conn.task.poll with ⟨res, task, frames⟩
  simp only [poll, Connection.poll, h]

/-- A step of the session: the protocol writes or closes, or the reactor polls the running
task. -/
inductive Step : Session → Session → Prop
  | write (s : Session) (bytes : Chunk) : Step s (s.send (.bytes bytes))
  | close (s : Session) : Step s (s.send .close)
  | poll (s : Session) : s.conn.status = .running → Step s s.poll

/-- The sessions some run reaches, from a task `tcp_transport_factory` spawned. -/
def Reachable (s : Session) : Prop :=
  ∃ factory inbound sendAnswers completeAnswers s₀ calls,
    tcpTransportFactory factory inbound sendAnswers completeAnswers = (.ok s₀, calls) ∧
      Relation.ReflTransGen Step s₀ s

/-- Every step of a session is a step of its connection. -/
theorem Step.conn {s s' : Session} (h : Step s s') : Connection.Step s.conn s'.conn := by
  cases h with
  | write bytes => exact .write _ bytes
  | close => exact .close _
  | poll hrun => exact poll_conn s ▸ .poll _ hrun

/-- The callbacks a session's protocol got, read off its connection: `connection_made`, one
`data_received` per chunk handed over, and the `connection_lost` of a resolved task. -/
def History (s : Session) : Prop :=
  s.calls = .connectionMade :: s.conn.received.map .dataReceived ++ lostCalls s.conn.status

theorem History.step {s s' : Session} (h : s.History) (hs : Step s s') : s'.History := by
  cases hs with
  | write bytes => exact h
  | close => exact h
  | poll hrun =>
    rcases hp : s.conn.task.poll with ⟨res, task, frames⟩
    simp only [History, poll, hp] at h ⊢
    rw [h, hrun]
    simp [lostCalls]

theorem Reachable.history {s : Session} (hs : s.Reachable) : s.conn.Reachable ∧ s.History := by
  obtain ⟨factory, inbound, sendAnswers, completeAnswers, s₀, calls, hf, hrun⟩ := hs
  obtain rfl := tcpTransportFactory_ok hf
  induction hrun with
  | refl => exact ⟨⟨inbound, sendAnswers, completeAnswers, .refl⟩, by simp [History, lostCalls,
      Connection.init]⟩
  | tail _ hs ih =>
    obtain ⟨⟨i, sa, ca, hc⟩, hh⟩ := ih
    exact ⟨⟨i, sa, ca, hc.tail hs.conn⟩, hh.step hs⟩

/-- A session whose task has resolved is never polled again: a step takes no callback, keeps
the status and leaves the sink alone. -/
theorem Step.of_resolved {s s' : Session} (hs : Step s s') (hres : s.conn.status ≠ .running) :
    s'.calls = s.calls ∧ s'.conn.status = s.conn.status ∧
      s'.conn.task.wr.sink = s.conn.task.wr.sink := by
  cases hs with
  | write bytes => exact ⟨rfl, rfl, rfl⟩
  | close => exact ⟨rfl, rfl, rfl⟩
  | poll hrun => exact absurd hrun hres

theorem run_of_resolved {s s' : Session} (hrun : Relation.ReflTransGen Step s s')
    (hres : s.conn.status ≠ .running) :
    s'.calls = s.calls ∧ s'.conn.task.wr.sink = s.conn.task.wr.sink := by
  have : s'.calls = s.calls ∧ s'.conn.status = s.conn.status ∧
      s'.conn.task.wr.sink = s.conn.task.wr.sink := by
    induction hrun with
    | refl => exact ⟨rfl, rfl, rfl⟩
    | tail _ hs ih =>
      obtain ⟨hc, hst, hsk⟩ := hs.of_resolved (ih.2.1 ▸ hres)
      exact ⟨hc.trans ih.1, hst.trans ih.2.1, hsk.trans ih.2.2⟩
  exact ⟨this.1, this.2.2⟩

/-- `connection_lost` is the last callback: once it is called, no run calls back the protocol
again, and no later `write()` reaches the sink (the task is gone, and `write` drops the send
error). It is called with `None` only after the protocol called `close()`, and then every chunk
written before the first `close()` was accepted by the sink; otherwise its argument is the
exception of the error that failed the task, a `socket.timeout` for a timeout. -/
theorem connectionLost_final {s : Session} (hs : s.Reachable) {exc : Option PyException}
    (hl : .connectionLost exc ∈ s.calls) :
    (∀ s', Relation.ReflTransGen Step s s' →
        s'.calls = s.calls ∧ s'.conn.task.wr.sink = s.conn.task.wr.sink) ∧
      (exc = none → .close ∈ s.conn.sent ∧
        accepted s.conn.task.wr.sink.log = bytesBeforeClose s.conn.sent) ∧
      (∀ e, exc = some e → ∃ err, s.conn.status = .failed err ∧ e = connectionErrorExc err) := by
  obtain ⟨hc, hh⟩ := hs.history
  have hl' : .connectionLost exc ∈ lostCalls s.conn.status := by
    rw [hh] at hl
    simpa using hl
  rcases hst : s.conn.status with _ | _ | err <;> rw [hst] at hl' <;> simp [lostCalls] at hl'
  · subst hl'
    exact ⟨fun s' h => run_of_resolved h (by simp [hst]), fun _ => (hc.inv.2.2 hst), nofun⟩
  · subst hl'
    exact ⟨fun s' h => run_of_resolved h (by simp [hst]), nofun, fun e he => ⟨err, rfl, by simpa
      using he.symm⟩⟩

/-- Two runs to the end of a connection. In the first, the protocol writes `b"\x01"` and closes,
and a poll completes the task: `connection_lost(None)` is called after the chunk was accepted. In
the second, the first read times out: the task fails and `connection_lost` gets a
`socket.timeout`. -/
theorem connectionLost_final_close_or_timeout :
    let s := (((⟨Connection.init [] [] [], [.connectionMade]⟩ : Session).send (.bytes [1])).send
      .close).poll
    let t := (⟨Connection.init [.error ⟨.timedOut, "timed out", some 110⟩] [] [],
      [.connectionMade]⟩ : Session).poll
    (s.Reachable ∧ .connectionLost none ∈ s.calls ∧
      ((∀ s', Relation.ReflTransGen Step s s' →
          s'.calls = s.calls ∧ s'.conn.task.wr.sink = s.conn.task.wr.sink) ∧
        ((none : Option PyException) = none → .close ∈ s.conn.sent ∧
          accepted s.conn.task.wr.sink.log = bytesBeforeClose s.conn.sent) ∧
        (∀ e, (none : Option PyException) = some e →
          ∃ err, s.conn.status = .failed err ∧ e = connectionErrorExc err))) ∧
    (t.Reachable ∧ .connectionLost (some ⟨.socketTimeout, []⟩) ∈ t.calls ∧
      ((∀ t', Relation.ReflTransGen Step t t' →
          t'.calls = t.calls ∧ t'.conn.task.wr.sink = t.conn.task.wr.sink) ∧
        ((some ⟨.socketTimeout, []⟩ : Option PyException) = none → .close ∈ t.conn.sent ∧
          accepted t.conn.task.wr.sink.log = bytesBeforeClose t.conn.sent) ∧
        (∀ e, (some ⟨.socketTimeout, []⟩ : Option PyException) = some e →
          ∃ err, t.conn.status = .failed err ∧ e = connectionErrorExc err))) := by
  intro s t
  have hs : s.Reachable := ⟨.ok ⟨.ok (), .ok (), .ok (), .ok ()⟩, [], [], [], _, _, rfl,
    .tail (.tail (.single (.write _ _)) (.close _)) (.poll _ rfl)⟩
  have ht : t.Reachable := ⟨.ok ⟨.ok (), .ok (), .ok (), .ok ()⟩, _, [], [], _, _, rfl,
    .single (.poll _ rfl)⟩
  have hls : .connectionLost none ∈ s.calls := by
    simp [s, poll, send, Connection.send, TcpTransport.poll, TcpTransport.readPart,
      TcpTransport.readLoop_eq, FramedRead.poll, FramedRead.decodeStep, Connection.init,
      TcpTransport.new, FramedRead.init, TcpTransport.writeLoop_eq, TcpTransport.takeNext,
      Sink.startSend, Connection.statusOf, lostCalls]
  have hlt : .connectionLost (some ⟨.socketTimeout, []⟩) ∈ t.calls := by
    simp [t, poll, TcpTransport.poll, TcpTransport.readPart, TcpTransport.readLoop_eq,
      FramedRead.poll, FramedRead.decodeStep, Connection.init, TcpTransport.new, FramedRead.init,
      Connection.statusOf, lostCalls, connectionErrorExc]
  exact ⟨⟨hs, hls, connectionLost_final hs hls⟩, ⟨ht, hlt, connectionLost_final ht hlt⟩⟩

end Session

end PyTokio
