-- SUMMARY: The request dispatch of `PyHttpTransport` (`data_received`, `RequestHandler`, `connection_lost`) as two transition systems, the path the code takes and the start-or-queue branch it skips, and what holds along every run of each.
import PyTokio.Transport.Framed

/-!
# HTTP request dispatch

`PyHttpTransport` is the transport an HTTP protocol object sees. The HTTP connection hands it
each decoded message through `data_received`. A `RequestHandler` future spawned on the loop
calls the protocol's `handle_request` with a request and polls the task it returns; once that
task is done, the handler starts the next queued request. `inflight` counts the handlers, and
`CONCURENCY_LEVEL` bounds it.

`data_received` returns at line 169, right after handing the request to the protocol's
`data_received`, so the start-or-queue branch after the return never runs. Both are modelled:
`dataReceived` as the code runs, and `dispatch` as the branch it skips. Each gives a transition
system, and the two share the loop's steps: the loop polls a spawned handler, the protocol calls
`close`, or the connection ends. In the start-or-queue dispatch a task that raises strands the
queue; where none raises, every request is served once, in the order it arrived, unless the end
of the connection drops it from the queue.

Requests are of any type `Req`. The Python objects built from them (the `PyRequest`, the
response channel, the protocol's task) are modelled only by whether building or running them
fails. `usize` is 64 bits wide and wraps, as in a release build.
-/

namespace PyTokio

namespace Http

/-- `CONCURENCY_LEVEL`: the number of handler tasks a connection may run at once. -/
def concurencyLevel : BitVec 64 := 1

/-- `http::RequestMessage`: the head of a request, a chunk of its body, or its end. -/
inductive RequestMessage (Req : Type)
  | message (req : Req)
  | body (chunk : Chunk)
  | completed

/-- `PyHttpTransportMessage`: `Close`, with the error that closes the connection, if any. -/
inductive PyHttpTransportMessage
  | close (err : Option PyErr)

/-- A call of a protocol callback: `connection_made`, `data_received` with a request,
`handle_request`, or `connection_lost` with the I/O error that ended the connection, if any. -/
inductive ProtocolCall (Req : Type)
  | connectionMade
  | dataReceived (req : Req)
  | handleRequest (req : Req)
  | connectionLost (err : Option IoError)

/-- What `self.task.poll()` returns for the protocol's task: done, pending, or raised. -/
inductive TaskPoll
  | ready
  | notReady
  | error (e : PyErr)

/-- How `RequestHandler::start_task` ends: the task is created; `PyRequest::new` fails, before
`handle_request` is called; or `handle_request` raises or `create_task` fails, after the call. -/
inductive StartResult
  | ok
  | requestFailed (e : PyErr)
  | handlerFailed (e : PyErr)

/-- One HTTP connection's dispatch: the cells of `PyHttpTransport` it uses (`req_count`,
`inflight`, `reqs`); the `RequestHandler` futures spawned on the loop and not yet resolved, each
named by the request whose task it polls; the messages sent on `transport`; and the protocol
callbacks called, oldest first. -/
structure HttpConnection (Req : Type) where
  reqCount : BitVec 64
  inflight : BitVec 64
  reqs : List Req
  handlers : List Req
  transport : List PyHttpTransportMessage
  calls : List (ProtocolCall Req)

namespace HttpConnection

variable {Req : Type}

/-- The connection once `PyHttpTransport::new` has called `connection_made`. -/
def new : HttpConnection Req := ⟨0, 0, [], [], [], [.connectionMade]⟩

/-- Call a protocol callback. -/
def call (c : HttpConnection Req) (x : ProtocolCall Req) : HttpConnection Req :=
  { c with calls := c.calls ++ [x] }

/-- The requests handed to `handle_request`, oldest first. -/
def handled (calls : List (ProtocolCall Req)) : List Req :=
  calls.filterMap fun | .handleRequest r => some r | _ => none

@[simp] theorem handled_append (l l' : List (ProtocolCall Req)) :
    handled (l ++ l') = handled l ++ handled l' := List.filterMap_append l l' _

@[simp] theorem handled_map_handleRequest (l : List Req) :
    handled (l.map .handleRequest) = l := by
  induction l <;> simp_all [handled]

/-- From `c` to `c'`, requests were taken off the front of the queue, and some of them were
handed, in order, to `handle_request`. -/
def ServedFrom (c c' : HttpConnection Req) : Prop :=
  ∃ popped served, c.reqs = popped ++ c'.reqs ∧ List.Sublist served popped ∧
    handled c'.calls = handled c.calls ++ served

theorem ServedFrom.refl (c : HttpConnection Req) : ServedFrom c c := ⟨[], [], rfl, .slnil, by simp⟩

theorem ServedFrom.trans {c₁ c₂ c₃ : HttpConnection Req} (h₁ : ServedFrom c₁ c₂)
    (h₂ : ServedFrom c₂ c₃) : ServedFrom c₁ c₃ := by
  obtain ⟨p₁, s₁, hq₁, hs₁, hh₁⟩ := h₁
  obtain ⟨p₂, s₂, hq₂, hs₂, hh₂⟩ := h₂
  exact ⟨p₁ ++ p₂, s₁ ++ s₂, by rw [hq₁, hq₂, List.append_assoc], hs₁.append hs₂,
    by rw [hh₂, hh₁, List.append_assoc]⟩

/-- Serving from the queue keeps, in order, what was served and what is queued: the requests
served, followed by those left, are a part of those served before, followed by the queue. -/
theorem ServedFrom.sublist {c c' : HttpConnection Req} (h : ServedFrom c c') :
    List.Sublist (handled c'.calls ++ c'.reqs) (handled c.calls ++ c.reqs) := by
  obtain ⟨popped, served, hq, hsub, hh⟩ := h
  rw [hh, hq, List.append_assoc]
  exact (hsub.append_right _).append_left _

end HttpConnection

namespace RequestHandler

variable {Req : Type}

/-- `RequestHandler::start_task` for `req`: build the request and call `handle_request` with
it; the handler then polls the task that call returns. -/
def startTask (req : Req) (c : HttpConnection Req) :
    StartResult → Except PyErr Unit × HttpConnection Req
  | .ok => (.ok (), c.call (.handleRequest req))
  | .requestFailed e => (.error e, c)
  | .handlerFailed e => (.error e, c.call (.handleRequest req))

/-- `RequestHandler::poll` for the handler whose task serves `req`. `polls` are the results of
the task polls the call makes, one per task: when a task is done and a request is queued, the
handler starts that request and polls its task at once (line 284); after the last of `polls`
the task is pending. `starts` are the results of the `start_task` calls, `Ok` once they run
out. Returns the result, the request the handler then serves, and the connection. -/
def poll : Req → List TaskPoll → List StartResult → HttpConnection Req →
    Except PyErr (Async Unit) × Req × HttpConnection Req
  | req, [], _, c => (.ok .notReady, req, c)
  | req, .notReady :: _, _, c => (.ok .notReady, req, c)
  | req, .error _ :: _, _, c => (.ok (.ready ()), req, c)
  | req, .ready :: polls, starts, c =>
    match c.reqs with
    | [] => (.ok (.ready ()), req, { c with inflight := c.inflight - 1 })
    | next :: rest =>
      match startTask next { c with reqs := rest } (starts.headD .ok) with
      | (.error e, c') => (.error e, req, c')
      | (.ok (), c') => poll next polls starts.tail c'

/-- `start_task` only calls `handle_request`. -/
theorem startTask_fields {req : Req} {c c' : HttpConnection Req} {s : StartResult}
    {r : Except PyErr Unit} (h : startTask req c s = (r, c')) :
    c'.handlers = c.handlers ∧ c'.transport = c.transport ∧ c'.reqs = c.reqs ∧
      c'.inflight = c.inflight ∧ (c'.calls = c.calls ∨ c'.calls = c.calls ++ [.handleRequest req]) := by
  cases s <;> simp only [startTask, Prod.mk.injEq] at h <;> obtain ⟨-, rfl⟩ := h <;>
    simp [HttpConnection.call]

/-- `start_task` on the request at the front of the queue serves it from there. -/
theorem startTask_servedFrom {next : Req} {rest : List Req} {c cs : HttpConnection Req}
    {st : StartResult} {r : Except PyErr Unit} (hr : c.reqs = next :: rest)
    (hs : startTask next { c with reqs := rest } st = (r, cs)) : c.ServedFrom cs := by
  obtain ⟨-, -, hq, -, hc⟩ := startTask_fields hs
  rcases hc with hc | hc
  · exact ⟨[next], [], by simp [hr, hq], List.nil_sublist _, by simp [hc]⟩
  · exact ⟨[next], [next], by simp [hr, hq], .refl _, by simp [hc, HttpConnection.handled]⟩

/-- A handler poll serves requests from the front of the queue, and gives up its slot only
when it resolves with the queue empty; it leaves the handlers and the transport alone. -/
theorem poll_spec {req req' : Req} {polls : List TaskPoll} {starts : List StartResult}
    {c c' : HttpConnection Req} {res : Except PyErr (Async Unit)}
    (h : poll req polls starts c = (res, req', c')) :
    c'.handlers = c.handlers ∧ c'.transport = c.transport ∧ c.ServedFrom c' ∧
      (c'.inflight = c.inflight ∨
        res = .ok (.ready ()) ∧ c'.reqs = [] ∧ c'.inflight = c.inflight - 1) := by
  induction polls generalizing req starts c with
  | nil =>
    simp only [poll, Prod.mk.injEq] at h
    obtain ⟨-, -, rfl⟩ := h
    exact ⟨rfl, rfl, .refl _, .inl rfl⟩
  | cons p polls ih =>
    rcases p with _ | _ | e
    case ready =>
      rcases hr : c.reqs with _ | ⟨next, rest⟩
      · simp only [poll, hr, Prod.mk.injEq] at h
        obtain ⟨rfl, -, rfl⟩ := h
        exact ⟨rfl, rfl, ⟨[], [], hr, .slnil, by simp⟩, .inr ⟨rfl, rfl, rfl⟩⟩
      · rcases hs : startTask next { c with reqs := rest } (starts.headD .ok) with ⟨e | ⟨⟩, cs⟩ <;>
          have hsv := startTask_servedFrom hr hs <;>
          obtain ⟨hh, ht, -, hi, -⟩ := startTask_fields hs <;>
          simp only [poll, hr, hs, Prod.mk.injEq] at h hh ht hi
        · obtain ⟨-, -, rfl⟩ := h
          exact ⟨hh, ht, hsv, .inl hi⟩
        · obtain ⟨hh', ht', hsv', hi'⟩ := ih h
          refine ⟨hh'.trans hh, ht'.trans ht, hsv.trans hsv', ?_⟩
          rcases hi' with hi' | ⟨hres, hrq, hi'⟩
          exacts [.inl (hi'.trans hi), .inr ⟨hres, hrq, hi ▸ hi'⟩]
    all_goals
      simp only [poll, Prod.mk.injEq] at h
      obtain ⟨-, -, rfl⟩ := h
      exact ⟨rfl, rfl, .refl _, .inl rfl⟩

/-- A completed task with a request queued: the handler starts the request at the front and
polls its task at once. -/
theorem poll_ready_cons {req next : Req} {rest : List Req} {polls : List TaskPoll}
    {c : HttpConnection Req} (hr : c.reqs = next :: rest) :
    poll req (.ready :: polls) [] c =
      poll next polls [] { c with reqs := rest, calls := c.calls ++ [.handleRequest next] } := by
  simp only [poll, hr, List.headD_nil, startTask, List.tail_nil, HttpConnection.call]

/-- With every start succeeding and no task raising, a handler poll hands the requests it takes
off the front of the queue, all of them and in order, to `handle_request`; it ends pending with
its slot, or resolved with the queue empty and its slot given up. -/
theorem poll_of_no_error {req req' : Req} {polls : List TaskPoll} {c c' : HttpConnection Req}
    {res : Except PyErr (Async Unit)} (hno : ∀ e, TaskPoll.error e ∉ polls)
    (h : poll req polls [] c = (res, req', c')) :
    ∃ served, c.reqs = served ++ c'.reqs ∧
      c'.calls = c.calls ++ served.map .handleRequest ∧ c'.handlers = c.handlers ∧
      (res = .ok .notReady ∧ c'.inflight = c.inflight ∨
        res = .ok (.ready ()) ∧ c'.reqs = [] ∧ c'.inflight = c.inflight - 1) := by
  induction polls generalizing req c with
  | nil =>
    simp only [poll, Prod.mk.injEq] at h
    obtain ⟨rfl, -, rfl⟩ := h
    exact ⟨[], by simp, by simp, rfl, .inl ⟨rfl, rfl⟩⟩
  | cons p polls ih =>
    rcases p with _ | _ | e
    case error => exact absurd (List.mem_cons_self _ _) (hno e)
    case notReady =>
      simp only [poll, Prod.mk.injEq] at h
      obtain ⟨rfl, -, rfl⟩ := h
      exact ⟨[], by simp, by simp, rfl, .inl ⟨rfl, rfl⟩⟩
    case ready =>
      rcases hr : c.reqs with _ | ⟨next, rest⟩
      · simp only [poll, hr, Prod.mk.injEq] at h
        obtain ⟨rfl, -, rfl⟩ := h
        exact ⟨[], by simp [hr], by simp, rfl, .inr ⟨rfl, rfl, rfl⟩⟩
      · rw [poll_ready_cons hr] at h
        obtain ⟨served, hq, hc, hh, hres⟩ :=
          ih (fun e he => hno e (List.mem_cons_of_mem _ he)) h
        simp only at hq hc hh hres
        exact ⟨next :: served, by rw [hq]; rfl, by simp [hc], hh, hres⟩

/-- Given a completing task for itself and for each queued request, a handler poll starts and
finishes every queued request, in order, then resolves and gives up its slot. -/
theorem poll_drains (req : Req) (c : HttpConnection Req) :
    ∃ req', poll req (List.replicate (c.reqs.length + 1) .ready) [] c =
      (.ok (.ready ()), req',
        { c with reqs := [], inflight := c.inflight - 1,
                 calls := c.calls ++ c.reqs.map .handleRequest }) := by
  generalize hr : c.reqs = l
  induction l generalizing req c with
  | nil =>
    refine ⟨req, ?_⟩
    cases c
    simp_all [List.replicate, poll]
  | cons next rest ih =>
    obtain ⟨req', h⟩ := ih next { c with reqs := rest, calls := c.calls ++ [.handleRequest next] } rfl
    refine ⟨req', ?_⟩
    rw [List.length_cons, List.replicate_succ, poll_ready_cons hr, h]
    simp

end RequestHandler

namespace HttpConnection

variable {Req : Type} [DecidableEq Req]

/-- `PyHttpTransport::data_received` as the code runs. The head of a request is wrapped in a
`PyRequest` and handed to the protocol's `data_received`, unless building it fails (`made` is
false) and the error is printed; either way the function returns the receiver of the request's
response channel at line 169. Body chunks and the end of a request are dropped. -/
def dataReceived (c : HttpConnection Req) (made : Bool) :
    RequestMessage Req → Except PyErr (Option Req) × HttpConnection Req
  | .message req => (.ok (some req), if made then c.call (.dataReceived req) else c)
  | .body _ => (.ok none, c)
  | .completed => (.ok none, c)

/-- The start-or-queue branch of `data_received` (lines 171-193), which the return at line 169
skips. It counts the request. Below `CONCURENCY_LEVEL` it takes a slot and spawns a
`RequestHandler` for the request; `RequestHandler::new` fails when `start_task` does, and the
`?` then returns the error with the slot still taken. Otherwise it queues the request. -/
def dispatch (c : HttpConnection Req) (start : StartResult) :
    RequestMessage Req → Except PyErr (Option Req) × HttpConnection Req
  | .message req =>
    let c := { c with reqCount := c.reqCount + 1 }
    if c.inflight < concurencyLevel then
      match RequestHandler.startTask req { c with inflight := c.inflight + 1 } start with
      | (.error e, c') => (.error e, c')
      | (.ok (), c') => (.ok (some req), { c' with handlers := req :: c'.handlers })
    else (.ok (some req), { c with reqs := c.reqs ++ [req] })
  | .body _ => (.ok none, c)
  | .completed => (.ok none, c)

/-- The loop polls the future spawned for the handler serving `req`, `handler.map_err(..)`. A
pending handler stays, now serving the request `RequestHandler::poll` left it on; a resolved
one is dropped; an error also sends `Close(Some(err))` to the transport (line 187). -/
def pollHandler (c : HttpConnection Req) (req : Req) (polls : List TaskPoll)
    (starts : List StartResult) : HttpConnection Req :=
  match RequestHandler.poll req polls starts c with
  | (.ok .notReady, req', c') => { c' with handlers := req' :: c'.handlers.erase req }
  | (.ok (.ready ()), _, c') => { c' with handlers := c'.handlers.erase req }
  | (.error e, _, c') =>
    { c' with handlers := c'.handlers.erase req, transport := c'.transport ++ [.close (some e)] }

/-- `PyHttpTransport.close`: send `Close(None)` to the transport. -/
def close (c : HttpConnection Req) : HttpConnection Req :=
  { c with transport := c.transport ++ [.close none] }

/-- What `connection_lost` and `connection_error` share: drop the queued requests and call the
protocol's `connection_lost`. -/
def endConnection (c : HttpConnection Req) (err : Option IoError) : HttpConnection Req :=
  { c with reqs := [] }.call (.connectionLost err)

/-- `PyHttpTransport::connection_lost`. -/
def connectionLost (c : HttpConnection Req) : HttpConnection Req := c.endConnection none

/-- `PyHttpTransport::connection_error`; the exception the protocol gets is built from `err`. -/
def connectionError (c : HttpConnection Req) (err : IoError) : HttpConnection Req :=
  c.endConnection (some err)

/-! ## Runs -/

/-- The steps both versions of `data_received` share: the loop polls a spawned handler, the
protocol calls `close`, or the connection ends. -/
inductive LoopStep : HttpConnection Req → HttpConnection Req → Prop
  | pollHandler (c : HttpConnection Req) (req : Req) (polls : List TaskPoll)
      (starts : List StartResult) : req ∈ c.handlers → LoopStep c (c.pollHandler req polls starts)
  | close (c : HttpConnection Req) : LoopStep c c.close
  | connectionLost (c : HttpConnection Req) : LoopStep c c.connectionLost
  | connectionError (c : HttpConnection Req) (err : IoError) : LoopStep c (c.connectionError err)

/-- A step of the connection as the code runs: a message arrives at `data_received`, or the
loop steps. -/
inductive Step : HttpConnection Req → HttpConnection Req → Prop
  | dataReceived (c : HttpConnection Req) (made : Bool) (msg : RequestMessage Req) :
      Step c (c.dataReceived made msg).2
  | loop {c c' : HttpConnection Req} : LoopStep c c' → Step c c'

/-- A step of the connection with the start-or-queue branch in place of the return at line 169. -/
inductive DispatchStep : HttpConnection Req → HttpConnection Req → Prop
  | dispatch (c : HttpConnection Req) (start : StartResult) (msg : RequestMessage Req) :
      DispatchStep c (c.dispatch start msg).2
  | loop {c c' : HttpConnection Req} : LoopStep c c' → DispatchStep c c'

/-- The states a run of the code reaches. -/
def Reachable (c : HttpConnection Req) : Prop := Relation.ReflTransGen Step new c

/-- The states a run with the start-or-queue branch reaches. -/
def DispatchReachable (c : HttpConnection Req) : Prop := Relation.ReflTransGen DispatchStep new c

/-- Closing and ending the connection leave the slots and the handlers alone, and call no
`handle_request`. -/
theorem loopStep_of_handlers_nil {c c' : HttpConnection Req} (hs : LoopStep c c')
    (hh : c.handlers = []) :
    c'.handlers = [] ∧ c'.inflight = c.inflight ∧ (c'.reqs = c.reqs ∨ c'.reqs = []) ∧
      ∀ r, .handleRequest r ∈ c'.calls → .handleRequest r ∈ c.calls := by
  cases hs with
  | pollHandler req _ _ hm => exact absurd hm (hh ▸ List.not_mem_nil req)
  | close => exact ⟨hh, rfl, .inl rfl, fun _ => id⟩
  | connectionLost | connectionError =>
    simp [connectionLost, connectionError, endConnection, call, hh]

/-! ## The code's connection -/

/-- What the code's connection keeps: no handler is spawned, no slot is taken, nothing is
queued, and `handle_request` is never called. -/
def Idle (c : HttpConnection Req) : Prop :=
  c.handlers = [] ∧ c.inflight = 0 ∧ c.reqs = [] ∧ ∀ r, .handleRequest r ∉ c.calls

theorem Idle.step {c c' : HttpConnection Req} (hi : c.Idle) (hs : Step c c') : c'.Idle := by
  obtain ⟨hh, hf, hq, hc⟩ := hi
  cases hs with
  | dataReceived made msg =>
    cases msg with
    | message req => cases made <;> simp [dataReceived, Idle, call, hh, hf, hq, hc]
    | body | completed => exact ⟨hh, hf, hq, hc⟩
  | loop hs =>
    obtain ⟨hh', hf', hq', hc'⟩ := loopStep_of_handlers_nil hs hh
    exact ⟨hh', hf'.trans hf, by rcases hq' with h | h <;> simp [h, hq], fun r h => hc r (hc' r h)⟩

/-- Along every run of the code, `data_received` hands each request to the protocol's
`data_received` and returns: no `RequestHandler` is ever spawned, no slot is taken, no request is
queued, and `handle_request` is never called. -/
theorem handleRequest_never_called {c : HttpConnection Req} (hc : c.Reachable) :
    (∀ r, .handleRequest r ∉ c.calls) ∧ c.handlers = [] ∧ c.inflight = 0 ∧ c.reqs = [] := by
  have hi : c.Idle := by
    induction hc with
    | refl => exact ⟨rfl, rfl, rfl, by simp [new]⟩
    | tail _ hs ih => exact ih.step hs
  exact ⟨hi.2.2.2, hi.1, hi.2.1, hi.2.2.1⟩

/-- One request arrives: the protocol's `data_received` gets it, `handle_request` does not. -/
theorem handleRequest_never_called_one_request :
    let c := ((new : HttpConnection Nat).dataReceived true (.message 0)).2
    c.Reachable ∧ c.calls = [.connectionMade, .dataReceived 0] ∧
      ((∀ r, .handleRequest r ∉ c.calls) ∧ c.handlers = [] ∧ c.inflight = 0 ∧ c.reqs = []) :=
  have hc : ((new : HttpConnection Nat).dataReceived true (.message 0)).2.Reachable :=
    .single (.dataReceived _ _ _)
  ⟨hc, rfl, handleRequest_never_called hc⟩

/-! ## The start-or-queue dispatch -/

theorem toNat_sub_one {x : BitVec 64} (h : 0 < x.toNat) : (x - 1).toNat = x.toNat - 1 := by
  rw [BitVec.toNat_sub, show (1 : BitVec 64).toNat = 1 from rfl]
  omega

/-- What every run of the start-or-queue dispatch keeps: no more live handlers than slots
taken, at most `CONCURENCY_LEVEL` slots taken, and requests queued only while a slot is
taken. -/
def SlotInv (c : HttpConnection Req) : Prop :=
  c.handlers.length ≤ c.inflight.toNat ∧ c.inflight.toNat ≤ concurencyLevel.toNat ∧
    (c.inflight.toNat = 0 → c.reqs = [])

omit [DecidableEq Req] in
theorem SlotInv.dispatch {c : HttpConnection Req} (hi : c.SlotInv) (start : StartResult)
    (msg : RequestMessage Req) : (c.dispatch start msg).2.SlotInv := by
  obtain ⟨hlen, hle, hq⟩ := hi
  have hl : concurencyLevel.toNat = 1 := rfl
  cases msg with
  | message req =>
    simp only [HttpConnection.dispatch]
    split_ifs with hlt
    · have h0 : c.inflight.toNat = 0 := by rw [BitVec.lt_def, hl] at hlt; omega
      have h1 : (c.inflight + 1).toNat = 1 := by rw [BitVec.toNat_add, h0]; rfl
      rcases hs : RequestHandler.startTask req
          { c with reqCount := c.reqCount + 1, inflight := c.inflight + 1 } start with ⟨e | ⟨⟩, cs⟩ <;>
        obtain ⟨hh, -, hq', hi', -⟩ := RequestHandler.startTask_fields hs <;>
        simp only at hh hq' hi' <;> simp only <;>
        refine ⟨?_, ?_, fun _ => hq'.trans (hq h0)⟩ <;>
        simp only [hh, hi', h1, hl, List.length_cons] <;> omega
    · rw [BitVec.lt_def, hl] at hlt
      exact ⟨hlen, hle, fun h : c.inflight.toNat = 0 => absurd h (by omega)⟩
  | body | completed => exact ⟨hlen, hle, hq⟩

theorem SlotInv.pollHandler {c : HttpConnection Req} (hi : c.SlotInv) {req : Req}
    (hm : req ∈ c.handlers) (polls : List TaskPoll) (starts : List StartResult) :
    (c.pollHandler req polls starts).SlotInv := by
  obtain ⟨hlen, hle, hq⟩ := hi
  have hpos : 0 < c.handlers.length := List.length_pos_of_mem hm
  have herase := List.length_erase_of_mem hm
  rcases hp : RequestHandler.poll req polls starts c with ⟨res, req', c'⟩
  obtain ⟨hh, -, -, hinf⟩ := RequestHandler.poll_spec hp
  rcases hinf with hinf | ⟨rfl, hr, hinf⟩
  · have hlen' : (c'.handlers.erase req).length + 1 ≤ c.inflight.toNat := by
      rw [hh, herase]; omega
    rcases res with e | ⟨⟨⟩⟩ | _ <;> simp only [HttpConnection.pollHandler, hp] <;>
      refine ⟨?_, ?_, ?_⟩ <;> simp only [hinf, List.length_cons] <;> omega
  · have hsub := toNat_sub_one (show 0 < c.inflight.toNat by omega)
    simp only [HttpConnection.pollHandler, hp]
    refine ⟨?_, ?_, fun _ => hr⟩ <;> simp only [hinf, hsub, hh, herase] <;> omega

theorem SlotInv.step {c c' : HttpConnection Req} (hi : c.SlotInv) (hs : DispatchStep c c') :
    c'.SlotInv := by
  cases hs with
  | dispatch start msg => exact hi.dispatch start msg
  | loop hs =>
    cases hs with
    | pollHandler req polls starts hm => exact hi.pollHandler hm polls starts
    | close => exact hi
    | connectionLost | connectionError => exact ⟨hi.1, hi.2.1, fun _ => rfl⟩

theorem DispatchReachable.slotInv {c : HttpConnection Req} (hc : c.DispatchReachable) :
    c.SlotInv := by
  induction hc with
  | refl => exact ⟨le_refl _, Nat.zero_le _, fun _ => rfl⟩
  | tail _ hs ih => exact ih.step hs

/-- Along every run of the start-or-queue dispatch, at most `CONCURENCY_LEVEL` handlers are live
and at most that many slots are taken; polling a live handler never raises `inflight`, so the
decrement at line 274 never wraps around. -/
theorem handlers_le_inflight {c : HttpConnection Req} (hc : c.DispatchReachable) :
    c.handlers.length ≤ c.inflight.toNat ∧ c.inflight.toNat ≤ concurencyLevel.toNat ∧
      ∀ req ∈ c.handlers, ∀ polls starts,
        (c.pollHandler req polls starts).inflight.toNat + 1 = c.inflight.toNat ∨
          (c.pollHandler req polls starts).inflight = c.inflight := by
  obtain ⟨hlen, hle, -⟩ := hc.slotInv
  refine ⟨hlen, hle, fun req hm polls starts => ?_⟩
  have hpos : 0 < c.handlers.length := List.length_pos_of_mem hm
  rcases hp : RequestHandler.poll req polls starts c with ⟨res, req', c'⟩
  obtain ⟨-, -, -, hinf⟩ := RequestHandler.poll_spec hp
  have hinf' : (c.pollHandler req polls starts).inflight = c'.inflight := by
    rcases res with e | ⟨⟨⟩⟩ | _ <;> simp only [HttpConnection.pollHandler, hp]
  rw [hinf']
  rcases hinf with hinf | ⟨-, -, hinf⟩
  · exact .inr hinf
  · left; rw [hinf, toNat_sub_one (show 0 < c.inflight.toNat by omega)]; omega

/-- One request arrives and its handler is spawned: one slot is taken by one live handler. -/
theorem handlers_le_inflight_one_request :
    let c := ((new : HttpConnection Nat).dispatch .ok (.message 0)).2
    c.DispatchReachable ∧ c.handlers = [0] ∧ c.inflight = 1 ∧
      (c.handlers.length ≤ c.inflight.toNat ∧ c.inflight.toNat ≤ concurencyLevel.toNat ∧
        ∀ req ∈ c.handlers, ∀ polls starts,
          (c.pollHandler req polls starts).inflight.toNat + 1 = c.inflight.toNat ∨
            (c.pollHandler req polls starts).inflight = c.inflight) :=
  have hc : ((new : HttpConnection Nat).dispatch .ok (.message 0)).2.DispatchReachable :=
    .single (.dispatch _ _ _)
  ⟨hc, rfl, rfl, handlers_le_inflight hc⟩

/-- Once a slot is taken and no handler is live, no step of the start-or-queue dispatch spawns a
handler, frees the slot or calls `handle_request`: every request that arrives is queued. -/
theorem DispatchStep.stranded {c c' : HttpConnection Req} (hs : DispatchStep c c')
    (hh : c.handlers = []) (hf : c.inflight = 1) :
    c'.handlers = [] ∧ c'.inflight = 1 ∧ ∀ r, .handleRequest r ∈ c'.calls → .handleRequest r ∈ c.calls := by
  cases hs with
  | dispatch start msg =>
    cases msg with
    | message req =>
      simp only [HttpConnection.dispatch]
      split_ifs with hlt
      · exact absurd hlt (by simp only [hf]; decide)
      · exact ⟨hh, hf, fun _ => id⟩
    | body | completed => exact ⟨hh, hf, fun _ => id⟩
  | loop hs =>
    obtain ⟨hh', hf', -, hc'⟩ := loopStep_of_handlers_nil hs hh
    exact ⟨hh', hf'.trans hf, hc'⟩

/-- Once a slot is taken and no handler is live, no run of the start-or-queue dispatch spawns a
handler, frees the slot or calls `handle_request`. -/
theorem DispatchStep.stranded_run {c c' : HttpConnection Req}
    (hrun : Relation.ReflTransGen DispatchStep c c') (hh : c.handlers = []) (hf : c.inflight = 1) :
    c'.handlers = [] ∧ c'.inflight = 1 ∧ ∀ r, .handleRequest r ∈ c'.calls → .handleRequest r ∈ c.calls := by
  induction hrun with
  | refl => exact ⟨hh, hf, fun _ => id⟩
  | tail _ hs ih =>
    obtain ⟨hh', hf', hcalls⟩ := ih
    obtain ⟨hh'', hf'', hcalls'⟩ := hs.stranded hh' hf'
    exact ⟨hh'', hf'', fun r h => hcalls r (hcalls' r h)⟩

/-- Two requests arrive; the first is started and the second queued. The first request's task
raises, and its handler resolves with neither a `Close` nor a decrement: the second request stays
queued with no handler to start it, and from then on no handler is spawned and `handle_request`
is never called again, whatever arrives. -/
theorem failed_task_strands_queue (r₁ r₂ : Req) (e : PyErr) :
    let c := (((new.dispatch .ok (.message r₁)).2.dispatch .ok (.message r₂)).2).pollHandler
      r₁ [.error e] []
    c.DispatchReachable ∧ c.reqs = [r₂] ∧ c.handlers = [] ∧ c.transport = [] ∧ c.inflight = 1 ∧
      ∀ c', Relation.ReflTransGen DispatchStep c c' →
        c'.handlers = [] ∧ c'.inflight = 1 ∧
          ∀ r, .handleRequest r ∈ c'.calls → .handleRequest r ∈ c.calls := by
  intro c
  have hlt : ¬ (1 : BitVec 64) < concurencyLevel := by decide
  have hc : c.handlers = [] ∧ c.reqs = [r₂] ∧ c.transport = [] ∧ c.inflight = 1 := by
    simp [c, HttpConnection.dispatch, new, RequestHandler.startTask, call, pollHandler,
      RequestHandler.poll, concurencyLevel, hlt]
  refine ⟨.tail (.tail (.single (.dispatch _ _ _)) (.dispatch _ _ _))
    (.loop (.pollHandler _ _ _ _ ?_)), hc.2.1, hc.1, hc.2.2.1, hc.2.2.2, fun c' hrun => ?_⟩
  · simp [HttpConnection.dispatch, new, RequestHandler.startTask, call, concurencyLevel, hlt]
  · exact DispatchStep.stranded_run hrun hc.1 hc.2.2.2

end HttpConnection

/-- The request a message carries: the head of a request carries it. -/
def RequestMessage.request {Req : Type} : RequestMessage Req → Option Req
  | .message req => some req
  | _ => none

namespace HttpConnection

variable {Req : Type} [DecidableEq Req]

/-! ## Order of service in the start-or-queue dispatch -/

omit [DecidableEq Req] in
/-- A message adds at most its own request to those served or queued, behind them. -/
theorem handled_dispatch {c : HttpConnection Req} (hi : c.SlotInv) (start : StartResult)
    (msg : RequestMessage Req) :
    List.Sublist (handled (c.dispatch start msg).2.calls ++ (c.dispatch start msg).2.reqs)
      (handled c.calls ++ c.reqs ++ msg.request.toList) := by
  cases msg with
  | message req =>
    simp only [HttpConnection.dispatch]
    split_ifs with hlt
    · have h0 : c.inflight.toNat = 0 := by
        rw [BitVec.lt_def, show concurencyLevel.toNat = 1 from rfl] at hlt; omega
      have hq : c.reqs = [] := hi.2.2 h0
      rcases hs : RequestHandler.startTask req
          { c with reqCount := c.reqCount + 1, inflight := c.inflight + 1 } start with
          ⟨e | ⟨⟩, cs⟩ <;>
        obtain ⟨-, -, hq', -, hc⟩ := RequestHandler.startTask_fields hs <;>
        simp only at hq' hc <;> rcases hc with hc | hc <;>
        simp [hc, hq', hq, handled, RequestMessage.request]
    · simp [RequestMessage.request]
  | body | completed => simp [RequestMessage.request, HttpConnection.dispatch]

/-- Polling a handler only serves or drops queued requests, from the front. -/
theorem handled_pollHandler (c : HttpConnection Req) (req : Req) (polls : List TaskPoll)
    (starts : List StartResult) :
    List.Sublist
      (handled (c.pollHandler req polls starts).calls ++ (c.pollHandler req polls starts).reqs)
      (handled c.calls ++ c.reqs) := by
  rcases hp : RequestHandler.poll req polls starts c with ⟨res, req', c'⟩
  have hc : (c.pollHandler req polls starts).calls = c'.calls ∧
      (c.pollHandler req polls starts).reqs = c'.reqs := by
    rcases res with e | ⟨⟨⟩⟩ | _ <;> simp [HttpConnection.pollHandler, hp]
  rw [hc.1, hc.2]
  exact (RequestHandler.poll_spec hp).2.2.1.sublist

theorem handled_loopStep {c c' : HttpConnection Req} (hs : LoopStep c c') :
    List.Sublist (handled c'.calls ++ c'.reqs) (handled c.calls ++ c.reqs) := by
  cases hs with
  | pollHandler req polls starts _ => exact handled_pollHandler c req polls starts
  | close => exact .refl _
  | connectionLost | connectionError =>
    simp [connectionLost, connectionError, endConnection, call, handled]

/-- A run of the start-or-queue dispatch, with the requests that arrived, oldest first. -/
inductive DispatchRun : HttpConnection Req → List Req → Prop
  | init : DispatchRun new []
  | dispatch {c : HttpConnection Req} {arrived : List Req} (start : StartResult)
      (msg : RequestMessage Req) :
      DispatchRun c arrived → DispatchRun (c.dispatch start msg).2 (arrived ++ msg.request.toList)
  | loop {c c' : HttpConnection Req} {arrived : List Req} :
      DispatchRun c arrived → LoopStep c c' → DispatchRun c' arrived

theorem DispatchRun.reachable {c : HttpConnection Req} {arrived : List Req}
    (h : DispatchRun c arrived) : c.DispatchReachable := by
  induction h with
  | init => exact .refl
  | dispatch start msg _ ih => exact ih.tail (.dispatch _ start msg)
  | loop _ hs ih => exact ih.tail (.loop hs)

/-- Along every run of the start-or-queue dispatch, the requests handed to `handle_request`,
followed by those still queued, come in the order the requests arrived: requests are served
first come, first served, a queued request is never passed over by a later one, and when the
requests that arrived are distinct, none is handed to `handle_request` twice. -/
theorem handled_in_arrival_order {c : HttpConnection Req} {arrived : List Req}
    (h : DispatchRun c arrived) :
    List.Sublist (handled c.calls ++ c.reqs) arrived ∧
      (arrived.Nodup → (handled c.calls).Nodup) := by
  have hsub : List.Sublist (handled c.calls ++ c.reqs) arrived := by
    induction h with
    | init => simp [new, handled]
    | dispatch start msg hr ih =>
      exact (handled_dispatch hr.reachable.slotInv start msg).trans (ih.append_right _)
    | loop _ hs ih => exact (handled_loopStep hs).trans ih
  exact ⟨hsub, fun hnd => List.Pairwise.sublist ((List.sublist_append_left _ _).trans hsub) hnd⟩

/-- Two requests arrive; the first is started, the second queued, and when the first task is
done the handler starts the second. -/
theorem handled_in_arrival_order_two :
    let c := ((new.dispatch .ok (.message 0)).2.dispatch .ok (.message 1)).2.pollHandler 0
      [.ready, .notReady] []
    DispatchRun c [0, 1] ∧ handled c.calls = [0, 1] ∧
      (List.Sublist (handled c.calls ++ c.reqs) [0, 1] ∧
        ([0, 1].Nodup → (handled c.calls).Nodup)) := by
  intro c
  have hlt : ¬ (1 : BitVec 64) < concurencyLevel := by decide
  have hr : DispatchRun c [0, 1] :=
    .loop (.dispatch .ok (.message 1) (.dispatch .ok (.message 0) .init)) (.pollHandler _ _ _ _ (by
      simp [HttpConnection.dispatch, new, RequestHandler.startTask, call, concurencyLevel, hlt]))
  refine ⟨hr, ?_, handled_in_arrival_order hr⟩
  simp [c, HttpConnection.dispatch, new, RequestHandler.startTask, call, pollHandler,
    RequestHandler.poll, concurencyLevel, hlt, handled]

/-! ## Service when no task fails -/

/-- A run of the start-or-queue dispatch in which every `start_task` succeeds and no task the
protocol returns raises, with the requests that arrived and the queued requests dropped when the
connection ended (`connection_lost` and `connection_error` clear `reqs`), each oldest first. -/
inductive CleanRun : HttpConnection Req → List Req → List Req → Prop
  | init : CleanRun new [] []
  | dispatch {c : HttpConnection Req} {arrived dropped : List Req} (msg : RequestMessage Req) :
      CleanRun c arrived dropped →
      CleanRun (c.dispatch .ok msg).2 (arrived ++ msg.request.toList) dropped
  | pollHandler {c : HttpConnection Req} {arrived dropped : List Req} (req : Req)
      (polls : List TaskPoll) :
      CleanRun c arrived dropped → req ∈ c.handlers → (∀ e, TaskPoll.error e ∉ polls) →
      CleanRun (c.pollHandler req polls []) arrived dropped
  | close {c : HttpConnection Req} {arrived dropped : List Req} :
      CleanRun c arrived dropped → CleanRun c.close arrived dropped
  | connectionLost {c : HttpConnection Req} {arrived dropped : List Req} :
      CleanRun c arrived dropped → CleanRun c.connectionLost arrived (dropped ++ c.reqs)
  | connectionError {c : HttpConnection Req} {arrived dropped : List Req} (err : IoError) :
      CleanRun c arrived dropped → CleanRun (c.connectionError err) arrived (dropped ++ c.reqs)

theorem CleanRun.dispatchRun {c : HttpConnection Req} {arrived dropped : List Req}
    (h : CleanRun c arrived dropped) : DispatchRun c arrived := by
  induction h with
  | init => exact .init
  | dispatch msg _ ih => exact ih.dispatch .ok msg
  | pollHandler req polls _ hm _ ih => exact ih.loop (.pollHandler _ _ _ _ hm)
  | close _ ih => exact ih.loop (.close _)
  | connectionLost _ ih => exact ih.loop (.connectionLost _)
  | connectionError err _ ih => exact ih.loop (.connectionError _ err)

omit [DecidableEq Req] in
/-- Requests that move from the front of the queue to the end of those handled change their place
relative to the dropped ones only. -/
theorem perm_move_front {h x d r a : List Req} (hp : (h ++ d ++ (x ++ r)).Perm a) :
    (h ++ x ++ d ++ r).Perm a := by
  have hswap : (h ++ (x ++ d ++ r)).Perm (h ++ (d ++ x ++ r)) :=
    ((@List.perm_append_comm _ x d).append_right r).append_left h
  simpa only [List.append_assoc] using hswap.trans (by simpa only [List.append_assoc] using hp)

/-- What a run without failures keeps: every request that arrived has been handed to
`handle_request`, dropped at the end of the connection, or is queued, each once; and every slot
taken belongs to a live handler. -/
def CleanInv (c : HttpConnection Req) (arrived dropped : List Req) : Prop :=
  (handled c.calls ++ dropped ++ c.reqs).Perm arrived ∧ c.handlers.length = c.inflight.toNat

omit [DecidableEq Req] in
theorem CleanInv.dispatch {c : HttpConnection Req} {arrived dropped : List Req} (hs : c.SlotInv)
    (hi : c.CleanInv arrived dropped) (msg : RequestMessage Req) :
    (c.dispatch .ok msg).2.CleanInv (arrived ++ msg.request.toList) dropped := by
  obtain ⟨hq, hl⟩ := hi
  cases msg with
  | message req =>
    simp only [HttpConnection.dispatch]
    split_ifs with hlt
    · have h0 : c.inflight.toNat = 0 := by
        rw [BitVec.lt_def, show concurencyLevel.toNat = 1 from rfl] at hlt; omega
      have h1 : (c.inflight + 1).toNat = 1 := by rw [BitVec.toNat_add, h0]; rfl
      have hq0 := hs.2.2 h0
      rw [hq0, List.append_nil] at hq
      simp only [RequestHandler.startTask, call, CleanInv, List.length_cons, h1, hq0,
        handled_append, List.append_nil, RequestMessage.request, Option.toList_some]
      refine ⟨?_, by omega⟩
      have hp : (handled c.calls ++ dropped ++ ([req] ++ [])).Perm (arrived ++ [req]) := by
        simpa using hq.append_right [req]
      simpa [handled] using perm_move_front hp
    · refine ⟨?_, hl⟩
      simpa [RequestMessage.request] using hq.append_right [req]
  | body | completed => simpa [RequestMessage.request, HttpConnection.dispatch] using ⟨hq, hl⟩

theorem CleanInv.pollHandler {c : HttpConnection Req} {arrived dropped : List Req}
    (hi : c.CleanInv arrived dropped) {req : Req} (hm : req ∈ c.handlers)
    {polls : List TaskPoll} (hno : ∀ e, TaskPoll.error e ∉ polls) :
    (c.pollHandler req polls []).CleanInv arrived dropped := by
  obtain ⟨hq, hl⟩ := hi
  rcases hp : RequestHandler.poll req polls [] c with ⟨res, req', c'⟩
  obtain ⟨served, hsq, hsc, hh, hres⟩ := RequestHandler.poll_of_no_error hno hp
  have herase := List.length_erase_of_mem hm
  have hpos := List.length_pos_of_mem hm
  -- the requests served move from the front of the queue to the end of those handled
  have hcalls : (handled c'.calls ++ dropped ++ c'.reqs).Perm arrived := by
    rw [hsc, handled_append, handled_map_handleRequest]
    exact perm_move_front (hsq ▸ hq)
  rcases hres with ⟨rfl, hinf⟩ | ⟨rfl, -, hinf⟩ <;> simp only [HttpConnection.pollHandler, hp]
  · exact ⟨hcalls, by simp only [List.length_cons, hh, herase, hinf]; omega⟩
  · refine ⟨hcalls, ?_⟩
    simp only [hh, herase, hinf, toNat_sub_one (show 0 < c.inflight.toNat by omega)]
    omega

omit [DecidableEq Req] in
/-- The end of the connection moves the queue to the dropped requests. -/
theorem CleanInv.endConnection {c : HttpConnection Req} {arrived dropped : List Req}
    (hi : c.CleanInv arrived dropped) (err : Option IoError) :
    (c.endConnection err).CleanInv arrived (dropped ++ c.reqs) := by
  have hc : handled (c.endConnection err).calls = handled c.calls := by
    simp [HttpConnection.endConnection, call, handled]
  refine ⟨?_, hi.2⟩
  rw [hc, show (c.endConnection err).reqs = [] from rfl, List.append_nil, ← List.append_assoc]
  exact hi.1

theorem CleanRun.cleanInv {c : HttpConnection Req} {arrived dropped : List Req}
    (h : CleanRun c arrived dropped) : c.CleanInv arrived dropped := by
  induction h with
  | init => simp [CleanInv, new, handled]
  | dispatch msg hr ih => exact ih.dispatch hr.dispatchRun.reachable.slotInv msg
  | pollHandler req polls _ hm hno ih => exact ih.pollHandler hm hno
  | close _ ih => exact ih
  | connectionLost _ ih => exact ih.endConnection none
  | connectionError err _ ih => exact ih.endConnection (some err)

/-- Along every run of the start-or-queue dispatch in which every `start_task` succeeds and no
task raises, including runs through `connection_lost` and `connection_error`, no request is lost
or served twice: the requests handed to `handle_request`, those dropped from the queue when the
connection ended and those still queued are, up to order, exactly those that arrived; and every
slot taken belongs to a live handler. Once the live handler's tasks complete, one poll of it
hands every queued request to `handle_request` and frees the slot, so that every request that
arrived and was not dropped has been served. -/
theorem serves_every_request {c : HttpConnection Req} {arrived dropped : List Req}
    (h : CleanRun c arrived dropped) :
    (handled c.calls ++ dropped ++ c.reqs).Perm arrived ∧
      c.handlers.length = c.inflight.toNat ∧
      ∀ req ∈ c.handlers,
        let c' := c.pollHandler req (List.replicate (c.reqs.length + 1) .ready) []
        (handled c'.calls ++ dropped).Perm arrived ∧ c'.reqs = [] ∧ c'.handlers = [] ∧
          c'.inflight = 0 := by
  obtain ⟨hq, hl⟩ := h.cleanInv
  refine ⟨hq, hl, fun req hm => ?_⟩
  have hle := h.dispatchRun.reachable.slotInv.2.1
  have h1 : c.handlers.length = 1 := by
    have := List.length_pos_of_mem hm
    rw [show concurencyLevel.toNat = 1 from rfl] at hle; omega
  obtain ⟨r, hr⟩ := List.length_eq_one.mp h1
  rw [hr, List.mem_singleton] at hm
  subst hm
  have hinf : c.inflight = 1 := BitVec.eq_of_toNat_eq (by rw [← hl, h1]; rfl)
  obtain ⟨req', hp⟩ := RequestHandler.poll_drains req c
  simp only [HttpConnection.pollHandler, hp, hr, hinf, List.erase_cons_head, handled_append,
    handled_map_handleRequest]
  refine ⟨?_, trivial, trivial, rfl⟩
  have hp : (handled c.calls ++ dropped ++ (c.reqs ++ [])).Perm arrived := by simpa using hq
  simpa using perm_move_front hp

/-- Two requests arrive: the first is started and the second queued behind it. The connection
is lost, which drops the second; a third arrives and is queued. When the first task completes,
one poll of its handler starts and finishes the third and frees the slot. -/
theorem serves_every_request_after_loss :
    let c := (((new.dispatch .ok (.message 0)).2.dispatch .ok (.message 1)).2.connectionLost.dispatch
      .ok (.message 2)).2
    CleanRun c [0, 1, 2] [1] ∧ c.handlers = [0] ∧ c.reqs = [2] ∧
      ((handled c.calls ++ [1] ++ c.reqs).Perm [0, 1, 2] ∧
        c.handlers.length = c.inflight.toNat ∧
        ∀ req ∈ c.handlers,
          let c' := c.pollHandler req (List.replicate (c.reqs.length + 1) .ready) []
          (handled c'.calls ++ [1]).Perm [0, 1, 2] ∧ c'.reqs = [] ∧ c'.handlers = [] ∧
            c'.inflight = 0) := by
  intro c
  have hlt : ¬ (1 : BitVec 64) < concurencyLevel := by decide
  have hq : ((new.dispatch .ok (.message 0)).2.dispatch .ok (.message 1)).2.reqs = [1] := by
    simp [HttpConnection.dispatch, new, RequestHandler.startTask, call, concurencyLevel, hlt]
  have hr : CleanRun c [0, 1, 2] [1] := by
    have := CleanRun.dispatch (.message 2)
      (CleanRun.connectionLost (.dispatch (.message 1) (.dispatch (.message 0) .init)))
    simpa [hq, RequestMessage.request] using this
  refine ⟨hr, ?_, ?_, serves_every_request hr⟩ <;>
    simp [c, HttpConnection.dispatch, new, RequestHandler.startTask, call, concurencyLevel, hlt,
      connectionLost, endConnection]

end HttpConnection

end Http

end PyTokio
