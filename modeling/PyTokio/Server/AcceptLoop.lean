-- SUMMARY: The accept loops `create_server` spawns (`Server::poll`) and `TokioServer.close` as a transition system, with `close` also called by protocol code inside `accept_connection`, and what holds along every run of it.
import Mathlib.Data.List.Nodup
import PyTokio.Transport.Framed

/-!
# Accept loops

`create_server` binds its listeners, spawns one accept loop (`Server`) per listener, and keeps
the sending end of each loop's stop channel in `TokioServer.stop_handles`. `close` takes the
senders out and sends on each. An accept loop checks its stop channel first, then polls its
listener; a connection goes to `accept_connection`, after which the loop polls itself again
(line 150), so the stop channel is checked again before the next accept.

`accept_connection` is not part of the modelled sources: it runs protocol code, which may call
`close` on the server, any number of times, and it may fail. A listener is named by its place
among the listeners and a connection by a number. One poll of a loop runs to the end before the
reactor does anything else, `close` included unless protocol code calls it.
-/

namespace PyTokio

/-- What the server did, in order: a loop passed a connection to `accept_connection`, a stop
sender was sent, or a call of `close` returned. -/
inductive ServerEvent
  | accepted (listener conn : Nat)
  | stopSent (listener : Nat)
  | closeReturned
deriving DecidableEq

/-- Whether an event is an accepted connection. -/
def ServerEvent.isAccept : ServerEvent → Bool
  | .accepted _ _ => true
  | _ => false

/-- What an accept loop's poll of its listener returns: a connection, together with how often
protocol code calls `close` inside its `accept_connection` and how that call ends; the end of
the listener; nothing yet; or an I/O error. -/
inductive Incoming
  | conn (conn : Nat) (closes : Nat) (result : Except IoError Unit)
  | exhausted
  | notReady
  | error (e : IoError)

/-- A server and its accept loops: the stop senders `stop_handles` still holds (by listener),
the listeners whose loop is spawned and has not resolved, and what happened, oldest first. -/
structure TokioServer where
  stopHandles : Option (List Nat)
  loops : List Nat
  log : List ServerEvent

namespace TokioServer

/-- The server `create_server` returns for `n` listeners. -/
def init (n : Nat) : TokioServer := ⟨some (List.range n), List.range n, []⟩

/-- `TokioServer.close`: take the stop senders and send on each. -/
def close (s : TokioServer) : TokioServer :=
  match s.stopHandles with
  | some hs => { s with stopHandles := none, log := s.log ++ hs.map .stopSent ++ [.closeReturned] }
  | none => { s with log := s.log ++ [.closeReturned] }

/-- `close` called `k` times in a row. -/
def closeN : Nat → TokioServer → TokioServer
  | 0, s => s
  | k + 1, s => closeN k s.close

/-- `Server::poll` for the loop of listener `i`, with `events` the results of its polls of the
listener: the stop channel first, which is ready once its sender was sent, then the listener. A
connection goes to `accept_connection`, and the loop then polls itself again. -/
def poll (i : Nat) : List Incoming → TokioServer → Except IoError (Async Unit) × TokioServer
  | events, s =>
    if .stopSent i ∈ s.log then (.ok (.ready ()), s)
    else
      match events with
      | [] => (.ok .notReady, s)
      | .notReady :: _ => (.ok .notReady, s)
      | .exhausted :: _ => (.ok (.ready ()), s)
      | .error e :: _ => (.error e, s)
      | .conn c closes res :: rest =>
        let s := closeN closes { s with log := s.log ++ [.accepted i c] }
        match res with
        | .error e => (.error e, s)
        | .ok () => poll i rest s

/-- The reactor polls the loop of listener `i`, spawned as `srv.map_err(..)`: a loop that
resolves, with or without an error, is gone. -/
def pollLoop (s : TokioServer) (i : Nat) (events : List Incoming) : TokioServer :=
  match poll i events s with
  | (.ok .notReady, s') => s'
  | (_, s') => { s' with loops := s'.loops.erase i }

/-- A step of a server: its `close` is called, or the reactor polls one of its loops. -/
inductive Step : TokioServer → TokioServer → Prop
  | close (s : TokioServer) : Step s s.close
  | pollLoop (s : TokioServer) (i : Nat) (events : List Incoming) :
      i ∈ s.loops → Step s (s.pollLoop i events)

/-- The states some run of a server of `n` listeners reaches. -/
def Reachable (n : Nat) (s : TokioServer) : Prop := Relation.ReflTransGen Step (init n) s

/-! ## The shape of the log -/

/-- The log of a server of `n` listeners: before the first `close`, the senders are all held
and only accepted connections are logged; after it, the senders are gone, and the log is the
accepted connections, one stop per listener, and the returns of the `close` calls. -/
def LogShape (n : Nat) (s : TokioServer) : Prop :=
  (s.stopHandles = some (List.range n) ∧ ∀ e ∈ s.log, e.isAccept) ∨
    (s.stopHandles = none ∧ ∃ pre k, (∀ e ∈ pre, e.isAccept) ∧
      s.log = pre ++ (List.range n).map .stopSent ++ List.replicate (k + 1) .closeReturned)

theorem LogShape.close {n : Nat} {s : TokioServer} (h : LogShape n s) : LogShape n s.close := by
  rcases h with ⟨hh, ha⟩ | ⟨hh, pre, k, ha, hl⟩
  · exact .inr ⟨by simp [TokioServer.close, hh], s.log, 0, ha, by simp [TokioServer.close, hh]⟩
  · refine .inr ⟨by simp [TokioServer.close, hh], pre, k + 1, ha, ?_⟩
    simp only [TokioServer.close, hh, hl, List.append_assoc]
    rw [show [ServerEvent.closeReturned] = List.replicate 1 .closeReturned from rfl,
      List.append_replicate_replicate]

theorem LogShape.closeN {n : Nat} {s : TokioServer} (h : LogShape n s) (k : Nat) :
    LogShape n (closeN k s) := by
  induction k generalizing s with
  | zero => exact h
  | succ k ih => exact ih h.close

/-- Once closed, every loop finds its stop channel ready. -/
theorem LogShape.stopSent_mem {n : Nat} {s : TokioServer} (h : LogShape n s) (hc : s.stopHandles = none)
    {i : Nat} (hi : i < n) : .stopSent i ∈ s.log := by
  rcases h with ⟨hh, -⟩ | ⟨-, pre, k, -, hl⟩
  · simp [hh] at hc
  · simp [hl, hi]

/-- A poll of a loop keeps the shape of the log: once the server is closed it accepts nothing,
and a `close` inside `accept_connection` closes it for the rest of the poll. -/
theorem LogShape.poll {n : Nat} {s : TokioServer} (h : LogShape n s) {i : Nat} (hi : i < n)
    (events : List Incoming) : LogShape n (poll i events s).2 := by
  induction events generalizing s with
  | nil => unfold TokioServer.poll; split <;> exact h
  | cons ev rest ih =>
    unfold TokioServer.poll
    split
    · exact h
    · next hns =>
      have hopen : s.stopHandles = some (List.range n) ∧ ∀ e ∈ s.log, e.isAccept := by
        rcases h with h | ⟨hc, hl⟩
        exacts [h, absurd (LogShape.stopSent_mem (.inr ⟨hc, hl⟩) hc hi) hns]
      have hacc (c : Nat) : LogShape n { s with log := s.log ++ [.accepted i c] } :=
        .inl ⟨hopen.1, fun e he => (List.mem_append.mp he).elim (hopen.2 e)
          fun h => by rw [List.mem_singleton.mp h]; rfl⟩
      rcases ev with ⟨c, closes, e | ⟨⟩⟩ | _ | _ | _
      · exact (hacc c).closeN closes
      · exact ih ((hacc c).closeN closes)
      all_goals exact h

@[simp] theorem close_loops (s : TokioServer) : s.close.loops = s.loops := by
  unfold TokioServer.close; split <;> rfl

@[simp] theorem closeN_loops (k : Nat) (s : TokioServer) : (closeN k s).loops = s.loops := by
  induction k generalizing s with
  | zero => rfl
  | succ k ih => simp [closeN, ih]

/-- Polling a loop leaves the set of loops to the reactor. -/
theorem poll_loops (i : Nat) (events : List Incoming) (s : TokioServer) :
    (poll i events s).2.loops = s.loops := by
  induction events generalizing s with
  | nil => unfold TokioServer.poll; split <;> rfl
  | cons ev rest ih =>
    unfold TokioServer.poll
    split
    · rfl
    · rcases ev with ⟨c, closes, e | ⟨⟩⟩ | _ | _ | _
      · simp
      · simp [ih]
      all_goals rfl

theorem pollLoop_loops_sub (s : TokioServer) (i : Nat) (events : List Incoming) :
    ∀ j ∈ (s.pollLoop i events).loops, j ∈ s.loops := by
  unfold pollLoop
  split <;> intro j hj
  · rwa [← poll_loops i events s, ‹poll i events s = _›]
  · rw [← poll_loops i events s, ‹poll i events s = _›]
    exact List.mem_of_mem_erase hj

theorem LogShape.pollLoop {n : Nat} {s : TokioServer} (h : LogShape n s) {i : Nat} (hi : i < n)
    (events : List Incoming) : LogShape n (s.pollLoop i events) := by
  have hp := h.poll hi events
  unfold TokioServer.pollLoop
  split <;> next heq => rw [heq] at hp; exact hp

theorem LogShape.step {n : Nat} {s s' : TokioServer}
    (h : LogShape n s ∧ ∀ i ∈ s.loops, i < n) (hs : Step s s') :
    LogShape n s' ∧ ∀ i ∈ s'.loops, i < n := by
  obtain ⟨h, hl⟩ := h
  cases hs with
  | close => exact ⟨h.close, by simpa using hl⟩
  | pollLoop i events hm =>
    exact ⟨h.pollLoop (hl i hm) events, fun j hj => hl j (pollLoop_loops_sub s i events j hj)⟩

theorem Reachable.logShape {n : Nat} {s : TokioServer} (hs : s.Reachable n) : LogShape n s := by
  suffices LogShape n s ∧ ∀ i ∈ s.loops, i < n from this.1
  induction hs with
  | refl => exact ⟨.inl ⟨rfl, nofun⟩, fun _ => List.mem_range.mp⟩
  | tail _ hs ih => exact LogShape.step ih hs

/-- In a log made of accepted connections followed by events of other kinds, nothing is
accepted after a `close` returned. -/
theorem no_accept_after_of_split {acc rest : List ServerEvent} (ha : ∀ e ∈ acc, e.isAccept)
    (hr : ∀ e ∈ rest, e.isAccept = false) (pre post : List ServerEvent)
    (h : acc ++ rest = pre ++ .closeReturned :: post) : ∀ e ∈ post, e.isAccept = false := by
  intro e he
  rcases List.append_eq_append_iff.mp h with ⟨a, -, hrest⟩ | ⟨c, hacc, hpost⟩
  · exact hr e (hrest ▸ List.mem_append_right _ (List.mem_cons_of_mem _ he))
  · rcases c with _ | ⟨x, c⟩
    · exact hr e (by rw [List.nil_append] at hpost; exact hpost ▸ List.mem_cons_of_mem _ he)
    · obtain ⟨rfl, -⟩ := List.cons.inj hpost
      exact absurd (ha _ (hacc ▸ List.mem_append_right _ (List.mem_cons_self _ _))) (by decide)

/-- The log of a server is its accepted connections followed by events of other kinds, among
which each listener's stop appears at most once. -/
theorem LogShape.split {n : Nat} {s : TokioServer} (h : LogShape n s) :
    ∃ acc rest, s.log = acc ++ rest ∧ (∀ e ∈ acc, e.isAccept) ∧
      (∀ e ∈ rest, e.isAccept = false) ∧ ∀ i, rest.count (.stopSent i) ≤ 1 := by
  rcases h with ⟨-, ha⟩ | ⟨-, pre, k, ha, hl⟩
  · exact ⟨s.log, [], by simp, ha, nofun, fun _ => by simp⟩
  · refine ⟨pre, _, by rw [hl, List.append_assoc], ha, fun e he => ?_, fun i => ?_⟩
    · rcases List.mem_append.mp he with he | he
      · obtain ⟨j, -, rfl⟩ := List.mem_map.mp he; rfl
      · rw [List.eq_of_mem_replicate he]; rfl
    · have hnodup : ((List.range n).map ServerEvent.stopSent).Nodup :=
        List.Nodup.map (fun _ _ h => ServerEvent.stopSent.inj h) (List.nodup_range n)
      simpa [List.count_replicate] using List.nodup_iff_count_le_one.mp hnodup (.stopSent i)

/-- Along every run of a server, however connections arrive and whoever calls `close`
(protocol code inside `accept_connection` included), no loop passes a connection to
`accept_connection` once a call of `close` has returned, and each listener's stop sender is
sent at most once. -/
theorem no_accept_after_close {n : Nat} {s : TokioServer} (hs : s.Reachable n) :
    (∀ pre post, s.log = pre ++ .closeReturned :: post → ∀ e ∈ post, e.isAccept = false) ∧
      ∀ i, s.log.count (.stopSent i) ≤ 1 := by
  obtain ⟨acc, rest, hl, ha, hr, hc⟩ := hs.logShape.split
  refine ⟨fun pre post h => no_accept_after_of_split ha hr pre post (hl ▸ h), fun i => ?_⟩
  rw [hl, List.count_append,
    List.count_eq_zero.mpr fun hm => absurd (ha (.stopSent i) hm) Bool.false_ne_true, Nat.zero_add]
  exact hc i

/-- One listener; protocol code calls `close` while the first connection is accepted, and the
loop then finds its stop channel ready before it reaches the second. -/
theorem no_accept_after_close_reentrant :
    ((init 1).pollLoop 0 [.conn 7 1 (.ok ()), .conn 8 0 (.ok ())]).Reachable 1 ∧
      ((init 1).pollLoop 0 [.conn 7 1 (.ok ()), .conn 8 0 (.ok ())]).log =
        [.accepted 0 7, .stopSent 0, .closeReturned] ∧
      ((∀ pre post, ((init 1).pollLoop 0 [.conn 7 1 (.ok ()), .conn 8 0 (.ok ())]).log =
          pre ++ .closeReturned :: post → ∀ e ∈ post, e.isAccept = false) ∧
        ∀ i, ((init 1).pollLoop 0 [.conn 7 1 (.ok ()), .conn 8 0 (.ok ())]).log.count
          (.stopSent i) ≤ 1) :=
  have hs : ((init 1).pollLoop 0 [.conn 7 1 (.ok ()), .conn 8 0 (.ok ())]).Reachable 1 :=
    .single (.pollLoop _ _ _ (by decide))
  ⟨hs, by decide, no_accept_after_close hs⟩

end TokioServer

end PyTokio
