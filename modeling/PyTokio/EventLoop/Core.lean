-- SUMMARY: The thread-local `CORE` slot the reactors of one thread share (`new_event_loop`, `stop`, `is_closed`, `close`, `run_forever`, `run_until_complete`) as a transition system, and what holds along every run of it.
import PyTokio.Utils

/-!
# The thread's core

`new_event_loop` makes a `tokio_core` `Core`, hands out a `TokioEventLoop` that records the
core's `CoreId`, and stores the core in the thread-local slot `CORE`, dropping the core that was
there. Every other lifecycle method reaches the core through that slot: `close` empties it,
`run_forever` and `run_until_complete` borrow it mutably for as long as the run lasts, and
`is_closed` looks at it. None of them compares the core in the slot with the reactor's `id`.

Cores are named by their `CoreId`, which `Core::new` hands out in order, and a reactor by the
`CoreId` it records. A run is two steps, its start, which borrows the slot, and its end, after
which the reactor stops; in between, callbacks may call any method of any reactor of the thread.
The stop sender a run puts in its reactor's `_runner` lasts no longer than the run.
Another thread has a slot of its own, so one thread is modelled. A borrow the slot cannot give
panics, as `RefCell` does.
-/

namespace PyTokio

/-- The panic of `RefCell::borrow_mut` on a cell that is already borrowed: its
`expect("already borrowed")` on the `BorrowMutError`. -/
def alreadyBorrowed : String := "already borrowed: BorrowMutError"

/-- `no_loop_exc`: the `RuntimeError` for a thread, by the name it prints, whose slot is
empty. -/
def noLoopExc (name : String) : PyErr :=
  .runtimeError s!"There is no current event loop in thread {name}."

/-- One thread's event loops: the name `no_loop_exc` prints for it, the core in `CORE`, the
reactor whose run holds `CORE` borrowed, the next `CoreId`, the reactors made, the reactors whose
`_runner` holds a stop sender, the cores dropped (oldest first), and the runs started, each as
the reactor and the core it drives. -/
structure LoopThread where
  name : String
  core : Option Nat
  running : Option Nat
  nextId : Nat
  reactors : List Nat
  runners : List Nat
  dropped : List Nat
  driven : List (Nat × Nat)

namespace LoopThread

/-- A thread on which no event loop has been made. -/
def init (name : String) : LoopThread := ⟨name, none, none, 0, [], [], [], []⟩

/-- `new_event_loop`: make a core and a reactor for it, and put the core in `CORE`, dropping the
one there. During a run the slot is borrowed and `borrow_mut` panics; the new core is dropped as
the panic unwinds. -/
def newEventLoop (t : LoopThread) : Except Fault Nat × LoopThread :=
  match t.running with
  | some _ =>
    (.error (.panic alreadyBorrowed),
      { t with nextId := t.nextId + 1, dropped := t.dropped ++ [t.nextId] })
  | none =>
    (.ok t.nextId,
      { t with
        core := some t.nextId, nextId := t.nextId + 1, reactors := t.reactors ++ [t.nextId],
        dropped := t.dropped ++ t.core.toList })

/-- `TokioEventLoop.is_running` on reactor `r`. -/
def isRunning (t : LoopThread) (r : Nat) : Bool := decide (r ∈ t.runners)

/-- `TokioEventLoop.stop` on reactor `r`: take its stop sender, which signals the run waiting on
it, and say whether there was one. -/
def stop (t : LoopThread) (r : Nat) : Bool × LoopThread :=
  (t.isRunning r, { t with runners := t.runners.erase r })

/-- `TokioEventLoop.is_closed` on any reactor: whether `CORE` holds a core, and `true` while a
run borrows it. -/
def isClosed (t : LoopThread) (_r : Nat) : Bool :=
  match t.running with
  | some _ => true
  | none => t.core.isSome

/-- `TokioEventLoop.close` on reactor `r`: refuse while `r` runs, else empty `CORE`, dropping
its core. -/
def close (t : LoopThread) (r : Nat) : Except Fault Unit × LoopThread :=
  if t.isRunning r then (.error (.raise (.runtimeError "Cannot close a running event loop")), t)
  else
    match t.running with
    | some _ => (.error (.panic alreadyBorrowed), t)
    | none => (.ok (), { t with core := none, dropped := t.dropped ++ t.core.toList })

/-- A run of reactor `r` starts on core `k`: `r`'s `_runner` gets a new stop sender, and the run
holds `CORE` borrowed. -/
def beginRun (t : LoopThread) (r k : Nat) : LoopThread :=
  { t with running := some r, runners := r :: t.runners.erase r, driven := t.driven ++ [(r, k)] }

/-- `TokioEventLoop.run_forever` on reactor `r`, up to the start of the run: the core the run
drives, or the error the call returns at once. With `CORE` empty it stops `r` and raises
`no_loop_exc`. -/
def runForever (t : LoopThread) (r : Nat) : Except Fault Nat × LoopThread :=
  match t.running, t.core with
  | some _, _ => (.error (.panic alreadyBorrowed), t)
  | none, none => (.error (.raise (noLoopExc t.name)), (t.stop r).2)
  | none, some k => (.ok k, t.beginRun r k)

/-- `TokioEventLoop.run_until_complete` on reactor `r`, up to the start of the run. It first
wraps its argument in a task, which may raise (`task`); with `CORE` empty it raises
`no_loop_exc` without stopping `r`. -/
def runUntilComplete (t : LoopThread) (r : Nat) (task : Except PyErr Unit) :
    Except Fault Nat × LoopThread :=
  match task, t.running, t.core with
  | .error e, _, _ => (.error (.raise e), t)
  | .ok (), some _, _ => (.error (.panic alreadyBorrowed), t)
  | .ok (), none, none => (.error (.raise (noLoopExc t.name)), t)
  | .ok (), none, some k => (.ok k, t.beginRun r k)

/-- The run in progress ends (its stop sender fired, Ctrl-C, or an error): `CORE` is released
and the reactor that started it stops. -/
def endRun (t : LoopThread) : LoopThread :=
  match t.running with
  | some r => { (t.stop r).2 with running := none }
  | none => t

/-! ## Runs -/

/-- A call on the thread: `new_event_loop`, a method of one of its reactors, or the end of the
run in progress. -/
inductive Step : LoopThread → LoopThread → Prop
  | newEventLoop (t : LoopThread) : Step t t.newEventLoop.2
  | stop (t : LoopThread) (r : Nat) : r ∈ t.reactors → Step t (t.stop r).2
  | close (t : LoopThread) (r : Nat) : r ∈ t.reactors → Step t (t.close r).2
  | runForever (t : LoopThread) (r : Nat) : r ∈ t.reactors → Step t (t.runForever r).2
  | runUntilComplete (t : LoopThread) (r : Nat) (task : Except PyErr Unit) :
      r ∈ t.reactors → Step t (t.runUntilComplete r task).2
  | endRun (t : LoopThread) : t.running.isSome → Step t t.endRun

/-- The states some sequence of calls reaches on a thread. -/
def Reachable (t : LoopThread) : Prop := ∃ name, Relation.ReflTransGen Step (init name) t

/-- What every run of the thread keeps. Each core made is either dropped, once, or in `CORE`;
the core in `CORE` is the newest reactor's; reactors have ids below `nextId`; only reactors hold
stop senders; and a run drives a core no older than its reactor's. -/
structure Inv (t : LoopThread) : Prop where
  owned : (t.dropped ++ t.core.toList).Perm (List.range t.nextId)
  newest : ∀ k, t.core = some k → k ∈ t.reactors ∧ ∀ j ∈ t.reactors, j ≤ k
  lt_nextId : ∀ j ∈ t.reactors, j < t.nextId
  runners_sub : ∀ r ∈ t.runners, r ∈ t.reactors
  driven_le : ∀ p ∈ t.driven, p.1 ≤ p.2

theorem inv_init (name : String) : (init name).Inv :=
  ⟨by simp [init], nofun, nofun, nofun, nofun⟩

theorem Inv.stop {t : LoopThread} (hi : t.Inv) (r : Nat) : (t.stop r).2.Inv :=
  ⟨hi.owned, hi.newest, hi.lt_nextId, fun _ h => hi.runners_sub _ (List.mem_of_mem_erase h),
    hi.driven_le⟩

theorem Inv.beginRun {t : LoopThread} (hi : t.Inv) {r k : Nat} (hr : r ∈ t.reactors)
    (hk : t.core = some k) : (t.beginRun r k).Inv := by
  refine ⟨hi.owned, hi.newest, hi.lt_nextId, fun j hj => ?_, fun p hp => ?_⟩
  · rcases List.mem_cons.mp hj with rfl | hj
    exacts [hr, hi.runners_sub _ (List.mem_of_mem_erase hj)]
  · rcases List.mem_append.mp hp with hp | hp
    · exact hi.driven_le p hp
    · obtain rfl := List.mem_singleton.mp hp
      exact (hi.newest k hk).2 r hr

theorem Inv.newEventLoop {t : LoopThread} (hi : t.Inv) : t.newEventLoop.2.Inv := by
  have hrange := List.range_succ t.nextId
  unfold LoopThread.newEventLoop
  split
  · refine ⟨?_, hi.newest, fun j hj => Nat.lt_succ_of_lt (hi.lt_nextId j hj), hi.runners_sub,
      hi.driven_le⟩
    rw [hrange, List.append_assoc]
    exact (List.perm_append_comm.append_left _).trans
      (by simpa only [List.append_assoc] using hi.owned.append_right [t.nextId])
  · refine ⟨by simpa only [hrange, Option.toList_some, List.append_assoc] using
        hi.owned.append_right [t.nextId], fun k hk => ?_,
      fun j hj => ?_, fun r hr => List.mem_append_left _ (hi.runners_sub r hr), hi.driven_le⟩
    · obtain rfl := Option.some.inj hk.symm
      refine ⟨List.mem_append_right _ (List.mem_singleton_self _), fun j hj => ?_⟩
      rcases List.mem_append.mp hj with hj | hj
      exacts [(hi.lt_nextId j hj).le, (List.mem_singleton.mp hj).le]
    · rcases List.mem_append.mp hj with hj | hj
      exacts [Nat.lt_succ_of_lt (hi.lt_nextId j hj), (List.mem_singleton.mp hj) ▸ Nat.lt_succ_self _]

theorem Inv.close {t : LoopThread} (hi : t.Inv) (r : Nat) : (t.close r).2.Inv := by
  unfold LoopThread.close
  split
  · exact hi
  · split
    · exact hi
    · exact ⟨by simpa using hi.owned, nofun, hi.lt_nextId, hi.runners_sub, hi.driven_le⟩

theorem Inv.runForever {t : LoopThread} (hi : t.Inv) {r : Nat} (hr : r ∈ t.reactors) :
    (t.runForever r).2.Inv := by
  unfold LoopThread.runForever
  split
  · exact hi
  · exact hi.stop r
  · exact hi.beginRun hr ‹_›

theorem Inv.runUntilComplete {t : LoopThread} (hi : t.Inv) {r : Nat} (hr : r ∈ t.reactors)
    (task : Except PyErr Unit) : (t.runUntilComplete r task).2.Inv := by
  unfold LoopThread.runUntilComplete
  split
  · exact hi
  · exact hi
  · exact hi
  · exact hi.beginRun hr ‹_›

theorem Inv.endRun {t : LoopThread} (hi : t.Inv) : t.endRun.Inv := by
  unfold LoopThread.endRun
  split
  · next r _ =>
    have h := hi.stop r
    exact ⟨h.owned, h.newest, h.lt_nextId, h.runners_sub, h.driven_le⟩
  · exact hi

theorem Inv.step {t t' : LoopThread} (hi : t.Inv) (hs : Step t t') : t'.Inv := by
  cases hs with
  | newEventLoop => exact hi.newEventLoop
  | stop r _ => exact hi.stop r
  | close r _ => exact hi.close r
  | runForever r hr => exact hi.runForever hr
  | runUntilComplete r task hr => exact hi.runUntilComplete hr task
  | endRun _ => exact hi.endRun

theorem Reachable.inv {t : LoopThread} (ht : t.Reachable) : t.Inv := by
  obtain ⟨name, hrun⟩ := ht
  induction hrun with
  | refl => exact inv_init name
  | tail _ hs ih => exact ih.step hs

/-- Along every run of a thread, every core made is dropped at most once, and is dropped unless
it is the one in `CORE`; the core in `CORE` is the newest reactor's, and every run drives that
core, which is never older than the running reactor's own. -/
theorem core_is_newest {t : LoopThread} (ht : t.Reachable) :
    (t.dropped ++ t.core.toList).Perm (List.range t.nextId) ∧
      (∀ k, t.core = some k → k ∈ t.reactors ∧ ∀ j ∈ t.reactors, j ≤ k) ∧
      ∀ p ∈ t.driven, p.1 ≤ p.2 :=
  have hi := ht.inv
  ⟨hi.owned, hi.newest, hi.driven_le⟩

/-- Two reactors made on a fresh thread, and a run of the second. -/
theorem core_is_newest_two_loops :
    let t := (((init "main").newEventLoop.2.newEventLoop.2).runForever 1).2
    t.Reachable ∧ t.core = some 1 ∧ t.dropped = [0] ∧ t.driven = [(1, 1)] ∧
      ((t.dropped ++ t.core.toList).Perm (List.range t.nextId) ∧
        (∀ k, t.core = some k → k ∈ t.reactors ∧ ∀ j ∈ t.reactors, j ≤ k) ∧
        ∀ p ∈ t.driven, p.1 ≤ p.2) :=
  have ht : (((init "main").newEventLoop.2.newEventLoop.2).runForever 1).2.Reachable :=
    ⟨"main", .tail (.tail (.single (.newEventLoop _)) (.newEventLoop _))
      (.runForever _ 1 (by decide))⟩
  ⟨ht, rfl, rfl, rfl, core_is_newest ht⟩

/-- From any state of a thread with no run in progress: a new reactor `A` reports itself closed
although its core is in `CORE`; once a second reactor `B` is made, which drops `A`'s core,
`A.run_forever()` drives `B`'s core and `A.close()` drops it, after which `B` reports itself
open. -/
theorem reactor_ops_ignore_id {t : LoopThread} (ht : t.Reachable) (hr : t.running = none) :
    let t₁ := t.newEventLoop.2
    let t₂ := t₁.newEventLoop.2
    (t₁.isClosed t.nextId = true ∧ t.nextId ∉ t₁.dropped) ∧
      (t.nextId ∈ t₂.dropped ∧ (t₂.runForever t.nextId).1 = .ok (t.nextId + 1)) ∧
      (t₂.close t.nextId).2.dropped = t₂.dropped ++ [t.nextId + 1] ∧
      (t₂.close t.nextId).2.isClosed (t.nextId + 1) = false := by
  have hi := ht.inv
  have hd : t.nextId ∉ t.dropped ++ t.core.toList := fun h => by
    simpa using hi.owned.subset h
  have hrun : t.nextId ∉ t.runners := fun h => by
    simpa using hi.lt_nextId _ (hi.runners_sub _ h)
  simp only [newEventLoop, hr, isClosed, runForever, close, isRunning, hrun]
  simp [hd]

/-- On a fresh thread. -/
theorem reactor_ops_ignore_id_main :
    (init "main").Reachable ∧ (init "main").running = none ∧
      let t₁ := (init "main").newEventLoop.2
      let t₂ := t₁.newEventLoop.2
      ((t₁.isClosed (init "main").nextId = true ∧ (init "main").nextId ∉ t₁.dropped) ∧
        ((init "main").nextId ∈ t₂.dropped ∧
          (t₂.runForever (init "main").nextId).1 = .ok ((init "main").nextId + 1)) ∧
        (t₂.close (init "main").nextId).2.dropped = t₂.dropped ++ [(init "main").nextId + 1] ∧
        (t₂.close (init "main").nextId).2.isClosed ((init "main").nextId + 1) = false) :=
  ⟨⟨_, .refl⟩, rfl, reactor_ops_ignore_id ⟨_, .refl⟩ rfl⟩

/-! ## Stop senders -/

/-- Only the reactor whose run holds `CORE` has a stop sender in its `_runner`. -/
def RunnerInv (t : LoopThread) : Prop := List.Sublist t.runners t.running.toList

theorem RunnerInv.stop {t : LoopThread} (hi : t.RunnerInv) (r : Nat) : (t.stop r).2.RunnerInv :=
  (List.erase_sublist _ _).trans hi

theorem RunnerInv.beginRun {t : LoopThread} (hi : t.RunnerInv) (hr : t.running = none)
    (r k : Nat) : (t.beginRun r k).RunnerInv := by
  have h : t.runners = [] := List.eq_nil_of_sublist_nil (by unfold RunnerInv at hi; rwa [hr] at hi)
  simp [RunnerInv, LoopThread.beginRun, h]

theorem RunnerInv.step {t t' : LoopThread} (hi : t.RunnerInv) (hs : Step t t') : t'.RunnerInv := by
  cases hs with
  | newEventLoop => unfold LoopThread.newEventLoop; split <;> exact hi
  | stop r _ => exact hi.stop r
  | close r _ => unfold LoopThread.close; split <;> [exact hi; split <;> exact hi]
  | runForever r _ =>
    unfold LoopThread.runForever; split
    exacts [hi, hi.stop r, hi.beginRun ‹_› r _]
  | runUntilComplete r task _ =>
    unfold LoopThread.runUntilComplete; split
    exacts [hi, hi, hi, hi.beginRun ‹_› r _]
  | endRun _ =>
    unfold LoopThread.endRun; split
    · next r hr =>
      have h : List.Sublist (t.runners.erase r) [] := by
        simpa using (show List.Sublist t.runners [r] by simpa [RunnerInv, hr] using hi).erase r
      simp [RunnerInv, LoopThread.stop, List.eq_nil_of_sublist_nil h]
    · exact hi

theorem Reachable.runnerInv {t : LoopThread} (ht : t.Reachable) : t.RunnerInv := by
  obtain ⟨name, hrun⟩ := ht
  induction hrun with
  | refl => exact List.Sublist.slnil
  | tail _ hs ih => exact ih.step hs

/-- A step starts at most one run, and a step that starts none installs no stop sender. -/
theorem Step.runners_sub {t t' : LoopThread} (hs : Step t t') :
    t.driven.length ≤ t'.driven.length ∧
      (t'.driven.length = t.driven.length → ∀ x ∈ t'.runners, x ∈ t.runners) := by
  have hstop : ∀ r, ∀ x ∈ (t.stop r).2.runners, x ∈ t.runners := fun r x hx =>
    List.mem_of_mem_erase hx
  have hbegin : ∀ r k, (t.beginRun r k).driven.length = t.driven.length + 1 := by
    simp [LoopThread.beginRun]
  cases hs with
  | newEventLoop => unfold LoopThread.newEventLoop; split <;> exact ⟨le_rfl, fun _ _ => id⟩
  | stop r _ => exact ⟨le_rfl, fun _ => hstop r⟩
  | close r _ =>
    unfold LoopThread.close; split
    · exact ⟨le_rfl, fun _ _ => id⟩
    · split <;> exact ⟨le_rfl, fun _ _ => id⟩
  | runForever r _ =>
    unfold LoopThread.runForever; split
    · exact ⟨le_rfl, fun _ _ => id⟩
    · exact ⟨le_rfl, fun _ => hstop r⟩
    · exact ⟨by rw [hbegin]; omega, fun h => by rw [hbegin] at h; omega⟩
  | runUntilComplete r task _ =>
    unfold LoopThread.runUntilComplete; split
    any_goals exact ⟨le_rfl, fun _ _ => id⟩
    exact ⟨by rw [hbegin]; omega, fun h => by rw [hbegin] at h; omega⟩
  | endRun _ =>
    unfold LoopThread.endRun; split
    · next r _ => exact ⟨le_rfl, fun _ => hstop r⟩
    · exact ⟨le_rfl, fun _ _ => id⟩

/-- Along a sequence of calls that starts no run, no stop sender is installed. -/
theorem runners_sub_of_run {t t' : LoopThread} (hrun : Relation.ReflTransGen Step t t') :
    t.driven.length ≤ t'.driven.length ∧
      (t'.driven.length = t.driven.length → ∀ x ∈ t'.runners, x ∈ t.runners) := by
  induction hrun with
  | refl => exact ⟨le_rfl, fun _ _ => id⟩
  | tail _ hs ih =>
    obtain ⟨hle, hsub⟩ := hs.runners_sub
    refine ⟨ih.1.trans hle, fun heq x hx => ?_⟩
    have h₁ : _ = t.driven.length := le_antisymm (heq ▸ hle) ih.1
    exact ih.2 h₁ x (hsub (heq.trans h₁.symm) x hx)

/-- Along every run of a thread, a reactor reports itself running only while its own run holds
`CORE`, and a new run never finds a stop sender left over. `stop` on any other reactor returns
`False` and changes nothing. After `stop`, the reactor does not report itself running again
until a new run starts, whatever is called in between, so `stop` returns `True` at most once
per run. -/
theorem stop_only_current_run {t : LoopThread} (ht : t.Reachable) (r : Nat) :
    (t.isRunning r = true → t.running = some r) ∧
      (t.running = none → t.runners = []) ∧
      (t.running ≠ some r → t.stop r = (false, t)) ∧
      ∀ t', Relation.ReflTransGen Step (t.stop r).2 t' → t'.driven.length = t.driven.length →
        t'.isRunning r = false := by
  have hi := ht.runnerInv
  have hrun : t.isRunning r = true → t.running = some r := fun h => by
    have hm := hi.subset (of_decide_eq_true h)
    rcases hrt : t.running with _ | k
    · simp [hrt] at hm
    · simp_all
  have hnd : t.runners.Nodup := List.Nodup.sublist hi (by cases t.running <;> simp)
  refine ⟨hrun, fun h => List.eq_nil_of_sublist_nil (by unfold RunnerInv at hi; rwa [h] at hi),
    fun hne => ?_, fun t' hrun' hlen => ?_⟩
  · have hf : t.isRunning r = false := Bool.eq_false_iff.mpr fun h => hne (hrun h)
    have hm : r ∉ t.runners := fun hm => by simp [isRunning, hm] at hf
    simp only [stop, hf, List.erase_of_not_mem hm]
  · have hsub := (runners_sub_of_run hrun').2 hlen
    have hgone : r ∉ (t.stop r).2.runners := by simp [stop, hnd.mem_erase_iff]
    exact decide_eq_false fun hm => hgone (hsub r hm)

/-- In the middle of the first run on a fresh thread. -/
theorem stop_only_current_run_main :
    let t := ((init "main").newEventLoop.2.runForever 0).2
    t.Reachable ∧ t.isRunning 0 = true ∧
      ((t.isRunning 0 = true → t.running = some 0) ∧
        (t.running = none → t.runners = []) ∧
        (t.running ≠ some 0 → t.stop 0 = (false, t)) ∧
        ∀ t', Relation.ReflTransGen Step (t.stop 0).2 t' → t'.driven.length = t.driven.length →
          t'.isRunning 0 = false) :=
  have ht : ((init "main").newEventLoop.2.runForever 0).2.Reachable :=
    ⟨"main", .tail (.single (.newEventLoop _)) (.runForever _ 0 (by decide))⟩
  ⟨ht, by decide, stop_only_current_run ht 0⟩

end LoopThread

end PyTokio
