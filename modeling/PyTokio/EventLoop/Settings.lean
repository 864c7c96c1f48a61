-- SUMMARY: A loop's own settings (`get_exception_handler`, `set_exception_handler`, `call_exception_handler`, `get_debug`, `set_debug`) as a transition system, and the debug-mode `thread_safe_check` of `create_future`, `create_task`, `call_soon`, `call_later` and `call_at` over the thread's cores.
import Mathlib.Data.List.Nodup
import PyTokio.EventLoop.Core

/-!
# A loop's settings and its debug check

Each `TokioEventLoop` keeps two settings of its own. `_exception_handler` starts as `None`;
`set_exception_handler` replaces it by a callable and refuses anything else, and
`call_exception_handler` calls it with a context, or logs the context while it is `None`.
`_debug` starts off and `set_debug` sets it.

In debug mode, `create_future`, `create_task`, `call_soon`, `call_later` and `call_at` open
with `thread_safe_check`, which borrows the thread's `CORE` and compares the id of the core
there with the reactor's `id`. The methods' bodies after this check call code outside the
modelled sources (`PyFuture`, `PyTask`, `handle`), so only the check is modelled, over the
thread of `PyTokio.EventLoop.Core`.

A Python object is modelled by its `repr` and whether it is callable, and the exception a
handler raises by the text `{:?}` prints for it.
-/

namespace PyTokio

/-! ## The exception handler and the debug flag -/

/-- A Python object as the settings see it: `None`, or another object with its `repr` and
whether it is callable. -/
inductive PyObject
  | none
  | obj (repr : String) (callable : Bool)
deriving DecidableEq

/-- `is_callable`. -/
def PyObject.isCallable : PyObject → Bool
  | .none => false
  | .obj _ callable => callable

/-- What `{:?}` prints for an object: its `repr`. -/
def PyObject.repr : PyObject → String
  | .none => "None"
  | .obj repr _ => repr

/-- The settings of one `TokioEventLoop`: `_exception_handler`, `_debug`, and the lines its
methods logged, oldest first. -/
structure LoopSettings where
  exceptionHandler : PyObject
  debug : Bool
  log : List String

namespace LoopSettings

/-- The settings `new_event_loop` gives a loop: no handler (`None`), debug off. -/
def init : LoopSettings := ⟨.none, false, []⟩

/-- `set_exception_handler(handler)`: a `TypeError` unless `handler` is callable, which then
becomes the handler. -/
def setExceptionHandler (s : LoopSettings) (handler : PyObject) :
    Except PyErr Unit × LoopSettings :=
  if handler.isCallable then (.ok (), { s with exceptionHandler := handler })
  else
    let repr := handler.repr
    (.error (.typeError s!"A callable object or None is expected, got {repr}"), s)

/-- `call_exception_handler(context)`: with no handler, log the context; else call the handler
with it (`result`: what the call returns, the text of its exception if it raises) and log its
exception. It returns `None` either way. -/
def callExceptionHandler (s : LoopSettings) (context : String) (result : Except String Unit) :
    Except PyErr Unit × LoopSettings :=
  match s.exceptionHandler, result with
  | .none, _ =>
    (.ok (), { s with log := s.log ++ [s!"Unhandled error in ecent loop, context: {context}"] })
  | .obj _ _, .error err =>
    (.ok (), { s with log := s.log ++
      [s!"Unhandled error in exception handler, exception: {err}, context: {context}"] })
  | .obj _ _, .ok () => (.ok (), s)

/-- `set_debug(enabled)`. -/
def setDebug (s : LoopSettings) (enabled : Bool) : LoopSettings := { s with debug := enabled }

/-- A call that changes the settings. -/
inductive Step : LoopSettings → LoopSettings → Prop
  | setExceptionHandler (s : LoopSettings) (handler : PyObject) :
      Step s (s.setExceptionHandler handler).2
  | callExceptionHandler (s : LoopSettings) (context : String) (result : Except String Unit) :
      Step s (s.callExceptionHandler context result).2
  | setDebug (s : LoopSettings) (enabled : Bool) : Step s (s.setDebug enabled)

/-- The settings some sequence of calls gives a loop. -/
def Reachable (s : LoopSettings) : Prop := Relation.ReflTransGen Step init s

/-- A refused handler leaves the settings as they are. -/
theorem setExceptionHandler_of_not_callable {s : LoopSettings} {handler : PyObject}
    (h : handler.isCallable = false) :
    s.setExceptionHandler handler =
      (.error (.typeError s!"A callable object or None is expected, got {handler.repr}"), s) := by
  simp [setExceptionHandler, h]

/-- `call_exception_handler` never raises, never changes the handler, and logs one line exactly
when no handler is set or the handler raised. -/
theorem callExceptionHandler_spec (s : LoopSettings) (context : String)
    (result : Except String Unit) :
    (s.callExceptionHandler context result).1 = .ok () ∧
      (s.callExceptionHandler context result).2.exceptionHandler = s.exceptionHandler ∧
      ((s.callExceptionHandler context result).2.log = s.log ↔
        s.exceptionHandler ≠ .none ∧ result = .ok ()) := by
  unfold callExceptionHandler
  split <;> simp_all

/-- A step keeps the handler, or installs a callable one. -/
theorem Step.handler {s s' : LoopSettings} (hs : Step s s') :
    s'.exceptionHandler = s.exceptionHandler ∨ s'.exceptionHandler.isCallable = true := by
  cases hs with
  | setExceptionHandler handler =>
    unfold LoopSettings.setExceptionHandler
    split_ifs with hc
    exacts [.inr hc, .inl rfl]
  | callExceptionHandler context result => exact .inl (callExceptionHandler_spec s context result).2.1
  | setDebug => exact .inl rfl

/-- Along every run the handler is `None` or callable. `set_exception_handler(None)` raises the
`TypeError` "A callable object or None is expected, got None" and leaves the settings as they
are, though the method's documentation says it restores the default handler: once a handler is
set, no run of calls brings back `None`, and `call_exception_handler` calls a handler from then
on. -/
theorem exceptionHandler_never_reset {s : LoopSettings} (hs : s.Reachable) :
    (s.exceptionHandler = .none ∨ s.exceptionHandler.isCallable = true) ∧
      s.setExceptionHandler .none =
        (.error (.typeError "A callable object or None is expected, got None"), s) ∧
      (s.exceptionHandler ≠ .none →
        ∀ s', Relation.ReflTransGen Step s s' → s'.exceptionHandler ≠ .none) := by
  refine ⟨?_, setExceptionHandler_of_not_callable rfl, fun hne s' hrun => ?_⟩
  · induction hs with
    | refl => exact .inl rfl
    | tail _ hs ih =>
      rcases hs.handler with h | h
      exacts [h ▸ ih, .inr h]
  · induction hrun with
    | refl => exact hne
    | tail _ hs ih =>
      rcases hs.handler with h | h
      · exact h ▸ ih
      · intro hn; simp [hn, PyObject.isCallable] at h

/-- A loop whose handler was set. -/
theorem exceptionHandler_never_reset_set :
    let s := (init.setExceptionHandler (.obj "handler" true)).2
    s.Reachable ∧ ((s.exceptionHandler = .none ∨ s.exceptionHandler.isCallable = true) ∧
      s.setExceptionHandler .none =
        (.error (.typeError "A callable object or None is expected, got None"), s) ∧
      (s.exceptionHandler ≠ .none →
        ∀ s', Relation.ReflTransGen Step s s' → s'.exceptionHandler ≠ .none)) :=
  have hs : (init.setExceptionHandler (.obj "handler" true)).2.Reachable :=
    .single (.setExceptionHandler _ _)
  ⟨hs, exceptionHandler_never_reset hs⟩

end LoopSettings

/-! ## The debug check -/

/-- The panic of `RefCell::borrow` on a cell that is mutably borrowed: its
`expect("already mutably borrowed")` on the `BorrowError`. -/
def alreadyMutablyBorrowed : String := "already mutably borrowed: BorrowError"

/-- The `RuntimeError` of `thread_safe_check`. -/
def nonThreadSafeExc : PyErr :=
  .runtimeError "Non-thread-safe operation invoked on an event loop other than the current one"

namespace LoopThread

/-- `thread_safe_check` for the reactor with `CoreId` `id`: borrow `CORE`, and give the
exception unless it holds the core with that id. The borrow panics while a run holds `CORE`
mutably borrowed. -/
def threadSafeCheck (t : LoopThread) (id : Nat) : Except Fault (Option PyErr) :=
  match t.running, t.core with
  | some _, _ => .error (.panic alreadyMutablyBorrowed)
  | none, some k => .ok (if k = id then none else some nonThreadSafeExc)
  | none, none => .ok (some nonThreadSafeExc)

/-- The check `create_future`, `create_task`, `call_soon`, `call_later` and `call_at` open
with, on the reactor with `CoreId` `id`: in debug mode, `thread_safe_check`, whose exception is
raised. -/
def debugCheck (t : LoopThread) (debug : Bool) (id : Nat) : Except Fault Unit :=
  if debug then
    match t.threadSafeCheck id with
    | .error f => .error f
    | .ok (some e) => .error (.raise e)
    | .ok none => .ok ()
  else .ok ()

theorem debugCheck_of_running {t : LoopThread} (h : t.running.isSome) (id : Nat) :
    t.debugCheck true id = .error (.panic alreadyMutablyBorrowed) := by
  obtain ⟨k, hk⟩ := Option.isSome_iff_exists.mp h
  simp [debugCheck, threadSafeCheck, hk]

theorem debugCheck_eq_ok_iff {t : LoopThread} {id : Nat} :
    t.debugCheck true id = .ok () ↔ t.running = none ∧ t.core = some id := by
  unfold debugCheck threadSafeCheck
  rcases t.running with _ | k <;> rcases t.core with _ | c <;> simp
  by_cases h : c = id <;> simp [h]

/-- A step of the thread only ever adds to the cores dropped. -/
theorem Step.dropped_prefix {t t' : LoopThread} (hs : Step t t') : t.dropped <+: t'.dropped := by
  cases hs with
  | newEventLoop =>
    unfold LoopThread.newEventLoop
    split <;> exact List.prefix_append _ _
  | stop | runUntilComplete | runForever | endRun | close =>
    simp only [LoopThread.stop, LoopThread.runUntilComplete, LoopThread.runForever,
      LoopThread.beginRun, LoopThread.endRun, LoopThread.close]
    repeat' split
    all_goals first | exact List.prefix_refl _ | exact List.prefix_append _ _

/-- A core that has been dropped is never in `CORE` again. -/
theorem core_ne_of_dropped {t : LoopThread} (ht : t.Reachable) {r : Nat} (hr : r ∈ t.dropped) :
    t.core ≠ some r := by
  have hnd : (t.dropped ++ t.core.toList).Nodup := ht.inv.owned.nodup_iff.mpr (List.nodup_range _)
  intro hc
  exact List.disjoint_of_nodup_append hnd hr (by simp [hc])

/-- In debug mode, the check that opens `create_future`, `create_task`, `call_soon`,
`call_later` and `call_at` panics during every run, where the loop's callbacks execute, since
the run holds `CORE` mutably borrowed. Outside a run it lets a call through exactly on the
reactor whose core is in `CORE`, which is the newest reactor. Once the core of a reactor has
left `CORE`, replaced by a newer one or closed, every later call on that reactor fails the
check, along every run of the thread. -/
theorem debugCheck_current_only {t : LoopThread} (ht : t.Reachable) (r : Nat) :
    (t.running.isSome → t.debugCheck true r = .error (.panic alreadyMutablyBorrowed)) ∧
      (t.debugCheck true r = .ok () →
        t.running = none ∧ t.core = some r ∧ ∀ j ∈ t.reactors, j ≤ r) ∧
      (r < t.nextId → t.core ≠ some r →
        ∀ t', Relation.ReflTransGen Step t t' → t'.debugCheck true r ≠ .ok ()) := by
  refine ⟨fun h => debugCheck_of_running h r, fun h => ?_, fun hlt hne t' hrun => ?_⟩
  · obtain ⟨hrun, hcore⟩ := debugCheck_eq_ok_iff.mp h
    exact ⟨hrun, hcore, (ht.inv.newest r hcore).2⟩
  · have hd : r ∈ t.dropped := by
      have := ht.inv.owned.symm.subset (List.mem_range.mpr hlt)
      simpa [Option.mem_toList, hne] using this
    have hd' : r ∈ t'.dropped := by
      induction hrun with
      | refl => exact hd
      | tail _ hs ih => exact hs.dropped_prefix.subset ih
    obtain ⟨name, h₀⟩ := ht
    rw [Ne, debugCheck_eq_ok_iff]
    exact fun h => core_ne_of_dropped ⟨name, h₀.trans hrun⟩ hd' h.2

/-- Three states of a thread, each checked with the first loop's id: after `new_event_loop`;
in the middle of that loop's run, where the check panics; and after a second `new_event_loop`,
which replaced the first loop's core, so that the first loop fails the check from then on. -/
theorem debugCheck_current_only_main :
    let t₁ := (init "main").newEventLoop.2
    let t₂ := (t₁.runForever 0).2
    let t₃ := t₁.newEventLoop.2
    (t₁.Reachable ∧ ((t₁.running.isSome →
        t₁.debugCheck true 0 = .error (.panic alreadyMutablyBorrowed)) ∧
      (t₁.debugCheck true 0 = .ok () →
        t₁.running = none ∧ t₁.core = some 0 ∧ ∀ j ∈ t₁.reactors, j ≤ 0) ∧
      (0 < t₁.nextId → t₁.core ≠ some 0 →
        ∀ t', Relation.ReflTransGen Step t₁ t' → t'.debugCheck true 0 ≠ .ok ()))) ∧
    (t₂.Reachable ∧ t₂.running.isSome ∧ ((t₂.running.isSome →
        t₂.debugCheck true 0 = .error (.panic alreadyMutablyBorrowed)) ∧
      (t₂.debugCheck true 0 = .ok () →
        t₂.running = none ∧ t₂.core = some 0 ∧ ∀ j ∈ t₂.reactors, j ≤ 0) ∧
      (0 < t₂.nextId → t₂.core ≠ some 0 →
        ∀ t', Relation.ReflTransGen Step t₂ t' → t'.debugCheck true 0 ≠ .ok ()))) ∧
    (t₃.Reachable ∧ 0 < t₃.nextId ∧ t₃.core ≠ some 0 ∧ ((t₃.running.isSome →
        t₃.debugCheck true 0 = .error (.panic alreadyMutablyBorrowed)) ∧
      (t₃.debugCheck true 0 = .ok () →
        t₃.running = none ∧ t₃.core = some 0 ∧ ∀ j ∈ t₃.reactors, j ≤ 0) ∧
      (0 < t₃.nextId → t₃.core ≠ some 0 →
        ∀ t', Relation.ReflTransGen Step t₃ t' → t'.debugCheck true 0 ≠ .ok ()))) :=
  have h₁ : ((init "main").newEventLoop.2).Reachable := ⟨_, .single (.newEventLoop _)⟩
  have h₂ : (((init "main").newEventLoop.2).runForever 0).2.Reachable :=
    ⟨_, .tail (.single (.newEventLoop _)) (.runForever _ 0 (by decide))⟩
  have h₃ : ((init "main").newEventLoop.2.newEventLoop.2).Reachable :=
    ⟨_, .tail (.single (.newEventLoop _)) (.newEventLoop _)⟩
  ⟨⟨h₁, debugCheck_current_only h₁ 0⟩, ⟨h₂, rfl, debugCheck_current_only h₂ 0⟩,
    ⟨h₃, by decide, by decide, debugCheck_current_only h₃ 0⟩⟩

end LoopThread

end PyTokio
