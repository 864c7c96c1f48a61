-- SUMMARY: `server::create_server`: the resolved entries bound one by one into listeners, the accept loops spawned for them, and the two ways the call ends.
import PyTokio.Server.AcceptLoop

/-!
# Creating a server

`create_server` resolves its host and port, then walks the resolved entries in order. An entry
of family `Inet` or `Inet6` gets a socket from `TcpBuilder`; when making the socket fails, or
the entry has another family, the loop goes on to the next entry. The socket is bound to the
entry's address, put into listening mode and registered with the reactor as a `TcpListener`.
The first of these calls that fails ends `create_server` with an `OSError`, and the failing
entry's socket and the listeners made so far are dropped. Once every entry is through, one
accept loop is spawned per listener, and the server keeps their stop senders.

What the system calls return is an input: each resolved entry comes with the results its socket
calls give. The options `reuse_address`, `reuse_port` and `only_v6` only change those results,
and the code ignores their own. Addresses are named by numbers. `utils::os_error`, which is not
part of the modelled sources, is read as the `OSError` of the I/O error.
-/

namespace PyTokio

/-- `addrinfo::Family`, as far as the binding loop tells families apart. -/
inductive Family
  | inet
  | inet6
  | other
deriving DecidableEq

/-- A resolved entry: its family and its socket address. -/
structure AddrInfo where
  family : Family
  sockaddr : Nat

/-- What the socket calls for one entry return: whether `TcpBuilder::new_v4` (`new_v6` for
`Inet6`) made a socket, and the results of `bind`, `listen` and `TcpListener::from_listener`. -/
structure SocketResults where
  socket : Bool
  bind : Except IoError Unit
  listen : Except IoError Unit
  register : Except IoError Unit

/-- What `create_server` does with sockets, in order: bind a new socket to an address, close a
socket bound to an address, or spawn accept loop `listener` on the listener of an address. -/
inductive SocketEvent
  | bind (addr : Nat)
  | close (addr : Nat)
  | serve (listener addr : Nat)
deriving DecidableEq

/-- `utils::os_error`: the `OSError` for an I/O error. -/
def osError (e : IoError) : PyErr := .osError e.desc

/-- Whether the loop gets a socket for an entry: `Inet` and `Inet6` entries do unless
`TcpBuilder` fails (`continue`); entries of other families are skipped. -/
def newSocket : Family → Bool → Bool
  | .inet, made => made
  | .inet6, made => made
  | .other, _ => false

/-- `bind`, `listen` and `TcpListener::from_listener` in turn, up to the first error. -/
def SocketResults.openListener (sr : SocketResults) : Except IoError Unit := do
  sr.bind
  sr.listen
  sr.register

/-- The binding loop of `create_server` (lines 31-66), given the listeners registered so far,
by address. An entry that gets a socket is bound, listened on and registered. The first failure
returns its `OSError`; the failing entry's socket is dropped, then the vector of listeners, in
order. -/
def bindLoop (listeners : List Nat) :
    List (AddrInfo × SocketResults) → Except PyErr (List Nat) × List SocketEvent
  | [] => (.ok listeners, [])
  | (info, sr) :: rest =>
    if newSocket info.family sr.socket then
      match sr.openListener with
      | .ok () =>
        let r := bindLoop (listeners ++ [info.sockaddr]) rest
        (r.1, .bind info.sockaddr :: r.2)
      | .error e =>
        (.error (osError e), .bind info.sockaddr :: .close info.sockaddr :: listeners.map .close)
    else bindLoop listeners rest

/-- `server::create_server`. `lookup` is what `lookup_addrinfo` resolved, each entry with the
results of its socket calls, or `none` when the lookup failed, which raises an `OSError` with no
arguments. After the binding loop it spawns an accept loop per listener, in order, and returns
the server holding their stop senders. -/
def createServer (lookup : Option (List (AddrInfo × SocketResults))) :
    Except PyErr TokioServer × List SocketEvent :=
  match lookup with
  | none => (.error (.osError ""), [])
  | some entries =>
    match bindLoop [] entries with
    | (.error e, log) => (.error e, log)
    | (.ok listeners, log) =>
      (.ok (TokioServer.init listeners.length), log ++ listeners.enum.map fun p => .serve p.1 p.2)

/-! ## Reading the log -/

/-- The addresses sockets were bound to, in order. -/
def boundIn (log : List SocketEvent) : List Nat :=
  log.filterMap fun | .bind a => some a | _ => none

/-- The addresses of the sockets closed, in order. -/
def closedIn (log : List SocketEvent) : List Nat :=
  log.filterMap fun | .close a => some a | _ => none

/-- The accept loops spawned, each with the address of its listener, in order. -/
def servedIn (log : List SocketEvent) : List (Nat × Nat) :=
  log.filterMap fun | .serve i a => some (i, a) | _ => none

@[simp] theorem boundIn_cons_bind (a : Nat) (log : List SocketEvent) :
    boundIn (.bind a :: log) = a :: boundIn log := rfl

@[simp] theorem boundIn_cons_close (a : Nat) (log : List SocketEvent) :
    boundIn (.close a :: log) = boundIn log := rfl

@[simp] theorem closedIn_cons_bind (a : Nat) (log : List SocketEvent) :
    closedIn (.bind a :: log) = closedIn log := rfl

@[simp] theorem closedIn_cons_close (a : Nat) (log : List SocketEvent) :
    closedIn (.close a :: log) = a :: closedIn log := rfl

@[simp] theorem boundIn_map_close (l : List Nat) : boundIn (l.map .close) = [] := by
  simp [boundIn, List.filterMap_map, Function.comp_def]

@[simp] theorem closedIn_map_close (l : List Nat) : closedIn (l.map .close) = l := by
  simp [closedIn, List.filterMap_map, Function.comp_def]

/-- An entry whose socket calls all succeed: it becomes a listener. -/
def binds (e : AddrInfo × SocketResults) : Bool :=
  newSocket e.1.family e.2.socket && e.2.openListener.isOk

/-- An entry that gets a socket and then fails to become a listener. -/
def fails (e : AddrInfo × SocketResults) : Bool :=
  newSocket e.1.family e.2.socket && !e.2.openListener.isOk

/-- The addresses of the entries that become listeners, in order. -/
def boundAddrs (entries : List (AddrInfo × SocketResults)) : List Nat :=
  (entries.filter binds).map (·.1.sockaddr)

theorem newSocket_eq_true {f : Family} {made : Bool} :
    newSocket f made = true ↔ f ≠ .other ∧ made = true := by
  cases f <;> simp [newSocket]

theorem openListener_eq_ok {sr : SocketResults} :
    sr.openListener = .ok () ↔ sr.bind = .ok () ∧ sr.listen = .ok () ∧ sr.register = .ok () := by
  obtain ⟨_, b, l, r⟩ := sr
  rcases b with _ | ⟨⟩ <;> rcases l with _ | ⟨⟩ <;> rcases r with _ | ⟨⟩ <;>
    simp [SocketResults.openListener, bind, Except.bind]

/-- `binds` on the fields of the entry: an `Inet` or `Inet6` entry whose socket was made and
whose `bind`, `listen` and registration all succeed. -/
theorem binds_iff {e : AddrInfo × SocketResults} :
    binds e = true ↔ e.1.family ≠ .other ∧ e.2.socket = true ∧
      e.2.bind = .ok () ∧ e.2.listen = .ok () ∧ e.2.register = .ok () := by
  rcases h : e.2.openListener with err | ⟨⟩ <;>
    simp [binds, newSocket_eq_true, ← openListener_eq_ok, h, Except.isOk, Except.toBool]

/-- `fails` on the fields of the entry: an `Inet` or `Inet6` entry whose socket was made and
one of whose `bind`, `listen` and registration fails. -/
theorem fails_iff {e : AddrInfo × SocketResults} :
    fails e = true ↔ e.1.family ≠ .other ∧ e.2.socket = true ∧
      ¬(e.2.bind = .ok () ∧ e.2.listen = .ok () ∧ e.2.register = .ok ()) := by
  rcases h : e.2.openListener with err | ⟨⟩ <;>
    simp [fails, newSocket_eq_true, ← openListener_eq_ok, h, Except.isOk, Except.toBool]

/-! ## The binding loop -/

/-- The binding loop binds no accept loop. -/
theorem servedIn_bindLoop (listeners : List Nat) (entries : List (AddrInfo × SocketResults)) :
    servedIn (bindLoop listeners entries).2 = [] := by
  induction entries generalizing listeners with
  | nil => rfl
  | cons e rest ih =>
    obtain ⟨info, sr⟩ := e
    unfold bindLoop
    split
    · rcases sr.openListener with e | ⟨⟩
      · simp [servedIn, List.filterMap_map, Function.comp_def]
      · simpa [servedIn] using ih _
    · exact ih _

/-- When no entry fails, the loop binds every entry that gets a socket, in order, and keeps
them all. -/
theorem bindLoop_of_no_fail (listeners : List Nat) {entries : List (AddrInfo × SocketResults)}
    (h : ∀ e ∈ entries, fails e = false) :
    bindLoop listeners entries = (.ok (listeners ++ boundAddrs entries), (boundAddrs entries).map .bind) := by
  induction entries generalizing listeners with
  | nil => simp [bindLoop, boundAddrs]
  | cons e rest ih =>
    obtain ⟨info, sr⟩ := e
    have hrest := fun ls => ih ls fun e he => h e (List.mem_cons_of_mem _ he)
    have hf := h _ (List.mem_cons_self _ _)
    unfold bindLoop
    by_cases hn : newSocket info.family sr.socket
    · rcases ho : sr.openListener with e | ⟨⟩
      · simp [fails, hn, ho, Except.isOk, Except.toBool] at hf
      · simp [hn, ho, hrest, boundAddrs, binds, Except.isOk, Except.toBool]
    · simp [hn, hrest, boundAddrs, binds]

/-- When an entry fails, the loop returns its `OSError`, and every socket it bound is closed,
together with the listeners it started from. -/
theorem bindLoop_of_fail (listeners : List Nat) {entries : List (AddrInfo × SocketResults)}
    (h : ∃ e ∈ entries, fails e) :
    (∃ err, (bindLoop listeners entries).1 = .error (osError err)) ∧
      (closedIn (bindLoop listeners entries).2).Perm
        (listeners ++ boundIn (bindLoop listeners entries).2) := by
  induction entries generalizing listeners with
  | nil => simp at h
  | cons e rest ih =>
    obtain ⟨info, sr⟩ := e
    have hrest (hne : fails (info, sr) = false) : ∃ e ∈ rest, fails e := by
      obtain ⟨e, he, hf⟩ := h
      rcases List.mem_cons.mp he with rfl | he
      exacts [absurd hf (by simp [hne]), ⟨e, he, hf⟩]
    unfold bindLoop
    by_cases hn : newSocket info.family sr.socket
    · rcases ho : sr.openListener with err | ⟨⟩
      · refine ⟨⟨err, by simp [hn, ho]⟩, ?_⟩
        simpa [hn, ho] using (List.perm_append_singleton _ listeners).symm
      · obtain ⟨herr, hperm⟩ := ih (listeners ++ [info.sockaddr])
          (hrest (by simp [fails, hn, ho, Except.isOk, Except.toBool]))
        exact ⟨by simpa [hn, ho] using herr, by simpa [hn, ho] using hperm⟩
    · simpa [hn] using ih listeners (hrest (by simp [fails, hn]))

/-! ## `create_server` -/

/-- `create_server` ends in one of two ways, whatever the resolver returns and whichever socket
calls fail. Either the lookup succeeded and no entry failed: it returns the server of one accept
loop per entry that got a socket and became a listener, spawned in order on that entry's
address, having bound exactly those addresses and closed nothing. Or the lookup failed or an
entry failed: it raises an `OSError`, spawns no accept loop, and closes every socket it bound.
Entries of other families get no socket, so they never fail and never get a loop. `binds_iff`
and `fails_iff` restate `binds` and `fails` on the fields of an entry. -/
theorem createServer_two_outcomes (lookup : Option (List (AddrInfo × SocketResults))) :
    let r := createServer lookup
    (∃ entries, lookup = some entries ∧ (∀ e ∈ entries, fails e = false) ∧
      r.1 = .ok (TokioServer.init (boundAddrs entries).length) ∧
      servedIn r.2 = (boundAddrs entries).enum ∧ boundIn r.2 = boundAddrs entries ∧
      closedIn r.2 = []) ∨
    ((lookup = none ∨ ∃ entries, lookup = some entries ∧ ∃ e ∈ entries, fails e) ∧
      (∃ msg, r.1 = .error (.osError msg)) ∧ servedIn r.2 = [] ∧
      (closedIn r.2).Perm (boundIn r.2)) := by
  intro r
  rcases lookup with _ | entries
  · exact .inr ⟨.inl rfl, ⟨"", rfl⟩, rfl, .refl _⟩
  · by_cases hf : ∃ e ∈ entries, fails e
    · obtain ⟨⟨err, herr⟩, hperm⟩ := bindLoop_of_fail [] hf
      rcases hb : bindLoop [] entries with ⟨e | ls, log⟩
      · have hs := servedIn_bindLoop [] entries
        rw [hb] at herr hperm hs
        obtain rfl : e = osError err := by simpa using herr
        have hr : r = (.error (osError err), log) := by simp only [r, createServer, hb]
        rw [hr]
        exact .inr ⟨.inr ⟨entries, rfl, hf⟩, ⟨err.desc, rfl⟩, hs, by simpa using hperm⟩
      · rw [hb] at herr; cases herr
    · have hok := bindLoop_of_no_fail [] (fun e he => by simpa using fun h => hf ⟨e, he, h⟩)
      have hr : r = (.ok (TokioServer.init (boundAddrs entries).length),
          (boundAddrs entries).map .bind ++ (boundAddrs entries).enum.map fun p => .serve p.1 p.2) := by
        simp only [r, createServer, hok, List.nil_append]
      refine .inl ⟨entries, rfl, fun e he => by simpa using fun h => hf ⟨e, he, h⟩, by rw [hr], ?_⟩
      rw [hr]
      simp [servedIn, boundIn, closedIn, List.filterMap_map, Function.comp_def]

/-- A resolver result that lists one `Inet` address twice, whose first entry becomes a listener
and whose second gets a socket: `create_server` binds the address twice. Whatever the second
socket's `bind`, `listen` and registration return, the server then either listens on the address
twice, with two accept loops, or fails with an `OSError`. -/
theorem duplicate_address_bound_twice (a : Nat) (bind listen register : Except IoError Unit) :
    let r := createServer (some [(⟨.inet, a⟩, ⟨true, .ok (), .ok (), .ok ()⟩),
      (⟨.inet, a⟩, ⟨true, bind, listen, register⟩)])
    boundIn r.2 = [a, a] ∧
      (r.1 = .ok (TokioServer.init 2) ∧ servedIn r.2 = [(0, a), (1, a)] ∨
        ∃ msg, r.1 = .error (.osError msg)) := by
  have h₁ : (⟨true, .ok (), .ok (), .ok ()⟩ : SocketResults).openListener = .ok () := rfl
  rcases h₂ : (⟨true, bind, listen, register⟩ : SocketResults).openListener with e | ⟨⟩
  · simp [createServer, bindLoop, newSocket, h₁, h₂, osError, boundIn]
  · simp [createServer, bindLoop, newSocket, h₁, h₂, servedIn, boundIn, List.filterMap_map,
      Function.comp_def, List.enum, List.enumFrom]

end PyTokio
