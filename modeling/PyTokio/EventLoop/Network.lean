-- SUMMARY: The loop's network methods up to the resolver: `getaddrinfo`, `create_connection` and its argument checks, `create_server` and `create_http_server`; and `ToPyErr for LookupError`.
import PyTokio.Transport.Protocol
import PyTokio.Server.Create

/-!
# The loop's network methods

`getaddrinfo` and `create_connection` read their arguments, return a future at once, and spawn
a lookup on the resolver's workers; when the lookup ends, the future is given its result or its
exception, or, for `create_connection`, the addresses go on to `client::create_connection`.
`create_server` and `create_http_server` check their arguments and call `server::create_server`.

The resolver (`addrinfo`), `client::create_connection`, `utils::check_min_length`, the
transport factories and `PyFuture` are not among the modelled sources. What the lookup gives is
an input. A Python argument is modelled by what the code reads of it: a `str` is the text
`to_string_lossy` gives and the result of `to_string`, which fails on a string that is not valid
UTF-8; an integer argument is the integer it denotes, or the exception reading one raises. The
conversions of `py_class!` to `u16`, `i32` and `bool` are modelled, with their range checks, in
the order of each method's signature.
-/

namespace PyTokio

/-- How a call into the extension ends when it returns no value: a Python exception of any
class, or a Rust panic. -/
inductive Failure
  | raise (e : PyException)
  | panic (msg : String)

/-- An exception built from a message: `PyErr::new::<cls, _>(py, msg)`. -/
def PyException.ofMsg (cls : ExcClass) (msg : String) : PyException := ⟨cls, [.str msg]⟩

/-! ## Arguments -/

/-- A Python `str` as the code reads it: the text `to_string_lossy` gives, and what `to_string`
gives, which raises on a string that is not valid UTF-8. -/
structure PyStr where
  lossy : String
  strict : Except PyException String

/-- `FromPyObject` for a Rust integer type of values `lo..=hi` that fits in a `c_long` (`u16`,
`i32`): `PyLong_AsLong` of the integer the argument denotes, which raises `OverflowError`
outside `c_long`, then a cast that raises an `OverflowError` without arguments outside
`lo..=hi`. -/
def extractInt (lo hi : Int) (arg : Except PyException Int) : Except PyException Int := do
  let v ← arg
  if v < -2 ^ 63 ∨ 2 ^ 63 ≤ v then
    throw (.ofMsg .overflowError "Python int too large to convert to C long")
  else if lo ≤ v ∧ v ≤ hi then pure v
  else throw ⟨.overflowError, []⟩

/-- `u16::extract`. -/
def extractU16 : Except PyException Int → Except PyException Int := extractInt 0 65535

/-- `i32::extract`. -/
def extractI32 : Except PyException Int → Except PyException Int :=
  extractInt (-2147483648) 2147483647

/-- A parameter with a default (`family: i32 = 0`): the default when the argument is absent,
else its conversion. -/
def withDefault (conv : α → Except PyException β) (dflt : β) : Option α → Except PyException β
  | none => .ok dflt
  | some x => conv x

/-- A parameter of type `Option<T>`: `None` when the argument is absent, else its conversion. -/
def optional (conv : α → Except PyException β) : Option α → Except PyException (Option β)
  | none => .ok none
  | some x => some <$> conv x

/-- `addrinfo::AI_PASSIVE`, the default `flags`: the C library's `AI_PASSIVE`, `1`. -/
def aiPassive : Int := 1

/-- An optional integer argument that converts to `v`: it is absent and `v` is the default, or
it is an `int` `v` in `lo..=hi`. -/
def IntArg (lo hi dflt : Int) (arg : Option (Except PyException Int)) (v : Int) : Prop :=
  arg = none ∧ v = dflt ∨ arg = some (.ok v) ∧ lo ≤ v ∧ v ≤ hi

theorem bind_eq_ok {x : Except ε α} {f : α → Except ε β} {v : β} :
    x >>= f = .ok v ↔ ∃ a, x = .ok a ∧ f a = .ok v := by
  cases x <;> simp [bind, Except.bind]

/-- Inside `c_long`, `extract` succeeds exactly on the integers in range. -/
theorem extractInt_eq_ok {lo hi : Int} (hlo : -2 ^ 63 ≤ lo) (hhi : hi < 2 ^ 63)
    {arg : Except PyException Int} {v : Int} :
    extractInt lo hi arg = .ok v ↔ arg = .ok v ∧ lo ≤ v ∧ v ≤ hi := by
  rcases arg with e | w
  · simp [extractInt, bind, Except.bind]
  · simp only [extractInt, bind, Except.bind, Except.ok.injEq]
    split_ifs <;> simp [throw, throwThe, MonadExceptOf.throw, pure, Except.pure] <;> omega

theorem withDefault_extractInt_eq_ok {lo hi dflt : Int} (hlo : -2 ^ 63 ≤ lo) (hhi : hi < 2 ^ 63)
    {arg : Option (Except PyException Int)} {v : Int} :
    withDefault (extractInt lo hi) dflt arg = .ok v ↔ IntArg lo hi dflt arg v := by
  rcases arg with _ | a
  · simp [withDefault, IntArg, eq_comm]
  · simp [withDefault, IntArg, extractInt_eq_ok hlo hhi]

theorem optional_some_eq_ok {conv : α → Except PyException β} {x : α} {w : Option β} :
    optional conv (some x) = .ok w ↔ ∃ v, conv x = .ok v ∧ w = some v := by
  rcases h : conv x with e | v <;> simp [optional, h, Functor.map, Except.map, eq_comm]

theorem optional_extractInt_eq_ok {lo hi : Int} (hlo : -2 ^ 63 ≤ lo) (hhi : hi < 2 ^ 63)
    {arg : Option (Except PyException Int)} {w : Option Int} :
    optional (extractInt lo hi) arg = .ok w ↔ arg = w.map .ok ∧ ∀ v ∈ w, lo ≤ v ∧ v ≤ hi := by
  rcases arg with _ | a
  · cases w <;> simp [optional]
  · rw [optional_some_eq_ok]
    cases w <;> simp [extractInt_eq_ok hlo hhi]

theorem optional_id_eq_ok {arg : Option (Except PyException α)} {w : Option α} :
    optional id arg = .ok w ↔ arg = w.map .ok := by
  rcases arg with _ | a
  · cases w <;> simp [optional]
  · rw [optional_some_eq_ok]
    cases w <;> simp [eq_comm]

/-! ## Lookup errors and results -/

/-- `addrinfo::LookupError`. -/
inductive LookupError
  | ioError (err : IoError)
  | other (msg : String)
  | nulError
  | generic

/-- `ToPyErr for LookupError`: an I/O error's own exception, else a `socket.gaierror`. -/
def LookupError.toPyErr : LookupError → PyException
  | .ioError err => err.toPyErr
  | .other msg => .ofMsg .gaiError msg
  | .nulError => .ofMsg .gaiError "nil pointer"
  | .generic => .ofMsg .gaiError "generic error"

/-- A socket address as the resolver gives it. -/
inductive SocketAddr
  | v4 (ip : String) (port : Nat)
  | v6 (ip : String) (port : Nat) (flowinfo scopeId : Nat)

/-- An entry of the resolver's answer: family, socket type and protocol (as `to_int` gives
them), canonical name and address. -/
structure LookupEntry where
  family : Int
  socktype : Int
  protocol : Int
  canonname : Option String
  sockaddr : SocketAddr

/-- The tuple `getaddrinfo` makes of an address: `(ip, port)`, or `(ip, port, flowinfo,
scope_id)` for IPv6. -/
def SocketAddr.toPy : SocketAddr → PyValue
  | .v4 ip port => .tuple [.str ip, .int port]
  | .v6 ip port flowinfo scopeId => .tuple [.str ip, .int port, .int flowinfo, .int scopeId]

/-- The tuple `getaddrinfo` makes of an entry: `(family, type, proto, canonname, sockaddr)`,
with `""` for a missing canonical name. -/
def LookupEntry.toPy (e : LookupEntry) : PyValue :=
  .tuple [.int e.family, .int e.socktype, .int e.protocol, .str (e.canonname.getD ""),
    e.sockaddr.toPy]

/-- How the resolver's future ends: it fails (its worker is gone), or it gives a lookup error
or the entries. -/
abbrev LookupOutcome := Except Unit (Except LookupError (List LookupEntry))

/-- How a future the loop returned ends: with a result or an exception. -/
inductive FutureState (α : Type)
  | result (v : α)
  | exception (e : PyException)

/-! ## `getaddrinfo` -/

/-- What `getaddrinfo` asks the resolver for. -/
structure LookupQuery where
  host : String
  port : Int
  family : Int
  flags : Int
  socktype : Int
deriving DecidableEq

/-- Keyword arguments, by name, each with the integer it denotes or the exception reading one
raises. -/
abbrev Kwargs := List (String × Except PyException Int)

/-- `kwargs.get_item(key).map(|inst| inst.extract(py)).unwrap_or(Ok(0))` for an `i32`. -/
def kwarg (kwargs : Kwargs) (key : String) : Except PyException Int :=
  withDefault extractI32 0 (kwargs.lookup key)

/-- The family, socket type and flags `getaddrinfo` reads from its keyword arguments, `0` each
when there are none. The socket type is read from the `family` keyword. -/
def getaddrinfoFlags : Option Kwargs → Except PyException (Int × Int × Int)
  | none => .ok (0, 0, 0)
  | some kwargs => do
    let family ← kwarg kwargs "family"
    let socktype ← kwarg kwargs "family"
    let flags ← kwarg kwargs "flags"
    pure (family, socktype, flags)

/-- `TokioEventLoop.getaddrinfo` up to the lookup it spawns: `check_min_length(args, 2)`
(`minLength`), the downcast of the host to a `str` (`host`), the port as a `u16`, the keyword
arguments, and then the host's `to_string`. -/
def getaddrinfo (minLength : Except PyException Unit) (host : Except PyException PyStr)
    (port : Except PyException Int) (kwargs : Option Kwargs) : Except PyException LookupQuery := do
  minLength
  let host ← host
  let port ← extractU16 port
  let (family, socktype, flags) ← getaddrinfoFlags kwargs
  let host ← host.strict
  pure ⟨host, port, family, flags, socktype⟩

/-- The result `getaddrinfo`'s future gets from the lookup: the list of entry tuples, in the
resolver's order; the lookup error's exception; or, when the lookup future fails,
`RuntimeError("Unknown runtime error")`. -/
def getaddrinfoResult : LookupOutcome → FutureState (List PyValue)
  | .error () => .exception (.ofMsg .runtimeError "Unknown runtime error")
  | .ok (.error err) => .exception err.toPyErr
  | .ok (.ok entries) => .result (entries.map LookupEntry.toPy)

/-! ## `create_connection` -/

/-- The arguments of `create_connection` as they are passed, `none` when absent: `host`, `port`,
whether `ssl` was given, `family`, `proto`, `flags`, whether `sock` was given, and
`server_hostname`. A `str` argument is the `str`, or the exception of its downcast. -/
structure ConnectArgs where
  host : Option (Except PyException PyStr)
  port : Option (Except PyException Int)
  ssl : Bool
  family : Option (Except PyException Int)
  proto : Option (Except PyException Int)
  flags : Option (Except PyException Int)
  sock : Bool
  serverHostname : Option (Except PyException PyStr)

/-- The parameters of `create_connection` its body reads, once converted. -/
structure ConnectParams where
  host : Option PyStr
  port : Option Int
  ssl : Bool
  family : Int
  flags : Int
  sock : Bool
  serverHostname : Option PyStr

/-- The conversions `py_class!` makes before the body runs, in the order of the signature:
`host: Option<PyString>`, `port: Option<u16>`, `family: i32 = 0`, `proto: i32 = 0`,
`flags: i32 = AI_PASSIVE` and `server_hostname: Option<PyString>`; the first failure raises. -/
def ConnectArgs.convert (a : ConnectArgs) : Except PyException ConnectParams := do
  let host ← optional id a.host
  let port ← optional extractU16 a.port
  let family ← withDefault extractI32 0 a.family
  let _ ← withDefault extractI32 0 a.proto
  let flags ← withDefault extractI32 aiPassive a.flags
  let serverHostname ← optional id a.serverHostname
  pure ⟨host, port, a.ssl, family, flags, a.sock, serverHostname⟩

/-- What `create_connection` asks the resolver for (a stream socket for the host and port, with
the family and flags) and hands to `client::create_connection` with the addresses: whether it
made a TLS context, and the server hostname. -/
structure ConnectRequest where
  host : String
  port : Int
  family : Int
  flags : Int
  tls : Bool
  serverHostname : String
deriving DecidableEq

/-- The body of `TokioEventLoop.create_connection` up to the lookup it spawns. `tls` is what
building the TLS connector gives (`TlsConnector::builder()` then `build()`, the description of
the first error), used only when `ssl` is given. The checks run in the order of the source: the
server hostname against `ssl`, the TLS context, then host, port and `sock`; the host is read
with `to_string_lossy`, the server hostname with `to_string`. -/
def createConnectionBody (p : ConnectParams) (tls : Except String Unit) :
    Except PyException ConnectRequest :=
  match p.serverHostname, p.ssl, p.host with
  | some _, false, _ => .error (.ofMsg .valueError "server_hostname is only meaningful with ssl")
  | none, true, none =>
    .error (.ofMsg .valueError "You must set server_hostname when using ssl without a host")
  | _, _, _ =>
    match p.ssl, tls with
    | true, .error desc => .error (.ofMsg .osError desc)
    | _, _ =>
      match p.host, p.port, p.sock with
      | none, none, true => .error (.ofMsg .valueError "sock is not supported yet")
      | none, none, false =>
        .error (.ofMsg .valueError "host and port was not specified and no sock specified")
      | _, _, true =>
        .error (.ofMsg .valueError "host/port and sock can not be specified at the same time")
      | host, port, false => do
        let host := (host.map PyStr.lossy).getD ""
        let serverHostname ← (p.serverHostname.map PyStr.strict).getD (pure host)
        pure ⟨host, port.getD 0, p.family, p.flags, p.ssl, serverHostname⟩

/-- `TokioEventLoop.create_connection` up to the lookup it spawns: the conversions, then the
body. -/
def createConnection (a : ConnectArgs) (tls : Except String Unit) :
    Except PyException ConnectRequest := do
  createConnectionBody (← a.convert) tls

/-- The conversions succeed exactly when each argument given converts: `host` and
`server_hostname` are `str`s, `port` is an `int` in `0..=65535`, and `family`, `proto` and
`flags` are `int`s that fit an `i32`. -/
theorem ConnectArgs.convert_eq_ok {a : ConnectArgs} {p : ConnectParams} :
    a.convert = .ok p ↔
      a.host = p.host.map .ok ∧ a.port = p.port.map .ok ∧ (∀ v ∈ p.port, 0 ≤ v ∧ v ≤ 65535) ∧
        IntArg (-2147483648) 2147483647 0 a.family p.family ∧
        (∃ proto, IntArg (-2147483648) 2147483647 0 a.proto proto) ∧
        IntArg (-2147483648) 2147483647 aiPassive a.flags p.flags ∧
        a.serverHostname = p.serverHostname.map .ok ∧ p.ssl = a.ssl ∧ p.sock = a.sock := by
  have hu : ∀ {arg w}, optional (extractInt 0 65535) arg = .ok w ↔
      arg = w.map .ok ∧ ∀ v ∈ w, 0 ≤ v ∧ v ≤ 65535 :=
    optional_extractInt_eq_ok (by norm_num) (by norm_num)
  have hi : ∀ {dflt arg v}, withDefault (extractInt (-2147483648) 2147483647) dflt arg = .ok v ↔
      IntArg (-2147483648) 2147483647 dflt arg v :=
    withDefault_extractInt_eq_ok (by norm_num) (by norm_num)
  obtain ⟨ah, ap, assl, af, apr, afl, asock, ash⟩ := a
  obtain ⟨host, port, ssl, family, flags, sock, sh⟩ := p
  simp only [ConnectArgs.convert, extractU16, extractI32, bind_eq_ok, optional_id_eq_ok, hu, hi,
    pure, Except.pure, Except.ok.injEq, ConnectParams.mk.injEq]
  constructor
  · rintro ⟨h, rfl, p, ⟨rfl, hp⟩, f, hf, q, hq, fl, hfl, s, rfl, rfl, rfl, rfl, rfl, rfl, rfl, rfl⟩
    exact ⟨rfl, rfl, hp, hf, ⟨q, hq⟩, hfl, rfl, rfl, rfl⟩
  · rintro ⟨rfl, rfl, hp, hf, ⟨q, hq⟩, hfl, rfl, rfl, rfl⟩
    exact ⟨_, rfl, _, ⟨rfl, hp⟩, _, hf, q, hq, _, hfl, _, rfl, rfl, rfl, rfl, rfl, rfl, rfl, rfl⟩

/-- The body returns its request exactly when a host or a port and no `sock` is given, a
server hostname only with `ssl`, with `ssl` a host or a server hostname and a TLS context that
builds, and a server hostname given is valid UTF-8. -/
theorem createConnectionBody_eq_ok {p : ConnectParams} {tls : Except String Unit}
    {req : ConnectRequest} :
    createConnectionBody p tls = .ok req ↔
      (p.host.isSome ∨ p.port.isSome) ∧ p.sock = false ∧ (p.serverHostname.isSome → p.ssl) ∧
        (p.ssl → p.host.isSome ∨ p.serverHostname.isSome) ∧ (p.ssl → tls = .ok ()) ∧
        req = ⟨(p.host.map PyStr.lossy).getD "", p.port.getD 0, p.family, p.flags, p.ssl,
          req.serverHostname⟩ ∧
        (p.serverHostname.map PyStr.strict).getD (.ok ((p.host.map PyStr.lossy).getD "")) =
          .ok req.serverHostname := by
  obtain ⟨host, port, ssl, family, flags, sock, sh⟩ := p
  obtain ⟨rh, rp, rf, rfl', rt, rs⟩ := req
  rcases sh with _ | ⟨l, _ | t⟩ <;> rcases host with _ | h <;> rcases port with _ | q <;>
    cases ssl <;> cases sock <;> rcases tls with _ | ⟨⟩ <;>
    simp [createConnectionBody, bind, Except.bind, pure, Except.pure, eq_comm, and_assoc]

/-- A port beyond `u16`, with a host given, is refused by the conversion with an
`OverflowError`, before any check of the body. -/
example : ∃ e, createConnection ⟨some (.ok ⟨"localhost", .ok "localhost"⟩), some (.ok 70000),
    false, none, none, none, false, none⟩ (.ok ()) = .error e ∧ e.cls = .overflowError ∧
    e.args = [] := ⟨_, rfl, rfl, rfl⟩

/-- How the future `create_connection` returns goes on once the lookup ends: it is cancelled
when the lookup future fails; it gets the lookup error's exception, or an `OSError` for an
empty answer; otherwise `client::create_connection` gets the addresses and the request. -/
inductive ConnectOutcome
  | cancelled
  | failed (e : PyException)
  | connect (addrs : List LookupEntry) (req : ConnectRequest)

/-- The continuation `create_connection` spawns on the lookup. -/
def connectOutcome (req : ConnectRequest) : LookupOutcome → ConnectOutcome
  | .error () => .cancelled
  | .ok (.error err) => .failed err.toPyErr
  | .ok (.ok []) => .failed (.ofMsg .osError "getaddrinfo() returned empty list")
  | .ok (.ok addrs) => .connect addrs req

/-! ## `create_server` and `create_http_server` -/

/-- The panic of `Option::unwrap` on `None`. -/
def unwrapNone : String := "called `Option::unwrap()` on a `None` value"

/-- The arguments of `create_server` and `create_http_server` as they are passed, `none` when
absent: `host`, `port`, `family`, `flags`, `backlog`, whether `ssl` was given, `reuse_address`
and `reuse_port` (the `bool`, or the exception of its downcast). -/
structure ServerArgs where
  host : Option (Except PyException PyStr)
  port : Option (Except PyException Int)
  family : Option (Except PyException Int)
  flags : Option (Except PyException Int)
  backlog : Option (Except PyException Int)
  ssl : Bool
  reuseAddress : Option (Except PyException Bool)
  reusePort : Option (Except PyException Bool)

/-- What `create_server` and `create_http_server` share: the conversions of their signature, in
order (`host: Option<PyString>`, `port: Option<u16>`, `family: i32 = 0`,
`flags: i32 = AI_PASSIVE`, `backlog: i32 = 100`, `reuse_address: bool = true`,
`reuse_port: bool = true`); then refuse `ssl` with an exception of class `sslError`, and hand the
host (`host.unwrap()`, read with `to_string_lossy`) and the port (`0` when not given) to
`server::create_server`. `resolve` is what the resolver makes of a host, a port, a family and
flags, each entry with the results of its socket calls; `backlog` and the `reuse` options only
change those results. -/
def createServerWith (sslError : ExcClass) (a : ServerArgs)
    (resolve : String → Int → Int → Int → Option (List (AddrInfo × SocketResults))) :
    Except Failure (Except PyErr TokioServer × List SocketEvent) := do
  let host ← (optional id a.host).mapError .raise
  let port ← (optional extractU16 a.port).mapError .raise
  let family ← (withDefault extractI32 0 a.family).mapError .raise
  let flags ← (withDefault extractI32 aiPassive a.flags).mapError .raise
  let _ ← (withDefault extractI32 100 a.backlog).mapError .raise
  let _ ← (withDefault id true a.reuseAddress).mapError .raise
  let _ ← (withDefault id true a.reusePort).mapError .raise
  if a.ssl then throw (.raise (.ofMsg sslError "ssl argument is not supported yet"))
  match host with
  | none => throw (.panic unwrapNone)
  | some host => pure (createServer (resolve host.lossy (port.getD 0) family flags))

/-- `TokioEventLoop.create_server`. -/
def TokioEventLoop.createServer (a : ServerArgs)
    (resolve : String → Int → Int → Int → Option (List (AddrInfo × SocketResults))) :
    Except Failure (Except PyErr TokioServer × List SocketEvent) :=
  createServerWith .typeError a resolve

/-- `TokioEventLoop.create_http_server`. -/
def TokioEventLoop.createHttpServer (a : ServerArgs)
    (resolve : String → Int → Int → Int → Option (List (AddrInfo × SocketResults))) :
    Except Failure (Except PyErr TokioServer × List SocketEvent) :=
  createServerWith .valueError a resolve

end PyTokio
