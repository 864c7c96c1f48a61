-- SUMMARY: The socket under a TcpTransport: the framed reader of tokio-io with TcpTransportCodec, and the write half seen through the futures Sink contract.
import PyTokio.Utils

/-!
# The framed socket

`TcpTransport` reads and writes its socket through `socket.framed(TcpTransportCodec)`. The
framed stream is library code (tokio-io 0.1); it is modelled here as that library runs it,
with the socket's answers as an explicit list.

* The read half is `FramedRead2::poll`: decode from the read buffer while it is readable,
  otherwise `read_buf` once more, and at end of stream hand the rest to `decode_eof`.
  `TcpTransportCodec::decode` takes the whole buffer whenever it is not empty, so between
  two polls the buffer is always empty and `decode_eof` never finds bytes left over.
* The write half is what the transport may assume of any `Sink`: `start_send` accepts an
  item or hands it back, and `poll_complete` reports whether every accepted item has reached
  the socket. How each call ends is the sink's choice, read from a list; an exhausted list
  answers `Ready`.
-/

namespace PyTokio

/-- `futures::Async`: a poll either produced a value or has to wait. -/
inductive Async (α : Type)
  | ready (a : α)
  | notReady
deriving DecidableEq

/-- A run of bytes: `Bytes` or `PyBytes`. -/
abbrev Chunk := List UInt8

/-- The `io::ErrorKind`s the transport tells apart when it reports a lost connection. -/
inductive ErrorKind
  | timedOut
  | brokenPipe
  | connectionRefused
  | connectionAborted
  | connectionReset
  | interrupted
  | other
deriving DecidableEq

/-- `io::Error`: its kind, its description, and the OS error code it carries (`raw_os_error`),
`none` for an error the code or a library makes. -/
structure IoError where
  kind : ErrorKind
  desc : String
  rawOsError : Option Int
deriving DecidableEq

/-! ## Reading -/

/-- How one `read_buf` on the socket ends: `Ready(n)` with the `n` bytes read (none at end of
stream), `NotReady`, or an error. -/
inductive ReadEvent
  | ready (bytes : Chunk)
  | notReady
  | error (e : IoError)
deriving DecidableEq

/-- The bytes a read returned. -/
def ReadEvent.bytes : ReadEvent → Chunk
  | .ready bytes => bytes
  | _ => []

/-- The bytes a sequence of reads returned, in order. -/
def bytesRead (events : List ReadEvent) : Chunk := (events.map ReadEvent.bytes).flatten

@[simp] theorem bytesRead_nil : bytesRead [] = [] := rfl

@[simp] theorem bytesRead_append (a b : List ReadEvent) :
    bytesRead (a ++ b) = bytesRead a ++ bytesRead b := by
  simp [bytesRead]

@[simp] theorem bytesRead_singleton (e : ReadEvent) : bytesRead [e] = e.bytes := by
  simp [bytesRead]

/-- `Decoder::decode`: a frame, if the buffer holds one, and what is left of the buffer. -/
abbrev Decoder := List UInt8 → Option Chunk × List UInt8

/-- `TcpTransportCodec::decode`: any bytes at all make one frame. -/
def TcpTransportCodec.decode : Decoder := fun src =>
  if src.isEmpty then (none, src) else (some src, [])

/-- `Decoder::decode_eof`, the default method: decode once more, and fail if bytes remain. -/
def decodeEof (decode : Decoder) (src : List UInt8) :
    Except IoError (Option Chunk × List UInt8) :=
  match decode src with
  | (some frame, rest) => .ok (some frame, rest)
  | (none, rest) =>
    if rest.isEmpty then .ok (none, rest) else .error ⟨.other, "bytes remaining on stream", none⟩

/-- The read half of `Framed`: the read buffer and the two flags of `FramedRead2`, and the
results of every `read_buf` so far, oldest first. -/
structure FramedRead where
  buffer : List UInt8
  isReadable : Bool
  eof : Bool
  log : List ReadEvent

/-- A fresh reader, as `socket.framed(codec)` builds it. -/
def FramedRead.init : FramedRead := ⟨[], false, false, []⟩

/-- The part of the loop body of `FramedRead2::poll` that does no I/O: on a readable buffer,
`decode_eof` at end of stream and `decode` otherwise. Either the poll ends with a result
(`inl`), or it has to read (`inr`, the buffer no longer readable). -/
def FramedRead.decodeStep (decode : Decoder) (fr : FramedRead) :
    (Except IoError (Async (Option Chunk)) × FramedRead) ⊕ FramedRead :=
  if fr.isReadable then
    if fr.eof then
      match decodeEof decode fr.buffer with
      | .ok (frame, buffer) => .inl (.ok (.ready frame), { fr with buffer })
      | .error e => .inl (.error e, fr)
    else
      match decode fr.buffer with
      | (some frame, buffer) => .inl (.ok (.ready (some frame)), { fr with buffer })
      | (none, buffer) => .inr { fr with buffer, isReadable := false }
  else .inr fr

/-- `FramedRead2::poll` (`Stream::poll` of the framed socket) on the socket's coming reads
`inbound`; returns what is left of them. After `decodeStep` asks for more, `read_buf` once,
mark the buffer readable and go around; a read of no bytes is end of stream. The
`assert!(!eof)` before reading holds: `eof` is only ever set together with `is_readable`. -/
def FramedRead.poll (decode : Decoder) :
    FramedRead → List ReadEvent → Except IoError (Async (Option Chunk)) × FramedRead × List ReadEvent
  | fr, [] =>
    match fr.decodeStep decode with
    | .inl (result, fr) => (result, fr, [])
    | .inr fr => (.ok .notReady, fr, [])
  | fr, event :: rest =>
    match fr.decodeStep decode with
    | .inl (result, fr) => (result, fr, event :: rest)
    | .inr fr =>
      match event with
      | .notReady => (.ok .notReady, { fr with log := fr.log ++ [.notReady] }, rest)
      | .error e => (.error e, { fr with log := fr.log ++ [.error e] }, rest)
      | .ready bytes =>
        FramedRead.poll decode
          { buffer := fr.buffer ++ bytes, isReadable := true, eof := fr.eof || bytes.isEmpty,
            log := fr.log ++ [.ready bytes] } rest

/-- `FramedRead.poll` with `TcpTransportCodec` on an empty buffer, worked out: at end of
stream `None` again, otherwise one read, and the bytes it returns are the frame. -/
def FramedRead.pollEmpty (fr : FramedRead) (inbound : List ReadEvent) :
    Except IoError (Async (Option Chunk)) × FramedRead × List ReadEvent :=
  if fr.isReadable ∧ fr.eof then (.ok (.ready none), fr, inbound)
  else
    match inbound with
    | [] => (.ok .notReady, { fr with isReadable := false }, [])
    | .notReady :: rest =>
      (.ok .notReady, { fr with isReadable := false, log := fr.log ++ [.notReady] }, rest)
    | .error e :: rest =>
      (.error e, { fr with isReadable := false, log := fr.log ++ [.error e] }, rest)
    | .ready bytes :: rest =>
      (.ok (.ready (if bytes.isEmpty then none else some bytes)),
        { fr with isReadable := true, eof := bytes.isEmpty, log := fr.log ++ [.ready bytes] },
        rest)

/-- A reader at rest between two polls: its buffer is empty, and end of stream left it
readable. -/
def FramedRead.AtRest (fr : FramedRead) : Prop := fr.buffer = [] ∧ (fr.eof → fr.isReadable)

theorem FramedRead.atRest_init : FramedRead.init.AtRest := ⟨rfl, nofun⟩

/-- With `TcpTransportCodec`, a poll from rest is `pollEmpty`. -/
theorem FramedRead.poll_eq_pollEmpty {fr : FramedRead} (h : fr.AtRest) (inbound : List ReadEvent) :
    fr.poll TcpTransportCodec.decode inbound = fr.pollEmpty inbound := by
  obtain ⟨fr_buffer, fr_isReadable, fr_eof, fr_log⟩ := fr
  obtain ⟨rfl, he⟩ := h
  cases fr_isReadable <;> cases fr_eof
  case false.true => exact absurd (he rfl) Bool.false_ne_true
  all_goals
    rcases inbound with _ | ⟨bytes | _ | _, rest⟩
    all_goals first
      | rfl
      | (by_cases hbytes : bytes = [] <;> rcases rest with _ | ⟨_, _⟩ <;>
          simp [poll, pollEmpty, decodeStep, decodeEof, TcpTransportCodec.decode, hbytes])

theorem FramedRead.pollEmpty_atRest {fr : FramedRead} (h : fr.AtRest) (inbound : List ReadEvent) :
    (fr.pollEmpty inbound).2.1.AtRest := by
  obtain ⟨hb, he⟩ := h
  unfold pollEmpty
  split
  · exact ⟨hb, he⟩
  · have : fr.eof = false := by cases hf : fr.eof <;> simp_all
    split <;> exact ⟨hb, by simp [this]⟩

/-- The frame a poll produced, if it produced one. -/
def frameOf : Except IoError (Async (Option Chunk)) → Chunk
  | .ok (.ready (some frame)) => frame
  | _ => []

/-- One poll from rest, before end of stream: the frame is exactly the bytes read and never
empty, and the reader is at end of stream exactly when the poll reports it. -/
theorem FramedRead.pollEmpty_spec {fr fr' : FramedRead} {inbound inbound' : List ReadEvent}
    {r : Except IoError (Async (Option Chunk))} (he : fr.eof = false)
    (h : fr.pollEmpty inbound = (r, fr', inbound')) :
    bytesRead fr'.log = bytesRead fr.log ++ frameOf r ∧
    (∀ frame, r = .ok (.ready (some frame)) → frame ≠ []) ∧
    (fr'.eof = true ↔ r = .ok (.ready none)) ∧
    (.ready [] ∈ fr'.log ↔ .ready [] ∈ fr.log ∨ r = .ok (.ready none)) := by
  simp only [pollEmpty, he, and_false, if_false, Bool.false_eq_true] at h
  rcases inbound with _ | ⟨bytes | _ | e, rest⟩ <;>
    simp only [Prod.mk.injEq] at h <;> obtain ⟨rfl, rfl, rfl⟩ := h
  case cons.ready => by_cases hb : bytes = [] <;> simp [frameOf, hb, ReadEvent.bytes]
  all_goals simp [frameOf, he, ReadEvent.bytes]

/-! ## Writing -/

/-- How `start_send` ends: the item accepted (`Ready`), handed back (`NotReady(item)`), or
an error. -/
inductive SendAnswer
  | ready
  | notReady
  | error
deriving DecidableEq

/-- How `poll_complete` ends: everything accepted is on the socket, not yet, or an error. -/
inductive CompleteAnswer
  | ready
  | notReady
  | error (e : IoError)
deriving DecidableEq

/-- A call the transport made on the sink, with the sink's answer. -/
inductive SinkCall
  | startSend (item : Chunk) (answer : SendAnswer)
  | pollComplete (answer : CompleteAnswer)
deriving DecidableEq

/-- The write half of `Framed` under the `Sink` contract: how the sink answers its coming
calls, and the calls made so far, newest first. -/
structure Sink where
  sendAnswers : List SendAnswer
  completeAnswers : List CompleteAnswer
  log : List SinkCall

namespace Sink

/-- `start_send(item)`. -/
def startSend (s : Sink) (item : Chunk) : SendAnswer × Sink :=
  let answer := s.sendAnswers.headD .ready
  (answer, { s with sendAnswers := s.sendAnswers.tail, log := .startSend item answer :: s.log })

/-- `poll_complete()`. -/
def pollComplete (s : Sink) : CompleteAnswer × Sink :=
  let answer := s.completeAnswers.headD .ready
  (answer, { s with completeAnswers := s.completeAnswers.tail, log := .pollComplete answer :: s.log })

theorem startSend_log {s s' : Sink} {item : Chunk} {a : SendAnswer}
    (h : s.startSend item = (a, s')) : s'.log = .startSend item a :: s.log := by
  simp only [startSend, Prod.mk.injEq] at h
  obtain ⟨rfl, rfl⟩ := h
  rfl

theorem pollComplete_log {s s' : Sink} {a : CompleteAnswer}
    (h : s.pollComplete = (a, s')) : s'.log = .pollComplete a :: s.log := by
  simp only [pollComplete, Prod.mk.injEq] at h
  obtain ⟨rfl, rfl⟩ := h
  rfl

end Sink

/-- The items `start_send` accepted, oldest first. -/
def accepted : List SinkCall → List Chunk
  | [] => []
  | .startSend item .ready :: log => accepted log ++ [item]
  | _ :: log => accepted log

/-- The accepted items a later `poll_complete` confirmed: by the `Sink` contract these are
on the socket, and for a sink that writes only in `poll_complete` they are all that is. -/
def confirmed : List SinkCall → List Chunk
  | [] => []
  | .pollComplete .ready :: log => accepted log
  | _ :: log => confirmed log

/-- `poll_complete` has returned `Ready` since `start_send` last accepted an item. -/
def flushedSinceAccept : List SinkCall → Bool
  | [] => true
  | .pollComplete .ready :: _ => true
  | .startSend _ .ready :: _ => false
  | _ :: log => flushedSinceAccept log

@[simp] theorem accepted_startSend (item : Chunk) (a : SendAnswer) (log : List SinkCall) :
    accepted (.startSend item a :: log) = if a = .ready then accepted log ++ [item] else accepted log := by
  cases a <;> rfl

@[simp] theorem accepted_pollComplete (a : CompleteAnswer) (log : List SinkCall) :
    accepted (.pollComplete a :: log) = accepted log := rfl

/-- What the sink confirmed is what it accepted, up to some point. -/
theorem confirmed_prefix (log : List SinkCall) : confirmed log <+: accepted log := by
  induction log with
  | nil => exact List.prefix_rfl
  | cons call log ih =>
    rcases call with ⟨item, _ | _ | _⟩ | ⟨_ | _ | e⟩
    all_goals simp only [confirmed, accepted_startSend, accepted_pollComplete, if_true,
      reduceCtorEq, if_false]
    all_goals first | exact List.prefix_rfl | exact ih | exact ih.trans (List.prefix_append _ _)

end PyTokio
