-- SUMMARY: The TcpTransport future of transport.rs: its fields, the read loop, the write loop, the flush, and one call of `poll`, with a spec lemma for each part.
import PyTokio.Transport.Framed

/-!
# `TcpTransport::poll`

One call of `poll` runs three parts in order.

* The read loop, unless end of stream was seen: every frame goes to `data_received`, until
  the framed stream is not ready, ends (then `incoming_eof` is set for good) or fails.
* The write loop: take the held-back buffer `buf`, or else the next intake message, and
  `start_send` it; a `Close` message ends the task at once with `Ready(())`; an item the sink
  hands back is held in `buf` and the loop stops.
* The flush: unless `flushed`, `poll_complete`, and `flushed` records whether it answered
  `Ready`. The poll then answers `NotReady`.

`poll` is modelled with the chunks it hands to `data_received`, and it returns the
transport's state whatever the outcome, so that what a failed poll delivered stays visible.
-/

namespace PyTokio

/-- `TcpTransportMessage`: what `PyTcpTransport.write` and `close` send to the task. -/
inductive TcpTransportMessage
  | bytes (b : Chunk)
  | close
deriving DecidableEq

/-- The chunks of the `Bytes` messages before the first `Close`. -/
@[simp] def bytesBeforeClose : List TcpTransportMessage → List Chunk
  | [] => []
  | .bytes b :: rest => b :: bytesBeforeClose rest
  | .close :: _ => []

theorem bytesBeforeClose_append {pre : List TcpTransportMessage} (h : .close ∉ pre)
    (rest : List TcpTransportMessage) :
    bytesBeforeClose (pre ++ rest) = bytesBeforeClose pre ++ bytesBeforeClose rest := by
  induction pre with
  | nil => rfl
  | cons m pre ih => cases m <;> simp_all [bytesBeforeClose]

/-- The fields of `TcpTransport` the read loop works on: the framed reader, the socket's
coming reads, and `incoming_eof`. -/
structure TcpTransport.ReadHalf where
  reader : FramedRead
  inbound : List ReadEvent
  incomingEof : Bool

/-- The fields of `TcpTransport` the write loop and the flush work on: the framed sink, the
messages waiting in `intake`, `buf` and `flushed`. -/
structure TcpTransport.WriteHalf where
  sink : Sink
  intake : List TcpTransportMessage
  buf : Option Chunk
  flushed : Bool

/-- `struct TcpTransport`, its fields grouped by the part of `poll` that touches them. -/
structure TcpTransport where
  rd : TcpTransport.ReadHalf
  wr : TcpTransport.WriteHalf

namespace TcpTransport

/-- `TcpTransport::new` on a socket that will read `inbound` and whose write half answers
from `sendAnswers` and `completeAnswers`. -/
def new (inbound : List ReadEvent) (sendAnswers : List SendAnswer)
    (completeAnswers : List CompleteAnswer) : TcpTransport :=
  ⟨⟨FramedRead.init, inbound, false⟩, ⟨⟨sendAnswers, completeAnswers, []⟩, [], none, false⟩⟩

/-! ## Reading -/

/-- How the read loop stops. -/
inductive ReadExit
  | notReady
  | eof
  | error (e : IoError)

theorem decodeStep_frame {fr fr' : FramedRead} {bytes : Chunk}
    (h : fr.decodeStep TcpTransportCodec.decode = .inl (.ok (.ready (some bytes)), fr')) :
    fr'.buffer = [] ∧ fr.buffer ≠ [] := by
  obtain ⟨_ | ⟨b, bs⟩, _ | _, _ | _, log⟩ := fr <;>
    simp [FramedRead.decodeStep, decodeEof, TcpTransportCodec.decode] at h ⊢ <;>
    exact h.2 ▸ rfl

/-- A frame leaves the buffer of a `TcpTransportCodec` reader empty, and was either read
from the socket or was waiting in the buffer. -/
theorem poll_frame_measure {fr fr' : FramedRead} {inbound inbound' : List ReadEvent}
    {bytes : Chunk}
    (h : fr.poll TcpTransportCodec.decode inbound = (.ok (.ready (some bytes)), fr', inbound')) :
    fr'.buffer = [] ∧ (inbound'.length < inbound.length ∨ (inbound' = inbound ∧ fr.buffer ≠ [])) := by
  induction inbound generalizing fr with
  | nil =>
    rcases hd : fr.decodeStep TcpTransportCodec.decode with ⟨r, fr₁⟩ | fr₁ <;>
      simp only [FramedRead.poll, hd, Prod.mk.injEq, Except.ok.injEq, reduceCtorEq,
        false_and] at h
    obtain ⟨rfl, rfl, rfl⟩ := h
    exact ⟨(decodeStep_frame hd).1, .inr ⟨rfl, (decodeStep_frame hd).2⟩⟩
  | cons event rest ih =>
    rcases hd : fr.decodeStep TcpTransportCodec.decode with ⟨r, fr₁⟩ | fr₁
    · simp only [FramedRead.poll, hd, Prod.mk.injEq] at h
      obtain ⟨rfl, rfl, rfl⟩ := h
      exact ⟨(decodeStep_frame hd).1, .inr ⟨rfl, (decodeStep_frame hd).2⟩⟩
    · rcases event with b | _ | e <;>
        simp only [FramedRead.poll, hd, Prod.mk.injEq, Except.ok.injEq, reduceCtorEq,
          false_and] at h
      obtain ⟨hb, hlt⟩ := ih h
      refine ⟨hb, .inl ?_⟩
      rcases hlt with hlt | ⟨rfl, -⟩ <;> simp only [List.length_cons] <;> omega

/-- The read loop of `TcpTransport::poll`: hand each frame of the framed stream to
`data_received` and go on, until the stream is not ready, ends or fails. Returns the frames
handed over, in order. -/
def readLoop (fr : FramedRead) (inbound : List ReadEvent) :
    ReadExit × FramedRead × List ReadEvent × List Chunk :=
  match h : fr.poll TcpTransportCodec.decode inbound with
  | (.ok (.ready (some bytes)), fr', inbound') =>
    let (exit, fr'', inbound'', frames) := readLoop fr' inbound'
    (exit, fr'', inbound'', bytes :: frames)
  | (.ok (.ready none), fr', inbound') => (.eof, fr', inbound', [])
  | (.ok .notReady, fr', inbound') => (.notReady, fr', inbound', [])
  | (.error e, fr', inbound') => (.error e, fr', inbound', [])
termination_by 2 * inbound.length + (if fr.buffer = [] then 0 else 1)
decreasing_by
  obtain ⟨hb, hlt | ⟨rfl, hne⟩⟩ := poll_frame_measure h
  · simp only [hb, if_true]; split <;> omega
  · simp only [hb, if_true, hne, if_false]; omega

theorem readLoop_eq (fr : FramedRead) (inbound : List ReadEvent) :
    readLoop fr inbound =
      match fr.poll TcpTransportCodec.decode inbound with
      | (.ok (.ready (some bytes)), fr', inbound') =>
        let (exit, fr'', inbound'', frames) := readLoop fr' inbound'
        (exit, fr'', inbound'', bytes :: frames)
      | (.ok (.ready none), fr', inbound') => (.eof, fr', inbound', [])
      | (.ok .notReady, fr', inbound') => (.notReady, fr', inbound', [])
      | (.error e, fr', inbound') => (.error e, fr', inbound', []) := by
  rw [readLoop]
  split <;> next h => simp only [h]

/-- The read loop from rest, before end of stream: it hands over non-empty frames whose
bytes are exactly the bytes it read, and it stops at end of stream exactly when it read the
end of the stream. -/
theorem readLoop_spec {fr fr' : FramedRead} {inbound inbound' : List ReadEvent}
    {exit : ReadExit} {frames : List Chunk} (hr : fr.AtRest) (he : fr.eof = false)
    (h : readLoop fr inbound = (exit, fr', inbound', frames)) :
    fr'.AtRest ∧ (∀ x ∈ frames, x ≠ []) ∧
    bytesRead fr'.log = bytesRead fr.log ++ frames.flatten ∧
    (fr'.eof = true ↔ exit = .eof) ∧
    (.ready [] ∈ fr'.log ↔ .ready [] ∈ fr.log ∨ exit = .eof) := by
  induction fr, inbound using readLoop.induct generalizing exit fr' inbound' frames with
  | case1 fr inbound bytes fr₁ inbound₁ hp exit₁ fr₂ inbound₂ frames₁ hl ih =>
    rw [readLoop_eq, hp] at h
    simp only [hl, Prod.mk.injEq] at h
    obtain ⟨rfl, rfl, rfl, rfl⟩ := h
    rw [FramedRead.poll_eq_pollEmpty hr] at hp
    obtain ⟨hb, hne, heof, hmem⟩ := FramedRead.pollEmpty_spec he hp
    have hr₁ := FramedRead.pollEmpty_atRest hr inbound
    rw [hp] at hr₁
    have he₁ : fr₁.eof = false := by simpa using heof
    obtain ⟨hr₂, hne₂, hb₂, heof₂, hmem₂⟩ := ih hr₁ he₁ hl
    refine ⟨hr₂, ?_, ?_, heof₂, ?_⟩
    · simpa [hne _ rfl] using hne₂
    · simp [hb₂, hb, frameOf]
    · simp [hmem₂, hmem]
  | case2 fr inbound fr₁ inbound₁ hp | case3 fr inbound fr₁ inbound₁ hp
  | case4 fr inbound _ fr₁ inbound₁ hp =>
    rw [readLoop_eq, hp] at h
    simp only [Prod.mk.injEq] at h
    obtain ⟨rfl, rfl, rfl, rfl⟩ := h
    rw [FramedRead.poll_eq_pollEmpty hr] at hp
    have hr₁ := FramedRead.pollEmpty_atRest hr inbound
    rw [hp] at hr₁
    obtain ⟨hb, -, heof, hmem⟩ := FramedRead.pollEmpty_spec he hp
    simp_all [frameOf]

/-- The read part of `poll`: the read loop, unless end of stream was seen; a read loop that
stops at end of stream sets `incoming_eof`. -/
def readPart (r : ReadHalf) : Except IoError Unit × ReadHalf × List Chunk :=
  if r.incomingEof then (.ok (), r, [])
  else
    match readLoop r.reader r.inbound with
    | (.notReady, reader, inbound, frames) => (.ok (), ⟨reader, inbound, false⟩, frames)
    | (.eof, reader, inbound, frames) => (.ok (), ⟨reader, inbound, true⟩, frames)
    | (.error e, reader, inbound, frames) => (.error e, ⟨reader, inbound, false⟩, frames)

/-- The read half between two polls: the reader at rest, its end-of-stream flag equal to
`incoming_eof`, and both set exactly when a read returned end of stream. -/
def ReadHalf.Inv (r : ReadHalf) : Prop :=
  r.reader.AtRest ∧ r.reader.eof = r.incomingEof ∧ (r.incomingEof = true ↔ .ready [] ∈ r.reader.log)

theorem ReadHalf.inv_new (inbound : List ReadEvent) :
    ReadHalf.Inv ⟨FramedRead.init, inbound, false⟩ :=
  ⟨FramedRead.atRest_init, rfl, by simp [FramedRead.init]⟩

/-- After end of stream the read part does nothing: the framed stream is not polled. -/
theorem readPart_of_incomingEof {r : ReadHalf} (h : r.incomingEof = true) :
    readPart r = (.ok (), r, []) := by
  simp [readPart, h]

/-- The read part keeps the invariant and hands over non-empty frames whose bytes are
exactly the bytes it read. -/
theorem readPart_spec {r r' : ReadHalf} {res : Except IoError Unit} {frames : List Chunk}
    (hi : r.Inv) (h : readPart r = (res, r', frames)) :
    r'.Inv ∧ (∀ x ∈ frames, x ≠ []) ∧
    bytesRead r'.reader.log = bytesRead r.reader.log ++ frames.flatten := by
  obtain ⟨hr, he, hmem⟩ := hi
  cases hin : r.incomingEof
  · rcases hl : readLoop r.reader r.inbound with ⟨exit, reader, inbound, frames'⟩
    obtain ⟨hr', hne, hb, heof, hmem'⟩ := readLoop_spec hr (he.trans hin) hl
    have hnot : .ready [] ∉ r.reader.log := by simpa [hin] using hmem
    rcases exit with _ | _ | e <;>
      simp only [readPart, hin, hl, Bool.false_eq_true, if_false, Prod.mk.injEq] at h <;>
      obtain ⟨rfl, rfl, rfl⟩ := h <;> simp_all [ReadHalf.Inv]
  · rw [readPart_of_incomingEof hin] at h
    obtain ⟨rfl, rfl, rfl⟩ := h
    exact ⟨⟨hr, he, hmem⟩, by simp, by simp⟩

/-! ## Writing -/

/-- What the write loop takes next. -/
inductive Taken
  | bytes (b : Chunk)
  | close
  | nothing

/-- The head of the write loop's body: `buf.take()`, or else `intake.poll()`. -/
def takeNext (w : WriteHalf) : Taken × WriteHalf :=
  match w.buf, w.intake with
  | some bytes, _ => (.bytes bytes, { w with buf := none })
  | none, .bytes bytes :: rest => (.bytes bytes, { w with intake := rest })
  | none, .close :: rest => (.close, { w with intake := rest })
  | none, [] => (.nothing, w)

/-- The work left to the write loop: the intake queue, and the held-back buffer. -/
def writeMeasure (w : WriteHalf) : Nat := w.intake.length + if w.buf.isSome then 1 else 0

theorem takeNext_bytes_measure {w w' : WriteHalf} {bytes : Chunk}
    (h : takeNext w = (.bytes bytes, w')) : writeMeasure w' < writeMeasure w := by
  unfold takeNext at h
  split at h <;> simp only [Prod.mk.injEq, reduceCtorEq, false_and] at h <;>
    obtain ⟨-, rfl⟩ := h <;> simp_all [writeMeasure]

/-- How the write loop stops: nothing more to send now, a `Close` message, or an error. -/
inductive WriteExit
  | idle
  | close
  | error (e : IoError)

/-- The error the write loop reports when `start_send` fails. -/
def closedError : IoError := ⟨.other, "Closed", none⟩

/-- The write loop of `TcpTransport::poll`. Each item taken clears `flushed` before
`start_send`; an item the sink hands back is held in `buf` and ends the loop. -/
def writeLoop (w : WriteHalf) : WriteExit × WriteHalf :=
  match h : takeNext w with
  | (.close, w') => (.close, w')
  | (.nothing, w') => (.idle, w')
  | (.bytes bytes, w') =>
    match w'.sink.startSend bytes with
    | (.notReady, sink) => (.idle, { w' with sink, flushed := false, buf := some bytes })
    | (.ready, sink) => writeLoop { w' with sink, flushed := false }
    | (.error, sink) => (.error closedError, { w' with sink, flushed := false })
termination_by writeMeasure w
decreasing_by
  have := takeNext_bytes_measure h
  simp only [writeMeasure] at this ⊢
  exact this

theorem writeLoop_eq (w : WriteHalf) :
    writeLoop w =
      match takeNext w with
      | (.close, w') => (.close, w')
      | (.nothing, w') => (.idle, w')
      | (.bytes bytes, w') =>
        match w'.sink.startSend bytes with
        | (.notReady, sink) => (.idle, { w' with sink, flushed := false, buf := some bytes })
        | (.ready, sink) => writeLoop { w' with sink, flushed := false }
        | (.error, sink) => (.error closedError, { w' with sink, flushed := false }) := by
  rw [writeLoop]
  split <;> next h => simp only [h]

/-- What the write loop has taken from `intake` and still holds: the items the sink
accepted, then the item held back in `buf`. -/
def WriteHalf.drained (w : WriteHalf) : List Chunk := accepted w.sink.log ++ w.buf.toList

theorem takeNext_bytes {w w₁ : WriteHalf} {b : Chunk} (h : takeNext w = (.bytes b, w₁)) :
    w₁.sink = w.sink ∧ w₁.buf = none ∧ ∃ taken, w.intake = taken ++ w₁.intake ∧
      .close ∉ taken ∧ w.buf.toList ++ bytesBeforeClose taken = [b] := by
  unfold takeNext at h
  split at h <;> simp only [Prod.mk.injEq, reduceCtorEq, false_and, Taken.bytes.injEq] at h <;>
    obtain ⟨rfl, rfl⟩ := h
  · exact ⟨rfl, rfl, [], rfl, by simp, by simp_all⟩
  · rename_i bytes rest _ _
    exact ⟨rfl, by simp_all, [.bytes bytes], by simp_all, by simp, by simp_all⟩

theorem takeNext_close {w w₁ : WriteHalf} (h : takeNext w = (.close, w₁)) :
    w₁.sink = w.sink ∧ w₁.buf = none ∧ w₁.flushed = w.flushed ∧ w.buf = none ∧
      w.intake = .close :: w₁.intake := by
  unfold takeNext at h
  split at h <;> simp only [Prod.mk.injEq, reduceCtorEq, false_and, true_and] at h
  subst h
  simp_all

theorem takeNext_nothing {w w₁ : WriteHalf} (h : takeNext w = (.nothing, w₁)) :
    w₁ = w ∧ w.buf = none ∧ w.intake = [] := by
  unfold takeNext at h
  split at h <;> simp only [Prod.mk.injEq, reduceCtorEq, false_and, true_and] at h
  exact ⟨h.symm, by assumption, by assumption⟩

/-- The write loop moves `buf` and then the intake's `Bytes` into the sink, in order, losing
none: when it stops for want of work or of sink capacity, what it took is held in the sink or
in `buf`; when it stops at a `Close`, everything before the `Close` is in the sink. It leaves
`flushed` set only if it sent nothing. -/
theorem writeLoop_spec {w w' : WriteHalf} {exit : WriteExit} (h : writeLoop w = (exit, w')) :
    (exit = .idle → ∃ taken, w.intake = taken ++ w'.intake ∧ .close ∉ taken ∧
      w'.drained = w.drained ++ bytesBeforeClose taken) ∧
    (exit = .close → ∃ taken, w.intake = taken ++ .close :: w'.intake ∧ .close ∉ taken ∧
      accepted w'.sink.log = w.drained ++ bytesBeforeClose taken ∧ w'.buf = none) ∧
    (w'.flushed = true → w'.sink.log = w.sink.log ∧ w.flushed = true) := by
  induction w using writeLoop.induct generalizing exit w' with
  | case1 w w₁ ht =>
    rw [writeLoop_eq, ht] at h
    obtain ⟨rfl, rfl⟩ := Prod.mk.inj h
    obtain ⟨hs, hb, hf, hbuf, hin⟩ := takeNext_close ht
    refine ⟨nofun, fun _ => ⟨[], by simp [hin], by simp, ?_, hb⟩, fun h => ⟨by rw [hs], hf ▸ h⟩⟩
    simp [WriteHalf.drained, hs, hbuf]
  | case2 w w₁ ht =>
    rw [writeLoop_eq, ht] at h
    obtain ⟨rfl, rfl⟩ := Prod.mk.inj h
    obtain ⟨rfl, -, hin⟩ := takeNext_nothing ht
    exact ⟨fun _ => ⟨[], by simp, by simp, by simp [bytesBeforeClose]⟩, nofun, fun h => ⟨rfl, h⟩⟩
  | case3 w b w₁ ht sink hs =>
    rw [writeLoop_eq, ht] at h
    simp only [hs, Prod.mk.injEq] at h
    obtain ⟨rfl, rfl⟩ := h
    obtain ⟨hs₁, -, taken, hin, hc, hb⟩ := takeNext_bytes ht
    refine ⟨fun _ => ⟨taken, hin, hc, ?_⟩, nofun, nofun⟩
    simp [WriteHalf.drained, Sink.startSend_log hs, hs₁, ← hb]
  | case4 w b w₁ ht sink hs ih =>
    rw [writeLoop_eq, ht] at h
    simp only [hs] at h
    obtain ⟨hi, hc', hf⟩ := ih h
    dsimp only at hi hc' hf
    obtain ⟨hs₁, hb₁, taken, hin, hc, hb⟩ := takeNext_bytes ht
    have hd : WriteHalf.drained { w₁ with sink, flushed := false } = w.drained ++ bytesBeforeClose taken := by
      simp [WriteHalf.drained, Sink.startSend_log hs, hs₁, hb₁, ← hb]
    refine ⟨fun he => ?_, fun he => ?_, fun hf' => absurd (hf hf').2 Bool.false_ne_true⟩
    · obtain ⟨taken', hin', hc'', hd'⟩ := hi he
      refine ⟨taken ++ taken', by simp [hin, hin'], by simp [hc, hc''], ?_⟩
      rw [hd', hd, bytesBeforeClose_append hc, List.append_assoc]
    · obtain ⟨taken', hin', hc'', ha, hb'⟩ := hc' he
      refine ⟨taken ++ taken', by simp [hin, hin'], by simp [hc, hc''], ?_, hb'⟩
      rw [ha, hd, bytesBeforeClose_append hc, List.append_assoc]
  | case5 w b w₁ ht sink hs =>
    rw [writeLoop_eq, ht] at h
    simp only [hs, Prod.mk.injEq] at h
    obtain ⟨rfl, rfl⟩ := h
    exact ⟨nofun, nofun, nofun⟩

/-! ## `poll` -/

/-- The flush at the end of `poll`: unless `flushed`, `poll_complete`, whose answer sets
`flushed`; an error ends the poll. -/
def flush (w : WriteHalf) : Except IoError Unit × WriteHalf :=
  if w.flushed then (.ok (), w)
  else
    match w.sink.pollComplete with
    | (.ready, sink) => (.ok (), { w with sink, flushed := true })
    | (.notReady, sink) => (.ok (), { w with sink, flushed := false })
    | (.error e, sink) => (.error e, { w with sink })

/-- `TcpTransport::poll`, with the chunks it handed to `data_received`. -/
def poll (t : TcpTransport) : Except IoError (Async Unit) × TcpTransport × List Chunk :=
  match readPart t.rd with
  | (.error e, rd, frames) => (.error e, ⟨rd, t.wr⟩, frames)
  | (.ok (), rd, frames) =>
    match writeLoop t.wr with
    | (.close, wr) => (.ok (.ready ()), ⟨rd, wr⟩, frames)
    | (.error e, wr) => (.error e, ⟨rd, wr⟩, frames)
    | (.idle, wr) =>
      match flush wr with
      | (.ok (), wr) => (.ok .notReady, ⟨rd, wr⟩, frames)
      | (.error e, wr) => (.error e, ⟨rd, wr⟩, frames)

/-- The flush keeps what the write loop drained, and sets `flushed` only on a `Ready` from
`poll_complete`. -/
theorem flush_spec {w w' : WriteHalf} {res : Except IoError Unit} (h : flush w = (res, w')) :
    w'.intake = w.intake ∧ w'.drained = w.drained ∧
    ((w.flushed = true → flushedSinceAccept w.sink.log) →
      w'.flushed = true → flushedSinceAccept w'.sink.log) := by
  unfold flush at h
  split at h
  · obtain ⟨rfl, rfl⟩ := Prod.mk.inj h
    exact ⟨rfl, rfl, id⟩
  · rcases hp : w.sink.pollComplete with ⟨_ | _ | e, sink⟩ <;>
      simp only [hp, Prod.mk.injEq] at h <;> obtain ⟨rfl, rfl⟩ := h <;>
      simp_all [WriteHalf.drained, Sink.pollComplete_log hp, flushedSinceAccept]

/-- Whatever `poll` answers, its read half and the frames it handed over come from the read
part. -/
theorem poll_readPart {t t' : TcpTransport} {res : Except IoError (Async Unit)}
    {frames : List Chunk} (h : t.poll = (res, t', frames)) :
    ∃ r, readPart t.rd = (r, t'.rd, frames) := by
  unfold poll at h
  repeat' split at h
  all_goals simp only [Prod.mk.injEq] at h; obtain ⟨-, rfl, rfl⟩ := h; exact ⟨_, by assumption⟩

/-- A `poll` that answers `NotReady` ran the write loop to a stop and then the flush. -/
theorem poll_notReady {t t' : TcpTransport} {frames : List Chunk}
    (h : t.poll = (.ok .notReady, t', frames)) :
    ∃ w, writeLoop t.wr = (.idle, w) ∧ flush w = (.ok (), t'.wr) := by
  unfold poll at h
  repeat' split at h
  all_goals simp only [Prod.mk.injEq, Except.ok.injEq, reduceCtorEq, false_and, true_and] at h
  obtain ⟨rfl, rfl⟩ := h
  exact ⟨_, by assumption, by assumption⟩

/-- A `poll` that answers `Ready(())` stopped its write loop at a `Close`. -/
theorem poll_ready {t t' : TcpTransport} {frames : List Chunk}
    (h : t.poll = (.ok (.ready ()), t', frames)) : writeLoop t.wr = (.close, t'.wr) := by
  unfold poll at h
  repeat' split at h
  all_goals simp only [Prod.mk.injEq, Except.ok.injEq, reduceCtorEq, false_and, true_and] at h
  obtain ⟨rfl, rfl⟩ := h
  assumption

end TcpTransport

end PyTokio
