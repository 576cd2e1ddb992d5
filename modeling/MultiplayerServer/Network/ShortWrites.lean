import MultiplayerServer.Network.ConnectionRuns

/-!
# Network/ShortWrites — a write that does not take all of its buffer

`async_write_some` may take any first part of the buffer it is given, and says in
`bytes_transferred` how much.  `handle_send` only logs the number: it drops the whole front of the
queue and goes on with the next payload.

* `nothingLost_iff` — a queue drains onto the wire without loss in exactly the sequences of
  completions that each take the whole buffer.
-/

namespace MultiplayerServer

open Machinery

namespace AsioTcpConnection

/-- The completions of writes without error, each with the bytes the socket accepted. -/
def drains : Machine AsioTcpConnection (WriteOp × Bytes) :=
  completions.comap fun e => .send e.1 (some e.2)

/-- What is outstanding is a write of the front of the queue, and nothing when there is no front:
`is_sending_` lets there be one write at a time. -/
def WritesFront (c : AsioTcpConnection) : Prop :=
  c.writes.map WriteOp.buffer = c.sendBuffer.head?.toList.map some

/-- A write of `front()` is outstanding. -/
structure FrontOutstanding (c : AsioTcpConnection) : Prop where
  queued : c.sendBuffer ≠ []
  front : c.WritesFront

/-- **Nothing is lost**: what the socket accepted, followed by what is still queued, is what was
queued; and the rest of a buffer that was not taken whole is what is written next. -/
structure NothingLost (c : AsioTcpConnection) (es : List (WriteOp × Bytes)) : Prop where
  stream : ∀ c', drains.exec c es = some c' →
    es.flatMap Prod.snd ++ c'.sendBuffer.flatten = c.sendBuffer.flatten
  remainder : drains.Along (fun _ e c' => ∀ b ∈ e.1.buffer, e.2.length < b.length →
    c'.writes.head?.bind WriteOp.buffer = some (b.drop e.2.length)) c es

/-- Parts that make up the whole are the whole, each of them. -/
theorem flatten_eq_flatten_iff {α : Type*} {ds bs : List (List α)}
    (h : List.Forall₂ (· <+: ·) ds bs) : ds.flatten = bs.flatten ↔ ds = bs := by
  refine ⟨fun heq => ?_, fun heq => heq ▸ rfl⟩
  have hlen {ds bs : List (List α)} (h : List.Forall₂ (· <+: ·) ds bs) :
      ds.flatten.length ≤ bs.flatten.length := by
    induction h with
    | nil => exact Nat.le_refl _
    | cons hd _ ih =>
      rw [List.flatten_cons, List.flatten_cons, List.length_append, List.length_append]
      exact Nat.add_le_add hd.length_le ih
  induction h with
  | nil => rfl
  | @cons d b ds bs hd hrest ih =>
    rw [List.flatten_cons, List.flatten_cons] at heq
    have hlength := congrArg List.length heq
    rw [List.length_append, List.length_append] at hlength
    have hle := hlen hrest
    have hfront : d = b := hd.eq_of_length (Nat.le_antisymm hd.length_le (by omega))
    subst hfront
    rw [ih (List.append_cancel_left heq)]

variable {c c' : AsioTcpConnection}

/-- **A completion takes the front off the queue**, and what follows it is written next. -/
theorem WritesFront.step (h : c.WritesFront) {op : WriteOp} {data : Bytes}
    (hstep : drains.step c (op, data) = some c') :
    c'.WritesFront ∧ ∃ b, op.buffer = some b ∧ c.sendBuffer = b :: c'.sendBuffer ∧ data <+: b := by
  have hd : c.complete (.send op (some data)) = some c' := step_completion hstep
  obtain ⟨hmem, htakes, -⟩ := complete_send hd
  have hc := completed hd
  rw [WritesFront] at h
  cases hq : c.sendBuffer with
  | nil =>
    have hnone : c.writes = [] := by simpa [hq] using h
    simp [hnone] at hmem
  | cons b rest =>
    obtain ⟨op', hw, hbuffer⟩ : ∃ op', c.writes = [op'] ∧ op'.buffer = some b := by
      simpa [hq, List.map_eq_singleton_iff] using h
    obtain rfl : op = op' := by simpa [hw] using hmem
    have hrest : c'.sendBuffer = rest := by
      rw [hc.sendBuffer]
      simp [unsent, hq]
    refine ⟨?_, b, hbuffer, by rw [hrest], (htakes b hbuffer).1⟩
    rw [WritesFront, hc.writes, hrest]
    cases rest <;> simp [unsent, hq, hw]

/-- **A sequence of completions takes the buffers it wrote off the queue**, each of them whole and
whatever was taken of it. -/
theorem WritesFront.exec (h : c.WritesFront) {es : List (WriteOp × Bytes)}
    (hexec : drains.exec c es = some c') :
    ∃ bs : List Bytes, c.sendBuffer = bs ++ c'.sendBuffer
      ∧ es.map (fun e => e.1.buffer) = bs.map some
      ∧ List.Forall₂ (· <+: ·) (es.map Prod.snd) bs := by
  induction es generalizing c with
  | nil =>
    obtain rfl := Option.some.inj hexec
    exact ⟨[], rfl, rfl, .nil⟩
  | cons e es ih =>
    obtain ⟨c₁, hstep, hrest⟩ := Option.bind_eq_some_iff.mp hexec
    obtain ⟨hfront, b, hbuffer, hq, hdata⟩ := h.step hstep
    obtain ⟨bs, hq', hbuffers, hdatas⟩ := ih hfront hrest
    refine ⟨b :: bs, ?_, ?_, .cons hdata hdatas⟩
    · rw [hq, hq', List.cons_append]
    · rw [List.map_cons, List.map_cons, hbuffer, hbuffers]

/-- **The stream balances exactly where every buffer is taken whole.** -/
theorem WritesFront.stream_iff (h : c.WritesFront) {es : List (WriteOp × Bytes)}
    (hexec : drains.exec c es = some c') :
    es.flatMap Prod.snd ++ c'.sendBuffer.flatten = c.sendBuffer.flatten
      ↔ ∀ e ∈ es, e.1.buffer = some e.2 := by
  obtain ⟨bs, hq, hbuffers, hdatas⟩ := h.exec hexec
  have hwhole : es.map Prod.snd = bs ↔ ∀ e ∈ es, e.1.buffer = some e.2 := by
    rw [← List.map_injective_iff.mpr (Option.some_injective _) |>.eq_iff, ← hbuffers, List.map_map,
      List.map_inj_left]
    exact forall₂_congr fun _ _ => eq_comm
  rw [hq, List.flatten_append, List.append_cancel_right_eq, List.flatMap_def,
    flatten_eq_flatten_iff hdatas, hwhole]

end AsioTcpConnection

open AsioTcpConnection

/-- **Nothing is lost in exactly the sequences of completions that each take the whole buffer.** -/
theorem nothingLost_iff {c c' : AsioTcpConnection} (h : c.FrontOutstanding)
    {es : List (WriteOp × Bytes)} (hexec : drains.exec c es = some c') :
    NothingLost c es ↔ ∀ e ∈ es, e.1.buffer = some e.2 := by
  constructor
  · exact fun hlost => (h.front.stream_iff hexec).mp (hlost.stream c' hexec)
  · intro hwhole
    refine ⟨fun c₁ hexec₁ => (h.front.stream_iff hexec₁).mpr hwhole, ?_⟩
    refine Machine.along_of_forall fun e he _ _ _ b hb hshort => ?_
    obtain rfl : e.2 = b := Option.some.inj ((hwhole e he).symm.trans hb)
    exact (Nat.lt_irrefl _ hshort).elim

/-- A connection that is writing the first of two payloads. -/
def writingFirst : AsioTcpConnection :=
  { construct .loopback .zeroes "127.0.0.1" 8080 with
    status := .kConnected
    sendBuffer := [[1, 2], [3]]
    isSending := true
    writes := [⟨0, some [1, 2]⟩] }

theorem frontOutstanding_writingFirst : writingFirst.FrontOutstanding := ⟨by decide, rfl⟩

/-- Both payloads are taken whole. -/
theorem nothingLost_iff_whole :
    NothingLost writingFirst [(⟨0, some [1, 2]⟩, [1, 2]), (⟨0, some [3]⟩, [3])]
      ↔ ∀ e ∈ ([(⟨0, some [1, 2]⟩, [1, 2]), (⟨0, some [3]⟩, [3])] : List (WriteOp × Bytes)),
        e.1.buffer = some e.2 :=
  nothingLost_iff frontOutstanding_writingFirst rfl

/-- One byte of the first payload is taken, and the other is gone. -/
theorem not_nothingLost_of_short :
    ¬ NothingLost writingFirst [(⟨0, some [1, 2]⟩, [1])] := by
  intro h
  have hstream := h.stream _ rfl
  revert hstream
  decide

end MultiplayerServer
