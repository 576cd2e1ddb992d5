import MultiplayerServer.Network.Draining
import MultiplayerServer.Network.Talk

/-!
# Network/Settling — a talk that is left alone comes to an end

Once nothing more is asked of two connections that talk to each other, and nothing fails, each
completion leaves less to do: first the queues empty, then the wires.

* `talk_settles` — from wherever a talk has got to, it can get to where nothing is queued, under way
  or on a wire, and both ends have been given all that the other's socket has accepted.
-/

namespace MultiplayerServer

open Machinery

namespace TalkEvent

/-- Nothing is closed, and nothing fails. -/
def Lasts : TalkEvent → Prop
  | .handle (.call .close _) | .handle (.call .destroy _) | .handle (.handleSend _ none)
  | .handle (.handleReceiveError _) => False
  | _ => True

/-- A socket takes or stores bytes, or a completion without an error is handled, with nothing more
at hand. -/
def Settles : TalkEvent → Prop
  | .accept _ _ | .handle (.handleSend _ (some _)) | .handle (.store _ _)
  | .handle (.handleReceive _ none) => True
  | _ => False

theorem Settles.lasts {e : TalkEvent} (h : e.Settles) : e.Lasts ∧ e.Spares := by
  match e with
  | .accept _ _ | .handle (.handleSend _ (some _)) | .handle (.store _ _) =>
    exact ⟨trivial, trivial⟩
  | .handle (.handleReceive _ none) =>
    exact ⟨trivial, fun _ _ _ hnext => (Option.not_mem_none _ hnext).elim⟩

end TalkEvent

namespace AsioTcpConnection

variable {c c' : AsioTcpConnection} {e : ReadEvent}

/-- A connection that is there, sends in turn and has a read under way. -/
structure Lasting (c : AsioTcpConnection) : Prop where
  sending : c.Sending
  oneRead : c.OneRead
  reading : c.reads ≠ []

theorem Lasting.step (h : c.Lasting) (hstep : receives.step c e = some c')
    (hlasts : (TalkEvent.handle e).Lasts) (hspares : e.Spares) : c'.Lasting where
  sending := by
    refine ⟨?_, h.sending.oneWrite.keeps hstep⟩
    match e with
    | .store _ _ | .handleReceive _ _ | .handleSend _ _ =>
      exact (completed (step_completion hstep)).alive.trans h.sending.alive
    | .call f keeps =>
      rw [step_call hstep]
      refine (alive_call ?_).trans h.sending.alive
      rintro rfl
      exact hlasts
  oneRead := h.oneRead.step hstep hspares
  reading := by
    match e with
    | .store op chunk =>
      rw [(completed (step_completion hstep)).reads]
      simp
    | .handleReceive op early =>
      rw [(completed (step_completion hstep)).reads]
      cases early <;> simp [armedReads]
    | .handleSend op accepted =>
      rw [(completed (step_completion hstep)).reads]
      exact h.reading
    | .call f keeps =>
      rw [step_call hstep, (call_reads f).1]
      exact h.reading

theorem Lasting.single (h : c.Lasting) : ∃ op, c.reads = [op] :=
  List.length_eq_one_iff.mp (le_antisymm h.oneRead.single (List.length_pos_iff.mpr h.reading))

theorem SameSends.owed_eq (h : SameSends c c') : c'.owed = c.owed := by
  rw [owed, owed, h.isSending, h.sendBuffer]

/-- **A read under way can be performed**, if there is something on the wire… -/
theorem Lasting.exists_store (h : c.Lasting) (hpending : c.pending = []) (b : UInt8) :
    ∃ op chunk c', chunk.bytes = [b] ∧ receives.step c (.store op chunk) = some c'
      ∧ c'.pending.length = 1 ∧ c'.owed = c.owed := by
  obtain ⟨op, hop⟩ := h.single
  have hnone : op.stored = none := by simpa [pending, hop] using hpending
  let chunk : Chunk := ⟨[b], Nat.one_pos, by simp [maxBufferSize]⟩
  have hd : c.complete (.fill op chunk) = some (c.fill op chunk) := if_pos ⟨by simp [hop], hnone⟩
  exact ⟨op, chunk, _, rfl, (if_pos h.sending.alive).trans hd, by simp [pending, hop],
    (sameSends_of_complete hd (by simp)).owed_eq⟩

/-- …and handled, if it has stored something. -/
theorem Lasting.exists_receive (h : c.Lasting) (hpending : c.pending ≠ []) :
    ∃ op c', receives.step c (.handleReceive op none) = some c'
      ∧ c'.pending = [] ∧ c'.owed = c.owed := by
  obtain ⟨op, hop⟩ := h.single
  obtain ⟨chunk, hstored⟩ : ∃ chunk, op.stored = some chunk := by
    simpa [pending, hop, Option.ne_none_iff_exists'] using hpending
  obtain ⟨c', hd⟩ : ∃ c', c.complete (.receive op none) = some c' := by
    rw [complete, hstored]
    exact ⟨_, if_pos (by simp [hop])⟩
  obtain ⟨-, -, -, -, -, hnone, -⟩ := h.oneRead.receive hd
  exact ⟨op, c', (if_pos h.sending.alive).trans hd, hnone,
    (sameSends_of_complete hd (by simp)).owed_eq⟩

end AsioTcpConnection

namespace TalkEnd

open AsioTcpConnection

variable {s s' : TalkEnd} {e : TalkEvent}

/-- An end of which the connection lasts. -/
structure Lasting (s : TalkEnd) : Prop where
  connection : s.connection.Lasting
  underWay : s.UnderWay

theorem Lasting.step (h : s.Lasting) (hstep : talks.step s e = some s') (hlasts : e.Lasts)
    (hspares : e.Spares) : s'.Lasting where
  connection := by
    cases e with
    | accept op data =>
      obtain ⟨-, -, -, rfl⟩ := talks_accept hstep
      exact h.connection
    | handle e => exact h.connection.step (talks_handle hstep).2.1 hlasts hspares
  underWay := h.underWay.step hstep

/-- What is still to be done of the writes: the socket takes each that is owed, and `handle_send`
hears of it. -/
def unwritten (s : TalkEnd) : ℕ := 2 * s.connection.owed - s.taken.toList.length

/-- What is taken is owed. -/
theorem Lasting.owed_of_taken (h : s.Lasting) (htaken : s.taken ≠ none) :
    s.connection.owed ≠ 0 := by
  obtain ⟨p, hp⟩ := Option.ne_none_iff_exists'.mp htaken
  intro howed
  have hidle := h.connection.sending.oneWrite.idle_iff.mpr howed
  have hop := (h.underWay p hp).1
  simp [hidle.writes] at hop

theorem Lasting.unwritten_eq_zero_iff (h : s.Lasting) :
    s.unwritten = 0 ↔ s.connection.Idle ∧ s.taken = none := by
  rw [h.connection.sending.oneWrite.idle_iff, unwritten]
  rcases htaken : s.taken with _ | p
  · simp only [Option.toList_none, List.length_nil, and_true]
    omega
  · have howed := h.owed_of_taken (by simp [htaken])
    simp only [Option.toList_some, List.length_singleton, reduceCtorEq, and_false, iff_false]
    omega

/-- **A write under way can be got on with**: the socket takes it, or `handle_send` hears of it. -/
theorem Lasting.exists_write (h : s.Lasting) (hleft : s.unwritten ≠ 0) :
    ∃ e s', e.Settles ∧ e.takes = [] ∧ talks.step s e = some s' ∧ s'.unwritten < s.unwritten := by
  rcases htaken : s.taken with _ | ⟨op, data⟩
  · have howed : s.connection.owed ≠ 0 := fun hzero => hleft (by rw [unwritten, hzero]; simp)
    obtain ⟨op, hwrites, -⟩ := h.connection.sending.oneWrite.busy (isSending_of_owed howed)
    have htakes : op.Takes (op.buffer.getD []) := fun b hb => by
      rw [Option.mem_def.mp hb]
      simp
    refine ⟨.accept op (op.buffer.getD []), _, trivial, rfl,
      if_pos ⟨htaken, h.connection.sending.alive, by simp [hwrites], htakes⟩, ?_⟩
    simp only [unwritten, htaken, Option.toList_some, Option.toList_none, List.length_singleton,
      List.length_nil]
    omega
  · obtain ⟨hop, htakes⟩ := h.underWay _ htaken
    obtain ⟨c', hd⟩ : ∃ c', s.connection.complete (.send op (some data)) = some c' :=
      ⟨_, if_pos ⟨hop, htakes⟩⟩
    have hstep : receives.step s.connection (.handleSend op (some data)) = some c' :=
      (if_pos h.connection.sending.alive).trans hd
    have hpaid := h.connection.sending.oneWrite.owed_success hd
    refine ⟨.handle (.handleSend op (some data)), _, trivial, rfl,
      (if_pos ⟨rfl, htaken⟩).trans (by rw [hstep]; rfl), ?_⟩
    simp only [unwritten, htaken, ReadEvent.unheard, Option.toList_some, Option.toList_none,
      List.length_singleton, List.length_nil]
    omega

/-- What is still to be done of the reads: each byte on its way is stored and handed over. -/
def unread (s : TalkEnd) (wire : Bytes) : ℕ := 2 * wire.length + s.connection.pending.length

/-- **So can a read**, if there is something to read. -/
theorem Lasting.exists_read (h : s.Lasting) {wire : Bytes} (hleft : s.unread wire ≠ 0) :
    ∃ e s' rest, e.Settles ∧ e.puts = [] ∧ wire = e.takes ++ rest ∧ talks.step s e = some s'
      ∧ s'.unwritten = s.unwritten ∧ s'.unread rest < s.unread wire := by
  have hhandle {e : ReadEvent} {c' : AsioTcpConnection} (hredials : e.Redials = false)
      (hcompletes : e.Completes s.taken) (hunheard : e.unheard s.taken = s.taken)
      (hc : receives.step s.connection e = some c') :
      talks.step s (.handle e) = some ⟨c', s.taken⟩ :=
    (if_pos ⟨hredials, hcompletes⟩).trans (by rw [hc, hunheard]; rfl)
  by_cases hpending : s.connection.pending = []
  · obtain ⟨b, rest, rfl⟩ : ∃ b rest, wire = b :: rest :=
      List.exists_cons_of_ne_nil fun hnil => hleft (by simp [unread, hpending, hnil])
    obtain ⟨op, chunk, c', hchunk, hc, hone, howed⟩ := h.connection.exists_store hpending b
    refine ⟨.handle (.store op chunk), ⟨c', s.taken⟩, rest, trivial, rfl, ?_,
      hhandle rfl trivial rfl hc, by rw [unwritten, unwritten, howed], ?_⟩
    · rw [TalkEvent.takes, ReadEvent.takes, hchunk, List.singleton_append]
    · rw [unread, unread, hone, hpending, List.length_cons, List.length_nil]
      omega
  · obtain ⟨op, c', hc, hnone, howed⟩ := h.connection.exists_receive hpending
    refine ⟨.handle (.handleReceive op none), ⟨c', s.taken⟩, wire, trivial, rfl, rfl,
      hhandle rfl trivial rfl hc, by rw [unwritten, unwritten, howed], ?_⟩
    have hpos := List.length_pos_iff.mpr hpending
    rw [unread, unread, hnone, List.length_nil]
    omega

end TalkEnd

namespace Talk

open AsioTcpConnection TalkEnd

variable {t t' : Talk} {e : Bool × TalkEvent}

/-- Both ends last, and nothing is lost on the way. -/
structure Lasting (t : Talk) : Prop where
  carried : t.Carried
  lasting : ∀ side, (t.ends side).Lasting

theorem Lasting.step (h : t.Lasting) (hstep : machine.step t e = some t') (hlasts : e.2.Lasts)
    (hspares : e.2.Spares) : t'.Lasting where
  carried := h.carried.step hstep hspares
  lasting := Duplex.forall_ends_step h.lasting
    (fun hs => (h.lasting e.1).step hs hlasts hspares) hstep

/-- What can happen at an end, to the talk. -/
theorem exists_step {side : Bool} {e : TalkEvent} {rest : Bytes} {s' : TalkEnd}
    (hwire : t.wires side = e.takes ++ rest) (hs : talks.step (t.ends side) e = some s') :
    ∃ t', machine.step t (side, e) = some t' ∧ t'.ends side = s' ∧ t'.wires side = rest
      ∧ (t'.ends !side) = (t.ends !side) ∧ (t'.wires !side) = (t.wires !side) ++ e.puts :=
  Duplex.exists_step hwire hs

/-- What holds of an end and the wire to it, added up over both. -/
def total (f : TalkEnd → Bytes → ℕ) (t : Talk) : ℕ :=
  f (t.ends true) (t.wires true) + f (t.ends false) (t.wires false)

theorem total_eq (f : TalkEnd → Bytes → ℕ) (side : Bool) :
    total f t = f (t.ends side) (t.wires side) + f (t.ends !side) (t.wires !side) := by
  cases side
  · exact Nat.add_comm _ _
  · rfl

theorem exists_ne_zero {f : TalkEnd → Bytes → ℕ} (h : total f t ≠ 0) :
    ∃ side, f (t.ends side) (t.wires side) ≠ 0 := by
  by_contra! hall
  exact h (by rw [total, hall, hall])

theorem total_eq_zero_iff {f : TalkEnd → Bytes → ℕ} :
    total f t = 0 ↔ ∀ side, f (t.ends side) (t.wires side) = 0 := by
  rw [total, Nat.add_eq_zero_iff, Bool.forall_bool, and_comm]

/-- What is still to be done of the writes, at either end. -/
abbrev unwritten : Talk → ℕ := total fun s _ => s.unwritten

/-- What is still to be done of the reads. -/
abbrev unread : Talk → ℕ := total TalkEnd.unread

/-- **First the queues empty**… -/
theorem Lasting.exists_write (h : t.Lasting) (hleft : unwritten t ≠ 0) :
    ∃ e t', e.2.Settles ∧ machine.step t e = some t' ∧ t'.Lasting ∧ unwritten t' < unwritten t := by
  obtain ⟨side, hside⟩ := exists_ne_zero hleft
  obtain ⟨e, s', he, htakes, hs, hless⟩ := (h.lasting side).exists_write hside
  have hwire : t.wires side = e.takes ++ t.wires side := by rw [htakes, List.nil_append]
  obtain ⟨t', hstep, rfl, -, hother, -⟩ := exists_step hwire hs
  refine ⟨(side, e), t', he, hstep, h.step hstep he.lasts.1 he.lasts.2, ?_⟩
  rw [unwritten, total_eq _ side, total_eq _ side, hother]
  exact Nat.add_lt_add_right hless _

/-- …and then the wires, while nothing else is written. -/
theorem Lasting.exists_read (h : t.Lasting) (hwritten : unwritten t = 0) (hleft : unread t ≠ 0) :
    ∃ e t', e.2.Settles ∧ machine.step t e = some t' ∧ (t'.Lasting ∧ unwritten t' = 0)
      ∧ unread t' < unread t := by
  obtain ⟨side, hside⟩ := exists_ne_zero hleft
  obtain ⟨e, s', rest, he, hputs, hwire, hs, howed, hless⟩ := (h.lasting side).exists_read hside
  obtain ⟨t', hstep, rfl, rfl, hother, hwires⟩ := exists_step hwire hs
  rw [hputs, List.append_nil] at hwires
  refine ⟨(side, e), t', he, hstep, ⟨h.step hstep he.lasts.1 he.lasts.2, ?_⟩, ?_⟩
  · rw [← hwritten, unwritten, total_eq _ side, total_eq _ side, hother, howed]
  · rw [unread, total_eq _ side, total_eq _ side, hother, hwires]
    exact Nat.add_lt_add_right hless _

/-- **The talk is settled**: nothing is queued, under way or on a wire, and what either end has been
given is what the other's socket has accepted. -/
structure Settled (t : Talk) : Prop where
  idle : ∀ side, (t.ends side).connection.Idle ∧ (t.ends side).taken = none
  wires : ∀ side, t.wires side = []
  given : ∀ side, (t.ends side).connection.delivered.flatten = (t.ends !side).accepted

theorem Lasting.settled (h : t.Lasting) (hwritten : unwritten t = 0) (hread : unread t = 0) :
    t.Settled := by
  have hleft (side : Bool) : t.wires side = [] ∧ (t.ends side).connection.pending = [] := by
    have hnone : 2 * (t.wires side).length + (t.ends side).connection.pending.length = 0 :=
      total_eq_zero_iff.mp hread side
    exact ⟨List.length_eq_zero_iff.mp (by omega), List.length_eq_zero_iff.mp (by omega)⟩
  have hnone := total_eq_zero_iff.mp hwritten
  refine ⟨fun side => (h.lasting side).unwritten_eq_zero_iff.mp (hnone side),
    fun side => (hleft side).1, fun side => ?_⟩
  rw [← h.carried.faithful side, Talk.given, (hleft side).1, (hleft side).2, List.append_nil,
    List.append_nil]

/-- **A talk that lasts can be settled.** -/
theorem Lasting.settles (h : t.Lasting) :
    ∃ t', machine.CanReach (fun e => e.2.Settles) t t' ∧ t'.Settled := by
  obtain ⟨t₁, hfirst, h₁, hwritten⟩ :=
    Machine.exists_canReach Lasting unwritten (fun _ h hleft => h.exists_write hleft) h
  obtain ⟨t₂, hthen, ⟨h₂, hwritten'⟩, hread⟩ :=
    Machine.exists_canReach (fun t => Lasting t ∧ unwritten t = 0) unread
      (fun _ h hleft => h.1.exists_read h.2 hleft) ⟨h₁, hwritten⟩
  exact ⟨t₂, hfirst.trans hthen, h₂.settled hwritten' hread⟩

theorem Begun.lasting (h : t.Begun) (halive : ∀ side, (t.ends side).connection.alive = true) :
    t.Lasting where
  carried := h.carried
  lasting side := by
    have hsends := h.sendsInOrder side
    refine ⟨⟨⟨halive side, hsends.oneWrite⟩, (h.receiving side).oneRead, ?_⟩, hsends.underWay⟩
    rw [(h.receiving side).reads]
    exact List.cons_ne_nil _ _

end Talk

open Talk

/-- **A talk that is left alone comes to an end**: from every state it gets to, as long as nothing
is closed, nothing fails and every chunk is spared, error-free completions lead to where nothing is
queued, under way or on a wire, and either end has been given what the other's socket has
accepted. -/
theorem talk_settles {t : Talk} (h : t.Begun)
    (halive : ∀ side, (t.ends side).connection.alive = true) {es : List (Bool × TalkEvent)}
    (hes : Talk.machine.Along (fun _ e _ => e.2.Lasts ∧ e.2.Spares) t es) :
    Talk.machine.Always
      (fun t => ∃ t', Talk.machine.CanReach (fun e => e.2.Settles) t t' ∧ t'.Settled) t es :=
  (Machine.always_of_along Talk.Lasting
    (fun _ _ _ h hstep he => h.step hstep he.1 he.2) (h.lasting halive) hes).mono
    fun _ => Talk.Lasting.settles

/-- Three payloads, while a read is under way. -/
theorem talk_settles_three :
    Talk.machine.Always
      (fun t => ∃ t', Talk.machine.CanReach (fun e => e.2.Settles) t t' ∧ t'.Settled) begin
      [(true, .handle (.call (.asyncSend [1]) nofun)),
        (true, .handle (.call (.asyncSend [2]) nofun)),
        (true, .handle (.call (.asyncSend [3]) nofun)), (true, .accept ⟨0, none⟩ []),
        (true, .handle (.handleSend ⟨0, none⟩ (some [])))] :=
  talk_settles begun_begin (by decide) (Machine.along_of_forall fun e he _ _ _ => by
    simp only [List.mem_cons, List.not_mem_nil, or_false] at he
    rcases he with rfl | rfl | rfl | rfl | rfl <;> exact ⟨trivial, trivial⟩)

end MultiplayerServer
