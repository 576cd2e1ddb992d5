import MultiplayerServer.Machinery.Duplex
import MultiplayerServer.Network.ReceiveStream
import MultiplayerServer.Network.SendQueue

/-!
# Network/Talk — two connections that talk to each other

The two ends of one TCP connection: what the socket of either has accepted is on its way to the
other, until a read takes it off the wire.  Both send and receive, and any handler may run at either
of them at any time.

    async_send ──▸ send_buffer_ ──accept──▸ wire ──store──▸ receive_buffer_ ──▸ received_callback_
                        ▲                                          ▲
                   handle_send                               handle_receive

A socket accepts the bytes of a write before `handle_send` hears of it, and the other end may have
read them by then.  A handler is one step of its end: the pool has several threads, and what two of
them do to one connection at the same time is no part of this.

* `faithfulTalk_iff` — what each is given, and is still owed, is what the other's socket has
  accepted, in exactly the runs in which no chunk is stored over another one;
* `talk_sublist` — if no undefined buffer is written either, it is part of what the other has sent,
  in its order.
-/

namespace MultiplayerServer

open Machinery

namespace ReadEvent

/-- A new connection is asked for. -/
@[simp] def Redials : ReadEvent → Bool
  | .call (.connect _) _ => true
  | .call (.asyncConnect _) _ => true
  | _ => false

/-- The bytes a read stores. -/
@[simp] def takes : ReadEvent → Bytes
  | .store _ chunk => chunk.bytes
  | .handleReceive _ early => early.elim [] Chunk.bytes
  | _ => []

/-- The bytes `handle_send` says the socket has accepted. -/
@[simp] def accepts : ReadEvent → Bytes
  | .handleSend _ accepted => accepted.getD []
  | _ => []

/-- The bytes passed to `async_send`. -/
@[simp] def sent : ReadEvent → Bytes
  | .call (.asyncSend data) _ => data
  | _ => []

/-- What the sending half of a connection makes of an event. -/
@[simp] def asSend : ReadEvent → Option SendEvent
  | .handleSend op accepted => some (.handleSend op accepted)
  | .call (.asyncSend data) _ => some (.asyncSend data)
  | _ => none

/-- An undefined buffer leaves nothing on the wire. -/
def Defined : ReadEvent → Prop
  | .handleSend ⟨_, none⟩ (some data) => data = []
  | _ => True

/-- What `handle_send` is told is what the socket has taken, if it has: a write that fails has left
nothing on the wire. -/
def Completes (taken : Option (WriteOp × Bytes)) : ReadEvent → Prop
  | .handleSend op accepted => taken = accepted.map (op, ·)
  | _ => True

instance (taken : Option (WriteOp × Bytes)) : (e : ReadEvent) → Decidable (e.Completes taken)
  | .handleSend op accepted => inferInstanceAs (Decidable (taken = accepted.map (op, ·)))
  | .store _ _ | .handleReceive _ _ | .handleReceiveError _ | .call _ _ => isTrue trivial

/-- Nothing undefined is heard of that the socket has not taken. -/
theorem Completes.defined {taken : Option (WriteOp × Bytes)} {e : ReadEvent}
    (h : e.Completes taken) (hdefined : ∀ p ∈ taken, p.1.buffer = none → p.2 = []) :
    e.Defined := by
  match e with
  | .handleSend ⟨_, none⟩ (some data) => exact hdefined _ h rfl
  | .handleSend ⟨_, some _⟩ (some _) | .handleSend ⟨_, some _⟩ none => trivial
  | .handleSend ⟨_, none⟩ none => trivial
  | .store _ _ | .handleReceive _ _ | .handleReceiveError _ | .call _ _ => trivial

/-- What the socket has taken that is still to be heard of. -/
@[simp] def unheard (taken : Option (WriteOp × Bytes)) : ReadEvent → Option (WriteOp × Bytes)
  | .handleSend _ _ => none
  | _ => taken

end ReadEvent

namespace AsioTcpConnection

variable {c c' : AsioTcpConnection} {e : ReadEvent}

/-- **What the history says** of an event: what was taken, what was accepted, and what was sent. -/
theorem receives_history (h : receives.step c e = some c') :
    c'.chunksRead.flatten = c.chunksRead.flatten ++ e.takes
      ∧ c'.acceptedBytes = c.acceptedBytes ++ e.accepts
      ∧ c'.sentBytes = c.sentBytes ++ e.sent := by
  obtain ⟨effects, hhistory, htakes, hputs, hsent⟩ : ∃ effects,
      c'.history = c.history ++ effects
        ∧ (effects.filterMap Effect.storedBytes).flatten = e.takes
        ∧ effects.flatMap Effect.acceptedBytes = e.accepts
        ∧ effects.flatMap Effect.sentBytes = e.sent := by
    match e with
    | .store op chunk =>
      exact ⟨_, (completed (step_completion h)).history, by simp [effectsOf], rfl, rfl⟩
    | .handleReceive op early =>
      refine ⟨_, (completed (step_completion h)).history, ?_, ?_, ?_⟩ <;>
        cases early <;> cases c.receivedCallback <;>
        simp [effectsOf, List.filterMap_cons, Effect.acceptedBytes, Effect.sentBytes]
    | .handleReceiveError op =>
      refine ⟨_, (completed (step_completion h)).history, ?_, ?_, ?_⟩ <;> rw [effectsOf] <;>
        split <;> rfl
    | .handleSend op accepted =>
      refine ⟨_, (completed (step_completion h)).history, ?_, ?_, ?_⟩ <;> rw [effectsOf] <;>
        cases accepted <;> split <;> simp [Effect.acceptedBytes, Effect.sentBytes,
          List.filterMap_cons]
    | .call f keeps =>
      obtain rfl := step_call h
      refine ⟨_, call_history f, ?_, ?_, ?_⟩ <;> cases f <;> simp only [effectsOfCall] <;>
        (try split_ifs) <;> simp [Effect.acceptedBytes, Effect.sentBytes, List.filterMap_cons]
  refine ⟨?_, ?_, ?_⟩
  · rw [chunksRead, hhistory, List.filterMap_append, List.flatten_append, htakes]
    rfl
  · rw [acceptedBytes, hhistory, List.flatMap_append, hputs]
    rfl
  · rw [sentBytes, hhistory, List.flatMap_append, hsent]
    rfl

/-! ## What an end sends -/

/-- What concerns the sending half of a connection. -/
structure SameSends (c c' : AsioTcpConnection) : Prop where
  isSending : c'.isSending = c.isSending
  sendBuffer : c'.sendBuffer = c.sendBuffer
  writes : c'.writes = c.writes

theorem OneWrite.congr (h : c.OneWrite) (hsame : SameSends c c') : c'.OneWrite where
  idle hidle := by
    rw [hsame.writes, hsame.sendBuffer]
    exact h.idle (hsame.isSending ▸ hidle)
  busy hbusy := by
    rw [hsame.writes, hsame.sendBuffer]
    exact h.busy (hsame.isSending ▸ hbusy)

theorem isSending_onReceived (n : ℕ) : (c.onReceived n).isSending = c.isSending := by
  rw [onReceived]
  split <;> rfl

/-- A read is no concern of the sending half… -/
theorem sameSends_of_complete {d : Completion} (h : c.complete d = some c')
    (hread : ∀ op accepted, d ≠ .send op accepted) : SameSends c c' := by
  have hc := completed h
  cases d with
  | connect op error =>
    obtain ⟨-, rfl⟩ := complete_connect h
    refine ⟨?_, hc.sendBuffer, hc.writes⟩
    cases error <;> simp [handleConnect, onConnected] <;> split <;> simp
  | send op accepted => exact absurd rfl (hread op accepted)
  | fill op chunk =>
    obtain ⟨-, -, rfl⟩ := complete_fill h
    exact ⟨rfl, hc.sendBuffer, hc.writes⟩
  | receive op early =>
    obtain ⟨-, chunk, -, rfl⟩ := complete_receive h
    refine ⟨?_, hc.sendBuffer, hc.writes⟩
    rw [handleReceive_eq, isSending_onReceived]
  | receiveError op =>
    obtain ⟨-, -, rfl⟩ := complete_receiveError h
    exact ⟨by simp, hc.sendBuffer, hc.writes⟩

/-- …nor is a call but that of `async_send`. -/
theorem sameSends_call {f : Call} (hsend : ∀ data, f ≠ .asyncSend data) :
    SameSends c (c.call f) := by
  cases f with
  | asyncSend data => exact absurd rfl (hsend data)
  | _ => constructor <;> simp [call]

/-- **An event is a step of the sending half**, or none of its concern. -/
theorem sends_or_sameSends (h : receives.step c e = some c') :
    (∃ s, e.asSend = some s ∧ sends.step c s = some c') ∨ e.asSend = none ∧ SameSends c c' := by
  match e with
  | .handleSend op accepted => exact .inl ⟨_, rfl, h⟩
  | .call (.asyncSend data) keeps => exact .inl ⟨_, rfl, h⟩
  | .store op chunk => exact .inr ⟨rfl, sameSends_of_complete (step_completion h) nofun⟩
  | .handleReceive op early => exact .inr ⟨rfl, sameSends_of_complete (step_completion h) nofun⟩
  | .handleReceiveError op => exact .inr ⟨rfl, sameSends_of_complete (step_completion h) nofun⟩
  | .call (.setConnectedCallback set) keeps | .call (.setDisconnectedCallback set) keeps
  | .call (.setReceiveCallback set) keeps | .call (.connect outcome) keeps
  | .call (.asyncConnect resolved) keeps | .call .close keeps | .call .destroy keeps =>
    obtain rfl := step_call h
    exact .inr ⟨rfl, sameSends_call nofun⟩

theorem accepts_eq_nil (h : e.asSend = none) : e.accepts = [] ∧ e.sent = [] := by
  match e with
  | .call (.asyncSend data) keeps => cases h
  | .handleSend op accepted => cases h
  | .store _ _ | .handleReceive _ _ | .handleReceiveError _ => exact ⟨rfl, rfl⟩
  | .call (.setConnectedCallback _) _ | .call (.setDisconnectedCallback _) _
  | .call (.setReceiveCallback _) _ | .call (.connect _) _ | .call (.asyncConnect _) _
  | .call .close _ | .call .destroy _ => exact ⟨rfl, rfl⟩

theorem accepts_eq_wired {s : SendEvent} (h : e.asSend = some s) (hdefined : e.Defined) :
    e.accepts = s.wired ∧ e.sent = s.payload := by
  match e with
  | .call (.asyncSend data) keeps =>
    obtain rfl := Option.some.inj h
    exact ⟨rfl, rfl⟩
  | .handleSend op accepted =>
    obtain rfl := Option.some.inj h
    match op, accepted with
    | ⟨_, none⟩, some data =>
      obtain rfl : data = [] := hdefined
      exact ⟨rfl, rfl⟩
    | ⟨_, some _⟩, some _ | ⟨_, some _⟩, none | ⟨_, none⟩, none => exact ⟨rfl, rfl⟩

/-- What an event makes of the queue… -/
theorem OneWrite.keeps (h : c.OneWrite) (hstep : receives.step c e = some c') :
    c'.OneWrite := by
  obtain ⟨s, -, hs⟩ | ⟨-, hsame⟩ := sends_or_sameSends hstep
  · exact (h.step hs).1
  · exact h.congr hsame

/-- …and leaves on the wire. -/
theorem OneWrite.receives_sublist (h : c.OneWrite) (hstep : receives.step c e = some c')
    (hdefined : e.Defined) :
    List.Sublist (e.accepts ++ c'.sendBuffer.flatten) (c.sendBuffer.flatten ++ e.sent) := by
  obtain ⟨s, hsend, hs⟩ | ⟨hsend, hsame⟩ := sends_or_sameSends hstep
  · obtain ⟨haccepts, hsent⟩ := accepts_eq_wired hsend hdefined
    rw [haccepts, hsent]
    exact (h.step hs).2
  · obtain ⟨haccepts, hsent⟩ := accepts_eq_nil hsend
    rw [haccepts, hsent, hsame.sendBuffer, List.nil_append, List.append_nil]

/-- A write stays under way until `handle_send` hears of it. -/
theorem mem_writes_of_step (hstep : receives.step c e = some c') {op : WriteOp}
    (hop : op ∈ c.writes) (he : ∀ done accepted, e ≠ .handleSend done accepted) :
    op ∈ c'.writes := by
  obtain ⟨s, hsend, hs⟩ | ⟨-, hsame⟩ := sends_or_sameSends hstep
  · match e with
    | .call (.asyncSend data) keeps =>
      obtain rfl := step_call hstep
      simp only [call, AsioTcpConnection.asyncSend]
      split_ifs <;> simp [hop]
    | .handleSend done accepted => exact absurd rfl (he done accepted)
  · rwa [hsame.writes]

/-- A chunk that is not handed over as it was read is missed in the stream, too. -/
theorem OneRead.spares_of_flatten (h : c.OneRead) (hstep : receives.step c e = some c')
    (hflatten : (c'.delivered ++ c'.pending).flatten = c'.chunksRead.flatten) : e.Spares := by
  match e with
  | .handleReceive op early =>
    have hd := step_completion hstep
    obtain ⟨chunk, -, -, hbefore, hdelivered, hpending, hread⟩ := h.receive hd
    refine (h.delivers_iff hd).mp ?_
    simp only [hdelivered, hpending, hread, ← hbefore, List.flatten_append, List.flatten_singleton,
      List.append_cancel_right_eq, List.append_cancel_left_eq] at hflatten
    rw [DeliversStream, hdelivered, hpending, hread, ← hbefore, hflatten]
  | .store _ _ | .handleReceiveError _ | .handleSend _ _ | .call _ _ => trivial

end AsioTcpConnection

/-! ## An end -/

/-- An end of a connection, with what its socket has taken of the write under way and `handle_send`
has not heard of yet. -/
structure TalkEnd where
  connection : AsioTcpConnection
  taken : Option (WriteOp × Bytes) := none

/-- What happens at an end. -/
inductive TalkEvent
  /-- The socket takes bytes of a write: they are on the wire. -/
  | accept (op : WriteOp) (data : Bytes)
  | handle (e : ReadEvent)

namespace TalkEvent

/-- The bytes a read takes off the wire. -/
@[simp] def takes : TalkEvent → Bytes
  | .accept _ _ => []
  | .handle e => e.takes

/-- The bytes that come to be on the wire. -/
@[simp] def puts : TalkEvent → Bytes
  | .accept _ data => data
  | .handle _ => []

/-- What a read stores early spares the chunk before it. -/
def Spares : TalkEvent → Prop
  | .accept _ _ => True
  | .handle e => e.Spares

/-- An undefined buffer leaves nothing on the wire. -/
def Defined : TalkEvent → Prop
  | .accept op data => op.buffer = none → data = []
  | .handle _ => True

end TalkEvent

namespace TalkEnd

open AsioTcpConnection

/-- Every byte that was taken off the wire so far. -/
def readBytes (s : TalkEnd) : Bytes := s.connection.chunksRead.flatten

/-- The bytes of the write under way that are on the wire. -/
def takenBytes (s : TalkEnd) : Bytes := s.taken.elim [] Prod.snd

/-- Every byte the socket has accepted so far. -/
def accepted (s : TalkEnd) : Bytes := s.connection.acceptedBytes ++ s.takenBytes

/-- What is queued, but for what the socket has taken of its front. -/
def unaccepted (s : TalkEnd) : Bytes := s.connection.sendBuffer.flatten.drop s.takenBytes.length

/-- What happens at an end of a connection that lasts.  There is one write at a time
(`OneWrite.busy`), so that the socket takes of no other one before `handle_send` has heard of it. -/
def step (s : TalkEnd) : TalkEvent → Option TalkEnd
  | .accept op data =>
    if s.taken = none ∧ s.connection.alive = true ∧ op ∈ s.connection.writes ∧ op.Takes data then
      some { s with taken := some (op, data) }
    else none
  | .handle e =>
    if e.Redials = false ∧ e.Completes s.taken then
      (receives.step s.connection e).map fun c => { connection := c, taken := e.unheard s.taken }
    else none

/-- The runs of an end. -/
def talks : Machine TalkEnd TalkEvent := ⟨step⟩

variable {s s' : TalkEnd} {e : TalkEvent}

theorem talks_accept {op : WriteOp} {data : Bytes} (h : talks.step s (.accept op data) = some s') :
    s.taken = none ∧ op ∈ s.connection.writes ∧ op.Takes data
      ∧ s' = { s with taken := some (op, data) } := by
  obtain ⟨⟨hnone, -, hop, htakes⟩, h⟩ := Option.ite_none_right_eq_some.mp h
  exact ⟨hnone, hop, htakes, (Option.some.inj h).symm⟩

theorem talks_handle {e : ReadEvent} (h : talks.step s (.handle e) = some s') :
    e.Completes s.taken ∧ receives.step s.connection e = some s'.connection
      ∧ s'.taken = e.unheard s.taken := by
  obtain ⟨⟨-, hcompletes⟩, h⟩ := Option.ite_none_right_eq_some.mp h
  obtain ⟨c, hc, rfl⟩ := Option.map_eq_some_iff.mp h
  exact ⟨hcompletes, hc, rfl⟩

/-- **What an end has read** grows by what is taken off the wire… -/
theorem read_step (h : talks.step s e = some s') : s'.readBytes = s.readBytes ++ e.takes := by
  cases e with
  | accept op data =>
    obtain ⟨-, -, -, rfl⟩ := talks_accept h
    exact (List.append_nil _).symm
  | handle e => exact (receives_history (talks_handle h).2.1).1

/-- …and what its socket has accepted by what comes to be on it: `handle_send` hears of it later. -/
theorem accepted_step (h : talks.step s e = some s') : s'.accepted = s.accepted ++ e.puts := by
  cases e with
  | accept op data =>
    obtain ⟨hnone, -, -, rfl⟩ := talks_accept h
    simp [accepted, takenBytes, hnone]
  | handle e =>
    obtain ⟨hcompletes, hc, htaken⟩ := talks_handle h
    rw [accepted, takenBytes, htaken, (receives_history hc).2.1, accepted, takenBytes]
    match e with
    | .handleSend op accepted =>
      rw [show s.taken = accepted.map (op, ·) from hcompletes]
      cases accepted <;> simp
    | .store _ _ | .handleReceive _ _ | .handleReceiveError _ | .call _ _ => simp

/-- What the socket has taken is of a write that is under way. -/
def UnderWay (s : TalkEnd) : Prop :=
  ∀ p ∈ s.taken, p.1 ∈ s.connection.writes ∧ p.1.Takes p.2

theorem UnderWay.step (h : s.UnderWay) (hstep : talks.step s e = some s') : s'.UnderWay := by
  cases e with
  | accept op data =>
    obtain ⟨-, hop, htakes, rfl⟩ := talks_accept hstep
    rintro _ ⟨⟩
    exact ⟨hop, htakes⟩
  | handle e =>
    obtain ⟨-, hc, htaken⟩ := talks_handle hstep
    intro p hp
    rw [htaken] at hp
    match e with
    | .handleSend _ _ => cases hp
    | .store _ _ | .handleReceive _ _ | .handleReceiveError _ | .call _ _ =>
      exact (h p hp).imp_left fun hop => mem_writes_of_step hc hop nofun

/-- **An end that sends in order**: what `handle_send` has heard of, followed by what is still
queued, is part of what was sent; and nothing undefined is on the wire. -/
structure SendsInOrder (s : TalkEnd) : Prop where
  oneWrite : s.connection.OneWrite
  underWay : s.UnderWay
  defined : ∀ p ∈ s.taken, p.1.buffer = none → p.2 = []
  sublist : List.Sublist (s.connection.acceptedBytes ++ s.connection.sendBuffer.flatten)
    s.connection.sentBytes

/-- **It goes on to**, unless an undefined buffer leaves something on the wire. -/
theorem SendsInOrder.step (h : s.SendsInOrder) (hstep : talks.step s e = some s')
    (hdefined : e.Defined) : s'.SendsInOrder := by
  have hunderWay := h.underWay.step hstep
  cases e with
  | accept op data =>
    obtain ⟨-, -, -, rfl⟩ := talks_accept hstep
    refine ⟨h.oneWrite, hunderWay, ?_, h.sublist⟩
    rintro _ ⟨⟩
    exact hdefined
  | handle e =>
    obtain ⟨hcompletes, hc, htaken⟩ := talks_handle hstep
    obtain ⟨-, haccepted, hsent⟩ := receives_history hc
    have hmore : List.Sublist (s'.connection.acceptedBytes ++ s'.connection.sendBuffer.flatten)
        (s.connection.acceptedBytes ++ (s.connection.sendBuffer.flatten ++ e.sent)) := by
      rw [haccepted, List.append_assoc]
      exact (List.Sublist.refl _).append
        (h.oneWrite.receives_sublist hc (hcompletes.defined h.defined))
    refine ⟨h.oneWrite.keeps hc, hunderWay, fun p hp => ?_, hmore.trans ?_⟩
    · rw [htaken] at hp
      match e with
      | .handleSend _ _ => cases hp
      | .store _ _ | .handleReceive _ _ | .handleReceiveError _ | .call _ _ => exact h.defined p hp
    · rw [hsent, ← List.append_assoc]
      exact h.sublist.append (List.Sublist.refl _)

/-- **What the socket has taken is the beginning of what is queued.** -/
theorem SendsInOrder.takenBytes_prefix (h : s.SendsInOrder) :
    s.takenBytes <+: s.connection.sendBuffer.flatten := by
  rw [takenBytes]
  rcases htaken : s.taken with _ | ⟨op, data⟩
  · exact List.nil_prefix
  obtain ⟨hop, htakes⟩ := h.underWay _ htaken
  have hbusy : s.connection.isSending = true := by
    cases hs : s.connection.isSending with
    | false => simp [(h.oneWrite.idle hs).1] at hop
    | true => rfl
  obtain ⟨op', hwrites, hfront⟩ := h.oneWrite.busy hbusy
  obtain rfl : op = op' := by simpa [hwrites] using hop
  rcases hbuffer : op.buffer with _ | b
  · rw [Option.elim_some, h.defined _ htaken hbuffer]
    exact List.nil_prefix
  · obtain ⟨q, hq⟩ := List.head?_eq_some_iff.mp (hfront b hbuffer)
    rw [hq, List.flatten_cons]
    exact (htakes b hbuffer).1.trans (List.prefix_append _ _)

/-- **What the socket has accepted**, followed by what it has not, is part of what was sent. -/
theorem SendsInOrder.accepted_sublist (h : s.SendsInOrder) :
    List.Sublist (s.accepted ++ s.unaccepted) s.connection.sentBytes := by
  obtain ⟨rest, hrest⟩ := h.takenBytes_prefix
  rw [accepted, unaccepted, ← hrest, List.drop_left, List.append_assoc, hrest]
  exact h.sublist

end TalkEnd

/-! ## The two ends -/

/-- Two ends of a connection. -/
abbrev Talk := Duplex TalkEnd UInt8

namespace Talk

open AsioTcpConnection TalkEnd

/-- What may happen at either end, and takes its bytes off the wire or puts them there. -/
def machine : Machine Talk (Bool × TalkEvent) :=
  Duplex.machine talks TalkEvent.takes TalkEvent.puts

/-- A talk that has just begun: both ends receive, and neither has sent anything. -/
structure Begun (t : Talk) : Prop where
  receiving : ∀ side, (t.ends side).connection.Receiving
  idle : ∀ side, (t.ends side).connection.isSending = false
    ∧ (t.ends side).connection.writes = [] ∧ (t.ends side).connection.sendBuffer = []
  silent : ∀ side, (t.ends side).connection.sentBytes = []
    ∧ (t.ends side).connection.acceptedBytes = [] ∧ (t.ends side).taken = none
  wires : ∀ side, t.wires side = []

/-- What an end is given, and is still owed. -/
def given (t : Talk) (side : Bool) : Bytes :=
  ((t.ends side).connection.delivered ++ (t.ends side).connection.pending).flatten

/-- **What either end is given**, and is still owed, followed by what is on its way there, is what
the socket of the other has accepted. -/
def Faithful (t : Talk) : Prop :=
  ∀ side, t.given side ++ t.wires side = (t.ends !side).accepted

/-- Nothing is lost on the way. -/
structure Carried (t : Talk) : Prop where
  oneRead : ∀ side, (t.ends side).connection.OneRead
  account : ∀ side, (t.ends side).readBytes ++ t.wires side = (t.ends !side).accepted

/-- A server has accepted a client, who has connected to it. -/
def begin : Talk where
  ends side :=
    let c := (construct .loopback .zeroes "127.0.0.1" 8080).call (.setReceiveCallback true)
    { connection :=
        if side then { (c.call (.asyncConnect true)) with connects := [] }.handleConnect false
        else c.acceptPeer true }
  wires _ := []

theorem begun_begin : Begun begin := by
  constructor <;> rintro (_ | _) <;> first | exact ⟨rfl, rfl, rfl, rfl⟩ | decide

variable {t t' : Talk} {e : Bool × TalkEvent}

theorem Begun.accepted (h : t.Begun) (side : Bool) : (t.ends side).accepted = [] := by
  obtain ⟨-, haccepted, htaken⟩ := h.silent side
  rw [TalkEnd.accepted, takenBytes, haccepted, htaken]
  rfl

theorem Begun.carried (h : t.Begun) : t.Carried where
  oneRead side := (h.receiving side).oneRead
  account side := by
    rw [readBytes, (h.receiving side).chunksRead, h.wires, h.accepted]
    rfl

theorem account_step
    (h : ∀ side, (t.ends side).readBytes ++ t.wires side = (t.ends !side).accepted)
    (hstep : machine.step t e = some t') (side : Bool) :
    (t'.ends side).readBytes ++ t'.wires side = (t'.ends !side).accepted :=
  Duplex.account_step read_step accepted_step h hstep side

theorem Carried.faithful (h : t.Carried) : t.Faithful := fun side => by
  have hdelivers : (t.ends side).connection.delivered ++ (t.ends side).connection.pending
      = (t.ends side).connection.chunksRead := (h.oneRead side).delivers
  rw [given, hdelivers, ← readBytes, h.account]

/-- An event that spares the chunk before it is read as one. -/
theorem oneRead_step {s s' : TalkEnd} {e : TalkEvent} (h : s.connection.OneRead)
    (hstep : talks.step s e = some s') (he : e.Spares) : s'.connection.OneRead := by
  cases e with
  | accept op data =>
    obtain ⟨-, -, -, rfl⟩ := talks_accept hstep
    exact h
  | handle e => exact h.step (talks_handle hstep).2.1 he

theorem Carried.step (h : t.Carried) (hstep : machine.step t e = some t') (he : e.2.Spares) :
    t'.Carried where
  oneRead := Duplex.forall_ends_step h.oneRead (fun hs => oneRead_step (h.oneRead e.1) hs he) hstep
  account := account_step h.account hstep

/-- **A chunk that is stored over another one** is noticed. -/
theorem Carried.spares (h : t.Carried) (hstep : machine.step t e = some t') (hf : t'.Faithful) :
    e.2.Spares := by
  have hflatten := hf e.1
  rw [← account_step h.account hstep e.1, List.append_cancel_right_eq] at hflatten
  obtain ⟨rest, s, -, hs, rfl⟩ := Duplex.step_eq hstep
  obtain ⟨side, e⟩ := e
  cases e with
  | accept op data => trivial
  | handle e =>
    refine (h.oneRead side).spares_of_flatten (talks_handle hs).2.1 ?_
    simpa [given, readBytes] using hflatten

/-- Where both ends send in order, what either is given is part of what the other has sent. -/
theorem Carried.sublist (h : t.Carried) (hsends : ∀ side, (t.ends side).SendsInOrder)
    (side : Bool) : List.Sublist (t.given side ++ t.wires side ++ (t.ends !side).unaccepted)
      (t.ends !side).connection.sentBytes := by
  rw [h.faithful side]
  exact (hsends !side).accepted_sublist

theorem Begun.sendsInOrder (h : t.Begun) (side : Bool) : (t.ends side).SendsInOrder := by
  obtain ⟨hidle, hwrites, hqueue⟩ := h.idle side
  obtain ⟨-, haccepted, htaken⟩ := h.silent side
  refine ⟨⟨fun _ => ⟨hwrites, hqueue⟩, fun hbusy => by simp [hidle] at hbusy⟩, ?_, ?_, ?_⟩
  · simp [UnderWay, htaken]
  · simp [htaken]
  · rw [haccepted, hqueue]
    exact List.nil_sublist _

end Talk

open Talk

/-- **What either end is given is what the other's socket has accepted, in exactly the runs in which
every chunk stored early spares the one before it**, in whatever order the handlers run at the two
of them. -/
theorem faithfulTalk_iff {t : Talk} (h : t.Begun) (es : List (Bool × TalkEvent)) :
    Talk.machine.Always Faithful t es ↔ Talk.machine.Along (fun _ e _ => e.2.Spares) t es :=
  Machine.always_iff_along Carried (fun _ => Carried.faithful)
    (fun _ _ _ h hstep he => h.step hstep he) (fun _ _ _ h hstep hf => h.spares hstep hf) h.carried

/-- The second of two chunks is waiting when the first is handled, and `handle_send` has heard of
neither. -/
theorem faithfulTalk_iff_two :
    Talk.machine.Always Faithful begin
        [(true, .handle (.call (.asyncSend [1]) nofun)), (true, .accept ⟨0, none⟩ [1, 2]),
          (false, .handle (.store ⟨0, none⟩ ⟨[1], by decide, by decide⟩)),
          (false, .handle (.handleReceive ⟨0, some ⟨[1], by decide, by decide⟩⟩
            (some ⟨[2], by decide, by decide⟩)))]
      ↔ Talk.machine.Along (fun _ e _ => e.2.Spares) begin
        [(true, .handle (.call (.asyncSend [1]) nofun)), (true, .accept ⟨0, none⟩ [1, 2]),
          (false, .handle (.store ⟨0, none⟩ ⟨[1], by decide, by decide⟩)),
          (false, .handle (.handleReceive ⟨0, some ⟨[1], by decide, by decide⟩⟩
            (some ⟨[2], by decide, by decide⟩)))] :=
  faithfulTalk_iff begun_begin _

/-- **What either end is given is part of what the other has sent, in its order**: followed by what
it is still owed, what is on its way and what the other's socket is still to accept of the queue,
none of it comes twice and none too early, where every chunk is spared and no undefined buffer
leaves anything on the wire. -/
theorem talk_sublist {t : Talk} (h : t.Begun) {es : List (Bool × TalkEvent)}
    (hes : Talk.machine.Along (fun _ e _ => e.2.Spares ∧ e.2.Defined) t es) :
    Talk.machine.Always (fun t => ∀ side, List.Sublist
      (t.given side ++ t.wires side ++ (t.ends !side).unaccepted)
      (t.ends !side).connection.sentBytes) t es := by
  refine (Machine.always_of_along (fun t => Carried t ∧ ∀ side, (t.ends side).SendsInOrder)
    (fun t e t' h hstep he => ?_) ⟨h.carried, h.sendsInOrder⟩ hes).mono fun t h => h.1.sublist h.2
  exact ⟨h.1.step hstep he.1,
    Duplex.forall_ends_step h.2 (fun hs => (h.2 e.1).step hs he.2) hstep⟩

/-- Of three payloads, the third gets through, and is read before `handle_send` hears of it. -/
theorem talk_sublist_third :
    Talk.machine.Always (fun t => ∀ side, List.Sublist
      (t.given side ++ t.wires side ++ (t.ends !side).unaccepted)
      (t.ends !side).connection.sentBytes) begin
      [(true, .handle (.call (.asyncSend [1]) nofun)),
        (true, .handle (.call (.asyncSend [2]) nofun)),
        (true, .handle (.call (.asyncSend [3]) nofun)), (true, .accept ⟨0, none⟩ []),
        (true, .handle (.handleSend ⟨0, none⟩ (some []))), (true, .accept ⟨0, some [3]⟩ [3]),
        (false, .handle (.store ⟨0, none⟩ ⟨[3], by decide, by decide⟩))] :=
  talk_sublist begun_begin (Machine.along_of_forall fun e he _ _ _ => by
    simp only [List.mem_cons, List.not_mem_nil, or_false] at he
    rcases he with rfl | rfl | rfl | rfl | rfl | rfl | rfl <;>
      exact ⟨trivial, by simp [TalkEvent.Defined]⟩)

end MultiplayerServer
