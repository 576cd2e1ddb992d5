import MultiplayerServer.Network.ConnectionRuns

/-!
# Network/Closing — what is left of a connection after `close()`

A closed connection should stay closed, say so once, and start nothing.  `close` itself keeps to
that; the handlers of operations that were outstanding when it ran do not look at `status_`.

    connect() ──▸ … ──close()──▸ kClosed ──handle_connect──▸ kDisconnected ──close()──▸ kClosed
                       │                                                       │
                       ╰── disconnected_callback_()                            ╰── and once more

`finalClose_iff` and `noFurtherIo_iff` say on which runs each of the two holds.  Callbacks are
recorded, not run: `noFurtherIo_iff` is about what the handlers initiate themselves, and what a
callback would initiate by calling back is no part of it.
-/

namespace MultiplayerServer

open Machinery

/-! ## Counting the disconnected callback -/

/-- The count an effect leaves: a new connect starts it over. -/
def countDisconnected (n : ℕ) : Effect → ℕ
  | .connectRequested => 0
  | .disconnected => n + 1
  | _ => n

namespace AsioTcpConnection

variable (c : AsioTcpConnection)

/-- How often `disconnected_callback_` was called since `connect()` or `async_connect()` was. -/
def disconnects : ℕ := c.history.foldl countDisconnected 0

/-- `close()` has run, and no new connect was requested since. -/
def CloseRan : Prop := c.connectEpoch < c.epoch

instance : Decidable c.CloseRan := inferInstanceAs (Decidable (_ < _))

/-- **`kClosed` is final, and announced once.** -/
structure FinalClose : Prop where
  status : c.CloseRan → c.status = .kClosed
  once : c.disconnects ≤ 1

/-- The invariant behind `FinalClose`: nothing is announced before `close()` has run. -/
structure CloseInv : Prop where
  epoch_le : c.connectEpoch ≤ c.epoch
  closed : c.CloseRan → c.status = .kClosed ∧ c.disconnects ≤ 1
  unclosed : ¬ c.CloseRan → c.disconnects = 0

/-- A connect completion reaches a connection that `close()` has left. -/
def LateConnect : Event → Prop
  | .completion (.connect _ _) => c.CloseRan
  | _ => False

variable {c}

theorem disconnects_append {d : AsioTcpConnection} {es : List Effect}
    (h : d.history = c.history ++ es) :
    d.disconnects = es.foldl countDisconnected c.disconnects := by
  rw [disconnects, disconnects, h, List.foldl_append]

theorem CloseInv.finalClose (h : c.CloseInv) : c.FinalClose where
  status hran := (h.closed hran).1
  once := by
    by_cases hran : c.CloseRan
    · exact (h.closed hran).2
    · exact (h.unclosed hran).le.trans (Nat.zero_le 1)

/-! ## What an event does to the life of a connection

Four kinds of step: a request for a new connection, a run of `close()`, a connect completion, and
the rest, which touches none of this. -/

/-- `close()` and the callback it may owe. -/
theorem disconnects_close :
    c.close.disconnects
      = c.disconnects + if c.status ≠ .kClosed ∧ c.disconnectedCallback then 1 else 0 := by
  rw [disconnects_append close_history]
  split <;> simp [countDisconnected]

theorem CloseInv.close (h : c.CloseInv) : c.close.CloseInv := by
  have hran : c.close.CloseRan := by
    have := h.epoch_le
    simp only [CloseRan, close_frame]
    omega
  refine ⟨?_, fun _ => ⟨close_status, ?_⟩, fun hn => absurd hran hn⟩
  · exact Nat.le_of_lt hran
  rw [disconnects_close]
  by_cases hc : c.CloseRan
  · -- a second `close()` finds `kClosed` and announces nothing
    simpa [(h.closed hc).1] using (h.closed hc).2
  · rw [h.unclosed hc]
    split <;> simp

/-- The steps that are neither a request nor a `close()` nor a connect completion. -/
def SameLife (c c' : AsioTcpConnection) : Prop :=
  c'.status = c.status ∧ c'.epoch = c.epoch ∧ c'.connectEpoch = c.connectEpoch
    ∧ c'.disconnects = c.disconnects

theorem SameLife.closeInv {c' : AsioTcpConnection} (h : SameLife c c') (hc : c.CloseInv) :
    c'.CloseInv := by
  obtain ⟨hst, hep, hce, hd⟩ := h
  have hran : c'.CloseRan ↔ c.CloseRan := by simp only [CloseRan, hep, hce]
  refine ⟨by rw [hep, hce]; exact hc.epoch_le, fun h => ?_, fun h => ?_⟩
  · rw [hst, hd]
    exact hc.closed (hran.mp h)
  · rw [hd]
    exact hc.unclosed (fun h' => h (hran.mpr h'))

/-- A request for a new connection was made: everything is counted afresh. -/
def Requested (c' : AsioTcpConnection) : Prop := c'.connectEpoch = c'.epoch ∧ c'.disconnects = 0

theorem Requested.closeInv {c' : AsioTcpConnection} (h : c'.Requested) : c'.CloseInv :=
  ⟨h.1.le, fun hran => absurd h.1 (ne_of_lt hran), fun _ => h.2⟩

/-- A connect completion was handled. -/
def ConnectHandled (c : AsioTcpConnection) (error : Bool) (c' : AsioTcpConnection) : Prop :=
  c'.status = (if error then .kDisconnected else .kConnected) ∧ c'.epoch = c.epoch
    ∧ c'.connectEpoch = c.connectEpoch ∧ c'.disconnects = c.disconnects

variable {c' : AsioTcpConnection}

/-- **The calls**: `connect` and `async_connect` request, `close` and the destructor close. -/
theorem call_life (f : Call) :
    (c.call f).Requested ∨ SameLife c.close (c.call f) ∨ SameLife c (c.call f) := by
  have hd : (c.call f).disconnects = (c.effectsOfCall f).foldl countDisconnected c.disconnects :=
    disconnects_append (call_history f)
  cases f with
  | connect outcome => exact Or.inl ⟨by simp [call], hd⟩
  | asyncConnect resolved =>
    refine Or.inl ⟨by simp [call], hd.trans ?_⟩
    simp only [effectsOfCall, List.foldl_cons]
    split_ifs <;> rfl
  | asyncSend data =>
    refine Or.inr (Or.inr ⟨by simp [call], by simp [call], by simp [call], hd.trans ?_⟩)
    simp only [effectsOfCall, List.foldl_cons]
    split_ifs <;> rfl
  | close => exact Or.inr (Or.inl ⟨rfl, rfl, rfl, rfl⟩)
  | destroy => exact Or.inr (Or.inl ⟨rfl, rfl, rfl, rfl⟩)
  | setConnectedCallback set => exact Or.inr (Or.inr ⟨rfl, rfl, rfl, rfl⟩)
  | setDisconnectedCallback set => exact Or.inr (Or.inr ⟨rfl, rfl, rfl, rfl⟩)
  | setReceiveCallback set => exact Or.inr (Or.inr ⟨rfl, rfl, rfl, rfl⟩)

/-- **The completions**: `handle_connect` writes the status on its own, a read error closes, and
the others leave the life of the connection alone. -/
theorem complete_life {d : Completion} (h : c.complete d = some c') :
    (∃ op error, d = .connect op error ∧ ConnectHandled c error c')
      ∨ (∃ b, SameLife c b ∧ c' = b.close) ∨ SameLife c c' := by
  have hc := completed h
  have hd : c'.disconnects = (c.effectsOf d).foldl countDisconnected c.disconnects :=
    disconnects_append hc.history
  cases d with
  | connect op error =>
    refine Or.inl ⟨op, error, rfl, hc.status, hc.epoch, hc.connectEpoch, hd.trans ?_⟩
    simp only [effectsOf, List.foldl_append]
    cases error <;> split <;> rfl
  | send op accepted =>
    refine Or.inr (Or.inr ⟨hc.status, hc.epoch, hc.connectEpoch, hd.trans ?_⟩)
    simp only [effectsOf, List.foldl_append]
    cases accepted <;> split <;> rfl
  | fill op chunk => exact Or.inr (Or.inr ⟨hc.status, hc.epoch, hc.connectEpoch, hd⟩)
  | receive op early =>
    refine Or.inr (Or.inr ⟨hc.status, hc.epoch, hc.connectEpoch, hd.trans ?_⟩)
    simp only [effectsOf, List.foldl_append]
    cases early <;> split <;> rfl
  | receiveError op =>
    obtain ⟨_, _, rfl⟩ := complete_receiveError h
    exact Or.inr (Or.inl ⟨_, ⟨by simp, by simp, by simp, by simp [disconnects]⟩, rfl⟩)

/-! ## `kClosed` is final -/

/-- **What one event keeps**: everything but a late connect completion. -/
theorem CloseInv.step {e : Event} (hc : c.CloseInv) (h : machine.step c e = some c')
    (hlate : ¬ c.LateConnect e) : c'.CloseInv := by
  cases e with
  | call f =>
    rw [step_call h]
    rcases call_life (c := c) f with hreq | hclose | hsame
    · exact hreq.closeInv
    · exact hclose.closeInv hc.close
    · exact hsame.closeInv hc
  | completion d =>
    rcases complete_life (step_completion h) with
      ⟨op, error, rfl, -, hep, hce, hd⟩ | ⟨b, hsame, rfl⟩ | hsame
    · have hopen : ¬ c.CloseRan := hlate
      have hran : ¬ c'.CloseRan := by simpa only [CloseRan, hep, hce] using hopen
      exact ⟨by rw [hep, hce]; exact hc.epoch_le, fun h => absurd h hran,
        fun _ => by rw [hd]; exact hc.unclosed hopen⟩
    · exact (hsame.closeInv hc).close
    · exact hsame.closeInv hc
  | accept taken =>
    obtain ⟨_, heq⟩ := step_accept h
    have hsame : SameLife c c' := by
      rw [heq]
      refine ⟨by simp, by simp, by simp, ?_⟩
      rw [disconnects_append (acceptPeer_frame taken).2.2.2.2.2]
      cases taken <;> rfl
    exact hsame.closeInv hc

/-- **A late connect completion takes the status away from `kClosed`.** -/
theorem FinalClose.not_late {e : Event} (h : machine.step c e = some c') (hf : c'.FinalClose) :
    ¬ c.LateConnect e := by
  intro hlate
  match e, hlate with
  | .completion (.connect op error), hlate =>
    have hran : c.CloseRan := hlate
    obtain ⟨_, rfl⟩ := complete_connect (step_completion h)
    have hst := hf.status (by simpa [CloseRan] using hran)
    cases error <;> simp at hst

end AsioTcpConnection

open AsioTcpConnection

/-- **`kClosed` is final, and announced once, on exactly the runs that bring no connect completion
between `close()` and the next request for a connection.** -/
theorem finalClose_iff (net : Net) (memory : ReceiveBuffer) (ip : String) (port : ℤ)
    (es : List Event) :
    machine.Always FinalClose (construct net memory ip port) es
      ↔ machine.Along (fun c e _ => ¬ c.LateConnect e) (construct net memory ip port) es := by
  refine Machine.always_iff_along CloseInv (fun _ => CloseInv.finalClose)
    (fun _ _ _ hc hstep hlate => hc.step hstep hlate)
    (fun _ _ _ _ hstep hf => hf.not_late hstep) ?_
  exact ⟨le_rfl, fun h => absurd h (lt_irrefl 0), fun _ => rfl⟩

/-- A connect is closed before it completes; its abort is delivered, and the destructor runs. -/
theorem not_finalClose_of_lateAbort :
    ¬ machine.Always FinalClose (construct .loopback .zeroes "127.0.0.1" 8080)
      [.call (.setDisconnectedCallback true), .call (.asyncConnect true), .call .close,
        .completion (.connect ⟨0, 0⟩ true), .call .destroy] := by
  intro h
  have hend := h.last rfl
  exact absurd hend.once (by decide)

/-! ## No further I/O -/

/-- The initiation of a read or a write. -/
def Effect.isIo : Effect → Bool
  | .initiatedWrite _ => true
  | .initiatedRead _ => true
  | _ => false

/-- The initiation of a write. -/
def Effect.isWrite : Effect → Bool
  | .initiatedWrite _ => true
  | _ => false

/-- An error completion of a write or a read. -/
def Completion.isIoError : Completion → Bool
  | .send _ none => true
  | .receiveError _ => true
  | _ => false

namespace AsioTcpConnection

/-- How many reads and writes have been initiated. -/
def ioInitiated (c : AsioTcpConnection) : ℕ := c.history.countP Effect.isIo

/-- How many writes have been attempted. -/
def writeAttempts (c : AsioTcpConnection) : ℕ := c.history.countP Effect.isWrite

/-- **A completion starts nothing on a connection `close()` has left, and an I/O error leaves the
connection closed, with nothing tried again.** -/
structure QuietStep (c : AsioTcpConnection) (d : Completion) (c' : AsioTcpConnection) : Prop where
  quiet : c.CloseRan → c'.ioInitiated = c.ioInitiated
  error : d.isIoError → c'.status = .kClosed ∧ c'.ioInitiated = c.ioInitiated

/-- What a sequence of completions should do to a connection, whatever its queue holds: quiet steps,
and no more attempts to write than there are payloads queued. -/
def NoFurtherIo (c : AsioTcpConnection) (ds : List Completion) : Prop :=
  completions.Along QuietStep c ds
    ∧ completions.Always (fun c' => c'.writeAttempts ≤ c.writeAttempts + c.sendBuffer.length) c ds

/-- The completions that do no harm where they arrive. -/
def Harmless (c : AsioTcpConnection) : Completion → Prop
  | .connect _ error => error = false → ¬ c.CloseRan
  | .send _ (some _) => c.CloseRan → c.sendBuffer.length ≤ 1
  | .send _ none => c.status = .kClosed ∧ c.sendBuffer = []
  | .fill _ _ => True
  | .receive _ _ => ¬ c.CloseRan
  | .receiveError _ => True

variable {c c' : AsioTcpConnection}

/-- How many reads and writes a completion initiates. -/
def startsIo (c : AsioTcpConnection) : Completion → ℕ
  | .connect _ error => if error then 0 else 1
  | .send _ accepted => if c.unsent accepted.isNone = [] then 0 else 1
  | .receive _ _ => 1
  | _ => 0

/-- How many writes a completion initiates. -/
def startsWrite (c : AsioTcpConnection) : Completion → ℕ
  | .send _ accepted => if c.unsent accepted.isNone = [] then 0 else 1
  | _ => 0

/-- What a completion initiates is among its effects. -/
theorem countP_effectsOf (c : AsioTcpConnection) (d : Completion) :
    (c.effectsOf d).countP Effect.isIo = c.startsIo d
      ∧ (c.effectsOf d).countP Effect.isWrite = c.startsWrite d := by
  cases d with
  | connect op error => cases error <;> simp only [effectsOf] <;> split <;> exact ⟨rfl, rfl⟩
  | send op accepted =>
    cases accepted <;> simp only [effectsOf, startsIo, startsWrite] <;> split <;> exact ⟨rfl, rfl⟩
  | fill op chunk => exact ⟨rfl, rfl⟩
  | receive op early => cases early <;> simp only [effectsOf] <;> split <;> exact ⟨rfl, rfl⟩
  | receiveError op => simp only [effectsOf]; split <;> exact ⟨rfl, rfl⟩

theorem ioInitiated_complete {d : Completion} (h : c.complete d = some c') :
    c'.ioInitiated = c.ioInitiated + c.startsIo d := by
  rw [ioInitiated, (completed h).history, List.countP_append, (c.countP_effectsOf d).1, ioInitiated]

theorem writeAttempts_complete {d : Completion} (h : c.complete d = some c') :
    c'.writeAttempts = c.writeAttempts + c.startsWrite d := by
  rw [writeAttempts, (completed h).history, List.countP_append, (c.countP_effectsOf d).2,
    writeAttempts]

/-- **One completion is quiet exactly when it is harmless.** -/
theorem quietStep_iff {d : Completion} (h : c.complete d = some c') :
    QuietStep c d c' ↔ c.Harmless d := by
  have hio : c'.ioInitiated = c.ioInitiated ↔ c.startsIo d = 0 := by
    rw [ioInitiated_complete h, Nat.add_eq_left]
  have hst := (completed h).status
  have hquiet : QuietStep c d c' ↔ (c.CloseRan → c.startsIo d = 0)
      ∧ (d.isIoError → c'.status = .kClosed ∧ c.startsIo d = 0) := by
    rw [← hio]
    exact ⟨fun hq => ⟨hq.quiet, hq.error⟩, fun hq => ⟨hq.1, hq.2⟩⟩
  rw [hquiet]
  cases d with
  | connect op error => cases error <;> simp [startsIo, Completion.isIoError, Harmless]
  | send op accepted =>
    cases accepted with
    | some data =>
      have htail : c.sendBuffer.tail = [] ↔ c.sendBuffer.length ≤ 1 := by
        cases c.sendBuffer <;> simp
      simp [startsIo, Completion.isIoError, Harmless, unsent, htail]
    | none =>
      rw [hst]
      simp only [startsIo, Completion.isIoError, Harmless, unsent]
      constructor
      · intro hq
        simpa using hq.2
      · rintro ⟨hcl, hq⟩
        simp [hcl, hq]
  | fill op chunk => simp [startsIo, Completion.isIoError, Harmless]
  | receive op early => simp [startsIo, Completion.isIoError, Harmless]
  | receiveError op => simp [startsIo, Completion.isIoError, Harmless, hst]

/-- **A harmless completion pays for the write it attempts with the payload it drops.** -/
theorem writeAttempts_add_le {d : Completion} (h : c.complete d = some c') (hh : c.Harmless d) :
    c'.writeAttempts + c'.sendBuffer.length ≤ c.writeAttempts + c.sendBuffer.length := by
  rw [writeAttempts_complete h, (completed h).sendBuffer]
  cases d with
  | send op accepted =>
    cases accepted with
    | some data =>
      cases hq : c.sendBuffer with
      | nil => simp [startsWrite, unsent, hq]
      | cons p ps =>
        simp only [startsWrite, sendBufferAfter, unsent, hq, Option.isNone_some, Bool.false_eq_true,
          if_false, List.tail_cons, List.length_cons]
        split <;> omega
    | none => simp [startsWrite, unsent, hh.2]
  | _ => simp [startsWrite]

end AsioTcpConnection

/-- **What is left of a connection starts nothing, and a broken peer is given up, on exactly the
sequences of harmless completions**, where no callback calls back into the connection. -/
theorem noFurtherIo_iff (c : AsioTcpConnection) (ds : List Completion) :
    c.NoFurtherIo ds ↔ completions.Along (fun c d _ => c.Harmless d) c ds := by
  have hcongr : completions.Along QuietStep c ds
      ↔ completions.Along (fun c d _ => c.Harmless d) c ds :=
    Machine.along_congr (fun _ => True) (fun _ _ _ _ _ => trivial)
      (fun _ _ _ _ h => quietStep_iff (step_completion h)) trivial
  refine ⟨fun h => hcongr.mp h.1, fun h => ⟨hcongr.mpr h, ?_⟩⟩
  have hsum : completions.Always (fun c' => c'.writeAttempts + c'.sendBuffer.length
      ≤ c.writeAttempts + c.sendBuffer.length) c ds :=
    Machine.always_of_along _ (fun _ _ _ hle hstep hh =>
      (writeAttempts_add_le (step_completion hstep) hh).trans hle) le_rfl h
  exact hsum.mono fun _ hle => (Nat.le_add_right _ _).trans hle

/-- **A broken peer is tried for ever**: as long as its writes fail, the head of the queue is
written once more for each failure, and the status says nothing of it. -/
theorem retried_forever {c : AsioTcpConnection} (halive : c.alive) (hq : c.sendBuffer ≠ [])
    (hop : ⟨c.epoch, c.sendBuffer.head?⟩ ∈ c.writes) (n : ℕ) :
    ∃ c', completions.exec c (List.replicate n (.send ⟨c.epoch, c.sendBuffer.head?⟩ none)) = some c'
      ∧ c'.status = c.status ∧ c'.writeAttempts = c.writeAttempts + n := by
  induction n generalizing c with
  | zero => exact ⟨c, rfl, rfl, rfl⟩
  | succ n ih =>
    obtain ⟨c₁, h₁⟩ : ∃ c₁, c.complete (.send ⟨c.epoch, c.sendBuffer.head?⟩ none) = some c₁ :=
      ⟨_, if_pos hop⟩
    have hc := completed h₁
    have hbuf : c₁.sendBuffer = c.sendBuffer := hc.sendBuffer
    have hepoch : c₁.epoch = c.epoch := hc.epoch
    have hwrites : ⟨c.epoch, c.sendBuffer.head?⟩ ∈ c₁.writes := by
      rw [hc.writes]
      simp [unsent, hq]
    obtain ⟨c', hex, hst, hw⟩ := ih (c := c₁) (hc.alive.trans halive) (hbuf ▸ hq)
      (by rw [hbuf, hepoch]; exact hwrites)
    refine ⟨c', ?_, hst.trans hc.status, ?_⟩
    · have hstep : completions.step c (.send ⟨c.epoch, c.sendBuffer.head?⟩ none) = some c₁ := by
        simp [completions, machine, step, halive, h₁]
      rw [List.replicate_succ, Machine.exec_cons, hstep, Option.bind_some, ← hex, hbuf, hepoch]
    · rw [hw, writeAttempts_complete h₁]
      simp [startsWrite, unsent, hq]
      omega

/-- A failed write of a queued payload is tried again on a connection that stays `kConnected`; and a
read that was done when `close()` ran arms the next one. -/
theorem not_noFurtherIo_of_failed_write_or_late_read :
    (∃ c, machine.exec (construct .loopback .zeroes "127.0.0.1" 8080)
        [.call (.asyncConnect true), .completion (.connect ⟨0, 0⟩ false),
          .call (.asyncSend [1]), .call (.asyncSend [2])] = some c
      ∧ ¬ c.NoFurtherIo [.send ⟨0, none⟩ none])
    ∧ ∃ c, machine.exec (construct .loopback .zeroes "127.0.0.1" 8080)
        [.call (.asyncConnect true), .completion (.connect ⟨0, 0⟩ false),
          .completion (.fill ⟨0, none⟩ ⟨[7], by decide, by decide⟩), .call .close] = some c
      ∧ ¬ c.NoFurtherIo [.receive ⟨0, some ⟨[7], by decide, by decide⟩⟩ none] := by
  constructor
  · refine ⟨_, rfl, fun h => ?_⟩
    have hstep := (h.1 _ rfl).1.error rfl
    exact absurd hstep.1 (by decide)
  · refine ⟨_, rfl, fun h => ?_⟩
    have hstep := (h.1 _ rfl).1.quiet (by decide)
    exact absurd hstep (by decide)

end MultiplayerServer
