import MultiplayerServer.Network.AsioServer

/-!
# Network/Lifecycle — starting, stopping and destroying a server

`start` and `stop` both guard on `status_`.  `start_tcp_accept` is the only function that writes it,
and `kRunning` the only value it writes: a server without TCP never runs, and no server is ever
stopped, so `stop` does all it does each time it is called, the call of the destructor included.

* `lifecycle_iff` — the lifecycle is the documented one in exactly the runs that leave stopping to
  the destructor, destroy no server that was not started with a close callback set, and do not
  repeat `start` on a server without TCP.
-/

namespace MultiplayerServer

open Machinery

namespace AsioServer

variable (net : Net) (memory : ReceiveBuffer) (s : AsioServer)

/-- `is_running` -/
def isRunning : Bool := s.status = .kRunning

/-- `is_stopped` -/
def isStopped : Bool := s.status = .kStopped

/-- How often `on_server_closed_callback_` was invoked. -/
def closes : ℕ := s.history.count .closed

/-- What starting leaves of a server: its configuration, and how often it closed. -/
structure Kept (s s' : AsioServer) : Prop where
  hasTcp : s'.hasTcp = s.hasTcp
  callback : s'.onServerClosedCallback = s.onServerClosedCallback
  threadCount : s'.ioContextThreadCount = s.ioContextThreadCount
  closes : s'.closes = s.closes

/-- What `start` does: nothing on a running server, nothing but to throw, or all it has to. -/
inductive Starts (s : AsioServer) : Except SystemError Bool → AsioServer → Prop
  | running (hrunning : s.status = .kRunning) : Starts s (.ok true) s
  | threw {e : SystemError} {s' : AsioServer} (hidle : s.status ≠ .kRunning)
      (htcp : s.hasTcp = true) (hkept : s.Kept s') (hstatus : s'.status = s.status) :
      Starts s (.error e) s'
  | begun {s' : AsioServer} (hidle : s.status ≠ .kRunning) (hkept : s.Kept s')
      (hstatus : s'.status = if s.hasTcp then .kRunning else s.status)
      (hpool : s'.ioContextThreadsPool
        = s.ioContextThreadsPool + threadCount s.ioContextThreadCount) : Starts s (.ok true) s'

variable {s}

/-- `start_tcp_accept` keeps the configuration, and the pool too. -/
theorem kept_startTcpAccept :
    s.Kept (s.startTcpAccept net memory).2
      ∧ (s.startTcpAccept net memory).2.ioContextThreadsPool = s.ioContextThreadsPool := by
  cases hr : net.resolve s.ipAddress s.port with
  | none =>
    refine ⟨?_, by simp [startTcpAccept, hr]⟩
    constructor <;> simp [startTcpAccept, hr]
  | some endpoint =>
    cases hb : net.binds endpoint s.acceptor.toList <;>
      refine ⟨?_, by simp [startTcpAccept, makeAcceptor, asyncAccept, hr, hb]⟩ <;>
      constructor <;> simp [startTcpAccept, makeAcceptor, asyncAccept, closes, hr, hb]

/-- It sets the status unless it throws. -/
theorem startTcpAccept_status :
    (∀ e, (s.startTcpAccept net memory).1 = .error e →
        (s.startTcpAccept net memory).2.status = s.status)
      ∧ ((s.startTcpAccept net memory).1 = .ok () →
        (s.startTcpAccept net memory).2.status = .kRunning) := by
  cases hr : net.resolve s.ipAddress s.port with
  | none => simp [startTcpAccept, hr]
  | some endpoint =>
    cases hb : net.binds endpoint s.acceptor.toList <;>
      simp [startTcpAccept, makeAcceptor, asyncAccept, hr, hb]

theorem starts (s : AsioServer) :
    Starts s (s.start net memory).1 (s.start net memory).2 := by
  by_cases hrunning : s.status = .kRunning
  · rw [start, if_pos hrunning]
    exact .running hrunning
  cases htcp : s.hasTcp with
  | false =>
    have hs : s.start net memory = (.ok true, s.startIoContextThreadPool) := by
      simp [start, hrunning, htcp, startUdpAccept]
    rw [hs]
    exact .begun hrunning ⟨rfl, rfl, rfl, rfl⟩ (by simp [startIoContextThreadPool, htcp]) rfl
  | true =>
    obtain ⟨hkept, hpool⟩ := kept_startTcpAccept (s := s) net memory
    obtain ⟨hthrew, hbegan⟩ := startTcpAccept_status (s := s) net memory
    rcases h : s.startTcpAccept net memory with ⟨error | _, s₁⟩
    · have hs : s.start net memory = (.error error, s₁) := by simp [start, hrunning, htcp, h]
      rw [h] at hkept hthrew
      rw [hs]
      exact .threw hrunning htcp hkept (hthrew error rfl)
    · have hs : s.start net memory = (.ok true, s₁.startIoContextThreadPool) := by
        simp [start, hrunning, htcp, h, startUdpAccept]
      rw [h] at hkept hpool hbegan
      rw [hs]
      refine .begun hrunning ⟨hkept.hasTcp, hkept.callback, hkept.threadCount, hkept.closes⟩ ?_ ?_
      · simpa [startIoContextThreadPool, htcp] using hbegan rfl
      · rw [startIoContextThreadPool, hpool, hkept.threadCount]

theorem starts_eq {result : Except SystemError Bool} {s' : AsioServer}
    (h : s.start net memory = (result, s')) : Starts s result s' := by
  have hstarts := s.starts net memory
  rwa [h] at hstarts

/-- **`stop` on a server that is not stopped, and none ever is**: it succeeds, calls the callback
and leaves the status as it is. -/
theorem stop_of_ne_stopped (h : s.status ≠ .kStopped) :
    s.stop = (true, if s.onServerClosedCallback then
        { s with stopped := true, joinable := 0, history := s.history ++ [.closed] }
      else { s with stopped := true, joinable := 0 }) := by
  rw [stop, if_neg h]
  rfl

end AsioServer

/-! ## The lifecycle -/

inductive LifecycleEvent
  | start
  | stop
  /-- The destructor, which calls `stop`. -/
  | destroy
  deriving DecidableEq

/-- What its owner knows of a server from the calls made so far. -/
inductive Phase
  /-- No `start` has returned. -/
  | fresh
  /-- A `start` has returned, and no `stop` since. -/
  | started
  /-- A `stop` has returned, and no `start` since. -/
  | stopped
  deriving DecidableEq

/-- A server, with what its owner knows of it. -/
structure Lifecycle where
  server : AsioServer
  phase : Phase := .fresh
  /-- How many calls of `start` took effect: they returned, and the server was not started. -/
  starts : ℕ := 0
  destroyed : Bool := false

namespace Lifecycle

variable (net : Net) (memory : ReceiveBuffer)

/-- A `start` has returned. -/
def returned (l : Lifecycle) (server : AsioServer) : Lifecycle :=
  if l.phase = .started then { l with server := server }
  else { l with server := server, phase := .started, starts := l.starts + 1 }

/-- One call. -/
def call (l : Lifecycle) : LifecycleEvent → Lifecycle
  | .start =>
    match l.server.start net memory with
    | (.error _, server) => { l with server := server }
    | (.ok _, server) => l.returned server
  | .stop => { l with server := l.server.stop.2, phase := .stopped }
  | .destroy => { l with server := l.server.stop.2, phase := .stopped, destroyed := true }

/-- One call of a server that has not been destroyed. -/
def step (l : Lifecycle) (e : LifecycleEvent) : Option Lifecycle :=
  if l.destroyed then none else some (l.call net memory e)

/-- The lives of a server. -/
def machine : Machine Lifecycle LifecycleEvent := ⟨step net memory⟩

/-- How many of the starts that took effect have been ended. -/
def ended (l : Lifecycle) : ℕ := l.starts - if l.phase = .started then 1 else 0

/-- **The documented lifecycle**, of one call. -/
structure Lawful (l : Lifecycle) (e : LifecycleEvent) (l' : Lifecycle) : Prop where
  /-- A `stop` that returned true has stopped the server. -/
  stopped : e = .stop → l.server.stop.1 = true →
    l'.server.isStopped = true ∧ l'.server.isRunning = false
  /-- A further one has no effect, and neither has that of the destructor. -/
  again : e ≠ .start → l.phase = .stopped → l'.server = l.server
  /-- A `start` on a started server creates no threads. -/
  threads : e = .start → l.phase = .started →
    l'.server.ioContextThreadsPool = l.server.ioContextThreadsPool
  /-- The close callback is invoked once for each start that was ended. -/
  closed : l'.server.closes = if l'.server.onServerClosedCallback then l'.ended else 0

/-- Stopping is left to the destructor, which has a start to end or nobody to tell; and a `start` on
a started server finds it running, or has no threads to create. -/
def Orderly (l : Lifecycle) (e : LifecycleEvent) (_ : Lifecycle) : Prop :=
  match e with
  | .start => l.phase = .started →
    l.server.hasTcp = true ∨ AsioServer.threadCount l.server.ioContextThreadCount = 0
  | .stop => False
  | .destroy => l.phase = .started ∨ l.server.onServerClosedCallback = false

/-- A server that has been started at most once and never stopped. -/
structure Open (l : Lifecycle) : Prop where
  status : l.server.status ≠ .kStopped
  phase : l.phase = .fresh ∧ l.starts = 0 ∨ l.phase = .started ∧ l.starts = 1
  running : l.server.status = .kRunning ↔ l.phase = .started ∧ l.server.hasTcp = true
  closes : l.server.closes = 0

variable {l l' : Lifecycle} {e : LifecycleEvent}

theorem Open.not_stopped (h : l.Open) : l.phase ≠ .stopped := by
  rcases h.phase with ⟨hp, -⟩ | ⟨hp, -⟩ <;> simp [hp]

/-- Nothing has been ended yet. -/
theorem Open.ended (h : l.Open) : l.ended = 0 := by
  rcases h.phase with ⟨hp, hs⟩ | ⟨hp, hs⟩ <;> simp [Lifecycle.ended, hp, hs]

theorem step_call (h : (machine net memory).step l e = some l') :
    l.destroyed = false ∧ l' = l.call net memory e := by
  simp only [machine, step, Option.ite_none_left_eq_some, Option.some.injEq] at h
  exact ⟨by simpa using h.1, h.2.symm⟩

/-- What is asked of a `start`, while nothing has been ended. -/
theorem lawful_start_iff (hopen : l'.Open) :
    Lawful l .start l' ↔ (l.phase = .started →
      l'.server.ioContextThreadsPool = l.server.ioContextThreadsPool) := by
  refine ⟨fun h => h.threads rfl, fun h => ⟨nofun, fun hne => (hne rfl).elim, fun _ => h, ?_⟩⟩
  rw [hopen.closes, hopen.ended, ite_self]

/-- A `start` that goes through leaves the server open, and may leave its threads alone only where
it is orderly. -/
theorem Open.begun (h : l.Open) {result : Bool} {server : AsioServer}
    (hstarts : AsioServer.Starts l.server (.ok result) server) :
    (l.returned server).Open ∧ ((l.phase = .started →
      (l.returned server).server.ioContextThreadsPool = l.server.ioContextThreadsPool)
      ↔ Orderly l .start (l.returned server)) := by
  cases hstarts with
  | running hrunning =>
    obtain ⟨hp, htcp⟩ := h.running.mp hrunning
    rw [returned, if_pos hp]
    exact ⟨h, fun _ _ => Or.inl htcp, fun _ _ => rfl⟩
  | begun hidle hkept hstatus hpool =>
    have hstop : server.status ≠ .kStopped := by
      rw [hstatus]
      split
      · exact nofun
      · exact h.status
    rcases h.phase with ⟨hp, hzero⟩ | ⟨hp, hone⟩
    · rw [returned, if_neg (by simp [hp])]
      refine ⟨⟨hstop, Or.inr ⟨rfl, by simp [hzero]⟩, ?_, hkept.closes.trans h.closes⟩,
        fun _ hst => by simp [hp] at hst, fun _ hst => by simp [hp] at hst⟩
      rw [hstatus, hkept.hasTcp]
      cases htcp : l.server.hasTcp <;> simp [hidle]
    · have htcp : l.server.hasTcp = false :=
        Bool.eq_false_iff.mpr fun htcp => hidle (h.running.mpr ⟨hp, htcp⟩)
      rw [returned, if_pos hp]
      refine ⟨⟨hstop, h.phase, ?_, hkept.closes.trans h.closes⟩, ?_⟩
      · rw [hstatus, hkept.hasTcp, htcp]
        simp [hidle]
      · simp [Orderly, hp, htcp, hpool]

/-- **A `start` is lawful exactly when it is orderly**, and keeps the server open. -/
theorem Open.start (h : l.Open) :
    (l.call net memory .start).Open
      ∧ (Lawful l .start (l.call net memory .start)
        ↔ Orderly l .start (l.call net memory .start)) := by
  suffices hcall : (l.call net memory .start).Open ∧ ((l.phase = .started →
      (l.call net memory .start).server.ioContextThreadsPool = l.server.ioContextThreadsPool)
      ↔ Orderly l .start (l.call net memory .start)) from
    ⟨hcall.1, (lawful_start_iff hcall.1).trans hcall.2⟩
  rcases hs : l.server.start net memory with ⟨e | result, server⟩
  · have hcall : l.call net memory .start = { l with server := server } := by rw [call, hs]
    have hstarts : AsioServer.Starts l.server (.error e) server :=
      AsioServer.starts_eq net memory hs
    rw [hcall]
    cases hstarts with
    | threw hidle htcp hkept hstatus =>
      have hfresh : l.phase ≠ .started := fun hp => hidle (h.running.mpr ⟨hp, htcp⟩)
      refine ⟨⟨hstatus ▸ h.status, h.phase, ?_, hkept.closes.trans h.closes⟩,
        fun _ hp => (hfresh hp).elim, fun _ hp => (hfresh hp).elim⟩
      rw [hstatus, hkept.hasTcp]
      exact h.running
  · have hcall : l.call net memory .start = l.returned server := by rw [call, hs]
    have hstarts : AsioServer.Starts l.server (.ok result) server :=
      AsioServer.starts_eq net memory hs
    rw [hcall]
    exact h.begun hstarts

/-- No `stop` is lawful. -/
theorem Open.not_lawful_stop (h : l.Open) : ¬ Lawful l .stop (l.call net memory .stop) := by
  intro hlawful
  have hstop := AsioServer.stop_of_ne_stopped h.status
  have hstopped := (hlawful.stopped rfl (by rw [hstop])).1
  rw [call, hstop] at hstopped
  refine h.status ?_
  cases hcb : l.server.onServerClosedCallback <;>
    simpa [hcb, AsioServer.isStopped] using hstopped

/-- **A destruction is lawful exactly when it has a start to end**, or nobody to tell. -/
theorem Open.destroy_iff (h : l.Open) :
    Lawful l .destroy (l.call net memory .destroy)
      ↔ Orderly l .destroy (l.call net memory .destroy) := by
  have hstop := AsioServer.stop_of_ne_stopped h.status
  have hclosed : Lawful l .destroy (l.call net memory .destroy)
      ↔ (l.server.onServerClosedCallback = true → l.starts = 1) := by
    have hcount : (l.server.history ++ [ServerEffect.closed]).count .closed = 1 := by
      rw [List.count_append, show l.server.history.count .closed = 0 from h.closes]
      rfl
    have hiff : (l.call net memory .destroy).server.closes
          = (if (l.call net memory .destroy).server.onServerClosedCallback
            then (l.call net memory .destroy).ended else 0)
        ↔ (l.server.onServerClosedCallback = true → l.starts = 1) := by
      rw [call, hstop]
      cases hcb : l.server.onServerClosedCallback
      · simpa [hcb, AsioServer.closes] using h.closes
      · simp [Lifecycle.ended, AsioServer.closes, hcount, eq_comm]
    exact ⟨fun hl => hiff.mp hl.closed,
      fun hc => ⟨nofun, fun _ hp => (h.not_stopped hp).elim, nofun, hiff.mpr hc⟩⟩
  rw [hclosed, Orderly]
  rcases h.phase with ⟨hp, hs⟩ | ⟨hp, hs⟩ <;> simp [hp, hs]

/-- A server that has just been constructed and configured. -/
def begin (ip : String) (port : ℤ) (hasTcp hasUdp : Bool) (count : ℤ) (callback : Bool) :
    Lifecycle where
  server := { AsioServer.construct ip port hasTcp hasUdp with
    ioContextThreadCount := count
    onServerClosedCallback := callback }

theorem open_begin (ip : String) (port : ℤ) (hasTcp hasUdp : Bool) (count : ℤ) (callback : Bool) :
    (begin ip port hasTcp hasUdp count callback).Open where
  status := nofun
  phase := Or.inl ⟨rfl, rfl⟩
  running := ⟨nofun, fun h => nomatch h.1⟩
  closes := rfl

end Lifecycle

open Lifecycle

/-- **The lifecycle is the documented one in exactly the orderly runs**, for every configuration. -/
theorem lifecycle_iff (net : Net) (memory : ReceiveBuffer) (ip : String) (port : ℤ)
    (hasTcp hasUdp : Bool) (count : ℤ) (callback : Bool) (es : List LifecycleEvent) :
    (Lifecycle.machine net memory).Along Lawful (begin ip port hasTcp hasUdp count callback) es
      ↔ (Lifecycle.machine net memory).Along Orderly
        (begin ip port hasTcp hasUdp count callback) es := by
  refine Machine.along_iff_along (fun l => l.destroyed = false → l.Open) ?_ ?_
    (fun _ => open_begin ip port hasTcp hasUdp count callback)
  · intro l e l' h hstep horderly
    obtain ⟨hdestroyed, rfl⟩ := step_call net memory hstep
    cases e with
    | start => exact fun _ => (Open.start net memory (h hdestroyed)).1
    | stop => exact horderly.elim
    | destroy => exact nofun
  · intro l e l' h hstep
    obtain ⟨hdestroyed, rfl⟩ := step_call net memory hstep
    cases e with
    | start => exact (Open.start net memory (h hdestroyed)).2
    | stop => exact iff_of_false (Open.not_lawful_stop net memory (h hdestroyed)) id
    | destroy => exact Open.destroy_iff net memory (h hdestroyed)

/-- A TCP server that is started and stopped. -/
theorem not_lawful_of_stop :
    ¬ (Lifecycle.machine .loopback .zeroes).Along Lawful
      (begin "localhost" 8080 true false 2 true) [.start, .stop] := by
  intro h
  have hstopped := (((h _ rfl).2 _ rfl).1.stopped rfl rfl).1
  revert hstopped
  decide

end MultiplayerServer
