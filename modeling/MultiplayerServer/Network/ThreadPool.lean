import Mathlib.Algebra.Order.Ring.Int
import MultiplayerServer.Config.Reloading
import MultiplayerServer.Game.GameMain
import MultiplayerServer.Network.AsioServer

/-!
# Network/ThreadPool — how many threads the server starts

The concurrency is an `int` from the configuration, where no range is checked, to
`start_io_context_thread_pool`, where a counter of type `std::size_t` is compared with it: what is
below zero is converted to what is nearly `2 ^ w`.

* `threadPool_iff` — the pool has the size that is configured, or none where less than none is
  configured, in exactly the configurations that are not below zero.
-/

namespace MultiplayerServer

open Machinery

namespace AsioServer

/-- A counter below another one does not wrap. -/
theorem toNat_succ {w : ℕ} {i n : BitVec w} (h : i < n) : (i + 1).toNat = i.toNat + 1 := by
  have hlt : i.toNat < n.toNat := BitVec.lt_def.mp h
  have hbound := n.isLt
  rw [BitVec.toNat_add, BitVec.ofNat_eq_ofNat, BitVec.toNat_ofNat, Nat.add_mod_mod]
  exact Nat.mod_eq_of_lt (Nat.lt_of_le_of_lt hlt hbound)

/-- The loop of `start_io_context_thread_pool`, from a counter on, where a `std::size_t` has `w`
bits. -/
def threadPoolLoop {w : ℕ} (threadCount : ℤ) (i : BitVec w) (pool : ℕ) : ℕ :=
  if i < BitVec.ofInt w threadCount then threadPoolLoop threadCount (i + 1) (pool + 1) else pool
termination_by (BitVec.ofInt w threadCount).toNat - i.toNat
decreasing_by
  rename_i h
  have hlt : i.toNat < (BitVec.ofInt w threadCount).toNat := BitVec.lt_def.mp h
  rw [toNat_succ h]
  omega

/-- `start_io_context_thread_pool`, on a machine whose `std::size_t` has `w` bits. -/
def startThreadPool (w : ℕ) (s : AsioServer) : AsioServer :=
  let started := threadPoolLoop s.ioContextThreadCount (0 : BitVec w) 0
  { s with
    ioContextThreadsPool := s.ioContextThreadsPool + started
    joinable := s.joinable + started }

/-- **The loop ends after as many turns as the converted count says.** -/
theorem threadPoolLoop_eq {w : ℕ} (threadCount : ℤ) (i : BitVec w) (pool : ℕ) :
    threadPoolLoop threadCount i pool
      = pool + ((BitVec.ofInt w threadCount).toNat - i.toNat) := by
  fun_induction threadPoolLoop threadCount i pool with
  | case1 i pool h ih =>
    have hlt : i.toNat < (BitVec.ofInt w threadCount).toNat := BitVec.lt_def.mp h
    rw [ih, toNat_succ h]
    omega
  | case2 i pool h =>
    have hle : (BitVec.ofInt w threadCount).toNat ≤ i.toNat :=
      Nat.le_of_not_lt fun hlt => h (BitVec.lt_def.mpr hlt)
    omega

/-- On a machine of 64 bits that is what `start` does. -/
theorem startThreadPool_eq (s : AsioServer) :
    s.startThreadPool 64 = s.startIoContextThreadPool := by
  simp [startThreadPool, startIoContextThreadPool, threadCount, threadPoolLoop_eq]

/-- **The converted count** of an `int` is the count, or what is `2 ^ w` above it. -/
theorem toNat_ofInt_eq_iff {w : ℕ} (hw : 32 ≤ w) {n : ℤ} (hlo : -0x80000000 ≤ n)
    (hhi : n ≤ 0x7fffffff) : (BitVec.ofInt w n).toNat = (max 0 n).toNat ↔ 0 ≤ n := by
  have hpow : (2 : ℤ) ^ 32 ≤ 2 ^ w := by exact_mod_cast Nat.pow_le_pow_right (by decide) hw
  rw [BitVec.toNat_ofInt]
  push_cast
  rcases lt_or_ge n 0 with hn | hn
  · have hwrap : n % 2 ^ w = n + 2 ^ w := by
      rw [← Int.add_emod_right, Int.emod_eq_of_lt (by omega) (by omega)]
    refine iff_of_false ?_ (by omega)
    rw [hwrap, max_eq_left hn.le]
    omega
  · refine iff_of_true ?_ hn
    rw [Int.emod_eq_of_lt hn (by omega), max_eq_right hn]

/-- The server `main` makes for a game: it is told the address, the port and the concurrency. -/
def ofGameMain (g : GameMain) : AsioServer :=
  { construct g.ip g.port true false with
    ioContextThreadCount := g.concurrency
    onConnectionAcceptedCallback := true }

end AsioServer

/-! ## What is configured -/

namespace GameConfig

variable {tree : Json} {g : GameConfig}

/-- A concurrency an `int` can hold. -/
def IntConcurrency (_ : String) : ConfigValue → Prop
  | .server config => -0x80000000 ≤ config.concurrency ∧ config.concurrency ≤ 0x7fffffff
  | _ => True

/-- `load_server_config` checks no range, but stores what `GetInt` gave it. -/
theorem intConcurrency_of_serverSection {config : AsioServerConfig}
    (h : serverSection tree = some config) :
    -0x80000000 ≤ config.concurrency ∧ config.concurrency ≤ 0x7fffffff := by
  obtain ⟨server, -, h⟩ := Option.bind_eq_some_iff.mp h
  obtain ⟨ip, -, h⟩ := Option.bind_eq_some_iff.mp h
  obtain ⟨port, -, h⟩ := Option.bind_eq_some_iff.mp h
  obtain ⟨concurrency, -, h⟩ := Option.bind_eq_some_iff.mp h
  obtain ⟨address, -, h⟩ := Option.bind_eq_some_iff.mp h
  obtain ⟨number, -, h⟩ := Option.bind_eq_some_iff.mp h
  obtain ⟨count, hcount, h⟩ := Option.bind_eq_some_iff.mp h
  obtain rfl := Option.some.inj h
  exact range_of_getInt hcount

theorem intConcurrency_of_mem_entries {p : String × ConfigValue} (h : p ∈ entries tree) :
    IntConcurrency p.1 p.2 := by
  refine forall_mem_entries (fun server hserver => ?_) (fun _ _ _ _ _ => trivial)
    (fun _ => trivial) (fun _ => trivial) p h
  exact intConcurrency_of_serverSection hserver

/-- **A concurrency that was loaded is an `int`**, and may be any. -/
theorem intConcurrency_of_loadConfig {doc : Option Json} {config : AsioServerConfig}
    (hload : ({} : GameConfig).loadConfig doc = some g) (h : g.getServerIpPort = some config) :
    -0x80000000 ≤ config.concurrency ∧ config.concurrency ≤ 0x7fffffff := by
  have hall : ∀ (key : String) (value : ConfigValue), g.config[key]? = some value →
      IntConcurrency key value := by
    cases doc with
    | none =>
      obtain rfl := Option.some.inj hload
      exact fun _ _ h => by simp at h
    | some tree =>
      rw [loadConfig_eq hload]
      exact forall_insertMany (fun _ _ h => by simp at h) fun p hp =>
        intConcurrency_of_mem_entries hp
  obtain ⟨value, hvalue, hcast⟩ := Option.bind_eq_some_iff.mp h
  cases value with
  | server config' =>
    obtain rfl := Option.some.inj hcast
    exact hall _ _ hvalue
  | _ => cases hcast

/-- A document with a server section and no other. -/
def serverDocument (concurrency : ℤ) : Json :=
  .object [("server", .object [("ip", .string "127.0.0.1"), ("port", .int 8080),
    ("concurrency", .int concurrency)])]

/-- **Every `int` is stored**, whatever its sign. -/
theorem loadConfig_serverDocument {n : ℤ} (hlo : -0x80000000 ≤ n) (hhi : n ≤ 0x7fffffff) :
    ({} : GameConfig).loadConfig (some (serverDocument n))
      = some ⟨(∅ : Std.ExtTreeMap String ConfigValue).insert serverConfigStr
        (.server ⟨"127.0.0.1", 8080, n⟩)⟩ := by
  have hint : (Json.int n).getInt = some n := if_pos (decide_eq_true ⟨hlo, hhi⟩)
  have hserver : ({} : GameConfig).loadServerConfig (serverDocument n)
      = (do return ⟨(∅ : Std.ExtTreeMap String ConfigValue).insert serverConfigStr
        (.server ⟨"127.0.0.1", 8080, ← (Json.int n).getInt⟩)⟩) := rfl
  rw [hint] at hserver
  rw [loadConfig, hserver]
  rfl

end GameConfig

open AsioServer

/-- **The pool has the configured size, or none where that is below zero, exactly where it is not
below zero**: for every concurrency that is loaded and passed on, on every machine whose
`std::size_t` has at least the width of an `int`. -/
theorem threadPool_iff {w : ℕ} (hw : 32 ≤ w) {doc : Option Json} {gameConfig : GameConfig}
    (hload : ({} : GameConfig).loadConfig doc = some gameConfig) {config : AsioServerConfig}
    (hconfig : gameConfig.getServerIpPort = some config) (world : World) :
    ((ofGameMain (GameMain.construct gameConfig world)).startThreadPool w).ioContextThreadsPool
        = (max 0 config.concurrency).toNat
      ↔ 0 ≤ config.concurrency := by
  obtain ⟨hlo, hhi⟩ := GameConfig.intConcurrency_of_loadConfig hload hconfig
  have hcount : (ofGameMain (GameMain.construct gameConfig world)).ioContextThreadCount
      = config.concurrency := by
    rw [GameMain.construct, hconfig]
    rfl
  have hpool : ((ofGameMain (GameMain.construct gameConfig world)).startThreadPool
      w).ioContextThreadsPool = (BitVec.ofInt w config.concurrency).toNat := by
    rw [startThreadPool, threadPoolLoop_eq, hcount]
    simp [ofGameMain, AsioServer.construct]
  rw [hpool, toNat_ofInt_eq_iff hw hlo hhi]

/-- A concurrency of two. -/
theorem threadPool_iff_two :
    ((ofGameMain (GameMain.construct ⟨(∅ : Std.ExtTreeMap String ConfigValue).insert
        GameConfig.serverConfigStr (.server ⟨"127.0.0.1", 8080, 2⟩)⟩
        (World.construct fun _ => "x"))).startThreadPool 64).ioContextThreadsPool
        = (max 0 (2 : ℤ)).toNat
      ↔ 0 ≤ (2 : ℤ) :=
  threadPool_iff (by decide)
    (GameConfig.loadConfig_serverDocument (n := 2) (by decide) (by decide))
    (by decide : _ = some (⟨"127.0.0.1", 8080, 2⟩ : AsioServerConfig))
    (World.construct fun _ => "x")

/-- A concurrency of minus one. -/
theorem not_threadPool_of_negative :
    ∃ gameConfig, ({} : GameConfig).loadConfig (some (GameConfig.serverDocument (-1)))
        = some gameConfig
      ∧ ((ofGameMain (GameMain.construct gameConfig
        (World.construct fun _ => "x"))).startThreadPool 64).ioContextThreadsPool
        ≠ (max 0 (-1 : ℤ)).toNat := by
  refine ⟨_, GameConfig.loadConfig_serverDocument (by decide) (by decide), ?_⟩
  rw [startThreadPool, threadPoolLoop_eq]
  decide

end MultiplayerServer
