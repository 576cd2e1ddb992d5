import MultiplayerServer.Machinery.Decimal
import MultiplayerServer.Machinery.Substr
import MultiplayerServer.Game.Entity

/-!
# Game/EntityProxy — the position of an entity, as a text

`EntityProxy` writes itself as `ip_port_id` and reads that back: the address up to the first
underscore, the id from after the last, and the port by `std::stoi` from what is between the two.
Where there is one underscore or none, the positions go round and the pieces overlap.

* `parsePos_getPos_iff` — what is written is read back, exactly where neither end has an underscore;
* `parsesExactly_iff` — the texts on which reading agrees with the grammar;
* `intact_iff` — the texts whose refusal leaves the proxy as it was.
-/

namespace MultiplayerServer

open Machinery

namespace EntityProxy

variable (p : EntityProxy)

/-- `get_pos` -/
def getPos : String := p.ip ++ "_" ++ toString p.port ++ "_" ++ p.entityId

/-- `parse_pos`, with its result; what has been assigned when an exception is thrown stays. -/
def parsePos (pos : String) : Bool × EntityProxy :=
  let pos1 := find pos.toList '_'
  let pos2 := rfind pos.toList '_'
  match substr pos.toList 0 pos1 with
  | none => (false, p)
  | some ip =>
    let p := { p with ip := String.ofList ip }
    match (substr pos.toList (pos1 + 1) (pos2 - pos1 - 1)).bind stoi with
    | none => (false, p)
    | some port =>
      let p := { p with port := port }
      match substr pos.toList (pos2 + 1) npos with
      | none => (false, p)
      | some entityId => (true, { p with entityId := String.ofList entityId, validate := true })

/-- A `std::string` is no longer than the positions in it. -/
def Fits (pos : String) : Prop := pos.toList.length < npos.toNat

instance (pos : String) : Decidable (Fits pos) := inferInstanceAs (Decidable (_ < _))

/-- The text `std::stoi` is given. -/
def portText (pos : String) : List Char := between pos.toList '_'

variable {p} {pos : String}

/-- **What `parse_pos` does**: the address is stored before the port is read. -/
theorem parsePos_eq (h : Fits pos) : p.parsePos pos =
    match stoi (portText pos) with
    | none => (false, { p with ip := String.ofList (beforeFirst pos.toList '_') })
    | some port => (true,
      { ip := String.ofList (beforeFirst pos.toList '_')
        port := port
        entityId := String.ofList (afterLast pos.toList '_')
        validate := true }) := by
  simp only [parsePos, substr_find h, substr_between h, substr_rfind h, Option.bind_some, portText]

/-- Whether a text is accepted is a matter of the port alone. -/
theorem fst_parsePos (h : Fits pos) : (p.parsePos pos).1 = (stoi (portText pos)).isSome := by
  rw [parsePos_eq h]
  rcases stoi (portText pos) with _ | port <;> rfl

/-! ## Positions -/

/-- The characters of a position. -/
theorem toList_getPos : p.getPos.toList
    = p.ip.toList ++ '_' :: ((toString p.port).toList ++ '_' :: p.entityId.toList) := by
  simp [getPos]

/-- **Where the ends have no underscore**, the pieces are those that were put together. -/
theorem pieces_getPos (hip : '_' ∉ p.ip.toList) (hid : '_' ∉ p.entityId.toList) :
    beforeFirst p.getPos.toList '_' = p.ip.toList ∧ portText p.getPos = (toString p.port).toList
      ∧ afterLast p.getPos.toList '_' = p.entityId.toList := by
  have hlast : p.getPos.toList
      = (p.ip.toList ++ '_' :: (toString p.port).toList) ++ '_' :: p.entityId.toList := by
    rw [toList_getPos]
    simp
  refine ⟨?_, ?_, ?_⟩
  · rw [toList_getPos, beforeFirst_append hip]
  · rw [portText, between, toList_getPos, afterFirst_append hip, beforeLast_append hid]
  · rw [hlast, afterLast_append hid]

/-- **…so the proxy is read back.** -/
theorem parsePos_getPos {q : EntityProxy} (hip : '_' ∉ q.ip.toList) (hid : '_' ∉ q.entityId.toList)
    (hport : IsInt32 q.port) (h : Fits q.getPos) :
    p.parsePos q.getPos = (true, { q with validate := true }) := by
  obtain ⟨hfirst, hbetween, hlast⟩ := pieces_getPos hip hid
  rw [parsePos_eq h, hbetween, stoi_toString hport, hfirst, hlast]
  simp

/-- What was parsed is what `set_proxy` was given. -/
structure Restores (result : Bool × EntityProxy) (id ip : String) (port : ℤ) : Prop where
  returned : result.1 = true
  ip : result.2.ip = ip
  port : result.2.port = port
  entityId : result.2.entityId = id

/-- A position: an address, a port and an id, as `get_pos` writes them. -/
def Position (pos : String) : Prop :=
  ∃ ip id : String, ∃ port : ℤ, '_' ∉ ip.toList ∧ '_' ∉ id.toList ∧ IsInt32 port
    ∧ pos = ip ++ "_" ++ toString port ++ "_" ++ id

/-- A position is what some proxy writes. -/
theorem position_iff_getPos :
    Position pos ↔ ∃ p : EntityProxy, '_' ∉ p.ip.toList ∧ '_' ∉ p.entityId.toList
      ∧ IsInt32 p.port ∧ p.getPos = pos := by
  constructor
  · rintro ⟨ip, id, port, hip, hid, hport, rfl⟩
    exact ⟨⟨ip, port, id, true⟩, hip, hid, hport, rfl⟩
  · rintro ⟨p, hip, hid, hport, rfl⟩
    exact ⟨p.ip, p.entityId, p.port, hip, hid, hport, rfl⟩

/-- A text with two underscores is a text between two ends that have none. -/
theorem exists_pieces (h : 2 ≤ pos.toList.count '_') :
    ∃ a b : List Char, '_' ∉ a ∧ '_' ∉ b
      ∧ pos.toList = a ++ '_' :: (portText pos ++ '_' :: b) := by
  have hmem : '_' ∈ pos.toList := List.count_pos_iff.mp (by omega)
  obtain ⟨a, rest, hpos, ha⟩ := List.eq_append_cons_of_mem hmem
  have hrest : '_' ∈ rest := by
    refine List.count_pos_iff.mp ?_
    rw [hpos, List.count_append, List.count_eq_zero.mpr ha, List.count_cons_self] at h
    omega
  obtain ⟨m, b, rfl, hb⟩ := exists_append_of_mem hrest
  refine ⟨a, b, ha, hb, ?_⟩
  rw [portText, between, hpos, afterFirst_append ha, beforeLast_append hb]

/-- **A text with a port between two underscores** is a position exactly when the port is written as
`std::to_string` writes it. -/
theorem position_iff {port : ℤ} (hport : stoi (portText pos) = some port) :
    Position pos ↔ 2 ≤ pos.toList.count '_' ∧ portText pos = (toString port).toList := by
  rw [position_iff_getPos]
  constructor
  · rintro ⟨p, hip, hid, hrange, rfl⟩
    have hbetween := (pieces_getPos hip hid).2.1
    rw [hbetween, stoi_toString hrange] at hport
    obtain rfl := Option.some.inj hport
    refine ⟨?_, hbetween⟩
    rw [toList_getPos, List.count_append, List.count_cons_self, List.count_append,
      List.count_cons_self]
    omega
  · rintro ⟨hcount, htext⟩
    obtain ⟨a, b, ha, hb, hpos⟩ := exists_pieces hcount
    refine ⟨⟨String.ofList a, port, String.ofList b, true⟩, by simpa using ha, by simpa using hb,
      isInt32_of_stoi hport, String.toList_inj.mp ?_⟩
    rw [toList_getPos, hpos, htext]
    simp

/-- `parse_pos` accepts the positions and nothing else, and what it made of one is written as it
was. -/
structure ParsesExactly (p : EntityProxy) (pos : String) : Prop where
  accepts : (p.parsePos pos).1 = true ↔ Position pos
  writes : (p.parsePos pos).1 = true → (p.parsePos pos).2.getPos = pos

/-- A refused text leaves the proxy as it was. -/
def Intact (p : EntityProxy) (pos : String) : Prop :=
  (p.parsePos pos).1 = false → (p.parsePos pos).2 = p

end EntityProxy

open EntityProxy

/-- **A position is read back exactly where neither end has an underscore**, whatever the proxy it
is read into held. -/
theorem parsePos_getPos_iff (sent p : EntityProxy) (id ip : String) {port : ℤ}
    (hport : IsInt32 port) (h : Fits (sent.setProxy id ip port).getPos) :
    Restores (p.parsePos (sent.setProxy id ip port).getPos) id ip port
      ↔ '_' ∉ ip.toList ∧ '_' ∉ id.toList := by
  constructor
  · intro hr
    have haccepted := hr.returned
    rw [fst_parsePos h] at haccepted
    obtain ⟨port', hport'⟩ := Option.isSome_iff_exists.mp haccepted
    have hip := hr.ip
    have hid := hr.entityId
    rw [parsePos_eq h, hport'] at hip hid
    rw [← hip, ← hid, String.toList_ofList, String.toList_ofList]
    exact ⟨not_mem_beforeFirst, not_mem_afterLast⟩
  · rintro ⟨hip, hid⟩
    rw [parsePos_getPos (q := sent.setProxy id ip port) hip hid hport h]
    exact ⟨rfl, rfl, rfl, rfl⟩

/-- A service of a process, and a proxy that has been parsed before. -/
theorem parsePos_getPos_iff_local :
    Restores ((⟨"10.0.0.1", 7, "a", true⟩ : EntityProxy).parsePos
        (({} : EntityProxy).setProxy "x" "127.0.0.1" (-8080)).getPos) "x" "127.0.0.1" (-8080)
      ↔ '_' ∉ "127.0.0.1".toList ∧ '_' ∉ "x".toList :=
  parsePos_getPos_iff _ _ "x" "127.0.0.1" (by decide) (by decide)

/-- **Reading agrees with the grammar exactly on the texts** in which what `std::stoi` accepts is
the text of an `int` between two underscores. -/
theorem parsesExactly_iff (p : EntityProxy) {pos : String} (h : Fits pos) :
    ParsesExactly p pos ↔ ∀ port, stoi (portText pos) = some port →
      2 ≤ pos.toList.count '_' ∧ portText pos = (toString port).toList := by
  constructor
  · intro hexact port hport
    have haccepted : (p.parsePos pos).1 = true := by rw [fst_parsePos h, hport, Option.isSome_some]
    exact (position_iff hport).mp (hexact.accepts.mp haccepted)
  · intro htext
    have hposition (haccepted : (p.parsePos pos).1 = true) : Position pos := by
      rw [fst_parsePos h] at haccepted
      obtain ⟨port, hport⟩ := Option.isSome_iff_exists.mp haccepted
      exact (position_iff hport).mpr (htext port hport)
    have hread (hpos : Position pos) : (p.parsePos pos).1 = true
        ∧ (p.parsePos pos).2.getPos = pos := by
      obtain ⟨q, hip, hid, hport, rfl⟩ := position_iff_getPos.mp hpos
      rw [parsePos_getPos hip hid hport h]
      exact ⟨rfl, rfl⟩
    exact ⟨⟨hposition, fun hpos => (hread hpos).1⟩,
      fun haccepted => (hread (hposition haccepted)).2⟩

/-- A number, and nothing else. -/
theorem parsesExactly_iff_number :
    ParsesExactly {} "7" ↔ ∀ port, stoi (portText "7") = some port →
      2 ≤ "7".toList.count '_' ∧ portText "7" = (toString port).toList :=
  parsesExactly_iff {} (by decide)

theorem not_parsesExactly_of_number : ¬ ParsesExactly {} "7" := by
  intro h
  have hwrites := h.writes (by decide)
  revert hwrites
  decide

/-- **A refused text leaves the proxy as it was exactly when the address it begins with is the one
the proxy has.** -/
theorem intact_iff (p : EntityProxy) {pos : String} (h : Fits pos) :
    Intact p pos ↔ (stoi (portText pos)).isSome
      ∨ p.ip = String.ofList (beforeFirst pos.toList '_') := by
  rw [Intact, fst_parsePos h, parsePos_eq h]
  rcases stoi (portText pos) with _ | port
  · constructor
    · intro hintact
      exact Or.inr (congrArg EntityProxy.ip (hintact rfl)).symm
    · rintro (hport | hip) -
      · cases hport
      · rw [← hip]
  · simp

/-- A valid proxy, and a text without a port. -/
theorem intact_iff_portless :
    Intact ⟨"10.0.0.1", 7, "a", true⟩ "127.0.0.1_x_b" ↔ (stoi (portText "127.0.0.1_x_b")).isSome
      ∨ "10.0.0.1" = String.ofList (beforeFirst "127.0.0.1_x_b".toList '_') :=
  intact_iff ⟨"10.0.0.1", 7, "a", true⟩ (by decide)

theorem not_intact_of_portless : ¬ Intact ⟨"10.0.0.1", 7, "a", true⟩ "127.0.0.1_x_b" := by
  intro h
  have hintact := h (by decide)
  revert hintact
  decide

end MultiplayerServer
