import MultiplayerServer.Config.Reloading
import MultiplayerServer.Machinery.Alike

/-!
# Config/Members — what the loaders see of a document

Of an object they see the first member of each name they ask for there, of a string what comes
before the first NUL, and of a number that is not written as an integer that it is a number.
Documents that are the same as far as that goes (`ReadsSame`) cannot be told apart.

* `readsSame_of_perm` — the members of an object may be in any order, if their names are distinct;
* `readsSame_append` — there may be others after them, that are not asked for, or come too late;
* `exec_congr` — loads of documents that read the same leave the same.
-/

namespace MultiplayerServer

open Machinery

namespace GameConfig

/-- A part of a document, by what reads it. -/
inductive DocumentPart
  | document
  | server
  | loggers
  | logger
  | login
  | services
  | service
  /-- An array of strings. -/
  | components
  /-- A value that is taken for a string, a number or a flag. -/
  | value
  deriving DecidableEq

namespace DocumentPart

/-- The names of the members that are asked for in each object, with what they are read as. -/
def members : DocumentPart → List (String × DocumentPart)
  | document => [(serverConfigStr, server), (logConfigStr, loggers), (loginConfigStr, login),
      (servicesConfigStr, services)]
  | server => [("ip", value), ("port", value), ("concurrency", value)]
  | logger => [("name", value), ("log_time", value), ("log_thread", value), ("log_level", value),
      ("log_source", value), ("log_line", value), ("log_funcname", value), ("level", value),
      ("log_tag_name", value), ("log_file_max_size", value), ("log_file_max_number", value),
      ("log_file_name", value), ("log_file_dir", value), ("log_file_extension", value)]
  | login => [("entity", value), ("entity_type", value), ("components", components)]
  | service => [("name", value), ("components", components)]
  | _ => []

/-- What the elements of an array are read as. -/
def element : DocumentPart → DocumentPart
  | loggers => logger
  | services => service
  | _ => value

end DocumentPart

/-- **Two values that read the same**, as a part of a document. -/
inductive ReadsSame : DocumentPart → Json → Json → Prop
  | refl {part : DocumentPart} (j : Json) : ReadsSame part j j
  | double {part : DocumentPart} (text text' : String) :
      ReadsSame part (.double text) (.double text')
  | string {part : DocumentPart} {s s' : String} (h : Json.cString s = Json.cString s') :
      ReadsSame part (.string s) (.string s')
  | array {part : DocumentPart} {elements elements' : List Json}
      (hlength : elements.length = elements'.length)
      (h : ∀ p ∈ elements.zip elements', ReadsSame part.element p.1 p.2) :
      ReadsSame part (.array elements) (.array elements')
  | object {part : DocumentPart} {members members' : List (String × Json)}
      (hgiven : ∀ m ∈ part.members, ((Json.object members).findMember m.1).isSome
        = ((Json.object members').findMember m.1).isSome)
      (h : ∀ m ∈ part.members, ∀ v ∈ (Json.object members).findMember m.1,
        ∀ v' ∈ (Json.object members').findMember m.1, ReadsSame m.2 v v') :
      ReadsSame part (.object members) (.object members')

namespace ReadsSame

variable {j j' : Json} {key : String} {part q : DocumentPart}

/-! ## The accesses -/

/-- A value is of the same kind, -/
theorem kinds (h : ReadsSame part j j') : j.isObject = j'.isObject ∧ j.isArray = j'.isArray
    ∧ j.isString = j'.isString ∧ j.isBool = j'.isBool ∧ j.isNumber = j'.isNumber
    ∧ j.isInt = j'.isInt := by
  cases h <;> exact ⟨rfl, rfl, rfl, rfl, rfl, rfl⟩

/-- …of the same value, if it has one, -/
theorem values (h : ReadsSame part j j') : j.getString = j'.getString ∧ j.getInt = j'.getInt
    ∧ j.getUint = j'.getUint ∧ j.getBool = j'.getBool := by
  cases h with
  | string h => exact ⟨congrArg some h, rfl, rfl, rfl⟩
  | _ => exact ⟨rfl, rfl, rfl, rfl⟩

/-- …has elements that read the same, -/
theorem getArray (h : ReadsSame part j j') :
    Option.Rel (List.Forall₂ (ReadsSame part.element)) j.getArray j'.getArray := by
  cases h with
  | refl j =>
    cases j with
    | array elements => exact .some (List.forall₂_same.mpr fun j _ => .refl j)
    | _ => exact .none
  | array hlength h => exact .some (List.forall₂_iff_zip.mpr ⟨hlength, fun hmem => h _ hmem⟩)
  | _ => exact .none

/-- …and members that read the same, of those that are asked for. -/
theorem member (h : ReadsSame part j j') (hkey : (key, q) ∈ part.members) :
    Option.Rel (ReadsSame q) (j.member key) (j'.member key) := by
  cases h with
  | refl j =>
    rcases hmember : j.member key with _ | value
    · exact .none
    · exact .some (.refl value)
  | object hgiven h => exact rel_of_isSome_eq (hgiven _ hkey) (h _ hkey)
  | _ => exact .none

theorem hasMember (h : ReadsSame part j j') (hkey : (key, q) ∈ part.members) :
    j.hasMember key = j'.hasMember key := by
  rw [Json.hasMember, Json.hasMember, h.kinds.1]
  exact congrArg (if j'.isObject = true then some · else none) (isSome_eq_of_rel (h.member hkey))

theorem hasMemberOf (h : ReadsSame part j j') (hkey : (key, q) ∈ part.members)
    {kind : Json → Bool} (hkind : ∀ {v v'}, ReadsSame q v v' → kind v = kind v') :
    j.hasMemberOf key kind = j'.hasMemberOf key kind := by
  rw [Json.hasMemberOf, Json.hasMemberOf, h.hasMember hkey]
  refine Option.bind_congr fun has _ => ?_
  split
  · exact bind_eq_of_rel (h.member hkey) fun v v' hv => congrArg some (hkind hv)
  · rfl

/-- **A member that is looked for**, -/
theorem ifMember {α : Type} (h : ReadsSame part j j') (hkey : (key, q) ∈ part.members)
    {f f' : Json → Option α} {x : Option α} (hf : ∀ v v', ReadsSame q v v' → f v = f' v') :
    ((j.hasMember key).bind fun has => if has = true then (j.member key).bind f else x)
      = (j'.hasMember key).bind fun has =>
        if has = true then (j'.member key).bind f' else x := by
  rw [h.hasMember hkey]
  refine Option.bind_congr fun has _ => ?_
  split
  · exact bind_eq_of_rel (h.member hkey) hf
  · rfl

/-- …and one whose kind is asked for. -/
theorem ifMemberOf {α : Type} (h : ReadsSame part j j') (hkey : (key, q) ∈ part.members)
    {kind : Json → Bool} (hkind : ∀ {v v'}, ReadsSame q v v' → kind v = kind v')
    {f f' : Json → Option α} {x : Option α} (hf : ∀ v v', ReadsSame q v v' → f v = f' v') :
    ((j.hasMemberOf key kind).bind fun has => if has = true then (j.member key).bind f else x)
      = (j'.hasMemberOf key kind).bind fun has =>
        if has = true then (j'.member key).bind f' else x := by
  rw [h.hasMemberOf hkey hkind]
  refine Option.bind_congr fun has _ => ?_
  split
  · exact bind_eq_of_rel (h.member hkey) hf
  · rfl

/-! ## The loaders -/

theorem loadServerConfig (h : ReadsSame .document j j') (g : GameConfig) :
    g.loadServerConfig j = g.loadServerConfig j' := by
  refine h.ifMember (q := .server) (by decide) fun server server' hserver => ?_
  rw [hserver.kinds.1]
  split
  · refine hserver.ifMemberOf (q := .value) (by decide) (fun h => h.kinds.2.2.1)
      fun ip ip' hip => ?_
    rw [hip.values.1]
    refine Option.bind_congr fun ip _ => ?_
    refine hserver.ifMemberOf (q := .value) (by decide) (fun h => h.kinds.2.2.2.2.1)
      fun port port' hport => ?_
    rw [hport.values.2.1]
    refine Option.bind_congr fun port _ => ?_
    refine hserver.ifMember (q := .value) (by decide) fun concurrency concurrency' hc => ?_
    rw [hc.values.2.1]
  · rfl

theorem loggerData (h : ReadsSame .logger j j') :
    GameConfig.loggerData j = GameConfig.loggerData j' := by
  have hbool (data : LoggerConfig) (key : String)
      (hkey : (key, .value) ∈ DocumentPart.logger.members) :
      emplaceBool j data key = emplaceBool j' data key :=
    h.ifMemberOf hkey (fun h => h.kinds.2.2.2.1) fun v v' hv => by rw [hv.values.2.2.2]
  have hstring (data : LoggerConfig) (key : String)
      (hkey : (key, .value) ∈ DocumentPart.logger.members) :
      emplaceString j data key = emplaceString j' data key :=
    h.ifMemberOf hkey (fun h => h.kinds.2.2.1) fun v v' hv => by rw [hv.values.1]
  have hsize (data : LoggerConfig) (key : String)
      (hkey : (key, .value) ∈ DocumentPart.logger.members) :
      emplaceSize j data key = emplaceSize j' data key :=
    h.ifMemberOf hkey (fun h => h.kinds.2.2.2.2.2) fun v v' hv => by rw [hv.values.2.2.1]
  have hfold (f f' : LoggerConfig → String → Option LoggerConfig)
      (hf : ∀ data key, (key, .value) ∈ DocumentPart.logger.members → f data key = f' data key)
      (data : LoggerConfig) {keys : List String}
      (hkeys : ∀ key ∈ keys, (key, .value) ∈ DocumentPart.logger.members) :
      keys.foldlM f data = keys.foldlM f' data := by
    refine foldlM_eq_of_forall₂
      (R := fun key key' => key = key' ∧ (key, .value) ∈ DocumentPart.logger.members)
      (List.forall₂_same.mpr fun key hkey => ⟨rfl, hkeys key hkey⟩) ?_ data
    rintro data key _ ⟨rfl, hkey⟩
    exact hf data key hkey
  rw [GameConfig.loggerData, GameConfig.loggerData, hfold _ _ hbool _ (by decide)]
  refine Option.bind_congr fun data _ => ?_
  rw [hfold _ _ hstring _ (by decide)]
  refine Option.bind_congr fun data _ => ?_
  rw [hfold _ _ hsize _ (by decide)]
  refine Option.bind_congr fun data _ => ?_
  exact hfold _ _ hstring _ (by decide)

theorem loadSingleLoggerConfig (h : ReadsSame .logger j j') (g : GameConfig) :
    g.loadSingleLoggerConfig j = g.loadSingleLoggerConfig j' := by
  rw [GameConfig.loadSingleLoggerConfig, GameConfig.loadSingleLoggerConfig, h.kinds.1, h.loggerData]
  split
  · refine h.ifMemberOf (q := .value) (by decide) (fun h => h.kinds.2.2.1)
      fun name name' hname => ?_
    rw [hname.values.1]
  · rfl

theorem loadLoggerConfig (h : ReadsSame .document j j') (g : GameConfig) :
    g.loadLoggerConfig j = g.loadLoggerConfig j' := by
  refine h.ifMember (q := .loggers) (by decide) fun loggers loggers' hloggers => ?_
  exact bind_eq_of_rel hloggers.getArray fun elements elements' helements =>
    foldlM_eq_of_forall₂ helements (fun g _ _ hlogger => hlogger.loadSingleLoggerConfig g) g

/-- The strings of an array. -/
theorem mapM_getString {elements elements' : List Json}
    (h : List.Forall₂ (ReadsSame part) elements elements') :
    elements.mapM Json.getString = elements'.mapM Json.getString :=
  mapM_eq_of_forall₂ h fun _ _ h => h.values.1

theorem loginComponents (h : ReadsSame .login j j') :
    GameConfig.loginComponents j = GameConfig.loginComponents j' := by
  refine h.ifMemberOf (q := .components) (by decide) (fun h => h.kinds.2.1)
    fun components components' hc => ?_
  exact bind_eq_of_rel hc.getArray fun _ _ helements => mapM_getString helements

theorem loadLoginConfig (h : ReadsSame .document j j') (g : GameConfig) :
    g.loadLoginConfig j = g.loadLoginConfig j' := by
  refine h.ifMember (q := .login) (by decide) fun login login' hlogin => ?_
  have hentity : ("entity", .value) ∈ DocumentPart.login.members := by decide
  have htype : ("entity_type", .value) ∈ DocumentPart.login.members := by decide
  refine hlogin.ifMemberOf hentity (fun h => h.kinds.2.2.1) fun entity entity' he => ?_
  rw [he.values.1]
  refine Option.bind_congr fun entityClassName _ => ?_
  have hkind : (Json.isString <$> login.member "entity")
      = Json.isString <$> login'.member "entity" :=
    map_eq_of_rel (hlogin.member hentity) fun _ _ h => h.kinds.2.2.1
  rw [hlogin.hasMember htype, hkind]
  refine Option.bind_congr fun given _ => ?_
  split
  · refine bind_eq_of_rel (hlogin.member htype) fun type type' ht => ?_
    rw [ht.values.1, hlogin.loginComponents]
  · rfl

theorem loadService (h : ReadsSame .service j j') :
    GameConfig.loadService j = GameConfig.loadService j' := by
  refine bind_eq_of_rel (h.member (q := .value) (by decide)) fun name name' hname => ?_
  rw [hname.values.1]
  refine Option.bind_congr fun serviceName _ => ?_
  refine bind_eq_of_rel (h.member (q := .components) (by decide))
    fun components components' hc => ?_
  refine bind_eq_of_rel hc.getArray fun elements elements' helements => ?_
  rw [mapM_getString helements]

theorem loadServicesConfig (h : ReadsSame .document j j') (g : GameConfig) :
    g.loadServicesConfig j = g.loadServicesConfig j' := by
  refine h.ifMember (q := .services) (by decide) fun services services' hservices => ?_
  rw [hservices.kinds.2.1]
  split
  · refine bind_eq_of_rel hservices.getArray fun elements elements' helements => ?_
    rw [mapM_eq_of_forall₂ helements fun _ _ h => h.loadService]
  · rfl

theorem loadConfig (h : ReadsSame .document j j') (g : GameConfig) :
    g.loadConfig (some j) = g.loadConfig (some j') := by
  rw [GameConfig.loadConfig, GameConfig.loadConfig, h.loadServerConfig]
  refine Option.bind_congr fun g _ => ?_
  rw [h.loadLoggerConfig]
  refine Option.bind_congr fun g _ => ?_
  rw [h.loadLoginConfig]
  refine Option.bind_congr fun result _ => ?_
  cases result with
  | error message => rfl
  | ok g =>
    dsimp only
    rw [h.loadServicesConfig]

/-- Objects whose members read the same, of those that are asked for. -/
theorem of_members {members members' : List (String × Json)}
    (h : ∀ m ∈ part.members, Option.Rel (ReadsSame m.2) ((Json.object members).findMember m.1)
      ((Json.object members').findMember m.1)) :
    ReadsSame part (.object members) (.object members') :=
  .object (fun m hm => isSome_eq_of_rel (h m hm)) fun m hm _ hv _ hv' => of_rel (h m hm) hv hv'

end ReadsSame

/-! ## Documents that read the same -/

/-- A member is found wherever it is, if there is no other of its name. -/
theorem findMember_eq_some_iff {members : List (String × Json)} {key : String} {value : Json}
    (hdistinct : (members.map Prod.fst).Nodup) :
    (Json.object members).findMember key = some value ↔ (key, value) ∈ members := by
  rw [Json.findMember, Option.map_eq_some_iff]
  constructor
  · rintro ⟨m, hfind, rfl⟩
    obtain rfl : m.1 = key := by simpa using List.find?_some hfind
    exact List.mem_of_find?_eq_some hfind
  · intro hmem
    rcases hfind : members.find? (fun m => m.1 = key) with _ | m
    · exact absurd (List.find?_eq_none.mp hfind _ hmem) (by simp)
    · have hname : m.1 = key := by simpa using List.find?_some hfind
      have hsame := List.inj_on_of_nodup_map hdistinct (List.mem_of_find?_eq_some hfind) hmem hname
      exact ⟨m, hfind, congrArg Prod.snd hsame⟩

theorem readsSame_of_findMember {part : DocumentPart} {members members' : List (String × Json)}
    (h : ∀ m ∈ part.members,
      (Json.object members).findMember m.1 = (Json.object members').findMember m.1) :
    ReadsSame part (.object members) (.object members') := by
  refine .of_members fun m hm => ?_
  rw [h m hm]
  cases (Json.object members').findMember m.1 with
  | none => exact .none
  | some value => exact .some (.refl value)

/-- **The order of the members** is of no consequence, if their names are distinct; -/
theorem readsSame_of_perm {part : DocumentPart} {members members' : List (String × Json)}
    (h : members.Perm members') (hdistinct : (members.map Prod.fst).Nodup) :
    ReadsSame part (.object members) (.object members') := by
  refine readsSame_of_findMember fun _ _ => Option.ext fun value => ?_
  rw [findMember_eq_some_iff hdistinct, h.mem_iff,
    findMember_eq_some_iff ((h.map Prod.fst).nodup_iff.mp hdistinct)]

/-- …nor is a member that is not asked for there, or that one of its name comes before. -/
theorem readsSame_append {part : DocumentPart} {members more : List (String × Json)}
    (h : ∀ m ∈ more, m.1 ∈ part.members.map Prod.fst → m.1 ∈ members.map Prod.fst) :
    ReadsSame part (.object members) (.object (members ++ more)) := by
  refine readsSame_of_findMember fun asked hasked => congrArg (Option.map Prod.snd) ?_
  rw [List.find?_append]
  rcases hfind : members.find? (fun m => m.1 = asked.1) with _ | m <;> rw [hfind]
  · rw [Option.none_or, eq_comm, List.find?_eq_none]
    intro m hm hname
    have hkey : m.1 = asked.1 := by simpa using hname
    obtain ⟨m', hm', hname'⟩ := List.mem_map.mp
      (h m hm (hkey ▸ List.mem_map_of_mem hasked))
    exact List.find?_eq_none.mp hfind m' hm' (by simpa [hkey] using hname')
  · rfl

end GameConfig

open GameConfig

/-- **Documents that read the same load the same**, in any run of loads. -/
theorem exec_congr {docs docs' : List (Option Json)}
    (h : List.Forall₂ (Option.Rel (ReadsSame .document)) docs docs') (g : GameConfig) :
    GameConfig.machine.exec g docs = GameConfig.machine.exec g docs' := by
  induction h generalizing g with
  | nil => rfl
  | @cons doc doc' docs docs' hdoc _ ih =>
    have hload : g.loadConfig doc = g.loadConfig doc' := by
      cases hdoc with
      | some hread => exact hread.loadConfig g
      | none => rfl
    have hstep : GameConfig.machine.step g doc = GameConfig.machine.step g doc' := hload
    rw [Machine.exec_cons, Machine.exec_cons, hstep]
    exact Option.bind_congr fun g _ => ih g

/-- A server section with its members in another order, and members that nobody asks for there. -/
theorem exec_congr_reordered :
    GameConfig.machine.exec {} [none, some (.object [("server", .object [
        ("ip", .string "127.0.0.1"), ("port", .int 8080), ("concurrency", .int 2)])])]
      = GameConfig.machine.exec {} [none, some (.object [("server", .object [
        ("concurrency", .int 2), ("port", .int 8080), ("ip", .string "127.0.0.1")]),
        ("name", .null), ("motd", .null)])] := by
  refine exec_congr (.cons .none (.cons (.some (.of_members fun m hm => ?_)) .nil)) {}
  obtain rfl | rfl | rfl | rfl : m = (serverConfigStr, .server) ∨ m = (logConfigStr, .loggers)
      ∨ m = (loginConfigStr, .login) ∨ m = (servicesConfigStr, .services) := by
    simpa [DocumentPart.members] using hm
  · exact .some (readsSame_of_perm (List.reverse_perm _).symm (by decide))
  · exact .none
  · exact .none
  · exact .none

end MultiplayerServer
