import MultiplayerServer.Config.Loading
import MultiplayerServer.Machinery.Substr

/-!
# Config/ConfigPath — whether a path is that of a configuration

The path is checked twice.  `check_config_file` of `main.cpp` cuts it at its last dot, wherever that
is, and `substr` throws where there is none; `load_config` asks `std::filesystem` for the extension
of its last element, which a dot at the front of that element does not begin.

* `checksAgree_iff` — the two agree on the paths that have a dot and whose last element is not
  `.json`.

Paths are those of POSIX, where `/` is the only separator.  On Windows `std::filesystem::path` takes
`\` for one as well, and the name of a drive for no part of the file name.
-/

namespace MultiplayerServer

open Machinery

/-- What the file system answers about a path; there is nothing at the empty one. -/
structure FileSystem where
  existsAt : String → Bool
  isRegularFile : String → Bool
  empty : existsAt "" = false

/-- `EXIT_SUCCESS` and `EXIT_FAILURE` -/
inductive ExitStatus
  | success
  | failure
  deriving DecidableEq, Repr

variable (fs : FileSystem) (path : String)

/-- `check_config_file`; `none` is `std::out_of_range`. -/
def checkConfigFile : Option ExitStatus :=
  if path = "" then some .failure
  else if ¬ fs.existsAt path then some .failure
  else if ¬ fs.isRegularFile path then some .failure
  else
    (substr path.toList (rfind path.toList '.') npos).map fun suffix =>
      if suffix ≠ ".json".toList then .failure else .success

/-- `std::filesystem::path::filename`, on POSIX: what is after the last separator. -/
def filename : List Char := afterLast path.toList '/'

/-- `std::filesystem::path::extension`, on POSIX: the last element from its last dot on, unless that
is its first character. -/
def extension : List Char :=
  let name := filename path
  if name = ".".toList ∨ name = "..".toList then []
  else if '.' ∈ name.tail then '.' :: afterLast name '.'
  else []

/-- `load_config`, with the checks of the path it begins with.  `parsed` is what a file is parsed
as. -/
def GameConfig.loadConfigFile (parsed : String → Option Json) (g : GameConfig) :
    Option GameConfig :=
  if ¬ fs.existsAt path then some g
  else if ¬ fs.isRegularFile path then some g
  else if extension path ≠ ".json".toList then some g
  else g.loadConfig (parsed path)

/-- **The two checks agree**: the first returns, and accepts what the second does. -/
structure ChecksAgree : Prop where
  returns : (checkConfigFile fs path).isSome
  agree : checkConfigFile fs path = some .success ↔ extension path = ".json".toList

variable {fs path}

/-- What `check_config_file` makes of a regular file. -/
theorem checkConfigFile_eq (hexists : fs.existsAt path) (hregular : fs.isRegularFile path)
    (hfits : path.toList.length < npos.toNat) :
    checkConfigFile fs path =
      if '.' ∈ path.toList then
        some (if afterLast path.toList '.' = "json".toList then .success else .failure)
      else none := by
  have hempty : path ≠ "" := by
    rintro rfl
    simp [fs.empty] at hexists
  have hjson : ".json".toList = '.' :: "json".toList := rfl
  rw [checkConfigFile, if_neg hempty, if_neg (by simpa using hexists),
    if_neg (by simpa using hregular), substr_rfind_from hfits]
  split
  · simp only [Option.map_some, hjson, ne_eq, List.cons.injEq, true_and, ite_not]
  · rfl

/-- The last dot of a path is that of its last element, if it has one. -/
theorem afterLast_filename (h : '.' ∈ filename path) :
    afterLast path.toList '.' = afterLast (filename path) '.' := (afterLast_afterLast h).symm

/-- A name whose one dot is its first character is all extension. -/
theorem eq_json_of_afterLast {name : List Char} (hdot : '.' ∈ name) (htail : '.' ∉ name.tail)
    (h : afterLast name '.' = "json".toList) : name = ".json".toList := by
  have hjson : ".json".toList = '.' :: "json".toList := rfl
  cases name with
  | nil => cases hdot
  | cons c rest =>
    rw [List.tail_cons] at htail
    obtain rfl : '.' = c := by simpa [htail] using hdot
    have hrest : afterLast ('.' :: rest) '.' = rest := afterLast_append (a := []) htail
    rw [hjson, ← h, hrest]

/-- **The extension is `.json`** where that is what the last dot begins, and something is before
it. -/
theorem extension_eq_json_iff :
    extension path = ".json".toList
      ↔ '.' ∈ path.toList ∧ afterLast path.toList '.' = "json".toList
        ∧ filename path ≠ ".json".toList := by
  have hjson : ".json".toList = '.' :: "json".toList := rfl
  have hnil : [] ≠ ".json".toList := by decide
  simp only [extension]
  by_cases hdot : '.' ∈ filename path
  · have hpath : '.' ∈ path.toList := (List.rtakeWhile_suffix _ _).subset hdot
    rw [afterLast_filename hdot]
    split
    · -- one of the two names that have no extension
      rename_i hname
      refine iff_of_false hnil fun h => ?_
      obtain hname | hname := hname <;> rw [hname] at h <;> exact absurd h.2.1 (by decide)
    · split
      · rename_i htail
        rw [hjson, List.cons_inj_right]
        refine ⟨fun h => ⟨hpath, h, fun hname => ?_⟩, fun h => h.2.1⟩
        rw [hname] at htail
        exact absurd htail (by decide)
      · -- the one dot is the first character
        rename_i htail
        exact iff_of_false hnil fun h => h.2.2 (eq_json_of_afterLast hdot htail h.2.1)
  · have htail : '.' ∉ (filename path).tail := fun h => hdot (List.mem_of_mem_tail h)
    rw [if_neg htail, ite_self]
    refine iff_of_false hnil fun h => ?_
    have hslash : '/' ∈ afterLast path.toList '.' := mem_afterLast (by decide) h.1 hdot
    rw [h.2.1] at hslash
    exact absurd hslash (by decide)

/-- **Where the checks agree**, a file is parsed that start-up accepts, and no other. -/
theorem loadConfigFile_eq {parsed : String → Option Json} {g : GameConfig}
    (hexists : fs.existsAt path) (hregular : fs.isRegularFile path) (h : ChecksAgree fs path) :
    GameConfig.loadConfigFile fs path parsed g
      = if checkConfigFile fs path = some .success then g.loadConfig (parsed path) else some g := by
  rw [GameConfig.loadConfigFile, if_neg (by simpa using hexists), if_neg (by simpa using hregular)]
  by_cases hext : extension path = ".json".toList
  · rw [if_neg (not_not.mpr hext), if_pos (h.agree.mpr hext)]
  · rw [if_pos hext, if_neg (mt h.agree.mp hext)]

/-- **The checks of a path agree exactly where it has a dot and does not end in a name that is all
extension**, of every file there is. -/
theorem checksAgree_iff (hexists : fs.existsAt path) (hregular : fs.isRegularFile path)
    (hfits : path.toList.length < npos.toNat) :
    ChecksAgree fs path ↔ '.' ∈ path.toList ∧ filename path ≠ ".json".toList := by
  have hcheck := checkConfigFile_eq hexists hregular hfits
  by_cases hdot : '.' ∈ path.toList
  · rw [if_pos hdot] at hcheck
    have haccepted : checkConfigFile fs path = some .success
        ↔ afterLast path.toList '.' = "json".toList := by
      rw [hcheck, Option.some.injEq, ite_eq_left_iff]
      exact ⟨fun h => by_contra fun hne => by simpa using h hne, fun h hne => absurd h hne⟩
    constructor
    · refine fun h => ⟨hdot, fun hname => ?_⟩
      have hlast : afterLast path.toList '.' = "json".toList := by
        rw [afterLast_filename (by rw [hname]; decide), hname]
        decide
      exact (extension_eq_json_iff.mp (h.agree.mp (haccepted.mpr hlast))).2.2 hname
    · rintro ⟨-, hname⟩
      refine ⟨by rw [hcheck]; rfl, ?_⟩
      rw [haccepted, extension_eq_json_iff]
      exact ⟨fun h => ⟨hdot, h, hname⟩, fun h => h.2.1⟩
  · rw [if_neg hdot] at hcheck
    refine iff_of_false (fun h => ?_) fun h => hdot h.1
    have hreturns := h.returns
    rw [hcheck] at hreturns
    cases hreturns

/-- A file system in which there is one file. -/
def FileSystem.single (path : String) (h : path ≠ "") : FileSystem where
  existsAt p := p == path
  isRegularFile p := p == path
  empty := by simpa using h.symm

theorem checksAgree_iff_config :
    ChecksAgree (.single "conf.d/game.json" (by decide)) "conf.d/game.json"
      ↔ '.' ∈ "conf.d/game.json".toList ∧ filename "conf.d/game.json" ≠ ".json".toList :=
  checksAgree_iff (by decide) (by decide) (by decide)

/-- A name without a dot. -/
theorem not_checksAgree_of_noDot : ¬ ChecksAgree (.single "config" (by decide)) "config" := by
  intro h
  have hreturns := h.returns
  revert hreturns
  decide

end MultiplayerServer
