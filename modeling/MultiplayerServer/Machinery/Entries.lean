import Mathlib.Data.List.AList

/-!
# Machinery/Entries — a list of entries, stored one after the other

What a map holds once a list of entries is stored in it is read off two maps: the one the entries
make (`Std.ExtTreeMap.ofList`, the last of a key), and under every other key the one they were
stored in.

* `insertMany_eq_self_iff` — storing changes nothing exactly when the map extends the entries';
* `insertMany_eq_ofList_iff` — storing leaves the entries' map, and nothing older, exactly when
  there was no key that the entries lack;
* `getElem?_emplaceMany` — entries that are emplaced replace nothing, so that the first of a key
  stays;
* `getElem?_insertMany_filterMap` — where each entry is made of a thing, the last thing of a key
  decides;
* `getElem?_insertMany_lastEntry` — and whatever they are made of, the last entry of a key does.
-/

namespace Machinery

variable {α β : Type*} {cmp : α → α → Ordering} [Std.TransCmp cmp]
  {m : Std.ExtTreeMap α β cmp} {l : List (α × β)}

/-- **A property of the entries and of what is there** is one of what is there after them. -/
theorem forall_insertMany [Std.LawfulEqCmp cmp] {P : α → β → Prop}
    (hm : ∀ (k : α) (v : β), m[k]? = some v → P k v) (hl : ∀ p ∈ l, P p.1 p.2)
    (k : α) (v : β) (h : (m.insertMany l)[k]? = some v) : P k v := by
  induction l generalizing m with
  | nil =>
    rw [Std.ExtTreeMap.insertMany_nil] at h
    exact hm k v h
  | cons p l ih =>
    obtain ⟨hp, hl⟩ := List.forall_mem_cons.mp hl
    rw [Std.ExtTreeMap.insertMany_cons] at h
    refine ih (fun k v hk => ?_) hl h
    rw [Std.ExtTreeMap.getElem?_insert] at hk
    by_cases hkey : cmp p.1 k = .eq
    · rw [if_pos hkey] at hk
      exact Std.LawfulEqCmp.eq_of_compare hkey ▸ Option.some.inj hk ▸ hp
    · rw [if_neg hkey] at hk
      exact hm k v hk

/-- There is nothing under a key that no entry has. -/
theorem getElem?_ofList_eq_none [Std.LawfulEqCmp cmp] {k : α} (h : ∀ p ∈ l, p.1 ≠ k) :
    (Std.ExtTreeMap.ofList l cmp)[k]? = none := by
  rcases hvalue : (Std.ExtTreeMap.ofList l cmp)[k]? with _ | v
  · rfl
  · rw [Std.ExtTreeMap.ofList_eq_insertMany_empty] at hvalue
    refine absurd rfl (forall_insertMany (P := fun k' _ => k' ≠ k) (fun k v hnone => ?_) h k v
      hvalue)
    simp at hnone

/-- **The first entry of a key** in the list of a map is what is under it. -/
theorem find?_toList [Std.LawfulEqCmp cmp] [DecidableEq α] (m : Std.ExtTreeMap α β cmp) (k : α) :
    (m.toList.find? fun p => p.1 = k).map Prod.snd = m[k]? := by
  rcases hfind : m.toList.find? (fun p => p.1 = k) with _ | p <;> rw [hfind]
  · rcases hvalue : m[k]? with _ | v
    · rfl
    · have hmem : (k, v) ∈ m.toList := Std.ExtTreeMap.mem_toList_iff_getElem?_eq_some.mpr hvalue
      simpa using List.find?_eq_none.mp hfind _ hmem
  · obtain rfl : p.1 = k := by simpa using List.find?_some hfind
    have hmem : (p.1, p.2) ∈ m.toList := List.mem_of_find?_eq_some hfind
    exact (Std.ExtTreeMap.mem_toList_iff_getElem?_eq_some.mp hmem).symm

/-- **Where each entry is made of a thing**, the last thing of a key decides what is under it. -/
theorem getElem?_insertMany_filterMap [BEq α] [LawfulBEq α] [Std.LawfulEqCmp cmp] {γ : Type*}
    {key : γ → Option α} {f : γ → β} {things : List γ} (k : α) :
    (m.insertMany (things.filterMap fun x => (key x).map (·, f x)))[k]?
      = ((things.reverse.find? fun x => key x == some k).map f).or m[k]? := by
  induction things generalizing m with
  | nil => simp
  | cons x things ih =>
    rw [List.reverse_cons, List.find?_append, Option.map_or, Option.or_assoc, List.filterMap_cons]
    rcases hkey : key x with _ | k'
    · rw [Option.map_none, ih]
      simp [hkey]
    · rw [Option.map_some, Std.ExtTreeMap.insertMany_cons, ih, Std.ExtTreeMap.getElem?_insert]
      by_cases heq : k' = k
      · simp [hkey, heq]
      · have hcmp : ¬ cmp k' k = .eq := fun h => heq (Std.LawfulEqCmp.eq_of_compare h)
        simp [hkey, heq, hcmp]

/-- A list of entries, each put in if there is nothing yet under its key. -/
def emplaceMany (m : Std.ExtTreeMap α β cmp) (l : List (α × β)) : Std.ExtTreeMap α β cmp :=
  l.foldl (fun m p => m.insertIfNew p.1 p.2) m

theorem emplaceMany_append {l' : List (α × β)} :
    emplaceMany m (l ++ l') = emplaceMany (emplaceMany m l) l' := List.foldl_append

/-- The entries that a list of keys is given. -/
def entriesOf (f : α → Option β) (keys : List α) : List (α × β) :=
  keys.filterMap fun k => (f k).map (k, ·)

theorem entriesOf_append {f : α → Option β} {keys keys' : List α} :
    entriesOf f (keys ++ keys') = entriesOf f keys ++ entriesOf f keys' := List.filterMap_append

/-- A loop over keys that emplaces what each is given. -/
theorem foldlM_emplace {step : Std.ExtTreeMap α β cmp → α → Option (Std.ExtTreeMap α β cmp)}
    {f : α → Option β} {keys : List α}
    (hstep : ∀ k ∈ keys, ∀ m, step m k = some ((f k).elim m (m.insertIfNew k))) :
    keys.foldlM step m = some (emplaceMany m (entriesOf f keys)) := by
  induction keys generalizing m with
  | nil => rfl
  | cons k keys ih =>
    obtain ⟨hk, hkeys⟩ := List.forall_mem_cons.mp hstep
    rw [List.foldlM_cons, hk m, entriesOf, List.filterMap_cons, ← entriesOf]
    rcases f k with _ | v
    · exact ih hkeys
    · exact ih hkeys

section LastEntry

variable [DecidableEq α] {γ : Type*} {k k' : α} {l' : List (α × β)}

/-- The last entry of a key. -/
def lastEntry (k : α) (l : List (α × β)) : Option β :=
  l.reverse.findSome? fun p => if p.1 = k then some p.2 else none

theorem getElem?_insertMany_lastEntry [Std.LawfulEqCmp cmp] :
    (m.insertMany l)[k]? = (lastEntry k l).or m[k]? := by
  rw [Std.ExtTreeMap.getElem?_insertMany_list, List.findSomeRev?_eq_findSome?_reverse, lastEntry]
  simp only [Std.LawfulEqCmp.compare_eq_iff_eq]

theorem lastEntry_append : lastEntry k (l ++ l') = (lastEntry k l').or (lastEntry k l) := by
  rw [lastEntry, List.reverse_append, List.findSome?_append]
  rfl

theorem lastEntry_eq_none (h : ∀ p ∈ l, p.1 ≠ k) : lastEntry k l = none := by
  rw [lastEntry, List.findSome?_eq_none_iff]
  exact fun p hp => if_neg (h p (List.mem_reverse.mp hp))

theorem lastEntry_toList {x : Option γ} {make : γ → β} :
    lastEntry k (x.toList.map fun a => (k, make a)) = x.map make := by
  cases x <;> simp [lastEntry]

theorem lastEntry_toList_ne {x : Option γ} {make : γ → β} (h : k' ≠ k) :
    lastEntry k (x.toList.map fun a => (k', make a)) = none :=
  lastEntry_eq_none (by simpa using fun _ _ => h)

theorem lastEntry_filterMap {f : γ → Option (α × β)} {things : List γ} :
    lastEntry k (things.filterMap f) = things.reverse.findSome? fun x =>
      (f x).bind fun p => if p.1 = k then some p.2 else none := by
  rw [lastEntry, ← List.filterMap_reverse]
  induction things.reverse with
  | nil => rfl
  | cons x things ih =>
    rw [List.findSome?_cons, List.filterMap_cons]
    cases f x with
    | none => exact ih
    | some p =>
      rw [List.findSome?_cons, Option.bind_some]
      split <;> simp [*]

end LastEntry

variable [BEq α] [Std.LawfulBEqCmp cmp]

/-- **What is under a key**: what the entries say, and where they say nothing what was there. -/
theorem getElem?_insertMany (k : α) :
    (m.insertMany l)[k]? = (Std.ExtTreeMap.ofList l cmp)[k]?.or m[k]? := by
  rw [Std.ExtTreeMap.ofList_eq_insertMany_empty, Std.ExtTreeMap.getElem?_insertMany_list,
    Std.ExtTreeMap.getElem?_insertMany_list]
  simp

/-- …and where the entries are emplaced, what was there, and else the first of them. -/
theorem getElem?_emplaceMany (k : α) : (emplaceMany m l)[k]? = m[k]?.or (l.lookup k) := by
  induction l generalizing m with
  | nil => exact Option.or_none.symm
  | cons p l ih =>
    rw [emplaceMany, List.foldl_cons, ← emplaceMany, ih, Std.ExtTreeMap.getElem?_insertIfNew]
    by_cases hkey : cmp p.1 k = .eq
    · have hbeq : (k == p.1) = true :=
        Std.LawfulBEqCmp.compare_eq_iff_beq.mp (Std.OrientedCmp.eq_symm hkey)
      have hmem : p.1 ∈ m ↔ k ∈ m := Std.ExtTreeMap.mem_congr hkey
      rw [List.lookup_cons, hbeq]
      by_cases hk : k ∈ m
      · rw [if_neg fun h => h.2 (hmem.mpr hk), Std.ExtTreeMap.getElem?_eq_some_getElem hk,
          Option.some_or, Option.some_or]
      · rw [if_pos ⟨hkey, mt hmem.mp hk⟩, Std.ExtTreeMap.getElem?_eq_none hk, Option.some_or,
          Option.none_or]
    · have hbeq : (k == p.1) = false := Bool.eq_false_iff.mpr fun h =>
        hkey (Std.OrientedCmp.eq_symm (Std.LawfulBEqCmp.compare_eq_iff_beq.mpr h))
      rw [if_neg (fun h => hkey h.1), List.lookup_cons, hbeq]

/-- What a list of keys is given, looked up. -/
theorem lookup_entriesOf [LawfulBEq α] {f : α → Option β} {keys : List α} (k : α) :
    (entriesOf f keys).lookup k = if keys.contains k then f k else none := by
  induction keys with
  | nil => rfl
  | cons key keys ih =>
    rw [entriesOf, List.filterMap_cons, ← entriesOf]
    by_cases hkey : k = key
    · subst hkey
      rcases hf : f k with _ | v
      · simp [ih, hf]
      · simp
    · rcases hf : f key with _ | v
      · simp [ih, hkey]
      · simp [ih, hkey, List.lookup_cons, beq_eq_false_iff_ne.mpr hkey]

theorem getElem?_emplaceMany_entriesOf [LawfulBEq α] {f : α → Option β} {keys : List α} (k : α) :
    (emplaceMany (∅ : Std.ExtTreeMap α β cmp) (entriesOf f keys))[k]?
      = if keys.contains k then f k else none := by
  rw [getElem?_emplaceMany, lookup_entriesOf, Std.ExtTreeMap.getElem?_empty, Option.none_or]

variable [Std.LawfulEqCmp cmp]

/-- **Emplacing what each key is given** does the same for other keys, or for what is given
otherwise, exactly when the keys are given the same. -/
theorem emplaceMany_entriesOf_eq_iff [LawfulBEq α] {f f' : α → Option β} {keys keys' : List α}
    (hkeys : ∀ k, k ∈ keys ↔ k ∈ keys') :
    emplaceMany (∅ : Std.ExtTreeMap α β cmp) (entriesOf f keys)
        = emplaceMany ∅ (entriesOf f' keys') ↔ ∀ k ∈ keys, f k = f' k := by
  constructor
  · intro h k hk
    have hget := congrArg (·[k]?) h
    simpa [getElem?_emplaceMany_entriesOf, hk, (hkeys k).mp hk] using hget
  · intro h
    ext1 k
    rw [getElem?_emplaceMany_entriesOf, getElem?_emplaceMany_entriesOf]
    by_cases hk : k ∈ keys
    · simp [hk, (hkeys k).mp hk, h k hk]
    · simp [hk, mt (hkeys k).mpr hk]

/-- **Storing changes nothing** exactly when all that the entries say is there already. -/
theorem insertMany_eq_self_iff : m.insertMany l = m
    ↔ ∀ (k : α) (v : β), (Std.ExtTreeMap.ofList l cmp)[k]? = some v → m[k]? = some v := by
  constructor
  · intro h k v hentry
    rw [← h, getElem?_insertMany, hentry, Option.some_or]
  · intro h
    refine Std.ExtTreeMap.ext_getElem? fun {k} => ?_
    rw [getElem?_insertMany]
    rcases hentry : (Std.ExtTreeMap.ofList l cmp)[k]? with _ | v
    · exact Option.none_or
    · exact (h k v hentry).symm

/-- **Storing leaves nothing older** exactly when the entries have every key there was. -/
theorem insertMany_eq_ofList_iff :
    m.insertMany l = Std.ExtTreeMap.ofList l cmp ↔ ∀ k ∈ m, k ∈ Std.ExtTreeMap.ofList l cmp := by
  constructor
  · intro h k hk
    rw [← h, Std.ExtTreeMap.mem_insertMany_list]
    exact Or.inl hk
  · intro h
    refine Std.ExtTreeMap.ext_getElem? fun {k} => ?_
    rw [getElem?_insertMany]
    by_cases hk : k ∈ Std.ExtTreeMap.ofList l cmp
    · rw [Std.ExtTreeMap.getElem?_eq_some_getElem hk, Option.some_or]
    · rw [Std.ExtTreeMap.getElem?_eq_none hk, Option.none_or,
        Std.ExtTreeMap.getElem?_eq_none (mt (h k) hk)]

/-- **Where the entries of a key are those of an option**, that is what is under it. -/
theorem getElem?_ofList_of_mem_iff {k : α} {x : Option β} (h : ∀ v, (k, v) ∈ l ↔ x = some v) :
    (Std.ExtTreeMap.ofList l cmp)[k]? = x := by
  rcases x with _ | v
  · refine getElem?_ofList_eq_none fun p hp hkey => ?_
    subst hkey
    cases (h p.2).mp hp
  have hmem : k ∈ Std.ExtTreeMap.ofList l cmp := by
    rw [Std.ExtTreeMap.mem_ofList, List.contains_eq_any_beq, List.any_eq_true]
    have hself : cmp k k = .eq := Std.ReflCmp.compare_self
    exact ⟨k, List.mem_map.mpr ⟨(k, v), (h v).mpr rfl, rfl⟩,
      Std.LawfulBEqCmp.compare_eq_iff_beq.mp hself⟩
  obtain ⟨v', hv'⟩ := Option.isSome_iff_exists.mp (Std.ExtTreeMap.mem_iff_isSome_getElem?.mp hmem)
  have hentry : k = k → v = v' := by
    rw [Std.ExtTreeMap.ofList_eq_insertMany_empty] at hv'
    refine forall_insertMany (P := fun k' v' => k' = k → v = v') (fun k' v' hnone => ?_)
      (fun p hp hkey => ?_) k v' hv'
    · simp at hnone
    · subst hkey
      exact Option.some.inj ((h p.2).mp hp)
  rw [hv', hentry rfl]

/-- **The map of the entries of a map** is that map. -/
theorem ofList_eq_of_mem_iff (h : ∀ (k : α) (v : β), (k, v) ∈ l ↔ m[k]? = some v) :
    Std.ExtTreeMap.ofList l cmp = m :=
  Std.ExtTreeMap.ext_getElem? fun {k} => getElem?_ofList_of_mem_iff (h k)

end Machinery
