import Mathlib.Data.List.DropRight

/-!
# Machinery/Substr — a string searched and cut by `size_t` positions

`find`, `rfind` and `substr` of a `std::string`.  The position of what is not there is `npos`, the
greatest `size_t`, and the arithmetic of positions goes round through it: one past it is the start,
and a count of one less than none is all of the string.

* `substr_find`, `substr_between`, `substr_rfind`, `substr_rfind_from` — a string cut at the first
  and the last separator in it, however many there are;
* `afterLast_afterLast`, `mem_afterLast` — two separators in one string.
-/

namespace Machinery

variable {α : Type*} [DecidableEq α] {c : α} {s a b : List α}

/-- `std::string::npos` -/
def npos : UInt64 := -1

/-- `find(c)` -/
def find (s : List α) (c : α) : UInt64 := (s.findIdx? (· = c)).elim npos UInt64.ofNat

/-- `rfind(c)` -/
def rfind (s : List α) (c : α) : UInt64 :=
  (s.reverse.findIdx? (· = c)).elim npos fun i => UInt64.ofNat (s.length - 1 - i)

omit [DecidableEq α] in
/-- `substr(pos, count)`; `none` is `std::out_of_range`. -/
def substr (s : List α) (pos count : UInt64) : Option (List α) :=
  if pos.toNat ≤ s.length then some ((s.drop pos.toNat).take count.toNat) else none

/-! ## The pieces -/

/-- What is before the first `c`: all of it, if there is none. -/
def beforeFirst (s : List α) (c : α) : List α := s.takeWhile (· ≠ c)

/-- What is after the first `c`: all of it, if there is none. -/
def afterFirst (s : List α) (c : α) : List α :=
  if c ∈ s then (s.dropWhile (· ≠ c)).tail else s

/-- What is before the last `c`: all of it, if there is none. -/
def beforeLast (s : List α) (c : α) : List α :=
  if c ∈ s then (s.rdropWhile (· ≠ c)).dropLast else s

/-- What is after the last `c`: all of it, if there is none. -/
def afterLast (s : List α) (c : α) : List α := s.rtakeWhile (· ≠ c)

/-- What is between the first `c` and the last: after the only one, if there is only one. -/
def between (s : List α) (c : α) : List α := beforeLast (afterFirst s c) c

theorem forall_ne_of_not_mem (h : c ∉ s) : ∀ x ∈ s, decide (x ≠ c) = true :=
  fun _ hx => decide_eq_true (ne_of_mem_of_not_mem hx h)

theorem forall_reverse_ne_of_not_mem (h : c ∉ s) : ∀ x ∈ s.reverse, decide (x ≠ c) = true :=
  forall_ne_of_not_mem fun hc => h (List.mem_reverse.mp hc)

theorem beforeFirst_of_not_mem (h : c ∉ s) : beforeFirst s c = s :=
  List.takeWhile_eq_self_iff.mpr (forall_ne_of_not_mem h)

theorem beforeFirst_append (h : c ∉ a) : beforeFirst (a ++ c :: b) c = a := by
  rw [beforeFirst, List.takeWhile_append_of_pos (forall_ne_of_not_mem h)]
  simp

theorem afterFirst_of_not_mem (h : c ∉ s) : afterFirst s c = s := if_neg h

theorem afterFirst_append (h : c ∉ a) : afterFirst (a ++ c :: b) c = b := by
  rw [afterFirst, if_pos (by simp), List.dropWhile_append_of_pos (forall_ne_of_not_mem h)]
  simp

theorem beforeLast_of_not_mem (h : c ∉ s) : beforeLast s c = s := if_neg h

theorem beforeLast_append (h : c ∉ b) : beforeLast (a ++ c :: b) c = a := by
  rw [beforeLast, if_pos (by simp), List.rdropWhile, List.reverse_append, List.reverse_cons,
    List.append_assoc, List.dropWhile_append_of_pos (forall_reverse_ne_of_not_mem h)]
  simp

theorem afterLast_of_not_mem (h : c ∉ s) : afterLast s c = s :=
  List.rtakeWhile_eq_self_iff.mpr (forall_ne_of_not_mem h)

theorem afterLast_append (h : c ∉ b) : afterLast (a ++ c :: b) c = b := by
  rw [afterLast, List.rtakeWhile, List.reverse_append, List.reverse_cons, List.append_assoc,
    List.takeWhile_append_of_pos (forall_reverse_ne_of_not_mem h)]
  simp

theorem not_mem_beforeFirst : c ∉ beforeFirst s c := by
  intro h
  have hne := List.mem_takeWhile_imp h
  simp at hne

theorem not_mem_afterLast : c ∉ afterLast s c := by
  intro h
  have hne := List.mem_rtakeWhile_imp h
  simp at hne

omit [DecidableEq α] in
theorem exists_append_of_mem (h : c ∈ s) : ∃ a b, s = a ++ c :: b ∧ c ∉ b := by
  obtain ⟨b, a, hs, hb⟩ := List.eq_append_cons_of_mem (List.mem_reverse.mpr h)
  refine ⟨a.reverse, b.reverse, ?_, fun hc => hb (List.mem_reverse.mp hc)⟩
  rw [← List.reverse_reverse s, hs]
  simp

/-- What is after the last `c` of what is after the last `d`. -/
theorem afterLast_afterLast {d : α} (h : c ∈ afterLast s d) :
    afterLast (afterLast s d) c = afterLast s c := by
  by_cases hd : d ∈ s
  · obtain ⟨a, b, rfl, hb⟩ := exists_append_of_mem hd
    rw [afterLast_append hb] at h ⊢
    obtain ⟨x, y, rfl, hy⟩ := exists_append_of_mem h
    have hsplit : a ++ d :: (x ++ c :: y) = (a ++ d :: x) ++ c :: y := by simp
    rw [afterLast_append hy, hsplit, afterLast_append hy]
  · rw [afterLast_of_not_mem hd]

/-- A `c` that is not after the last `d` has that `d` after it. -/
theorem mem_afterLast {d : α} (hne : c ≠ d) (h : c ∈ s) (hc : c ∉ afterLast s d) :
    d ∈ afterLast s c := by
  by_cases hd : d ∈ s
  · obtain ⟨a, b, rfl, hb⟩ := exists_append_of_mem hd
    rw [afterLast_append hb] at hc
    have ha : c ∈ a := by simpa [hc, hne] using h
    obtain ⟨x, y, rfl, hy⟩ := exists_append_of_mem ha
    have hsplit : x ++ c :: y ++ d :: b = x ++ c :: (y ++ d :: b) := by simp
    rw [hsplit, afterLast_append (by simp [hy, hc, hne])]
    simp
  · rw [afterLast_of_not_mem hd] at hc
    exact absurd h hc

/-! ## The positions -/

theorem findIdx?_of_not_mem (h : c ∉ s) : s.findIdx? (· = c) = none :=
  List.findIdx?_eq_none_iff.mpr fun _ hx => decide_eq_false (ne_of_mem_of_not_mem hx h)

theorem find_of_not_mem (h : c ∉ s) : find s c = npos := by
  rw [find, findIdx?_of_not_mem h]
  rfl

theorem find_append (h : c ∉ a) : find (a ++ c :: b) c = UInt64.ofNat a.length := by
  rw [find, List.findIdx?_append, findIdx?_of_not_mem h, List.findIdx?_cons]
  simp

theorem rfind_of_not_mem (h : c ∉ s) : rfind s c = npos := by
  rw [rfind, findIdx?_of_not_mem fun hc => h (List.mem_reverse.mp hc)]
  rfl

theorem rfind_append (h : c ∉ b) : rfind (a ++ c :: b) c = UInt64.ofNat a.length := by
  rw [rfind, List.reverse_append, List.reverse_cons, List.append_assoc, List.findIdx?_append,
    findIdx?_of_not_mem fun hc => h (List.mem_reverse.mp hc)]
  simp [List.findIdx?_cons]

/-! ## The cuts -/

section

omit [DecidableEq α]

theorem toNat_ofNat {n : ℕ} (h : n < npos.toNat) : (UInt64.ofNat n).toNat = n :=
  UInt64.toNat_ofNat_of_lt' (h.trans npos.toNat_lt)

theorem toNat_ofNat_add_one {n : ℕ} (h : n < npos.toNat) : (UInt64.ofNat n + 1).toNat = n + 1 := by
  have hone : (1 : UInt64).toNat = 1 := rfl
  rw [UInt64.toNat_add, toNat_ofNat h, hone]
  exact Nat.mod_eq_of_lt (Nat.succ_lt_of_lt_pred h)

/-- The count of what is between two separators. -/
theorem toNat_count (h : (a ++ c :: b).length < npos.toNat) :
    (UInt64.ofNat (a ++ c :: b).length - UInt64.ofNat a.length - 1).toNat = b.length := by
  have hlen : (a ++ c :: b).length = a.length + 1 + b.length := by simp; omega
  have hone : (1 : UInt64).toNat = 1 := rfl
  have ha : (UInt64.ofNat a.length).toNat = a.length := toNat_ofNat (by omega)
  have hab : (UInt64.ofNat (a ++ c :: b).length).toNat = a.length + 1 + b.length := by
    rw [toNat_ofNat h, hlen]
  have hsub : (UInt64.ofNat (a ++ c :: b).length - UInt64.ofNat a.length).toNat
      = b.length + 1 := by
    rw [UInt64.toNat_sub_of_le _ _ (UInt64.le_iff_toNat_le.mpr (by omega)), ha, hab]
    omega
  rw [UInt64.toNat_sub_of_le _ _ (UInt64.le_iff_toNat_le.mpr (by omega)), hsub, hone]
  omega

/-- A count that reaches past the end. -/
theorem take_npos (h : s.length < npos.toNat) : s.take npos.toNat = s :=
  List.take_of_length_le h.le

theorem substr_eq {pos count : UInt64} (hpos : pos.toNat ≤ s.length) :
    substr s pos count = some ((s.drop pos.toNat).take count.toNat) := if_pos hpos

/-- From past a separator. -/
theorem substr_append {count : UInt64} (hs : (a ++ c :: b).length < npos.toNat) :
    substr (a ++ c :: b) (UInt64.ofNat a.length + 1) count = some (b.take count.toNat) := by
  have hlen : (a ++ c :: b).length = a.length + 1 + b.length := by simp; omega
  rw [substr, toNat_ofNat_add_one (by omega), if_pos (by omega)]
  simp

end

/-- **The text before the first separator**. -/
theorem substr_find (hs : s.length < npos.toNat) :
    substr s 0 (find s c) = some (beforeFirst s c) := by
  rw [substr_eq (Nat.zero_le _)]
  by_cases h : c ∈ s
  · obtain ⟨a, b, rfl, ha⟩ := List.eq_append_cons_of_mem h
    have hlen : a.length < npos.toNat := by simp at hs; omega
    rw [beforeFirst_append ha, find_append ha, toNat_ofNat hlen]
    simp
  · rw [beforeFirst_of_not_mem h, find_of_not_mem h]
    exact congrArg some (take_npos hs)

/-- **The text after the last one**. -/
theorem substr_rfind (hs : s.length < npos.toNat) :
    substr s (rfind s c + 1) npos = some (afterLast s c) := by
  by_cases h : c ∈ s
  · obtain ⟨a, b, rfl, hb⟩ := exists_append_of_mem h
    rw [afterLast_append hb, rfind_append hb, substr_append hs, take_npos]
    simp at hs
    omega
  · rw [afterLast_of_not_mem h, rfind_of_not_mem h, substr_eq (Nat.zero_le _)]
    exact congrArg some (take_npos hs)

/-- **The text from the last one on**, which is not to be had where there is none. -/
theorem substr_rfind_from (hs : s.length < npos.toNat) :
    substr s (rfind s c) npos = if c ∈ s then some (c :: afterLast s c) else none := by
  by_cases h : c ∈ s
  · obtain ⟨a, b, rfl, hb⟩ := exists_append_of_mem h
    have hlen : a.length < npos.toNat := by simp at hs; omega
    rw [if_pos h, afterLast_append hb, rfind_append hb, substr_eq (by simp [toNat_ofNat hlen]),
      toNat_ofNat hlen, List.drop_left]
    refine congrArg some (take_npos ?_)
    simp at hs ⊢
    omega
  · rw [if_neg h, rfind_of_not_mem h, substr, if_neg (Nat.not_le_of_lt hs)]

/-- **The text between the two**, where a count of less than none goes round to `npos`. -/
theorem substr_between (hs : s.length < npos.toNat) :
    substr s (find s c + 1) (rfind s c - find s c - 1) = some (between s c) := by
  rw [between]
  by_cases h : c ∈ s
  · obtain ⟨a, b, rfl, ha⟩ := List.eq_append_cons_of_mem h
    rw [afterFirst_append ha, find_append ha, substr_append hs]
    by_cases hb : c ∈ b
    · obtain ⟨m, d, rfl, hd⟩ := exists_append_of_mem hb
      have hsplit : a ++ c :: (m ++ c :: d) = (a ++ c :: m) ++ c :: d := by simp
      rw [beforeLast_append hd, hsplit, rfind_append hd, toNat_count]
      · simp
      · simp at hs ⊢
        omega
    · rw [beforeLast_of_not_mem hb, rfind_append hb, UInt64.sub_self]
      exact congrArg some (take_npos (by simp at hs; omega))
  · rw [afterFirst_of_not_mem h, beforeLast_of_not_mem h, find_of_not_mem h, rfind_of_not_mem h]
    rw [substr_eq (Nat.zero_le _)]
    exact congrArg some (take_npos hs)

end Machinery
