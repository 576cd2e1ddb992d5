import Mathlib.Data.Int.Notation
import Mathlib.Data.Nat.Notation
import Mathlib.Data.List.TakeWhile

/-!
# Machinery/Decimal — an `int` in decimal, written and read

`std::to_string` is `toString`.  `std::stoi` is its inverse on what it writes, and reads more: it
skips blanks, takes a `+`, and stops at what is no digit.  A stream that is read to its end has
nothing but blanks after its number.

* `stoi_toString` — what is written is read back;
* `extracted_literal` — a stream reads every literal as its number, `-0` among them.
-/

namespace Machinery

/-- The values of an `int`. -/
def IsInt32 (n : ℤ) : Prop := -0x80000000 ≤ n ∧ n ≤ 0x7fffffff

instance (n : ℤ) : Decidable (IsInt32 n) := inferInstanceAs (Decidable (_ ∧ _))

/-- `std::isspace` -/
def isSpace (c : Char) : Bool := c.toNat = 32 ∨ 9 ≤ c.toNat ∧ c.toNat ≤ 13

/-- The digits a text begins with, as a number; there may be none. -/
def leadingDigits (s : List Char) : Option ℕ :=
  let digits := s.takeWhile Char.isDigit
  if digits = [] then none else some (Nat.ofDigitChars 10 digits 0)

/-- `std::strtol(s, …, 10)`, with `none` where it converts nothing; a value that fits no `long` is
given as it is. -/
def strtol (s : List Char) : Option ℤ :=
  match s.dropWhile isSpace with
  | '-' :: s => (leadingDigits s).map fun n : ℕ => -(n : ℤ)
  | '+' :: s => (leadingDigits s).map fun n : ℕ => (n : ℤ)
  | s => (leadingDigits s).map fun n : ℕ => (n : ℤ)

/-- `std::stoi`; `none` is `std::invalid_argument` or `std::out_of_range`. -/
def stoi (s : List Char) : Option ℤ := (strtol s).filter fun n => IsInt32 n

/-- What a text has after the number it begins with. -/
def strtolRest (s : List Char) : List Char :=
  match s.dropWhile isSpace with
  | '-' :: s => s.dropWhile Char.isDigit
  | '+' :: s => s.dropWhile Char.isDigit
  | s => s.dropWhile Char.isDigit

/-- A number that is extracted from a stream, with nothing left in it. -/
def extracted (s : List Char) : Option ℤ :=
  if (strtolRest s).all isSpace then strtol s else none

/-- A number as it is written: its sign, and its digits. -/
def literal (minus : Bool) (n : ℕ) : List Char :=
  if minus then '-' :: Nat.toDigits 10 n else Nat.toDigits 10 n

/-- …and its value. -/
def signed (minus : Bool) (n : ℕ) : ℤ := if minus then -n else n

theorem toNat_of_isDigit {c : Char} (h : c.isDigit = true) : 48 ≤ c.toNat ∧ c.toNat ≤ 57 := by
  rw [Char.isDigit, Bool.and_eq_true, decide_eq_true_eq, decide_eq_true_eq] at h
  exact ⟨UInt32.le_iff_toNat_le.mp h.1, UInt32.le_iff_toNat_le.mp h.2⟩

theorem leadingDigits_toDigits (n : ℕ) : leadingDigits (Nat.toDigits 10 n) = some n := by
  have hdigits : (Nat.toDigits 10 n).takeWhile Char.isDigit = Nat.toDigits 10 n :=
    List.takeWhile_eq_self_iff.mpr fun _ hc =>
      Nat.isDigit_of_mem_toDigits (by decide) (by decide) hc
  simp [leadingDigits, hdigits, Nat.toDigits_ne_nil]

/-- A number in decimal begins with a digit. -/
theorem toDigits_eq_cons (n : ℕ) :
    ∃ (c : Char) (s : List Char), Nat.toDigits 10 n = c :: s ∧ c.isDigit = true := by
  obtain ⟨c, s, hdigits⟩ := List.exists_cons_of_ne_nil (Nat.toDigits_ne_nil (b := 10) (n := n))
  have hmem : c ∈ Nat.toDigits 10 n := hdigits ▸ List.mem_cons_self
  exact ⟨c, s, hdigits, Nat.isDigit_of_mem_toDigits (by decide) (by decide) hmem⟩

/-- A digit is no blank, and no sign. -/
theorem ne_of_isDigit {c : Char} (h : c.isDigit = true) :
    ¬ isSpace c = true ∧ c ≠ '-' ∧ c ≠ '+' := by
  have hc := toNat_of_isDigit h
  refine ⟨?_, ?_, ?_⟩
  · simp only [isSpace, decide_eq_true_eq]
    omega
  · rintro rfl
    simp at hc
  · rintro rfl
    simp at hc

/-- A text that begins with a digit has no sign. -/
theorem strtol_cons {c : Char} {s : List Char} (h : c.isDigit = true) :
    strtol (c :: s) = (leadingDigits (c :: s)).map fun n : ℕ => (n : ℤ) := by
  obtain ⟨hspace, hminus, hplus⟩ := ne_of_isDigit h
  rw [strtol, List.dropWhile_cons_of_neg hspace]
  split
  · rename_i heq
    exact absurd (List.cons.inj heq).1 hminus
  · rename_i heq
    exact absurd (List.cons.inj heq).1 hplus
  · rfl

theorem strtol_minus (s : List Char) :
    strtol ('-' :: s) = (leadingDigits s).map fun n : ℕ => -(n : ℤ) := rfl

theorem strtol_toDigits (n : ℕ) : strtol (Nat.toDigits 10 n) = some (n : ℤ) := by
  obtain ⟨c, s, hdigits, hc⟩ := toDigits_eq_cons n
  rw [hdigits, strtol_cons hc, ← hdigits, leadingDigits_toDigits, Option.map_some]

theorem toList_toString (n : ℤ) : (toString n).toList
    = if 0 ≤ n then Nat.toDigits 10 n.toNat else '-' :: Nat.toDigits 10 (-n).toNat := by
  rw [Int.toString_eq_repr, Int.repr_eq_if]
  split
  · exact Nat.toList_repr
  · rw [String.toList_append, Nat.toList_repr]
    rfl

theorem strtol_toString (n : ℤ) : strtol (toString n).toList = some n := by
  rw [toList_toString]
  split
  · rename_i hn
    rw [strtol_toDigits, Int.toNat_of_nonneg hn]
  · rw [strtol_minus, leadingDigits_toDigits, Option.map_some]
    exact congrArg some (by omega)

/-- **What is written is read back.** -/
theorem stoi_toString {n : ℤ} (h : IsInt32 n) : stoi (toString n).toList = some n := by
  rw [stoi, strtol_toString]
  simp [h]

theorem dropWhile_isDigit_toDigits (n : ℕ) : (Nat.toDigits 10 n).dropWhile Char.isDigit = [] :=
  List.dropWhile_eq_nil_iff.mpr fun _ hc => Nat.isDigit_of_mem_toDigits (by decide) (by decide) hc

theorem strtolRest_cons {c : Char} {s : List Char} (h : c.isDigit = true) :
    strtolRest (c :: s) = (c :: s).dropWhile Char.isDigit := by
  obtain ⟨hspace, hminus, hplus⟩ := ne_of_isDigit h
  rw [strtolRest, List.dropWhile_cons_of_neg hspace]
  split
  · rename_i heq
    exact absurd (List.cons.inj heq).1 hminus
  · rename_i heq
    exact absurd (List.cons.inj heq).1 hplus
  · rfl

/-- **A literal is read as its number**, to its end. -/
theorem extracted_literal (minus : Bool) (n : ℕ) :
    extracted (literal minus n) = some (signed minus n) := by
  cases minus with
  | false =>
    obtain ⟨c, s, hdigits, hc⟩ := toDigits_eq_cons n
    have hrest : strtolRest (Nat.toDigits 10 n) = [] := by
      rw [hdigits, strtolRest_cons hc, ← hdigits, dropWhile_isDigit_toDigits]
    rw [extracted, literal, signed, if_neg Bool.false_ne_true, if_neg Bool.false_ne_true, hrest,
      strtol_toDigits]
    rfl
  | true =>
    have hrest : strtolRest ('-' :: Nat.toDigits 10 n) = [] := dropWhile_isDigit_toDigits n
    rw [extracted, literal, signed, if_pos rfl, if_pos rfl, hrest, strtol_minus,
      leadingDigits_toDigits]
    rfl

theorem isInt32_of_stoi {s : List Char} {n : ℤ} (h : stoi s = some n) : IsInt32 n :=
  of_decide_eq_true (Option.filter_eq_some_iff.mp h).2

end Machinery
