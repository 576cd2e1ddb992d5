import Mathlib.Data.List.Infix

/-!
# Machinery/Overlay — writing over the front of a buffer

A read into a fixed array replaces its first bytes and leaves the rest (`overlay`).  What the next
read does to bytes still in use is `take_overlay_eq_iff`: they survive exactly when one of the two
is a prefix of the other.
-/

namespace Machinery

variable {α : Type*}

/-- `buf` with its front replaced by `d`. -/
def overlay (d buf : List α) : List α := d ++ buf.drop d.length

theorem length_overlay {d buf : List α} (h : d.length ≤ buf.length) :
    (overlay d buf).length = buf.length := by
  rw [overlay, List.length_append, List.length_drop]
  omega

@[simp] theorem take_overlay (d buf : List α) : (overlay d buf).take d.length = d :=
  List.take_left

/-- **Bytes in use survive an overlay exactly when the two agree as far as they both go.** -/
theorem take_overlay_eq_iff {c d buf : List α} (hc : buf.take c.length = c) :
    (overlay d buf).take c.length = c ↔ d <+: c ∨ c <+: d := by
  have hsplit : (overlay d buf).take c.length
      = d.take c.length ++ (buf.drop d.length).take (c.length - d.length) := List.take_append
  have hrest : (buf.drop d.length).take (c.length - d.length) = c.drop d.length := by
    rw [← List.drop_take, hc]
  rw [hsplit, hrest]
  rcases le_total d.length c.length with hle | hle
  · rw [List.take_of_length_le hle]
    constructor
    · exact fun h => Or.inl ⟨_, h⟩
    · rintro (h | h)
      · obtain ⟨t, rfl⟩ := h
        rw [List.drop_left]
      · obtain rfl : c = d := h.eq_of_length_le hle
        rw [List.drop_length, List.append_nil]
  · rw [List.drop_of_length_le hle, List.append_nil]
    constructor
    · exact fun h => Or.inr (h ▸ List.take_prefix _ _)
    · rintro (h | h)
      · obtain rfl : d = c := h.eq_of_length_le hle
        rw [List.take_length]
      · exact (List.prefix_iff_eq_take.mp h).symm

end Machinery
