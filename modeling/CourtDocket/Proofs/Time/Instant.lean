/-
# The order of instants and their count of milliseconds

`Timestamp.compare` looks at the second first and at the nanosecond within it next, so the
nanosecond of a leap second counts as late in the second before it.  That is the lexicographic
order of the two (`isLE_compare`), hence a linear order: two instants of the same place in it are
the same.

The calendar's range is far within 64 bits, so the 64-bit count of milliseconds is the exact one
(`toInt_epochMillis`).
-/

import CourtDocket.Time.Timestamp
import Mathlib.Data.Int.Order.Basic
import Mathlib.Data.Prod.Lex

namespace CourtDocket
namespace Timestamp

/-- Second and nanosecond, the second counting first. -/
def key (t : Timestamp) : ℤ ×ₗ ℕ :=
  toLex (t.second, t.nano)

/-- The key of an instant tells it from all others. -/
theorem key_injective : Function.Injective key := by
  intro a b h
  obtain ⟨h₁, h₂⟩ := Prod.mk.inj (toLex.injective h)
  cases a
  cases b
  cases h₁
  cases h₂
  rfl

/-- Instants in the order of time. -/
instance : LinearOrder Timestamp :=
  LinearOrder.lift' key key_injective

/-- An instant is no later in the order of its seconds, and of its nanoseconds within a second. -/
theorem le_iff {a b : Timestamp} :
    a ≤ b ↔ a.second < b.second ∨ a.second = b.second ∧ a.nano ≤ b.nano :=
  show key a ≤ key b ↔ _ from Prod.Lex.toLex_le_toLex

/-- **`compare` decides the order of time.** -/
theorem isLE_compare {a b : Timestamp} : (a.compare b).isLE ↔ a ≤ b := by
  rw [le_iff, Timestamp.compare]
  split_ifs with h₁ h₂
  · exact iff_of_true rfl (Or.inl h₁)
  · exact iff_of_false (by decide) (by omega)
  · rw [Nat.isLE_compare]
    omega

/-- The count of milliseconds is exact. -/
theorem toInt_epochMillis (t : Timestamp) : t.epochMillis.toInt = t.millis := by
  obtain ⟨h₁, h₂⟩ := t.second_range
  have h₃ := t.nano_lt
  refine Int64.toInt_ofInt_of_le ?_ ?_ <;> unfold millis <;> omega

end Timestamp
end CourtDocket
