/-
# Sums and differences that stay within 64 bits

The arithmetic of the components `claim`, `countdown`, `filter`, `policy` and `projection` of
`docket-view`, §4.1 to §4.5 of the specification.

Instants, spans of time and vote counts are 64-bit integers.  A sum or a difference that does
not fit is held at the nearest end of the range.  Both operations are the exact one on `Int`
followed by a clamp (`toInt_addSat`, `toInt_subSat`), so neither ever changes the sign of the
exact result.
-/

namespace CourtDocket

/-- The sum of two counts, held at the nearest end of the range when it does not fit. -/
def addSat (a b : Int64) : Int64 :=
  Int64.ofIntClamp (a.toInt + b.toInt)

/-- The difference of two counts, held at the nearest end of the range when it does not fit. -/
def subSat (a b : Int64) : Int64 :=
  Int64.ofIntClamp (a.toInt - b.toInt)

/-- An integer that is clamped is held between the ends of the range. -/
theorem toInt_ofIntClamp (i : Int) :
    (Int64.ofIntClamp i).toInt = max (-9223372036854775808) (min i 9223372036854775807) := by
  unfold Int64.ofIntClamp
  have hmin : Int64.minValue.toInt = -9223372036854775808 := by decide
  have hmax : Int64.maxValue.toInt = 9223372036854775807 := by decide
  split
  · split
    · rw [Int64.toInt_ofIntLE]; omega
    · rw [hmax]; omega
  · rw [hmin]; omega

/-- A sum is the exact one, held between the ends of the range. -/
theorem toInt_addSat (a b : Int64) :
    (addSat a b).toInt = max (-9223372036854775808) (min (a.toInt + b.toInt) 9223372036854775807) :=
  toInt_ofIntClamp _

/-- A difference is the exact one, held between the ends of the range. -/
theorem toInt_subSat (a b : Int64) :
    (subSat a b).toInt = max (-9223372036854775808) (min (a.toInt - b.toInt) 9223372036854775807) :=
  toInt_ofIntClamp _

/-- The count written by an integer, when it is in the range. -/
def int64? (i : Int) : Option Int64 :=
  if -9223372036854775808 ≤ i ∧ i ≤ 9223372036854775807 then some (Int64.ofInt i) else none

/-- An integer that fits 64 bits is that of its count. -/
theorem toInt_of_int64? {i : Int} {n : Int64} (h : int64? i = some n) : n.toInt = i := by
  unfold int64? at h
  split at h
  · cases h
    exact Int64.toInt_ofInt_of_le (by omega) (by omega)
  · cases h

/-- The integer of a count fits 64 bits. -/
theorem int64?_toInt (n : Int64) : int64? n.toInt = some n := by
  unfold int64?
  have h₁ := Int64.le_toInt n
  have h₂ := Int64.toInt_lt n
  rw [if_pos (by omega), Int64.ofInt_toInt]

end CourtDocket
