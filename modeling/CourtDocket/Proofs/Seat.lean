/-
# Who has a seat, said without the order of the tests

`Seat.resolve` asks one question after the other.  Its answer is said here by conditions on what it
was given, each complete in itself:

| state | condition |
| --- | --- |
| taken | a defence is named |
| reserved | no defence is named, a defendant is, and the reservation has not lapsed |
| vacant | no defence is named, and no defendant is or the reservation has lapsed |

A reservation lapses when it has an end (`Seat.EndsAt`) and the clock has reached it
(`Seat.Lapsed`).  The end is the exact sum of the filing time and the window, held at the ends of
the 64-bit range.
-/

import CourtDocket.Proofs.Entry
import CourtDocket.Proofs.Time.Instant

namespace CourtDocket
namespace Seat

/-- Whether a name names somebody. -/
def Named (name : Option String) : Prop :=
  ∃ a, name = some a ∧ Text.isBlank a = false

/-- When a reservation ends, if the window is bounded and the filing time is known. -/
def EndsAt (window : Option Int64) (filed : Option Timestamp) (stop : ℤ) : Prop :=
  ∃ w t, window = some w ∧ filed = some t ∧
    stop = max (-9223372036854775808) (min (t.millis + w.toInt) 9223372036854775807)

/-- Whether the clock has reached the end of a reservation. -/
def Lapsed (window : Option Int64) (filed : Option Timestamp) (now : Int64) : Prop :=
  ∃ stop, EndsAt window filed stop ∧ stop ≤ now.toInt

variable {window : Option Int64} {defence defendant : Option String} {filed : Option Timestamp}
  {now n : Int64}

/-- Somebody is named just when a name is left. -/
theorem named_iff {name : Option String} : Named name ↔ ∃ a, Text.nonBlank name = some a := by
  simp only [Named, Text.nonBlank_eq_some]

/-- Nobody is named just when no name is left. -/
theorem not_named_iff {name : Option String} : ¬ Named name ↔ Text.nonBlank name = none := by
  simp [named_iff, Option.eq_none_iff_forall_ne_some]

/-- The deadline is the end of the reservation. -/
theorem deadline?_eq_some_iff : deadline? window filed = some n ↔ EndsAt window filed n.toInt := by
  rcases window with _ | w <;> rcases filed with _ | t <;> simp [deadline?, EndsAt]
  rw [← Int64.toInt_inj, toInt_addSat, Timestamp.toInt_epochMillis]
  exact eq_comm

/-- The end of a reservation is a 64-bit count. -/
theorem EndsAt.exists_toInt {stop : ℤ} (h : EndsAt window filed stop) :
    ∃ n : Int64, n.toInt = stop := by
  obtain ⟨w, t, -, -, rfl⟩ := h
  exact ⟨addSat t.epochMillis w, by rw [toInt_addSat, Timestamp.toInt_epochMillis]⟩

/-- A reservation has lapsed just when its deadline has come. -/
theorem lapsed_iff : Lapsed window filed now ↔ ∃ n, deadline? window filed = some n ∧ n ≤ now := by
  constructor
  · rintro ⟨stop, ⟨w, t, rfl, rfl, rfl⟩, hstop⟩
    refine ⟨_, rfl, ?_⟩
    rwa [Int64.le_iff_toInt_le, toInt_addSat, Timestamp.toInt_epochMillis]
  · rintro ⟨n, hn, hle⟩
    exact ⟨_, deadline?_eq_some_iff.1 hn, Int64.le_iff_toInt_le.1 hle⟩

/-- **What resolving a seat can give**, with the condition for each. -/
theorem resolve_cases (window : Option Int64) (defence defendant : Option String)
    (filed : Option Timestamp) (now : Int64) :
    (Named defence ∧ ∃ a, resolve window defence defendant filed now = taken a) ∨
    (¬ Named defence ∧ ¬ Named defendant ∧
      resolve window defence defendant filed now = vacant) ∨
    (¬ Named defence ∧ Named defendant ∧ Lapsed window filed now ∧
      ∃ d n, resolve window defence defendant filed now = lapsed d n) ∨
    (¬ Named defence ∧ Named defendant ∧ ¬ Lapsed window filed now ∧
      ∃ d, resolve window defence defendant filed now = reserved d (deadline? window filed)) := by
  simp only [resolve, named_iff, lapsed_iff]
  rcases Text.nonBlank defence with _ | a <;> rcases Text.nonBlank defendant with _ | d <;>
    rcases deadline? window filed with _ | t <;> simp
  by_cases h : t ≤ now
  · simp [h]
  · simp [h, Int64.not_le.1 h]

/-- **A seat is taken when a defence is named.** -/
theorem status_resolve_eq_taken_iff :
    (resolve window defence defendant filed now).status = .taken ↔ Named defence := by
  rcases resolve_cases window defence defendant filed now with
    ⟨h, a, e⟩ | ⟨h, h', e⟩ | ⟨h, h', hl, d, n, e⟩ | ⟨h, h', hl, d, e⟩ <;> simp [e, status, h]

/-- **A seat is reserved for a named defendant until the reservation lapses.** -/
theorem status_resolve_eq_reserved_iff :
    (resolve window defence defendant filed now).status = .reserved ↔
      ¬ Named defence ∧ Named defendant ∧ ¬ Lapsed window filed now := by
  rcases resolve_cases window defence defendant filed now with
    ⟨h, a, e⟩ | ⟨h, h', e⟩ | ⟨h, h', hl, d, n, e⟩ | ⟨h, h', hl, d, e⟩ <;> simp [status, *]

/-- **Any other seat is vacant.** -/
theorem status_resolve_eq_vacant_iff :
    (resolve window defence defendant filed now).status = .vacant ↔
      ¬ Named defence ∧ (Named defendant → Lapsed window filed now) := by
  rcases resolve_cases window defence defendant filed now with
    ⟨h, a, e⟩ | ⟨h, h', e⟩ | ⟨h, h', hl, d, n, e⟩ | ⟨h, h', hl, d, e⟩ <;> simp [status, *]

/-- **A reserved seat shows the end of its reservation, no other seat shows one.** -/
theorem reservedUntil_resolve_eq_some_iff :
    (resolve window defence defendant filed now).reservedUntil = some n ↔
      (resolve window defence defendant filed now).status = .reserved ∧
        EndsAt window filed n.toInt := by
  rw [← deadline?_eq_some_iff]
  rcases resolve_cases window defence defendant filed now with
    ⟨h, a, e⟩ | ⟨h, h', e⟩ | ⟨h, h', hl, d, n, e⟩ | ⟨h, h', hl, d, e⟩ <;>
    simp [e, status, reservedUntil]

/-- **The end that a seat shows is still to come.** -/
theorem lt_of_reservedUntil_resolve
    (h : (resolve window defence defendant filed now).reservedUntil = some n) : now < n := by
  obtain ⟨hstatus, hends⟩ := reservedUntil_resolve_eq_some_iff.1 h
  obtain ⟨-, -, hlapsed⟩ := status_resolve_eq_reserved_iff.1 hstatus
  rw [← Int64.not_le, Int64.le_iff_toInt_le]
  exact fun hle => hlapsed ⟨_, hends, hle⟩

end Seat
end CourtDocket
