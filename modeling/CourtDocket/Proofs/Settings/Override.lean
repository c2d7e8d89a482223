/-
# Variables of the environment take the place of settings, all of them or none

What a variable does is told by its value alone.  `Variable.Writes` says which setting a trimmed
value writes, and `Takes` which one a variable leaves: the written one, or the present one when it
is not set.  The settings of an environment are those that every variable takes
(`override_eq_ok_iff`), and a fault is the first variable whose value writes nothing
(`override_eq_error_iff`); there is no third case.

A variable that is taken twice leaves what it left the first time, so the environment changes its
own settings no more (`Overridden.again`).
-/

import CourtDocket.Proofs.Json.Reader
import CourtDocket.Proofs.Number.Reading
import CourtDocket.Proofs.Text.AsciiCase
import CourtDocket.Settings.Override

namespace CourtDocket
namespace Override

open Number

/-! ### Variables -/

/-- The variables of the settings. -/
inductive Variable where
  /-- That of the longest time to a hearing. -/
  | horizon
  /-- That of the time for which a seat stays reserved. -/
  | window
  /-- That of the circumference of a ring. -/
  | circumference
  /-- That of the length of a hearing. -/
  | session
  deriving DecidableEq

namespace Variable

/-- The variables in the order in which they are read. -/
def all : List Variable :=
  [horizon, window, circumference, session]

/-- The name of a variable in the environment. -/
def name : Variable → String
  | horizon => horizonVariable
  | window => windowVariable
  | circumference => circumferenceVariable
  | session => sessionVariable

/-- The settings that a variable chooses from. -/
abbrev Value : Variable → Type
  | horizon => Int64
  | window => Option Int64
  | circumference => Binary64
  | session => Int64

/-- The setting of a variable. -/
def field (s : Settings) : (v : Variable) → v.Value
  | horizon => s.policyHorizon
  | window => s.reservationWindow
  | circumference => s.ringCircumference
  | session => s.hearingSession

/-- **Which setting a text writes.** -/
def Writes : (v : Variable) → String → v.Value → Prop
  | horizon, t, n => WritesInteger t.toList n.toInt
  | window, t, none => Text.SameAsciiCase t "off"
  | window, t, some n => WritesInteger t.toList n.toInt
  | circumference, t, x => WritesFloat t.toList x
  | session, t, n => WritesInteger t.toList n.toInt

/-- Whether a variable is not set, or its trimmed value writes a setting. -/
def ValidIn (env : String → Option String) (v : Variable) : Prop :=
  ∀ raw, env v.name = some raw → ∃ a, v.Writes (Text.trim raw) a

/-- **Which setting a variable leaves**: the one that its trimmed value writes, the present one if
it is not set. -/
def Takes (env : String → Option String) (s : Settings) (v : Variable) (a : v.Value) : Prop :=
  match env v.name with
  | none => a = v.field s
  | some raw => v.Writes (Text.trim raw) a

/-- The reader of a variable. -/
def read? : (v : Variable) → List Char → Option v.Value
  | horizon => readCount?
  | window => readWindow?
  | circumference => readFloat?
  | session => readCount?

/-- The setting that a variable leaves, as it is read. -/
def taken (env : String → Option String) (s : Settings) (v : Variable) :
    Except OverrideFault v.Value :=
  value env v.name v.read? (v.field s)

end Variable

open Variable

/-! ### Reading a value -/

/-- A word is read as a count just when it writes an integer that fits. -/
theorem readCount?_eq_some_iff {cs : List Char} {n : Int64} :
    readCount? cs = some n ↔ WritesInteger cs n.toInt := by
  rw [readCount?, Option.bind_eq_some_iff, ← readInteger?_eq_some_iff]
  constructor
  · rintro ⟨i, hread, hi⟩
    rw [hread, toInt_of_int64? hi]
  · intro hread
    exact ⟨n.toInt, hread, int64?_toInt n⟩

/-- Whether a text is the word for none. -/
theorem sameAsciiCase_off_iff {t : String} :
    Text.SameAsciiCase t "off" ↔ t.toList.map Char.toLower = ['o', 'f', 'f'] :=
  Iff.rfl

/-- The word for none is no integer: there is no digit in it. -/
theorem not_writesInteger_off {t : String} (ht : Text.SameAsciiCase t "off") (i : ℤ) :
    ¬WritesInteger t.toList i := by
  intro hi
  rw [sameAsciiCase_off_iff] at ht
  obtain ⟨d, hd, hmem⟩ : ∃ d, isDigit d = true ∧ d ∈ t.toList := by
    generalize t.toList = cs at hi
    obtain ⟨-, hne, hds⟩ := hi
    obtain ⟨d, ds, rfl⟩ := List.exists_cons_of_ne_nil hne
    exact ⟨d, hds d (List.mem_cons_self ..), by simp⟩
  have hlower : d ∈ t.toList.map Char.toLower := List.mem_map.2 ⟨d, hmem, toLower_of_isDigit hd⟩
  rw [ht] at hlower
  simp only [List.mem_cons, List.not_mem_nil, or_false] at hlower
  rcases hlower with rfl | rfl | rfl <;> revert hd <;> decide

/-- A variable is read as a value just when its text writes the value. -/
theorem read?_eq_some_iff (v : Variable) (t : String) (a : v.Value) :
    v.read? t.toList = some a ↔ v.Writes t a := by
  cases v with
  | horizon => exact readCount?_eq_some_iff
  | circumference => exact readFloat?_eq_some_iff
  | session => exact readCount?_eq_some_iff
  | window =>
    rw [read?, readWindow?]
    split_ifs with h
    · rw [← sameAsciiCase_off_iff] at h
      cases a with
      | none => exact iff_of_true rfl h
      | some n => exact iff_of_false nofun (not_writesInteger_off h n.toInt)
    · rw [← sameAsciiCase_off_iff] at h
      cases a with
      | none => simp [Writes, h]
      | some n => simp [Writes, readCount?_eq_some_iff]

variable {env : String → Option String} {s r : Settings} {v w : Variable} {e : OverrideFault}

/-- A variable leaves what it takes. -/
theorem taken_eq_ok_iff {a : v.Value} : taken env s v = .ok a ↔ v.Takes env s a := by
  rw [taken, value, Takes]
  rcases env v.name with _ | raw
  · simp [eq_comm]
  · have hread := read?_eq_some_iff v (Text.trim raw) a
    rw [Text.trim, String.toList_ofList] at hread
    simp only [← hread, Text.trim]
    cases v.read? (Text.trimChars raw.toList) <;> simp

/-- A variable whose value writes nothing is a fault, and its value is told as it stands. -/
theorem taken_eq_error_iff : taken env s v = .error e ↔
    ∃ raw, env v.name = some raw ∧ (∀ a, ¬v.Writes (Text.trim raw) a) ∧ e = ⟨v.name, raw⟩ := by
  rw [taken, value]
  rcases env v.name with _ | raw
  · simp
  · have hread := read?_eq_some_iff v (Text.trim raw)
    rw [Text.trim, String.toList_ofList] at hread
    simp only [← hread, Text.trim, Option.some.injEq, exists_eq_left']
    cases v.read? (Text.trimChars raw.toList) <;> simp [eq_comm]

/-- There is a value to be taken just when the variable is valid. -/
theorem exists_taken_iff : (∃ a, taken env s v = .ok a) ↔ v.ValidIn env := by
  simp only [taken_eq_ok_iff, Takes, ValidIn]
  cases env v.name <;> simp

/-! ### All of them or none -/

/-- **The settings that an environment leaves.** -/
structure Overridden (env : String → Option String) (s r : Settings) : Prop where
  /-- Every variable leaves the setting that it takes. -/
  takes : ∀ v : Variable, v.Takes env s (v.field r)
  /-- The setting without a variable stays. -/
  policyFloor : r.policyFloor = s.policyFloor

/-- **Where the first variable is refused**, in the order in which they are read. -/
structure FailsFirst (env : String → Option String) (v : Variable) (raw : String) : Prop where
  /-- The variable is set. -/
  isSet : env v.name = some raw
  /-- Its trimmed value writes no setting. -/
  not_writes : ∀ a, ¬v.Writes (Text.trim raw) a
  /-- No variable before it is refused. -/
  before : ∀ w, Variable.all.idxOf w < Variable.all.idxOf v → w.ValidIn env

/-- The four variables are taken in the order of the table. -/
theorem override_eq : s.override env = (do
    let policyHorizon ← taken env s horizon
    let reservationWindow ← taken env s window
    let ringCircumference ← taken env s circumference
    let hearingSession ← taken env s session
    pure { s with policyHorizon, reservationWindow, ringCircumference, hearingSession }) :=
  rfl

/-- **The settings of an environment are those that its variables take.** -/
theorem override_eq_ok_iff : s.override env = .ok r ↔ Overridden env s r := by
  rw [override_eq]
  simp only [Json.bind_eq_ok_iff]
  constructor
  · rintro ⟨a, ha, b, hb, c, hc, d, hd, ⟨⟩⟩
    refine ⟨fun v => taken_eq_ok_iff.1 ?_, rfl⟩
    cases v with
    | horizon => exact ha
    | window => exact hb
    | circumference => exact hc
    | session => exact hd
  · rintro ⟨htakes, hfloor⟩
    have htaken := fun v => taken_eq_ok_iff.2 (htakes v)
    refine ⟨_, htaken horizon, _, htaken window, _, htaken circumference, _, htaken session, ?_⟩
    rw [← hfloor]
    rfl

/-- A value is there when every variable is valid. -/
theorem exists_override_iff : (∃ r, s.override env = .ok r) ↔ ∀ v : Variable, v.ValidIn env := by
  simp only [override_eq_ok_iff]
  constructor
  · rintro ⟨r, h⟩ v
    exact exists_taken_iff.1 ⟨_, taken_eq_ok_iff.2 (h.takes v)⟩
  · intro h
    have htaken : ∀ v : Variable, ∃ a, taken env s v = .ok a := fun v => exists_taken_iff.2 (h v)
    choose a ha using htaken
    refine ⟨⟨a horizon, s.policyFloor, a window, a circumference, a session⟩, fun v => ?_, rfl⟩
    refine taken_eq_ok_iff.1 ?_
    cases v <;> exact ha _

/-- The first variable that fails is not valid. -/
theorem FailsFirst.not_validIn {raw : String} (h : FailsFirst env v raw) : ¬v.ValidIn env := by
  intro hvalid
  obtain ⟨a, ha⟩ := hvalid raw h.isSet
  exact h.not_writes a ha

/-- Only one variable is refused first. -/
theorem FailsFirst.unique {raw raw' : String} (h : FailsFirst env v raw)
    (h' : FailsFirst env w raw') : v = w ∧ raw = raw' := by
  have hle := not_lt.1 fun hlt => h'.not_validIn (h.before w hlt)
  have hge := not_lt.1 fun hlt => h.not_validIn (h'.before v hlt)
  have hmem : v ∈ Variable.all := by cases v <;> decide
  obtain rfl := (List.idxOf_inj hmem).1 (le_antisymm hle hge)
  exact ⟨rfl, Option.some.inj (h.isSet.symm.trans h'.isSet)⟩

/-- Where taking a variable fails, and none before it does, there is a first variable that fails. -/
theorem failsFirst_of_taken (h : taken env s v = .error e)
    (hbefore : ∀ w, Variable.all.idxOf w < Variable.all.idxOf v → w.ValidIn env) :
    ∃ v raw, FailsFirst env v raw ∧ e = ⟨v.name, raw⟩ := by
  obtain ⟨raw, hset, hwrites, rfl⟩ := taken_eq_error_iff.1 h
  exact ⟨v, raw, ⟨hset, hwrites, hbefore⟩, rfl⟩

/-- A fault of the settings is the first variable that is refused. -/
theorem exists_failsFirst (h : s.override env = .error e) :
    ∃ v raw, FailsFirst env v raw ∧ e = ⟨v.name, raw⟩ := by
  have hvalid : ∀ {v : Variable} {a}, taken env s v = .ok a → v.ValidIn env :=
    fun ha => exists_taken_iff.1 ⟨_, ha⟩
  rw [override_eq] at h
  simp only [Json.bind_eq_error_iff] at h
  rcases h with h | ⟨a, ha, h | ⟨b, hb, h | ⟨c, hc, h | ⟨d, hd, h⟩⟩⟩⟩
  · refine failsFirst_of_taken (v := horizon) h fun w hw => ?_
    cases w with
    | _ => exact absurd hw (by decide)
  · refine failsFirst_of_taken (v := window) h fun w hw => ?_
    cases w with
    | horizon => exact hvalid ha
    | _ => exact absurd hw (by decide)
  · refine failsFirst_of_taken (v := circumference) h fun w hw => ?_
    cases w with
    | horizon => exact hvalid ha
    | window => exact hvalid hb
    | _ => exact absurd hw (by decide)
  · refine failsFirst_of_taken (v := session) h fun w hw => ?_
    cases w with
    | horizon => exact hvalid ha
    | window => exact hvalid hb
    | circumference => exact hvalid hc
    | session => exact absurd hw (by decide)
  · cases h

/-- **The settings of an environment fail where a variable is refused first.** -/
theorem override_eq_error_iff :
    s.override env = .error e ↔ ∃ v raw, FailsFirst env v raw ∧ e = ⟨v.name, raw⟩ := by
  refine ⟨exists_failsFirst, ?_⟩
  rintro ⟨v, raw, hfails, rfl⟩
  cases hover : s.override env with
  | ok r => exact absurd (exists_override_iff.1 ⟨r, hover⟩ v) hfails.not_validIn
  | error e =>
    obtain ⟨w, raw', hfails', rfl⟩ := exists_failsFirst hover
    obtain ⟨rfl, rfl⟩ := hfails.unique hfails'
    rfl

/-- **An environment changes its own settings no more.** -/
theorem Overridden.again (h : Overridden env s r) : Overridden env r r := by
  refine ⟨fun v => ?_, rfl⟩
  have htakes := h.takes v
  rw [Takes] at htakes ⊢
  cases hset : env v.name with
  | none => rfl
  | some raw =>
    rw [hset] at htakes
    exact htakes

end Override
end CourtDocket
