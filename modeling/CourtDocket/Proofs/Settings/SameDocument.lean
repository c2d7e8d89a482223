/-
# Variables of the environment and a document that sets the same

A document sets a setting by a member of its mapping: the name of the setting and a plain word that
stands for its value (`GivesMembers`).  The members may stand in any order, and the names and words
may be written in any way that the document allows.  Reading them fills each setting from its own
member and no other (`members_of_givesMembers`).

So a document that sets just what an environment sets, and the same, is read as what the environment
makes of the defaults (`Settings.parse_of_setsSame`); and there is one, a line for each variable that
is set (`exists_setsSame`).  The circumference has to be left out for this: its words are others in a
document.
-/

import CourtDocket.Proofs.Settings.Document
import CourtDocket.Proofs.Settings.Override

namespace CourtDocket

open Yaml

/-! ### Plain words -/

namespace Yaml

variable {cs : List Char}

/-- What has to be true of a word that stands for a value. -/
inductive SpelledAs (cs : List Char) : Value → Prop where
  /-- It spells nothing. -/
  | null (h : cs.isEmpty = true ∨ spellsNull cs = true) : SpelledAs cs .null
  /-- It spells a truth value. -/
  | bool {b : Bool} (h : readBool? cs = some b) : SpelledAs cs (.bool b)
  /-- It spells an integer, and does not spell nothing. -/
  | int {i : ℤ} (hempty : cs.isEmpty = false) (hnull : spellsNull cs = false)
      (h : readInteger? cs = some i) : SpelledAs cs (.int i)
  /-- It spells another number. -/
  | float {x : Binary64} (h : readFloat? cs = some x) : SpelledAs cs (.float x)
  /-- It may be any word. -/
  | string : SpelledAs cs (.string cs)

/-- A word is what its spelling says. -/
theorem spelledAs_spelled (cs : List Char) : SpelledAs cs (spelled cs) := by
  rw [spelled]
  by_cases hnull : (cs.isEmpty || spellsNull cs) = true
  · rw [if_pos hnull]
    exact .null (Bool.or_eq_true _ _ ▸ hnull)
  rw [if_neg hnull]
  rw [Bool.or_eq_true, not_or, Bool.not_eq_true, Bool.not_eq_true] at hnull
  split
  · exact .bool ‹_›
  · exact .int hnull.1 hnull.2 (Option.filter_eq_some_iff.1 ‹_›).1
  · split
    · next hfloat =>
      rw [Option.ite_none_left_eq_some] at hfloat
      exact .float hfloat.2
    · exact .string

/-- A word that is read as a value is spelled as it. -/
theorem spelledAs_of_spelled {v : Value} (h : spelled cs = v) : SpelledAs cs v :=
  h ▸ spelledAs_spelled cs

/-- A count is spelled by its digits. -/
theorem spelled_toString (n : Int64) : spelled (toString n.toInt).toList = .int n.toInt := by
  have hlow := n.le_toInt
  have hhigh := n.toInt_lt
  obtain ⟨c, cs, htext, hc⟩ := exists_cons_toString n.toInt
  have hbool : readBool? (toString n.toInt).toList = none := by
    have hwords : ∀ {ws : List String}, (∀ w ∈ ws, w.toList.head? ≠ some '-') →
        (∀ d < 10, ∀ w ∈ ws, w.toList.head? ≠ some (Nat.digitChar d)) →
        (ws.any fun w => w.toList = c :: cs) = false := by
      intro ws hminus hdigit
      rcases hc with rfl | hc
      · exact any_word_eq_false hminus
      · exact any_word_digit_eq_false hc hdigit
    rw [htext, readBool?, hwords (by decide) (by decide), hwords (by decide) (by decide)]
    rfl
  have hwide : readWideInteger? (toString n.toInt).toList = some n.toInt := by
    rw [readWideInteger?, readInteger?_toString, Option.filter_some, if_pos]
    simp only [Bool.and_eq_true, decide_eq_true_eq]
    omega
  have hempty : (toString n.toInt).toList.isEmpty = false := by
    rw [htext]
    rfl
  rw [spelled, hempty, spellsNull_toString, hbool, hwide]
  rfl

end Yaml

namespace Override

/-! ### Members -/

namespace Variable

/-- The name of the setting of a variable in a document. -/
def key : Variable → String
  | horizon => "policy_horizon_ms"
  | window => "reservation_window_ms"
  | circumference => "ring_circumference"
  | session => "hearing_session_ms"

/-- **Whether a plain word stands for a setting.** -/
def StandsFor : (v : Variable) → List Char → v.Value → Prop
  | horizon, cs, n => spelled cs = .int n.toInt
  | window, cs, none => spelled cs = .null
  | window, cs, some n => spelled cs = .int n.toInt
  | circumference, cs, x => spelled cs = .float x
  | session, cs, n => spelled cs = .int n.toInt

/-- What the members of a document have given for a variable. -/
def given (g : GivenSettings) : (v : Variable) → Option v.Value
  | horizon => g.policyHorizon
  | window => g.reservationWindow
  | circumference => g.ringCircumference
  | session => g.hearingSession

/-- The given settings with that of a variable. -/
def fill (g : GivenSettings) : (v : Variable) → v.Value → GivenSettings
  | horizon, a => { g with policyHorizon := some a }
  | window, a => { g with reservationWindow := some a }
  | circumference, a => { g with ringCircumference := some a }
  | session, a => { g with hearingSession := some a }

variable {g : GivenSettings} {v w : Variable} {a : v.Value}

/-- A variable is given once it is filled. -/
theorem given_fill : v.given (v.fill g a) = some a := by
  cases v <;> rfl

/-- To fill a variable leaves the others as they are. -/
theorem given_fill_of_ne (h : w ≠ v) : w.given (v.fill g a) = w.given g := by
  cases v <;> cases w <;> first | rfl | exact absurd rfl h

/-- No variable fills the floor of the policy. -/
theorem policyFloor_fill : (v.fill g a).policyFloor = g.policyFloor := by
  cases v <;> rfl

/-- A setting is what was given for its variable, or that of the defaults. -/
theorem field_complete (v : Variable) :
    v.field g.complete = (v.given g).getD (v.field {}) := by
  cases v <;> rfl

end Variable

open Variable SettingsReader

variable {d : Document} {g : GivenSettings} {env : String → Option String} {r : Settings}
  {text : String} {vs us : List Variable} {es : List Event}

/-- A word that spells a count is read as it. -/
theorem int64_of_spelled {place : Option String} {cs : List Char} {n : Int64}
    (h : spelled cs = .int n.toInt) : int64 place (plainEvent cs) = .ok n := by
  cases spelledAs_of_spelled h with
  | int _ _ hread =>
    refine int64_of_readInteger? ?_
    rw [hread, Option.bind_some, int64?_toInt]

/-- A word that spells a number with a fraction is read as it. -/
theorem float_of_spelled {place : Option String} {cs : List Char} {x : Binary64}
    (h : spelled cs = .float x) : float place (plainEvent cs) = .ok x := by
  cases spelledAs_of_spelled h with
  | float hread => simp [float, plainEvent, mayBeNumber, hread]

/-- A word that stands for the reservation window is read as it, `null` for none. -/
theorem optionalInt64_of_standsFor {place : Option String} {cs : List Char}
    {w : Variable.window.Value} (h : window.StandsFor cs w) :
    optionalInt64 place (plainEvent cs) = .ok w := by
  cases w with
  | none =>
    cases spelledAs_of_spelled h with
    | null hnull => rcases hnull with hnull | hnull <;> simp_all [optionalInt64, plainEvent]
  | some n =>
    have hread : int64 place (plainEvent cs) = .ok n := int64_of_spelled h
    rw [plainEvent] at hread
    cases spelledAs_of_spelled h with
    | int hempty hnull _ => simp [optionalInt64, plainEvent, hempty, hnull, hread, Except.map]

/-- A setting that is not given yet is filled from its member. -/
theorem member_eq {v : Variable} {a : v.Value} {cs : List Char} (place : Option String)
    (rest : List Event) (hg : v.given g = none) (h : v.StandsFor cs a) :
    member d place v.key g (plainEvent cs :: rest) = .ok (v.fill g a, rest) := by
  cases v with
  | horizon => exact member_policyHorizon hg (int64_of_spelled h)
  | window => exact member_reservationWindow hg (optionalInt64_of_standsFor h)
  | circumference => exact member_ringCircumference hg (float_of_spelled h)
  | session => exact member_hearingSession hg (int64_of_spelled h)

/-- **Members that set some settings**, one after the other. -/
inductive GivesMembers (r : Settings) : List Variable → List Event → Prop where
  /-- There are none. -/
  | nil : GivesMembers r [] []
  /-- A name, and a word that stands for the setting. -/
  | cons {v : Variable} {vs : List Variable} {name : Scalar} {cs : List Char} {es : List Event}
      (hname : name.text = v.key.toList) (hvalue : v.StandsFor cs (v.field r))
      (hes : GivesMembers r vs es) :
      GivesMembers r (v :: vs) (.scalar name :: plainEvent cs :: es)

/-- Whether just the settings of some variables are given. -/
structure Filled (r : Settings) (vs : List Variable) (g : GivenSettings) : Prop where
  /-- Those of the variables are. -/
  given : ∀ v ∈ vs, v.given g = some (v.field r)
  /-- Those of the others are not. -/
  not_given : ∀ v ∉ vs, v.given g = none
  /-- That without a variable is not. -/
  policyFloor : g.policyFloor = none

/-- To begin with, no setting is given. -/
theorem filled_nil : Filled r [] {} :=
  ⟨nofun, fun v _ => by cases v <;> rfl, rfl⟩

/-- A member fills the setting of its variable. -/
theorem Filled.cons {v : Variable} (h : Filled r us g) :
    Filled r (v :: us) (v.fill g (v.field r)) := by
  constructor
  case given =>
    intro w hw
    by_cases hwv : w = v
    · subst hwv
      exact given_fill
    · rw [given_fill_of_ne hwv]
      exact h.given w ((List.mem_cons.1 hw).resolve_left hwv)
  case not_given =>
    intro w hw
    rw [List.mem_cons, not_or] at hw
    rw [given_fill_of_ne hw.1]
    exact h.not_given w hw.2
  case policyFloor => exact policyFloor_fill.trans h.policyFloor

/-- **Each setting is filled from its own member.** -/
theorem members_of_givesMembers (hes : GivesMembers r vs es) (hnodup : (vs ++ us).Nodup)
    (hg : Filled r us g) {fuel : ℕ} (hfuel : es.length ≤ fuel) :
    ∃ g', members d fuel g (es ++ [.mappingEnd]) = .ok g' ∧ Filled r (vs.reverse ++ us) g' := by
  induction hes generalizing us g fuel with
  | nil =>
    refine ⟨g, ?_, hg⟩
    rw [List.nil_append, members]
  | @cons v vs name cs es hname hvalue hes ih =>
    rw [List.length_cons, List.length_cons] at hfuel
    obtain ⟨fuel, rfl⟩ : ∃ k, fuel = k + 1 := ⟨fuel - 1, by omega⟩
    rw [List.cons_append, List.nodup_cons, List.mem_append, not_or] at hnodup
    have hmember := member_eq (d := d) (some v.key) (es ++ [.mappingEnd])
      (hg.not_given v hnodup.1.2) hvalue
    have hnext : (vs ++ v :: us).Nodup :=
      List.nodup_middle.2 (List.nodup_cons.2 ⟨by simp [hnodup.1], hnodup.2⟩)
    obtain ⟨g', hread, hfilled⟩ := ih hnext hg.cons (show es.length ≤ fuel by omega)
    refine ⟨g', ?_, ?_⟩
    · rw [List.cons_append, List.cons_append, members_of_scalar hname hmember, hread]
    · rwa [List.reverse_cons, List.append_assoc, List.singleton_append]

/-! ### Documents -/

/-- **Whether a text sets the settings of some variables** and no others. -/
inductive HoldsJust (r : Settings) (text : String) : List Variable → Prop where
  /-- The text is blank. -/
  | blank (hblank : Text.isBlank text = true) : HoldsJust r text []
  /-- There is no document in it, only comments. -/
  | empty (hdocument : Document.ofString text = { events := [] }) : HoldsJust r text []
  /-- It is a mapping of members that set them, and nothing follows. -/
  | mapping {vs : List Variable} {es : List Event} (hblank : Text.isBlank text = false)
      (hes : GivesMembers r vs es)
      (hevents : (Document.ofString text).events = .mappingStart :: (es ++ [.mappingEnd]))
      (hfault : (Document.ofString text).fault = none)
      (hmore : (Document.ofString text).hasMore = false) : HoldsJust r text vs

/-- **Whether a text sets what the variables of an environment set**, each of them once. -/
def SetsSame (env : String → Option String) (r : Settings) (text : String) : Prop :=
  ∃ vs : List Variable, vs.Nodup ∧ (∀ v, v ∈ vs ↔ (env v.name).isSome = true) ∧
    HoldsJust r text vs

/-- Settings are told by those of the variables and the one without. -/
theorem settings_ext {s : Settings} (h : ∀ v : Variable, v.field r = v.field s)
    (hfloor : r.policyFloor = s.policyFloor) : r = s := by
  cases r
  cases s
  cases hfloor
  cases h horizon
  cases h window
  cases h circumference
  cases h session
  rfl

/-- Where just the settings of some variables are given, the others are the defaults. -/
theorem Filled.complete_eq (h : Filled r vs g) (hdefault : ∀ v ∉ vs, v.field r = v.field {})
    (hfloor : r.policyFloor = ({} : Settings).policyFloor) : g.complete = r := by
  refine settings_ext (fun v => ?_) ?_
  · rw [field_complete]
    by_cases hv : v ∈ vs
    · rw [h.given v hv, Option.getD_some]
    · rw [h.not_given v hv, Option.getD_none, hdefault v hv]
  · rw [hfloor, GivenSettings.complete, h.policyFloor]
    rfl

/-- A text that sets some settings is read as these and the defaults. -/
theorem HoldsJust.parse_eq (h : HoldsJust r text vs) (hnodup : vs.Nodup)
    (hdefault : ∀ v ∉ vs, v.field r = v.field {})
    (hfloor : r.policyFloor = ({} : Settings).policyFloor) : Settings.parse text = .ok r := by
  cases h with
  | blank hblank =>
    rw [Settings.parse, if_pos hblank, settings_ext (fun v => hdefault v List.not_mem_nil) hfloor]
  | empty hdocument =>
    have hdefaults : Settings.parse text = .ok {} := by
      rw [Settings.parse, hdocument]
      split_ifs <;> rfl
    rw [hdefaults, settings_ext (fun v => hdefault v List.not_mem_nil) hfloor]
  | @mapping _ es hblank hes hevents hfault hmore =>
    have hlength : es.length ≤ (es ++ [Event.mappingEnd]).length := by simp
    obtain ⟨g, hread, hfilled⟩ := members_of_givesMembers (d := Document.ofString text) hes
      (by rwa [List.append_nil]) filled_nil hlength
    rw [List.append_nil] at hfilled
    have hroot : root (Document.ofString text) = .ok g := by
      rw [root, hevents]
      exact hread
    rw [Settings.parse, hblank, if_neg Bool.false_ne_true, Settings.ofDocument, hroot]
    simp only [bind, Except.bind, hfault, hmore]
    rw [← hfilled.complete_eq (fun v hv => hdefault v (by simpa using hv)) hfloor]
    rfl

/-- **A document that sets what an environment sets is read as what the environment makes of the
defaults.** -/
theorem parse_of_setsSame (hr : Overridden env {} r) (h : SetsSame env r text) :
    Settings.parse text = .ok r := by
  obtain ⟨vs, hnodup, hvs, hholds⟩ := h
  refine hholds.parse_eq hnodup (fun v hv => ?_) hr.policyFloor
  have htakes := hr.takes v
  rw [hvs, Option.not_isSome_iff_eq_none] at hv
  rwa [Takes, hv] at htakes

/-! ### A line for each variable -/

/-- The text of the setting of a variable. -/
def settingText (r : Settings) : Variable → String
  | horizon => toString r.policyHorizon.toInt
  | window => windowText r.reservationWindow
  | circumference => FloatLayout.yaml.write r.ringCircumference
  | session => toString r.hearingSession.toInt

/-- The lines of the settings of some variables. -/
def settingLines (r : Settings) (vs : List Variable) : List Member :=
  vs.map fun v => Settings.yamlMember v.key (settingText r v)

/-- The lines of settings are members of a flat mapping. -/
theorem isMember_of_mem_settingLines (r : Settings) (vs : List Variable) :
    ∀ m ∈ settingLines r vs, IsMember m := by
  intro m hm
  obtain ⟨v, -, rfl⟩ := List.mem_map.1 hm
  refine r.isMember_of_mem_yamlMembers _ ?_
  cases v <;> simp [Settings.yamlMembers, key, settingText]

/-- The text of a whole number stands for its setting, and the word `null` for no reservation
window. -/
theorem standsFor_settingText (r : Settings) {v : Variable} (hv : v ≠ circumference) :
    v.StandsFor (settingText r v).toList (v.field r) := by
  cases v with
  | horizon => exact spelled_toString r.policyHorizon
  | circumference => exact absurd rfl hv
  | session => exact spelled_toString r.hearingSession
  | window =>
    rw [settingText, field]
    cases r.reservationWindow with
    | none => rfl
    | some n => exact spelled_toString n

/-- The lines of settings are members that give them. -/
theorem givesMembers_settingLines (r : Settings) (h : circumference ∉ vs) :
    GivesMembers r vs ((settingLines r vs).flatMap memberEvents) := by
  induction vs with
  | nil => exact .nil
  | cons v vs ih =>
    rw [List.mem_cons, not_or] at h
    exact .cons rfl (standsFor_settingText r (Ne.symm h.1)) (ih h.2)

/-- Lines are no blank text: there is a colon in each. -/
theorem isBlank_flatText {ms : List Member} (h : ms ≠ []) :
    Text.isBlank (String.ofList (flatText ms)) = false := by
  obtain ⟨m, ms, rfl⟩ := List.exists_cons_of_ne_nil h
  rw [Text.isBlank, String.toList_ofList, List.all_eq_false]
  exact ⟨':', by simp [flatText, lineText], by decide⟩

/-- **There is such a document**, if the circumference is not set. -/
theorem exists_setsSame (h : env circumferenceVariable = none) (r : Settings) :
    ∃ text, SetsSame env r text := by
  let vs := Variable.all.filter fun v => (env v.name).isSome
  have hmem : ∀ v, v ∈ vs ↔ (env v.name).isSome = true := by
    intro v
    have hall : v ∈ Variable.all := by cases v <;> decide
    simp [vs, hall]
  have hnodup : vs.Nodup := List.Nodup.filter _ (by decide)
  have hcircumference : circumference ∉ vs := by simp [hmem, Variable.name, h]
  by_cases hvs : vs = []
  · exact ⟨"", vs, hnodup, hmem, hvs ▸ .blank rfl⟩
  · have hne : settingLines r vs ≠ [] := by simpa [settingLines] using hvs
    have hdocument := Document.ofString_flatText hne (isMember_of_mem_settingLines r vs) 0
    rw [List.replicate_zero, List.append_nil] at hdocument
    refine ⟨_, vs, hnodup, hmem, .mapping (isBlank_flatText hne)
      (givesMembers_settingLines r hcircumference) ?_ ?_ ?_⟩ <;> rw [hdocument]
    rfl

/-! ### All of them or none -/

/-- **An environment takes the place of all settings that it sets, or of none.**  There are settings
just when every variable that is set can be read; they are the written ones where a variable is set
and the present ones elsewhere, and the environment changes them no more.  Otherwise the first
variable that cannot be read is told with its whole value.  When the circumference is left out, the
defaults become what is read from any document that sets the same, and there is one. -/
theorem override_all_or_none (env : String → Option String) (s : Settings) :
    ((∃ r, s.override env = .ok r) ↔ ∀ v : Variable, v.ValidIn env) ∧
    (∀ r, s.override env = .ok r ↔ Overridden env s r) ∧
    (∀ r, s.override env = .ok r → r.override env = .ok r) ∧
    (∀ e, s.override env = .error e ↔ ∃ v raw, FailsFirst env v raw ∧ e = ⟨v.name, raw⟩) ∧
    (env circumferenceVariable = none → ∀ r, ({} : Settings).override env = .ok r →
      (∃ text, SetsSame env r text) ∧
        ∀ text, SetsSame env r text → Settings.parse text = .ok r) := by
  refine ⟨exists_override_iff, fun r => override_eq_ok_iff, fun r hr => ?_,
    fun e => override_eq_error_iff, fun hcircumference r hr => ?_⟩
  · exact override_eq_ok_iff.2 (override_eq_ok_iff.1 hr).again
  · exact ⟨exists_setsSame hcircumference r,
      fun text htext => parse_of_setsSame (override_eq_ok_iff.1 hr) htext⟩

/-- An environment that sets a horizon and leaves the seats reserved without end. -/
def endlessEnvironment (n : String) : Option String :=
  if n = horizonVariable then some " +007 " else if n = windowVariable then some "oFF" else none

/-- An environment of which the second and the last variable cannot be read. -/
def unreadableEnvironment (n : String) : Option String :=
  if n = horizonVariable then some "7"
  else if n = windowVariable then some " never "
  else if n = sessionVariable then some "an hour"
  else none

/-- Settings and their names may be written in other ways and in another order; of two variables
that cannot be read the first one is told. -/
theorem override_all_or_none_endless :
    (∃ r, ({} : Settings).override endlessEnvironment = .ok r ∧ r.policyHorizon = 7 ∧
      r.reservationWindow = none ∧
      Settings.parse "reservation_window_ms: ~\n'policy_horizon_ms': 0x7 # ms\n" = .ok r) ∧
    ({} : Settings).override unreadableEnvironment = .error ⟨windowVariable, " never "⟩ := by
  constructor
  · let r : Settings := { policyHorizon := 7, reservationWindow := none }
    have hr : ({} : Settings).override endlessEnvironment = .ok r := by decide +kernel
    let word : Scalar := ⟨none, .quoted, "policy_horizon_ms".toList⟩
    let text := "reservation_window_ms: ~\n'policy_horizon_ms': 0x7 # ms\n"
    have hdocument : Document.ofString text =
        { events := [.mappingStart, plainEvent "reservation_window_ms".toList, plainEvent ['~'],
          .scalar word, plainEvent "0x7".toList, .mappingEnd] } := by decide +kernel
    have hmembers : GivesMembers r [window, horizon]
        [plainEvent "reservation_window_ms".toList, plainEvent ['~'],
          .scalar word, plainEvent "0x7".toList] := by
      have hwindow : spelled ['~'] = .null := by decide
      have hhorizon : spelled "0x7".toList = .int 7 := by decide +kernel
      exact .cons rfl hwindow (.cons rfl hhorizon .nil)
    have hsame : SetsSame endlessEnvironment r text := by
      refine ⟨[window, horizon], by decide, fun v => by cases v <;> decide, ?_⟩
      refine .mapping (by decide) hmembers ?_ ?_ ?_ <;> rw [hdocument]
      rfl
    exact ⟨r, hr, rfl, rfl,
      ((override_all_or_none endlessEnvironment {}).2.2.2.2 rfl r hr).2 _ hsame⟩
  · refine ((override_all_or_none unreadableEnvironment {}).2.2.2.1 _).2
      ⟨window, " never ", ⟨rfl, fun a ha => ?_, fun w hw => ?_⟩, rfl⟩
    · have hread : window.read? (Text.trim " never ").toList = none := by decide +kernel
      rw [(read?_eq_some_iff window _ a).2 ha] at hread
      cases hread
    · obtain rfl : w = horizon := by cases w <;> first | rfl | exact absurd hw (by decide)
      intro raw hraw
      obtain rfl := Option.some.inj hraw
      exact ⟨7, (read?_eq_some_iff horizon _ 7).1 (by decide +kernel)⟩

end Override
end CourtDocket
