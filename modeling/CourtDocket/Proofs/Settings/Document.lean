/-
# Settings are read from their document

The document of some settings is a line for each of them (`Settings.toYaml_eq`), and every value is
written as a word: counts as integers, a window that is missing as the word for nothing, the
circumference as a number, be it finite or not.  Reading the mapping of these lines fills every
setting from its own line (`SettingsReader.members_settings`), so that no default shows, and the
settings are those that were written (`Settings.parse_toYaml`).
-/

import CourtDocket.Proofs.Yaml.FlatDocument
import CourtDocket.Proofs.Yaml.Value
import CourtDocket.Settings.Document

namespace CourtDocket

open Yaml

/-! ### The texts of values are words -/

namespace Yaml

open Number

/-- An integer is written as a plain word. -/
theorem isWord_toString (i : ℤ) : IsWord (toString i).toList := by
  rw [toList_toString]
  have hdigits : ∀ c ∈ FloatLayout.decimalDigits i.natAbs, isPlainChar c = true :=
    fun c hc => isPlainChar_of_isDigit (isDigit_of_mem_decimalDigits hc)
  have hne := decimalDigits_ne_nil i.natAbs
  split_ifs with hi
  · refine ⟨?_, by simp, by simpa using hne⟩
    intro c hc
    rcases List.mem_cons.1 hc with rfl | hc
    · decide
    · exact hdigits c hc
  · refine ⟨hdigits, hne, ?_⟩
    intro hdash
    rw [List.nil_append] at hdash
    exact not_mem_decimalDigits (c := '-') (by decide) i.natAbs (by rw [hdash]; simp)

/-- A number with a fraction is written as a plain word. -/
theorem isWord_write (x : Binary64) : IsWord (FloatLayout.yaml.write x).toList := by
  cases x with
  | nan => decide
  | infinite negative => cases negative <;> decide
  | finite negative m e h =>
    have hsign : FloatLayout.yaml.exponentSign.toList = [] := rfl
    obtain ⟨n, hspelled, -, -⟩ := FloatLayout.exists_spelledBy_write (Or.inl hsign) negative h
    obtain ⟨d, cs, hd, htext⟩ := hspelled.exists_digit
    refine ⟨?_, ?_, ?_⟩
    · intro c hc
      rcases hspelled.isDigit_or_mem hc with hc | hc
      · exact isPlainChar_of_isDigit hc
      · have hmarks : ['-', '+', '.', 'e', 'E'].all isPlainChar = true := by decide
        exact List.all_eq_true.1 hmarks c hc
    · rw [htext]
      simp
    · rw [htext]
      cases n.negative with
      | true => simp [Json.Numeral.signText]
      | false =>
        intro hdash
        obtain rfl : d = '-' := (List.cons.inj hdash).1
        exact absurd hd (by decide)

end Yaml

/-! ### Reading a line -/

namespace SettingsReader

variable {d : Document} {g : GivenSettings} {place : Option String} {rest : List Event}

/-- A count is read from a plain text that spells it. -/
theorem int64_of_readInteger? {cs : List Char} {n : Int64}
    (h : (readInteger? cs).bind int64? = some n) : int64 place (plainEvent cs) = .ok n := by
  simp [int64, plainEvent, mayBeNumber, h]

/-- A count is read back from its word. -/
theorem int64_toString (n : Int64) :
    int64 place (plainEvent (toString n.toInt).toList) = .ok n := by
  apply int64_of_readInteger?
  rw [readInteger?_toString, Option.bind_some, int64?_toInt]

/-- A number is read from its text. -/
theorem float_write (x : Binary64) :
    float place (plainEvent (FloatLayout.yaml.write x).toList) = .ok x := by
  simp [float, plainEvent, mayBeNumber, readFloat?_write]

/-- The text of a window. -/
def windowText (w : Option Int64) : String :=
  match w with
  | none => "null"
  | some n => toString n.toInt

/-- A window is read from its text, which is that of a count or the word for nothing. -/
theorem optionalInt64_windowText (w : Option Int64) :
    optionalInt64 place (plainEvent (windowText w).toList) = .ok w := by
  cases w with
  | none => rfl
  | some n =>
    have hnull := spellsNull_toString n.toInt
    have hempty := (isWord_toString n.toInt).ne_nil
    have hread : int64 place (plainEvent (toString n.toInt).toList) = .ok n := int64_toString n
    rw [windowText]
    generalize (toString n.toInt).toList = cs at *
    rw [plainEvent] at hread
    simp [optionalInt64, plainEvent, hnull, hempty, hread, Except.map]

/-- A word is taken as the first value. -/
theorem first_plainEvent (cs : List Char) :
    first d (plainEvent cs :: rest) = .ok (plainEvent cs) := rfl

/-- A name and its value are read, and the next member follows. -/
theorem members_of_scalar {g' : GivenSettings} {n : String} {name : Scalar} {cs : List Char}
    (hname : name.text = n.toList)
    (h : member d (some n) n g (plainEvent cs :: rest) = .ok (g', rest)) (fuel : ℕ) :
    members d (fuel + 1) g (.scalar name :: plainEvent cs :: rest) = members d fuel g' rest := by
  have hread : SettingsReader.name d (.scalar name :: plainEvent cs :: rest) = .ok n := by
    show Except.ok (String.ofList name.text) = _
    rw [hname, String.ofList_toList]
  rw [members, hread]
  · simp only [bind, Except.bind, List.drop_succ_cons, List.drop_zero, h]
  · intro es hes
    cases hes

/-- The name and the value of a line are read, and the next line follows. -/
theorem members_of_member {g' : GivenSettings} {n : String} {cs : List Char}
    (h : member d (some n) n g (plainEvent cs :: rest) = .ok (g', rest)) (fuel : ℕ) :
    members d (fuel + 1) g (plainEvent n.toList :: plainEvent cs :: rest) =
      members d fuel g' rest :=
  members_of_scalar rfl h fuel

/-! ### The line of each setting -/

/-- A setting that is not given yet is filled from a plain text that spells it. -/
theorem fill_eq_ok {α : Type} {old : Option α} {read : Event → Except SettingsFault α}
    {fill : α → GivenSettings} {n : String} {cs : List Char} {x : α} (hold : old = none)
    (h : read (plainEvent cs) = .ok x) :
    (do once n old
        pure (fill (← read (← first d (plainEvent cs :: rest))),
          (plainEvent cs :: rest).drop 1)) = .ok (fill x, rest) := by
  simp [once, hold, first_plainEvent, h, bind, Except.bind, pure, Except.pure]

/-- The horizon is read from the member of its name, unless it is given already. -/
theorem member_policyHorizon {cs : List Char} {x : Int64} (hg : g.policyHorizon = none)
    (h : int64 place (plainEvent cs) = .ok x) :
    member d place "policy_horizon_ms" g (plainEvent cs :: rest) =
      .ok ({ g with policyHorizon := some x }, rest) :=
  fill_eq_ok hg h

/-- The floor is read from the member of its name, unless it is given already. -/
theorem member_policyFloor {cs : List Char} {x : Int64} (hg : g.policyFloor = none)
    (h : int64 place (plainEvent cs) = .ok x) :
    member d place "policy_floor_ms" g (plainEvent cs :: rest) =
      .ok ({ g with policyFloor := some x }, rest) :=
  fill_eq_ok hg h

/-- The reservation window is read from the member of its name, unless it is given already. -/
theorem member_reservationWindow {cs : List Char} {x : Option Int64}
    (hg : g.reservationWindow = none) (h : optionalInt64 place (plainEvent cs) = .ok x) :
    member d place "reservation_window_ms" g (plainEvent cs :: rest) =
      .ok ({ g with reservationWindow := some x }, rest) :=
  fill_eq_ok hg h

/-- The circumference is read from the member of its name, unless it is given already. -/
theorem member_ringCircumference {cs : List Char} {x : Binary64} (hg : g.ringCircumference = none)
    (h : float place (plainEvent cs) = .ok x) :
    member d place "ring_circumference" g (plainEvent cs :: rest) =
      .ok ({ g with ringCircumference := some x }, rest) :=
  fill_eq_ok hg h

/-- The length of a hearing is read from the member of its name, unless it is given already. -/
theorem member_hearingSession {cs : List Char} {x : Int64} (hg : g.hearingSession = none)
    (h : int64 place (plainEvent cs) = .ok x) :
    member d place "hearing_session_ms" g (plainEvent cs :: rest) =
      .ok ({ g with hearingSession := some x }, rest) :=
  fill_eq_ok hg h

end SettingsReader

namespace Settings

open SettingsReader

/-- A line of the document. -/
def yamlMember (name value : String) : Member :=
  (name.toList, value.toList)

/-- The lines of the document of some settings. -/
def yamlMembers (c : Settings) : List Member :=
  [yamlMember "policy_horizon_ms" (toString c.policyHorizon.toInt),
    yamlMember "policy_floor_ms" (toString c.policyFloor.toInt),
    yamlMember "reservation_window_ms" (windowText c.reservationWindow),
    yamlMember "ring_circumference" (FloatLayout.yaml.write c.ringCircumference),
    yamlMember "hearing_session_ms" (toString c.hearingSession.toInt)]

/-- A line is a name, a colon and a word. -/
theorem toList_yamlLine (name value : String) :
    (yamlLine name value).toList = lineText (yamlMember name value) := by
  simp [yamlLine, lineText, yamlMember]

/-- The text of settings is that of a flat mapping. -/
theorem toYaml_eq (c : Settings) : c.toYaml = String.ofList (flatText c.yamlMembers) := by
  rw [← String.toList_inj, String.toList_ofList]
  simp only [toYaml, String.toList_append, toList_yamlLine, yamlMembers, flatText,
    List.flatMap_cons, List.flatMap_nil, List.append_nil, List.append_assoc]
  rfl

/-- Every line has a name that can be a key, and a word. -/
theorem isMember_of_mem_yamlMembers (c : Settings) : ∀ m ∈ c.yamlMembers, IsMember m := by
  have hwindow : IsWord (windowText c.reservationWindow).toList := by
    cases c.reservationWindow with
    | none => decide
    | some n => exact isWord_toString n.toInt
  have hname : ∀ n ∈ ["policy_horizon_ms", "policy_floor_ms", "reservation_window_ms",
      "ring_circumference", "hearing_session_ms"], IsName n.toList := by decide
  simp only [List.forall_mem_cons] at hname
  obtain ⟨hhorizon, hfloor, hreservation, hring, hsession, -⟩ := hname
  simp only [yamlMembers, List.forall_mem_cons]
  exact ⟨⟨hhorizon, isWord_toString _⟩, ⟨hfloor, isWord_toString _⟩, ⟨hreservation, hwindow⟩,
    ⟨hring, isWord_write _⟩, ⟨hsession, isWord_toString _⟩, fun _ hm => by cases hm⟩

/-- **Every setting is filled from its own line.** -/
theorem root_yamlMembers (c : Settings) :
    root { events := .mappingStart :: c.yamlMembers.flatMap memberEvents ++ [.mappingEnd] } =
      .ok ⟨some c.policyHorizon, some c.policyFloor, some c.reservationWindow,
        some c.ringCircumference, some c.hearingSession⟩ := by
  simp only [root, yamlMembers, yamlMember, memberEvents, List.flatMap_cons, List.flatMap_nil,
    List.cons_append, List.nil_append, List.append_nil, List.length_cons, List.length_nil]
  rw [members_of_member (member_policyHorizon rfl (int64_toString c.policyHorizon)),
    members_of_member (member_policyFloor rfl (int64_toString c.policyFloor)),
    members_of_member
      (member_reservationWindow rfl (optionalInt64_windowText c.reservationWindow)),
    members_of_member (member_ringCircumference rfl (float_write c.ringCircumference)),
    members_of_member (member_hearingSession rfl (int64_toString c.hearingSession)), members]

/-- **Settings are read from their document**, whatever empty lines follow it. -/
theorem parse_toYaml (c : Settings) (n : ℕ) :
    parse (c.toYaml ++ String.ofList (List.replicate n '\n')) = .ok c := by
  have hdocument := Document.ofString_flatText (show c.yamlMembers ≠ [] by simp [yamlMembers])
    c.isMember_of_mem_yamlMembers n
  have hblank : Text.isBlank (c.toYaml ++ String.ofList (List.replicate n '\n')) = false := by
    rw [Text.isBlank, List.all_eq_false]
    refine ⟨'p', ?_, by decide⟩
    rw [String.toList_append, List.mem_append, toYaml_eq, String.toList_ofList]
    exact Or.inl (List.mem_cons_self ..)
  rw [parse, hblank, toYaml_eq, ← String.ofList_append, hdocument]
  simp only [Bool.false_eq_true, if_false, ofDocument, root_yamlMembers]
  rfl

end Settings
end CourtDocket
