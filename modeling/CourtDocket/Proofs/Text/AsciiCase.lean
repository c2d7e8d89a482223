/-
# The case of ASCII letters

`Char.toLower` changes the twenty-six capital letters of ASCII and no other character.  Two texts
that become one under it (`SameAsciiCase`) differ in the case of such letters only.  Nothing that
trimming and lower-casing look at tells an ASCII letter from its other case: whether it is white
space, whether it has letter case, whether it is skipped next to a sigma, and what its lower case
is.  So the two texts are blank together, and their trimmed texts have one lower case
(`lowercaseChars_trimChars_congr`).
-/

import CourtDocket.Proofs.Text.Lowercase

namespace CourtDocket
namespace Text

/-- **Texts that differ only in the case of ASCII letters.** -/
def SameAsciiCase (s t : String) : Prop :=
  s.toList.map Char.toLower = t.toList.map Char.toLower

instance (s t : String) : Decidable (SameAsciiCase s t) :=
  inferInstanceAs (Decidable (_ = _))

/-- A function of characters that does not tell the capital letters of ASCII from the small ones
does not notice `Char.toLower`. -/
theorem apply_toLower {α : Type} (f : Char → α)
    (h : ∀ n < 26, f (Char.ofNat (97 + n)) = f (Char.ofNat (65 + n))) (c : Char) :
    f c.toLower = f c := by
  by_cases hc : c.val ≥ 'A'.val ∧ c.val ≤ 'Z'.val
  · obtain ⟨n, hn, rfl⟩ : ∃ n < 26, c = Char.ofNat (65 + n) := by
      have hlow : 65 ≤ c.toNat := hc.1
      have hhigh : c.toNat ≤ 90 := hc.2
      refine ⟨c.toNat - 65, by omega, ?_⟩
      rw [Nat.add_sub_cancel' hlow, Char.ofNat_toNat]
    have hlower : ∀ n < 26, (Char.ofNat (65 + n)).toLower = Char.ofNat (97 + n) := by decide
    rw [hlower n hn, h n hn]
  · exact congrArg f (dif_neg hc)

/-- A letter in lower case is as blank as the letter. -/
@[simp] theorem isBlankChar_toLower (c : Char) : isBlankChar c.toLower = isBlankChar c :=
  apply_toLower isBlankChar (by decide) c

/-- A letter in lower case is as cased as the letter. -/
@[simp] theorem isCased_toLower (c : Char) : isCased c.toLower = isCased c :=
  apply_toLower isCased (by decide +kernel) c

/-- A letter in lower case is as case-ignorable as the letter. -/
@[simp] theorem isCaseIgnorable_toLower (c : Char) :
    isCaseIgnorable c.toLower = isCaseIgnorable c :=
  apply_toLower isCaseIgnorable (by decide +kernel) c

/-- The lower case of a letter in lower case is that of the letter. -/
@[simp] theorem lowercaseChar_toLower (c : Char) : lowercaseChar c.toLower = lowercaseChar c :=
  apply_toLower lowercaseChar (by decide +kernel) c

/-- A capital sigma is no ASCII letter. -/
theorem toLower_eq_sigma_iff (c : Char) : c.toLower = 'Σ' ↔ c = 'Σ' :=
  iff_of_eq (apply_toLower (· = 'Σ') (by decide) c)

/-! ### Trimming -/

/-- Trimming the start does not see the letter case. -/
theorem trimStart_map_toLower (cs : List Char) :
    trimStart (cs.map Char.toLower) = (trimStart cs).map Char.toLower := by
  rw [trimStart, List.dropWhile_map]
  simp only [Function.comp_def, isBlankChar_toLower]
  rfl

/-- Trimming does not see the letter case. -/
theorem trimChars_map_toLower (cs : List Char) :
    trimChars (cs.map Char.toLower) = (trimChars cs).map Char.toLower := by
  rw [trimChars, trimEnd, trimStart_map_toLower, ← List.map_reverse, List.dropWhile_map,
    ← List.map_reverse]
  simp only [Function.comp_def, isBlankChar_toLower]
  rfl

/-- Whether a text is blank does not depend on letter case. -/
theorem isBlank_congr {s t : String} (h : SameAsciiCase s t) : isBlank s = isBlank t := by
  have hall : ∀ cs : List Char, (cs.map Char.toLower).all isBlankChar = cs.all isBlankChar :=
    fun cs => by simp only [List.all_map, Function.comp_def, isBlankChar_toLower]
  rw [isBlank, isBlank, ← hall, h, hall]

/-! ### Lower-casing -/

/-- Whether a cased character comes next does not depend on letter case. -/
theorem startsCased_map_toLower (cs : List Char) :
    startsCased (cs.map Char.toLower) = startsCased cs := by
  induction cs with
  | nil => rfl
  | cons c cs ih =>
    rw [List.map_cons, startsCased_cons, startsCased_cons, isCaseIgnorable_toLower,
      isCased_toLower, ih]

/-- The lower case of a text does not depend on the letter case of the first 128 characters,
wherever it stands. -/
theorem lowercaseFrom_map_toLower (before cs : List Char) :
    lowercaseFrom (before.map Char.toLower) (cs.map Char.toLower) = lowercaseFrom before cs := by
  induction cs generalizing before with
  | nil => rfl
  | cons c cs ih =>
    have hat : lowercaseAt (before.map Char.toLower) c.toLower (cs.map Char.toLower) =
        lowercaseAt before c cs := by
      rw [lowercaseAt, lowercaseAt, endsWord, endsWord, startsCased_map_toLower,
        startsCased_map_toLower, lowercaseChar_toLower]
      exact if_congr (toLower_eq_sigma_iff c) rfl rfl
    rw [List.map_cons, lowercaseFrom_cons, lowercaseFrom_cons, hat, ← List.map_cons, ih]

/-- **Texts that differ only in the case of ASCII letters have one lower case.** -/
theorem lowercaseChars_congr {cs ds : List Char}
    (h : cs.map Char.toLower = ds.map Char.toLower) : lowercaseChars cs = lowercaseChars ds := by
  rw [lowercaseChars, lowercaseChars, ← lowercaseFrom_map_toLower [] cs,
    ← lowercaseFrom_map_toLower [] ds, h]

/-- A query in lower case does not depend on the letter case that it was given in. -/
theorem lowercaseChars_trimChars_congr {s t : String} (h : SameAsciiCase s t) :
    lowercaseChars (trimChars s.toList) = lowercaseChars (trimChars t.toList) := by
  refine lowercaseChars_congr ?_
  rw [← trimChars_map_toLower, ← trimChars_map_toLower]
  exact congrArg trimChars h

end Text
end CourtDocket
