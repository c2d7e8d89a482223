/-
# What the lower case of a text owes to its neighbours

Every character has a lower case of its own but the capital sigma, which becomes `ς` where it ends
a word (`endsWord`) and `σ` elsewhere.  So a text inside another one is written there as it is
written alone when its capital sigmas end words in both or in neither (`KeepsSigmas`), and only
then (`lowercaseBetween_eq_iff`).

A character that is neither cased nor case ignorable, such as a space, breaks the text for a sigma:
nothing is seen across it.  The lower case of texts joined by a space is therefore that of the
texts, joined by a space (`lowercaseChars_intercalate`), and no other character becomes a space
(`mem_of_space_mem_lowercaseChars`).
-/

import CourtDocket.Text.Lowercase
import Mathlib.Data.List.Infix
import Mathlib.Tactic.SplitIfs

namespace CourtDocket
namespace Text

/-- Whether a capital sigma between the characters `before` (last one first) and `after` ends a
word. -/
def endsWord (before after : List Char) : Bool :=
  startsCased before && !startsCased after

/-- The lower case of a character between the characters `before` (last one first) and `after`. -/
def lowercaseAt (before : List Char) (c : Char) (after : List Char) : List Char :=
  if c = 'Σ' then [if endsWord before after then 'ς' else 'σ'] else lowercaseChar c

/-- The lower case of the characters in the middle, `before` (last one first) and `after` being
those around them. -/
def lowercaseBetween (before : List Char) : List Char → List Char → List Char
  | [], _ => []
  | c :: cs, after => lowercaseAt before c (cs ++ after) ++ lowercaseBetween (c :: before) cs after

/-- **Whether the capital sigmas of a text end words** between `before` (last one first) and
`after` just where they do in the text alone. -/
def KeepsSigmas (before cs after : List Char) : Prop :=
  ∀ u v, cs = u ++ 'Σ' :: v → endsWord (u.reverse ++ before) (v ++ after) = endsWord u.reverse v

variable {before before' cs after after' : List Char} {c : Char}

/-! ### The nearest character that counts -/

/-- Whether a cased character comes next is decided by the first that is not case-ignorable. -/
theorem startsCased_cons (c : Char) (cs : List Char) :
    startsCased (c :: cs) = if isCaseIgnorable c then startsCased cs else isCased c := by
  rw [startsCased, List.dropWhile_cons]
  split_ifs
  · rfl
  · rfl

/-- Nothing is seen behind a character that is neither cased nor case ignorable. -/
theorem startsCased_append_break (hcased : isCased c = false)
    (hignorable : isCaseIgnorable c = false) (cs rest : List Char) :
    startsCased (cs ++ c :: rest) = startsCased cs := by
  induction cs with
  | nil => rw [List.nil_append, startsCased_cons, hignorable, hcased]; rfl
  | cons d cs ih => rw [List.cons_append, startsCased_cons, startsCased_cons, ih]

/-! ### A text and its parts -/

/-- A text is lower-cased from its first character on. -/
theorem lowercaseFrom_cons (before : List Char) (c : Char) (cs : List Char) :
    lowercaseFrom before (c :: cs) = lowercaseAt before c cs ++ lowercaseFrom (c :: before) cs :=
  rfl

/-- The lower case of a text, split in two. -/
theorem lowercaseFrom_append (before cs after : List Char) :
    lowercaseFrom before (cs ++ after) =
      lowercaseBetween before cs after ++ lowercaseFrom (cs.reverse ++ before) after := by
  induction cs generalizing before with
  | nil => rfl
  | cons c cs ih =>
    rw [List.cons_append, lowercaseFrom_cons, ih, lowercaseBetween, List.append_assoc,
      List.reverse_cons, List.append_assoc, List.singleton_append]

/-- A part with nothing behind it is lower-cased as the end of a text is. -/
theorem lowercaseBetween_nil_right (before cs : List Char) :
    lowercaseBetween before cs [] = lowercaseFrom before cs := by
  have happend := lowercaseFrom_append before cs []
  rw [List.append_nil] at happend
  rw [happend]
  exact (List.append_nil _).symm

/-- The lower case of a text around a part of it. -/
theorem lowercaseChars_append_append (before cs after : List Char) :
    lowercaseChars (before ++ cs ++ after) =
      lowercaseBetween [] before (cs ++ after) ++ lowercaseBetween before.reverse cs after ++
        lowercaseFrom (cs.reverse ++ before.reverse) after := by
  rw [lowercaseChars, List.append_assoc, lowercaseFrom_append, lowercaseFrom_append,
    List.append_nil, List.append_assoc]

/-- A character is lower-cased alike at two places just when it is no sigma, or ends a word at both
or at neither. -/
theorem lowercaseAt_eq_iff : lowercaseAt before c after = lowercaseAt before' c after' ↔
    (c = 'Σ' → endsWord before after = endsWord before' after') := by
  rw [lowercaseAt, lowercaseAt]
  by_cases hc : c = 'Σ'
  · rw [if_pos hc, if_pos hc]
    cases endsWord before after <;> cases endsWord before' after' <;> simp [hc]
  · simp [hc]

/-- The place of a character does not change the length of its lower case. -/
theorem length_lowercaseAt (before before' : List Char) (c : Char) (after after' : List Char) :
    (lowercaseAt before c after).length = (lowercaseAt before' c after').length := by
  rw [lowercaseAt, lowercaseAt]
  by_cases hc : c = 'Σ'
  · rw [if_pos hc, if_pos hc, List.length_singleton, List.length_singleton]
  · rw [if_neg hc, if_neg hc]

/-- **Two surroundings give a text the same lower case** when each of its capital sigmas ends a
word in both or in neither. -/
theorem lowercaseBetween_congr_iff :
    lowercaseBetween before cs after = lowercaseBetween before' cs after' ↔
      ∀ u v, cs = u ++ 'Σ' :: v →
        endsWord (u.reverse ++ before) (v ++ after) =
          endsWord (u.reverse ++ before') (v ++ after') := by
  induction cs generalizing before before' with
  | nil => simp [lowercaseBetween]
  | cons c cs ih =>
    -- a sigma is the first character, or one of the others
    have hsplit : (∀ u v, c :: cs = u ++ 'Σ' :: v →
          endsWord (u.reverse ++ before) (v ++ after) =
            endsWord (u.reverse ++ before') (v ++ after')) ↔
        (c = 'Σ' → endsWord before (cs ++ after) = endsWord before' (cs ++ after')) ∧
          ∀ u v, cs = u ++ 'Σ' :: v →
            endsWord (u.reverse ++ c :: before) (v ++ after) =
              endsWord (u.reverse ++ c :: before') (v ++ after') := by
      constructor
      · intro h
        refine ⟨fun hc => h [] cs (by rw [hc]; rfl), fun u v hcs => ?_⟩
        simpa using h (c :: u) v (by rw [hcs]; rfl)
      · rintro ⟨hfirst, hothers⟩ u v hcs
        cases u with
        | nil =>
          obtain ⟨rfl, rfl⟩ := List.cons.inj hcs
          exact hfirst rfl
        | cons d u =>
          obtain ⟨rfl, rfl⟩ := List.cons.inj hcs
          simpa using hothers u v rfl
    rw [hsplit, ← ih, ← lowercaseAt_eq_iff, lowercaseBetween, lowercaseBetween]
    constructor
    · exact fun h => List.append_inj h (length_lowercaseAt ..)
    · rintro ⟨hfirst, hothers⟩
      rw [hfirst, hothers]

/-- **A text is written inside another one as it is alone** exactly when its capital sigmas end
words in both or in neither. -/
theorem lowercaseBetween_eq_iff :
    lowercaseBetween before cs after = lowercaseChars cs ↔ KeepsSigmas before cs after := by
  rw [lowercaseChars, ← lowercaseBetween_nil_right, lowercaseBetween_congr_iff, KeepsSigmas]
  simp only [List.append_nil]

instance : Decidable (KeepsSigmas before cs after) :=
  decidable_of_iff _ lowercaseBetween_eq_iff

/-- A text without sigmas keeps them at any place. -/
theorem keepsSigmas_of_notMem (h : 'Σ' ∉ cs) (before after : List Char) :
    KeepsSigmas before cs after := by
  rintro u v rfl
  exact absurd (List.mem_append_right u (List.mem_cons_self ..)) h

/-! ### Texts joined by a space -/

/-- A character that is neither cased nor case ignorable parts the text for lower-casing. -/
theorem lowercaseChars_append_break (hcased : isCased c = false)
    (hignorable : isCaseIgnorable c = false) (cs rest : List Char) :
    lowercaseChars (cs ++ c :: rest) =
      lowercaseChars cs ++ (lowercaseChar c ++ lowercaseChars rest) := by
  have hsigma : c ≠ 'Σ' := by
    rintro rfl
    exact absurd hcased (by decide +kernel)
  have hcs : lowercaseBetween [] cs (c :: rest) = lowercaseChars cs := by
    refine lowercaseBetween_eq_iff.2 fun u v _ => ?_
    rw [endsWord, endsWord, startsCased_append_break hcased hignorable, List.append_nil]
  have hrest : lowercaseFrom (c :: (cs.reverse ++ [])) rest = lowercaseChars rest := by
    rw [lowercaseChars, ← lowercaseBetween_nil_right, ← lowercaseBetween_nil_right,
      lowercaseBetween_congr_iff]
    intro u v _
    rw [endsWord, endsWord, startsCased_append_break hcased hignorable, List.append_nil,
      List.append_nil]
  rw [lowercaseChars, lowercaseFrom_append, lowercaseFrom_cons, hcs, hrest, lowercaseAt,
    if_neg hsigma]

/-- **The lower case of texts joined by a space** is that of the texts, joined by a space. -/
theorem lowercaseChars_intercalate (texts : List (List Char)) :
    lowercaseChars ([' '].intercalate texts) = [' '].intercalate (texts.map lowercaseChars) := by
  induction texts with
  | nil => rfl
  | cons cs texts ih =>
    cases texts with
    | nil => simp
    | cons ds texts =>
      have hspace : lowercaseChar ' ' = [' '] := by decide +kernel
      rw [List.map_cons, List.map_cons, List.intercalate_cons_cons, List.intercalate_cons_cons,
        List.append_assoc, List.singleton_append,
        lowercaseChars_append_break (by decide +kernel) (by decide +kernel), hspace, ih,
        List.map_cons, List.append_assoc]

/-- A run of letters has its lower case above the space. -/
theorem space_lt_of_mem_lowercaseRuns {r : CaseRun} (h : r ∈ lowercaseRuns) :
    32 < r.first + r.shift := by
  have hall : lowercaseRuns.all fun r => decide (32 < r.first + r.shift) := by decide +kernel
  exact of_decide_eq_true (List.all_eq_true.1 hall r h)

/-- A number that is no code point gives the null character, any other one itself. -/
theorem eq_of_ofNat_eq_space {n : ℕ} (h : Char.ofNat n = ' ') : n = 32 := by
  by_cases hn : n.isValidChar
  · have hvalid : Char.ofNat n = Char.ofNatAux n hn := dif_pos hn
    exact congrArg Char.toNat (hvalid.symm.trans h)
  · have hnull : Char.ofNat n = Char.ofNat 0 := dif_neg hn
    exact absurd (hnull.symm.trans h) (by decide)

/-- A character that is no space has no space in its lower case. -/
theorem eq_space_of_mem_lowercaseChar (h : ' ' ∈ lowercaseChar c) : c = ' ' := by
  rw [lowercaseChar] at h
  split_ifs at h with hc
  · exact absurd h (by decide)
  · split at h
    · next r hfind =>
      have hbase := space_lt_of_mem_lowercaseRuns (List.mem_of_find?_eq_some hfind)
      have hcovers := List.find?_some hfind
      simp only [CaseRun.covers, Bool.and_eq_true, decide_eq_true_eq] at hcovers
      have hcode := eq_of_ofNat_eq_space (List.mem_singleton.1 h).symm
      omega
    · exact (List.mem_singleton.1 h).symm

/-- A blank in a lower-cased text was one before. -/
theorem mem_of_space_mem_lowercaseFrom (h : ' ' ∈ lowercaseFrom before cs) : ' ' ∈ cs := by
  induction cs generalizing before with
  | nil => exact h
  | cons c cs ih =>
    rw [lowercaseFrom_cons, List.mem_append, lowercaseAt] at h
    rcases h with h | h
    · refine List.mem_cons.2 (.inl ?_)
      split_ifs at h
      · exact absurd h (by decide)
      · exact absurd h (by decide)
      · exact (eq_space_of_mem_lowercaseChar h).symm
    · exact List.mem_cons_of_mem _ (ih h)

/-- **Lower-casing makes no spaces.** -/
theorem mem_of_space_mem_lowercaseChars (h : ' ' ∈ lowercaseChars cs) : ' ' ∈ cs :=
  mem_of_space_mem_lowercaseFrom h

end Text
end CourtDocket
