/-
# What the readers of numbers accept

`WritesInteger` and `WritesFloat` tell which number a text writes, without reading it:

| text | number |
| --- | --- |
| a sign or none, and digits | the integer |
| `nan` in any letter case, behind a sign or none | no number |
| `inf` or `infinity` in any letter case, behind a sign or none | the infinity of the sign |
| a sign or none, digits with at most one point, and an exponent or none | the nearest number |

The readers accept these texts and no others (`readInteger?_eq_some_iff`,
`readFloat?_eq_some_iff`).  A sign that is left out takes nothing from the text, for neither digits
nor words begin with one (`splitSign_append`).
-/

import CourtDocket.Proofs.Number.FloatText

namespace CourtDocket
namespace Number

variable {cs sign body : List Char} {negative : Bool}

/-! ### Signs -/

/-- A sign that may be left out, true for a minus. -/
inductive IsSign : Bool → List Char → Prop where
  /-- There is none. -/
  | empty : IsSign false []
  /-- A plus. -/
  | plus : IsSign false ['+']
  /-- A minus. -/
  | minus : IsSign true ['-']

/-- Splitting takes a sign off the text. -/
theorem exists_isSign_of_splitSign (h : splitSign cs = (negative, body)) :
    ∃ sign, IsSign negative sign ∧ cs = sign ++ body := by
  revert h
  fun_cases splitSign cs with
  | case1 cs =>
    rintro ⟨⟩
    exact ⟨_, .minus, rfl⟩
  | case2 cs =>
    rintro ⟨⟩
    exact ⟨_, .plus, rfl⟩
  | case3 =>
    rintro ⟨⟩
    exact ⟨_, .empty, rfl⟩

/-- A sign is split off, and nothing when it is left out. -/
theorem splitSign_append (hsign : IsSign negative sign)
    (hbody : ∀ c, body.head? = some c → c ≠ '-' ∧ c ≠ '+') :
    splitSign (sign ++ body) = (negative, body) := by
  cases hsign with
  | plus => rfl
  | minus => rfl
  | empty =>
    rw [List.nil_append, splitSign]
    · rintro cs rfl
      exact (hbody '-' rfl).1 rfl
    · rintro cs rfl
      exact (hbody '+' rfl).2 rfl

/-- A digit is no sign. -/
theorem ne_sign_of_isDigit {c : Char} (hc : isDigit c = true) : c ≠ '-' ∧ c ≠ '+' := by
  constructor <;> rintro rfl <;> revert hc <;> decide

/-! ### Integers -/

/-- **Which integer a text writes.** -/
inductive WritesInteger : List Char → ℤ → Prop where
  /-- A sign and digits. -/
  | mk {negative : Bool} {sign ds : List Char} (hsign : IsSign negative sign) (hds : IsDigits ds) :
      WritesInteger (sign ++ ds) (if negative then -(ofDigits ds : ℤ) else ofDigits ds)

/-- **The texts that are read as integers are those that write them.** -/
theorem readInteger?_eq_some_iff {i : ℤ} : readInteger? cs = some i ↔ WritesInteger cs i := by
  constructor
  · intro h
    rcases hsplit : splitSign cs with ⟨negative, ds⟩
    obtain ⟨sign, hsign, rfl⟩ := exists_isSign_of_splitSign hsplit
    simp only [readInteger?, hsplit, Bool.or_eq_true, List.isEmpty_iff, Bool.not_eq_true',
      Option.ite_none_left_eq_some, not_or, Bool.not_eq_false, List.all_eq_true,
      Option.some.injEq] at h
    obtain ⟨hds, rfl⟩ := h
    exact .mk hsign hds
  · rintro ⟨hsign, hne, hds⟩
    refine readInteger?_of_splitSign (splitSign_append hsign fun c hc => ?_) hne hds
    exact ne_sign_of_isDigit (hds c (List.mem_of_mem_head? hc))

/-! ### Other numbers -/

/-- Which power of ten an exponent writes. -/
inductive WritesExponent : List Char → ℤ → Prop where
  /-- It is left out. -/
  | empty : WritesExponent [] 0
  /-- A mark and an integer. -/
  | mark {mark : Char} {cs : List Char} {i : ℤ} (hmark : mark = 'e' ∨ mark = 'E')
      (hcs : WritesInteger cs i) : WritesExponent (mark :: cs) i

/-- Which digits stand behind the point. -/
inductive WritesFraction : List Char → List Char → Prop where
  /-- There is no point. -/
  | empty : WritesFraction [] []
  /-- A point, and perhaps digits. -/
  | point {ds : List Char} (hds : ∀ c ∈ ds, isDigit c = true) : WritesFraction ('.' :: ds) ds

/-- Which number a text writes behind its sign, when it is no word. -/
inductive WritesDecimal (negative : Bool) : List Char → Binary64 → Prop where
  /-- Digits on at least one side of the point, and an exponent. -/
  | mk {whole point fraction exponent : List Char} {e : ℤ}
      (hwhole : ∀ c ∈ whole, isDigit c = true) (hfraction : WritesFraction point fraction)
      (hexponent : WritesExponent exponent e) (hne : whole ++ fraction ≠ []) :
      WritesDecimal negative (whole ++ (point ++ exponent))
        (.ofDecimal negative (ofDigits (whole ++ fraction)) (e - fraction.length))

/-- **Which number a text writes.** -/
inductive WritesFloat : List Char → Binary64 → Prop where
  /-- The word for no number. -/
  | nan {negative : Bool} {sign word : List Char} (hsign : IsSign negative sign)
      (hword : word.map Char.toLower = "nan".toList) : WritesFloat (sign ++ word) .nan
  /-- A word for an infinity. -/
  | infinite {negative : Bool} {sign word : List Char} (hsign : IsSign negative sign)
      (hword : word.map Char.toLower = "inf".toList ∨
        word.map Char.toLower = "infinity".toList) :
      WritesFloat (sign ++ word) (.infinite negative)
  /-- A decimal number. -/
  | decimal {negative : Bool} {sign body : List Char} {x : Binary64}
      (hsign : IsSign negative sign) (hbody : WritesDecimal negative body x) :
      WritesFloat (sign ++ body) x

/-- An exponent is read just when one is written. -/
theorem readExponent?_eq_some_iff {i : ℤ} : readExponent? cs = some i ↔ WritesExponent cs i := by
  constructor
  · intro h
    cases cs with
    | nil =>
      cases h
      exact .empty
    | cons c cs =>
      rw [readExponent?, Option.ite_none_right_eq_some] at h
      exact .mark h.1 (readInteger?_eq_some_iff.1 h.2)
  · intro h
    cases h with
    | empty => rfl
    | mark hmark hcs =>
      rw [readExponent?, if_pos hmark]
      exact readInteger?_eq_some_iff.2 hcs

/-- What stands behind the digits of a number and its point. -/
structure EndsDigits (point rest : List Char) : Prop where
  /-- It does not begin with a digit. -/
  isDigit : ∀ c, rest.head? = some c → isDigit c = false
  /-- Nor with a point, when there was none before. -/
  ne_point : point = [] → rest.head? ≠ some '.'

/-- An exponent ends the digits before it. -/
theorem WritesExponent.endsDigits {e : ℤ} (h : WritesExponent cs e) (point : List Char) :
    EndsDigits point cs := by
  cases h with
  | empty => exact ⟨fun _ hc => (by cases hc), fun _ hc => by cases hc⟩
  | mark hmark =>
    constructor
    · intro c hc
      obtain rfl := Option.some.inj hc
      rcases hmark with rfl | rfl <;> decide
    · intro _ hc
      obtain rfl := Option.some.inj hc
      rcases hmark with hmark | hmark <;> revert hmark <;> decide

/-- Every text is digits and what begins with none. -/
theorem exists_digits_append (cs : List Char) : ∃ ds rest, cs = ds ++ rest ∧
    (∀ c ∈ ds, isDigit c = true) ∧ ∀ c, rest.head? = some c → isDigit c = false := by
  refine ⟨cs.takeWhile isDigit, cs.dropWhile isDigit, List.takeWhile_append_dropWhile.symm,
    fun c hc => ?_, fun c hc => ?_⟩
  · exact List.all_eq_true.1 List.all_takeWhile c hc
  · have hhead := List.head?_dropWhile_not isDigit cs
    rwa [hc] at hhead

/-- Every text is digits, perhaps a point with digits, and the rest. -/
theorem exists_fraction_append (cs : List Char) : ∃ whole point fraction rest,
    cs = whole ++ (point ++ rest) ∧ (∀ c ∈ whole, isDigit c = true) ∧
      WritesFraction point fraction ∧ EndsDigits point rest := by
  obtain ⟨whole, rest, rfl, hwhole, hrest⟩ := exists_digits_append cs
  by_cases hpoint : rest.head? = some '.'
  · obtain ⟨rest', rfl⟩ := List.head?_eq_some_iff.1 hpoint
    obtain ⟨fraction, rest, rfl, hfraction, hend⟩ := exists_digits_append rest'
    exact ⟨whole, '.' :: fraction, fraction, rest, rfl, hwhole, .point hfraction, hend,
      fun hnil => by cases hnil⟩
  · exact ⟨whole, [], [], rest, rfl, hwhole, .empty, hrest, fun _ => hpoint⟩

/-- The digits of a number are read, those behind the point lowering the exponent. -/
theorem readDecimal?_append {whole point fraction rest : List Char}
    (hwhole : ∀ c ∈ whole, isDigit c = true) (hfraction : WritesFraction point fraction)
    (hrest : EndsDigits point rest) :
    readDecimal? negative (whole ++ (point ++ rest)) =
      if whole ++ fraction = [] then none
      else (readExponent? rest).map fun e =>
        .ofDecimal negative (ofDigits (whole ++ fraction)) (e - fraction.length) := by
  cases hfraction with
  | empty =>
    obtain ⟨htake, hdrop⟩ := span_digits_append hwhole hrest.isDigit
    -- `simp` takes this from the context where it decides the match on what follows the digits.
    have hpoint : ∀ cs, rest ≠ '.' :: cs := by
      rintro cs rfl
      exact hrest.ne_point rfl rfl
    simp [readDecimal?, htake, hdrop]
  | point hfraction =>
    have hend : ∀ c, ('.' :: fraction ++ rest).head? = some c → isDigit c = false := by
      intro c hc
      obtain rfl := Option.some.inj hc
      decide
    obtain ⟨htake, hdrop⟩ := span_digits_append hwhole hend
    obtain ⟨htake', hdrop'⟩ := span_digits_append hfraction hrest.isDigit
    rw [List.cons_append] at htake hdrop ⊢
    simp [readDecimal?, htake, hdrop, htake', hdrop']

/-- A decimal is read just when one is written. -/
theorem readDecimal?_eq_some_iff {x : Binary64} :
    readDecimal? negative cs = some x ↔ WritesDecimal negative cs x := by
  constructor
  · intro h
    obtain ⟨whole, point, fraction, rest, rfl, hwhole, hfraction, hrest⟩ :=
      exists_fraction_append cs
    rw [readDecimal?_append hwhole hfraction hrest, Option.ite_none_left_eq_some,
      Option.map_eq_some_iff] at h
    obtain ⟨hne, e, he, rfl⟩ := h
    exact .mk hwhole hfraction (readExponent?_eq_some_iff.1 he) hne
  · rintro ⟨hwhole, hfraction, hexponent, hne⟩
    rw [readDecimal?_append hwhole hfraction (hexponent.endsDigits _), if_neg hne,
      readExponent?_eq_some_iff.2 hexponent]
    rfl

/-- The words for what is not finite. -/
def words : List String :=
  ["nan", "inf", "infinity"]

/-- A word begins with a letter. -/
theorem exists_cons_of_word {word : List Char} {w : String} (hw : w ∈ words)
    (hword : word.map Char.toLower = w.toList) :
    ∃ c cs, word = c :: cs ∧ (c.toLower = 'n' ∨ c.toLower = 'i') := by
  have hfirst : ∀ w ∈ words, w.toList.head? = some 'n' ∨ w.toList.head? = some 'i' := by decide
  have hhead := hfirst w hw
  rw [← hword, List.head?_map] at hhead
  cases word with
  | nil => rcases hhead with hhead | hhead <;> cases hhead
  | cons c cs => exact ⟨c, cs, rfl, hhead.imp Option.some.inj Option.some.inj⟩

/-- A decimal number begins with a digit or the point. -/
theorem WritesDecimal.exists_cons {x : Binary64} (h : WritesDecimal negative cs x) :
    ∃ c rest, cs = c :: rest ∧ (isDigit c = true ∨ c = '.') := by
  obtain ⟨hwhole, hfraction, -, hne⟩ := h
  rename_i whole point fraction exponent _
  cases whole with
  | cons c whole => exact ⟨c, _, rfl, .inl (hwhole c (List.mem_cons_self ..))⟩
  | nil =>
    cases hfraction with
    | empty => exact absurd rfl hne
    | point => exact ⟨'.', _, rfl, .inr rfl⟩

/-- What begins with a letter is split behind its sign. -/
theorem splitSign_word {word : List Char} {w : String} (hsign : IsSign negative sign)
    (hw : w ∈ words) (hword : word.map Char.toLower = w.toList) :
    splitSign (sign ++ word) = (negative, word) := by
  obtain ⟨c, cs, rfl, hc⟩ := exists_cons_of_word hw hword
  refine splitSign_append hsign fun d hd => ?_
  obtain rfl := Option.some.inj hd
  constructor <;> rintro rfl <;> revert hc <;> decide

/-- The sign of a decimal is split off, the digits are left. -/
theorem splitSign_decimal {x : Binary64} (hsign : IsSign negative sign)
    (hbody : WritesDecimal negative body x) : splitSign (sign ++ body) = (negative, body) := by
  obtain ⟨c, cs, rfl, hc⟩ := hbody.exists_cons
  refine splitSign_append hsign fun d hd => ?_
  obtain rfl := Option.some.inj hd
  rcases hc with hc | rfl
  · exact ne_sign_of_isDigit hc
  · decide

/-- No decimal number is a word. -/
theorem WritesDecimal.ne_word {x : Binary64} (h : WritesDecimal negative cs x) {w : String}
    (hw : w ∈ words) : cs.map Char.toLower ≠ w.toList := by
  intro hword
  obtain ⟨c, rest, rfl, hc⟩ := h.exists_cons
  obtain ⟨d, rest', hcons, hd⟩ := exists_cons_of_word hw hword
  obtain ⟨rfl, rfl⟩ := List.cons.inj hcons
  rcases hc with hc | rfl
  · rw [toLower_of_isDigit hc] at hd
    rcases hd with rfl | rfl <;> revert hc <;> decide
  · revert hd
    decide

/-- **The texts that are read as numbers are those that write them.** -/
theorem readFloat?_eq_some_iff {x : Binary64} : readFloat? cs = some x ↔ WritesFloat cs x := by
  constructor
  · intro h
    rcases hsplit : splitSign cs with ⟨negative, body⟩
    obtain ⟨sign, hsign, rfl⟩ := exists_isSign_of_splitSign hsplit
    simp only [readFloat?, hsplit, ← String.toList_inj, String.toList_ofList] at h
    split_ifs at h with hnan hinfinite
    · cases h
      exact .nan hsign hnan
    · cases h
      exact .infinite hsign hinfinite
    · exact .decimal hsign (readDecimal?_eq_some_iff.1 h)
  · intro h
    cases h with
    | nan hsign hword =>
      have hsplit := splitSign_word hsign (by decide : "nan" ∈ words) hword
      simp only [readFloat?, hsplit, hword, String.ofList_toList, if_true]
    | infinite hsign hword =>
      rcases hword with hword | hword
      · have hsplit := splitSign_word hsign (by decide : "inf" ∈ words) hword
        simp [readFloat?, hsplit, hword]
      · have hsplit := splitSign_word hsign (by decide : "infinity" ∈ words) hword
        simp [readFloat?, hsplit, hword]
    | decimal hsign hbody =>
      have hnan := hbody.ne_word (by decide : "nan" ∈ words)
      have hinf := hbody.ne_word (by decide : "inf" ∈ words)
      have hinfinity := hbody.ne_word (by decide : "infinity" ∈ words)
      simp only [readFloat?, splitSign_decimal hsign hbody, ← String.toList_inj,
        String.toList_ofList, hnan, hinf, hinfinity, or_self, if_false]
      exact readDecimal?_eq_some_iff.2 hbody

end Number
end CourtDocket
