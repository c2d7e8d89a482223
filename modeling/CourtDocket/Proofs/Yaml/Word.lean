/-
# Words

A word is made of letters, digits, dashes, underscores, points and pluses, and is no dash alone
(`IsWord`); a name is a word that starts with a letter and can be a key (`IsName`).  None of these
characters means anything to YAML inside a word, so a word in front of a colon or of the end of its
line is taken as it is (`plainScalar_name`, `plainScalar_value`), and the scanner takes what starts
like a word for a plain scalar (`Scanner.readToken_plain`).
-/

import CourtDocket.Proofs.Number.Decimal
import CourtDocket.Yaml.TokenStream

namespace CourtDocket
namespace Yaml

/-- Whether a character may stand in a word. -/
def isPlainChar (c : Char) : Bool :=
  isWordChar c || c = '.' || c = '+'

/-- Whether a text is a word. -/
structure IsWord (cs : List Char) : Prop where
  /-- Its characters are those of words. -/
  isPlainChar : ∀ c ∈ cs, isPlainChar c = true
  /-- There is one. -/
  ne_nil : cs ≠ []
  /-- It is no dash alone. -/
  ne_dash : cs ≠ ['-']

/-- Whether a word can be a key at the start of a line. -/
structure IsName (cs : List Char) : Prop extends IsWord cs where
  /-- It starts with a letter. -/
  isAlpha : ∀ c, cs.head? = some c → c.isAlpha = true
  /-- It is so short that its colon is found. -/
  length_le : cs.length ≤ 1024

instance (cs : List Char) : Decidable (IsWord cs) :=
  decidable_of_iff (cs.all isPlainChar = true ∧ cs ≠ [] ∧ cs ≠ ['-'])
    ⟨fun h => ⟨List.all_eq_true.1 h.1, h.2.1, h.2.2⟩,
      fun h => ⟨List.all_eq_true.2 h.1, h.2, h.3⟩⟩

instance (cs : List Char) : Decidable (IsName cs) :=
  decidable_of_iff (IsWord cs ∧ (cs.head?.all Char.isAlpha = true) ∧ cs.length ≤ 1024)
    ⟨fun h => ⟨h.1, (Option.all_eq_true ..).1 h.2.1, h.2.2⟩,
      fun h => ⟨h.1, (Option.all_eq_true ..).2 h.2, h.3⟩⟩

variable {c d : Char} {cs ds rest text : List Char}

/-- A character of a word is none that may not stand in one. -/
theorem ne_of_isPlainChar (hc : isPlainChar c = true) (hd : isPlainChar d = false) : c ≠ d := by
  rintro rfl
  rw [hc] at hd
  cases hd

/-- No character of a word is a blank. -/
theorem isBlank_of_isPlainChar (hc : isPlainChar c = true) : isBlank c = false := by
  simp [isBlank, ne_of_isPlainChar hc (show isPlainChar ' ' = false by decide),
    ne_of_isPlainChar hc (show isPlainChar '\t' = false by decide)]

/-- No character of a word breaks a line. -/
theorem isBreak_of_isPlainChar (hc : isPlainChar c = true) : isBreak c = false := by
  simp [isBreak, ne_of_isPlainChar hc (show isPlainChar '\n' = false by decide),
    ne_of_isPlainChar hc (show isPlainChar '\u2028' = false by decide),
    ne_of_isPlainChar hc (show isPlainChar '\u2029' = false by decide)]

/-- No character of a word is an indicator. -/
theorem isIndicator_of_isPlainChar (hc : isPlainChar c = true) :
    Scanner.isIndicator c = false := by
  rw [Scanner.isIndicator, List.contains_eq_mem, decide_eq_false_iff_not]
  intro hmem
  have hnone : ['?', ':', ',', '[', ']', '\x7b', '\x7d', '#', '&', '*', '!', '|', '>', '\'',
      '"', '%', '@', '\x60'].any isPlainChar = false := by decide
  exact List.any_eq_false.1 hnone c hmem hc

/-- A digit is a character of a word. -/
theorem isPlainChar_of_isDigit (hc : Number.isDigit c = true) : isPlainChar c = true := by
  obtain ⟨d, hd, rfl⟩ := Number.exists_digitChar hc
  decide +revert

/-- The characters of words are printable ASCII characters. -/
theorem toNat_of_isPlainChar (hc : isPlainChar c = true) : 0x20 ≤ c.toNat ∧ c.toNat ≤ 0x7E := by
  have hrange : ∀ a b : Char, a.val ≤ c.val ∧ c.val ≤ b.val → 0x20 ≤ a.toNat → b.toNat ≤ 0x7E →
      0x20 ≤ c.toNat ∧ c.toNat ≤ 0x7E := fun a b h ha hb =>
    ⟨ha.trans (UInt32.le_iff_toNat_le.1 h.1), (UInt32.le_iff_toNat_le.1 h.2).trans hb⟩
  delta isPlainChar isWordChar Char.isAlphanum Char.isAlpha Char.isUpper Char.isLower Char.isDigit
    at hc
  simp only [Bool.or_eq_true, Bool.and_eq_true, decide_eq_true_eq] at hc
  rcases hc with (((((h | h) | h) | rfl) | rfl) | rfl) | rfl
  · exact hrange 'A' 'Z' h (by decide) (by decide)
  · exact hrange 'a' 'z' h (by decide) (by decide)
  · exact hrange '0' '9' h (by decide) (by decide)
  all_goals decide

/-- The characters of words are written in one octet. -/
theorem utf8Size_of_isPlainChar (hc : isPlainChar c = true) : c.utf8Size = 1 := by
  rw [Char.utf8Size_eq_one_iff, UInt32.le_iff_toNat_le]
  exact (toNat_of_isPlainChar hc).2.trans (by decide)

/-! ### Places -/

/-- A word stays on its line. -/
theorem line_pastAll (p : Place) (cs : List Char) : (p.pastAll cs).line = p.line := by
  induction cs generalizing p with
  | nil => rfl
  | cons c cs ih => exact ih (p.past c)

/-- Each character of a word takes one column. -/
theorem column_pastAll (p : Place) (cs : List Char) :
    (p.pastAll cs).column = p.column + cs.length := by
  induction cs generalizing p with
  | nil => rfl
  | cons c cs ih =>
    rw [List.length_cons, show p.pastAll (c :: cs) = (p.past c).pastAll cs from rfl, ih]
    show p.column + 1 + cs.length = _
    omega

/-- Each character of a word takes one octet. -/
theorem octets_pastAll (p : Place) (hcs : ∀ c ∈ cs, isPlainChar c = true) :
    (p.pastAll cs).octets = p.octets + cs.length := by
  induction cs generalizing p with
  | nil => rfl
  | cons c cs ih =>
    have hc := utf8Size_of_isPlainChar (hcs c (List.mem_cons_self ..))
    rw [List.length_cons, show p.pastAll (c :: cs) = (p.past c).pastAll cs from rfl,
      ih _ fun d hd => hcs d (List.mem_cons_of_mem _ hd)]
    show p.octets + c.utf8Size + cs.length = _
    omega

/-! ### Plain scalars -/

/-- Characters of words are taken one by one. -/
theorem plainFrom_append (indent : ℕ) (p : Place) (hcs : ∀ c ∈ cs, isPlainChar c = true) :
    plainFrom false indent text .none (cs ++ rest) p =
      plainFrom false indent (text ++ cs) .none rest (p.pastAll cs) := by
  induction cs generalizing text p with
  | nil => simp [Place.pastAll]
  | cons c cs ih =>
    have hc := hcs c (List.mem_cons_self ..)
    have hcolon : c ≠ ':' := ne_of_isPlainChar hc (by decide)
    have htail : plainFrom false indent (text ++ [c]) .none (cs ++ rest) (p.past c) =
        plainFrom false indent (text ++ [c] ++ cs) .none rest ((p.past c).pastAll cs) :=
      ih _ fun d hd => hcs d (List.mem_cons_of_mem _ hd)
    rw [List.cons_append, plainFrom]
    simp only [isBlank_of_isPlainChar hc, isBreak_of_isPlainChar hc, hcolon]
    simp [Gap.fold, htail, Place.pastAll]

/-- A colon in front of a blank ends a word. -/
theorem plainScalar_name (indent : ℕ) (p : Place) (hcs : ∀ c ∈ cs, isPlainChar c = true)
    (hrest : atGap rest = true) :
    plainScalar false indent ⟨p, cs ++ ':' :: rest⟩ =
      .ok ⟨cs, ⟨p.pastAll cs, ':' :: rest⟩, false⟩ := by
  rw [plainScalar, plainFrom_append indent p hcs, plainFrom]
  simp [isBlank, isBreak, hrest, Gap.isBroken]

/-- Whether a text starts with a word, if it does not end. -/
def StartsWord (rest : List Char) : Prop :=
  ∀ c, rest.head? = some c → isPlainChar c = true

/-- Behind a line break the next line with something on it is reached. -/
theorem plainFrom_broken {indent : ℕ} (hindent : 0 < indent) (hrest : StartsWord rest) (n : ℕ)
    (first : Option Char) (more : List Char) (p : Place) (hp : p.column = 0 ∧ p.octets = 0) :
    ∃ q : Place, q.column = 0 ∧ q.octets = 0 ∧
      plainFrom false indent text (.broken first more) (List.replicate n '\n' ++ rest) p =
        .ok ⟨text, ⟨q, rest⟩, true⟩ := by
  induction n generalizing more p with
  | zero =>
    refine ⟨p, hp.1, hp.2, ?_⟩
    rw [List.replicate_zero, List.nil_append]
    cases rest with
    | nil => rw [plainFrom]; rfl
    | cons c rest =>
      have hc := hrest c rfl
      rw [plainFrom]
      simp [isBlank_of_isPlainChar hc, isBreak_of_isPlainChar hc, hp.1, hindent, Gap.isBroken]
  | succ n ih =>
    obtain ⟨q, hcolumn, hoctets, hread⟩ := ih (more ++ ['\n']) p.nextLine ⟨rfl, rfl⟩
    refine ⟨q, hcolumn, hoctets, ?_⟩
    rw [List.replicate_succ, List.cons_append, plainFrom]
    simpa [isBlank, isBreak, Gap.addBreak] using hread

/-- The end of a line ends a word, when the next one is not indented. -/
theorem plainScalar_value {indent : ℕ} (hindent : 0 < indent) (hrest : StartsWord rest) (n : ℕ)
    (p : Place) (hcs : ∀ c ∈ cs, isPlainChar c = true) :
    ∃ q : Place, q.column = 0 ∧ q.octets = 0 ∧
      plainScalar false indent ⟨p, cs ++ '\n' :: (List.replicate n '\n' ++ rest)⟩ =
        .ok ⟨cs, ⟨q, rest⟩, true⟩ := by
  obtain ⟨q, hcolumn, hoctets, hread⟩ := plainFrom_broken hindent hrest n
    (some '\n') [] (p.pastAll cs).nextLine ⟨rfl, rfl⟩
  refine ⟨q, hcolumn, hoctets, ?_⟩
  rw [plainScalar, plainFrom_append indent p hcs, plainFrom]
  simpa [isBlank, isBreak, Gap.addBreak] using hread

namespace Scanner

/-- A letter starts no mark of a document. -/
theorem atDocumentMark_of_isAlpha (hc : c.isAlpha = true) : atDocumentMark (c :: cs) = false := by
  have hdash : c ≠ '-' := by
    rintro rfl
    revert hc
    decide
  have hpoint : c ≠ '.' := by
    rintro rfl
    revert hc
    decide
  rw [atDocumentMark.eq_def]
  split
  · rename_i heq
    obtain ⟨rfl, -⟩ := List.cons.inj heq
    simp [hdash, hpoint]
  · rfl

/-- What starts like a word starts like a plain scalar, and like nothing else. -/
theorem startsPlain_of_isPlainChar (hc : isPlainChar c = true)
    (hdash : c = '-' → ∃ d ds, cs = d :: ds ∧ isPlainChar d = true) :
    startsPlain false c cs = true ∧ (c = '-' && atGap cs) = false := by
  have hindicator := isIndicator_of_isPlainChar hc
  by_cases h : c = '-'
  · obtain ⟨d, ds, rfl, hd⟩ := hdash h
    simp [startsPlain, h, atGap, isBlank_of_isPlainChar hd, isBreak_of_isPlainChar hd]
  · have hquestion : c ≠ '?' := ne_of_isPlainChar hc (by decide)
    have hcolon : c ≠ ':' := ne_of_isPlainChar hc (by decide)
    simp [startsPlain, h, hquestion, hcolon, hindicator, isBlank_of_isPlainChar hc,
      isBreak_of_isPlainChar hc]

/-- What starts like a word is taken for a plain scalar. -/
theorem readToken_plain {s t : Scanner} (hnext : s.toNextToken.dropStale = .ok t)
    (hclose : t.closeBlocks t.cursor.column = t) (hflow : t.inFlow = false)
    (hcursor : t.cursor.rest = c :: cs) (hc : isPlainChar c = true)
    (hmark : t.cursor.column = 0 → c.isAlpha = true)
    (hdash : c = '-' → ∃ d ds, cs = d :: ds ∧ isPlainChar d = true) :
    s.readToken = t.readPlain := by
  obtain ⟨hstarts, hentry⟩ := startsPlain_of_isPlainChar hc hdash
  have hdocument : (decide (t.cursor.column = 0) && atDocumentMark (c :: cs)) = false := by
    by_cases hcolumn : t.cursor.column = 0
    · rw [atDocumentMark_of_isAlpha (hmark hcolumn), Bool.and_false]
    · rw [decide_eq_false hcolumn, Bool.false_and]
  have hindicator := isIndicator_of_isPlainChar hc
  simp only [isIndicator, List.contains_cons, Bool.or_eq_false_iff, beq_eq_false_iff_ne, ne_eq]
    at hindicator
  rw [readToken]
  simp only [hnext, bind, Except.bind, hclose, hcursor, hdocument, hentry, hflow, hstarts]
  simp [hindicator]

end Scanner
end Yaml
end CourtDocket
