/-
# The texts of a tree

A text is read as a tree, without a fault and without anything left, just when it spells the tree
(`Node.spelledBy_iff`).  Both directions are one induction each over what is left of the text:

| | on | says |
| --- | --- | --- |
| `Node.Tokens.read` | the tokens | a text that starts with the tokens of a tree is read as it |
| `readNode_tokens` | the steps of the reader | what is read without a fault spells its tree |

In both, the tokens that follow are left.
-/

import CourtDocket.Proofs.Json.Grammar

namespace CourtDocket
namespace Json

open Number

/-! ### Rows of tokens -/

/-- Whether no token at the start of a row continues a number. -/
def EndsValue (ts : List (List Char)) : Prop :=
  ∀ t, ts.head? = some t → ∃ c, t = [c] ∧ (c = ',' ∨ c = ']' ∨ c = '\x7d')

section Rows

variable {cs : List Char} {ts us : List (List Char)}

/-- A text that goes on with tokens that end a value goes on with nothing that a number could take
in. -/
theorem EndsValue.endsNumber (h : EndsValue ts) (hcs : Spaced ts cs) :
    EndsNumber (cs.map Symbol.char) := by
  have hnil : EndsNumber [] := by
    rintro c ⟨⟩
  cases hcs with
  | nil hw => simpa using endsNumber_of_isSpace hw hnil
  | cons hw _ =>
    obtain ⟨c, rfl, hc⟩ := h _ rfl
    rw [List.map_append]
    exact endsNumber_of_isSpace hw (endsNumber_char hc _)

/-- The white space before a token is dropped. -/
theorem Spaced.skipSpace {c : Char} {u : List Char} (h : Spaced ((c :: u) :: ts) cs)
    (hc : (Symbol.char c).isSpace = false) :
    ∃ cs', skipSpace (cs.map Symbol.char) = .char c :: (u ++ cs').map Symbol.char ∧
      Spaced ts cs' ∧ u.length + cs'.length < cs.length := by
  cases h with
  | @cons w _ cs' _ hw h =>
    refine ⟨cs', ?_, h, ?_⟩
    · rw [List.map_append, skipSpace_append hw]
      exact skipSpace_char hc _
    · simp only [List.length_append, List.length_cons]
      omega

/-- A value starts with something, and that is not the end of a list or an object. -/
theorem Node.Tokens.exists_cons {v : Node} (h : v.Tokens ts) :
    ∃ c u ts', ts = (c :: u) :: ts' ∧ (Symbol.char c).isSpace = false ∧ c ≠ ']' ∧ c ≠ '\x7d' := by
  cases h with
  | null => exact ⟨_, _, _, rfl, by decide, by decide, by decide⟩
  | bool b => cases b <;> exact ⟨_, _, _, rfl, by decide, by decide, by decide⟩
  | number h =>
    obtain ⟨c, u, rfl, hc⟩ := h.exists_cons
    refine ⟨c, u, [], rfl, h.isSpace_head, ?_, ?_⟩ <;>
    · rintro rfl
      revert hc
      decide
  | string h =>
    cases h
    exact ⟨_, _, _, rfl, by decide, by decide, by decide⟩
  | array _ => exact ⟨_, _, _, rfl, by decide, by decide, by decide⟩
  | object _ => exact ⟨_, _, _, rfl, by decide, by decide, by decide⟩

/-- Where a value starts, behind its white space, no list or object is closed. -/
theorem Node.Tokens.exists_skipSpace {v : Node} (h : v.Tokens ts) (hcs : Spaced (ts ++ us) cs) :
    ∃ x r, skipSpace (cs.map Symbol.char) = x :: r ∧ x ≠ .char ']' ∧ x ≠ .char '\x7d' := by
  obtain ⟨c, u, ts, rfl, hspace, hlist, hobject⟩ := h.exists_cons
  obtain ⟨cs', hskip, -, -⟩ := hcs.skipSpace hspace
  exact ⟨_, _, hskip, fun h => hlist (Symbol.char.inj h), fun h => hobject (Symbol.char.inj h)⟩

/-- What follows a value in a list, its end or a comma, ends the value. -/
theorem Items.Tokens.endsValue {vs : Items} (h : vs.Tokens false ts) : EndsValue (ts ++ us) := by
  rintro t ht
  cases h with
  | close =>
    cases ht
    exact ⟨_, rfl, .inr (.inl rfl)⟩
  | item _ _ =>
    cases ht
    exact ⟨_, rfl, .inl rfl⟩

/-- What follows a value in an object, its end or a comma, ends the value. -/
theorem Members.Tokens.endsValue {ms : Members} (h : ms.Tokens false ts) :
    EndsValue (ts ++ us) := by
  rintro t ht
  cases h with
  | close =>
    cases ht
    exact ⟨_, rfl, .inr (.inr rfl)⟩
  | member _ _ _ =>
    cases ht
    exact ⟨_, rfl, .inl rfl⟩

end Rows

/-! ### The texts of a tree are read as the tree -/

section Reading

variable {fuel : ℕ} {s : List Symbol} {v : Node}

/-- White space before the rest of a list does not matter. -/
theorem readItems_skipSpace (atStart : Bool) :
    readItems fuel atStart (skipSpace s) = readItems fuel atStart s := by
  cases fuel with
  | zero => rfl
  | succ fuel =>
    rw [readItems.eq_def, readItems.eq_def]
    simp only [skipSpace_skipSpace]

/-- White space before the rest of an object does not matter. -/
theorem readMembers_skipSpace (atStart : Bool) :
    readMembers fuel atStart (skipSpace s) = readMembers fuel atStart s := by
  cases fuel with
  | zero => rfl
  | succ fuel =>
    rw [readMembers.eq_def, readMembers.eq_def]
    simp only [skipSpace_skipSpace]

/-- The words, each with its first character apart, and their values. -/
def wordValues : List (Char × List Char × Node) :=
  [('n', ['u', 'l', 'l'], .null), ('t', ['r', 'u', 'e'], .bool true),
    ('f', ['a', 'l', 's', 'e'], .bool false)]

variable {cs t : List Char} {ts us : List (List Char)} {key : RawString} {atStart : Bool}

/-- A word is read as its value. -/
theorem Spaced.readNode_word {c : Char} {word : List Char} (hword : (c, word, v) ∈ wordValues)
    (hcs : Spaced ((c :: word) :: us) cs) :
    ∃ cs', readNode (fuel + 1) (cs.map Symbol.char) = (v, cs'.map Symbol.char) ∧ Spaced us cs' ∧
      cs'.length < cs.length := by
  simp only [wordValues, List.mem_cons, Prod.mk.injEq, List.not_mem_nil, or_false] at hword
  rcases hword with ⟨rfl, rfl, rfl⟩ | ⟨rfl, rfl, rfl⟩ | ⟨rfl, rfl, rfl⟩ <;>
  · obtain ⟨cs', hskip, hcs', hlength⟩ := hcs.skipSpace (by decide)
    refine ⟨cs', ?_, hcs', by omega⟩
    rw [readNode.eq_def]
    simp only [hskip]
    rfl

/-- Behind its comma, if there has to be one, an item is read as a value, and then the rest of the
list. -/
theorem Spaced.readItems_item (hv : v.Tokens ts)
    (hcs : Spaced (separator atStart ++ (ts ++ us)) cs) :
    ∃ cs₀, Spaced (ts ++ us) cs₀ ∧ cs₀.length ≤ cs.length ∧ ∀ {fuel : ℕ} {rest : List Symbol},
      readNode fuel (cs₀.map Symbol.char) = (v, rest) →
        readItems (fuel + 1) atStart (cs.map Symbol.char) =
          (.item v (readItems fuel false rest).1, (readItems fuel false rest).2) := by
  cases atStart with
  | true =>
    obtain ⟨x, r, hskip, hx, -⟩ := hv.exists_skipSpace hcs
    exact ⟨cs, hcs, Nat.le_refl _, readItems_first hskip hx⟩
  | false =>
    simp only [separator, Bool.false_eq_true, if_false, List.cons_append, List.nil_append] at hcs
    obtain ⟨cs₀, hcomma, hcs₀, hlength⟩ := hcs.skipSpace (by decide)
    obtain ⟨x, r, hskip, hx, -⟩ := hv.exists_skipSpace hcs₀
    refine ⟨cs₀, hcs₀, by omega, fun hread => ?_⟩
    rw [← readItems_skipSpace, hcomma, List.nil_append, readItems_next hskip hx hread]

/-- Behind its comma, if there has to be one, a member is read: its value and then the rest of the
object. -/
theorem Spaced.readMembers_member (hkey : key.SpelledBy t)
    (hcs : Spaced (separator atStart ++ (t :: [':'] :: us)) cs) :
    ∃ cs₀, Spaced us cs₀ ∧ cs₀.length < cs.length ∧
      ∀ {fuel : ℕ} {v : Node} {rest : List Symbol},
        readNode fuel (cs₀.map Symbol.char) = (v, rest) →
          readMembers (fuel + 2) atStart (cs.map Symbol.char) =
            (.member key v (readMembers fuel false rest).1,
              (readMembers fuel false rest).2) := by
  obtain ⟨u, rfl⟩ : ∃ u, t = '"' :: u := by
    cases hkey
    exact ⟨_, rfl⟩
  -- the name and its colon, wherever the row of them starts
  have hmember : ∀ {cs : List Char}, Spaced (('"' :: u) :: [':'] :: us) cs →
      ∃ r cs₀, Json.skipSpace (cs.map Symbol.char) = .char '"' :: r ∧ Spaced us cs₀ ∧
        cs₀.length < cs.length ∧ ∀ {fuel : ℕ} {v : Node} {rest : List Symbol},
          readNode fuel (cs₀.map Symbol.char) = (v, rest) →
            readMember (fuel + 1) (.char '"' :: r) =
              (.member key v (readMembers fuel false rest).1,
                (readMembers fuel false rest).2) := by
    intro cs hcs
    obtain ⟨cs₁, hskip, hcs₁, hlength₁⟩ := hcs.skipSpace (by decide)
    obtain ⟨cs₀, hcolon, hcs₀, hlength₀⟩ := hcs₁.skipSpace (by decide)
    rw [List.map_append] at hskip
    exact ⟨_, cs₀, hskip, hcs₀, by omega, readMember_cons hkey.split hcolon⟩
  cases atStart with
  | true =>
    obtain ⟨r, cs₀, hskip, hcs₀, hlength, hread⟩ := hmember hcs
    refine ⟨cs₀, hcs₀, hlength, fun h => ?_⟩
    rw [readMembers_first hskip, hskip, hread h]
  | false =>
    simp only [separator, Bool.false_eq_true, if_false, List.cons_append, List.nil_append] at hcs
    obtain ⟨cs₁, hcomma, hcs₁, hlength₁⟩ := hcs.skipSpace (by decide)
    obtain ⟨r, cs₀, hskip, hcs₀, hlength, hread⟩ := hmember hcs₁
    refine ⟨cs₀, hcs₀, by omega, fun h => ?_⟩
    rw [← readMembers_skipSpace, hcomma, List.nil_append, readMembers_next hskip, hskip, hread h]

end Reading

mutual

/-- **A text that starts with the tokens of a value is read as the value**, and the other tokens are
left. -/
theorem Node.Tokens.read {v : Node} {ts us : List (List Char)} {cs : List Char} {fuel : ℕ}
    (h : v.Tokens ts) (hus : EndsValue us) (hcs : Spaced (ts ++ us) cs)
    (hfuel : 3 * cs.length + 3 ≤ fuel) :
    ∃ cs', readNode fuel (cs.map Symbol.char) = (v, cs'.map Symbol.char) ∧ Spaced us cs' ∧
      cs'.length < cs.length := by
  obtain ⟨fuel, rfl⟩ := Nat.exists_eq_add_one_of_ne_zero (show fuel ≠ 0 by omega)
  cases h with
  | null => exact hcs.readNode_word (by simp [wordValues])
  | bool b => cases b <;> exact hcs.readNode_word (by simp [wordValues])
  | @number n t h =>
    obtain ⟨c, u, rfl, hc⟩ := h.exists_cons
    obtain ⟨cs', hskip, hcs', hlength⟩ := hcs.skipSpace h.isSpace_head
    refine ⟨cs', ?_, hcs', by omega⟩
    have hsplit := h.split (hus.endsNumber hcs')
    rw [List.map_append] at hskip
    rw [readNode_number hskip hc, readNumber]
    rw [List.map_cons, List.cons_append] at hsplit
    rw [hsplit]
  | @string raw t h =>
    obtain ⟨u, rfl⟩ : ∃ u, t = '"' :: u := by
      cases h
      exact ⟨_, rfl⟩
    obtain ⟨cs', hskip, hcs', hlength⟩ := hcs.skipSpace (by decide)
    rw [List.map_append] at hskip
    exact ⟨cs', readNode_string hskip h.split, hcs', by omega⟩
  | @array vs ts h =>
    obtain ⟨cs₁, hskip, hcs₁, hlength⟩ := hcs.skipSpace (by decide)
    obtain ⟨cs', hread, hcs', hlength'⟩ := h.read hcs₁ (show 3 * cs₁.length + 4 ≤ fuel by omega)
    refine ⟨cs', ?_, hcs', by omega⟩
    rw [readNode_array hskip, List.nil_append, hread]
  | @object ms ts h =>
    obtain ⟨cs₁, hskip, hcs₁, hlength⟩ := hcs.skipSpace (by decide)
    obtain ⟨cs', hread, hcs', hlength'⟩ := h.read hcs₁ (show 3 * cs₁.length + 4 ≤ fuel by omega)
    refine ⟨cs', ?_, hcs', by omega⟩
    rw [readNode_object hskip, List.nil_append, hread]

/-- The rest of a list is read from its tokens. -/
theorem Items.Tokens.read {atStart : Bool} {vs : Items} {ts us : List (List Char)} {cs : List Char}
    {fuel : ℕ} (h : vs.Tokens atStart ts) (hcs : Spaced (ts ++ us) cs)
    (hfuel : 3 * cs.length + 4 ≤ fuel) :
    ∃ cs', readItems fuel atStart (cs.map Symbol.char) = (vs, cs'.map Symbol.char) ∧
      Spaced us cs' ∧ cs'.length < cs.length := by
  obtain ⟨fuel, rfl⟩ := Nat.exists_eq_add_one_of_ne_zero (show fuel ≠ 0 by omega)
  cases h with
  | close =>
    obtain ⟨cs', hskip, hcs', hlength⟩ := hcs.skipSpace (by decide)
    refine ⟨cs', ?_, hcs', by omega⟩
    rw [readItems.eq_def]
    simp only [hskip]
    rfl
  | item hv hvs =>
    simp only [List.append_assoc] at hcs
    obtain ⟨cs₀, hcs₀, hlength₀, hitem⟩ := hcs.readItems_item hv
    obtain ⟨cs₁, hread, hcs₁, hlength₁⟩ :=
      hv.read hvs.endsValue hcs₀ (show 3 * cs₀.length + 3 ≤ fuel by omega)
    obtain ⟨cs', hrest, hcs', hlength⟩ := hvs.read hcs₁ (show 3 * cs₁.length + 4 ≤ fuel by omega)
    exact ⟨cs', by rw [hitem hread, hrest], hcs', by omega⟩

/-- The rest of an object is read from its tokens. -/
theorem Members.Tokens.read {atStart : Bool} {ms : Members} {ts us : List (List Char)}
    {cs : List Char} {fuel : ℕ} (h : ms.Tokens atStart ts) (hcs : Spaced (ts ++ us) cs)
    (hfuel : 3 * cs.length + 4 ≤ fuel) :
    ∃ cs', readMembers fuel atStart (cs.map Symbol.char) = (ms, cs'.map Symbol.char) ∧
      Spaced us cs' ∧ cs'.length < cs.length := by
  obtain ⟨fuel, rfl⟩ := Nat.exists_eq_add_of_le' (show 2 ≤ fuel by omega)
  cases h with
  | close =>
    obtain ⟨cs', hskip, hcs', hlength⟩ := hcs.skipSpace (by decide)
    refine ⟨cs', ?_, hcs', by omega⟩
    rw [readMembers.eq_def]
    simp only [hskip]
    rfl
  | member hkey hv hms =>
    simp only [List.append_assoc, List.cons_append] at hcs
    obtain ⟨cs₀, hcs₀, hlength₀, hmember⟩ := hcs.readMembers_member hkey
    obtain ⟨cs₁, hread, hcs₁, hlength₁⟩ :=
      hv.read hms.endsValue hcs₀ (show 3 * cs₀.length + 3 ≤ fuel by omega)
    obtain ⟨cs', hrest, hcs', hlength⟩ := hms.read hcs₁ (show 3 * cs₁.length + 4 ≤ fuel by omega)
    exact ⟨cs', by rw [hmember hread, hrest], hcs', by omega⟩

end

/-! ### What is read spells the tree -/

/-- Whether a text starts with a row of tokens and leaves the rest. -/
def StartsWith (cs : List Char) (ts : List (List Char)) (rest : List Symbol) : Prop :=
  ∃ cs', rest = cs'.map Symbol.char ∧ ∀ us, Spaced us cs' → Spaced (ts ++ us) cs

section Starts

variable {cs cs' w t : List Char} {ts us : List (List Char)} {s rest : List Symbol}

/-- Texts with the same symbols are the same. -/
theorem map_char_inj : cs.map Symbol.char = cs'.map Symbol.char ↔ cs = cs' :=
  (List.map_injective_iff.2 fun _ _ => Symbol.char.inj).eq_iff

/-- The symbols of a text that start with those of another are the symbols of the rest behind it. -/
theorem exists_append_of_map_eq (h : cs.map Symbol.char = t.map Symbol.char ++ rest) :
    ∃ cs', cs = t ++ cs' ∧ rest = cs'.map Symbol.char := by
  obtain ⟨t', cs', rfl, ht, rfl⟩ := List.map_eq_append_iff.1 h
  exact ⟨cs', congrArg (· ++ cs') (map_char_inj.1 ht), rfl⟩

/-- Tokens that follow each other in a text make one row of tokens. -/
theorem StartsWith.append (h : StartsWith cs ts (cs'.map Symbol.char))
    (h' : StartsWith cs' us rest) : StartsWith cs (ts ++ us) rest := by
  obtain ⟨cs₁, hmap, h⟩ := h
  obtain ⟨cs₂, rfl, h'⟩ := h'
  obtain rfl := map_char_inj.1 hmap
  refine ⟨cs₂, rfl, fun us' hus' => ?_⟩
  rw [List.append_assoc]
  exact h _ (h' _ hus')

/-- A text starts with no tokens. -/
theorem startsWith_nil (cs : List Char) : StartsWith cs [] (cs.map Symbol.char) :=
  ⟨cs, rfl, fun _ hus => hus⟩

/-- A text starts with the token that is found after its white space. -/
theorem startsWith_singleton (hw : IsSpace w) (hcs : cs = w ++ (t ++ cs')) :
    StartsWith cs [t] (cs'.map Symbol.char) :=
  ⟨cs', rfl, fun _ hus => hcs ▸ .cons hw hus⟩

/-- A text is white space and the rest, which is what is left when white space is skipped. -/
theorem exists_skipSpace (cs : List Char) :
    ∃ w cs', IsSpace w ∧ cs = w ++ cs' ∧ skipSpace (cs.map Symbol.char) = cs'.map Symbol.char := by
  induction cs with
  | nil => exact ⟨[], [], isSpace_nil, rfl, rfl⟩
  | cons c cs ih =>
    by_cases hc : (Symbol.char c).isSpace = true
    · obtain ⟨w, cs', hw, rfl, hskip⟩ := ih
      refine ⟨c :: w, cs', List.forall_mem_cons.2 ⟨hc, hw⟩, rfl, ?_⟩
      exact (List.dropWhile_cons_of_pos hc).trans hskip
    · exact ⟨[], c :: cs, isSpace_nil, rfl, List.dropWhile_cons_of_neg hc⟩

/-- Only a whole word is read as its value. -/
theorem eq_append_of_readWord {v v' : Node} {word : List Char} (h : readWord v word s = (v', rest))
    (hskip : v'.skip = .ok ()) : v' = v ∧ s = word.map Symbol.char ++ rest := by
  induction word generalizing s with
  | nil =>
    cases h
    exact ⟨rfl, rfl⟩
  | cons c word ih =>
    cases s with
    | nil =>
      cases h
      cases hskip
    | cons x s =>
      rw [readWord] at h
      split_ifs at h with hx
      · obtain ⟨hv, hs⟩ := ih h
        exact ⟨hv, by rw [hx, hs]; rfl⟩
      · cases h
        cases hskip

/-- A word that is read without a fault is a token that the text starts with. -/
theorem exists_of_readWord {v v' : Node} {c : Char} {word : List Char} (hw : IsSpace w)
    (hcs : cs = w ++ c :: cs') (h : readWord v word (cs'.map Symbol.char) = (v', rest))
    (hskip : v'.skip = .ok ()) : v' = v ∧ StartsWith cs [c :: word] rest := by
  obtain ⟨hv, hs⟩ := eq_append_of_readWord h hskip
  obtain ⟨cs'', rfl, rfl⟩ := exists_append_of_map_eq hs
  exact ⟨hv, startsWith_singleton hw hcs⟩

/-- A list can be skipped just when its first item and the rest can. -/
theorem Items.skip_item {v : Node} {vs : Items} :
    (Items.item v vs).skip = .ok () ↔ v.skip = .ok () ∧ vs.skip = .ok () := by
  rw [Items.skip]
  cases v.skip <;> simp

/-- An object can be skipped just when its first name, the value of it and the rest can. -/
theorem Members.skip_member {key : RawString} {v : Node} {ms : Members} :
    (Members.member key v ms).skip = .ok () ↔
      key.skip = .ok () ∧ v.skip = .ok () ∧ ms.skip = .ok () := by
  rw [Members.skip]
  cases key.skip <;> cases v.skip <;> simp

/-- A string can be skipped just when it is closed. -/
theorem RawString.skip_eq_ok_iff {s : RawString} : s.skip = .ok () ↔ s.ending = .closed := by
  rw [RawString.skip]
  cases s.ending <;> simp

variable {fuel : ℕ} {atStart : Bool}

/-- A string that is read is one that the text starts with. -/
theorem startsWith_string (hw : IsSpace w) (hcs : cs = w ++ '"' :: cs')
    (hskip : (RawString.split (cs'.map Symbol.char)).1.skip = .ok ()) :
    ∃ t, (RawString.split (cs'.map Symbol.char)).1.SpelledBy t ∧
      StartsWith cs [t] (RawString.split (cs'.map Symbol.char)).2 := by
  rw [RawString.skip_eq_ok_iff] at hskip
  obtain ⟨t, cs'', rfl, hrest, hspelled⟩ := RawString.spelledBy_of_split rfl hskip
  exact ⟨_, hspelled, hrest ▸ startsWith_singleton hw hcs⟩

/-- A number that is read is one that the text starts with. -/
theorem exists_of_readNumber {v : Node} (hw : IsSpace w) (hcs : cs = w ++ cs')
    (h : readNumber (cs'.map Symbol.char) = (v, rest)) (hskip : v.skip = .ok ()) :
    ∃ t, v.Tokens [t] ∧ StartsWith cs [t] rest := by
  rw [readNumber] at h
  split at h
  · next n r hsplit =>
    cases h
    obtain ⟨t, ht, hspelled⟩ := Numeral.spelledBy_of_split hsplit
    obtain ⟨cs'', rfl, rfl⟩ := exists_append_of_map_eq ht
    exact ⟨t, .number hspelled, startsWith_singleton hw hcs⟩
  · cases h
    cases hskip
  · cases h
    cases hskip

/-- The rest of a list that is read without a fault is its end, or an item behind its comma and then
the rest. -/
theorem exists_of_readItems {vs : Items}
    (h : readItems (fuel + 1) atStart (cs.map Symbol.char) = (vs, rest))
    (hskip : vs.skip = .ok ()) :
    vs = .close ∧ StartsWith cs [[']']] rest ∨
      ∃ (cs' : List Char) (v : Node) (s : List Symbol) (vs' : Items),
        StartsWith cs (separator atStart) (cs'.map Symbol.char) ∧
        readNode fuel (cs'.map Symbol.char) = (v, s) ∧ readItems fuel false s = (vs', rest) ∧
        vs = .item v vs' := by
  obtain ⟨w, cs₁, hw, hcs, hspace⟩ := exists_skipSpace cs
  rw [readItems.eq_def] at h
  simp only [hspace] at h
  cases cs₁ with
  | nil =>
    cases h
    cases hskip
  | cons c cs₁ =>
    simp only [List.map_cons] at h
    split_ifs at h with hclose hstart hcomma
    · cases hclose
      cases h
      exact .inl ⟨rfl, startsWith_singleton hw hcs⟩
    · subst hstart
      rw [← List.map_cons, ← hspace, readNode_skipSpace] at h
      cases h
      exact .inr ⟨cs, _, _, _, startsWith_nil cs, rfl, rfl, rfl⟩
    · obtain rfl := Bool.eq_false_iff.2 hstart
      cases hcomma
      -- behind the comma the end of the list is a fault
      obtain ⟨w₂, cs₂, -, -, hspace₂⟩ := exists_skipSpace cs₁
      rw [hspace₂] at h
      cases cs₂ with
      | nil =>
        cases h
        cases hskip
      | cons d cs₂ =>
        simp only [List.map_cons] at h
        split_ifs at h
        · cases h
          cases hskip
        · rw [← List.map_cons, ← hspace₂, readNode_skipSpace] at h
          cases h
          exact .inr ⟨cs₁, _, _, _, startsWith_singleton hw hcs, rfl, rfl, rfl⟩
    · cases h
      cases hskip

/-- The rest of an object that is read without a fault is its end, or a member behind its comma and
then the rest. -/
theorem exists_of_readMembers {ms : Members}
    (h : readMembers (fuel + 1) atStart (cs.map Symbol.char) = (ms, rest))
    (hskip : ms.skip = .ok ()) :
    ms = .close ∧ StartsWith cs [['\x7d']] rest ∨
      ∃ cs' : List Char, StartsWith cs (separator atStart) (cs'.map Symbol.char) ∧
        readMember fuel (skipSpace (cs'.map Symbol.char)) = (ms, rest) := by
  obtain ⟨w, cs₁, hw, hcs, hspace⟩ := exists_skipSpace cs
  rw [readMembers.eq_def] at h
  simp only [hspace] at h
  cases cs₁ with
  | nil =>
    cases h
    cases hskip
  | cons c cs₁ =>
    simp only [List.map_cons] at h
    split_ifs at h with hclose hstart hcomma
    · cases hclose
      cases h
      exact .inl ⟨rfl, startsWith_singleton hw hcs⟩
    · subst hstart
      rw [← List.map_cons, ← hspace] at h
      exact .inr ⟨cs, startsWith_nil cs, h⟩
    · obtain rfl := Bool.eq_false_iff.2 hstart
      cases hcomma
      -- behind the comma the end of the object is a fault
      obtain ⟨w₂, cs₂, -, -, hspace₂⟩ := exists_skipSpace cs₁
      rw [hspace₂] at h
      cases cs₂ with
      | nil =>
        cases h
        cases hskip
      | cons d cs₂ =>
        simp only [List.map_cons] at h
        split_ifs at h
        · cases h
          cases hskip
        · rw [← List.map_cons, ← hspace₂] at h
          exact .inr ⟨cs₁, startsWith_singleton hw hcs, h⟩
    · cases h
      cases hskip

/-- A member that is read without a fault is its name, a colon and its value, and then the rest. -/
theorem exists_of_readMember {ms : Members}
    (h : readMember (fuel + 1) (skipSpace (cs.map Symbol.char)) = (ms, rest))
    (hskip : ms.skip = .ok ()) :
    ∃ (key : RawString) (t cs' : List Char) (v : Node) (s : List Symbol) (ms' : Members),
      key.SpelledBy t ∧ StartsWith cs [t, [':']] (cs'.map Symbol.char) ∧
      readNode fuel (cs'.map Symbol.char) = (v, s) ∧ readMembers fuel false s = (ms', rest) ∧
      ms = .member key v ms' := by
  obtain ⟨w, cs₁, hw, hcs, hspace⟩ := exists_skipSpace cs
  rw [hspace, readMember.eq_def] at h
  cases cs₁ with
  | nil =>
    cases h
    cases hskip
  | cons c cs₁ =>
    simp only [List.map_cons] at h
    split_ifs at h with hquote
    · cases hquote
      split at h
      · cases h
        simp [Members.skip_member, Node.skip] at hskip
      · next y r hcolon =>
        split_ifs at h with hy
        · cases h
          obtain ⟨hkey, -, -⟩ := Members.skip_member.1 hskip
          obtain ⟨t, hspelled, cs₂, hcs₂, hstart⟩ := startsWith_string hw hcs hkey
          obtain ⟨w₂, cs₃, hw₂, hcs₃, hspace₂⟩ := exists_skipSpace cs₂
          rw [hcs₂, hspace₂, List.map_eq_cons_iff] at hcolon
          obtain ⟨_, cs₃, rfl, rfl, rfl⟩ := hcolon
          cases hy
          have hname : StartsWith cs [t] (cs₂.map Symbol.char) := ⟨cs₂, rfl, hstart⟩
          exact ⟨_, t, cs₃, _, _, _, hspelled, hname.append (startsWith_singleton hw₂ hcs₃),
            rfl, rfl, rfl⟩
        · cases h
          simp [Members.skip_member, Node.skip] at hskip
    · cases h
      cases hskip

end Starts

mutual

/-- **What is read is a value that the text starts with**, if it has no fault. -/
theorem readNode_tokens {fuel : ℕ} {cs : List Char} {v : Node} {rest : List Symbol}
    (h : readNode fuel (cs.map Symbol.char) = (v, rest)) (hskip : v.skip = .ok ()) :
    ∃ ts, v.Tokens ts ∧ StartsWith cs ts rest := by
  match fuel with
  | 0 =>
    cases h
    cases hskip
  | fuel + 1 =>
    obtain ⟨w, cs₁, hw, hcs, hspace⟩ := exists_skipSpace cs
    rw [readNode.eq_def] at h
    simp only [hspace] at h
    cases cs₁ with
    | nil =>
      cases h
      cases hskip
    | cons c cs₁ =>
      simp only [List.map_cons] at h
      -- one case for each character with which a value may start
      split_ifs at h with hquote hlist hobject hnull htrue hfalse hnumber
      · subst hquote
        cases h
        obtain ⟨t, hspelled, hstart⟩ := startsWith_string hw hcs hskip
        exact ⟨_, .string hspelled, hstart⟩
      · subst hlist
        cases h
        obtain ⟨ts, hts, hstart⟩ := readItems_tokens rfl hskip
        exact ⟨_, .array hts, (startsWith_singleton hw hcs).append hstart⟩
      · subst hobject
        cases h
        obtain ⟨ts, hts, hstart⟩ := readMembers_tokens rfl hskip
        exact ⟨_, .object hts, (startsWith_singleton hw hcs).append hstart⟩
      · obtain ⟨rfl, hstart⟩ := exists_of_readWord hw hcs h hskip
        exact ⟨_, .null, hnull ▸ hstart⟩
      · obtain ⟨rfl, hstart⟩ := exists_of_readWord hw hcs h hskip
        exact ⟨_, .bool true, htrue ▸ hstart⟩
      · obtain ⟨rfl, hstart⟩ := exists_of_readWord hw hcs h hskip
        exact ⟨_, .bool false, hfalse ▸ hstart⟩
      · obtain ⟨t, ht, hstart⟩ := exists_of_readNumber hw hcs h hskip
        exact ⟨_, ht, hstart⟩
      · cases h
        cases hskip

/-- What is read is the rest of a list that the text starts with. -/
theorem readItems_tokens {fuel : ℕ} {atStart : Bool} {cs : List Char} {vs : Items}
    {rest : List Symbol} (h : readItems fuel atStart (cs.map Symbol.char) = (vs, rest))
    (hskip : vs.skip = .ok ()) : ∃ ts, vs.Tokens atStart ts ∧ StartsWith cs ts rest := by
  match fuel with
  | 0 =>
    cases h
    cases hskip
  | fuel + 1 =>
    obtain ⟨rfl, hstart⟩ | ⟨cs₀, v, s, vs, hcomma, hread, hrest, rfl⟩ :=
      exists_of_readItems h hskip
    · exact ⟨_, .close, hstart⟩
    · obtain ⟨hv, hvs⟩ := Items.skip_item.1 hskip
      obtain ⟨ts, hts, hstart⟩ := readNode_tokens hread hv
      obtain ⟨cs₁, rfl, -⟩ := id hstart
      obtain ⟨us, hus, hstart'⟩ := readItems_tokens hrest hvs
      exact ⟨_, .item hts hus, hcomma.append (hstart.append hstart')⟩

/-- What is read is the rest of an object that the text starts with. -/
theorem readMembers_tokens {fuel : ℕ} {atStart : Bool} {cs : List Char} {ms : Members}
    {rest : List Symbol} (h : readMembers fuel atStart (cs.map Symbol.char) = (ms, rest))
    (hskip : ms.skip = .ok ()) : ∃ ts, ms.Tokens atStart ts ∧ StartsWith cs ts rest := by
  match fuel with
  | 0 =>
    cases h
    cases hskip
  | fuel + 1 =>
    obtain ⟨rfl, hstart⟩ | ⟨cs₀, hcomma, hmember⟩ := exists_of_readMembers h hskip
    · exact ⟨_, .close, hstart⟩
    · obtain ⟨ts, hts, hstart⟩ := readMember_tokens hmember hskip
      exact ⟨_, hts atStart, hcomma.append hstart⟩

/-- What is read is a member, and the rest of its object, that the text starts with. -/
theorem readMember_tokens {fuel : ℕ} {cs : List Char} {ms : Members} {rest : List Symbol}
    (h : readMember fuel (skipSpace (cs.map Symbol.char)) = (ms, rest))
    (hskip : ms.skip = .ok ()) :
    ∃ ts, (∀ atStart, ms.Tokens atStart (separator atStart ++ ts)) ∧ StartsWith cs ts rest := by
  match fuel with
  | 0 =>
    cases h
    cases hskip
  | fuel + 1 =>
    obtain ⟨key, t, cs₀, v, s, ms, hkey, hname, hread, hrest, rfl⟩ := exists_of_readMember h hskip
    obtain ⟨-, hv, hms⟩ := Members.skip_member.1 hskip
    obtain ⟨ts, hts, hstart⟩ := readNode_tokens hread hv
    obtain ⟨cs₁, rfl, -⟩ := id hstart
    obtain ⟨us, hus, hstart'⟩ := readMembers_tokens hrest hms
    exact ⟨_, fun _ => .member hkey hts hus, hname.append (hstart.append hstart')⟩

end

/-! ### Trees and their texts -/

mutual

/-- A tree that is written as tokens has no fault. -/
theorem Node.Tokens.skip {v : Node} {ts : List (List Char)} (h : v.Tokens ts) :
    v.skip = .ok () := by
  cases h with
  | null => rfl
  | bool b => rfl
  | number _ => rfl
  | string h =>
    cases h
    rfl
  | array h => exact h.skip
  | object h => exact h.skip

/-- The rest of a list that is written as tokens has no fault. -/
theorem Items.Tokens.skip {atStart : Bool} {vs : Items} {ts : List (List Char)}
    (h : vs.Tokens atStart ts) : vs.skip = .ok () := by
  cases h with
  | close => rfl
  | item hv hvs => exact Items.skip_item.2 ⟨hv.skip, hvs.skip⟩

/-- The rest of an object that is written as tokens has no fault. -/
theorem Members.Tokens.skip {atStart : Bool} {ms : Members} {ts : List (List Char)}
    (h : ms.Tokens atStart ts) : ms.skip = .ok () := by
  cases h with
  | close => rfl
  | member hkey hv hms =>
    cases hkey
    exact Members.skip_member.2 ⟨rfl, hv.skip, hms.skip⟩

end

/-- What is left of a text when its tokens are read is white space. -/
theorem spaced_nil_iff {cs : List Char} :
    Spaced [] cs ↔ (skipSpace (cs.map Symbol.char)).isEmpty = true := by
  constructor
  · intro h
    cases h with
    | nil hw =>
      have hskip := skipSpace_append hw []
      rw [List.append_nil] at hskip
      rw [hskip]
      rfl
  · intro h
    obtain ⟨w, cs', hw, rfl, hskip⟩ := exists_skipSpace cs
    rw [hskip, List.isEmpty_iff, List.map_eq_nil_iff] at h
    rw [h, List.append_nil]
    exact .nil hw

/-- **A text spells a tree just when it is read as the tree**, without a fault and without anything
left. -/
theorem Node.spelledBy_iff {v : Node} {text : String} :
    v.SpelledBy text ↔ Node.ofString text = (v, false) ∧ v.skip = .ok () := by
  constructor
  · rintro ⟨ts, hts, hspaced⟩
    have hnil : EndsValue [] := by
      rintro t ⟨⟩
    rw [← List.append_nil ts] at hspaced
    obtain ⟨cs', hread, hcs', -⟩ := hts.read hnil hspaced (Nat.le_refl _)
    refine ⟨?_, hts.skip⟩
    rw [Node.ofString, Node.ofSymbols, Symbol.ofString, List.length_map, hread]
    exact congrArg (fun b => (v, !b)) (spaced_nil_iff.1 hcs')
  · rintro ⟨htext, hskip⟩
    rw [Node.ofString, Node.ofSymbols, Symbol.ofString, Prod.mk.injEq] at htext
    obtain ⟨hread, hleft⟩ := htext
    obtain ⟨ts, hts, cs', hcs', hstart⟩ := readNode_tokens rfl (hread ▸ hskip)
    rw [hcs', Bool.not_eq_false', ← spaced_nil_iff] at hleft
    refine ⟨ts, hread ▸ hts, ?_⟩
    simpa using hstart [] hleft

/-- A value that is written as a text and has no fault is spelled by the text. -/
theorem Node.WrittenAs.spelledBy {v : Node} {t : List Char} (h : v.WrittenAs t)
    (hskip : v.skip = .ok ()) : v.SpelledBy (String.ofList t) :=
  Node.spelledBy_iff.2 ⟨h.ofSymbols_ofString, hskip⟩

end Json
end CourtDocket
