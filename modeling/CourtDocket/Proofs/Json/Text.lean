/-
# JSON texts are read as they are written

`Json.node` is the tree that a value should be read as.  A text that is read as a tree, whatever
follows it, is one that the tree is written as (`Node.WrittenAs`); such texts may be put together
like trees, with white space between the tokens (`Node.WrittenAs.array`, `Node.WrittenAs.object`).
Both texts of a value are put together in this way, so both are read as its tree
(`writtenAs_compact`, `writtenAs_indentedAt`).

The reader counts its steps.  Three for each character and a few more are enough: a list or an
object takes a step for each value in it and one for itself, and a member takes another one.
-/

import CourtDocket.Json.Node
import CourtDocket.Proofs.Json.Numeral
import CourtDocket.Proofs.Json.RawString

namespace CourtDocket
namespace Json

/-- The items of a list, up to its end. -/
def Items.ofList : List Node → Items
  | [] => .close
  | v :: vs => .item v (ofList vs)

/-- The members of an object, up to its end. -/
def Members.ofList : List (RawString × Node) → Members
  | [] => .close
  | (key, v) :: ms => .member key v (ofList ms)

mutual

/-- The tree of a value. -/
def node : Json → Node
  | null => .null
  | bool b => .bool b
  | int i => .number (.ofInt i)
  | float (.finite negative m e _) => .number (.ofFinite negative m e)
  | float _ => .null
  | string s => .string (.ofString s)
  | array items => .array (.ofList (nodes items))
  | object members => .object (.ofList (memberNodes members))

/-- The trees of the items of a list. -/
def nodes : List Json → List Node
  | [] => []
  | v :: vs => node v :: nodes vs

/-- The names and the trees of the members of an object. -/
def memberNodes : List (String × Json) → List (RawString × Node)
  | [] => []
  | (k, v) :: ms => (.ofString k, node v) :: memberNodes ms

end

/-! ### White space -/

/-- Whether a text is white space between tokens. -/
def IsSpace (cs : List Char) : Prop :=
  ∀ c ∈ cs, (Symbol.char c).isSpace = true

/-- No characters are white space. -/
theorem isSpace_nil : IsSpace [] := by
  intro c hc
  cases hc

/-- A line feed and the indentation behind it are white space. -/
theorem isSpace_newline (depth : ℕ) : IsSpace (newline depth) := by
  intro c hc
  rcases List.mem_cons.1 hc with rfl | hc
  · rfl
  · rw [List.eq_of_mem_replicate hc]
    rfl

/-- White space in front is skipped. -/
theorem skipSpace_append {w : List Char} (hw : IsSpace w) (s : List Symbol) :
    skipSpace (w.map Symbol.char ++ s) = skipSpace s := by
  induction w with
  | nil => rfl
  | cons c cs ih =>
    have hc := hw c (List.mem_cons_self ..)
    have htail := ih fun d hd => hw d (List.mem_cons_of_mem _ hd)
    rw [List.map_cons, List.cons_append, skipSpace, List.dropWhile_cons_of_pos hc]
    exact htail

/-- A character that is no white space is not skipped. -/
theorem skipSpace_char {c : Char} (hc : (Symbol.char c).isSpace = false) (s : List Symbol) :
    skipSpace (.char c :: s) = .char c :: s := by
  rw [skipSpace, List.dropWhile_cons_of_neg (by simp [hc])]

/-- Once skipped, there is no more white space. -/
theorem skipSpace_skipSpace (s : List Symbol) : skipSpace (skipSpace s) = skipSpace s := by
  induction s with
  | nil => rfl
  | cons x s ih =>
    by_cases hx : x.isSpace = true
    · have hdrop : skipSpace (x :: s) = skipSpace s := List.dropWhile_cons_of_pos hx
      rw [hdrop, ih]
    · have hkeep : skipSpace (x :: s) = x :: s := List.dropWhile_cons_of_neg hx
      rw [hkeep, hkeep]

/-- White space before a value does not matter. -/
theorem readNode_skipSpace (fuel : ℕ) (s : List Symbol) :
    readNode fuel (skipSpace s) = readNode fuel s := by
  cases fuel with
  | zero => rfl
  | succ fuel =>
    rw [readNode.eq_def, readNode.eq_def]
    simp only [skipSpace_skipSpace]

/-- White space before what cannot continue a number cannot continue one either. -/
theorem endsNumber_of_isSpace {w : List Char} (hw : IsSpace w) {s : List Symbol}
    (hs : EndsNumber s) : EndsNumber (w.map Symbol.char ++ s) := by
  intro c hc
  cases w with
  | nil => exact hs c hc
  | cons d w =>
    obtain rfl : d = c := Symbol.char.inj (Option.some.inj hc)
    have hd := hw d (List.mem_cons_self ..)
    simp only [Symbol.isSpace, Bool.or_eq_true, decide_eq_true_eq] at hd
    rcases hd with ((rfl | rfl) | rfl) | rfl <;> decide

/-- A comma and the ends of a list and of an object cannot continue a number. -/
theorem endsNumber_char {c : Char} (hc : c = ',' ∨ c = ']' ∨ c = '\x7d') (s : List Symbol) :
    EndsNumber (.char c :: s) := by
  intro d hd
  obtain rfl : c = d := Symbol.char.inj (Option.some.inj hd)
  rcases hc with rfl | rfl | rfl <;> decide

/-! ### Numbers -/

/-- A number does not start with white space. -/
theorem Numeral.SpelledBy.isSpace_head {n : Numeral} {c : Char} {u : List Char}
    (h : n.SpelledBy (c :: u)) : (Symbol.char c).isSpace = false := by
  obtain ⟨d, cs, heq, hd⟩ := h.exists_cons
  cases heq
  by_contra hspace
  simp only [Symbol.isSpace, Bool.not_eq_false, Bool.or_eq_true, decide_eq_true_eq] at hspace
  rcases hspace with ((rfl | rfl) | rfl) | rfl <;> revert hd <;> decide

/-! ### Steps of the reader -/

section Steps

variable {fuel : ℕ} {v : Node} {s r rest : List Symbol}

/-- A string is read where a quote stands behind the white space. -/
theorem readNode_string {raw : RawString} (hskip : skipSpace s = .char '"' :: r)
    (hsplit : RawString.split r = (raw, rest)) : readNode (fuel + 1) s = (.string raw, rest) := by
  rw [readNode.eq_def]
  simp only [hskip, if_true, hsplit]

/-- A list is read where a bracket stands behind the white space: its items are what follows. -/
theorem readNode_array (hskip : skipSpace s = .char '[' :: r) :
    readNode (fuel + 1) s = (.array (readItems fuel true r).1, (readItems fuel true r).2) := by
  rw [readNode.eq_def]
  simp only [hskip, if_neg (show ¬ '[' = '"' by decide), if_true]

/-- An object is read where a brace stands behind the white space: its members are what follows. -/
theorem readNode_object (hskip : skipSpace s = .char '\x7b' :: r) :
    readNode (fuel + 1) s =
      (.object (readMembers fuel true r).1, (readMembers fuel true r).2) := by
  rw [readNode.eq_def]
  simp only [hskip, if_neg (show ¬ '\x7b' = '"' by decide), if_neg (show ¬ '\x7b' = '[' by decide),
    if_true]

/-- A number is read where a sign or a digit stands behind the white space. -/
theorem readNode_number {c : Char} (hskip : skipSpace s = .char c :: r)
    (hc : c = '-' ∨ Number.isDigit c = true) :
    readNode (fuel + 1) s = readNumber (.char c :: r) := by
  have hne : ∀ d ∈ ['"', '[', '\x7b', 'n', 't', 'f'], c ≠ d := by
    rintro d hd rfl
    revert hc
    simp only [List.mem_cons, List.not_mem_nil, or_false] at hd
    rcases hd with rfl | rfl | rfl | rfl | rfl | rfl <;> decide
  simp only [List.forall_mem_cons] at hne
  obtain ⟨h₁, h₂, h₃, h₄, h₅, h₆, -⟩ := hne
  rw [readNode.eq_def]
  simp only [hskip, if_neg h₁, if_neg h₂, if_neg h₃, if_neg h₄, if_neg h₅, if_neg h₆, if_pos hc]

/-- A member is read where its name, a colon and its value follow each other. -/
theorem readMember_cons {key : RawString} {u : List Symbol}
    (hsplit : RawString.split r = (key, s)) (hcolon : skipSpace s = .char ':' :: u)
    (hread : readNode fuel u = (v, rest)) :
    readMember (fuel + 1) (.char '"' :: r) =
      (.member key v (readMembers fuel false rest).1, (readMembers fuel false rest).2) := by
  rw [readMember.eq_def]
  simp only [if_true, hsplit, hcolon, hread]

end Steps

/-! ### Values -/

/-- **Whether a tree is written as a text**: the text is read as the tree, whatever follows that
cannot continue a number. -/
structure Node.WrittenAs (v : Node) (t : List Char) : Prop where
  /-- The tree is that of a value. -/
  value : ∀ f, v ≠ .broken f
  /-- The text is read as the tree. -/
  read : ∀ rest fuel, EndsNumber rest → 3 * (t.length + rest.length) + 3 ≤ fuel →
    readNode fuel (t.map Symbol.char ++ rest) = (v, rest)

namespace Node.WrittenAs

variable {v : Node} {t : List Char} {rest : List Symbol}

/-- A value starts with something, and that is not the end of a list. -/
theorem exists_skipSpace (h : v.WrittenAs t) (hrest : EndsNumber rest) :
    ∃ x s, skipSpace (t.map Symbol.char ++ rest) = x :: s ∧ x ≠ .char ']' := by
  have hread := h.read rest _ hrest (Nat.le_refl _)
  rw [readNode.eq_def] at hread
  simp only at hread
  cases hskip : skipSpace (t.map Symbol.char ++ rest) with
  | nil =>
    rw [hskip] at hread
    exact absurd (congrArg Prod.fst hread).symm (h.value _)
  | cons x s =>
    refine ⟨x, s, rfl, ?_⟩
    rintro rfl
    rw [hskip] at hread
    exact absurd (congrArg Prod.fst hread).symm (h.value _)

/-- A text of a value has a character. -/
theorem length_pos (h : v.WrittenAs t) : 0 < t.length := by
  rw [List.length_pos_iff]
  rintro rfl
  have hends : EndsNumber [] := fun c hc => by cases hc
  obtain ⟨x, s, hskip, -⟩ := h.exists_skipSpace hends
  cases hskip

/-- White space may stand before a value. -/
theorem space (h : v.WrittenAs t) {w : List Char} (hw : IsSpace w) : v.WrittenAs (w ++ t) where
  value := h.value
  read rest fuel hrest hfuel := by
    rw [List.map_append, List.append_assoc, ← readNode_skipSpace, skipSpace_append hw,
      readNode_skipSpace]
    refine h.read rest fuel hrest ?_
    rw [List.length_append] at hfuel
    omega

/-- The text of `null`. -/
theorem null : Node.null.WrittenAs ['n', 'u', 'l', 'l'] where
  value f := by simp
  read rest fuel _ hfuel := by
    obtain ⟨fuel, rfl⟩ := Nat.exists_eq_add_one_of_ne_zero (show fuel ≠ 0 by omega)
    rfl

/-- The texts of the truth values. -/
theorem bool (b : Bool) : (Node.bool b).WrittenAs (compact (.bool b)) where
  value f := by simp
  read rest fuel _ hfuel := by
    obtain ⟨fuel, rfl⟩ := Nat.exists_eq_add_one_of_ne_zero (show fuel ≠ 0 by omega)
    cases b <;> rfl

/-- A string is written as its text between quotes. -/
theorem string (s : String) : (Node.string (.ofString s)).WrittenAs (stringText s) where
  value f := by simp
  read rest fuel _ hfuel := by
    obtain ⟨fuel, rfl⟩ := Nat.exists_eq_add_one_of_ne_zero (show fuel ≠ 0 by omega)
    rw [stringText, List.map_cons, List.cons_append]
    exact readNode_string (skipSpace_char rfl _) (RawString.split_stringText rest s)

/-- A number is written as its own text: no word, string, list or object starts like one. -/
theorem number {n : Numeral} (hn : n.WellFormed) : (Node.number n).WrittenAs n.text where
  value f := by simp
  read rest fuel hrest hfuel := by
    obtain ⟨fuel, rfl⟩ := Nat.exists_eq_add_one_of_ne_zero (show fuel ≠ 0 by omega)
    have hsplit := hn.spelledBy_text.split hrest
    obtain ⟨c, cs, htext, hc⟩ := hn.spelledBy_text.exists_cons
    have hspace : (Symbol.char c).isSpace = false := (htext ▸ hn.spelledBy_text).isSpace_head
    rw [htext, List.map_cons, List.cons_append] at hsplit ⊢
    rw [readNode_number (skipSpace_char hspace _) hc, readNumber, hsplit]

end Node.WrittenAs

/-! ### Several values -/

/-- What stands between the first of several texts and their end: each of the others with a comma
before it, then white space and the last character. -/
def restText (stop : Char) (w : List Char) (ts : List (List Char)) : List Char :=
  ts.flatMap (',' :: ·) ++ (w ++ [stop])

/-- The first of the other texts stands behind a comma. -/
theorem restText_cons (stop : Char) (w t : List Char) (ts : List (List Char)) :
    restText stop w (t :: ts) = ',' :: (t ++ restText stop w ts) := by
  simp [restText]

/-- Several texts with commas between them are the first one and the rest. -/
theorem commas_cons_append (stop : Char) (w t : List Char) (ts : List (List Char)) :
    commas (t :: ts) ++ (w ++ [stop]) = t ++ restText stop w ts := by
  induction ts generalizing t with
  | nil => rfl
  | cons u us ih =>
    have hcommas : commas (t :: u :: us) = t ++ ',' :: commas (u :: us) := rfl
    rw [hcommas, restText_cons, List.append_assoc, List.cons_append, ih u]

/-- What follows an item or a member cannot continue a number. -/
theorem endsNumber_restText {stop : Char} (hstop : stop = ']' ∨ stop = '\x7d')
    {w : List Char} (hw : IsSpace w) (ts : List (List Char)) (rest : List Symbol) :
    EndsNumber ((restText stop w ts).map Symbol.char ++ rest) := by
  cases ts with
  | nil =>
    have hend := endsNumber_of_isSpace hw (endsNumber_char (Or.inr hstop) rest)
    simpa [restText] using hend
  | cons t ts =>
    rw [restText_cons]
    exact endsNumber_char (Or.inl rfl) _

/-! ### Lists -/

section Lists

variable {fuel : ℕ} {v : Node} {x : Symbol} {s r rest : List Symbol} {w : List Char}
  {vs : List Node} {ts : List (List Char)}

/-- A list is closed behind white space. -/
theorem readItems_close (hw : IsSpace w) (atStart : Bool) :
    readItems (fuel + 1) atStart ((w ++ [']']).map Symbol.char ++ rest) = (.close, rest) := by
  rw [List.map_append, List.append_assoc, readItems.eq_def]
  simp only [skipSpace_append hw]
  rfl

/-- The first item of a list is read where the list is not closed at once. -/
theorem readItems_first (hskip : skipSpace s = x :: r) (hx : x ≠ .char ']')
    (hread : readNode fuel s = (v, rest)) :
    readItems (fuel + 1) true s =
      (.item v (readItems fuel false rest).1, (readItems fuel false rest).2) := by
  rw [readItems.eq_def]
  simp only [hskip, if_neg hx, if_true]
  rw [← hskip, readNode_skipSpace, hread]

/-- Behind a comma the next item of a list is read. -/
theorem readItems_next (hskip : skipSpace s = x :: r) (hx : x ≠ .char ']')
    (hread : readNode fuel s = (v, rest)) :
    readItems (fuel + 1) false (.char ',' :: s) =
      (.item v (readItems fuel false rest).1, (readItems fuel false rest).2) := by
  rw [readItems.eq_def]
  simp only [skipSpace_char (show (Symbol.char ',').isSpace = false from rfl), hskip, if_neg hx]
  rw [← hskip, readNode_skipSpace, hread]
  rfl

/-- The items after the first one are read. -/
theorem readItems_restText (h : List.Forall₂ Node.WrittenAs vs ts) (hw : IsSpace w)
    (hfuel : 3 * ((restText ']' w ts).length + rest.length) + 4 ≤ fuel) :
    readItems fuel false ((restText ']' w ts).map Symbol.char ++ rest) =
      (.ofList vs, rest) := by
  induction h generalizing fuel with
  | nil =>
    obtain ⟨fuel, rfl⟩ := Nat.exists_eq_add_one_of_ne_zero (show fuel ≠ 0 by omega)
    exact readItems_close hw false
  | @cons v t vs ts hv _ ih =>
    obtain ⟨fuel, rfl⟩ := Nat.exists_eq_add_one_of_ne_zero (show fuel ≠ 0 by omega)
    have hends := endsNumber_restText (Or.inl rfl) hw ts rest
    obtain ⟨x, s, hskip, hx⟩ := hv.exists_skipSpace hends
    rw [restText_cons, List.length_cons, List.length_append] at hfuel
    have hread := hv.read _ fuel hends (by
      rw [List.length_append, List.length_map]
      omega)
    rw [restText_cons, List.map_cons, List.map_append, List.cons_append, List.append_assoc,
      readItems_next hskip hx hread, ih (by omega)]
    rfl

/-- **A list of written values is written with commas between them.** -/
theorem Node.WrittenAs.array (h : List.Forall₂ Node.WrittenAs vs ts) (hw : IsSpace w) :
    (Node.array (.ofList vs)).WrittenAs ('[' :: (commas ts ++ (w ++ [']']))) where
  value f := by simp
  read rest fuel hrest hfuel := by
    obtain ⟨fuel, rfl⟩ := Nat.exists_eq_add_one_of_ne_zero (show fuel ≠ 0 by omega)
    have hitems : readItems fuel true ((commas ts ++ (w ++ [']'])).map Symbol.char ++ rest) =
        (.ofList vs, rest) := by
      obtain ⟨fuel, rfl⟩ := Nat.exists_eq_add_one_of_ne_zero (show fuel ≠ 0 by omega)
      cases h with
      | nil => exact readItems_close hw true
      | @cons v t vs ts hv hvs =>
        have hends := endsNumber_restText (Or.inl rfl) hw ts rest
        obtain ⟨x, s, hskip, hx⟩ := hv.exists_skipSpace hends
        have hpos := hv.length_pos
        rw [List.length_cons, commas_cons_append, List.length_append] at hfuel
        have hread := hv.read _ fuel hends (by
          rw [List.length_append, List.length_map]
          omega)
        rw [commas_cons_append, List.map_append, List.append_assoc,
          readItems_first hskip hx hread, readItems_restText hvs hw (by omega)]
        rfl
    rw [List.map_cons, List.cons_append, readNode_array (skipSpace_char rfl _), hitems]

end Lists

/-! ### Objects -/

/-- Whether a member is written as a text: its name, a colon and its value, with white space before
it. -/
def MemberWrittenAs (m : RawString × Node) (t : List Char) : Prop :=
  ∃ w k u, IsSpace w ∧ m.1 = .ofString k ∧ m.2.WrittenAs u ∧ t = w ++ (stringText k ++ ':' :: u)

section Objects

variable {fuel : ℕ} {m : RawString × Node} {t : List Char} {s r rest : List Symbol}
  {w : List Char} {ms : List (RawString × Node)} {ts : List (List Char)}

/-- An object is closed behind white space. -/
theorem readMembers_close (hw : IsSpace w) (atStart : Bool) :
    readMembers (fuel + 1) atStart ((w ++ ['\x7d']).map Symbol.char ++ rest) =
      (.close, rest) := by
  rw [List.map_append, List.append_assoc, readMembers.eq_def]
  simp only [skipSpace_append hw]
  rfl

/-- The first member of an object is read where its name starts. -/
theorem readMembers_first (hskip : skipSpace s = .char '"' :: r) :
    readMembers (fuel + 1) true s = readMember fuel (skipSpace s) := by
  rw [readMembers.eq_def]
  simp only [hskip]
  rfl

/-- Behind a comma the next member of an object is read. -/
theorem readMembers_next (hskip : skipSpace s = .char '"' :: r) :
    readMembers (fuel + 1) false (.char ',' :: s) = readMember fuel (skipSpace s) := by
  rw [readMembers.eq_def]
  simp only [skipSpace_char (show (Symbol.char ',').isSpace = false from rfl), hskip]
  rfl

/-- A member starts with a quote. -/
theorem MemberWrittenAs.exists_skipSpace (h : MemberWrittenAs m t) (rest : List Symbol) :
    ∃ s, skipSpace (t.map Symbol.char ++ rest) = .char '"' :: s := by
  obtain ⟨w, k, u, hw, -, -, rfl⟩ := h
  rw [List.map_append, List.append_assoc, skipSpace_append hw, stringText]
  exact ⟨_, rfl⟩

/-- A member is read, and then what follows it. -/
theorem readMember_append (h : MemberWrittenAs m t) (hrest : EndsNumber rest)
    (hfuel : 3 * (t.length + rest.length) + 4 ≤ fuel) :
    ∃ fuel', 3 * rest.length + 5 ≤ fuel' ∧
      readMember fuel (skipSpace (t.map Symbol.char ++ rest)) =
        (.member m.1 m.2 (readMembers fuel' false rest).1, (readMembers fuel' false rest).2) := by
  obtain ⟨w, k, u, hw, hkey, hu, rfl⟩ := h
  obtain ⟨fuel, rfl⟩ := Nat.exists_eq_add_one_of_ne_zero (show fuel ≠ 0 by omega)
  simp only [stringText, List.length_append, List.length_cons] at hfuel
  have hread := hu.read rest fuel hrest (by omega)
  have htext : (w ++ (stringText k ++ ':' :: u)).map Symbol.char ++ rest =
      w.map Symbol.char ++ .char '"' ::
        ((k.toList.flatMap escapeChar ++ ['"']).map Symbol.char ++
          .char ':' :: (u.map Symbol.char ++ rest)) := by
    simp [stringText]
  refine ⟨fuel, by omega, ?_⟩
  rw [htext, skipSpace_append hw, skipSpace_char rfl,
    readMember_cons (RawString.split_stringText _ k) (skipSpace_char rfl _) hread, hkey]

/-- The members after the first one are read. -/
theorem readMembers_restText (h : List.Forall₂ MemberWrittenAs ms ts) (hw : IsSpace w)
    (hfuel : 3 * ((restText '\x7d' w ts).length + rest.length) + 5 ≤ fuel) :
    readMembers fuel false ((restText '\x7d' w ts).map Symbol.char ++ rest) =
      (.ofList ms, rest) := by
  induction h generalizing fuel with
  | nil =>
    obtain ⟨fuel, rfl⟩ := Nat.exists_eq_add_one_of_ne_zero (show fuel ≠ 0 by omega)
    exact readMembers_close hw false
  | @cons m t ms ts hm _ ih =>
    obtain ⟨fuel, rfl⟩ := Nat.exists_eq_add_one_of_ne_zero (show fuel ≠ 0 by omega)
    have hends := endsNumber_restText (Or.inr rfl) hw ts rest
    obtain ⟨s, hskip⟩ := hm.exists_skipSpace ((restText '\x7d' w ts).map Symbol.char ++ rest)
    rw [restText_cons, List.length_cons, List.length_append] at hfuel
    have hroom :
        3 * (t.length + ((restText '\x7d' w ts).map Symbol.char ++ rest).length) + 4 ≤ fuel := by
      rw [List.length_append, List.length_map]
      omega
    obtain ⟨fuel', hfuel', hread⟩ := readMember_append hm hends hroom
    rw [List.length_append, List.length_map] at hfuel'
    rw [restText_cons, List.map_cons, List.map_append, List.cons_append, List.append_assoc,
      readMembers_next hskip, hread, ih hfuel']
    rfl

/-- **An object of written members is written with commas between them.** -/
theorem Node.WrittenAs.object (h : List.Forall₂ MemberWrittenAs ms ts) (hw : IsSpace w) :
    (Node.object (.ofList ms)).WrittenAs ('\x7b' :: (commas ts ++ (w ++ ['\x7d']))) where
  value f := by simp
  read rest fuel hrest hfuel := by
    obtain ⟨fuel, rfl⟩ := Nat.exists_eq_add_one_of_ne_zero (show fuel ≠ 0 by omega)
    have hmembers :
        readMembers fuel true ((commas ts ++ (w ++ ['\x7d'])).map Symbol.char ++ rest) =
          (.ofList ms, rest) := by
      obtain ⟨fuel, rfl⟩ := Nat.exists_eq_add_one_of_ne_zero (show fuel ≠ 0 by omega)
      cases h with
      | nil => exact readMembers_close hw true
      | @cons m t ms ts hm hms =>
        have hends := endsNumber_restText (Or.inr rfl) hw ts rest
        obtain ⟨s, hskip⟩ := hm.exists_skipSpace ((restText '\x7d' w ts).map Symbol.char ++ rest)
        rw [List.length_cons, commas_cons_append, List.length_append] at hfuel
        have hroom :
            3 * (t.length + ((restText '\x7d' w ts).map Symbol.char ++ rest).length) + 4 ≤
              fuel := by
          rw [List.length_append, List.length_map]
          omega
        obtain ⟨fuel', hfuel', hread⟩ := readMember_append hm hends hroom
        rw [List.length_append, List.length_map] at hfuel'
        rw [commas_cons_append, List.map_append, List.append_assoc, readMembers_first hskip,
          hread, readMembers_restText hms hw hfuel']
        rfl
    rw [List.map_cons, List.cons_append, readNode_object (skipSpace_char rfl _), hmembers]

end Objects

/-! ### The two texts of a value -/

/-- A number that is written is written as its tree, and what is no number as `null`. -/
theorem writtenAs_floatText (x : Binary64) : (node (.float x)).WrittenAs (floatText x) := by
  cases x with
  | nan => exact Node.WrittenAs.null
  | infinite negative => cases negative <;> exact Node.WrittenAs.null
  | finite negative m e h =>
    rw [node, ← Numeral.text_ofFinite]
    exact .number (Numeral.wellFormed_ofFinite ..)

/-- An integer is written as its decimal digits, with a dash before them below zero. -/
theorem writtenAs_intText (i : ℤ) : (node (.int i)).WrittenAs (intText i) := by
  rw [node, ← Numeral.text_ofInt]
  exact .number (Numeral.wellFormed_ofInt i)

mutual

/-- **The text without white space is read as the tree.** -/
theorem writtenAs_compact : ∀ v : Json, v.node.WrittenAs v.compact
  | .null => .null
  | .bool b => .bool b
  | .int i => writtenAs_intText i
  | .float x => writtenAs_floatText x
  | .string s => .string s
  | .array items => .array (writtenAs_compactItems items) isSpace_nil
  | .object members => .object (writtenAs_compactMembers members) isSpace_nil

/-- The items of a list are written one by one in the compact text. -/
theorem writtenAs_compactItems :
    ∀ vs : List Json, List.Forall₂ Node.WrittenAs (nodes vs) (compactItems vs)
  | [] => .nil
  | v :: vs => .cons (writtenAs_compact v) (writtenAs_compactItems vs)

/-- The members of an object are written one by one in the compact text. -/
theorem writtenAs_compactMembers :
    ∀ ms : List (String × Json), List.Forall₂ MemberWrittenAs (memberNodes ms) (compactMembers ms)
  | [] => .nil
  | (k, v) :: ms =>
    .cons ⟨[], k, v.compact, isSpace_nil, rfl, writtenAs_compact v, rfl⟩
      (writtenAs_compactMembers ms)

end

/-- A blank is white space. -/
theorem isSpace_blank : IsSpace [' '] := by
  intro c hc
  rw [List.mem_singleton.1 hc]
  rfl

/-- A list may stand on several lines. -/
theorem Node.WrittenAs.arrayBlock {vs : List Node} {ts : List (List Char)}
    (h : List.Forall₂ Node.WrittenAs vs ts) (depth : ℕ) :
    (Node.array (.ofList vs)).WrittenAs (block depth '[' ']' ts) := by
  rw [block]
  split_ifs with hempty
  · obtain rfl := List.isEmpty_iff.1 hempty
    cases h
    exact .array .nil isSpace_nil
  · rw [List.append_assoc]
    refine .array ?_ (isSpace_newline depth)
    rw [List.forall₂_map_right_iff]
    exact h.imp fun _ _ hv => hv.space (isSpace_newline (depth + 1))

/-- So may an object. -/
theorem Node.WrittenAs.objectBlock {ms : List (RawString × Node)} {ts : List (List Char)}
    (h : List.Forall₂ MemberWrittenAs ms ts) (depth : ℕ) :
    (Node.object (.ofList ms)).WrittenAs (block depth '\x7b' '\x7d' ts) := by
  rw [block]
  split_ifs with hempty
  · obtain rfl := List.isEmpty_iff.1 hempty
    cases h
    exact .object .nil isSpace_nil
  · rw [List.append_assoc]
    refine .object ?_ (isSpace_newline depth)
    rw [List.forall₂_map_right_iff]
    refine h.imp fun m t hm => ?_
    obtain ⟨w, k, u, hw, hkey, hu, rfl⟩ := hm
    refine ⟨newline (depth + 1) ++ w, k, u, fun c hc => ?_, hkey, hu, by rw [List.append_assoc]⟩
    exact (List.mem_append.1 hc).elim (isSpace_newline _ c) (hw c)

mutual

/-- **The text on several lines is read as the tree.** -/
theorem writtenAs_indentedAt : ∀ (depth : ℕ) (v : Json), v.node.WrittenAs (v.indentedAt depth)
  | _, .null => .null
  | _, .bool true => .bool true
  | _, .bool false => .bool false
  | _, .int i => writtenAs_intText i
  | _, .float x => writtenAs_floatText x
  | _, .string s => .string s
  | depth, .array items => .arrayBlock (writtenAs_indentedItems (depth + 1) items) depth
  | depth, .object members => .objectBlock (writtenAs_indentedMembers (depth + 1) members) depth

/-- The items of a list are written one by one in the indented text, in any depth. -/
theorem writtenAs_indentedItems : ∀ (depth : ℕ) (vs : List Json),
    List.Forall₂ Node.WrittenAs (nodes vs) (indentedItems depth vs)
  | _, [] => .nil
  | depth, v :: vs => .cons (writtenAs_indentedAt depth v) (writtenAs_indentedItems depth vs)

/-- The members of an object are written one by one in the indented text, in any depth. -/
theorem writtenAs_indentedMembers : ∀ (depth : ℕ) (ms : List (String × Json)),
    List.Forall₂ MemberWrittenAs (memberNodes ms) (indentedMembers depth ms)
  | _, [] => .nil
  | depth, (k, v) :: ms =>
    .cons ⟨[], k, ' ' :: v.indentedAt depth, isSpace_nil, rfl,
      (writtenAs_indentedAt depth v).space isSpace_blank, rfl⟩ (writtenAs_indentedMembers depth ms)

end

/-- A text that a tree is written as is read as the tree, and nothing follows. -/
theorem Node.WrittenAs.ofSymbols_ofString {v : Node} {t : List Char} (h : v.WrittenAs t) :
    Node.ofSymbols (Symbol.ofString (String.ofList t)) = (v, false) := by
  have hread := h.read [] (3 * t.length + 3) (fun c hc => by cases hc) (Nat.le_refl _)
  rw [List.append_nil] at hread
  rw [Symbol.ofString, String.toList_ofList, Node.ofSymbols, List.length_map, hread]
  rfl

end Json
end CourtDocket
