/-
# Texts of a line for each member

A text in which every line is a name, a colon, a blank and a word is a mapping that is not nested
(`flatText`).  The scanner takes three steps on a line: it reads the name and remembers its place
(`Scanner.readTokenBefore_name`), puts the token of a key in there when it comes to the colon
(`Scanner.readTokenBefore_colon`), and reads the word up to the start of the next line
(`Scanner.readTokenBefore_value`).  Before the first line no block has been entered; the first
colon enters it, and the end of the text ends it.  So the tokens of the text are those of its
members (`tokens_flatText`), and empty lines at its end change nothing.
-/

import CourtDocket.Proofs.Yaml.Word

namespace CourtDocket
namespace Yaml

/-- A name and a word. -/
abbrev Member := List Char × List Char

/-- Whether a member can stand on a line. -/
structure IsMember (m : Member) : Prop where
  /-- Its name can be a key. -/
  name : IsName m.1
  /-- Its value is a word. -/
  value : IsWord m.2

/-- The line of a member. -/
def lineText (m : Member) : List Char :=
  m.1 ++ ':' :: ' ' :: (m.2 ++ ['\n'])

/-- The lines of some members. -/
def flatText (ms : List Member) : List Char :=
  ms.flatMap lineText

/-- The tokens of a member. -/
def memberTokens (m : Member) : List Token :=
  [.key, .scalar .plain m.1, .value, .scalar .plain m.2]

/-- The tokens that enter a block, if it has not been entered. -/
def entry (entered : Bool) : List Token :=
  if entered then [] else [.mappingStart]

namespace Scanner

variable {entered : Bool} {p : Place} {ts : List (Placed Token)} {name value rest : List Char}

/-- The scanner at the start of a line, when a block has been entered or not. -/
def atName (entered : Bool) (p : Place) (tokens : List (Placed Token)) (rest : List Char) :
    Scanner :=
  { cursor := ⟨p, rest⟩
    indent := if entered then 0 else -1
    outerIndents := if entered then [-1] else []
    tokens }

/-- The scanner behind the name of a line that starts at a place. -/
def atColon (entered : Bool) (p : Place) (tokens : List (Placed Token)) (name rest : List Char) :
    Scanner :=
  { cursor := ⟨p.pastAll name, ':' :: rest⟩
    indent := if entered then 0 else -1
    outerIndents := if entered then [-1] else []
    place := some ⟨entered, tokens.length, p⟩
    keyAllowed := false
    tokens := ⟨.scalar .plain name, p⟩ :: tokens }

/-- The scanner behind the colon of a line. -/
def atValue (p : Place) (tokens : List (Placed Token)) (rest : List Char) : Scanner :=
  { cursor := ⟨p, rest⟩
    indent := 0
    outerIndents := [-1]
    keyAllowed := false
    tokens }

/-- A text that starts with a word has nothing to go over. -/
theorem skipGap_of_isPlainChar {c : Char} {cs : List Char} (hc : isPlainChar c = true)
    (keyAllowed : Bool) (p : Place) :
    skipGap false keyAllowed false (c :: cs) p = (keyAllowed, ⟨p, c :: cs⟩) := by
  have hblank : c ≠ ' ' := ne_of_isPlainChar hc (by decide)
  have htab : c ≠ '\t' := ne_of_isPlainChar hc (by decide)
  have hcomment : c ≠ '#' := ne_of_isPlainChar hc (by decide)
  have hmark : c ≠ '\ufeff' := ne_of_isPlainChar hc (by decide)
  rw [skipGap]
  simp [isBreak_of_isPlainChar hc, hblank, htab, hcomment, hmark]

/-- A blank in a gap is passed over. -/
theorem skipGap_blank (keyAllowed : Bool) (cs : List Char) (p : Place) :
    skipGap false keyAllowed false (' ' :: cs) p =
      skipGap false keyAllowed false cs (p.past ' ') := by
  rw [skipGap]
  simp [isBreak]

/-- Outside of brackets, where no place is stale, none is forgotten. -/
theorem dropStale_of_fresh {s : Scanner} (houter : s.outerPlaces = [])
    (hplace : ∀ k, s.place = some k → s.isStale k = false) : s.dropStale = .ok s := by
  have hfresh : s.freshPlace s.place = .ok s.place := by
    cases h : s.place with
    | none => rfl
    | some k => simp [freshPlace, hplace k h]
  rw [dropStale, hfresh, houter]
  cases s
  cases houter
  rfl

/-- Where no block is indented more than the column, none ends. -/
theorem closeBlocks_of_le {s : Scanner} {column : ℤ} (h : s.indent ≤ column) :
    s.closeBlocks column = s := by
  rw [closeBlocks, unroll, if_neg h.not_gt, ite_self]

/-- A plain scalar becomes a token where it starts. -/
theorem readPlain_eq {s t : Scanner} {x : Lexeme} (hplace : s.savePlace = .ok t)
    (hx : plainScalar t.inFlow (t.indent + 1).toNat t.cursor = .ok x) :
    s.readPlain = .ok { t.push (.scalar .plain x.text) with
      keyAllowed := x.brokenAfter, cursor := x.stop } := by
  rw [readPlain, hplace]
  simp only [bind, Except.bind, hx]
  rfl

/-! ### The three steps on a line -/

/-- At a name the lines are indented no deeper than the column of the name. -/
theorem indent_atName_le (entered : Bool) (p : Place) (ts : List (Placed Token))
    (rest : List Char) : (atName entered p ts rest).indent ≤ p.column := by
  have hcolumn : (0 : ℤ) ≤ p.column := Int.natCast_nonneg _
  cases entered with
  | true => exact hcolumn
  | false => exact (show (-1 : ℤ) ≤ 0 by decide).trans hcolumn

/-- Where a key may start, its place is remembered. -/
theorem savePlace_atName (hp : p.column = 0) :
    (atName entered p ts rest).savePlace =
      .ok { atName entered p ts rest with place := some ⟨entered, ts.length, p⟩ } := by
  have hsave : (atName entered p ts rest).savePlace =
      .ok { atName entered p ts rest with
        place := some ⟨(atName entered p ts rest).indent = (p.column : ℤ), ts.length, p⟩ } := rfl
  rw [hsave, hp]
  cases entered <;> rfl

/-- The place of a name is remembered as far as its colon. -/
theorem dropStale_atColon (hname : IsName name) :
    (atColon entered p ts name rest).dropStale = .ok (atColon entered p ts name rest) := by
  refine dropStale_of_fresh rfl fun k hk => ?_
  obtain rfl := Option.some.inj hk
  have hlength := hname.length_le
  have hline := line_pastAll p name
  have hoctets := octets_pastAll p hname.isPlainChar
  simp only [isStale, Bool.or_eq_false_iff, decide_eq_false_iff_not, not_lt]
  constructor
  · exact hline.le
  · show (p.pastAll name).octets ≤ p.octets + 1024
    omega

/-- At the start of a line its name is read, and its place is remembered. -/
theorem readTokenBefore_name (hp : p.column = 0) (hname : IsName name)
    (hrest : atGap rest = true) :
    (atName entered p ts (name ++ ':' :: rest)).readTokenBefore none =
      .ok (atColon entered p ts name rest) := by
  obtain ⟨c, cs, rfl⟩ := List.exists_cons_of_ne_nil hname.ne_nil
  have hc := hname.isPlainChar c (List.mem_cons_self ..)
  have halpha := hname.isAlpha c rfl
  have hnext : (atName entered p ts (c :: cs ++ ':' :: rest)).toNextToken =
      atName entered p ts (c :: cs ++ ':' :: rest) := by
    simp only [toNextToken, atName, inFlow, List.isEmpty_nil, Bool.not_true, List.cons_append,
      skipGap_of_isPlainChar hc]
  have hstale : (atName entered p ts (c :: cs ++ ':' :: rest)).dropStale =
      .ok (atName entered p ts (c :: cs ++ ':' :: rest)) :=
    dropStale_of_fresh rfl fun k hk => by cases hk
  have hclose := closeBlocks_of_le (indent_atName_le entered p ts (c :: cs ++ ':' :: rest))
  have hread : (atName entered p ts (c :: cs ++ ':' :: rest)).readToken =
      (atName entered p ts (c :: cs ++ ':' :: rest)).readPlain := by
    refine readToken_plain (by rw [hnext, hstale]) hclose rfl rfl hc (fun _ => halpha) ?_
    rintro rfl
    exact absurd halpha (by decide)
  have hscalar : (atName entered p ts (c :: cs ++ ':' :: rest)).readPlain =
      .ok (atColon entered p ts (c :: cs) rest) :=
    readPlain_eq (savePlace_atName hp) (plainScalar_name _ p hname.isPlainChar hrest)
  rw [readTokenBefore, hread, hscalar]
  exact dropStale_atColon hname

/-- The tokens up to a colon, in reverse order: that of the key stands where the name starts, behind
that of the block if it is the first one. -/
def colonTokens (entered : Bool) (p : Place) (ts : List (Placed Token)) (name : List Char) :
    List (Placed Token) :=
  ⟨.value, p.pastAll name⟩ :: ⟨.scalar .plain name, p⟩ :: ⟨.key, p⟩ ::
    ((entry entered).map (⟨·, p⟩) ++ ts)

/-- The colon puts the token of the key in. -/
theorem readTokenBefore_colon (hp : p.column = 0) (hname : IsName name)
    (hrest : atGap rest = true) :
    (atColon entered p ts name rest).readTokenBefore none =
      .ok (atValue ((p.pastAll name).past ':') (colonTokens entered p ts name) rest) := by
  have hcolumn : 0 < (p.pastAll name).column := by
    have hlength := List.length_pos_iff.2 hname.ne_nil
    rw [column_pastAll]
    omega
  have hnext : (atColon entered p ts name rest).toNextToken =
      atColon entered p ts name rest := by
    simp [toNextToken, atColon, skipGap, isBreak]
  have hclose : (atColon entered p ts name rest).closeBlocks
      (atColon entered p ts name rest).cursor.column = atColon entered p ts name rest :=
    closeBlocks_of_le (indent_atName_le entered (p.pastAll name) ts rest)
  have hread : (atColon entered p ts name rest).readToken =
      (atColon entered p ts name rest).readValue := by
    have hcursor : (atColon entered p ts name rest).cursor.rest = ':' :: rest := rfl
    have hmiddle : (atColon entered p ts name rest).cursor.column ≠ 0 := hcolumn.ne'
    rw [readToken]
    simp only [hnext, dropStale_atColon hname, bind, Except.bind, hclose, hcursor, hmiddle, hrest]
    simp
  -- the first key opens the block, the others are in it
  have hopens : (atColon entered p ts name rest).opensBlock p.column = !entered := by
    rw [hp]
    cases entered <;> rfl
  have hvalue : (atColon entered p ts name rest).readValue =
      .ok (atValue ((p.pastAll name).past ':') (colonTokens entered p ts name) rest) := by
    have hplace : (atColon entered p ts name rest).place = some ⟨entered, ts.length, p⟩ := rfl
    rw [readValue, hplace]
    simp only [hopens]
    cases entered with
    | true =>
      simp [insertAt, atColon, atValue, colonTokens, entry, take, push, moveTo, Cursor.skip,
        Place.pastAll]
    | false =>
      simp [insertAt, enterBlock, atColon, atValue, colonTokens, entry, take, push, moveTo,
        Cursor.skip, Place.pastAll, hp]
  rw [readTokenBefore, hread, hvalue]
  rfl

/-- Behind the colon the word is read up to the start of the next line. -/
theorem readTokenBefore_value (p : Place) (ts : List (Placed Token)) (hvalue : IsWord value)
    (hrest : StartsWord rest) (n : ℕ) :
    ∃ q : Place, (q.column = 0 ∧ q.octets = 0) ∧
      (atValue p ts (' ' :: (value ++ '\n' :: (List.replicate n '\n' ++ rest)))).readTokenBefore
          none =
        .ok (atName true q (⟨.scalar .plain value, p.past ' '⟩ :: ts) rest) := by
  obtain ⟨c, cs, rfl⟩ := List.exists_cons_of_ne_nil hvalue.ne_nil
  have hc := hvalue.isPlainChar c (List.mem_cons_self ..)
  generalize htail : '\n' :: (List.replicate n '\n' ++ rest) = tail
  have hnext : (atValue p ts (' ' :: (c :: cs ++ tail))).toNextToken =
      atValue (p.past ' ') ts (c :: cs ++ tail) := by
    simp only [toNextToken, atValue, inFlow, List.isEmpty_nil, Bool.not_true, List.cons_append,
      skipGap_blank, skipGap_of_isPlainChar hc]
  have hstale : (atValue (p.past ' ') ts (c :: cs ++ tail)).dropStale =
      .ok (atValue (p.past ' ') ts (c :: cs ++ tail)) :=
    dropStale_of_fresh rfl fun k hk => by cases hk
  have hclose : (atValue (p.past ' ') ts (c :: cs ++ tail)).closeBlocks (p.past ' ').column =
      atValue (p.past ' ') ts (c :: cs ++ tail) :=
    closeBlocks_of_le (Int.natCast_nonneg _)
  have hread : (atValue p ts (' ' :: (c :: cs ++ tail))).readToken =
      (atValue (p.past ' ') ts (c :: cs ++ tail)).readPlain := by
    refine readToken_plain (by rw [hnext, hstale]) hclose rfl rfl hc ?_ ?_
    · intro hzero
      exact absurd hzero (Nat.succ_ne_zero _)
    -- a dash starts a word only if another character of the word follows
    · rintro rfl
      cases cs with
      | nil => exact absurd rfl hvalue.ne_dash
      | cons d ds => exact ⟨d, ds ++ tail, rfl, hvalue.isPlainChar d (by simp)⟩
  obtain ⟨q, hcolumn, hoctets, hscalar⟩ :=
    plainScalar_value (show 0 < 1 by decide) hrest n (p.past ' ') hvalue.isPlainChar
  rw [htail] at hscalar
  refine ⟨q, ⟨hcolumn, hoctets⟩, ?_⟩
  have hplain : (atValue (p.past ' ') ts (c :: cs ++ tail)).readPlain = _ :=
    readPlain_eq rfl hscalar
  rw [readTokenBefore, hread, hplain]
  exact dropStale_of_fresh rfl fun k hk => by cases hk

/-- The end of the text ends the block. -/
theorem readTokenBefore_end (ts : List (Placed Token)) (hp : p.column = 0) :
    ∃ s, (atName true p ts []).readTokenBefore none = .ok s ∧
      s.tokens = ⟨.streamEnd, p⟩ :: ⟨.blockEnd, p⟩ :: ts := by
  have hstale : (atName true p ts []).toNextToken.dropStale = .ok (atName true p ts []) := rfl
  have hclose : (atName true p ts []).closeBlocks (atName true p ts []).cursor.column =
      atName true p ts [] := closeBlocks_of_le (indent_atName_le true p ts [])
  have hcursor : (atName true p ts []).cursor.rest = [] := rfl
  have hstart : (atName true p ts []).cursor.column = 0 := hp
  have hread : (atName true p ts []).readToken = .ok
      { atName true p ts [] with
        indent := -1, outerIndents := [], keyAllowed := false
        tokens := ⟨.streamEnd, p⟩ :: ⟨.blockEnd, p⟩ :: ts } := by
    rw [readToken]
    simp only [hstale, bind, Except.bind, hclose, hcursor]
    rw [readEnd]
    simp only [hstart, if_true]
    rfl
  refine ⟨{ atName true p ts [] with
    indent := -1, outerIndents := [], keyAllowed := false
    tokens := ⟨.streamEnd, p⟩ :: ⟨.blockEnd, p⟩ :: ts }, ?_, rfl⟩
  rw [readTokenBefore, hread]
  rfl

/-! ### The run -/

/-- A run goes on with what a step leaves, as long as the text has not ended. -/
theorem run_of_readTokenBefore {s t : Scanner} (h : s.readTokenBefore none = .ok t)
    (hend : t.tokens.head?.any (·.value = .streamEnd) = false) (fuel : ℕ) :
    run none (fuel + 1) s = run none fuel t := by
  rw [run, h]
  simp only [hend]
  rfl

/-- A run ends with the token of the end of the text. -/
theorem run_of_streamEnd {s t : Scanner} (h : s.readTokenBefore none = .ok t)
    (hend : t.tokens.head?.any (·.value = .streamEnd) = true) (fuel : ℕ) :
    run none (fuel + 1) s = (t.tokens.reverse, none) := by
  rw [run, h]
  simp only [hend]
  rfl

/-- The lines that are left of a text, with the empty ones behind the last one. -/
def flatRest (n : ℕ) : List Member → List Char
  | [] => []
  | m :: ms => flatText (m :: ms) ++ List.replicate n '\n'

/-- Behind a line come the next lines, or empty ones. -/
theorem flatText_append_eq (n : ℕ) (ms : List Member) :
    flatText ms ++ List.replicate n '\n' =
      List.replicate (if ms = [] then n else 0) '\n' ++ flatRest n ms := by
  cases ms with
  | nil => simp [flatText, flatRest]
  | cons m ms => rfl

/-- The rest of a flat mapping starts a word, or ends. -/
theorem startsWord_flatRest {ms : List Member} (hms : ∀ m ∈ ms, IsMember m) (n : ℕ) :
    StartsWord (flatRest n ms) := by
  cases ms with
  | nil =>
    intro c hc
    cases hc
  | cons m ms =>
    have hname := (hms m (List.mem_cons_self ..)).name
    obtain ⟨c, cs, hcs⟩ := List.exists_cons_of_ne_nil hname.ne_nil
    intro d hd
    rw [flatRest, flatText, List.flatMap_cons, lineText, hcs] at hd
    obtain rfl := Option.some.inj hd
    exact hname.isPlainChar c (by rw [hcs]; exact List.mem_cons_self ..)

/-- **The three steps on a line lead to the start of the next one.** -/
theorem run_line (entered : Bool) (ts : List (Placed Token)) {m : Member} (hm : IsMember m)
    (hp : p.column = 0 ∧ p.octets = 0) (hrest : StartsWord rest) (n fuel : ℕ) :
    ∃ (q : Place) (ts' : List (Placed Token)), (q.column = 0 ∧ q.octets = 0) ∧
      run none (fuel + 3) (atName entered p ts (lineText m ++ (List.replicate n '\n' ++ rest))) =
        run none fuel (atName true q ts' rest) ∧
      ts'.reverse.map (·.value) =
        ts.reverse.map (·.value) ++ entry entered ++ memberTokens m := by
  obtain ⟨q, hq, hvalue⟩ := readTokenBefore_value ((p.pastAll m.1).past ':')
    (colonTokens entered p ts m.1) hm.value hrest n
  refine ⟨q, ⟨.scalar .plain m.2, ((p.pastAll m.1).past ':').past ' '⟩ ::
    colonTokens entered p ts m.1, hq, ?_, ?_⟩
  · rw [lineText, List.append_assoc, List.cons_append, List.cons_append, List.append_assoc,
      List.singleton_append, run_of_readTokenBefore (readTokenBefore_name hp.1 hm.name rfl) rfl,
      run_of_readTokenBefore (readTokenBefore_colon hp.1 hm.name rfl) rfl,
      run_of_readTokenBefore hvalue rfl]
  · cases entered <;> simp [colonTokens, entry, memberTokens]

/-- **The tokens of the lines that are left**, by induction on them; only before the first line no
block has been entered. -/
theorem run_atName (n : ℕ) (ms : List Member) (hms : ∀ m ∈ ms, IsMember m) (entered : Bool)
    (hentered : ms = [] → entered = true) (p : Place) (hp : p.column = 0 ∧ p.octets = 0)
    (ts : List (Placed Token)) (fuel : ℕ) (hfuel : 3 * ms.length < fuel) :
    ∃ tokens, run none fuel (atName entered p ts (flatRest n ms)) = (tokens, none) ∧
      tokens.map (·.value) = ts.reverse.map (·.value) ++ entry entered ++
        ms.flatMap memberTokens ++ [.blockEnd, .streamEnd] := by
  induction ms generalizing entered p ts fuel with
  | nil =>
    obtain rfl := hentered rfl
    obtain ⟨s, hread, htokens⟩ := readTokenBefore_end ts hp.1
    obtain ⟨fuel, rfl⟩ : ∃ k, fuel = k + 1 := ⟨fuel - 1, by omega⟩
    refine ⟨s.tokens.reverse, run_of_streamEnd hread (by rw [htokens]; rfl) fuel, ?_⟩
    rw [htokens]
    simp [entry]
  | cons m ms ih =>
    rw [List.length_cons] at hfuel
    have htail := fun k hk => hms k (List.mem_cons_of_mem m hk)
    obtain ⟨fuel, rfl⟩ : ∃ k, fuel = k + 3 := ⟨fuel - 3, by omega⟩
    obtain ⟨q, ts', hq, hline, hts⟩ := run_line entered ts (hms m (List.mem_cons_self ..)) hp
      (startsWord_flatRest htail n) (if ms = [] then n else 0) fuel
    obtain ⟨tokens, hrun, htokens⟩ := ih htail true (fun _ => rfl) q hq ts' fuel (by omega)
    refine ⟨tokens, ?_, ?_⟩
    · rw [flatRest, flatText, List.flatMap_cons, List.append_assoc, ← flatText,
        flatText_append_eq, hline, hrun]
    · rw [htokens, hts]
      simp [entry]

end Scanner

/-! ### The text as a whole -/

/-- Text that may stand in a document is taken as a whole. -/
theorem takeBlocks_of_isAllowed {cs : List Char} (hcs : ∀ c ∈ cs, isAllowed c = true)
    (block : List Char) (size octets : ℕ) :
    takeBlocks block size octets cs = (block.reverse ++ cs, none) := by
  induction cs generalizing block size octets with
  | nil => rw [takeBlocks, List.append_nil]
  | cons c cs ih =>
    have hc := hcs c (List.mem_cons_self ..)
    have htail := ih fun d hd => hcs d (List.mem_cons_of_mem _ hd)
    rw [takeBlocks]
    simp only [hc, Bool.not_true, Bool.false_eq_true, if_false, htail]
    split_ifs <;> simp

/-- A text without carriage returns and next-line characters has one kind of line feed. -/
theorem unifyBreaks_eq_self {cs : List Char} (hcs : ∀ c ∈ cs, c ≠ '\r' ∧ c ≠ '\u0085') :
    unifyBreaks cs = cs := by
  induction cs with
  | nil => rfl
  | cons c cs ih =>
    obtain ⟨hreturn, hnext⟩ := hcs c (List.mem_cons_self ..)
    rw [unifyBreaks, if_neg hnext, ih fun d hd => hcs d (List.mem_cons_of_mem _ hd)]
    · rintro cs rfl
      exact absurd rfl hreturn
    · rintro rfl
      exact absurd rfl hreturn

/-- The characters of a text of lines are printable ASCII characters and line feeds. -/
theorem toNat_of_mem_flatText {ms : List Member} (hms : ∀ m ∈ ms, IsMember m) {c : Char}
    (hc : c ∈ flatText ms) : c = '\n' ∨ 0x20 ≤ c.toNat ∧ c.toNat ≤ 0x7E := by
  obtain ⟨m, hm, hc⟩ := List.mem_flatMap.1 hc
  obtain ⟨hname, hvalue⟩ := hms m hm
  simp only [lineText, List.mem_append, List.mem_cons, List.not_mem_nil, or_false] at hc
  rcases hc with hc | rfl | rfl | hc | rfl
  · exact Or.inr (toNat_of_isPlainChar (hname.isPlainChar c hc))
  · decide
  · decide
  · exact Or.inr (toNat_of_isPlainChar (hvalue.isPlainChar c hc))
  · decide

/-- A line has more characters than there are steps on it. -/
theorem length_le_length_flatText (ms : List Member) : 3 * ms.length ≤ (flatText ms).length := by
  induction ms with
  | nil => exact le_rfl
  | cons m ms ih =>
    rw [flatText, List.flatMap_cons, ← flatText, lineText]
    simp only [List.length_append, List.length_cons, List.length_nil]
    omega

/-- **The tokens of a text of lines**, whatever empty lines follow them. -/
theorem tokens_flatText {ms : List Member} (hne : ms ≠ []) (hms : ∀ m ∈ ms, IsMember m) (n : ℕ) :
    ∃ ts, tokens (String.ofList (flatText ms ++ List.replicate n '\n')) = (ts, none) ∧
      ts.map (·.value) =
        .mappingStart :: ms.flatMap memberTokens ++ [.blockEnd, .streamEnd] := by
  have hchars : ∀ c ∈ flatText ms ++ List.replicate n '\n',
      c = '\n' ∨ 0x20 ≤ c.toNat ∧ c.toNat ≤ 0x7E := by
    intro c hc
    rcases List.mem_append.1 hc with hc | hc
    · exact toNat_of_mem_flatText hms hc
    · exact Or.inl (List.eq_of_mem_replicate hc)
  have hallowed : ∀ c ∈ flatText ms ++ List.replicate n '\n', isAllowed c = true := by
    intro c hc
    rcases hchars c hc with rfl | hrange
    · decide
    · simp [isAllowed, hrange]
  have hfeeds : ∀ c ∈ flatText ms ++ List.replicate n '\n', c ≠ '\r' ∧ c ≠ '\u0085' := by
    intro c hc
    rcases hchars c hc with rfl | ⟨hlow, hhigh⟩
    · decide
    · constructor
      · rintro rfl
        exact absurd hlow (by decide)
      · rintro rfl
        exact absurd hhigh (by decide)
  have hlength : 3 * ms.length < (flatText ms ++ List.replicate n '\n').length + 1 := by
    have hlines := length_le_length_flatText ms
    rw [List.length_append]
    omega
  obtain ⟨ts, hrun, hts⟩ := Scanner.run_atName n ms hms false (fun h => absurd h hne) {}
    ⟨rfl, rfl⟩ [] _ hlength
  refine ⟨ts, ?_, hts⟩
  obtain ⟨m, ms, rfl⟩ := List.exists_cons_of_ne_nil hne
  rw [tokens, String.toList_ofList, takeBlocks_of_isAllowed hallowed]
  simp only [List.reverse_nil, List.nil_append, unifyBreaks_eq_self hfeeds]
  exact hrun

end Yaml
end CourtDocket
