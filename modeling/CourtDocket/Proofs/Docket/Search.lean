/-
# What a query finds

A query is trimmed and must occur in the text, both in lower case (`matchesQuery_iff`); a tag is
looked for in each of the tags in the same way (`matchesTag_iff`).

| a query | finds |
| --- | --- |
| that occurs in the text literally | the text, if its capital sigmas end words there just where they do in the query alone (`matches_of_occursKeepingSigmas`) |
| that a field of a record answers | the record (`searchText_answersByField`) |
| without a space | only the records of which a field answers it |
| in other ASCII case, as the text may be | the same (`matches_ignoring_asciiCase`) |

The condition of the first line cannot be left out: `ΑΣ` is not found in `ΑΣΑ`, since its sigma
ends a word in the query and none in the text (`not_matches_of_infix`).
-/

import CourtDocket.Proofs.Docket.Panel
import CourtDocket.Proofs.Text.AsciiCase

namespace CourtDocket

open Text

/-! ### Occurrences -/

/-- A text occurs in another just when it is a part of it without gaps. -/
theorem occursIn_iff {needle text : List Char} :
    occursIn needle text = true ↔ needle <:+: text := by
  induction text with
  | nil => rw [occursIn, List.isEmpty_iff, List.infix_nil]
  | cons c cs ih =>
    rw [occursIn, Bool.or_eq_true, List.isPrefixOf_iff_prefix, ih, List.infix_cons_iff]

/-- A text matches a query that is blank, or that is a part of it, both in lower case. -/
theorem matchesQuery_iff {text query : String} : matchesQuery text query = true ↔
    isBlank query = true ∨
      lowercaseChars (trimChars query.toList) <:+: lowercaseChars text.toList := by
  rw [matchesQuery, Bool.or_eq_true, holds, occursIn_iff, trim, String.toList_ofList]

/-- Tags match a query that is blank, or that one of them matches. -/
theorem matchesTag_iff {tags : List String} {query : String} : matchesTag tags query = true ↔
    isBlank query = true ∨ ∃ tag ∈ tags, matchesQuery tag query = true := by
  rw [matchesTag, Bool.or_eq_true, List.any_eq_true]
  cases hblank : isBlank query with
  | true => simp
  | false => simp [matchesQuery, hblank]

/-- **A text occurs in another one with its capital sigmas unchanged**: they end words there just
where they do in the text alone. -/
def OccursKeepingSigmas (needle text : List Char) : Prop :=
  ∃ before after, text = before ++ needle ++ after ∧ KeepsSigmas before.reverse needle after

/-- An occurrence that keeps its sigmas is one in lower case. -/
theorem OccursKeepingSigmas.lowercaseChars {needle text : List Char}
    (h : OccursKeepingSigmas needle text) : lowercaseChars needle <:+: lowercaseChars text := by
  obtain ⟨before, after, rfl, hkeeps⟩ := h
  rw [lowercaseChars_append_append, lowercaseBetween_eq_iff.2 hkeeps]
  exact List.infix_append ..

/-- **What occurs literally is found**, in a text or a tag, unless a capital sigma ends a word in
the one and not in the other.  At the place where the query occurs the lower case of the text is
that of the query exactly on this condition, which a query without a capital sigma meets. -/
theorem matches_of_occursKeepingSigmas (query : String) :
    (∀ text : String, OccursKeepingSigmas (trimChars query.toList) text.toList →
      matchesQuery text query = true) ∧
    (∀ tags : List String, ∀ tag ∈ tags,
      OccursKeepingSigmas (trimChars query.toList) tag.toList → matchesTag tags query = true) ∧
    (∀ before after, ∃ front back,
      lowercaseChars (before ++ trimChars query.toList ++ after) =
        front ++ lowercaseBetween before.reverse (trimChars query.toList) after ++ back ∧
      (lowercaseBetween before.reverse (trimChars query.toList) after =
          lowercaseChars (trimChars query.toList) ↔
        KeepsSigmas before.reverse (trimChars query.toList) after)) ∧
    ('Σ' ∉ trimChars query.toList → ∀ text : String,
      trimChars query.toList <:+: text.toList →
        OccursKeepingSigmas (trimChars query.toList) text.toList) := by
  have hfound : ∀ text : String, OccursKeepingSigmas (trimChars query.toList) text.toList →
      matchesQuery text query = true := fun text h => matchesQuery_iff.2 (.inr h.lowercaseChars)
  refine ⟨hfound, fun tags tag htag h => matchesTag_iff.2 (.inr ⟨tag, htag, hfound tag h⟩),
    fun before after => ⟨_, _, lowercaseChars_append_append .., lowercaseBetween_eq_iff⟩, ?_⟩
  rintro hsigma text ⟨before, after, htext⟩
  exact ⟨before, after, htext.symm, keepsSigmas_of_notMem hsigma _ _⟩

/-- A sigma at the end of a query is found at the end of a word. -/
theorem matches_of_occursKeepingSigmas_wordEnd :
    OccursKeepingSigmas (trimChars " ΟΔΟΣ ".toList) "Η ΟΔΟΣ ΑΒ".toList ∧
      matchesQuery "Η ΟΔΟΣ ΑΒ" " ΟΔΟΣ " = true ∧
      matchesTag ["privacy", "Η ΟΔΟΣ ΑΒ"] " ΟΔΟΣ " = true ∧
      'Σ' ∉ trimChars " ΟΔΟ ".toList ∧ trimChars " ΟΔΟ ".toList <:+: "ΟΔΟΣ".toList ∧
      OccursKeepingSigmas (trimChars " ΟΔΟ ".toList) "ΟΔΟΣ".toList := by
  obtain ⟨hquery, htag, -, -⟩ := matches_of_occursKeepingSigmas " ΟΔΟΣ "
  obtain ⟨-, -, -, hplain⟩ := matches_of_occursKeepingSigmas " ΟΔΟ "
  have hoccurs : OccursKeepingSigmas (trimChars " ΟΔΟΣ ".toList) "Η ΟΔΟΣ ΑΒ".toList :=
    ⟨"Η ".toList, " ΑΒ".toList, by decide, by decide +kernel⟩
  have hsigma : 'Σ' ∉ trimChars " ΟΔΟ ".toList := by decide
  have hinfix : trimChars " ΟΔΟ ".toList <:+: "ΟΔΟΣ".toList := ⟨[], ['Σ'], by decide⟩
  exact ⟨hoccurs, hquery _ hoccurs, htag _ _ (by decide) hoccurs, hsigma, hinfix,
    hplain hsigma _ hinfix⟩

/-- **What occurs literally may be missed**: the sigma of the query ends a word, and in the text a
letter follows it. -/
theorem not_matches_of_infix :
    trimChars "ΑΣ".toList <:+: "ΑΣΑ".toList ∧ matchesQuery "ΑΣΑ" "ΑΣ" = false ∧
      matchesTag ["ΑΣΑ"] "ΑΣ" = false :=
  ⟨⟨[], ['Α'], by decide⟩, by decide +kernel, by decide +kernel⟩

/-! ### The fields of a record -/

/-- What does not hold the separator occurs in one of two texts if it occurs in both joined. -/
theorem infix_append_separator_iff {needle as bs : List Char} {separator : Char}
    (h : separator ∉ needle) :
    needle <:+: as ++ separator :: bs ↔ needle <:+: as ∨ needle <:+: bs := by
  constructor
  · rw [List.infix_append_iff_ne_nil, List.infix_cons_iff]
    rintro (has | (hfront | hbs) | ⟨front, back, -, hback, rfl, -, hfront⟩)
    · exact .inl has
    · cases needle with
      | nil => exact .inl List.nil_infix
      | cons c cs =>
        obtain ⟨rfl, -⟩ := List.cons_prefix_cons.1 hfront
        exact absurd (List.mem_cons_self ..) h
    · exact .inr hbs
    · obtain ⟨c, cs, rfl⟩ := List.exists_cons_of_ne_nil hback
      obtain ⟨rfl, -⟩ := List.cons_prefix_cons.1 hfront
      exact absurd (List.mem_append_right _ (List.mem_cons_self ..)) h
  · rintro (has | hbs)
    · exact List.infix_append_of_infix_left has
    · exact List.infix_append_of_infix_right (List.infix_cons hbs)

/-- A text is a part of several texts with separators between them. -/
theorem infix_intercalate_of_mem {text separator : List Char} {texts : List (List Char)}
    (h : text ∈ texts) : text <:+: separator.intercalate texts := by
  induction texts with
  | nil => cases h
  | cons cs texts ih =>
    cases texts with
    | nil => rw [List.intercalate_singleton, List.mem_singleton.1 h]
    | cons ds texts =>
      rw [List.intercalate_cons_cons, List.append_assoc]
      rcases List.mem_cons.1 h with rfl | h
      · exact List.infix_append_left
      · exact List.infix_append_of_infix_right (List.infix_append_of_infix_right (ih h))

/-- What does not hold the separator occurs in one of the texts if it occurs in all joined. -/
theorem exists_infix_of_infix_intercalate {needle : List Char} {separator : Char}
    {texts : List (List Char)} (hseparator : separator ∉ needle) (hne : texts ≠ [])
    (h : needle <:+: [separator].intercalate texts) : ∃ text ∈ texts, needle <:+: text := by
  induction texts with
  | nil => exact absurd rfl hne
  | cons cs texts ih =>
    cases texts with
    | nil => exact ⟨cs, List.mem_singleton.2 rfl, by rwa [List.intercalate_singleton] at h⟩
    | cons ds texts =>
      rw [List.intercalate_cons_cons, List.append_assoc, List.singleton_append,
        infix_append_separator_iff hseparator] at h
      rcases h with h | h
      · exact ⟨cs, List.mem_cons_self .., h⟩
      · obtain ⟨text, htext, hneedle⟩ := ih (List.cons_ne_nil _ _) h
        exact ⟨text, List.mem_cons_of_mem _ htext, hneedle⟩

/-- **A text answers queries as its fields do**: if one of them answers a query, so does the text;
and a query without a space is answered by the text only if one of the fields answers it. -/
structure AnswersByField (fields : List String) (text : String) : Prop where
  /-- What a field answers the text answers. -/
  of_field : ∀ query, ∀ field ∈ fields, matchesQuery field query = true →
    matchesQuery text query = true
  /-- Without a space nothing is found across the fields. -/
  iff_field : ∀ query, ' ' ∉ trimChars query.toList →
    (matchesQuery text query = true ↔ ∃ field ∈ fields, matchesQuery field query = true)

/-- Fields joined by a space answer as the fields do. -/
theorem answersByField_intercalate {fields : List String} (hne : fields ≠ []) :
    AnswersByField fields (" ".intercalate fields) := by
  have hjoined : lowercaseChars (" ".intercalate fields).toList =
      [' '].intercalate ((fields.map String.toList).map lowercaseChars) := by
    rw [String.toList_intercalate, ← lowercaseChars_intercalate]
    rfl
  have hof : ∀ query, ∀ field ∈ fields, matchesQuery field query = true →
      matchesQuery (" ".intercalate fields) query = true := by
    intro query field hfield hmatches
    rw [matchesQuery_iff, hjoined]
    refine (matchesQuery_iff.1 hmatches).imp_right fun hinfix => hinfix.trans ?_
    exact infix_intercalate_of_mem (List.mem_map_of_mem (List.mem_map_of_mem hfield))
  refine ⟨hof, fun query hspace => ⟨fun hmatches => ?_, fun ⟨field, hfield, hmatches⟩ =>
    hof query field hfield hmatches⟩⟩
  rw [matchesQuery_iff, hjoined] at hmatches
  rcases hmatches with hblank | hinfix
  · obtain ⟨field, hfield⟩ := List.exists_mem_of_ne_nil fields hne
    exact ⟨field, hfield, matchesQuery_iff.2 (.inl hblank)⟩
  · have hsep : ' ' ∉ lowercaseChars (trimChars query.toList) :=
      fun h => hspace (mem_of_space_mem_lowercaseChars h)
    have hjoins : (fields.map String.toList).map lowercaseChars ≠ [] := by simpa using hne
    obtain ⟨text, htext, hneedle⟩ := exists_infix_of_infix_intercalate hsep hjoins hinfix
    rw [List.map_map, List.mem_map] at htext
    obtain ⟨field, hfield, rfl⟩ := htext
    exact ⟨field, hfield, matchesQuery_iff.2 (.inr hneedle)⟩

/-- The fields of a case in which a query looks. -/
def CaseEntry.searchFields (e : CaseEntry) : List String :=
  [e.id, e.title.getD "", e.summary, e.prosecution, e.defendant.getD ""]

/-- The fields of a call for a defence in which a query looks. -/
def OpenDefenceEntry.searchFields (e : OpenDefenceEntry) : List String :=
  e.caseId :: e.prosecution :: e.defendant.getD "" :: e.tags

/-- **A query finds the records of which a field answers it**, and one without a space finds no
others.  So what a tag admits is found by the tag taken as a query. -/
theorem searchText_answersByField :
    (∀ e : CaseEntry, AnswersByField e.searchFields e.searchText) ∧
    ∀ e : OpenDefenceEntry, AnswersByField e.searchFields e.searchText ∧
      ∀ tag, matchesTag e.tags tag = true → matchesQuery e.searchText tag = true := by
  refine ⟨fun e => answersByField_intercalate (List.cons_ne_nil _ _), fun e => ?_⟩
  have hfields : AnswersByField e.searchFields e.searchText :=
    answersByField_intercalate (List.cons_ne_nil _ _)
  refine ⟨hfields, fun tag htag => ?_⟩
  rcases matchesTag_iff.1 htag with hblank | ⟨field, hfield, hmatches⟩
  · exact matchesQuery_iff.2 (.inl hblank)
  · refine hfields.of_field tag field ?_ hmatches
    exact List.mem_cons_of_mem _ (List.mem_cons_of_mem _ (List.mem_cons_of_mem _ hfield))

/-- A call for a defence with a capital sigma at the end of a field. -/
def sigmaCall : OpenDefenceEntry :=
  { caseId := "case-1"
    prosecution := "ΑΣ"
    defendant := none
    defence := none
    scheduledFor := .absent
    filedAt := .absent
    tags := ["data breach", "ΟΔΟΣ"] }

/-- Texts with sigmas at the ends of words, a query that crosses two fields and one that does
not. -/
theorem searchText_answersByField_sigmaCall :
    matchesTag sigmaCall.tags " οδος" = true ∧ matchesQuery sigmaCall.searchText " οδος" = true ∧
      matchesQuery sigmaCall.searchText "data breach" = true ∧
      ' ' ∉ trimChars " ας ".toList ∧
      (matchesQuery sigmaCall.searchText " ας " = true ↔
        ∃ field ∈ sigmaCall.searchFields, matchesQuery field " ας " = true) := by
  obtain ⟨-, hcalls⟩ := searchText_answersByField
  obtain ⟨hfields, htags⟩ := hcalls sigmaCall
  have htag : matchesTag sigmaCall.tags " οδος" = true := by decide +kernel
  have hspace : ' ' ∉ trimChars " ας ".toList := by decide
  exact ⟨htag, htags _ htag, hfields.of_field _ "data breach" (by decide) (by decide +kernel),
    hspace, hfields.iff_field _ hspace⟩

/-! ### The case of ASCII letters -/

/-- A match does not change with the letter case of the first 128 characters. -/
theorem matchesQuery_congr {text text' query query' : String}
    (htext : SameAsciiCase text text') (hquery : SameAsciiCase query query') :
    matchesQuery text query = matchesQuery text' query' := by
  rw [Bool.eq_iff_iff, matchesQuery_iff, matchesQuery_iff, isBlank_congr hquery,
    lowercaseChars_trimChars_congr hquery, lowercaseChars_congr htext]

/-- A match of tags does not change with the letter case of the first 128 characters. -/
theorem matchesTag_congr {tags tags' : List String} {tag tag' : String}
    (htags : List.Forall₂ SameAsciiCase tags tags') (htag : SameAsciiCase tag tag') :
    matchesTag tags tag = matchesTag tags' tag' := by
  have hany : (∃ t ∈ tags, matchesQuery t tag = true) ↔
      ∃ t ∈ tags', matchesQuery t tag' = true := by
    induction htags with
    | nil => simp
    | cons ht _ ih => simp only [List.exists_mem_cons_iff, matchesQuery_congr ht htag, ih]
  rw [Bool.eq_iff_iff, matchesTag_iff, matchesTag_iff, isBlank_congr htag, hany]

/-- A query in another ASCII case lets the same cases through. -/
theorem ScheduleControls.select_congr (c : ScheduleControls) {query : String}
    (hquery : SameAsciiCase query c.query) (es : List CaseEntry) :
    { c with query }.select es = c.select es := by
  simp only [select, matchesQuery_congr rfl hquery]

/-- A query and a tag in another ASCII case let the same calls through. -/
theorem OpenDefenceControls.select_congr (c : OpenDefenceControls) {query tag : String}
    (hquery : SameAsciiCase query c.query) (htag : SameAsciiCase tag c.tag) (now : Int64)
    (es : List OpenDefenceEntry) : { c with query, tag }.select now es = c.select now es := by
  have htags : ∀ tags : List String, matchesTag tags tag = matchesTag tags c.tag :=
    fun tags => matchesTag_congr (List.forall₂_same.2 fun _ _ => rfl) htag
  simp only [select, matchesQuery_congr rfl hquery, htags]

namespace Snapshot

/-- The snapshot under another query of the schedule and another query and tag of the open
defences. -/
def withTexts (s : Snapshot) (query callQuery tag : String) : Snapshot :=
  { s with
    scheduleControls := { s.scheduleControls with query }
    openDefenceControls := { s.openDefenceControls with query := callQuery, tag } }

/-- The docket does not change with the letter case of its queries and its tag. -/
theorem view_withTexts (settings : Settings) (s : Snapshot) {query callQuery tag : String}
    (hquery : SameAsciiCase query s.scheduleControls.query)
    (hcallQuery : SameAsciiCase callQuery s.openDefenceControls.query)
    (htag : SameAsciiCase tag s.openDefenceControls.tag) :
    (s.withTexts query callQuery tag).view settings = s.view settings := by
  have hcases : ∀ b, (s.withTexts query callQuery tag).selectedCases b = s.selectedCases b := by
    intro b
    have hentries : (s.withTexts query callQuery tag).bucketEntries b = s.bucketEntries b := by
      cases b <;> rfl
    rw [selectedCases, hentries]
    exact s.scheduleControls.select_congr hquery _
  have hcalls : (s.withTexts query callQuery tag).selectedCalls = s.selectedCalls :=
    s.openDefenceControls.select_congr hcallQuery htag _ _
  simp only [view, bucketRows, openDefenceRows, hcases, hcalls]
  rfl

end Snapshot

/-- **The case of ASCII letters does not matter**, whatever other characters are around them:
neither in the text and the query, nor in the tags and the tag that is looked for; and the docket
stays the same when it changes in the queries and the tag of the settings. -/
theorem matches_ignoring_asciiCase :
    (∀ text text' query query', SameAsciiCase text text' → SameAsciiCase query query' →
      matchesQuery text query = matchesQuery text' query') ∧
    (∀ tags tags' tag tag', List.Forall₂ SameAsciiCase tags tags' → SameAsciiCase tag tag' →
      matchesTag tags tag = matchesTag tags' tag') ∧
    ∀ (settings : Settings) (s : Snapshot) (query callQuery tag : String),
      SameAsciiCase query s.scheduleControls.query →
      SameAsciiCase callQuery s.openDefenceControls.query →
      SameAsciiCase tag s.openDefenceControls.tag →
        (s.withTexts query callQuery tag).view settings = s.view settings :=
  ⟨fun _ _ _ _ => matchesQuery_congr, fun _ _ _ _ => matchesTag_congr,
    fun settings s _ _ _ => s.view_withTexts settings⟩

-- other letters keep their case
example : SameAsciiCase "aÀΣb" "AÀΣB" ∧ ¬ SameAsciiCase "à" "À" := by decide

/-- A docket under a query and a tag with letters outside ASCII. -/
def mixedCaseDocket : Snapshot :=
  { now := 0
    schedule := { active := [{ id := "case-1", status := .active, summary := "ÀΣb" }] }
    openDefences := [{ caseId := "case-2", tags := ["ÀΣ.b"] }, { caseId := "case-3" }]
    scheduleControls := { query := " àσB" }
    openDefenceControls := { query := "Case", tag := "ÀΣ.B " } }

/-- Letters beyond the first 128 characters, a sigma among them, are left as they are. -/
theorem matches_ignoring_asciiCase_mixedCaseDocket :
    (SameAsciiCase "aΣb" "AΣB" ∧ SameAsciiCase " aσ" " Aσ") ∧
      (matchesQuery "aΣb" " aσ" = matchesQuery "AΣB" " Aσ" ∧ matchesQuery "aΣb" " aσ" = true) ∧
      List.Forall₂ SameAsciiCase ["aΣb", "c"] ["AΣB", "C"] ∧
      matchesTag ["aΣb", "c"] " aσ" = matchesTag ["AΣB", "C"] " Aσ" ∧
      (SameAsciiCase " àσb" mixedCaseDocket.scheduleControls.query ∧
        SameAsciiCase "cASE" mixedCaseDocket.openDefenceControls.query ∧
        SameAsciiCase "ÀΣ.b " mixedCaseDocket.openDefenceControls.tag) ∧
      (mixedCaseDocket.withTexts " àσb" "cASE" "ÀΣ.b ").view {} = mixedCaseDocket.view {} ∧
      ((mixedCaseDocket.view {}).active.length = 1 ∧
        (mixedCaseDocket.view {}).openDefence.length = 1) := by
  obtain ⟨hqueries, htags, hviews⟩ := matches_ignoring_asciiCase
  have htext : SameAsciiCase "aΣb" "AΣB" := by decide
  have hquery : SameAsciiCase " aσ" " Aσ" := by decide
  have hlist : List.Forall₂ SameAsciiCase ["aΣb", "c"] ["AΣB", "C"] :=
    .cons htext (.cons (by decide) .nil)
  have hcontrols : SameAsciiCase " àσb" mixedCaseDocket.scheduleControls.query ∧
      SameAsciiCase "cASE" mixedCaseDocket.openDefenceControls.query ∧
      SameAsciiCase "ÀΣ.b " mixedCaseDocket.openDefenceControls.tag := by decide
  exact ⟨⟨htext, hquery⟩, ⟨hqueries _ _ _ _ htext hquery, by decide +kernel⟩, hlist,
    htags _ _ _ _ hlist hquery, hcontrols,
    hviews {} mixedCaseDocket _ _ _ hcontrols.1 hcontrols.2.1 hcontrols.2.2, by decide +kernel⟩

end CourtDocket
