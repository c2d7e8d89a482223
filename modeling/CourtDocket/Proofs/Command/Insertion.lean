/-
# One option more

An option may be put between arguments that allow it (`AllowsOption`): no `--` stands before it and
no other option waits for its value there.  Then what is read is what was read before with the
entries of the option in between (`Gains`).  Every argument behind the option does the same to both
readings (`Step.gains`), unless it names the option once more; only the flag for verbosity may.
-/

import CourtDocket.Proofs.Command.Arguments
import CourtDocket.Proofs.Control

namespace CourtDocket
namespace Command

variable {scope : Scope} {q t : Standing} {s : String} {args xs ys : List String}
  {res : Arguments × Option (Scope × List String)} {a b : Arguments}
  {es : List (String × String)} {name : String}

/-! ### Entries in between -/

/-- What is read with entries in between. -/
structure Gains (es : List (String × String)) (a b : Arguments) : Prop where
  /-- The argument that is no option. -/
  positional : b.positional = a.positional
  /-- The options. -/
  options : ∃ l₁ l₂, a.options = l₁ ++ l₂ ∧ b.options = l₁ ++ es ++ l₂

/-- Whether entries have no option in common with what was read, the one that may stand more than
once aside. -/
def Apart (es : List (String × String)) (a : Arguments) : Prop :=
  ∀ e ∈ es, e.1 = verboseName ∨ a.has e.1 = false

/-- An option is not there just when no entry has its name. -/
theorem Arguments.has_eq_false_iff : a.has name = false ↔ ∀ e ∈ a.options, e.1 ≠ name := by
  rw [has, decide_eq_false_iff_not, Nat.not_lt, Nat.le_zero, count, List.countP_eq_zero]
  simp only [decide_eq_true_eq, ne_eq]

/-- Entries that keep apart from more arguments keep apart from fewer. -/
theorem Apart.mono (h : Apart es b) (hab : ∃ l, b.options = l ++ a.options) : Apart es a := by
  obtain ⟨l, hl⟩ := hab
  intro e he
  refine (h e he).imp_right fun hhas => ?_
  rw [Arguments.has_eq_false_iff, hl] at hhas
  exact Arguments.has_eq_false_iff.2 fun e he => hhas e (List.mem_append_right l he)

/-- An option that was read is none of the entries. -/
theorem Apart.ne_of_mem {e : String × String} (h : Apart es a) (he : e ∈ a.options)
    (hname : e.1 ≠ verboseName) : ∀ d ∈ es, d.1 ≠ e.1 := by
  intro d hd hde
  rcases h d hd with hd | hd
  · exact hname (hde ▸ hd)
  · exact Arguments.has_eq_false_iff.1 hd e he hde.symm

/-- A name without an entry is not looked up. -/
theorem lookup_eq_none {l : List (String × String)} (h : ∀ e ∈ l, e.1 ≠ name) :
    l.lookup name = none := by
  rw [List.lookup_eq_none_iff]
  intro e he
  exact bne_iff_ne.2 (h e he).symm

namespace Gains

/-- Entries are gained when they are put before all others. -/
theorem prepend_self (a : Arguments) (es : List (String × String)) : Gains es a (a.prepend es) :=
  ⟨rfl, [], a.options, rfl, rfl⟩

/-- Entries that come before all others leave a gain what it is. -/
theorem prepend (h : Gains es a b) (added : List (String × String)) :
    Gains es (a.prepend added) (b.prepend added) := by
  obtain ⟨hpositional, l₁, l₂, ha, hb⟩ := h
  exact ⟨hpositional, added ++ l₁, l₂, by simp [Arguments.prepend, ha],
    by simp [Arguments.prepend, hb]⟩

/-- Each gained entry counts for its own name. -/
theorem count_eq (h : Gains es a b) (name : String) :
    b.count name = es.countP (·.1 = name) + a.count name := by
  obtain ⟨-, l₁, l₂, ha, hb⟩ := h
  simp only [Arguments.count, ha, hb, List.countP_append]
  omega

/-- The other options stand as often as before. -/
theorem count_of_ne (h : Gains es a b) (hname : ∀ e ∈ es, e.1 ≠ name) :
    b.count name = a.count name := by
  have hcount : es.countP (·.1 = name) = 0 := by
    simpa [List.countP_eq_zero] using hname
  rw [h.count_eq, hcount, Nat.zero_add]

/-- An option of another name is there just when it was before. -/
theorem has_eq (h : Gains es a b) (hname : ∀ e ∈ es, e.1 ≠ name) : b.has name = a.has name := by
  rw [Arguments.has, Arguments.has, h.count_of_ne hname]

/-- The values of other options stay. -/
theorem lookup_eq (h : Gains es a b) (hname : ∀ e ∈ es, e.1 ≠ name) :
    b.options.lookup name = a.options.lookup name := by
  obtain ⟨-, l₁, l₂, ha, hb⟩ := h
  rw [ha, hb, List.lookup_append, List.lookup_append, List.lookup_append, lookup_eq_none hname,
    Option.or_none]

/-- An option that did not stand has the value of its entry. -/
theorem lookup_of_has (h : Gains es a b) (hhas : a.has name = false) :
    b.options.lookup name = es.lookup name := by
  obtain ⟨-, l₁, l₂, ha, hb⟩ := h
  have hne := Arguments.has_eq_false_iff.1 hhas
  rw [ha, List.forall_mem_append] at hne
  rw [hb, List.lookup_append, List.lookup_append, lookup_eq_none hne.1, lookup_eq_none hne.2,
    Option.or_none, Option.none_or]

end Gains

/-! ### The same arguments with more entries -/

/-- The flag for verbosity has no value. -/
theorem ne_verboseName_of_find? {accepts : String → Bool}
    (h : (specs scope).find? (·.name = name) = some ⟨name, some accepts⟩) : name ≠ verboseName := by
  rintro rfl
  have hverbose : (specs scope).find? (·.name = verboseName) = some ⟨verboseName, none⟩ := rfl
  cases h.symm.trans hverbose

/-- An argument does the same to a reading with more entries. -/
theorem Step.gains {a₂ : Arguments} (h : Step scope q s t) (hq : q.Lawful scope)
    (hgains : Gains es q.arguments a₂) (hapart : Apart es t.arguments) :
    ∃ b₂, Step scope ⟨a₂, q.waiting⟩ s ⟨b₂, t.waiting⟩ ∧ Gains es t.arguments b₂ := by
  cases h with
  | value hs hadd =>
    obtain ⟨hhas, haccepts, rfl⟩ := Arguments.addValue_eq_ok_iff.1 hadd
    have hne := hapart.ne_of_mem List.mem_cons_self (ne_verboseName_of_find? (hq.waiting _ _ rfl))
    exact ⟨_, .value hs (Arguments.addValue_eq_ok_iff.2
      ⟨(hgains.has_eq hne).trans hhas, haccepts, rfl⟩), hgains.prepend _⟩
  | flag hs hspec hadd =>
    obtain ⟨hhas, rfl⟩ := Arguments.addFlag_eq_ok_iff.1 hadd
    refine ⟨_, .flag hs hspec (Arguments.addFlag_eq_ok_iff.2 ⟨?_, rfl⟩), hgains.prepend _⟩
    -- only the flag for verbosity may stand among the entries, and it may stand once more
    rw [or_iff_not_imp_left] at hhas ⊢
    intro hname
    exact (hgains.has_eq (hapart.ne_of_mem List.mem_cons_self hname)).trans (hhas hname)
  | attached hs hspec hadd =>
    obtain ⟨hhas, haccepts, rfl⟩ := Arguments.addValue_eq_ok_iff.1 hadd
    have hne := hapart.ne_of_mem List.mem_cons_self (ne_verboseName_of_find? hspec)
    exact ⟨_, .attached hs hspec (Arguments.addValue_eq_ok_iff.2
      ⟨(hgains.has_eq hne).trans hhas, haccepts, rfl⟩), hgains.prepend _⟩
  | bare hs hspec => exact ⟨a₂, .bare hs hspec, hgains⟩
  | cluster hc hs hadd =>
    obtain ⟨hv, rfl⟩ := Arguments.addCluster_eq_ok_iff.1 hadd
    exact ⟨_, .cluster hc hs (Arguments.addCluster_eq_ok_iff.2 ⟨hv, rfl⟩), hgains.prepend _⟩
  | positional hscope hs hadd =>
    obtain ⟨hrender, hnone, hs', rfl⟩ := Arguments.addPositional_eq_ok_iff.1 hadd
    exact ⟨_, .positional hscope hs (Arguments.addPositional_eq_ok_iff.2
      ⟨hrender, hgains.positional.trans hnone, hs', rfl⟩), ⟨rfl, hgains.options⟩⟩

/-- Positional arguments are added behind a gain as they are without it. -/
theorem Gains.foldlM {rest : List String} {a₂ : Arguments} (hgains : Gains es a a₂)
    (h : rest.foldlM (Arguments.addPositional scope) a = .ok b) :
    ∃ b₂, rest.foldlM (Arguments.addPositional scope) a₂ = .ok b₂ ∧ Gains es b b₂ := by
  induction rest generalizing a a₂ with
  | nil =>
    cases h
    exact ⟨a₂, rfl, hgains⟩
  | cons s rest ih =>
    obtain ⟨c, hc, hrest⟩ := Json.bind_eq_ok_iff.1 h
    obtain ⟨hrender, hnone, hs, rfl⟩ := Arguments.addPositional_eq_ok_iff.1 hc
    have hadd : a₂.addPositional scope s = .ok { a₂ with positional := some s } :=
      Arguments.addPositional_eq_ok_iff.2 ⟨hrender, hgains.positional.trans hnone, hs, rfl⟩
    have hgains' : Gains es { a with positional := some s } { a₂ with positional := some s } :=
      ⟨rfl, hgains.options⟩
    obtain ⟨b₂, hb₂, hgains'⟩ := ih hgains' hrest
    exact ⟨b₂, Json.bind_eq_ok_iff.2 ⟨_, hadd, hb₂⟩, hgains'⟩

/-- All arguments do the same to a reading with more entries. -/
theorem Reads.gains {a₂ : Arguments} (h : Reads scope q args res) (hq : q.Lawful scope)
    (hgains : Gains es q.arguments a₂) (hapart : Apart es res.1) :
    ∃ b₂, Reads scope ⟨a₂, q.waiting⟩ args (b₂, res.2) ∧ Gains es res.1 b₂ := by
  induction h generalizing a₂ with
  | done => exact ⟨a₂, .done, hgains⟩
  | ended hadd =>
    obtain ⟨b₂, hb₂, hgains'⟩ := hgains.foldlM hadd
    exact ⟨b₂, .ended hb₂, hgains'⟩
  | command hscope hs hcommand => exact ⟨a₂, .command hscope hs hcommand, hgains⟩
  | step hstep hrest ih =>
    have hlawful := hstep.lawful hq
    obtain ⟨l, hl, -⟩ := hrest.exists_entries hlawful
    obtain ⟨b, hb, hgainsb⟩ := hstep.gains hq hgains (hapart.mono ⟨l, hl⟩)
    obtain ⟨b₂, hb₂, hgains'⟩ := ih hlawful hgainsb hapart
    exact ⟨b₂, .step hb hb₂, hgains'⟩

/-! ### Where an option may stand -/

/-- The names of the options that have a value. -/
def valueNames : List String :=
  ((specs .render).filter (·.accepts.isSome)).map (·.name)

/-- Whether an option may stand behind some arguments. -/
structure AllowsOption (xs : List String) : Prop where
  /-- The options have not come to an end. -/
  continues : "--" ∉ xs
  /-- None of them waits for its value. -/
  settled : ∀ name ∈ valueNames, xs.getLast? ≠ some ("--" ++ name)

/-- An option may stand behind a last part of arguments if it may stand behind all of them. -/
theorem AllowsOption.of_suffix {us : List String} (h : AllowsOption xs) (hus : us <:+ xs) :
    AllowsOption us where
  continues hmem := h.continues (hus.subset hmem)
  settled name hname hlast := by
    obtain ⟨l, rfl⟩ := hus
    refine h.settled name hname ?_
    rw [List.getLast?_append, hlast, Option.some_or]

/-- An option without its value has nothing but its name. -/
theorem NamesOption.eq_of_bare (h : NamesOption s name none) : s = "--" ++ name := by
  obtain ⟨cs, -, hs, hsplit⟩ := h
  rw [splitOption, Prod.mk.injEq] at hsplit
  obtain ⟨hname, hattached⟩ := hsplit
  cases hdrop : cs.dropWhile (· ≠ '=') with
  | nil =>
    have htake := List.takeWhile_append_dropWhile (p := (· ≠ '=')) (l := cs)
    rw [hdrop, List.append_nil] at htake
    rw [← String.toList_inj, hs, ← hname, htake]
    simp
  | cons c rest =>
    rw [hdrop] at hattached
    cases hattached

/-- A name that is found among the options that take a value is in the list of these. -/
theorem mem_valueNames {accepts : String → Bool}
    (h : (specs scope).find? (·.name = name) = some ⟨name, some accepts⟩) : name ∈ valueNames := by
  have hall : ∀ o ∈ specs scope, o.accepts.isSome → o.name ∈ valueNames := by
    cases scope <;> decide
  exact hall _ (List.mem_of_find?_eq_some h) rfl

/-- Where an option may stand, none waits for its value. -/
theorem Arrives.waiting_eq_none (h : Arrives scope q xs t) (hplace : AllowsOption xs)
    (hq : xs = [] → q.waiting = none) : t.waiting = none := by
  -- what waits in between has its value from the next argument, so the last one decides
  induction h with
  | refl => exact hq rfl
  | @step q t u s xs hstep hrest ih =>
    cases xs with
    | nil =>
      cases hrest
      cases hstep with
      | bare hs hspec =>
        obtain rfl := hs.eq_of_bare
        exact absurd rfl (hplace.settled _ (mem_valueNames hspec))
      | _ => rfl
    | cons s' xs => exact ih (hplace.of_suffix (List.suffix_cons s _)) nofun

/-- Whether an argument of a scope does nothing but to add entries. -/
def Adds (scope : Scope) (x : String) (es : List (String × String)) : Prop :=
  ∀ a, Apart es a → Step scope ⟨a, none⟩ x ⟨a.prepend es, none⟩

/-- A name and the value behind an equals sign are told apart at the first such sign. -/
theorem splitOption_attached {text : String} (hname : '=' ∉ name.toList) :
    splitOption (name.toList ++ '=' :: text.toList) = (name, some text) := by
  have hne : ∀ c ∈ name.toList, decide (c ≠ '=') = true := by
    intro c hc
    exact decide_eq_true fun h => hname (h ▸ hc)
  rw [splitOption, List.takeWhile_append_of_pos hne, List.dropWhile_append_of_pos hne]
  simp

/-- An option with its value does nothing but to add its entry. -/
theorem adds_attached {text : String} {accepts : String → Bool} (hname : '=' ∉ name.toList)
    (hspec : (specs scope).find? (·.name = name) = some ⟨name, some accepts⟩)
    (haccepts : accepts text = true) : Adds scope ("--" ++ name ++ "=" ++ text) [(name, text)] := by
  intro a hapart
  have hnames : NamesOption ("--" ++ name ++ "=" ++ text) name (some text) :=
    ⟨name.toList ++ '=' :: text.toList, by simp, by simp, splitOption_attached hname⟩
  have hhas : a.has name = false :=
    (hapart _ List.mem_cons_self).resolve_left (ne_verboseName_of_find? hspec)
  exact .attached hnames hspec (Arguments.addValue_eq_ok_iff.2 ⟨hhas, haccepts, rfl⟩)

/-- An option without a value did not stand. -/
theorem has_eq_false_of_value? {α : Type} {p : Parameter α}
    (ha : ∀ e ∈ a.options, IsEntry scope e)
    (hspec : (specs scope).find? (·.name = p.name) = some p.spec) (hvalue : a.value? p = none) :
    a.has p.name = false := by
  cases hlookup : a.options.lookup p.name with
  | none =>
    rw [List.lookup_eq_none_iff] at hlookup
    exact Arguments.has_eq_false_iff.2 fun e he => (bne_iff_ne.1 (hlookup e he)).symm
  | some text =>
    obtain ⟨accepts, hfind, haccepts⟩ := ha _ (mem_of_lookup hlookup)
    cases hspec.symm.trans hfind
    have hread : (p.read? text).isSome = true := haccepts _ rfl
    rw [Arguments.value?, hlookup, Option.bind_some] at hvalue
    rw [hvalue] at hread
    cases hread

/-- An option that is put in where one may stand. -/
theorem Arrives.insert {x : String} (h : Arrives scope {} xs t) (hplace : AllowsOption xs)
    (hreads : Reads scope t ys res) (hx : Adds scope x es) (hapart : Apart es res.1) :
    ∃ b, Reads scope t (x :: ys) (b, res.2) ∧ Gains es res.1 b := by
  obtain ⟨a, waiting⟩ := t
  obtain rfl : waiting = none := h.waiting_eq_none hplace fun _ => rfl
  have hlawful := h.lawful Standing.lawful_empty
  obtain ⟨l, hl, -⟩ := hreads.exists_entries hlawful
  obtain ⟨b, hb, hgains⟩ := hreads.gains hlawful (.prepend_self a es) hapart
  exact ⟨b, .step (hx a (hapart.mono ⟨l, hl⟩)) hb, hgains⟩

/-! ### The two sides of the name of a command -/

/-- Whether some arguments name a command. -/
def NamesCommand (xs : List String) : Prop :=
  ∃ before c rest, Reads .program {} xs (before, some (c, rest))

variable {before behind : Arguments} {c : Scope} {ys' : List String}

/-- Whether other arguments behind `xs` add entries to what is read there. -/
def Edits (es : List (String × String)) (xs ys ys' : List String) : Prop :=
  ∀ scope us t res, us <:+ xs → Arrives scope {} us t → Reads scope t ys res →
    ∃ b, Reads scope t ys' (b, res.2) ∧ Gains es res.1 b

/-- Other arguments that add entries add them on one side of the name of the command. -/
theorem ReadAs.edit (h : ReadAs (xs ++ ys) before c behind) (hxs : "--" ∉ xs)
    (hedits : Edits es xs ys ys') :
    ∃ before' behind', ReadAs (xs ++ ys') before' c behind' ∧
      (Gains es before before' ∧ behind' = behind ∨
        before' = before ∧ Gains es behind behind') := by
  obtain ⟨t, rest, harrives, hbefore, hbehind⟩ | ⟨us, t, hus, hbefore, harrives, hbehind⟩ :=
    h.split hxs
  · obtain ⟨before', hb, hgains⟩ := hedits _ xs t _ List.suffix_rfl harrives hbefore
    exact ⟨before', behind, ⟨rest, harrives.reads_append.2 hb, hbehind⟩, .inl ⟨hgains, rfl⟩⟩
  · obtain ⟨behind', hb, hgains⟩ := hedits _ us t _ hus harrives hbehind
    exact ⟨before, behind', ⟨us ++ ys', hbefore ys', harrives.reads_append.2 hb⟩,
      .inr ⟨rfl, hgains⟩⟩

/-- An option behind the name of the command adds its entry to what stands there. -/
theorem ReadAs.insert_behind {x : String} (h : ReadAs (xs ++ ys) before c behind)
    (hnames : NamesCommand xs) (hplace : AllowsOption xs) (hx : Adds c x es)
    (hapart : Apart es behind) :
    ∃ behind', ReadAs (xs ++ x :: ys) before c behind' ∧ Gains es behind behind' := by
  obtain ⟨t, rest, harrives, -, -⟩ | ⟨us, t, hus, hbefore, harrives, hbehind⟩ :=
    h.split hplace.continues
  · obtain ⟨_, _, _, hreads⟩ := hnames
    cases harrives.snd_eq_none hreads
  · obtain ⟨behind', hb, hgains⟩ :=
      harrives.insert (hplace.of_suffix hus) hbehind hx hapart
    exact ⟨behind', ⟨us ++ x :: ys, hbefore _, harrives.reads_append.2 hb⟩, hgains⟩

end Command
end CourtDocket
