/-
# Reading arguments step by step

What the reading of arguments accepts is said as a relation (`Reads`): one argument after the other
leads from one place of the reading to the next (`Step`), up to the end, to `--` or to the name of
a command.  `reads_iff` says that the relation is the function.

A reading is cut at any argument that is not behind `--` (`Reads.split`).  What was read is lawful
at every place: each entry belongs to an option of the scope, which accepts its value
(`Standing.Lawful`).  A command line that asks for something has two readings, one for each side of
the name of the command (`ReadAs`, `Request.parse_eq_ok_iff`).
-/

import CourtDocket.Command.Request
import CourtDocket.Proofs.Json.Reader

namespace CourtDocket
namespace Command

/-- A place in the reading of arguments. -/
structure Standing where
  /-- What was read. -/
  arguments : Arguments := {}
  /-- The option that waits for its value. -/
  waiting : Option (String × (String → Bool)) := none

/-- Whether an argument is no option: it starts with no dash, or is a single one. -/
def IsPlain (s : String) : Prop :=
  ∀ c cs, s.toList ≠ '-' :: c :: cs

/-- Whether an argument gives the name of an option, and perhaps a value behind an equals sign. -/
def NamesOption (s name : String) (attached : Option String) : Prop :=
  ∃ cs, cs ≠ [] ∧ s.toList = '-' :: '-' :: cs ∧ splitOption cs = (name, attached)

/-! ### One argument, by its shape -/

section Shapes

variable {scope : Scope} {specs : List OptionSpec} {a : Arguments} {s : String}
  {rest : List String}

/-- The shapes of an argument. -/
theorem argument_cases (s : String) :
    s = "--" ∨ (∃ name attached, NamesOption s name attached) ∨
      (∃ c cs, c ≠ '-' ∧ s.toList = '-' :: c :: cs) ∨ IsPlain s := by
  by_cases hplain : IsPlain s
  · exact .inr (.inr (.inr hplain))
  · simp only [IsPlain, not_forall, not_not] at hplain
    obtain ⟨c, cs, hs⟩ := hplain
    by_cases hc : c = '-'
    · subst hc
      cases cs with
      | nil => exact .inl (String.toList_inj.1 hs)
      | cons d ds => exact .inr (.inl ⟨_, _, d :: ds, nofun, hs, rfl⟩)
    · exact .inr (.inr (.inl ⟨c, cs, hc, hs⟩))

/-- An argument that may be a value is the value that is awaited. -/
theorem readArguments_awaited {name : String} {accepts : String → Bool} (hs : IsPlain s) :
    readArguments scope specs a (some (name, accepts)) (s :: rest) =
      a.addValue name accepts s >>= fun b => readArguments scope specs b none rest :=
  readArguments.eq_3 _ _ _ _ _ _ _ hs

/-- An argument that looks like an option is not taken for the value that is awaited. -/
theorem readArguments_unawaited {x : String × (String → Bool)} {c : Char} {cs : List Char}
    (hs : s.toList = '-' :: c :: cs) :
    readArguments scope specs a (some x) (s :: rest) = .error .usage :=
  readArguments.eq_2 _ _ _ _ _ _ _ _ hs

/-- Behind the two dashes every argument is positional. -/
theorem readArguments_end :
    readArguments scope specs a none ("--" :: rest) =
      rest.foldlM (Arguments.addPositional scope) a >>= fun b => pure (b, none) :=
  readArguments.eq_4 _ _ _ _ _ rfl

/-- A name is looked up among the options of the scope, but for `--help` and `--version`, which end
the reading. -/
theorem readArguments_option {name : String} {attached : Option String} :
    NamesOption s name attached → readArguments scope specs a none (s :: rest) =
      if name = "help" && attached.isNone then .error .help
      else if name = "version" && attached.isNone && scope = .program then .error .version
      else
        match specs.find? (·.name = name), attached with
        | none, _ => .error .usage
        | some ⟨_, none⟩, some _ => .error .usage
        | some ⟨_, none⟩, none =>
          a.addFlag name >>= fun b => readArguments scope specs b none rest
        | some ⟨_, some accepts⟩, some value =>
          a.addValue name accepts value >>= fun b => readArguments scope specs b none rest
        | some ⟨_, some accepts⟩, none =>
          readArguments scope specs a (some (name, accepts)) rest := by
  rintro ⟨cs, hcs, hs, hsplit⟩
  have heq := readArguments.eq_5 scope specs a s rest cs hcs hs
  rw [hsplit] at heq
  exact heq

/-- Letters behind a single dash are flags, one after the other. -/
theorem readArguments_cluster {c : Char} {cs : List Char} (hc : c ≠ '-')
    (hs : s.toList = '-' :: c :: cs) :
    readArguments scope specs a none (s :: rest) =
      a.addCluster scope (c :: cs) >>= fun b => readArguments scope specs b none rest :=
  readArguments.eq_6 _ _ _ _ _ _ _ (fun h _ => hc h) hc hs

/-- A plain argument is the name of a command for the program, and positional for a command. -/
theorem readArguments_plain (hs : IsPlain s) :
    readArguments scope specs a none (s :: rest) =
      if scope = .program then
        match command? s with
        | some command => .ok (a, some (command, rest))
        | none => .error (if s = "help" then helpOn rest else .usage)
      else a.addPositional scope s >>= fun b => readArguments scope specs b none rest :=
  readArguments.eq_7 _ _ _ _ _ (fun h => hs _ _ h) (fun _ h => hs _ _ h) hs

end Shapes

/-! ### The relation -/

/-- What an argument of a scope does to the reading. -/
inductive Step (scope : Scope) : Standing → String → Standing → Prop
  /-- It is the value of an option that waits for it. -/
  | value {a b : Arguments} {s name : String} {accepts : String → Bool} (hs : IsPlain s)
      (hadd : a.addValue name accepts s = .ok b) : Step scope ⟨a, some (name, accepts)⟩ s ⟨b, none⟩
  /-- It is a flag. -/
  | flag {a b : Arguments} {s name : String} (hs : NamesOption s name none)
      (hspec : (specs scope).find? (·.name = name) = some ⟨name, none⟩)
      (hadd : a.addFlag name = .ok b) : Step scope ⟨a, none⟩ s ⟨b, none⟩
  /-- It is an option with its value. -/
  | attached {a b : Arguments} {s name text : String} {accepts : String → Bool}
      (hs : NamesOption s name (some text))
      (hspec : (specs scope).find? (·.name = name) = some ⟨name, some accepts⟩)
      (hadd : a.addValue name accepts text = .ok b) : Step scope ⟨a, none⟩ s ⟨b, none⟩
  /-- It is an option without its value. -/
  | bare {a : Arguments} {s name : String} {accepts : String → Bool} (hs : NamesOption s name none)
      (hspec : (specs scope).find? (·.name = name) = some ⟨name, some accepts⟩) :
      Step scope ⟨a, none⟩ s ⟨a, some (name, accepts)⟩
  /-- It is a cluster of flags. -/
  | cluster {a b : Arguments} {s : String} {c : Char} {cs : List Char} (hc : c ≠ '-')
      (hs : s.toList = '-' :: c :: cs) (hadd : a.addCluster scope (c :: cs) = .ok b) :
      Step scope ⟨a, none⟩ s ⟨b, none⟩
  /-- It is no option. -/
  | positional {a b : Arguments} {s : String} (hscope : scope ≠ .program) (hs : IsPlain s)
      (hadd : a.addPositional scope s = .ok b) : Step scope ⟨a, none⟩ s ⟨b, none⟩

/-- What is read of the arguments of a scope, and the command that follows with its arguments. -/
inductive Reads (scope : Scope) :
    Standing → List String → Arguments × Option (Scope × List String) → Prop
  /-- There are no more arguments. -/
  | done {a : Arguments} : Reads scope ⟨a, none⟩ [] (a, none)
  /-- The options have an end, and what follows is none. -/
  | ended {a b : Arguments} {rest : List String}
      (hadd : rest.foldlM (Arguments.addPositional scope) a = .ok b) :
      Reads scope ⟨a, none⟩ ("--" :: rest) (b, none)
  /-- The name of a command follows. -/
  | command {a : Arguments} {s : String} {c : Scope} {rest : List String}
      (hscope : scope = .program) (hs : IsPlain s) (hcommand : command? s = some c) :
      Reads scope ⟨a, none⟩ (s :: rest) (a, some (c, rest))
  /-- An argument of the scope follows. -/
  | step {q t : Standing} {s : String} {rest : List String}
      {res : Arguments × Option (Scope × List String)} (hstep : Step scope q s t)
      (hrest : Reads scope t rest res) : Reads scope q (s :: rest) res

variable {scope : Scope} {q t : Standing} {s : String} {args rest : List String}
  {res : Arguments × Option (Scope × List String)}

/-- An option that is found by a name has the name. -/
theorem find?_name {name : String} {o : OptionSpec}
    (h : (specs scope).find? (·.name = name) = some o) : o.name = name := by
  simpa using List.find?_some h

/-- The names of options are none of those that end the reading. -/
theorem name_ne_of_find? {name : String} {o : OptionSpec}
    (h : (specs scope).find? (·.name = name) = some o) : name ≠ "help" ∧ name ≠ "version" := by
  have hmem : name ∈ (specs scope).map OptionSpec.name :=
    find?_name h ▸ List.mem_map_of_mem (List.mem_of_find?_eq_some h)
  constructor <;> rintro rfl <;> revert hmem <;> cases scope <;> decide

/-- A step is one argument of the reading. -/
theorem Step.readArguments_cons (h : Step scope q s t) (rest : List String) :
    readArguments scope (specs scope) q.arguments q.waiting (s :: rest) =
      readArguments scope (specs scope) t.arguments t.waiting rest := by
  cases h with
  | value hs hadd =>
    rw [readArguments_awaited hs, hadd]
    rfl
  | flag hs hspec hadd =>
    obtain ⟨hhelp, hversion⟩ := name_ne_of_find? hspec
    rw [readArguments_option hs]
    simp [hhelp, hversion, hspec, hadd, bind, Except.bind]
  | attached hs hspec hadd =>
    rw [readArguments_option hs]
    simp [hspec, hadd, bind, Except.bind]
  | bare hs hspec =>
    obtain ⟨hhelp, hversion⟩ := name_ne_of_find? hspec
    rw [readArguments_option hs]
    simp [hhelp, hversion, hspec]
  | cluster hc hs hadd =>
    rw [readArguments_cluster hc hs, hadd]
    rfl
  | positional hscope hs hadd =>
    rw [readArguments_plain hs, if_neg hscope, hadd]
    rfl

section FirstArgument

variable {a : Arguments} {name : String}

/-- An argument that is read where an option waits for its value is the value. -/
theorem exists_step_of_awaited {accepts : String → Bool}
    (h : readArguments scope (specs scope) a (some (name, accepts)) (s :: rest) = .ok res) :
    ∃ t, Step scope ⟨a, some (name, accepts)⟩ s t ∧
      readArguments scope (specs scope) t.arguments t.waiting rest = .ok res := by
  by_cases hs : IsPlain s
  · rw [readArguments_awaited hs, Json.bind_eq_ok_iff] at h
    obtain ⟨b, hadd, hrest⟩ := h
    exact ⟨⟨b, none⟩, .value hs hadd, hrest⟩
  · simp only [IsPlain, not_forall, not_not] at hs
    obtain ⟨c, cs, hs⟩ := hs
    rw [readArguments_unawaited hs] at h
    cases h

/-- An option that is read is one of the scope: neither help nor the version is a result. -/
theorem exists_step_of_namesOption {attached : Option String} (hs : NamesOption s name attached)
    (h : readArguments scope (specs scope) a none (s :: rest) = .ok res) :
    ∃ t, Step scope ⟨a, none⟩ s t ∧
      readArguments scope (specs scope) t.arguments t.waiting rest = .ok res := by
  rw [readArguments_option hs] at h
  split_ifs at h
  cases hspec : (specs scope).find? (·.name = name) with
  | none =>
    rw [hspec] at h
    cases h
  | some o =>
    obtain ⟨o, accepts⟩ := o
    obtain rfl : o = name := find?_name hspec
    rw [hspec] at h
    cases accepts with
    | none =>
      cases attached with
      | none =>
        obtain ⟨b, hadd, hrest⟩ := Json.bind_eq_ok_iff.1 h
        exact ⟨⟨b, none⟩, .flag hs hspec hadd, hrest⟩
      | some text => cases h
    | some accepts =>
      cases attached with
      | none => exact ⟨_, .bare hs hspec, h⟩
      | some text =>
        obtain ⟨b, hadd, hrest⟩ := Json.bind_eq_ok_iff.1 h
        exact ⟨⟨b, none⟩, .attached hs hspec hadd, hrest⟩

/-- An argument that is no option is the name of a command, where the program is read, and else
belongs to the scope. -/
theorem command_or_exists_step_of_isPlain (hs : IsPlain s)
    (h : readArguments scope (specs scope) a none (s :: rest) = .ok res) :
    (∃ c, scope = .program ∧ command? s = some c ∧ (a, some (c, rest)) = res) ∨
      ∃ t, Step scope ⟨a, none⟩ s t ∧
        readArguments scope (specs scope) t.arguments t.waiting rest = .ok res := by
  rw [readArguments_plain hs] at h
  by_cases hscope : scope = .program
  · rw [if_pos hscope] at h
    cases hcommand : command? s with
    | none =>
      rw [hcommand] at h
      cases h
    | some c =>
      rw [hcommand] at h
      exact .inl ⟨c, hscope, rfl, Except.ok.inj h⟩
  · rw [if_neg hscope] at h
    obtain ⟨b, hadd, hrest⟩ := Json.bind_eq_ok_iff.1 h
    exact .inr ⟨⟨b, none⟩, .positional hscope hs hadd, hrest⟩

/-- The first argument of a reading that comes to an end. -/
theorem reads_cons {waiting : Option (String × (String → Bool))}
    (ih : ∀ {b : Arguments} {waiting' : Option (String × (String → Bool))},
      readArguments scope (specs scope) b waiting' rest = .ok res →
        Reads scope ⟨b, waiting'⟩ rest res)
    (h : readArguments scope (specs scope) a waiting (s :: rest) = .ok res) :
    Reads scope ⟨a, waiting⟩ (s :: rest) res := by
  cases waiting with
  | some x =>
    obtain ⟨t, hstep, hrest⟩ := exists_step_of_awaited h
    exact .step hstep (ih hrest)
  | none =>
    rcases argument_cases s with rfl | ⟨name, attached, hs⟩ | ⟨c, cs, hc, hs⟩ | hs
    · rw [readArguments_end, Json.bind_eq_ok_iff] at h
      obtain ⟨b, hadd, hres⟩ := h
      cases hres
      exact .ended hadd
    · obtain ⟨t, hstep, hrest⟩ := exists_step_of_namesOption hs h
      exact .step hstep (ih hrest)
    · rw [readArguments_cluster hc hs, Json.bind_eq_ok_iff] at h
      obtain ⟨b, hadd, hrest⟩ := h
      exact .step (.cluster hc hs hadd) (ih hrest)
    · rcases command_or_exists_step_of_isPlain hs h with
        ⟨c, hscope, hcommand, rfl⟩ | ⟨t, hstep, hrest⟩
      · exact .command hscope hs hcommand
      · exact .step hstep (ih hrest)

end FirstArgument

/-- **The relation is the function.** -/
theorem reads_iff :
    Reads scope q args res ↔
      readArguments scope (specs scope) q.arguments q.waiting args = .ok res := by
  constructor
  · intro h
    induction h with
    | done => rfl
    | ended hadd =>
      rw [readArguments_end, hadd]
      rfl
    | command hscope hs hcommand => rw [readArguments_plain hs, if_pos hscope, hcommand]
    | step hstep _ ih => rw [hstep.readArguments_cons, ih]
  · obtain ⟨a, waiting⟩ := q
    intro h
    induction args generalizing a waiting with
    | nil =>
      cases waiting with
      | none =>
        cases h
        exact .done
      | some x => cases h
    | cons s rest ih => exact reads_cons (fun h => ih _ _ h) h

/-! ### Cutting a reading in two -/

/-- Where some arguments lead when they do not end the reading. -/
inductive Arrives (scope : Scope) : Standing → List String → Standing → Prop
  /-- There are none. -/
  | refl {q : Standing} : Arrives scope q [] q
  /-- There is one more. -/
  | step {q t u : Standing} {s : String} {xs : List String} (hstep : Step scope q s t)
      (hrest : Arrives scope t xs u) : Arrives scope q (s :: xs) u

variable {xs ys : List String}

/-- Arguments that lead to a standing can be read first, and the others from there. -/
theorem Arrives.readArguments_append (h : Arrives scope q xs t) (ys : List String) :
    readArguments scope (specs scope) q.arguments q.waiting (xs ++ ys) =
      readArguments scope (specs scope) t.arguments t.waiting ys := by
  induction h with
  | refl => rfl
  | step hstep _ ih => rw [List.cons_append, hstep.readArguments_cons, ih]

/-- What is read from a standing is what is read from where its first arguments lead. -/
theorem Arrives.reads_append (h : Arrives scope q xs t) :
    Reads scope q (xs ++ ys) res ↔ Reads scope t ys res := by
  rw [reads_iff, reads_iff, h.readArguments_append]

/-- Arguments that lead somewhere name no command. -/
theorem Arrives.snd_eq_none (h : Arrives scope q xs t) (hreads : Reads scope q xs res) :
    res.2 = none := by
  rw [← xs.append_nil, h.reads_append] at hreads
  cases hreads
  rfl

/-- Only the program has commands. -/
theorem Reads.snd_eq_none (h : Reads scope q args res) (hscope : scope ≠ .program) :
    res.2 = none := by
  induction h with
  | done => rfl
  | ended _ => rfl
  | command hprogram => exact absurd hprogram hscope
  | step _ _ ih => exact ih

/-- A reading is cut in two: its first arguments lead to where the others are read, or a command is
named among them, and then the others are arguments of this command. -/
theorem Reads.split (h : Reads scope q (xs ++ ys) res) (hxs : "--" ∉ xs) :
    (∃ t, Arrives scope q xs t ∧ Reads scope t ys res) ∨
      ∃ c us, us <:+ xs ∧ res.2 = some (c, us ++ ys) ∧
        ∀ zs, Reads scope q (xs ++ zs) (res.1, some (c, us ++ zs)) := by
  -- the induction is on the first arguments; the place moves with each of them
  induction xs generalizing q with
  | nil => exact .inl ⟨q, .refl, h⟩
  | cons s xs ih =>
    cases h with
    | ended _ => exact absurd List.mem_cons_self hxs
    | command hscope hs hcommand =>
      exact .inr ⟨_, xs, List.suffix_cons s xs, rfl, fun zs => .command hscope hs hcommand⟩
    | step hstep hrest =>
      obtain ⟨t, harrives, ht⟩ | ⟨c, us, hus, hres, hzs⟩ :=
        ih hrest fun hmem => hxs (List.mem_cons_of_mem s hmem)
      · exact .inl ⟨t, .step hstep harrives, ht⟩
      · exact .inr ⟨c, us, hus.trans (List.suffix_cons s xs), hres, fun zs => .step hstep (hzs zs)⟩

/-! ### What is added to what was read -/

section Entries

variable {a b : Arguments} {name : String} {accepts : String → Bool}

/-- The arguments with entries before all others. -/
def Arguments.prepend (a : Arguments) (es : List (String × String)) : Arguments :=
  { a with options := es ++ a.options }

/-- A value is added just when the option has none yet and accepts it. -/
theorem Arguments.addValue_eq_ok_iff :
    a.addValue name accepts s = .ok b ↔
      a.has name = false ∧ accepts s = true ∧ b = a.prepend [(name, s)] := by
  unfold addValue
  cases a.has name <;> cases accepts s <;> simp [add, prepend, eq_comm]

/-- A flag is added just when it is not there yet, or may be repeated. -/
theorem Arguments.addFlag_eq_ok_iff :
    a.addFlag name = .ok b ↔
      (name = verboseName ∨ a.has name = false) ∧ b = a.prepend [(name, "")] := by
  unfold addFlag
  by_cases hname : name = verboseName <;> cases a.has name <;>
    simp [hname, add, prepend, eq_comm]

/-- A positional argument is added just when the command takes one, has none yet and it is not
empty. -/
theorem Arguments.addPositional_eq_ok_iff :
    a.addPositional scope s = .ok b ↔
      scope = .render ∧ a.positional = none ∧ s ≠ "" ∧ b = { a with positional := some s } := by
  unfold addPositional
  split_ifs with h
  · simp only [Bool.and_eq_true, decide_eq_true_eq, Option.isNone_iff_eq_none, ne_eq] at h
    simp [h, eq_comm]
  · simp_all

/-- The entries of a number of flags for verbosity. -/
def verboseEntries (n : Nat) : List (String × String) :=
  List.replicate n (verboseName, "")

/-- A cluster of a valid command line has flags for verbosity only. -/
theorem Arguments.addCluster_eq_ok_iff {cs : List Char} :
    a.addCluster scope cs = .ok b ↔
      (∀ c ∈ cs, c = 'v') ∧ b = a.prepend (verboseEntries cs.length) := by
  induction cs generalizing a with
  | nil => simp [addCluster, prepend, verboseEntries, eq_comm]
  | cons c cs ih =>
    by_cases hc : c = 'v'
    · subst hc
      have hentries : (a.add verboseName "").prepend (verboseEntries cs.length) =
          a.prepend (verboseEntries (cs.length + 1)) := by
        simp [add, prepend, verboseEntries, List.replicate_succ']
      rw [addCluster, if_pos rfl, ih, hentries]
      simp
    · unfold addCluster
      rw [if_neg hc]
      split_ifs <;> simp [hc]

end Entries

/-- Whether an entry belongs to an option of a scope, which accepts its value. -/
def IsEntry (scope : Scope) (e : String × String) : Prop :=
  ∃ accepts : Option (String → Bool),
    (specs scope).find? (·.name = e.1) = some ⟨e.1, accepts⟩ ∧ ∀ f ∈ accepts, f e.2 = true

/-- A flag for verbosity belongs to any scope. -/
theorem isEntry_of_mem_verboseEntries {n : Nat} {e : String × String}
    (h : e ∈ verboseEntries n) : IsEntry scope e := by
  obtain rfl : e = (verboseName, "") := List.eq_of_mem_replicate h
  exact ⟨none, rfl, nofun⟩

/-- Whether what was read is what a scope allows. -/
structure Standing.Lawful (scope : Scope) (q : Standing) : Prop where
  /-- The options. -/
  entries : ∀ e ∈ q.arguments.options, IsEntry scope e
  /-- The option that waits for its value. -/
  waiting : ∀ name accepts, q.waiting = some (name, accepts) →
    (specs scope).find? (·.name = name) = some ⟨name, some accepts⟩

/-- The start of a reading is lawful. -/
theorem Standing.lawful_empty : Standing.Lawful scope {} where
  entries := nofun
  waiting := nofun

/-- What an argument adds to the options that were read: they stay, and it is lawful. -/
theorem Step.exists_entries (h : Step scope q s t) (hq : q.Lawful scope) :
    ∃ es, t.arguments.options = es ++ q.arguments.options ∧ ∀ e ∈ es, IsEntry scope e := by
  cases h with
  | value hs hadd =>
    obtain ⟨-, haccepts, rfl⟩ := Arguments.addValue_eq_ok_iff.1 hadd
    refine ⟨_, rfl, List.forall_mem_singleton.2 ⟨_, hq.waiting _ _ rfl, ?_⟩⟩
    rintro f ⟨⟩
    exact haccepts
  | flag hs hspec hadd =>
    obtain ⟨-, rfl⟩ := Arguments.addFlag_eq_ok_iff.1 hadd
    exact ⟨_, rfl, List.forall_mem_singleton.2 ⟨_, hspec, nofun⟩⟩
  | attached hs hspec hadd =>
    obtain ⟨-, haccepts, rfl⟩ := Arguments.addValue_eq_ok_iff.1 hadd
    refine ⟨_, rfl, List.forall_mem_singleton.2 ⟨_, hspec, ?_⟩⟩
    rintro f ⟨⟩
    exact haccepts
  | bare hs hspec => exact ⟨[], rfl, nofun⟩
  | cluster hc hs hadd =>
    obtain ⟨-, rfl⟩ := Arguments.addCluster_eq_ok_iff.1 hadd
    exact ⟨_, rfl, fun e he => isEntry_of_mem_verboseEntries he⟩
  | positional hscope hs hadd =>
    obtain ⟨-, -, -, rfl⟩ := Arguments.addPositional_eq_ok_iff.1 hadd
    exact ⟨[], rfl, nofun⟩

/-- An argument leads from a lawful standing to a lawful one. -/
theorem Step.lawful (h : Step scope q s t) (hq : q.Lawful scope) : t.Lawful scope where
  entries e he := by
    obtain ⟨es, hes, hentries⟩ := h.exists_entries hq
    rw [hes, List.mem_append] at he
    exact he.elim (hentries e) (hq.entries e)
  waiting name accepts hwaiting := by
    cases h with
    | bare hs hspec =>
      cases hwaiting
      exact hspec
    | _ => cases hwaiting

/-- Arguments lead from a lawful standing to a lawful one. -/
theorem Arrives.lawful (h : Arrives scope q xs t) (hq : q.Lawful scope) : t.Lawful scope := by
  induction h with
  | refl => exact hq
  | step hstep _ ih => exact ih (hstep.lawful hq)

/-- Positional arguments leave the options as they are. -/
theorem Arguments.options_of_foldlM {rest : List String} {a b : Arguments}
    (h : rest.foldlM (Arguments.addPositional scope) a = .ok b) : b.options = a.options := by
  induction rest generalizing a with
  | nil =>
    cases h
    rfl
  | cons s rest ih =>
    obtain ⟨c, hc, hrest⟩ := Json.bind_eq_ok_iff.1 h
    obtain ⟨-, -, -, rfl⟩ := addPositional_eq_ok_iff.1 hc
    exact (ih hrest).trans rfl

/-- What is read in the end are the options read so far and lawful ones. -/
theorem Reads.exists_entries (h : Reads scope q args res) (hq : q.Lawful scope) :
    ∃ es, res.1.options = es ++ q.arguments.options ∧ ∀ e ∈ es, IsEntry scope e := by
  induction h with
  | done => exact ⟨[], rfl, nofun⟩
  | ended hadd => exact ⟨[], Arguments.options_of_foldlM hadd, nofun⟩
  | command _ _ _ => exact ⟨[], rfl, nofun⟩
  | step hstep _ ih =>
    obtain ⟨es, hes, hentries⟩ := hstep.exists_entries hq
    obtain ⟨es', hes', hentries'⟩ := ih (hstep.lawful hq)
    exact ⟨es' ++ es, by rw [hes', hes, List.append_assoc],
      List.forall_mem_append.2 ⟨hentries', hentries⟩⟩

/-! ### The two sides of the name of a command -/

/-- How a command line is read: what stands before the name of a command, the command, and what
stands behind its name. -/
def ReadAs (args : List String) (before : Arguments) (c : Scope) (behind : Arguments) : Prop :=
  ∃ rest, Reads .program {} args (before, some (c, rest)) ∧ Reads c {} rest (behind, none)

variable {before behind : Arguments} {c : Scope}

/-- The entries behind the name of a command belong to its options. -/
theorem ReadAs.isEntry (h : ReadAs args before c behind) : ∀ e ∈ behind.options, IsEntry c e := by
  obtain ⟨rest, -, hbehind⟩ := h
  obtain ⟨es, hes, hentries⟩ := hbehind.exists_entries Standing.lawful_empty
  rw [hes]
  simpa using hentries

/-- The place that some arguments lead to is before the name of the command or behind it. -/
theorem ReadAs.split (h : ReadAs (xs ++ ys) before c behind) (hxs : "--" ∉ xs) :
    (∃ t rest, Arrives .program {} xs t ∧ Reads .program t ys (before, some (c, rest)) ∧
      Reads c {} rest (behind, none)) ∨
    ∃ us t, us <:+ xs ∧ (∀ zs, Reads .program {} (xs ++ zs) (before, some (c, us ++ zs))) ∧
      Arrives c {} us t ∧ Reads c t ys (behind, none) := by
  obtain ⟨rest, hbefore, hbehind⟩ := h
  obtain ⟨t, harrives, ht⟩ | ⟨c', us, hus, hres, hzs⟩ := hbefore.split hxs
  · exact .inl ⟨t, rest, harrives, ht, hbehind⟩
  · cases hres
    obtain ⟨t, harrives, ht⟩ | ⟨_, _, -, hres, -⟩ := hbehind.split fun hmem => hxs (hus.subset hmem)
    · exact .inr ⟨us, t, hus, hzs, harrives, ht⟩
    · cases hres

/-- Only what stands behind `render` is a request for the docket, and it has a path. -/
theorem Task.ofArguments_eq_render_iff {t : RenderRequest} :
    Task.ofArguments c behind = .ok (.render t) ↔
      c = .render ∧ ∃ path, behind.positional = some path ∧ .ofArguments behind path = t := by
  unfold Task.ofArguments
  split <;> simp_all

/-- The request of what was read. -/
def Request.ofArguments (before behind : Arguments) (task : Task) : Request where
  verbosity := if behind.verbosity = 0 then before.verbosity else behind.verbosity
  settings := (behind.value? settingsParameter).or (before.value? settingsParameter)
  task := task

/-- The command lines that ask for something. -/
theorem Request.parse_eq_ok_iff {r : Request} :
    Request.parse args = .ok r ↔
      ∃ before c behind task, ReadAs args before c behind ∧
        Task.ofArguments c behind = .ok task ∧ r = .ofArguments before behind task := by
  unfold parse
  constructor
  · intro h
    obtain ⟨⟨before, command⟩, hbefore, h⟩ := Json.bind_eq_ok_iff.1 h
    cases command with
    | none => cases h
    | some x =>
      obtain ⟨c, rest⟩ := x
      obtain ⟨⟨behind, more⟩, hbehind, h⟩ := Json.bind_eq_ok_iff.1 h
      obtain ⟨task, htask, h⟩ := Json.bind_eq_ok_iff.1 h
      cases h
      have hreads : Reads c {} rest (behind, more) := reads_iff.2 hbehind
      have hscope : c ≠ .program := by
        rintro rfl
        cases htask
      obtain rfl : more = none := hreads.snd_eq_none hscope
      exact ⟨before, c, behind, task, ⟨rest, reads_iff.2 hbefore, hreads⟩, htask, rfl⟩
  · rintro ⟨before, c, behind, task, ⟨rest, hbefore, hbehind⟩, htask, rfl⟩
    have hbefore := reads_iff.1 hbefore
    have hbehind := reads_iff.1 hbehind
    dsimp only at hbefore hbehind
    simp [hbefore, hbehind, htask, bind, Except.bind, Request.ofArguments, pure, Except.pure]

end Command
end CourtDocket
