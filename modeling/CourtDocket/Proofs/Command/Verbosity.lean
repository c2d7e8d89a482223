/-
# Asking for more of the log

A flag for verbosity may be put in wherever an option may stand, and a cluster of such flags may
get longer (`Louder`).  Such a change keeps the code and the output of a run, and of the two logs
the one at the lower verbosity is what this verbosity admits of the other one.

Which of the two is the lower one depends on where the flags stand.  Those behind the name of the
command take the place of those before it, so the first flag behind it can lower the verbosity
(`Louder` says that flags are added, `Amplifies` what this does to either side of the name).
-/

import CourtDocket.Proofs.Command.Insertion
import CourtDocket.Proofs.Command.Failure

namespace CourtDocket
namespace Command

open Relation (ReflTransGen)

variable {scope c : Scope} {q : Standing} {args args' xs ys : List String} {n : Nat}
  {res : Arguments × Option (Scope × List String)} {a b before behind : Arguments} {name : String}

/-- A cluster of `n + 1` flags for verbosity. -/
def verboseCluster (n : Nat) : String :=
  String.ofList ('-' :: List.replicate (n + 1) 'v')

/-- Adds flags for verbosity to a command line. -/
inductive Louder : List String → List String → Prop
  /-- The flag by its name. -/
  | flag {xs ys : List String} (hplace : AllowsOption xs) :
      Louder (xs ++ ys) (xs ++ "--verbose" :: ys)
  /-- A cluster of flags. -/
  | cluster {xs ys : List String} (n : Nat) (hplace : AllowsOption xs) :
      Louder (xs ++ ys) (xs ++ verboseCluster n :: ys)
  /-- A flag in a cluster. -/
  | lengthen {xs ys : List String} (n : Nat) (hxs : "--" ∉ xs) :
      Louder (xs ++ verboseCluster n :: ys) (xs ++ verboseCluster (n + 1) :: ys)

/-! ### The entries of the flags -/

/-- Flags for verbosity keep apart from anything: they may be repeated. -/
theorem apart_verboseEntries (n : Nat) (a : Arguments) : Apart (verboseEntries n) a := fun _ he =>
  .inl (congrArg Prod.fst (List.eq_of_mem_replicate he))

/-- The flag adds its entry in any scope. -/
theorem adds_verboseName (scope : Scope) : Adds scope "--verbose" (verboseEntries 1) := by
  intro a _
  have hnames : NamesOption "--verbose" verboseName none :=
    ⟨"verbose".toList, by decide, by decide, by decide⟩
  exact .flag hnames rfl (Arguments.addFlag_eq_ok_iff.2 ⟨.inl rfl, rfl⟩)

/-- A cluster of flags is a dash and a letter for each. -/
theorem toList_verboseCluster (n : Nat) :
    (verboseCluster n).toList = '-' :: 'v' :: List.replicate n 'v' := by
  rw [verboseCluster, String.toList_ofList, List.replicate_succ]

/-- A cluster adds an entry for each of its letters. -/
theorem step_verboseCluster (scope : Scope) (a : Arguments) (n : Nat) :
    Step scope ⟨a, none⟩ (verboseCluster n) ⟨a.prepend (verboseEntries (n + 1)), none⟩ := by
  refine .cluster (by decide) (toList_verboseCluster n) (Arguments.addCluster_eq_ok_iff.2 ⟨?_, ?_⟩)
  · simp
  · simp

/-- A cluster is read where no option waits for its value, and adds its flags. -/
theorem reads_verboseCluster (h : Reads scope q (verboseCluster n :: ys) res) :
    q.waiting = none ∧ Reads scope ⟨q.arguments.prepend (verboseEntries (n + 1)), none⟩ ys res := by
  obtain ⟨a, waiting⟩ := q
  rw [reads_iff] at h ⊢
  cases waiting with
  | none => exact ⟨rfl, (step_verboseCluster scope a n).readArguments_cons ys ▸ h⟩
  | some x =>
    rw [readArguments_unawaited (toList_verboseCluster n)] at h
    cases h

/-- An argument that adds flags for verbosity may be inserted where an option may stand. -/
theorem edits_insert {x : String} (hplace : AllowsOption xs)
    (hx : ∀ scope, Adds scope x (verboseEntries n)) : Edits (verboseEntries n) xs ys (x :: ys) := by
  intro scope us t res hus harrives hreads
  exact harrives.insert (hplace.of_suffix hus) hreads (hx scope) (apart_verboseEntries n res.1)

/-- One more letter in a cluster adds one more entry. -/
theorem edits_lengthen (n : Nat) (xs ys : List String) :
    Edits (verboseEntries 1) xs (verboseCluster n :: ys) (verboseCluster (n + 1) :: ys) := by
  intro scope us t res _ harrives hreads
  obtain ⟨a, waiting⟩ := t
  obtain ⟨hwaiting, hrest⟩ := reads_verboseCluster hreads
  obtain rfl : waiting = none := hwaiting
  have hlawful := (step_verboseCluster scope a n).lawful (harrives.lawful Standing.lawful_empty)
  have hgains : Gains (verboseEntries 1) (a.prepend (verboseEntries (n + 1)))
      (a.prepend (verboseEntries (n + 1 + 1))) := .prepend_self _ _
  obtain ⟨b, hb, hgains⟩ := hrest.gains hlawful hgains (apart_verboseEntries 1 res.1)
  exact ⟨b, .step (step_verboseCluster scope a (n + 1)) hb, hgains⟩

/-- Where flags are added, what is read gains their entries. -/
theorem Louder.exists_edits (h : Louder args args') :
    ∃ xs ys ys' n, args = xs ++ ys ∧ args' = xs ++ ys' ∧ "--" ∉ xs ∧
      Edits (verboseEntries n) xs ys ys' := by
  cases h with
  | @flag xs ys hplace =>
    exact ⟨xs, ys, _, 1, rfl, rfl, hplace.continues, edits_insert hplace adds_verboseName⟩
  | @cluster xs ys n hplace =>
    exact ⟨xs, ys, _, n + 1, rfl, rfl, hplace.continues,
      edits_insert hplace fun scope a _ => step_verboseCluster scope a n⟩
  | @lengthen xs ys n hxs => exact ⟨xs, _, _, 1, rfl, rfl, hxs, edits_lengthen n xs ys⟩

/-! ### What was read, verbosity aside -/

/-- What was read without the flags for verbosity. -/
def Arguments.quiet (a : Arguments) : Arguments :=
  { a with options := a.options.filter fun e => e.1 ≠ verboseName }

/-- Entries for verbosity do not change what else was read. -/
theorem Gains.quiet_eq (h : Gains (verboseEntries n) a b) : b.quiet = a.quiet := by
  obtain ⟨hpositional, l₁, l₂, ha, hb⟩ := h
  have hes : (verboseEntries n).filter (fun e => e.1 ≠ verboseName) = [] := by
    rw [List.filter_eq_nil_iff]
    intro e he
    rw [List.eq_of_mem_replicate he]
    simp
  simp only [Arguments.quiet, hpositional, ha, hb, List.filter_append, hes, List.append_nil]

/-- Without the flags for verbosity there are the same other options. -/
theorem Arguments.has_quiet (hname : name ≠ verboseName) : a.quiet.has name = a.has name := by
  have hcount : a.quiet.count name = a.count name := by
    rw [count, count, quiet, List.countP_filter]
    refine List.countP_congr fun e _ => ?_
    simp only [Bool.and_eq_true, decide_eq_true_eq, and_iff_left_iff_imp]
    exact fun he => he ▸ hname
  rw [has, has, hcount]

/-- Without the flags for verbosity the other options have the same values. -/
theorem Arguments.value?_quiet {α : Type} {p : Parameter α} (hp : p.name ≠ verboseName) :
    a.quiet.value? p = a.value? p := by
  have hlookup : ∀ l : List (String × String),
      (l.filter fun e => e.1 ≠ verboseName).lookup p.name = l.lookup p.name := by
    intro l
    induction l with
    | nil => rfl
    | cons e l ih =>
      by_cases he : e.1 = verboseName
      · have hne : (p.name == e.1) = false := by simpa [he] using hp
        rw [List.filter_cons_of_neg (by simp [he]), ih, List.lookup_cons, hne]
      · rw [List.filter_cons_of_pos (by simp [he]), List.lookup_cons, List.lookup_cons, ih]
  rw [value?, value?, quiet, hlookup]

/-- Flags for verbosity do not change the task. -/
theorem Task.ofArguments_quiet (c : Scope) (a : Arguments) :
    Task.ofArguments c a.quiet = Task.ofArguments c a := by
  have hrequest : ∀ path, RenderRequest.ofArguments a.quiet path = .ofArguments a path := by
    intro path
    simp (disch := decide) only [RenderRequest.ofArguments, Arguments.value?_quiet,
      Arguments.has_quiet]
  have hjson : a.quiet.has "json" = a.has "json" := Arguments.has_quiet (by decide)
  have hpositional : a.quiet.positional = a.positional := rfl
  unfold Task.ofArguments
  simp only [hrequest, hjson, hpositional]

/-- What was read with flags for verbosity added. -/
structure Amplifies (a b : Arguments) : Prop where
  /-- All else is the same. -/
  quiet : b.quiet = a.quiet
  /-- There are no fewer flags. -/
  count : a.count verboseName ≤ b.count verboseName

/-- Nothing has to be added. -/
theorem Amplifies.refl (a : Arguments) : Amplifies a a :=
  ⟨rfl, le_rfl⟩

/-- Flags may be added one after the other. -/
theorem Amplifies.trans {d : Arguments} (hab : Amplifies a b) (hbd : Amplifies b d) :
    Amplifies a d :=
  ⟨hbd.quiet.trans hab.quiet, hab.count.trans hbd.count⟩

/-- Entries for verbosity that are gained leave all else and add to the flags. -/
theorem Gains.amplifies (h : Gains (verboseEntries n) a b) : Amplifies a b :=
  ⟨h.quiet_eq, by rw [h.count_eq]; exact Nat.le_add_left _ _⟩

/-- Verbosity is asked for no less often. -/
theorem Amplifies.verbosity_le (h : Amplifies a b) : a.verbosity ≤ b.verbosity :=
  min_le_min_right 255 h.count

/-- Added flags do not change the task. -/
theorem Amplifies.ofArguments_eq (h : Amplifies a b) (c : Scope) :
    Task.ofArguments c b = Task.ofArguments c a := by
  rw [← Task.ofArguments_quiet, h.quiet, Task.ofArguments_quiet]

/-- Added flags do not change the path of the settings. -/
theorem Amplifies.value?_eq (h : Amplifies a b) :
    b.value? settingsParameter = a.value? settingsParameter := by
  have hname : settingsParameter.name ≠ verboseName := by decide
  rw [← Arguments.value?_quiet hname, h.quiet, Arguments.value?_quiet hname]

/-- Flags that are added are added on one side of the name of the command. -/
theorem Louder.readAs (h : Louder args args') (hread : ReadAs args before c behind) :
    ∃ before' behind', ReadAs args' before' c behind' ∧ Amplifies before before' ∧
      Amplifies behind behind' := by
  obtain ⟨xs, ys, ys', n, rfl, rfl, hxs, hedits⟩ := h.exists_edits
  obtain ⟨before', behind', hread', ⟨hgains, rfl⟩ | ⟨rfl, hgains⟩⟩ := hread.edit hxs hedits
  · exact ⟨before', _, hread', hgains.amplifies, .refl _⟩
  · exact ⟨_, behind', hread', .refl _, hgains.amplifies⟩

/-- Whatever flags are added, all that is read is the same but for the flags, of which there are no
fewer on either side of the name. -/
theorem readAs_of_louder (h : ReflTransGen Louder args args')
    (hread : ReadAs args before c behind) :
    ∃ before' behind', ReadAs args' before' c behind' ∧ Amplifies before before' ∧
      Amplifies behind behind' := by
  induction h with
  | refl => exact ⟨before, behind, hread, .refl _, .refl _⟩
  | tail _ hlouder ih =>
    obtain ⟨b, d, hread, hb, hd⟩ := ih
    obtain ⟨b', d', hread', hb', hd'⟩ := hlouder.readAs hread
    exact ⟨b', d', hread', hb.trans hb', hd.trans hd'⟩

/-! ### Logs at two verbosities -/

/-- What a verbosity admits is what it admits of a higher one. -/
theorem admitted_admitted {m k : Nat} (h : m ≤ k) (events : List LogEvent) :
    admitted m (admitted k events) = admitted m events := by
  rw [admitted, admitted, List.filter_filter]
  refine List.filter_congr fun e _ => ?_
  simp only [Bool.and_eq_decide, decide_eq_true_eq, decide_eq_decide, and_iff_left_iff_imp]
  exact fun he => he.trans h

/-- How often verbosity is asked for before and behind the name of a command. -/
def AsksFor (args : List String) (before behind : Nat) : Prop :=
  ∃ a c b, ReadAs args a c b ∧ a.verbosity = before ∧ b.verbosity = behind

/-- **More flags for verbosity change the verbosity alone.**  The code and the output stay, and the
log at the lower verbosity is what this verbosity admits of the log at the higher one.  The
verbosity does not drop, unless there are flags before the name of the command and the first ones
behind it, which hide them, are fewer. -/
theorem run_of_louder (w : World) {r : Request} (hlouder : ReflTransGen Louder args args')
    (hparse : Request.parse args = .ok r) :
    ∃ verbosity, Request.parse args' = .ok { r with verbosity } ∧
      (run w args').exit = (run w args).exit ∧ (run w args').output = (run w args).output ∧
      (r.verbosity ≤ verbosity →
        (run w args).events = admitted r.verbosity (run w args').events) ∧
      (verbosity ≤ r.verbosity →
        (run w args').events = admitted verbosity (run w args).events) ∧
      ∃ before behind before' behind', AsksFor args before behind ∧ AsksFor args' before' behind' ∧
        before ≤ before' ∧ behind ≤ behind' ∧
        (verbosity < r.verbosity ↔ behind = 0 ∧ 0 < behind' ∧ behind' < before) := by
  obtain ⟨before, c, behind, task, hread, htask, rfl⟩ := Request.parse_eq_ok_iff.1 hparse
  obtain ⟨before', behind', hread', hbefore, hbehind⟩ := readAs_of_louder hlouder hread
  have hrequest : { Request.ofArguments before behind task with
        verbosity := (Request.ofArguments before' behind' task).verbosity } =
      Request.ofArguments before' behind' task := by
    simp only [Request.ofArguments, hbefore.value?_eq, hbehind.value?_eq]
  have hparse' := Request.parse_eq_ok_iff.2
    ⟨before', c, behind', task, hread', (hbehind.ofArguments_eq c).trans htask, hrequest⟩
  rw [run_of_parse hparse, run_of_parse hparse']
  refine ⟨_, hparse', rfl, rfl, fun h => ?_, fun h => ?_, _, _, _, _, ⟨_, _, _, hread, rfl, rfl⟩,
    ⟨_, _, _, hread', rfl, rfl⟩, hbefore.verbosity_le, hbehind.verbosity_le, ?_⟩
  · exact (admitted_admitted h _).symm
  · exact (admitted_admitted h _).symm
  · have h₁ := hbefore.verbosity_le
    have h₂ := hbehind.verbosity_le
    simp only [Request.ofArguments]
    split_ifs <;> omega

/-- A flag more, by its name and in a cluster, and one that is behind the name of the command
already. -/
theorem run_of_louder_bareWorld :
    ReflTransGen Louder ["--config", "docket.yaml", "config", "-v"]
        ["--verbose", "--config", "docket.yaml", "config", "-vv"] ∧
      Request.parse ["--config", "docket.yaml", "config", "-v"] =
        .ok ⟨1, some "docket.yaml", .config false⟩ ∧
      (run (bareWorld []) ["--config", "docket.yaml", "config", "-v"]).events =
        admitted 1 (run (bareWorld [])
          ["--verbose", "--config", "docket.yaml", "config", "-vv"]).events := by
  have hlengthen : Louder (["--config", "docket.yaml", "config"] ++ verboseCluster 0 :: [])
      (["--config", "docket.yaml", "config"] ++ verboseCluster 1 :: []) :=
    .lengthen 0 (by decide)
  have hflag : Louder ([] ++ ["--config", "docket.yaml", "config", "-vv"])
      ([] ++ "--verbose" :: ["--config", "docket.yaml", "config", "-vv"]) :=
    .flag ⟨nofun, nofun⟩
  have hlouder : ReflTransGen Louder ["--config", "docket.yaml", "config", "-v"]
      ["--verbose", "--config", "docket.yaml", "config", "-vv"] :=
    (ReflTransGen.single hlengthen).tail hflag
  have hparse : Request.parse ["--config", "docket.yaml", "config", "-v"] =
      .ok ⟨1, some "docket.yaml", .config false⟩ := rfl
  obtain ⟨verbosity, hparse', -, -, hevents, -⟩ := run_of_louder (bareWorld []) hlouder hparse
  obtain rfl : verbosity = 2 := by
    have htwo : Request.parse ["--verbose", "--config", "docket.yaml", "config", "-vv"] =
        .ok ⟨2, some "docket.yaml", .config false⟩ := rfl
    cases hparse'.symm.trans htwo
    rfl
  exact ⟨hlouder, hparse, hevents (by decide)⟩

/-- **A flag more can make the log shorter.**  Two flags before the name of the command tell which
settings are loaded; with a third one behind it nothing is told of them. -/
theorem not_events_of_louder :
    ¬ ∀ (w : World) (args args' : List String) (r : Request), Louder args args' →
      Request.parse args = .ok r →
        (run w args).events = admitted r.verbosity (run w args').events := by
  intro h
  have hplace : AllowsOption ["-vv", "--config", "docket.yaml", "config"] :=
    ⟨by decide, by decide⟩
  have hlouder : Louder (["-vv", "--config", "docket.yaml", "config"] ++ [])
      (["-vv", "--config", "docket.yaml", "config"] ++ verboseCluster 0 :: []) :=
    .cluster 0 hplace
  have hevents := h (bareWorld []) _ _ ⟨2, some "docket.yaml", .config false⟩ hlouder rfl
  revert hevents
  decide

end Command
end CourtDocket
