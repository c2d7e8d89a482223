/-
# Options in place of settings

Nine options of `render` put a value in place of the clock or of a setting of the snapshot
(`Replacement`).  The text of a value is the one that a document has for it, the clock aside, which
is any spelling of an integer.

| option | in place of |
| --- | --- |
| `--now-ms` | the clock |
| `--filter`, `--sort`, `--query` | a setting of the schedule |
| `--defence-query`, `--tag`, `--claim-status` | a setting of the open defences |
| `--time-sort`, `--start-window` | a setting of the open defences |

Wherever the options stand behind the name of the command, their values get into the request
(`Inserts.parse`), and a request with values is answered as the request without them is on the
snapshot that has the values itself (`Request.run_replaced`).
-/

import CourtDocket.Proofs.Command.Insertion
import CourtDocket.Proofs.Command.Failure
import CourtDocket.Proofs.Docket.Independence

namespace CourtDocket
namespace Command

/-- What an option puts in place of a part of the snapshot. -/
inductive Replacement where
  /-- The clock. -/
  | now (t : Int64)
  /-- The buckets of the schedule. -/
  | filter (f : BucketFilter)
  /-- The order of the schedule. -/
  | order (o : TimeOrder)
  /-- The query of the schedule. -/
  | query (text : String)
  /-- The query of the open defences. -/
  | defenceQuery (text : String)
  /-- The tag of the open defences. -/
  | tag (text : String)
  /-- The states of the seat. -/
  | status (f : SeatFilter)
  /-- The order of the open defences. -/
  | startOrder (o : TimeOrder)
  /-- The starting times of the open defences. -/
  | window (w : StartWindow)

namespace Replacement

/-- The name of the option. -/
def name : Replacement → String
  | now _ => "now-ms"
  | filter _ => "filter"
  | order _ => "sort"
  | query _ => "query"
  | defenceQuery _ => "defence-query"
  | tag _ => "tag"
  | status _ => "claim-status"
  | startOrder _ => "time-sort"
  | window _ => "start-window"

/-- Whether a text stands for the value; a choice has the word that documents have for it. -/
def IsSpelledBy : Replacement → String → Prop
  | now t, text => Override.readCount? text.toList = some t
  | filter f, text => text = f.name
  | order o, text => text = o.scheduleName
  | query q, text => text = q
  | defenceQuery q, text => text = q
  | tag t, text => text = t
  | status f, text => text = f.name
  | startOrder o, text => text = o.startName
  | window w, text => text = w.name

/-- The snapshot with the value. -/
def apply (e : Replacement) (s : Snapshot) : Snapshot :=
  let c := s.scheduleControls
  let d := s.openDefenceControls
  match e with
  | now t => { s with now := t }
  | filter f => { s with scheduleControls := { c with filter := f } }
  | order o => { s with scheduleControls := { c with order := o } }
  | query q => { s with scheduleControls := { c with query := q } }
  | defenceQuery q => { s with openDefenceControls := { d with query := q } }
  | tag t => { s with openDefenceControls := { d with tag := t } }
  | status f => { s with openDefenceControls := { d with status := f } }
  | startOrder o => { s with openDefenceControls := { d with order := o } }
  | window w => { s with openDefenceControls := { d with window := w } }

/-- The snapshot with values. -/
def applyAll (es : List Replacement) (s : Snapshot) : Snapshot :=
  es.foldr apply s

/-- The request with the value. -/
def put (e : Replacement) (r : RenderRequest) : RenderRequest :=
  match e with
  | now t => { r with now := some t }
  | filter f => { r with filter := some f }
  | order o => { r with order := some o }
  | query q => { r with query := some q }
  | defenceQuery q => { r with defenceQuery := some q }
  | tag t => { r with tag := some t }
  | status f => { r with status := some f }
  | startOrder o => { r with startOrder := some o }
  | window w => { r with window := some w }

/-- Whether the value belongs to the schedule alone. -/
def ofSchedule : Replacement → Bool
  | filter _ | order _ | query _ => true
  | _ => false

/-- Whether the value belongs to the open defences alone. -/
def ofOpenDefences : Replacement → Bool
  | defenceQuery _ | tag _ | status _ | startOrder _ | window _ => true
  | _ => false

/-- The argument that gives the value in a text. -/
def argument (e : Replacement) (text : String) : String :=
  "--" ++ e.name ++ "=" ++ text

/-- Whether the option takes a text for the value. -/
def Takes : Replacement → String → Prop
  | now t, text => nowParameter.read? text = some t
  | filter f, text => filterParameter.read? text = some f
  | order o, text => orderParameter.read? text = some o
  | query q, text => queryParameter.read? text = some q
  | defenceQuery q, text => defenceQueryParameter.read? text = some q
  | tag t, text => tagParameter.read? text = some t
  | status f, text => statusParameter.read? text = some f
  | startOrder o, text => startOrderParameter.read? text = some o
  | window w, text => windowParameter.read? text = some w

end Replacement

/-- A parameter whose values are words reads what its vocabulary finds. -/
theorem Parameter.read?_ofVocabulary_eq_some_iff {α : Type} {name text : String}
    {v : Vocabulary α} {a : α} :
    (Parameter.ofVocabulary name v).read? text = some a ↔ v.find text = .ok a := by
  cases h : v.find text <;> simp [ofVocabulary, h, Except.toOption]

namespace Replacement

variable {e : Replacement} {text : String}

/-- An option takes the texts that stand for a value, and no others. -/
theorem takes_iff : e.Takes text ↔ e.IsSpelledBy text := by
  cases e with
  | now t => exact Iff.rfl
  | filter f => exact Parameter.read?_ofVocabulary_eq_some_iff.trans BucketFilter.find_eq_ok_iff
  | order o =>
    exact Parameter.read?_ofVocabulary_eq_some_iff.trans TimeOrder.find_schedule_eq_ok_iff
  | query q => exact Option.some_inj
  | defenceQuery q => exact Option.some_inj
  | tag t => exact Option.some_inj
  | status f => exact Parameter.read?_ofVocabulary_eq_some_iff.trans SeatFilter.find_eq_ok_iff
  | startOrder o =>
    exact Parameter.read?_ofVocabulary_eq_some_iff.trans TimeOrder.find_start_eq_ok_iff
  | window w => exact Parameter.read?_ofVocabulary_eq_some_iff.trans StartWindow.find_eq_ok_iff

/-- The value of an option that was not given is taken from the argument. -/
theorem ofArguments_gains {a b : Arguments} {path : String} (htakes : e.Takes text)
    (h : Gains [(e.name, text)] a b) (hhas : a.has e.name = false) :
    RenderRequest.ofArguments b path = e.put (.ofArguments a path) := by
  have hother : ∀ {α : Type} (p : Parameter α), e.name ≠ p.name → b.value? p = a.value? p := by
    intro α p hp
    rw [Arguments.value?, Arguments.value?, h.lookup_eq (List.forall_mem_singleton.2 hp)]
  have hflag : ∀ name, e.name ≠ name → b.has name = a.has name := fun name hname =>
    h.has_eq (List.forall_mem_singleton.2 hname)
  have hself : ∀ {α : Type} (p : Parameter α), e.name = p.name → b.value? p = p.read? text := by
    intro α p hp
    rw [Arguments.value?, ← hp, h.lookup_of_has hhas]
    simp
  have hsummary := hflag "summary" (by cases e <;> simp [name])
  have hpretty := hflag "pretty" (by cases e <;> simp [name])
  cases e <;> simp only [Takes] at htakes <;>
    simp (disch := (simp only [name]; decide)) only [RenderRequest.ofArguments, put, hother,
      hself, htakes, hsummary, hpretty]

/-- The names of these options are none of those of the options of the program. -/
theorem name_notMem : e.name ∉ ["verbose", "config"] := by
  cases e <;> simp [name]

/-- The argument of a replacement adds the entry of its option. -/
theorem adds_argument (htext : e.IsSpelledBy text) :
    Adds .render (e.argument text) [(e.name, text)] := by
  have haccepts : ∃ accepts,
      (specs .render).find? (·.name = e.name) = some ⟨e.name, some accepts⟩ ∧
        accepts text = true := by
    have htakes := takes_iff.2 htext
    cases e <;> exact ⟨_, rfl, Option.isSome_iff_exists.2 ⟨_, htakes⟩⟩
  obtain ⟨accepts, hspec, haccepts⟩ := haccepts
  exact adds_attached (by cases e <;> simp [name]) hspec haccepts

/-- A request without values comes from arguments without these options. -/
theorem has_eq_false {a : Arguments} {path : String} {summary pretty : Bool}
    (ha : ∀ d ∈ a.options, IsEntry .render d)
    (hr : RenderRequest.ofArguments a path = { snapshot := path, summary, pretty })
    (e : Replacement) : a.has e.name = false := by
  simp only [RenderRequest.ofArguments, RenderRequest.mk.injEq, true_and] at hr
  obtain ⟨hnow, hfilter, horder, hquery, hdefenceQuery, htag, hstatus, hstartOrder, hwindow, -⟩ :=
    hr
  cases e with
  | now _ => exact has_eq_false_of_value? ha rfl hnow
  | filter _ => exact has_eq_false_of_value? ha rfl hfilter
  | order _ => exact has_eq_false_of_value? ha rfl horder
  | query _ => exact has_eq_false_of_value? ha rfl hquery
  | defenceQuery _ => exact has_eq_false_of_value? ha rfl hdefenceQuery
  | tag _ => exact has_eq_false_of_value? ha rfl htag
  | status _ => exact has_eq_false_of_value? ha rfl hstatus
  | startOrder _ => exact has_eq_false_of_value? ha rfl hstartOrder
  | window _ => exact has_eq_false_of_value? ha rfl hwindow

/-- A value of the request is a value of the snapshot. -/
theorem apply_put (e : Replacement) (r : RenderRequest) (s : Snapshot) :
    (e.put r).apply s = e.apply (r.apply s) := by
  cases e <;> rfl

/-- Replacements that are put into a request are applied one after the other. -/
theorem apply_foldr_put (es : List Replacement) (r : RenderRequest) (s : Snapshot) :
    (es.foldr put r).apply s = applyAll es (r.apply s) := by
  induction es with
  | nil => rfl
  | cons e es ih => rw [List.foldr_cons, apply_put, ih, applyAll, applyAll, List.foldr_cons]

/-- What no value changes, many do not. -/
theorem foldr_put_eq {α : Type} {f : RenderRequest → α}
    (hf : ∀ (e : Replacement) r, f (e.put r) = f r) (es : List Replacement)
    (r : RenderRequest) : f (es.foldr put r) = f r := by
  induction es with
  | nil => rfl
  | cons e es ih => rw [List.foldr_cons, hf, ih]

/-- Replacements do not change the form of the output. -/
theorem output_foldr_put (es : List Replacement) (r : RenderRequest) (v : DocketView) :
    (es.foldr put r).output v = r.output v :=
  foldr_put_eq (f := (·.output v)) (fun e _ => by cases e <;> rfl) es r

/-- Replacements do not change the path of the snapshot. -/
theorem snapshot_foldr_put (es : List Replacement) (r : RenderRequest) :
    (es.foldr put r).snapshot = r.snapshot :=
  foldr_put_eq (f := (·.snapshot)) (fun e _ => by cases e <;> rfl) es r

/-- Values that make no difference, where the others keep what two snapshots have in common. -/
theorem applyAll_filter {R : Snapshot → Snapshot → Prop} {p : Replacement → Bool}
    (hrefl : ∀ s, R s s) (hkeep : ∀ (e : Replacement) {s t}, R s t → R (e.apply s) (e.apply t))
    (hdrop : ∀ {e : Replacement} {s t}, p e = true → R s t → R (e.apply s) t)
    (es : List Replacement) (s : Snapshot) : R (applyAll es s) (applyAll (es.filter (!p ·)) s) := by
  induction es with
  | nil => exact hrefl s
  | cons e es ih =>
    by_cases he : p e = true
    · rw [List.filter_cons_of_neg (by simp [he])]
      exact hdrop he ih
    · rw [List.filter_cons_of_pos (by simp [he])]
      exact hkeep e ih

/-- A value keeps what two snapshots have in common for a bucket. -/
theorem agreesOnBucket (e : Replacement) {s t : Snapshot} {b : Bucket}
    (h : s.AgreesOnBucket t b) : (e.apply s).AgreesOnBucket (e.apply t) b := by
  obtain ⟨hnow, hrecords, hincludes, horder, hquery, hlive⟩ := h
  cases e <;> constructor <;> first | assumption | rfl

/-- A value of the open defences adds no difference for a bucket. -/
theorem agreesOnBucket_of_openDefences {s t : Snapshot} {b : Bucket} (he : e.ofOpenDefences = true)
    (h : s.AgreesOnBucket t b) : (e.apply s).AgreesOnBucket t b := by
  obtain ⟨hnow, hrecords, hincludes, horder, hquery, hlive⟩ := h
  cases e <;>
    first | exact ⟨hnow, hrecords, hincludes, horder, hquery, hlive⟩ | cases he

/-- The values of the open defences do not matter for a bucket. -/
theorem applyAll_agreesOnBucket (es : List Replacement) (s : Snapshot) (b : Bucket) :
    (applyAll es s).AgreesOnBucket (applyAll (es.filter (!·.ofOpenDefences)) s) b :=
  applyAll_filter (R := (·.AgreesOnBucket · b)) (fun _ => ⟨rfl, rfl, rfl, rfl, rfl, fun _ _ => rfl⟩)
    (fun e _ _ h => e.agreesOnBucket h) agreesOnBucket_of_openDefences es s

/-- A value keeps what two snapshots have in common for the open defences. -/
theorem agreesOnCalls (e : Replacement) {s t : Snapshot} (h : s.AgreesOnCalls t) :
    (e.apply s).AgreesOnCalls (e.apply t) := by
  obtain ⟨hnow, hrecords, hcontrols⟩ := h
  cases e <;> constructor <;> first | assumption | rfl | simp only [apply, hcontrols]

/-- A value of the schedule adds no difference for the open defences. -/
theorem agreesOnCalls_of_schedule {s t : Snapshot} (he : e.ofSchedule = true)
    (h : s.AgreesOnCalls t) : (e.apply s).AgreesOnCalls t := by
  obtain ⟨hnow, hrecords, hcontrols⟩ := h
  cases e <;> first | exact ⟨hnow, hrecords, hcontrols⟩ | cases he

/-- The values of the schedule do not matter for the open defences. -/
theorem applyAll_agreesOnCalls (es : List Replacement) (s : Snapshot) :
    (applyAll es s).AgreesOnCalls (applyAll (es.filter (!·.ofSchedule)) s) :=
  applyAll_filter (fun _ => ⟨rfl, rfl, rfl⟩) agreesOnCalls agreesOnCalls_of_schedule es s

end Replacement

/-- Puts options between the arguments, one after the other: each behind the name of the command and
where an option may stand. -/
inductive Inserts : List Replacement → List String → List String → Prop
  /-- There is none. -/
  | nil {args : List String} : Inserts [] args args
  /-- There is one more. -/
  | cons {e : Replacement} {es : List Replacement} {text : String} {args xs ys : List String}
      (hrest : Inserts es args (xs ++ ys)) (hnames : NamesCommand xs) (hplace : AllowsOption xs)
      (htext : e.IsSpelledBy text) : Inserts (e :: es) args (xs ++ e.argument text :: ys)

variable {es : List Replacement} {args args' : List String} {before behind : Arguments}

/-- What is read with the options: their values, and all else as before. -/
theorem Inserts.readAs (h : Inserts es args args') (hread : ReadAs args before .render behind)
    (hes : (es.map Replacement.name).Nodup) (hhas : ∀ e ∈ es, behind.has e.name = false) :
    ∃ behind', ReadAs args' before .render behind' ∧ behind'.positional = behind.positional ∧
      (∀ name ∉ es.map Replacement.name, behind'.count name = behind.count name ∧
        behind'.options.lookup name = behind.options.lookup name) ∧
      ∀ path, RenderRequest.ofArguments behind' path =
        es.foldr Replacement.put (.ofArguments behind path) := by
  induction h with
  | nil => exact ⟨behind, hread, rfl, fun _ _ => ⟨rfl, rfl⟩, fun _ => rfl⟩
  | @cons e es text args xs ys hrest hnames hplace htext ih =>
    rw [List.map_cons, List.nodup_cons] at hes
    obtain ⟨b, hb, hpositional, hother, hrequest⟩ :=
      ih hread hes.2 fun d hd => hhas d (List.mem_cons_of_mem e hd)
    have hhas : b.has e.name = false := by
      rw [Arguments.has, (hother _ hes.1).1]
      exact hhas e List.mem_cons_self
    obtain ⟨behind', hbehind', hgains⟩ := hb.insert_behind hnames hplace
      (Replacement.adds_argument htext) fun d hd => .inr (List.mem_singleton.1 hd ▸ hhas)
    refine ⟨behind', hbehind', hgains.positional.trans hpositional, fun name hname => ?_,
      fun path => ?_⟩
    · rw [List.map_cons, List.mem_cons, not_or] at hname
      have hne : ∀ d ∈ [(e.name, text)], d.1 ≠ name :=
        List.forall_mem_singleton.2 (Ne.symm hname.1)
      exact ⟨(hgains.count_of_ne hne).trans (hother name hname.2).1,
        (hgains.lookup_eq hne).trans (hother name hname.2).2⟩
    · rw [Replacement.ofArguments_gains (Replacement.takes_iff.2 htext) hgains hhas, hrequest path,
        List.foldr_cons]

variable {w w' : World} {verbosity : Nat} {settings : Option String} {path : String}
  {summary pretty : Bool} {s : Snapshot}

/-- The request of a command line with the options: the values are put in. -/
theorem Inserts.parse (h : Inserts es args args') (hes : (es.map Replacement.name).Nodup)
    (hparse : Request.parse args =
      .ok ⟨verbosity, settings, .render { snapshot := path, summary, pretty }⟩) :
    Request.parse args' = .ok ⟨verbosity, settings,
      .render (es.foldr Replacement.put { snapshot := path, summary, pretty })⟩ := by
  obtain ⟨before, c, behind, task, hread, htask, hrequest⟩ := Request.parse_eq_ok_iff.1 hparse
  rw [Request.ofArguments, Request.mk.injEq] at hrequest
  obtain ⟨hverbosity, hsettings, rfl⟩ := hrequest
  obtain ⟨rfl, path', hpath, hr⟩ := Task.ofArguments_eq_render_iff.1 htask
  obtain rfl : path' = path := congrArg RenderRequest.snapshot hr
  obtain ⟨behind', hread', hpositional, hother, hrequest⟩ :=
    h.readAs hread hes fun e _ => e.has_eq_false hread.isEntry hr
  have hnames : ∀ name ∈ ["verbose", "config"], name ∉ es.map Replacement.name := by
    simp only [List.mem_map, not_exists, not_and]
    rintro name hname e - rfl
    exact e.name_notMem hname
  have hcount : behind'.verbosity = behind.verbosity :=
    congrArg (min · 255) (hother verboseName (hnames _ (by decide))).1
  have hvalue : behind'.value? settingsParameter = behind.value? settingsParameter :=
    congrArg (Option.bind · settingsParameter.read?) (hother "config" (hnames _ (by decide))).2
  have htask' : Task.ofArguments .render behind' =
      .ok (.render (es.foldr Replacement.put { snapshot := path', summary, pretty })) :=
    Task.ofArguments_eq_render_iff.2
      ⟨rfl, path', hpositional.trans hpath, (hrequest path').trans (by rw [hr])⟩
  refine Request.parse_eq_ok_iff.2 ⟨before, .render, behind', _, hread', htask', ?_⟩
  rw [Request.ofArguments, hcount, hvalue, ← hverbosity, ← hsettings]

/-- A request with values leaves what the request without them leaves on the snapshot that has the
values itself. -/
theorem Request.run_replaced (es : List Replacement) {r : RenderRequest} (hr : ∀ s, r.apply s = s)
    (hs : loadSnapshot w r.snapshot = .ok s)
    (hs' : loadSnapshot w' r.snapshot = .ok (Replacement.applyAll es s))
    (hsettings : loadSettings w' settings = loadSettings w settings) :
    Request.run w ⟨verbosity, settings, .render (es.foldr Replacement.put r)⟩ =
      Request.run w' ⟨verbosity, settings, .render r⟩ := by
  cases hload : loadSettings w settings with
  | error reason =>
    rw [run_of_error hload, run_of_error (hsettings.trans hload)]
    rfl
  | ok c =>
    rw [run_of_ok hload, run_of_ok (hsettings.trans hload), Task.run_render hs',
      Task.run_render ((Replacement.snapshot_foldr_put es r).symm ▸ hs),
      Replacement.apply_foldr_put, Replacement.output_foldr_put, hr, hr]
    rfl

/-- **An option does what an edit of the snapshot does.**  Options for different values, wherever
they stand behind the name of the command, leave what the arguments without them leave on the
snapshot that has the values itself: the same code, the same output and the same log.  In what is
printed, the values of the open defences do not matter for the cases, nor those of the schedule for
the open defences. -/
theorem run_of_replacements (hinserts : Inserts es args args')
    (hes : (es.map Replacement.name).Nodup)
    (hparse : Request.parse args =
      .ok ⟨verbosity, settings, .render { snapshot := path, summary, pretty }⟩)
    (hs : loadSnapshot w path = .ok s)
    (hs' : loadSnapshot w' path = .ok (Replacement.applyAll es s))
    (hsettings : loadSettings w' settings = loadSettings w settings) :
    run w args' = run w' args ∧
    ∀ c, loadSettings w settings = .ok c → ∃ v, v = (Replacement.applyAll es s).view c ∧
      (run w args').exit = 0 ∧
      (run w args').output = RenderRequest.output { snapshot := path, summary, pretty } v ∧
      (∀ b, v.bucket b =
        ((Replacement.applyAll (es.filter (!·.ofOpenDefences)) s).view c).bucket b) ∧
      v.openDefence =
        ((Replacement.applyAll (es.filter (!·.ofSchedule)) s).view c).openDefence := by
  have hrun : run w args' = run w' args := by
    have hrequests : Request.run w ⟨verbosity, settings, .render
          (es.foldr Replacement.put { snapshot := path, summary, pretty })⟩ =
        Request.run w' ⟨verbosity, settings, .render { snapshot := path, summary, pretty }⟩ :=
      Request.run_replaced es (fun _ => rfl) hs hs' hsettings
    rw [run_of_parse (hinserts.parse hes hparse), run_of_parse hparse, Request.runLogged,
      Request.runLogged, hrequests]
  refine ⟨hrun, fun c hc => ⟨_, rfl, ?_⟩⟩
  have hload := hsettings.trans hc
  rw [hrun, run_of_parse hparse, Request.runLogged, Request.run_of_ok hload,
    Task.run_render hs']
  exact ⟨rfl, rfl, fun b => (Replacement.applyAll_agreesOnBucket es s b).bucket_view_eq c,
    (Replacement.applyAll_agreesOnCalls es s).openDefence_view_eq c⟩

/-- Values for the clock, for a query and for an order. -/
def laterReplacements : List Replacement :=
  [.startOrder .descending, .now 5, .query "case-2"]

/-- The options stand on both sides of the snapshot. -/
theorem run_of_replacements_twoBucketDocket :
    Inserts laterReplacements ["render", "-"]
        ["render", "--now-ms=+5", "-", "--time-sort=latest", "--query=case-2"] ∧
      run (snapshotWorld Snapshot.twoBucketDocket)
          ["render", "--now-ms=+5", "-", "--time-sort=latest", "--query=case-2"] =
        run (snapshotWorld (Replacement.applyAll laterReplacements Snapshot.twoBucketDocket))
          ["render", "-"] := by
  have hnames : ∀ xs, NamesCommand ("render" :: xs) := fun xs =>
    ⟨{}, .render, xs, reads_iff.2 rfl⟩
  have hquery : Inserts [.query "case-2"] ["render", "-"]
      (["render", "-"] ++ Replacement.argument (.query "case-2") "case-2" :: []) :=
    .cons .nil (hnames _) ⟨by decide, by decide⟩ rfl
  have hnow : Inserts [.now 5, .query "case-2"] ["render", "-"]
      (["render"] ++ Replacement.argument (.now 5) "+5" :: ["-", "--query=case-2"]) :=
    .cons hquery (hnames _) ⟨by decide, by decide⟩ rfl
  have hinserts : Inserts laterReplacements ["render", "-"]
      (["render", "--now-ms=+5", "-"] ++
        Replacement.argument (.startOrder .descending) "latest" :: ["--query=case-2"]) :=
    .cons hnow (hnames _) ⟨by decide, by decide⟩ rfl
  have hparse : Request.parse ["render", "-"] =
      .ok ⟨0, none, .render { snapshot := "-", summary := false, pretty := false }⟩ := rfl
  have hfound := loadSnapshot_snapshotWorld Snapshot.twoBucketDocket
  have hedited := loadSnapshot_snapshotWorld
    (Replacement.applyAll laterReplacements Snapshot.twoBucketDocket)
  exact ⟨hinserts, (run_of_replacements hinserts (by decide) hparse hfound hedited
    (loadSettings_snapshotWorld _ _ none)).1⟩

end Command
end CourtDocket
