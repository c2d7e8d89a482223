/-
# What keeps a request from being answered

A request is looked at in three steps, and each of them can meet an obstacle (`Obstacle`):

| step | obstacles |
| --- | --- |
| 0 | the file of settings cannot be read, is no text, or is no document of settings |
| 1 | a variable has a value that cannot be read |
| 2 | the snapshot cannot be opened or read, or is no document of a snapshot |

Whether an obstacle is in the way is said of the world alone (`Obstacle.Meets`), also when an
earlier one is met first.  The first one decides (`Obstacle.Decides`): the run prints nothing, ends
with 1 and tells of this one and of nothing behind it (`Request.run_cases`).  The steps of the
settings look at the file of settings and at the variables, so an obstacle there hides what the
snapshot is (`World.AgreesOnSettings.run_eq`).
-/

import CourtDocket.Command.Run
import CourtDocket.Proofs.Docket.Log
import CourtDocket.Proofs.Json.Symbol
import CourtDocket.Proofs.Record.RoundTrip

namespace CourtDocket

/-- Two chains of steps fail alike if their steps do. -/
theorem bind_eq_error_congr {α β γ δ ε : Type} {x : Except ε α} {y : Except ε β}
    {f : α → Except ε γ} {g : β → Except ε δ} {fault : ε}
    (hxy : ∀ e, x = .error e ↔ y = .error e)
    (hfg : ∀ a b, f a = .error fault ↔ g b = .error fault) :
    x >>= f = .error fault ↔ y >>= g = .error fault := by
  cases x with
  | error e =>
    rw [(hxy e).1 rfl]
    exact ⟨fun h => congrArg _ (Except.error.inj h), fun h => congrArg _ (Except.error.inj h)⟩
  | ok a =>
    cases y with
    | error e => exact absurd ((hxy e).2 rfl) nofun
    | ok b => exact hfg a b

namespace Override

/-- Whether a variable is refused does not depend on the setting that it takes the place of. -/
theorem value_eq_error_iff {α : Type} {env : String → Option String} {name : String}
    {read? : List Char → Option α} {fault : OverrideFault} (present other : α) :
    value env name read? present = .error fault ↔ value env name read? other = .error fault := by
  simp only [value]
  cases env name with
  | none => simp
  | some raw => cases read? (Text.trimChars raw.toList) <;> simp

end Override

/-- The variables are refused or not whatever the settings of the file are. -/
theorem Settings.override_eq_error_iff {env : String → Option String} {fault : OverrideFault}
    (c d : Settings) : c.override env = .error fault ↔ d.override env = .error fault := by
  refine bind_eq_error_congr (fun _ => Override.value_eq_error_iff ..) fun _ _ => ?_
  refine bind_eq_error_congr (fun _ => Override.value_eq_error_iff ..) fun _ _ => ?_
  refine bind_eq_error_congr (fun _ => Override.value_eq_error_iff ..) fun _ _ => ?_
  exact bind_eq_error_congr (fun _ => Override.value_eq_error_iff ..) fun _ _ =>
    ⟨nofun, nofun⟩

namespace Command

/-- What can keep a request from being answered. -/
inductive Obstacle where
  /-- The file of settings cannot be read. -/
  | unreadSettings (path reason : String)
  /-- The file of settings is no text. -/
  | garbledSettings (path : String)
  /-- The text of the file is no document of settings. -/
  | wrongSettings (path : String) (fault : SettingsFault)
  /-- A variable has a value that cannot be read. -/
  | wrongVariable (fault : OverrideFault)
  /-- The file of the snapshot cannot be opened. -/
  | unopenedSnapshot (path reason : String)
  /-- The file of the snapshot can be opened and not read. -/
  | unreadSnapshot (path reason : String)
  /-- What is found at a place is no document of a snapshot. -/
  | wrongSnapshot (place : String) (fault : Json.ReadFault)

/-- The bytes in which a snapshot is looked for, and what their place is called. -/
inductive SnapshotAt (w : World) (path : String) : String → List UInt8 → Prop
  /-- The path stands for the standard input. -/
  | input (hpath : isInputPath path = true) : SnapshotAt w path "from stdin" w.input
  /-- The path is that of a file. -/
  | file {bytes : List UInt8} (hpath : isInputPath path = false)
      (hfile : w.file path = .content bytes) : SnapshotAt w path path bytes

/-- The text of a file, if its bytes are one. -/
def TextAt (w : World) (path : String) (text : Option String) : Prop :=
  ∃ bytes, w.file path = .content bytes ∧
    (Json.Symbol.toChars? (Json.Symbol.ofBytes bytes)).map String.ofList = text

namespace Obstacle

/-- The step in which an obstacle is met. -/
def step : Obstacle → Nat
  | unreadSettings .. | garbledSettings _ | wrongSettings .. => 0
  | wrongVariable _ => 1
  | unopenedSnapshot .. | unreadSnapshot .. | wrongSnapshot .. => 2

/-- What is told of an obstacle. -/
def report : Obstacle → String
  | unreadSettings path reason =>
    "loading config " ++ path ++ ": " ++ ("cannot read config " ++ path ++ ": " ++ reason)
  | garbledSettings path =>
    "loading config " ++ path ++ ": " ++
      ("cannot read config " ++ path ++ ": stream did not contain valid UTF-8")
  | wrongSettings path fault => "loading config " ++ path ++ ": " ++ fault.report
  | wrongVariable fault => "applying DOCKET_* environment overrides: " ++ fault.message
  | unopenedSnapshot path reason => "opening snapshot " ++ path ++ ": " ++ reason
  | unreadSnapshot path reason =>
    "parsing snapshot " ++ path ++ ": serialization error: " ++ reason ++ ": " ++ reason
  | wrongSnapshot place fault => "parsing snapshot " ++ place ++ ": " ++ fault.report

/-- Whether an obstacle is in the way of a request, be there others in front of it or not. -/
def Meets (w : World) (r : Request) : Obstacle → Prop
  | unreadSettings path reason =>
    r.settings = some path ∧ (w.file path = .unopened reason ∨ w.file path = .unread reason)
  | garbledSettings path => r.settings = some path ∧ TextAt w path none
  | wrongSettings path fault =>
    r.settings = some path ∧ ∃ text, TextAt w path (some text) ∧ Settings.parse text = .error fault
  | wrongVariable fault => Settings.override w.env {} = .error fault
  | unopenedSnapshot path reason =>
    isInputPath path = false ∧ w.file path = .unopened reason ∧
      ∃ t, r.task = .render t ∧ t.snapshot = path
  | unreadSnapshot path reason =>
    isInputPath path = false ∧ w.file path = .unread reason ∧
      ∃ t, r.task = .render t ∧ t.snapshot = path
  | wrongSnapshot place fault =>
    ∃ t bytes, r.task = .render t ∧ SnapshotAt w t.snapshot place bytes ∧
      Snapshot.parse (Json.Symbol.ofBytes bytes) = .error fault

/-- The first obstacle in the way of a request. -/
structure Decides (w : World) (r : Request) (o : Obstacle) : Prop where
  /-- It is in the way. -/
  meets : o.Meets w r
  /-- None is met in an earlier step. -/
  first : ∀ p, Meets w r p → o.step ≤ p.step

end Obstacle

variable {w : World} {r : Request} {path place : String} {bytes : List UInt8}

/-- A snapshot that is not taken from the input is the content of its file. -/
theorem SnapshotAt.file_eq (h : SnapshotAt w path place bytes) (hpath : isInputPath path = false) :
    w.file path = .content bytes := by
  cases h with
  | input hinput => exact nomatch hinput.symm.trans hpath
  | file _ hfile => exact hfile

/-- A path leads to one content. -/
theorem SnapshotAt.content {place' : String} {bytes' : List UInt8}
    (h : SnapshotAt w path place bytes) (h' : SnapshotAt w path place' bytes') :
    bytes = bytes' := by
  cases h with
  | input hpath =>
    cases h' with
    | input => rfl
    | file hfile => exact nomatch hpath.symm.trans hfile
  | file hpath hfile => exact FileAnswer.content.inj (hfile.symm.trans (h'.file_eq hpath))

/-- What is told of a file of settings that is of no use. -/
def settingsReport (path reason : String) : String := "loading config " ++ path ++ ": " ++ reason

/-- The settings of a file are read from it, and the variables take their places. -/
theorem loadSettings_some : loadSettings w (some path) =
    (settingsIn w path).mapError (settingsReport path) >>= fun base =>
      (base.override w.env).mapError fun e =>
        "applying DOCKET_* environment overrides: " ++ e.message := rfl

/-- Settings cannot be had of a file that cannot be opened or read. -/
theorem settingsIn_unread {reason : String}
    (hfile : w.file path = .unopened reason ∨ w.file path = .unread reason) :
    settingsIn w path = .error ("cannot read config " ++ path ++ ": " ++ reason) := by
  rcases hfile with hfile | hfile <;> rw [settingsIn, hfile] <;> rfl

/-- Settings cannot be had of a file that is no text. -/
theorem settingsIn_garbled (h : TextAt w path none) :
    settingsIn w path =
      .error ("cannot read config " ++ path ++ ": stream did not contain valid UTF-8") := by
  obtain ⟨bytes, hfile, htext⟩ := h
  rw [Option.map_eq_none_iff] at htext
  simp only [settingsIn, settingsText, hfile, htext]
  rfl

/-- The settings of a file are those of its text. -/
theorem settingsIn_text {text : String} (h : TextAt w path (some text)) :
    settingsIn w path = (Settings.parse text).mapError SettingsFault.report := by
  obtain ⟨bytes, hfile, htext⟩ := h
  obtain ⟨cs, hcs, rfl⟩ := Option.map_eq_some_iff.1 htext
  simp only [settingsIn, settingsText, hfile, hcs]
  rfl

namespace Obstacle

/-- A file of settings that gives some is no obstacle. -/
theorem one_le_step_of_parse {text : String} {base : Settings} (hpath : r.settings = some path)
    (htext : TextAt w path (some text)) (hparse : Settings.parse text = .ok base) {o : Obstacle}
    (ho : o.Meets w r) : 1 ≤ o.step := by
  obtain ⟨bytes, hfile, hchars⟩ := htext
  cases o with
  | unreadSettings p reason =>
    obtain ⟨hp, hfails⟩ := ho
    obtain rfl : path = p := Option.some.inj (hpath.symm.trans hp)
    rw [hfile] at hfails
    rcases hfails with hfails | hfails <;> cases hfails
  | garbledSettings p =>
    obtain ⟨hp, bytes', hfile', hgarbled⟩ := ho
    obtain rfl : path = p := Option.some.inj (hpath.symm.trans hp)
    obtain rfl : bytes = bytes' := FileAnswer.content.inj (hfile.symm.trans hfile')
    exact nomatch hgarbled.symm.trans hchars
  | wrongSettings p fault =>
    obtain ⟨hp, text', ⟨bytes', hfile', hchars'⟩, hfault⟩ := ho
    obtain rfl : path = p := Option.some.inj (hpath.symm.trans hp)
    obtain rfl : bytes = bytes' := FileAnswer.content.inj (hfile.symm.trans hfile')
    obtain rfl : text = text' := Option.some.inj (hchars.symm.trans hchars')
    exact nomatch hparse.symm.trans hfault
  | _ => simp [step]

/-- **The step of the file**: it gives the settings that the variables are put into, or it meets an
obstacle. -/
theorem file_step (w : World) (r : Request) :
    (∃ base : Settings, loadSettings w r.settings =
        (base.override w.env).mapError (fun e => report (.wrongVariable e)) ∧
      ∀ o, Meets w r o → 1 ≤ o.step) ∨
    ∃ o : Obstacle, o.Meets w r ∧ o.step = 0 ∧ loadSettings w r.settings = .error o.report := by
  cases hpath : r.settings with
  | none =>
    refine .inl ⟨{}, rfl, fun o ho => ?_⟩
    cases o <;> simp_all [Meets, step]
  | some path =>
    have hunread : ∀ reason,
        (w.file path = .unopened reason ∨ w.file path = .unread reason) →
          ∃ o : Obstacle, o.Meets w r ∧ o.step = 0 ∧
            loadSettings w (some path) = .error o.report :=
      fun reason hfile => ⟨.unreadSettings path reason, ⟨hpath, hfile⟩, rfl, by
        rw [loadSettings_some, settingsIn_unread hfile]; rfl⟩
    -- the file cannot be opened or read, is no text, is not a document of settings, or is one
    cases hfile : w.file path with
    | unopened reason => exact .inr (hunread reason (.inl hfile))
    | unread reason => exact .inr (hunread reason (.inr hfile))
    | content bytes =>
      cases htext : (Json.Symbol.toChars? (Json.Symbol.ofBytes bytes)).map String.ofList with
      | none =>
        have hgarbled : TextAt w path none := ⟨bytes, hfile, htext⟩
        refine .inr ⟨.garbledSettings path, ⟨hpath, hgarbled⟩, rfl, ?_⟩
        rw [loadSettings_some, settingsIn_garbled hgarbled]
        rfl
      | some text =>
        have hat : TextAt w path (some text) := ⟨bytes, hfile, htext⟩
        cases hparse : Settings.parse text with
        | error fault =>
          refine .inr ⟨.wrongSettings path fault, ⟨hpath, text, hat, hparse⟩, rfl, ?_⟩
          rw [loadSettings_some, settingsIn_text hat, hparse]
          rfl
        | ok base =>
          refine .inl ⟨base, ?_, fun o ho => one_le_step_of_parse hpath hat hparse ho⟩
          rw [loadSettings_some, settingsIn_text hat, hparse]
          rfl

/-- **The steps of the settings**: they give settings, or they meet an obstacle. -/
theorem settings_steps (w : World) (r : Request) :
    (∃ c, loadSettings w r.settings = .ok c ∧ ∀ o, Meets w r o → 2 ≤ o.step) ∨
    ∃ o : Obstacle, o.Decides w r ∧ o.step ≤ 1 ∧ loadSettings w r.settings = .error o.report := by
  rcases file_step w r with ⟨base, hload, hfirst⟩ | ⟨o, hmeets, hstep, hload⟩
  · cases hover : base.override w.env with
    | error fault =>
      have hmeets : Meets w r (.wrongVariable fault) :=
        (base.override_eq_error_iff {}).1 hover
      exact .inr ⟨_, ⟨hmeets, hfirst⟩, Nat.le_refl 1, by rw [hload, hover]; rfl⟩
    | ok c =>
      refine .inl ⟨c, by rw [hload, hover]; rfl, fun o ho => ?_⟩
      have hone := hfirst o ho
      cases o with
      | wrongVariable fault =>
        exact nomatch hover.symm.trans ((base.override_eq_error_iff {}).2 ho)
      | _ => simp_all [step]
  · exact .inr ⟨o, ⟨hmeets, fun p _ => hstep ▸ Nat.zero_le _⟩, by omega, hload⟩

/-- A snapshot that can be read is no obstacle. -/
theorem step_le_one_of_parse {t : RenderRequest} {place : String} {bytes : List UInt8}
    {s : Snapshot} (htask : r.task = .render t) (hat : SnapshotAt w t.snapshot place bytes)
    (hparse : Snapshot.parse (Json.Symbol.ofBytes bytes) = .ok s) {o : Obstacle}
    (ho : o.Meets w r) : o.step ≤ 1 := by
  cases o with
  | unopenedSnapshot p reason =>
    obtain ⟨hpath, hfile, t', htask', rfl⟩ := ho
    obtain rfl : t = t' := Task.render.inj (htask.symm.trans htask')
    exact nomatch hfile.symm.trans (hat.file_eq hpath)
  | unreadSnapshot p reason =>
    obtain ⟨hpath, hfile, t', htask', rfl⟩ := ho
    obtain rfl : t = t' := Task.render.inj (htask.symm.trans htask')
    exact nomatch hfile.symm.trans (hat.file_eq hpath)
  | wrongSnapshot place' fault =>
    obtain ⟨t', bytes', htask', hat', hfault⟩ := ho
    obtain rfl : t = t' := Task.render.inj (htask.symm.trans htask')
    obtain rfl : bytes = bytes' := hat.content hat'
    exact nomatch hparse.symm.trans hfault
  | _ => simp [step]

/-- Without a docket to show, no snapshot is in the way. -/
theorem step_le_one_of_config {json : Bool} (htask : r.task = .config json) {o : Obstacle}
    (ho : o.Meets w r) : o.step ≤ 1 := by
  cases o with
  | unopenedSnapshot p reason =>
    obtain ⟨-, -, t, htask', -⟩ := ho
    exact nomatch htask.symm.trans htask'
  | unreadSnapshot p reason =>
    obtain ⟨-, -, t, htask', -⟩ := ho
    exact nomatch htask.symm.trans htask'
  | wrongSnapshot place fault =>
    obtain ⟨t, -, htask', -⟩ := ho
    exact nomatch htask.symm.trans htask'
  | _ => simp [step]

/-- **The step of the snapshot**: it gives one, or it meets an obstacle. -/
theorem snapshot_step (w : World) {r : Request} {t : RenderRequest} (htask : r.task = .render t) :
    (∃ s, loadSnapshot w t.snapshot = .ok s ∧ ∀ o, Meets w r o → o.step ≤ 1) ∨
    ∃ o : Obstacle, o.Meets w r ∧ o.step = 2 ∧ loadSnapshot w t.snapshot = .error o.report := by
  -- what is found at the place of the snapshot is one, or it is not
  have hread : ∀ place bytes, SnapshotAt w t.snapshot place bytes →
      loadSnapshot w t.snapshot = snapshotFrom place bytes →
      (∃ s, loadSnapshot w t.snapshot = .ok s ∧ ∀ o, Meets w r o → o.step ≤ 1) ∨
        ∃ o : Obstacle, o.Meets w r ∧ o.step = 2 ∧
          loadSnapshot w t.snapshot = .error o.report := by
    intro place bytes hat hload
    cases hparse : Snapshot.parse (Json.Symbol.ofBytes bytes) with
    | error fault =>
      refine .inr ⟨.wrongSnapshot place fault, ⟨t, bytes, htask, hat, hparse⟩, rfl, ?_⟩
      rw [hload, snapshotFrom, hparse]
      rfl
    | ok s =>
      refine .inl ⟨s, by rw [hload, snapshotFrom, hparse]; rfl, fun o ho => ?_⟩
      exact step_le_one_of_parse htask hat hparse ho
  cases hpath : isInputPath t.snapshot with
  | true => exact hread _ _ (.input hpath) (by rw [loadSnapshot, if_pos hpath])
  | false =>
    have hinput : ¬ isInputPath t.snapshot = true := by rw [hpath]; decide
    cases hfile : w.file t.snapshot with
    | unopened reason =>
      refine .inr ⟨.unopenedSnapshot t.snapshot reason, ⟨hpath, hfile, t, htask, rfl⟩, rfl, ?_⟩
      rw [loadSnapshot, if_neg hinput, hfile]
      rfl
    | unread reason =>
      refine .inr ⟨.unreadSnapshot t.snapshot reason, ⟨hpath, hfile, t, htask, rfl⟩, rfl, ?_⟩
      rw [loadSnapshot, if_neg hinput, hfile]
      rfl
    | content bytes =>
      exact hread _ _ (.file hpath hfile) (by rw [loadSnapshot, if_neg hinput, hfile])

end Obstacle

/-! ### What a run leaves -/

/-- What is told before anything is looked at. -/
def Request.preamble (r : Request) : List LogEvent :=
  (r.settings.map LogEvent.loadingSettings).toList

/-- All that is told before the work begins is for debugging. -/
theorem Request.level_of_mem_preamble {e : LogEvent} (h : e ∈ r.preamble) : e.level = .debug := by
  obtain ⟨path, -, rfl⟩ := Option.map_eq_some_iff.1 (Option.mem_toList.1 h)
  rfl

/-- A run without settings fails with the reason, before anything else. -/
theorem Request.run_of_error {reason : String} (h : loadSettings w r.settings = .error reason) :
    r.run w = .failure r.preamble reason := by
  rw [run, h]
  rfl

/-- A run with its settings is a run of the task. -/
theorem Request.run_of_ok {c : Settings} (h : loadSettings w r.settings = .ok c) :
    r.run w = r.task.run w c r.preamble := by
  rw [run, h]
  rfl

/-- What is told last of a docket that is printed. -/
def renderedEvent (v : DocketView) : LogEvent :=
  .rendered v.now (v.active.length + v.scheduled.length + v.openDefence.length)

/-- The event at the end of the work is for information. -/
theorem level_renderedEvent (v : DocketView) : (renderedEvent v).level = .info := rfl

/-- A snapshot that is loaded is shown, and told of in the order of the work. -/
theorem Task.run_render {t : RenderRequest} {s : Snapshot} {c : Settings}
    {events : List LogEvent} (h : loadSnapshot w t.snapshot = .ok s) :
    (Task.render t).run w c events = ⟨0, t.output ((t.apply s).view c),
      events ++ (t.apply s).viewEvents c ++ [renderedEvent ((t.apply s).view c)]⟩ := by
  rw [run, h]
  rfl

/-- **An obstacle decides, or there is none.**  If none is in the way, the request is answered and
no error is told. -/
theorem Request.run_cases (w : World) (r : Request) :
    (∃ o : Obstacle, o.Decides w r ∧ r.run w = .failure r.preamble o.report) ∨
      (∀ o, ¬ Obstacle.Meets w r o) ∧ (r.run w).exit = 0 ∧
        ∀ e ∈ (r.run w).events, e.level ≠ .error := by
  rcases Obstacle.settings_steps w r with ⟨c, hload, hlater⟩ | ⟨o, hdecides, -, hload⟩
  · rw [run_of_ok hload]
    cases htask : r.task with
    | config json =>
      refine .inr ⟨fun o ho => ?_, rfl, fun e he => ?_⟩
      · have := (hlater o ho).trans (Obstacle.step_le_one_of_config htask ho)
        omega
      · rw [r.level_of_mem_preamble he]
        decide
    | render t =>
      rcases Obstacle.snapshot_step w htask with ⟨s, hfound, hearlier⟩ | ⟨o, hmeets, hstep, hfound⟩
      · rw [Task.run_render hfound]
        refine .inr ⟨fun o ho => ?_, rfl, fun e he => ?_⟩
        · have := (hlater o ho).trans (hearlier o ho)
          omega
        · simp only [List.mem_append, List.mem_singleton] at he
          rcases he with (he | he) | rfl
          · rw [r.level_of_mem_preamble he]
            decide
          · rcases Snapshot.level_of_mem_viewEvents c _ he with hlevel | hlevel <;>
              rw [hlevel] <;> decide
          · rw [level_renderedEvent]
            decide
      · refine .inl ⟨o, ⟨hmeets, fun p hp => hstep ▸ hlater p hp⟩, ?_⟩
        rw [Task.run, hfound]
  · exact .inl ⟨o, hdecides, run_of_error hload⟩

/-- Two worlds that agree on what the settings of a request come from. -/
structure World.AgreesOnSettings (w w' : World) (r : Request) : Prop where
  /-- The variables are the same. -/
  env : w'.env = w.env
  /-- The file of settings is the same, if there is one. -/
  file : ∀ path, r.settings = some path → w'.file path = w.file path

/-- The settings are the same in worlds that agree on what they come from. -/
theorem World.AgreesOnSettings.loadSettings_eq {w' : World} (h : w.AgreesOnSettings w' r) :
    loadSettings w' r.settings = loadSettings w r.settings := by
  cases hpath : r.settings with
  | none => simp only [loadSettings, h.env]
  | some path => simp only [loadSettings, settingsIn, h.env, h.file path hpath]

/-- An obstacle in the steps of the settings decides whatever the snapshot is. -/
theorem World.AgreesOnSettings.run_eq {w' : World} (h : w.AgreesOnSettings w' r) {o : Obstacle}
    (hmeets : o.Meets w r) (hstep : o.step ≤ 1) : r.run w' = r.run w := by
  rcases Obstacle.settings_steps w r with ⟨c, -, hlater⟩ | ⟨p, -, -, hload⟩
  · have := (hlater o hmeets).trans hstep
    omega
  · rw [Request.run_of_error hload, Request.run_of_error (h.loadSettings_eq.trans hload)]

/-- A command line that is a request is run as the request. -/
theorem run_of_parse {args : List String} (h : Request.parse args = .ok r) :
    run w args = r.runLogged w := by
  rw [run, h]

/-- The error that ends a failure is told at any verbosity. -/
theorem Request.runLogged_of_failure {events : List LogEvent} {reason : String}
    (h : r.run w = .failure events reason) :
    r.runLogged w = .failure (admitted r.verbosity events) reason := by
  have hevents : admitted r.verbosity (events ++ [.failed reason]) =
      admitted r.verbosity events ++ [.failed reason] := List.filter_append ..
  rw [runLogged, h, Outcome.failure, hevents]
  rfl

/-- **Failures leave nothing printed.**  A run that is not asked for help or for the version ends
with 0, 1 or 2, and prints nothing unless it ends with 0.  It ends with 2 iff the arguments are no
request, and with 1 iff an obstacle is in the way of the request.  Then the first one is told last
as the one error; a run that ends with 0 tells of no error.  An obstacle in the steps of the
settings leaves the same in all worlds that agree on the settings, whatever the snapshot is. -/
theorem run_fails_cleanly (w : World) (args : List String)
    (hhelp : Request.parse args ≠ .error .help)
    (hversion : Request.parse args ≠ .error .version) :
    (run w args).exit ∈ [0, 1, 2] ∧
    ((run w args).exit ≠ 0 → (run w args).output = "") ∧
    ((run w args).exit = 2 ↔ ¬ ∃ r, Request.parse args = .ok r) ∧
    ((run w args).exit = 1 ↔
      ∃ r o, Request.parse args = .ok r ∧ Obstacle.Meets w r o) ∧
    ((run w args).exit = 1 → ∃ r o before, Request.parse args = .ok r ∧ Obstacle.Decides w r o ∧
      (run w args).events = before ++ [.failed o.report] ∧ ∀ e ∈ before, e.level ≠ .error) ∧
    ((run w args).exit = 0 → ∀ e ∈ (run w args).events, e.level ≠ .error) ∧
    ∀ r (o : Obstacle) w', Request.parse args = .ok r → o.Meets w r → o.step ≤ 1 →
      w.AgreesOnSettings w' r → run w' args = run w args := by
  cases hparse : Request.parse args with
  | error stop =>
    cases stop with
    | usage => simp [run, hparse, Stop.outcome]
    | help => exact absurd hparse hhelp
    | version => exact absurd hparse hversion
  | ok r =>
    have hlater : ∀ r' (o : Obstacle) w', Except.ok (ε := Stop) r = .ok r' → o.Meets w r' →
        o.step ≤ 1 → w.AgreesOnSettings w' r' → run w' args = run w args := by
      rintro r' o w' ⟨⟩ hmeets hstep hagrees
      rw [run_of_parse hparse, run_of_parse hparse, Request.runLogged, Request.runLogged,
        hagrees.run_eq hmeets hstep]
    -- either an obstacle decides, and all clauses are read off the failure, or there is none
    rcases r.run_cases w with ⟨o, hdecides, hrun⟩ | ⟨hclear, hexit, hlevel⟩
    · rw [run_of_parse hparse, Request.runLogged_of_failure hrun] at hlater ⊢
      refine ⟨by simp [Outcome.failure], fun _ => rfl, by simp [Outcome.failure], ?_, fun _ => ?_,
        nofun, hlater⟩
      · exact ⟨fun _ => ⟨r, o, rfl, hdecides.meets⟩, fun _ => rfl⟩
      · refine ⟨r, o, _, rfl, hdecides, rfl, fun e he => ?_⟩
        rw [r.level_of_mem_preamble (List.mem_of_mem_filter he)]
        decide
    · rw [run_of_parse hparse] at hlater ⊢
      have hzero : (r.runLogged w).exit = 0 := hexit
      simp only [hzero]
      refine ⟨by decide, fun h => absurd rfl h, by simp, ?_, nofun, fun _ e he => ?_, hlater⟩
      · refine ⟨nofun, ?_⟩
        rintro ⟨r', o, ⟨⟩, hmeets⟩
        exact absurd hmeets (hclear o)
      · exact hlevel e (List.mem_of_mem_filter he)

/-- A world without files and variables. -/
def bareWorld (input : List UInt8) : World where
  input
  file _ := .unopened "No such file or directory (os error 2)"
  env _ := none

/-- A run that looks for its settings in a file and for its snapshot in the standard input. -/
def filteringArguments : List String := ["--config", "docket.yaml", "render", "-"]

/-- A run that finds no snapshot in an empty input fails, whatever else the input would have
been. -/
theorem run_fails_cleanly_bareWorld :
    Request.parse filteringArguments ≠ .error .help ∧
      Request.parse filteringArguments ≠ .error .version ∧
      (run (bareWorld []) filteringArguments).exit = 1 ∧
      (run (bareWorld []) filteringArguments).output = "" ∧
      ∀ input,
        run (bareWorld input) filteringArguments = run (bareWorld []) filteringArguments := by
  have hparse : Request.parse filteringArguments =
      .ok ⟨0, some "docket.yaml", .render { snapshot := "-" }⟩ := rfl
  have hhelp : Request.parse filteringArguments ≠ .error .help := hparse ▸ nofun
  have hversion : Request.parse filteringArguments ≠ .error .version := hparse ▸ nofun
  have hmeets : Obstacle.Meets (bareWorld []) ⟨0, some "docket.yaml", .render { snapshot := "-" }⟩
      (.unreadSettings "docket.yaml" "No such file or directory (os error 2)") :=
    ⟨rfl, .inl rfl⟩
  obtain ⟨-, houtput, -, hexit, -, -, hlater⟩ :=
    run_fails_cleanly (bareWorld []) filteringArguments hhelp hversion
  have hone : (run (bareWorld []) filteringArguments).exit = 1 := hexit.2 ⟨_, _, hparse, hmeets⟩
  refine ⟨hhelp, hversion, hone, houtput (by rw [hone]; decide), fun input => ?_⟩
  exact hlater _ _ _ hparse hmeets (by decide) ⟨rfl, fun _ _ => rfl⟩

/-! ### Snapshots that are found -/

/-- A world whose standard input is the document of a snapshot. -/
def snapshotWorld (s : Snapshot) : World :=
  bareWorld (String.ofList s.toJson.compact).toUTF8.data.toList

/-- The settings do not come from the input. -/
theorem loadSettings_snapshotWorld (s s' : Snapshot) (path : Option String) :
    loadSettings (snapshotWorld s') path = loadSettings (snapshotWorld s) path := by
  have henv : ∀ s, (snapshotWorld s).env = (bareWorld []).env := fun _ => rfl
  have hfile : ∀ s, (snapshotWorld s).file = (bareWorld []).file := fun _ => rfl
  cases path <;> simp only [loadSettings, settingsIn, henv, hfile]

/-- A single dash stands for the input. -/
theorem isInputPath_dash : isInputPath "-" = true := by
  have hfirst : "-".splitOnAux "/" 0 0 0 [] = "-".splitOnAux "/" 0 ⟨1⟩ 0 [] := by
    rw [String.splitOnAux, if_neg (by decide), if_neg (by decide)]
    rfl
  have hsteps : "-".splitOn "/" = ["-"] := by
    rw [String.splitOn, if_neg (by decide), hfirst, String.splitOnAux, if_pos (by decide)]
    rfl
  rw [isInputPath, hsteps]
  decide

/-- A snapshot that is written to the standard input is found there. -/
theorem loadSnapshot_snapshotWorld (s : Snapshot) : loadSnapshot (snapshotWorld s) "-" = .ok s := by
  have hparse : Snapshot.parse (Json.Symbol.ofString (String.ofList s.toJson.compact)) = .ok s := by
    rw [Snapshot.parse, Json.Reader.document_eq_ok_iff,
      (Json.writtenAs_compact _).ofSymbols_ofString]
    exact ⟨Snapshot.read_undoes s, rfl⟩
  rw [loadSnapshot, if_pos isInputPath_dash, snapshotWorld, bareWorld, snapshotFrom,
    Json.Symbol.ofBytes_toUTF8, hparse]
  rfl

end Command
end CourtDocket
