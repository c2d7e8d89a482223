/-
# Printed settings are a file of settings

What `config` prints is the document of the settings and one more line break.  It reaches a file as
bytes and comes back as the same text (`Json.Symbol.ofBytes_toUTF8`), the line break behind the
document is no matter (`Settings.parse_toYaml`), and without variables nothing is put in place of
what the file says (`Settings.override_of_unset`).  So a run on the file prints the file.
-/

import CourtDocket.Command.Run
import CourtDocket.Proofs.Json.Symbol
import CourtDocket.Proofs.Settings.Document

namespace CourtDocket

/-- Without variables the settings stay as they are. -/
theorem Settings.override_of_unset {env : String → Option String}
    (h : ∀ name ∈ Override.variableNames, env name = none) (c : Settings) :
    c.override env = .ok c := by
  simp only [Override.variableNames, List.forall_mem_cons] at h
  obtain ⟨hhorizon, hwindow, hring, hsession, -⟩ := h
  simp only [Settings.override, Override.value, hhorizon, hwindow, hring, hsession]
  rfl

namespace Command

variable {w : World} {path text : String} {args : List String} {c : Settings}

/-- Whether an argument can be the path of an option: an argument that starts with a dash and goes
on is an option of its own, and no path is empty. -/
def IsPathArgument (path : String) : Prop :=
  path ≠ "" ∧ (path.toList.head? = some '-' → path = "-")

instance (path : String) : Decidable (IsPathArgument path) :=
  inferInstanceAs (Decidable (_ ∧ _))

/-- The path of a file is no option. -/
theorem IsPathArgument.toList_ne (h : IsPathArgument path) (x : Char) (cs : List Char) :
    path.toList ≠ '-' :: x :: cs := by
  intro hdash
  have hpath : path = "-" := h.2 (by rw [hdash, List.head?_cons])
  rw [hpath] at hdash
  cases hdash

/-- A run has the settings `c` and prints them as a document. -/
def PrintsSettings (w : World) (args : List String) (c : Settings) : Prop :=
  ∃ r, Request.parse args = .ok r ∧ r.task = .config false ∧ loadSettings w r.settings = .ok c

/-- The file at a path holds a text, and no variable is set. -/
structure HoldsText (w : World) (path text : String) : Prop where
  /-- The bytes of the file are those of the text. -/
  file : w.file path = .content text.toUTF8.data.toList
  /-- No setting has a variable in its place. -/
  unset : ∀ name ∈ Override.variableNames, w.env name = none

/-- A run that prints settings ends well. -/
theorem PrintsSettings.exit_eq (h : PrintsSettings w args c) : (run w args).exit = 0 := by
  obtain ⟨r, hparse, htask, hload⟩ := h
  simp only [run, hparse, Request.runLogged, Request.run, hload, htask, Task.run]

/-- A run that prints settings prints their text. -/
theorem PrintsSettings.output_eq (h : PrintsSettings w args c) :
    (run w args).output = configOutput false c := by
  obtain ⟨r, hparse, htask, hload⟩ := h
  simp only [run, hparse, Request.runLogged, Request.run, hload, htask, Task.run]

/-- The text of a file is the text that was saved. -/
theorem HoldsText.settingsText_eq (h : HoldsText w path text) :
    settingsText path (w.file path) = .ok text := by
  rw [h.file, settingsText, Json.Symbol.ofBytes_toUTF8, Json.Symbol.toChars?_ofString]
  simp only [String.ofList_toList]

/-- The settings of a file are those that were printed into it. -/
theorem HoldsText.loadSettings_eq (h : HoldsText w path (configOutput false c)) :
    loadSettings w (some path) = .ok c := by
  have hparse : Settings.parse (configOutput false c) = .ok c := c.parse_toYaml 1
  have hin : settingsIn w path = .ok c := by
    rw [settingsIn, h.settingsText_eq]
    simp only [bind, Except.bind, hparse, Except.mapError]
  simp only [loadSettings, hin, Except.mapError, bind, Except.bind, c.override_of_unset h.unset]

/-- An argument that starts no option is the value that an option waits for. -/
theorem readArguments_value {scope : Scope} {specs : List OptionSpec} {a : Arguments}
    {waiting : String × (String → Bool)} {rest : List String} (h : IsPathArgument path) :
    readArguments scope specs a (some waiting) (path :: rest) =
      a.addValue waiting.1 waiting.2 path >>= fun b => readArguments scope specs b none rest := by
  have hdash := h.toList_ne
  rw [readArguments.eq_def]
  split <;> simp_all

/-- The path behind `--config` is that of the settings. -/
theorem Request.parse_config (h : IsPathArgument path) :
    parse ["--config", path, "config"] = .ok ⟨0, some path, .config false⟩ := by
  have hread : settingsParameter.read? path = some path := if_neg h.1
  have hoption : readArguments .program (specs .program) {} none ["--config", path, "config"] =
      readArguments .program (specs .program) {}
        (some ("config", fun s => (settingsParameter.read? s).isSome)) [path, "config"] := rfl
  have hadd : Arguments.addValue {} "config" (fun s => (settingsParameter.read? s).isSome) path =
      .ok ⟨[("config", path)], none⟩ := by
    simp [Arguments.addValue, hread, Arguments.has, Arguments.count, Arguments.add]
  have hcommand : readArguments .program (specs .program) ⟨[("config", path)], none⟩ none
      ["config"] = .ok (⟨[("config", path)], none⟩, some (.config, [])) := rfl
  have hvalue : Arguments.value? ⟨[("config", path)], none⟩ settingsParameter = some path := hread
  rw [parse, hoption, readArguments_value h, hadd]
  simp only [bind, Except.bind, hcommand, hvalue]
  rfl

/-- A run on the file that settings were printed into prints them. -/
theorem HoldsText.printsSettings (h : HoldsText w path (configOutput false c))
    (hpath : IsPathArgument path) : PrintsSettings w ["--config", path, "config"] c :=
  ⟨_, Request.parse_config hpath, rfl, h.loadSettings_eq⟩

/-- Any settings are printed by some run, such as that on their own output. -/
theorem exists_printsSettings (c : Settings) : ∃ w args, PrintsSettings w args c := by
  let w : World :=
    { input := []
      file := fun _ => .content (configOutput false c).toUTF8.data.toList
      env := fun _ => none }
  have hholds : HoldsText w "docket.yaml" (configOutput false c) := ⟨rfl, fun _ _ => rfl⟩
  exact ⟨_, _, hholds.printsSettings (by decide)⟩

/-- **Printed settings are a fixpoint.**  Settings are read from their document, also when the
circumference is no finite number.  Any settings are those of some run, and when the output of a
run that prints them is saved to a file, a run on this file succeeds and prints the same. -/
theorem printed_settings_fixpoint (c : Settings) :
    Settings.parse c.toYaml = .ok c ∧ (∃ w args, PrintsSettings w args c) ∧
      ∀ first args second path, PrintsSettings first args c → IsPathArgument path →
        HoldsText second path (run first args).output →
          (run second ["--config", path, "config"]).exit = 0 ∧
            (run second ["--config", path, "config"]).output = (run first args).output := by
  refine ⟨?_, exists_printsSettings c, fun first args second path hprints hpath hholds => ?_⟩
  · have hparse := c.parse_toYaml 0
    rwa [List.replicate_zero, String.ofList_nil, String.append_empty] at hparse
  · rw [hprints.output_eq] at hholds ⊢
    have hagain := hholds.printsSettings hpath
    exact ⟨hagain.exit_eq, hagain.output_eq⟩

/-- The world of a run whose settings come from two variables. -/
def variableWorld : World where
  input := []
  file _ := .unopened "No such file or directory (os error 2)"
  env name :=
    if name = Override.windowVariable then some " OFF"
    else if name = Override.circumferenceVariable then some "nan"
    else none

/-- The world of a run on the output of the other. -/
def fileWorld : World where
  input := []
  file _ := .content (run variableWorld ["config"]).output.toUTF8.data.toList
  env _ := none

/-- A circumference that is no number is printed and read back. -/
theorem printed_settings_fixpoint_nan :
    (run fileWorld ["--config", "docket.yaml", "config"]).exit = 0 ∧
      (run fileWorld ["--config", "docket.yaml", "config"]).output =
        (run variableWorld ["config"]).output := by
  have hprints : PrintsSettings variableWorld ["config"]
      { reservationWindow := none, ringCircumference := .nan } :=
    ⟨⟨0, none, .config false⟩, rfl, rfl, rfl⟩
  exact (printed_settings_fixpoint _).2.2 _ _ _ _ hprints (by decide) ⟨rfl, fun _ _ => rfl⟩

end Command
end CourtDocket
