/-
# The modes of the output denote one document

A request for a docket may ask for several lines instead of one, and for the counts instead of the
rows.  Neither changes the docket, only its text: with or without the lines it tells the same value,
the members in the same order (`tells_documentText`), and the counts are those of the rows that a
reader of the whole document finds (`DocketView.countsRows`).

Any settings and any snapshot are those of some run (`exists_loads`), and a run that has both
succeeds.
-/

import CourtDocket.Proofs.Command.Failure
import CourtDocket.Proofs.Command.PrintedSettings
import CourtDocket.Proofs.Docket.Document

namespace CourtDocket
namespace Command

open Json

/-- Both texts of a document tell its value. -/
theorem tells_documentText (pretty : Bool) (v : Json) : Tells (documentText pretty v) v.told := by
  cases pretty with
  | false => exact tells_compact v
  | true => exact tells_indented v

/-- Any settings and any snapshot can be found by a run. -/
theorem exists_loads (c : Settings) (s : Snapshot) :
    ∃ w path, loadSettings w path = .ok c ∧ loadSnapshot w "-" = .ok s := by
  let w : World :=
    { snapshotWorld s with file := fun _ => .content (configOutput false c).toUTF8.data.toList }
  have hholds : HoldsText w "docket.yaml" (configOutput false c) := ⟨rfl, fun _ _ => rfl⟩
  have hsnapshot : loadSnapshot w "-" = loadSnapshot (snapshotWorld s) "-" := by
    rw [loadSnapshot, loadSnapshot, if_pos isInputPath_dash, if_pos isInputPath_dash]
  exact ⟨w, _, hholds.loadSettings_eq, hsnapshot.trans (loadSnapshot_snapshotWorld s)⟩

variable {w : World} {args : List String} {r : Request} {t : RenderRequest} {c : Settings}
  {s : Snapshot}

/-- A run that finds its settings and its snapshot succeeds and prints the docket. -/
theorem run_of_loads (hparse : Request.parse args = .ok r) (htask : r.task = .render t)
    (hsettings : loadSettings w r.settings = .ok c)
    (hsnapshot : loadSnapshot w t.snapshot = .ok s) :
    (run w args).exit = 0 ∧ (run w args).output = t.output ((t.apply s).view c) := by
  have hrun := Request.run_of_ok hsettings
  rw [htask, Task.run_render hsnapshot] at hrun
  rw [run_of_parse hparse, Request.runLogged, hrun]
  exact ⟨rfl, rfl⟩

/-- **The modes of the output denote one document.**  Whatever the settings and the snapshot of a
run are, there are a document of the docket and one of its counts, without a name that stands twice
in an object; the counts are those of the rows of the first.  Every run that differs in modes and
verbosity only succeeds and prints a text and a line break.  The text tells one value and no other:
that of the counts if they are asked for, else that of the docket, on one line or on several. -/
theorem output_modes :
    (∀ c s, ∃ w path, loadSettings w path = .ok c ∧ loadSnapshot w "-" = .ok s) ∧
    ∀ (w : World) (path : Option String) (t : RenderRequest) (c : Settings) (s : Snapshot),
      loadSettings w path = .ok c → loadSnapshot w t.snapshot = .ok s →
      ∃ full counts : Json, full = ((t.apply s).view c).toJson.told ∧
        full.DistinctNames ∧ counts.DistinctNames ∧ CountsRows full counts ∧
        ∀ args verbosity pretty summary,
          Request.parse args = .ok ⟨verbosity, path, .render { t with pretty, summary }⟩ →
          (run w args).exit = 0 ∧ ∃ text, (run w args).output = text ++ "\n" ∧
            ∀ v, Tells text v ↔ v = if summary then counts else full := by
  refine ⟨exists_loads, fun w path t c s hsettings hsnapshot => ?_⟩
  let d := (t.apply s).view c
  refine ⟨_, d.summary.toJson.told, rfl, d.distinctNames_toJson.told,
    d.summary.distinctNames_toJson.told, d.countsRows,
    fun args verbosity pretty summary hparse => ?_⟩
  obtain ⟨hexit, houtput⟩ := run_of_loads hparse rfl hsettings hsnapshot
  refine ⟨hexit, _, houtput, fun v => ?_⟩
  have htells := tells_documentText pretty (if summary then d.summary.toJson else d.toJson)
  rw [apply_ite told] at htells
  exact ⟨fun hv => hv.unique htells, fun hv => hv ▸ htells⟩

/-- A docket with a call of which the id has characters that are escaped. -/
def quotedDocket : Snapshot :=
  { now := 0
    openDefences := [{ caseId := "case \"1\"\n", scheduledFor := some "2026-03-01T09:00:00Z" }] }

/-- The call is a row on several lines as well, may be claimed and is out of the policy window. -/
theorem output_modes_quotedDocket :
    ∃ full counts : Json, CountsRows full counts ∧ (full.rows "openDefence").length = 1 ∧
      (∃ text, (run (snapshotWorld quotedDocket) ["render", "-", "--pretty"]).output =
        text ++ "\n" ∧ Tells text full) ∧
      (∃ text, (run (snapshotWorld quotedDocket) ["render", "-", "--summary"]).output =
        text ++ "\n" ∧ Tells text counts) ∧
      counts.member? "claimableRows" = some (.int 1) ∧
      counts.member? "outOfPolicyRows" = some (.int 1) := by
  obtain ⟨full, counts, hfull, -, -, hcounts, hrun⟩ :=
    output_modes.2 (snapshotWorld quotedDocket) none { snapshot := "-" } {} quotedDocket rfl
      (loadSnapshot_snapshotWorld quotedDocket)
  obtain ⟨-, text, htext, htells⟩ := hrun ["render", "-", "--pretty"] 0 true false rfl
  obtain ⟨-, text', htext', htells'⟩ := hrun ["render", "-", "--summary"] 0 false true rfl
  have hclaimable : (full.rows "openDefence").countP (·.flag "claimable") = 1 := by
    rw [hfull]
    decide +kernel
  have hpolicy : (full.rows "active" ++ full.rows "scheduled" ++ full.rows "openDefence").countP
      (·.flag "outOfPolicyWindow") = 1 := by
    rw [hfull]
    decide +kernel
  have hrows : (full.rows "openDefence").length = 1 := by
    rw [hfull]
    decide +kernel
  refine ⟨full, counts, hcounts, hrows, ⟨text, htext, (htells full).2 rfl⟩,
    ⟨text', htext', (htells' counts).2 rfl⟩, ?_, ?_⟩
  · rw [hcounts.claimableRows, hclaimable]
    rfl
  · rw [hcounts.outOfPolicyRows, hpolicy]
    rfl

end Command
end CourtDocket
