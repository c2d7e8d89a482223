/-
# The log of a run that asks for no more

At the lowest verbosity a run that shows a docket tells of the malformed times of the snapshot and
of nothing else (`Renders.events_eq`): what is told of the settings, of seats and of the work asks
for a higher one.  The snapshot is the one that was found with what the arguments put in place of
its clock and its settings; of these only the choice of buckets matters for the log.
-/

import CourtDocket.Proofs.Command.Failure

namespace CourtDocket

/-- Two snapshots that agree on what warnings are about.  The clock, the orders, the queries, the
tag, the states of the seat, the starting times and the live counts may differ. -/
structure Snapshot.AgreesOnTimes (s t : Snapshot) : Prop where
  /-- The cases. -/
  schedule : t.schedule = s.schedule
  /-- The calls for a defence. -/
  openDefences : t.openDefences = s.openDefences
  /-- The choice of buckets. -/
  filter : t.scheduleControls.filter = s.scheduleControls.filter

/-- Snapshots that agree on the published times agree on the malformed ones. -/
theorem Snapshot.AgreesOnTimes.malformedTimes_eq {s t : Snapshot} (h : s.AgreesOnTimes t) :
    t.malformedTimes = s.malformedTimes := by
  simp only [malformedTimes, bucketTimes, h.schedule, h.openDefences, h.filter]

namespace Command

variable {w : World} {args : List String} {r : Request} {t : RenderRequest} {shown : Snapshot}

/-- A run shows a docket without being asked for more than warnings: it succeeds, and `shown` is
the snapshot that was found with what the arguments put in place of its clock and its settings. -/
def Renders (w : World) (args : List String) (shown : Snapshot) : Prop :=
  ∃ settings t found, Request.parse args = .ok ⟨0, settings, .render t⟩ ∧ (run w args).exit = 0 ∧
    loadSnapshot w t.snapshot = .ok found ∧ shown = t.apply found

/-- Of what is told of a docket, only the warnings are told without verbosity. -/
theorem admitted_viewEvents (c : Settings) (s : Snapshot) :
    admitted 0 (s.viewEvents c) = s.malformedTimes.map PublishedTime.warning := by
  rw [← s.filter_viewEvents c]
  refine List.filter_congr fun e he => ?_
  rcases Snapshot.level_of_mem_viewEvents c s he with hlevel | hlevel <;> rw [hlevel] <;> rfl

/-- What is told before the work is not told without verbosity. -/
theorem admitted_preamble (r : Request) : admitted 0 r.preamble = [] := by
  refine List.filter_eq_nil_iff.2 fun e he => ?_
  rw [r.level_of_mem_preamble he]
  decide

/-- A request for a docket that is answered has settings and a snapshot. -/
theorem Request.run_of_exit (htask : r.task = .render t) (hexit : (r.run w).exit = 0) :
    ∃ c s, loadSnapshot w t.snapshot = .ok s ∧ r.run w = (Task.render t).run w c r.preamble := by
  cases hload : loadSettings w r.settings with
  | error reason =>
    rw [run_of_error hload] at hexit
    cases hexit
  | ok c =>
    have hrun := run_of_ok hload
    rw [htask] at hrun
    cases hfound : loadSnapshot w t.snapshot with
    | error reason =>
      rw [hrun, Task.run, hfound] at hexit
      cases hexit
    | ok s => exact ⟨c, s, rfl, hrun⟩

/-- The run of a successful request for a docket shows one. -/
theorem exists_renders {settings : Option String}
    (hparse : Request.parse args = .ok ⟨0, settings, .render t⟩) (hexit : (run w args).exit = 0) :
    ∃ shown, Renders w args shown := by
  have hrun : (Request.run w ⟨0, settings, .render t⟩).exit = 0 := by
    rwa [run_of_parse hparse] at hexit
  obtain ⟨-, found, hfound, -⟩ := Request.run_of_exit rfl hrun
  exact ⟨_, settings, t, found, hparse, hexit, hfound, rfl⟩

/-- What a run that shows a docket tells: its malformed times. -/
theorem Renders.events_eq (h : Renders w args shown) :
    (run w args).events = shown.malformedTimes.map PublishedTime.warning := by
  obtain ⟨settings, t, found, hparse, hexit, hfound, rfl⟩ := h
  rw [run_of_parse hparse] at hexit ⊢
  obtain ⟨c, s, hs, hrun⟩ := Request.run_of_exit (w := w) (t := t) rfl hexit
  obtain rfl : found = s := Except.ok.inj (hfound.symm.trans hs)
  rw [Task.run_render hfound] at hrun
  have hevents : (Request.runLogged w ⟨0, settings, .render t⟩).events =
      admitted 0 (Request.preamble ⟨0, settings, .render t⟩) ++
        admitted 0 ((t.apply found).viewEvents c) ++
        admitted 0 [renderedEvent ((t.apply found).view c)] := by
    rw [Request.runLogged, hrun, admitted, List.filter_append, List.filter_append]
    rfl
  have hlast : admitted 0 [renderedEvent ((t.apply found).view c)] = [] := rfl
  rw [hevents, admitted_preamble, admitted_viewEvents, hlast, List.nil_append, List.append_nil]

/-- **The warnings of a docket, exactly.**  A run that succeeds in showing a docket, and is not
asked for more, tells of the malformed times of the snapshot in their order and of nothing else.
What it tells depends on the records and on the choice of buckets: another such run that agrees on
them tells the same. -/
theorem warnings_of_render {settings : Option String}
    (hparse : Request.parse args = .ok ⟨0, settings, .render t⟩) (hexit : (run w args).exit = 0) :
    ∃ shown, Renders w args shown ∧
      (run w args).events = shown.malformedTimes.map PublishedTime.warning ∧
      ∀ w' args' shown', Renders w' args' shown' → shown.AgreesOnTimes shown' →
        (run w' args').events = (run w args).events := by
  obtain ⟨shown, hrenders⟩ := exists_renders hparse hexit
  refine ⟨shown, hrenders, hrenders.events_eq, fun w' args' shown' hrenders' hagrees => ?_⟩
  rw [hrenders'.events_eq, hrenders.events_eq, hagrees.malformedTimes_eq]

/-- A docket with malformed times in both buckets and in a call, a blank and a good one. -/
def muddledDocket : Snapshot :=
  { now := 0
    schedule :=
      { active := [{ id := "case-1", status := .active, scheduledFor := some "soon",
                     createdAt := some " " }]
        scheduled := [{ id := "case-2", status := .scheduled, scheduledFor := some "later" }] }
    openDefences := [{ caseId := "case-3", scheduledFor := some "2026-01-01",
                       filedAt := some "yesterday" }] }

/-- The arguments choose one bucket. -/
theorem warnings_of_render_muddledDocket :
    Request.parse ["render", "-", "--filter", "active"] =
        .ok ⟨0, none, .render { snapshot := "-", filter := some .active }⟩ ∧
      (run (snapshotWorld muddledDocket) ["render", "-", "--filter", "active"]).exit = 0 ∧
      (run (snapshotWorld muddledDocket) ["render", "-", "--filter", "active"]).events =
        [.malformedTime "case-1" "scheduledForIso" "soon",
          .malformedTime "case-3" "filedAtIso" "yesterday"] := by
  have hparse : Request.parse ["render", "-", "--filter", "active"] =
      .ok ⟨0, none, .render { snapshot := "-", filter := some .active }⟩ := rfl
  have hexit :
      (run (snapshotWorld muddledDocket) ["render", "-", "--filter", "active"]).exit = 0 := by
    rw [run_of_parse hparse, Request.runLogged, Request.run_of_ok rfl,
      Task.run_render (loadSnapshot_snapshotWorld muddledDocket)]
  obtain ⟨shown, ⟨settings, t, found, hparse', -, hfound, rfl⟩, hevents, -⟩ :=
    warnings_of_render hparse hexit
  obtain ⟨rfl, rfl⟩ : settings = none ∧ t = { snapshot := "-", filter := some .active } := by
    simpa [eq_comm] using hparse.symm.trans hparse'
  obtain rfl : found = muddledDocket :=
    Except.ok.inj (hfound.symm.trans (loadSnapshot_snapshotWorld muddledDocket))
  refine ⟨hparse, hexit, hevents.trans ?_⟩
  decide +kernel

end Command
end CourtDocket
