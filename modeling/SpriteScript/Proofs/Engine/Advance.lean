import SpriteScript.Proofs.Engine.Leg

namespace SpriteScript.Engine

/-! Advancing, as one sprite sees it: its run is given one leg from the sprite as
it was before, and nothing else is told of the sprite. -/

/-! ## One pass over the runs -/

section Pass

variable (settings : Settings) (now : Float)

theorem driveAll_cons (stage : Stage) (id : SpriteId) (run : Run)
    (rest : List (SpriteId × Run)) :
    driveAll settings now stage ((id, run) :: rest) =
      let driven := run.drive (scene settings stage id now)
      let report := run.report (scene settings stage id now)
      let later := driveAll settings now (stage.replay report) rest
      { runs := if driven.status = .going then (id, driven.run) :: later.runs else later.runs
        ended := if driven.status = .going then later.ended else id :: later.ended
        stage := later.stage
        trace := report ++ later.trace } := by
  simp only [driveAll, Run.report]
  split <;> simp_all

theorem driveAll_stage (stage : Stage) (runs : List (SpriteId × Run)) :
    (driveAll settings now stage runs).stage =
      stage.replay (driveAll settings now stage runs).trace := by
  induction runs generalizing stage with
  | nil => rfl
  | cons entry rest induction =>
      rcases entry with ⟨id, run⟩
      simp only [driveAll_cons, induction, Stage.replay_append]

theorem driveAll_runs_sublist (stage : Stage) (runs : List (SpriteId × Run)) :
    ((driveAll settings now stage runs).runs.map Prod.fst).Sublist (runs.map Prod.fst) := by
  induction runs generalizing stage with
  | nil => exact .slnil
  | cons entry rest induction =>
      rcases entry with ⟨id, run⟩
      simp only [driveAll_cons]
      split
      · exact (induction _).cons_cons id
      · exact (induction _).cons id

theorem driveAll_ended_sublist (stage : Stage) (runs : List (SpriteId × Run)) :
    (driveAll settings now stage runs).ended.Sublist (runs.map Prod.fst) := by
  induction runs generalizing stage with
  | nil => exact .slnil
  | cons entry rest induction =>
      rcases entry with ⟨id, run⟩
      simp only [driveAll_cons]
      split
      · exact (induction _).cons id
      · exact (induction _).cons_cons id

theorem scene_replay_of_ne (stage : Stage) {trace : Trace} {id other : SpriteId}
    (own : trace.IsOwn other) (different : id ≠ other) :
    scene settings (stage.replay trace) id now = scene settings stage id now := by
  simp only [scene, Stage.sprite?_replay_of_ne stage own different]

theorem driveAll_of_not_mem (stage : Stage) {runs : List (SpriteId × Run)} {id : SpriteId}
    (absent : id ∉ runs.map Prod.fst) :
    let pass := driveAll settings now stage runs
    pass.trace.about id = [] ∧ runIn? pass.runs id = none ∧ id ∉ pass.ended := by
  refine ⟨?_, runIn?_eq_none_iff.mpr ?_, ?_⟩
  · induction runs generalizing stage with
    | nil => rfl
    | cons entry rest induction =>
        rcases entry with ⟨other, run⟩
        rw [List.map_cons, List.mem_cons, not_or] at absent
        have own := run.report_isOwn (scene settings stage other now)
        simp only [driveAll_cons]
        rw [Trace.about_append, own.about_of_ne absent.1, induction _ absent.2, List.append_nil]
  · exact fun member => absent ((driveAll_runs_sublist settings now stage runs).subset member)
  · exact fun member => absent ((driveAll_ended_sublist settings now stage runs).subset member)

/-- What a pass makes of one run: it is driven from the sprite as it was before the
pass, and it stays or ends as that drive says. -/
theorem driveAll_of_runIn? (stage : Stage) {runs : List (SpriteId × Run)} {id : SpriteId}
    {run : Run} (nodup : (runs.map Prod.fst).Nodup) (found : runIn? runs id = some run) :
    let driven := run.drive (scene settings stage id now)
    let pass := driveAll settings now stage runs
    pass.trace.about id = (run.report (scene settings stage id now)).about id ∧
      runIn? pass.runs id = (if driven.status = .going then some driven.run else none) ∧
      (id ∈ pass.ended ↔ driven.status ≠ .going) := by
  induction runs generalizing stage with
  | nil => cases found
  | cons entry rest induction =>
      rcases entry with ⟨other, first⟩
      rcases List.nodup_cons.mp nodup with ⟨absent, restNodup⟩
      rw [runIn?_cons] at found
      simp only [driveAll_cons]
      by_cases same : other = id
      · -- The run is the first one; the later runs are those of other sprites.
        subst same
        rw [if_pos rfl] at found
        cases found
        rcases driveAll_of_not_mem settings now
            (stage.replay (run.report (scene settings stage other now))) absent with
          ⟨silent, noneLeft, notEnded⟩
        rw [Trace.about_append _ (driveAll ..).trace, silent, List.append_nil]
        split
        · next going =>
            refine ⟨rfl, ?_, iff_of_false notEnded fun ends => ends going⟩
            rw [runIn?_cons, if_pos rfl]
        · next ends => exact ⟨rfl, noneLeft, iff_of_true (List.mem_cons_self ..) ends⟩
      · -- The first run is that of another sprite, which leaves this one as it was.
        rw [if_neg same] at found
        have different : ¬id = other := fun equal => same equal.symm
        have own := first.report_isOwn (scene settings stage other now)
        have share := induction
          (stage.replay (first.report (scene settings stage other now))) restNodup found
        rw [scene_replay_of_ne settings now stage own different] at share
        rw [Trace.about_append _ (driveAll ..).trace, own.about_of_ne different, List.nil_append]
        split
        · rw [runIn?_cons, if_neg same]
          exact share
        · rw [List.mem_cons, or_iff_right different]
          exact share

end Pass

/-! ## An advance -/

theorem about_flatMap_finish {ids : List SpriteId} (nodup : ids.Nodup) (id : SpriteId) :
    Trace.about (ids.flatMap finish) id = if id ∈ ids then finish id else [] := by
  induction ids with
  | nil => rfl
  | cons other rest induction =>
      rcases List.nodup_cons.mp nodup with ⟨absent, restNodup⟩
      rw [List.flatMap_cons, Trace.about_append, induction restNodup]
      by_cases same : id = other
      · subst same
        simp [absent, finish, Trace.about, Event.sprite?, Action.sprite?]
      · rw [(finish_isOwn other).about_of_ne same]
        simp [same]

variable {engine : Engine} (stage : Stage) (now : Float)

theorem advance_stage : (engine.advance stage now).stage =
    stage.replay (engine.advance stage now).trace := by
  simp only [advance, Stage.replay_append, driveAll_stage]

theorem advance_ordered (ordered : engine.Ordered) :
    (engine.advance stage now).actor.Ordered :=
  ordered.sublist (driveAll_runs_sublist engine.settings now stage engine.runs)

theorem advance_answer_ascending (ordered : engine.Ordered) :
    Ascending (engine.advance stage now).answer :=
  ordered.sublist (driveAll_ended_sublist engine.settings now stage engine.runs)

theorem advance_of_none (ordered : engine.Ordered) {id : SpriteId}
    (idle : engine.runOf? id = none) :
    (engine.advance stage now).trace.about id = [] ∧
      (engine.advance stage now).actor.runOf? id = none ∧
      id ∉ (engine.advance stage now).answer := by
  have share := driveAll_of_not_mem engine.settings now stage (runIn?_eq_none_iff.mp idle)
  have nodup := (advance_answer_ascending stage now ordered).nodup
  simp only [advance] at nodup ⊢
  refine ⟨?_, share.2⟩
  rw [Trace.about_append, share.1, about_flatMap_finish nodup, if_neg share.2.2, List.append_nil]

theorem advance_of_some (ordered : engine.Ordered) {id : SpriteId} {run : Run}
    (found : engine.runOf? id = some run) :
    let leg := run.leg (scene engine.settings stage id now)
    (engine.advance stage now).trace.about id = leg.trace.about id ∧
      (engine.advance stage now).actor.runOf? id = leg.run? ∧
      (id ∈ (engine.advance stage now).answer ↔ leg.run? = none) := by
  rcases driveAll_of_runIn? engine.settings now stage ordered.nodup found with ⟨told, left, ended⟩
  have nodup := (advance_answer_ascending stage now ordered).nodup
  simp only [advance] at nodup ⊢
  rw [Trace.about_append, told, about_flatMap_finish nodup]
  by_cases going : (run.drive (scene engine.settings stage id now)).status = .going
  · have notEnded := fun member => ended.mp member going
    rw [if_pos going] at left
    rw [if_neg notEnded, List.append_nil, Run.leg, if_pos going]
    exact ⟨rfl, left, iff_of_false notEnded (Option.some_ne_none _)⟩
  · have whole : Trace.about (finish id) id = finish id := by
      simp [finish, Trace.about, Event.sprite?, Action.sprite?]
    rw [if_neg going] at left
    rw [if_pos (ended.mpr going), Run.leg, if_neg going, Trace.about_append, scene_id, whole]
    exact ⟨rfl, left, iff_of_true (ended.mpr going) rfl⟩

theorem mem_advance_answer (ordered : engine.Ordered) (id : SpriteId) :
    id ∈ (engine.advance stage now).answer ↔
      engine.isRunning id = true ∧ (engine.advance stage now).actor.isRunning id = false := by
  rw [isRunning_eq, isRunning_eq]
  cases found : engine.runOf? id with
  | none =>
      rcases advance_of_none stage now ordered found with ⟨_, _, unnamed⟩
      simp [unnamed]
  | some run =>
      rcases advance_of_some stage now ordered found with ⟨_, left, named⟩
      rw [named, left]
      simp

end SpriteScript.Engine
