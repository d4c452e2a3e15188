import SpriteScript.Proofs.Engine.Leg

namespace SpriteScript.Engine

/-! Starting and marking runs. A run that is started is given its first leg at
once, and joins the others at its place if it goes on. -/

/-! ## The place of a run -/

theorem mem_insertRun {id other : SpriteId} {run : Run} {runs : List (SpriteId × Run)} :
    other ∈ (insertRun id run runs).map Prod.fst ↔ other = id ∨ other ∈ runs.map Prod.fst := by
  induction runs with
  | nil => simp [insertRun]
  | cons entry rest induction =>
      rw [insertRun]
      split
      · simp
      · split
        · next same => simp [same]
        · rw [List.map_cons, List.mem_cons, induction, List.map_cons, List.mem_cons]
          exact or_left_comm

theorem Ascending.insertRun {id : SpriteId} {run : Run} {runs : List (SpriteId × Run)}
    (ascending : Ascending (runs.map Prod.fst)) :
    Ascending ((insertRun id run runs).map Prod.fst) := by
  induction runs with
  | nil => exact List.pairwise_singleton ..
  | cons entry rest induction =>
      rcases List.pairwise_cons.mp ascending with ⟨before, restAscending⟩
      rw [Engine.insertRun]
      split
      · next less =>
          refine List.pairwise_cons.mpr ⟨?_, ascending⟩
          intro other member
          rcases List.mem_cons.mp member with same | later
          · rw [same]
            exact less
          · exact UInt32.lt_trans less (before other later)
      · next notLess =>
          split
          · next same =>
              rw [same]
              exact ascending
          · next different =>
              refine List.pairwise_cons.mpr ⟨?_, induction restAscending⟩
              intro other member
              rcases mem_insertRun.mp member with same | later
              · have apart : entry.1.number ≠ id.number := fun equal =>
                  different (congrArg SpriteId.mk equal.symm)
                rw [same]
                exact UInt32.lt_of_le_of_ne (UInt32.not_lt.mp notLess) apart
              · exact before other later

theorem runIn?_insertRun {id other : SpriteId} {run : Run} {runs : List (SpriteId × Run)}
    (absent : id ∉ runs.map Prod.fst) :
    runIn? (insertRun id run runs) other = if id = other then some run else runIn? runs other := by
  induction runs with
  | nil => rw [insertRun, runIn?_cons]
  | cons entry rest induction =>
      rcases entry with ⟨first, firstRun⟩
      rw [List.map_cons, List.mem_cons, not_or] at absent
      rw [insertRun]
      split
      · rw [runIn?_cons]
      · rw [if_neg absent.1, runIn?_cons, induction absent.2, runIn?_cons]
        by_cases same : id = other
        · have different : ¬first = other := fun equal => absent.1 (same.trans equal.symm)
          rw [if_neg different, if_pos same, if_pos same]
        · rw [if_neg same, if_neg same]

def join (engine : Engine) (id : SpriteId) : Option Run → Engine
  | some run => { engine with runs := insertRun id run engine.runs }
  | none => engine

variable {engine : Engine} {id : SpriteId}

theorem join_ordered (ordered : engine.Ordered) (run? : Option Run) :
    (engine.join id run?).Ordered := by
  cases run? with
  | some run => exact Ascending.insertRun ordered
  | none => exact ordered

theorem runOf?_join (absent : engine.runOf? id = none) (run? : Option Run) (other : SpriteId) :
    (engine.join id run?).runOf? other = if id = other then run? else engine.runOf? other := by
  cases run? with
  | some run => exact runIn?_insertRun (runIn?_eq_none_iff.mp absent)
  | none =>
      by_cases same : id = other
      · rw [if_pos same, ← same]
        exact absent
      · rw [if_neg same]
        rfl

/-! ## Launching -/

def opening (id : SpriteId) (sprite : Sprite) : Trace :=
  [.runStarted id sprite.program.length, .acted (.setRunning id true)]

inductive Launching (engine : Engine) (stage : Stage) (id : SpriteId) (now : Float) :
    Turn Engine Bool → Prop
  | missing (absent : stage.sprite? id = none) :
      Launching engine stage id now ⟨engine, stage, false, [.spriteMissing id]⟩
  | refused (sprite : Sprite) (found : stage.sprite? id = some sprite)
      (unfit : sprite.isRunning = true ∨ sprite.program = [] ∨ engine.isRunning id = true) :
      Launching engine stage id now ⟨engine, stage, false, []⟩
  | launched (sprite : Sprite) (leg : Run.Leg) (found : stage.sprite? id = some sprite)
      (resting : sprite.isRunning = false) (filled : sprite.program ≠ [])
      (free : engine.isRunning id = false)
      (first : leg = (Run.ofProgram sprite.program).leg
        (scene engine.settings (stage.replay (opening id sprite)) id now)) :
      Launching engine stage id now
        ⟨engine.join id leg.run?, stage.replay (opening id sprite ++ leg.trace), true,
          opening id sprite ++ leg.trace⟩

theorem run_launching (engine : Engine) (stage : Stage) (id : SpriteId) (now : Float) :
    Launching engine stage id now (engine.run stage id now) := by
  rw [run]
  cases found : stage.sprite? id with
  | none => exact .missing found
  | some sprite =>
      dsimp only
      split
      · next unfit => exact .refused sprite found (by simpa [or_assoc] using unfit)
      · next fit =>
          simp only [Bool.or_eq_true, not_or, Bool.not_eq_true, List.isEmpty_eq_false_iff] at fit
          have launched : Launching engine stage id now _ :=
            .launched sprite _ found fit.1.1 fit.1.2 fit.2 rfl
          have opened : [.runStarted id sprite.program.length, .acted (.setRunning id true)] =
              opening id sprite := rfl
          rw [Stage.replay_append] at launched
          rw [opened]
          split
          · next going =>
              rw [Run.leg_of_going going] at launched
              exact launched
          · next ends =>
              rw [Run.leg_of_not_going ends] at launched
              exact launched

theorem run_eq_of_fit {stage : Stage} {sprite : Sprite} (found : stage.sprite? id = some sprite)
    (resting : sprite.isRunning = false) (filled : sprite.program ≠ [])
    (free : engine.isRunning id = false) (now : Float) :
    let leg := (Run.ofProgram sprite.program).leg
      (scene engine.settings (stage.replay (opening id sprite)) id now)
    engine.run stage id now = ⟨engine.join id leg.run?,
      stage.replay (opening id sprite ++ leg.trace), true, opening id sprite ++ leg.trace⟩ := by
  have launching := run_launching engine stage id now
  generalize engine.run stage id now = turn at launching ⊢
  cases launching with
  | missing absent =>
      rw [found] at absent
      cases absent
  | refused other same unfit =>
      cases found.symm.trans same
      simp [resting, filled, free] at unfit
  | launched other leg same _ _ _ first =>
      cases found.symm.trans same
      rw [first]

/-! ## Marking -/

theorem runOf?_stop (engine : Engine) (id other : SpriteId) :
    (engine.stop id).runOf? other =
      (engine.runOf? other).map fun run => if other = id then run.cancel else run := by
  simp only [runOf?, stop]
  induction engine.runs with
  | nil => rfl
  | cons entry rest induction =>
      rcases entry with ⟨first, run⟩
      by_cases named : first = id
      · rw [List.map_cons, if_pos named, runIn?_cons, runIn?_cons, induction]
        by_cases same : first = other
        · simp [← same, named]
        · simp [same]
      · rw [List.map_cons, if_neg named, runIn?_cons, runIn?_cons, induction]
        by_cases same : first = other
        · simp [← same, named]
        · simp [same]

theorem runOf?_stopAll (engine : Engine) (id : SpriteId) :
    engine.stopAll.runOf? id = (engine.runOf? id).map Run.cancel := by
  simp only [runOf?, stopAll]
  induction engine.runs with
  | nil => rfl
  | cons entry rest induction =>
      rcases entry with ⟨first, run⟩
      rw [List.map_cons, runIn?_cons, runIn?_cons, induction]
      by_cases same : first = id
      · simp [same]
      · simp [same]

theorem stop_ordered (ordered : engine.Ordered) (id : SpriteId) : (engine.stop id).Ordered := by
  have ids : (engine.stop id).runs.map Prod.fst = engine.runs.map Prod.fst := by
    simp only [stop, List.map_map]
    apply List.map_congr_left
    intro entry _
    simp only [Function.comp]
    split <;> rfl
  rw [Ordered, ids]
  exact ordered

theorem stopAll_ordered (ordered : engine.Ordered) : engine.stopAll.Ordered := by
  have ids : engine.stopAll.runs.map Prod.fst = engine.runs.map Prod.fst := by
    simp only [stopAll, List.map_map]
    rfl
  rw [Ordered, ids]
  exact ordered

end SpriteScript.Engine
