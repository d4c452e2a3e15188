import Mathlib.Data.List.Nodup
import Mathlib.Data.List.Perm.Basic
import SpriteScript.Proofs.Engine.Advance
import SpriteScript.Proofs.Stage.Commutation

namespace SpriteScript.Engine

/-! The order in which the runs of different sprites are moved on does not matter. A pass
gives each run its leg from the stage as it was before the pass, and what is told of the
runs changes sprites that are not the same. -/

/-! ## A pass, run by run -/

def lasting? (sceneOf : SpriteId → Run.Scene) (entry : SpriteId × Run) :
    Option (SpriteId × Run) :=
  (entry.2.leg (sceneOf entry.1)).run?.map fun run => (entry.1, run)

def ending? (sceneOf : SpriteId → Run.Scene) (entry : SpriteId × Run) : Option SpriteId :=
  match (entry.2.leg (sceneOf entry.1)).run? with
  | some _ => none
  | none => some entry.1

def told (sceneOf : SpriteId → Run.Scene) (entry : SpriteId × Run) : Trace :=
  entry.2.report (sceneOf entry.1)

theorem driveAll_eq (settings : Settings) (now : Float) {stage : Stage}
    (sceneOf : SpriteId → Run.Scene) {runs : List (SpriteId × Run)}
    (distinct : (runs.map Prod.fst).Nodup)
    (scenes : ∀ entry ∈ runs, scene settings stage entry.1 now = sceneOf entry.1) :
    let pass := driveAll settings now stage runs
    pass.runs = runs.filterMap (lasting? sceneOf) ∧ pass.ended = runs.filterMap (ending? sceneOf) ∧
      pass.trace = runs.flatMap (told sceneOf) := by
  induction runs generalizing stage with
  | nil => exact ⟨rfl, rfl, rfl⟩
  | cons entry rest induction =>
      rcases entry with ⟨id, run⟩
      rcases List.nodup_cons.mp distinct with ⟨absent, restDistinct⟩
      rcases List.forall_mem_cons.mp scenes with ⟨first, later⟩
      -- The later runs see their sprites as they were before the first run moved on.
      have own := run.report_isOwn (scene settings stage id now)
      have restScenes : ∀ entry ∈ rest, scene settings
          (stage.replay (run.report (scene settings stage id now))) entry.1 now =
            sceneOf entry.1 := by
        intro entry member
        have different : entry.1 ≠ id := fun equal =>
          absent (equal ▸ List.mem_map.mpr ⟨entry, member, rfl⟩)
        rw [scene_replay_of_ne settings now stage own different]
        exact later entry member
      rcases induction restDistinct restScenes with ⟨runs, ended, trace⟩
      simp only [driveAll_cons, runs, ended, trace, List.filterMap_cons, List.flatMap_cons]
      simp only at first
      rw [first]
      by_cases going : (run.drive (sceneOf id)).status = .going
      · simp [lasting?, ending?, told, Run.leg_of_going going, going]
      · simp [lasting?, ending?, told, Run.leg_of_not_going going, going]

/-! ## Own traces -/

theorem replay_flatMap (stage : Stage) {α : Type} (trace : α → Trace) (items : List α) :
    stage.replay (items.flatMap trace) =
      items.foldl (fun stage item => stage.replay (trace item)) stage := by
  induction items generalizing stage with
  | nil => rfl
  | cons item rest induction =>
      rw [List.flatMap_cons, Stage.replay_append, induction, List.foldl_cons]

theorem replay_flatMap_perm (stage : Stage) {α : Type} (sprite : α → SpriteId) {trace : α → Trace}
    (own : ∀ item, (trace item).IsOwn (sprite item)) {items others : List α}
    (distinct : (items.map sprite).Nodup) (same : items.Perm others) :
    stage.replay (items.flatMap trace) = stage.replay (others.flatMap trace) := by
  rw [replay_flatMap, replay_flatMap]
  refine same.foldl_eq' ?_ stage
  intro left leftMember right rightMember stage
  by_cases equal : sprite left = sprite right
  · rw [List.inj_on_of_nodup_map distinct leftMember rightMember equal]
  · exact stage.replay_comm equal (own left) (own right)

/-! ## An advance -/

variable {engine : Engine}

theorem advance_perm (ordered : engine.Ordered) (stage : Stage) (now : Float)
    {order : List (SpriteId × Run)} (same : engine.runs.Perm order) :
    let turn := engine.advance stage now
    let other := { engine with runs := order }.advance stage now
    turn.stage = other.stage ∧ turn.actor.runs.Perm other.actor.runs := by
  intro turn other
  let sceneOf (id : SpriteId) : Run.Scene := scene engine.settings stage id now
  have distinct : (engine.runs.map Prod.fst).Nodup := ordered.nodup
  have otherDistinct : (order.map Prod.fst).Nodup := (same.map Prod.fst).nodup_iff.mp distinct
  have pass : _ ∧ _ ∧ _ := driveAll_eq engine.settings now sceneOf distinct fun _ _ => rfl
  have otherPass : _ ∧ _ ∧ _ := driveAll_eq engine.settings now sceneOf otherDistinct
    fun _ _ => rfl
  constructor
  · have answers : turn.answer.Perm other.answer := by
      simp only [turn, other, advance, pass.2.1, otherPass.2.1]
      exact same.filterMap _
    have ended : turn.answer.Nodup := (advance_answer_ascending stage now ordered).nodup
    simp only [turn, other, advance] at answers ended ⊢
    rw [driveAll_stage, driveAll_stage, pass.2.2, otherPass.2.2]
    have own (entry : SpriteId × Run) : (told sceneOf entry).IsOwn entry.1 :=
      entry.2.report_isOwn _
    rw [replay_flatMap_perm stage Prod.fst own distinct same]
    exact replay_flatMap_perm _ id finish_isOwn (by rwa [List.map_id]) answers
  · simp only [turn, other, advance, pass.1, otherPass.1]
    exact same.filterMap _

/-! ## Many advances -/

def advanceAll (engine : Engine) (stage : Stage) : List Float → Engine × Stage
  | [] => (engine, stage)
  | now :: later =>
      let turn := engine.advance stage now
      turn.actor.advanceAll turn.stage later

/-- Where advances at some times lead, if each of them takes the runs in any order. -/
inductive Advancing : Engine → Stage → List Float → Engine → Stage → Prop
  | done (engine : Engine) (stage : Stage) : Advancing engine stage [] engine stage
  | advanced (engine : Engine) (stage : Stage) (now : Float) (later : List Float)
      (order : List (SpriteId × Run)) (same : engine.runs.Perm order) (last : Engine)
      (lastStage : Stage)
      (rest : Advancing ({ engine with runs := order }.advance stage now).actor
        ({ engine with runs := order }.advance stage now).stage later last lastStage) :
      Advancing engine stage (now :: later) last lastStage

theorem Advancing.perm {start last : Engine} {stage lastStage : Stage} {times : List Float}
    (advancing : Advancing start stage times last lastStage) (ordered : engine.Ordered)
    (settings : engine.settings = start.settings) (same : engine.runs.Perm start.runs) :
    (engine.advanceAll stage times).2 = lastStage ∧
      (engine.advanceAll stage times).1.runs.Perm last.runs := by
  induction advancing generalizing engine with
  | done start stage => exact ⟨rfl, same⟩
  | advanced start stage now later order shuffled last lastStage rest induction =>
      rw [← settings] at induction
      have unmoved := advance_perm ordered stage now (same.trans shuffled)
      have onward := induction (advance_ordered stage now ordered) rfl unmoved.2
      rw [← unmoved.1] at onward
      exact onward

end SpriteScript.Engine
