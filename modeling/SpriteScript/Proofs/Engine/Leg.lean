import SpriteScript.Play.Engine
import SpriteScript.Proofs.Run.Own

namespace SpriteScript

/-! Legs: one drive of one run inside an engine. Whatever runs are driven beside
it, an engine gives a run the same leg, and the sprites of other runs see nothing
of it. -/

def Run.report (run : Run) (scene : Run.Scene) : Trace :=
  (run.drive scene).trace ++ Engine.failure scene.id (run.drive scene).status

structure Run.Leg where
  run? : Option Run
  trace : Trace

/-- One drive of a run. A run that does not go on is finished. -/
def Run.leg (run : Run) (scene : Run.Scene) : Run.Leg :=
  let driven := run.drive scene
  if driven.status = .going then
    ⟨some driven.run, run.report scene⟩
  else
    ⟨none, run.report scene ++ Engine.finish scene.id⟩

namespace Engine

theorem failure_isOwn (id : SpriteId) (status : Run.Status) : (failure id status).IsOwn id := by
  cases status with
  | failed fault =>
      exact List.forall_mem_singleton.mpr (by simp [Event.isOwn, Event.sprite?])
  | _ => exact List.forall_mem_nil _

theorem actions_failure (id : SpriteId) (status : Run.Status) :
    (failure id status).actions = [] := by
  cases status <;> rfl

theorem finish_isOwn (id : SpriteId) : (finish id).IsOwn id := by
  intro event member
  simp only [finish, List.mem_cons, List.not_mem_nil, or_false] at member
  rcases member with switched | told
  · simp [switched, Event.isOwn, Event.sprite?, Action.sprite?]
  · simp [told, Event.isOwn, Event.sprite?]

end Engine

namespace Run

variable (run : Run) (scene : Scene)

theorem report_isOwn : (run.report scene).IsOwn scene.id :=
  (run.drive_driving scene).isOfRun.isOwn.append (Engine.failure_isOwn _ _)

theorem actions_report : (run.report scene).actions = (run.drive scene).trace.actions := by
  rw [report, Trace.actions_append, Engine.actions_failure, List.append_nil]

theorem leg_of_going {run : Run} {scene : Scene} (going : (run.drive scene).status = .going) :
    run.leg scene = ⟨some (run.drive scene).run, (run.drive scene).trace⟩ := by
  simp [leg, report, going, Engine.failure]

theorem leg_of_not_going {run : Run} {scene : Scene}
    (ends : (run.drive scene).status ≠ .going) :
    run.leg scene = ⟨none, (run.drive scene).trace ++
      Engine.failure scene.id (run.drive scene).status ++ Engine.finish scene.id⟩ := by
  simp [leg, report, ends]

theorem leg_isOwn : (run.leg scene).trace.IsOwn scene.id := by
  rw [leg]
  split
  · exact run.report_isOwn scene
  · exact (run.report_isOwn scene).append (Engine.finish_isOwn _)

end Run

/-! ## The runs of an engine -/

namespace Engine

def runIn? (runs : List (SpriteId × Run)) (id : SpriteId) : Option Run :=
  (runs.find? fun entry => entry.1 == id).map Prod.snd

def runOf? (engine : Engine) (id : SpriteId) : Option Run := runIn? engine.runs id

def Ascending (ids : List SpriteId) : Prop :=
  ids.Pairwise fun left right => left.number < right.number

def Ordered (engine : Engine) : Prop := Ascending (engine.runs.map Prod.fst)

theorem isRunning_eq (engine : Engine) (id : SpriteId) :
    engine.isRunning id = (engine.runOf? id).isSome := by
  rw [Bool.eq_iff_iff, isRunning, runOf?, runIn?, Option.isSome_map, List.any_eq_true,
    List.find?_isSome]

theorem isRunning_eq_false_iff {engine : Engine} {id : SpriteId} :
    engine.isRunning id = false ↔ engine.runOf? id = none := by
  rw [isRunning_eq, Option.isSome_eq_false_iff, Option.isNone_iff_eq_none]

@[simp] theorem runIn?_nil (id : SpriteId) : runIn? [] id = none := rfl

theorem runIn?_cons (id other : SpriteId) (run : Run) (rest : List (SpriteId × Run)) :
    runIn? ((other, run) :: rest) id = if other = id then some run else runIn? rest id := by
  by_cases same : other = id
  · simp [runIn?, same]
  · simp [runIn?, same]

theorem runIn?_eq_none_iff {runs : List (SpriteId × Run)} {id : SpriteId} :
    runIn? runs id = none ↔ id ∉ runs.map Prod.fst := by
  induction runs with
  | nil => simp
  | cons entry rest induction =>
      rcases entry with ⟨other, run⟩
      rw [runIn?_cons, List.map_cons, List.mem_cons, not_or]
      by_cases same : other = id
      · simp [same]
      · have different : ¬id = other := fun equal => same equal.symm
        simp [same, different, induction]

@[simp] theorem scene_id (settings : Settings) (stage : Stage) (id : SpriteId) (now : Float) :
    (scene settings stage id now).id = id := rfl

theorem Ascending.nodup {ids : List SpriteId} (ascending : Ascending ids) : ids.Nodup := by
  refine List.Pairwise.imp ?_ ascending
  intro left right less equal
  rw [equal] at less
  exact UInt32.lt_irrefl _ less

end Engine

end SpriteScript
