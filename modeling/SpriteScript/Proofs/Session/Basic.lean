import SpriteScript.Proofs.Detector.Call
import SpriteScript.Proofs.Engine.Share

namespace SpriteScript

/-! Sessions: an engine and a detector at work on one stage, which is edited
meanwhile. The calls come in any order and at any times. -/

structure Session where
  stage : Stage
  engine : Engine
  detector : Detector Float

namespace Session

inductive Call
  | engine (call : Engine.Call)
  | detector (call : Detector.Call)
  | edit (edit : Stage.Edit)

def Call.isOfEngine : Call → Bool
  | .engine _ => true
  | .detector _ | .edit _ => false

def begin (settings : Settings) (stage : Stage) (detector : Detector Float) : Session :=
  ⟨stage, .ofSettings settings, detector⟩

def perform (session : Session) : Call → Session
  | .engine call =>
      let turn := session.engine.perform session.stage call
      { session with stage := turn.stage, engine := turn.actor }
  | .detector call =>
      let turn := session.detector.perform session.stage call
      { session with stage := turn.stage, detector := turn.actor }
  | .edit edit => { session with stage := session.stage.edit edit }

def told (session : Session) : Call → Trace
  | .engine call => (session.engine.perform session.stage call).trace
  | .detector _ | .edit _ => []

def after (session : Session) : List Call → Session
  | [] => session
  | call :: rest => (session.perform call).after rest

def engineTrace (session : Session) : List Call → Trace
  | [] => []
  | call :: rest => session.told call ++ (session.perform call).engineTrace rest

/-- Whether a session began with a new engine. -/
def Reached (session : Session) : Prop :=
  ∃ settings stage detector calls, session = (begin settings stage detector).after calls

def NeverRuns (id : SpriteId) (calls : List Call) : Prop :=
  ∀ call ∈ calls, ∀ now, call ≠ .engine (.run id now)

variable {session : Session}

theorem after_of_perform {motive : Session → Prop} {allowed : Call → Prop}
    (keeps : ∀ {session call}, motive session → allowed call → motive (session.perform call))
    (holds : motive session) {calls : List Call} (allows : ∀ call ∈ calls, allowed call) :
    motive (session.after calls) := by
  induction calls generalizing session with
  | nil => exact holds
  | cons call rest induction =>
      rcases List.forall_mem_cons.mp allows with ⟨first, later⟩
      exact induction (keeps holds first) later

/-! ## The order of the runs -/

theorem perform_ordered (ordered : session.engine.Ordered) (call : Call) :
    (session.perform call).engine.Ordered := by
  cases call with
  | engine call => exact Engine.perform_ordered ordered session.stage call
  | detector call => exact ordered
  | edit edit => exact ordered

theorem after_ordered (ordered : session.engine.Ordered) (calls : List Call) :
    (session.after calls).engine.Ordered :=
  after_of_perform (motive := fun session => session.engine.Ordered)
    (fun ordered (_ : True) => perform_ordered ordered _) ordered fun _ _ => trivial

theorem Reached.ordered (reached : session.Reached) : session.engine.Ordered := by
  rcases reached with ⟨settings, stage, detector, calls, same⟩
  rw [same]
  have begun : (begin settings stage detector).engine.Ordered := .nil
  exact after_ordered begun calls

/-! ## A sprite without a run -/

theorem perform_of_none (ordered : session.engine.Ordered) {id : SpriteId}
    (idle : session.engine.runOf? id = none) {call : Call}
    (notRun : ∀ now, call ≠ .engine (.run id now)) :
    let next := session.perform call
    (session.told call).about id = [] ∧ next.engine.runOf? id = none ∧
      (call.isOfEngine = true → next.stage.sprite? id = session.stage.sprite? id) := by
  cases call with
  | engine call =>
      have untouched := Engine.perform_of_none ordered session.stage idle call
        fun now same => notRun now (congrArg Call.engine same)
      refine ⟨untouched.2, untouched.1, fun _ => ?_⟩
      simp only [perform]
      rw [Engine.sprite?_perform, untouched.2]
      simp [Trace.actions]
  | detector call => exact ⟨rfl, idle, fun isOf => absurd isOf Bool.false_ne_true⟩
  | edit edit => exact ⟨rfl, idle, fun isOf => absurd isOf Bool.false_ne_true⟩

theorem engineTrace_of_none (ordered : session.engine.Ordered) {id : SpriteId}
    (idle : session.engine.runOf? id = none) {calls : List Call}
    (notRun : NeverRuns id calls) :
    (session.engineTrace calls).about id = [] ∧
      (session.after calls).engine.runOf? id = none := by
  induction calls generalizing session with
  | nil => exact ⟨rfl, idle⟩
  | cons call rest induction =>
      rcases List.forall_mem_cons.mp notRun with ⟨notFirst, notLater⟩
      rcases perform_of_none ordered idle notFirst with ⟨silent, idleNext, _⟩
      have later := induction (perform_ordered ordered call) idleNext notLater
      rw [engineTrace, Trace.about_append, silent, later.1]
      exact ⟨rfl, later.2⟩

/-! ## A sprite with a run -/

theorem perform_of_some (ordered : session.engine.Ordered) {id : SpriteId} {run : Run}
    (found : session.engine.runOf? id = some run) (call : Call) :
    let next := session.perform call
    ((session.told call).about id = [] ∧
        (next.engine.runOf? id = some run ∨ next.engine.runOf? id = some run.cancel) ∧
        (call.isOfEngine = true → next.stage.sprite? id = session.stage.sprite? id)) ∨
      ∃ now, let leg := run.leg (Engine.scene session.engine.settings session.stage id now)
        (session.told call).about id = leg.trace.about id ∧ next.engine.runOf? id = leg.run? ∧
          next.stage.sprite? id = (session.stage.sprite? id).map fun sprite =>
            sprite.perform (leg.trace.about id).actions := by
  cases call with
  | engine call =>
      have step := Engine.perform_step ordered session.stage call id
      rcases step.of_some found with ⟨silent, kept, left⟩ | ⟨now, told, left, changed⟩
      · exact .inl ⟨silent, left, fun _ => kept⟩
      · rw [told] at changed
        exact .inr ⟨now, told, left, changed⟩
  | detector call => exact .inl ⟨rfl, .inl found, fun isOf => absurd isOf Bool.false_ne_true⟩
  | edit edit => exact .inl ⟨rfl, .inl found, fun isOf => absurd isOf Bool.false_ne_true⟩

/-! ## The start of a run -/

theorem perform_run {id : SpriteId} {sprite : Sprite}
    (found : session.stage.sprite? id = some sprite) (resting : sprite.isRunning = false)
    (free : session.engine.isRunning id = false) (now : Float) :
    let told := (session.told (.engine (.run id now))).about id
    let next := session.perform (.engine (.run id now))
    let leg := (Run.ofProgram sprite.program).leg
      ⟨session.engine.settings, id, some { sprite with isRunning := true }, now⟩
    (sprite.program = [] ∧ told = [] ∧ next.engine.runOf? id = none ∧
        next.stage.sprite? id = some sprite) ∨
      (told = Engine.opening id sprite ++ leg.trace.about id ∧
        next.engine.runOf? id = leg.run? ∧
        next.stage.sprite? id = some
          ({ sprite with isRunning := true }.perform (leg.trace.about id).actions)) := by
  by_cases filled : sprite.program = []
  · refine .inl ⟨filled, ?_⟩
    have refused := session.engine.run_of_empty found filled now
    have absent := Engine.isRunning_eq_false_iff.mp free
    simp [told, perform, Engine.perform, refused, absent, found]
  · rcases Engine.run_of_fit found resting filled free now with ⟨_, told, shared⟩
    exact .inr ⟨told, congrArg Engine.Share.run? shared, congrArg Engine.Share.sprite? shared⟩

end Session

end SpriteScript
