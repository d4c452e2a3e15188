import SpriteScript.Proofs.Run.Progress
import SpriteScript.Proofs.Session.Basic

namespace SpriteScript

/-! Progress. Advances at times that a run waits for bring it to its end, and there are at most
two of them for each block of the unfolding of its program. -/

/-! ## One leg -/

namespace Run

variable {run : Run} {scene : Scene}

theorem leg_work_lt {next : Run} (left : (run.leg scene).run? = some next)
    (met : run.wait.isMet scene.now = true) : next.work < run.work := by
  by_cases going : (run.drive scene).status = .going
  · rw [leg_of_going going] at left
    cases left
    exact (run.drive_driving scene).work_lt going met
  · rw [leg_of_not_going going] at left
    cases left

theorem leg_of_unmet (free : run.isCancelled = false)
    (unmet : run.wait.isMet scene.now = false) : (run.leg scene).run? = some run := by
  rcases (run.drive_driving scene).eq_of_unmet free unmet with ⟨going, same⟩
  rw [leg_of_going going, same]

end Run

namespace Session

/-! ## One call -/

def Call.isAdvance : Call → Bool
  | .engine (.advance _) => true
  | _ => false

def advances (calls : List Call) : Nat := calls.countP Call.isAdvance

def isMet (session : Session) (id : SpriteId) : Call → Bool
  | .engine (.advance now) => (session.engine.runOf? id).all fun run => run.wait.isMet now
  | _ => true

def areMet (session : Session) (id : SpriteId) : List Call → Bool
  | [] => true
  | call :: rest => session.isMet id call && (session.perform call).areMet id rest

variable {session : Session} {id : SpriteId} {run : Run}

theorem runOf?_perform_advance (ordered : session.engine.Ordered)
    (found : session.engine.runOf? id = some run) (now : Float) :
    (session.perform (.engine (.advance now))).engine.runOf? id =
      (run.leg (Engine.scene session.engine.settings session.stage id now)).run? :=
  (Engine.advance_of_some session.stage now ordered found).2.1

theorem runOf?_perform_other (found : session.engine.runOf? id = some run) {call : Call}
    (other : call.isAdvance = false) :
    (session.perform call).engine.runOf? id = some run ∨
      (session.perform call).engine.runOf? id = some run.cancel := by
  cases call with
  | engine call =>
      cases call with
      | run target now =>
          refine .inl ?_
          have launching := Engine.run_launching session.engine session.stage target now
          simp only [perform, Engine.perform]
          generalize session.engine.run session.stage target now = turn at launching
          cases launching with
          | missing => exact found
          | refused => exact found
          | launched sprite leg present resting filled free =>
              have absent := Engine.isRunning_eq_false_iff.mp free
              have different : target ≠ id := by
                intro same
                rw [same, found] at absent
                cases absent
              rw [Engine.runOf?_join absent, if_neg different, found]
      | advance now => cases other
      | stop target =>
          simp only [perform, Engine.perform, Engine.runOf?_stop, found, Option.map_some]
          split
          · exact .inr rfl
          · exact .inl rfl
      | stopAll =>
          refine .inr ?_
          simp only [perform, Engine.perform, Engine.runOf?_stopAll, found, Option.map_some]
  | detector call => exact .inl found
  | edit edit => exact .inl found

theorem perform_work (ordered : session.engine.Ordered)
    (found : session.engine.runOf? id = some run) {call : Call}
    (met : session.isMet id call = true) {next : Run}
    (left : (session.perform call).engine.runOf? id = some next) :
    advances [call] + next.work ≤ run.work := by
  cases isAdvance : call.isAdvance with
  | false =>
      have none : advances [call] = 0 := by simp [advances, isAdvance]
      rw [none, Nat.zero_add]
      rcases runOf?_perform_other found isAdvance with kept | marked
      · rw [left] at kept
        cases kept
        exact Nat.le_refl _
      · rw [left] at marked
        cases marked
        exact Nat.le_of_eq run.work_cancel
  | true =>
      have one : advances [call] = 1 := by simp [advances, isAdvance]
      rw [one, Nat.add_comm]
      cases call with
      | engine call =>
          cases call with
          | advance now =>
              rw [runOf?_perform_advance ordered found now] at left
              have timely : run.wait.isMet now = true := by simpa [isMet, found] using met
              exact Run.leg_work_lt left timely
          | run | stop | stopAll => cases isAdvance
      | detector | edit => cases isAdvance

/-! ## Many calls -/

/-- Whether a run is over after some of the calls, and after no more than a number of
advances. -/
def IsOverWithin (session : Session) (id : SpriteId) (limit : Nat) (calls : List Call) : Prop :=
  ∃ before, before <+: calls ∧ advances before ≤ limit ∧
    (session.after before).engine.runOf? id = none

theorem isOverWithin_of_none (idle : session.engine.runOf? id = none) (limit : Nat)
    (calls : List Call) : session.IsOverWithin id limit calls :=
  ⟨[], List.nil_prefix, Nat.zero_le _, idle⟩

theorem advances_cons (call : Call) (rest : List Call) :
    advances (call :: rest) = advances [call] + advances rest := by
  rw [advances, ← List.singleton_append, List.countP_append]
  rfl

theorem advances_singleton_le (call : Call) : advances [call] ≤ 1 :=
  List.countP_le_length

theorem IsOverWithin.cons {call : Call} {limit : Nat} {rest : List Call}
    (later : (session.perform call).IsOverWithin id limit rest) {bound : Nat}
    (within : advances [call] + limit ≤ bound) :
    session.IsOverWithin id bound (call :: rest) := by
  rcases later with ⟨before, isFront, few, ends⟩
  refine ⟨call :: before, (List.prefix_cons_inj call).mpr isFront, ?_, ends⟩
  rw [advances_cons]
  exact Nat.le_trans (Nat.add_le_add_left few _) within

theorem isOverWithin_work (ordered : session.engine.Ordered)
    (found : session.engine.runOf? id = some run) {calls : List Call}
    (met : session.areMet id calls = true) (many : run.work ≤ advances calls) :
    session.IsOverWithin id run.work calls := by
  induction calls generalizing session run with
  | nil => exact absurd many (Nat.not_le.mpr run.work_pos)
  | cons call rest induction =>
      rw [areMet, Bool.and_eq_true] at met
      cases left : (session.perform call).engine.runOf? id with
      | none =>
          have later := isOverWithin_of_none left 0 rest
          exact later.cons (Nat.le_trans (advances_singleton_le call) run.work_pos)
      | some next =>
          have taken := perform_work ordered found met.1 left
          rw [advances_cons] at many
          have fewer : next.work ≤ advances rest :=
            Nat.le_of_add_le_add_left (Nat.le_trans taken many)
          exact (induction (perform_ordered ordered call) left met.2 fewer).cons taken

/-- From its start a run is over after two advances for each block of the unfolding of its
program at most, however it ends, if each of them comes at a time that the run waits for then.
Whatever else is called meanwhile does not matter. An advance at another time leaves a run
that is not marked as it is. -/
theorem over_in_time (reached : session.Reached) {sprite : Sprite}
    (found : session.stage.sprite? id = some sprite) (resting : sprite.isRunning = false)
    (free : session.engine.isRunning id = false) (now : Float) (later : List Call) :
    let begun := session.perform (.engine (.run id now))
    let limit := 2 * (Block.unfolds sprite.program).length
    (begun.areMet id later = true → limit ≤ advances later →
      ∃ before, before <+: later ∧ advances before ≤ limit ∧
        (begun.after before).engine.isRunning id = false) ∧
    ∀ run moment, (begun.after later).engine.runOf? id = some run → run.isCancelled = false →
      run.wait.isMet moment = false →
        ((begun.after later).perform (.engine (.advance moment))).engine.runOf? id = some run := by
  intro begun limit
  have ordered : begun.engine.Ordered := perform_ordered reached.ordered _
  constructor
  · intro met many
    simp only [Engine.isRunning_eq_false_iff]
    rcases perform_run found resting free now with
      ⟨empty, silent, idle, kept⟩ | ⟨told, left, changed⟩
    · exact isOverWithin_of_none idle limit later
    · cases running : begun.engine.runOf? id with
      | none => exact isOverWithin_of_none running limit later
      | some run =>
          -- The first leg comes with the start, and takes the one call beyond the limit.
          have less := Run.leg_work_lt (left.symm.trans running) rfl
          rw [Run.work_ofProgram] at less
          rcases isOverWithin_work ordered running met (by omega) with
            ⟨before, isFront, few, ends⟩
          exact ⟨before, isFront, by omega, ends⟩
  · intro run moment running unmarked unmet
    rw [runOf?_perform_advance (after_ordered ordered later) running]
    exact Run.leg_of_unmet unmarked unmet

/-- A turn that is repeated twice, in advances each of which comes at the first time that the
run waits for. After the first of them, another advance comes too early. -/
theorem over_in_time_repeat :
    let turn := Block.plain ⟨⟨1⟩, .turnDegrees, [("degrees", ⟨.number, .number 90.0⟩)]⟩
    let program := [Block.container ⟨⟨2⟩, .repeatTimes, [("times", ⟨.number, .number 2.0⟩)]⟩ [turn]]
    let sprite := { Sprite.new ⟨1⟩ "Cat" .origin with program }
    let stage := { Stage.ofSeed 0 with sprites := [sprite] }
    let session := begin .standard stage ⟨100.0, 40.0, 100.0, none, []⟩
    let begun := session.perform (.engine (.run ⟨1⟩ 0.0))
    let times := [300.0, 350.0, 650.0, 700.0, 750.0, 760.0]
    let later : List Call := times.map fun now => .engine (.advance now)
    let paused := begun.after (later.take 1)
    (∃ before, before <+: later ∧ advances before ≤ 6 ∧
      (begun.after before).engine.isRunning ⟨1⟩ = false) ∧
    ((paused.perform (.engine (.advance 349.0))).engine.runOf? ⟨1⟩).isSome := by
  intro turn program sprite stage session begun times later paused
  have reached : session.Reached := ⟨_, _, _, [], rfl⟩
  have found : session.stage.sprite? ⟨1⟩ = some sprite := rfl
  have whole := over_in_time reached found rfl rfl 0.0 later
  have part := over_in_time reached found rfl rfl 0.0 (later.take 1)
  refine ⟨whole.1 (by decide +kernel) (by decide +kernel), ?_⟩
  cases running : paused.engine.runOf? ⟨1⟩ with
  | none =>
      have going : paused.engine.isRunning ⟨1⟩ = true := by decide +kernel
      rw [Engine.isRunning_eq_false_iff.mpr running] at going
      cases going
  | some run =>
      have here : paused.engine.runOf? ⟨1⟩ = some run := running
      have unmarked : (paused.engine.runOf? ⟨1⟩).all
          (fun run => !run.isCancelled && !run.wait.isMet 349.0) = true := by decide +kernel
      rw [here] at unmarked
      simp only [Option.all_some, Bool.and_eq_true, Bool.not_eq_true'] at unmarked
      rw [part.2 run 349.0 here unmarked.1 unmarked.2]
      rfl

end Session

end SpriteScript
