import SpriteScript.Proofs.Engine.Call
import SpriteScript.Proofs.Run.Blanked
import SpriteScript.Proofs.Stage.Bare

namespace SpriteScript

/-! Malformed blocks do nothing. On two stages that differ in malformed blocks that are
blanked, engines do the same in each call, and their runs end in the same calls. -/

/-! ## Sprites and stages -/

structure Sprite.Blanked (sprite other : Sprite) : Prop where
  bare : sprite.bare = other.bare
  program : List.Forall₂ Block.Blanked sprite.program other.program

namespace Sprite

theorem program_perform (sprite : Sprite) (actions : List Action) :
    (sprite.perform actions).program = sprite.program := by
  induction actions generalizing sprite with
  | nil => rfl
  | cons action rest induction =>
      rw [perform_cons, induction]
      cases action <;> rfl

theorem Blanked.refl (sprite : Sprite) : sprite.Blanked sprite :=
  ⟨rfl, Block.Blanked.refls sprite.program⟩

variable {sprite other : Sprite}

theorem Blanked.perform (alike : sprite.Blanked other) (actions : List Action) :
    (sprite.perform actions).Blanked (other.perform actions) := by
  refine ⟨?_, ?_⟩
  · rw [bare_perform, bare_perform, alike.bare]
  · rw [program_perform, program_perform]
    exact alike.program

theorem Blanked.view {α : Type} (alike : sprite.Blanked other) (view : Sprite → α)
    (blind : ∀ sprite, view sprite.bare = view sprite) : view sprite = view other := by
  rw [← blind sprite, alike.bare, blind other]

theorem Blanked.isEmpty (alike : sprite.Blanked other) :
    sprite.program.isEmpty = other.program.isEmpty := by
  rw [Bool.eq_iff_iff, List.isEmpty_iff_length_eq_zero, List.isEmpty_iff_length_eq_zero,
    alike.program.length_eq]

end Sprite

namespace Stage

def Blanked (stage other : Stage) : Prop :=
  ∀ id, Option.Rel Sprite.Blanked (stage.sprite? id) (other.sprite? id)

variable {stage other : Stage}

theorem Blanked.sprite?_or (alike : stage.Blanked other) (id : SpriteId) :
    (stage.sprite? id = none ∧ other.sprite? id = none) ∨
      ∃ sprite sibling, stage.sprite? id = some sprite ∧ other.sprite? id = some sibling ∧
        sprite.Blanked sibling := by
  have sprites := alike id
  generalize stage.sprite? id = sprite? at sprites ⊢
  generalize other.sprite? id = sibling? at sprites ⊢
  cases sprites with
  | none => exact .inl ⟨rfl, rfl⟩
  | some spriteAlike => exact .inr ⟨_, _, rfl, rfl, spriteAlike⟩

theorem Blanked.stance (alike : stage.Blanked other) (id : SpriteId) :
    (stage.sprite? id).map Sprite.stance = (other.sprite? id).map Sprite.stance := by
  rcases alike.sprite?_or id with ⟨absent, gone⟩ | ⟨sprite, sibling, found, isSibling, sprites⟩
  · rw [absent, gone]
  · rw [found, isSibling]
    exact congrArg some (sprites.view Sprite.stance fun _ => rfl)

theorem Blanked.replay (alike : stage.Blanked other) {trace otherTrace : Trace}
    (acts : trace.actions = otherTrace.actions) (named : trace.IsNamed) :
    (stage.replay trace).Blanked (other.replay otherTrace) := by
  intro id
  have otherNamed : otherTrace.IsNamed := by
    rw [Trace.IsNamed, ← acts]
    exact named
  rw [sprite?_replay stage named.noTrade, sprite?_replay other otherNamed.noTrade,
    Trace.actions_about, Trace.actions_about, acts]
  rcases alike.sprite?_or id with ⟨absent, gone⟩ | ⟨sprite, sibling, found, isSibling, sprites⟩
  · rw [absent, gone]
    exact .none
  · rw [found, isSibling]
    exact .some (sprites.perform _)

theorem blanked_changeProgram (stage : Stage) (id : SpriteId) {program other : List Block}
    (alike : List.Forall₂ Block.Blanked program other) :
    (stage.changeSprite id fun sprite => { sprite with program }).Blanked
      (stage.changeSprite id fun sprite => { sprite with program := other }) := by
  intro named
  have changed (program : List Block) :=
    stage.sprite?_changeSprite id named (fun sprite => { sprite with program }) fun _ => rfl
  rw [changed program, changed other]
  by_cases same : named = id
  · rw [if_pos same, if_pos same]
    cases stage.sprite? id with
    | none => exact .none
    | some sprite => exact .some ⟨rfl, alike⟩
  · rw [if_neg same, if_neg same]
    cases stage.sprite? named with
    | none => exact .none
    | some sprite => exact .some (.refl sprite)

end Stage

/-! ## Legs -/

namespace Run

structure Leg.Blanked (leg other : Leg) : Prop where
  run? : Option.Rel Run.Blanked leg.run? other.run?
  actions : leg.trace.actions = other.trace.actions

variable {run sibling : Run} {sprite? other? : Option Sprite}

theorem drive_blanked_of_stance (alike : run.Blanked sibling)
    (same : sprite?.map Sprite.stance = other?.map Sprite.stance) (settings : Settings)
    (id : SpriteId) (now : Float) :
    (run.drive ⟨settings, id, sprite?, now⟩).Blanked
      (sibling.drive ⟨settings, id, other?, now⟩) := by
  rw [drive_of_stance same]
  exact drive_blanked alike _

theorem leg_blanked (alike : run.Blanked sibling)
    (same : sprite?.map Sprite.stance = other?.map Sprite.stance) (settings : Settings)
    (id : SpriteId) (now : Float) :
    (run.leg ⟨settings, id, sprite?, now⟩).Blanked (sibling.leg ⟨settings, id, other?, now⟩) := by
  have driven := drive_blanked_of_stance alike same settings id now
  have told := (run.actions_report _).trans (driven.actions.trans (sibling.actions_report _).symm)
  rw [leg, leg, ← driven.status]
  split
  · exact ⟨.some driven.run, told⟩
  · refine ⟨.none, ?_⟩
    rw [Trace.actions_append, told, ← Trace.actions_append]

end Run

namespace Engine

/-! ## The runs of an engine -/

def AreBlanked (runs others : List (SpriteId × Run)) : Prop :=
  List.Forall₂ (fun entry other => entry.1 = other.1 ∧ entry.2.Blanked other.2) runs others

structure Blanked (engine other : Engine) : Prop where
  settings : engine.settings = other.settings
  runs : AreBlanked engine.runs other.runs

variable {runs others : List (SpriteId × Run)}

theorem AreBlanked.ids (alike : AreBlanked runs others) :
    runs.map Prod.fst = others.map Prod.fst := by
  induction alike with
  | nil => rfl
  | cons first _ induction => rw [List.map_cons, List.map_cons, first.1, induction]

theorem AreBlanked.insertRun (alike : AreBlanked runs others) (id : SpriteId) {run sibling : Run}
    (runAlike : run.Blanked sibling) :
    AreBlanked (insertRun id run runs) (insertRun id sibling others) := by
  induction alike with
  | nil => exact .cons ⟨rfl, runAlike⟩ .nil
  | @cons entry other rest restOthers first later induction =>
      rw [Engine.insertRun, Engine.insertRun, ← first.1]
      by_cases before : id.number < entry.1.number
      · rw [if_pos before, if_pos before]
        exact .cons ⟨rfl, runAlike⟩ (.cons first later)
      · rw [if_neg before, if_neg before]
        by_cases same : id = entry.1
        · rw [if_pos same, if_pos same]
          exact .cons ⟨rfl, runAlike⟩ later
        · rw [if_neg same, if_neg same]
          exact .cons first induction

variable {engine other : Engine} {stage otherStage : Stage}

theorem Blanked.isRunning (alike : engine.Blanked other) (id : SpriteId) :
    engine.isRunning id = other.isRunning id := by
  have named (runs : List (SpriteId × Run)) :
      runs.any (fun entry => entry.1 == id) = (runs.map Prod.fst).any (· == id) := by
    rw [List.any_map]
    rfl
  rw [Engine.isRunning, Engine.isRunning, named, named, alike.runs.ids]

theorem Blanked.join (alike : engine.Blanked other) (id : SpriteId) {run? sibling? : Option Run}
    (runs : Option.Rel Run.Blanked run? sibling?) :
    (engine.join id run?).Blanked (other.join id sibling?) := by
  cases runs with
  | none => exact alike
  | some run => exact ⟨alike.settings, alike.runs.insertRun id run⟩

/-! ## Calls -/

structure Pass.Blanked (pass other : Pass) : Prop where
  runs : AreBlanked pass.runs other.runs
  ended : pass.ended = other.ended
  actions : pass.trace.actions = other.trace.actions

theorem driveAll_blanked (settings : Settings) (now : Float) (alike : AreBlanked runs others)
    (stages : stage.Blanked otherStage) :
    (driveAll settings now stage runs).Blanked (driveAll settings now otherStage others) := by
  induction alike generalizing stage otherStage with
  | nil => exact ⟨.nil, rfl, rfl⟩
  | @cons entry other rest restOthers first _ induction =>
      rcases entry with ⟨id, run⟩
      rcases other with ⟨_, sibling⟩
      rcases first with ⟨rfl, runAlike⟩
      have driven : Run.Driven.Blanked (run.drive (scene settings stage id now))
          (sibling.drive (scene settings otherStage id now)) :=
        Run.drive_blanked_of_stance runAlike (stages.stance id) settings id now
      have told : (run.report (scene settings stage id now)).actions =
          (sibling.report (scene settings otherStage id now)).actions := by
        rw [Run.actions_report, Run.actions_report, driven.actions]
      have later := induction (stages.replay told (run.report_isOwn _).isNamed)
      simp only [driveAll_cons, ← driven.status]
      by_cases going : (run.drive (scene settings stage id now)).status = .going
      · simp only [if_pos going]
        refine ⟨.cons ⟨rfl, driven.run⟩ later.runs, later.ended, ?_⟩
        rw [Trace.actions_append, Trace.actions_append, told, later.actions]
      · simp only [if_neg going]
        refine ⟨later.runs, congrArg (id :: ·) later.ended, ?_⟩
        rw [Trace.actions_append, Trace.actions_append, told, later.actions]

structure TurnsBlanked {Answer : Type} (turn other : Turn Engine Answer) : Prop where
  actor : turn.actor.Blanked other.actor
  actions : turn.trace.actions = other.trace.actions

theorem run_blanked (alike : engine.Blanked other) (stages : stage.Blanked otherStage)
    (id : SpriteId) (now : Float) :
    TurnsBlanked (engine.run stage id now) (other.run otherStage id now) := by
  rcases stages.sprite?_or id with ⟨absent, gone⟩ | ⟨sprite, sibling, found, isSibling, sprites⟩
  · simp only [run, absent, gone]
    exact ⟨alike, rfl⟩
  · have resting := sprites.view Sprite.isRunning fun _ => rfl
    have filled := sprites.isEmpty
    have free := alike.isRunning id
    by_cases unfit : sprite.isRunning || sprite.program.isEmpty || engine.isRunning id
    · have otherUnfit := unfit
      rw [resting, filled, free] at otherUnfit
      simp only [run, found, isSibling, if_pos unfit, if_pos otherUnfit]
      exact ⟨alike, rfl⟩
    · simp only [Bool.or_eq_true, not_or, Bool.not_eq_true, List.isEmpty_eq_false_iff] at unfit
      rcases unfit with ⟨⟨atRest, nonempty⟩, idle⟩
      have opened : (stage.replay (opening id sprite)).Blanked
          (otherStage.replay (opening id sibling)) :=
        stages.replay rfl (opening_isOwn id sprite).isNamed
      have legs := Run.leg_blanked (Run.blanked_ofProgram sprites.program) (opened.stance id)
        engine.settings id now
      have siblingFilled : sibling.program ≠ [] := by
        rwa [← List.isEmpty_eq_false_iff, ← filled, List.isEmpty_eq_false_iff]
      rw [run_eq_of_fit found atRest nonempty idle, run_eq_of_fit isSibling (resting ▸ atRest)
        siblingFilled (free ▸ idle), ← alike.settings]
      refine ⟨alike.join id legs.run?, ?_⟩
      rw [Trace.actions_append, Trace.actions_append]
      exact congrArg _ legs.actions

theorem advance_blanked (alike : engine.Blanked other) (stages : stage.Blanked otherStage)
    (now : Float) :
    TurnsBlanked (engine.advance stage now) (other.advance otherStage now) := by
  have pass := driveAll_blanked engine.settings now alike.runs stages
  rw [advance, advance, ← alike.settings]
  refine ⟨⟨rfl, pass.runs⟩, ?_⟩
  rw [Trace.actions_append, Trace.actions_append, pass.actions, pass.ended]

theorem stop_blanked (alike : engine.Blanked other) (id : SpriteId) :
    (engine.stop id).Blanked (other.stop id) := by
  refine ⟨alike.settings, List.forall₂_map_left_iff.mpr (List.forall₂_map_right_iff.mpr ?_)⟩
  refine alike.runs.imp fun entry sibling same => ?_
  rw [← same.1]
  split
  · exact ⟨rfl, same.2.cancel⟩
  · exact same

theorem stopAll_blanked (alike : engine.Blanked other) :
    engine.stopAll.Blanked other.stopAll := by
  refine ⟨alike.settings, List.forall₂_map_left_iff.mpr (List.forall₂_map_right_iff.mpr ?_)⟩
  exact alike.runs.imp fun entry sibling same => ⟨same.1, same.2.cancel⟩

theorem perform_blanked (alike : engine.Blanked other) (stages : stage.Blanked otherStage)
    (call : Call) :
    TurnsBlanked (engine.perform stage call) (other.perform otherStage call) := by
  cases call with
  | run id now =>
      have turns := run_blanked alike stages id now
      exact ⟨turns.actor, turns.actions⟩
  | advance now =>
      have turns := advance_blanked alike stages now
      exact ⟨turns.actor, turns.actions⟩
  | stop id => exact ⟨stop_blanked alike id, rfl⟩
  | stopAll => exact ⟨stopAll_blanked alike, rfl⟩

/-! ## All calls -/

def deeds (engine : Engine) (stage : Stage) : List Call → List (List Action × List SpriteId)
  | [] => []
  | call :: rest =>
      let turn := engine.perform stage call
      (turn.trace.actions, turn.actor.runs.map Prod.fst) :: turn.actor.deeds turn.stage rest

theorem deeds_blanked (alike : engine.Blanked other) (stages : stage.Blanked otherStage)
    (calls : List Call) : engine.deeds stage calls = other.deeds otherStage calls := by
  induction calls generalizing engine other stage otherStage with
  | nil => rfl
  | cons call rest induction =>
      have turns := perform_blanked alike stages call
      rcases engine.perform_stage stage call with ⟨changed, named⟩
      have otherChanged := (other.perform_stage otherStage call).1
      have nextStages := stages.replay turns.actions named
      rw [← changed, ← otherChanged] at nextStages
      rw [deeds, deeds, turns.actions, turns.actor.runs.ids, induction turns.actor nextStages]

/-- A program does the same in the same calls, and its run ends in the same call, if blocks
that lack a number that they need are replaced by repeat blocks for no times and without
children, anywhere in the program. -/
theorem deeds_of_malformed (settings : Settings) (stage : Stage) (id : SpriteId)
    {program other : List Block} (alike : List.Forall₂ Block.Blanked program other)
    (calls : List Call) :
    (ofSettings settings).deeds (stage.changeSprite id fun sprite => { sprite with program })
        calls =
      (ofSettings settings).deeds
        (stage.changeSprite id fun sprite => { sprite with program := other }) calls := by
  have same : (ofSettings settings).Blanked (ofSettings settings) := ⟨rfl, List.Forall₂.nil⟩
  exact deeds_blanked same (stage.blanked_changeProgram id alike) calls

/-- A turn that is repeated twice, with a step by no number before it, and a remark for no
number of seconds. The run is stopped in the end. -/
theorem deeds_of_malformed_turn :
    let step := Block.plain ⟨⟨1⟩, .moveSteps, [("steps", ⟨.number, .text "lots"⟩)]⟩
    let turn := Block.plain ⟨⟨2⟩, .turnDegrees, [("degrees", ⟨.number, .number 90.0⟩)]⟩
    let twice : Block.Head := ⟨⟨3⟩, .repeatTimes, [("times", ⟨.number, .number 2.0⟩)]⟩
    let remark := Block.plain ⟨⟨4⟩, .say,
      [("seconds", ⟨.number, .text "soon"⟩), ("text", ⟨.text, .text "Hi"⟩)]⟩
    let blank := Block.container ⟨⟨5⟩, .repeatTimes, [("times", ⟨.number, .number 0.0⟩)]⟩ []
    let program := [Block.container twice [step, turn], remark, turn]
    let other := [Block.container twice [blank, turn], blank, turn]
    let times := [50.0, 350.0, 400.0, 450.0, 750.0, 800.0, 850.0, 900.0]
    let calls : List Call := .run ⟨1⟩ 0.0 :: times.map .advance ++ [.stop ⟨1⟩, .advance 960.0]
    let stage := Stage.ofSeed 0
    let left := stage.changeSprite ⟨1⟩ fun sprite => { sprite with program }
    let right := stage.changeSprite ⟨1⟩ fun sprite => { sprite with program := other }
    (ofSettings .standard).deeds left calls = (ofSettings .standard).deeds right calls ∧
      ((ofSettings .standard).deeds left calls).map (fun deed => (deed.1, deed.2.length)) =
        [([.setRunning ⟨1⟩ true], 1), ([], 1), ([.setRotation ⟨1⟩ 90.0], 1), ([], 1), ([], 1),
          ([.setRotation ⟨1⟩ 180.0], 1), ([], 1), ([], 1), ([], 1), ([], 1),
          ([.setRunning ⟨1⟩ false], 0)] := by
  intro step turn twice remark blank program other times calls stage left right
  have isBlank : blank.IsBlank := ⟨rfl, rfl, by decide +kernel⟩
  have stepBlanked : step.Blanked blank := .blanked step blank (by decide +kernel) isBlank
  have remarkBlanked : remark.Blanked blank := .blanked remark blank (by decide +kernel) isBlank
  have twiceBlanked :
      (Block.container twice [step, turn]).Blanked (.container twice [blank, turn]) :=
    .container twice _ _ (.cons stepBlanked (Block.Blanked.refls [turn]))
  have alike : List.Forall₂ Block.Blanked program other :=
    .cons twiceBlanked (.cons remarkBlanked (Block.Blanked.refls [turn]))
  refine ⟨deeds_of_malformed .standard stage ⟨1⟩ alike calls, ?_⟩
  decide +kernel

end Engine

end SpriteScript
