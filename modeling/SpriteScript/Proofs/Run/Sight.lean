import SpriteScript.Proofs.Engine.Leg
import SpriteScript.Proofs.Run.Effect

namespace SpriteScript.Run

/-! What a run sees of its sprite: where it is and which way it faces, and whether it is
there at all. Two sprites with one stance are the same to a run. -/

variable {settings : Settings} {id : SpriteId} {now : Float} {left right : Option Sprite}

theorem startAlone_of_stance (same : left.map Sprite.stance = right.map Sprite.stance)
    (block : Block) :
    startAlone ⟨settings, id, left, now⟩ block = startAlone ⟨settings, id, right, now⟩ block := by
  cases left with
  | none =>
      cases right with
      | none => rfl
      | some sprite => cases same
  | some sprite =>
      cases right with
      | none => cases same
      | some other =>
          have stances : sprite.stance = other.stance := Option.some.inj same
          have positions : sprite.position = other.position := congrArg Stance.position stances
          have rotations : sprite.rotation = other.rotation := congrArg Stance.rotation stances
          cases kind : block.kind with
          | moveSteps =>
              simp only [startAlone, kind]
              rcases readNumber block "steps" with ⟨_ | steps, skipped⟩
              · rfl
              · simp only [positions, rotations, Scene.animate]
          | turnDegrees =>
              simp only [startAlone, kind]
              rcases readNumber block "degrees" with ⟨_ | degrees, skipped⟩
              · rfl
              · simp only [rotations, Scene.animate]
          | goToXY =>
              simp only [startAlone, kind]
              rcases readNumber block "x" with ⟨_ | x, skippedX⟩
              · rfl
              · rcases readNumber block "y" with ⟨_ | y, skippedY⟩
                · rfl
                · simp only [positions, Scene.animate]
          | _ =>
              simp only [startAlone, kind]
              rfl

theorem start_of_stance (same : left.map Sprite.stance = right.map Sprite.stance) :
    ∀ (frames : List Frame) (block : Block),
      start ⟨settings, id, left, now⟩ frames block = start ⟨settings, id, right, now⟩ frames block
  | frames, .plain head => by simp only [start, startAlone_of_stance same]
  | frames, .container head [] => by simp only [start, startAlone_of_stance same]
  | frames, .container head (first :: rest) => by
      simp only [start, startAlone_of_stance same, start_of_stance same _ first]

theorem drive_of_stance (same : left.map Sprite.stance = right.map Sprite.stance) (run : Run) :
    run.drive ⟨settings, id, left, now⟩ = run.drive ⟨settings, id, right, now⟩ := by
  have proceeds : run.proceed ⟨settings, id, left, now⟩ =
      run.proceed ⟨settings, id, right, now⟩ := by
    simp only [proceed, start_of_stance same, Scene.pause]
  simp only [drive, proceeds, Scene.pause]

theorem leg_of_stance (same : left.map Sprite.stance = right.map Sprite.stance) (run : Run) :
    run.leg ⟨settings, id, left, now⟩ = run.leg ⟨settings, id, right, now⟩ := by
  simp only [leg, report, drive_of_stance same]

end SpriteScript.Run
