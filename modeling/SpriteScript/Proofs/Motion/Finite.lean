import SpriteScript.Proofs.Number.Mixture
import SpriteScript.Proofs.Run.Effect

namespace SpriteScript

/-! Whether the moments of an animation are finite. A mixture of two finite places always is.
A rotation is measured from its source, and the width of the turn can be too great for that. -/

open Number Arithmetic

theorem Point.isFinite_iff {point : Point Float32} :
    point.isFinite = true ↔ IsFinite point.x ∧ IsFinite point.y := by
  rw [Point.isFinite, Bool.and_eq_true]
  rfl

/-! ## The part of the way -/

theorem inUnit_easedPart {progress : Float} (ordered : IsOrdered progress) :
    InUnit (easedPart progress) := by
  have left := (inUnit_clampUnit ordered).one_sub
  exact ((left.mul left).mul left).one_sub

namespace Tween

structure IsTimed (tween : Tween Float Float32) : Prop where
  start : IsFinite tween.start
  duration : IsFinite tween.duration

variable {tween : Tween Float Float32} {now : Float}

theorem IsTimed.inUnit_progress (timed : tween.IsTimed) (finite : IsFinite now) :
    InUnit (tween.progress now) := by
  rw [progress]
  split_ifs with instant
  · exact inUnit_one
  · rw [le_iff_value timed.duration isFinite_zero, value_zero, not_le] at instant
    exact inUnit_clampUnit (isOrdered_div (isOrdered_sub finite timed.start) timed.duration
      instant.ne')

theorem IsTimed.inUnit_fraction (timed : tween.IsTimed) (finite : IsFinite now) :
    InUnit (Fraction.along (easedPart (tween.progress now)) : Float32) :=
  (inUnit_easedPart (isNaN_of_isFinite (timed.inUnit_progress finite).finite)).single

end Tween

/-! ## The moments -/

namespace Motion

/-- Whether a motion leads from somewhere to a place that is finite. The target of a turn was
reached from its source in one step. -/
inductive IsSound : Motion Float32 → Prop
  | slide {source target : Point Float32} (isSource : source.isFinite = true)
      (isTarget : target.isFinite = true) : IsSound (.slide source target)
  | spin {source step : Float32} (isTarget : (source + step).isFinite = true) :
      IsSound (.spin source (source + step))

def IsTooWide : Motion Float32 → Prop
  | .slide _ _ => False
  | .spin source target => (target - source).isFinite = false

variable {motion : Motion Float32} {fraction : Float32}

theorem IsSound.target_isFinite (sound : motion.IsSound) : motion.target.isFinite = true := by
  cases sound with
  | slide isSource isTarget => exact isTarget
  | spin isTarget => exact isTarget

theorem IsSound.between_isFinite_iff (sound : motion.IsSound) (inUnit : InUnit fraction) :
    (motion.between fraction).isFinite = true ↔ ¬motion.IsTooWide := by
  cases sound with
  | slide isSource isTarget =>
      rw [Point.isFinite_iff] at isSource isTarget
      simp only [IsTooWide, not_false_eq_true, iff_true]
      exact Point.isFinite_iff.mpr
        ⟨isFinite_mixture isSource.1 isTarget.1 inUnit,
          isFinite_mixture isSource.2 isTarget.2 inUnit⟩
  | @spin source step isTarget =>
      have reached : IsFinite (source + step) := isTarget
      rw [IsTooWide, Bool.not_eq_false]
      change IsFinite (source + (source + step - source) * fraction) ↔
        IsFinite (source + step - source)
      constructor
      · intro finite
        exact finite.of_add.2.of_mul.1
      · intro narrow
        exact isFinite_add_part reached narrow inUnit

end Motion

namespace Tween

structure IsSound (tween : Tween Float Float32) : Prop where
  timed : tween.IsTimed
  motion : tween.motion.IsSound

/-- The moments of an animation are finite, except for those of a turn that is too wide, up to
its end. -/
theorem IsSound.sample_isFinite_iff {tween : Tween Float Float32} (sound : tween.IsSound)
    {now : Float} (finite : IsFinite now) :
    (tween.sample now).isFinite = true ↔ ¬(tween.motion.IsTooWide ∧ tween.isDone now = false) := by
  rw [sample]
  split_ifs with done
  · simp [done, sound.motion.target_isFinite]
  · rw [sound.motion.between_isFinite_iff (sound.timed.inUnit_fraction finite)]
    simp [done]

theorem IsSound.position_isFinite {tween : Tween Float Float32} (sound : tween.IsSound)
    {now : Float} (finite : IsFinite now) {point : Point Float32}
    (same : tween.sample now = .position point) : point.isFinite = true := by
  have moment : (tween.sample now).isFinite = true := by
    refine (sound.sample_isFinite_iff finite).mpr ?_
    rintro ⟨wide, -⟩
    rcases tween with ⟨motion, start, duration⟩
    cases motion with
    | slide => exact wide
    | spin =>
        rw [sample] at same
        split at same <;> cases same
  rwa [same] at moment

end Tween

end SpriteScript
