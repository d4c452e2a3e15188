import Mathlib.Algebra.Order.Field.Rat
import Mathlib.Order.Interval.Set.UnorderedInterval
import Mathlib.Tactic.Linarith
import Mathlib.Tactic.Positivity
import Mathlib.Tactic.Ring
import SpriteScript.Motion.Tween

namespace SpriteScript

/-! The shape of an animation, in exact numbers. At each moment a part of the way is left that is
the cube of the part of the time that is left. So a pose comes ever closer to its target, never
leaves the way, and is there at the end and not before. -/

open Arithmetic

/-! ## The part of the time -/

namespace Arithmetic

theorem clampUnit_eq (number : Rat) : clampUnit number = min 1 (max 0 number) := by
  change (if 1 < (if number < 0 then 0 else number) then (1 : Rat) else
    if number < 0 then 0 else number) = _
  rw [← max_def_lt, max_comm, ← min_def_lt]

theorem clampUnit_mem (number : Rat) : clampUnit number ∈ Set.Icc (0 : Rat) 1 := by
  rw [clampUnit_eq]
  exact ⟨le_min zero_le_one (le_max_left 0 number), min_le_left ..⟩

theorem clampUnit_mono {left right : Rat} (atMost : left ≤ right) :
    clampUnit left ≤ clampUnit right := by
  rw [clampUnit_eq, clampUnit_eq]
  exact min_le_min_left 1 (max_le_max_left 0 atMost)

theorem clampUnit_of_nonpos {number : Rat} (nonpos : number ≤ 0) : clampUnit number = 0 := by
  rw [clampUnit_eq, max_eq_left nonpos, min_eq_right zero_le_one]

theorem clampUnit_of_one_le {number : Rat} (atLeast : 1 ≤ number) : clampUnit number = 1 := by
  rw [clampUnit_eq]
  exact min_eq_left (le_max_of_le_right atLeast)

theorem clampUnit_lt_one {number : Rat} (less : number < 1) : clampUnit number < 1 := by
  rw [clampUnit_eq]
  exact min_lt_of_right_lt (max_lt zero_lt_one less)

theorem clampUnit_of_mem {number : Rat} (inside : number ∈ Set.Icc (0 : Rat) 1) :
    clampUnit number = number := by
  rw [clampUnit_eq, max_eq_right inside.1, min_eq_right inside.2]

end Arithmetic

/-! ## The part of the way -/

theorem easedPart_eq (progress : Rat) : easedPart progress = 1 - (1 - clampUnit progress) ^ 3 := by
  change 1 - (1 - clampUnit progress) * (1 - clampUnit progress) * (1 - clampUnit progress) = _
  ring

theorem easedPart_mem (progress : Rat) : easedPart progress ∈ Set.Icc (0 : Rat) 1 := by
  rcases clampUnit_mem progress with ⟨nonneg, atMost⟩
  have left : 0 ≤ 1 - clampUnit progress := sub_nonneg.mpr atMost
  rw [easedPart_eq]
  constructor
  · exact sub_nonneg.mpr (pow_le_one₀ left (sub_le_self 1 nonneg))
  · exact sub_le_self 1 (pow_nonneg left 3)

theorem easedPart_mono {earlier later : Rat} (atMost : earlier ≤ later) :
    easedPart earlier ≤ easedPart later := by
  have left : 0 ≤ 1 - clampUnit later := sub_nonneg.mpr (clampUnit_mem later).2
  have less : 1 - clampUnit later ≤ 1 - clampUnit earlier :=
    sub_le_sub_left (clampUnit_mono atMost) 1
  rw [easedPart_eq, easedPart_eq]
  exact sub_le_sub_left (pow_le_pow_left₀ left less 3) 1

theorem clampUnit_le_easedPart (progress : Rat) : clampUnit progress ≤ easedPart progress := by
  rcases clampUnit_mem progress with ⟨nonneg, atMost⟩
  have left : 0 ≤ 1 - clampUnit progress := sub_nonneg.mpr atMost
  have cube : (1 - clampUnit progress) ^ 3 ≤ 1 - clampUnit progress :=
    pow_le_of_le_one left (sub_le_self 1 nonneg) three_ne_zero
  rw [easedPart_eq]
  linarith

theorem easedPart_zero : easedPart (0 : Rat) = 0 := by
  rw [easedPart_eq, clampUnit_of_nonpos le_rfl]
  norm_num

theorem easedPart_one : easedPart (1 : Rat) = 1 := by
  rw [easedPart_eq, clampUnit_of_one_le le_rfl]
  norm_num

theorem easedPart_ne_one {progress : Rat} (less : progress < 1) : easedPart progress ≠ 1 := by
  have left : 0 < 1 - clampUnit progress := sub_pos.mpr (clampUnit_lt_one less)
  rw [easedPart_eq]
  exact (sub_lt_self 1 (pow_pos left 3)).ne

namespace Tween

variable {tween : Tween Rat Rat} {now : Rat}

theorem progress_eq (lasting : 0 < tween.duration) (now : Rat) :
    tween.progress now = clampUnit ((now - tween.start) / tween.duration) :=
  if_neg (not_le.mpr lasting)

theorem progress_mem (tween : Tween Rat Rat) (now : Rat) :
    tween.progress now ∈ Set.Icc (0 : Rat) 1 := by
  rw [progress]
  split
  · exact ⟨zero_le_one, le_rfl⟩
  · exact clampUnit_mem _

theorem progress_mono (lasting : 0 < tween.duration) : Monotone tween.progress := by
  intro earlier later inOrder
  rw [progress_eq lasting, progress_eq lasting]
  apply clampUnit_mono
  exact div_le_div_of_nonneg_right (sub_le_sub_right inOrder _) lasting.le

theorem progress_of_le_start (lasting : 0 < tween.duration) (early : now ≤ tween.start) :
    tween.progress now = 0 := by
  rw [progress_eq lasting]
  apply clampUnit_of_nonpos
  exact div_nonpos_of_nonpos_of_nonneg (sub_nonpos.mpr early) lasting.le

theorem progress_of_end_le (lasting : 0 < tween.duration)
    (late : tween.start + tween.duration ≤ now) : tween.progress now = 1 := by
  rw [progress_eq lasting]
  apply clampUnit_of_one_le
  rw [one_le_div lasting]
  linarith

theorem progress_lt_one (lasting : 0 < tween.duration)
    (early : now < tween.start + tween.duration) : tween.progress now < 1 := by
  rw [progress_eq lasting]
  apply clampUnit_lt_one
  rw [div_lt_one lasting]
  linarith

end Tween

/-! ## Along the way -/

/-- A coordinate after a part of the way, by what is left of it. -/
def approach (source target fraction : Rat) : Rat := target + (source - target) * (1 - fraction)

section Coordinate

variable {source target fraction : Rat}

theorem approach_mem (inside : fraction ∈ Set.Icc (0 : Rat) 1) :
    approach source target fraction ∈ Set.uIcc source target := by
  rcases inside with ⟨nonneg, atMost⟩
  rw [approach, Set.mem_uIcc]
  rcases le_total source target with up | down
  · have gone := mul_nonneg (sub_nonneg.mpr up) nonneg
    have left := mul_nonneg (sub_nonneg.mpr up) (sub_nonneg.mpr atMost)
    exact .inl ⟨by linarith, by linarith⟩
  · have gone := mul_nonneg (sub_nonneg.mpr down) nonneg
    have left := mul_nonneg (sub_nonneg.mpr down) (sub_nonneg.mpr atMost)
    exact .inr ⟨by linarith, by linarith⟩

theorem abs_approach_sub (atMost : fraction ≤ 1) :
    |approach source target fraction - target| = |source - target| * (1 - fraction) := by
  rw [approach, add_sub_cancel_left, abs_mul, abs_of_nonneg (sub_nonneg.mpr atMost)]

theorem approach_eq_target_iff (started : fraction ≠ 1) :
    approach source target fraction = target ↔ source = target := by
  rw [approach, add_eq_left, mul_eq_zero, sub_eq_zero, sub_eq_zero]
  exact or_iff_left started.symm

end Coordinate

inductive Pose.Coordinatewise (relation : Rat → Rat → Rat → Prop) :
    Pose Rat → Pose Rat → Pose Rat → Prop
  | position {first second third : Point Rat} (x : relation first.x second.x third.x)
      (y : relation first.y second.y third.y) :
      Coordinatewise relation (.position first) (.position second) (.position third)
  | rotation {first second third : Rat} (angle : relation first second third) :
      Coordinatewise relation (.rotation first) (.rotation second) (.rotation third)

namespace Pose

def IsBetween : Pose Rat → Pose Rat → Pose Rat → Prop :=
  Coordinatewise fun source target value => value ∈ Set.uIcc source target

def IsNearer : Pose Rat → Pose Rat → Pose Rat → Prop :=
  Coordinatewise fun target earlier later => |later - target| ≤ |earlier - target|

def squaredDistance : Pose Rat → Pose Rat → Rat
  | .position left, .position right => (left.x - right.x) ^ 2 + (left.y - right.y) ^ 2
  | .rotation left, .rotation right => (left - right) ^ 2
  | _, _ => 0

theorem IsNearer.squaredDistance_le {target earlier later : Pose Rat}
    (nearer : IsNearer target earlier later) :
    later.squaredDistance target ≤ earlier.squaredDistance target := by
  cases nearer with
  | position x y => exact add_le_add (sq_le_sq.mpr x) (sq_le_sq.mpr y)
  | rotation angle => exact sq_le_sq.mpr angle

end Pose

namespace Motion

variable {fraction : Rat}

theorem between_slide (source target : Point Rat) (fraction : Rat) :
    (Motion.slide source target).between fraction =
      .position ⟨approach source.x target.x fraction, approach source.y target.y fraction⟩ := by
  have coordinate (source target : Rat) :
      source * (1 - fraction) + target * fraction = approach source target fraction := by
    rw [approach]
    ring
  exact congrArg Pose.position (congrArg₂ Point.mk (coordinate ..) (coordinate ..))

theorem between_spin (source target fraction : Rat) :
    (Motion.spin source target).between fraction = .rotation (approach source target fraction) := by
  have angle : source + (target - source) * fraction = approach source target fraction := by
    rw [approach]
    ring
  exact congrArg Pose.rotation angle

theorem between_zero (motion : Motion Rat) : motion.between 0 = motion.source := by
  have coordinate (source target : Rat) : approach source target 0 = source := by
    rw [approach]
    ring
  cases motion with
  | slide source target => rw [between_slide, coordinate, coordinate, Motion.source]
  | spin source target => rw [between_spin, coordinate, Motion.source]

theorem between_one (motion : Motion Rat) : motion.between 1 = motion.target := by
  have coordinate (source target : Rat) : approach source target 1 = target := by
    rw [approach]
    ring
  cases motion with
  | slide source target => rw [between_slide, coordinate, coordinate, Motion.target]
  | spin source target => rw [between_spin, coordinate, Motion.target]

theorem between_isBetween (motion : Motion Rat) (inside : fraction ∈ Set.Icc (0 : Rat) 1) :
    Pose.IsBetween motion.source motion.target (motion.between fraction) := by
  cases motion with
  | slide source target =>
      rw [between_slide]
      exact .position (approach_mem inside) (approach_mem inside)
  | spin source target =>
      rw [between_spin]
      exact .rotation (approach_mem inside)

theorem between_isNearer (motion : Motion Rat) {earlier later : Rat} (inOrder : earlier ≤ later)
    (atMost : later ≤ 1) :
    Pose.IsNearer motion.target (motion.between earlier) (motion.between later) := by
  have coordinate (source target : Rat) :
      |approach source target later - target| ≤ |approach source target earlier - target| := by
    rw [abs_approach_sub atMost, abs_approach_sub (inOrder.trans atMost)]
    exact mul_le_mul_of_nonneg_left (sub_le_sub_left inOrder 1) (abs_nonneg _)
  cases motion with
  | slide source target =>
      rw [between_slide, between_slide]
      exact .position (coordinate ..) (coordinate ..)
  | spin source target =>
      rw [between_spin, between_spin]
      exact .rotation (coordinate ..)

theorem between_eq_target_iff (motion : Motion Rat) (started : fraction ≠ 1) :
    motion.between fraction = motion.target ↔ motion.source = motion.target := by
  cases motion with
  | slide source target =>
      cases source
      cases target
      rw [between_slide, Motion.target, Motion.source, Pose.position.injEq, Pose.position.injEq,
        Point.mk.injEq, Point.mk.injEq, approach_eq_target_iff started,
        approach_eq_target_iff started]
  | spin source target =>
      rw [between_spin, Motion.target, Motion.source, Pose.rotation.injEq, Pose.rotation.injEq,
        approach_eq_target_iff started]

end Motion

/-! ## The moments of an animation -/

namespace Tween

variable {tween : Tween Rat Rat} {now : Rat}

/-- In exact numbers the end is no exception: the mixture there is the target. -/
theorem sample_eq (tween : Tween Rat Rat) (now : Rat) :
    tween.sample now = tween.motion.between (easedPart (tween.progress now)) := by
  rw [sample]
  split
  · next done =>
      have ended : tween.progress now = 1 :=
        le_antisymm (tween.progress_mem now).2 (of_decide_eq_true done)
      rw [ended, easedPart_one, Motion.between_one]
  · rfl

/-- An animation with a duration only goes forward, and runs ahead of the time. Its poses lie
between the source and the target and move away from the target at no time. Up to the start a
pose is the source, and from the end on it is the target, which is not reached before. -/
theorem sample_approaches {tween : Tween Rat Rat} (lasting : 0 < tween.duration) :
    let progress := tween.progress
    let eased := fun now => easedPart (tween.progress now)
    let source := tween.motion.source
    let target := tween.motion.target
    (∀ now, progress now ∈ Set.Icc 0 1 ∧ eased now ∈ Set.Icc 0 1 ∧ progress now ≤ eased now ∧
      Pose.IsBetween source target (tween.sample now)) ∧
    (∀ earlier later, earlier ≤ later →
      progress earlier ≤ progress later ∧ eased earlier ≤ eased later ∧
        Pose.IsNearer target (tween.sample earlier) (tween.sample later) ∧
        (tween.sample later).squaredDistance target ≤
          (tween.sample earlier).squaredDistance target) ∧
    (∀ now, now ≤ tween.start → tween.sample now = source) ∧
    (∀ now, tween.start + tween.duration ≤ now → tween.sample now = target) ∧
    ∀ now, now < tween.start + tween.duration → tween.sample now = target → source = target := by
  intro progress eased source target
  refine ⟨?_, ?_, ?_, ?_, ?_⟩
  · intro now
    have inside := tween.progress_mem now
    have ahead := clampUnit_le_easedPart (tween.progress now)
    rw [clampUnit_of_mem inside] at ahead
    rw [sample_eq]
    exact ⟨inside, easedPart_mem _, ahead, Motion.between_isBetween _ (easedPart_mem _)⟩
  · intro earlier later inOrder
    have onward : progress earlier ≤ progress later := progress_mono lasting inOrder
    have nearer : Pose.IsNearer target (tween.sample earlier) (tween.sample later) := by
      rw [sample_eq, sample_eq]
      exact tween.motion.between_isNearer (easedPart_mono onward) (easedPart_mem _).2
    exact ⟨onward, easedPart_mono onward, nearer, nearer.squaredDistance_le⟩
  · intro now early
    rw [sample_eq, progress_of_le_start lasting early, easedPart_zero, Motion.between_zero]
  · intro now late
    rw [sample_eq, progress_of_end_le lasting late, easedPart_one, Motion.between_one]
  · intro now early reached
    rw [sample_eq] at reached
    exact (tween.motion.between_eq_target_iff
      (easedPart_ne_one (progress_lt_one lasting early))).mp reached

/-- Half a second to the right and down. -/
theorem sample_approaches_glide :
    let tween : Tween Rat Rat := ⟨.slide ⟨0, 0⟩ ⟨100, -40⟩, 1000, 500⟩
    tween.sample 1250 = .position ⟨175 / 2, -35⟩ ∧ tween.sample 1000 = .position ⟨0, 0⟩ ∧
      tween.sample 1500 = .position ⟨100, -40⟩ ∧ tween.sample 1499 ≠ .position ⟨100, -40⟩ ∧
      Pose.IsNearer (.position ⟨100, -40⟩) (tween.sample 1250) (tween.sample 1499) := by
  intro tween
  have lasting : 0 < tween.duration := by decide +kernel
  rcases sample_approaches lasting with ⟨_, onward, before, after, notBefore⟩
  refine ⟨by decide +kernel, before 1000 le_rfl, after 1500 (by decide +kernel), ?_, ?_⟩
  · intro reached
    have coincide := notBefore 1499 (by decide +kernel) reached
    cases coincide
  · exact (onward 1250 1499 (by decide +kernel)).2.2.1

end Tween

end SpriteScript
