import Mathlib.Data.Rat.Floor
import Mathlib.Order.Bounds.Basic
import Mathlib.Tactic.Linarith
import Mathlib.Tactic.Ring
import SpriteScript.Proofs.Detector.Scan

namespace SpriteScript.Detector

/-! The grid of scans, in exact times. The timer of a detector stands at the first point of its
grid after the latest scan. So an advance scans if that point is reached, a late one scans once,
and there is a point of the grid between any two scans. -/

/-! ## Points -/

def grid (origin interval : Rat) : Set Rat :=
  {point | ∃ steps : ℕ, 1 ≤ steps ∧ point = origin + steps * interval}

def IsFirstAfter (origin interval time point : Rat) : Prop :=
  IsLeast {other ∈ grid origin interval | time < other} point

variable {origin interval now : Rat}

theorem nextPoint_eq (interval point now : Rat) :
    nextPoint interval point now = point + (⌊(now - point) / interval⌋ + 1) * interval := rfl

theorem isFirstAfter_of_between (positive : 0 < interval) {steps : ℕ}
    (reached : origin + steps * interval ≤ now) (before : now < origin + (steps + 1) * interval) :
    IsFirstAfter origin interval now (origin + (steps + 1) * interval) := by
  constructor
  · refine ⟨⟨steps + 1, Nat.le_add_left 1 steps, ?_⟩, before⟩
    rw [Nat.cast_succ]
  · rintro _ ⟨⟨others, _, rfl⟩, after⟩
    have less : (steps : Rat) * interval < others * interval := by linarith
    have fewer : steps < others := Nat.cast_lt.mp (lt_of_mul_lt_mul_right less positive.le)
    have atMost : (steps + 1 : Rat) ≤ others := by exact_mod_cast fewer
    have scaled := mul_le_mul_of_nonneg_right atMost positive.le
    linarith

theorem nextPoint_isFirstAfter (positive : 0 < interval) {point : Rat}
    (member : point ∈ grid origin interval) (reached : point ≤ now) :
    IsFirstAfter origin interval now (nextPoint interval point now) := by
  rcases member with ⟨steps, _, rfl⟩
  have nonneg : 0 ≤ (now - (origin + steps * interval)) / interval :=
    div_nonneg (sub_nonneg.mpr reached) positive.le
  rcases Int.eq_ofNat_of_zero_le (Int.floor_nonneg.mpr nonneg) with ⟨missed, floor⟩
  have atLeast := Int.floor_le ((now - (origin + steps * interval)) / interval)
  have less := Int.lt_floor_add_one ((now - (origin + steps * interval)) / interval)
  rw [floor, le_div_iff₀ positive] at atLeast
  rw [floor, div_lt_iff₀ positive] at less
  have sum : origin + steps * interval + (((missed : ℤ) : Rat) + 1) * interval =
      origin + ((steps + missed : ℕ) + 1) * interval := by
    push_cast
    ring
  rw [nextPoint_eq, floor, sum]
  push_cast at atLeast less
  refine isFirstAfter_of_between positive ?_ ?_
  · push_cast
    linarith
  · push_cast
    linarith

theorem isFirstAfter_origin (origin : Rat) (positive : 0 < interval) :
    IsFirstAfter origin interval origin (origin + interval) := by
  have first : IsFirstAfter origin interval origin (origin + ((0 : ℕ) + 1) * interval) :=
    isFirstAfter_of_between positive (by simp) (by simpa using positive)
  simpa using first

/-! ## Advances -/

variable {detector : Detector Rat} {watch : Watch Rat} {stage : Stage}

theorem advance_of_early (watching : detector.watch = some watch) (early : now < watch.nextScan) :
    detector.advance stage now =
      ⟨(detector.release now).1, stage.replay (detector.release now).2, 0,
        (detector.release now).2⟩ := by
  have found : (detector.release now).1.watch = some watch := watching
  simp only [advance, found]
  exact if_neg (not_le.mpr early)

theorem advance_of_reached (watching : detector.watch = some watch)
    (reached : watch.nextScan ≤ now) :
    let nextScan := nextPoint detector.interval watch.nextScan now
    let timed := { (detector.release now).1 with watch := some { watch with nextScan } }
    let scanned := timed.scan (stage.replay (detector.release now).2) now
    detector.advance stage now =
      { scanned with trace := (detector.release now).2 ++ scanned.trace } := by
  have found : (detector.release now).1.watch = some watch := watching
  simp only [advance, found]
  exact if_pos reached

theorem scan_interval (detector : Detector Rat) (stage : Stage) (now : Rat) :
    (detector.scan stage now).actor.interval = detector.interval := by
  rw [(detector.scan_swaps stage now).actor]

/-! ## Calls of a detector at work -/

/-- A call of a detector at work. The stage may be another one for each advance. -/
inductive Tick
  | start (sprites : List SpriteId) (now : Rat)
  | advance (stage : Stage) (now : Rat)

def tick (detector : Detector Rat) : Tick → Detector Rat
  | .start sprites now => (detector.start sprites now).1
  | .advance stage now => (detector.advance stage now).actor

def afterTicks (detector : Detector Rat) (ticks : List Tick) : Detector Rat :=
  ticks.foldl tick detector

def isDue (detector : Detector Rat) (now : Rat) : Bool :=
  detector.watch.any fun watch => decide (watch.nextScan ≤ now)

def scanTimes (detector : Detector Rat) : List Tick → List Rat
  | [] => []
  | .start sprites now :: rest => (detector.tick (.start sprites now)).scanTimes rest
  | .advance stage now :: rest =>
      let later := (detector.tick (.advance stage now)).scanTimes rest
      if detector.isDue now then now :: later else later

def Waits (detector : Detector Rat) (interval point : Rat) : Prop :=
  detector.interval = interval ∧ ∃ sprites, detector.watch = some ⟨sprites, point⟩

variable {point latest : Rat}

theorem Waits.isDue_iff (waits : detector.Waits interval point) :
    detector.isDue now = true ↔ point ≤ now := by
  rcases waits with ⟨_, sprites, watching⟩
  simp [isDue, watching]

theorem Waits.start (waits : detector.Waits interval point) (sprites : List SpriteId)
    (now : Rat) : (detector.tick (.start sprites now)).Waits interval point := by
  rcases waits with ⟨same, observed, watching⟩
  simp only [tick, Detector.start, watching]
  exact ⟨same, sprites, rfl⟩

theorem Waits.advance_of_early (waits : detector.Waits interval point) (early : now < point)
    (stage : Stage) : (detector.tick (.advance stage now)).Waits interval point := by
  rcases waits with ⟨same, observed, watching⟩
  rw [tick, Detector.advance_of_early watching early]
  exact ⟨same, observed, watching⟩

theorem Waits.advance_of_reached (waits : detector.Waits interval point) (reached : point ≤ now)
    (stage : Stage) :
    (detector.tick (.advance stage now)).Waits interval (nextPoint interval point now) := by
  rcases waits with ⟨rfl, observed, watching⟩
  rw [tick, Detector.advance_of_reached watching reached]
  constructor
  · exact scan_interval ..
  · exact ⟨observed, scan_watch ..⟩

/-- The timer of a detector stands at the first point of its grid after the latest scan. -/
theorem Waits.isFirstAfter_afterTicks (positive : 0 < interval)
    (waits : detector.Waits interval point)
    (first : IsFirstAfter origin interval latest point) (ticks : List Tick) :
    ∃ later, (detector.afterTicks ticks).Waits interval later ∧
      IsFirstAfter origin interval ((detector.scanTimes ticks).getLastD latest) later := by
  induction ticks generalizing detector point latest with
  | nil => exact ⟨point, waits, first⟩
  | cons tick rest induction =>
      cases tick with
      | start sprites now => exact induction (waits.start sprites now) first
      | advance stage now =>
          rw [scanTimes]
          by_cases reached : point ≤ now
          · rw [if_pos (waits.isDue_iff.mpr reached), List.getLastD_cons]
            exact induction (waits.advance_of_reached reached stage)
              (nextPoint_isFirstAfter positive first.1.1 reached)
          · rw [if_neg fun due => reached (waits.isDue_iff.mp due)]
            exact induction (waits.advance_of_early (not_le.mp reached) stage) first

/-- No scan comes before the timer, and there is a point of the grid between any two scans. -/
theorem Waits.scanTimes_apart (positive : 0 < interval) (waits : detector.Waits interval point)
    (member : point ∈ grid origin interval) (ticks : List Tick) :
    (∀ time ∈ detector.scanTimes ticks, point ≤ time) ∧
      (detector.scanTimes ticks).Pairwise fun earlier later =>
        ∃ other ∈ grid origin interval, earlier < other ∧ other ≤ later := by
  induction ticks generalizing detector point with
  | nil => exact ⟨List.forall_mem_nil _, .nil⟩
  | cons tick rest induction =>
      cases tick with
      | start sprites now => exact induction (waits.start sprites now) member
      | advance stage now =>
          rw [scanTimes]
          by_cases reached : point ≤ now
          · rw [if_pos (waits.isDue_iff.mpr reached)]
            have next := nextPoint_isFirstAfter positive member reached
            rcases induction (waits.advance_of_reached reached stage) next.1.1 with
              ⟨notBefore, apart⟩
            constructor
            · refine List.forall_mem_cons.mpr ⟨reached, fun time isLater => ?_⟩
              exact reached.trans (next.1.2.le.trans (notBefore time isLater))
            · refine List.pairwise_cons.mpr ⟨fun time isLater => ?_, apart⟩
              exact ⟨_, next.1.1, next.1.2, notBefore time isLater⟩
          · rw [if_neg fun due => reached (waits.isDue_iff.mp due)]
            exact induction (waits.advance_of_early (not_le.mp reached) stage) member

theorem start_waits (idle : detector.watch = none) (sprites : List SpriteId) (now : Rat) :
    (detector.start sprites now).1.Waits detector.interval (now + detector.interval) := by
  simp only [start, idle]
  exact ⟨rfl, sprites, rfl⟩

/-- From its start on, and through restarts, the timer of a detector stands at the first point of
its grid that is after the latest scan. An advance at that point or later releases locks and
scans once, however many points were missed, and the timer moves to the first point after that
time. An earlier advance just releases locks. There is a point of the grid between any two
scans. -/
theorem scans_keep_grid {detector : Detector Rat} (idle : detector.watch = none)
    (positive : 0 < detector.interval) (sprites : List SpriteId) (origin : Rat)
    (ticks : List Tick) :
    let begun := (detector.start sprites origin).1
    let current := begun.afterTicks ticks
    let latest := (begun.scanTimes ticks).getLastD origin
    let isFirstAfter := IsFirstAfter origin detector.interval
    (∃ observed point, current.watch = some ⟨observed, point⟩ ∧ isFirstAfter latest point ∧
      ∀ stage now,
        let freed := (current.release now).1
        let released := (current.release now).2
        (point ≤ now → ∃ next, isFirstAfter now next ∧
          let timed := { freed with watch := some ⟨observed, next⟩ }
          let scanned := timed.scan (stage.replay released) now
          current.advance stage now = { scanned with trace := released ++ scanned.trace } ∧
            scanned.actor.watch = some ⟨observed, next⟩) ∧
        (now < point →
          current.advance stage now = ⟨freed, stage.replay released, 0, released⟩)) ∧
    (begun.scanTimes ticks).Pairwise fun earlier later =>
      ∃ point ∈ grid origin detector.interval, earlier < point ∧ point ≤ later := by
  intro begun current latest isFirstAfter
  have waits := start_waits idle sprites origin
  have first := isFirstAfter_origin origin positive
  refine ⟨?_, (waits.scanTimes_apart positive first.1.1 ticks).2⟩
  rcases waits.isFirstAfter_afterTicks positive first ticks with
    ⟨point, ⟨same, observed, watching⟩, timer⟩
  refine ⟨observed, point, watching, timer, fun stage now => ⟨fun reached => ?_, fun early => ?_⟩⟩
  · refine ⟨_, nextPoint_isFirstAfter positive timer.1.1 reached, ?_, scan_watch ..⟩
    rw [← same]
    exact advance_of_reached watching reached
  · exact advance_of_early watching early

/-- One advance that comes too early, a late one, a restart, and one more that comes too
early. -/
theorem scans_keep_grid_late :
    let detector : Detector Rat := ⟨100, 40.0, 1000, none, []⟩
    let begun := (detector.start [⟨1⟩] 10).1
    let stage := Stage.ofSeed 0
    let ticks := [.advance stage 60, .advance stage 355, .start [] 400, .advance stage 409]
    begun.scanTimes ticks = [355] ∧ ∃ observed point,
      (begun.afterTicks ticks).watch = some ⟨observed, point⟩ ∧ IsFirstAfter 10 100 355 point := by
  intro detector begun stage ticks
  have positive : 0 < detector.interval := by decide
  have times : begun.scanTimes ticks = [355] := by decide +kernel
  have idle : detector.watch = none := rfl
  rcases (scans_keep_grid idle positive [⟨1⟩] 10 ticks).1 with
    ⟨observed, point, watching, timer, _⟩
  rw [times] at timer
  exact ⟨times, observed, point, watching, timer⟩

end SpriteScript.Detector
