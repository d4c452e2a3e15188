import SpriteScript.Proofs.Detector.Locks
import SpriteScript.Proofs.Number.Order
import SpriteScript.Proofs.Playback.Agreement
import SpriteScript.Proofs.Stage.Programs

namespace SpriteScript

/-! What is left of a playback that has ended. Frames go on, but nothing moves and no programs
are traded: each of them only releases the locks whose time has come, until there are none. -/

namespace Stage

theorem replay_of_releases (stage : Stage) {trace : Trace}
    (releases : ∀ action ∈ trace.actions, ∃ key, action = .unlock key) :
    ∃ locks, stage.replay trace = { stage with locks } ∧ locks.Sublist stage.locks := by
  rw [replay]
  generalize trace.actions = actions at releases
  induction actions generalizing stage with
  | nil => exact ⟨stage.locks, rfl, List.Sublist.refl _⟩
  | cons action rest induction =>
      rcases List.forall_mem_cons.mp releases with ⟨⟨key, same⟩, later⟩
      rw [List.foldl_cons, same]
      rcases induction (stage.apply (.unlock key)) later with ⟨locks, changed, fewer⟩
      exact ⟨locks, changed, fewer.trans List.filter_sublist⟩

end Stage

theorem Engine.advance_of_isIdle {engine : Engine} (idle : engine.isIdle = true) (stage : Stage)
    (now : Float) : engine.advance stage now = ⟨engine, stage, [], []⟩ := by
  rcases engine with ⟨settings, runs⟩
  have none : runs = [] := List.isEmpty_iff.mp idle
  rw [none]
  rfl

namespace Detector

theorem advance_of_stopped {detector : Detector Float} (stopped : detector.isWatching = false)
    (stage : Stage) (now : Float) :
    detector.advance stage now =
      ⟨(detector.release now).1, stage.replay (detector.release now).2, 0,
        (detector.release now).2⟩ := by
  have none : (detector.release now).1.watch = none := by
    rw [release_watch]
    exact Option.isSome_eq_false_iff.mp stopped |> Option.isNone_iff_eq_none.mp
  simp only [advance, none]

theorem start_pending (detector : Detector Float) (ids : List SpriteId) (now : Float) :
    (detector.start ids now).1.pending = detector.pending := by
  simp only [start]
  split <;> rfl

theorem stop_pending (detector : Detector Float) : detector.stop.1.pending = detector.pending := by
  simp only [stop]
  split <;> rfl

end Detector

namespace Playback

variable {playback : Playback} {stage : Stage} {foreign : List LockKey}

/-! ## The locks -/

def Call.SparesPlayback : Call → Prop
  | .edit made => made.SparesLocks ∧ ∀ isPlaying, made ≠ .setPlaying isPlaying
  | _ => True

theorem neverSetsPlaying_of_spares {calls : List Call}
    (spare : ∀ call ∈ calls, call.SparesPlayback) : NeverSetsPlaying calls := by
  intro call member isPlaying same
  have spares := spare call member
  rw [same] at spares
  exact spares.2 isPlaying rfl

theorem advance_locks (engine : Engine) (stage : Stage) (now : Float) :
    (engine.advance stage now).stage.locks = stage.locks := by
  have done := engine.perform_stage stage (.advance now)
  have same : (engine.advance stage now).stage = stage.replay _ := done.1
  rw [same, Stage.replay_locks _ done.2.noLock]

theorem runAll_locks (engine : Engine) (stage : Stage) (now : Float) (ids : List SpriteId) :
    (runAll engine stage now ids).stage.locks = stage.locks := by
  induction ids generalizing engine stage with
  | nil => rfl
  | cons id rest induction =>
      have done := (Engine.run_launching engine stage id now).stage_eq
      simp only [runAll]
      rw [induction, done.1, Stage.replay_locks _ done.2.noLock]

theorem ofSettings_tracks {settings : Settings} (made : ofSettings settings = .ok playback)
    (free : stage.locks = []) : playback.detector.Tracks stage [] := by
  rcases ok_of_bind made with ⟨detector, built, done⟩
  cases done
  exact free ▸ (Detector.holds_ofSettings built stage).tracks

theorem windDown_tracks (playback : Playback) (tracks : playback.detector.Tracks stage foreign) :
    (playback.windDown stage).actor.detector.Tracks (playback.windDown stage).stage foreign :=
  tracks.of_pending playback.detector.stop_pending rfl

theorem play_tracks (tracks : playback.detector.Tracks stage foreign) (now : Float) :
    (playback.play stage now).actor.detector.Tracks (playback.play stage now).stage foreign := by
  have started : (playback.detector.start stage.spriteIds now).1.Tracks
      (runAll playback.engine { stage with isPlaying := true } now stage.spriteIds).stage foreign :=
    tracks.of_pending (playback.detector.start_pending ..) (runAll_locks ..)
  simp only [play]
  split
  · exact tracks
  · split
    · exact windDown_tracks _ started
    · exact started

theorem stop_tracks (tracks : playback.detector.Tracks stage foreign) (now : Float) :
    (playback.stop stage now).actor.detector.Tracks (playback.stop stage now).stage foreign := by
  have advanced : playback.detector.Tracks (playback.engine.stopAll.advance stage now).stage
      foreign :=
    tracks.of_pending rfl (advance_locks ..)
  exact windDown_tracks ⟨_, playback.detector⟩ advanced

theorem frame_tracks (tracks : playback.detector.Tracks stage foreign) (now : Float) :
    (playback.frame stage now).actor.detector.Tracks (playback.frame stage now).stage foreign := by
  have advanced : playback.detector.Tracks (playback.engine.advance stage now).stage foreign :=
    tracks.of_pending rfl (advance_locks ..)
  have scanned := (playback.detector.advance_exchange
    (playback.engine.advance stage now).stage now).tracks advanced
  simp only [frame]
  split
  · exact windDown_tracks _ scanned
  · exact scanned

theorem perform_tracks (tracks : playback.detector.Tracks stage foreign) {call : Call}
    (spares : call.SparesPlayback) :
    (playback.perform stage call).actor.detector.Tracks (playback.perform stage call).stage
      foreign := by
  cases call with
  | play now => exact play_tracks tracks now
  | stop now => exact stop_tracks tracks now
  | toggle now =>
      simp only [perform, toggle]
      split
      · exact stop_tracks tracks now
      · exact play_tracks tracks now
  | frame now => exact frame_tracks tracks now
  | edit edit => exact tracks.of_pending rfl (stage.edit_locks spares.1)

theorem after_tracks (tracks : playback.detector.Tracks stage foreign) {calls : List Call}
    (spare : ∀ call ∈ calls, call.SparesPlayback) :
    (playback.after stage calls).1.detector.Tracks (playback.after stage calls).2 foreign := by
  induction calls generalizing playback stage with
  | nil => exact tracks
  | cons call rest induction =>
      rcases List.forall_mem_cons.mp spare with ⟨first, later⟩
      exact induction (perform_tracks tracks first) later

/-! ## Frames after the end -/

/-- A playback that has ended after some more frames: only the locks that they have reached
are gone. -/
structure Rests (playback : Playback) (stage : Stage) (frames : List Float)
    (last : Playback) (lastStage : Stage) : Prop where
  shows : last.Shows lastStage false
  pending : ∀ entry, entry ∈ last.detector.pending ↔
    entry ∈ playback.detector.pending ∧ ∀ now ∈ frames, ¬entry.1 ≤ now
  kept : lastStage = { stage with locks := lastStage.locks }
  locks : lastStage.locks.Sublist stage.locks

theorem Shows.frame_of_ended (shows : playback.Shows stage false) (now : Float) :
    playback.frame stage now =
      ⟨⟨playback.engine, (playback.detector.release now).1⟩,
        stage.replay (playback.detector.release now).2, false,
        (playback.detector.release now).2⟩ := by
  have ended : (stage.replay (playback.detector.release now).2).isPlaying = false := by
    rw [Stage.replay_isPlaying, shows.stage]
  simp only [Playback.frame, Engine.advance_of_isIdle shows.engine,
    Detector.advance_of_stopped shows.detector, ended, Bool.false_and, Bool.false_eq_true,
    if_false, List.nil_append]

theorem Shows.frame_swaps (shows : playback.Shows stage false) (now : Float) :
    (playback.frame stage now).trace.swaps = [] := by
  rw [shows.frame_of_ended now]
  refine List.filterMap_eq_nil_iff.mpr ?_
  intro action member
  rcases playback.detector.release_actions now action member with ⟨key, same⟩
  rw [same]
  rfl

theorem Shows.frame_rests (shows : playback.Shows stage false) (now : Float) :
    Rests playback stage [now] (playback.frame stage now).actor
      (playback.frame stage now).stage := by
  rw [shows.frame_of_ended now]
  rcases stage.replay_of_releases (playback.detector.release_actions now) with
    ⟨locks, changed, fewer⟩
  rw [changed]
  refine ⟨⟨shows.stage, shows.detector, shows.engine⟩, ?_, rfl, fewer⟩
  intro entry
  rw [List.forall_mem_singleton]
  exact Detector.mem_release_pending

theorem Rests.trans {middle last : Playback} {middleStage lastStage : Stage}
    {first later : List Float} (before : Rests playback stage first middle middleStage)
    (after : Rests middle middleStage later last lastStage) :
    Rests playback stage (first ++ later) last lastStage := by
  refine ⟨after.shows, ?_, ?_, after.locks.trans before.locks⟩
  · intro entry
    rw [after.pending, before.pending, List.forall_mem_append, and_assoc]
  · rw [after.kept, before.kept]

theorem Shows.frames_rest (shows : playback.Shows stage false) (frames : List Float) :
    Rests playback stage frames (playback.after stage (frames.map .frame)).1
      (playback.after stage (frames.map .frame)).2 := by
  induction frames generalizing playback stage with
  | nil =>
      refine ⟨shows, ?_, rfl, List.Sublist.refl _⟩
      intro entry
      exact (and_iff_left (List.forall_mem_nil _)).symm
  | cons now rest induction =>
      have first := shows.frame_rests now
      exact first.trans (induction first.shows)

theorem Rests.mem_locks {frames : List Float} {last : Playback} {lastStage : Stage}
    (rests : Rests playback stage frames last lastStage)
    (tracks : playback.detector.Tracks stage []) (stillTracks : last.detector.Tracks lastStage [])
    {due : Float} {key : LockKey} (member : (due, key) ∈ playback.detector.pending) :
    key ∈ lastStage.locks ↔ ∀ now ∈ frames, ¬due ≤ now := by
  rw [stillTracks.mem_locks, or_iff_left List.not_mem_nil, Detector.mem_keys]
  constructor
  · rintro ⟨other, left⟩
    rcases (rests.pending _).mp left with ⟨sameKey, late⟩
    rw [tracks.due_unique member sameKey]
    exact late
  · intro late
    exact ⟨due, (rests.pending _).mpr ⟨member, late⟩⟩

theorem Shows.isSettled_iff (shows : playback.Shows stage false)
    (tracks : playback.detector.Tracks stage []) :
    playback.isSettled stage = true ↔ playback.detector.pending = [] := by
  have idle : playback.engine.isIdle = true := shows.engine
  rw [isSettled, idle, Bool.true_and, Bool.and_eq_true, List.isEmpty_iff, List.isEmpty_iff]
  refine and_iff_left_of_imp fun nothing => List.eq_nil_iff_forall_not_mem.mpr fun key locked => ?_
  rcases (tracks.mem_locks key).mp locked with isKey | isForeign
  · rcases Detector.mem_keys.mp isKey with ⟨due, pending⟩
    rw [nothing] at pending
    exact List.not_mem_nil pending
  · exact List.not_mem_nil isForeign

theorem Rests.pending_eq_nil {frames : List Float} {now : Float} {last : Playback}
    {lastStage : Stage} (rests : Rests playback stage (frames ++ [now]) last lastStage)
    (ascending : (frames ++ [now]).IsChain (· ≤ ·)) :
    last.detector.pending = [] ↔ ∀ entry ∈ playback.detector.pending, entry.1 ≤ now := by
  rw [List.eq_nil_iff_forall_not_mem]
  constructor
  · intro none entry member
    by_contra late
    refine none entry ((rests.pending entry).mpr ⟨member, List.forall_mem_append.mpr ⟨?_, ?_⟩⟩)
    · intro earlier before reached
      exact late (Number.le_trans reached (Number.le_of_isChain ascending before))
    · exact List.forall_mem_singleton.mpr late
  · intro reached entry left
    rcases (rests.pending entry).mp left with ⟨member, late⟩
    exact late now (List.mem_append_right _ (List.mem_singleton_self now)) (reached entry member)

/-- A playback on a stage whose locks and playing flag it alone changes. Once the stage does
not play, frames leave all of it as it is but for the locks. Each lock is released by the
first frame that has reached its time, and the playback is settled from the frame on that has
reached them all. -/
theorem rest_after_end {settings : Settings} (made : ofSettings settings = .ok playback)
    (still : stage.isPlaying = false) (free : stage.locks = []) {calls : List Call}
    (spare : ∀ call ∈ calls, call.SparesPlayback)
    (ended : (playback.after stage calls).2.isPlaying = false) {frames : List Float} {now : Float}
    (ascending : (frames ++ [now]).IsChain (· ≤ ·)) :
    let atEnd := playback.after stage calls
    let last := atEnd.1.after atEnd.2 (frames.map .frame)
    let turn := last.1.frame last.2 now
    let pending := atEnd.1.detector.pending
    turn.stage = { atEnd.2 with locks := turn.stage.locks } ∧
      turn.answer = false ∧
      turn.trace.swaps = [] ∧
      turn.stage.locks.Sublist last.2.locks ∧
      (∀ key, key ∈ atEnd.2.locks ↔ ∃ due, (due, key) ∈ pending) ∧
      (∀ due key, (due, key) ∈ pending →
        (key ∈ last.2.locks ↔ ∀ earlier ∈ frames, ¬due ≤ earlier) ∧
        (key ∈ turn.stage.locks ↔ key ∈ last.2.locks ∧ ¬due ≤ now)) ∧
      (turn.actor.isSettled turn.stage = true ↔ ∀ entry ∈ pending, entry.1 ≤ now) ∧
      (last.1.isSettled last.2 = true → turn.actor.isSettled turn.stage = true) := by
  intro atEnd last turn pending
  have tracks : atEnd.1.detector.Tracks atEnd.2 [] :=
    after_tracks (ofSettings_tracks made free) spare
  have shows : atEnd.1.Shows atEnd.2 false := by
    rcases (ofSettings_shows made still).after (neverSetsPlaying_of_spares spare) with
      ⟨isPlaying, agreed⟩
    have same : isPlaying = false := agreed.stage.symm.trans ended
    exact same ▸ agreed
  have before : Rests atEnd.1 atEnd.2 frames last.1 last.2 := shows.frames_rest frames
  have step : Rests last.1 last.2 [now] turn.actor turn.stage := before.shows.frame_rests now
  have rests : Rests atEnd.1 atEnd.2 (frames ++ [now]) turn.actor turn.stage := before.trans step
  have lastTracks : last.1.detector.Tracks last.2 [] := by
    refine after_tracks tracks ?_
    intro call member
    rcases List.mem_map.mp member with ⟨_, _, same⟩
    exact same ▸ trivial
  have turnTracks : turn.actor.detector.Tracks turn.stage [] := frame_tracks lastTracks now
  have answer : turn.answer = false :=
    congrArg Turn.answer (before.shows.frame_of_ended now)
  refine ⟨rests.kept, answer, before.shows.frame_swaps now, step.locks, ?_, ?_, ?_, ?_⟩
  · intro key
    rw [tracks.mem_locks, or_iff_left List.not_mem_nil, Detector.mem_keys]
  · intro due key member
    have atLast := before.mem_locks tracks lastTracks member
    refine ⟨atLast, ?_⟩
    rw [rests.mem_locks tracks turnTracks member, atLast, List.forall_mem_append,
      List.forall_mem_singleton]
  · rw [rests.shows.isSettled_iff turnTracks, rests.pending_eq_nil ascending]
  · rw [before.shows.isSettled_iff lastTracks, rests.shows.isSettled_iff turnTracks]
    intro nothing
    refine List.eq_nil_iff_forall_not_mem.mpr fun entry left => ?_
    have member := ((step.pending entry).mp left).1
    rw [nothing] at member
    exact List.not_mem_nil member

/-- Two sprites that trade their programs while they turn in one place. The user stops them
long before they are released. -/
theorem rest_after_end_trade :
    let turning (id : UInt64) :=
      Block.plain ⟨⟨id⟩, .turnDegrees, [("degrees", ⟨.number, .number 90.0⟩)]⟩
    let cat := { Sprite.new ⟨1⟩ "Cat" .origin with program := [turning 1] }
    let dog := { Sprite.new ⟨2⟩ "Dog" .origin with program := [turning 2] }
    let stage := { Stage.ofSeed 0 with sprites := [cat, dog] }
    let playback : Playback := ⟨.ofSettings .standard, ⟨100.0, 50.0, 1000.0, none, []⟩⟩
    let atEnd := playback.after stage [.play 0.0, .frame 100.0, .stop 200.0]
    let last := atEnd.1.after atEnd.2 [.frame 600.0]
    let turn := last.1.frame last.2 1100.0
    ⟨⟨1⟩, ⟨2⟩⟩ ∈ atEnd.2.locks ∧ ⟨⟨1⟩, ⟨2⟩⟩ ∈ last.2.locks ∧
      ⟨⟨1⟩, ⟨2⟩⟩ ∉ turn.stage.locks ∧ turn.actor.isSettled turn.stage = true ∧
      turn.stage = { atEnd.2 with locks := turn.stage.locks } := by
  intro turning cat dog stage playback atEnd last turn
  let calls : List Call := [.play 0.0, .frame 100.0, .stop 200.0]
  have valid : Settings.standard.validate = .ok () := by decide +kernel
  have made : ofSettings .standard = .ok playback := by
    rw [ofSettings, Detector.ofSettings_of_valid valid]
    rfl
  have still : stage.isPlaying = false := rfl
  have free : stage.locks = [] := rfl
  have spare : ∀ call ∈ calls, call.SparesPlayback := by simp [calls, Call.SparesPlayback]
  have ended : (playback.after stage calls).2.isPlaying = false := by decide +kernel
  have ascending : ([600.0] ++ [1100.0] : List Float).IsChain (· ≤ ·) := by decide +kernel
  have rest := rest_after_end made still free spare ended ascending
  have locked : ⟨⟨1⟩, ⟨2⟩⟩ ∈ atEnd.2.locks := by decide +kernel
  have times : ∀ entry ∈ atEnd.1.detector.pending, ¬entry.1 ≤ 600.0 ∧ entry.1 ≤ 1100.0 := by
    decide +kernel
  rcases (rest.2.2.2.2.1 _).mp locked with ⟨due, member⟩
  have late : ∀ earlier ∈ ([600.0] : List Float), ¬due ≤ earlier :=
    List.forall_mem_singleton.mpr (times _ member).1
  have released := rest.2.2.2.2.2.1 due _ member
  exact ⟨locked, released.1.mpr late, fun kept => (released.2.mp kept).2 (times _ member).2,
    rest.2.2.2.2.2.2.1.mpr fun entry pending => (times entry pending).2, rest.1⟩

end Playback

end SpriteScript
