import Mathlib.Data.List.Forall2
import SpriteScript.Proofs.Run.Plan
import SpriteScript.Proofs.Run.Sight

namespace SpriteScript

/-! Malformed blocks. A block that lacks a number that it needs comes to a pause alone, and so
does a repeat block with nothing to repeat. A run of a program and a run of the program with
malformed blocks blanked, each by such a repeat block, move on side by side. -/

/-! ## Quiet blocks -/

def Definition.numberNames (definition : Definition) : List String :=
  (definition.slots.filter fun slot => slot.valueType = .number).map Slot.name

namespace Block

def IsMalformed (block : Block) : Prop :=
  ∃ name ∈ block.kind.definition.numberNames, (block.number name).isOk = false

instance (block : Block) : Decidable block.IsMalformed :=
  inferInstanceAs (Decidable (∃ name ∈ block.kind.definition.numberNames, _))

structure IsBlank (block : Block) : Prop where
  kind : block.kind = .repeatTimes
  children : block.children? = some []
  times : block.number "times" = .ok 0.0

structure IsQuiet (block : Block) : Prop where
  still : ∀ stance, block.motion? stance = none
  silent : block.speech? = none
  single : block.isEntered = false

variable {block : Block}

theorem isEntered_of_rounds_eq_zero (none : block.rounds = 0) : block.isEntered = false := by
  cases block with
  | plain head => rfl
  | container head children => simp [isEntered, none]

theorem IsMalformed.isQuiet (malformed : block.IsMalformed) : block.IsQuiet := by
  rcases malformed with ⟨name, needed, unread⟩
  have unreadable : ∃ fault, block.number name = .error fault := by
    cases read : block.number name with
    | ok value =>
        rw [read] at unread
        cases unread
    | error fault => exact ⟨fault, rfl⟩
  rcases unreadable with ⟨fault, failed⟩
  have alone (other : block.kind ≠ .repeatTimes) : block.isEntered = false :=
    isEntered_of_rounds_eq_zero (if_neg other)
  cases kind : block.kind with
  | moveSteps | turnDegrees =>
      rw [kind] at needed
      cases List.mem_singleton.mp needed
      exact ⟨fun stance => by simp [motion?, kind, failed], by simp [speech?, kind],
        alone (by simp [kind])⟩
  | goToXY =>
      rw [kind] at needed
      have still (stance : Stance) : block.motion? stance = none := by
        rcases List.mem_pair.mp needed with rfl | rfl
        · simp [motion?, kind, failed]
        · simp [motion?, kind, failed]
      exact ⟨still, by simp [speech?, kind], alone (by simp [kind])⟩
  | repeatTimes =>
      rw [kind] at needed
      cases List.mem_singleton.mp needed
      have none : block.rounds = 0 := by simp [rounds, passes, failed]
      exact ⟨fun stance => by simp [motion?, kind], by simp [speech?, kind],
        isEntered_of_rounds_eq_zero none⟩
  | say | think =>
      rw [kind] at needed
      cases List.mem_singleton.mp needed
      exact ⟨fun stance => by simp [motion?, kind],
        by simp [speech?, kind, failed, Except.toOption],
        alone (by simp [kind])⟩

theorem IsBlank.isQuiet (blank : block.IsBlank) : block.IsQuiet := by
  have kind := blank.kind
  refine ⟨fun stance => by rw [motion?, kind], by rw [speech?, kind], ?_⟩
  cases block with
  | plain head => rfl
  | container head children =>
      cases Option.some.inj blank.children
      rfl

/-! ## Blanked programs -/

/-- Whether a block is another one with some malformed blocks in it blanked. -/
inductive Blanked : Block → Block → Prop
  | plain (head : Head) : Blanked (.plain head) (.plain head)
  | container (head : Head) (children others : List Block)
      (alike : List.Forall₂ Blanked children others) :
      Blanked (.container head children) (.container head others)
  | blanked (block other : Block) (malformed : block.IsMalformed) (blank : other.IsBlank) :
      Blanked block other

mutual

theorem Blanked.refl : ∀ block : Block, Blanked block block
  | .plain head => .plain head
  | .container head children => .container head children children (Blanked.refls children)

theorem Blanked.refls : ∀ blocks : List Block, List.Forall₂ Blanked blocks blocks
  | [] => .nil
  | block :: rest => .cons (Blanked.refl block) (Blanked.refls rest)

end

theorem rounds_of_head {other : Block} (same : block.head = other.head) :
    block.rounds = other.rounds := by
  have alone (block : Block) : block.rounds = rounds (.plain block.head) := by
    cases block <;> rfl
  rw [alone block, alone other, same]

end Block

namespace Run

variable {scene : Scene} {block other : Block}

/-! ## The start of a block -/

theorem startAlone_of_head (same : block.head = other.head) :
    startAlone scene block = startAlone scene other := by
  have alone (block : Block) : startAlone scene block = startAlone scene (.plain block.head) := by
    cases block <;> rfl
  rw [alone block, alone other, same]

theorem startAlone_of_isQuiet (scene : Scene) (quiet : block.IsQuiet) :
    (startAlone scene block).1 = .ok scene.pause ∧ (startAlone scene block).2.actions = [] := by
  have opening := startAlone_opening scene block
  generalize startAlone scene block = started at opening ⊢
  cases opening with
  | idle _ told => exact ⟨rfl, Trace.actions_of_isSkip told⟩
  | moving sprite motion duration found asked =>
      rw [quiet.still] at asked
      cases asked
  | unreachable sprite motion found asked =>
      rw [quiet.still] at asked
      cases asked
  | speaking bubble seconds duration asked =>
      rw [quiet.silent] at asked
      cases asked
  | spoken bubble seconds duration asked =>
      rw [quiet.silent] at asked
      cases asked

structure Frame.Blanked (frame other : Frame) : Prop where
  body : List.Forall₂ Block.Blanked frame.body other.body
  rest : List.Forall₂ Block.Blanked frame.rest other.rest
  passesLeft : frame.passesLeft = other.passesLeft

def AreBlanked (frames others : List Frame) : Prop := List.Forall₂ Frame.Blanked frames others

structure Started.Blanked (started other : Started) : Prop where
  frames : AreBlanked started.frames other.frames
  wait : started.wait = other.wait
  actions : started.trace.actions = other.trace.actions
  count : started.trace.startedBlocks.length = other.trace.startedBlocks.length

/-- Two blocks that are not entered start alike if they open alike. -/
theorem start_blanked_of_not_isEntered {frames others : List Frame}
    (single : block.isEntered = false) (otherSingle : other.isEntered = false)
    (alike : AreBlanked frames others)
    (waits : (startAlone scene block).1 = (startAlone scene other).1)
    (acts : (startAlone scene block).2.actions = (startAlone scene other).2.actions) :
    (start scene frames block).Blanked (start scene others other) := by
  rw [start_of_not_isEntered single, start_of_not_isEntered otherSingle]
  refine ⟨alike, waits, acts, ?_⟩
  have none := (startAlone_opening scene block).startedBlocks
  have otherNone := (startAlone_opening scene other).startedBlocks
  exact congrArg (List.length · + 1) (none.trans otherNone.symm)

theorem start_blanked {block other : Block} (alike : Block.Blanked block other)
    {frames others : List Frame} (outer : AreBlanked frames others) :
    (start scene frames block).Blanked (start scene others other) := by
  cases alike with
  | plain head => exact start_blanked_of_not_isEntered rfl rfl outer rfl rfl
  | blanked _ _ malformed blank =>
      have quiet := malformed.isQuiet
      have otherQuiet := blank.isQuiet
      rcases startAlone_of_isQuiet scene quiet with ⟨waits, acts⟩
      rcases startAlone_of_isQuiet scene otherQuiet with ⟨otherWaits, otherActs⟩
      exact start_blanked_of_not_isEntered quiet.single otherQuiet.single outer
        (waits.trans otherWaits.symm) (acts.trans otherActs.symm)
  | container head children siblings inner =>
      have rounds : Block.rounds (.container head children) =
          Block.rounds (.container head siblings) := Block.rounds_of_head rfl
      cases inner with
      | nil => exact start_blanked_of_not_isEntered rfl rfl outer rfl rfl
      | @cons first sibling rest restSiblings firstAlike restAlike =>
          by_cases going : 0 < Block.rounds (.container head (first :: rest))
          · -- Both are entered, and their first children start in frames that are alike.
            have siblingGoing : 0 < Block.rounds (.container head (sibling :: restSiblings)) :=
              rounds ▸ going
            rw [start_of_rounds going, start_of_rounds siblingGoing]
            have inside : AreBlanked (⟨first :: rest, rest, _⟩ :: frames)
                (⟨sibling :: restSiblings, restSiblings, _⟩ :: others) :=
              .cons ⟨.cons firstAlike restAlike, restAlike, rounds⟩ outer
            have started := start_blanked firstAlike inside
            exact ⟨started.frames, started.wait, started.actions,
              congrArg (· + 1) started.count⟩
          · have none := Nat.eq_zero_of_not_pos going
            have single := Block.isEntered_of_rounds_eq_zero none
            have siblingSingle := Block.isEntered_of_rounds_eq_zero (rounds.symm.trans none)
            have same : startAlone scene (.container head (first :: rest)) =
                startAlone scene (.container head (sibling :: restSiblings)) :=
              startAlone_of_head rfl
            exact start_blanked_of_not_isEntered single siblingSingle outer
              (congrArg Prod.fst same) (congrArg (fun started => started.2.actions) same)

/-! ## The next block -/

inductive Next.Blanked : Next → Next → Prop
  | block (block other : Block) (frames others : List Frame)
      (alike : Block.Blanked block other) (outer : AreBlanked frames others) :
      Blanked (.block block frames) (.block other others)
  | passesDone (frames others : List Frame) (outer : AreBlanked frames others) :
      Blanked (.passesDone frames) (.passesDone others)
  | programDone : Blanked .programDone .programDone

theorem Next.blanked_of_isOver {frame sibling : Frame} {outer others : List Frame}
    (isOver : frame.IsOver) (siblingIsOver : sibling.IsOver) (alike : AreBlanked outer others) :
    Next.Blanked (next (frame :: outer)) (next (sibling :: others)) := by
  rw [next_of_isOver isOver, next_of_isOver siblingIsOver]
  cases alike with
  | nil => exact .programDone
  | cons first rest => exact .passesDone _ _ (.cons first rest)

theorem next_blanked {frames others : List Frame} (alike : AreBlanked frames others) :
    Next.Blanked (next frames) (next others) := by
  cases alike with
  | nil => exact .programDone
  | @cons frame sibling outer siblings first outerAlike =>
      rcases frame with ⟨body, rest, passesLeft⟩
      rcases sibling with ⟨siblingBody, siblingRest, _⟩
      rcases first with ⟨bodyAlike, restAlike, rfl⟩
      cases restAlike with
      | cons block later =>
          exact .block _ _ _ _ block (.cons ⟨bodyAlike, later, rfl⟩ outerAlike)
      | nil =>
          cases bodyAlike with
          | nil => exact Next.blanked_of_isOver ⟨rfl, .inl rfl⟩ ⟨rfl, .inl rfl⟩ outerAlike
          | cons block later =>
              match passesLeft with
              | passes + 2 =>
                  exact .block _ _ _ _ block (.cons ⟨.cons block later, later, rfl⟩ outerAlike)
              | 0 | 1 =>
                  exact Next.blanked_of_isOver ⟨rfl, .inr (by simp)⟩ ⟨rfl, .inr (by simp)⟩
                    outerAlike

/-! ## Driving -/

structure Blanked (run other : Run) : Prop where
  frames : AreBlanked run.frames other.frames
  wait : run.wait = other.wait
  isCancelled : run.isCancelled = other.isCancelled
  startedCount : run.startedCount = other.startedCount

structure Driven.Blanked (driven other : Driven) : Prop where
  run : Run.Blanked driven.run other.run
  status : driven.status = other.status
  actions : driven.trace.actions = other.trace.actions

variable {run sibling : Run}

theorem Blanked.cancel (alike : run.Blanked sibling) : run.cancel.Blanked sibling.cancel :=
  ⟨alike.frames, alike.wait, rfl, alike.startedCount⟩

theorem blanked_ofProgram {program other : List Block}
    (alike : List.Forall₂ Block.Blanked program other) :
    (ofProgram program).Blanked (ofProgram other) :=
  ⟨.cons ⟨alike, alike, rfl⟩ .nil, rfl, rfl, rfl⟩

theorem proceed_blanked (alike : run.Blanked sibling) (scene : Scene) :
    (run.proceed scene).Blanked (sibling.proceed scene) := by
  have found := next_blanked alike.frames
  rw [proceed, proceed]
  generalize next run.frames = first at found ⊢
  generalize next sibling.frames = second at found ⊢
  cases found with
  | block block other frames others blockAlike outer =>
      have started : (start scene frames block).Blanked (start scene others other) :=
        start_blanked blockAlike outer
      simp only [← started.wait, ← started.count, ← alike.startedCount]
      cases (start scene frames block).wait with
      | ok wait =>
          exact ⟨⟨started.frames, rfl, alike.isCancelled, rfl⟩, rfl, started.actions⟩
      | error fault => exact ⟨⟨.nil, rfl, alike.isCancelled, rfl⟩, rfl, started.actions⟩
  | passesDone frames others outer =>
      exact ⟨⟨outer, rfl, alike.isCancelled, alike.startedCount⟩, rfl, rfl⟩
  | programDone => exact ⟨⟨.nil, rfl, alike.isCancelled, alike.startedCount⟩, rfl, rfl⟩

theorem drive_blanked (alike : run.Blanked sibling) (scene : Scene) :
    (run.drive scene).Blanked (sibling.drive scene) := by
  have onward := proceed_blanked alike scene
  rcases run with ⟨frames, wait, isCancelled, startedCount⟩
  rcases sibling with ⟨siblingFrames, _, _, _⟩
  rcases alike with ⟨framesAlike, rfl, rfl, rfl⟩
  rw [drive, drive]
  by_cases marked : isCancelled = true
  · rw [if_pos marked, if_pos marked]
    exact ⟨⟨.nil, rfl, rfl, rfl⟩, rfl, rfl⟩
  · rw [if_neg marked, if_neg marked]
    cases wait with
    | ready => exact onward
    | animating tween => exact ⟨⟨framesAlike, rfl, rfl, rfl⟩, rfl, rfl⟩
    | speaking bubble deadline =>
        by_cases early : scene.now < deadline
        · simp only [if_pos early]
          exact ⟨⟨framesAlike, rfl, rfl, rfl⟩, rfl, rfl⟩
        · simp only [if_neg early]
          exact ⟨⟨framesAlike, rfl, rfl, rfl⟩, rfl, rfl⟩
    | pacing deadline =>
        by_cases early : scene.now < deadline
        · simp only [if_pos early]
          exact ⟨⟨framesAlike, rfl, rfl, rfl⟩, rfl, rfl⟩
        · simp only [if_neg early]
          exact onward

end Run

end SpriteScript
