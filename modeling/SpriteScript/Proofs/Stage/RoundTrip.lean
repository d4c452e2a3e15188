import SpriteScript.Proofs.Block.RoundTrip

namespace SpriteScript

/-! Sprites written as text and read again. A text may give a position or a rotation that is
infinite at single width; it is accepted, but the text that is written for it is not. All other
fields come back, but for the numbers of double width that are read as a neighbour. -/

/-! ## Positions -/

namespace Point

def reread (point : Point Float32) : Option (Point Float32) := do
  return ⟨← (Json.single point.x).asSingle?, ← (Json.single point.y).asSingle?⟩

theorem reread_of_infinite {point : Point Float32}
    (infinite : (point.x.isFinite && point.y.isFinite) = false) : point.reread = none := by
  rw [reread]
  rcases Bool.and_eq_false_iff.mp infinite with x | y
  · rw [Json.asSingle?_of_infinite x]
    rfl
  · rw [Json.asSingle?_of_infinite y]
    cases (Json.single point.x).asSingle? <;> rfl

theorem reread_of_finite {point : Point Float32}
    (finite : (point.x.isFinite && point.y.isFinite) = true) : point.reread = some point := by
  rcases Bool.and_eq_true_iff.mp finite with ⟨x, y⟩
  rw [reread, Json.asSingle?_of_finite x, Json.asSingle?_of_finite y]
  rfl

end Point

namespace Sprite

/-! ## Reading field by field -/

theorem toJson_isProper (sprite : Sprite) : sprite.toJson.IsProper := by
  have position : sprite.position.toJson.IsProper :=
    ⟨Json.single_isProper _, Json.single_isProper _, trivial⟩
  have program : (Json.array (Block.toJsons sprite.program)).IsProper :=
    Block.toJsons_areProper sprite.program
  refine Json.isProper_record.mpr ?_
  simp only [List.forall_mem_cons, List.not_mem_nil, false_implies, implies_true, and_true]
  exact ⟨Json.natural_isProper _, trivial, position, Json.single_isProper _, program, trivial,
    Json.double_isProper _, trivial, Json.double_isProper _, trivial⟩

/-- What is read of a sprite from its own text; only numbers can be lost. -/
def reread (sprite : Sprite) : Reading Fault Sprite := do
  return { sprite with
    position := ← Reading.ofOption sprite.position.reread
    rotation := ← Reading.ofOption (Json.single sprite.rotation).asSingle?
    program := ← Reading.list (Block.read (Json.depthLimit - 2)) (Block.toJsons sprite.program)
    sayDuration := ← Reading.ofOption (Json.double sprite.sayDuration).asDouble?
    thinkDuration := ← Reading.ofOption (Json.double sprite.thinkDuration).asDouble? }

theorem read_toJson (sprite : Sprite) : read Json.depthLimit sprite.toJson = sprite.reread := by
  have number : (Json.natural sprite.id.number.toNat).asNatural? UInt32.size =
      some sprite.id.number.toNat :=
    Json.asNatural?_natural (by decide) sprite.id.number.toNat_lt
  have id : Reading.ofOption (((Json.natural sprite.id.number.toNat).asNatural? UInt32.size).map
      fun number => SpriteId.mk (.ofNat number)) = (.ok sprite.id : Reading Fault SpriteId) := by
    rw [number, Option.map_some, UInt32.ofNat_toNat]
    rfl
  rw [reread]
  change Field.fillEntries (Draft.fields (Json.depthLimit - 1)) .empty (_ :: _) >>= _ = _
  refine Field.fillEntries_ok rfl rfl (Reading.bind_ok id rfl) ?_
  refine Field.fillEntries_ok rfl rfl rfl ?_
  refine Field.fillEntries_bind rfl rfl rfl fun position => ?_
  refine Field.fillEntries_bind rfl rfl rfl fun rotation => ?_
  refine Field.fillEntries_bind rfl rfl rfl fun program => ?_
  refine Field.fillEntries_ok rfl rfl rfl ?_
  refine Field.fillEntries_bind rfl rfl rfl fun sayDuration => ?_
  refine Field.fillEntries_ok rfl rfl rfl ?_
  refine Field.fillEntries_bind rfl rfl rfl fun thinkDuration => ?_
  exact Field.fillEntries_ok rfl rfl rfl rfl

theorem ofText_toText_eq (sprite : Sprite) : ofText sprite.toText = sprite.reread := by
  have document := Document.ofString_toText sprite.toJson_isProper
  rw [ofText, toText, Reading.text_of_ended document]
  exact sprite.read_toJson

def isFinite (sprite : Sprite) : Bool :=
  sprite.position.x.isFinite && sprite.position.y.isFinite && sprite.rotation.isFinite

theorem reread_of_infinite {sprite : Sprite} (infinite : sprite.isFinite = false) :
    sprite.reread = .error .malformed := by
  rw [reread]
  rcases Bool.and_eq_false_iff.mp infinite with position | rotation
  · rw [Point.reread_of_infinite position]
    rfl
  · rw [Json.asSingle?_of_infinite rotation]
    cases sprite.position.reread <;> rfl

theorem reread_of_finite {sprite : Sprite} (finite : sprite.isFinite = true)
    (sayFinite : sprite.sayDuration.isFinite = true)
    (thinkFinite : sprite.thinkDuration.isFinite = true)
    (programFinite : (sprite.program.flatMap Block.numbers).all Float.isFinite)
    (sound : ∀ block ∈ sprite.program, block.IsSound)
    (within : ∀ block ∈ sprite.program, 2 * block.depth < Json.depthLimit - 2) :
    sprite.reread = .ok { sprite with
      program := sprite.program.map Block.reread
      sayDuration := Json.reread sprite.sayDuration
      thinkDuration := Json.reread sprite.thinkDuration } := by
  rcases Bool.and_eq_true_iff.mp finite with ⟨position, rotation⟩
  have program : Reading.list (Block.read (Json.depthLimit - 2)) (Block.toJsons sprite.program) =
      .ok (sprite.program.map Block.reread) := by
    rw [Block.list_toJsons sound, Reading.provided, if_pos ⟨programFinite, within⟩,
      Block.rereads_eq]
  rw [reread, Point.reread_of_finite position, Json.asSingle?_of_finite rotation, program,
    Json.asDouble?_double sayFinite, Json.asDouble?_double thinkFinite]
  rfl

/-! ## Accepted texts -/

/-- A text is written again for an accepted sprite. If the position or the rotation is infinite,
the text is refused. If both are finite it is accepted, and everything but the numbers of double
width is read as it was; each of those is the same exactly if it comes back from its own
text. -/
theorem ofText_toText_of_accepted {text : String} {sprite : Sprite}
    (accepted : ofText text = .ok sprite) :
    (sprite.isFinite = false → ofText sprite.toText = .error .malformed) ∧
      (sprite.isFinite = true → ∃ again, ofText sprite.toText = .ok again ∧
        again.id = sprite.id ∧ again.name = sprite.name ∧ again.position = sprite.position ∧
        again.rotation = sprite.rotation ∧ again.sayText = sprite.sayText ∧
        again.thinkText = sprite.thinkText ∧ again.isRunning = sprite.isRunning ∧
        (again.sayDuration = sprite.sayDuration ↔ Json.ReadsBack sprite.sayDuration) ∧
        (again.thinkDuration = sprite.thinkDuration ↔ Json.ReadsBack sprite.thinkDuration) ∧
        again.program = sprite.program.map Block.reread ∧
        ∀ block ∈ sprite.program,
          block.reread = block ↔ ∀ number ∈ block.numbers, Json.ReadsBack number) := by
  have readable : ∀ tree block, Block.read (Json.depthLimit - 2) tree = .ok block →
      block.IsSound ∧ 2 * block.depth < Json.depthLimit - 2 ∧ block.numbers.all Float.isFinite :=
    fun tree block read =>
      ⟨Block.read_isSound read, Block.read_depth read, Block.read_isFinite read⟩
  rcases ofText_holds (fun _ _ => Json.asDouble?_isFinite) readable accepted with
    ⟨blocks, sayFinite, thinkFinite⟩
  have programFinite : (sprite.program.flatMap Block.numbers).all Float.isFinite := by
    rw [List.all_flatMap]
    exact List.all_eq_true.mpr fun block member => (blocks block member).2.2
  rw [ofText_toText_eq]
  refine ⟨reread_of_infinite, fun finite => ⟨_, reread_of_finite finite sayFinite thinkFinite
    programFinite (fun block member => (blocks block member).1)
    (fun block member => (blocks block member).2.1), rfl, rfl, rfl, rfl, rfl, rfl, rfl,
    Json.reread_eq_iff sayFinite, Json.reread_eq_iff thinkFinite, rfl, ?_⟩⟩
  exact fun block member => Block.reread_eq_iff (blocks block member).2.2

def catText (rotation steps sayDuration : String) : String :=
  "[1,\"Cat\",[1.5,-0.25]," ++ rotation ++
    ",[[7,\"move_steps\",\x7b\"steps\":[\"number\"," ++ steps ++ "]\x7d]],\"Hi\"," ++
    sayDuration ++ ",\"\",0,false]"

/-- The duration is read as a neighbour here, and everything else comes back. -/
theorem ofText_toText_of_accepted_cat :
    ∃ cat, ofText (catText "90" "2.5" "938.68648178367150") = .ok cat ∧ cat.isFinite = true ∧
      cat.program.length = 1 ∧ ∃ again, ofText cat.toText = .ok again ∧
        again.position = cat.position ∧ again.rotation = cat.rotation ∧
        again.program = cat.program ∧ again.sayDuration ≠ cat.sayDuration ∧
        again.thinkDuration = cat.thinkDuration := by
  have read : (ofText (catText "90" "2.5" "938.68648178367150")).toOption.map (fun cat =>
      (cat.isFinite, cat.program.length, decide (Json.ReadsBack cat.sayDuration),
        decide (Json.ReadsBack cat.thinkDuration),
        decide (∀ block ∈ cat.program, ∀ number ∈ block.numbers, Json.ReadsBack number))) =
      some (true, 1, false, true, true) := by
    decide +kernel
  rcases Option.map_eq_some_iff.mp read with ⟨cat, read, values⟩
  simp only [Prod.mk.injEq, decide_eq_true_eq, decide_eq_false_iff_not] at values
  rcases values with ⟨finite, length, say, think, numbers⟩
  have accepted := ok_of_toOption read
  rcases (ofText_toText_of_accepted accepted).2 finite with ⟨again, done, -, -, position, rotation,
    -, -, -, sayDuration, thinkDuration, program, same⟩
  refine ⟨cat, accepted, finite, length, again, done, position, rotation, ?_,
    mt sayDuration.mp say, thinkDuration.mpr think⟩
  rw [program]
  exact (List.map_congr_left fun block member =>
    (same block member).mpr (numbers block member)).trans
    (List.map_id _)

/-- A rotation that is finite at double width only is accepted, but not written. Numbers of
double width with a zero at their end are written without it, and then they are read as their
neighbours, in durations and in blocks. -/
theorem ofText_toText_losses :
    (∃ cat, ofText (catText "1e39" "2.5" "2000") = .ok cat ∧
        ofText cat.toText = .error .malformed) ∧
      (∃ cat again, ofText (catText "90" "2.5" "938.68648178367150") = .ok cat ∧
        ofText cat.toText = .ok again ∧ again.sayDuration ≠ cat.sayDuration) ∧
      ∃ cat again, ofText (catText "90" "938.68648178367150" "2000") = .ok cat ∧
        ofText cat.toText = .ok again ∧ again.program ≠ cat.program := by
  have spins : (ofText (catText "1e39" "2.5" "2000")).toOption.map isFinite = some false := by
    decide +kernel
  have waits : (ofText (catText "90" "2.5" "938.68648178367150")).toOption.bind (fun cat =>
      cat.reread.toOption.map fun again => decide (again.sayDuration ≠ cat.sayDuration)) =
        some true := by
    decide +kernel
  have steps : (ofText (catText "90" "938.68648178367150" "2000")).toOption.bind (fun cat =>
      cat.reread.toOption.map fun again => decide (again.program.flatMap Block.numbers ≠
        cat.program.flatMap Block.numbers)) = some true := by
    decide +kernel
  rcases Option.map_eq_some_iff.mp spins with ⟨spinning, read, infinite⟩
  rcases Option.bind_eq_some_iff.mp waits with ⟨waiting, waitingRead, waits⟩
  rcases Option.map_eq_some_iff.mp waits with ⟨waitingAgain, waitingDone, waits⟩
  rcases Option.bind_eq_some_iff.mp steps with ⟨stepping, steppingRead, steps⟩
  rcases Option.map_eq_some_iff.mp steps with ⟨steppingAgain, steppingDone, steps⟩
  refine ⟨⟨spinning, ok_of_toOption read, ?_⟩,
    ⟨waiting, waitingAgain, ok_of_toOption waitingRead, ?_, of_decide_eq_true waits⟩,
    stepping, steppingAgain, ok_of_toOption steppingRead, ?_, fun same =>
      of_decide_eq_true steps (congrArg (List.flatMap Block.numbers) same)⟩
  · rw [ofText_toText_eq, reread_of_infinite infinite]
  · rw [ofText_toText_eq]
    exact ok_of_toOption waitingDone
  · rw [ofText_toText_eq]
    exact ok_of_toOption steppingDone

end Sprite

end SpriteScript
