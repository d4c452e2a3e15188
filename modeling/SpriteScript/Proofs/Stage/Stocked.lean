import SpriteScript.Proofs.Block.Built
import SpriteScript.Proofs.Stage.Edit
import SpriteScript.Proofs.Stage.Programs

namespace SpriteScript

/-! Stages whose programs consist of blocks that can be built. Edits only bring in such
blocks, so every block on the stage fits its kind, and so does what is taken off it. -/

def Stage.ProgramEdit.block? : ProgramEdit → Option Block
  | .addBlock block => some block
  | .addChild _ child => some child
  | _ => none

def Sprite.Stocked (sprite : Sprite) : Prop := ∀ block ∈ sprite.program, block.Built

namespace Stage

def Stocked (stage : Stage) : Prop := ∀ sprite ∈ stage.sprites, sprite.Stocked

theorem stocked_iff {stage : Stage} :
    stage.Stocked ↔ ∀ program ∈ stage.programs, ∀ block ∈ program, block.Built := by
  rw [programs, List.forall_mem_map]
  rfl

/-! ## Edits of programs -/

theorem Stocked.program {stage : Stage} (stocked : stage.Stocked) {program : List Block}
    (has : stage.program = .ok program) : ∀ block ∈ program, block.Built := by
  rw [Stage.program] at has
  split at has
  · next sprite found =>
      cases has
      exact stocked sprite (List.mem_of_find?_eq_some found)
  · cases has

theorem Stocked.withProgram {stage : Stage} (stocked : stage.Stocked) {program : List Block}
    (built : ∀ block ∈ program, block.Built) : (stage.withProgram program).Stocked := by
  rw [stocked_iff, Stage.withProgram, programs_changeProgram]
  intro other member
  rcases List.mem_or_eq_of_mem_set member with old | rfl
  · exact stocked_iff.mp stocked other old
  · exact built

theorem mem_of_blockAt {program : List Block} {index : Nat} {block : Block}
    (found : blockAt program index = .ok block) : block ∈ program := by
  rw [blockAt] at found
  split at found
  · next present =>
      cases found
      exact List.mem_of_getElem? present
  · cases found

theorem built_set {program : List Block} {index : Nat} {changed : Block}
    (built : ∀ block ∈ program, block.Built) (changedBuilt : changed.Built) :
    ∀ block ∈ program.set index changed, block.Built := by
  intro block member
  rcases List.mem_or_eq_of_mem_set member with old | rfl
  · exact built block old
  · exact changedBuilt

theorem Stocked.removeBlock {stage : Stage} (stocked : stage.Stocked) {index : Nat}
    {taken : Block × Stage} (done : stage.removeBlock index = .ok taken) :
    taken.1.Built ∧ taken.2.Stocked := by
  rcases ok_of_bind done with ⟨program, has, done⟩
  rcases ok_of_bind done with ⟨block, found, done⟩
  cases done
  have built := stocked.program has
  exact ⟨built block (mem_of_blockAt found), stocked.withProgram fun other member =>
    built other (List.mem_of_mem_eraseIdx member)⟩

theorem Stocked.editProgram {stage next : Stage} (stocked : stage.Stocked) {edit : ProgramEdit}
    (brings : ∀ block, edit.block? = some block → block.Built)
    (done : stage.editProgram edit = .ok next) : next.Stocked := by
  cases edit with
  | addBlock block =>
      rcases ok_of_bind done with ⟨program, has, done⟩
      cases done
      exact stocked.withProgram (List.forall_mem_append.mpr
        ⟨stocked.program has, List.forall_mem_singleton.mpr (brings block rfl)⟩)
  | removeBlock index =>
      rcases ok_of_bind done with ⟨taken, removed, done⟩
      cases done
      exact (stocked.removeBlock removed).2
  | moveBlock source target =>
      rcases ok_of_bind done with ⟨program, has, done⟩
      rcases ok_of_bind done with ⟨block, found, done⟩
      rcases ok_of_bind done with ⟨_, _, done⟩
      cases done
      have built := stocked.program has
      refine stocked.withProgram fun other member => ?_
      rcases List.eq_or_mem_of_mem_insertIdx member with rfl | member
      · exact built _ (mem_of_blockAt found)
      · exact built other (List.mem_of_mem_eraseIdx member)
  | setBlockInput index name value =>
      rcases ok_of_bind done with ⟨⟨isKnown, left⟩, given, done⟩
      cases done
      rcases ok_of_bind given with ⟨program, has, given⟩
      rcases ok_of_bind given with ⟨block, found, given⟩
      split at given
      · next changed set =>
          cases given
          have built := stocked.program has
          exact stocked.withProgram
            (built_set built (.setInput (built block (mem_of_blockAt found)) set))
      · cases given
        exact stocked
  | addChild index child =>
      rcases ok_of_bind done with ⟨program, has, done⟩
      rcases ok_of_bind done with ⟨block, found, done⟩
      rcases ok_of_bind done with ⟨pushed, push, done⟩
      cases done
      have built := stocked.program has
      exact stocked.withProgram
        (built_set built (.push (built block (mem_of_blockAt found)) (brings child rfl) push))

/-! ## All edits -/

/-- Whether an edit brings only blocks that can be built into programs. A change of a
record may put in a sprite that is read from a text, among others. -/
def Edit.BringsBuilt : Edit → Prop
  | .program edit => ∀ block, edit.block? = some block → block.Built
  | .change _ made => ∀ sprite : Sprite, sprite.Stocked → (made sprite).Stocked
  | _ => True

theorem Stocked.apply {stage : Stage} (stocked : stage.Stocked) (action : Action) :
    (stage.apply action).Stocked := by
  rw [stocked_iff, (stage.trades_apply action).programs]
  intro program member
  exact stocked_iff.mp stocked program ((exchangeAll_perm _ _ _).mem_iff.mp member)

theorem Stocked.edit {stage : Stage} (stocked : stage.Stocked) {edit : Edit}
    (brings : edit.BringsBuilt) : (stage.edit edit).Stocked := by
  cases edit with
  | program edit =>
      simp only [Stage.edit]
      cases done : stage.editProgram edit with
      | error fault => exact stocked
      | ok next => exact stocked.editProgram brings done
  | act action => exact stocked.apply action
  | change id made =>
      intro sprite member
      rcases mem_changeFirst member with old | ⟨before, inside, rfl⟩
      · exact stocked sprite old
      · exact brings before (stocked before inside)
  | addSprite =>
      simp only [Stage.edit, addSprite]
      split
      · exact stocked
      · exact List.forall_mem_append.mpr
          ⟨stocked, List.forall_mem_singleton.mpr fun block member => by cases member⟩
  | select id =>
      rcases stage.edit_select id with same | changed
      · rw [same]
        exact stocked
      · rw [changed]
        exact stocked
  | setPlaying isPlaying => exact stocked

inductive Built : Stage → Prop
  | begun (seed : UInt64) (extent : Float32) : Built (withExtent seed extent)
  | edited {stage : Stage} {edit : Edit} (built : Built stage) (brings : edit.BringsBuilt) :
      Built (stage.edit edit)

theorem Built.stocked {stage : Stage} (built : stage.Built) : stage.Stocked := by
  induction built with
  | begun seed extent =>
      exact List.forall_mem_singleton.mpr fun block member => by cases member
  | edited _ brings stocked => exact stocked.edit brings

/-- Every block of every tree fits its kind: in a block that is built, in the programs of a
stage, in a sprite that is read from a text, and in a block that is taken off a stage, which
may be used to build others again. -/
theorem schema_at_every_node :
    (∀ block, Block.Built block → ∀ node ∈ block.nodes, node.Fits) ∧
      (∀ stage, Stage.Built stage → ∀ sprite ∈ stage.sprites, ∀ block ∈ sprite.program,
        block.Built ∧ ∀ node ∈ block.nodes, node.Fits) ∧
      (∀ text sprite, Sprite.ofText text = .ok sprite → ∀ block ∈ sprite.program,
        block.Built ∧ ∀ node ∈ block.nodes, node.Fits) ∧
      (∀ stage index taken, Stage.Built stage → stage.removeBlock index = .ok taken →
        taken.1.Built ∧ ∀ node ∈ taken.1.nodes, node.Fits) := by
  refine ⟨fun block built => built.isSound, ?_, ?_, ?_⟩
  · intro stage built sprite inside block member
    have blockBuilt := built.stocked sprite inside block member
    exact ⟨blockBuilt, blockBuilt.isSound⟩
  · intro text sprite read block member
    have blockBuilt : block.Built := .ofSprite read member
    exact ⟨blockBuilt, blockBuilt.isSound⟩
  · intro stage index taken built done
    have takenBuilt := (built.stocked.removeBlock done).1
    exact ⟨takenBuilt, takenBuilt.isSound⟩

def looping : Stage :=
  ((withExtent 0 100.0).edit
      (.program (.addBlock (.new .repeatTimes ⟨1⟩)))).edit
    (.program (.addChild 0 (Block.withInputs .say [("text", .text "Hi")] ⟨2⟩).1))

theorem looping_built : looping.Built := by
  refine .edited (.edited (.begun 0 100.0) ?_) ?_
  · intro block same
    cases same
    exact .new _ _
  · intro block same
    cases same
    exact .withInputs _ _ _

def walkerText : String :=
  "[1,\"Cat\",[0,0],0,[[7,\"move_steps\",\x7b\"steps\":[\"number\",2]\x7d]]," ++
    "\"\",0,\"\",0,false]"

theorem schema_at_every_node_looping :
    ∃ (walker : Sprite) (taken : Block × Stage),
      Sprite.ofText walkerText = .ok walker ∧ looping.removeBlock 0 = .ok taken ∧
        looping.programs.map Block.sizes = [2] ∧ walker.program.length = 1 ∧ taken.1.size = 2 ∧
        (∀ sprite ∈ looping.sprites, ∀ block ∈ sprite.program, ∀ node ∈ block.nodes, node.Fits) ∧
        (∀ block ∈ walker.program, ∀ node ∈ block.nodes, node.Fits) ∧
        ∀ node ∈ taken.1.nodes, node.Fits := by
  have readLength : (Sprite.ofText walkerText).toOption.map
      (fun walker => walker.program.length) = some 1 := by
    decide +kernel
  have takenSize : (looping.removeBlock 0).toOption.map (fun taken => taken.1.size) = some 2 := by
    decide +kernel
  rcases Option.map_eq_some_iff.mp readLength with ⟨walker, read, length⟩
  rcases Option.map_eq_some_iff.mp takenSize with ⟨taken, removed, size⟩
  have read := ok_of_toOption read
  have removed := ok_of_toOption removed
  rcases schema_at_every_node with ⟨inBlocks, onStages, inSprites, offStages⟩
  refine ⟨walker, taken, read, removed, by decide +kernel, length, size, ?_, ?_, ?_⟩
  · intro sprite inside block member
    exact (onStages looping looping_built sprite inside block member).2
  · intro block member
    exact (inSprites walkerText walker read block member).2
  · exact inBlocks taken.1 (offStages looping 0 taken looping_built removed).1

end Stage

end SpriteScript
