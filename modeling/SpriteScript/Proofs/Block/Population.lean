import SpriteScript.Proofs.Block.Identifiers
import SpriteScript.Proofs.Block.RoundTrip

namespace SpriteScript

/-! All blocks of a process. Nothing but a creation moves the source of identifiers: so created
blocks have different identifiers as long as there are enough, but a text brings its own, which
the source gives out again when their turn comes. -/

inductive Birth
  | new (kind : BlockKind)
  | withInputs (kind : BlockKind) (values : List (String × InputValue))
  | create (name : String) (values : List (String × InputValue))
  | duplicate (block : Block)
  | load (text : String)
  | loadSprite (text : String)

structure Population where
  ids : BlockIds
  created : List Block
  loaded : List Block

namespace Population

def empty : Population := ⟨.start, [], []⟩

def createdIds (population : Population) : List BlockId :=
  (Block.nodesOf population.created).map Block.id

def loadedIds (population : Population) : List BlockId :=
  (Block.nodesOf population.loaded).map Block.id

def receive (population : Population) (made : Block × BlockIds) : Population :=
  { population with ids := made.2, created := population.created ++ [made.1] }

/-- A population after a birth. A name that is not one of a kind and a text that is refused
leave it as it is. -/
def bear (population : Population) : Birth → Population
  | .new kind =>
      let (id, rest) := population.ids.take
      population.receive (.new kind id, rest)
  | .withInputs kind values => population.receive (Block.withInputs kind values population.ids)
  | .create name values =>
      match (Block.create name values population.ids).1 with
      | .ok made => population.receive made
      | .error _ => population
  | .duplicate block => population.receive (block.duplicate population.ids)
  | .load text =>
      match Block.ofText text with
      | .ok block => { population with loaded := population.loaded ++ [block] }
      | .error _ => population
  | .loadSprite text =>
      match Sprite.ofText text with
      | .ok sprite => { population with loaded := population.loaded ++ sprite.program }
      | .error _ => population

def after (population : Population) (births : List Birth) : Population :=
  births.foldl bear population

structure Grows (population next : Population) (made : List Block) : Prop where
  created : next.created = population.created ++ made
  given : (Block.nodesOf made).map Block.id =
    population.ids.upcoming (Block.nodesOf made).length
  ids : next.ids = population.ids.skip (Block.nodesOf made).length

variable {population next : Population}

theorem Grows.createdIds {made : List Block} (grows : population.Grows next made) :
    next.createdIds =
      population.createdIds ++ population.ids.upcoming (Block.nodesOf made).length := by
  rw [Population.createdIds, grows.created, Block.nodesOf_eq, List.flatMap_append, List.map_append,
    ← Block.nodesOf_eq, ← Block.nodesOf_eq, grows.given]
  rfl

theorem grows_nil (created : next.created = population.created) (ids : next.ids = population.ids) :
    population.Grows next [] :=
  ⟨created.trans (List.append_nil _).symm, rfl, by simp [ids, Block.nodesOf, BlockIds.skip]⟩

theorem receive_grows {made : Block × BlockIds}
    (given : made.1.nodes.map Block.id = population.ids.upcoming made.1.nodes.length)
    (rest : made.2 = population.ids.skip made.1.nodes.length) :
    population.Grows (population.receive made) [made.1] := by
  have nodes : Block.nodesOf [made.1] = made.1.nodes := List.append_nil _
  exact ⟨rfl, nodes ▸ given, nodes ▸ rest⟩

theorem receive_single_grows {block : Block}
    (given : block.nodes.map Block.id = population.ids.upcoming 1) :
    population.Grows (population.receive (block, population.ids.take.2)) [block] := by
  have single := congrArg List.length given
  rw [List.length_map, BlockIds.length_upcoming] at single
  refine receive_grows ?_ ?_
  · rw [single]
    exact given
  · rw [single]
    rfl

/-- No birth but a creation moves the source, and that by the size of the new tree. -/
theorem bear_grows (population : Population) (birth : Birth) :
    ∃ made, population.Grows (population.bear birth) made := by
  cases birth with
  | new kind => exact ⟨_, receive_single_grows (Block.withInputs_ids kind [] population.ids)⟩
  | withInputs kind values =>
      exact ⟨_, receive_single_grows (Block.withInputs_ids kind values population.ids)⟩
  | create name values =>
      simp only [bear, Block.create]
      cases BlockKind.ofName? name with
      | some kind =>
          exact ⟨_, receive_single_grows (Block.withInputs_ids kind values population.ids)⟩
      | none => exact ⟨[], grows_nil rfl rfl⟩
  | duplicate block =>
      rcases Block.duplicate_ids population.ids block with ⟨given, rest⟩
      have same := congrArg List.length given
      rw [List.length_map, BlockIds.length_upcoming] at same
      rw [← same] at given rest
      exact ⟨_, receive_grows given rest⟩
  | load text =>
      simp only [bear]
      split <;> exact ⟨[], grows_nil rfl rfl⟩
  | loadSprite text =>
      simp only [bear]
      split <;> exact ⟨[], grows_nil rfl rfl⟩

structure IsNumbered (population : Population) : Prop where
  createdIds : population.createdIds = BlockIds.start.upcoming population.createdIds.length
  ids : population.ids = BlockIds.start.skip population.createdIds.length

theorem empty_isNumbered : empty.IsNumbered := ⟨rfl, rfl⟩

theorem IsNumbered.grows {made : List Block} (numbered : population.IsNumbered)
    (grows : population.Grows next made) : next.IsNumbered := by
  have total : next.createdIds.length =
      population.createdIds.length + (Block.nodesOf made).length := by
    rw [grows.createdIds, List.length_append, BlockIds.length_upcoming]
  constructor
  · rw [total, BlockIds.upcoming_add, ← numbered.ids, ← numbered.createdIds]
    exact grows.createdIds
  · rw [total, BlockIds.skip_add, ← numbered.ids]
    exact grows.ids

theorem IsNumbered.after (numbered : population.IsNumbered) (births : List Birth) :
    (population.after births).IsNumbered := by
  induction births generalizing population with
  | nil => exact numbered
  | cons birth rest induction =>
      rcases population.bear_grows birth with ⟨made, grows⟩
      exact induction (numbered.grows grows)

/-- As long as the source has not come round, the blocks that are created after any births
have identifiers that differ from each other and from those of all blocks created before. An
identifier from a text is given out again if its turn comes, and only then. -/
theorem new_ids_differ (births : List Birth) (birth : Birth)
    (few : ((empty.after births).bear birth).createdIds.length < UInt64.size) :
    let before := empty.after births
    let next := before.bear birth
    ∃ made, next.created = before.created ++ made ∧
      let ids := (Block.nodesOf made).map Block.id
      ids.Nodup ∧ (∀ id ∈ ids, id ∉ before.createdIds) ∧
        ∀ id ∈ before.loadedIds, id ∈ ids ↔
          before.createdIds.length < id.number.toNat ∧
            id.number.toNat ≤ next.createdIds.length := by
  intro before next
  have numbered : before.IsNumbered := empty_isNumbered.after births
  rcases before.bear_grows birth with ⟨made, grows⟩
  have nextNumbered : next.IsNumbered := numbered.grows grows
  have distinct : next.createdIds.Nodup := by
    rw [nextNumbered.createdIds]
    exact BlockIds.upcoming_nodup _ (Nat.le_of_lt few)
  have total : next.createdIds.length =
      before.createdIds.length + (Block.nodesOf made).length := by
    rw [grows.createdIds, List.length_append, BlockIds.length_upcoming]
  rw [grows.createdIds, List.nodup_append] at distinct
  refine ⟨made, grows.created, ?_⟩
  rw [grows.given]
  refine ⟨distinct.2.1, ?_, ?_⟩
  · intro id isNew isOld
    exact distinct.2.2 id isOld id isNew rfl
  · intro id _
    rw [numbered.ids, total]
    exact BlockIds.mem_upcoming_start (total ▸ few)

/-- The block from the text has the identifier that the source gives out next but one. The
copy of a loop with one child then takes it for the child. -/
theorem new_ids_differ_duplicate :
    let text := "\x7b\"id\":3,\"kind\":\"turn_degrees\",\"inputs\":" ++
      "\x7b\"degrees\":\x7b\"value_type\":\"number\",\"value\":90\x7d\x7d\x7d"
    let loop := Block.container ⟨⟨7⟩, .repeatTimes, []⟩ [.plain ⟨⟨1⟩, .say, []⟩]
    let before := empty.after [.new .say, .load text]
    let next := before.bear (.duplicate loop)
    ∃ made, next.created = before.created ++ made ∧
      let ids := (Block.nodesOf made).map Block.id
      ids.Nodup ∧ (∀ id ∈ ids, id ∉ before.createdIds) ∧
        ⟨3⟩ ∈ before.loadedIds ∧ ⟨3⟩ ∈ ids := by
  intro text loop before next
  have few : next.createdIds.length < UInt64.size := by decide +kernel
  have loaded : ⟨3⟩ ∈ before.loadedIds := by decide +kernel
  have turn : before.createdIds.length < 3 ∧ 3 ≤ next.createdIds.length := by decide +kernel
  rcases new_ids_differ [.new .say, .load text] (.duplicate loop) few with
    ⟨made, created, distinct, fresh, again⟩
  exact ⟨made, created, distinct, fresh, loaded, (again ⟨3⟩ loaded).mpr turn⟩

theorem ofText_new (kind : BlockKind) (id : BlockId) :
    Block.ofText (Block.new kind id).toText = .ok (Block.new kind id) := by
  have numbers : ∀ number ∈ kind.definition.inputs.numbers,
      number.isFinite = true ∧ Json.ReadsBack number := by
    cases kind <;> decide +kernel
  have same : (Block.new kind id).numbers = kind.definition.inputs.numbers ∧
      (Block.new kind id).depth = 1 := by
    rw [Block.new]
    split
    · exact ⟨(Block.numbers_container _ []).trans (List.append_nil _), rfl⟩
    · exact ⟨Block.numbers_plain _, rfl⟩
  have finite : (Block.new kind id).numbers.all Float.isFinite := by
    rw [same.1]
    exact List.all_eq_true.mpr fun number member => (numbers number member).1
  rw [Block.ofText_eq (Block.new_isSound kind id), Reading.provided,
    if_pos ⟨finite, by rw [same.2]; decide⟩, (Block.reread_eq_iff finite).mpr]
  intro number member
  rw [same.1] at member
  exact (numbers number member).2

/-- Whatever has happened before, a block can be loaded that has the identifier which the source
gives next, and then a new block is the same block, with the same identifier. Here the first
identifier is given, a block with the second one is loaded, and the next new block gets it
again. -/
theorem loaded_id_given_again :
    (∀ (population : Population) (kind : BlockKind),
      let block := Block.new kind population.ids.take.1
      let loaded := population.bear (.load block.toText)
      loaded.loaded = population.loaded ++ [block] ∧
        (loaded.bear (.new kind)).created = population.created ++ [block]) ∧
      let text := "\x7b\"id\":2,\"kind\":\"say\",\"inputs\":" ++
        "\x7b\"seconds\":\x7b\"value_type\":\"number\",\"value\":2\x7d," ++
        "\"text\":\x7b\"value_type\":\"text\",\"value\":\"Hello!\"\x7d\x7d\x7d"
      let before := empty.after [.new .say, .load text]
      let next := before.bear (.new .say)
      before.createdIds = [⟨1⟩] ∧ before.loadedIds = [⟨2⟩] ∧ next.createdIds = [⟨1⟩, ⟨2⟩] := by
  refine ⟨fun population kind => ?_, by decide +kernel⟩
  dsimp only
  have loaded : population.bear (.load (Block.new kind population.ids.take.1).toText) =
      { population with
        loaded := population.loaded ++ [Block.new kind population.ids.take.1] } := by
    rw [bear, ofText_new]
  rw [loaded]
  exact ⟨rfl, rfl⟩

end Population

end SpriteScript
