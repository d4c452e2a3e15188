import SpriteScript.Block.Basic
import SpriteScript.Stage.Action

namespace SpriteScript

/-! Events: all that happens while sprites play, in order. The actions among
them change the stage; the others are told in a log. -/

inductive Event
  | acted (action : Action)
  | spriteAdded (sprite : SpriteId) (position : Point Float32)
  | blockRefused (fault : Fault)
  | spriteMissing (sprite : SpriteId)
  | runStarted (sprite : SpriteId) (blocks : Nat)
  | blockStarted (sprite : SpriteId) (block : Block)
  | blockSkipped (kind : BlockKind) (fault : Fault)
  | runStopped (sprite : SpriteId) (blocks : Nat)
  | runFailed (sprite : SpriteId) (fault : Fault)
  | runFinished (sprite : SpriteId)
  | watchStarted (sprites : Nat)
  | watchReplaced (sprites : Nat)
  | watchStopped
  | lockReleased (key : LockKey)
  | programsSwapped (left right : SpriteId)
  | playbackStarted (running sprites : Nat)
  | playbackEnded

/-! ## The log -/

inductive Severity
  | error
  | warning
  | information
  | detail
deriving DecidableEq

namespace Severity

def name : Severity → String
  | .error => "ERROR"
  | .warning => "WARN"
  | .information => "INFO"
  | .detail => "DEBUG"

end Severity

structure LogLine where
  severity : Severity
  text : String
deriving DecidableEq

namespace LogLine

def shown (line : LogLine) : String := line.severity.name ++ " " ++ line.text

end LogLine

namespace Event

def action? : Event → Option Action
  | .acted action => some action
  | _ => none

def startedBlock? : Event → Option Block
  | .blockStarted _ block => some block
  | _ => none

def logLine? : Event → Option LogLine
  | .acted _ => none
  | .spriteAdded sprite position =>
      let x := Number.fixed 1 position.x
      let y := Number.fixed 1 position.y
      some ⟨.detail, s!"Added {sprite.label} at ({x}, {y})"⟩
  | .blockRefused fault => some ⟨.warning, s!"Cannot create block: {fault.message}"⟩
  | .spriteMissing sprite => some ⟨.detail, s!"{sprite.label} not found, nothing to run"⟩
  | .runStarted sprite blocks =>
      some ⟨.information, s!"{sprite.label} started ({blocks} top-level blocks)"⟩
  | .blockStarted sprite block => some ⟨.detail, s!"{sprite.label} runs {block.label}"⟩
  | .blockSkipped kind fault => some ⟨.warning, s!"Skipping {kind.name}: {fault.message}"⟩
  | .runStopped sprite blocks =>
      some ⟨.information, s!"{sprite.label} stopped after {blocks} blocks"⟩
  | .runFailed sprite fault =>
      some ⟨.error, s!"Animation error for {sprite.label}: {fault.message}"⟩
  | .runFinished sprite => some ⟨.information, s!"{sprite.label} finished"⟩
  | .watchStarted sprites => some ⟨.information, s!"Collision detector started ({sprites} sprites)"⟩
  | .watchReplaced sprites =>
      some ⟨.detail, s!"Collision detector already running, now observing {sprites} sprites"⟩
  | .watchStopped => some ⟨.information, "Collision detector stopped"⟩
  | .lockReleased key => some ⟨.detail, s!"Collision lock {key.label} released"⟩
  | .programsSwapped left right =>
      some ⟨.information, s!"Collision! Swapped blocks between {left.label} and {right.label}"⟩
  | .playbackStarted running sprites =>
      some ⟨.information, s!"Playback started: {running} of {sprites} sprites running"⟩
  | .playbackEnded => some ⟨.information, "Playback ended"⟩

end Event

/-! ## Traces -/

abbrev Trace := List Event

namespace Trace

def actions (trace : Trace) : List Action := trace.filterMap Event.action?

def startedBlocks (trace : Trace) : List Block := trace.filterMap Event.startedBlock?

def log (trace : Trace) : List LogLine := trace.filterMap Event.logLine?

theorem actions_append (left right : Trace) :
    actions (left ++ right) = actions left ++ actions right :=
  List.filterMap_append

theorem startedBlocks_append (left right : Trace) :
    startedBlocks (left ++ right) = startedBlocks left ++ startedBlocks right :=
  List.filterMap_append

end Trace

/-! ## Creation -/

/-- Creates a block by the name of its kind. That there is no such kind is told. -/
def Block.create (name : String) (values : List (String × InputValue)) (ids : BlockIds) :
    Except Fault (Block × BlockIds) × Trace :=
  match BlockKind.ofName? name with
  | some kind => (.ok (withInputs kind values ids), [])
  | none => (.error (.unknownKind name), [.blockRefused (.unknownKind name)])

end SpriteScript
