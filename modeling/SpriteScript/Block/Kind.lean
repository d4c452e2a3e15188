namespace SpriteScript

/-! The kinds of blocks. -/

inductive Category
  | motion
  | looks
deriving DecidableEq

namespace Category

def all : List Category := [.motion, .looks]

def name : Category → String
  | .motion => "Motion"
  | .looks => "Looks"

def ofName? (name : String) : Option Category :=
  all.find? fun category => category.name == name

end Category

inductive BlockKind
  | moveSteps
  | turnDegrees
  | goToXY
  | repeatTimes
  | say
  | think
deriving DecidableEq

namespace BlockKind

def all : List BlockKind := [.moveSteps, .turnDegrees, .goToXY, .repeatTimes, .say, .think]

theorem mem_all (kind : BlockKind) : kind ∈ all := by
  cases kind <;> decide

def name : BlockKind → String
  | .moveSteps => "move_steps"
  | .turnDegrees => "turn_degrees"
  | .goToXY => "go_to_xy"
  | .repeatTimes => "repeat"
  | .say => "say"
  | .think => "think"

def ofName? (name : String) : Option BlockKind :=
  all.find? fun kind => kind.name == name

theorem ofName?_name (kind : BlockKind) : ofName? kind.name = some kind := by
  cases kind <;> decide +kernel

def category : BlockKind → Category
  | .say | .think => .looks
  | _ => .motion

def isContainer : BlockKind → Bool
  | .repeatTimes => true
  | _ => false

end BlockKind

end SpriteScript
