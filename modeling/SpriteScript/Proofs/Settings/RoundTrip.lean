import SpriteScript.Proofs.Json.Number
import SpriteScript.Proofs.Json.Record
import SpriteScript.Settings.Data

namespace SpriteScript.Settings

/-! Settings written as text and read again. Nothing but the numbers can be lost: settings come
back exactly when they are valid and each of their numbers does. -/

theorem toJson_isProper (settings : Settings) : settings.toJson.IsProper := by
  refine Json.isProper_record.mpr ?_
  simp only [List.forall_mem_cons, List.not_mem_nil, false_implies, implies_true, and_true]
  simp only [Json.double_isProper, Json.single_isProper, and_true]

def reread (settings : Settings) : Reading Fault Settings := do
  return {
    pacing := ← Reading.ofOption (Json.double settings.pacing).asDouble?
    moveDuration := ← Reading.ofOption (Json.double settings.moveDuration).asDouble?
    turnDuration := ← Reading.ofOption (Json.double settings.turnDuration).asDouble?
    glideDuration := ← Reading.ofOption (Json.double settings.glideDuration).asDouble?
    scanInterval := ← Reading.ofOption (Json.double settings.scanInterval).asDouble?
    reach := ← Reading.ofOption (Json.single settings.reach).asSingle?
    cooldown := ← Reading.ofOption (Json.double settings.cooldown).asDouble?
    spawnExtent := ← Reading.ofOption (Json.single settings.spawnExtent).asSingle? }

theorem read_toJson (settings : Settings) (depth : Nat) :
    read (depth + 1) settings.toJson = settings.reread := by
  rw [reread]
  change Field.fillEntries Draft.fields .empty (_ :: _) >>= _ = _
  refine Field.fillEntries_bind rfl rfl rfl fun pacing => ?_
  refine Field.fillEntries_bind rfl rfl rfl fun moveDuration => ?_
  refine Field.fillEntries_bind rfl rfl rfl fun turnDuration => ?_
  refine Field.fillEntries_bind rfl rfl rfl fun glideDuration => ?_
  refine Field.fillEntries_bind rfl rfl rfl fun scanInterval => ?_
  refine Field.fillEntries_bind rfl rfl rfl fun reach => ?_
  refine Field.fillEntries_bind rfl rfl rfl fun cooldown => ?_
  refine Field.fillEntries_bind rfl rfl rfl fun spawnExtent => ?_
  rfl

structure ReadsBack (settings : Settings) : Prop where
  pacing : Json.ReadsBack settings.pacing
  moveDuration : Json.ReadsBack settings.moveDuration
  turnDuration : Json.ReadsBack settings.turnDuration
  glideDuration : Json.ReadsBack settings.glideDuration
  scanInterval : Json.ReadsBack settings.scanInterval
  reach : Json.SingleReadsBack settings.reach
  cooldown : Json.ReadsBack settings.cooldown
  spawnExtent : Json.SingleReadsBack settings.spawnExtent

theorem reread_eq_ok_iff {settings : Settings} :
    settings.reread = .ok settings ↔ settings.ReadsBack := by
  constructor
  · intro done
    rcases ok_of_bind done with ⟨pacing, pacingRead, done⟩
    rcases ok_of_bind done with ⟨moveDuration, moveRead, done⟩
    rcases ok_of_bind done with ⟨turnDuration, turnRead, done⟩
    rcases ok_of_bind done with ⟨glideDuration, glideRead, done⟩
    rcases ok_of_bind done with ⟨scanInterval, scanRead, done⟩
    rcases ok_of_bind done with ⟨reach, reachRead, done⟩
    rcases ok_of_bind done with ⟨cooldown, cooldownRead, done⟩
    rcases ok_of_bind done with ⟨spawnExtent, spawnRead, done⟩
    cases done
    rw [Reading.ofOption_eq_ok] at *
    exact ⟨Json.readsBack_iff.mpr pacingRead, Json.readsBack_iff.mpr moveRead,
      Json.readsBack_iff.mpr turnRead, Json.readsBack_iff.mpr glideRead,
      Json.readsBack_iff.mpr scanRead, Json.singleReadsBack_iff.mpr reachRead,
      Json.readsBack_iff.mpr cooldownRead, Json.singleReadsBack_iff.mpr spawnRead⟩
  · intro back
    rw [reread, Json.readsBack_iff.mp back.pacing, Json.readsBack_iff.mp back.moveDuration,
      Json.readsBack_iff.mp back.turnDuration, Json.readsBack_iff.mp back.glideDuration,
      Json.readsBack_iff.mp back.scanInterval, Json.singleReadsBack_iff.mp back.reach,
      Json.readsBack_iff.mp back.cooldown, Json.singleReadsBack_iff.mp back.spawnExtent]
    rfl

theorem ofText_toText_eq (settings : Settings) :
    ofText settings.toText = settings.reread >>= fun again =>
      match again.validate with
      | .ok () => .ok again
      | .error fault => .error (.rejected fault) := by
  have document := Document.ofString_toIndentedText settings.toJson_isProper
  have read : Reading.text (read Json.depthLimit) settings.toText = settings.reread :=
    (Reading.text_of_ended document).trans (settings.read_toJson _)
  rw [ofText, read]
  rfl

/-- Settings come back from their own text exactly when they are valid and each of their
numbers comes back from its own. -/
theorem ofText_toText_iff (settings : Settings) :
    ofText settings.toText = .ok settings ↔
      settings.validate = .ok () ∧ settings.ReadsBack := by
  rw [ofText_toText_eq, ← reread_eq_ok_iff]
  constructor
  · intro done
    rcases ok_of_bind done with ⟨again, found, done⟩
    cases valid : again.validate with
    | error fault =>
        rw [valid] at done
        cases done
    | ok =>
        rw [valid] at done
        cases done
        exact ⟨valid, found⟩
  · rintro ⟨valid, found⟩
    refine Reading.bind_ok found ?_
    rw [valid]

example : ofText standard.toText = .ok standard := by
  rw [ofText_toText_eq]
  decide +kernel

/-- A valid pause with seventeen digits is read as its neighbour. -/
theorem ofText_toText_neighbour :
    let settings := { standard with pacing := 123.45678901234567 }
    settings.validate = .ok () ∧ ofText settings.toText ≠ .ok settings ∧
      ofText settings.toText = .ok { settings with pacing := 123.45678901234568 } := by
  simp only [ofText_toText_eq]
  decide +kernel

end SpriteScript.Settings
