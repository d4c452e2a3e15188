import SpriteScript.Proofs.Fault
import SpriteScript.Settings.Data

namespace SpriteScript.Settings

/-! What is known of settings that are accepted: they are finite, durations are not negative,
and all else is positive. What is read from a file is accepted. -/

structure IsMeasured (settings : Settings) : Prop where
  pacing : settings.pacing.isFinite = true ∧ ¬settings.pacing < 0.0
  moveDuration : settings.moveDuration.isFinite = true ∧ ¬settings.moveDuration < 0.0
  turnDuration : settings.turnDuration.isFinite = true ∧ ¬settings.turnDuration < 0.0
  glideDuration : settings.glideDuration.isFinite = true ∧ ¬settings.glideDuration < 0.0
  cooldown : settings.cooldown.isFinite = true ∧ ¬settings.cooldown < 0.0
  scanInterval : settings.scanInterval.isFinite = true ∧ ¬settings.scanInterval ≤ 0.0
  reach : settings.reach.isFinite = true ∧ ¬settings.reach ≤ 0.0
  spawnExtent : settings.spawnExtent.isFinite = true ∧ ¬settings.spawnExtent ≤ 0.0

theorem of_guard {finite : Bool} {wrong : Prop} [Decidable wrong] {fault : SettingFault}
    (passed : (if finite && !decide wrong then .ok () else .error fault) =
      (.ok () : Except SettingFault Unit)) : finite = true ∧ ¬wrong := by
  split at passed
  · next holds => simpa using holds
  · cases passed

theorem check_of_valid {settings : Settings} (valid : settings.validate = .ok ()) :
    settings.check = .ok () := by
  rw [validate] at valid
  split at valid
  · next passed => exact passed
  · cases valid

theorem isMeasured_of_valid {settings : Settings} (valid : settings.validate = .ok ()) :
    settings.IsMeasured := by
  rcases ok_of_bind (check_of_valid valid) with ⟨_, pacing, rest⟩
  rcases ok_of_bind rest with ⟨_, moveDuration, rest⟩
  rcases ok_of_bind rest with ⟨_, turnDuration, rest⟩
  rcases ok_of_bind rest with ⟨_, glideDuration, rest⟩
  rcases ok_of_bind rest with ⟨_, cooldown, rest⟩
  rcases ok_of_bind rest with ⟨_, scanInterval, rest⟩
  rcases ok_of_bind rest with ⟨_, reach, spawnExtent⟩
  exact ⟨of_guard pacing, of_guard moveDuration, of_guard turnDuration, of_guard glideDuration,
    of_guard cooldown, of_guard scanInterval, of_guard reach, of_guard spawnExtent⟩

end SpriteScript.Settings
