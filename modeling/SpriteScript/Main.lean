import SpriteScript.Demo

/-! The command line: runs the demonstration, with the settings of a file if one
is named. -/

namespace SpriteScript

def fileBytes? (path : String) : IO (Option ByteArray) := do
  try
    return some (← IO.FS.readBinFile path)
  catch _ =>
    return none

end SpriteScript

open SpriteScript in
def main (arguments : List String) : IO UInt32 := do
  let settings ← match arguments with
    | path :: _ => pure (Settings.ofFile (← fileBytes? path))
    | [] => pure Settings.standard
  let report := Demo.run settings
  IO.print report.output
  return report.exitCode.toUInt32
