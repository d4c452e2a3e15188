import SpriteScript.Main
import SpriteScript.Stage.SpriteData
import SpriteScript.Proofs.Playback.Agreement
import SpriteScript.Proofs.Session.Flags
import SpriteScript.Proofs.Session.Landing
import SpriteScript.Proofs.Run.Speech
import SpriteScript.Proofs.Session.Speech
import SpriteScript.Proofs.Number.Order
import SpriteScript.Proofs.Detector.Locks
import SpriteScript.Proofs.Session.Locks
import SpriteScript.Proofs.Run.Sight
import SpriteScript.Proofs.Session.Cooldown
import SpriteScript.Proofs.Engine.Share
import SpriteScript.Proofs.Session.Capture
import SpriteScript.Proofs.Stage.Commutation
import SpriteScript.Proofs.Engine.Order
import SpriteScript.Proofs.Engine.Isolation
import SpriteScript.Proofs.Stage.Programs
import SpriteScript.Proofs.Playback.Conservation
import SpriteScript.Proofs.Playback.Rest
import SpriteScript.Proofs.Playback.Numbering
import SpriteScript.Proofs.Block.Inputs
import SpriteScript.Proofs.Block.Schema
import SpriteScript.Proofs.Block.Built
import SpriteScript.Proofs.Stage.Stocked
import SpriteScript.Proofs.Stage.InPlace
import SpriteScript.Proofs.Stage.Inventory
import SpriteScript.Proofs.Number.Digits
import SpriteScript.Proofs.Json.Scan
import SpriteScript.Proofs.Number.Shortest
import SpriteScript.Proofs.Number.Layout
import SpriteScript.Proofs.Number.Finite
import SpriteScript.Proofs.Number.Scientific
import SpriteScript.Proofs.Number.Interval
import SpriteScript.Proofs.Number.Neighbour
import SpriteScript.Proofs.Number.Middle
import SpriteScript.Proofs.Number.Steady
import SpriteScript.Proofs.Json.Quantity
import SpriteScript.Proofs.Json.Printed
import SpriteScript.Proofs.Json.Number
import SpriteScript.Proofs.Json.Scaling
import SpriteScript.Proofs.Json.Written
import SpriteScript.Proofs.Json.ReadBack
import SpriteScript.Proofs.Block.RoundTrip
import SpriteScript.Proofs.Block.Assembly
import SpriteScript.Proofs.Block.Identifiers
import SpriteScript.Proofs.Block.Population
import SpriteScript.Proofs.Block.Copies
import SpriteScript.Proofs.Settings.RoundTrip
import SpriteScript.Proofs.Stage.RoundTrip
import SpriteScript.Proofs.Engine.Cancellation
import SpriteScript.Proofs.Engine.Missing
import SpriteScript.Proofs.Engine.Blanked
import SpriteScript.Proofs.Session.Timeline
import SpriteScript.Proofs.Session.Finite
import SpriteScript.Proofs.Session.Progress
import SpriteScript.Proofs.Session.Bounds
import SpriteScript.Proofs.Detector.Grid
import SpriteScript.Proofs.Detector.Keys
import SpriteScript.Proofs.Motion.Approach
import SpriteScript.Proofs.Text.Template
import SpriteScript.Proofs.Demo
