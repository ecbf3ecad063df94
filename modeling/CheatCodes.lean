import CheatCodes.Main
import CheatCodes.Proofs.Phrase.Overlap
import CheatCodes.Proofs.Session.CheatModeOff
import CheatCodes.Proofs.World.Replay
import CheatCodes.Saved.Config
import CheatCodes.Saved.Input
import CheatCodes.World.View
import CheatCodes.Command.Run
import CheatCodes.Proofs.World.Building
import CheatCodes.Proofs.Session.Effect
import CheatCodes.Proofs.World.Headquarters
import CheatCodes.Proofs.Session.Headquarters
import CheatCodes.Proofs.Session.Applied
import CheatCodes.Proofs.Session.Client
import CheatCodes.Proofs.Session.Switches
import CheatCodes.Proofs.Session.Frame
import CheatCodes.Proofs.Session.Census
import CheatCodes.Proofs.Phrase.Reference
import CheatCodes.Proofs.Session.Recognition
import CheatCodes.Proofs.World.Neighbours
import CheatCodes.Proofs.World.WellFormed
import CheatCodes.Proofs.Json.Faithful
import CheatCodes.Proofs.Saved.RoundTrip
import CheatCodes.Proofs.Yaml.Quoted
import CheatCodes.Proofs.Yaml.Plain
import CheatCodes.Proofs.Yaml.Literal
import CheatCodes.Proofs.Yaml.Settle
import CheatCodes.Proofs.Yaml.Fetch
import CheatCodes.Proofs.Yaml.Lines
import CheatCodes.Proofs.Yaml.Node
import CheatCodes.Proofs.Yaml.Stream
import CheatCodes.Proofs.Yaml.Number
import CheatCodes.Proofs.Config.RoundTrip
import CheatCodes.Proofs.Command.Layout
import CheatCodes.Proofs.Key.Typable
import CheatCodes.Proofs.World.Clearing
import CheatCodes.Proofs.Session.Placement
import CheatCodes.Proofs.Session.Destruction
import CheatCodes.Proofs.World.Founding
import CheatCodes.Proofs.Key.Chord
import CheatCodes.Proofs.Key.Script
import CheatCodes.Proofs.Text.Numeral
import CheatCodes.Proofs.Key.Name
import CheatCodes.Proofs.Key.Grammar
import CheatCodes.Proofs.Config.FrameLength
import CheatCodes.Proofs.Session.Speed
import CheatCodes.Proofs.World.Claim
import CheatCodes.Proofs.World.Walk
import CheatCodes.Proofs.Command.Settlers
import CheatCodes.Proofs.Command.Place
import CheatCodes.Proofs.Session.Deposits
import CheatCodes.Proofs.Config.Fields
import CheatCodes.Proofs.World.Rows
