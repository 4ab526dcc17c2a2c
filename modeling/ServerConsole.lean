import ServerConsole.Link.Channel
import ServerConsole.Logging.Setup
import ServerConsole.Main
import ServerConsole.Panel.Call
import ServerConsole.Screen.Draw
import ServerConsole.Timeline
import ServerConsole.Proofs.Power.Phases
import ServerConsole.Proofs.Power.Runs
import ServerConsole.Proofs.Power.Repeats
import ServerConsole.Proofs.Session.Run
import ServerConsole.Proofs.Session.Permissions
import ServerConsole.Proofs.Session.Traffic
import ServerConsole.Proofs.Session.Accounts
import ServerConsole.Proofs.Session.SingleFlight
import ServerConsole.Proofs.Session.Settled
import ServerConsole.Proofs.Session.Cleared
import ServerConsole.Proofs.Session.Timelines
import ServerConsole.Proofs.Session.Telemetry
import ServerConsole.Proofs.Session.Requests
import ServerConsole.Proofs.Session.Escalation
import ServerConsole.Proofs.Link.Reports
import ServerConsole.Proofs.Link.Words
import ServerConsole.Proofs.Link.Standing
import ServerConsole.Proofs.Session.Outage
import ServerConsole.Proofs.Session.Log
import ServerConsole.Proofs.Link.Network
import ServerConsole.Proofs.Session.Console
import ServerConsole.Proofs.Text.Trim
import ServerConsole.Proofs.Session.Desk
import ServerConsole.Proofs.Session.Lines
import ServerConsole.Proofs.Session.Commands
import ServerConsole.Proofs.Session.Writes
import ServerConsole.Proofs.Session.Ended
import ServerConsole.Proofs.Frame.Refusals
import ServerConsole.Proofs.Link.Drain
import ServerConsole.Proofs.Link.Schedule
import ServerConsole.Proofs.App.Run
import ServerConsole.Proofs.App.Enter
import ServerConsole.Proofs.App.View
import ServerConsole.Proofs.Link.Budget
import ServerConsole.Proofs.Link.Reasons
import ServerConsole.Proofs.Editor.Offsets
import ServerConsole.Proofs.Editor.TwoLists
import ServerConsole.Proofs.Panel.Socket
import ServerConsole.Proofs.Panel.Rest
import ServerConsole.Proofs.Screen.Color
import ServerConsole.Proofs.App.Window
import ServerConsole.Proofs.Panel.Results
import ServerConsole.Proofs.Screen.ByteCount
import ServerConsole.Proofs.Settings.Fields
import ServerConsole.Proofs.CommandLine.Flags
import ServerConsole.Proofs.Settings.Layers
import ServerConsole.Proofs.Json.Ignored
import ServerConsole.Proofs.Json.Members
import ServerConsole.Proofs.Server.Record
