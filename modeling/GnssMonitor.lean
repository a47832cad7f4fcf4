import GnssMonitor.Binary64.Decimal
import GnssMonitor.Diagnostics
import GnssMonitor.Main
import GnssMonitor.Proofs.Binary64
import GnssMonitor.Proofs.Command.Confinement
import GnssMonitor.Proofs.Command.Heedless
import GnssMonitor.Proofs.Command.Probing
import GnssMonitor.Proofs.Command.Survival
import GnssMonitor.Proofs.Desk.Heedless
import GnssMonitor.Proofs.Desk.Line
import GnssMonitor.Proofs.Desk.Stints
import GnssMonitor.Proofs.Desk.Telling
import GnssMonitor.Proofs.Display
import GnssMonitor.Proofs.Display.Layout
import GnssMonitor.Proofs.Framing.Checks
import GnssMonitor.Proofs.Framing.Packets
import GnssMonitor.Proofs.Framing.Pieces
import GnssMonitor.Proofs.Framing.Resync
import GnssMonitor.Proofs.Framing.RoundTrip
import GnssMonitor.Proofs.Monitor.Accounts
import GnssMonitor.Proofs.Monitor.Amid
import GnssMonitor.Proofs.Monitor.FailedSwitch
import GnssMonitor.Proofs.Monitor.Forcing
import GnssMonitor.Proofs.Monitor.Operable
import GnssMonitor.Proofs.Monitor.Probing
import GnssMonitor.Proofs.Monitor.Relayed
import GnssMonitor.Proofs.Monitor.Runs
import GnssMonitor.Proofs.Monitor.Signals
import GnssMonitor.Proofs.Monitor.Staying
import GnssMonitor.Proofs.Monitor.SwitchingBack
import GnssMonitor.Proofs.Monitor.Telling
import GnssMonitor.Proofs.Monitor.WatchRequest
import GnssMonitor.Proofs.Monitor.Work
import GnssMonitor.Proofs.Packet.Dump
import GnssMonitor.Proofs.Packet.Encoding
import GnssMonitor.Proofs.Packet.Stability
import GnssMonitor.Proofs.Panel.Drawing
import GnssMonitor.Proofs.Panel.Intervals
import GnssMonitor.Proofs.Panel.Position
import GnssMonitor.Proofs.Panel.SkyView
import GnssMonitor.Proofs.Receiver.ReadBack
import GnssMonitor.Proofs.Run.Launch
import GnssMonitor.Proofs.Run.Layout
import GnssMonitor.Proofs.Run.Release
import GnssMonitor.Proofs.Run.Terminal
import GnssMonitor.Proofs.Session.FixTime
import GnssMonitor.Proofs.Session.Framed
import GnssMonitor.Proofs.Session.Operating
import GnssMonitor.Proofs.Session.Pending
import GnssMonitor.Proofs.Source
import GnssMonitor.Proofs.TimeOffset.Latching
import GnssMonitor.Proofs.TimeOffset.Pulses
import GnssMonitor.Proofs.TimeOffset.Reports
import GnssMonitor.Run
import GnssMonitor.TimeOffset.Pulse
