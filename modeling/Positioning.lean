import Positioning.Bus.Lasting
import Positioning.Bus.Local
import Positioning.Main
import Positioning.Proofs.Bus.DeliveryLaw
import Positioning.Proofs.Daemon.Devices
import Positioning.Proofs.Daemon.Registry
import Positioning.Proofs.Sessions
import Positioning.Proofs.Daemon.Replies
import Positioning.Proofs.Daemon.Switches
import Positioning.Proofs.Daemon.ConnectionHistory
import Positioning.Proofs.Daemon.DeviceView
import Positioning.Proofs.Isolation
import Positioning.Proofs.SignalFormat
import Positioning.Proofs.Bus.Observed
import Positioning.Proofs.Daemon.Getters
import Positioning.Proofs.Bus.TwoBuses
import Positioning.Proofs.SessionOrder
import Positioning.Proofs.Release
import Positioning.Proofs.Bus.LiveTokens
import Positioning.Proofs.DevicePath
import Positioning.Proofs.Rendering
import Positioning.Proofs.LineSlots
import Positioning.Proofs.Listings
import Positioning.Proofs.CommandLine.Grammar
import Positioning.Proofs.Loading
import Positioning.Proofs.Configuration.Text
import Positioning.Proofs.Dispatching
import Positioning.Proofs.FixStatuses
import Positioning.Proofs.Log.JsonRecords
import Positioning.Proofs.DeviceList
