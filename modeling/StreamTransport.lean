import StreamTransport.Address.Numeric
import StreamTransport.Address.Wire
import StreamTransport.Connect.Connector
import StreamTransport.Machine.Handler
import StreamTransport.Proofs.Connect.Cancelled
import StreamTransport.Proofs.Connect.ClientAddress
import StreamTransport.Proofs.Connect.Descriptors
import StreamTransport.Proofs.Stream.Credit
import StreamTransport.Proofs.Stream.LayerConservation
import StreamTransport.Scenario.Run
import StreamTransport.Settings.Form
import StreamTransport.Stream.Buffered
import StreamTransport.Stream.Scripted
import StreamTransport.Target
import StreamTransport.Proofs.Address.Paths
import StreamTransport.Proofs.Connect.Courses
import StreamTransport.Proofs.Layer.Lifetime
import StreamTransport.Proofs.Connect.LastError
import StreamTransport.Proofs.Connect.Fallback
import StreamTransport.Proofs.Address.Forms
import StreamTransport.Proofs.Address.Reports
import StreamTransport.Proofs.Settings.Order
import StreamTransport.Proofs.Settings.RoundTrip
import StreamTransport.Proofs.Resolution.Selection
import StreamTransport.Proofs.Connect.Candidates
import StreamTransport.Proofs.Connect.RaceOrder
import StreamTransport.Proofs.Connect.Within
import StreamTransport.Proofs.Target.Grammar
import StreamTransport.Proofs.Address.Extent
import StreamTransport.Proofs.Connect.TryOrder
import StreamTransport.Proofs.Connect.HandedIn
import StreamTransport.Proofs.Connect.TimeLimit
import StreamTransport.Proofs.Settings.Partial
import StreamTransport.Proofs.Connect.BestEffort
import StreamTransport.Proofs.Stream.Flags
import StreamTransport.Proofs.Stream.Directions
import StreamTransport.Proofs.Stream.Offers
import StreamTransport.Proofs.Stream.Throttle
import StreamTransport.Proofs.Stream.Contents
import StreamTransport.Proofs.Stream.Exaggeration
import StreamTransport.Proofs.Stream.Refusals
