import Courier.Acceptor
import Courier.Dispatch
import Courier.Frame.Codec
import Courier.Frame.Scan
import Courier.Log.Filter
import Courier.Metrics
import Courier.Proofs.Corruption
import Courier.Proofs.Draining
import Courier.Proofs.Encoding
import Courier.Proofs.Leniency
import Courier.Proofs.Limits
import Courier.Proofs.Opacity
import Courier.Proofs.Queueing
import Courier.Proofs.RoundTrip
import Courier.Proofs.Routing
import Courier.Proofs.Server.Admission
import Courier.Proofs.Server.Shutdown
import Courier.Proofs.Session.Account
import Courier.Proofs.Session.Aftermath
import Courier.Proofs.Session.Drain
import Courier.Proofs.Session.Echo
import Courier.Proofs.Session.Teardown
import Courier.Proofs.Settings.Checking
import Courier.Proofs.Settings.Environment
import Courier.Proofs.Settings.Loading
import Courier.Proofs.Settings.Saving
import Courier.Proofs.Sharing
import Courier.Proofs.StreamEnd
import Courier.Session.Simulation
import Courier.Settings.Document
import Courier.Settings.Environment
import Courier.Settings.Limits
import Courier.Settings.Text
