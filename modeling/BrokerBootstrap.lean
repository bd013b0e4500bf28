import BrokerBootstrap.Main
import BrokerBootstrap.Proofs.Command.ExitCode
import BrokerBootstrap.Proofs.LoginConfig.Text
import BrokerBootstrap.Proofs.Outputs.Attempts
import BrokerBootstrap.Proofs.Outputs.Secrecy
import BrokerBootstrap.Proofs.Outputs.Independence
import BrokerBootstrap.Proofs.Outputs.Restart
import BrokerBootstrap.Proofs.Settings.PodNamespace
import BrokerBootstrap.Proofs.Outputs.Calls
import BrokerBootstrap.Proofs.Command.Calls
import BrokerBootstrap.Proofs.LoginConfig.DecodingOrder
import BrokerBootstrap.Proofs.Outputs.Faults
import BrokerBootstrap.Proofs.LoginConfig.Precedence
import BrokerBootstrap.Proofs.LoginConfig.Rearrangement
import BrokerBootstrap.Proofs.LoginConfig.Reading
import BrokerBootstrap.Proofs.Outputs.Reports
import BrokerBootstrap.Proofs.Encoding.Base64.Reading
import BrokerBootstrap.Proofs.Encoding.Utf8
import BrokerBootstrap.Proofs.LoginConfig.Payload
import BrokerBootstrap.Proofs.ExternalAddress.Selection
import BrokerBootstrap.Proofs.ExternalAddress.Interleaving
import BrokerBootstrap.Proofs.ExternalAddress.Reading
import BrokerBootstrap.Proofs.Settings.Resolution
import BrokerBootstrap.Proofs.InitFolder.Order
import BrokerBootstrap.Proofs.FileSystem.Path
import BrokerBootstrap.Proofs.InitFolder.Placement
import BrokerBootstrap.Proofs.Console.Line
import BrokerBootstrap.Proofs.InitFolder.Echo
import BrokerBootstrap.Proofs.Encoding.Utf8.Errors
import BrokerBootstrap.Proofs.Node.Spelling
