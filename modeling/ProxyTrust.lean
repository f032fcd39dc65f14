import ProxyTrust.Authority.Inspection
import ProxyTrust.Files.Listing
import ProxyTrust.Host.Runner
import ProxyTrust.Main
import ProxyTrust.Proofs.Authority.DateLimits
import ProxyTrust.Proofs.Authority.KeyFile
import ProxyTrust.Proofs.Authority.Presence
import ProxyTrust.Proofs.Authority.Thumbprint
import ProxyTrust.Proofs.Command.Sharing
import ProxyTrust.Proofs.Config.Fields
import ProxyTrust.Proofs.Config.Initial
import ProxyTrust.Proofs.Config.Listen
import ProxyTrust.Proofs.Config.Loading
import ProxyTrust.Proofs.Config.RoundTrip
import ProxyTrust.Proofs.Controller.Cancellation
import ProxyTrust.Proofs.Controller.Sessions
import ProxyTrust.Proofs.Controller.Uninstall
import ProxyTrust.Proofs.Endpoint.Agreement
import ProxyTrust.Proofs.Endpoint.Grammar
import ProxyTrust.Proofs.Endpoint.Rereading
import ProxyTrust.Proofs.Fingerprint.Spelling
import ProxyTrust.Proofs.Pem.Layout
import ProxyTrust.Proofs.Program.Ending
import ProxyTrust.Proofs.Program.Footprint
import ProxyTrust.Proofs.Program.Handle
import ProxyTrust.Proofs.Program.Logging
import ProxyTrust.Proofs.Rsa.Key
import ProxyTrust.Proofs.SystemProxy.Desktop
import ProxyTrust.Proofs.TrustStore.InstallStatus
import ProxyTrust.Proofs.TrustStore.NamedFile
