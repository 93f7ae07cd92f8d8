import BusTransport.Device.Run
import BusTransport.Link.Faulty
import BusTransport.Profile.Document
import BusTransport.Proofs.Endpoint.Acknowledgement
import BusTransport.Proofs.Endpoint.Omission
import BusTransport.Proofs.Endpoint.Recovery
import BusTransport.Proofs.Endpoint.SingleSending
import BusTransport.Proofs.Endpoint.FaultOrigin
import BusTransport.Proofs.Endpoint.Connecting
import BusTransport.Proofs.Endpoint.CleanSlate
import BusTransport.Proofs.Wire.RoundTrip
import BusTransport.Proofs.Endpoint.Addressing
import BusTransport.Proofs.Endpoint.Deferral
import BusTransport.Proofs.Endpoint.LifeCycle
import BusTransport.Proofs.Endpoint.Inertness
import BusTransport.Proofs.Endpoint.Duplication
import BusTransport.Proofs.Endpoint.IdleTimeout
import BusTransport.Proofs.Endpoint.Escalation
import BusTransport.Proofs.Endpoint.Draining
import BusTransport.Proofs.Device.Loop
import BusTransport.Proofs.Endpoint.BusyLink
import BusTransport.Proofs.Endpoint.Rejection
import BusTransport.Proofs.Endpoint.Conformance
import BusTransport.Proofs.Wire.Damage
import BusTransport.Proofs.Endpoint.Conveyance
import BusTransport.Proofs.Text.AddressGrammar
import BusTransport.Proofs.Text.Json.Scanning
import BusTransport.Proofs.Text.Json.RoundTrip
import BusTransport.Proofs.Text.Json.Record
import BusTransport.Proofs.Profile.Reload
import BusTransport.Proofs.Wire.RunningChecksum
import BusTransport.Proofs.Outbound.Polling
import BusTransport.Proofs.Outbound.SharedLine
import BusTransport.Proofs.Outbound.QueueOrder
