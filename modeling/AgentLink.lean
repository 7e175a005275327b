import AgentLink.Agent
import AgentLink.Backoff
import AgentLink.Bytes
import AgentLink.CommandLine.Options
import AgentLink.CommandLine.Reply
import AgentLink.CommandLine.Session
import AgentLink.Decimal
import AgentLink.Duration
import AgentLink.Endpoint
import AgentLink.ErrorKind
import AgentLink.ErrorNumber
import AgentLink.Greeting
import AgentLink.Header
import AgentLink.Hexadecimal
import AgentLink.Inbound
import AgentLink.Ipv4
import AgentLink.Ipv6
import AgentLink.Journal
import AgentLink.Link
import AgentLink.Link.Receive
import AgentLink.LinkError
import AgentLink.Main
import AgentLink.Marker
import AgentLink.Message
import AgentLink.Network
import AgentLink.Network.Connect
import AgentLink.Network.Resolve
import AgentLink.Outlet
import AgentLink.Proofs.Accounting
import AgentLink.Proofs.AnyBuffer
import AgentLink.Proofs.Arrival
import AgentLink.Proofs.Attempts
import AgentLink.Proofs.BrokenOff
import AgentLink.Proofs.CanonicalMarker
import AgentLink.Proofs.Characters
import AgentLink.Proofs.Collection
import AgentLink.Proofs.Consumption
import AgentLink.Proofs.Conversation
import AgentLink.Proofs.Delivery
import AgentLink.Proofs.Diagnostics
import AgentLink.Proofs.Dialing
import AgentLink.Proofs.Directions
import AgentLink.Proofs.DottedQuad
import AgentLink.Proofs.Encoding
import AgentLink.Proofs.Exchange
import AgentLink.Proofs.Framing
import AgentLink.Proofs.GreetingLine
import AgentLink.Proofs.IndexedReceive
import AgentLink.Proofs.IndexedScan
import AgentLink.Proofs.JournalReaders
import AgentLink.Proofs.LastAttempt
import AgentLink.Proofs.LineEnds
import AgentLink.Proofs.MarkerFault
import AgentLink.Proofs.MarkerGrammar
import AgentLink.Proofs.ReadFailure
import AgentLink.Proofs.ReadingOn
import AgentLink.Proofs.ReceiveEffect
import AgentLink.Proofs.ReceiveFault
import AgentLink.Proofs.Reception
import AgentLink.Proofs.Reencoding
import AgentLink.Proofs.ReplyBuffer
import AgentLink.Proofs.Resolution
import AgentLink.Proofs.Script
import AgentLink.Proofs.Sending
import AgentLink.Proofs.Splitting
import AgentLink.Proofs.Stalling
import AgentLink.Proofs.Starting
import AgentLink.Proofs.Stopping
import AgentLink.Proofs.WholeMessage
import AgentLink.Proofs.WordBoundary
import AgentLink.Proofs.WriteAttempts
import AgentLink.Receipt
import AgentLink.Settings
import AgentLink.SocketAddress
import AgentLink.SystemError
import AgentLink.Text
import AgentLink.Tracing
