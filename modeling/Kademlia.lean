import Kademlia.Text.Decimal
import Kademlia.Text.Utf8
import Kademlia.Text.Literal
import Kademlia.Digest.Crc32c
import Kademlia.Id
import Kademlia.Address.Printer
import Kademlia.Address.Parser
import Kademlia.Bencode.Value
import Kademlia.Bencode.Dict
import Kademlia.Bencode.Decoder
import Kademlia.Wire.Request
import Kademlia.Routing.Table
import Kademlia.Service.ValueService
import Kademlia.Lookup.Termination
import Kademlia.Lookup.Candidates
import Kademlia.Exchange.Call
import Kademlia.Lookup.Schedule
import Kademlia.Lookup.Sweep
import Kademlia.Network.Deployment
import Kademlia.Entropy.Seeded
import Kademlia.Proofs.Exchange.Run
import Kademlia.Proofs.Lookup.Run
import Kademlia.Proofs.Metric
import Kademlia.Proofs.Lookup.Accounting
import Kademlia.Proofs.Lookup.Candidates
import Kademlia.Proofs.Wire.Answer
import Kademlia.Proofs.Lookup.Discovery
import Kademlia.Proofs.Lookup.Exploration
import Kademlia.Proofs.Lookup.FindNode
import Kademlia.Proofs.Bencode.RoundTrip
import Kademlia.Proofs.Bencode.Contents
import Kademlia.Proofs.Wire.Envelope
import Kademlia.Proofs.Exchange.Matching
import Kademlia.Proofs.Host.Provenance
import Kademlia.Proofs.Lookup.Fetching
import Kademlia.Proofs.Client.Teardown
import Kademlia.Proofs.Exchange.Isolation
import Kademlia.Proofs.Lookup.Storing
import Kademlia.Proofs.Host.ValueStream
import Kademlia.Proofs.Routing.Nearest
import Kademlia.Proofs.Storage.Tokens
import Kademlia.Proofs.Routing.Representation
import Kademlia.Proofs.Routing.Retention
import Kademlia.Proofs.Exchange.Reply
import Kademlia.Proofs.Lookup.Impostors
import Kademlia.Proofs.Host.PacketSize
import Kademlia.Proofs.Service.Tokens
import Kademlia.Proofs.Host.Ending
import Kademlia.Proofs.Client.Storing
import Kademlia.Proofs.Storage.Reading
import Kademlia.Proofs.Service.Writes
import Kademlia.Proofs.Service.Answers
import Kademlia.Proofs.Lookup.Asking
import Kademlia.Proofs.Lookup.Reachability
import Kademlia.Proofs.Host.Silence
import Kademlia.Proofs.Wire.Shortening
import Kademlia.Proofs.Wire.Acceptance
import Kademlia.Proofs.Wire.Payloads
import Kademlia.Proofs.Lookup.Memo
import Kademlia.Proofs.Lookup.Remainder
import Kademlia.Proofs.Host.Replies
import Kademlia.Proofs.Host.Probes
import Kademlia.Proofs.Host.Bootstrap
import Kademlia.Proofs.Storage.Usage
import Kademlia.Proofs.Compact
