import MsrpceDcerpc.Lib.Endian
import MsrpceDcerpc.Lib.Segment
import MsrpceDcerpc.Lib.Rust
import MsrpceDcerpc.Lib.Effect
import MsrpceDcerpc.Lib.Text
import MsrpceDcerpc.Lib.Chunk
import MsrpceDcerpc.Lib.Frame
import MsrpceDcerpc.Lib.StdIo
import MsrpceDcerpc.Lib.Run
import MsrpceDcerpc.Lib.Program
import MsrpceDcerpc.Lib.Simulation
import MsrpceDcerpc.Lib.Ledger
import MsrpceDcerpc.Lib.Position
import MsrpceDcerpc.Lib.Interleave
import MsrpceDcerpc.Lib.Handles
import MsrpceDcerpc.Lib.Triple
import MsrpceDcerpc.Model.Error
import MsrpceDcerpc.Model.Crates
import MsrpceDcerpc.Model.Syntax
import MsrpceDcerpc.Model.Auth
import MsrpceDcerpc.Model.Pdu
import MsrpceDcerpc.Model.Bind
import MsrpceDcerpc.Model.Client
import MsrpceDcerpc.Model.NcacnNp
import MsrpceDcerpc.Model.Gssapi
import MsrpceDcerpc.Model.Ntlm
import MsrpceDcerpc.Spec.Wire
import MsrpceDcerpc.Spec.Session
import MsrpceDcerpc.Spec.Fragments
import MsrpceDcerpc.Spec.Handshake
import MsrpceDcerpc.Spec.Server
import MsrpceDcerpc.Spec.Stream
import MsrpceDcerpc.Spec.Standard
import MsrpceDcerpc.Proof.Pdu
import MsrpceDcerpc.Proof.Packet
import MsrpceDcerpc.Proof.Bind
import MsrpceDcerpc.Proof.Selection
import MsrpceDcerpc.Proof.Codecs
import MsrpceDcerpc.Proof.Send
import MsrpceDcerpc.Proof.Fragmentation
import MsrpceDcerpc.Proof.Receive
import MsrpceDcerpc.Proof.Handshake
import MsrpceDcerpc.Proof.HandshakeTrace
import MsrpceDcerpc.Proof.Proposal
import MsrpceDcerpc.Proof.Calls
import MsrpceDcerpc.Proof.Reassembly
import MsrpceDcerpc.Proof.Level
import MsrpceDcerpc.Proof.Simulation
import MsrpceDcerpc.Proof.Stream
import MsrpceDcerpc.Proof.Framing
import MsrpceDcerpc.Proof.Negotiation
import MsrpceDcerpc.Proof.ByteOrder
import MsrpceDcerpc.Proof.Conversation
import MsrpceDcerpc.Spec.Peer
import MsrpceDcerpc.Proof.Peer
import MsrpceDcerpc.Spec.Features
import MsrpceDcerpc.Proof.Features
import MsrpceDcerpc.Proof.Procedure
import MsrpceDcerpc.Spec.Procedure
import MsrpceDcerpc.Spec.Gssapi
import MsrpceDcerpc.Proof.Invariant
import MsrpceDcerpc.Proof.Output
import MsrpceDcerpc.Proof.Gssapi
import MsrpceDcerpc.Spec.Mechanism
import MsrpceDcerpc.Proof.Mechanism
import MsrpceDcerpc.Proof.Uses
import MsrpceDcerpc.Spec.Ntlm
import MsrpceDcerpc.Proof.Ntlm
import MsrpceDcerpc.Proof.Answers
import MsrpceDcerpc.Spec.Acceptor
import MsrpceDcerpc.Proof.Authentication
import MsrpceDcerpc.Spec.Interruption
import MsrpceDcerpc.Proof.Interruption
import MsrpceDcerpc.Spec.Provider
import MsrpceDcerpc.Proof.Provider
import MsrpceDcerpc.Proof.Endpoint
