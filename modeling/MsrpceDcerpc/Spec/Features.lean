import MsrpceDcerpc.Lib.Interleave
import MsrpceDcerpc.Spec.Server
import MsrpceDcerpc.Proof.Bind

/-!
# A server that negotiates features

A presentation context can stand for features of the connection that the client
asks for. A `Negotiator` answers such contexts itself, with those of the
features it has, and leaves the others to a server: together they are a server
again (`Negotiator.toServer`).
-/

namespace Rpce

open Rust Endian Interleave

variable [UuidCrate]

/-- The bitmask of a syntax that stands for features: it has the UUID
`6CB71C2C-9812-4540` with the bitmask after it, and the version 1. -/
def SyntaxId.features (s : SyntaxId) : Option UInt16 :=
  let bytes := UuidCrate.toBytesLe s.uuid
  if bytes.take 8 = [0x2C, 0x1C, 0xB7, 0x6C, 0x12, 0x98, 0x40, 0x45] ∧ s.version = 1 then
    some (Word.read .little ((bytes.drop 8).take 2))
  else none

/-- What a context asks for, if it has no other transfer syntax. -/
def PresentationContext.features (c : PresentationContext) : Option UInt16 :=
  match c.transferSyntaxes with
  | [s] => s.features
  | _ => none

/-- The features that have a name. -/
def knownFeatures : UInt16 :=
  BIND_TIME_FEATURE_SECURITY_CONTEXT_MULTIPLEXING ||| BIND_TIME_FEATURE_KEEP_CONNECTION_ON_ORPHAN

/-- The place of a reason is where a bitmask of features is granted. -/
def PresentationRejectReason.ofFeatures (bitmask : UInt16) : PresentationRejectReason :=
  (tryFrom bitmask).toOption.getD .reasonNotSpecified

variable [DataRepresentation] {σ : Type}

/-- It has the features of `supported`; the server leaves room for its answers. -/
structure Negotiator (server : Server σ) where
  supported : UInt16
  supported_known : supported &&& knownFeatures = supported
  unused : SyntaxId
  secondaryAddr_le : ∀ proposed, (server.ack proposed).secondaryAddr.length ≤ 59382

namespace Negotiator

variable {server : Server σ} (n : Negotiator server) (proposed : List PresentationContext)

/-- The answer to a context, if there is one. A Bind that asks for features only
is left to the server. -/
def answer (c : PresentationContext) : Option PresentationResult :=
  if ∃ p ∈ proposed, p.features = none then
    c.features.map fun bitmask => ⟨.negotiateAck, .ofFeatures (bitmask &&& n.supported), n.unused⟩
  else none

/-- What is left to the server. -/
def left : List PresentationContext := rest (n.answer proposed) proposed

/-- The ack of the server with the answers in their places. -/
def ack : BindAckPdu :=
  { server.ack (n.left proposed) with
    results := fill (n.answer proposed) proposed (server.ack (n.left proposed)).results }

def filler : Wire.AckFiller (n.ack proposed) :=
  { server.filler (n.left proposed) with }

variable {n proposed}

theorem answer_of_features {c : PresentationContext} {bitmask : UInt16}
    (hplain : ∃ p ∈ proposed, p.features = none) (h : c.features = some bitmask) :
    n.answer proposed c =
      some ⟨.negotiateAck, .ofFeatures (bitmask &&& n.supported), n.unused⟩ := by
  rw [answer, if_pos hplain, h]
  rfl

theorem answer_eq_some {c : PresentationContext} {r : PresentationResult}
    (h : n.answer proposed c = some r) : r.result = .negotiateAck := by
  unfold answer at h
  split at h
  · obtain ⟨bitmask, -, rfl⟩ := Option.map_eq_some_iff.mp h
    rfl
  · cases h

/-- The contexts that ask for no features are left to the server, if there are any. -/
theorem left_eq_filter (hplain : ∃ p ∈ proposed, p.features = none) :
    n.left proposed = proposed.filter fun c => c.features.isNone := by
  rw [left, rest]
  refine List.filter_congr fun c _ => ?_
  rw [answer, if_pos hplain, Option.isNone_map]

theorem left_ne_nil (hne : proposed ≠ []) : n.left proposed ≠ [] := by
  by_cases hplain : ∃ p ∈ proposed, p.features = none
  · obtain ⟨p, hp, hnone⟩ := hplain
    rw [left_eq_filter ⟨p, hp, hnone⟩]
    refine List.ne_nil_of_mem (List.mem_filter.mpr ⟨hp, ?_⟩)
    rw [hnone]
    rfl
  · have hall : n.left proposed = proposed := List.filter_eq_self.mpr fun c _ => by
      rw [answer, if_neg hplain]
      rfl
    rwa [hall]

theorem length_left_le : (n.left proposed).length ≤ proposed.length := List.length_filter_le _ _

/-- The server answers all that is left to it. -/
theorem answers (hne : proposed ≠ []) (hlen : proposed.length ≤ 255) :
    Answers (n.answer proposed) proposed (server.ack (n.left proposed)).results :=
  answers_of_length (server.accepts _ (left_ne_nil hne) (length_left_le.trans hlen)).results

theorem length_bindAck_le (n : Negotiator server) {proposed : List PresentationContext}
    (h : (n.ack proposed).results.length ≤ 255) :
    16 + (Wire.bindAck .little (n.ack proposed) (n.filler proposed)).length ≤ 65535 := by
  have haddr : (n.ack proposed).secondaryAddr.length ≤ 59382 := n.secondaryAddr_le _
  have hpad := (n.filler proposed).pad_lt
  rw [BindAckPdu.length_bindAck]
  omega

theorem accepts (n : Negotiator server) (proposed : List PresentationContext) (hne : proposed ≠ [])
    (hlen : proposed.length ≤ 255) : Accepts proposed (n.ack proposed) (n.filler proposed) := by
  have haccepts := server.accepts _ (left_ne_nil (n := n) hne) (length_left_le.trans hlen)
  have hanswers := answers (n := n) hne hlen
  have hresults : (n.ack proposed).results.length = proposed.length := hanswers.length_fill
  obtain ⟨r, hr, hacceptance⟩ := haccepts.acceptance
  exact {
    countable := ⟨haccepts.countable.secondaryAddr, hresults.trans_le hlen⟩
    results := hresults
    acceptance := ⟨r, hanswers.mem_fill hr, hacceptance⟩
    room := haccepts.room
    fits := n.length_bindAck_le (hresults.trans_le hlen) }

/-- The server with the negotiator before it. -/
def toServer (n : Negotiator server) : Server σ :=
  { server with ack := n.ack, filler := n.filler, accepts := n.accepts }

end Negotiator

end Rpce
