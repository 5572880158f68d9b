import Mathlib.Data.List.Forall2
import MsrpceDcerpc.Spec.Session

/-!
# Messages in fragments

What a reader of the PDUs decodes where a stub is spread over several of them:
the fragments of a request (`RequestInFragments`), and the PDUs that are a
response, or the beginning of one (`ResponseInFragments`, `ResponsePrefix`).
None of these mentions a client.

A transport is followed through the PDUs it takes (`AcceptsAll`) and through
those it delivers (`Delivers`, `Plays`), and a client through both (`afterSend`,
`afterReceive`).
-/

namespace Rpce

open Rust Endian

variable {T A : Type}

/-! ## Requests -/

/-- `pdus` are read as the `fragments` of a request with the stub `stub`, in
PDUs of at most `maxXmitFrag` bytes. -/
structure RequestInFragments [DataRepresentation] [UuidCrate] (callId : UInt32)
    (contextId opnum : UInt16) (stub : List UInt8) (maxXmitFrag : Nat) (pdus : List (List UInt8))
    (fragments : List (PduPacket × RequestPdu)) : Prop where
  decode : List.Forall₂ (fun bytes f => PduPacket.decode bytes = .ok f.1 ∧
    RequestPdu.decode f.1.body false = .ok f.2) pdus fragments
  ptype : ∀ f ∈ fragments, f.1.header.ptype = .request
  callId : ∀ f ∈ fragments, f.1.header.callId = callId
  contextId : ∀ f ∈ fragments, f.2.ctxId = contextId
  opnum : ∀ f ∈ fragments, f.2.opnum = opnum
  noObject : ∀ f ∈ fragments, f.1.header.pfcFlags &&& PFC_OBJECT_UUID = 0
  allocHint : ∀ f ∈ fragments, f.2.allocHint.toNat = stub.length % 2 ^ 32
  stubData : fragments.flatMap (·.2.stubData) = stub
  first : ∀ i f, fragments[i]? = some f → (f.1.header.pfcFlags &&& PFC_FIRST_FRAG ≠ 0 ↔ i = 0)
  last : ∀ i f, fragments[i]? = some f →
    (f.1.header.pfcFlags &&& PFC_LAST_FRAG ≠ 0 ↔ i + 1 = fragments.length)
  size : ∀ pdu ∈ pdus, pdu.length ≤ maxXmitFrag
  full : ∀ i pdu, pdus[i]? = some pdu → i + 1 < pdus.length → pdu.length = maxXmitFrag
  count : pdus.length = max 1 ((stub.length + (maxXmitFrag - 24) - 1) / (maxXmitFrag - 24))

/-! ## Responses -/

section Response

variable [DataRepresentation]

/-- A PDU that is read as a fragment of a response to the call `callId`: a
packet of its type and id with room for the fields in front of the stub. -/
structure IsFragment (callId : UInt32) (bytes : List UInt8) (p : PduPacket) : Prop where
  decode : PduPacket.decode bytes = .ok p
  ptype : p.header.ptype = .response
  callId : p.header.callId = callId
  body : 8 ≤ p.body.length

/-- A PDU that is read as a fault of the call `callId` with the status
`status`. -/
structure IsFault (callId status : UInt32) (bytes : List UInt8) (p : PduPacket) : Prop where
  decode : PduPacket.decode bytes = .ok p
  ptype : p.header.ptype = .fault
  callId : p.header.callId = callId
  body : 12 ≤ p.body.length
  status : Segment.At p.body 8 (u32Bytes .little status)

/-- `pdus` are read as the `packets` of a response to the call `callId`, from
its first fragment on. -/
structure ResponsePrefix (callId : UInt32) (pdus : List (List UInt8)) (packets : List PduPacket) :
    Prop where
  fragments : List.Forall₂ (IsFragment callId) pdus packets
  first : ∀ p ∈ packets.head?, p.header.pfcFlags &&& PFC_FIRST_FRAG ≠ 0

/-- `pdus` are read as a whole response with the stub `stub`: the last packet,
and no other, is flagged as the last. The body of a packet is what is in front
of its auth padding and security trailer. -/
structure ResponseInFragments (callId : UInt32) (pdus : List (List UInt8)) (packets : List PduPacket)
    (stub : List UInt8) : Prop extends ResponsePrefix callId pdus packets where
  last : ∃ p ∈ packets.getLast?, p.header.pfcFlags &&& PFC_LAST_FRAG ≠ 0
  notLast : ∀ p ∈ packets.dropLast, p.header.pfcFlags &&& PFC_LAST_FRAG = 0
  stubData : stub = packets.flatMap fun p => p.body.drop 8

end Response

/-! ## Transports -/

section Transport

variable [RpcTransport T]

/-- The transport `t` accepts `pdus`, one after the other, and is then `t'`. -/
inductive AcceptsAll : T → List (List UInt8) → T → Prop where
  | nil (t) : AcceptsAll t [] t
  | cons {t t₁ t' pdu pdus} : RpcTransport.sendPdu t pdu = (.ok (), t₁) → AcceptsAll t₁ pdus t' →
      AcceptsAll t (pdu :: pdus) t'

/-- A transport accepts all of `pdus`, or refuses the first that it does not
accept. -/
theorem acceptsAll_or (t : T) (pdus : List (List UInt8)) :
    (∃ t', AcceptsAll t pdus t') ∨ ∃ k pdu t₁ e t₂, pdus[k]? = some pdu ∧
      AcceptsAll t (pdus.take k) t₁ ∧ RpcTransport.sendPdu t₁ pdu = (.error e, t₂) := by
  induction pdus generalizing t with
  | nil => exact .inl ⟨t, .nil t⟩
  | cons pdu pdus ih =>
    rcases hs : RpcTransport.sendPdu t pdu with ⟨e | u, t₁⟩
    · exact .inr ⟨0, pdu, t, e, t₁, rfl, .nil t, hs⟩
    · rcases ih t₁ with ⟨t', h⟩ | ⟨k, pdu', t₂, e, t₃, hget, h, hs'⟩
      · exact .inl ⟨t', .cons hs h⟩
      · exact .inr ⟨k + 1, pdu', t₂, e, t₃, hget, .cons hs h, hs'⟩

/-- The transport `t` delivers `frames`, and is then `t'`. -/
inductive RpcClient.Delivers : T → List (List UInt8) → T → Prop where
  | nil (t) : Delivers t [] t
  | cons {t t₁ t' frame frames} : RpcTransport.recvPdu t = (.ok frame, t₁) → Delivers t₁ frames t' →
      Delivers t (frame :: frames) t'

theorem RpcClient.Delivers.append {t t₁ t' : T} {frames frames' : List (List UInt8)}
    (h : Delivers t frames t₁) (h' : Delivers t₁ frames' t') : Delivers t (frames ++ frames') t' := by
  induction h with
  | nil => exact h'
  | cons hr _ ih => exact .cons hr (ih h')

theorem RpcClient.Delivers.of_append {t t' : T} {frames frames' : List (List UInt8)}
    (h : Delivers t (frames ++ frames') t') : ∃ t₁, Delivers t frames t₁ ∧ Delivers t₁ frames' t' := by
  induction frames generalizing t with
  | nil => exact ⟨t, .nil t, h⟩
  | cons frame frames ih =>
    cases h with
    | cons hr hrest =>
      obtain ⟨t₁, h₁, h₂⟩ := ih hrest
      exact ⟨t₁, .cons hr h₁, h₂⟩

/-- The transport `t` gives the deliveries `ds`, each a PDU or the message of a
transport error, and after them a transport error. -/
inductive Plays : T → List (Except String (List UInt8)) → Prop where
  | nil {t t' message} : RpcTransport.recvPdu t = (.error (.transport message), t') → Plays t []
  | error {t t' message ds} : RpcTransport.recvPdu t = (.error (.transport message), t') →
      Plays t' ds → Plays t (.error message :: ds)
  | ok {t t' bytes ds} : RpcTransport.recvPdu t = (.ok bytes, t') → Plays t' ds →
      Plays t (.ok bytes :: ds)

namespace Plays

open RpcClient

variable {t t' : T} {ds : List (Except String (List UInt8))} {pdus : List (List UInt8)}

/-- What was delivered is what the deliveries start with. -/
theorem map_prefix (h : Plays t ds) (hd : Delivers t pdus t') : pdus.map .ok <+: ds := by
  induction hd generalizing ds with
  | nil => exact List.nil_prefix
  | cons hr _ ih =>
    cases h with
    | nil hr' => cases hr.symm.trans hr'
    | error hr' _ => cases hr.symm.trans hr'
    | ok hr' hrest =>
      cases hr.symm.trans hr'
      exact List.prefix_cons_inj _ |>.mpr (ih hrest)

theorem delivers (h : Plays t ds) (hp : pdus.map .ok <+: ds) : ∃ t', Delivers t pdus t' := by
  induction pdus generalizing t ds with
  | nil => exact ⟨t, .nil t⟩
  | cons bytes pdus ih =>
    obtain ⟨rest, rfl⟩ := hp
    cases h with
    | ok hr hrest =>
      obtain ⟨t', hd⟩ := ih hrest ⟨rest, rfl⟩
      exact ⟨t', .cons hr hd⟩

/-- All that comes besides PDUs are errors of the transport. -/
theorem transport_error (h : Plays t ds) (hd : Delivers t pdus t') {t'' : T} {e : Error}
    (hr : RpcTransport.recvPdu t' = (.error e, t'')) : ∃ message, e = .transport message := by
  induction hd generalizing ds with
  | nil =>
    cases h with
    | nil hr' | error hr' _ =>
      cases hr.symm.trans hr'
      exact ⟨_, rfl⟩
    | ok hr' _ => cases hr.symm.trans hr'
  | cons hr₁ _ ih =>
    cases h with
    | nil hr' | error hr' _ => cases hr₁.symm.trans hr'
    | ok hr' hrest =>
      cases hr₁.symm.trans hr'
      exact ih hrest hr

end Plays

end Transport

namespace RpcClient

/-- The client after its transport accepted `pdus`, and became `t`. -/
def afterSend (c : RpcClient T A) (pdus : List (List UInt8)) (t : T) : RpcClient T A :=
  { c with
    transport := t
    trace := c.trace ++ pdus.map fun bytes => .sendPdu bytes c.authProvider (.ok ()) }

theorem afterSend_nil (c : RpcClient T A) : c.afterSend [] c.transport = c := by
  rw [afterSend, List.map_nil, List.append_nil]

theorem afterSend_append (c : RpcClient T A) (pdus pdus' : List (List UInt8)) (t t' : T) :
    (c.afterSend pdus t).afterSend pdus' t' = c.afterSend (pdus ++ pdus') t' := by
  simp only [afterSend, List.map_append, List.append_assoc]

/-- The client after its transport refused `pdu` with the error `e`, and
became `t`. -/
def afterRefusal (c : RpcClient T A) (pdu : List UInt8) (e : Error) (t : T) : RpcClient T A :=
  { c with transport := t, trace := c.trace ++ [.sendPdu pdu c.authProvider (.error e)] }

/-- The client after its transport delivered a PDU. -/
def afterRecv (c : RpcClient T A) (frame : List UInt8) (t : T) : RpcClient T A :=
  { c with transport := t, trace := c.trace ++ [.recvPdu (.ok frame)] }

/-- The client after its transport failed to deliver one. -/
def afterRecvError (c : RpcClient T A) (e : Error) (t : T) : RpcClient T A :=
  { c with transport := t, trace := c.trace ++ [.recvPdu (.error e)] }

/-- The client after its transport delivered `pdus`, and became `t`. -/
def afterReceive (c : RpcClient T A) (pdus : List (List UInt8)) (t : T) : RpcClient T A :=
  { c with transport := t, trace := c.trace ++ pdus.map fun bytes => .recvPdu (.ok bytes) }

theorem afterReceive_nil (c : RpcClient T A) : c.afterReceive [] c.transport = c := by
  rw [afterReceive, List.map_nil, List.append_nil]

theorem afterReceive_cons (c : RpcClient T A) (frame : List UInt8) (pdus : List (List UInt8))
    (t t' : T) : (c.afterRecv frame t).afterReceive pdus t' = c.afterReceive (frame :: pdus) t' := by
  simp only [afterRecv, afterReceive, List.map_cons, List.append_assoc, List.singleton_append]

theorem afterRecv_afterReceive (c : RpcClient T A) (frame : List UInt8) (pdus : List (List UInt8))
    (t t' : T) :
    (c.afterReceive pdus t).afterRecv frame t' = c.afterReceive (pdus ++ [frame]) t' := by
  simp only [afterRecv, afterReceive, List.map_append, List.append_assoc, List.map_singleton]

end RpcClient

end Rpce
