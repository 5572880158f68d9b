import MsrpceDcerpc.Spec.Server
import MsrpceDcerpc.Spec.Standard
import MsrpceDcerpc.Proof.Proposal
import MsrpceDcerpc.Proof.Calls
import MsrpceDcerpc.Proof.Fragmentation

/-!
# A conversation with a conforming server

The client and a conforming server together (`conversation`): the bind
succeeds, and every call returns the answer of the server to that call, which
has put together the context, the opnum and the stub of the call. Two lemmas
carry it, one for each direction: the frames of a request leave the server
with the request and the connection with the PDUs of its answer
(`Connection.receive_requestFrames`), and the PDUs of an answer make the
receive loop return its result (`recvLoop_answer`). Between two calls nothing
is left on the connection (`Idle`), after a fault as after a response. The PDUs
themselves are those of the protocol (`requestFrame_eq_wire`, `encode_plainBind`),
which the server reads from any client (`Connection.receive_wireRequest`,
`Connection.receive_wireBind`).
-/

namespace Rpce

open Rust Endian Segment Eff RpcClient Chunk PresentationContextList

variable {A σ : Type}

/-- The context a server accepts is one of the proposed ones. -/
theorem Accepts.exists_acceptedContext [UuidCrate] {proposed : List PresentationContext}
    {ack : BindAckPdu} {filler : Wire.AckFiller ack} (h : Accepts proposed ack filler) :
    ∃ a, ack.acceptedContext proposed = .ok a := by
  obtain ⟨i, r, hfirst⟩ := BindAckPdu.exists_firstAcceptance h.acceptance
  have hi : i < proposed.length := by
    rw [← h.results]
    exact (List.getElem?_eq_some_iff.mp hfirst.get).1
  exact ⟨_, BindAckPdu.acceptedContext_eq_ok.mpr ⟨i, r, _, hfirst, List.getElem?_eq_getElem hi, rfl⟩⟩

section

variable [DataRepresentation]

/-! ## PDUs of a server -/

/-- The packet of a PDU. -/
def pduPacket (drep : PackedDrep) (versionMinor : UInt8) (ptype : PduType) (pfcFlags : UInt8)
    (callId : UInt32) (body : List UInt8) : PduPacket :=
  PduPacket.new
    { rpcVers := RPC_VERSION, rpcVersMinor := versionMinor, ptype, pfcFlags, packedDrep := drep,
      fragLength := UInt16.ofNat (16 + body.length), authLength := 0, callId } body []

theorem decode_pdu {drep : PackedDrep} {o : ByteOrder}
    (hdrep : DataRepresentation.fromBytes drep = .ok o) {body : List UInt8}
    (hfits : 16 + body.length ≤ 65535) (versionMinor : UInt8) (ptype : PduType) (pfcFlags : UInt8)
    (callId : UInt32) :
    PduPacket.decode (Wire.pdu o drep versionMinor ptype pfcFlags callId body) =
      .ok (pduPacket drep versionMinor ptype pfcFlags callId body) := by
  have horder : (pduPacket drep versionMinor ptype pfcFlags callId body).header.byteOrder = o :=
    PduHeader.byteOrder_of_fromBytes hdrep
  have hsize : (pduPacket drep versionMinor ptype pfcFlags callId body).size = 16 + body.length := rfl
  refine PduPacket.decode_eq_ok.mpr
    ⟨⟨⟨rfl, horder ▸ hdrep⟩, ⟨fun _ => rfl, fun _ => rfl⟩, ?_, rfl⟩, [], rfl, ?_⟩
  · rw [hsize]
    show (UInt16.ofNat (16 + body.length)).toNat = _
    rw [UInt16.toNat_ofNat']
    omega
  · rw [PduPacket.wire, PduHeader.encode, horder]
    show _ = _ ++ body ++ [] ++ [] ++ []
    rw [List.append_nil, List.append_nil, List.append_nil]
    rfl

/-! ## PDUs of a client -/

section Wire

variable [UuidCrate]

omit [DataRepresentation] in
theorem RequestPdu.wire_eq_encode {r : RequestPdu} (ho : r.object = none) :
    Wire.request .little r = r.encode := by
  rw [Wire.request, encode, ho]
  rfl

omit [DataRepresentation] in
theorem BindPdu.wire_eq_encode (maxXmitFrag maxRecvFrag : UInt16) (assocGroupId : UInt32)
    (r₀ r₁ r₂ : UInt8) (contexts : List (PresentationContext × UInt8)) :
    Wire.bind .little maxXmitFrag maxRecvFrag assocGroupId r₀ r₁ r₂ contexts =
      encode { maxXmitFrag, maxRecvFrag, assocGroupId
               presentationContextList := [UInt8.ofNat contexts.length, r₀, r₁, r₂] ++ wire contexts } :=
  List.append_assoc ..

omit [DataRepresentation] in
theorem BindPdu.length_wire (maxXmitFrag maxRecvFrag : UInt16) (assocGroupId : UInt32)
    (r₀ r₁ r₂ : UInt8) (contexts : List (PresentationContext × UInt8)) :
    (Wire.bind .little maxXmitFrag maxRecvFrag assocGroupId r₀ r₁ r₂ contexts).length =
      12 + contextsLen (contexts.map Prod.fst) := by
  have hlist := PresentationContextList.length_wire contexts
  simp only [BindPdu.wire_eq_encode, BindPdu.encode, List.length_append, length_u16Bytes,
    length_u32Bytes, List.length_cons, List.length_nil, hlist]
  omega

/-- A fragment of a request is sent as the protocol says. -/
theorem requestFrame_eq_wire (hd : WindowsDefaultLittle) {callId : UInt32} {pfcFlags : UInt8}
    {r : RequestPdu} (ho : r.object = none) : requestFrame callId pfcFlags r =
      Wire.pdu .little DataRepresentation.windowsDefault 0 .request pfcFlags callId
        (Wire.request .little r) := by
  have horder : (requestFragmentPacket callId pfcFlags r).header.byteOrder = .little :=
    PduHeader.byteOrder_of_fromBytes hd
  rw [requestFrame, PduHeader.encode, horder, RequestPdu.wire_eq_encode ho, Wire.pdu,
    length_encode_of_no_object ho, ← Nat.add_assoc]
  rfl

/-- So is a Bind without a provider. -/
theorem encode_plainBind (hd : WindowsDefaultLittle) {proposed : List PresentationContext}
    (hfits : 28 + contextsLen proposed ≤ 65535) :
    (plainBind proposed).encode = .ok (wireBind proposed) := by
  rw [PduPacket.encode_of_size ⟨fun _ => rfl, fun _ => rfl⟩ ((plainBind_size proposed).trans_le hfits)]
  have horder : (plainBind proposed).stamped.header.byteOrder = .little :=
    PduHeader.byteOrder_of_fromBytes hd
  have hbody : (bindBody proposed).encode = Wire.bind .little DEFAULT_MAX_XMIT_FRAG
      DEFAULT_MAX_XMIT_FRAG 0 0 0 0 (proposed.map fun c => (c, 0)) := by
    rw [BindPdu.wire_eq_encode, bindBody, List.length_map]
  have hwire : (plainBind proposed).stamped.wire (List.replicate (plainBind proposed).paddingLen 0) =
      (plainBind proposed).stamped.header.encode ++ (bindBody proposed).encode ++ [] ++ [] ++ [] := rfl
  have hsize : (plainBind proposed).size = 16 + (bindBody proposed).encode.length := rfl
  rw [hwire, List.append_nil, List.append_nil, List.append_nil, PduHeader.encode, horder]
  rw [wireBind, ← hbody, Wire.pdu, ← hsize]
  rfl

end Wire

variable [RpcAuthProvider A]

/-- A fragment of the response to a call is read as it was cut. -/
theorem responseFragment_pdu {drep : PackedDrep}
    (hdrep : DataRepresentation.fromBytes drep = .ok .little) (callId : UInt32)
    (f : ResponseFragment) {sawFirst : Bool}
    (hfirst : sawFirst = true ∨ f.pfcFlags &&& PFC_FIRST_FRAG ≠ 0) :
    responseFragment (none : Option A) callId sawFirst
        (Wire.pdu .little drep f.versionMinor .response f.pfcFlags callId
          (Wire.response .little f.response f.reserved)) =
      .ok (f.pfcFlags &&& PFC_LAST_FRAG != 0, f.response.stubData) := by
  have hlen := ResponsePdu.length_wire .little f.response f.reserved
  have hfits := f.fits
  refine responseFragment_eq_ok.mpr ⟨fun a ha => (by cases ha), _, _,
    decode_pdu hdrep (by omega) _ _ _ _, rfl, rfl, ?_, ResponsePdu.decode_eq_ok.mpr ⟨_, rfl⟩, rfl, rfl⟩
  rcases hfirst with rfl | hfirst
  · rfl
  · exact Bool.or_eq_true_iff.mpr (.inr (bne_iff_ne.mpr hfirst))

/-- The PDUs of a fragmented response are a response. -/
theorem response_fragments {drep : PackedDrep}
    (hdrep : DataRepresentation.fromBytes drep = .ok .little) (callId : UInt32)
    (sawFirst : Bool) {init : List ResponseFragment} {last : ResponseFragment}
    (hfirst : sawFirst = true ∨ ∀ f ∈ (init ++ [last]).head?, f.pfcFlags &&& PFC_FIRST_FRAG ≠ 0)
    (hlast : last.pfcFlags &&& PFC_LAST_FRAG ≠ 0)
    (hinit : ∀ f ∈ init, f.pfcFlags &&& PFC_LAST_FRAG = 0) :
    Response (none : Option A) callId sawFirst
      ((init ++ [last]).map fun f => Wire.pdu .little drep f.versionMinor .response f.pfcFlags callId
        (Wire.response .little f.response f.reserved))
      ((init ++ [last]).flatMap (·.response.stubData)) := by
  induction init generalizing sawFirst with
  | nil =>
    have hpart := responseFragment_pdu (A := A) hdrep callId last
      (hfirst.imp_right fun h => h last rfl)
    rw [bne_iff_ne.mpr hlast] at hpart
    simp only [List.nil_append, List.map_cons, List.map_nil, List.flatMap_cons, List.flatMap_nil,
      List.append_nil]
    exact .last hpart
  | cons f init ih =>
    obtain ⟨hf, hrest⟩ := List.forall_mem_cons.mp hinit
    have hpart := responseFragment_pdu (A := A) hdrep callId f (hfirst.imp_right fun h => h f rfl)
    rw [hf] at hpart
    exact .more hpart (ih true (.inl rfl) hrest)

/-- The fault of a call is read with its status. -/
theorem responseFragment_faultPdu {drep : PackedDrep}
    (hdrep : DataRepresentation.fromBytes drep = .ok .little) (versionMinor pfcFlags : UInt8)
    (callId : UInt32) {f : FaultPdu} (hfits : f.stubData.length ≤ 65507) (reserved : UInt8)
    (sawFirst : Bool) :
    responseFragment (none : Option A) callId sawFirst
        (Wire.pdu .little drep versionMinor .fault pfcFlags callId (Wire.fault .little f reserved)) =
      .error (.err (.fault f.status)) := by
  have hlen := FaultPdu.length_wire .little f reserved
  have hdecode := decode_pdu hdrep (show 16 + (Wire.fault .little f reserved).length ≤ 65535 by omega)
    versionMinor .fault pfcFlags callId
  exact responseFragment_fault (fun a ha => (by cases ha)) hdecode rfl rfl
    (FaultPdu.decode_eq_ok.mpr ⟨reserved, rfl⟩)

end

section

variable [DataRepresentation] [UuidCrate] {server : Server σ}

/-! ## From the client to the server -/

namespace Connection

theorem recvPdu_eq {t : Connection server} {frame : List UInt8} {rest : List (List UInt8)}
    (h : t.outgoing = frame :: rest) :
    RpcTransport.recvPdu t = (.ok frame, { t with outgoing := rest }) := by
  simp only [RpcTransport.recvPdu, h]

/-- A connection takes every PDU. -/
theorem acceptsAll (t : Connection server) (frames : List (List UInt8)) :
    AcceptsAll t frames (frames.foldl receive t) := by
  induction frames generalizing t with
  | nil => exact .nil t
  | cons frame frames ih => exact .cons rfl (ih _)

/-- A connection delivers what the server sent. -/
theorem delivers {t : Connection server} {frames : List (List UInt8)} (rest : List (List UInt8))
    (h : t.outgoing = frames ++ rest) : Delivers t frames { t with outgoing := rest } := by
  induction frames generalizing t with
  | nil =>
    cases t
    cases h
    exact .nil _
  | cons frame frames ih =>
    exact .cons (recvPdu_eq h) (ih rfl)

theorem receive_request (t : Connection server) {bytes : List UInt8} {packet : PduPacket}
    {request : RequestPdu} (hpacket : PduPacket.decode bytes = .ok packet)
    (htype : packet.header.ptype = .request)
    (hbody : RequestPdu.decode packet.body (packet.header.pfcFlags &&& PFC_OBJECT_UUID != 0) =
      .ok request) :
    t.receive bytes = t.collect packet.header request := by
  simp only [receive, hpacket, htype, hbody]

theorem receive_bind (t : Connection server) {bytes : List UInt8} {packet : PduPacket}
    {list : PresentationContextList} (hpacket : PduPacket.decode bytes = .ok packet)
    (htype : packet.header.ptype = .bind)
    (hbody : (BindPdu.decode packet.body >>= BindPdu.contextList) = .ok list) :
    t.receive bytes = { t with outgoing := t.outgoing ++ [Wire.pdu .little server.drep
      server.ackVersionMinor .bindAck server.ackFlags packet.header.callId
      (Wire.bindAck .little (server.ack list.contexts) (server.filler list.contexts))] } := by
  simp only [receive, hpacket, htype, hbody]

/-- The server reads a fragment of a request, on the wire, as it is. -/
theorem receive_wireRequest {drep : PackedDrep} (hdrep : DataRepresentation.fromBytes drep = .ok .little)
    (t : Connection server) (versionMinor : UInt8) (callId : UInt32) {pfcFlags : UInt8}
    (hflags : pfcFlags &&& PFC_OBJECT_UUID = 0) {request : RequestPdu} (ho : request.object = none)
    (hl : 24 + request.stubData.length ≤ 65535) :
    t.receive (Wire.pdu .little drep versionMinor .request pfcFlags callId
        (Wire.request .little request)) =
      t.collect (pduPacket drep versionMinor .request pfcFlags callId
        (Wire.request .little request)).header request := by
  have hlen : (Wire.request .little request).length = 8 + request.stubData.length := by
    rw [RequestPdu.wire_eq_encode ho, length_encode_of_no_object ho]
  refine receive_request t (decode_pdu hdrep (by omega) versionMinor .request pfcFlags callId) rfl ?_
  show RequestPdu.decode (Wire.request .little request) (pfcFlags &&& PFC_OBJECT_UUID != 0) = .ok request
  rw [bne_eq_false_iff_eq.mpr hflags, RequestPdu.wire_eq_encode ho]
  exact RequestPdu.decode_eq_ok.mpr ⟨rfl, ho ▸ rfl⟩

/-- The server answers a Bind, on the wire, with its ack for the contexts. -/
theorem receive_wireBind {drep : PackedDrep} (hdrep : DataRepresentation.fromBytes drep = .ok .little)
    (t : Connection server) (versionMinor pfcFlags : UInt8) (callId : UInt32)
    (maxXmitFrag maxRecvFrag : UInt16) (assocGroupId : UInt32) (r₀ r₁ r₂ : UInt8)
    {contexts : List (PresentationContext × UInt8)} (hlen : contexts.length ≤ 255)
    (hcounted : ∀ p ∈ contexts.map Prod.fst, p.Counted)
    (hfits : 28 + contextsLen (contexts.map Prod.fst) ≤ 65535) :
    t.receive (Wire.pdu .little drep versionMinor .bind pfcFlags callId
        (Wire.bind .little maxXmitFrag maxRecvFrag assocGroupId r₀ r₁ r₂ contexts)) =
      { t with outgoing := t.outgoing ++ [Wire.pdu .little server.drep server.ackVersionMinor .bindAck
        server.ackFlags callId (Wire.bindAck .little (server.ack (contexts.map Prod.fst))
          (server.filler (contexts.map Prod.fst)))] } := by
  have hbody : (BindPdu.decode (Wire.bind .little maxXmitFrag maxRecvFrag assocGroupId r₀ r₁ r₂
      contexts) >>= BindPdu.contextList) = .ok { contexts := contexts.map Prod.fst } := by
    rw [BindPdu.decode_eq_ok.mpr (BindPdu.wire_eq_encode ..), bind_ok]
    exact PresentationContextList.decode_eq_ok.mpr
      ⟨(List.length_map Prod.fst).trans_le hlen, hcounted, r₀, r₁, r₂, contexts, rfl,
        by rw [List.length_map]⟩
  have hlength := BindPdu.length_wire maxXmitFrag maxRecvFrag assocGroupId r₀ r₁ r₂ contexts
  exact receive_bind t (decode_pdu hdrep (by omega) versionMinor .bind pfcFlags callId) rfl hbody

/-- The server reads a fragment of a request as it was sent. -/
theorem receive_requestFrame (hd : WindowsDefaultLittle) (t : Connection server) (callId : UInt32)
    {pfcFlags : UInt8} (hflags : pfcFlags &&& PFC_OBJECT_UUID = 0) {request : RequestPdu}
    (ho : request.object = none) (hl : 24 + request.stubData.length ≤ 65535) :
    t.receive (requestFrame callId pfcFlags request) =
      t.collect (requestFragmentPacket callId pfcFlags request).header request := by
  rw [requestFrame_eq_wire hd ho, receive_wireRequest hd t 0 callId hflags ho hl]
  rfl

/-- What the next fragment of a request is added to: nothing, if it is the first,
and otherwise what was collected. -/
def Expects (t : Connection server) (first : UInt8) (r : Collecting) : Prop :=
  (first = PFC_FIRST_FRAG ∧ r.stub = []) ∨ (first = 0 ∧ t.collecting = some r)

/-- The flags of a fragment, taken apart. -/
theorem flags_of_expects {t : Connection server} {first last : UInt8} {r : Collecting}
    (h : t.Expects first r) (hlast : last = 0 ∨ last = PFC_LAST_FRAG) :
    (first ||| last) &&& PFC_FIRST_FRAG = first ∧ (first ||| last) &&& PFC_LAST_FRAG = last ∧
      (first ||| last) &&& PFC_OBJECT_UUID = 0 := by
  rcases h with ⟨rfl, -⟩ | ⟨rfl, -⟩ <;> rcases hlast with rfl | rfl <;> decide

/-- The next fragment of a request is added to what was collected, and the last
one is the end of the request. -/
theorem receive_fragment (hd : WindowsDefaultLittle) {t : Connection server} {first last : UInt8}
    {r : Collecting} (h : t.Expects first r) (hlast : last = 0 ∨ last = PFC_LAST_FRAG)
    (allocHint : UInt32) {piece : List UInt8} (hl : piece.length ≤ 65511) :
    t.receive (requestFrame r.callId (first ||| last)
        { allocHint, ctxId := r.ctxId, opnum := r.opnum, object := none, stubData := piece }) =
      if last = 0 then { t with collecting := some { r with stub := r.stub ++ piece } }
      else t.serve { r with stub := r.stub ++ piece } := by
  obtain ⟨hfirstFlag, hlastFlag, hobject⟩ := flags_of_expects h hlast
  rw [receive_requestFrame hd t r.callId hobject rfl (by dsimp only; omega)]
  have hextended : t.extended (requestFragmentPacket r.callId (first ||| last)
        { allocHint, ctxId := r.ctxId, opnum := r.opnum, object := none, stubData := piece }).header
        { allocHint, ctxId := r.ctxId, opnum := r.opnum, object := none, stubData := piece } =
      some { r with stub := r.stub ++ piece } := by
    rw [extended, show (requestFragmentPacket r.callId (first ||| last) _).header.pfcFlags &&&
      PFC_FIRST_FRAG = first from hfirstFlag]
    rcases h with ⟨rfl, hnil⟩ | ⟨rfl, hcollecting⟩
    · rw [if_pos (by decide), hnil]
      rfl
    · rw [if_neg (fun h => h rfl), hcollecting]
      exact if_pos rfl
  rw [collect, hextended]
  dsimp only
  rw [show (requestFragmentPacket r.callId (first ||| last) _).header.pfcFlags &&&
    PFC_LAST_FRAG = last from hlastFlag]
  exact ite_not _ _ _

/-- The fragments of a request leave the server with the request. -/
theorem foldl_receive_fragments (hd : WindowsDefaultLittle) (allocHint : UInt32) {first : UInt8}
    {pieces : List (List UInt8)} (hne : pieces ≠ []) (hl : ∀ p ∈ pieces, p.length ≤ 65511)
    {t : Connection server} {r : Collecting} (h : t.Expects first r) :
    ((fragmentsOf r.ctxId r.opnum allocHint first pieces).map
      fun (flags, request) => requestFrame r.callId flags request).foldl receive t =
        t.serve { r with stub := r.stub ++ pieces.flatten } := by
  induction pieces generalizing first t r with
  | nil => exact absurd rfl hne
  | cons piece pieces ih =>
    obtain ⟨hpiece, hrest⟩ := List.forall_mem_cons.mp hl
    simp only [fragmentsOf, marked, List.map_cons, List.foldl_cons, List.flatten_cons]
    cases pieces with
    | nil =>
      rw [List.isEmpty_nil, if_pos rfl, receive_fragment hd h (.inr rfl) _ hpiece,
        if_neg (by decide), List.flatten_nil, List.append_nil]
      rfl
    | cons piece' pieces =>
      rw [List.isEmpty_cons, if_neg (by decide), receive_fragment hd h (.inl rfl) _ hpiece, if_pos rfl]
      have hnext : ({ t with collecting := some { r with stub := r.stub ++ piece } } :
        Connection server).Expects 0 { r with stub := r.stub ++ piece } := .inr ⟨rfl, rfl⟩
      exact (ih (List.cons_ne_nil _ _) hrest hnext).trans (by rw [List.append_assoc]; rfl)

/-- The frames of a request leave the server with the request, and the connection
with its answer. -/
theorem receive_requestFrames (hd : WindowsDefaultLittle) (t : Connection server) (callId : UInt32)
    (contextId opnum : UInt16) (stub : List UInt8) {maxXmitFrag : UInt16} (hx : 24 < maxXmitFrag.toNat) :
    (requestFrames callId contextId opnum stub maxXmitFrag).foldl receive t =
      t.serve { callId, ctxId := contextId, opnum, stub } := by
  have hmax := maxXmitFrag.toNat_lt
  have hl : ∀ p ∈ chunks (maxXmitFrag.toNat - 24) stub, p.length ≤ 65511 := fun p hp => by
    have := length_le_of_mem_chunks (by omega) hp
    omega
  have h := foldl_receive_fragments hd (UInt32.ofNat stub.length) (chunks_ne_nil _ stub) hl
    (t := t) (r := { callId, ctxId := contextId, opnum, stub := [] }) (.inl ⟨rfl, rfl⟩)
  rw [List.nil_append, flatten_chunks] at h
  exact h

end Connection

/-! ## From the server to the client -/

variable [RpcAuthProvider A]

/-- The PDUs of an answer make the receive loop return its result. -/
theorem recvLoop_answer {c : RpcClient (Connection server) A} {callId : UInt32}
    (hauth : c.authProvider = none) (answer : Answer)
    (hout : c.transport.outgoing = answer.pdus server.drep callId) :
    ∃ fuel c', (recvResponseFragments fuel callId).exec c = (answer.result, c') ∧
      c'.transport = { c.transport with outgoing := [] } := by
  have hdelivers := Connection.delivers [] (hout.trans (List.append_nil _).symm)
  cases answer with
  | response r =>
    have hr := response_fragments (A := A) server.drep_little callId false (.inr r.first_flagged)
      r.last_flagged r.init_not_flagged
    exact ⟨_, _, recvLoop_delivered [] hauth hr hdelivers (Nat.le_refl _), rfl⟩
  | fault versionMinor pfcFlags f reserved hfits =>
    cases hdelivers with
    | cons hrecv hrest =>
      cases hrest
      have hexec := recvLoop_succ callId 0 [] false c
      rw [recvPdu_exec_of_delivered hrecv] at hexec
      simp only [afterRecv, hauth] at hexec
      rw [responseFragment_faultPdu server.drep_little versionMinor pfcFlags callId hfits reserved]
        at hexec
      exact ⟨1, _, hexec, rfl⟩

/-! ## One call -/

/-- A call over a transport that takes the PDUs of its request sends these. -/
theorem CallStep.sent_eq {T : Type} [RpcTransport T] {c c' : RpcClient T A} {call : Call A}
    (h : CallStep c call c') (hc : CanSend c) {t : T} (haccepts : AcceptsAll c.transport
      (requestFrames c.callId c.contextId call.opnum call.requestStub c.maxXmitFrag) t) :
    sent call.events =
      requestFrames c.callId c.contextId call.opnum call.requestStub c.maxXmitFrag := by
  obtain ⟨fuel, hexec⟩ := h.exec
  have haccepted := sendFrames_accepted (c := started c call.opnum call.requestStub) haccepts
  rw [callRaw_exec_of_canSend fuel call.opnum call.requestStub hc, exec_bind_of_ok haccepted] at hexec
  obtain ⟨events, hext, -, -, -, -, ⟨e, he⟩ | ⟨-, hsent⟩⟩ := sendFrames_spec haccepted
  · cases he
  obtain ⟨events', hext', hsent', -⟩ := recvLoop_kept hexec
  have htrace := h.spec.extends_started.trace.symm.trans (hext.trans hext').trace
  rw [List.append_cancel_left htrace, sent_append, hsent, hsent', List.append_nil]

/-- The PDUs of a request are on the wire as the protocol says. -/
theorem requestFrames_eq_wire (hd : WindowsDefaultLittle) (callId : UInt32) (contextId opnum : UInt16)
    (stub : List UInt8) (maxXmitFrag : UInt16) :
    requestFrames callId contextId opnum stub maxXmitFrag =
      (fragmentsOf contextId opnum (UInt32.ofNat stub.length) PFC_FIRST_FRAG
        (chunks (maxXmitFrag.toNat - 24) stub)).map fun (pfcFlags, request) =>
          Wire.pdu .little DataRepresentation.windowsDefault 0 .request pfcFlags callId
            (Wire.request .little request) := by
  refine List.map_congr_left fun f hf => requestFrame_eq_wire hd ?_
  obtain ⟨_, -, rfl⟩ := List.mem_map.mp hf
  rfl

/-- Between two calls nothing is left on the connection. -/
structure Idle (c : RpcClient (Connection server) A) : Prop where
  authProvider : c.authProvider = none
  room : 24 < c.maxXmitFrag.toNat
  outgoing : c.transport.outgoing = []

/-- A call returns the answer of the server, and leaves nothing behind. -/
theorem exists_callStep (hd : WindowsDefaultLittle) {c : RpcClient (Connection server) A} (h : Idle c)
    (opnum : UInt16) (stub : List UInt8) :
    let (answer, state) := server.reply c.transport.state c.contextId opnum stub
    ∃ call c', CallStep c call c' ∧ (call.opnum, call.requestStub) = (opnum, stub) ∧
      call.result = answer.result ∧ Idle c' ∧ c'.contextId = c.contextId ∧
      c'.transport.state = state ∧
      c'.transport.served = c.transport.served ++ [(c.contextId, opnum, stub)] ∧
      call.SentRequest c.contextId := by
  have hlevel : LevelSupported c.authProvider := fun a ha => by cases h.authProvider.symm.trans ha
  have haccepts := Connection.acceptsAll c.transport
    (requestFrames c.callId c.contextId opnum stub c.maxXmitFrag)
  have haccepts' := haccepts
  rw [Connection.receive_requestFrames hd c.transport c.callId c.contextId opnum stub h.room]
    at haccepts
  obtain ⟨c₁, hsend, ht₁, ha₁⟩ : ∃ c₁, (sendFrames (requestFrames c.callId c.contextId opnum stub
      c.maxXmitFrag)).exec (started c opnum stub) = (.ok (), c₁) ∧ c₁.transport = c.transport.serve
        { callId := c.callId, ctxId := c.contextId, opnum, stub } ∧ c₁.authProvider = none :=
    ⟨_, sendFrames_accepted haccepts, rfl, h.authProvider⟩
  have hout : c₁.transport.outgoing =
      (server.reply c.transport.state c.contextId opnum stub).1.pdus server.drep c.callId := by
    rw [ht₁, Connection.serve, h.outgoing]
    rfl
  obtain ⟨fuel, c', hrecv, ht'⟩ := recvLoop_answer ha₁ _ hout
  have hexec : (callRaw fuel opnum stub).exec c =
      ((server.reply c.transport.state c.contextId opnum stub).1.result, c') := by
    rw [callRaw_exec_of_canSend fuel opnum stub ⟨h.room, hlevel⟩, exec_bind_of_ok hsend, hrecv]
  have hreturns : (server.reply c.transport.state c.contextId opnum stub).1.result ≠ .error .fuel := by
    cases (server.reply c.transport.state c.contextId opnum stub).1 <;> exact fun h => nomatch h
  obtain ⟨events, hstep⟩ := CallStep.of_exec fuel opnum stub hexec hreturns
  have hext := hstep.spec.extends_started
  refine ⟨_, c', hstep, rfl, rfl, ⟨hext.authProvider.trans h.authProvider, ?_, ?_⟩,
    hext.contextId, ?_, ?_, chunks (c.maxXmitFrag.toNat - 24) stub, chunks_ne_nil _ stub,
    flatten_chunks .., ?_⟩
  · rw [hext.maxXmitFrag]
    exact h.room
  · rw [ht']
  · rw [ht', ht₁]
    rfl
  · rw [ht', ht₁]
    rfl
  · rw [hstep.sent_eq ⟨h.room, hlevel⟩ haccepts', requestFrames_eq_wire hd]

/-! ## The bind -/

/-- The server answers the Bind of a list it can read with its ack. -/
theorem Connection.receive_plainBind (hd : WindowsDefaultLittle) {proposed : List PresentationContext}
    (hlen : proposed.length ≤ 255) (hcounted : ∀ p ∈ proposed, p.Counted)
    (hfits : 28 + contextsLen proposed ≤ 65535) (t : Connection server) :
    t.receive (wireBind proposed) = { t with outgoing := t.outgoing ++ [Wire.pdu .little server.drep
      server.ackVersionMinor .bindAck server.ackFlags 1 (Wire.bindAck .little (server.ack proposed)
        (server.filler proposed))] } := by
  have hfst : (proposed.map fun c => (c, (0 : UInt8))).map Prod.fst = proposed := by
    rw [List.map_map]
    exact List.map_id _
  have hlen' : (proposed.map fun c => (c, (0 : UInt8))).length ≤ 255 := by rwa [List.length_map]
  have hreceive := receive_wireBind hd t 0 (PFC_FIRST_FRAG ||| PFC_LAST_FRAG) 1 DEFAULT_MAX_XMIT_FRAG
    DEFAULT_MAX_XMIT_FRAG 0 0 0 0 hlen' (hfst.symm ▸ hcounted) (hfst.symm ▸ hfits)
  rwa [hfst] at hreceive

/-- A bind to a conforming server succeeds with the ack of the server. -/
theorem exists_acked_bound (hd : WindowsDefaultLittle) (server : Server σ) (state : σ)
    {proposed : List PresentationContext} (hne : proposed ≠ []) (hlen : proposed.length ≤ 255)
    (hcounted : ∀ p ∈ proposed, p.Counted) (hfits : 28 + contextsLen proposed ≤ 65535) :
    ∃ (c : RpcClient (Connection server) A) (w : World (Connection server) A) (a : AcceptedContext),
      bindWithContexts (Connection.start server state) proposed = (.ok c, w) ∧
      (server.ack proposed).acceptedContext proposed = .ok a ∧ Idle c ∧
      c.contextId = a.contextId ∧ c.transport.state = state ∧ c.transport.served = [] ∧
      sent c.trace = [wireBind proposed] ∧ c.maxXmitFrag = (server.ack proposed).maxXmitFrag ∧
      ∃ response, AckedBy c.trace response (server.ack proposed) := by
  have haccepts := server.accepts proposed hne hlen
  obtain ⟨a, ha⟩ := haccepts.exists_acceptedContext
  have hreceive := Connection.receive_plainBind hd hlen hcounted hfits (Connection.start server state)
  have hack := decode_pdu server.drep_little haccepts.fits server.ackVersionMinor .bindAck
    server.ackFlags 1
  have hdecode := BindAckPdu.decode_eq_ok.mpr ⟨haccepts.countable, server.filler proposed, rfl⟩
  obtain ⟨w₁, hsend, ht₁, hauth₁, hnone, hsent⟩ : ∃ w₁ : World (Connection server) A,
      (sendPdu (wireBind proposed)).exec
          { transport := Connection.start server state, authProvider := none, trace := [] } =
        (.ok (), w₁) ∧ w₁.transport = _ ∧ w₁.authProvider = none ∧ received w₁.trace = [] ∧
      sent w₁.trace = [wireBind proposed] := ⟨_, rfl, hreceive, rfl, rfl, rfl⟩
  have hout : w₁.transport.outgoing = [Wire.pdu .little server.drep server.ackVersionMinor .bindAck
      server.ackFlags 1 (Wire.bindAck .little (server.ack proposed) (server.filler proposed))] := by
    rw [ht₁]
    rfl
  have hrecv := exec_recvPdu (Connection.recvPdu_eq hout)
  rw [bindWithContexts, bindWithContextsInner_exec, if_neg hne, initAuth_exec_none _ rfl]
  dsimp only
  rw [bindBytes_none hcounted, encode_plainBind hd hfits]
  refine ⟨_, _, a, (exec_bind_of_ok hsend).trans
    (bindResponse_of_ack hrecv hauth₁ hack rfl rfl hdecode ha), ha, ⟨hauth₁, haccepts.room, rfl⟩, rfl,
    ?_, ?_, ?_, rfl, _, ⟨_, ?_, hack⟩, rfl, rfl, hdecode⟩
  · show w₁.transport.state = state
    rw [ht₁]
    rfl
  · show w₁.transport.served = []
    rw [ht₁]
    rfl
  · show sent (w₁.trace ++ [.recvPdu (.ok _)]) = _
    rw [sent_append, hsent]
    rfl
  · show received (w₁.trace ++ [.recvPdu (.ok _)]) = _
    rw [received_append, hnone]
    rfl

/-- A bind to a conforming server succeeds. -/
theorem exists_bound (hd : WindowsDefaultLittle) (server : Server σ) (state : σ)
    {proposed : List PresentationContext} (hne : proposed ≠ []) (hlen : proposed.length ≤ 255)
    (hcounted : ∀ p ∈ proposed, p.Counted) (hfits : 28 + contextsLen proposed ≤ 65535) :
    ∃ (c : RpcClient (Connection server) A) (w : World (Connection server) A) (a : AcceptedContext),
      bindWithContexts (Connection.start server state) proposed = (.ok c, w) ∧
      (server.ack proposed).acceptedContext proposed = .ok a ∧ Idle c ∧
      c.contextId = a.contextId ∧ c.transport.state = state ∧ c.transport.served = [] ∧
      sent c.trace = [wireBind proposed] := by
  obtain ⟨c, w, a, hbind, ha, hidle, hctx, hstate, hserved, hsent, -⟩ :=
    exists_acked_bound (A := A) hd server state hne hlen hcounted hfits
  exact ⟨c, w, a, hbind, ha, hidle, hctx, hstate, hserved, hsent⟩

/-! ## The conversation -/

/-- The calls of a client and the server: every call returns its answer. -/
theorem exists_session (hd : WindowsDefaultLittle) {c : RpcClient (Connection server) A} (h : Idle c)
    (requests : List (UInt16 × List UInt8)) :
    ∃ calls c', Session c calls c' ∧
      calls.map (fun call => (call.opnum, call.requestStub)) = requests ∧
      calls.map (·.result) = (server.answers c.transport.state
        (requests.map fun request => (c.contextId, request))).map Answer.result ∧
      c'.transport.served = c.transport.served ++ (requests.map fun request => (c.contextId, request)) ∧
      ∀ call ∈ calls, call.SentRequest c.contextId := by
  induction requests generalizing c with
  | nil => exact ⟨[], c, .nil c, rfl, rfl, (List.append_nil _).symm, fun _ hmem => (by cases hmem)⟩
  | cons request requests ih =>
    obtain ⟨opnum, stub⟩ := request
    obtain ⟨call, c₁, hstep, hargs, hresult, hidle, hctx, hstate, hserved, hsent⟩ :=
      exists_callStep hd h opnum stub
    obtain ⟨calls, c', hrun, hargs', hresults, hserved', hsent'⟩ := ih hidle
    refine ⟨call :: calls, c', .cons hstep hrun, ?_, ?_, ?_, ?_⟩
    · rw [List.map_cons, hargs, hargs']
    · rw [List.map_cons, hresult, hresults, hctx, hstate]
      rfl
    · rw [hserved', hserved, hctx, List.append_assoc]
      rfl
    · exact List.forall_mem_cons.mpr ⟨hsent, hctx ▸ hsent'⟩

/-- A bind to a conforming server succeeds, and of the calls on its client each
returns the answer of the server, which has put together what was passed to
it. What the server got are a Bind and requests on the wire. -/
theorem conversation (hd : WindowsDefaultLittle) (server : Server σ) (state : σ)
    {proposed : List PresentationContext} (hne : proposed ≠ []) (hlen : proposed.length ≤ 255)
    (hcounted : ∀ p ∈ proposed, p.Counted) (hfits : 28 + contextsLen proposed ≤ 65535) :
    ∃ (c : RpcClient (Connection server) A) (w : World (Connection server) A) (a : AcceptedContext),
      bindWithContexts (Connection.start server state) proposed = (.ok c, w) ∧
      (server.ack proposed).acceptedContext proposed = .ok a ∧ sent c.trace = [wireBind proposed] ∧
      ∀ requests : List (UInt16 × List UInt8),
        (∃ calls c', Session c calls c' ∧
          calls.map (fun call => (call.opnum, call.requestStub)) = requests) ∧
        ∀ calls c', Session c calls c' →
          calls.map (fun call => (call.opnum, call.requestStub)) = requests →
          calls.map (·.result) = (server.answers state
            (requests.map fun request => (a.contextId, request))).map Answer.result ∧
          c'.transport.served = (requests.map fun request => (a.contextId, request)) ∧
          ∀ call ∈ calls, call.SentRequest a.contextId := by
  obtain ⟨c, w, a, hbind, ha, hidle, hctx, hstate, hserved, hsent⟩ :=
    exists_bound (A := A) hd server state hne hlen hcounted hfits
  refine ⟨c, w, a, hbind, ha, hsent, fun requests => ?_⟩
  obtain ⟨calls, c', hrun, hargs, hresults, hserved', hrequests⟩ := exists_session hd hidle requests
  refine ⟨⟨calls, c', hrun, hargs⟩, fun calls' c'' hrun' hargs' => ?_⟩
  obtain ⟨rfl, rfl⟩ := hrun.deterministic (fun call => (call.opnum, call.requestStub))
    (fun _ _ _ _ _ => CallStep.deterministic) hrun' (hargs.trans hargs'.symm)
  rw [hresults, hserved', hserved, hctx, hstate]
  exact ⟨rfl, rfl, hctx ▸ hrequests⟩

end

section

open Standard

/-- An ack that accepts NDR32 for every context. -/
def ndr32Ack (proposed : List PresentationContext) : BindAckPdu :=
  { maxXmitFrag := 25, maxRecvFrag := 4280, assocGroupId := 0, secondaryAddr := [],
    results := List.replicate proposed.length
      ⟨.acceptance, .reasonNotSpecified, TransferSyntax.ndr32.syntaxId⟩ }

def ndr32AckFiller (proposed : List PresentationContext) : Wire.AckFiller (ndr32Ack proposed) where
  pad := [0, 0]
  reserved := [0, 0, 0]
  pad_lt := by decide
  aligned := by simp only [ndr32Ack, List.length_nil, List.length_cons, Nat.reduceAdd, Nat.reduceMod]
  length_reserved := rfl

theorem ndr32Ack_accepts {proposed : List PresentationContext} (hne : proposed ≠ [])
    (hlen : proposed.length ≤ 255) :
    Accepts proposed (ndr32Ack proposed) (ndr32AckFiller proposed) where
  countable := ⟨Nat.zero_le _, List.length_replicate.trans_le hlen⟩
  results := List.length_replicate
  acceptance := ⟨_, List.mem_replicate.mpr ⟨fun h => hne (List.length_eq_zero_iff.mp h), rfl⟩, rfl⟩
  room := Nat.le_refl 25
  fits := by
    rw [BindAckPdu.length_bindAck, show (ndr32Ack proposed).results.length = proposed.length from
      List.length_replicate]
    show 16 + (14 + 0 + 2 + proposed.length * 24) ≤ 65535
    omega

/-- The stub `stub` in two fragments, the first of which is empty. -/
def twoFragments (stub : List UInt8) (h : stub.length ≤ 65511) : FragmentedResponse where
  init := [{ versionMinor := 0, pfcFlags := PFC_FIRST_FRAG, reserved := 0, fits := Nat.zero_le _,
             response := { allocHint := 0, ctxId := 0, cancelCount := 0, stubData := [] } }]
  last := { versionMinor := 0, pfcFlags := PFC_LAST_FRAG, reserved := 0, fits := h,
            response := { allocHint := 0, ctxId := 0, cancelCount := 0, stubData := stub } }
  first_flagged := by
    rintro f ⟨⟩
    decide
  last_flagged := by
    dsimp only
    decide
  init_not_flagged f hf := by
    rw [List.mem_singleton.mp hf]
    rfl

/-- A server that counts its requests, and answers every other one with the
start of its stub and the rest with a fault. -/
def echoServer : Server Nat where
  drep := ⟨0x10, 0, 0, 0⟩
  drep_little := rfl
  ackVersionMinor := 0
  ackFlags := PFC_FIRST_FRAG ||| PFC_LAST_FRAG
  ack := ndr32Ack
  filler := ndr32AckFiller
  accepts _ := ndr32Ack_accepts
  reply n _ _ stub :=
    (if n % 2 = 0 then .response (twoFragments (stub.take 65511) (List.length_take_le _ _))
     else .fault 0 0
      { allocHint := 0, ctxId := 0, cancelCount := 0, status := 0x1C010003, stubData := [] } 0
      (Nat.zero_le _), n + 1)

/-- The bind to that server, and three calls. -/
theorem conversation_echo :
    ∃ (c : RpcClient (Connection echoServer) FixedProvider) (w : World _ FixedProvider)
      (calls : List (Call FixedProvider)) (c' : RpcClient (Connection echoServer) FixedProvider),
      bindWithContexts (Connection.start echoServer 0) [ndr32Context] = (.ok c, w) ∧
      sent c.trace = [wireBind [ndr32Context]] ∧ Session c calls c' ∧
      calls.map (·.result) = [.ok [1, 2], .error (.err (.fault 0x1C010003)), .ok [4]] ∧
      c'.transport.served = [(0, 7, [1, 2]), (0, 8, [3]), (0, 9, [4])] ∧
      ∀ call ∈ calls, call.SentRequest 0 := by
  obtain ⟨c, w, a, hbind, ha, hsent, hcalls⟩ := conversation (A := FixedProvider) windowsDefaultLittle
    echoServer 0 (List.cons_ne_nil ndr32Context []) (by decide) (by decide) (by decide)
  have hctx : a.contextId = 0 := by
    cases Except.ok.inj (ha.symm.trans (by rfl))
    rfl
  obtain ⟨⟨calls, c', hrun, hargs⟩, hall⟩ := hcalls [(7, [1, 2]), (8, [3]), (9, [4])]
  obtain ⟨hresults, hserved, hrequests⟩ := hall calls c' hrun hargs
  rw [hctx] at hresults hserved hrequests
  exact ⟨c, w, calls, c', hbind, hsent, hrun, hresults, hserved, hrequests⟩

end

end Rpce
