import MsrpceDcerpc.Proof.Packet
import MsrpceDcerpc.Proof.Bind
import MsrpceDcerpc.Proof.Selection
import MsrpceDcerpc.Spec.Session

/-!
# The bind

`bindWithContextsInner` builds the bytes of one PDU (`bindBytes`), sends them
and acts on the answer (`bindResponse`); `bindWithContextsInner_exec` is this
equation. The rest follows from it: what was sent first
(`bindWithContextsInner_sent`), which ack a bound client was bound by
(`bindWithContextsInner_ok`), and that a bind returns
(`alwaysReturns_bindWithContextsInner`).
-/

namespace Rpce

open Rust Endian Segment Eff

variable {T A : Type}

/-! ## Which events an action may record -/

/-- `x` records nothing but events satisfying `P`. -/
def Records {α : Type} (P : Event A → Prop) (x : Eff (Stop Error) (World T A) α) : Prop :=
  ∀ w, ∃ events, (x.exec w).2.trace = w.trace ++ events ∧ ∀ e ∈ events, P e

namespace Records

variable {α β : Type} {P : Event A → Prop}

theorem of_eq {x : Eff (Stop Error) (World T A) α} (h : ∀ w, (x.exec w).2 = w) : Records P x :=
  fun w => ⟨[], by rw [h, List.append_nil], fun _ h => absurd h List.not_mem_nil⟩

theorem pure (a : α) : Records (T := T) P (pure a) := of_eq fun _ => rfl

theorem throw (e : Stop Error) : Records (T := T) (α := α) P (throw e) := of_eq fun _ => rfl

theorem lift (x : Result α) : Records (T := T) P (liftM x) := of_eq fun _ => rfl

theorem get : Records (T := T) P get := of_eq fun _ => rfl

theorem bind {x : Eff (Stop Error) (World T A) α} {f : α → Eff (Stop Error) (World T A) β}
    (hx : Records P x) (hf : ∀ a, Records P (f a)) : Records P (x >>= f) := by
  intro w
  obtain ⟨events, htrace, hP⟩ := hx w
  rw [exec_bind]
  rcases hr : x.exec w with ⟨e | a, w'⟩
  · rw [hr] at htrace
    exact ⟨events, htrace, hP⟩
  · rw [hr] at htrace
    obtain ⟨events', htrace', hP'⟩ := hf a w'
    refine ⟨events ++ events', by rw [htrace', htrace, List.append_assoc], fun e he => ?_⟩
    exact (List.mem_append.mp he).elim (hP e) (hP' e)

theorem one {x : Eff (Stop Error) (World T A) α}
    (h : ∀ w, ∃ e, (x.exec w).2.trace = w.trace ++ [e] ∧ P e) : Records P x := by
  intro w
  obtain ⟨e, htrace, he⟩ := h w
  exact ⟨[e], htrace, fun e' he' => List.mem_singleton.mp he' ▸ he⟩

end Records

/-! ## What the provider's part of a bind records -/

theorem records_initAuth [RpcAuthProvider A] {P : Event A → Prop} (target : String)
    (hP : ∀ t r, P (.initContext t r)) :
    Records P (initAuth (T := T) target) := by
  refine .bind .get fun w => ?_
  split
  · exact .pure _
  · exact .bind (.one fun w => ⟨_, rfl, hP _ _⟩) fun _ => .pure _

theorem records_answerChallenge [DataRepresentation] [RpcTransport T] [RpcAuthProvider A]
    {P : Event A → Prop} (callId : UInt32) (response : PduPacket)
    (hstep : ∀ ch r, P (.step ch r)) (hsend : ∀ b a r, P (.sendPdu b a r)) :
    Records P (answerChallenge (T := T) callId response) := by
  refine .bind .get fun w => ?_
  split
  · exact .pure _
  · split
    · exact .pure _
    · refine .bind (.one fun w => ⟨_, rfl, hstep _ _⟩) fun token => ?_
      split
      · exact .pure _
      · refine .bind .get fun w => ?_
        split
        · exact .pure _
        · refine .bind (.lift _) fun auth3 => .bind (.lift _) fun bytes => ?_
          exact .one fun w => ⟨_, rfl, hsend _ _ _⟩

/-- A bind has one ack. -/
theorem AckedBy.unique [DataRepresentation] [UuidCrate] {trace : List (Event A)}
    {response response' : PduPacket} {ack ack' : BindAckPdu}
    (h : AckedBy trace response ack) (h' : AckedBy trace response' ack') :
    response = response' ∧ ack = ack' := by
  obtain ⟨bytes, hb, hd⟩ := h.received
  obtain ⟨bytes', hb', hd'⟩ := h'.received
  obtain rfl : bytes = bytes' := List.singleton_inj.mp (hb.symm.trans hb')
  obtain rfl : response = response' := Except.ok.inj (hd.symm.trans hd')
  exact ⟨rfl, Except.ok.inj (h.body.symm.trans h'.body)⟩

/-! ## The two halves of a bind -/

section

variable [DataRepresentation] [UuidCrate] [RpcAuthProvider A]

/-- The bytes of the Bind, in the state of the provider after its token. -/
def bindBytes (proposed : List PresentationContext) (token : Option (List UInt8))
    (authProvider : Option A) : Result (List UInt8) := do
  let bind ← BindPdu.withContexts DEFAULT_MAX_XMIT_FRAG DEFAULT_MAX_XMIT_FRAG 0 proposed
  let packet ← bindPacket 1 bind.encode token authProvider
  packet.encode

variable [RpcTransport T]

/-- The part of a bind after its first PDU was sent. -/
def bindResponse (proposed : List PresentationContext) :
    Eff (Stop Error) (World T A) (RpcClient T A) := do
  let response ← liftM (PduPacket.decode (← recvPdu))
  liftM (failIf (response.header.callId ≠ 1)
    (Error.invalidPdu "bind response call id mismatch"))
  match response.header.ptype with
  | .bindAck => bindAccepted 1 proposed response
  | .bindNak =>
    let nak ← liftM (BindNakPdu.decode response.body)
    throw (.err (.bindRejected nak.rejectReason))
  | _ => throw (.err (.invalidPdu "expected bind ack or bind nak PDU"))

theorem bindWithContextsInner_exec (proposed : List PresentationContext) (target : String)
    (w : World T A) :
    (bindWithContextsInner proposed target).exec w =
      if proposed = [] then
        (.error (.err (.invalidPdu "bind requires at least one presentation context")), w)
      else
        match (initAuth target).exec w with
        | (.error e, w') => (.error e, w')
        | (.ok token, w') =>
          match bindBytes proposed token w'.authProvider with
          | .error e => (.error e, w')
          | .ok bytes => (sendPdu bytes >>= fun _ => bindResponse proposed).exec w' := by
  rw [bindWithContextsInner]
  by_cases hp : proposed = []
  · rw [exec_lift_bind_of_error (failIf_of _ hp), if_pos hp]
  rw [exec_lift_bind_of_ok (failIf_of_not _ hp), if_neg hp, exec_bind]
  rcases (initAuth target).exec w with ⟨e | token, w'⟩
  · rfl
  dsimp only
  cases hbind : BindPdu.withContexts DEFAULT_MAX_XMIT_FRAG DEFAULT_MAX_XMIT_FRAG 0 proposed with
  | error e => simp only [bindBytes, exec_bind, exec_lift, hbind, bind_error]
  | ok bind =>
    rw [exec_lift_bind_of_ok rfl, exec_bind_of_ok (exec_get w')]
    cases hpacket : bindPacket 1 bind.encode token w'.authProvider with
    | error e => simp only [bindBytes, exec_bind, exec_lift, hbind, hpacket, bind_ok, bind_error]
    | ok packet =>
      rw [exec_lift_bind_of_ok rfl]
      cases henc : packet.encode with
      | error e =>
        simp only [bindBytes, exec_bind, exec_lift, hbind, hpacket, henc, bind_ok]
      | ok bytes =>
        rw [exec_lift_bind_of_ok rfl]
        simp only [bindBytes, hbind, hpacket, henc, bind_ok]
        rfl

/-! ## What a bind records -/

theorem records_bindAccepted {P : Event A → Prop} (callId : UInt32)
    (proposed : List PresentationContext) (response : PduPacket) (hstep : ∀ ch r, P (.step ch r))
    (hsend : ∀ b a r, P (.sendPdu b a r)) :
    Records P (bindAccepted (T := T) callId proposed response) := by
  refine .bind (.lift _) fun ack => .bind (.lift _) fun accepted => ?_
  refine .bind (records_answerChallenge _ _ hstep hsend) fun _ => ?_
  exact .bind .get fun _ => .pure _

theorem records_bindResponse (proposed : List PresentationContext) :
    Records (fun _ => True) (bindResponse (T := T) (A := A) proposed) := by
  refine .bind (.one fun w => ⟨_, rfl, trivial⟩) fun bytes => .bind (.lift _) fun response => ?_
  refine .bind (.lift _) fun _ => ?_
  split
  · exact records_bindAccepted _ _ _ (fun _ _ => trivial) fun _ _ _ => trivial
  · exact .bind (.lift _) fun _ => .throw _
  · exact .throw _

/-! ## What is sent -/

/-- The first PDU of a bind: none, or the bytes of the Bind. -/
theorem bindWithContextsInner_sent {proposed : List PresentationContext} {target : String}
    {w w' : World T A} {r : Result (RpcClient T A)} (hw : sent w.trace = [])
    (h : (bindWithContextsInner proposed target).exec w = (r, w')) (hp : proposed ≠ []) :
    (∃ e, (initAuth target).exec w = (.error e, w') ∧ r = .error e ∧ sent w'.trace = []) ∨
    ∃ token w₁, (initAuth target).exec w = (.ok token, w₁) ∧
      ((∃ e, bindBytes proposed token w₁.authProvider = .error e ∧ r = .error e ∧
          sent w'.trace = []) ∨
        ∃ bytes rest, bindBytes proposed token w₁.authProvider = .ok bytes ∧
          sent w'.trace = bytes :: rest) := by
  rw [bindWithContextsInner_exec, if_neg hp] at h
  obtain ⟨initEvents, hinit, hnone⟩ :=
    records_initAuth (T := T) (A := A) target (P := (sent [·] = [])) (fun _ _ => rfl) w
  have hsent : sent ((initAuth target).exec w).2.trace = [] := by
    rw [hinit, sent_append, hw, sent_eq_nil hnone, List.append_nil]
  rcases hi : (initAuth target).exec w with ⟨e | token, w₁⟩
  · rw [hi] at h hsent
    cases h
    exact .inl ⟨e, rfl, rfl, hsent⟩
  · rw [hi] at h hsent
    refine .inr ⟨token, w₁, rfl, ?_⟩
    dsimp only at h
    cases hbytes : bindBytes proposed token w₁.authProvider with
    | error e =>
      rw [hbytes] at h
      cases h
      exact .inl ⟨e, rfl, rfl, hsent⟩
    | ok bytes =>
      rw [hbytes] at h
      have hone : Records (fun _ => True) (bindResponse (T := T) (A := A) proposed) :=
        records_bindResponse proposed
      refine .inr ⟨bytes, ?_⟩
      dsimp only at h
      rw [exec_bind] at h
      have htrace : ((sendPdu bytes).exec w₁).2.trace =
        w₁.trace ++ [.sendPdu bytes w₁.authProvider (RpcTransport.sendPdu w₁.transport bytes).1] := rfl
      rcases hs : (sendPdu bytes).exec w₁ with ⟨e | u, w₂⟩
      · rw [hs] at h htrace
        cases h
        exact ⟨[], rfl, by rw [htrace, sent_append, hsent]; rfl⟩
      · rw [hs] at h htrace
        obtain ⟨events, hevents, -⟩ := hone w₂
        dsimp only at h
        rw [h] at hevents
        refine ⟨sent events, rfl, ?_⟩
        rw [hevents, htrace, sent_append, sent_append, hsent]
        rfl

/-! ## What a client is bound by -/

theorem bindAccepted_ok {callId : UInt32} {proposed : List PresentationContext}
    {response : PduPacket} {w w' : World T A} {c : RpcClient T A}
    (h : (bindAccepted callId proposed response).exec w = (.ok c, w')) :
    ∃ ack accepted, BindAckPdu.decode response.body = .ok ack ∧
      ack.acceptedContext proposed = .ok accepted ∧ c.toWorld = w' ∧
      c.contextId = accepted.contextId ∧ c.callId = callId + 1 ∧ c.maxXmitFrag = ack.maxXmitFrag := by
  obtain ⟨ack, hack, h⟩ := exec_lift_bind_eq_ok h
  obtain ⟨accepted, haccepted, h⟩ := exec_lift_bind_eq_ok h
  obtain ⟨_, w₁, -, h⟩ := exec_bind_eq_ok h
  obtain ⟨_, _, hget, h⟩ := exec_bind_eq_ok h
  cases hget
  cases h
  exact ⟨ack, accepted, hack, haccepted, rfl, rfl, rfl, rfl⟩

/-- The answer a bind was accepted by. -/
theorem bindResponse_ok {proposed : List PresentationContext} {w w' : World T A} {c : RpcClient T A}
    (h : (bindResponse proposed).exec w = (.ok c, w')) :
    ∃ bytes response w₁, recvPdu.exec w = (.ok bytes, w₁) ∧ PduPacket.decode bytes = .ok response ∧
      response.header.callId = 1 ∧ response.header.ptype = .bindAck ∧
      (bindAccepted 1 proposed response).exec w₁ = (.ok c, w') := by
  obtain ⟨bytes, w₁, hrecv, h⟩ := exec_bind_eq_ok h
  obtain ⟨response, hdecode, h⟩ := exec_lift_bind_eq_ok h
  obtain ⟨_, hid, h⟩ := exec_lift_bind_eq_ok h
  have hid := Classical.not_not.mp (failIf_eq_ok.mp hid)
  split at h
  · rename_i htype
    exact ⟨bytes, response, w₁, hrecv, hdecode, hid, htype, h⟩
  · obtain ⟨_, _, -, h⟩ := exec_bind_eq_ok h
    cases h
  · cases h

/-- An ack that accepts a context binds the client, once its challenge was
answered. -/
theorem bindResponse_of_answered {proposed : List PresentationContext} {w w₁ w' : World T A}
    {bytes : List UInt8} {response : PduPacket} {ack : BindAckPdu} {a : AcceptedContext}
    (hrecv : recvPdu.exec w = (.ok bytes, w₁)) (hdecode : PduPacket.decode bytes = .ok response)
    (hid : response.header.callId = 1) (htype : response.header.ptype = .bindAck)
    (hack : BindAckPdu.decode response.body = .ok ack) (ha : ack.acceptedContext proposed = .ok a)
    (hanswer : (answerChallenge 1 response).exec w₁ = (.ok (), w')) :
    (bindResponse proposed).exec w =
      (.ok { w' with contextId := a.contextId, callId := 2, maxXmitFrag := ack.maxXmitFrag }, w') := by
  rw [bindResponse, exec_bind_of_ok hrecv, exec_lift_bind_of_ok hdecode,
    exec_lift_bind_of_ok (failIf_of_not _ (Classical.not_not.mpr hid)), htype]
  dsimp only
  rw [bindAccepted, exec_lift_bind_of_ok hack, exec_lift_bind_of_ok ha, exec_bind_of_ok hanswer,
    exec_bind_of_ok (exec_get w')]
  rfl

/-- Without a provider there is nothing to answer. -/
theorem bindResponse_of_ack {proposed : List PresentationContext} {w w' : World T A}
    {bytes : List UInt8} {response : PduPacket} {ack : BindAckPdu} {a : AcceptedContext}
    (hrecv : recvPdu.exec w = (.ok bytes, w')) (hauth : w'.authProvider = none)
    (hdecode : PduPacket.decode bytes = .ok response) (hid : response.header.callId = 1)
    (htype : response.header.ptype = .bindAck) (hack : BindAckPdu.decode response.body = .ok ack)
    (ha : ack.acceptedContext proposed = .ok a) :
    (bindResponse proposed).exec w =
      (.ok { w' with contextId := a.contextId, callId := 2, maxXmitFrag := ack.maxXmitFrag }, w') := by
  refine bindResponse_of_answered hrecv hdecode hid htype hack ha ?_
  rw [answerChallenge, exec_bind_of_ok (exec_get w'), hauth]
  rfl

/-- A bound client: the ack that bound it, and what it took from it. -/
theorem bindWithContextsInner_ok {proposed : List PresentationContext} {target : String}
    {w w' : World T A} {c : RpcClient T A} (hw : w.trace = [])
    (h : (bindWithContextsInner proposed target).exec w = (.ok c, w')) :
    proposed ≠ [] ∧ c.toWorld = w' ∧ ∃ response ack accepted, AckedBy c.trace response ack ∧
      ack.acceptedContext proposed = .ok accepted ∧ c.contextId = accepted.contextId ∧
      c.callId = 2 ∧ c.maxXmitFrag = ack.maxXmitFrag := by
  rw [bindWithContextsInner_exec] at h
  split at h
  · cases h
  rename_i hp
  obtain ⟨initEvents, hinit, hnone⟩ :=
    records_initAuth (T := T) (A := A) target (P := (received [·] = [])) (fun _ _ => rfl) w
  rcases hi : (initAuth target).exec w with ⟨e | token, w₁⟩
  · rw [hi] at h
    cases h
  rw [hi] at h hinit
  dsimp only at h hinit
  split at h
  · cases h
  obtain ⟨_, w₂, hsend, h⟩ := exec_bind_eq_ok h
  obtain ⟨bytes, response, w₃, hrecv, hdecode, hid, htype, h⟩ := bindResponse_ok h
  obtain ⟨events, htrace, hnone'⟩ := records_bindAccepted (T := T) (P := (received [·] = [])) 1
    proposed response (fun _ _ => rfl) (fun _ _ _ => rfl) w₃
  rw [h] at htrace
  obtain ⟨ack, accepted, hack, haccepted, hworld, hctx, hcall, hmax⟩ := bindAccepted_ok h
  refine ⟨hp, hworld, response, ack, accepted, ⟨⟨bytes, ?_, hdecode⟩, hid, htype, hack⟩, haccepted,
    hctx, hcall, hmax⟩
  have hsent : w₂.trace = w₁.trace ++ [.sendPdu _ w₁.authProvider _] :=
    (congrArg (·.2.trace) hsend).symm
  have hresult : (mapErr (RpcTransport.recvPdu w₂.transport).1 id : Result _) = .ok bytes :=
    congrArg Prod.fst hrecv
  have hreceived : w₃.trace = w₂.trace ++ [.recvPdu (RpcTransport.recvPdu w₂.transport).1] :=
    (congrArg (·.2.trace) hrecv).symm
  rw [mapErr_eq_ok] at hresult
  dsimp only at htrace
  rw [hworld, htrace, hreceived, hsent, hinit, hw, hresult]
  simp only [received_append, received_eq_nil hnone, received_eq_nil hnone', List.append_nil,
    List.nil_append]
  rfl

theorem Bound.acked {proposed : List PresentationContext} {c : RpcClient T A} (h : Bound proposed c) :
    proposed ≠ [] ∧ ∃ response ack accepted, AckedBy c.trace response ack ∧
      ack.acceptedContext proposed = .ok accepted ∧ c.contextId = accepted.contextId ∧
      c.callId = 2 ∧ c.maxXmitFrag = ack.maxXmitFrag := by
  cases h with
  | bindWithContexts _ h | bindWithAuthProvider _ _ _ h | bind _ _ h =>
    obtain ⟨hp, -, hacked⟩ := bindWithContextsInner_ok rfl h
    exact ⟨hp, hacked⟩

end

/-! ## A bind returns -/

theorem alwaysReturns_initAuth [RpcAuthProvider A] (target : String) :
    AlwaysReturns (initAuth (T := T) (A := A) target) := by
  refine .bind .get fun w => ?_
  split
  · exact .pure _
  · exact .bind (fun w => .mapErr _ _) fun _ => .pure _

theorem returns_authPaddingLen (bodyLen : Nat) : Returns (authPaddingLen bodyLen) :=
  .bind (.subUsize (by omega)) fun _ _ => .ok _

section

variable [DataRepresentation] [RpcAuthProvider A]

theorem returns_authenticatedPacket (ptype : PduType) (callId : UInt32) (pfcFlags : UInt8)
    (body : List UInt8) (provider : A) (authValue : List UInt8) :
    Returns (authenticatedPacket ptype callId pfcFlags body provider authValue) :=
  .bind (.failIf _ _) fun _ _ => .bind (returns_authPaddingLen _) fun _ _ => .ok _

theorem alwaysReturns_answerChallenge [RpcTransport T] (callId : UInt32) (response : PduPacket) :
    AlwaysReturns (answerChallenge (T := T) (A := A) callId response) := by
  refine .bind .get fun w => ?_
  split
  · exact .pure _
  · split
    · exact .pure _
    · refine .bind (fun w => .mapErr _ _) fun token => ?_
      split
      · exact .pure _
      · refine .bind .get fun w => ?_
        split
        · exact .pure _
        · refine .bind (.lift (returns_authenticatedPacket _ _ _ _ _ _)) fun auth3 => ?_
          exact .bind (.lift (PduPacket.returns_encode _)) fun bytes w => .mapErr _ _

variable [UuidCrate]

theorem returns_bindBytes {proposed : List PresentationContext} (hp : ∀ c ∈ proposed, c.Counted)
    (token : Option (List UInt8)) (authProvider : Option A) :
    Returns (bindBytes proposed token authProvider) := by
  refine .bind ?_ fun bind _ => .bind ?_ fun packet _ => PduPacket.returns_encode _
  · rw [BindPdu.withContexts, PresentationContextList.encode_of_counted hp]
    exact .ok _
  · unfold bindPacket
    split
    · exact returns_authenticatedPacket _ _ _ _ _ _
    · exact .ok _

variable [RpcTransport T]

theorem alwaysReturns_bindResponse (proposed : List PresentationContext) :
    AlwaysReturns (bindResponse (T := T) (A := A) proposed) := by
  refine .bind (fun w => .mapErr _ _) fun bytes => ?_
  refine .bind (.lift (PduPacket.returns_decode _)) fun response => ?_
  refine .bind (.lift (.failIf _ _)) fun _ => ?_
  split
  · refine .bind (.lift (BindAckPdu.returns_decode _)) fun ack => ?_
    refine .bind (.lift (BindAckPdu.returns_acceptedContext _ _)) fun accepted => ?_
    exact .bind (alwaysReturns_answerChallenge _ _) fun _ => .bind .get fun _ => .pure _
  · exact .bind (.lift (BindNakPdu.returns_decode _)) fun _ => .throw _
  · exact .throw _

theorem alwaysReturns_bindWithContextsInner {proposed : List PresentationContext}
    (hp : ∀ c ∈ proposed, c.Counted) (target : String) :
    AlwaysReturns (bindWithContextsInner (T := T) (A := A) proposed target) := by
  intro w
  rw [bindWithContextsInner_exec]
  split
  · exact .err _
  have hinit := alwaysReturns_initAuth (T := T) (A := A) target w
  rcases hi : (initAuth target).exec w with ⟨e | token, w₁⟩
  · rw [hi] at hinit
    cases hinit
    exact .err _
  · have hbytes := returns_bindBytes hp token w₁.authProvider
    dsimp only
    cases hb : bindBytes proposed token w₁.authProvider with
    | error e =>
      rw [hb] at hbytes
      cases hbytes
      exact .err _
    | ok bytes =>
      have hsend : AlwaysReturns (sendPdu (T := T) (A := A) bytes) := fun w => .mapErr _ _
      exact hsend.bind (fun _ => alwaysReturns_bindResponse proposed) w₁

end

end Rpce
