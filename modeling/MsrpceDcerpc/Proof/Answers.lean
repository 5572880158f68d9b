import MsrpceDcerpc.Proof.Conversation

/-!
# Calls that are answered

`recvLoop_answer` and `exists_callStep` for every transport and every provider:
a call over a transport that accepts the PDUs of its request, and then delivers
those of an answer, returns the result of the answer (`CallStep.of_answer`).
-/

namespace Rpce

open Rust Eff RpcClient

variable {T A : Type}

/-- A transport that takes every PDU. -/
theorem acceptsAll_foldl [RpcTransport T] {receive : T → List UInt8 → T}
    (h : ∀ t bytes, RpcTransport.sendPdu t bytes = (.ok (), receive t bytes)) (t : T)
    (frames : List (List UInt8)) : AcceptsAll t frames (frames.foldl receive t) := by
  induction frames generalizing t with
  | nil => exact .nil t
  | cons frame frames ih => exact .cons (h t frame) (ih _)

/-- The PDUs of a request are requests. -/
theorem decode_of_mem_requestFrames [DataRepresentation] [UuidCrate] (hd : WindowsDefaultLittle)
    {callId : UInt32} {contextId opnum : UInt16} {stub : List UInt8} {maxXmitFrag : UInt16}
    {frame : List UInt8} (hx : 24 < maxXmitFrag.toNat)
    (h : frame ∈ requestFrames callId contextId opnum stub maxXmitFrag) :
    ∃ packet, PduPacket.decode frame = .ok packet ∧ packet.header.ptype = .request := by
  obtain ⟨⟨flags, request⟩, hmem, rfl⟩ := List.mem_map.mp h
  obtain ⟨hobject, hlen⟩ := stubData_of_mem_requestFragments (Nat.sub_pos_of_lt hx) hmem
  have hmax := maxXmitFrag.toNat_lt
  exact ⟨_, decode_requestFrame hd hobject (by dsimp only at hlen ⊢; omega), rfl⟩

variable [DataRepresentation] [RpcAuthProvider A]

namespace RpcClient

/-- Of the provider the loop looks at the level only. -/
theorem responseFragment_of_supported {authProvider : Option A} (h : LevelSupported authProvider)
    (callId : UInt32) (sawFirst : Bool) (bytes : List UInt8) :
    responseFragment authProvider callId sawFirst bytes =
      responseFragment (none : Option A) callId sawFirst bytes := by
  have hnone : LevelSupported (none : Option A) := fun a ha => by cases ha
  simp only [responseFragment, checkAuthLevel_eq_ok (u := ()).mpr h,
    checkAuthLevel_eq_ok (u := ()).mpr hnone]

theorem Response.of_supported {authProvider : Option A} (h : LevelSupported authProvider)
    {callId : UInt32} {sawFirst : Bool} {frames : List (List UInt8)} {stub : List UInt8}
    (hr : Response (none : Option A) callId sawFirst frames stub) :
    Response authProvider callId sawFirst frames stub := by
  induction hr with
  | last hpart => exact .last ((responseFragment_of_supported h ..).trans hpart)
  | more hpart _ ih => exact .more ((responseFragment_of_supported h ..).trans hpart) ih

/-- A part of what is not finished is not finished. -/
theorem Unfinished.of_append {authProvider : Option A} {callId : UInt32} {sawFirst sawFirst' : Bool}
    {frames frames' : List (List UInt8)} {stub : List UInt8}
    (h : Unfinished authProvider callId sawFirst (frames ++ frames') stub sawFirst') :
    ∃ stub₁ sawFirst₁, Unfinished authProvider callId sawFirst frames stub₁ sawFirst₁ := by
  induction frames generalizing sawFirst stub with
  | nil => exact ⟨[], sawFirst, .nil _⟩
  | cons frame frames ih =>
    cases h with
    | more hpart hrest =>
      obtain ⟨stub₁, sawFirst₁, h₁⟩ := ih hrest
      exact ⟨_, sawFirst₁, .more hpart h₁⟩

end RpcClient

/-! ## The rounds of an answer -/

/-- What the loop makes of the PDU that ends the answer `result`, after it has
collected `stub`. -/
inductive EndsWith (authProvider : Option A) (callId : UInt32) (stub : List UInt8) (sawFirst : Bool)
    (bytes : List UInt8) : Result (List UInt8) → Prop where
  | last {part} : responseFragment authProvider callId sawFirst bytes = .ok (true, part) →
      EndsWith authProvider callId stub sawFirst bytes (.ok (stub ++ part))
  | refused {e} : responseFragment authProvider callId sawFirst bytes = .error (.err e) →
      EndsWith authProvider callId stub sawFirst bytes (.error (.err e))

omit [DataRepresentation] [RpcAuthProvider A] in
theorem Answer.result_ne_fuel (answer : Answer) : answer.result ≠ .error .fuel := by
  cases answer <;> exact fun h => by cases h

theorem EndsWith.lastRound [RpcTransport T] {authProvider : Option A} {callId : UInt32}
    {stub bytes : List UInt8} {sawFirst : Bool} {result : Result (List UInt8)}
    (h : EndsWith authProvider callId stub sawFirst bytes result) {c : RpcClient T A} {t : T}
    (hauth : c.authProvider = authProvider) (hrecv : RpcTransport.recvPdu c.transport = (.ok bytes, t)) :
    LastRound callId stub sawFirst c result (c.afterRecv bytes t) := by
  subst hauth
  cases h with
  | last hpart => exact .last hrecv hpart
  | refused hpart => exact .refused hrecv hpart

/-- The PDUs of an answer: all but one are fragments that are not the last, and
the last one ends it. -/
theorem Answer.rounds {drep : PackedDrep} (hdrep : DataRepresentation.fromBytes drep = .ok .little)
    {authProvider : Option A} (hlevel : LevelSupported authProvider) (callId : UInt32) (answer : Answer) :
    ∃ init bytes stub sawFirst, answer.pdus drep callId = init ++ [bytes] ∧
      Unfinished authProvider callId false init stub sawFirst ∧
      EndsWith authProvider callId stub sawFirst bytes answer.result := by
  cases answer with
  | response r =>
    have hr := (response_fragments (A := A) hdrep callId false (.inr r.first_flagged) r.last_flagged
      r.init_not_flagged).of_supported hlevel
    obtain ⟨init, bytes, stub, sawFirst, part, hpdus, hstub, hinit, hlast⟩ := response_iff.mp hr
    refine ⟨init, bytes, stub, sawFirst, hpdus, hinit, ?_⟩
    show EndsWith _ _ _ _ _ (.ok (r.fragments.flatMap (·.response.stubData)))
    rw [show r.fragments.flatMap (·.response.stubData) = stub ++ part from hstub]
    exact .last hlast
  | fault versionMinor pfcFlags f reserved hfits =>
    refine ⟨[], _, [], false, rfl, .nil _, .refused ?_⟩
    rw [responseFragment_of_supported hlevel]
    exact responseFragment_faultPdu hdrep versionMinor pfcFlags callId hfits reserved false

section

variable [RpcTransport T] {drep : PackedDrep} {c : RpcClient T A} {t : T}

variable [UuidCrate]

/-- The client that has sent a request. -/
def RpcClient.requested (c : RpcClient T A) (opnum : UInt16) (requestStub : List UInt8) (t : T) :
    RpcClient T A :=
  (started c opnum requestStub).afterSend
    (requestFrames c.callId c.contextId opnum requestStub c.maxXmitFrag) t

/-- A call whose request is accepted, and whose loop goes through fragments to a
last round. -/
theorem CallStep.of_lastRound {t₁ t' : T} {c' : RpcClient T A} {opnum : UInt16}
    {requestStub stub : List UInt8} {sawFirst : Bool} {frames : List (List UInt8)}
    {result : Result (List UInt8)} (hroom : 24 < c.maxXmitFrag.toNat)
    (hlevel : LevelSupported c.authProvider)
    (haccepts : AcceptsAll c.transport
      (requestFrames c.callId c.contextId opnum requestStub c.maxXmitFrag) t₁)
    (hunfinished : Unfinished c.authProvider c.callId false frames stub sawFirst)
    (hdelivers : Delivers t₁ frames t')
    (hround : LastRound c.callId stub sawFirst ((requested c opnum requestStub t₁).afterReceive frames t')
      result c') (hresult : result ≠ .error .fuel) :
    ∃ call, CallStep c call c' ∧ (call.opnum, call.requestStub) = (opnum, requestStub) ∧
      call.result = result := by
  have hsend := sendFrames_accepted (c := started c opnum requestStub) haccepts
  have hloop : (recvResponseFragments (0 + 1 + frames.length) c.callId).exec
      (requested c opnum requestStub t₁) = (result, c') := by
    rw [recvResponseFragments, recvLoop_unfinished (c := requested c opnum requestStub t₁) hunfinished
      hdelivers, List.nil_append, hround.exec]
  have hexec : (callRaw (0 + 1 + frames.length) opnum requestStub).exec c = (result, c') := by
    rw [callRaw_exec_of_canSend _ opnum requestStub ⟨hroom, hlevel⟩, exec_bind_of_ok hsend]
    exact hloop
  obtain ⟨events, hstep⟩ := CallStep.of_exec _ opnum requestStub hexec hresult
  exact ⟨_, hstep, rfl, rfl⟩

/-- A call whose request is accepted and answered returns the answer. -/
theorem CallStep.of_answer {t₁ t₂ : T} {opnum : UInt16} {requestStub : List UInt8}
    (hroom : 24 < c.maxXmitFrag.toNat) (hlevel : LevelSupported c.authProvider)
    (haccepts : AcceptsAll c.transport
      (requestFrames c.callId c.contextId opnum requestStub c.maxXmitFrag) t₁)
    (hdrep : DataRepresentation.fromBytes drep = .ok .little) {answer : Answer}
    (hd : Delivers t₁ (answer.pdus drep c.callId) t₂) :
    ∃ call c', CallStep c call c' ∧ (call.opnum, call.requestStub) = (opnum, requestStub) ∧
      call.result = answer.result ∧ c'.transport = t₂ := by
  obtain ⟨init, bytes, stub, sawFirst, hpdus, hinit, hends⟩ := answer.rounds hdrep hlevel c.callId
  obtain ⟨t', hd₁, hd₂⟩ := (hpdus ▸ hd).of_append
  cases hd₂ with
  | cons hrecv hnil =>
    cases hnil
    have hround := hends.lastRound (c := (requested c opnum requestStub t₁).afterReceive init t') rfl hrecv
    obtain ⟨call, hstep, hargs, hresult⟩ :=
      CallStep.of_lastRound hroom hlevel haccepts hinit hd₁ hround answer.result_ne_fuel
    exact ⟨call, _, hstep, hargs, hresult, rfl⟩

end

end Rpce
