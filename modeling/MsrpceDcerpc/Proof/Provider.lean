import MsrpceDcerpc.Lib.Simulation
import MsrpceDcerpc.Proof.Conversation
import MsrpceDcerpc.Spec.Provider

/-!
# Calls and the provider

A call looks at the level of the provider and at nothing else of it. Clients
that differ in their provider, or of which one has none, do the same in every
session (`Session.regardless_of_provider`): the same PDUs are sent, and the same
results returned, whether the provider has completed its context or not.
-/

namespace Rpce

open Rust Eff RpcClient

variable {T A B : Type}

section

variable [RpcAuthProvider A] [RpcAuthProvider B]

/-- The clients `c` and `d` did the same since they were `c₀` and `d₀`. -/
structure Alike (c₀ : RpcClient T A) (d₀ : RpcClient T B) (c : RpcClient T A) (d : RpcClient T B) :
    Prop extends SameButProvider c d where
  supported_left : LevelSupported c.authProvider
  supported_right : LevelSupported d.authProvider
  trace : ∃ events events', c.trace = c₀.trace ++ events ∧ d.trace = d₀.trace ++ events' ∧
    events.map Event.bare = events'.map Event.bare

variable {c₀ c : RpcClient T A} {d₀ d : RpcClient T B}

/-- Computations that keep the clients alike, with the same result. -/
abbrev SimAlike {α : Type} (c₀ : RpcClient T A) (d₀ : RpcClient T B)
    (x : Eff (Stop Error) (RpcClient T A) α) (y : Eff (Stop Error) (RpcClient T B) α) : Prop :=
  Sim (Alike c₀ d₀) (fun _ => False) Eq x y

namespace Alike

theorem refl (h : SameButProvider c d) (hc : LevelSupported c.authProvider)
    (hd : LevelSupported d.authProvider) : Alike c d c d :=
  ⟨h, hc, hd, [], [], (List.append_nil _).symm, (List.append_nil _).symm, rfl⟩

/-- The same event for both. -/
theorem extend (h : Alike c₀ d₀ c d) {c' : RpcClient T A} {d' : RpcClient T B} {e : Event A}
    {e' : Event B} (hsame : SameButProvider c' d') (hc : c'.authProvider = c.authProvider)
    (hd : d'.authProvider = d.authProvider) (htrace : c'.trace = c.trace ++ [e])
    (htrace' : d'.trace = d.trace ++ [e']) (he : e.bare = e'.bare) : Alike c₀ d₀ c' d' := by
  obtain ⟨events, events', hevents, hevents', hbare⟩ := h.trace
  refine ⟨hsame, hc ▸ h.supported_left, hd ▸ h.supported_right, events ++ [e], events' ++ [e'], ?_, ?_, ?_⟩
  · rw [htrace, hevents, List.append_assoc]
  · rw [htrace', hevents', List.append_assoc]
  · rw [List.map_append, List.map_append, hbare, List.map_singleton, List.map_singleton, he]

theorem sim_nextCallId : SimAlike c₀ d₀ nextCallId nextCallId := by
  intro c d h
  refine .inr ⟨.ok h.callId, ⟨⟨h.transport, h.contextId, ?_, h.maxXmitFrag⟩, h.supported_left,
    h.supported_right, h.trace⟩⟩
  exact congrArg succCallId h.callId

variable [RpcTransport T]

theorem sim_sendPdu (bytes : List UInt8) :
    SimAlike c₀ d₀ (onWorld (sendPdu bytes)) (onWorld (sendPdu bytes)) := by
  intro c d h
  have hsend : RpcTransport.sendPdu c.transport bytes = RpcTransport.sendPdu d.transport bytes := by
    rw [h.transport]
  refine .inr ⟨?_, h.extend ⟨congrArg Prod.snd hsend, h.contextId, h.callId, h.maxXmitFrag⟩ rfl rfl
    rfl rfl ?_⟩
  · show SameResult Eq (mapErr (RpcTransport.sendPdu c.transport bytes).1 id) _
    rw [hsend]
    exact .refl _
  · exact congrArg (Event.sendPdu bytes none) (congrArg Prod.fst hsend)

theorem sim_sendFrames (frames : List (List UInt8)) :
    SimAlike c₀ d₀ (sendFrames frames) (sendFrames frames) := by
  induction frames with
  | nil => exact .pure rfl
  | cons frame frames ih => exact .bind_eq (sim_sendPdu frame) fun _ => ih

theorem sim_recvPdu : SimAlike c₀ d₀ (onWorld recvPdu) (onWorld recvPdu) := by
  intro c d h
  have hrecv : RpcTransport.recvPdu c.transport = RpcTransport.recvPdu d.transport := by
    rw [h.transport]
  refine .inr ⟨?_, h.extend ⟨congrArg Prod.snd hrecv, h.contextId, h.callId, h.maxXmitFrag⟩ rfl rfl
    rfl rfl ?_⟩
  · show SameResult Eq (mapErr (RpcTransport.recvPdu c.transport).1 id) _
    rw [hrecv]
    exact .refl _
  · exact congrArg Event.recvPdu (congrArg Prod.fst hrecv)

variable [DataRepresentation]

theorem sim_recvLoop (callId : UInt32) (fuel : Nat) (responseStub : List UInt8) (sawFirst : Bool) :
    SimAlike c₀ d₀ (recvLoop callId fuel responseStub sawFirst)
      (recvLoop callId fuel responseStub sawFirst) := by
  induction fuel generalizing responseStub sawFirst with
  | zero => exact .throw _
  | succ fuel ih =>
    refine .bind_eq sim_recvPdu fun bytes => .bind_eq (.lift _) fun packet => ?_
    have hverify : SimAlike c₀ d₀ (verifyResponsePacket bytes packet)
        (verifyResponsePacket bytes packet) := by
      intro c d h
      rw [verifyResponsePacket_exec, verifyResponsePacket_exec,
        checkAuthLevel_eq_ok (u := ()).mpr h.supported_left,
        checkAuthLevel_eq_ok (u := ()).mpr h.supported_right]
      exact .inr ⟨.ok rfl, h⟩
    refine .bind_eq hverify fun _ => .bind_eq (.lift _) fun _ => ?_
    split
    · refine .bind_eq (.lift _) fun _ => .bind_eq (.lift _) fun response => ?_
      split
      · exact .pure rfl
      · exact ih _ _
    · exact .bind_eq (.lift _) fun fault => .throw _
    · exact .throw _

variable [UuidCrate]

theorem sim_sendRequestFragments (callId : UInt32) (opnum : UInt16) (requestStub : List UInt8) :
    SimAlike c₀ d₀ (sendRequestFragments callId opnum requestStub)
      (sendRequestFragments callId opnum requestStub) := by
  intro c d h
  by_cases hx : 24 < c.maxXmitFrag.toNat
  · rw [sendRequestFragments_exec _ _ _ h.supported_left hx,
      sendRequestFragments_exec _ _ _ h.supported_right (h.maxXmitFrag ▸ hx), h.contextId, h.maxXmitFrag]
    exact sim_sendFrames _ c d h
  · have hx := Nat.le_of_not_lt hx
    rw [sendRequestFragments_exec_of_le _ _ _ hx,
      sendRequestFragments_exec_of_le _ _ _ (h.maxXmitFrag ▸ hx)]
    exact .inr ⟨.error _, h⟩

theorem sim_callRaw (fuel : Nat) (opnum : UInt16) (requestStub : List UInt8) :
    SimAlike c₀ d₀ (callRaw fuel opnum requestStub) (callRaw fuel opnum requestStub) := by
  have hcall : SimAlike c₀ d₀
      (modify fun c => { c with toWorld := c.toWorld.log (.callRaw opnum requestStub) })
      (modify fun d => { d with toWorld := d.toWorld.log (.callRaw opnum requestStub) }) :=
    .modify fun c d h => h.extend ⟨h.transport, h.contextId, h.callId, h.maxXmitFrag⟩ rfl rfl rfl rfl rfl
  refine .bind_eq hcall fun _ => .bind_eq sim_nextCallId fun callId => ?_
  exact .bind_eq (sim_sendRequestFragments callId opnum requestStub) fun _ =>
    sim_recvLoop callId fuel [] false

end Alike

variable [RpcTransport T] [DataRepresentation] [UuidCrate]

theorem CallStep.exists_alike (h : SameButProvider c d) (hc : LevelSupported c.authProvider)
    (hd : LevelSupported d.authProvider) {call : Call A} {c' : RpcClient T A} (hstep : CallStep c call c') :
    ∃ call' d', CallStep d call' d' ∧ call'.bare = call.bare ∧ SameButProvider c' d' ∧
      LevelSupported c'.authProvider ∧ LevelSupported d'.authProvider := by
  obtain ⟨fuel, hexec⟩ := hstep.exec
  rcases Alike.sim_callRaw fuel call.opnum call.requestStub c d (.refl h hc hd) with
    ⟨_, _, _, hfalse⟩ | ⟨hresult, halike⟩
  · cases hfalse
  rw [hexec] at hresult halike
  rcases hd' : (callRaw fuel call.opnum call.requestStub).exec d with ⟨r, d'⟩
  rw [hd'] at hresult halike
  obtain rfl := hresult.eq
  obtain ⟨events, hstep'⟩ := CallStep.of_exec fuel call.opnum call.requestStub hd' hstep.returns
  obtain ⟨e, e', htrace, htrace', hbare⟩ := halike.trace
  rw [hstep.trace, List.append_cancel_left_eq] at htrace
  rw [hstep'.trace, List.append_cancel_left_eq] at htrace'
  subst htrace htrace'
  refine ⟨_, d', hstep', ?_, halike.toSameButProvider, halike.supported_left, halike.supported_right⟩
  rw [Call.bare, Call.bare, hstep.callId, h.callId, (List.cons.inj hbare).2]

/-- Whatever the providers are, and whatever was done with them, the calls of
the two clients do the same and have the same results. -/
theorem Session.regardless_of_provider (h : SameButProvider c d) (hc : LevelSupported c.authProvider)
    (hd : LevelSupported d.authProvider) {calls : List (Call A)} {c' : RpcClient T A}
    (hsession : Session c calls c') :
    ∃ calls' d', Session d calls' d' ∧ calls'.map Call.bare = calls.map Call.bare ∧
      SameButProvider c' d' := by
  induction hsession generalizing d with
  | nil => exact ⟨[], d, .nil d, rfl, h⟩
  | cons step _ ih =>
    obtain ⟨call, d₁, hstep, hcall, hsame, hc₁, hd₁⟩ := step.exists_alike h hc hd
    obtain ⟨calls, d', hrun, hcalls, hsame'⟩ := ih hsame hc₁ hd₁
    exact ⟨call :: calls, d', .cons hstep hrun, by rw [List.map_cons, List.map_cons, hcall, hcalls], hsame'⟩

end

section

open Standard

/-- A client with a provider does what one without a provider does. -/
theorem Session.regardless_of_provider_echo :
    ∃ (calls : List (Call FixedProvider)) (d' : RpcClient (Connection echoServer) FixedProvider),
      Session (newBoundWithAuth (Connection.start echoServer 0) 0
        { level := .connect, initToken := [3], stepToken := [4] }) calls d' ∧
      calls.map (·.result) = [.ok [1, 2], .error (.err (.fault 0x1C010003))] := by
  have hidle : Idle (newBound (A := FixedProvider) (Connection.start echoServer 0) 0) :=
    ⟨rfl, by decide, rfl⟩
  obtain ⟨calls, c', hrun, -, hresults, -⟩ :=
    exists_session windowsDefaultLittle hidle [(7, [1, 2]), (8, [3])]
  have hsame : SameButProvider (newBound (A := FixedProvider) (Connection.start echoServer 0) 0)
      (newBoundWithAuth (Connection.start echoServer 0) 0
        ({ level := .connect, initToken := [3], stepToken := [4] } : FixedProvider)) :=
    ⟨rfl, rfl, rfl, rfl⟩
  obtain ⟨calls', d', hrun', hbare, -⟩ := hrun.regardless_of_provider hsame (fun a ha => by cases ha)
    fun a ha => by
      cases ha
      exact .inr rfl
  refine ⟨calls', d', hrun', ?_⟩
  have hresult := congrArg (List.map (·.result)) hbare
  rw [List.map_map, List.map_map] at hresult
  exact hresult.trans hresults

end

end Rpce
