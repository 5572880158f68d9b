import MsrpceDcerpc.Proof.HandshakeTrace
import MsrpceDcerpc.Proof.Invariant
import MsrpceDcerpc.Proof.Uses
import MsrpceDcerpc.Spec.Standard
import MsrpceDcerpc.Spec.Ntlm

/-!
# The NTLM provider follows what it is used for

A token takes one or two calls of `sspi` (`TokenCalls`), which are in order after
calls that are (`TokenCalls.inOrder`). So each use of a provider keeps `Follows`
(`Follows.initContext`, `Follows.step`), and that it `Made` its calls
(`MadeFor.run`), and they hold whatever a new provider is used for (`uses_follow`).
In a bind the two sides get from each other what `sspi` made
(`RpcClient.ntlm_attempted`).
-/

namespace Rpce

open Rust Eff

namespace SecurityStatus

theorem not_continues (status : SecurityStatus) :
    (!decide (status = .continueNeeded ∨ status = .completeAndContinue)) = !status.continues := by
  cases status <;> rfl

theorem asksCompletion_iff (status : SecurityStatus) :
    (status = .completeAndContinue ∨ status = .completeNeeded) ↔ status.asksCompletion = true := by
  cases status <;> simp [asksCompletion]

end SecurityStatus

/-! ## Calls -/

section

variable {C : Type}

namespace NtlmCall

variable {calls before after seg : List (NtlmCall C)} {call : NtlmCall C}

@[simp] theorem inputs_append (calls calls' : List (NtlmCall C)) :
    inputs (calls ++ calls') = inputs calls ++ inputs calls' := List.filterMap_append

@[simp] theorem tokens_append (calls calls' : List (NtlmCall C)) :
    tokens (calls ++ calls') = tokens calls ++ tokens calls' := List.filterMap_append

/-- What comes later makes no difference, unless it completes a token. -/
theorem InOrder.append (h : InOrder before call after)
    (hseg : ∀ status token, ¬ Completes status token seg.head?) : InOrder before call (after ++ seg) := by
  cases after with
  | cons next after =>
    cases call <;> exact h
  | nil =>
    cases call with
    | acquireCredentialsHandle target result =>
      intro credentials hresult
      obtain ⟨_, _, _, hnone⟩ := h credentials hresult
      cases hnone
    | initializeSecurityContext credentials target input result output credentials' =>
      obtain ⟨huse, hinput, hstatus⟩ := h
      refine ⟨huse, hinput, fun status hresult => iff_of_false ?_ (hseg status output)⟩
      intro hasks
      obtain ⟨_, _, hnone⟩ := (hstatus status hresult).mp hasks
      cases hnone
    | completeAuthToken => exact h

/-- After calls in order no first token is due. -/
theorem not_acquires_getLast? (h : Everywhere InOrder calls) (credentials : C) (target : String) :
    ¬ Acquires credentials target calls.getLast? := by
  intro hlast
  obtain ⟨before, hbefore⟩ := h.last hlast
  obtain ⟨_, _, _, hnone⟩ := hbefore credentials rfl
  cases hnone

theorem inUse_append (calls calls' : List (NtlmCall C)) :
    inUse (calls ++ calls') = calls'.foldl use (inUse calls) := List.foldl_append

end NtlmCall

open NtlmCall

/-- The calls for a token that is made from `input` with the credentials
`credentials`, the token if it was finished, and the credentials then. -/
inductive TokenCalls (credentials : C) (target : String) (input : Option (List UInt8)) :
    List (NtlmCall C) → Option (SecurityStatus × List UInt8) → C → Prop where
  | failed (e output credentials') : TokenCalls credentials target input
      [.initializeSecurityContext credentials target input (.error e) output credentials'] none credentials'
  | plain {status} (output credentials') : status.asksCompletion = false →
      TokenCalls credentials target input
        [.initializeSecurityContext credentials target input (.ok status) output credentials']
        (some (status, output)) credentials'
  | completed {status} (output credentials' status' token') : status.asksCompletion = true →
      TokenCalls credentials target input
        [.initializeSecurityContext credentials target input (.ok status) output credentials',
          .completeAuthToken status output (.ok status') token'] (some (status, token')) credentials'
  | notCompleted {status} (output credentials' err token') : status.asksCompletion = true →
      TokenCalls credentials target input
        [.initializeSecurityContext credentials target input (.ok status) output credentials',
          .completeAuthToken status output (.error err) token'] none credentials'

namespace TokenCalls

variable {credentials credentials' : C} {target : String} {input : Option (List UInt8)}
  {seg calls : List (NtlmCall C)} {token : Option (SecurityStatus × List UInt8)}

theorem inputs_eq (h : TokenCalls credentials target input seg token credentials') :
    inputs seg = [input] := by
  cases h <;> rfl

theorem tokens_eq (h : TokenCalls credentials target input seg token credentials') :
    tokens seg = token.toList := by
  cases h with
  | plain output credentials' hasks =>
    simp only [tokens, List.filterMap_cons, hasks, Bool.false_eq_true, if_false, List.filterMap_nil,
      Option.toList]
  | completed output credentials' status' token' hasks =>
    simp only [tokens, List.filterMap_cons, hasks, if_true, List.filterMap_nil, Option.toList]
  | notCompleted output credentials' err token' hasks =>
    simp only [tokens, List.filterMap_cons, hasks, if_true, List.filterMap_nil, Option.toList]
  | failed => rfl

theorem inUse_append (h : TokenCalls credentials target input seg token credentials')
    (calls : List (NtlmCall C)) : inUse (calls ++ seg) = some (credentials', target) := by
  rw [NtlmCall.inUse_append]
  cases h <;> rfl

theorem head? (h : TokenCalls credentials target input seg token credentials') :
    ∃ result output credentials', seg.head? =
      some (.initializeSecurityContext credentials target input result output credentials') := by
  cases h <;> exact ⟨_, _, _, rfl⟩

theorem not_completes (h : TokenCalls credentials target input seg token credentials')
    (status : SecurityStatus) (output : List UInt8) : ¬ Completes status output seg.head? := by
  obtain ⟨_, _, _, hhead⟩ := h.head?
  rintro ⟨_, _, hcompletes⟩
  cases hhead.symm.trans hcompletes

/-- The calls of a token are in order where it may be made. -/
theorem inOrder (h : TokenCalls credentials target input seg token credentials')
    (huse : inUse calls = some (credentials, target))
    (hinput : input = none ↔ Acquires credentials target calls.getLast?) :
    Everywhere (fun before => InOrder (calls ++ before)) seg := by
  rw [← List.append_nil calls] at huse hinput
  have hmakes (status : SecurityStatus) (output : List UInt8) (credentials' : C) :
      Makes status output (calls ++ [(.initializeSecurityContext credentials target input (.ok status) output
        credentials' : NtlmCall C)]).getLast? :=
    ⟨credentials, target, input, credentials', List.getLast?_concat⟩
  cases h with
  | failed => exact Everywhere.singleton_iff.mpr ⟨huse, hinput, fun _ hresult => by cases hresult⟩
  | plain output credentials' hasks =>
    refine Everywhere.singleton_iff.mpr ⟨huse, hinput, fun _ hresult => ?_⟩
    cases hresult
    rw [hasks]
    exact iff_of_false Bool.false_ne_true fun ⟨_, _, hnone⟩ => by cases hnone
  | completed output credentials' status' token' hasks
  | notCompleted output credentials' err token' hasks =>
    refine Everywhere.cons_iff.mpr ⟨⟨huse, hinput, fun _ hresult => ?_⟩, Everywhere.singleton_iff.mpr ?_⟩
    · cases hresult
      exact iff_of_true hasks ⟨_, _, rfl⟩
    · exact ⟨hasks, hmakes _ _ _⟩

end TokenCalls

end

/-! ## Uses -/

section

variable {N U C : Type} [Ntlm N U C]

namespace NtlmRpcAuthProvider

variable {p p' : NtlmRpcAuthProvider N U C} {uses : List ProviderUse} {target : String}
  {input : Option (List UInt8)} {r : Except RpcAuthError (List UInt8)}

/-- The provider has made a token, or tried to. -/
structure Tokened (p : NtlmRpcAuthProvider N U C) (target : String) (seg : List (NtlmCall C))
    (token : Option (SecurityStatus × List UInt8)) (credentials' : C)
    (r : Except RpcAuthError (List UInt8)) (p' : NtlmRpcAuthProvider N U C) : Prop where
  result : r.toOption = token.map Prod.snd
  calls : p'.calls = p.calls ++ seg
  credentialsHandle : p'.credentialsHandle = some credentials'
  target : p'.target = some target
  established : p'.established = token.elim p.established fun t => !t.1.continues

/-! ### The provider after a call -/

def afterAcquire (p : NtlmRpcAuthProvider N U C) (target : String) (result : Except String C) (ntlm : N) :
    NtlmRpcAuthProvider N U C :=
  { p with ntlm, calls := p.calls ++ [.acquireCredentialsHandle target result] }

def afterInitialize (p : NtlmRpcAuthProvider N U C) (credentials : C) (target : String)
    (input : Option (List UInt8)) (i : Initialized N C) : NtlmRpcAuthProvider N U C :=
  { p with
    ntlm := i.ntlm
    credentialsHandle := some i.credentials
    calls := p.calls ++
      [.initializeSecurityContext credentials target input i.result i.output i.credentials] }

def afterComplete (p : NtlmRpcAuthProvider N U C) (status : SecurityStatus) (token : List UInt8)
    (result : Except String SecurityStatus) (token' : List UInt8) (ntlm : N) : NtlmRpcAuthProvider N U C :=
  { p with ntlm, calls := p.calls ++ [.completeAuthToken status token result token'] }

theorem exec_acquireCredentialsHandle (p : NtlmRpcAuthProvider N U C) (target : String) :
    ∃ result ntlm, (∃ e, result = .error e ∧ ∃ err, (acquireCredentialsHandle target).exec p =
        (.error err, p.afterAcquire target result ntlm)) ∨
      ∃ credentials, result = .ok credentials ∧ (acquireCredentialsHandle target).exec p =
        (.ok credentials, p.afterAcquire target result ntlm) := by
  rcases hacquire : Ntlm.acquireCredentialsHandle p.ntlm .outbound p.identity with ⟨result, ntlm⟩
  refine ⟨result, ntlm, ?_⟩
  rw [acquireCredentialsHandle, exec_ofFun, hacquire]
  cases result with
  | error e => exact .inl ⟨e, rfl, _, rfl⟩
  | ok credentials => exact .inr ⟨credentials, rfl, rfl⟩

theorem exec_initializeSecurityContext (p : NtlmRpcAuthProvider N U C) (credentials : C) (target : String)
    (input : Option (List UInt8)) : ∃ i : Initialized N C,
      (∃ e, i.result = .error e ∧ ∃ err, (initializeSecurityContext credentials target input).exec p =
        (.error err, p.afterInitialize credentials target input i)) ∨
      ∃ status, i.result = .ok status ∧ (initializeSecurityContext credentials target input).exec p =
        (.ok (status, i.output), p.afterInitialize credentials target input i) := by
  generalize hi : Ntlm.initializeSecurityContext p.ntlm credentials (ntlmRpcContextFlags N) .native target
    input = i
  refine ⟨i, ?_⟩
  rw [initializeSecurityContext, exec_ofFun, hi]
  rcases i with ⟨(_ | _) | status, output, credentials', ntlm⟩
  · exact .inl ⟨_, rfl, _, rfl⟩
  · exact .inl ⟨_, rfl, _, rfl⟩
  · exact .inr ⟨status, rfl, rfl⟩

theorem exec_completeAuthToken (p : NtlmRpcAuthProvider N U C) (status : SecurityStatus)
    (token : List UInt8) : ∃ result token' ntlm,
      (∃ e, result = .error e ∧ ∃ err, (completeAuthToken status token).exec p =
        (.error err, p.afterComplete status token result token' ntlm)) ∨
      ∃ status', result = .ok status' ∧ (completeAuthToken status token).exec p =
        (.ok token', p.afterComplete status token result token' ntlm) := by
  rcases hcomplete : Ntlm.completeAuthToken p.ntlm token with ⟨result, token', ntlm⟩
  refine ⟨result, token', ntlm, ?_⟩
  rw [completeAuthToken, exec_ofFun, hcomplete]
  cases result with
  | error e => exact .inl ⟨e, rfl, _, rfl⟩
  | ok status' => exact .inr ⟨status', rfl, rfl⟩

theorem nextToken_exec {credentials : C} (hc : p.credentialsHandle = some credentials)
    (ht : p.target = some target) (h : (nextToken input).exec p = (r, p')) :
    ∃ seg token credentials', TokenCalls credentials target input seg token credentials' ∧
      Tokened p target seg token credentials' r p' := by
  rw [nextToken, exec_bind_of_ok (exec_get p), hc, ht] at h
  dsimp only at h
  obtain ⟨⟨result, output, credentials', ntlm⟩, ⟨e, hresult, err, hexec⟩ | ⟨status, hresult, hexec⟩⟩ :=
    exec_initializeSecurityContext p credentials target input
  · obtain rfl : result = .error e := hresult
    rw [exec_bind_of_error hexec] at h
    obtain ⟨rfl, rfl⟩ := Prod.mk.inj h
    exact ⟨_, _, _, .failed e output credentials', rfl, rfl, rfl, ht, rfl⟩
  obtain rfl : result = .ok status := hresult
  rw [exec_bind_of_ok hexec] at h
  dsimp only at h
  by_cases hasks : status.asksCompletion = true
  · rw [if_pos (status.asksCompletion_iff.mpr hasks)] at h
    obtain ⟨_, token', ntlm', ⟨e, rfl, err, hexec⟩ | ⟨status', rfl, hexec⟩⟩ :=
      exec_completeAuthToken (p.afterInitialize credentials target input _) status output
    · rw [exec_bind_of_error hexec] at h
      obtain ⟨rfl, rfl⟩ := Prod.mk.inj h
      exact ⟨_, _, _, .notCompleted output credentials' e token' hasks, rfl, List.append_assoc .., rfl, ht,
        rfl⟩
    · rw [exec_bind_of_ok hexec] at h
      obtain ⟨rfl, rfl⟩ := Prod.mk.inj h
      exact ⟨_, _, _, .completed output credentials' status' token' hasks, rfl, List.append_assoc .., rfl,
        ht, status.not_continues⟩
  · rw [if_neg (mt status.asksCompletion_iff.mp hasks)] at h
    obtain ⟨rfl, rfl⟩ := Prod.mk.inj h
    exact ⟨_, _, _, .plain output credentials' (Bool.eq_false_iff.mpr hasks), rfl, rfl, rfl, ht,
      status.not_continues⟩

/-- The provider that has credentials for `target`. -/
def withCredentials (p : NtlmRpcAuthProvider N U C) (credentials : C) (target : String) (ntlm : N) :
    NtlmRpcAuthProvider N U C :=
  { p.afterAcquire target (.ok credentials) ntlm with
    credentialsHandle := some credentials
    target := some target }

theorem initContext_exec (h : (NtlmRpcAuthProvider.initContext target).exec p = (r, p')) :
    (∃ e err ntlm, r = .error err ∧ p' = p.afterAcquire target (.error e) ntlm) ∨
      ∃ credentials ntlm seg token credentials', TokenCalls credentials target none seg token credentials' ∧
        (p.withCredentials credentials target ntlm).Tokened target seg token credentials' r p' := by
  rw [NtlmRpcAuthProvider.initContext] at h
  obtain ⟨_, ntlm, ⟨e, rfl, err, hexec⟩ | ⟨credentials, rfl, hexec⟩⟩ :=
    exec_acquireCredentialsHandle p target
  · rw [exec_bind_of_error hexec] at h
    obtain ⟨rfl, rfl⟩ := Prod.mk.inj h
    exact .inl ⟨e, err, ntlm, rfl, rfl⟩
  · rw [exec_bind_of_ok hexec] at h
    obtain ⟨seg, token, credentials', hseg, hp'⟩ :=
      nextToken_exec (p := p.withCredentials credentials target ntlm) rfl rfl h
    exact .inr ⟨credentials, ntlm, seg, token, credentials', hseg, hp'⟩

omit [Ntlm N U C] in
theorem Tokened.follows {p₁ : NtlmRpcAuthProvider N U C} {pre seg : List (NtlmCall C)}
    {token : Option (SecurityStatus × List UInt8)} {credentials credentials' : C} {use : ProviderUse}
    (hp' : p₁.Tokened target seg token credentials' r p')
    (hseg : TokenCalls credentials target input seg token credentials') (h : p.Follows uses)
    (hestablished : p₁.established = p.established) (hcalls : p₁.calls = p.calls ++ pre)
    (htokens : NtlmCall.tokens pre = [])
    (horder : Everywhere NtlmCall.InOrder (p.calls ++ (pre ++ seg)))
    (hreturned : ProviderUse.returned [use] = r.toOption.toList)
    (hchallenged : (NtlmCall.inputs (p.calls ++ (pre ++ seg))).filterMap id =
      (NtlmCall.inputs p.calls).filterMap id ++ ProviderUse.challenges [use]) :
    p'.Follows (uses ++ [use]) := by
  have hcalls' : p'.calls = p.calls ++ (pre ++ seg) := by
    rw [hp'.calls, hcalls, List.append_assoc]
  have htokens' : NtlmCall.tokens p'.calls = NtlmCall.tokens p.calls ++ token.toList := by
    rw [hcalls', NtlmCall.tokens_append, NtlmCall.tokens_append, htokens, hseg.tokens_eq, List.nil_append]
  have huse : NtlmCall.inUse p'.calls = some (credentials', target) := by
    rw [hcalls', ← List.append_assoc, hseg.inUse_append]
  obtain ⟨before, after, rfl, hrefused, hafter, -⟩ := h.challenged
  refine ⟨hcalls' ▸ horder, ?_, ?_, ?_, ⟨before, after ++ [use], List.append_assoc .., hrefused, ?_, ?_⟩, ?_⟩
  · rw [huse, hp'.credentialsHandle]
    rfl
  · rw [huse, hp'.target]
    rfl
  · rw [ProviderUse.returned_append, h.returned, hreturned, hp'.result, htokens', List.map_append]
    cases token <;> rfl
  · rw [hcalls', hchallenged, hafter, ProviderUse.challenges_append]
  · intro hnone
    cases hp'.credentialsHandle.symm.trans hnone
  · rw [hp'.established, htokens', hestablished]
    cases token with
    | none =>
      rw [Option.toList, List.append_nil]
      exact h.established
    | some token => simp

/-- A provider without credentials refuses the challenge. -/
theorem nextToken_exec_none (hc : p.credentialsHandle = none) (input : Option (List UInt8)) :
    (nextToken input).exec p = (.error (.provider "NTLM credentials are not initialized"), p) := by
  rw [nextToken, exec_bind_of_ok (exec_get p), hc]
  rfl

omit [Ntlm N U C] in
theorem Follows.inUse_eq (h : p.Follows uses) {credentials : C}
    (hc : p.credentialsHandle = some credentials) :
    ∃ target, NtlmCall.inUse p.calls = some (credentials, target) ∧ p.target = some target := by
  have hcredentials := h.credentialsHandle
  have htarget := h.target
  rw [hc] at hcredentials
  cases huse : NtlmCall.inUse p.calls with
  | none =>
    rw [huse] at hcredentials
    cases hcredentials
  | some use =>
    rw [huse] at hcredentials htarget
    cases hcredentials
    exact ⟨use.2, rfl, htarget⟩

omit [Ntlm N U C] in
/-- A provider without credentials has refused all uses. -/
theorem Follows.refuse (h : p.Follows uses) (hc : p.credentialsHandle = none) {use : ProviderUse}
    (huse : Refused use) : ∃ before after, uses ++ [use] = before ++ after ∧
      (∀ use ∈ before, Refused use) ∧
      (NtlmCall.inputs p.calls).filterMap id = ProviderUse.challenges after ∧
      (p.credentialsHandle = none → after = []) := by
  obtain ⟨before, after, rfl, hrefused, hafter, hnone⟩ := h.challenged
  obtain rfl := hnone hc
  refine ⟨before ++ [] ++ [use], [], (List.append_nil _).symm, ?_, hafter, fun _ => rfl⟩
  intro use' hmem
  rw [List.append_nil, List.mem_append, List.mem_singleton] at hmem
  rcases hmem with hmem | rfl
  · exact hrefused use' hmem
  · exact huse

theorem Follows.step (h : p.Follows uses) {challenge : List UInt8}
    (hstep : (NtlmRpcAuthProvider.step challenge).exec p = (r, p')) :
    p'.Follows (uses ++ [.step challenge r]) := by
  rw [NtlmRpcAuthProvider.step] at hstep
  cases hc : p.credentialsHandle with
  | none =>
    rw [nextToken_exec_none hc] at hstep
    obtain ⟨rfl, rfl⟩ := Prod.mk.inj hstep
    refine ⟨h.inOrder, h.credentialsHandle, h.target, ?_, h.refuse hc rfl, h.established⟩
    rw [ProviderUse.returned_append, h.returned]
    exact List.append_nil _
  | some credentials =>
    obtain ⟨target, huse, htarget⟩ := h.inUse_eq hc
    obtain ⟨seg, token, credentials', hseg, hp'⟩ := nextToken_exec hc htarget hstep
    refine hp'.follows hseg h rfl (List.append_nil _).symm rfl ?_ ?_ ?_
    · rw [List.nil_append, Everywhere.append_iff]
      refine ⟨h.inOrder.mono fun _ _ _ horder => horder.append hseg.not_completes, ?_⟩
      exact hseg.inOrder huse (iff_of_false (Option.some_ne_none challenge)
        (NtlmCall.not_acquires_getLast? h.inOrder credentials target))
    · cases r <;> rfl
    · rw [List.nil_append, NtlmCall.inputs_append, hseg.inputs_eq, List.filterMap_append]
      rfl

theorem Follows.initContext (h : p.Follows uses) {target : String}
    (hinit : (NtlmRpcAuthProvider.initContext target).exec p = (r, p')) :
    p'.Follows (uses ++ [.initContext target r]) := by
  rcases initContext_exec hinit with ⟨e, err, ntlm, rfl, rfl⟩ |
    ⟨credentials, ntlm, seg, token, credentials', hseg, hp'⟩
  · rw [afterAcquire]
    have huse : NtlmCall.inUse (p.calls ++ [.acquireCredentialsHandle target (.error e)]) =
        NtlmCall.inUse p.calls := NtlmCall.inUse_append ..
    have htokens : NtlmCall.tokens (p.calls ++ [.acquireCredentialsHandle target (.error e)]) =
        NtlmCall.tokens p.calls := (NtlmCall.tokens_append ..).trans (List.append_nil _)
    have hinputs : NtlmCall.inputs (p.calls ++ [.acquireCredentialsHandle target (.error e)]) =
        NtlmCall.inputs p.calls := (NtlmCall.inputs_append ..).trans (List.append_nil _)
    refine ⟨?_, huse ▸ h.credentialsHandle, huse ▸ h.target, ?_, ?_, htokens ▸ h.established⟩
    · refine Everywhere.append_iff.mpr ⟨h.inOrder.mono fun _ _ _ horder => horder.append ?_, ?_⟩
      · rintro _ _ ⟨_, _, hcall⟩
        cases hcall
      · exact Everywhere.singleton_iff.mpr fun _ hresult => by cases hresult
    · rw [ProviderUse.returned_append, h.returned, htokens]
      exact List.append_nil _
    · rw [hinputs]
      cases hc : p.credentialsHandle with
      | none => exact hc ▸ h.refuse hc (show Refused (.initContext target _) from ⟨err, rfl⟩)
      | some credentials =>
        obtain ⟨before, after, rfl, hrefused, hafter, -⟩ := h.challenged
        refine ⟨before, after ++ [_], List.append_assoc .., hrefused, ?_, fun hnone => by cases hnone⟩
        rw [hafter, ProviderUse.challenges_append]
        exact (List.append_nil _).symm
  · have huse : NtlmCall.inUse (p.calls ++ [.acquireCredentialsHandle target (.ok credentials)]) =
        some (credentials, target) := NtlmCall.inUse_append ..
    refine hp'.follows hseg h rfl rfl rfl ?_ ?_ ?_
    · refine Everywhere.append_iff.mpr ⟨h.inOrder.mono fun _ _ _ horder => horder.append ?_, ?_⟩
      · rintro _ _ ⟨_, _, hcall⟩
        cases hcall
      refine Everywhere.cons_iff.mpr ⟨?_, ?_⟩
      · intro _ hresult
        cases hresult
        exact hseg.head?
      · refine (hseg.inOrder huse (iff_of_true rfl List.getLast?_concat)).mono ?_
        intro before call after horder
        rwa [List.append_assoc] at horder
    · cases r <;> rfl
    · rw [NtlmCall.inputs_append, NtlmCall.inputs_append, hseg.inputs_eq, List.filterMap_append]
      rfl

/-! ### Whatever it is used for -/

theorem Constructed.calls_eq (h : p.Constructed) : p.calls = [] ∧ p.credentialsHandle = none ∧
    p.target = none ∧ p.established = false := by
  induction h with
  | new h =>
    rw [NtlmRpcAuthProvider.new] at h
    split at h
    · cases h
    · cases h
      exact ⟨rfl, rfl, rfl, rfl⟩
  | withAuthLevel _ _ ih => exact ih
  | withAuthContextId _ _ ih => exact ih

theorem Constructed.follows (h : p.Constructed) : p.Follows [] := by
  obtain ⟨hcalls, hc, ht, hestablished⟩ := h.calls_eq
  refine ⟨hcalls ▸ Everywhere.nil, ?_, ?_, ?_, ?_, ?_⟩
  · rw [hcalls, hc]
    rfl
  · rw [hcalls, ht]
    rfl
  · rw [hcalls]
    rfl
  · rw [hcalls]
    exact ⟨[], [], rfl, fun _ hmem => (by cases hmem), rfl, fun _ => rfl⟩
  · rw [hcalls, hestablished]
    exact iff_of_false Bool.false_ne_true fun ⟨_, hnone, _⟩ => by cases hnone

theorem Follows.run {uses' : List ProviderUse} (h : p.Follows uses)
    (hrun : Run ProviderUse.Step p uses' p') : p'.Follows (uses ++ uses') := by
  induction hrun generalizing uses with
  | nil => rwa [List.append_nil]
  | @cons p p₁ p' use uses' hstep _ ih =>
    have h₁ : p₁.Follows (uses ++ [use]) := by
      cases hstep with
      | initContext hinit => exact h.initContext hinit
      | step hstep => exact h.step hstep
    rw [List.append_cons]
    exact ih h₁

/-- The provider has the identity `identity`, for which it made its calls. -/
def MadeFor (identity : AuthIdentity U) (p : NtlmRpcAuthProvider N U C) : Prop :=
  p.identity = identity ∧ p.Made

theorem Constructed.made (h : p.Constructed) : p.Made := by
  induction h with
  | new h =>
    rw [NtlmRpcAuthProvider.new] at h
    split at h
    · cases h
    · cases h
      exact .nil _
  | withAuthLevel _ _ ih => exact ih
  | withAuthContextId _ _ ih => exact ih

namespace MadeFor

variable {identity : AuthIdentity U}

/-- A call of the crate is recorded as it was. -/
theorem concat {call : NtlmCall C} (h : MadeFor identity p) (hidentity : p'.identity = p.identity)
    (hcalls : p'.calls = p.calls ++ [call]) (hstep : NtlmCall.Step p.identity p.ntlm call p'.ntlm) :
    MadeFor identity p' := by
  refine ⟨hidentity.trans h.1, ?_⟩
  rw [Made, hidentity, hcalls]
  exact h.2.concat hstep

theorem acquireCredentialsHandle (target : String) :
    Keeps (MadeFor identity) (acquireCredentialsHandle target : Eff RpcAuthError (NtlmRpcAuthProvider N U C) C) := by
  intro p hp
  rcases hcall : Ntlm.acquireCredentialsHandle p.ntlm .outbound p.identity with ⟨result, ntlm⟩
  rw [NtlmRpcAuthProvider.acquireCredentialsHandle, exec_ofFun, hcall]
  cases result with
  | error err => exact hp.concat rfl rfl (.acquireCredentialsHandle target hcall)
  | ok credentials => exact hp.concat rfl rfl (.acquireCredentialsHandle target hcall)

theorem initializeSecurityContext (credentials : C) (target : String) (input : Option (List UInt8)) :
    Keeps (MadeFor identity) (initializeSecurityContext (N := N) credentials target input) := by
  intro p hp
  rcases hcall : Ntlm.initializeSecurityContext p.ntlm credentials (ntlmRpcContextFlags N) .native target
    input with ⟨result, output, credentials', ntlm⟩
  rw [NtlmRpcAuthProvider.initializeSecurityContext, exec_ofFun, hcall]
  rcases result with (err | err) | status
  · exact hp.concat rfl rfl (.initializeSecurityContext hcall)
  · exact hp.concat rfl rfl (.initializeSecurityContext hcall)
  · exact hp.concat rfl rfl (.initializeSecurityContext hcall)

theorem completeAuthToken (status : SecurityStatus) (token : List UInt8) :
    Keeps (MadeFor identity) (completeAuthToken (N := N) (C := C) status token) := by
  intro p hp
  rcases hcall : Ntlm.completeAuthToken p.ntlm token with ⟨result, token', ntlm⟩
  rw [NtlmRpcAuthProvider.completeAuthToken, exec_ofFun, hcall]
  cases result with
  | error err => exact hp.concat rfl rfl (.completeAuthToken status hcall)
  | ok status' => exact hp.concat rfl rfl (.completeAuthToken status hcall)

theorem nextToken (input : Option (List UInt8)) :
    Keeps (MadeFor identity) (nextToken (N := N) (C := C) input) := by
  refine .get_bind fun p hp => ?_
  split
  · exact hp
  · exact hp
  rename_i credentials target _ _
  refine (Keeps.bind (initializeSecurityContext credentials target input) fun made => ?_) p hp
  obtain ⟨status, output⟩ := made
  dsimp only
  split
  · exact .bind (completeAuthToken status output) fun _ => .bind (.modify fun _ hp => hp) fun _ => .pure _
  · exact .bind (.pure output) fun _ => .bind (.modify fun _ hp => hp) fun _ => .pure _

theorem initContext (target : String) :
    Keeps (MadeFor identity) (NtlmRpcAuthProvider.initContext (N := N) (C := C) target) :=
  .bind (acquireCredentialsHandle target) fun _ => .bind (.modify fun _ hp => hp) fun _ => nextToken none

theorem run (h : MadeFor identity p) (hrun : Run ProviderUse.Step p uses p') : MadeFor identity p' := by
  refine hrun.invariant (MadeFor identity) (fun p use p' hp hstep => ?_) h
  cases hstep with
  | @initContext _ target _ hinit =>
    have hmade := initContext target p hp
    rwa [show (NtlmRpcAuthProvider.initContext target).exec p = _ from hinit] at hmade
  | @step _ challenge _ hstep =>
    have hmade := nextToken (some challenge) p hp
    rwa [show (NtlmRpcAuthProvider.nextToken (some challenge)).exec p = _ from hstep] at hmade

end MadeFor

/-- Whatever a new provider is used for, the calls it makes to `sspi` are in order,
and it returns the tokens they finish. -/
theorem uses_follow (h : p.Constructed) (hrun : Run ProviderUse.Step p uses p') :
    p'.Follows uses ∧ p'.identity = p.identity ∧ p'.Made :=
  ⟨h.follows.run hrun, MadeFor.run ⟨rfl, h.made⟩ hrun⟩

/-! ### Inputs -/

/-- Credentials that were got stay. -/
theorem step_inputs {credentials : C} (h : p.Follows uses) (hc : p.credentialsHandle = some credentials)
    {challenge : List UInt8} (hstep : (NtlmRpcAuthProvider.step challenge).exec p = (r, p')) :
    NtlmCall.inputs p'.calls = NtlmCall.inputs p.calls ++ [some challenge] := by
  obtain ⟨target, -, htarget⟩ := h.inUse_eq hc
  obtain ⟨seg, token, credentials', hseg, hp'⟩ := nextToken_exec hc htarget hstep
  rw [hp'.calls, NtlmCall.inputs_append, hseg.inputs_eq]

/-- A first token needs credentials. -/
theorem initContext_inputs (hinit : (NtlmRpcAuthProvider.initContext target).exec p = (r, p')) :
    NtlmCall.inputs p'.calls = NtlmCall.inputs p.calls ++ [none] ∧ (∃ c, p'.credentialsHandle = some c) ∨
      NtlmCall.inputs p'.calls = NtlmCall.inputs p.calls ∧ ∃ e, r = .error e := by
  rcases initContext_exec hinit with ⟨e, err, ntlm, rfl, rfl⟩ |
    ⟨credentials, ntlm, seg, token, credentials', hseg, hp'⟩
  · exact .inr ⟨(NtlmCall.inputs_append ..).trans (List.append_nil _), err, rfl⟩
  · refine .inl ⟨?_, credentials', hp'.credentialsHandle⟩
    rw [hp'.calls, NtlmCall.inputs_append, hseg.inputs_eq]
    show NtlmCall.inputs (p.calls ++ _) ++ _ = _
    rw [NtlmCall.inputs_append]
    exact congrArg (· ++ [none]) (List.append_nil _)

/-- The inputs of the tokens of a bind. -/
theorem Constructed.inputs_eq (h : p.Constructed)
    (hrun : Run ProviderUse.Step p [.initContext target r] p') :
    NtlmCall.inputs p'.calls = [none] ∨ NtlmCall.inputs p'.calls = [] ∧ ∃ e, r = .error e := by
  cases hrun with
  | cons hinit hnil =>
    cases hnil
    cases hinit with
    | initContext hinit =>
      have hinputs := initContext_inputs hinit
      rw [h.calls_eq.1] at hinputs
      exact hinputs.imp_left And.left

theorem Constructed.inputs_eq_unchallenged (h : p.Constructed) {token : List UInt8}
    (hrun : Run ProviderUse.Step p [.initContext target (.ok token)] p') :
    NtlmCall.inputs p'.calls = [none] :=
  (h.inputs_eq hrun).resolve_right fun ⟨_, _, he⟩ => by cases he

theorem Constructed.inputs_eq_challenged (h : p.Constructed) {token challenge : List UInt8}
    (hrun : Run ProviderUse.Step p [.initContext target (.ok token), .step challenge r] p') :
    NtlmCall.inputs p'.calls = [none, some challenge] := by
  cases hrun with
  | cons hinit hrest =>
    cases hrest with
    | cons hstep hnil =>
      cases hnil
      cases hinit with
      | initContext hinit =>
        cases hstep with
        | step hstep =>
          rcases initContext_inputs hinit with ⟨hinputs, credentials, hc⟩ | ⟨-, e, he⟩
          · rw [step_inputs (h.follows.initContext hinit) hc hstep, hinputs, h.calls_eq.1]
            rfl
          · cases he

/-- The challenge, the tokens that were made and those that were sent. -/
theorem Constructed.exists_answer (hp : p.Constructed) {challenge : List UInt8}
    {tokens : List (List UInt8)} (h : ProviderUse.Answered target challenge tokens uses)
    (hrun : Run ProviderUse.Step p uses p') :
    ∃ (token : List UInt8) (answer : Option (List UInt8)), (answer = none ↔ challenge = []) ∧
      NtlmCall.inputs p'.calls = none :: (answer.map fun _ => some challenge).toList ∧
      (NtlmCall.tokens p'.calls).map Prod.snd = token :: answer.toList ∧
      tokens = token :: (answer.filter (· ≠ [])).toList := by
  have hreturned := (uses_follow hp hrun).1.returned
  cases h with
  | unchallenged token =>
    exact ⟨token, none, iff_of_true rfl rfl, hp.inputs_eq_unchallenged hrun, hreturned.symm, rfl⟩
  | concluded token hchallenge =>
    exact ⟨token, some [], iff_of_false (Option.some_ne_none _) hchallenge,
      hp.inputs_eq_challenged hrun, hreturned.symm, rfl⟩
  | @answered token challenge answer hchallenge hanswer =>
    refine ⟨token, some answer, iff_of_false (Option.some_ne_none _) hchallenge,
      hp.inputs_eq_challenged hrun, hreturned.symm, ?_⟩
    rw [Option.filter_some, if_pos (decide_eq_true hanswer)]
    rfl

end NtlmRpcAuthProvider

end

/-! ### An NTLM -/

section

/-- An NTLM that keeps what was exchanged, and completes the answer to a challenge
with it. -/
structure CodedNtlm where
  exchanged : List UInt8

instance : Ntlm CodedNtlm String String where
  USE_DCE_STYLE := 0x200
  usernameNew accountName domainName :=
    if accountName = "" then .error "empty account name" else .ok (domainName.getD "" ++ accountName)
  new := { exchanged := [] }
  acquireCredentialsHandle n _ identity := (.ok identity.username, n)
  initializeSecurityContext n credentials _ _ _ input :=
    match input with
    | none =>
      { result := .ok .continueNeeded, output := [1], credentials
        ntlm := { exchanged := n.exchanged ++ [1] } }
    | some challenge =>
      { result := .ok .completeNeeded, output := [2], credentials
        ntlm := { exchanged := n.exchanged ++ challenge ++ [2] } }
  completeAuthToken n token := (.ok .ok, token ++ n.exchanged, n)

def codedProvider : NtlmRpcAuthProvider CodedNtlm String String :=
  { ntlm := { exchanged := [] }, identity := { username := "LABAdministrator", password := "password" }
    credentialsHandle := none, target := none, authLevel := .connect, authContextId := 0
    established := false, calls := [] }

theorem codedProvider_constructed : codedProvider.Constructed :=
  .new (show NtlmRpcAuthProvider.new "LAB" "Administrator" "password" = _ from rfl)

/-- A challenge that comes too early, and an exchange. -/
theorem NtlmRpcAuthProvider.uses_follow_coded :
    ∃ p' : NtlmRpcAuthProvider CodedNtlm String String,
      p'.Follows [.step [9] (.error (.provider "NTLM credentials are not initialized")),
        .initContext "host" (.ok [1]), .step [9] (.ok [2, 1, 9, 2])] ∧
      p'.identity = codedProvider.identity ∧ p'.Made ∧ p'.ntlm.exchanged = [1, 9, 2] ∧
      p'.isContextEstablished = true := by
  obtain ⟨p', hrun, hexchanged, hestablished⟩ : ∃ p' : NtlmRpcAuthProvider CodedNtlm String String,
      Run ProviderUse.Step codedProvider
        [.step [9] (.error (.provider "NTLM credentials are not initialized")),
          .initContext "host" (.ok [1]), .step [9] (.ok [2, 1, 9, 2])] p' ∧
      p'.ntlm.exchanged = [1, 9, 2] ∧ p'.isContextEstablished = true :=
    ⟨_, .cons (.step rfl) (.cons (.initContext rfl) (.cons (.step rfl) (.nil _))), rfl, rfl⟩
  obtain ⟨hfollows, hidentity, hmade⟩ := uses_follow codedProvider_constructed hrun
  exact ⟨p', hfollows, hidentity, hmade, hexchanged, hestablished⟩

end

/-! ## Clients -/

section

variable {N U C T : Type} [DataRepresentation] [UuidCrate] [Ntlm N U C] [RpcTransport T]
  {proposed : List PresentationContext} {target : String} {p a : NtlmRpcAuthProvider N U C}

/-- Whatever comes of a bind with a new NTLM provider, it made its tokens from
what the server sent, as `sspi` asks for, and the client sent the first of them as
they were finished, and all if the bind succeeded. The calls of the client leave the
provider alone. -/
theorem RpcClient.ntlm_attempted (hcounted : ∀ c ∈ proposed, c.Counted) (hp : p.Constructed) {transport : T}
    {r : Result (RpcClient T (NtlmRpcAuthProvider N U C))} {w : World T (NtlmRpcAuthProvider N U C)}
    (h : bindWithAuthProvider transport proposed target p = (r, w)) :
    ∃ a, w.authProvider = some a ∧ a.identity = p.identity ∧ a.Attempted w.trace ∧
      ∀ c, r = .ok c → a.Exchanged c.trace ∧
        ∀ uses c', Run UseStep c uses c' → c'.authProvider = some a := by
  obtain ⟨⟨a, ha, hrun⟩, -⟩ := (ProviderUse.replayed_invariant p).bind ⟨p, rfl, .nil p⟩ h
  obtain ⟨done, hhandshake, hdone⟩ := bindWithContextsInner_handshake hcounted rfl h
  obtain ⟨hfollows, hidentity, hmade⟩ := NtlmRpcAuthProvider.uses_follow hp hrun
  refine ⟨a, ha, hidentity, ⟨hfollows, hmade, ?_, ?_⟩, ?_⟩
  · rcases hhandshake.uses_cases with huses | ⟨_, huses⟩ | ⟨_, response, ack, _, hacked, hne, huses⟩
    · rw [huses] at hrun
      cases hrun
      exact .inl (congrArg NtlmCall.inputs hp.calls_eq.1)
    · rcases hp.inputs_eq (huses ▸ hrun) with hinputs | ⟨hinputs, -⟩
      · exact .inr (.inl hinputs)
      · exact .inl hinputs
    · exact .inr (.inr ⟨response, ack, hacked, hne, hp.inputs_eq_challenged (huses ▸ hrun)⟩)
  · rw [← hfollows.returned]
    exact hhandshake.exists_packets
  · rintro c rfl
    obtain ⟨-, hworld, -⟩ := bindWithContextsInner_ok rfl h
    constructor
    · obtain ⟨response, ack, packets, hacked, hpackets, hanswered⟩ :=
        hhandshake.exists_answered (hdone c rfl)
      obtain ⟨token, answer, hanswer, hinputs, htokens, hsent⟩ :=
        hp.exists_answer hanswered hrun
      show a.Exchanged c.toWorld.trace
      rw [hworld]
      exact ⟨response, ack, token, answer, hacked, hanswer, hinputs, htokens, packets, hpackets, hsent⟩
    · exact fun uses c' huses => (RpcClient.authProvider_uses huses).trans (hworld ▸ ha)

end

section

open Standard

/-- A bind whose ack has a challenge: both tokens are sent. -/
theorem RpcClient.ntlm_attempted_challenged :
    ∃ (c : RpcClient MemoryTransport (NtlmRpcAuthProvider CodedNtlm String String))
      (w : World MemoryTransport (NtlmRpcAuthProvider CodedNtlm String String))
      (a : NtlmRpcAuthProvider CodedNtlm String String),
      bindWithAuthProvider challengedWorld.transport [ndr32Context] "host" codedProvider = (.ok c, w) ∧
      w.authProvider = some a ∧ a.identity = codedProvider.identity ∧ a.Attempted w.trace ∧
      a.Exchanged c.trace ∧
      NtlmCall.inputs a.calls = [none, some [1, 2]] ∧
      (NtlmCall.tokens a.calls).map Prod.snd = [[1], [2, 1, 1, 2, 2]] ∧
      (sent c.trace).map (fun bytes => (PduPacket.decode bytes).toOption.map (·.authValue)) =
        [some [1], some [2, 1, 1, 2, 2]] := by
  have hcalls : (bindWithAuthProvider challengedWorld.transport [ndr32Context] "host"
      codedProvider).2.authProvider.map (fun a => (NtlmCall.inputs a.calls,
        (NtlmCall.tokens a.calls).map Prod.snd)) = some ([none, some [1, 2]], [[1], [2, 1, 1, 2, 2]]) := by
    decide +kernel
  have hsent : (bindWithAuthProvider challengedWorld.transport [ndr32Context] "host"
      codedProvider).1.toOption.map (fun c => (sent c.trace).map
        fun bytes => (PduPacket.decode bytes).toOption.map (·.authValue)) =
      some [some [1], some [2, 1, 1, 2, 2]] := by decide +kernel
  rcases hbind : bindWithAuthProvider challengedWorld.transport [ndr32Context] "host"
    codedProvider with ⟨e | c, w⟩
  · rw [hbind] at hsent
    cases hsent
  obtain ⟨a, ha, hidentity, hattempted, hbound⟩ := ntlm_attempted (by decide) codedProvider_constructed hbind
  rw [hbind, ha] at hcalls
  rw [hbind] at hsent
  obtain ⟨hinputs, htokens⟩ := Prod.mk.inj (Option.some.inj hcalls)
  exact ⟨c, w, a, rfl, ha, hidentity, hattempted, (hbound c rfl).1, hinputs, htokens, Option.some.inj hsent⟩

end

end Rpce
