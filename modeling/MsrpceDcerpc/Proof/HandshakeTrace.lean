import MsrpceDcerpc.Spec.Handshake
import MsrpceDcerpc.Spec.Standard
import MsrpceDcerpc.Proof.Handshake

/-!
# The trace of a bind

A bind does what a `Handshake` lists (`bindWithContextsInner_handshake`), one
lemma for each of its stages: the token (`initAuth_exec`), the Bind
(`bindBytes_cases`), the answer to a challenge (`answerChallenge_handshake`).
`Handshake.handshakeTrace` is what all handshakes have in common.
-/

namespace Rpce

open Rust Endian Segment Eff

variable {T A : Type}

/-! ## What handshakes have in common -/

theorem challenges_append (t₁ t₂ : List (Event A)) :
    challenges (t₁ ++ t₂) = challenges t₁ ++ challenges t₂ := List.filterMap_append

section

variable [RpcAuthProvider A] {target : String} {authProvider authProvider' : Option A}
  {token : Option (List UInt8)} {init : List (Event A)}

namespace Initiated

theorem sent_eq_nil (h : Initiated target authProvider authProvider' token init) : sent init = [] := by
  cases h <;> rfl

theorem challenges_eq_nil (h : Initiated target authProvider authProvider' token init) :
    challenges init = [] := by
  cases h <;> rfl

theorem unique {authProvider₂ : Option A} {token₂ : Option (List UInt8)} {init₂ : List (Event A)}
    (h : Initiated target authProvider authProvider' token init)
    (h₂ : Initiated target authProvider authProvider₂ token₂ init₂) :
    authProvider' = authProvider₂ ∧ token = token₂ ∧ init = init₂ := by
  cases h with
  | none =>
    cases h₂
    exact ⟨rfl, rfl, rfl⟩
  | some hi =>
    cases h₂ with
    | some hi₂ =>
      cases hi.symm.trans hi₂
      exact ⟨rfl, rfl, rfl⟩

end Initiated

variable [DataRepresentation] [UuidCrate] {proposed : List PresentationContext} {bytes : List UInt8}

theorem IsBind.levelSupported {packet : PduPacket} (h : IsBind proposed authProvider token packet) :
    LevelSupported authProvider := fun a ha => by
  obtain ⟨_, -, hauth⟩ := h.provider a ha
  exact hauth.level

namespace Proposes

theorem levelSupported (h : Proposes proposed target authProvider authProvider' init bytes) :
    LevelSupported authProvider' := by
  obtain ⟨_, _, -, hbind, -⟩ := h.bind
  exact hbind.levelSupported

/-- Before the Bind nothing was sent or delivered. -/
theorem of_init (h : Proposes proposed target authProvider authProvider' init bytes)
    (rest : List (Event A)) :
    sent (init ++ rest) = sent rest ∧ received (init ++ rest) = received rest := by
  obtain ⟨_, _, hinit, -⟩ := h.bind
  cases hinit <;> exact ⟨rfl, rfl⟩

/-- The provider of the Bind makes its step. -/
theorem challenged {a a' : A} {challenge : List UInt8} {result : Except RpcAuthError (List UInt8)}
    (h : Proposes proposed target authProvider (some a) init bytes)
    (hstep : RpcAuthProvider.step a challenge = (result, a')) :
    Challenged target authProvider challenge result a' := by
  obtain ⟨_, _, hinit, -⟩ := h.bind
  exact .intro hinit hstep

theorem challenges_append (h : Proposes proposed target authProvider authProvider' init bytes)
    (rest : List (Event A)) : challenges (init ++ rest) = challenges rest := by
  obtain ⟨_, _, hinit, -⟩ := h.bind
  cases hinit <;> rfl

end Proposes

namespace Handshake

variable {trace : List (Event A)} {done : Bool}

/-- Nothing was sent, or the Bind first. -/
theorem sent_cases (h : Handshake proposed target authProvider trace done) :
    sent trace = [] ∧ (∀ authProvider' token init, proposed ≠ [] →
      Initiated target authProvider authProvider' token init → LevelSupported authProvider' →
      ∃ packet e, IsBind proposed authProvider' token packet ∧ packet.encode = .error e) ∨
    ∃ authProvider' init bytes rest, Proposes proposed target authProvider authProvider' init bytes ∧
      sent trace = bytes :: rest ∧ rest.length ≤ 1 := by
  cases h with
  | empty hp => exact .inl ⟨rfl, fun _ _ _ hne => absurd hp hne⟩
  | initFailed ha hi =>
    refine .inl ⟨rfl, fun _ _ _ _ hinit => ?_⟩
    subst ha
    cases hinit with
    | some hi' => cases hi.symm.trans hi'
  | notProposed hinit hbind =>
    refine .inl ⟨hinit.sent_eq_nil, fun _ _ _ _ hinit' => ?_⟩
    obtain ⟨rfl, rfl, rfl⟩ := hinit.unique hinit'
    exact hbind
  | notSent h | refused h | accepted h | stepped h =>
    exact .inr ⟨_, _, _, [], h, (h.of_init _).1, Nat.zero_le 1⟩
  | @auth3 _ _ _ _ _ _ _ _ _ _ bytes' _ _ h =>
    exact .inr ⟨_, _, _, [bytes'], h, (h.of_init _).1, le_rfl⟩

/-- Either there was no challenge, or one, which is the auth value of the bind
ack before it, and the provider made its step. -/
theorem challenges_cases (h : Handshake proposed target authProvider trace done) :
    challenges trace = [] ∨ ∃ before after response ack accepted result,
      trace = before ++ .step response.authValue result :: after ∧ challenges before = [] ∧
      challenges after = [] ∧ AckedBy before response ack ∧
      ack.acceptedContext proposed = .ok accepted ∧ response.authValue ≠ [] ∧
      ∃ a, Challenged target authProvider response.authValue result a := by
  cases h with
  | empty _ | initFailed _ _ => exact .inl rfl
  | notProposed hinit _ => exact .inl hinit.challenges_eq_nil
  | notSent h | refused h | accepted h => exact .inl (h.challenges_append _)
  | @stepped a _ init bytes answer response ack context result _ h ha hne hs =>
    refine .inr ⟨init ++ [.sendPdu bytes (some a) (.ok ()), .recvPdu (.ok answer)], [], response, ack,
      context, result, by rw [List.append_assoc]; rfl, h.challenges_append _, rfl, ?_, ha.accepted, hne,
      _, h.challenged hs⟩
    exact ⟨⟨answer, (h.of_init _).2, ha.decode⟩, ha.callId, ha.ptype, ha.body⟩
  | @auth3 a a' init bytes answer response ack context token _ bytes' result _ h ha hne hs =>
    refine .inr ⟨init ++ [.sendPdu bytes (some a) (.ok ()), .recvPdu (.ok answer)],
      [.sendPdu bytes' (some a') result], response, ack, context, .ok token,
      by rw [List.append_assoc]; rfl, h.challenges_append _, rfl, ?_, ha.accepted, hne, _,
      h.challenged hs⟩
    exact ⟨⟨answer, (h.of_init _).2, ha.decode⟩, ha.callId, ha.ptype, ha.body⟩

/-- The second PDU is an AUTH3 that authenticates with the token of the step
before it. -/
theorem auth3_cases (h : Handshake proposed target authProvider trace done) {bytes : List UInt8}
    (hsent : (sent trace)[1]? = some bytes) :
    ∃ before challenge token a result packet, Challenged target authProvider challenge (.ok token) a ∧
      trace = before ++ [.step challenge (.ok token), .sendPdu bytes (some a) result] ∧
      token ≠ [] ∧ IsAuth3 a token packet ∧ packet.encode = .ok bytes := by
  have hone : ∀ {pdus : List (List UInt8)}, pdus.length ≤ 1 → pdus[1]? = none :=
    fun h => List.getElem?_eq_none h
  cases h with
  | empty _ | initFailed _ _ => cases hsent
  | notProposed hinit _ =>
    rw [hinit.sent_eq_nil] at hsent
    cases hsent
  | notSent h | refused h | accepted h | stepped h =>
    rw [(h.of_init _).1] at hsent
    cases hsent
  | @auth3 a a' init bytes₁ answer response _ _ token packet bytes' result _ h _ _ hs hne hauth henc =>
    rw [(h.of_init _).1] at hsent
    obtain rfl : bytes' = bytes := Option.some.inj hsent
    exact ⟨init ++ [.sendPdu bytes₁ (some a) (.ok ()), .recvPdu (.ok answer)], response.authValue,
      token, a', result, packet, h.challenged hs, by rw [List.append_assoc]; rfl, hne, hauth, henc⟩

/-- A bind that returned a client: all it asked for succeeded. -/
theorem succeeded (h : Handshake proposed target authProvider trace done) (hdone : done = true) :
    ∀ e ∈ trace, e.Succeeded := by
  have hinit : ∀ {authProvider' init bytes}, Proposes proposed target authProvider authProvider' init
      bytes → ∀ rest : List (Event A), (∀ e ∈ rest, e.Succeeded) → ∀ e ∈ init ++ rest, e.Succeeded := by
    intro authProvider' init bytes h rest hrest e he
    obtain ⟨_, _, hinit, -⟩ := h.bind
    rcases List.mem_append.mp he with he | he
    · cases hinit with
      | none => exact absurd he List.not_mem_nil
      | some _ => exact List.mem_singleton.mp he ▸ ⟨_, rfl⟩
    · exact hrest e he
  cases h with
  | empty _ | initFailed _ _ | notProposed _ _ | notSent _ | refused _ => cases hdone
  | accepted h => exact hinit h _ (by simp [Event.Succeeded])
  | stepped h _ _ _ hok =>
    rw [hok hdone]
    exact hinit h _ (by simp [Event.Succeeded])
  | auth3 h _ _ _ _ _ _ hok =>
    rw [hok hdone]
    exact hinit h _ (by simp [Event.Succeeded])

theorem handshakeTrace (h : Handshake proposed target authProvider trace done) :
    HandshakeTrace proposed target authProvider trace where
  sent_le := by
    obtain ⟨hsent, -⟩ | ⟨_, _, _, rest, -, hsent, hlen⟩ := h.sent_cases <;> rw [hsent]
    · exact Nat.zero_le 2
    · exact Nat.succ_le_succ hlen
  sent_eq_nil hnone := by
    obtain ⟨hsent, -⟩ | ⟨_, _, _, _, hproposes, -⟩ := h.sent_cases
    · exact hsent
    · obtain ⟨token, packet, hinit, hbind, -⟩ := hproposes.bind
      exfalso
      rcases hnone with hp | ⟨a, rfl, e, he⟩ | ⟨a, rfl, hlevel⟩
      · exact hproposes.ne_nil hp
      · cases hinit with
        | some hi => cases (congrArg Prod.fst hi).symm.trans he
      · cases hinit with
        | some hi =>
          rw [hi] at hlevel
          exact hlevel (hproposes.levelSupported _ rfl)
  first authProvider' token init hne hinit hlevel := by
    obtain ⟨hsent, hnone⟩ | ⟨_, _, bytes, rest, hproposes, hsent, -⟩ := h.sent_cases
    · obtain ⟨packet, e, hbind, he⟩ := hnone _ _ _ hne hinit hlevel
      exact ⟨packet, hbind, .inr ⟨e, he, hsent⟩⟩
    · obtain ⟨token', packet, hinit', hbind, henc⟩ := hproposes.bind
      obtain ⟨rfl, rfl, rfl⟩ := hinit.unique hinit'
      exact ⟨packet, hbind, .inl ⟨bytes, henc, by rw [hsent]; rfl⟩⟩
  challenges_le := by
    obtain hnil | ⟨before, after, _, _, _, _, rfl, hbefore, hafter, -⟩ := h.challenges_cases
    · rw [hnil]
      exact Nat.zero_le 1
    · rw [challenges_append, hbefore, ← List.singleton_append, challenges_append, hafter]
      exact le_rfl
  step challenge result hmem := by
    have hnot : ∀ {events : List (Event A)}, challenges events = [] → .step challenge result ∉ events :=
      fun hnil hmem => Option.some_ne_none _ (List.filterMap_eq_nil_iff.mp hnil _ hmem)
    obtain hnil | ⟨before, after, response, ack, accepted, result', rfl, hbefore, hafter, hack, hok,
      hne, hstep⟩ := h.challenges_cases
    · exact absurd hmem (hnot hnil)
    · rcases List.mem_append.mp hmem with hmem | hmem
      · exact absurd hmem (hnot hbefore)
      rcases List.mem_cons.mp hmem with heq | hmem
      · cases heq
        exact ⟨hstep, before, after, response, ack, accepted, rfl, hack, hok, hne, rfl⟩
      · exact absurd hmem (hnot hafter)
  auth3 bytes hsent := h.auth3_cases hsent

end Handshake

end

/-! ## The token -/

/-- The token of the provider, or the error that ends the bind. -/
theorem initAuth_exec [RpcAuthProvider A] (target : String) (w : World T A) :
    (∃ token w' init, (initAuth target).exec w = (.ok token, w') ∧ w'.trace = w.trace ++ init ∧
      Initiated target w.authProvider w'.authProvider token init) ∨
    ∃ a a' e stop w', (initAuth target).exec w = (.error stop, w') ∧ w.authProvider = some a ∧
      RpcAuthProvider.initContext a target = (.error e, a') ∧
      w'.trace = w.trace ++ [.initContext target (.error e)] := by
  rw [initAuth, exec_bind_of_ok (exec_get w)]
  cases ha : w.authProvider with
  | none => exact .inl ⟨none, w, [], rfl, (List.append_nil _).symm, by rw [ha]; exact .none⟩
  | some a =>
    rcases hi : RpcAuthProvider.initContext a target with ⟨e | token, a'⟩
    · have hexec := exec_initContext hi w
      exact .inr ⟨a, a', e, _, _, exec_bind_of_error hexec, rfl, hi, rfl⟩
    · have hexec := exec_initContext hi w
      exact .inl ⟨some token, _, _, exec_bind_of_ok hexec, rfl, .some hi⟩

/-! ## The two PDUs -/

section

variable [DataRepresentation] [RpcAuthProvider A]

theorem authenticatedPacket_of_supported {a : A} (h : (RpcAuthProvider.authLevel a).Supported)
    (ptype : PduType) (callId : UInt32) (pfcFlags : UInt8) (body token : List UInt8) :
    ∃ packet, authenticatedPacket ptype callId pfcFlags body a token = .ok packet ∧
      Authenticated a token packet ∧ packet.header.ptype = ptype ∧ packet.header.callId = callId ∧
      packet.body = body := by
  have hlevel : ¬ (RpcAuthProvider.authLevel a = .packetIntegrity ∨
      RpcAuthProvider.authLevel a = .packetPrivacy) := by
    rcases h with h | h <;> rw [h] <;> decide
  have hpad : authPaddingLen body.length = .ok (UInt8.ofNat ((4 - body.length % 4) % 4)) := by
    rw [authPaddingLen, subUsize_eq_ok.mpr ⟨by omega, rfl⟩]
    rfl
  have hnat : (UInt8.ofNat ((4 - body.length % 4) % 4)).toNat = (4 - body.length % 4) % 4 := by
    rw [UInt8.toNat_ofNat']
    omega
  refine ⟨.withSecurityTrailer (.new ptype pfcFlags callId) body
    (securityTrailer a (UInt8.ofNat ((4 - body.length % 4) % 4))) token, ?_, ⟨h, rfl, _, rfl, rfl, rfl,
      rfl, ?_, ?_, fun bytes hbytes => PduPacket.at_trailer hbytes rfl⟩, rfl, rfl, rfl⟩
  · rw [authenticatedPacket, failIf_of_not _ hlevel, bind_ok, hpad]
    rfl
  · show (UInt8.ofNat _).toNat ≤ 3
    omega
  · show (16 + body.length + (UInt8.ofNat _).toNat) % 4 = 0
    omega

theorem authenticatedPacket_of_not_supported {a : A}
    (h : ¬ (RpcAuthProvider.authLevel a).Supported) (ptype : PduType) (callId : UInt32)
    (pfcFlags : UInt8) (body token : List UInt8) :
    ∃ e, authenticatedPacket ptype callId pfcFlags body a token = .error e := by
  have hlevel : RpcAuthProvider.authLevel a = .packetIntegrity ∨
      RpcAuthProvider.authLevel a = .packetPrivacy := by
    cases hl : RpcAuthProvider.authLevel a
    · exact absurd (.inl hl) h
    · exact absurd (.inr hl) h
    · exact .inl rfl
    · exact .inr rfl
  exact ⟨_, by rw [authenticatedPacket, failIf_of _ hlevel]; rfl⟩

variable [UuidCrate]

/-- The Bind, where its level is supported. -/
theorem bindBytes_cases {proposed : List PresentationContext} (hp : ∀ c ∈ proposed, c.Counted)
    {target : String} {authProvider authProvider' : Option A} {token : Option (List UInt8)}
    {init : List (Event A)} (hinit : Initiated target authProvider authProvider' token init) :
    (LevelSupported authProvider' ∧ ∃ packet, IsBind proposed authProvider' token packet ∧
      bindBytes proposed token authProvider' = packet.encode) ∨
    (¬ LevelSupported authProvider' ∧ ∃ e, bindBytes proposed token authProvider' = .error e) := by
  obtain ⟨bind, hbind⟩ : ∃ bind, BindPdu.withContexts DEFAULT_MAX_XMIT_FRAG DEFAULT_MAX_XMIT_FRAG 0
      proposed = .ok bind := by
    rw [BindPdu.withContexts, PresentationContextList.encode_of_counted hp]
    exact ⟨_, rfl⟩
  rw [bindBytes, hbind, bind_ok]
  cases hinit with
  | none =>
    exact .inl ⟨fun a ha => absurd ha (Option.not_mem_none a),
      .new (.new .bind (PFC_FIRST_FRAG ||| PFC_LAST_FRAG) 1) bind.encode [],
      ⟨rfl, rfl, ⟨bind, hbind, rfl⟩, fun _ => ⟨rfl, rfl⟩,
        fun a ha => absurd ha (Option.not_mem_none a)⟩, rfl⟩
  | @some a a' token _ =>
    by_cases hlevel : (RpcAuthProvider.authLevel a').Supported
    · obtain ⟨packet, hpacket, hauth, htype, hid, hbody⟩ := authenticatedPacket_of_supported hlevel
        .bind 1 authPfcFlags bind.encode token
      refine .inl ⟨fun b hb => Option.some.inj hb ▸ hlevel, packet, ⟨htype, hid, ⟨bind, hbind, hbody⟩,
        fun h => absurd h (Option.some_ne_none a'), fun b hb => ⟨token, rfl, Option.some.inj hb ▸ hauth⟩⟩, ?_⟩
      rw [bindPacket, hpacket, bind_ok]
    · obtain ⟨e, he⟩ := authenticatedPacket_of_not_supported hlevel .bind 1 authPfcFlags bind.encode
        token
      refine .inr ⟨fun h => hlevel (h a' rfl), e, ?_⟩
      rw [bindPacket, he, bind_error]

/-! ## The stages of a bind -/

variable [RpcTransport T] {proposed : List PresentationContext} {target : String}
  {authProvider authProvider' : Option A} {init : List (Event A)} {bytes answer : List UInt8}
  {response : PduPacket} {ack : BindAckPdu} {context : AcceptedContext}

/-- A part of a bind ended with `r`, and the handshake is done if `r` is a
result. -/
def Ended {α : Type} (proposed : List PresentationContext) (target : String) (authProvider : Option A)
    (trace : List (Event A)) (r : Result α) : Prop :=
  ∃ done, Handshake proposed target authProvider trace done ∧ ∀ a, r = .ok a → done = true

theorem Ended.error {α : Type} {trace : List (Event A)} {done : Bool} {e : Stop Error}
    (h : Handshake proposed target authProvider trace done) :
    Ended (α := α) proposed target authProvider trace (.error e) :=
  ⟨done, h, fun _ h => by cases h⟩

theorem Ended.done {α : Type} {trace : List (Event A)} {r : Result α}
    (h : Handshake proposed target authProvider trace true) :
    Ended proposed target authProvider trace r := ⟨true, h, fun _ _ => rfl⟩

/-- The AUTH3 that answers the challenge with `token`. -/
theorem auth3_handshake {a a' : A} {token : List UInt8} {w w' : World T A} {r : Result Unit}
    (hproposes : Proposes proposed target authProvider (some a) init bytes)
    (haccepting : Accepting proposed answer response ack context) (hne : response.authValue ≠ [])
    (hs : RpcAuthProvider.step a response.authValue = (.ok token, a')) (hnil : token ≠ [])
    (hauth : w.authProvider = some a')
    (htrace : w.trace = init ++ [.sendPdu bytes (some a) (.ok ()), .recvPdu (.ok answer),
      .step response.authValue (.ok token)])
    (h : ((liftM (authenticatedPacket .auth3 1 authPfcFlags [0x20, 0x20, 0x20, 0x20] a' token) :
        Eff (Stop Error) (World T A) PduPacket) >>= fun auth3 => liftM auth3.encode >>= sendPdu).exec w =
      (r, w')) :
    Ended proposed target authProvider w'.trace r := by
  have hstepped : Handshake proposed target authProvider w.trace false :=
    htrace ▸ .stepped hproposes haccepting hne hs (absurd · Bool.false_ne_true)
  by_cases hlevel : (RpcAuthProvider.authLevel a').Supported
  · obtain ⟨packet, hpacket, hauth3, htype, hid, -⟩ := authenticatedPacket_of_supported hlevel .auth3
      1 authPfcFlags [0x20, 0x20, 0x20, 0x20] token
    rw [hpacket, exec_lift_bind_of_ok rfl] at h
    cases henc : packet.encode with
    | error e =>
      rw [henc, exec_lift_bind_of_error rfl] at h
      cases h
      exact .error hstepped
    | ok bytes' =>
      rw [henc, exec_lift_bind_of_ok rfl] at h
      have htrace' : ∀ result, w.trace ++ [.sendPdu bytes' w.authProvider result] = init ++
          [.sendPdu bytes (some a) (.ok ()), .recvPdu (.ok answer),
            .step response.authValue (.ok token), .sendPdu bytes' (some a') result] := fun result => by
        rw [htrace, hauth, List.append_assoc]
        rfl
      have hsent : ∀ {result done}, (done = true → result = .ok ()) → Handshake proposed target
          authProvider (w.trace ++ [.sendPdu bytes' w.authProvider result]) done := fun hok =>
        htrace' _ ▸ .auth3 hproposes haccepting hne hs hnil ⟨hauth3, htype, hid⟩ henc hok
      rcases hresult : RpcTransport.sendPdu w.transport bytes' with ⟨e | u, t⟩
      · rw [exec_sendPdu hresult] at h
        cases h
        exact .error (@hsent _ false (absurd · Bool.false_ne_true))
      · rw [exec_sendPdu hresult] at h
        cases h
        exact .done (hsent fun _ => rfl)
  · obtain ⟨e, he⟩ := authenticatedPacket_of_not_supported hlevel .auth3 1 authPfcFlags
      [0x20, 0x20, 0x20, 0x20] token
    rw [he, exec_lift_bind_of_error rfl] at h
    cases h
    exact .error hstepped

/-- The step of the provider, and the AUTH3 if it returned a token. -/
theorem answerChallenge_handshake {w w' : World T A} {r : Result Unit}
    (hproposes : Proposes proposed target authProvider authProvider' init bytes)
    (haccepting : Accepting proposed answer response ack context)
    (hauth : w.authProvider = authProvider')
    (htrace : w.trace = init ++ [.sendPdu bytes authProvider' (.ok ()), .recvPdu (.ok answer)])
    (h : (answerChallenge 1 response).exec w = (r, w')) :
    Ended proposed target authProvider w'.trace r := by
  rw [answerChallenge, exec_bind_of_ok (exec_get w), hauth] at h
  cases authProvider' with
  | none =>
    cases h
    exact .done (htrace ▸ .accepted hproposes haccepting (.inl rfl))
  | some a =>
    dsimp only at h
    by_cases hne : response.authValue = []
    · rw [if_pos hne] at h
      cases h
      exact .done (htrace ▸ .accepted hproposes haccepting (.inr hne))
    rw [if_neg hne] at h
    have htrace' : ∀ result, w.trace ++ [.step response.authValue result] = init ++
        [.sendPdu bytes (some a) (.ok ()), .recvPdu (.ok answer), .step response.authValue result] :=
      fun result => by rw [htrace, List.append_assoc]; rfl
    have hstepped : ∀ {result a' done}, RpcAuthProvider.step a response.authValue = (result, a') →
        (done = true → result = .ok []) → Handshake proposed target authProvider
          (w.trace ++ [.step response.authValue result]) done := fun hs hdone =>
      htrace' _ ▸ .stepped hproposes haccepting hne hs hdone
    rcases hs : RpcAuthProvider.step a response.authValue with ⟨e | token, a'⟩
    · rw [exec_bind_of_error (exec_stepProvider hs w)] at h
      cases h
      exact .error (@hstepped _ _ false hs (absurd · Bool.false_ne_true))
    · rw [exec_bind_of_ok (exec_stepProvider hs w)] at h
      by_cases hnil : token = []
      · rw [if_pos hnil] at h
        cases h
        exact .done (hstepped hs fun _ => by rw [hnil])
      · rw [if_neg hnil, exec_bind_of_ok (exec_get _)] at h
        exact auth3_handshake hproposes haccepting hne hs hnil rfl (htrace' _) h

/-- What follows a bind ack. -/
theorem bindAccepted_handshake {w w' : World T A} {r : Result (RpcClient T A)}
    (hproposes : Proposes proposed target authProvider authProvider' init bytes)
    (hdecode : PduPacket.decode answer = .ok response) (hid : response.header.callId = 1)
    (htype : response.header.ptype = .bindAck) (hauth : w.authProvider = authProvider')
    (htrace : w.trace = init ++ [.sendPdu bytes authProvider' (.ok ()), .recvPdu (.ok answer)])
    (h : (bindAccepted 1 proposed response).exec w = (r, w')) :
    Ended proposed target authProvider w'.trace r := by
  have hrefused : Handshake proposed target authProvider w.trace false := htrace ▸ .refused hproposes
  rw [bindAccepted] at h
  cases hack : BindAckPdu.decode response.body with
  | error e =>
    rw [hack, exec_lift_bind_of_error rfl] at h
    cases h
    exact .error hrefused
  | ok ack =>
    rw [hack, exec_lift_bind_of_ok rfl] at h
    cases haccepted : ack.acceptedContext proposed with
    | error e =>
      rw [haccepted, exec_lift_bind_of_error rfl] at h
      cases h
      exact .error hrefused
    | ok context =>
      rw [haccepted, exec_lift_bind_of_ok rfl, exec_bind] at h
      rcases hanswer : (answerChallenge 1 response).exec w with ⟨r₁, w₁⟩
      obtain ⟨done, hhandshake, hdone⟩ := answerChallenge_handshake hproposes
        ⟨hdecode, hid, htype, hack, haccepted⟩ hauth htrace hanswer
      rw [hanswer] at h
      cases r₁ with
      | error e =>
        cases h
        exact .error hhandshake
      | ok u =>
        cases h
        exact ⟨done, hhandshake, fun _ _ => hdone u rfl⟩

/-- What follows the Bind. -/
theorem bindResponse_handshake {w w' : World T A} {r : Result (RpcClient T A)}
    (hproposes : Proposes proposed target authProvider authProvider' init bytes)
    (hauth : w.authProvider = authProvider')
    (htrace : w.trace = init ++ [.sendPdu bytes authProvider' (.ok ())])
    (h : (bindResponse proposed).exec w = (r, w')) :
    Ended proposed target authProvider w'.trace r := by
  have htrace' : ∀ result, w.trace ++ [.recvPdu result] = init ++
      [.sendPdu bytes authProvider' (.ok ()), .recvPdu result] :=
    fun result => by rw [htrace, List.append_assoc]; rfl
  -- wherever the bind ends with an error before the provider's step
  have hrefused : ∀ {result stop w₁}, w₁.trace = w.trace ++ [.recvPdu result] →
      ((.error stop : Result (RpcClient T A)), w₁) = (r, w') →
        Ended proposed target authProvider w'.trace r := by
    rintro result stop w₁ hw h
    cases h
    rw [hw, htrace']
    exact .error (.refused hproposes)
  rw [bindResponse] at h
  rcases hr : RpcTransport.recvPdu w.transport with ⟨e | answer, t⟩
  · rw [exec_bind_of_error (exec_recvPdu hr)] at h
    exact hrefused rfl h
  rw [exec_bind_of_ok (exec_recvPdu hr)] at h
  cases hdecode : PduPacket.decode answer with
  | error e =>
    rw [hdecode, exec_lift_bind_of_error rfl] at h
    exact hrefused rfl h
  | ok response =>
    rw [hdecode, exec_lift_bind_of_ok rfl] at h
    by_cases hid : response.header.callId = 1
    · rw [exec_lift_bind_of_ok (failIf_of_not _ (Classical.not_not.mpr hid))] at h
      split at h
      · rename_i htype
        refine bindAccepted_handshake hproposes hdecode hid htype ?_ ?_ h
        · exact hauth
        · exact htrace' (.ok answer)
      · cases hnak : BindNakPdu.decode response.body with
        | error e =>
          rw [hnak, exec_lift_bind_of_error rfl] at h
          exact hrefused rfl h
        | ok nak =>
          rw [hnak, exec_lift_bind_of_ok rfl] at h
          exact hrefused rfl h
      · exact hrefused rfl h
    · rw [exec_lift_bind_of_error (failIf_of _ hid)] at h
      exact hrefused rfl h

/-- A bind is a handshake. -/
theorem bindWithContextsInner_handshake (hp : ∀ c ∈ proposed, c.Counted) {w w' : World T A}
    {r : Result (RpcClient T A)} (hw : w.trace = [])
    (h : (bindWithContextsInner proposed target).exec w = (r, w')) :
    Ended proposed target w.authProvider w'.trace r := by
  rw [bindWithContextsInner_exec] at h
  split at h
  · rename_i hnil
    cases h
    rw [hw]
    exact .error (.empty hnil)
  rename_i hne
  rcases initAuth_exec target w with ⟨token, w₁, init, hexec, htrace, hinit⟩ |
    ⟨a, a', e, stop, w₁, hexec, ha, hi, htrace⟩
  · rw [hw, List.nil_append] at htrace
    rw [hexec] at h
    dsimp only at h
    have hnone : ∀ {stop}, bindBytes proposed token w₁.authProvider = .error stop →
        (LevelSupported w₁.authProvider → ∃ packet e, IsBind proposed w₁.authProvider token packet ∧
          packet.encode = .error e) → Ended proposed target w.authProvider w'.trace r :=
        fun hbytes hlevel => by
      rw [hbytes] at h
      cases h
      rw [htrace]
      exact .error (.notProposed hinit hlevel)
    obtain ⟨-, packet, hbind, hbytes⟩ | ⟨hlevel, stop, hbytes⟩ := bindBytes_cases hp hinit
    · cases henc : packet.encode with
      | error stop => exact hnone (hbytes.trans henc) fun _ => ⟨packet, stop, hbind, henc⟩
      | ok bytes =>
        have hproposes : Proposes proposed target w.authProvider w₁.authProvider init bytes :=
          ⟨hne, token, packet, hinit, hbind, henc⟩
        rw [hbytes.trans henc] at h
        dsimp only at h
        rcases hs : RpcTransport.sendPdu w₁.transport bytes with ⟨e | u, t⟩
        · rw [exec_bind_of_error (exec_sendPdu hs)] at h
          cases h
          have hnotSent : Handshake proposed target w.authProvider
              (w₁.trace ++ [.sendPdu bytes w₁.authProvider (.error e)]) false := by
            rw [htrace]
            exact .notSent hproposes
          exact .error hnotSent
        · rw [exec_bind_of_ok (exec_sendPdu hs)] at h
          refine bindResponse_handshake hproposes ?_ ?_ h
          · rfl
          · show w₁.trace ++ [_] = _
            rw [htrace]
    · exact hnone hbytes fun h => absurd h hlevel
  · rw [hexec] at h
    cases h
    rw [hw, List.nil_append] at htrace
    rw [htrace]
    exact .error (.initFailed ha hi)

end

section

open Standard

/-- A bind ack with a challenge. -/
def challengingAck : PduPacket :=
  .withSecurityTrailer (.new .bindAck authPfcFlags 1) (acceptanceBody 4280 4280 .ndr32)
    ⟨.winNt, .connect, 0, 0, 11⟩ [1, 2]

def challengedProvider : FixedProvider := { level := .connect, initToken := [3], stepToken := [4] }

def challengedWorld : World MemoryTransport FixedProvider :=
  { transport := ⟨[challengingAck.encode.toOption.getD []], []⟩
    authProvider := some challengedProvider
    trace := [] }

end

end Rpce
