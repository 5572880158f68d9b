import MsrpceDcerpc.Proof.Calls
import MsrpceDcerpc.Proof.HandshakeTrace
import MsrpceDcerpc.Proof.Invariant
import MsrpceDcerpc.Spec.Standard
import MsrpceDcerpc.Spec.Provider

/-!
# The uses of a provider by a client

In a bind a client sends the tokens of its provider as they are, whatever the
provider, and passes on the challenge of the bind ack (`Handshake.exists_packets`,
`Handshake.uses_cases`); if the bind succeeds, that was all of it
(`Handshake.exists_answered`). After it the client does not use its provider
(`RpcClient.authProvider_uses`). With what all handshakes have in common
(`Handshake.handshakeTrace`) this is what a bind attempt does, `bind_attempt`.
-/

namespace Rpce

open Rust Eff

section

variable {T A : Type} [DataRepresentation] [UuidCrate] [RpcAuthProvider A]
  {proposed : List PresentationContext} {target : String} {a : A} {authProvider' : Option A}
  {trace init : List (Event A)} {bytes : List UInt8} {done : Bool}

theorem Proposes.exists_token (h : Proposes proposed target (some a) authProvider' init bytes) :
    ∃ (token : List UInt8) (packet : PduPacket), init = [.initContext target (.ok token)] ∧
      packet.authValue = token ∧ packet.encode = .ok bytes := by
  obtain ⟨_, packet, hinit, hbind, hencode⟩ := h.bind
  cases hinit with
  | some hinit =>
    obtain ⟨token, htoken, hauth⟩ := hbind.provider _ rfl
    cases htoken
    exact ⟨_, packet, rfl, hauth.authValue, hencode⟩

theorem Proposes.ne_none (h : Proposes proposed target (some a) authProvider' init bytes) :
    authProvider' ≠ none := by
  obtain ⟨_, _, hinit, -⟩ := h.bind
  cases hinit
  exact Option.some_ne_none _

omit [RpcAuthProvider A] in
theorem Accepting.ackedBy {answer : List UInt8} {response : PduPacket} {ack : BindAckPdu}
    {context : AcceptedContext} (h : Accepting proposed answer response ack context)
    (htrace : received trace = [answer]) : AckedBy trace response ack :=
  ⟨⟨answer, htrace, h.decode⟩, h.callId, h.ptype, h.body⟩

namespace Handshake

/-- In a bind the provider makes at most two tokens. -/
theorem uses_cases (h : Handshake proposed target (some a) trace done) :
    ProviderUse.ofTrace trace = [] ∨ (∃ r, ProviderUse.ofTrace trace = [.initContext target r]) ∨
      ∃ token response ack r, AckedBy trace response ack ∧ response.authValue ≠ [] ∧
        ProviderUse.ofTrace trace = [.initContext target (.ok token), .step response.authValue r] := by
  cases h with
  | empty => exact .inl rfl
  | initFailed => exact .inr (.inl ⟨_, rfl⟩)
  | notProposed hinit =>
    cases hinit
    exact .inr (.inl ⟨_, rfl⟩)
  | notSent h | refused h | accepted h =>
    obtain ⟨token, _, rfl, -, -⟩ := h.exists_token
    exact .inr (.inl ⟨_, rfl⟩)
  | stepped h haccepting hchallenge | auth3 h haccepting hchallenge =>
    obtain ⟨token, _, rfl, -, -⟩ := h.exists_token
    exact .inr (.inr ⟨token, _, _, _, haccepting.ackedBy rfl, hchallenge, rfl⟩)

/-- The auth values of the PDUs that were sent are the tokens of the provider. -/
theorem exists_packets (h : Handshake proposed target (some a) trace done) :
    ∃ packets : List PduPacket,
      List.Forall₂ (fun packet bytes => packet.encode = .ok bytes) packets (sent trace) ∧
        packets.map (·.authValue) <+: ProviderUse.returned (ProviderUse.ofTrace trace) := by
  cases h with
  | empty => exact ⟨[], .nil, List.nil_prefix⟩
  | initFailed => exact ⟨[], .nil, List.nil_prefix⟩
  | notProposed hinit =>
    rw [hinit.sent_eq_nil]
    exact ⟨[], .nil, List.nil_prefix⟩
  | notSent h | refused h | accepted h =>
    obtain ⟨token, packet, rfl, rfl, hencode⟩ := h.exists_token
    exact ⟨[packet], .cons hencode .nil, List.prefix_rfl⟩
  | @stepped _ _ _ _ _ _ _ _ result _ h =>
    obtain ⟨token, packet, rfl, rfl, hencode⟩ := h.exists_token
    exact ⟨[packet], .cons hencode .nil, List.prefix_append [packet.authValue] _⟩
  | @auth3 _ _ _ _ _ _ _ _ _ packet₂ _ _ _ h _ _ _ _ hauth3 hencode₂ =>
    obtain ⟨token, packet, rfl, rfl, hencode⟩ := h.exists_token
    refine ⟨[packet, packet₂], .cons hencode (.cons hencode₂ .nil), ?_⟩
    rw [← hauth3.authValue]
    exact List.prefix_rfl

/-- A bind that succeeds with a provider gets the challenge or none, and sends the
first token, and the answer if it is not empty. -/
theorem exists_answered (h : Handshake proposed target (some a) trace done) (hdone : done = true) :
    ∃ (response : PduPacket) (ack : BindAckPdu) (packets : List PduPacket), AckedBy trace response ack ∧
      List.Forall₂ (fun packet bytes => packet.encode = .ok bytes) packets (sent trace) ∧
      ProviderUse.Answered target response.authValue (packets.map (·.authValue))
        (ProviderUse.ofTrace trace) := by
  cases h with
  | empty | initFailed | notProposed | notSent | refused => cases hdone
  | @accepted _ _ _ _ response ack _ h haccepting hchallenge =>
    have hnone := hchallenge.resolve_left h.ne_none
    obtain ⟨token, packet, rfl, rfl, hencode⟩ := h.exists_token
    refine ⟨response, ack, [packet], haccepting.ackedBy rfl, .cons hencode .nil, ?_⟩
    rw [hnone]
    exact .unchallenged packet.authValue
  | @stepped _ _ _ _ _ response ack _ _ _ h haccepting hchallenge hstep hresult =>
    obtain ⟨token, packet, rfl, rfl, hencode⟩ := h.exists_token
    obtain rfl := hresult hdone
    exact ⟨response, ack, [packet], haccepting.ackedBy rfl, .cons hencode .nil,
      .concluded packet.authValue hchallenge⟩
  | @auth3 _ _ _ _ _ response ack _ token' packet' _ _ _ h haccepting hchallenge hstep hne hauth3 hencode' =>
    obtain ⟨token, packet, rfl, rfl, hencode⟩ := h.exists_token
    refine ⟨response, ack, [packet, packet'], haccepting.ackedBy rfl, .cons hencode (.cons hencode' .nil), ?_⟩
    obtain rfl := hauth3.authValue
    exact .answered packet.authValue hchallenge hne

end Handshake

end

/-- The calls of a client leave its provider alone. -/
theorem RpcClient.authProvider_uses {T A : Type} [DataRepresentation] [UuidCrate] [RpcTransport T]
    [RpcAuthProvider A] {c c' : RpcClient T A} {uses : List Use} (h : Run UseStep c uses c') :
    c'.authProvider = c.authProvider := by
  refine h.invariant (fun c' => c'.authProvider = c.authProvider) (fun c₁ use c₂ hc hstep => ?_) rfl
  cases hstep with
  | callRaw hexec =>
    obtain ⟨_, hspec, -⟩ := RpcClient.callRaw_spec hexec
    exact hspec.extends_started.authProvider.trans hc
  | withMaxXmitFrag => exact hc

/-! ## Bind attempts -/

section

variable {T A : Type} [DataRepresentation] [UuidCrate] [RpcTransport T] [RpcAuthProvider A]
  {proposed : List PresentationContext} {target : String}

/-- The provider after a bind is the one before it, used as was recorded. -/
theorem bindWithContextsInner_used (transport : T) (authProvider : Option A) {r : Result (RpcClient T A)}
    {w : World T A}
    (h : (bindWithContextsInner proposed target).exec { transport, authProvider, trace := [] } = (r, w)) :
    ProviderUse.Used authProvider (ProviderUse.ofTrace w.trace) w.authProvider := by
  cases authProvider with
  | none =>
    obtain ⟨⟨hnone, htrace⟩, -⟩ := ProviderUse.none_invariant.bind ⟨rfl, rfl⟩ h
    rw [hnone, htrace]
    exact .none
  | some a =>
    obtain ⟨⟨a', ha', hrun⟩, -⟩ := (ProviderUse.replayed_invariant a).bind ⟨a, rfl, .nil a⟩ h
    rw [ha']
    exact .some hrun

/-- **Handshake.** What any bind attempt does, and what it has done if it
returns a client. -/
theorem bind_attempt (transport : T) (authProvider : Option A) (hp : ∀ c ∈ proposed, c.Counted)
    {r : Result (RpcClient T A)} {w : World T A}
    (h : (bindWithContextsInner proposed target).exec { transport, authProvider, trace := [] } = (r, w)) :
    (∃ done, Handshake proposed target authProvider w.trace done ∧ ∀ c, r = .ok c → done = true) ∧
    HandshakeTrace proposed target authProvider w.trace ∧
    ProviderUse.Used authProvider (ProviderUse.ofTrace w.trace) w.authProvider ∧
    ∀ c, r = .ok c → c.toWorld = w ∧ ∃ response ack accepted, AckedBy w.trace response ack ∧
      ack.acceptedContext proposed = .ok accepted ∧ c.contextId = accepted.contextId ∧
      ∀ e ∈ w.trace, e.Succeeded := by
  obtain ⟨done, hhandshake, hdone⟩ := bindWithContextsInner_handshake hp rfl h
  refine ⟨⟨done, hhandshake, hdone⟩, hhandshake.handshakeTrace, bindWithContextsInner_used _ _ h, ?_⟩
  rintro c rfl
  obtain ⟨-, rfl, response, ack, accepted, hacked, haccepted, hctx, -⟩ := bindWithContextsInner_ok rfl h
  exact ⟨rfl, response, ack, accepted, hacked, haccepted, hctx, hhandshake.succeeded (hdone c rfl)⟩

end

section

open Standard

/-- A challenge that is answered with an AUTH3: both tokens, the provider then, and
the client. -/
theorem bind_attempt_challenged :
    ∃ (c : RpcClient MemoryTransport FixedProvider) (w : World MemoryTransport FixedProvider),
      (bindWithContextsInner [ndr32Context] "").exec challengedWorld = (.ok c, w) ∧
      Handshake [ndr32Context] "" (some challengedProvider) w.trace true ∧
      HandshakeTrace [ndr32Context] "" (some challengedProvider) w.trace ∧
      ProviderUse.Used (some challengedProvider)
        [.initContext "" (.ok [3]), .step [1, 2] (.ok [4])] w.authProvider ∧
      (sent w.trace).length = 2 ∧ c.toWorld = w ∧ c.contextId = 0 ∧
      ∃ response ack, AckedBy w.trace response ack ∧ response.authValue = [1, 2] := by
  rcases hbind : (bindWithContextsInner [ndr32Context] "").exec challengedWorld with ⟨r, w⟩
  have hrun : (fun bound : Result (RpcClient MemoryTransport FixedProvider) × World MemoryTransport
      FixedProvider => (bound.1.toOption.map (·.contextId), ProviderUse.ofTrace bound.2.trace,
        (sent bound.2.trace).length,
        (received bound.2.trace).map fun bytes => (PduPacket.decode bytes).toOption.map (·.authValue)))
      ((bindWithContextsInner [ndr32Context] "").exec challengedWorld) =
      (some 0, [.initContext "" (.ok [3]), .step [1, 2] (.ok [4])], 2, [some [1, 2]]) := by decide +kernel
  rw [hbind, Prod.mk.injEq, Prod.mk.injEq, Prod.mk.injEq] at hrun
  obtain ⟨hctx, huses, hsent, hauth⟩ := hrun
  obtain ⟨⟨done, hhandshake, hdone⟩, htrace, hused, hok⟩ :=
    bind_attempt challengedWorld.transport (some challengedProvider) (by decide) hbind
  cases r with
  | error e => cases hctx
  | ok c =>
    obtain ⟨hworld, response, ack, -, hacked, -⟩ := hok c rfl
    obtain rfl := hdone c rfl
    obtain ⟨bytes, hbytes, hdecode⟩ := hacked.received
    rw [hbytes, List.map_singleton, hdecode] at hauth
    exact ⟨c, w, rfl, hhandshake, htrace, huses ▸ hused, hsent, hworld, Option.some.inj hctx, response, ack,
      hacked, Option.some.inj (List.singleton_inj.mp hauth)⟩

end

end Rpce
