import MsrpceDcerpc.Lib.Segment
import MsrpceDcerpc.Spec.Session

/-!
# Handshakes

The traces of a bind, without its code: `Handshake` lists what a client may
have done with the provider and the transport, up to where a bind ended. What
the two PDUs are that a client sends in it is `IsBind` and `IsAuth3`, and what
it must have been sent before the provider makes a step is `Accepting`.

`HandshakeTrace` says what all these traces have in common.
-/

namespace Rpce

open Rust Endian Segment

variable {T A : Type}

/-- The challenges that were handed to the provider. -/
def challenges (trace : List (Event A)) : List (List UInt8) :=
  trace.filterMap fun
    | .step challenge _ => some challenge
    | _ => none

/-- The provider or the transport did what it was asked for. -/
def Event.Succeeded : Event A → Prop
  | .callRaw _ _ => True
  | .initContext _ result => ∃ token, result = .ok token
  | .step _ result => ∃ token, result = .ok token
  | .sendPdu _ _ result => result = .ok ()
  | .recvPdu result => ∃ bytes, result = .ok bytes

section

variable [RpcAuthProvider A]

/-- The token of `init_context`, the provider after it, and what was recorded. -/
inductive Initiated (target : String) :
    Option A → Option A → Option (List UInt8) → List (Event A) → Prop where
  | none : Initiated target none none none []
  | some {a a' token} : RpcAuthProvider.initContext a target = (.ok token, a') →
      Initiated target (some a) (some a') (some token) [.initContext target (.ok token)]

/-- The provider makes its step on `challenge`, after the token of `init_context`,
and is `a'` then. -/
inductive Challenged (target : String) (authProvider : Option A) (challenge : List UInt8) :
    Except RpcAuthError (List UInt8) → A → Prop where
  | intro {a token init result a'} : Initiated target authProvider (some a) token init →
      RpcAuthProvider.step a challenge = (result, a') → Challenged target authProvider challenge result a'

variable [DataRepresentation]

/-- `packet` has the auth value `token` and the security trailer of the
provider `a`, aligned to 4 by at most 3 bytes of padding. -/
structure Authenticated (a : A) (token : List UInt8) (packet : PduPacket) : Prop where
  level : (RpcAuthProvider.authLevel a).Supported
  authValue : packet.authValue = token
  trailer : ∃ t, packet.securityTrailer = some t ∧ t.authType = RpcAuthProvider.authType a ∧
    t.authLevel = RpcAuthProvider.authLevel a ∧ t.authContextId = RpcAuthProvider.authContextId a ∧
    t.authPadLength.toNat ≤ 3 ∧ (16 + packet.body.length + t.authPadLength.toNat) % 4 = 0 ∧
    ∀ bytes, packet.encode = .ok bytes →
      At bytes (16 + packet.body.length + t.authPadLength.toNat) t.encode

structure IsAuth3 (a : A) (token : List UInt8) (packet : PduPacket) : Prop extends
    Authenticated a token packet where
  ptype : packet.header.ptype = .auth3
  callId : packet.header.callId = 1

variable [UuidCrate]

/-- The Bind that proposes `proposed`, with the token of the provider if there
is one. -/
structure IsBind (proposed : List PresentationContext) (authProvider : Option A)
    (token : Option (List UInt8)) (packet : PduPacket) : Prop where
  ptype : packet.header.ptype = .bind
  callId : packet.header.callId = 1
  body : ∃ bind, BindPdu.withContexts DEFAULT_MAX_XMIT_FRAG DEFAULT_MAX_XMIT_FRAG 0 proposed = .ok bind ∧
    packet.body = bind.encode
  noProvider : authProvider = none → packet.securityTrailer = none ∧ packet.authValue = []
  provider : ∀ a ∈ authProvider, ∃ t ∈ token, Authenticated a t packet

/-- `answer` is read as a bind ack that accepts one of the contexts. -/
structure Accepting (proposed : List PresentationContext) (answer : List UInt8) (response : PduPacket)
    (ack : BindAckPdu) (accepted : AcceptedContext) : Prop where
  decode : PduPacket.decode answer = .ok response
  callId : response.header.callId = 1
  ptype : response.header.ptype = .bindAck
  body : BindAckPdu.decode response.body = .ok ack
  accepted : ack.acceptedContext proposed = .ok accepted

/-- The Bind of a handshake is `bytes`; `init` is what was recorded before, and
`authProvider'` the provider then. -/
structure Proposes (proposed : List PresentationContext) (target : String)
    (authProvider authProvider' : Option A) (init : List (Event A)) (bytes : List UInt8) : Prop where
  ne_nil : proposed ≠ []
  bind : ∃ token packet, Initiated target authProvider authProvider' token init ∧
    IsBind proposed authProvider' token packet ∧ packet.encode = .ok bytes

/-- The traces of a bind, and of those with `true` a bind that returned a
client. -/
inductive Handshake (proposed : List PresentationContext) (target : String)
    (authProvider : Option A) : List (Event A) → Bool → Prop where
  | empty : proposed = [] → Handshake proposed target authProvider [] false
  | initFailed {a a' e} : authProvider = some a →
      RpcAuthProvider.initContext a target = (.error e, a') →
      Handshake proposed target authProvider [.initContext target (.error e)] false
  | notProposed {authProvider' token init} : Initiated target authProvider authProvider' token init →
      (LevelSupported authProvider' → ∃ packet e, IsBind proposed authProvider' token packet ∧
        packet.encode = .error e) →
      Handshake proposed target authProvider init false
  | notSent {authProvider' init bytes e} :
      Proposes proposed target authProvider authProvider' init bytes →
      Handshake proposed target authProvider (init ++ [.sendPdu bytes authProvider' (.error e)]) false
  | refused {authProvider' init bytes result} :
      Proposes proposed target authProvider authProvider' init bytes →
      Handshake proposed target authProvider
        (init ++ [.sendPdu bytes authProvider' (.ok ()), .recvPdu result]) false
  | accepted {authProvider' init bytes answer response ack context} :
      Proposes proposed target authProvider authProvider' init bytes →
      Accepting proposed answer response ack context →
      (authProvider' = none ∨ response.authValue = []) →
      Handshake proposed target authProvider
        (init ++ [.sendPdu bytes authProvider' (.ok ()), .recvPdu (.ok answer)]) true
  | stepped {a a' init bytes answer response ack context result done} :
      Proposes proposed target authProvider (some a) init bytes →
      Accepting proposed answer response ack context → response.authValue ≠ [] →
      RpcAuthProvider.step a response.authValue = (result, a') → (done = true → result = .ok []) →
      Handshake proposed target authProvider
        (init ++ [.sendPdu bytes (some a) (.ok ()), .recvPdu (.ok answer),
          .step response.authValue result]) done
  | auth3 {a a' init bytes answer response ack context token packet bytes' result done} :
      Proposes proposed target authProvider (some a) init bytes →
      Accepting proposed answer response ack context → response.authValue ≠ [] →
      RpcAuthProvider.step a response.authValue = (.ok token, a') → token ≠ [] →
      IsAuth3 a' token packet → packet.encode = .ok bytes' → (done = true → result = .ok ()) →
      Handshake proposed target authProvider
        (init ++ [.sendPdu bytes (some a) (.ok ()), .recvPdu (.ok answer),
          .step response.authValue (.ok token), .sendPdu bytes' (some a') result]) done

/-- What a bind with `proposed` and `authProvider` did. -/
structure HandshakeTrace (proposed : List PresentationContext) (target : String)
    (authProvider : Option A) (trace : List (Event A)) : Prop where
  sent_le : (sent trace).length ≤ 2
  sent_eq_nil : (proposed = [] ∨
    (∃ a ∈ authProvider, ∃ e, (RpcAuthProvider.initContext a target).1 = .error e) ∨
    (∃ a ∈ authProvider, ¬ (RpcAuthProvider.authLevel
      (RpcAuthProvider.initContext a target).2).Supported)) → sent trace = []
  first : ∀ authProvider' token init, proposed ≠ [] →
    Initiated target authProvider authProvider' token init → LevelSupported authProvider' →
    ∃ packet, IsBind proposed authProvider' token packet ∧
      ((∃ bytes, packet.encode = .ok bytes ∧ (sent trace).head? = some bytes) ∨
        ∃ e, packet.encode = .error e ∧ sent trace = [])
  challenges_le : (challenges trace).length ≤ 1
  step : ∀ challenge result, .step challenge result ∈ trace →
    (∃ a, Challenged target authProvider challenge result a) ∧
    ∃ before after response ack accepted, trace = before ++ .step challenge result :: after ∧
      AckedBy before response ack ∧ ack.acceptedContext proposed = .ok accepted ∧
      response.authValue ≠ [] ∧ challenge = response.authValue
  auth3 : ∀ bytes, (sent trace)[1]? = some bytes →
    ∃ before challenge token a result packet, Challenged target authProvider challenge (.ok token) a ∧
      trace = before ++ [.step challenge (.ok token), .sendPdu bytes (some a) result] ∧
      token ≠ [] ∧ IsAuth3 a token packet ∧ packet.encode = .ok bytes

end

end Rpce
