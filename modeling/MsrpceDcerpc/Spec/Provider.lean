import MsrpceDcerpc.Lib.Position
import MsrpceDcerpc.Spec.Session

/-!
# Providers and clients

What a client does, without the provider it did it with (`Event.bare`,
`Call.bare`), and clients in which nothing but the provider and the past is
different (`SameButProvider`). What a provider is used for (`ProviderUse`), with a
client or without one.
-/

namespace Rpce

variable {T A B : Type}

/-! ## Clients that differ in their provider -/

def Event.bare : Event A → Event Empty
  | .callRaw opnum requestStub => .callRaw opnum requestStub
  | .initContext target result => .initContext target result
  | .step challenge result => .step challenge result
  | .sendPdu bytes _ result => .sendPdu bytes none result
  | .recvPdu result => .recvPdu result

def Call.bare (call : Call A) : Call Empty where
  opnum := call.opnum
  requestStub := call.requestStub
  callId := call.callId
  result := call.result
  events := call.events.map .bare

structure SameButProvider (c : RpcClient T A) (d : RpcClient T B) : Prop where
  transport : c.transport = d.transport
  contextId : c.contextId = d.contextId
  callId : c.callId = d.callId
  maxXmitFrag : c.maxXmitFrag = d.maxXmitFrag

/-! ## Uses of a provider -/

/-- What a provider is used for, and what it returns. -/
inductive ProviderUse where
  | initContext (target : String) (result : Except RpcAuthError (List UInt8))
  | step (challenge : List UInt8) (result : Except RpcAuthError (List UInt8))
  deriving DecidableEq

namespace ProviderUse

/-- The tokens that were returned. -/
def returned (uses : List ProviderUse) : List (List UInt8) :=
  uses.filterMap fun
    | .initContext _ (.ok token) => some token
    | .step _ (.ok token) => some token
    | _ => none

/-- The challenges that were passed. -/
def challenges (uses : List ProviderUse) : List (List UInt8) :=
  uses.filterMap fun
    | .step challenge _ => some challenge
    | _ => none

/-- The uses of a client's provider among what the client did. -/
def ofTrace (trace : List (Event A)) : List ProviderUse :=
  trace.filterMap fun
    | .initContext target result => some (.initContext target result)
    | .step challenge result => some (.step challenge result)
    | _ => none

/-- A provider is used. -/
inductive Step [RpcAuthProvider A] : A → ProviderUse → A → Prop where
  | initContext {a a' target result} : RpcAuthProvider.initContext a target = (result, a') →
      Step a (.initContext target result) a'
  | step {a a' challenge result} : RpcAuthProvider.step a challenge = (result, a') →
      Step a (.step challenge result) a'

/-- A provider that was used, if there is one. -/
inductive Used [RpcAuthProvider A] : Option A → List ProviderUse → Option A → Prop where
  | none : Used none [] none
  | some {a uses a'} : Run Step a uses a' → Used (some a) uses (some a')

/-- The uses of a provider in a bind that succeeds, with the challenge of the bind
ack, which is `[]` if there is none, and the tokens that are sent. An empty answer is
not sent. -/
inductive Answered (target : String) :
    (challenge : List UInt8) → (tokens : List (List UInt8)) → List ProviderUse → Prop where
  | unchallenged (token) : Answered target [] [token] [.initContext target (.ok token)]
  | concluded (token) {challenge} : challenge ≠ [] →
      Answered target challenge [token] [.initContext target (.ok token), .step challenge (.ok [])]
  | answered (token) {challenge token'} : challenge ≠ [] → token' ≠ [] →
      Answered target challenge [token, token']
        [.initContext target (.ok token), .step challenge (.ok token')]

end ProviderUse

/-- Each PDU of the trace was handed to the transport while there was a provider, `a₀`
as the uses before it left it, whose level is one that version 1 supports. -/
def SentSupportedBy [RpcAuthProvider A] (a₀ : A) (trace : List (Event A)) : Prop :=
  Everywhere (fun before e _ => ∀ bytes authProvider result, e = .sendPdu bytes authProvider result →
    ∃ a, authProvider = some a ∧ Run ProviderUse.Step a₀ (ProviderUse.ofTrace before) a ∧
      (RpcAuthProvider.authLevel a).Supported) trace

end Rpce
