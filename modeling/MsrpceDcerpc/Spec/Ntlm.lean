import MsrpceDcerpc.Lib.Position
import MsrpceDcerpc.Model.Ntlm
import MsrpceDcerpc.Spec.Provider

/-!
# What the NTLM provider asks of `sspi`

The rules of the crate for its calls, read off a list of them: a call is in order
where it is by what was called before it and what is called after it
(`NtlmCall.InOrder`). The calls of a provider are those that bring a new `Ntlm` to
where it is (`NtlmCall.Step`, `Made`). A provider that `Follows` what it is used
for has made calls in order, got from them the tokens that it returned, and is
established if the last of these ended the exchange. In a bind the client takes
the tokens and the challenge over, as they are (`Attempted`), and all of them if
the bind succeeds (`Exchanged`).
-/

namespace Rpce

variable {N U C : Type}

/-! ## Calls in order -/

namespace SecurityStatus

/-- A token with the status is not finished before it is completed. -/
def asksCompletion : SecurityStatus → Bool
  | completeNeeded => true
  | completeAndContinue => true
  | _ => false

/-- A token with the status is to be answered. -/
def continues : SecurityStatus → Bool
  | continueNeeded => true
  | completeAndContinue => true
  | _ => false

end SecurityStatus

namespace NtlmCall

/-- The credentials in use after a call, and the target they are for. -/
def use (inUse : Option (C × String)) : NtlmCall C → Option (C × String)
  | .acquireCredentialsHandle target (.ok credentials) => some (credentials, target)
  | .initializeSecurityContext _ target _ _ _ credentials' => some (credentials', target)
  | _ => inUse

/-- The credentials that were acquired last, as the tokens made with them left
them. -/
def inUse (calls : List (NtlmCall C)) : Option (C × String) := calls.foldl use none

/-- The inputs that tokens were made from. -/
def inputs (calls : List (NtlmCall C)) : List (Option (List UInt8)) :=
  calls.filterMap fun
    | .initializeSecurityContext _ _ input _ _ _ => some input
    | _ => none

/-- The tokens that were finished, with their statuses. -/
def tokens (calls : List (NtlmCall C)) : List (SecurityStatus × List UInt8) :=
  calls.filterMap fun
    | .initializeSecurityContext _ _ _ (.ok status) output _ =>
      if status.asksCompletion then none else some (status, output)
    | .completeAuthToken status _ (.ok _) token' => some (status, token')
    | _ => none

/-- The credentials `credentials` were acquired for `target`. -/
def Acquires (credentials : C) (target : String) (call : Option (NtlmCall C)) : Prop :=
  call = some (.acquireCredentialsHandle target (.ok credentials))

/-- A first token is made with the credentials `credentials` for `target`. -/
def MakesFirst (credentials : C) (target : String) (call : Option (NtlmCall C)) : Prop :=
  ∃ result output credentials', call =
    some (.initializeSecurityContext credentials target none result output credentials')

/-- A token was made that has to be completed. -/
def Makes (status : SecurityStatus) (token : List UInt8) (call : Option (NtlmCall C)) : Prop :=
  ∃ credentials target input credentials', call =
    some (.initializeSecurityContext credentials target input (.ok status) token credentials')

/-- A token is completed. -/
def Completes (status : SecurityStatus) (token : List UInt8) (call : Option (NtlmCall C)) : Prop :=
  ∃ result token', call = some (.completeAuthToken status token result token')

/-- Where a call may be. Credentials that were acquired are for a first token. A
token is made with the credentials in use, for their target, without an input
exactly if the credentials are new, and it is completed next exactly if it has
to be. -/
def InOrder (before : List (NtlmCall C)) (call : NtlmCall C) (after : List (NtlmCall C)) : Prop :=
  match call with
  | .acquireCredentialsHandle target result =>
    ∀ credentials, result = .ok credentials → MakesFirst credentials target after.head?
  | .initializeSecurityContext credentials target input result output _ =>
    inUse before = some (credentials, target) ∧
      (input = none ↔ Acquires credentials target before.getLast?) ∧
      ∀ status, result = .ok status → (status.asksCompletion = true ↔ Completes status output after.head?)
  | .completeAuthToken status token _ _ =>
    status.asksCompletion = true ∧ Makes status token before.getLast?

/-- The crate is called for the identity `identity`. -/
inductive Step [Ntlm N U C] (identity : AuthIdentity U) : N → NtlmCall C → N → Prop where
  | acquireCredentialsHandle {n n' result} (target) :
      Ntlm.acquireCredentialsHandle n .outbound identity = (result, n') →
      Step identity n (.acquireCredentialsHandle target result) n'
  | initializeSecurityContext {n r credentials target input} :
      Ntlm.initializeSecurityContext n credentials (ntlmRpcContextFlags N) .native target input = r →
      Step identity n
        (.initializeSecurityContext credentials target input r.result r.output r.credentials) r.ntlm
  | completeAuthToken {n n' result token token'} (status) :
      Ntlm.completeAuthToken n token = (result, token', n') →
      Step identity n (.completeAuthToken status token result token') n'

end NtlmCall

/-! ## The provider -/

namespace NtlmRpcAuthProvider

/-- The calls of a provider brought its `Ntlm` from a new one to where it is. -/
def Made [Ntlm N U C] (p : NtlmRpcAuthProvider N U C) : Prop :=
  Run (NtlmCall.Step p.identity) Ntlm.new p.calls p.ntlm

/-- The providers of the constructors, which were not used. -/
inductive Constructed [Ntlm N U C] : NtlmRpcAuthProvider N U C → Prop where
  | new {domain username password p} : new domain username password = .ok p → Constructed p
  | withAuthLevel {p} (authLevel) : Constructed p → Constructed (p.withAuthLevel authLevel)
  | withAuthContextId {p} (authContextId) : Constructed p →
      Constructed (p.withAuthContextId authContextId)

/-- A use that fails for want of credentials. -/
def Refused : ProviderUse → Prop
  | .initContext _ result => ∃ e, result = .error e
  | .step _ result => result = .error (.provider "NTLM credentials are not initialized")

/-- A provider that was used for `uses`. Its calls are in order. The tokens they
finished are those that it returned, and the challenges they got are those that
were passed to it since it had credentials; the uses before were refused. It is
established if the last of the tokens ended the exchange. -/
structure Follows (p : NtlmRpcAuthProvider N U C) (uses : List ProviderUse) : Prop where
  inOrder : Everywhere NtlmCall.InOrder p.calls
  credentialsHandle : p.credentialsHandle = (NtlmCall.inUse p.calls).map Prod.fst
  target : p.target = (NtlmCall.inUse p.calls).map Prod.snd
  returned : ProviderUse.returned uses = (NtlmCall.tokens p.calls).map Prod.snd
  challenged : ∃ before after, uses = before ++ after ∧ (∀ use ∈ before, Refused use) ∧
    (NtlmCall.inputs p.calls).filterMap id = ProviderUse.challenges after ∧
    (p.credentialsHandle = none → after = [])
  established : p.established = true ↔
    ∃ token ∈ (NtlmCall.tokens p.calls).getLast?, token.1.continues = false

/-- What a client that did `trace` in a bind did with its provider, which is `p`
now. At most two tokens were made, the second from the auth value of the bind
ack. The auth values of the PDUs that were sent are the first of the tokens, as they
were finished. -/
structure Attempted [DataRepresentation] [UuidCrate] [Ntlm N U C] (p : NtlmRpcAuthProvider N U C)
    (trace : List (Event (NtlmRpcAuthProvider N U C))) : Prop where
  follows : p.Follows (ProviderUse.ofTrace trace)
  made : p.Made
  inputs : NtlmCall.inputs p.calls = [] ∨ NtlmCall.inputs p.calls = [none] ∨
    ∃ response ack, AckedBy trace response ack ∧ response.authValue ≠ [] ∧
      NtlmCall.inputs p.calls = [none, some response.authValue]
  sent : ∃ packets : List PduPacket,
    List.Forall₂ (fun packet bytes => packet.encode = .ok bytes) packets (sent trace) ∧
      packets.map (·.authValue) <+: (NtlmCall.tokens p.calls).map Prod.snd

/-- The same for a bind that succeeded. There is an answer exactly if the bind ack has
an auth value, from which it is made. The auth values of the PDUs that were sent
are the token and the answer, which is not sent if it is empty. -/
def Exchanged [DataRepresentation] [UuidCrate] (p : NtlmRpcAuthProvider N U C)
    (trace : List (Event (NtlmRpcAuthProvider N U C))) : Prop :=
  ∃ (response : PduPacket) (ack : BindAckPdu) (token : List UInt8) (answer : Option (List UInt8)),
    AckedBy trace response ack ∧ (answer = none ↔ response.authValue = []) ∧
    NtlmCall.inputs p.calls = none :: (answer.map fun _ => some response.authValue).toList ∧
    (NtlmCall.tokens p.calls).map Prod.snd = token :: answer.toList ∧
    ∃ packets : List PduPacket,
      List.Forall₂ (fun packet bytes => packet.encode = .ok bytes) packets (sent trace) ∧
        packets.map (·.authValue) = token :: (answer.filter (· ≠ [])).toList

end NtlmRpcAuthProvider

end Rpce
