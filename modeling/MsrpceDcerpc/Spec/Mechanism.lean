import MsrpceDcerpc.Lib.Handles
import MsrpceDcerpc.Spec.Gssapi
import MsrpceDcerpc.Spec.Provider

/-!
# The mechanism behind the Kerberos provider

What a provider is for, without the library: a `Mechanism` makes the first token
for a service and answers challenges, and a `Negotiation` is where it is with a
provider that is used. A library has a mechanism behind its handles if it does as
documented (`Runs`).
-/

namespace Rpce

variable {G H S : Type}

/-- A mechanism on the side of an initiator: the first tokens there can be for a
service, and the tokens that can answer a challenge, each with the state of the
mechanism then and whether it is established. -/
structure Mechanism (S : Type) where
  Initiates : (service token : List UInt8) → S → (established : Bool) → Prop
  Responds : S → (challenge token : List UInt8) → S → (established : Bool) → Prop

/-- An exchange with at most one challenge, which is `[]` if there is none: the
tokens that are sent in it, and how it ends. An empty answer is not sent. -/
inductive Mechanism.Exchange (m : Mechanism S) (service : List UInt8) :
    (challenge : List UInt8) → (tokens : List (List UInt8)) → S → (established : Bool) → Prop where
  | initiated {token s done} : m.Initiates service token s done → token ≠ [] →
      Exchange m service [] [token] s done
  | concluded {token s done challenge s' done'} : m.Initiates service token s done → token ≠ [] →
      challenge ≠ [] → m.Responds s challenge [] s' done' →
      Exchange m service challenge [token] s' done'
  | responded {token s done challenge token' s' done'} : m.Initiates service token s done →
      token ≠ [] → challenge ≠ [] → m.Responds s challenge token' s' done' → token' ≠ [] →
      Exchange m service challenge [token, token'] s' done'

/-! ## Negotiations -/

/-- Where a provider is. Nothing is known of a context whose last step failed, but
whether it was established before. -/
inductive Negotiation (S : Type) where
  | unstarted
  | underway (state : S) (established : Bool)
  | failed (established : Bool)

namespace Negotiation

def established : Negotiation S → Bool
  | unstarted => false
  | underway _ established => established
  | failed established => established

/-- A provider is used whose service for a target is `service target`. A first
token starts anew, and without one the negotiation goes on as it was. -/
inductive Step (m : Mechanism S) (service : String → List UInt8) :
    Negotiation S → ProviderUse → Negotiation S → Prop where
  | initiated {n target token s done} : m.Initiates (service target) token s done → token ≠ [] →
      Step m service n (.initContext target (.ok token)) (underway s done)
  | notInitiated (n target e) : Step m service n (.initContext target (.error e)) n
  | responded {s done challenge token s' done'} : m.Responds s challenge token s' done' →
      Step m service (underway s done) (.step challenge (.ok token)) (underway s' done')
  | notResponded (s done challenge e) :
      Step m service (underway s done) (.step challenge (.error e)) (failed done)
  | refused (challenge) :
      Step m service unstarted
        (.step challenge (.error (.provider "GSSAPI context is not initialized"))) unstarted
  | afterFailure (done challenge result done') :
      Step m service (failed done) (.step challenge result) (failed done')

end Negotiation

/-! ## The library -/

/-- What is behind a handle of the library. Of a context that failed nothing is
known. -/
inductive GssContent (S : Type) where
  | name (service : List UInt8)
  | credential
  | context (state : Option S)

section

variable [Gss G H]

/-- A buffer with `token`, which may be null if there is none. -/
structure GssBuffer.Has (buffer : GssBuffer H) (g : G) (token : List UInt8) : Prop where
  length : buffer.length = token.length
  null : buffer.value = none → token = []
  memory : ∀ b, buffer.value = some b → Gss.memory g b token.length = token

variable (G) in
/-- A step of a context that did not fail. -/
def Stepped (major : UInt32) : Prop :=
  major = Gss.GSS_S_COMPLETE G ∨ major = Gss.GSS_S_CONTINUE_NEEDED G

/-- A call that did not fail has made a token, and a context in a state that
`Made` allows with it. -/
def GssResult.Steps (r : GssResult G (Option H × GssBuffer H))
    (view : G → GssResource H → Option (GssContent S)) (Made : List UInt8 → S → Bool → Prop) : Prop :=
  Stepped G r.major → ∃ h token s, r.value.1 = some h ∧ r.value.2.Has r.gss token ∧
    view r.gss (.context h) = some (.context (some s)) ∧
    Made token s (r.major = Gss.GSS_S_COMPLETE G)

/-- The library does what is documented, with the mechanism `m` for what the
provider asks for: `view` are the contents of its names, credentials and
contexts. -/
structure Mechanism.Runs (m : Mechanism S)
    (view : G → GssResource H → Option (GssContent S)) : Prop where
  importName : ∀ g bytes, KeepsBut 0 (view g) (view (Gss.importName g bytes).gss) ∧
    ((Gss.importName g bytes).major = Gss.GSS_S_COMPLETE G →
      ∃ h, (Gss.importName g bytes).value = some h ∧
        IsNew (view g) (view (Gss.importName g bytes).gss) (.name h) (.name bytes))
  acquireCred : ∀ g : G, KeepsBut 0 (view g) (view (Gss.acquireCred g).gss) ∧
    ((Gss.acquireCred g).major = Gss.GSS_S_COMPLETE G → ∀ h, (Gss.acquireCred g).value = some h →
      IsNew (view g) (view (Gss.acquireCred g).gss) (.credential h) .credential)
  initSecContext : ∀ g credential context name input,
    (∀ h, credential = some h → (view g (.credential h)).isSome) →
    (∀ h, context = some h → (view g (.context h)).isSome) → (view g (.name name)).isSome →
    let r := Gss.initSecContext g credential context (some name) kerberosMechOid
      (GssapiClientContext.requestFlags G) input
    KeepsBut (pointee .context context) (view g) (view r.gss) ∧
    ∀ h, r.value.1 = some h → (view r.gss (.context h)).isSome ∧
      (context = some h ∨ view g (.context h) = none)
  initiates : ∀ g credential name service,
    (∀ h, credential = some h → (view g (.credential h)).isSome) →
    view g (.name name) = some (.name service) →
    (Gss.initSecContext g credential none (some name) kerberosMechOid
      (GssapiClientContext.requestFlags G) none).Steps view (m.Initiates service)
  responds : ∀ g credential context name s challenge,
    (∀ h, credential = some h → (view g (.credential h)).isSome) → (view g (.name name)).isSome →
    view g (.context context) = some (.context (some s)) →
    (Gss.initSecContext g credential (some context) (some name) kerberosMechOid
      (GssapiClientContext.requestFlags G) (some challenge)).Steps view (m.Responds s challenge)
  deleteSecContext : ∀ g h, KeepsBut {.context h} (view g) (view (Gss.deleteSecContext g h))
  releaseCred : ∀ g h, KeepsBut {.credential h} (view g) (view (Gss.releaseCred g h))
  releaseName : ∀ g h, KeepsBut {.name h} (view g) (view (Gss.releaseName g h))
  releaseBuffer : ∀ g h, KeepsBut 0 (view g) (view (Gss.releaseBuffer g h))

end

/-! ## The provider -/

/-- All that the context owns there is, with a name. -/
structure GssapiClientContext.Allocated (c : GssapiClientContext H)
    (v : GssResource H → Option (GssContent S)) : Prop where
  name : c.name ≠ none
  owned : ∀ r ∈ c.owned, (v r).isSome

/-- The context of a provider is where the negotiation is. -/
inductive Negotiation.At (v : GssResource H → Option (GssContent S)) :
    Negotiation S → Option (GssapiClientContext H) → Prop where
  | unstarted : At v .unstarted none
  | underway {c h s} : c.Allocated v → c.context = some h → v (.context h) = some (.context (some s)) →
      At v (.underway s c.established) (some c)
  | failed {c} : c.Allocated v → At v (.failed c.established) (some c)

/-- The service a provider negotiates with for a target. -/
def GssapiKerberosRpcAuthProvider.service (servicePrincipal : Option String) (target : String) :
    List UInt8 :=
  (servicePrincipal.getD (serviceNameForTarget target)).toUTF8.toList

/-- What a client has negotiated with its provider, which is `a`, in a bind that did
`trace`: the auth values of the PDUs that were sent are the tokens of an exchange in
which the auth value of the bind ack is the challenge. -/
def GssapiKerberosRpcAuthProvider.Negotiated [DataRepresentation] [UuidCrate] [Gss G H]
    (m : Mechanism S) (view : G → GssResource H → Option (GssContent S)) (service : List UInt8)
    (a : GssapiKerberosRpcAuthProvider H × GssWorld G H)
    (trace : List (Event (GssapiKerberosRpcAuthProvider H × GssWorld G H))) : Prop :=
  ∃ response ack s done, AckedBy trace response ack ∧
    (∃ packets : List PduPacket,
      List.Forall₂ (fun packet bytes => packet.encode = .ok bytes) packets (sent trace) ∧
        m.Exchange service response.authValue (packets.map (·.authValue)) s done) ∧
    (Negotiation.underway s done).At (view a.2.gss) a.1.context ∧ a.1.isContextEstablished = done

end Rpce
