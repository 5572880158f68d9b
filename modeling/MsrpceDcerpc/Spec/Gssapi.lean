import MsrpceDcerpc.Lib.Run
import MsrpceDcerpc.Model.Gssapi

/-!
# The resources of the Kerberos provider

Names, credentials, contexts and output buffers belong to who got them from the
library, until they are released. What a call does to them is read off the call
(`GssCall.accesses`), and what the library does is its documented behaviour
(`GssLaws`): a call does not go wrong with handles that are allocated, and
leaves a context that failed either there or deleted.
-/

namespace Rpce

variable {G H : Type}

/-- What the library hands out. -/
inductive GssResource (H : Type) where
  | name (h : H)
  | credential (h : H)
  | context (h : H)
  | buffer (h : H)
  deriving DecidableEq

/-- The resource a pointer points to, if it is not null. -/
def pointee (kind : H → GssResource H) (p : Option H) : Multiset (GssResource H) :=
  Access.inSlot (p.map kind)

section

variable [Gss G H]

variable (G) in
/-- A name or a credential, if the call that made it was complete. -/
def completed (major : UInt32) (result : Option H) : Option H :=
  if major = Gss.GSS_S_COMPLETE G then result else none

variable (G) in
/-- The accesses of a call. -/
def GssCall.accesses [DecidableEq H] : GssCall H → List (Access (GssResource H))
  | importName _ major result => (((completed G major result).map .name).map .acquire).toList
  | acquireCred major result => (((completed G major result).map .credential).map .acquire).toList
  | initSecContext credential context name _ _ _ _ context' output =>
    ((credential.map .credential).map .use).toList ++ ((name.map .name).map .use).toList ++
      Access.replace (context.map .context) (context'.map .context) ++
      ((output.value.map .buffer).map .acquire).toList
  | memory h _ => [.use (.buffer h)]
  | deleteSecContext h => [.release (.context h)]
  | releaseCred h => [.release (.credential h)]
  | releaseName h => [.release (.name h)]
  | releaseBuffer h => [.release (.buffer h)]

/-- The library does what its documentation says of the resources that are
`allocated`. -/
structure GssLaws (allocated : G → Multiset (GssResource H)) : Prop where
  nodup : ∀ g, (allocated g).Nodup
  importName : ∀ g bytes, allocated (Gss.importName g bytes).gss =
    pointee .name (completed G (Gss.importName g bytes).major (Gss.importName g bytes).value) +
      allocated g
  acquireCred : ∀ g, allocated (Gss.acquireCred g).gss =
    pointee .credential (completed G (Gss.acquireCred g).major (Gss.acquireCred g).value) + allocated g
  initSecContext : ∀ g credential context name mech flags input others,
    allocated g = pointee .context context + others →
    pointee .credential credential + pointee .name name ≤ others →
    allocated (Gss.initSecContext g credential context name mech flags input).gss =
      pointee .buffer (Gss.initSecContext g credential context name mech flags input).value.2.value +
        (pointee .context (Gss.initSecContext g credential context name mech flags input).value.1 +
          others)
  deleteSecContext : ∀ g h others, allocated g = {.context h} + others →
    allocated (Gss.deleteSecContext g h) = others
  releaseCred : ∀ g h others, allocated g = {.credential h} + others →
    allocated (Gss.releaseCred g h) = others
  releaseName : ∀ g h others, allocated g = {.name h} + others →
    allocated (Gss.releaseName g h) = others
  releaseBuffer : ∀ g h others, allocated g = {.buffer h} + others →
    allocated (Gss.releaseBuffer g h) = others

end

/-- The provider has to release what is `owned`, and owns nothing of what is
`foreign`; its calls were proper. -/
structure Accounted [Gss G H] [DecidableEq H] (allocated : G → Multiset (GssResource H))
    (foreign owned : Multiset (GssResource H)) (w : GssWorld G H) : Prop where
  ledger : Access.ledger 0 (w.calls.flatMap (GssCall.accesses G)) = some owned
  allocated : allocated w.gss = owned + foreign

/-- What a context owns. -/
def GssapiClientContext.owned (c : GssapiClientContext H) : Multiset (GssResource H) :=
  pointee .context c.context + (pointee .credential c.credential + pointee .name c.name)

namespace GssapiKerberosRpcAuthProvider

def contextOwned : Option (GssapiClientContext H) → Multiset (GssResource H)
  | none => 0
  | some c => c.owned

/-- What a provider owns. -/
def owned (p : GssapiKerberosRpcAuthProvider H) : Multiset (GssResource H) := contextOwned p.context

/-- The provider owns what it got since the library was `g` and did not release,
and once it is dropped nothing is left: each resource was acquired, used and
released, in this order and each time once. -/
structure ReleasesAll [Gss G H] [DecidableEq H] (allocated : G → Multiset (GssResource H)) (g : G)
    (a : GssapiKerberosRpcAuthProvider H × GssWorld G H) : Prop where
  owned : allocated a.2.gss = a.1.owned + allocated g
  dropped : allocated (a.1.drop a.2).gss = allocated g
  lifetimes : ∀ r, Access.Lifetimes r false
    (Access.accessesTo r ((a.1.drop a.2).calls.flatMap (GssCall.accesses G)))

/-- What is done with a provider. -/
inductive Use where
  | initContext (target : String)
  | step (challenge : List UInt8)
  | withServicePrincipal (service : String)
  | withAuthLevel (authLevel : AuthLevel)

/-- A provider is used. -/
inductive UseStep [Gss G H] : GssapiKerberosRpcAuthProvider H × GssWorld G H → Use →
    GssapiKerberosRpcAuthProvider H × GssWorld G H → Prop where
  | initContext {a a' target r} : (initContext target).exec a = (r, a') →
      UseStep a (.initContext target) a'
  | step {a a' challenge r} : (step challenge).exec a = (r, a') → UseStep a (.step challenge) a'
  | withServicePrincipal (p w service) :
      UseStep (p, w) (.withServicePrincipal service) (p.withServicePrincipal service, w)
  | withAuthLevel (p w authLevel) : UseStep (p, w) (.withAuthLevel authLevel) (p.withAuthLevel authLevel, w)

end GssapiKerberosRpcAuthProvider

end Rpce
