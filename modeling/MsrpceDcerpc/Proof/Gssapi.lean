import MsrpceDcerpc.Lib.Triple
import MsrpceDcerpc.Proof.HandshakeTrace
import MsrpceDcerpc.Proof.Invariant
import MsrpceDcerpc.Spec.Standard
import MsrpceDcerpc.Spec.Gssapi

/-!
# The Kerberos provider releases what it owns

Each call of the library accounts for what it gets and releases (`Accounted`),
so a context and a provider that are made, stepped and dropped do
(`GssapiClientContext.step_keeps`, `GssapiKerberosRpcAuthProvider.initContext_keeps`),
whatever the provider is used for (`uses_releasesAll`), by a client too
(`RpcClient.releasesAll`).
-/

namespace Rpce

open Rust Eff Access

section

variable {G H : Type} [Gss G H] [DecidableEq H] {allocated : G → Multiset (GssResource H)}
  {foreign owned : Multiset (GssResource H)} {w : GssWorld G H}

/-! ## Calls -/

namespace Accounted

theorem called {owned' : Multiset (GssResource H)} {gss : G} {call : GssCall H}
    (h : Accounted allocated foreign owned w)
    (hledger : Access.ledger owned (call.accesses G) = some owned')
    (hallocated : allocated gss = owned' + foreign) :
    Accounted allocated foreign owned' (w.called gss call) := by
  refine ⟨?_, hallocated⟩
  rw [GssWorld.called, List.flatMap_append, ledger_append h.ledger, List.flatMap_cons,
    List.flatMap_nil, List.append_nil]
  exact hledger

/-- A resource is released if there is one. -/
theorem releasePointer {kind : H → GssResource H} {release : G → H → G} {call : H → GssCall H}
    {p : Option H} (h : Accounted allocated foreign (pointee kind p + owned) w)
    (hcall : ∀ h, (call h).accesses G = [.release (kind h)])
    (hlaw : ∀ g h others, allocated g = {kind h} + others → allocated (release g h) = others) :
    Accounted allocated foreign owned (releasePointer release call p w) := by
  cases p with
  | none => exact Multiset.zero_add owned ▸ h
  | some p =>
    refine h.called ?_ (hlaw _ p _ (h.allocated.trans (Multiset.add_assoc _ _ _)))
    rw [hcall]
    exact ledger_releases (some (kind p)) owned

/-- A call that acquires something, perhaps. -/
theorem acquired (laws : GssLaws allocated) {r : Option (GssResource H)} {gss : G} {call : GssCall H}
    (h : Accounted allocated foreign owned w) (hcall : call.accesses G = (r.map .acquire).toList)
    (hlaw : allocated gss = inSlot r + allocated w.gss) :
    Accounted allocated foreign (inSlot r + owned) (w.called gss call) := by
  have hallocated : allocated gss = inSlot r + owned + foreign := by
    rw [hlaw, h.allocated, Multiset.add_assoc]
  refine h.called ?_ hallocated
  have hnodup := laws.nodup gss
  rw [hallocated] at hnodup
  rw [hcall, ledger_acquires (Multiset.nodup_add.mp hnodup).1]

theorem releaseGssapiName (laws : GssLaws allocated) {name : Option H}
    (h : Accounted allocated foreign (pointee .name name + owned) w) :
    Accounted allocated foreign owned (releaseGssapiName name w) :=
  h.releasePointer (fun _ => rfl) laws.releaseName

theorem releaseGssapiBuffer (laws : GssLaws allocated) {buffer : GssBuffer H}
    (h : Accounted allocated foreign (pointee .buffer buffer.value + owned) w) :
    Accounted allocated foreign owned (releaseGssapiBuffer buffer w) :=
  h.releasePointer (fun _ => rfl) laws.releaseBuffer

theorem copyGssapiBuffer {buffer : GssBuffer H}
    (h : Accounted allocated foreign (pointee .buffer buffer.value + owned) w) :
    Accounted allocated foreign (pointee .buffer buffer.value + owned) (copyGssapiBuffer buffer w).2 := by
  unfold Rpce.copyGssapiBuffer
  cases hv : buffer.value with
  | none =>
    rw [hv] at h
    exact h
  | some b =>
    rw [hv] at h
    dsimp only
    split
    · exact h
    · refine h.called ?_ h.allocated
      exact ledger_cons (apply_use (Multiset.mem_add.mpr (.inl (Multiset.mem_singleton_self _)))) []

/-- The library makes or steps the context `context` of the credentials and the
name. -/
theorem initSecContext (laws : GssLaws allocated) {credential context name : Option H}
    (h : Accounted allocated foreign
      (pointee .context context + (pointee .credential credential + pointee .name name + owned)) w)
    (mech : List UInt8) (flags : UInt32) (input : Option (List UInt8)) :
    let r := Gss.initSecContext w.gss credential context name mech flags input
    Accounted allocated foreign
      (pointee .buffer r.value.2.value +
        (pointee .context r.value.1 + (pointee .credential credential + pointee .name name + owned)))
      (w.called r.gss (.initSecContext credential context name mech flags input r.major r.value.1
        r.value.2)) := by
  intro r
  generalize hothers : pointee .credential credential + pointee .name name + owned = others at *
  have hallocated : allocated r.gss =
      pointee .buffer r.value.2.value + (pointee .context r.value.1 + others) + foreign := by
    rw [Multiset.add_assoc, Multiset.add_assoc]
    refine laws.initSecContext w.gss _ _ _ _ _ _ _ (h.allocated.trans (Multiset.add_assoc _ _ _)) ?_
    rw [← hothers, Multiset.add_assoc]
    exact Multiset.le_add_right _ _
  have hnodup := laws.nodup r.gss
  rw [hallocated] at hnodup
  have hbuffer := (Multiset.nodup_add.mp hnodup).1
  have hcontext := (Multiset.nodup_add.mp hbuffer).2.1
  have hcredential : pointee .credential credential ≤ pointee .context context + others := by
    rw [← hothers, Multiset.add_assoc]
    exact (Multiset.le_add_right _ _).trans (Multiset.le_add_left _ _)
  have hname : pointee .name name ≤ pointee .context context + others := by
    rw [← hothers]
    exact ((Multiset.le_add_left _ _).trans (Multiset.le_add_right _ _)).trans (Multiset.le_add_left _ _)
  refine h.called ?_ hallocated
  rw [GssCall.accesses, List.append_assoc, List.append_assoc, ledger_append (ledger_uses hcredential),
    ledger_append (ledger_uses hname)]
  exact (ledger_append (ledger_replace hcontext) _).trans (ledger_acquires hbuffer)

end Accounted

theorem importGssapiServiceName_triple (laws : GssLaws allocated) (serviceName : String) :
    Triple (Accounted allocated foreign owned) (importGssapiServiceName (G := G) serviceName)
      (fun name => Accounted allocated foreign (pointee .name name + owned))
      (fun _ => Accounted allocated foreign owned) := by
  refine .ofFun fun w h => ?_
  have hacq := h.acquired laws
    (show (GssCall.importName serviceName.toUTF8.toList _ _).accesses G = _ from rfl)
    (laws.importName w.gss serviceName.toUTF8.toList)
  dsimp only
  split
  · rename_i hc
    rw [completed, if_pos hc] at hacq
    exact hacq
  · rename_i hc
    rw [completed, if_neg hc] at hacq
    exact Multiset.zero_add owned ▸ hacq

theorem acquireGssapiCredentials_triple (laws : GssLaws allocated) :
    Triple (Accounted allocated foreign owned) (acquireGssapiCredentials (G := G))
      (fun credential => Accounted allocated foreign (pointee .credential credential + owned))
      (fun _ => Accounted allocated foreign owned) := by
  refine .ofFun fun w h => ?_
  have hacq := h.acquired laws (show (GssCall.acquireCred _ _).accesses G = _ from rfl)
    (laws.acquireCred w.gss)
  dsimp only
  split
  · rename_i hc
    rw [completed, if_pos hc] at hacq
    exact hacq
  · rename_i hc
    rw [completed, if_neg hc] at hacq
    exact Multiset.zero_add owned ▸ hacq

/-! ## Contexts -/

namespace GssapiClientContext

theorem new_triple (laws : GssLaws allocated) (serviceName : String) :
    Triple (Accounted allocated foreign owned) (new (G := G) serviceName)
      (fun c => Accounted allocated foreign (c.owned + owned))
      (fun _ => Accounted allocated foreign owned) := by
  refine (importGssapiServiceName_triple laws serviceName).bind fun name => .ofFun fun w h => ?_
  have hcred := acquireGssapiCredentials_triple laws w h
  generalize acquireGssapiCredentials.exec w = r at hcred ⊢
  rcases r with ⟨err | credential, w'⟩
  · exact hcred.releaseGssapiName laws
  · show Accounted allocated foreign (pointee .context none + _ + owned) w'
    rw [show pointee (H := H) .context none = 0 from rfl, Multiset.zero_add, Multiset.add_assoc]
    exact hcred

omit [DecidableEq H] in
theorem owned_add (c : GssapiClientContext H) (others : Multiset (GssResource H)) :
    c.owned + others =
      pointee .context c.context + (pointee .credential c.credential + pointee .name c.name + others) :=
  Multiset.add_assoc _ _ _

/-- A step, after which the context owns what the library left it. -/
theorem step_keeps (laws : GssLaws allocated) (input : Option (List UInt8)) :
    Keeps (fun cw : GssapiClientContext H × GssWorld G H =>
      Accounted allocated foreign (cw.1.owned + owned) cw.2) (step input) := by
  rintro ⟨c, w⟩ h
  dsimp only at h ⊢
  rw [owned_add] at h ⊢
  have hinit := h.initSecContext laws kerberosMechOid (requestFlags G) input
  rw [step, exec_ofFun]
  dsimp only at hinit ⊢
  split
  · exact hinit.releaseGssapiBuffer laws
  · exact hinit.copyGssapiBuffer.releaseGssapiBuffer laws

theorem accounted_drop (laws : GssLaws allocated) {c : GssapiClientContext H}
    (h : Accounted allocated foreign (c.owned + owned) w) :
    Accounted allocated foreign owned (c.drop w) := by
  rw [owned_add] at h
  have hcontext := h.releasePointer (fun h => show (GssCall.deleteSecContext h).accesses G = _ from rfl)
    laws.deleteSecContext
  rw [Multiset.add_assoc] at hcontext
  have hcredential := hcontext.releasePointer (fun h => show (GssCall.releaseCred h).accesses G = _ from rfl)
    laws.releaseCred
  exact hcredential.releaseGssapiName laws

end GssapiClientContext

/-! ## The provider -/

namespace GssapiKerberosRpcAuthProvider

theorem accounted_dropContext (laws : GssLaws allocated) {context : Option (GssapiClientContext H)}
    (h : Accounted allocated foreign (contextOwned context + owned) w) :
    Accounted allocated foreign owned (dropContext context w) := by
  cases context with
  | none => exact Multiset.zero_add owned ▸ h
  | some c => exact GssapiClientContext.accounted_drop laws h

/-- The provider owns what is accounted to it. -/
theorem initContext_keeps (laws : GssLaws allocated) (target : String) :
    Keeps (fun a : GssapiKerberosRpcAuthProvider H × GssWorld G H =>
      Accounted allocated foreign a.1.owned a.2) (initContext target) := by
  rintro ⟨p, w⟩ h
  dsimp only at h
  rw [initContext, exec_ofFun]
  dsimp only
  have hnew := GssapiClientContext.new_triple laws (p.servicePrincipal.getD (serviceNameForTarget target)) w h
  rw [buildContext]
  generalize (GssapiClientContext.new (G := G) _).exec w = r at hnew ⊢
  rcases r with ⟨err | c, w₁⟩
  · exact hnew
  have hstep := GssapiClientContext.step_keeps laws none (c, w₁) hnew
  dsimp only
  generalize (GssapiClientContext.step none).exec (c, w₁) = r at hstep ⊢
  rcases r with ⟨err | token, c', w₂⟩
  · exact GssapiClientContext.accounted_drop laws hstep
  cases token with
  | none => exact GssapiClientContext.accounted_drop laws hstep
  | some token => exact accounted_dropContext laws ((Multiset.add_comm _ _).symm ▸ hstep)

theorem step_keeps (laws : GssLaws allocated) (challenge : List UInt8) :
    Keeps (fun a : GssapiKerberosRpcAuthProvider H × GssWorld G H =>
      Accounted allocated foreign a.1.owned a.2) (step challenge) := by
  rintro ⟨⟨servicePrincipal, context, authLevel⟩, w⟩ h
  cases context with
  | none => exact h
  | some c =>
    have hc : Accounted allocated foreign (c.owned + 0) w := by
      rw [Multiset.add_zero]
      exact h
    have hstep := GssapiClientContext.step_keeps laws (some challenge) (c, w) hc
    dsimp only at hstep
    rw [Multiset.add_zero] at hstep
    exact hstep

/-- Whatever was done with a provider, it is accounted for. -/
theorem UseStep.accounted (laws : GssLaws allocated) {a a' : GssapiKerberosRpcAuthProvider H × GssWorld G H}
    {use : Use} (hstep : UseStep a use a') (h : Accounted allocated foreign a.1.owned a.2) :
    Accounted allocated foreign a'.1.owned a'.2 := by
  cases hstep with
  | @initContext _ _ target _ hexec =>
    have hkeeps := initContext_keeps laws target _ h
    rw [hexec] at hkeeps
    exact hkeeps
  | @step _ _ challenge _ hexec =>
    have hkeeps := step_keeps laws challenge _ h
    rw [hexec] at hkeeps
    exact hkeeps
  | withServicePrincipal => exact h
  | withAuthLevel => exact h

theorem releasesAll_of_accounted (laws : GssLaws allocated) {g : G}
    {a : GssapiKerberosRpcAuthProvider H × GssWorld G H}
    (h : Accounted allocated (allocated g) a.1.owned a.2) : ReleasesAll allocated g a := by
  have hdropped : Accounted allocated (allocated g) 0 (a.1.drop a.2) :=
    accounted_dropContext laws ((Multiset.add_zero _).symm ▸ h)
  refine ⟨h.allocated, hdropped.allocated.trans (Multiset.zero_add _), fun r => ?_⟩
  exact lifetimes_of_ledger Multiset.nodup_zero hdropped.ledger r

/-- A provider without a context, of a library of which it has nothing. -/
theorem accounted_start {p : GssapiKerberosRpcAuthProvider H} (hp : p.context = none) (g : G) :
    Accounted allocated (allocated g) p.owned { gss := g, calls := [] } := by
  rw [owned, hp]
  exact ⟨rfl, (Multiset.zero_add _).symm⟩

/-- Whatever is done with a provider, in whatever order and with whatever
result, it releases what it acquires. -/
theorem uses_releasesAll (laws : GssLaws allocated) (g : G) {uses : List Use}
    {a : GssapiKerberosRpcAuthProvider H × GssWorld G H}
    (h : Run UseStep (new, { gss := g, calls := [] }) uses a) : ReleasesAll allocated g a := by
  refine releasesAll_of_accounted laws (h.invariant
    (fun a => Accounted allocated (allocated g) a.1.owned a.2) ?_ (accounted_start rfl g))
  exact fun _ _ _ ha hstep => hstep.accounted laws ha

theorem accounted_invariant (laws : GssLaws allocated) :
    ProviderInvariant fun a : GssapiKerberosRpcAuthProvider H × GssWorld G H =>
      Accounted allocated foreign a.1.owned a.2 where
  initContext a target := initContext_keeps laws target a
  step a challenge := step_keeps laws challenge a

end GssapiKerberosRpcAuthProvider

/-- A bind that fails releases what its provider acquired, and a client that was
bound does, whatever it was used for. -/
theorem RpcClient.releasesAll [DataRepresentation] [UuidCrate] {T : Type} [RpcTransport T]
    (laws : GssLaws allocated) {transport : T} {proposed : List PresentationContext} {target : String}
    {p : GssapiKerberosRpcAuthProvider H} (hp : p.context = none) {g : G}
    {r : Result (RpcClient T (GssapiKerberosRpcAuthProvider H × GssWorld G H))}
    {w : World T (GssapiKerberosRpcAuthProvider H × GssWorld G H)}
    (h : bindWithAuthProvider transport proposed target (p, { gss := g, calls := [] }) = (r, w)) :
    w.Provides (GssapiKerberosRpcAuthProvider.ReleasesAll allocated g) ∧
      ∀ c, r = .ok c → ∀ uses c', Run UseStep c uses c' →
        c'.toWorld.Provides (GssapiKerberosRpcAuthProvider.ReleasesAll allocated g) := by
  have hI : WorldInvariant (World.Provides (T := T)
      fun a : GssapiKerberosRpcAuthProvider H × GssWorld G H =>
        Accounted allocated (allocated g) a.1.owned a.2) :=
    (GssapiKerberosRpcAuthProvider.accounted_invariant laws).provides
  have hreleases : ∀ {v : World T (GssapiKerberosRpcAuthProvider H × GssWorld G H)},
      v.Provides (fun a => Accounted allocated (allocated g) a.1.owned a.2) →
      v.Provides (GssapiKerberosRpcAuthProvider.ReleasesAll allocated g) := by
    rintro v ⟨a, ha, haccounted⟩
    exact ⟨a, ha, GssapiKerberosRpcAuthProvider.releasesAll_of_accounted laws haccounted⟩
  obtain ⟨hw, hc⟩ := hI.bind ⟨_, rfl, GssapiKerberosRpcAuthProvider.accounted_start hp g⟩ h
  exact ⟨hreleases hw, fun c hr uses c' hrun => hreleases (hI.uses hrun (hc c hr))⟩

end

/-! ## A library that numbers its handles -/

def GssResource.handle {H : Type} : GssResource H → H
  | name h => h
  | credential h => h
  | context h => h
  | buffer h => h

/-- A library whose handles are consecutive numbers, and whose contexts are
established with the second token. -/
structure NumberingGss where
  next : Nat
  allocated : Multiset (GssResource Nat)
  nodup : allocated.Nodup
  lt_next : ∀ r ∈ allocated, r.handle < next

namespace NumberingGss

def start : NumberingGss :=
  { next := 0, allocated := 0, nodup := Multiset.nodup_zero, lt_next := fun r hr => by cases hr }

def acquire (g : NumberingGss) (kind : Nat → GssResource Nat) (h : ∀ n, (kind n).handle = n) :
    NumberingGss where
  next := g.next + 1
  allocated := {kind g.next} + g.allocated
  nodup := by
    rw [Multiset.singleton_add, Multiset.nodup_cons]
    exact ⟨fun hmem => absurd (g.lt_next _ hmem) (by rw [h]; exact Nat.lt_irrefl _), g.nodup⟩
  lt_next r hr := by
    rw [Multiset.singleton_add, Multiset.mem_cons] at hr
    rcases hr with rfl | hr
    · rw [h]
      exact Nat.lt_succ_self _
    · exact Nat.lt_succ_of_lt (g.lt_next r hr)

def release (g : NumberingGss) (r : GssResource Nat) : NumberingGss where
  next := g.next
  allocated := g.allocated.erase r
  nodup := Multiset.nodup_of_le (Multiset.erase_le _ _) g.nodup
  lt_next s hs := g.lt_next s (Multiset.mem_of_mem_erase hs)

theorem release_allocated (g : NumberingGss) (r : GssResource Nat) (others : Multiset (GssResource Nat))
    (h : g.allocated = {r} + others) : (g.release r).allocated = others := by
  show g.allocated.erase r = others
  rw [h, Multiset.singleton_add, Multiset.erase_cons_head]

instance : Gss NumberingGss Nat where
  GSS_S_COMPLETE := 0
  GSS_S_CONTINUE_NEEDED := 1
  GSS_C_MUTUAL_FLAG := 2
  GSS_C_INTEG_FLAG := 32
  GSS_C_DCE_STYLE := 4096
  importName g _ := ⟨0, 0, some g.next, g.acquire .name fun _ => rfl⟩
  acquireCred g := ⟨0, 0, some g.next, g.acquire .credential fun _ => rfl⟩
  initSecContext g _ context _ _ _ _ :=
    match context with
    | none =>
      ⟨1, 0, (some g.next, ⟨1, some (g.next + 1)⟩),
        (g.acquire .context fun _ => rfl).acquire .buffer fun _ => rfl⟩
    | some h => ⟨0, 0, (some h, ⟨1, some g.next⟩), g.acquire .buffer fun _ => rfl⟩
  deleteSecContext g h := g.release (.context h)
  releaseCred g h := g.release (.credential h)
  releaseName g h := g.release (.name h)
  releaseBuffer g h := g.release (.buffer h)
  memory _ _ n := List.replicate n 0x60

theorem laws : GssLaws NumberingGss.allocated where
  nodup g := g.nodup
  importName _ _ := rfl
  acquireCred _ := rfl
  initSecContext g credential context name mech flags input others h _ := by
    cases context with
    | none =>
      have h' : g.allocated = others := h.trans (Multiset.zero_add _)
      show {GssResource.buffer (g.next + 1)} + ({GssResource.context g.next} + g.allocated) = _
      rw [h']
      rfl
    | some context =>
      show {GssResource.buffer g.next} + g.allocated = _
      rw [h]
      rfl
  deleteSecContext g h others := g.release_allocated _ others
  releaseCred g h others := g.release_allocated _ others
  releaseName g h others := g.release_allocated _ others
  releaseBuffer g h others := g.release_allocated _ others

end NumberingGss

section

open NumberingGss Standard

/-- A provider that makes a context, steps it, and does so again. -/
theorem GssapiKerberosRpcAuthProvider.uses_releasesAll_twice :
    ∃ a : GssapiKerberosRpcAuthProvider Nat × GssWorld NumberingGss Nat,
      Run UseStep (new, { gss := start, calls := [] })
        [.initContext "host/dc01", .step [1], .initContext "cifs/fs01", .step [2]] a ∧
      a.1.isContextEstablished = true ∧ ReleasesAll allocated start a :=
  have hrun := Run.cons (.initContext rfl) (.cons (.step rfl) (.cons (.initContext rfl)
    (.cons (.step rfl) (.nil _))))
  ⟨_, hrun, rfl, uses_releasesAll laws start hrun⟩

/-- A transport that delivers a bind ack with a challenge. -/
def challenging : MemoryTransport := ⟨[challengingAck.encode.toOption.getD []], []⟩

/-- The bind succeeds, in two steps of the context, and a call is made that gets no
answer. -/
theorem RpcClient.releasesAll_challenged :
    ∃ (c c' : RpcClient MemoryTransport (GssapiKerberosRpcAuthProvider Nat × GssWorld NumberingGss Nat))
      (w : World MemoryTransport (GssapiKerberosRpcAuthProvider Nat × GssWorld NumberingGss Nat)),
      bindWithAuthProvider challenging [ndr32Context] "host/dc01"
        (GssapiKerberosRpcAuthProvider.new, { gss := start, calls := [] }) = (.ok c, w) ∧
      w.Provides (GssapiKerberosRpcAuthProvider.ReleasesAll allocated start) ∧
      Run Rpce.UseStep c [.withMaxXmitFrag 64, .callRaw 1 7 [1, 2, 3]] c' ∧
      c'.toWorld.Provides (GssapiKerberosRpcAuthProvider.ReleasesAll allocated start) := by
  have hok : (bindWithAuthProvider challenging [ndr32Context] "host/dc01"
      ((GssapiKerberosRpcAuthProvider.new, { gss := start, calls := [] }) :
        GssapiKerberosRpcAuthProvider Nat × GssWorld NumberingGss Nat)).1.isOk = true := by decide +kernel
  rcases hbound : bindWithAuthProvider challenging [ndr32Context] "host/dc01"
    ((GssapiKerberosRpcAuthProvider.new, { gss := start, calls := [] }) :
      GssapiKerberosRpcAuthProvider Nat × GssWorld NumberingGss Nat) with ⟨e | c, w⟩
  · rw [hbound] at hok
    cases hok
  obtain ⟨hw, hc⟩ := RpcClient.releasesAll laws rfl hbound
  have hrun : Run Rpce.UseStep c [.withMaxXmitFrag 64, .callRaw 1 7 [1, 2, 3]] _ :=
    .cons (.withMaxXmitFrag c 64) (.cons (.callRaw rfl) (.nil _))
  exact ⟨c, _, w, rfl, hw, hrun, hc c rfl _ _ hrun⟩

end

end Rpce
