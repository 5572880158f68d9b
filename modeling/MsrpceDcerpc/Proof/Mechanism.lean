import MsrpceDcerpc.Spec.Mechanism
import MsrpceDcerpc.Proof.Gssapi
import MsrpceDcerpc.Proof.Uses

/-!
# The Kerberos provider negotiates

Of a library that has a mechanism behind its handles, a new context is for the
service that was asked for, and nothing is done to what there was
(`GssapiClientContext.new_fresh`); a step of a context is one call of the library
(`GssapiClientContext.step_cases`), and makes what the mechanism does
(`GssapiClientContext.step_ok`). So each use of a provider is a step of a negotiation
(`use_negotiates`), whatever it is used for (`uses_negotiate`), and a bind that
succeeds is an exchange of tokens (`RpcClient.kerberos_negotiated`).
-/

namespace Rpce

open Rust Eff

variable {G H S : Type}

theorem mem_pointee {kind : H → GssResource H} {p : Option H} {r : GssResource H} :
    r ∈ pointee kind p ↔ ∃ h, p = some h ∧ r = kind h := by
  cases p with
  | none => simp [pointee, Access.inSlot]
  | some h => simp [pointee, Access.inSlot]

theorem GssapiClientContext.mem_owned {c : GssapiClientContext H} {r : GssResource H} :
    r ∈ c.owned ↔ (∃ h, c.context = some h ∧ r = .context h) ∨
      (∃ h, c.credential = some h ∧ r = .credential h) ∨ ∃ h, c.name = some h ∧ r = .name h := by
  simp only [owned, Multiset.mem_add, mem_pointee]

section

variable {v v' : GssResource H → Option (GssContent S)} {c : GssapiClientContext H}

namespace GssapiClientContext.Allocated

theorem keeps {touched : Multiset (GssResource H)} (h : c.Allocated v) (hk : KeepsBut touched v v')
    (hd : ∀ r ∈ c.owned, r ∉ touched) : c.Allocated v' :=
  ⟨h.name, fun r hr => hk.isSome (h.owned r hr) (hd r hr)⟩

theorem isSome_context (h : c.Allocated v) (context : H) (hc : c.context = some context) :
    (v (.context context)).isSome := h.owned _ (mem_owned.mpr (.inl ⟨context, hc, rfl⟩))

theorem isSome_credential (h : c.Allocated v) (credential : H) (hc : c.credential = some credential) :
    (v (.credential credential)).isSome := h.owned _ (mem_owned.mpr (.inr (.inl ⟨credential, hc, rfl⟩)))

theorem exists_name (h : c.Allocated v) : ∃ name, c.name = some name ∧ (v (.name name)).isSome := by
  obtain ⟨name, hname⟩ := Option.ne_none_iff_exists'.mp h.name
  exact ⟨name, hname, h.owned _ (mem_owned.mpr (.inr (.inr ⟨name, hname, rfl⟩)))⟩

end GssapiClientContext.Allocated

namespace Negotiation.At

open GssapiKerberosRpcAuthProvider

variable {n : Negotiation S} {context : Option (GssapiClientContext H)}

theorem isSome (h : n.At v context) : ∀ r ∈ contextOwned context, (v r).isSome := by
  cases h with
  | unstarted => exact fun r hr => absurd hr (Multiset.notMem_zero r)
  | underway halloc => exact halloc.owned
  | failed halloc => exact halloc.owned

theorem keeps {touched : Multiset (GssResource H)} (h : n.At v context) (hk : KeepsBut touched v v')
    (hd : ∀ r ∈ contextOwned context, r ∉ touched) : n.At v' context := by
  cases h with
  | unstarted => exact .unstarted
  | underway halloc hcontext hstate =>
    refine .underway (halloc.keeps hk hd) hcontext (hk _ _ hstate (hd _ ?_))
    exact GssapiClientContext.mem_owned.mpr (.inl ⟨_, hcontext, rfl⟩)
  | failed halloc => exact .failed (halloc.keeps hk hd)

theorem established_eq (h : n.At v context) : n.established = context.any (·.established) := by
  cases h <;> rfl

end Negotiation.At

end

variable [Gss G H] {m : Mechanism S} {view : G → GssResource H → Option (GssContent S)}
  {w : GssWorld G H}

/-! ## What is released -/

omit [Gss G H] in
theorem releasePointer_keeps {kind : H → GssResource H} {release : G → H → G}
    (hlaw : ∀ g h, KeepsBut {kind h} (view g) (view (release g h))) (call : H → GssCall H)
    (p : Option H) (w : GssWorld G H) :
    KeepsBut (pointee kind p) (view w.gss) (view (releasePointer release call p w).gss) := by
  cases p with
  | none => exact .refl _ _
  | some h => exact hlaw w.gss h

namespace Mechanism.Runs

variable (hm : m.Runs view)

include hm

theorem releaseGssapiName_keeps (name : Option H) (w : GssWorld G H) :
    KeepsBut (pointee .name name) (view w.gss) (view (releaseGssapiName name w).gss) :=
  releasePointer_keeps hm.releaseName _ name w

theorem releaseGssapiBuffer_keeps (buffer : GssBuffer H) (w : GssWorld G H) :
    KeepsBut 0 (view w.gss) (view (releaseGssapiBuffer buffer w).gss) := by
  unfold releaseGssapiBuffer releasePointer
  cases buffer.value with
  | none => exact .refl _ _
  | some h => exact hm.releaseBuffer w.gss h

/-- A context that is dropped leaves the others as they are. -/
theorem drop_keeps (c : GssapiClientContext H) (w : GssWorld G H) :
    KeepsBut c.owned (view w.gss) (view (c.drop w).gss) := by
  have hcontext := releasePointer_keeps hm.deleteSecContext .deleteSecContext c.context w
  have hcredential := releasePointer_keeps hm.releaseCred .releaseCred c.credential
    (releasePointer Gss.deleteSecContext .deleteSecContext c.context w)
  have hname := hm.releaseGssapiName_keeps c.name
    (releasePointer Gss.releaseCred .releaseCred c.credential
      (releasePointer Gss.deleteSecContext .deleteSecContext c.context w))
  exact hcontext.trans (hcredential.trans hname)

end Mechanism.Runs

/-! ## A new context -/

/-- A context for `service` that was made since `v`, and nothing was done to what
there was. -/
structure Fresh (v v' : GssResource H → Option (GssContent S)) (service : List UInt8)
    (c : GssapiClientContext H) : Prop where
  keeps : KeepsBut 0 v v'
  owned : ∀ r ∈ c.owned, v r = none
  allocated : c.Allocated v'
  context : c.context = none
  name : ∃ h, c.name = some h ∧ v' (.name h) = some (.name service)

theorem importGssapiServiceName_new (hm : m.Runs view) (serviceName : String) (w : GssWorld G H) :
    Outcome (fun name w' => KeepsBut 0 (view w.gss) (view w'.gss) ∧ ∃ h, name = some h ∧
        IsNew (view w.gss) (view w'.gss) (.name h) (.name serviceName.toUTF8.toList))
      (fun _ w' => KeepsBut 0 (view w.gss) (view w'.gss))
      ((importGssapiServiceName (G := G) serviceName).exec w) := by
  obtain ⟨hkeeps, hnew⟩ := hm.importName w.gss serviceName.toUTF8.toList
  rw [importGssapiServiceName, exec_ofFun]
  dsimp only
  split
  · rename_i hc
    exact ⟨hkeeps, hnew hc⟩
  · exact hkeeps

theorem acquireGssapiCredentials_new (hm : m.Runs view) (w : GssWorld G H) :
    Outcome (fun credential w' => KeepsBut 0 (view w.gss) (view w'.gss) ∧ ∀ h, credential = some h →
        IsNew (view w.gss) (view w'.gss) (.credential h) .credential)
      (fun _ w' => KeepsBut 0 (view w.gss) (view w'.gss)) ((acquireGssapiCredentials (G := G)).exec w) := by
  obtain ⟨hkeeps, hnew⟩ := hm.acquireCred w.gss
  rw [acquireGssapiCredentials, exec_ofFun]
  dsimp only
  split
  · rename_i hc
    exact ⟨hkeeps, hnew hc⟩
  · exact hkeeps

namespace GssapiClientContext

theorem new_fresh (hm : m.Runs view) (serviceName : String) (w : GssWorld G H) :
    Outcome (fun c w' => Fresh (view w.gss) (view w'.gss) serviceName.toUTF8.toList c)
      (fun _ w' => KeepsBut 0 (view w.gss) (view w'.gss)) ((new (G := G) serviceName).exec w) := by
  have himport := importGssapiServiceName_new hm serviceName w
  rw [new, exec_bind]
  generalize (importGssapiServiceName (G := G) serviceName).exec w = r at himport ⊢
  rcases r with ⟨err | name, w₁⟩
  · exact himport
  obtain ⟨hkeeps₁, h, rfl, hname⟩ := himport
  have hacquire := acquireGssapiCredentials_new hm w₁
  dsimp only
  rw [exec_ofFun]
  generalize (acquireGssapiCredentials (G := G)).exec w₁ = r at hacquire ⊢
  rcases r with ⟨err | credential, w₂⟩
  · refine ((hkeeps₁.trans hacquire).trans (hm.releaseGssapiName_keeps (some h) w₂)).of_fresh fun r hr => ?_
    rw [Multiset.add_zero, Multiset.zero_add, mem_pointee] at hr
    obtain ⟨_, hsome, rfl⟩ := hr
    cases hsome
    exact hname.fresh
  · obtain ⟨hkeeps₂, hcredential⟩ := hacquire
    have hname₂ := hkeeps₂ _ _ hname.content (Multiset.notMem_zero _)
    refine ⟨hkeeps₁.trans hkeeps₂, fun r hr => ?_, ⟨Option.some_ne_none _, fun r hr => ?_⟩, rfl,
      h, rfl, hname₂⟩
    · rcases mem_owned.mp hr with ⟨_, hnone, -⟩ | ⟨_, hsome, rfl⟩ | ⟨_, hsome, rfl⟩
      · cases hnone
      · exact hkeeps₁.eq_none (hcredential _ hsome).fresh
      · cases hsome
        exact hname.fresh
    · rcases mem_owned.mp hr with ⟨_, hnone, -⟩ | ⟨_, hsome, rfl⟩ | ⟨_, hsome, rfl⟩
      · cases hnone
      · exact Option.isSome_of_eq_some (hcredential _ hsome).content
      · cases hsome
        exact Option.isSome_of_eq_some hname₂

/-! ## A step of a context -/

/-- A context that was `c` is `c'`: its context is another one or new, and nothing
else has changed. -/
structure Advanced (v v' : GssResource H → Option (GssContent S)) (c c' : GssapiClientContext H) :
    Prop where
  keeps : KeepsBut (pointee .context c.context) v v'
  allocated : c'.Allocated v'
  owned : ∀ r ∈ c'.owned, r ∈ c.owned ∨ v r = none

end GssapiClientContext

theorem GssBuffer.Has.copyGssapiBuffer {buffer : GssBuffer H} {token : List UInt8}
    (h : buffer.Has w.gss token) : (copyGssapiBuffer buffer w).1 = token := by
  rw [Rpce.copyGssapiBuffer]
  split
  · rename_i hnull
    exact (h.null hnull).symm
  · rename_i b hb
    split
    · rename_i hlength
      exact (List.eq_nil_of_length_eq_zero (h.length.symm.trans hlength)).symm
    · rw [h.length]
      exact h.memory b hb

theorem copyGssapiBuffer_gss (buffer : GssBuffer H) (w : GssWorld G H) :
    (copyGssapiBuffer buffer w).2.gss = w.gss := by
  rw [copyGssapiBuffer]
  split
  · rfl
  · split <;> rfl

namespace GssapiClientContext

variable {c c' : GssapiClientContext H} {w' : GssWorld G H} {input : Option (List UInt8)}
  {result : Except RpcAuthError (Option (List UInt8))} {r : GssResult G (Option H × GssBuffer H)}

/-- A step is one call of the library, after which only the buffer is released. -/
theorem step_cases (hr : Gss.initSecContext w.gss c.credential c.context c.name kerberosMechOid
      (requestFlags G) input = r) (hexec : (step input).exec (c, w) = (result, (c', w'))) :
    (∃ w₁ : GssWorld G H, w₁.gss = r.gss ∧ w' = releaseGssapiBuffer r.value.2 w₁) ∧
      (∃ established, c' = { c with context := r.value.1, established }) ∧
      ((∃ err, result = .error err) ∧ c'.established = c.established ∨
        Stepped G r.major ∧ c'.established = decide (r.major = Gss.GSS_S_COMPLETE G) ∧
          ∃ token, result = .ok token ∧
            ∀ made, r.value.2.Has r.gss made → token = if made = [] then none else some made) := by
  rw [step, exec_ofFun] at hexec
  dsimp only at hexec
  rw [hr] at hexec
  split at hexec
  · cases hexec
    exact ⟨⟨_, rfl, rfl⟩, ⟨_, rfl⟩, .inl ⟨⟨_, rfl⟩, rfl⟩⟩
  · rename_i hmajor
    rw [not_and_or, not_not, not_not] at hmajor
    cases hexec
    refine ⟨⟨_, copyGssapiBuffer_gss _ _, rfl⟩, ⟨_, rfl⟩, .inr ⟨hmajor, rfl, _, rfl, fun made hmade => ?_⟩⟩
    have hcopy (call : GssCall H) : (copyGssapiBuffer r.value.2 (w.called r.gss call)).1 = made :=
      GssBuffer.Has.copyGssapiBuffer (w := w.called r.gss call) hmade
    rw [hcopy]

theorem step_advanced (hm : m.Runs view) (h : c.Allocated (view w.gss))
    (hexec : (step input).exec (c, w) = (result, (c', w'))) :
    Advanced (view w.gss) (view w'.gss) c c' := by
  obtain ⟨name, hname, hlive⟩ := h.exists_name
  obtain ⟨hkeeps, hcontext⟩ := hm.initSecContext w.gss c.credential c.context name input
    h.isSome_credential h.isSome_context hlive
  rw [← hname] at hkeeps hcontext
  generalize hr : Gss.initSecContext w.gss c.credential c.context c.name kerberosMechOid (requestFlags G)
    input = r at hkeeps hcontext
  obtain ⟨⟨w₁, hw₁, rfl⟩, ⟨established, rfl⟩, -⟩ := step_cases hr hexec
  have hbuffer := hm.releaseGssapiBuffer_keeps r.value.2 w₁
  rw [hw₁] at hbuffer
  have hall := hkeeps.trans hbuffer
  rw [Multiset.add_zero] at hall
  refine ⟨hall, ⟨h.name, fun r hr => ?_⟩, fun r hr => ?_⟩
  · rcases mem_owned.mp hr with ⟨h', hh', rfl⟩ | hrest
    · exact hbuffer.isSome (hcontext h' hh').1 (Multiset.notMem_zero _)
    · refine hall.isSome (h.owned r (mem_owned.mpr (.inr hrest))) fun hmem => ?_
      obtain ⟨_, -, rfl⟩ := mem_pointee.mp hmem
      rcases hrest with ⟨_, -, hne⟩ | ⟨_, -, hne⟩ <;> cases hne
  · rcases mem_owned.mp hr with ⟨h', hh', rfl⟩ | hrest
    · exact (hcontext h' hh').2.imp_left fun hc => mem_owned.mpr (.inl ⟨h', hc, rfl⟩)
    · exact .inl (mem_owned.mpr (.inr hrest))

/-- What a step of a context gives, if the library does not fail. -/
theorem step_ok {Made : List UInt8 → S → Bool → Prop} {token : Option (List UInt8)} (hm : m.Runs view)
    (hsteps : (Gss.initSecContext w.gss c.credential c.context c.name kerberosMechOid (requestFlags G)
      input).Steps view Made) (hexec : (step input).exec (c, w) = (.ok token, (c', w'))) :
    ∃ h s, c'.context = some h ∧ view w'.gss (.context h) = some (.context (some s)) ∧
      Made (token.getD []) s c'.established ∧ token ≠ some [] := by
  generalize hr : Gss.initSecContext w.gss c.credential c.context c.name kerberosMechOid (requestFlags G)
    input = r at hsteps
  obtain ⟨⟨w₁, hw₁, rfl⟩, ⟨established, rfl⟩, ⟨⟨err, herr⟩, -⟩ | ⟨hstepped, rfl, _, hok, htoken⟩⟩ :=
    step_cases hr hexec
  · cases herr
  obtain ⟨h, made, s, hh, hhas, hs, hmade⟩ := hsteps hstepped
  rw [← hw₁] at hs
  have hcontent := hm.releaseGssapiBuffer_keeps r.value.2 w₁ _ _ hs (Multiset.notMem_zero _)
  cases hok
  obtain rfl := htoken made hhas
  by_cases hnil : made = []
  · subst hnil
    exact ⟨h, s, hh, hcontent, hmade, (Option.some_ne_none []).symm⟩
  · rw [if_neg hnil]
    exact ⟨h, s, hh, hcontent, hmade, fun hsome => hnil (Option.some.inj hsome)⟩

theorem step_error {err : RpcAuthError} (hexec : (step input).exec (c, w) = (.error err, (c', w'))) :
    c'.established = c.established := by
  obtain ⟨-, -, ⟨-, hestablished⟩ | ⟨-, -, _, hok, -⟩⟩ := step_cases rfl hexec
  · exact hestablished
  · cases hok

end GssapiClientContext

/-- A step of a new context does nothing to what there was before it. -/
theorem Fresh.advanced {v v₁ v₂ : GssResource H → Option (GssContent S)} {service : List UInt8}
    {c c' : GssapiClientContext H} (h : Fresh v v₁ service c)
    (h' : GssapiClientContext.Advanced v₁ v₂ c c') : KeepsBut 0 v v₂ ∧ ∀ r ∈ c'.owned, v r = none := by
  refine ⟨?_, fun r hr => (h'.owned r hr).elim (h.owned r) h.keeps.eq_none⟩
  have hkeeps := h.keeps.trans h'.keeps
  rwa [h.context] at hkeeps

/-! ## The provider -/

namespace GssapiKerberosRpcAuthProvider

variable {p p' : GssapiKerberosRpcAuthProvider H} {w' : GssWorld G H} {n : Negotiation S}
  {result : Except RpcAuthError (List UInt8)}

theorem dropContext_keeps (hm : m.Runs view) (context : Option (GssapiClientContext H)) (w : GssWorld G H) :
    KeepsBut (contextOwned context) (view w.gss) (view (dropContext context w).gss) := by
  cases context with
  | none => exact .refl _ _
  | some c => exact hm.drop_keeps c w

theorem initContext_negotiates (hm : m.Runs view) (hn : n.At (view w.gss) p.context) {target : String}
    (hexec : (initContext target).exec (p, w) = (result, (p', w'))) :
    ∃ n', Negotiation.Step m (service p.servicePrincipal) n (.initContext target result) n' ∧
      n'.At (view w'.gss) p'.context ∧ p'.servicePrincipal = p.servicePrincipal := by
  rw [initContext, exec_ofFun] at hexec
  dsimp only at hexec
  have hnew := GssapiClientContext.new_fresh hm (p.servicePrincipal.getD (serviceNameForTarget target)) w
  rw [buildContext] at hexec
  generalize (GssapiClientContext.new (G := G) _).exec w = r at hnew hexec
  rcases r with ⟨err | c, w₁⟩
  · cases hexec
    exact ⟨n, .notInitiated n target err, hn.keeps hnew fun r _ => Multiset.notMem_zero r, rfl⟩
  dsimp only at hexec
  rcases hstep : (GssapiClientContext.step none).exec (c, w₁) with ⟨token, c', w₂⟩
  rw [hstep] at hexec
  obtain ⟨hkeeps, hfresh⟩ := hnew.advanced (GssapiClientContext.step_advanced hm hnew.allocated hstep)
  -- a context that gives no token is dropped, and nothing was done to the old one
  have hdropped : n.At (view (c'.drop w₂).gss) p.context := by
    have hdrop := (hkeeps.trans (hm.drop_keeps c' w₂)).of_fresh fun r hr =>
      hfresh r (by rwa [Multiset.zero_add] at hr)
    exact hn.keeps hdrop fun r _ => Multiset.notMem_zero r
  rcases token with err | token
  · cases hexec
    exact ⟨n, .notInitiated n target err, hdropped, rfl⟩
  cases token with
  | none =>
    cases hexec
    exact ⟨n, .notInitiated n target _, hdropped, rfl⟩
  | some token =>
    cases hexec
    have hsteps : (Gss.initSecContext w₁.gss c.credential c.context c.name kerberosMechOid
        (GssapiClientContext.requestFlags G) none).Steps view
        (m.Initiates (service p.servicePrincipal target)) := by
      obtain ⟨name, hname, hcontent⟩ := hnew.name
      rw [hnew.context, hname]
      exact hm.initiates w₁.gss c.credential name _ hnew.allocated.isSome_credential hcontent
    obtain ⟨h, s, hh, hs, hmade, hne⟩ := GssapiClientContext.step_ok hm hsteps hstep
    refine ⟨.underway s c'.established, .initiated hmade fun hnil => hne (congrArg some hnil), ?_, rfl⟩
    have hunderway : (Negotiation.underway s c'.established).At (view w₂.gss) (some c') :=
      .underway (GssapiClientContext.step_advanced hm hnew.allocated hstep).allocated hh hs
    refine hunderway.keeps (dropContext_keeps hm p.context w₂) fun r hr hold => ?_
    have hsome := hn.isSome r hold
    rw [hfresh r hr] at hsome
    cases hsome

theorem step_negotiates (hm : m.Runs view) (hn : n.At (view w.gss) p.context) {challenge : List UInt8}
    (hexec : (step challenge).exec (p, w) = (result, (p', w'))) (principal : String → List UInt8) :
    ∃ n', Negotiation.Step m principal n (.step challenge result) n' ∧
      n'.At (view w'.gss) p'.context ∧ p'.servicePrincipal = p.servicePrincipal := by
  rw [step, exec_ofFun] at hexec
  obtain ⟨servicePrincipal, context, authLevel⟩ := p
  cases context with
  | none =>
    cases hn
    cases hexec
    exact ⟨.unstarted, .refused challenge, .unstarted, rfl⟩
  | some c =>
    dsimp only at hn hexec
    rcases hstep : (GssapiClientContext.step (some challenge)).exec (c, w) with ⟨token, c', w₂⟩
    rw [hstep] at hexec
    cases hexec
    cases hn with
    | @underway _ h s halloc hh hs =>
      have hc' := (GssapiClientContext.step_advanced hm halloc hstep).allocated
      rcases token with err | token
      · have hfailed := Negotiation.At.failed hc'
        rw [GssapiClientContext.step_error hstep] at hfailed
        exact ⟨_, .notResponded s _ challenge err, hfailed, rfl⟩
      · have hsteps : (Gss.initSecContext w.gss c.credential c.context c.name kerberosMechOid
            (GssapiClientContext.requestFlags G) (some challenge)).Steps view (m.Responds s challenge) := by
          obtain ⟨name, hname, hlive⟩ := halloc.exists_name
          rw [hh, hname]
          exact hm.responds w.gss c.credential h name s challenge halloc.isSome_credential hlive hs
        obtain ⟨h', s', hh', hs', hmade, -⟩ := GssapiClientContext.step_ok hm hsteps hstep
        exact ⟨_, .responded hmade, .underway hc' hh' hs', rfl⟩
    | failed halloc =>
      exact ⟨_, .afterFailure c.established challenge _ c'.established,
        .failed (GssapiClientContext.step_advanced hm halloc hstep).allocated, rfl⟩

/-- The provider is where the negotiation is, with the principal it had. -/
def Negotiates (view : G → GssResource H → Option (GssContent S)) (servicePrincipal : Option String)
    (a : GssapiKerberosRpcAuthProvider H × GssWorld G H) (n : Negotiation S) : Prop :=
  n.At (view a.2.gss) a.1.context ∧ a.1.servicePrincipal = servicePrincipal

theorem use_negotiates (hm : m.Runs view) {servicePrincipal : Option String} {use : ProviderUse}
    {a a' : GssapiKerberosRpcAuthProvider H × GssWorld G H} (h : ProviderUse.Step a use a')
    (hn : Negotiates view servicePrincipal a n) :
    ∃ n', Negotiation.Step m (service servicePrincipal) n use n' ∧
      Negotiates view servicePrincipal a' n' := by
  obtain ⟨hat, rfl⟩ := hn
  cases h with
  | initContext hinit => exact initContext_negotiates hm hat hinit
  | step hstep => exact step_negotiates hm hat hstep _

/-- Whatever a provider without a context is used for, it negotiates: it returns
the tokens that the mechanism makes, of one context after the other, and is
established if the mechanism was with the last of them. -/
theorem uses_negotiate (hm : m.Runs view) (hp : p.context = none) {uses : List ProviderUse}
    {a : GssapiKerberosRpcAuthProvider H × GssWorld G H} (h : Run ProviderUse.Step (p, w) uses a) :
    ∃ n, Run (Negotiation.Step m (service p.servicePrincipal)) .unstarted uses n ∧
      n.At (view a.2.gss) a.1.context ∧ a.1.isContextEstablished = n.established := by
  have hstart : Negotiates view p.servicePrincipal (p, w) .unstarted := by
    refine ⟨?_, rfl⟩
    rw [hp]
    exact .unstarted
  obtain ⟨n, hrun, hn, -⟩ := h.simulation (Negotiates view p.servicePrincipal)
    (fun _ _ _ _ hn hstep => use_negotiates hm hstep hn) hstart
  refine ⟨n, hrun, hn, ?_⟩
  rw [hn.established_eq, isContextEstablished]
  cases a.1.context <;> rfl

end GssapiKerberosRpcAuthProvider

/-! ## Clients -/

/-- A negotiation that starts with a token. -/
theorem Negotiation.exists_initiated {principal : String → List UInt8} {target : String}
    {token : List UInt8} {uses : List ProviderUse} {n₀ n : Negotiation S}
    (h : Run (Step m principal) n₀ (.initContext target (.ok token) :: uses) n) :
    ∃ s done, m.Initiates (principal target) token s done ∧ token ≠ [] ∧
      Run (Step m principal) (underway s done) uses n := by
  cases h with
  | cons hinit hrest =>
    cases hinit with
    | initiated hmade hne => exact ⟨_, _, hmade, hne, hrest⟩

/-- The uses of a provider in a bind that succeeds are an exchange. -/
theorem Negotiation.exists_exchange {principal : String → List UInt8} {target : String}
    {challenge : List UInt8} {tokens : List (List UInt8)} {uses : List ProviderUse} {n : Negotiation S}
    (h : Run (Step m principal) .unstarted uses n) (huses : ProviderUse.Answered target challenge tokens uses) :
    ∃ s done, n = underway s done ∧ m.Exchange (principal target) challenge tokens s done := by
  cases huses with
  | unchallenged token =>
    obtain ⟨s, done, hmade, htoken, hrest⟩ := exists_initiated h
    cases hrest
    exact ⟨s, done, rfl, .initiated hmade htoken⟩
  | concluded token hne =>
    obtain ⟨s, done, hmade, htoken, hrest⟩ := exists_initiated h
    cases hrest with
    | cons hstep hnil =>
      cases hnil
      cases hstep with
      | responded hresponds => exact ⟨_, _, rfl, .concluded hmade htoken hne hresponds⟩
  | answered token hne hne' =>
    obtain ⟨s, done, hmade, htoken, hrest⟩ := exists_initiated h
    cases hrest with
    | cons hstep hnil =>
      cases hnil
      cases hstep with
      | responded hresponds => exact ⟨_, _, rfl, .responded hmade htoken hne hresponds hne'⟩

section

variable {T : Type} [DataRepresentation] [UuidCrate] [RpcTransport T]
  {proposed : List PresentationContext} {target : String} {p : GssapiKerberosRpcAuthProvider H}

open GssapiKerberosRpcAuthProvider

/-- Whatever comes of a bind with a Kerberos provider that has no context, the
provider negotiates in it for the service of the target. If the bind succeeds, the
tokens that were sent and the challenge are an exchange of the mechanism, and the
provider is left where that ended, whatever the client is used for. -/
theorem RpcClient.kerberos_negotiated (hm : m.Runs view) (hcounted : ∀ c ∈ proposed, c.Counted)
    (hp : p.context = none) {transport : T}
    {r : Result (RpcClient T (GssapiKerberosRpcAuthProvider H × GssWorld G H))}
    {w' : World T (GssapiKerberosRpcAuthProvider H × GssWorld G H)}
    (h : bindWithAuthProvider transport proposed target (p, w) = (r, w')) :
    ∃ a, w'.authProvider = some a ∧
      (∃ n, Run (Negotiation.Step m (service p.servicePrincipal)) .unstarted (ProviderUse.ofTrace w'.trace) n ∧
        n.At (view a.2.gss) a.1.context) ∧
      ∀ c, r = .ok c → Negotiated m view (service p.servicePrincipal target) a c.trace ∧
        ∀ uses c', Run UseStep c uses c' → c'.authProvider = some a := by
  obtain ⟨⟨a, ha, hrun⟩, -⟩ := (ProviderUse.replayed_invariant (p, w)).bind ⟨(p, w), rfl, .nil (p, w)⟩ h
  obtain ⟨done, hhandshake, hdone⟩ := bindWithContextsInner_handshake hcounted rfl h
  obtain ⟨n, hn, hat, hestablished⟩ := uses_negotiate hm hp hrun
  refine ⟨a, ha, ⟨n, hn, hat⟩, ?_⟩
  rintro c rfl
  obtain ⟨-, hworld, -⟩ := bindWithContextsInner_ok rfl h
  constructor
  · obtain ⟨response, ack, packets, hacked, hpackets, huses⟩ := hhandshake.exists_answered (hdone c rfl)
    obtain ⟨s, done', rfl, hexchange⟩ := Negotiation.exists_exchange hn huses
    show Negotiated m view _ a c.toWorld.trace
    rw [hworld]
    exact ⟨response, ack, s, done', hacked, ⟨packets, hpackets, hexchange⟩, hat, hestablished⟩
  · exact fun uses c' huses => (authProvider_uses huses).trans (hworld ▸ ha)

end

/-! ## A library that keeps what was exchanged -/

/-- A library whose contexts keep what was exchanged, and send it back with the
answer to a challenge, which is the last token. -/
structure CodedGss where
  next : Nat
  contents : GssResource Nat → Option (GssContent (List UInt8))
  buffers : Nat → List UInt8
  fresh : ∀ r, next ≤ r.handle → contents r = none

def codedMechanism : Mechanism (List UInt8) where
  Initiates service token s done := token = 0x60 :: service ∧ s = token ∧ done = false
  Responds s challenge token s' done :=
    challenge ≠ [] ∧ token = 0x6f :: (s ++ challenge) ∧ s' = s ++ challenge ∧ done = true

namespace CodedGss

variable {g : CodedGss} {r : GssResource Nat} {c : GssContent (List UInt8)}

def start : CodedGss where
  next := 0
  contents _ := none
  buffers _ := []
  fresh _ _ := rfl

def set (g : CodedGss) (r : GssResource Nat) (c : GssContent (List UInt8)) : CodedGss where
  next := max g.next (r.handle + 1)
  contents r' := if r' = r then some c else g.contents r'
  buffers := g.buffers
  fresh r' h := by
    rw [if_neg]
    · exact g.fresh r' ((Nat.le_max_left _ _).trans h)
    · rintro rfl
      exact absurd ((Nat.le_max_right _ _).trans h) (Nat.not_succ_le_self _)

def release (g : CodedGss) (r : GssResource Nat) : CodedGss where
  next := g.next
  contents r' := if r' = r then none else g.contents r'
  buffers := g.buffers
  fresh r' h := by
    split
    · rfl
    · exact g.fresh r' h

/-- `g` with a new buffer of `token`, and what it returns then. -/
def giving (g : CodedGss) (major : UInt32) (context : Nat) (token : List UInt8) :
    GssResult CodedGss (Option Nat × GssBuffer Nat) :=
  ⟨major, 0, (some context, ⟨token.length, some g.next⟩),
    { next := g.next + 1, contents := g.contents
      buffers := fun h => if h = g.next then token else g.buffers h
      fresh := fun r h => g.fresh r (Nat.le_of_succ_le h) }⟩

def failing (g : CodedGss) (major : UInt32) (context : Option Nat) :
    GssResult CodedGss (Option Nat × GssBuffer Nat) := ⟨major, 0, (context, ⟨0, none⟩), g⟩

def initiate (g : CodedGss) : Option (GssContent (List UInt8)) →
    GssResult CodedGss (Option Nat × GssBuffer Nat)
  | some (.name service) =>
    (g.set (.context g.next) (.context (some (0x60 :: service)))).giving 1 g.next (0x60 :: service)
  | _ => g.failing 0x20000 none

/-- An empty challenge is none, after which the context is of no use. -/
def respond (g : CodedGss) (context : Nat) (challenge : List UInt8) :
    Option (GssContent (List UInt8)) → GssResult CodedGss (Option Nat × GssBuffer Nat)
  | some (.context (some s)) =>
    if challenge = [] then (g.set (.context context) (.context none)).failing 0x90000 (some context)
    else (g.set (.context context) (.context (some (s ++ challenge)))).giving 0 context
      (0x6f :: (s ++ challenge))
  | _ => g.failing 0x80000 (some context)

instance : Gss CodedGss Nat where
  GSS_S_COMPLETE := 0
  GSS_S_CONTINUE_NEEDED := 1
  GSS_C_MUTUAL_FLAG := 2
  GSS_C_INTEG_FLAG := 32
  GSS_C_DCE_STYLE := 4096
  importName g bytes := ⟨0, 0, some g.next, g.set (.name g.next) (.name bytes)⟩
  acquireCred g := ⟨0, 0, some g.next, g.set (.credential g.next) .credential⟩
  initSecContext g _ context name _ _ input :=
    match context with
    | none => g.initiate (name.bind fun h => g.contents (.name h))
    | some h => g.respond h (input.getD []) (g.contents (.context h))
  deleteSecContext g h := g.release (.context h)
  releaseCred g h := g.release (.credential h)
  releaseName g h := g.release (.name h)
  releaseBuffer g _ := g
  memory g h n := (g.buffers h).take n

theorem set_keeps (g : CodedGss) (r : GssResource Nat) (c : GssContent (List UInt8)) :
    KeepsBut {r} g.contents (g.set r c).contents := by
  intro r' c' hc hr
  rw [Multiset.mem_singleton] at hr
  exact (if_neg hr).trans hc

theorem release_keeps (g : CodedGss) (r : GssResource Nat) :
    KeepsBut {r} g.contents (g.release r).contents := by
  intro r' c' hc hr
  rw [Multiset.mem_singleton] at hr
  exact (if_neg hr).trans hc

theorem set_new (g : CodedGss) (r : GssResource Nat) (c : GssContent (List UInt8)) (hr : r.handle = g.next) :
    KeepsBut 0 g.contents (g.set r c).contents ∧ IsNew g.contents (g.set r c).contents r c := by
  have hnone := g.fresh r hr.ge
  refine ⟨(g.set_keeps r c).of_fresh fun r' hr' => ?_, hnone, if_pos rfl⟩
  rw [Multiset.mem_singleton.mp hr']
  exact hnone

theorem giving_steps (g : CodedGss) (major : UInt32) {context : Nat} {token s : List UInt8}
    {Made : List UInt8 → List UInt8 → Bool → Prop} (hs : g.contents (.context context) = some (.context (some s)))
    (hmade : Made token s (major = 0)) : (g.giving major context token).Steps contents Made := by
  refine fun _ => ⟨context, token, s, rfl, ⟨rfl, fun hnone => (by cases hnone), fun b hb => ?_⟩, hs, hmade⟩
  cases hb
  show List.take token.length (if _ then token else _) = token
  rw [if_pos rfl, List.take_length]

theorem failing_steps (g : CodedGss) {major : UInt32} (context : Option Nat)
    (Made : List UInt8 → List UInt8 → Bool → Prop) (hmajor : ¬ Stepped CodedGss major) :
    (g.failing major context).Steps contents Made := fun h => absurd h hmajor

theorem initiate_keeps (g : CodedGss) (name : Option (GssContent (List UInt8))) :
    KeepsBut 0 g.contents (g.initiate name).gss.contents ∧ ∀ h, (g.initiate name).value.1 = some h →
      ((g.initiate name).gss.contents (.context h)).isSome ∧ g.contents (.context h) = none := by
  unfold initiate
  split
  · rename_i service
    obtain ⟨hkeeps, hnew⟩ := g.set_new (.context g.next) (.context (some (0x60 :: service))) rfl
    refine ⟨hkeeps, fun h hh => ?_⟩
    cases hh
    exact ⟨Option.isSome_of_eq_some hnew.content, hnew.fresh⟩
  · exact ⟨.refl _ _, fun h hh => by cases hh⟩

theorem respond_keeps (g : CodedGss) (context : Nat) (challenge : List UInt8)
    (hcontext : (g.contents (.context context)).isSome) (content : Option (GssContent (List UInt8))) :
    KeepsBut {.context context} g.contents (g.respond context challenge content).gss.contents ∧
      (g.respond context challenge content).value.1 = some context ∧
      ((g.respond context challenge content).gss.contents (.context context)).isSome := by
  unfold respond
  split
  · split
    · exact ⟨g.set_keeps _ _, rfl, Option.isSome_of_eq_some (if_pos rfl)⟩
    · exact ⟨g.set_keeps _ _, rfl, Option.isSome_of_eq_some (if_pos rfl)⟩
  · exact ⟨.refl _ _, rfl, hcontext⟩

theorem runs : codedMechanism.Runs contents where
  importName g bytes := by
    obtain ⟨hkeeps, hnew⟩ := g.set_new (.name g.next) (.name bytes) rfl
    exact ⟨hkeeps, fun _ => ⟨g.next, rfl, hnew⟩⟩
  acquireCred g := by
    obtain ⟨hkeeps, hnew⟩ := g.set_new (.credential g.next) .credential rfl
    refine ⟨hkeeps, fun _ h hh => ?_⟩
    cases hh
    exact hnew
  initSecContext g credential context name input _ hcontext _ := by
    cases context with
    | none =>
      obtain ⟨hkeeps, hvalue⟩ := g.initiate_keeps (g.contents (.name name))
      exact ⟨hkeeps, fun h hh => (hvalue h hh).imp_right .inr⟩
    | some context =>
      obtain ⟨hkeeps, hvalue, hsome⟩ := g.respond_keeps context (input.getD [])
        (hcontext context rfl) (g.contents (.context context))
      refine ⟨hkeeps, fun h hh => ?_⟩
      cases hvalue.symm.trans hh
      exact ⟨hsome, .inl rfl⟩
  initiates g credential name service _ hname := by
    show (g.initiate (g.contents (.name name))).Steps contents _
    rw [hname]
    exact giving_steps _ 1 (if_pos rfl) ⟨rfl, rfl, rfl⟩
  responds g credential context name s challenge _ _ hs := by
    show (g.respond context challenge (g.contents (.context context))).Steps contents _
    rw [hs, respond]
    split
    · exact failing_steps _ _ _ (show ¬ ((0x90000 : UInt32) = 0 ∨ (0x90000 : UInt32) = 1) by decide)
    · rename_i hne
      exact giving_steps _ 0 (if_pos rfl) ⟨hne, rfl, rfl, rfl⟩
  deleteSecContext g h := g.release_keeps _
  releaseCred g h := g.release_keeps _
  releaseName g h := g.release_keeps _
  releaseBuffer g h := .refl _ _

end CodedGss

section

open Standard

namespace GssapiKerberosRpcAuthProvider

/-- A challenge that comes too early, an exchange, and a challenge that is none. -/
theorem uses_negotiate_coded :
    let uses : List ProviderUse :=
      [.step [9] (.error (.provider "GSSAPI context is not initialized")),
        .initContext "cifs/a" (.ok [0x60, 99, 105, 102, 115, 64, 97]),
        .step [1, 2] (.ok [0x6f, 0x60, 99, 105, 102, 115, 64, 97, 1, 2]),
        .step [] (.error (gssapiFailed "init security context" 0x90000 0))]
    ∃ (a : GssapiKerberosRpcAuthProvider Nat × GssWorld CodedGss Nat) (n : Negotiation (List UInt8)),
      Run ProviderUse.Step (new, { gss := .start, calls := [] }) uses a ∧
      Run (Negotiation.Step codedMechanism (service none)) .unstarted uses n ∧
      n.At a.2.gss.contents a.1.context ∧ a.1.isContextEstablished = n.established ∧
      n.established = true := by
  intro uses
  have hrun : Run ProviderUse.Step
      ((new, { gss := .start, calls := [] }) : GssapiKerberosRpcAuthProvider Nat × GssWorld CodedGss Nat) uses _ :=
    .cons (.step (Prod.ext (by decide +kernel) rfl)) (.cons (.initContext (Prod.ext (by decide +kernel) rfl))
      (.cons (.step (Prod.ext (by decide +kernel) rfl)) (.cons (.step (Prod.ext (by decide +kernel) rfl)) (.nil _))))
  obtain ⟨n, hn, hat, hestablished⟩ := uses_negotiate CodedGss.runs rfl hrun
  exact ⟨_, n, hrun, hn, hat, hestablished, hestablished.symm.trans (by decide +kernel)⟩

end GssapiKerberosRpcAuthProvider

open GssapiKerberosRpcAuthProvider

/-- A bind whose ack has a challenge. -/
theorem RpcClient.kerberos_negotiated_challenged :
    ∃ (c : RpcClient MemoryTransport (GssapiKerberosRpcAuthProvider Nat × GssWorld CodedGss Nat))
      (w' : World MemoryTransport (GssapiKerberosRpcAuthProvider Nat × GssWorld CodedGss Nat)) (a : _),
      bindWithAuthProvider challenging [ndr32Context] "host/dc01" (new, { gss := .start, calls := [] }) =
        (.ok c, w') ∧
      w'.authProvider = some a ∧
      Negotiated codedMechanism CodedGss.contents (service none "host/dc01") a c.trace := by
  rcases hbind : bindWithAuthProvider challenging [ndr32Context] "host/dc01"
    ((new, { gss := .start, calls := [] }) : GssapiKerberosRpcAuthProvider Nat × GssWorld CodedGss Nat)
    with ⟨r, w'⟩
  have hok : (bindWithAuthProvider challenging [ndr32Context] "host/dc01"
      ((new, { gss := .start, calls := [] }) :
        GssapiKerberosRpcAuthProvider Nat × GssWorld CodedGss Nat)).1.isOk = true := by decide +kernel
  obtain ⟨a, ha, -, hnegotiated⟩ := kerberos_negotiated CodedGss.runs (by decide) rfl hbind
  rw [hbind] at hok
  cases r with
  | error e => cases hok
  | ok c => exact ⟨c, w', a, rfl, ha, (hnegotiated c rfl).1⟩

end

end Rpce
