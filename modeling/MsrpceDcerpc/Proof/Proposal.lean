import MsrpceDcerpc.Spec.Standard
import MsrpceDcerpc.Proof.Handshake

/-!
# The Bind on the wire

The bytes of a Bind, and what its own decoder makes of them. Without a
provider the decoder gives the proposed contexts back as long as both counters
count them: one byte counts the contexts and wraps, one byte counts the
transfer syntaxes of a context and is checked, but the error of that check
meets an `expect` (`bindWithContexts_reads_iff`). With a provider there is a
security trailer, which the encoder writes for any token and the decoder looks
for only if the token is not empty (`bindWithAuthProvider_reads_iff`).
-/

namespace Rpce

open Rust Endian Segment Eff PresentationContextList

variable {T A : Type}

/-! ## The packet of a Bind -/

section Packet

variable [UuidCrate]

/-- The Bind for contexts that are counted. -/
def bindBody (proposed : List PresentationContext) : BindPdu :=
  { maxXmitFrag := DEFAULT_MAX_XMIT_FRAG
    maxRecvFrag := DEFAULT_MAX_XMIT_FRAG
    assocGroupId := 0
    presentationContextList :=
      [UInt8.ofNat proposed.length, 0, 0, 0] ++ wire (proposed.map fun c => (c, 0)) }

theorem withContexts_of_counted {proposed : List PresentationContext} (h : ∀ c ∈ proposed, c.Counted) :
    BindPdu.withContexts DEFAULT_MAX_XMIT_FRAG DEFAULT_MAX_XMIT_FRAG 0 proposed =
      .ok (bindBody proposed) := by
  rw [BindPdu.withContexts, encode_of_counted h]
  rfl

theorem length_bindBody (proposed : List PresentationContext) :
    (bindBody proposed).encode.length = 12 + contextsLen proposed := by
  have hlist : (bindBody proposed).presentationContextList.length = 4 + contextsLen proposed := by
    rw [bindBody, List.length_append, length_wire, List.map_map]
    exact congrArg _ (congrArg contextsLen (List.map_id _))
  rw [BindPdu.encode, List.length_append, hlist]
  simp only [List.length_append, length_u16Bytes, length_u32Bytes]
  omega

theorem contextsLen_mod (proposed : List PresentationContext) : contextsLen proposed % 4 = 0 := by
  induction proposed with
  | nil => rfl
  | cons c proposed ih =>
    rw [contextsLen_cons]
    omega

/-- The decoder of the list counts at most 255 contexts. -/
theorem contextList_bindBody_iff {proposed : List PresentationContext} (h : ∀ c ∈ proposed, c.Counted) :
    (bindBody proposed).contextList = .ok { contexts := proposed } ↔ proposed.length ≤ 255 := by
  constructor
  · intro hlist
    exact (PresentationContextList.decode_eq_ok.mp hlist).1
  · intro hlen
    exact PresentationContextList.decode_of_encode hlen (encode_of_counted h)

variable [DataRepresentation]

/-- The packet of a Bind without a provider. -/
def plainBind (proposed : List PresentationContext) : PduPacket :=
  PduPacket.new (PduHeader.new .bind (PFC_FIRST_FRAG ||| PFC_LAST_FRAG) 1) (bindBody proposed).encode []

theorem plainBind_size (proposed : List PresentationContext) :
    (plainBind proposed).size = 28 + contextsLen proposed := by
  show 16 + (bindBody proposed).encode.length + 0 + 0 + 0 = _
  rw [length_bindBody]
  omega

/-- The packet of a Bind with a provider: its body needs no padding. -/
def authBind [RpcAuthProvider A] (proposed : List PresentationContext) (provider : A)
    (token : List UInt8) : PduPacket :=
  PduPacket.withSecurityTrailer (PduHeader.new .bind authPfcFlags 1) (bindBody proposed).encode
    (securityTrailer provider 0) token

theorem authBind_size [RpcAuthProvider A] (proposed : List PresentationContext) (provider : A)
    (token : List UInt8) :
    (authBind proposed provider token).size = 36 + contextsLen proposed + token.length := by
  have htrailer : (authBind proposed provider token).trailerEncode.length = 8 := by
    rw [PduPacket.length_trailerEncode]
    exact if_neg (Option.some_ne_none _)
  show 16 + (bindBody proposed).encode.length + 0 + _ + token.length = _
  rw [htrailer, length_bindBody]
  omega

variable [RpcAuthProvider A]

theorem bindBytes_none {proposed : List PresentationContext} (h : ∀ c ∈ proposed, c.Counted)
    (token : Option (List UInt8)) :
    bindBytes proposed token (none : Option A) = (plainBind proposed).encode := by
  rw [bindBytes, withContexts_of_counted h]
  rfl

theorem bindBytes_some {proposed : List PresentationContext} (h : ∀ c ∈ proposed, c.Counted)
    {provider : A} (hlevel : (RpcAuthProvider.authLevel provider).Supported) (token : List UInt8) :
    bindBytes proposed (some token) (some provider) = (authBind proposed provider token).encode := by
  have hpad : authPaddingLen (bindBody proposed).encode.length = .ok 0 := by
    have hmod : (bindBody proposed).encode.length % 4 = 0 := by
      have := contextsLen_mod proposed
      rw [length_bindBody]
      omega
    rw [authPaddingLen, hmod]
    rfl
  have hok : ¬ (RpcAuthProvider.authLevel provider = .packetIntegrity ∨
      RpcAuthProvider.authLevel provider = .packetPrivacy) := by
    rcases hlevel with h | h <;> rw [h] <;> decide
  rw [bindBytes, withContexts_of_counted h, bind_ok, bindPacket, authenticatedPacket,
    failIf_of_not _ hok, bind_ok, hpad]
  rfl

/-- The `expect` of the encoder of the list. -/
theorem bindBytes_of_not_counted {proposed : List PresentationContext}
    (h : ¬ ∀ c ∈ proposed, c.Counted) (token : Option (List UInt8)) (provider : Option A) :
    bindBytes proposed token provider =
      .error (.panic (.expect "presentation context count was prevalidated")) := by
  rw [bindBytes, BindPdu.withContexts, encode_of_not_counted h]
  rfl

end Packet

/-! ## A security trailer without an auth value -/

/-- Before an empty auth value a security trailer is written like eight more
bytes of the body. -/
theorem PduPacket.encode_withSecurityTrailer_nil [DataRepresentation] (header : PduHeader)
    (body : List UInt8) {trailer : SecurityTrailer} (h : trailer.authPadLength = 0) :
    (withSecurityTrailer header body trailer []).encode =
      (new header (body ++ trailer.encode) []).encode := by
  have hlen : trailer.encode.length = 8 := SecurityTrailer.length_encode trailer
  simp only [encode, withSecurityTrailer, new, trailerBytes, Option.map_some, Option.map_none,
    Option.getD_some, Option.getD_none, Option.isNone_some, Option.isNone_none, h, List.length_append,
    hlen, List.length_nil, UInt8.toNat_zero, List.replicate_zero, List.nil_append, List.append_nil,
    List.append_assoc, SecurityTrailer.LEN, Nat.add_zero, Nat.lt_irrefl, gt_iff_lt, false_and,
    Nat.add_assoc]

/-! ## The token of the provider -/

section Token

variable [RpcAuthProvider A]

theorem initAuth_exec_none {w : World T A} (target : String) (h : w.authProvider = none) :
    (initAuth target).exec w = (.ok none, w) := by
  rw [initAuth, exec_bind_of_ok (exec_get w), h]
  rfl

theorem initAuth_exec_some {w : World T A} {a : A} (target : String) (h : w.authProvider = some a) :
    (∃ e w', (RpcAuthProvider.initContext a target).1 = .error e ∧
      (initAuth target).exec w = (.error (.err (.ofAuth e)), w')) ∨
    ∃ token w', (RpcAuthProvider.initContext a target).1 = .ok token ∧
      (initAuth target).exec w = (.ok (some token), w') ∧
      w'.authProvider = some (RpcAuthProvider.initContext a target).2 := by
  rw [initAuth, exec_bind_of_ok (exec_get w), h]
  rcases hr : RpcAuthProvider.initContext a target with ⟨e | token, a'⟩
  · exact .inl ⟨e, _, rfl, exec_bind_of_error (exec_initContext hr w)⟩
  · exact .inr ⟨token, _, rfl, exec_bind_of_ok (exec_initContext hr w), rfl⟩

end Token

/-! ## What the decoder reads -/

section Reads

variable [DataRepresentation] [UuidCrate]

/-- The decoders read `bytes` as a Bind for `proposed`. -/
def ReadsAsBind (bytes : List UInt8) (proposed : List PresentationContext) : Prop :=
  ∃ packet bind, PduPacket.decode bytes = .ok packet ∧ BindPdu.decode packet.body = .ok bind ∧
    bind.contextList = .ok { contexts := proposed }

theorem plainBind_readsAsBind_iff (hd : WindowsDefaultLittle) {proposed : List PresentationContext}
    (hcounted : ∀ c ∈ proposed, c.Counted) {bytes : List UInt8}
    (h : (plainBind proposed).encode = .ok bytes) :
    ReadsAsBind bytes proposed ↔ proposed.length ≤ 255 := by
  have hread : (plainBind proposed).header.Readable := PduHeader.readable_of_windowsDefault hd rfl rfl
  have hdecode := PduPacket.decode_of_encode hread ⟨fun _ => rfl, fun _ => rfl⟩ h
  rw [← contextList_bindBody_iff hcounted]
  constructor
  · rintro ⟨packet, bind, hpacket, hbind, hlist⟩
    obtain rfl := Except.ok.inj (hpacket.symm.trans hdecode)
    obtain rfl : bind = bindBody proposed :=
      Except.ok.inj (hbind.symm.trans (BindPdu.decode_eq_ok.mpr rfl))
    exact hlist
  · intro hlist
    exact ⟨_, bindBody proposed, hdecode, BindPdu.decode_eq_ok.mpr rfl, hlist⟩

variable [RpcTransport T] [RpcAuthProvider A]

/-- The `expect` ends a bind. -/
theorem bindWithContexts_panics (transport : T) {proposed : List PresentationContext}
    (hp : proposed ≠ []) (h : ¬ ∀ c ∈ proposed, c.Counted) :
    (bindWithContexts (A := A) transport proposed).1 =
      .error (.panic (.expect "presentation context count was prevalidated")) := by
  rw [bindWithContexts, bindWithContextsInner_exec, if_neg hp, initAuth_exec_none _ rfl]
  dsimp only
  rw [bindBytes_of_not_counted h]

/-- The first PDU of a bind without a provider is its Bind, if it fits. -/
theorem bindWithContexts_sent (transport : T) {proposed : List PresentationContext}
    (hp : proposed ≠ []) (hcounted : ∀ c ∈ proposed, c.Counted) {r : Result (RpcClient T A)}
    {w : World T A} (h : bindWithContexts transport proposed = (r, w)) :
    (65535 < 28 + contextsLen proposed ∧ (∃ e, r = .error (.err e)) ∧ sent w.trace = []) ∨
    28 + contextsLen proposed ≤ 65535 ∧
      ∃ bytes rest, (plainBind proposed).encode = .ok bytes ∧ sent w.trace = bytes :: rest := by
  have hnone := initAuth_exec_none (T := T) (A := A)
    (w := { transport, authProvider := none, trace := [] }) "" rfl
  obtain ⟨e, hinit, -⟩ | ⟨token, w₁, hinit, hsent⟩ := bindWithContextsInner_sent rfl h hp
  · cases hnone.symm.trans hinit
  obtain ⟨rfl, rfl⟩ : none = token ∧ _ = w₁ := by
    obtain ⟨h₁, h₂⟩ := Prod.mk.inj (hnone.symm.trans hinit)
    exact ⟨Except.ok.inj h₁, h₂⟩
  rw [bindBytes_none hcounted] at hsent
  have hreturns := PduPacket.returns_encode (plainBind proposed)
  obtain ⟨e, hbytes, rfl, hnil⟩ | ⟨bytes, rest, hbytes, hcons⟩ := hsent
  · left
    rw [hbytes] at hreturns
    cases hreturns
    refine ⟨?_, ⟨_, rfl⟩, hnil⟩
    rw [← plainBind_size]
    by_contra hfits
    rw [PduPacket.encode_of_size ⟨fun _ => rfl, fun _ => rfl⟩ (Nat.le_of_not_lt hfits)] at hbytes
    cases hbytes
  · right
    refine ⟨?_, bytes, rest, hbytes, hcons⟩
    rw [← plainBind_size]
    exact (PduPacket.encode_eq_ok.mp hbytes).2.1

/-- A bind without a provider panics on no list that is counted, and its Bind
is read back exactly if the list is counted too, or is too long for a fragment
and not sent. -/
theorem bindWithContexts_reads_iff (hd : WindowsDefaultLittle) (transport : T)
    (proposed : List PresentationContext) {r : Result (RpcClient T A)} {w : World T A}
    (h : bindWithContexts transport proposed = (r, w)) :
    ((∀ p, r ≠ .error (.panic p)) ∧ ((∃ e, r = .error (.err e)) ∧ sent w.trace = [] ∨
        ∃ bytes rest, sent w.trace = bytes :: rest ∧ ReadsAsBind bytes proposed)) ↔
      (∀ c ∈ proposed, c.Counted) ∧
        (proposed.length ≤ 255 ∨ 65535 < 28 + contextsLen proposed) := by
  by_cases hp : proposed = []
  · subst hp
    cases h
    exact iff_of_true ⟨fun p h => (by cases h), .inl ⟨⟨_, rfl⟩, rfl⟩⟩
      ⟨fun c hc => absurd hc List.not_mem_nil, .inl (Nat.zero_le _)⟩
  by_cases hcounted : ∀ c ∈ proposed, c.Counted
  · have hreturns := alwaysReturns_bindWithContextsInner (T := T) (A := A) hcounted ""
      { transport, authProvider := none, trace := [] }
    rw [show (bindWithContextsInner proposed "").exec _ = _ from h] at hreturns
    rw [and_iff_right hcounted, and_iff_right hreturns.ne_panic]
    obtain ⟨hlarge, herror, hnil⟩ | ⟨hfits, bytes, rest, hbytes, hcons⟩ :=
      bindWithContexts_sent transport hp hcounted h
    · exact iff_of_true (.inl ⟨herror, hnil⟩) (.inr hlarge)
    · rw [or_iff_left (Nat.not_lt.mpr hfits), ← plainBind_readsAsBind_iff hd hcounted hbytes, hcons]
      simp only [reduceCtorEq, and_false, false_or, List.cons.injEq]
      constructor
      · rintro ⟨_, _, ⟨rfl, rfl⟩, hreads⟩
        exact hreads
      · intro hreads
        exact ⟨bytes, rest, ⟨rfl, rfl⟩, hreads⟩
  · have hpanics := bindWithContexts_panics (A := A) transport hp hcounted
    rw [h] at hpanics
    exact iff_of_false (fun h => h.1 _ hpanics) (fun h => hcounted h.1)

end Reads

section

open Standard

/-- A server that delivers nothing. -/
def silent : MemoryTransport := ⟨[], []⟩

/-- The Bind for one context is read back. -/
theorem bindWithContexts_reads_ndr32Context :
    ∃ bytes rest, sent (bindWithContexts (A := FixedProvider) silent [ndr32Context]).2.trace =
      bytes :: rest ∧ ReadsAsBind bytes [ndr32Context] := by
  have hiff := bindWithContexts_reads_iff (A := FixedProvider) windowsDefaultLittle silent
    [ndr32Context] rfl
  obtain ⟨-, ⟨-, hnil⟩ | hreads⟩ := hiff.mpr ⟨by decide, .inl (by decide)⟩
  · exact absurd hnil (by decide +kernel)
  · exact hreads

/-- A context with 256 transfer syntaxes. -/
def crowdedContext : PresentationContext :=
  { ndr32Context with transferSyntaxes := List.replicate 256 TransferSyntax.ndr32.syntaxId }

/-- With 256 transfer syntaxes in a context a bind panics, and with 256 contexts
it sends a Bind that is not read back. -/
theorem bindWithContexts_loses_proposal :
    (bindWithContexts (A := FixedProvider) silent [crowdedContext]).1 =
      .error (.panic (.expect "presentation context count was prevalidated")) ∧
    ∃ bytes rest, sent (bindWithContexts (A := FixedProvider) silent
        (List.replicate 256 ndr32Context)).2.trace = bytes :: rest ∧
      ¬ ReadsAsBind bytes (List.replicate 256 ndr32Context) := by
  constructor
  · refine bindWithContexts_panics _ (List.cons_ne_nil _ _) fun h => ?_
    have hle : (List.replicate 256 TransferSyntax.ndr32.syntaxId).length ≤ 255 :=
      h crowdedContext (List.mem_singleton_self _)
    rw [List.length_replicate] at hle
    omega
  · have hcounted : ∀ c ∈ List.replicate 256 ndr32Context, c.Counted := fun c hc => by
      rw [List.eq_of_mem_replicate hc]
      decide
    rcases hb : bindWithContexts (A := FixedProvider) silent (List.replicate 256 ndr32Context) with ⟨r, w⟩
    obtain ⟨hlarge, -⟩ | ⟨-, bytes, rest, hbytes, hcons⟩ :=
      bindWithContexts_sent silent (List.cons_ne_nil _ _) hcounted hb
    · exact absurd hlarge (by decide +kernel)
    · refine ⟨bytes, rest, hcons, fun h => ?_⟩
      have hle := (plainBind_readsAsBind_iff windowsDefaultLittle hcounted hbytes).mp h
      rw [List.length_replicate] at hle
      omega

end

/-! ## With a provider -/

section Provider

variable [DataRepresentation] [UuidCrate] [RpcAuthProvider A]

/-- A Bind with a token that is not empty is read back with its token. -/
theorem authBind_decode (hd : WindowsDefaultLittle) {proposed : List PresentationContext} {provider : A}
    {token bytes : List UInt8} (htoken : token ≠ [])
    (h : (authBind proposed provider token).encode = .ok bytes) :
    PduPacket.decode bytes = .ok (authBind proposed provider token).stamped := by
  have hread : (authBind proposed provider token).header.Readable :=
    PduHeader.readable_of_windowsDefault hd rfl rfl
  exact PduPacket.decode_of_encode hread (iff_of_false (Option.some_ne_none _) htoken) h

/-- A Bind with an empty token is read back with its security trailer as the
end of its body. -/
theorem authBind_nil_decode (hd : WindowsDefaultLittle) {proposed : List PresentationContext}
    {provider : A} {bytes : List UInt8} (h : (authBind proposed provider []).encode = .ok bytes) :
    ∃ packet, PduPacket.decode bytes = .ok packet ∧
      packet.body = (bindBody proposed).encode ++ (securityTrailer provider 0).encode := by
  rw [authBind, PduPacket.encode_withSecurityTrailer_nil _ _ rfl] at h
  have hread : (PduPacket.new (PduHeader.new .bind authPfcFlags 1)
      ((bindBody proposed).encode ++ (securityTrailer provider 0).encode) []).header.Readable :=
    PduHeader.readable_of_windowsDefault hd rfl rfl
  exact ⟨_, PduPacket.decode_of_encode hread ⟨fun _ => rfl, fun _ => rfl⟩ h, rfl⟩

variable [RpcTransport T]

/-- The first PDU of a bind with a provider is its Bind, if there is a token
and the Bind fits. -/
theorem bindWithAuthProvider_sent (transport : T) {proposed : List PresentationContext}
    (hp : proposed ≠ []) (hcounted : ∀ c ∈ proposed, c.Counted) (target : String) {a : A}
    (hlevel : (RpcAuthProvider.authLevel (RpcAuthProvider.initContext a target).2).Supported)
    {r : Result (RpcClient T A)} {w : World T A}
    (h : bindWithAuthProvider transport proposed target a = (r, w)) :
    (sent w.trace = [] ∧ ∀ token, (RpcAuthProvider.initContext a target).1 = .ok token →
      65535 < 36 + contextsLen proposed + token.length) ∨
    ∃ token bytes rest, (RpcAuthProvider.initContext a target).1 = .ok token ∧
      36 + contextsLen proposed + token.length ≤ 65535 ∧
      (authBind proposed (RpcAuthProvider.initContext a target).2 token).encode = .ok bytes ∧
      sent w.trace = bytes :: rest := by
  have hinit := initAuth_exec_some (T := T)
    (w := { transport, authProvider := some a, trace := [] }) target rfl
  obtain ⟨e, w₁, hfail, hexec⟩ | ⟨token, w₁, htoken, hexec, hprovider⟩ := hinit
  · obtain ⟨_, -, -, hnil⟩ | ⟨_, _, hexec', -⟩ := bindWithContextsInner_sent rfl h hp
    · exact .inl ⟨hnil, fun token htoken => by cases hfail.symm.trans htoken⟩
    · cases hexec.symm.trans hexec'
  · obtain ⟨_, hexec', -⟩ | ⟨_, _, hexec', hsent⟩ := bindWithContextsInner_sent rfl h hp
    · cases hexec.symm.trans hexec'
    obtain ⟨hsome, rfl⟩ := Prod.mk.inj (hexec.symm.trans hexec')
    rw [← Except.ok.inj hsome, hprovider, bindBytes_some hcounted hlevel] at hsent
    obtain ⟨e, hbytes, -, hnil⟩ | ⟨bytes, rest, hbytes, hcons⟩ := hsent
    · refine .inl ⟨hnil, fun token' htoken' => ?_⟩
      obtain rfl := Except.ok.inj (htoken.symm.trans htoken')
      by_contra hfits
      have hok := PduPacket.encode_eq_ok.mpr ⟨fun _ => Option.some_ne_none _,
        (authBind_size proposed (RpcAuthProvider.initContext a target).2 token).trans_le
          (Nat.le_of_not_lt hfits), rfl⟩
      cases hbytes.symm.trans hok
    · refine .inr ⟨token, bytes, rest, htoken, ?_, hbytes, hcons⟩
      rw [← authBind_size proposed (RpcAuthProvider.initContext a target).2]
      exact (PduPacket.encode_eq_ok.mp hbytes).2.1

/-- The Bind of a bind with a provider is read back with its body and its token
exactly if the token is not empty, or nothing is sent. -/
theorem bindWithAuthProvider_reads_iff (hd : WindowsDefaultLittle) (transport : T)
    {proposed : List PresentationContext} (hp : proposed ≠ []) (hlen : proposed.length ≤ 255)
    (hcounted : ∀ c ∈ proposed, c.Counted) (target : String) {a : A}
    (hlevel : (RpcAuthProvider.authLevel (RpcAuthProvider.initContext a target).2).Supported)
    {r : Result (RpcClient T A)} {w : World T A}
    (h : bindWithAuthProvider transport proposed target a = (r, w)) :
    (∀ bytes rest, sent w.trace = bytes :: rest → ∃ token packet bind,
      (RpcAuthProvider.initContext a target).1 = .ok token ∧
      BindPdu.withContexts DEFAULT_MAX_XMIT_FRAG DEFAULT_MAX_XMIT_FRAG 0 proposed = .ok bind ∧
      PduPacket.decode bytes = .ok packet ∧ packet.body = bind.encode ∧ packet.authValue = token ∧
      BindPdu.decode packet.body = .ok bind ∧ bind.contextList = .ok { contexts := proposed }) ↔
    ∀ token, (RpcAuthProvider.initContext a target).1 = .ok token →
      token ≠ [] ∨ 65535 < 36 + contextsLen proposed := by
  obtain ⟨hnil, hlarge⟩ | ⟨token, bytes, rest, htoken, hfits, hbytes, hcons⟩ :=
    bindWithAuthProvider_sent transport hp hcounted target hlevel h
  · refine iff_of_true (fun bytes rest hcons => ?_) fun token htoken => ?_
    · cases hnil.symm.trans hcons
    · by_cases hempty : token = []
      · subst hempty
        exact .inr (hlarge [] htoken)
      · exact .inl hempty
  by_cases hempty : token = []
  · subst hempty
    refine iff_of_false (fun hall => ?_) fun hcond => ?_
    · -- the decoder takes the security trailer for the end of the body
      obtain ⟨-, packet, bind, -, hbind, hpacket, hbody, -⟩ := hall bytes rest hcons
      obtain rfl := Except.ok.inj (hbind.symm.trans (withContexts_of_counted hcounted))
      obtain ⟨packet', hpacket', hbody'⟩ := authBind_nil_decode hd hbytes
      obtain rfl := Except.ok.inj (hpacket.symm.trans hpacket')
      have hlen' := congrArg List.length (hbody.symm.trans hbody')
      rw [List.length_append, SecurityTrailer.length_encode] at hlen'
      omega
    · rcases hcond [] htoken with hne | hlarge
      · exact hne rfl
      · exact absurd hlarge (Nat.not_lt.mpr hfits)
  · refine iff_of_true (fun bytes' rest' hcons' => ?_) fun token' htoken' => ?_
    · obtain ⟨rfl, rfl⟩ := List.cons.inj (hcons.symm.trans hcons')
      exact ⟨token, _, bindBody proposed, htoken, withContexts_of_counted hcounted,
        authBind_decode hd hempty hbytes, rfl, rfl, BindPdu.decode_eq_ok.mpr rfl,
        (contextList_bindBody_iff hcounted).mpr hlen⟩
    · obtain rfl := Except.ok.inj (htoken.symm.trans htoken')
      exact .inl hempty

end Provider

section

open Standard

/-- The Bind of a provider whose token has two bytes is read back. -/
theorem bindWithAuthProvider_reads_token : ∃ bytes rest packet,
    sent (bindWithAuthProvider silent [ndr32Context] "host" (provider [1, 2])).2.trace = bytes :: rest ∧
    PduPacket.decode bytes = .ok packet ∧ packet.authValue = [1, 2] := by
  rcases hb : bindWithAuthProvider silent [ndr32Context] "host" (provider [1, 2]) with ⟨r, w⟩
  have hcounted : ∀ c ∈ [ndr32Context], c.Counted := by decide
  have hiff := bindWithAuthProvider_reads_iff windowsDefaultLittle silent (List.cons_ne_nil _ _)
    (by decide) hcounted "host" (.inr rfl) hb
  obtain ⟨-, hlarge⟩ | ⟨-, bytes, rest, -, -, -, hsent⟩ :=
    bindWithAuthProvider_sent silent (List.cons_ne_nil _ _) hcounted "host" (.inr rfl) hb
  · exact absurd (hlarge [1, 2] rfl) (by decide +kernel)
  · obtain ⟨token, packet, bind, htoken, -, hpacket, -, hauth, -⟩ :=
      hiff.mpr (fun token htoken => .inl (by cases htoken; decide)) bytes rest hsent
    cases htoken
    exact ⟨bytes, rest, packet, hsent, hpacket, hauth⟩

/-- The Bind of a provider whose token is empty is read back with eight bytes
more of body. -/
theorem bindWithAuthProvider_loses_body : ∃ bytes rest packet bind,
    sent (bindWithAuthProvider silent [ndr32Context] "host" (provider [])).2.trace = bytes :: rest ∧
    BindPdu.withContexts DEFAULT_MAX_XMIT_FRAG DEFAULT_MAX_XMIT_FRAG 0 [ndr32Context] = .ok bind ∧
    PduPacket.decode bytes = .ok packet ∧ packet.body.length = bind.encode.length + 8 := by
  rcases hb : bindWithAuthProvider silent [ndr32Context] "host" (provider []) with ⟨r, w⟩
  have hcounted : ∀ c ∈ [ndr32Context], c.Counted := by decide
  obtain ⟨-, hlarge⟩ | ⟨token, bytes, rest, htoken, -, hbytes, hcons⟩ :=
    bindWithAuthProvider_sent silent (List.cons_ne_nil _ _) hcounted "host" (.inr rfl) hb
  · exact absurd (hlarge [] rfl) (by decide +kernel)
  · cases htoken
    obtain ⟨packet, hpacket, hbody⟩ := authBind_nil_decode windowsDefaultLittle hbytes
    refine ⟨bytes, rest, packet, bindBody [ndr32Context], hcons, withContexts_of_counted hcounted,
      hpacket, ?_⟩
    rw [hbody, List.length_append, SecurityTrailer.length_encode]

end

end Rpce
