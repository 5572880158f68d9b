import MsrpceDcerpc.Proof.Framing
import MsrpceDcerpc.Proof.Invariant
import MsrpceDcerpc.Proof.Peer

/-!
# What a client writes to a stream

Whatever happens to a client over a pipe of `std::io`, what it wrote are the
PDUs it sent, and of a PDU it failed to send the beginning, or all
(`Written`): an invariant of its world (`written_invariant`). The PDUs are frames
(`sentFrames_invariant`). So the other end gets just these, in whatever pieces the
bytes arrive, if none failed, and what it gets begins with those before the first
that failed otherwise (`client_output`).
-/

namespace Rpce

open Rust Eff StdIo

variable {A T ω : Type}

/-! ## The stream -/

section Stream

variable [Read T] [Write T] [Endpoint ω] {endpoint : T → ω} {out : ω → List UInt8}

/-- A pipe that fails to write has written the beginning, or all and only failed
to flush it. -/
theorem StdIoNamedPipe.exists_written (h : Reaches endpoint) (hout : Logs out) (p : StdIoNamedPipe T)
    (bytes : List UInt8) :
    ∃ written, out (endpoint (NamedPipe.writeAll p bytes).2.inner) =
        out (endpoint p.inner) ++ written ∧ written <+: bytes ∧
      ((NamedPipe.writeAll p bytes).1 = .ok () → written = bytes) := by
  obtain ⟨k, hput, hok⟩ := h.exists_put p.inner bytes
  refine ⟨bytes.take k, ?_, List.take_prefix k bytes, ?_⟩
  · have hwrite : endpoint (NamedPipe.writeAll p bytes).2.inner =
        endpoint (StdIo.writeAll p.inner bytes).2 := by
      simp only [NamedPipe.writeAll, StdIoNamedPipe.writeAll]
      split
      · rename_i inner hw
        rw [hw]
      · rename_i inner hw
        have hflush := h.flush inner
        rw [hw]
        split <;> rename_i hf <;> rw [hf] at hflush <;> exact hflush
    rw [hwrite, hput, hout.put]
  · intro h
    refine hok ?_
    simp only [NamedPipe.writeAll, StdIoNamedPipe.writeAll] at h
    split at h
    · cases h
    · rename_i inner hw
      rw [hw]

/-- A pipe that reads skips some of the input, whatever comes of it. -/
theorem StdIoNamedPipe.exists_skip (h : Reaches endpoint) (p : StdIoNamedPipe T) (n : Nat) :
    ∃ k, endpoint (NamedPipe.readExact p n).2.inner = Endpoint.skip (endpoint p.inner) k := by
  obtain ⟨k, hskip⟩ := h.exists_skip p.inner n
  have hread : (NamedPipe.readExact p n).2.inner = (StdIo.readExact p.inner n).2 := by
    simp only [NamedPipe.readExact, StdIoNamedPipe.readExact]
    split <;> rename_i hr <;> rw [hr]
  exact ⟨k, hread ▸ hskip⟩

theorem StdIoNamedPipe.out_readExact (h : Reaches endpoint) (hout : Logs out) (p : StdIoNamedPipe T)
    (n : Nat) : out (endpoint (NamedPipe.readExact p n).2.inner) = out (endpoint p.inner) := by
  obtain ⟨k, hskip⟩ := StdIoNamedPipe.exists_skip h p n
  rw [hskip, hout.skip]

variable [DataRepresentation]

/-- Receiving writes nothing. -/
theorem NcacnNpTransport.out_recvPdu (h : Reaches endpoint) (hout : Logs out)
    (t : NcacnNpTransport (StdIoNamedPipe T)) :
    out (endpoint (RpcTransport.recvPdu t).2.pipe.inner) = out (endpoint t.pipe.inner) := by
  have hread (n : Nat) : Keeps (fun t' : NcacnNpTransport (StdIoNamedPipe T) =>
      out (endpoint t'.pipe.inner) = out (endpoint t.pipe.inner)) (readExact n) :=
    fun t' ht' => (StdIoNamedPipe.out_readExact h hout t'.pipe n).trans ht'
  have hrecv : Keeps (fun t' : NcacnNpTransport (StdIoNamedPipe T) =>
      out (endpoint t'.pipe.inner) = out (endpoint t.pipe.inner)) recvPdu :=
    .bind (hread _) fun _ => .bind (.lift _) fun _ => .bind (.lift _) fun _ => .bind (.lift _) fun _ =>
      .bind (hread _) fun _ => .pure _
  exact hrecv t rfl

end Stream

/-! ## What was written -/

section Written

variable {trace : List (Event A)} {output : List UInt8}

/-- What was written up to some point of the trace is the beginning of what was
written. -/
theorem Written.of_prefix (h : Written trace output) {before : List (Event A)}
    (hbefore : before <+: trace) : ∃ written, written <+: output ∧ Written before written := by
  induction h with
  | nil => exact ⟨[], List.prefix_rfl, List.prefix_nil.mp hbefore ▸ .nil⟩
  | whole h ih =>
    rcases List.prefix_concat_iff.mp hbefore with rfl | hbefore
    · exact ⟨_, List.prefix_rfl, .whole h⟩
    · obtain ⟨written, hpre, hwritten⟩ := ih hbefore
      exact ⟨written, hpre.trans (List.prefix_append _ _), hwritten⟩
  | cut h hcut ih =>
    rcases List.prefix_concat_iff.mp hbefore with rfl | hbefore
    · exact ⟨_, List.prefix_rfl, .cut h hcut⟩
    · obtain ⟨written, hpre, hwritten⟩ := ih hbefore
      exact ⟨written, hpre.trans (List.prefix_append _ _), hwritten⟩
  | other h hsent ih =>
    rcases List.prefix_concat_iff.mp hbefore with rfl | hbefore
    · exact ⟨_, List.prefix_rfl, .other h hsent⟩
    · exact ih hbefore

/-- PDUs that were sent follow each other. -/
theorem Written.eq_flatten (h : Written trace output) (hall : AllSent trace) :
    output = (sent trace).flatten := by
  induction h with
  | nil => rfl
  | @whole trace out bytes a _ ih =>
    have hrest := ih fun bytes a e hmem => hall bytes a e (List.mem_append_left _ hmem)
    rw [sent_append, List.flatten_append, ← hrest]
    exact congrArg (out ++ ·) (List.append_nil bytes).symm
  | cut =>
    exact absurd (List.mem_append_right _ (List.mem_singleton_self _)) (hall _ _ _)
  | other _ hsent ih =>
    have hrest := ih fun bytes a e hmem => hall bytes a e (List.mem_append_left _ hmem)
    rw [sent_append, hsent, List.append_nil]
    exact hrest

end Written

/-! ## The client -/

section Client

variable [Read T] [Write T] [Endpoint ω] [DataRepresentation] [RpcAuthProvider A]

/-- What was put to the endpoint is what the client wrote. Whoever gets it, in
whatever pieces, gets the PDUs the client sent if none was refused. What it gets
begins with those before the first that was refused otherwise. -/
structure OutputOf (output : List UInt8) (trace : List (Event A)) : Prop where
  written : Written trace output
  frames : ∀ pieces : List (List UInt8), pieces.flatten = output → AllSent trace →
    pduFraming.feedAll [] pieces = (sent trace, [])
  prefix_frames : ∀ pieces : List (List UInt8), pieces.flatten = output →
    ∀ before after, trace = before ++ after → AllSent before →
    sent before <+: (pduFraming.feedAll [] pieces).1

variable {endpoint : T → ω} {out : ω → List UInt8}

theorem written_invariant (h : Reaches endpoint) (hout : Logs out) :
    WorldInvariant fun w : World (NcacnNpTransport (StdIoNamedPipe T)) A =>
      Written w.trace (out (endpoint w.transport.pipe.inner)) where
  initContext _ _ hw := .other hw rfl
  step _ _ hw := .other hw rfl
  callRaw _ _ hw := .other hw rfl
  recvPdu := by
    intro w hw
    rw [← NcacnNpTransport.out_recvPdu h hout w.transport] at hw
    exact .other hw rfl
  sendPdu {bytes} _ := by
    intro w hw
    obtain ⟨more, hmore, hpre, hok⟩ := StdIoNamedPipe.exists_written h hout w.transport.pipe bytes
    show Written (w.trace ++ [.sendPdu bytes w.authProvider (NamedPipe.writeAll w.transport.pipe bytes).1])
      (out (endpoint (NamedPipe.writeAll w.transport.pipe bytes).2.inner))
    rw [hmore]
    generalize (NamedPipe.writeAll w.transport.pipe bytes).1 = result at hok ⊢
    cases result with
    | error e => exact .cut hw hpre
    | ok u =>
      rw [hok rfl]
      exact .whole hw

omit [Read T] [Write T] [Endpoint ω] in
/-- What a client sends are frames. -/
theorem sentFrames_invariant [RpcTransport T] (hd : WindowsDefaultLittle) :
    WorldInvariant fun w : World T A => ∀ bytes ∈ sent w.trace, pduFraming.IsFrame bytes := by
  have hother {w : World T A} {event : Event A} (hsent : sent [event] = [])
      (hw : ∀ bytes ∈ sent w.trace, pduFraming.IsFrame bytes) :
      ∀ bytes ∈ sent (w.trace ++ [event]), pduFraming.IsFrame bytes := by
    rwa [sent_append, hsent, List.append_nil]
  refine ⟨fun _ _ hw => hother rfl hw, fun _ _ hw => hother rfl hw, fun {bytes} hbytes w hw => ?_,
    fun w hw => hother rfl hw, fun _ _ hw => hother rfl hw⟩
  intro b hb
  rcases List.mem_append.mp ((sent_append w.trace _).symm ▸ hb) with hb | hb
  · exact hw b hb
  · rw [List.mem_singleton.mp hb]
    exact isFrame_of_built hd hbytes

omit [Read T] [Write T] [Endpoint ω] [RpcAuthProvider A] in
theorem Written.outputOf {trace : List (Event A)} {output : List UInt8} (h : Written trace output)
    (hframes : ∀ bytes ∈ sent trace, pduFraming.IsFrame bytes) : OutputOf output trace where
  written := h
  frames pieces hpieces hall := by
    rw [Framing.feedAll_eq Framing.next_nil, hpieces, h.eq_flatten hall]
    exact Framing.frames_flatten hframes
  prefix_frames pieces hpieces before after htrace hall := by
    rw [Framing.feedAll_eq Framing.next_nil, hpieces, List.nil_append]
    obtain ⟨written, ⟨rest, rfl⟩, hwritten⟩ := h.of_prefix ⟨after, htrace.symm⟩
    have hbefore : ∀ bytes ∈ sent before, pduFraming.IsFrame bytes := fun bytes hb =>
      hframes bytes (by rw [htrace, sent_append]; exact List.mem_append_left _ hb)
    rw [hwritten.eq_flatten hall, Framing.frames_flatten_append hbefore rest]
    exact List.prefix_append _ _

/-- What the client wrote to the stream, after a bind and after any use. -/
theorem client_output (h : Reaches endpoint) (hout : Logs out) (hd : WindowsDefaultLittle)
    [UuidCrate] {t : NcacnNpTransport (StdIoNamedPipe T)} (hstart : out (endpoint t.pipe.inner) = [])
    {proposed : List PresentationContext} {target : String} {authProvider : Option A}
    {r : Result (RpcClient (NcacnNpTransport (StdIoNamedPipe T)) A)}
    {w : World (NcacnNpTransport (StdIoNamedPipe T)) A}
    (hbind : (bindWithContextsInner proposed target).exec { transport := t, authProvider, trace := [] } =
      (r, w)) :
    OutputOf (out (endpoint w.transport.pipe.inner)) w.trace ∧
      ∀ c, r = .ok c → ∀ uses c', Run UseStep c uses c' →
        OutputOf (out (endpoint c'.transport.pipe.inner)) c'.trace := by
  have hwritten := written_invariant (A := A) h hout
  have hframes := sentFrames_invariant (T := NcacnNpTransport (StdIoNamedPipe T)) (A := A) hd
  have hnil : Written (A := A) [] (out (endpoint t.pipe.inner)) := by
    rw [hstart]
    exact .nil
  obtain ⟨hw, hc⟩ := hwritten.bind hnil hbind
  obtain ⟨hw', hc'⟩ := hframes.bind (fun bytes hb => absurd hb List.not_mem_nil) hbind
  refine ⟨hw.outputOf hw', fun c hr uses c' hrun => ?_⟩
  exact Written.outputOf (hwritten.uses hrun (hc c hr)) (hframes.uses hrun (hc' c hr))

end Client

/-! ## A stream that is full -/

section

open Standard

/-- A file that takes `room` more bytes and no others. -/
structure FullFile where
  output : List UInt8
  room : Nat

instance : Writer FullFile where
  write f bytes :=
    (if bytes.length ≤ f.room then .ok ()
      else .error (.transport "named pipe write failed: pipe is full"),
      { output := f.output ++ bytes.take f.room, room := f.room - bytes.length })

/-- A stream that writes to such a file. -/
structure FullStream where
  input : List UInt8
  file : FullFile

namespace FullStream

def full : IoError := { interrupted := false, text := "pipe is full" }

instance : Endpoint FullStream where
  unread s := s.input
  skip s n := { s with input := s.input.drop n }
  put s bytes :=
    { s with file := { output := s.file.output ++ bytes, room := s.file.room - bytes.length } }
  unread_skip _ _ := rfl
  skip_zero _ := rfl
  skip_skip s m n := by rw [List.drop_drop]
  put_nil s := by rw [List.append_nil, List.length_nil, Nat.sub_zero]
  put_put s a b := by rw [List.append_assoc, List.length_append, Nat.sub_sub]

theorem logs_output : Logs fun s : FullStream => s.file.output where
  put _ _ := rfl
  skip _ _ := rfl

instance : Read FullStream where
  read s n :=
    (.ok ⟨s.input.take n, List.length_take_le _ _⟩, Endpoint.skip s (s.input.take n).length)
  readInterruptions _ := 0
  read_interrupted h _ := by cases h

instance : Write FullStream where
  write s bytes :=
    if s.file.room = 0 then (.error full, s)
    else
      let n := min bytes.length s.file.room
      (.ok ⟨n, Nat.min_le_left _ _⟩, Endpoint.put s (bytes.take n))
  flush s := (.ok (), s)
  writeInterruptions _ := 0
  write_interrupted {s bytes e s'} h hi := by
    split at h
    · cases h
      cases hi
    · cases h

theorem reaches : Reaches (id : FullStream → FullStream) where
  read_ok {s n bytes s'} h := by
    cases h
    exact ⟨List.take_eq_take_iff.mpr (by rw [List.length_take]; omega), rfl⟩
  read_error h := by cases h
  write_ok {s bytes n s'} h := by
    simp only [Write.write] at h
    split at h
    · cases h
    · cases h
      rfl
  write_error {s bytes e s'} h := by
    simp only [Write.write] at h
    split at h
    · cases h
      rfl
    · cases h
  flush _ := rfl

theorem readsOn : ReadsOn (id : FullStream → FullStream) where
  progress {s n bytes s'} hn hne h := by
    cases h
    have hpos := List.length_pos_iff.mpr hne
    refine List.length_pos_iff.mp ?_
    rw [List.length_take]
    exact lt_min hn hpos
  interrupted _ h := by cases h

/-- All is written, or as much as there is room for. -/
theorem writeAll_eq (s : FullStream) (bytes : List UInt8) : StdIo.writeAll s bytes =
    (if bytes.length ≤ s.file.room then .ok () else .error full,
      Endpoint.put s (bytes.take s.file.room)) := by
  fun_induction StdIo.writeAll s bytes with
  | case1 s => rw [List.length_nil, if_pos (Nat.zero_le _), List.take_nil, Endpoint.put_nil]
  | case2 s bytes hne s' hle hwrite =>
    simp only [Write.write] at hwrite
    split at hwrite
    · cases hwrite
    · have hpos := List.length_pos_iff.mpr hne
      have hmin := congrArg Subtype.val (Except.ok.inj (Prod.mk.inj hwrite).1)
      dsimp only at hmin
      omega
  | case3 s bytes hne n hle s' hwrite hn ih =>
    simp only [Write.write] at hwrite
    split at hwrite
    · cases hwrite
    rename_i hroom
    cases hwrite
    have hroom' : (Endpoint.put s (bytes.take (min bytes.length s.file.room))).file.room =
        s.file.room - bytes.length := by
      show s.file.room - (bytes.take (min bytes.length s.file.room)).length = _
      rw [List.length_take]
      omega
    rw [ih, hroom', Endpoint.put_put, List.length_drop]
    by_cases hfits : bytes.length ≤ s.file.room
    · rw [if_pos hfits, if_pos (by omega), Nat.min_eq_left hfits, List.take_length, List.drop_length,
        List.take_nil, List.append_nil, List.take_of_length_le hfits]
    · rw [if_neg hfits, if_neg (by omega), Nat.min_eq_right (by omega),
        Nat.sub_eq_zero_of_le (by omega), List.take_zero, List.append_nil]
  | case4 s bytes hne e s' hwrite hi ih =>
    simp only [Write.write] at hwrite
    split at hwrite
    · cases hwrite
      cases hi
    · cases hwrite
  | case5 s bytes hne e s' hwrite hi =>
    simp only [Write.write] at hwrite
    split at hwrite
    · rename_i hroom
      cases hwrite
      have hpos := List.length_pos_iff.mpr hne
      rw [if_neg (by omega), hroom, List.take_zero, Endpoint.put_nil]
    · cases hwrite

theorem pipe_writeAll (p : StdIoNamedPipe FullStream) (bytes : List UInt8) :
    NamedPipe.writeAll p bytes = ((Writer.write p.inner.file bytes).1,
      ⟨Endpoint.put p.inner (bytes.take p.inner.file.room)⟩) := by
  simp only [NamedPipe.writeAll, StdIoNamedPipe.writeAll, writeAll_eq, Writer.write]
  by_cases hfits : bytes.length ≤ p.inner.file.room
  · rw [if_pos hfits, if_pos hfits]
    rfl
  · rw [if_neg hfits, if_neg hfits]
    rfl

/-- As a pipe it reads its input, and writes to its file. -/
theorem duplex : Duplex (fun p : StdIoNamedPipe FullStream => p.inner.input) (·.inner.file) where
  toReadsAll := StdIoNamedPipe.readsAll reaches readsOn
  read_output p n := by
    obtain ⟨k, hskip⟩ := StdIoNamedPipe.exists_skip reaches p n
    have hfile := congrArg FullStream.file hskip
    exact hfile
  write_result p bytes := by rw [pipe_writeAll]
  write_output p bytes := by
    have hroom : p.inner.file.room - (bytes.take p.inner.file.room).length =
        p.inner.file.room - bytes.length := by
      rw [List.length_take]
      omega
    rw [pipe_writeAll]
    exact congrArg (FullFile.mk _) hroom
  write_input p bytes := by
    rw [pipe_writeAll]
    rfl

end FullStream

/-- The ack of a server with small fragments. -/
def smallAck : List UInt8 := pdu .bindAck 1 (acceptanceBody 25 4280 .ndr32)

/-- The stream has room for the Bind, a fragment of a request and ten bytes of the
next. -/
def fullDialogue : NcacnNpTransport (StdIoNamedPipe FullStream) :=
  ⟨⟨{ input := smallAck, file := { output := [], room := 72 + 25 + 10 } }⟩⟩

/-- The client of the bind over messages. -/
def fullClient : RpcClient (MessageTransport FullFile) FixedProvider :=
  (bindWithContexts ⟨[smallAck], ⟨[], 72 + 25 + 10⟩⟩ [ndr32Context]).1.toOption.getD
    (newBound ⟨[], ⟨[], 0⟩⟩ 0)

/-- That client after a call. -/
def fullCalled : RpcClient (MessageTransport FullFile) FixedProvider :=
  ((RpcClient.callRaw 1 7 [1, 2, 3]).exec fullClient).2

/-- What it did before the PDU that was refused. -/
def fullBefore : List (Event FixedProvider) :=
  [.sendPdu ((sent fullCalled.trace).getD 0 []) none (.ok ()), .recvPdu (.ok smallAck),
    .callRaw 7 [1, 2, 3], .sendPdu ((sent fullCalled.trace).getD 1 []) none (.ok ())]

deriving instance DecidableEq for Event

/-- A bind, and a call whose second fragment the stream takes only a part of: what
is at its end begins with the two PDUs sent before. -/
theorem client_output_cut :
    ∃ (c c' : RpcClient (NcacnNpTransport (StdIoNamedPipe FullStream)) FixedProvider) (uses : List Use)
      (before : List (Event FixedProvider)) (bytes : List UInt8) (e : Error),
      (bindWithContexts fullDialogue [ndr32Context]).1 = .ok c ∧ Run UseStep c uses c' ∧
      OutputOf c'.transport.pipe.inner.file.output c'.trace ∧
      c'.trace = before ++ [.sendPdu bytes none (.error e)] ∧ AllSent before ∧
      (∀ pieces : List (List UInt8), pieces.flatten = c'.transport.pipe.inner.file.output →
        sent before <+: (pduFraming.feedAll [] pieces).1) ∧
      (sent before).map List.length = [72, 25] ∧ bytes.length = 25 ∧
      c'.transport.pipe.inner.file.output.length = 72 + 25 + 10 := by
  have hdecode : ∀ bytes ∈ [smallAck], ∃ packet, PduPacket.decode bytes = .ok packet :=
    List.forall_mem_singleton.mpr
      ⟨packet .bindAck 1 (acceptanceBody 25 4280 .ndr32), by decide +kernel⟩
  have hT := NcacnNpTransport.transportSim FullStream.duplex []
  have hsame : SameResult (ClientSim (NcacnNpTransport.Carries
      (fun p : StdIoNamedPipe FullStream => p.inner.input) (·.inner.file) []))
      (bindWithContexts fullDialogue [ndr32Context]).1 (.ok fullClient) :=
    (hT.bind (t := fullDialogue) (m := ⟨[smallAck], ⟨[], 72 + 25 + 10⟩⟩)
      ⟨hdecode, (List.append_nil _).symm, rfl⟩ [ndr32Context] "" none
      (not_starved (by decide +kernel))).1
  have hcall : (RpcClient.callRaw 1 7 [1, 2, 3]).exec fullClient =
      (.error (.err (.transport "named pipe write failed: pipe is full")), fullCalled) :=
    Prod.ext (by decide +kernel) rfl
  obtain ⟨events, hstep⟩ := CallStep.of_exec 1 7 [1, 2, 3] hcall (by decide)
  have hevents : fullCalled.trace = fullBefore ++
      [.sendPdu ((sent fullCalled.trace).getD 2 []) none
        (.error (.transport "named pipe write failed: pipe is full"))] := by decide +kernel
  have hsent : AllSent fullBefore := by
    intro bytes authProvider e hmem
    simp [fullBefore] at hmem
  rcases hc : (bindWithContexts (A := FixedProvider) fullDialogue [ndr32Context]).1 with e | c
  · rw [hc] at hsame
    cases hsame
  rw [hc] at hsame
  cases hsame with
  | ok hsim =>
    obtain ⟨c', hsession, hsim'⟩ := hT.session hsim (.cons hstep (.nil _))
      (not_starved (by decide +kernel))
    obtain ⟨use, hrun⟩ : ∃ use, Run UseStep c [use] c' := by
      cases hsession with
      | cons hcall hnil =>
        cases hnil
        obtain ⟨fuel, hexec⟩ := hcall.exec
        exact ⟨_, .cons (.callRaw hexec) (.nil _)⟩
    have hout : OutputOf c'.transport.pipe.inner.file.output c'.trace :=
      (client_output FullStream.reaches FullStream.logs_output windowsDefaultLittle rfl
        (Prod.ext hc rfl)).2 c rfl _ c' hrun
    have htrace : c'.trace = fullCalled.trace := hsim'.toWorld.trace
    have hfile : c'.transport.pipe.inner.file = fullCalled.transport.out :=
      hsim'.toWorld.transport.output_eq
    refine ⟨c, c', _, _, _, _, rfl, hrun, hout, htrace.trans hevents, hsent,
      fun pieces hpieces => hout.prefix_frames pieces hpieces _ _ (htrace.trans hevents) hsent,
      by decide +kernel, by decide +kernel, ?_⟩
    rw [hfile]
    decide +kernel

end

end Rpce
