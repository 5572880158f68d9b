import MsrpceDcerpc.Model.Client
import MsrpceDcerpc.Model.NcacnNp

/-!
# The crates as documented, and the transports of the tests

Instances of the classes of `Crates.lean` that behave as the documentation of
`msrpce_ndr` and `uuid` says, the `MemoryTransport` and the `ChunkedPipe` of
`tests/`, a provider like those of the tests, and PDUs of a server. Results about all crates and
transports are applied to these where a concrete input is asked for; `open
Standard` makes them instances.
-/

namespace Rpce.Standard

open Rust Endian

/-- The integer format is the high nibble of the first byte: 1 for
little-endian, 0 for big-endian. -/
scoped instance drep : DataRepresentation where
  fromBytes d :=
    if d.b0 >>> 4 = 1 then .ok .little
    else if d.b0 >>> 4 = 0 then .ok .big
    else .error "unsupported integer representation"
  windowsDefault := ⟨0x10, 0, 0, 0⟩

theorem windowsDefaultLittle : WindowsDefaultLittle := rfl

/-- A UUID as its 16 bytes, the fields big-endian. -/
scoped instance uuid : UuidCrate where
  Uuid := { bs : List UInt8 // bs.length = 16 }
  decEq := inferInstance
  asBytes u := u.val
  fromSlice bs := if h : bs.length = 16 then some ⟨bs, h⟩ else none
  toBytesLe u := swapFields u.val
  fromBytesLe bs :=
    if h : bs.length = 16 then ⟨swapFields bs, (length_swapFields bs).trans h⟩
    else ⟨toBytes .big 16 0, length_toBytes ..⟩
  fromU128 n := ⟨toBytes .big 16 n, length_toBytes ..⟩
  length_asBytes u := u.property
  fromSlice_asBytes u := dif_pos u.property
  asBytes_fromSlice bs h := by rw [dif_pos h]; rfl
  toBytesLe_eq _ := rfl
  fromBytesLe_toBytesLe u := by
    rw [dif_pos ((length_swapFields _).trans u.property)]
    exact Subtype.ext (swapFields_swapFields _)
  toBytesLe_fromBytesLe bs h := by
    rw [dif_pos h]
    exact swapFields_swapFields bs

theorem length_fields (d1 : UInt32) (d2 d3 : UInt16) {d4 : List UInt8} (h : d4.length = 8) :
    (u32Bytes .big d1 ++ u16Bytes .big d2 ++ u16Bytes .big d3 ++ d4).length = 16 := by
  simp only [List.length_append, length_u32Bytes, length_u16Bytes, h]

scoped instance uuidNumbers : UuidNumbers where
  fromFields d1 d2 d3 d4 :=
    if h : d4.length = 8 then ⟨_, length_fields d1 d2 d3 h⟩
    else ⟨toBytes .big 16 0, length_toBytes ..⟩
  asBytes_fromFields _ _ _ _ h := by rw [dif_pos h]; rfl
  asBytes_fromU128 _ _ := rfl

/-- `MemoryTransport`: it delivers the PDUs of a queue, and accepts all. -/
structure MemoryTransport where
  incoming : List (List UInt8)
  sent : List (List UInt8)
  deriving DecidableEq

scoped instance memoryTransport : RpcTransport MemoryTransport where
  sendPdu t bytes := (.ok (), { t with sent := t.sent ++ [bytes] })
  recvPdu t :=
    match t.incoming with
    | [] => (.error (.transport "no queued PDU available"), t)
    | bytes :: incoming => (.ok bytes, { t with incoming })

/-- `ChunkedPipe`: its input comes in chunks. -/
structure ChunkedPipe where
  reads : List (List UInt8)
  writes : List (List UInt8)
  deriving DecidableEq

/-- The next `n` bytes of the chunks, and the chunks then. A chunk that is used
up is dropped. -/
def ChunkedPipe.fill : (n : Nat) → (reads : List (List UInt8)) →
    Option ({ bytes : List UInt8 // bytes.length = n } × List (List UInt8))
  | 0, reads => some (⟨[], rfl⟩, reads)
  | _ + 1, [] => none
  | n + 1, chunk :: reads =>
    if h : chunk.length ≤ n + 1 then
      (fill (n + 1 - chunk.length) reads).map fun (rest, reads) =>
        (⟨chunk ++ rest, by rw [List.length_append, rest.property]; omega⟩, reads)
    else
      some (⟨chunk.take (n + 1), List.length_take_of_le (Nat.le_of_not_le h)⟩,
        chunk.drop (n + 1) :: reads)

scoped instance chunkedPipe : NamedPipe ChunkedPipe where
  readExact p n :=
    match ChunkedPipe.fill n p.reads with
    | none => (.error (.transport "pipe has no queued bytes"), { p with reads := [] })
    | some (bytes, reads) => (.ok ⟨bytes.val.toArray, bytes.property⟩, { p with reads })
  writeAll p bytes := (.ok (), { p with writes := p.writes ++ [bytes] })

/-- A stream that reads and writes at most `step + 1` bytes at once, and is
interrupted `every` times before each of them, `due` times before the next. -/
structure SlowStream (ω : Type) where
  endpoint : ω
  step : Nat
  every : Nat
  due : Nat

def interruption : StdIo.IoError := { interrupted := true, text := "operation interrupted" }

open StdIo Endpoint in
scoped instance slowRead {ω : Type} [Endpoint ω] : Read (SlowStream ω) where
  read s n :=
    if s.due = 0 then
      let bytes := (unread s.endpoint).take (min n (s.step + 1))
      (.ok ⟨bytes, (List.length_take_le _ _).trans (Nat.min_le_left _ _)⟩,
        { s with endpoint := skip s.endpoint bytes.length, due := s.every })
    else (.error interruption, { s with due := s.due - 1 })
  readInterruptions s := s.due
  read_interrupted {s n e s'} h _ := by
    split at h
    · cases h
    · cases h
      exact Nat.pred_lt ‹_›

open StdIo Endpoint in
scoped instance slowWrite {ω : Type} [Endpoint ω] : Write (SlowStream ω) where
  write s bytes :=
    if s.due = 0 then
      let n := min bytes.length (s.step + 1)
      (.ok ⟨n, Nat.min_le_left _ _⟩,
        { s with endpoint := put s.endpoint (bytes.take n), due := s.every })
    else (.error interruption, { s with due := s.due - 1 })
  flush s := (.ok (), s)
  writeInterruptions s := s.due
  write_interrupted {s bytes e s'} h _ := by
    split at h
    · cases h
    · cases h
      exact Nat.pred_lt ‹_›

/-- The bytes that are read from a stream, and those that were written to it. -/
structure Buffers where
  input : List UInt8
  output : List UInt8
  deriving DecidableEq

scoped instance buffers : StdIo.Endpoint Buffers where
  unread b := b.input
  skip b n := { b with input := b.input.drop n }
  put b bytes := { b with output := b.output ++ bytes }
  unread_skip _ _ := rfl
  skip_zero _ := rfl
  skip_skip b m n := by rw [List.drop_drop]
  put_nil b := by rw [List.append_nil]
  put_put b _ _ := by rw [List.append_assoc]

/-- A provider with a constant level and constant tokens. -/
structure FixedProvider where
  level : AuthLevel
  initToken : List UInt8
  stepToken : List UInt8
  deriving DecidableEq

scoped instance fixedProvider : RpcAuthProvider FixedProvider where
  mechanism _ := .ntlm
  authLevel a := a.level
  initContext a _ := (.ok a.initToken, a)
  step a _ := (.ok a.stepToken, a)
  authContextId _ := 11

/-- A provider whose `init_context` returns `token`. -/
def provider (token : List UInt8) : FixedProvider :=
  { level := .connect, initToken := token, stepToken := [] }

/-- A number as wide as a pointer: 4 bytes in NDR32, 8 bytes in NDR64. -/
structure Pointer where
  value : Nat
  deriving DecidableEq

scoped instance pointer : NdrSerialize Pointer where
  serialize
    | .ndr32, p => .ok (toBytes .little 4 p.value)
    | .ndr64, p => .ok (toBytes .little 8 p.value)

scoped instance pointerResult : NdrDeserialize Pointer where
  deserialize _ bytes := .ok ⟨ofBytes .little bytes⟩

/-- A packet in one fragment, without a security trailer. -/
def packet (ptype : PduType) (callId : UInt32) (body : List UInt8) : PduPacket :=
  .new { PduHeader.new ptype (PFC_FIRST_FRAG ||| PFC_LAST_FRAG) callId with
    fragLength := UInt16.ofNat (16 + body.length) } body []

/-- The same with a big-endian DREP. -/
def bigPacket (ptype : PduType) (callId : UInt32) (body : List UInt8) : PduPacket :=
  .new { (packet ptype callId body).header with packedDrep := ⟨0, 0, 0, 0⟩ } body []

/-- The bytes of `packet`. -/
def pdu (ptype : PduType) (callId : UInt32) (body : List UInt8) : List UInt8 :=
  (packet ptype callId body).header.encode ++ body

/-- The answer of a server that accepts the first context with the syntax `s`. -/
def acceptance (maxXmitFrag maxRecvFrag : UInt16) (s : TransferSyntax) : BindAckPdu :=
  { maxXmitFrag, maxRecvFrag, assocGroupId := 0, secondaryAddr := [],
    results := [⟨.acceptance, .reasonNotSpecified, s.syntaxId⟩] }

def acceptanceBody (maxXmitFrag maxRecvFrag : UInt16) (s : TransferSyntax) : List UInt8 :=
  u16Bytes .little maxXmitFrag ++ u16Bytes .little maxRecvFrag ++
    [0, 0, 0, 0, 0, 0, 0, 0, 1, 0, 0, 0, 0, 0, 0, 0] ++ s.syntaxId.encode

/-- The body of a response with the stub `stub`. -/
def responseBody (stub : List UInt8) : List UInt8 := [0, 0, 0, 0, 0, 0, 0, 0] ++ stub

/-- The client of a bind that succeeds. -/
def boundTo (transport : MemoryTransport) (proposed : List PresentationContext) :
    RpcClient MemoryTransport FixedProvider :=
  (bindWithContexts transport proposed).1.toOption.getD (newBound transport 0)

/-- A context that offers NDR32, and one that offers NDR32 and NDR64. -/
def ndr32Context : PresentationContext := .new 0 TransferSyntax.ndr32.syntaxId [.ndr32]

def ndr64Context : PresentationContext := .new 0 TransferSyntax.ndr32.syntaxId [.ndr32, .ndr64]

end Rpce.Standard
