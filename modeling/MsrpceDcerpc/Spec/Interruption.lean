import MsrpceDcerpc.Spec.Server

/-!
# Interruptions

A transport whose receives fail now and then, as those of a pipe with a time
limit do, and which loses nothing by it (`Interrupted`). What the calls of a
client over it return is a function of the answers of the server and of the
interruptions alone (`interruptedResults`).
-/

namespace Rpce

open Rust

variable {T : Type}

/-- `interruptions` says of each of the next receives whether it fails, and
with which error. After its end none fails. -/
structure Interrupted (T : Type) where
  inner : T
  interruptions : List (Option Error)

instance [RpcTransport T] : RpcTransport (Interrupted T) where
  sendPdu t bytes :=
    let (result, inner) := RpcTransport.sendPdu t.inner bytes
    (result, { t with inner })
  recvPdu t :=
    let interruptions := t.interruptions.tail
    match t.interruptions.head?.join with
    | some e => (.error e, { t with interruptions })
    | none =>
      let (result, inner) := RpcTransport.recvPdu t.inner
      (result, { inner, interruptions })

/-- The first failure of the next `n` receives, and the interruptions that are
left after it, or after all `n`. -/
def firstInterruption : Nat → List (Option Error) → Option Error × List (Option Error)
  | 0, interruptions => (none, interruptions)
  | n + 1, interruptions =>
    match interruptions.head?.join with
    | some e => (some e, interruptions.tail)
    | none => firstInterruption n interruptions.tail

/-- The number of PDUs of an answer. -/
def Answer.count : Answer → Nat
  | response r => r.fragments.length
  | fault _ _ _ _ _ => 1

/-- The results of `n` calls while there is something on the connection that an
earlier call left there. -/
def lostResults : List (Option Error) → Nat → List (Result (List UInt8))
  | _, 0 => []
  | interruptions, n + 1 =>
    .error (.err (interruptions.head?.join.getD
      (.invalidPdu "response call id does not match request"))) :: lostResults interruptions.tail n

/-- The results of the calls whose answers are `answers`. -/
def interruptedResults : List (Option Error) → List Answer → List (Result (List UInt8))
  | _, [] => []
  | interruptions, answer :: answers =>
    match firstInterruption answer.count interruptions with
    | (none, interruptions) => answer.result :: interruptedResults interruptions answers
    | (some e, interruptions) => .error (.err e) :: lostResults interruptions answers.length

end Rpce
