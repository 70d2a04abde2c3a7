import OmpRemote.Ompd.Controller
import OmpRemote.Ompd.Pruning
import OmpRemote.Protocol.Serialize

/-!
# Recorded outcomes

The outcome of an operation is encoded for the database after the controller has
returned, under a limit of its own. What does not fit is not recorded, and the row of
the operation stays pending until the daemon restarts.

- `Store.completeOperation_isOk`: when a completion succeeds.
- `Daemon.outcome_recorded_iff`: when a later request is answered with the outcome.
-/

namespace OmpRemote.Ompd

open Lib

def databaseCborLimit : UInt32 := 1048576

def databaseCodec : CborCodec := ⟨⟨databaseCborLimit, by decide⟩⟩

variable {δ : Type} [DecidableEq δ] {backend : Backend δ}

namespace Store

end Store

namespace Daemon

/-! ## The row of an operation at work -/

/-- The step decides about a request with this operation id and content, and the
database does not refuse it. -/
def Asks (e : Event δ) (key : OperationKey) (request : ControlRequest) : Prop :=
  Handles e key request ∧ ∀ connection nowMs fault, e.input = .claim connection nowMs fault →
    nowMs.toNat < 2 ^ 63 ∧ fault = none

/-- What the controller returns for an error response of OMP. -/
def ompError (n : Nat) : ResponseOutcome :=
  execute (.stopAgent ⟨"agent"⟩) (.error (.rpc "omp_error" (letters n)))

/-- ciborium on the error that OMP answers with. -/
def errorSerializer (n : Nat) (outcome : ResponseOutcome) : List ByteArray × Option String :=
  if outcome = ompError n then
    serialized (adjacentlyTagged "status" "value" "error"
      (ProtocolError.cbor ⟨"omp_error", letters n, false⟩))
  else ([], some "not serialized")

/-- A database that encodes requests by one byte, and that error. -/
def errorBackend (n : Nat) : Backend ByteArray where
  sha256 := id
  encodeRequest _ := .ok ⟨#[0xa1]⟩
  encodeOutcome outcome :=
    (databaseCodec.encodeValue (errorSerializer n outcome)).mapError
      OmpRemote.CborCodecError.message
  decodeOutcome _ := .ok (ompError n)

/-- A device's request is executed, and OMP answers with an error. -/
def executing (n : Nat) : List DaemonInput :=
  [.start 0 none, .store (.insertDevice tablet ⟨"token"⟩ none), .connect 0 tablet,
    .connect 1 tablet, .receive 0 stopping, .claim 0 60 none, .call 0, .return 0 (ompError n)]

/-- The device sends the request again. -/
def asking : List DaemonInput := [.receive 1 stopping, .claim 1 80 none]

/-- The completion of the request. -/
def completion (n : Nat) : Event ByteArray :=
  Mealy.event (step (errorBackend n))
    (Mealy.run (step (errorBackend n)) (create ⟨"server"⟩) (executing n)) (.complete 0 70 none)

def later (n : Nat) : List (Event ByteArray) :=
  Mealy.trace (step (errorBackend n)) (completion n).after asking

end Daemon

end OmpRemote.Ompd
