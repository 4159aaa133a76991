import Messenger.Negotiation.Negotiation

/-!
# `Eventlog.Negotiations` — where negotiations and their budget survive a restart

The negotiation store and the repair of the seam between it and the budget
(`pkg/eventlog/negotiation.go`, `pkg/eventlog/budget.go`).

- **Writes.** A record is replaced by a rename and a sync of its directory. A write can therefore
  end in three ways: it succeeds, it fails and nothing changed, or the sync fails and the record has
  changed although the caller is told of an error (`Written`).
- **Files.** A negotiation's file is named by a digest of its identifier, so the store is a
  directory by identifier.
- **Order.** Reconciliation walks the holds in the order of a map. Each hold is judged by its own
  negotiation only, so the order does not matter.
-/

namespace Messenger.Eventlog

open Lib Negotiation

/-! ## Durable writes -/

/-- How a durable write ends. -/
inductive Written where
  | done
  /-- An error, and nothing changed. -/
  | refused
  /-- An error, and the record has changed. -/
  | unacknowledged
  deriving DecidableEq, Repr

namespace Written

/-- What the caller is told. -/
def result (refusal : String) : Written → Except Failure Unit
  | .done => .ok ()
  | .refused => .error (.other refusal)
  | .unacknowledged => .error (.other "sync event journal directory")

/-- What is on disk afterwards. -/
def put {α : Type} (w : Written) (old new : α) : α := if w = .refused then old else new

end Written

/-- What the disk does during one call. -/
structure Medium where
  readable : Bool := true
  written : Written := .done
  deriving DecidableEq, Repr

/-! ## The negotiation store -/

def maxNegotiations : Nat := 512

/-- The stored negotiations. -/
abbrev Negotiations := Dir String Snapshot

/-- `^[\x20-\x7e]{1,128}$` -/
def negotiationNamePattern (id : String) : Bool :=
  id ≠ "" && id.length ≤ 128 && id.toList.all fun c => ' ' ≤ c && c ≤ '~'

namespace Negotiations

variable (d : Negotiations)

/-- The exchanges that have not ended: `count`. -/
def openCount : Nat := (d.entries.filter fun e => ¬e.2.state.settled).length

/-- The checks before a snapshot is written. -/
def storable (s : Snapshot) : Except Failure Unit := do
  s.validate
  failIf (¬negotiationNamePattern s.id) "invalid negotiation identifier"
  if (lookup s.id d).isNone ∧ maxNegotiations ≤ d.openCount then .error .negotiationsFull else pure ()

/-- The checks before a negotiation is removed; `none` when there is nothing to remove. -/
def droppable (id : String) (now : Time) : Except Failure (Option Snapshot) := do
  failIf (now < 0) "invalid time"
  failIf (¬negotiationNamePattern id) "invalid negotiation identifier"
  failIf ((lookup id d).any fun s => ¬s.state.settled) "this negotiation is still open"
  pure (lookup id d)

/-- Remove a settled negotiation. -/
def drop (w : Written) (id : String) (now : Time) (d : Negotiations) : Except Failure Unit × Negotiations :=
  match d.droppable id now with
  | .error e => (.error e, d)
  | .ok none => (.ok (), d)
  | .ok (some _) => (w.result "remove negotiation record", w.put d (d.erase id))

end Negotiations

/-! ## Reconciliation -/

/-- What becomes of a hold at start-up. -/
inductive Disposition where
  | holdStands
  | holdReturns
  | holdBecomesSpend
  deriving DecidableEq, Repr

/-- A hold is judged by the exchange it belongs to. -/
def stateDisposition : State → Disposition
  | .intentAgreed | .canonicalizationPending => .holdStands
  | .finalized => .holdBecomesSpend
  | _ => .holdReturns

variable (d : Negotiations)

/-- A hold whose exchange does not exist, or could not, goes back. -/
def holdDisposition (id : String) : Disposition :=
  if ¬negotiationNamePattern id then .holdReturns
  else
    match lookup id d with
    | none => .holdReturns
    | some s => stateDisposition s.state

/-- One hold of a budget, reconciled. -/
def reconcileHold (record : Budget String) (hold : Sigma fun _ : String => Nat) : Budget String :=
  match holdDisposition d hold.1 with
  | .holdStands => record
  | .holdReturns => { record with reserved := record.reserved.erase hold.1 }
  | .holdBecomesSpend => { record with spent := record.spent + hold.2, reserved := record.reserved.erase hold.1 }

/-- The budget after all its holds were reconciled. -/
def reconciled (record : Budget String) : Budget String :=
  record.reserved.entries.foldl (reconcileHold d) record

/-- Repair one budget file; nothing is written when every hold stands. -/
def reconcileBudgetFile (w : Written) (d : Negotiations) (record : Budget String) :
    Except Failure Unit × Budget String :=
  if record.reserved.entries.any fun hold => holdDisposition d hold.1 ≠ .holdStands then
    (w.result "commit event transition", w.put record (reconciled d record))
  else (.ok (), record)

/-- Repair the seam between the budget and the negotiations, if there is a budget. -/
def reconcileCommerce (w : Written) (d : Negotiations) :
    Option (Budget String) → Except Failure Unit × Option (Budget String)
  | none => (.ok (), none)
  | some record => ((reconcileBudgetFile w d record).1, some (reconcileBudgetFile w d record).2)

end Messenger.Eventlog
