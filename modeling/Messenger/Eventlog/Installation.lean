import Messenger.Negotiation.Desk

/-!
# `Eventlog.Installation` — all negotiations of an installation, over restarts

The negotiations of one process share a store and one budget; a crash takes the process and leaves
the records; a reopened journal first repairs the seam between budget and negotiations
(`openJournalAt`), then the budget is opened again (`OpenBudget`).

- **Objects.** The process may make several objects for one negotiation. The last one made is
  current, the ones before it are stale. Both can be operated on.
- **Crashes between writes.** See `Negotiation.Desk`: a refused write followed by `crash`.
-/

namespace Messenger.Eventlog

open Lib Negotiation

/-- One installation: its records, and the memory of its process while it runs. -/
structure Installation where
  books : Books
  /-- The last object made for each negotiation. -/
  current : Dir String Negotiation
  /-- The objects made before those. -/
  stale : List Negotiation
  running : Bool

/-- What can happen. -/
inductive Installation.Input where
  /-- `New`, and how the write of the first state ends. -/
  | new (id : String) (conversationID : ConversationID) (counterpartyAgentID : AgentID) (mandate : Mandate)
      (network : Option Network) (now : Time) (save : Written)
  /-- `Load` and `Restore`. -/
  | load (id : String) (mandate : Mandate)
  /-- An operation of a negotiation's current object. -/
  | act (id : String) (op : Op) (faults : Faults)
  /-- An operation of an object another one was made after. -/
  | actStale (index : Nat) (op : Op) (faults : Faults)
  | drop (id : String) (now : Time) (remove : Written)
  | crash
  /-- The journal and the budget are opened: how the write of the reconciled ledger ends, and of a
      new one. -/
  | reopen (reconcile record : Written)

namespace Installation

variable (total : Money) (s : Installation)

/-- Nothing was ever written. -/
def fresh : Installation where
  books := { snapshots := ∅, everFinalized := [], budget := Budget.opened total, ledger := none }
  current := ∅
  stale := []
  running := false

/-- An object was made; the one before it for the same negotiation is stale. -/
def made (n : Negotiation) : Installation :=
  { s with
    current := s.current.insert n.id n
    stale := s.stale ++ (lookup n.id s.current).toList }

/-- Start a negotiation that passed its checks. -/
def start (n : Negotiation) (save : Written) : Installation :=
  match Desk.persist save ⟨n, s.books⟩ with
  | (.error _, d) => { s with books := d.books }
  | (.ok _, d) => { s with books := d.books }.made d.negotiation

/-- Rebuild a negotiation that is stored. -/
def load (mandate : Mandate) : Option Snapshot → Installation
  | none => s
  | some snapshot =>
    match restore snapshot mandate true with
    | .error _ => s
    | .ok n => s.made n

/-- An operation of an object. -/
def act (s : Installation) (id : String) (op : Op) (f : Faults) : Installation :=
  match lookup id s.current with
  | none => s
  | some n =>
    let d := (Desk.act ⟨n, s.books⟩ op f).2
    { s with books := d.books, current := s.current.insert id d.negotiation }

def actStale (index : Nat) (op : Op) (f : Faults) : Installation :=
  match s.stale[index]? with
  | none => s
  | some n =>
    let d := (Desk.act ⟨n, s.books⟩ op f).2
    { s with books := d.books, stale := s.stale.set index d.negotiation }

/-- `OpenBudget` after the journal was opened: a stored budget must have the same total. -/
def openBudget (record : Written) (b : Books) : Bool × Books :=
  match b.ledger with
  | none =>
    (record = .done,
      { b with budget := Budget.opened total, ledger := record.put none (some (Budget.opened total)) })
  | some stored =>
    if stored.asset = total.asset ∧ stored.total = total.atomic then (true, { b with budget := stored }) else (false, b)

/-- Open the journal, which reconciles, and then the budget. -/
def reopen (reconcile record : Written) (s : Installation) : Installation :=
  match reconcileCommerce reconcile s.books.snapshots s.books.ledger with
  | (.error _, ledger) => { s with books := { s.books with ledger } }
  | (.ok _, ledger) =>
    let opened := openBudget total record { s.books with ledger }
    { s with books := opened.2, running := opened.1 }

/-- One event of an installation whose budget is `total`. Every negotiation is made with that
    budget. -/
def step : Input → Installation
  | .crash => { s with current := ∅, stale := [], running := false }
  | .reopen reconcile record => if s.running then s else s.reopen total reconcile record
  | .new id conversationID counterpartyAgentID mandate network now save =>
    if ¬s.running then s
    else
      match Negotiation.start id conversationID counterpartyAgentID mandate network true now with
      | .error _ => s
      | .ok n => s.start n save
  | .load id mandate => if ¬s.running then s else s.load mandate (lookup id s.books.snapshots)
  | .act id op f => if ¬s.running then s else s.act id op f
  | .actStale index op f => if ¬s.running then s else s.actStale index op f
  | .drop id now remove =>
    if ¬s.running then s
    else { s with books := { s.books with snapshots := (s.books.snapshots.drop remove id now).2 } }

end Installation

end Messenger.Eventlog
