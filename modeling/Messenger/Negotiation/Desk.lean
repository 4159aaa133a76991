import Messenger.Eventlog.Negotiations
import Messenger.Lib.Run
import Messenger.Negotiation.Moves

/-!
# `Negotiation.Desk` — a negotiation with its store and its budget

The durable half of every transition: the object is written, its hold is taken, given back or spent,
in the order the transition's plan names, and any of the writes may fail.

- **Poison.** A failed write of the object leaves it moved in memory and marked (`persist`).
- **Budget.** A failed write of the ledger undoes the change in memory (`record`), so memory and
  ledger part only when the write took effect without being acknowledged.
- **Crashes.** A transition stops at its first failed write. A crash between its writes therefore
  leaves the disk of the run in which the next write is refused, with the memory lost.
-/

set_option linter.dupNamespace false

namespace Messenger.Negotiation

open Lib Eventlog

/-- What outlives one object: the stored negotiations, the shared budget in memory and its ledger on
    disk. `everFinalized` is no data of the source. It lists, for reasoning only, the snapshots that
    made a stored negotiation finalized. -/
structure Books where
  snapshots : Negotiations
  everFinalized : List Snapshot
  budget : Budget String
  ledger : Option (Budget String)

namespace Books

/-- Whether the stored negotiation is finalized. -/
def finalizedAt (b : Books) (id : String) : Bool := (lookup id b.snapshots).any fun s => s.state = .finalized

/-- The books after a snapshot was written. -/
def stored (b : Books) (s : Snapshot) : Books :=
  { b with
    snapshots := b.snapshots.insert s.id s
    everFinalized := if s.state = .finalized ∧ ¬b.finalizedAt s.id then s :: b.everFinalized else b.everFinalized }

/-- Write a snapshot. -/
def save (w : Written) (s : Snapshot) (b : Books) : Except Failure Unit × Books :=
  match b.snapshots.storable s with
  | .error e => (.error e, b)
  | .ok _ => (w.result "commit event transition", w.put b (b.stored s))

/-- Write the budget a change would leave; memory keeps the change only if the write succeeded. -/
def record (w : Written) (next : Budget String) (b : Books) : Except Failure Unit × Books :=
  (w.result "commit event transition",
    { b with budget := if w = .done then next else b.budget, ledger := w.put b.ledger (some next) })

def reserve (w : Written) (id : String) (price : Money) (b : Books) : Except Failure Unit × Books :=
  match b.budget.reserve id price with
  | .error e => (.error e, b)
  | .ok next => b.record w next

def release (w : Written) (id : String) (b : Books) : Except Failure Unit × Books :=
  match b.budget.release id with
  | none => (.ok (), b)
  | some next => b.record w next

def commit (w : Written) (id : String) (b : Books) : Except Failure Unit × Books :=
  match b.budget.commit id with
  | .error e => (.error e, b)
  | .ok next => b.record w next

end Books

/-- One object with its books. -/
structure Desk where
  negotiation : Negotiation
  books : Books

/-- How the two durable writes of a transition end. -/
structure Faults where
  save : Written := .done
  record : Written := .done
  deriving DecidableEq, Repr

namespace Desk

variable (d : Desk)

/-- The object as a transition leaves it in memory. -/
def moved (next : Negotiation) : Desk := { d with negotiation := next }

/-- The object after one of its writes failed. -/
def poison : Desk := { d with negotiation := { d.negotiation with poisoned := true } }

/-- The books, after the object has been written. -/
def kept : Desk := { d with books := d.books.stored d.negotiation.content }

/-- Write the object down. -/
def persist (w : Written) (d : Desk) : Except Failure Unit × Desk :=
  match d.negotiation.snapshot with
  | .error e => (.error e, d)
  | .ok s =>
    match d.books.save w s with
    | (.error e, books) => (.error e, { d with books }.poison)
    | (.ok _, books) => (.ok (), { d with books })

/-- An operation on the budget, for an object that has one. -/
def onBudget (change : Books → Except Failure Unit × Books) : Except Failure Unit × Desk :=
  if d.negotiation.budget then ((change d.books).1, { d with books := (change d.books).2 }) else (.ok (), d)

/-- One step after another; an error ends the transition with what was done so far. -/
def andThen (first : Except Failure Unit × Desk) (next : Desk → Except Failure Unit × Desk) :
    Except Failure Unit × Desk :=
  match first with
  | (.error e, d) => (.error e, d)
  | (.ok _, d) => next d

/-- The writes of a plan. -/
def perform (f : Faults) (d : Desk) : Plan → Except Failure Unit × Desk
  | .stay => (.ok (), d)
  | .save next => (d.moved next).persist f.save
  | .hold price next =>
    andThen (d.onBudget (Books.reserve f.record d.negotiation.id price)) fun d => (d.moved next).persist f.save
  | .free next result =>
    andThen ((d.moved next).persist f.save) fun d =>
      andThen (d.onBudget (Books.release f.record d.negotiation.id)) fun d => (result, d)
  | .spend next =>
    andThen ((d.moved next).persist f.save) fun d => d.onBudget (Books.commit f.record d.negotiation.id)

/-- One operation of the object. -/
def act (op : Op) (f : Faults) : Except Failure Unit × Desk :=
  match op.plan d.negotiation with
  | .error e => (.error e, d)
  | .ok p => d.perform f p

/-- A new negotiation: its first state is written before it is returned. -/
def new (f : Faults) (id : String) (conversationID : ConversationID) (counterpartyAgentID : AgentID) (mandate : Mandate)
    (network : Option Network) (budget : Bool) (now : Time) (books : Books) : Except Failure Desk :=
  match start id conversationID counterpartyAgentID mandate network budget now with
  | .error e => .error e
  | .ok negotiation =>
    match persist f.save ⟨negotiation, books⟩ with
    | (.error e, _) => .error e
    | (.ok _, d) => .ok d

/-- Replace the object by one rebuilt from a snapshot; a snapshot that cannot be restored leaves it. -/
def rebuilt (mandate : Mandate) (budget : Bool) : Option Snapshot → Desk
  | none => d
  | some s =>
    match restore s mandate budget with
    | .error _ => d
    | .ok negotiation => { d with negotiation }

end Desk

/-- What can happen to a negotiation. -/
inductive Event where
  /-- An operation of the object. -/
  | act (op : Op) (faults : Faults)
  /-- The object is rebuilt from what the store holds of it. -/
  | reload (mandate : Mandate) (budget : Bool)
  /-- The object is rebuilt from its own snapshot. -/
  | resume (mandate : Mandate) (budget : Bool)
  /-- Other negotiations of the installation use the store and the budget. -/
  | elsewhere (books : Books)

/-- One event. Nothing another negotiation does concerns this one's record. -/
def Desk.step (d : Desk) : Event → Desk
  | .act op f => (d.act op f).2
  | .reload mandate budget => d.rebuilt mandate budget (lookup d.negotiation.id d.books.snapshots)
  | .resume mandate budget => d.rebuilt mandate budget d.negotiation.snapshot.toOption
  | .elsewhere books =>
    if lookup d.negotiation.id books.snapshots = lookup d.negotiation.id d.books.snapshots then
      { d with books }
    else d

/-! ## How the writes end -/

namespace Desk

/-- **The ends of a write of the object.** -/
inductive Persisted (d : Desk) : Except Failure Unit × Desk → Prop where
  | saved (hstorable : d.books.snapshots.storable d.negotiation.content = .ok ()) : Persisted d (.ok (), d.kept)
  | unacknowledged (e : Failure) (hstorable : d.books.snapshots.storable d.negotiation.content = .ok ()) :
      Persisted d (.error e, d.kept.poison)
  | refused (e : Failure) : Persisted d (.error e, d.poison)
  /-- Without a valid mandate there is no snapshot to write. -/
  | unwritable (e : Failure) (hmandate : d.negotiation.mandate.validate ≠ .ok ()) : Persisted d (.error e, d)

theorem snapshot_ok {n : Negotiation} {s : Snapshot} (h : n.snapshot = .ok s) : s = n.content := by
  unfold Negotiation.snapshot at h
  rw [seq_ok] at h
  obtain ⟨_, -, hs⟩ := h
  cases hs
  rfl

theorem snapshot_of_valid {n : Negotiation} (hman : n.mandate.validate = .ok ()) : n.snapshot = .ok n.content := by
  unfold Negotiation.snapshot
  rw [hman]
  rfl

theorem persist_cases (w : Written) (d : Desk) : Persisted d (d.persist w) := by
  unfold persist
  cases hs : d.negotiation.snapshot with
  | error e =>
    refine .unwritable e fun hman => ?_
    rw [snapshot_of_valid hman] at hs
    cases hs
  | ok s =>
    obtain rfl := snapshot_ok hs
    simp only
    unfold Books.save
    cases hsr : d.books.snapshots.storable d.negotiation.content with
    | error e => exact .refused e
    | ok _ =>
      cases w with
      | done => exact .saved hsr
      | refused => exact .refused _
      | unacknowledged => exact .unacknowledged _ hsr

/-- A write the store accepts, of an object with a valid mandate, succeeds. -/
theorem persist_done {d : Desk} (hman : d.negotiation.mandate.validate = .ok ())
    (hsr : d.books.snapshots.storable d.negotiation.content = .ok ()) : d.persist .done = (.ok (), d.kept) := by
  unfold persist
  rw [snapshot_of_valid hman]
  simp only
  unfold Books.save
  rw [hsr]
  rfl

end Desk

namespace Books

/-- Nothing a budget operation does concerns the stored negotiations. -/
def SameStore (b c : Books) : Prop := c.snapshots = b.snapshots ∧ c.everFinalized = b.everFinalized

variable (w : Written) (id : String)

theorem record_sameStore (next : Budget String) (b : Books) : b.SameStore (b.record w next).2 :=
  ⟨rfl, rfl⟩

theorem reserve_sameStore (price : Money) (b : Books) : b.SameStore (b.reserve w id price).2 := by
  unfold reserve
  cases b.budget.reserve id price with
  | error e => exact ⟨rfl, rfl⟩
  | ok next => exact record_sameStore w next b

theorem release_sameStore (b : Books) : b.SameStore (b.release w id).2 := by
  unfold release
  cases b.budget.release id with
  | none => exact ⟨rfl, rfl⟩
  | some next => exact record_sameStore w next b

theorem commit_sameStore (b : Books) : b.SameStore (b.commit w id).2 := by
  unfold commit
  cases b.budget.commit id with
  | error e => exact ⟨rfl, rfl⟩
  | ok next => exact record_sameStore w next b

end Books

/-- The object a plan leaves in memory, if it moves. -/
def Plan.next : Plan → Option Negotiation
  | .stay => none
  | .save next | .hold _ next | .free next _ | .spend next => some next

namespace Desk

/-- Nothing but the budget has changed. -/
def SameObject (d d' : Desk) : Prop := d'.negotiation = d.negotiation ∧ d'.books.snapshots = d.books.snapshots

/-- The object has moved to `next`, marked if its write failed, and the store holds what it held or
    that. -/
def Carries (d : Desk) (next : Negotiation) (d' : Desk) : Prop :=
  (d'.negotiation = next ∨ d'.negotiation = { next with poisoned := true })
    ∧ (d'.books.snapshots = d.books.snapshots
      ∨ d'.books.snapshots = d.books.snapshots.insert next.id next.content)

variable {d d' : Desk} {next : Negotiation}

theorem Carries.content (h : d.Carries next d') : d'.negotiation.content = next.content := by
  rcases h.1 with hobj | hobj
  · rw [hobj]
  · rw [hobj]
    rfl

theorem persist_carries (w : Written) (d : Desk) (next : Negotiation) :
    d.Carries next ((d.moved next).persist w).2 := by
  have hen := persist_cases w (d.moved next)
  generalize (d.moved next).persist w = out at hen ⊢
  cases hen with
  | saved hsr => exact ⟨.inl rfl, .inr rfl⟩
  | unacknowledged e hsr => exact ⟨.inr rfl, .inr rfl⟩
  | refused e => exact ⟨.inr rfl, .inl rfl⟩
  | unwritable e hman => exact ⟨.inl rfl, .inl rfl⟩

theorem onBudget_sameObject {change : Books → Except Failure Unit × Books}
    (h : d.books.SameStore (change d.books).2) : d.SameObject (d.onBudget change).2 := by
  unfold onBudget
  cases d.negotiation.budget with
  | true => exact ⟨rfl, h.1⟩
  | false => exact ⟨rfl, rfl⟩

theorem Carries.trans {d'' : Desk} (h : d.Carries next d') (h' : d'.SameObject d'') : d.Carries next d'' := by
  unfold Carries
  rw [h'.1, h'.2]
  exact h

theorem Carries.after {d'' : Desk} (h : d.SameObject d') (h' : d'.Carries next d'') : d.Carries next d'' := by
  unfold Carries at h'
  rw [h.2] at h'
  exact h'

/-- A property of the desk after two steps, from the desk after the first. -/
theorem andThen_ends {first : Except Failure Unit × Desk} {next : Desk → Except Failure Unit × Desk} {P : Desk → Prop}
    (hfst : ∀ e, first.1 = .error e → P first.2) (hnx : first.1 = .ok () → P (next first.2).2) :
    P (andThen first next).2 := by
  obtain ⟨result, d⟩ := first
  cases result with
  | error e => exact hfst e rfl
  | ok _ => exact hnx rfl

theorem andThen_result_ne {first : Except Failure Unit × Desk} {next : Desk → Except Failure Unit × Desk} {e : Failure}
    (hfst : first.1 ≠ .error e) (hnx : ∀ d, (next d).1 ≠ .error e) : (andThen first next).1 ≠ .error e := by
  obtain ⟨result, d⟩ := first
  cases result with
  | error e' => exact hfst
  | ok _ => exact hnx d

/-- **What an operation leaves of the object and its record**, whichever of its writes fail. -/
theorem act_object (d : Desk) (op : Op) (f : Faults) :
    d.SameObject (d.act op f).2 ∨ ∃ p next, op.plan d.negotiation = .ok p ∧ p.next = some next
      ∧ d.Carries next (d.act op f).2 := by
  unfold act
  cases hpl : op.plan d.negotiation with
  | error e => exact .inl ⟨rfl, rfl⟩
  | ok p =>
    cases p with
    | stay => exact .inl ⟨rfl, rfl⟩
    | save next => exact .inr ⟨_, next, rfl, rfl, persist_carries f.save d next⟩
    | hold price next =>
      have hres := onBudget_sameObject (Books.reserve_sameStore f.record d.negotiation.id price d.books)
      have hen : d.SameObject (d.perform f (.hold price next)).2
          ∨ d.Carries next (d.perform f (.hold price next)).2 :=
        andThen_ends (P := fun d' => d.SameObject d' ∨ d.Carries next d') (fun _ _ => .inl hres)
          fun _ => .inr (Carries.after hres (persist_carries f.save _ next))
      exact hen.imp id fun hcar => ⟨_, next, rfl, rfl, hcar⟩
    | free next result =>
      have hcar := persist_carries f.save d next
      refine .inr ⟨_, next, rfl, rfl, andThen_ends (P := d.Carries next) (fun _ _ => hcar) fun _ => ?_⟩
      have hrel : ∀ id, _ := fun id =>
        hcar.trans (onBudget_sameObject (Books.release_sameStore f.record id _))
      exact andThen_ends (P := d.Carries next) (fun _ _ => hrel _) fun _ => hrel _
    | spend next =>
      have hcar := persist_carries f.save d next
      refine .inr ⟨_, next, rfl, rfl, andThen_ends (P := d.Carries next) (fun _ _ => hcar) fun _ => ?_⟩
      exact hcar.trans (onBudget_sameObject (Books.commit_sameStore f.record _ _))

end Desk

end Messenger.Negotiation
