import Messenger.Eventlog.Ledger
import Messenger.Lib.Pool

/-!
# `Eventlog.Correctness.Holds` — concurrent operations on one mandate's ledger

Every local connection is served by its own goroutine, so reservations, commits and releases on one
ledger interleave: each loads the ledger, changes its own copy and records that copy whole. This
file runs any number of such operations in a pool over one store, one region a turn, and compares
what the ledger then says with what the operations reported.

- `LedgerOp.spec` is the operation as one step on the ledger, and `LedgerOp.effect` what it adds
  when it succeeds.
- `ledger_accounts_for_successes`: where no operation is disturbed between its steps, the ledger is
  the effects of the operations that reported success, one after the other, and the mandate's total
  is kept.
- `rivalRun_loses_hold`: two reservations that both load before either records both report success,
  and the ledger keeps one of the two holds.
-/

namespace Messenger.Commerce

open Lib
open Negotiation (Money Terms MandateID ExecutionID)

/-- An approval of a purchase under one mandate, with the terms it was filed with. -/
structure PurchaseApproval (m : MandateID) where
  approval : Approval
  terms : Terms
  purchase : approval.purchase = some ⟨m, terms⟩
  valid : terms.validate = .ok ()

/-- What a hold for the approved purchase is filed under. -/
def PurchaseApproval.execution {m : MandateID} (a : PurchaseApproval m) : ExecutionID := ⟨m, a.terms⟩

/-- An operation on the ledger of one mandate. -/
inductive LedgerOp (m : MandateID) where
  | reserve (execution : ExecutionID) (price : Money)
  | commit (a : PurchaseApproval m)
  | release (a : PurchaseApproval m)

namespace LedgerOp

variable {m : MandateID}

/-- The operation as the journal runs it. -/
def process : LedgerOp m → Proc Store Write (Except Failure Unit)
  | .reserve execution price => (reserveMandateBudget m (totalOf m) execution price).run
  | .commit a => (commitMandateReservation a.approval).run
  | .release a => (releaseMandateReservation a.approval).run

/-- The operation as one step. -/
def spec : LedgerOp m → Ledger → Ledger × Except Failure Unit
  | .reserve execution price, b => Ledger.reserving b execution price
  | .commit a, b => Ledger.committing b a.execution
  | .release a, b => Ledger.releasing b a.execution

/-- What an operation that succeeds does to the ledger. -/
def effect : LedgerOp m → Ledger → Ledger
  | .reserve execution price, b => { b with reserved := b.reserved.insert execution price.atomic }
  | .commit a, b =>
    { b with spent := b.spent + Dir.amount b.reserved a.execution, reserved := b.reserved.erase a.execution }
  | .release a, b => { b with reserved := b.reserved.erase a.execution }

/-- An operation that succeeds has its effect. -/
theorem spec_of_ok {b : Ledger} (hb : b.Within) (op : LedgerOp m) (h : (op.spec b).2 = .ok ()) :
    (op.spec b).1 = op.effect b := by
  cases op with
  | reserve exec price =>
    simp only [spec, Ledger.reserving] at h ⊢
    cases hres : b.reserve exec price with
    | error e => rw [hres] at h; cases h
    | ok next =>
      obtain ⟨-, rfl, -⟩ := hb.reserve hres
      rfl
  | commit a => simp only [spec, effect, Ledger.committing_eq hb]
  | release a => simp only [spec, effect, Ledger.releasing_eq]

/-- An operation that fails leaves the ledger. -/
theorem spec_of_error {b : Ledger} {e : Failure} (op : LedgerOp m) (h : (op.spec b).2 = .error e) :
    (op.spec b).1 = b := by
  cases op with
  | reserve exec price =>
    simp only [spec, Ledger.reserving] at h ⊢
    cases hres : b.reserve exec price with
    | error e => rfl
    | ok next => rw [hres] at h; cases h
  | commit a =>
    simp only [spec, Ledger.committing] at h ⊢
    cases hho : b.hold a.execution with
    | none => rfl
    | some amt =>
      simp only [hho] at h ⊢
      cases hcmm : b.commit a.execution with
      | error e => rfl
      | ok next => rw [hcmm] at h; cases h
  | release a => cases h

/-- Successful or not, an operation leaves a ledger of the mandate. -/
theorem ledgerFor_spec {b : Ledger} (hb : LedgerFor m b) (op : LedgerOp m) : LedgerFor m (op.spec b).1 := by
  cases op with
  | reserve exec price =>
    simp only [spec, Ledger.reserving]
    cases hres : b.reserve exec price with
    | error e => exact hb
    | ok next => exact hb.reserve hres
  | commit a =>
    simp only [spec, Ledger.committing]
    cases hho : b.hold a.execution with
    | none => exact hb
    | some amt =>
      simp only [hb.within.solvent.commit hho]
      exact hb.spend hho
  | release a =>
    simp only [spec, Ledger.releasing]
    cases hrel : b.release a.execution with
    | none => exact hb
    | some next => exact hb.release hrel

/-- What an operation needs of the store, whoever else works on it. -/
structure Ready (m : MandateID) (s : Store) : Prop where
  standing : Standing m s
  kept : Kept m s

/-- **An operation left alone is one step on the ledger.** -/
theorem process_performs (op : LedgerOp m) {s : Store} (hs : Ready m s) :
    op.process.Performs (Ready m) (fun s => ledgerOf s m) (ledgerOf s m) (op.spec (ledgerOf s m)) s := by
  have hready : ∀ t, Frame m s t ∧ Kept m t → Ready m t := fun t ht => ⟨hs.standing.congr ht.1.mandates, ht.2⟩
  cases op with
  | reserve exec price => exact (hs.kept.does_reserve hs.standing.valid exec price).mono hready
  | commit a => exact (hs.kept.does_commit hs.standing a.purchase a.valid).mono hready
  | release a => exact (hs.kept.does_release hs.standing a.purchase a.valid).mono hready

end LedgerOp

/-! ## Any number of them -/

section
variable {m : MandateID}

abbrev Ledgers (m : MandateID) := Pool Store Write (LedgerOp m) (Except Failure Unit)

/-- The pool after the turns of an interleaving. -/
def ledgers (s : Store) (ts : List (Turn (LedgerOp m))) : Ledgers m :=
  run (Pool.step LedgerOp.process) (Pool.start s) ts

/-- The operations that reported success, in the order of their reports. -/
def Ledgers.succeeded (p : Ledgers m) : List (LedgerOp m) :=
  (p.results.filter fun x => x.result.isOk).map Report.input

/-- Performing operations one after the other is applying the effects of those that succeed. -/
theorem run_spec {results : List (Report (LedgerOp m) (Except Failure Unit))} {b : Ledger} (hb : LedgerFor m b)
    (hagree : Along (fun b x => (x.input.spec b).1) (fun b x => x.result = (x.input.spec b).2) b results) :
    run (fun b x => (x.input.spec b).1) b results
      = run (fun b op => op.effect b) b ((results.filter fun x => x.result.isOk).map Report.input) := by
  induction results generalizing b with
  | nil => rfl
  | cons x results ih =>
    obtain ⟨hrs, hre⟩ := hagree
    have hnx := ih (LedgerOp.ledgerFor_spec hb x.input) hre
    rw [run_cons, hnx]
    cases hx : x.result with
    | ok =>
      rw [List.filter_cons_of_pos (by rw [hx]; rfl), List.map_cons, run_cons,
        LedgerOp.spec_of_ok hb.within x.input (hrs.symm.trans hx)]
    | error e =>
      rw [List.filter_cons_of_neg (by rw [hx]; exact Bool.false_ne_true),
        LedgerOp.spec_of_error x.input (hrs.symm.trans hx)]

/-- **No update is lost where no operation is disturbed.** In every interleaving in which nothing is
    recorded between two steps of an operation, the ledger is the effects of the operations that
    reported success, and of no others, and what is spent and held never exceeds the mandate's
    total. -/
theorem ledger_accounts_for_successes {s : Store} (hm : Standing m s) (hs : Kept m s) (ts : List (Turn (LedgerOp m)))
    (hts : Along (Pool.step LedgerOp.process) Pool.Undisturbed (Pool.start s) ts) :
    ledgerOf (ledgers s ts).store m
        = run (fun b op => op.effect b) (ledgerOf s m) (ledgers s ts).succeeded ∧
      (ledgerOf (ledgers s ts).store m).spent + (ledgerOf (ledgers s ts).store m).held ≤ m.maxTotalAtomic := by
  have hserial : Pool.Serial LedgerOp.process (LedgerOp.Ready m) (fun s => ledgerOf s m) LedgerOp.spec s
      (ledgers s ts) := Pool.serial_run (fun op _ hop => op.process_performs hop) ⟨hm, hs⟩ hts
  have hled := hserial.inv.kept.ledgerFor hm.valid
  have hbnd := hled.within.bounded
  rw [hled.total] at hbnd
  exact ⟨hserial.replay.trans (run_spec (hs.ledgerFor hm.valid) hserial.agree), hbnd⟩

end

/-! ## Runs -/

/-- A store that knows the sample mandate and has recorded nothing else. -/
def sampleStore : Store := { mandates := AList.insert sampleMandateID ⟨sampleMandateID, 10, 0⟩ ∅ }

/-- Hold a purchase at six units of the sample mandate's ten. -/
def sampleReserve (manifest : BitVec 256) : LedgerOp sampleMandateID :=
  .reserve ⟨sampleMandateID, sampleTerms manifest⟩ (sampleTerms manifest).price

/-- An approval of the first such purchase. -/
def sampleApproval : PurchaseApproval sampleMandateID where
  approval :=
    { actionID := ⟨.spend, "buy", none, [], some (sampleTerms 1), none⟩, effect := .spend, summary := "buy",
      reason := "asked", origins := [], terms := some (sampleTerms 1), mandateID :=
      some sampleMandateID, askedAt := 20, state := .granted }
  terms := sampleTerms 1
  purchase := rfl
  valid := by decide +kernel

/-- One operation after the other: a purchase is held, a second does not fit, the first is spent. -/
def politeRun : List (Turn (LedgerOp sampleMandateID)) :=
  [.spawn (sampleReserve 1), .step 0 none, .step 0 none, .step 0 none,
    .spawn (sampleReserve 2), .spawn (.commit sampleApproval), .step 1 none, .step 2 none, .step 2 none, .step 2 none]

theorem politeRun_accounts :
    (ledgers sampleStore politeRun).results.map (fun x => (x.ticket, x.result))
        = [(0, .ok ()), (1, .error .budgetExceeded), (2, .ok ())] ∧
      (ledgerOf (ledgers sampleStore politeRun).store sampleMandateID).spent = 6 ∧
      ledgerOf (ledgers sampleStore politeRun).store sampleMandateID
        = run (fun b op => op.effect b) (ledgerOf sampleStore sampleMandateID)
            (ledgers sampleStore politeRun).succeeded := by
  refine ⟨by decide +kernel, by decide +kernel, ?_⟩
  have hkn : readMandate sampleStore sampleMandateID = .ok (some ⟨sampleMandateID, 10, 0⟩) := by decide +kernel
  have hsn : Standing sampleMandateID sampleStore := ⟨⟨_, hkn⟩, by decide +kernel⟩
  have hkt : Kept sampleMandateID sampleStore := by
    intro b hb
    cases hb
  exact (ledger_accounts_for_successes hsn hkt politeRun (by decide +kernel)).1

/-- Two reservations that both load before either records. -/
def rivalRun : List (Turn (LedgerOp sampleMandateID)) :=
  [.spawn (sampleReserve 1), .spawn (sampleReserve 2), .step 0 none, .step 1 none,
    .step 0 none, .step 0 none, .step 1 none, .step 1 none]

/-- **A hold is lost**: both reservations report success, twelve units of a total of ten, and the
    ledger knows six. -/
theorem rivalRun_loses_hold :
    (ledgers sampleStore rivalRun).results.map (fun x => (x.ticket, x.result)) = [(0, .ok ()), (1, .ok ())] ∧
      (ledgerOf (ledgers sampleStore rivalRun).store sampleMandateID).held = 6 ∧
      ledgerOf (ledgers sampleStore rivalRun).store sampleMandateID
        ≠ run (fun b op => op.effect b) (ledgerOf sampleStore sampleMandateID)
            (ledgers sampleStore rivalRun).succeeded := by
  refine ⟨by decide +kernel, by decide +kernel, by decide +kernel⟩

end Messenger.Commerce
