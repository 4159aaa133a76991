import Messenger.Eventlog.Commerce

/-!
# `Eventlog.Ledger` — a mandate's budget between its load and its record

A mandate's budget is opened (loaded, or recorded for the first time), changed in memory and
recorded whole. The journal's lock covers the load and the record one by one, so each of these
operations is a process of several regions.

The second half says what such an operation does when nothing comes in between: `Performs` with the
pure operation of `Negotiation.Budget` as its specification, and every other record unchanged
(`Frame`).
-/

namespace Messenger.Commerce

open Lib
open Lib.Proc (region computed)
open Negotiation (Asset Money Terms MandateID ExecutionID Budget executionID)

/-- An operation of several regions, which may fail. -/
abbrev Process (α : Type) := ExceptT Failure (Proc Store Write) α

/-- The ledger of one mandate's budget; only a valid asset has one. -/
def openMandateBudgetLedger (mandateID : MandateID) (asset : Asset) : Except Failure BudgetID := do
  asset.validate
  pure ⟨mandateID, asset⟩

/-- Open a budget, restoring whatever the ledger holds. -/
def openBudget (total : Money) (budgetID : BudgetID) : Process Ledger := do
  computed total.validate
  match ← region (loadLedger budgetID) with
  | none => do
    region (recordLedger budgetID (Budget.opened total))
    pure (Budget.opened total)
  | some stored =>
    if stored.asset = total.asset ∧ stored.total = total.atomic then pure stored
    else throw (.other "this budget was opened before with a different total")

/-- Hold a purchase's price against its mandate's total. -/
def reserveMandateBudget (mandateID : MandateID) (maxTotal : Money) (execution : ExecutionID)
    (price : Money) : Process Unit := do
  let budgetID ← computed (openMandateBudgetLedger mandateID maxTotal.asset)
  let budget ← openBudget maxTotal budgetID
  let next ← computed (budget.reserve execution price)
  region (recordLedger budgetID next)

variable (approval : Approval)

/-- Reopen the budget a spend approval draws on; nothing for what holds no budget. -/
def mandateBudgetFor : Process (Option (BudgetID × Ledger × ExecutionID)) :=
  match approval.purchase with
  | none => pure none
  | some ⟨mandateID, terms⟩ => do
    match ← region (lookupMandate mandateID) with
    | none => throw .mandateUnknown
    | some stored => do
      let budgetID ← computed (openMandateBudgetLedger mandateID stored.mandateID.asset)
      let budget ← openBudget ⟨stored.mandateID.asset, stored.mandateID.maxTotalAtomic⟩ budgetID
      let execution ← computed (executionID mandateID terms)
      pure (some (budgetID, budget, execution))

/-- Turn the hold behind a spent approval into a committed amount; without a hold there is nothing
    to do. -/
def commitMandateReservation : Process Unit := do
  match ← mandateBudgetFor approval with
  | none => pure ()
  | some (budgetID, budget, execution) =>
    match budget.hold execution with
    | none => pure ()
    | some _ => do
      let next ← computed (budget.commit execution)
      region (recordLedger budgetID next)

/-- Free the hold behind a denied approval. -/
def releaseMandateReservation : Process Unit := do
  match ← mandateBudgetFor approval with
  | none => pure ()
  | some (budgetID, budget, execution) =>
    match budget.release execution with
    | none => pure ()
    | some next => region (recordLedger budgetID next)

/-- The loop that frees the holds of expired approvals; it stops at the first error. -/
def releaseExpired : List Approval → Process Unit
  | [] => pure ()
  | approval :: approvals => do
    releaseMandateReservation approval
    releaseExpired approvals

/-- Refuse the decisions nobody made in time, then free their holds. -/
def expirePendingApprovals (env : Env) (now : Time) : Process Nat := do
  let expired ← region (expirePendingApprovalsLocked env now)
  releaseExpired expired
  pure expired.length

/-! ## The ledger of a mandate -/

variable (m : MandateID) (s : Store)

/-- The identifier of a mandate's budget. -/
def budgetOf : BudgetID := ⟨m, m.asset⟩

/-- The total a mandate's budget is opened with. -/
def totalOf : Money := ⟨m.asset, m.maxTotalAtomic⟩

/-- The ledger of a mandate; before it is first recorded, that of a budget nothing was drawn on. -/
def ledgerOf (m : MandateID) : Ledger :=
  (lookup (budgetOf m) s.mandateBudgets).getD (Budget.opened (totalOf m))

/-- A ledger that belongs to a mandate and keeps its total. -/
structure LedgerFor (b : Ledger) : Prop where
  within : b.Within
  asset : b.asset = m.asset
  total : b.total = m.maxTotalAtomic

/-- What is recorded as a mandate's ledger is one. -/
def Kept : Prop :=
  ∀ b, lookup (budgetOf m) s.mandateBudgets = some b → LedgerFor m b

/-- Nothing but one mandate's ledger differs. -/
structure Frame (s t : Store) : Prop where
  approvals : t.approvals = s.approvals
  executions : t.executions = s.executions
  toolExecutions : t.toolExecutions = s.toolExecutions
  mandates : t.mandates = s.mandates
  others : ∀ budgetID, budgetID ≠ budgetOf m → lookup budgetID t.mandateBudgets = lookup budgetID s.mandateBudgets

theorem Frame.refl : Frame m s s := ⟨rfl, rfl, rfl, rfl, fun _ _ => rfl⟩

variable {m : MandateID}

theorem Frame.trans {a b c : Store} (hab : Frame m a b) (hbc : Frame m b c) : Frame m a c where
  approvals := hbc.approvals.trans hab.approvals
  executions := hbc.executions.trans hab.executions
  toolExecutions := hbc.toolExecutions.trans hab.toolExecutions
  mandates := hbc.mandates.trans hab.mandates
  others := fun bid h => (hbc.others bid h).trans (hab.others bid h)

theorem Frame.ledgerOf_ne {m' : MandateID} {s t : Store} (h : Frame m s t) (hne : m' ≠ m) :
    ledgerOf t m' = ledgerOf s m' := by
  unfold ledgerOf
  rw [h.others (budgetOf m') fun heq => hne (congrArg BudgetID.mandateID heq)]

theorem frame_put (m : MandateID) (s : Store) (b : Ledger) :
    Frame m s (Medium.put s (Write.mandateBudget (budgetOf m) b)) :=
  ⟨rfl, rfl, rfl, rfl, fun _ h => lookup_insert_ne h⟩

theorem ledgerOf_put (m : MandateID) (s : Store) (b : Ledger) :
    ledgerOf (Medium.put s (Write.mandateBudget (budgetOf m) b)) m = b := by
  show (lookup (budgetOf m) (s.mandateBudgets.insert (budgetOf m) b)).getD _ = b
  rw [lookup_insert]
  rfl

theorem kept_put {b : Ledger} (s : Store) (hb : LedgerFor m b) :
    Kept m (Medium.put s (Write.mandateBudget (budgetOf m) b)) := by
  intro b' hb'
  replace hb' : lookup (budgetOf m) (s.mandateBudgets.insert (budgetOf m) b) = some b' := hb'
  rw [lookup_insert] at hb'
  cases hb'
  exact hb

section
variable {m : MandateID} {s : Store}

theorem ledgerFor_opened (hval : (totalOf m).validate = .ok ()) : LedgerFor m (Budget.opened (totalOf m)) :=
  ⟨Budget.opened_within hval, rfl, rfl⟩

theorem Kept.ledgerFor (hs : Kept m s) (hval : (totalOf m).validate = .ok ()) : LedgerFor m (ledgerOf s m) := by
  unfold ledgerOf
  cases hget : lookup (budgetOf m) s.mandateBudgets with
  | none => exact ledgerFor_opened hval
  | some b => exact hs b hget

theorem validateAmounts_ok {asset : Asset} (hast : asset.validate = .ok ()) {amounts : List Nat}
    (hamounts : ∀ n ∈ amounts, n < Negotiation.atomicBound) : validateAmounts asset amounts = .ok () := by
  induction amounts with
  | nil => rfl
  | cons n amounts ih =>
    refine seq_ok.mpr ⟨(), Money.validate_ok.mpr ⟨hast, hamounts n (List.mem_cons_self ..)⟩, ?_⟩
    exact ih fun n' hn' => hamounts n' (List.mem_cons_of_mem _ hn')

/-- A mandate's ledger reads back as it was recorded. -/
theorem Kept.readLedger (hs : Kept m s) :
    readLedger s (budgetOf m) = .ok (lookup (budgetOf m) s.mandateBudgets) := by
  unfold Commerce.readLedger
  cases hget : lookup (budgetOf m) s.mandateBudgets with
  | none => rfl
  | some b =>
    obtain ⟨hwi, hast, -⟩ := hs b hget
    have hbnd := hwi.bounded
    have htot := hwi.total
    have hsp : b.spent < Negotiation.atomicBound := by omega
    have hamounts : ∀ n ∈ b.reserved.entries.map Sigma.snd, n < Negotiation.atomicBound := by
      intro n hn
      have hle : n ≤ b.held := List.single_le_sum (fun _ _ => Nat.zero_le _) n hn
      omega
    refine failIf_then.mpr ⟨not_not.mpr hast, ?_⟩
    refine seq_ok.mpr ⟨(), Money.validate_ok.mpr ⟨hwi.asset, htot⟩, ?_⟩
    refine seq_ok.mpr ⟨(), Money.validate_ok.mpr ⟨hwi.asset, hsp⟩, ?_⟩
    refine failIf_then.mpr ⟨Nat.not_lt.mpr hwi.count, ?_⟩
    exact seq_ok.mpr ⟨(), validateAmounts_ok hwi.asset hamounts, rfl⟩

theorem run_recordLedger {b : Ledger} (hb : LedgerFor m b) (s : Store) :
    recordLedger (budgetOf m) b s = ([.mandateBudget (budgetOf m) b], .ok ()) := by
  unfold recordLedger
  split_ifs with hast
  · exact absurd hb.asset hast
  · rfl

theorem openMandateBudgetLedger_ok (hval : (totalOf m).validate = .ok ()) :
    openMandateBudgetLedger m m.asset = .ok (budgetOf m) :=
  seq_ok.mpr ⟨(), (Money.validate_ok.mp hval).1, rfl⟩

end

/-! ## What a ledger operation does when nothing comes in between -/

/-- The store of an operation in progress that began in `s`: nothing was changed yet. -/
structure Untouched (m : MandateID) (s t : Store) : Prop where
  frame : Frame m s t
  kept : Kept m t
  ledger : ledgerOf t m = ledgerOf s m

theorem Untouched.refl {s : Store} (hs : Kept m s) : Untouched m s s := ⟨Frame.refl m s, hs, rfl⟩

/-- Left alone from `t`, an operation that began in `s` does to the mandate's ledger what `out`
    says, and nothing to any other record. -/
abbrev Does {α : Type} (m : MandateID) (s : Store) (out : Ledger × Except Failure α) (p : Process α)
    (t : Store) : Prop :=
  p.run.Performs (fun u => Frame m s u ∧ Kept m u) (fun u => ledgerOf u m) (ledgerOf s m) out t

section
variable {α β : Type} {m : MandateID} {s t : Store} {out : Ledger × Except Failure β}

theorem does_bind {p : Process α} {f : α → Process β} {a : α} (hp : Does m s (ledgerOf s m, .ok a) p t)
    (hf : ∀ u, Untouched m s u → Does m s out (f a) u) : Does m s out (p >>= f) t :=
  Proc.performs_tryBind hp fun u hu hled => hf u ⟨hu.1, hu.2, hled⟩

/-- A step that does not touch the store. -/
theorem Untouched.does_computed (ht : Untouched m s t) (r : Except Failure α) :
    Does m s (ledgerOf s m, r) (computed r) t := ⟨⟨ht.frame, ht.kept⟩, ht.ledger, rfl⟩

/-- A region that only reads. -/
theorem Untouched.does_query (ht : Untouched m s t) {q : Region α} {r : Except Failure α}
    (hq : q t = ([], r)) : Does m s (ledgerOf s m, r) (region q) t := by
  have hws : q.writes t = [] := congrArg Prod.fst hq
  have hfin : q.final t = t := by unfold Durable.final; rw [hws]; rfl
  refine Proc.performs_region ⟨ht.frame, ht.kept⟩ ht.ledger ?_ ?_ (congrArg Prod.snd hq)
  · rw [hfin]; exact ⟨ht.frame, ht.kept⟩
  · show ledgerOf (q.final t) m = ledgerOf s m
    rw [hfin]; exact ht.ledger

/-- The record that ends an operation. -/
theorem Untouched.does_record (ht : Untouched m s t) {b : Ledger} (hb : LedgerFor m b) :
    Does m s (b, .ok ()) (region (recordLedger (budgetOf m) b)) t := by
  have hrun := run_recordLedger hb t
  have hws : (recordLedger (budgetOf m) b).writes t = [.mandateBudget (budgetOf m) b] := congrArg Prod.fst hrun
  have hfin : (recordLedger (budgetOf m) b).final t = Medium.put t (Write.mandateBudget (budgetOf m) b) := by
    unfold Durable.final; rw [hws]; rfl
  refine Proc.performs_region ⟨ht.frame, ht.kept⟩ ht.ledger ?_ ?_ (congrArg Prod.snd hrun)
  · rw [hfin]; exact ⟨ht.frame.trans (frame_put m t b), kept_put t hb⟩
  · show ledgerOf ((recordLedger (budgetOf m) b).final t) m = b
    rw [hfin]; exact ledgerOf_put m t b

/-- Opening a mandate's budget yields its ledger as it is. -/
theorem Untouched.does_openBudget (ht : Untouched m s t) (hval : (totalOf m).validate = .ok ()) :
    Does m s (ledgerOf s m, .ok (ledgerOf s m)) (openBudget (totalOf m) (budgetOf m)) t := by
  refine does_bind (a := ()) ?_ fun t ht => ?_
  · rw [hval]
    exact ht.does_computed _
  refine does_bind (ht.does_query ((run_loadLedger _ t).trans (congrArg _ ht.kept.readLedger))) fun u hu => ?_
  have hled := ht.ledger
  unfold ledgerOf at hled
  cases hget : lookup (budgetOf m) t.mandateBudgets with
  | none =>
    -- the first use records the budget as opened, which is how an unrecorded ledger reads
    rw [hget] at hled
    have hopn : Budget.opened (totalOf m) = ledgerOf s m := hled
    have hrec := hu.does_record (ledgerFor_opened hval)
    rw [hopn] at hrec
    simp only [hopn]
    exact does_bind hrec fun v hv => hv.does_computed (.ok (ledgerOf s m))
  | some stored =>
    rw [hget] at hled
    have hsto : stored = ledgerOf s m := hled
    obtain ⟨-, hast, htot⟩ := ht.kept stored hget
    have hsm : stored.asset = (totalOf m).asset ∧ stored.total = (totalOf m).atomic := ⟨hast, htot⟩
    rw [hsto] at hsm
    simp only [hsto, if_pos hsm]
    exact hu.does_computed (.ok (ledgerOf s m))

end

/-! ## The three operations -/

namespace Ledger

variable (b : Ledger) (execution : ExecutionID)

/-- Hold an amount, as one step. -/
def reserving (price : Money) : Ledger × Except Failure Unit :=
  match b.reserve execution price with
  | .ok next => (next, .ok ())
  | .error e => (b, .error e)

/-- Turn a hold into a spend, as one step; without a hold there is nothing to do. -/
def committing : Ledger × Except Failure Unit :=
  match b.hold execution with
  | none => (b, .ok ())
  | some _ =>
    match b.commit execution with
    | .ok next => (next, .ok ())
    | .error e => (b, .error e)

/-- Free a hold, as one step; without a hold there is nothing to do. -/
def releasing : Ledger × Except Failure Unit :=
  ((b.release execution).getD b, .ok ())

/-- Without a hold an operation on it has nothing to erase. -/
theorem releasing_eq (b : Ledger) (execution : ExecutionID) :
    releasing b execution = ({ b with reserved := b.reserved.erase execution }, .ok ()) := by
  unfold releasing Budget.release
  cases hho : b.hold execution with
  | none =>
    rw [Dir.erase_of_lookup_none hho]
    rfl
  | some amt => rfl

theorem committing_eq {b : Ledger} (hb : b.Within) (execution : ExecutionID) :
    committing b execution
      = ({ b with spent := b.spent + Dir.amount b.reserved execution, reserved := b.reserved.erase execution },
          .ok ()) := by
  unfold committing Dir.amount
  cases hho : b.hold execution with
  | none =>
    have hget : lookup execution b.reserved = none := hho
    rw [hget, Dir.erase_of_lookup_none hget]
    rfl
  | some amount =>
    have hget : lookup execution b.reserved = some amount := hho
    rw [hget, hb.solvent.commit hho]
    rfl

end Ledger

section
variable {m : MandateID} {s t : Store} {b : Ledger} {execution : ExecutionID} {approval : Approval} {terms : Terms}

theorem LedgerFor.reserve {b' : Ledger} (hb : LedgerFor m b) {price : Money}
    (h : b.reserve execution price = .ok b') : LedgerFor m b' := by
  obtain ⟨-, rfl, hwi⟩ := hb.within.reserve h
  exact ⟨hwi, hb.asset, hb.total⟩

theorem LedgerFor.release {b' : Ledger} (hb : LedgerFor m b) (h : b.release execution = some b') :
    LedgerFor m b' := by
  have hwi := hb.within.release h
  unfold Budget.release at h
  split at h
  · cases h
  next amount hho =>
    cases h
    exact ⟨hwi, hb.asset, hb.total⟩

theorem LedgerFor.spend (hb : LedgerFor m b) {amt : Nat} (hho : b.hold execution = some amt) :
    LedgerFor m { b with spent := b.spent + amt, reserved := b.reserved.erase execution } :=
  ⟨hb.within.spend hho, hb.asset, hb.total⟩

/-- **A reservation left alone** holds the price if the ledger admits it, and otherwise changes
    nothing. -/
theorem Kept.does_reserve (hs : Kept m s) (hval : (totalOf m).validate = .ok ())
    (execution : ExecutionID) (price : Money) :
    Does m s (Ledger.reserving (ledgerOf s m) execution price)
      (reserveMandateBudget m (totalOf m) execution price) s := by
  have hled := hs.ledgerFor hval
  refine does_bind (a := budgetOf m) ?_ fun t ht => ?_
  · rw [show openMandateBudgetLedger m (totalOf m).asset = .ok (budgetOf m) from openMandateBudgetLedger_ok hval]
    exact (Untouched.refl hs).does_computed _
  refine does_bind (ht.does_openBudget hval) fun u hu => ?_
  unfold Ledger.reserving
  cases hres : (ledgerOf s m).reserve execution price with
  | error e => exact Proc.performs_error (hu.does_computed (.error e))
  | ok next => exact does_bind (hu.does_computed (.ok next)) fun v hv => hv.does_record (hled.reserve hres)

/-- A mandate the store knows, whose total can be a budget's. -/
structure Standing (m : MandateID) (s : Store) : Prop where
  known : ∃ stored, readMandate s m = .ok (some stored)
  valid : (totalOf m).validate = .ok ()

theorem Standing.congr (hm : Standing m s) (ht : t.mandates = s.mandates) : Standing m t := by
  obtain ⟨stored, hsto⟩ := hm.known
  refine ⟨⟨stored, ?_⟩, hm.valid⟩
  rw [readMandate_some] at hsto ⊢
  rw [ht]
  exact hsto

/-- Mandates are withdrawn but never removed. -/
theorem Standing.put_mandate (hm : Standing m s) (stored : StoredMandate) :
    Standing m (Medium.put s (Write.mandate stored)) := by
  obtain ⟨cur, hcur⟩ := hm.known
  rw [readMandate_some] at hcur
  by_cases hsm : m = stored.mandateID
  · refine ⟨⟨stored, readMandate_some.mpr ⟨?_, hsm.symm⟩⟩, hm.valid⟩
    show lookup m (s.mandates.insert stored.mandateID stored) = some stored
    rw [hsm, lookup_insert]
  refine ⟨⟨cur, readMandate_some.mpr ⟨?_, hcur.2⟩⟩, hm.valid⟩
  show lookup m (s.mandates.insert stored.mandateID stored) = some cur
  rw [lookup_insert_ne hsm]
  exact hcur.1

variable (hs : Kept m s) (hm : Standing m s) (hbuy : approval.purchase = some ⟨m, terms⟩)
  (htms : terms.validate = .ok ())

include hs hm hbuy htms

/-- Reopening the budget behind an approval of a purchase under a standing mandate. -/
theorem Kept.does_mandateBudgetFor :
    Does m s (ledgerOf s m, .ok (some (budgetOf m, ledgerOf s m, ⟨m, terms⟩))) (mandateBudgetFor approval) s := by
  obtain ⟨stored, hsto⟩ := hm.known
  have hsf : stored.mandateID = m := (readMandate_some.mp hsto).2
  unfold mandateBudgetFor
  rw [hbuy]
  refine does_bind ((Untouched.refl hs).does_query ((run_lookupMandate m s).trans (congrArg _ hsto))) fun t ht => ?_
  refine does_bind (a := budgetOf m) ?_ fun t ht => ?_
  · rw [hsf, openMandateBudgetLedger_ok hm.valid]
    exact ht.does_computed _
  rw [hsf]
  refine does_bind (ht.does_openBudget hm.valid) fun u hu => ?_
  have hex : executionID m terms = .ok ⟨m, terms⟩ := seq_ok.mpr ⟨(), htms, rfl⟩
  refine does_bind (a := ⟨m, terms⟩) ?_ fun v hv => hv.does_computed (.ok _)
  rw [hex]
  exact hu.does_computed _

/-- **A commit left alone** spends the hold behind the approval, if there is one. -/
theorem Kept.does_commit :
    Does m s (Ledger.committing (ledgerOf s m) ⟨m, terms⟩) (commitMandateReservation approval) s := by
  have hled := hs.ledgerFor hm.valid
  refine does_bind (hs.does_mandateBudgetFor hm hbuy htms) fun t ht => ?_
  unfold Ledger.committing
  cases hho : (ledgerOf s m).hold ⟨m, terms⟩ with
  | none =>
    simp only [hho]
    exact ht.does_computed (.ok ())
  | some amt =>
    have hcmm := hled.within.solvent.commit hho
    simp only [hho, hcmm]
    exact does_bind (ht.does_computed (.ok _)) fun u hu => hu.does_record (hled.spend hho)

/-- **A release left alone** frees the hold behind the approval, if there is one. -/
theorem Kept.does_release :
    Does m s (Ledger.releasing (ledgerOf s m) ⟨m, terms⟩) (releaseMandateReservation approval) s := by
  have hled := hs.ledgerFor hm.valid
  refine does_bind (hs.does_mandateBudgetFor hm hbuy htms) fun t ht => ?_
  unfold Ledger.releasing
  cases hrel : (ledgerOf s m).release ⟨m, terms⟩ with
  | none =>
    simp only [hrel]
    exact ht.does_computed (.ok ())
  | some next =>
    simp only [hrel]
    exact ht.does_record (hled.release hrel)

end

/-! ## Values to run the ledger on -/

def sampleAsset : Asset := ⟨⟨"tos", 1, 2⟩, 0, 3, 4, 5, 6⟩

/-- A mandate over ten units. -/
def sampleMandateID : MandateID where
  objective := "translate a document"
  authority := .commit
  capabilityClass := "text"
  asset := sampleAsset
  maxTotalAtomic := 10
  approvalAboveAtomic := 10
  maxCounteroffers := 1
  expiresAtUnix := 1000

/-- Terms at six units; the manifest tells two purchases apart. -/
def sampleTerms (manifest : BitVec 256) : Terms where
  capabilityID := ⟨1⟩
  capabilityVersion := "1"
  capabilityClass := "text"
  providerAgentID := ⟨2⟩
  manifestDigest := ⟨false, manifest⟩
  transportBindingDigest := ⟨false, 1⟩
  price := ⟨sampleAsset, 6⟩
  escrowTermsDigest := ⟨false, 1⟩
  disputePolicyDigest := ⟨false, 1⟩
  notAfterUnix := 900

end Messenger.Commerce
