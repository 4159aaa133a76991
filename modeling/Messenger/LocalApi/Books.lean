import Messenger.LocalApi.Filing
import Messenger.LocalApi.Writes

/-!
# `LocalApi.Books` — approvals and ledgers that agree

`Books` is what the approvals, the mandates and the ledgers keep among each other while requests are
served one at a time: a ledger is its mandate's, a hold is the price of the purchase it is filed
under, and a record of a purchase names a mandate the store knows.

Under it the three ledger operations do exactly what they are specified to do, and the rest of the
file says so in the terms the handlers need: what was reserved, released (`Released`) or committed.
-/

namespace Messenger.LocalApi

open Lib
open Negotiation (MandateID ExecutionID Budget)
open Commerce

/-- A spend the policy authorised on its own: its record says so. -/
def Automatic (a : Approval) : Prop := a.effect = .spend ∧ a.reason = automaticSpendReason

instance : DecidablePred Automatic := fun a =>
  inferInstanceAs (Decidable (a.effect = .spend ∧ a.reason = automaticSpendReason))

/-- A purchase the ledgers can account for. -/
structure Accountable (s : Store) (execution : ExecutionID) : Prop where
  standing : Standing execution.mandateID s
  terms : execution.terms.validate = .ok ()

theorem Accountable.congr {s t : Store} {execution : ExecutionID} (h : Accountable s execution)
    (ht : t.mandates = s.mandates) : Accountable t execution := ⟨h.standing.congr ht, h.terms⟩

/-- **Approvals and ledgers agree.** -/
structure Books (s : Store) : Prop where
  own : ∀ id a, lookup id s.approvals = some a → a.actionID = id
  kept : ∀ m, Kept m s
  priced : ∀ m execution amount, (ledgerOf s m).hold execution = some amount →
    execution.mandateID = m ∧ amount = execution.terms.price.atomic
  filed : ∀ id a execution, lookup id s.approvals = some a → a.purchase = some execution → Accountable s execution
  undecided : ∀ id a, lookup id s.approvals = some a → a.state = .pending → ¬Automatic a

theorem books_empty : Books {} where
  own := fun _ _ h => nomatch h
  kept := fun _ _ h => nomatch h
  priced := fun _ _ _ h => nomatch h
  filed := fun _ _ _ h => nomatch h
  undecided := fun _ _ h => nomatch h

section
variable {s t u : Store} {m : MandateID} {exec : ExecutionID} {a : Approval}

/-- A change of one ledger that keeps it priced. -/
theorem Books.frame (hs : Books s) (hfra : Frame m s t) (hkt : Kept m t)
    (hprice : ∀ exec amt, (ledgerOf t m).hold exec = some amt →
      exec.mandateID = m ∧ amt = exec.terms.price.atomic) : Books t where
  own := by rw [hfra.approvals]; exact hs.own
  kept := by
    intro m' b hb
    by_cases hm : m' = m
    · subst hm
      exact hkt b hb
    · rw [hfra.others (budgetOf m') fun h => hm (congrArg BudgetID.mandateID h)] at hb
      exact hs.kept m' b hb
  priced := by
    intro m' exec amt hho
    by_cases hm : m' = m
    · subst hm
      exact hprice exec amt hho
    · rw [hfra.ledgerOf_ne hm] at hho
      exact hs.priced m' exec amt hho
  filed := by
    intro id a exec ha hbuy
    rw [hfra.approvals] at ha
    exact (hs.filed id a exec ha hbuy).congr hfra.mandates
  undecided := by rw [hfra.approvals]; exact hs.undecided

/-- A record that is written under its own name, of a purchase the ledgers can account for. -/
theorem Books.approval (hs : Books s) (hbuy : ∀ exec, a.purchase = some exec →
    Accountable s exec) (hunder : a.state = .pending → ¬Automatic a) :
    Books (Medium.put s (.approval a)) := by
  refine ⟨forall_insert hs.own rfl, hs.kept, hs.priced, ?_, forall_insert hs.undecided hunder⟩
  intro id b exec hb hex
  rcases lookup_insert_cases hb with ⟨-, rfl⟩ | hold
  · exact (hbuy exec hex).congr rfl
  · exact (hs.filed id b exec hold hex).congr rfl

/-! ## Requests that change neither approvals nor ledgers -/

/-- Neither an approval nor a ledger differs. -/
structure Quiet (s t : Store) : Prop where
  approvals : t.approvals = s.approvals
  ledgers : ∀ m, ledgerOf t m = ledgerOf s m

theorem Quiet.refl (s : Store) : Quiet s s := ⟨rfl, fun _ => rfl⟩

theorem Quiet.trans (hst : Quiet s t) (htu : Quiet t u) : Quiet s u :=
  ⟨htu.approvals.trans hst.approvals, fun m => (htu.ledgers m).trans (hst.ledgers m)⟩

theorem Books.execution (hs : Books s) (exec : ExecutionID) (claim : ExecutionClaim) :
    Books (Medium.put s (.execution exec claim)) :=
  ⟨hs.own, hs.kept, hs.priced, fun id a exec ha hbuy => (hs.filed id a exec ha hbuy).congr rfl, hs.undecided⟩

theorem Books.toolExecution (hs : Books s) (key : IdempotencyKey) (claim : ExecutionClaim) :
    Books (Medium.put s (.toolExecution key claim)) :=
  ⟨hs.own, hs.kept, hs.priced, fun id a exec ha hbuy => (hs.filed id a exec ha hbuy).congr rfl, hs.undecided⟩

theorem Books.mandate (hs : Books s) (stored : StoredMandate) : Books (Medium.put s (.mandate stored)) := by
  refine ⟨hs.own, hs.kept, hs.priced, fun id a exec ha hbuy => ?_, hs.undecided⟩
  obtain ⟨hsn, htms⟩ := hs.filed id a exec ha hbuy
  exact ⟨hsn.put_mandate stored, htms⟩

/-! ## Reserving -/

/-- The price of a purchase is held. -/
structure Holding (execution : ExecutionID) (s t : Store) : Prop where
  valid : (totalOf execution.mandateID).validate = .ok ()
  reserve : (ledgerOf s execution.mandateID).reserve execution execution.terms.price
    = .ok (ledgerOf t execution.mandateID)
  others : ∀ m, m ≠ execution.mandateID → ledgerOf t m = ledgerOf s m

theorem Holding.congr {s' t' : Store} (h : Holding exec s t)
    (hs : ∀ m, ledgerOf s' m = ledgerOf s m) (ht : ∀ m, ledgerOf t' m = ledgerOf t m) : Holding exec s' t' where
  valid := h.valid
  reserve := by rw [hs, ht]; exact h.reserve
  others := fun m hm => by rw [hs, ht]; exact h.others m hm

theorem Holding.ledger (h : Holding exec s t) (hs : Books s) :
    ledgerOf t exec.mandateID = { ledgerOf s exec.mandateID with
      reserved := (ledgerOf s exec.mandateID).reserved.insert exec exec.terms.price.atomic } :=
  (((hs.kept _).ledgerFor h.valid).within.reserve h.reserve).2.1

theorem Holding.spent (h : Holding exec s t) (hs : Books s) (m : MandateID) :
    (ledgerOf t m).spent = (ledgerOf s m).spent := by
  by_cases hm : m = exec.mandateID
  · rw [hm, h.ledger hs]
  · rw [h.others m hm]

/-- The holds of the purchase's own mandate. -/
theorem Holding.hold (h : Holding exec s t) (hs : Books s) (execution' : ExecutionID) :
    (ledgerOf t exec.mandateID).hold execution'
      = if execution' = exec then some exec.terms.price.atomic
        else (ledgerOf s exec.mandateID).hold execution' := by
  rw [h.ledger hs]
  exact Budget.hold_insert _ _ _ _

/-- **A reservation** holds the price, or fails and leaves the ledgers. -/
theorem Books.reserve_ends (hs : Books s) (exec : ExecutionID)
    (hval : (totalOf exec.mandateID).validate = .ok ()) :
    (reserveMandateBudget exec.mandateID (totalOf exec.mandateID) exec exec.terms.price).run.Ends
      (fun r t => Books t ∧ t.approvals = s.approvals ∧ t.mandates = s.mandates ∧
        ((r = .ok () ∧ Holding exec s t) ∨ ∃ e, r = .error e ∧ ∀ m, ledgerOf t m = ledgerOf s m)) s := by
  refine ((hs.kept _).does_reserve hval exec exec.terms.price).ends.mono ?_
  rintro r t ⟨⟨hfra, hkt⟩, hled, rfl⟩
  unfold Ledger.reserving at hled ⊢
  cases hres : (ledgerOf s exec.mandateID).reserve exec exec.terms.price with
  | error e =>
    rw [hres] at hled
    have hled : ledgerOf t exec.mandateID = ledgerOf s exec.mandateID := hled
    refine ⟨hs.frame hfra hkt ?_, hfra.approvals, hfra.mandates, .inr ⟨e, rfl, fun m => ?_⟩⟩
    · rw [hled]
      exact hs.priced _
    by_cases hm : m = exec.mandateID
    · rw [hm, hled]
    · exact hfra.ledgerOf_ne hm
  | ok next =>
    rw [hres] at hled
    have hhe : Holding exec s t :=
      ⟨hval, hres.trans (congrArg Except.ok hled.symm), fun m hm => hfra.ledgerOf_ne hm⟩
    refine ⟨hs.frame hfra hkt ?_, hfra.approvals, hfra.mandates, .inl ⟨rfl, hhe⟩⟩
    intro exec' amt hho
    rw [hhe.hold hs] at hho
    split_ifs at hho with hsm
    · cases hho
      exact ⟨congrArg _ hsm, by rw [hsm]⟩
    · exact hs.priced _ exec' amt hho

/-- Another mandate's ledger holds nothing for a purchase. -/
theorem Books.hold_elsewhere (hs : Books s) (hm : m ≠ exec.mandateID) : (ledgerOf s m).hold exec = none := by
  cases hho : (ledgerOf s m).hold exec with
  | none => rfl
  | some amt => exact absurd (hs.priced m exec amt hho).1.symm hm

/-- A change that erases one purchase's hold, and may spend something. -/
theorem Books.erase (hs : Books s) {spent : Nat} (hfra : Frame exec.mandateID s t)
    (hkt : Kept exec.mandateID t)
    (hled : ledgerOf t exec.mandateID = { ledgerOf s exec.mandateID with
      spent, reserved := (ledgerOf s exec.mandateID).reserved.erase exec }) :
    Books t ∧ ∀ m execution', (ledgerOf t m).hold execution'
      = if execution' = exec then none else (ledgerOf s m).hold execution' := by
  have hho := Budget.hold_erase (ledgerOf s exec.mandateID) spent exec
  rw [← hled] at hho
  refine ⟨hs.frame hfra hkt ?_, fun m execution' => ?_⟩
  · intro execution' amt hamt
    rw [hho] at hamt
    split_ifs at hamt
    exact hs.priced _ execution' amt hamt
  by_cases hm : m = exec.mandateID
  · rw [hm]
    exact hho execution'
  rw [hfra.ledgerOf_ne hm]
  split_ifs with hsm
  · rw [hsm]
    exact hs.hold_elsewhere hm
  · rfl

/-- Nothing is to be done for an approval of no purchase. -/
theorem mandateBudgetFor_none (h : a.purchase = none) : mandateBudgetFor a = pure none := by
  unfold mandateBudgetFor
  rw [h]

/-! ## Releasing -/

/-- The holds of some purchases are gone, and nothing else changed. -/
structure Released (executions : List ExecutionID) (s t : Store) : Prop where
  approvals : t.approvals = s.approvals
  mandates : t.mandates = s.mandates
  spent : ∀ m, (ledgerOf t m).spent = (ledgerOf s m).spent
  hold : ∀ m execution, (ledgerOf t m).hold execution
    = if execution ∈ executions then none else (ledgerOf s m).hold execution

theorem Released.refl (s : Store) : Released [] s s :=
  ⟨rfl, rfl, fun _ => rfl, fun _ _ => (if_neg List.not_mem_nil).symm⟩

theorem Released.trans {before after : List ExecutionID} (hst : Released before s t)
    (htu : Released after t u) : Released (before ++ after) s u := by
  refine ⟨htu.approvals.trans hst.approvals, htu.mandates.trans hst.mandates,
    fun m => (htu.spent m).trans (hst.spent m), fun m exec => ?_⟩
  rw [htu.hold, hst.hold]
  by_cases haft : exec ∈ after
  · rw [if_pos haft, if_pos (List.mem_append_right _ haft)]
  rw [if_neg haft]
  by_cases hpre : exec ∈ before
  · rw [if_pos hpre, if_pos (List.mem_append_left _ hpre)]
  · rw [if_neg hpre, if_neg fun h => (List.mem_append.mp h).elim hpre haft]

/-- **A release** frees the hold of the approval's purchase, where it has one. -/
theorem Books.release_ends (hs : Books s)
    (ha : ∀ exec, a.purchase = some exec → Accountable s exec) :
    (releaseMandateReservation a).run.Ends
      (fun r t => r = .ok () ∧ Books t ∧ Released a.purchase.toList s t) s := by
  cases hbuy : a.purchase with
  | none =>
    unfold releaseMandateReservation
    rw [mandateBudgetFor_none hbuy]
    exact ⟨rfl, hs, Released.refl s⟩
  | some exec =>
    obtain ⟨hsn, htms⟩ := ha _ hbuy
    refine ((hs.kept _).does_release hsn hbuy htms).ends.mono ?_
    rintro r t ⟨⟨hfra, hkt⟩, hled, rfl⟩
    rw [Ledger.releasing_eq] at hled ⊢
    obtain ⟨ht, hho⟩ := hs.erase hfra hkt hled
    refine ⟨rfl, ht, hfra.approvals, hfra.mandates, fun m => ?_, fun m exec' => ?_⟩
    · by_cases hm : m = exec.mandateID
      · rw [hm, hled]
      · rw [hfra.ledgerOf_ne hm]
    · simp only [Option.toList_some, List.mem_singleton]
      exact hho m exec'

/-! ## Committing -/

/-- The hold of a purchase, if there is one, is spent. -/
structure Committed (purchase : Option ExecutionID) (s t : Store) : Prop where
  approvals : t.approvals = s.approvals
  spent : ∀ m, (ledgerOf t m).spent = (ledgerOf s m).spent + purchase.elim 0 (Dir.amount (ledgerOf s m).reserved)
  hold : ∀ m execution, (ledgerOf t m).hold execution
    = if purchase = some execution then none else (ledgerOf s m).hold execution

/-- **A commit** spends the hold of the approval's purchase, where it has one. -/
theorem Books.commit_ends (hs : Books s)
    (ha : ∀ exec, a.purchase = some exec → Accountable s exec) :
    (commitMandateReservation a).run.Ends (fun r t => r = .ok () ∧ Books t ∧ Committed a.purchase s t) s := by
  cases hbuy : a.purchase with
  | none =>
    unfold commitMandateReservation
    rw [mandateBudgetFor_none hbuy]
    exact ⟨rfl, hs, rfl, fun _ => rfl, fun _ _ => (if_neg (Option.some_ne_none _).symm).symm⟩
  | some exec =>
    obtain ⟨hsn, htms⟩ := ha _ hbuy
    have hwi := ((hs.kept exec.mandateID).ledgerFor hsn.valid).within
    refine ((hs.kept _).does_commit hsn hbuy htms).ends.mono ?_
    rintro r t ⟨⟨hfra, hkt⟩, hled, rfl⟩
    rw [Ledger.committing_eq hwi] at hled ⊢
    obtain ⟨ht, hho⟩ := hs.erase hfra hkt hled
    refine ⟨rfl, ht, hfra.approvals, fun m => ?_, fun m exec' => ?_⟩
    · by_cases hm : m = exec.mandateID
      · rw [hm, hled]
        rfl
      -- another mandate's ledger holds nothing for this purchase, and so spends nothing
      rw [hfra.ledgerOf_ne hm]
      show _ = _ + ((ledgerOf s m).hold exec).getD 0
      rw [hs.hold_elsewhere hm]
      rfl
    · simp only [Option.some.injEq, eq_comm (b := exec')]
      exact hho m exec'

end

end Messenger.LocalApi
