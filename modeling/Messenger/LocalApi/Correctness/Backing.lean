import Messenger.LocalApi.Sequential

/-!
# `LocalApi.Correctness.Backing` — does every hold belong to a purchase somebody still wants?

A request for a purchase holds the price first and looks for the action's record afterwards. Asking
again finds the old record, whatever became of it, and nothing takes the new hold back: after a
denial or an execution the hold stays (`repeatRun_orphans_hold`), and no later request frees it.

Where a purchase is only asked for while its price is held, or while none of its requests was
settled and it has an open request or can get one (`Backable`), every hold has a pending or granted
approval of its purchase, and asking again for a settled purchase changes no total (`holds_backed`).
-/

namespace Messenger.LocalApi

open Lib
open Negotiation (MandateID ExecutionID Budget)
open Commerce

/-- An approval that may still lead to its action. -/
def Pursued (a : Approval) : Prop := a.state = .pending ∨ a.state = .granted

instance : DecidablePred Pursued := fun a => inferInstanceAs (Decidable (a.state = .pending ∨ a.state = .granted))

variable (s : Store) (execution : ExecutionID)

/-- Some approval of the purchase is pending or granted. -/
def Backed : Prop :=
  ∃ e ∈ s.approvals.entries, e.2.purchase = some execution ∧ Pursued e.2

instance (s : Store) (execution : ExecutionID) : Decidable (Backed s execution) :=
  inferInstanceAs (Decidable (∃ e ∈ s.approvals.entries, e.2.purchase = some execution ∧ Pursued e.2))

/-- Some approval of the purchase was denied or used. -/
def Settled : Prop :=
  ∃ e ∈ s.approvals.entries, e.2.purchase = some execution ∧ ¬Pursued e.2

instance (s : Store) (execution : ExecutionID) : Decidable (Settled s execution) :=
  inferInstanceAs (Decidable (∃ e ∈ s.approvals.entries, e.2.purchase = some execution ∧ ¬Pursued e.2))

/-- The price of the purchase is held. -/
def Held : Prop := ((ledgerOf s execution.mandateID).hold execution).isSome

instance (s : Store) (execution : ExecutionID) : Decidable (Held s execution) :=
  inferInstanceAs (Decidable (((ledgerOf s execution.mandateID).hold execution).isSome = true))

/-- **The condition on a request** for a purchase: its price is held already; or nothing about the
    purchase was settled, and it has a pending or granted approval or this action's record can be
    filed. -/
def Backable (env : Env) (s : Store) (q : Request) : Prop :=
  match q.call with
  | .requestAction policy action mandateID =>
    ∀ execution ∈ (Call.requestAction policy action mandateID).purchase,
      Held s execution ∨ ¬Settled s execution ∧ (Backed s execution ∨ CanFile env s action.content q.now)
  | _ => True

instance (env : Env) (s : Store) (q : Request) : Decidable (Backable env s q) :=
  match hcall : q.call with
  | .requestAction policy action mandateID =>
    decidable_of_iff (∀ execution ∈ (Call.requestAction policy action mandateID).purchase,
      Held s execution ∨ ¬Settled s execution ∧ (Backed s execution ∨ CanFile env s action.content q.now))
      (by simp only [Backable, hcall])
  | .grantAction _ | .denyAction _ _ | .claimAction _ | .placeMandate _ | .revokeMandate _ | .expire =>
    .isTrue (by simp only [Backable, hcall])

/-- Every request of a sequence is served under the condition. -/
abbrev BackableRun (env : Env) (qs : List Request) : Prop :=
  Along (fun s q => (serve env q).final s) (Backable env) {} qs

theorem backed_iff {s : Store} {execution : ExecutionID} :
    Backed s execution ↔ ∃ id a, lookup id s.approvals = some a ∧ a.purchase = some execution ∧ Pursued a := by
  constructor
  · rintro ⟨⟨id, a⟩, he, h⟩
    exact ⟨id, a, mem_lookup_iff.mpr he, h⟩
  · rintro ⟨id, a, hget, h⟩
    exact ⟨⟨id, a⟩, mem_lookup_iff.mp hget, h⟩

/-- **Every hold is backed.** -/
def HoldsBacked : Prop :=
  ∀ m execution amount, (ledgerOf s m).hold execution = some amount → Backed s execution

section
variable {env : Env} {q : Request} {s t : Store} {execution : ExecutionID}

/-- A new record takes nothing from the others. -/
theorem Backed.files (h : Backed s execution) {a : Approval} (hfls : Files a s t) : Backed t execution := by
  obtain ⟨id, b, hb, hpurchase⟩ := backed_iff.mp h
  refine backed_iff.mpr ⟨id, b, ?_, hpurchase⟩
  rw [hfls.approvals]
  exact Lib.Dir.lookup_insert_of_absent hfls.absent hb

/-- A record that is replaced by one that is still pursued, or that was for another purchase. -/
theorem Backed.replaced (h : Backed s execution) {a a' : Approval}
    (hold : lookup a.actionID s.approvals = some a)
    (happrovals : t.approvals = s.approvals.insert a.actionID a')
    (ha : a.purchase = some execution → a'.purchase = some execution ∧ Pursued a') : Backed t execution := by
  obtain ⟨id, b, hb, hpurchase⟩ := backed_iff.mp h
  by_cases hid : id = a.actionID
  · rw [hid, hold] at hb
    cases hb
    refine backed_iff.mpr ⟨a.actionID, a', ?_, ha hpurchase.1⟩
    rw [happrovals, lookup_insert]
  refine backed_iff.mpr ⟨id, b, ?_, hpurchase⟩
  rw [happrovals, lookup_insert_ne hid]
  exact hb

/-- What the condition says of a request for a purchase. -/
theorem Backable.of_purchase (hq : Backable env s q) {policy : Firewall.Policy} {action : Firewall.Action}
    {mid : Option MandateID} (hcl : q.call = .requestAction policy action mid)
    (hbuy : q.call.purchase = some execution) :
    Held s execution ∨ ¬Settled s execution ∧ (Backed s execution ∨ CanFile env s action.content q.now) := by
  unfold Backable at hq
  rw [hcl] at hq hbuy
  exact hq execution hbuy

/-- A price is held for a purchase that is backed afterwards. -/
theorem Holding.backed (hhe : Holding execution s t) (hs : Books s) (h : HoldsBacked s)
    (hkp : ∀ exec', Backed s exec' → Backed t exec') (hbacked : Backed t execution) :
    HoldsBacked t := by
  intro m exec' amt hho
  by_cases hm : m = execution.mandateID
  · rw [hm, hhe.hold hs] at hho
    split_ifs at hho with hsm
    · exact hsm ▸ hbacked
    · exact hkp _ (h _ exec' amt hho)
  · rw [hhe.others m hm] at hho
    exact hkp _ (h m exec' amt hho)

/-- **One request keeps every hold backed** under the condition. -/
theorem Change.holdsBacked (hchg : Change env q s t) (hs : Books s) (hq : Backable env s q)
    (h : HoldsBacked s) : HoldsBacked t := by
  cases hchg with
  | quiet hqt =>
    intro m execution amt hho
    rw [hqt.ledgers] at hho
    unfold Backed
    rw [hqt.approvals]
    exact h m execution amt hho
  | filed hfls hld hmnl =>
    intro m execution amt hho
    rw [hld] at hho
    exact (h m execution amt hho).files hfls
  | @held policy action mid execution hcl hbuy hholding hfl =>
    -- a hold that stands, or an open request, backs the new hold; without either the record was filed
    have hpre : Backed s execution ∨ CanFile env s action.content q.now := by
      rcases hq.of_purchase hcl hbuy with hhe | ⟨-, hop⟩
      · obtain ⟨amt, hamt⟩ := Option.isSome_iff_exists.mp hhe
        exact .inl (h _ execution amt hamt)
      · exact hop
    rcases hfl with ⟨hsm, hfu⟩ | ⟨a, hfls, ha, hst⟩
    · have hkp : ∀ execution', Backed s execution' → Backed t execution' := by
        intro execution' hbacked
        unfold Backed
        rw [hsm]
        exact hbacked
      exact hholding.backed hs h hkp (hkp execution (hpre.resolve_right hfu))
    refine hholding.backed hs h (fun _ hbacked => hbacked.files hfls) ?_
    refine backed_iff.mpr ⟨a.actionID, a, ?_, ha, hst.imp And.left id⟩
    rw [hfls.approvals, lookup_insert]
  | granted hold hst happrovals hld =>
    intro m execution amt hho
    rw [hld] at hho
    exact (h m execution amt hho).replaced hold happrovals fun hbuy => ⟨hbuy, .inr rfl⟩
  | denied reason sec hcl hden hothers hsp hho =>
    intro m execution amt hamt
    rw [hho] at hamt
    split_ifs at hamt with hfreed
    obtain ⟨id, b, hb, hbuy, hpurchase⟩ := backed_iff.mp (h m execution amt hamt)
    -- the record that backs the hold is none of the denied ones, whose holds are gone
    have hkt : ∀ a ∈ denials env s q, a.actionID ≠ id := by
      intro a ha hid
      obtain ⟨hget, -⟩ := mem_denials hs ha
      rw [hid, hb] at hget
      cases hget
      exact hfreed ⟨_, ha, hbuy⟩
    refine backed_iff.mpr ⟨id, b, ?_, hbuy, hpurchase⟩
    rw [hothers id hkt]
    exact hb
  | claimed hcl hold hst happrovals hsp hho =>
    intro m execution amt hamt
    rw [hho] at hamt
    split_ifs at hamt with hclaimed
    exact (h m execution amt hamt).replaced hold happrovals fun hbuy => absurd hbuy hclaimed

/-- Asking again for a settled purchase changes no total, under the condition. -/
theorem Change.total_unchanged (hchg : Change env q s t) (hs : Books s) (hq : Backable env s q)
    (hbuy : q.call.purchase = some execution) (hset : Settled s execution) :
    (ledgerOf t execution.mandateID).spent + (ledgerOf t execution.mandateID).held
      = (ledgerOf s execution.mandateID).spent + (ledgerOf s execution.mandateID).held := by
  cases hchg with
  | quiet hqt => rw [hqt.ledgers]
  | filed hfls hld hmnl => rw [hld]
  | granted hold hst happrovals hld => rw [hld]
  | denied reason seconds hcl _ _ _ _ | claimed hcl _ _ _ _ _ => rw [hcl] at hbuy; cases hbuy
  | held hcl hbu hholding _ =>
    cases hbu.symm.trans hbuy
    rcases hq.of_purchase hcl hbuy with hhe | ⟨huns, -⟩
    · obtain ⟨amt, hamt⟩ := Option.isSome_iff_exists.mp hhe
      have hprice := (hs.priced _ execution amt hamt).2
      rw [hprice] at hamt
      rw [hholding.ledger hs]
      exact congrArg (_ + ·) (Budget.held_insert_same hamt)
    · exact absurd hset huns

/-- **Every hold is backed** after every sequence of requests served under the condition, and asking
    again for a purchase that was denied or executed leaves what is spent and held as it is. -/
theorem holds_backed (env : Env) (qs : List Request) (hqs : BackableRun env qs) :
    HoldsBacked (served env qs) ∧
      ∀ q execution, Backable env (served env qs) q → q.call.purchase = some execution →
        Settled (served env qs) execution →
        (ledgerOf (served env (qs ++ [q])) execution.mandateID).spent
            + (ledgerOf (served env (qs ++ [q])) execution.mandateID).held
          = (ledgerOf (served env qs) execution.mandateID).spent
            + (ledgerOf (served env qs) execution.mandateID).held := by
  have hbacked : Books (served env qs) ∧ HoldsBacked (served env qs) := by
    refine hqs.invariant (I := fun s => Books s ∧ HoldsBacked s) ?_ ⟨books_empty, fun _ _ _ h => nomatch h⟩
    rintro s q ⟨hs, h⟩ hq
    obtain ⟨ht, hchg⟩ := serve_serves env q hs
    exact ⟨ht, hchg.holdsBacked hs hq h⟩
  obtain ⟨hs, h⟩ := hbacked
  refine ⟨h, fun q execution hq hbuy hset => ?_⟩
  have hnx : served env (qs ++ [q]) = (serve env q).final (served env qs) := run_append _ _ _
  rw [hnx]
  exact (serve_serves env q hs).change.total_unchanged hs hq hbuy hset

end

/-! ## Runs -/

/-- A purchase at four units of the sample mandate's ten. -/
def cheapSpend : Firewall.Action :=
  ⟨.spend, "buy", none, [], some { sampleTerms 1 with price := ⟨sampleAsset, 4⟩ }, none⟩

/-- The cheap purchase and the prompted one. -/
def cheapPurchase : ExecutionID := ⟨sampleMandateID, { sampleTerms 1 with price := ⟨sampleAsset, 4⟩ }⟩
def promptedPurchase : ExecutionID := ⟨sampleMandateID, sampleTerms 1⟩

/-- A purchase is put to the owner, asked for again while it is undecided, and granted; another is
    claimed. -/
def openRun : List Request :=
  [⟨.placeMandate sampleMandateID, 10⟩, asks (promptedSpend 1) 20, asks (promptedSpend 1) 30,
    ⟨.grantAction (promptedSpend 1).content, 40⟩, asks cheapSpend 50, ⟨.claimAction cheapSpend.content, 60⟩]

theorem openRun_backed :
    (ledgerOf (served Env.plain openRun) sampleMandateID).hold promptedPurchase = some 6 ∧
      (ledgerOf (served Env.plain openRun) sampleMandateID).spent = 4 ∧ HoldsBacked (served Env.plain openRun) :=
  ⟨by decide +kernel, by decide +kernel, (holds_backed Env.plain openRun (by decide +kernel)).1⟩

/-- A purchase is put to the owner and denied. -/
def deniedRun : List Request :=
  [⟨.placeMandate sampleMandateID, 10⟩, asks (promptedSpend 1) 20,
    ⟨.denyAction (promptedSpend 1).content "not needed", 30⟩]

/-- A purchase is allowed and executed. -/
def executedRun : List Request :=
  [⟨.placeMandate sampleMandateID, 10⟩, asks cheapSpend 20, ⟨.claimAction cheapSpend.content, 30⟩]

/-- **A hold nobody wants.** Asked for again, a purchase that was denied and one that was executed
    are held anew: the totals grow, and no pending or granted approval is for either of them. -/
theorem repeatRun_orphans_hold : let denied := served Env.plain deniedRun
    let again := served Env.plain (deniedRun ++ [asks (promptedSpend 1) 40])
    let executed := served Env.plain executedRun
    let repeated := served Env.plain (executedRun ++ [asks cheapSpend 40])
    (ledgerOf denied sampleMandateID).held = 0 ∧
      (ledgerOf again sampleMandateID).hold promptedPurchase = some 6 ∧ ¬Backed again promptedPurchase ∧
      (ledgerOf executed sampleMandateID).spent = 4 ∧ (ledgerOf executed sampleMandateID).held = 0 ∧
      (ledgerOf repeated sampleMandateID).spent = 4 ∧
      (ledgerOf repeated sampleMandateID).hold cheapPurchase = some 4 ∧ ¬Backed repeated cheapPurchase := by
  decide +kernel

end Messenger.LocalApi
