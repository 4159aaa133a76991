import Mathlib.Algebra.BigOperators.Group.Finset.Piecewise
import Mathlib.Algebra.Order.BigOperators.Group.Finset
import Messenger.LocalApi.Sequential
import Messenger.Negotiation.Correctness.Budget

/-!
# `LocalApi.Correctness.Totals` — does automatic spending keep to the mandate's total?

What the policy authorises on its own under a mandate is bounded by a hold for each purchase: the
hold stands until the action is claimed, and then it is spent. The hold is filed under the purchase,
the authorisation under the action, and a purchase can be described by several actions. So the
denial of one description frees the hold that another description's standing authorisation rests on
(`sharedRun_exceeds_total`).

Where nothing undecided is denied or expires while a purchase of it has an outstanding automatic
authorisation (`Unshared`), the bound holds after every sequence of requests
(`automatic_spending_within_total`). The invariant is `Covers`: what is authorised automatically is
paid for or held.

A purchase that would exceed the total is put to the owner instead (`exceeding_escalated`), as long
as the ledger can form the sum and the owner can be asked.
-/

namespace Messenger.LocalApi

open Lib
open Negotiation (Money Terms Mandate MandateID ExecutionID Budget atomicBound)
open Firewall (Action ActionID Decision Policy)
open Commerce

/-- The price of a purchase, in atomic units of its mandate's asset. -/
def price (execution : ExecutionID) : Nat := execution.terms.price.atomic

/-- The purchases under a mandate that the policy authorised on its own, and that may still be
    executed or were. -/
def automaticPurchases (s : Store) (m : MandateID) : Finset ExecutionID :=
  ((s.approvals.entries.filterMap fun e => if Automatic e.2 ∧ Usable e.2 then e.2.purchase else none).filter
    fun execution => execution.mandateID = m).toFinset

variable {execution : ExecutionID}

theorem mem_automaticPurchases {s : Store} {m : MandateID} :
    execution ∈ automaticPurchases s m ↔ execution.mandateID = m ∧ ∃ id a, lookup id s.approvals = some a ∧
      Automatic a ∧ Usable a ∧ a.purchase = some execution := by
  unfold automaticPurchases
  simp only [List.mem_toFinset, List.mem_filter, List.mem_filterMap, decide_eq_true_eq]
  constructor
  · rintro ⟨⟨⟨id, a⟩, he, hbuy⟩, hm⟩
    split_ifs at hbuy with ha
    exact ⟨hm, id, a, mem_lookup_iff.mpr he, ha.1, ha.2, hbuy⟩
  · rintro ⟨hm, id, a, hget, hau, huse, hbuy⟩
    exact ⟨⟨⟨id, a⟩, mem_lookup_iff.mp hget, by rw [if_pos ⟨hau, huse⟩]; exact hbuy⟩, hm⟩

/-- The purchase has an automatic authorisation that was not used yet. -/
def Outstanding (s : Store) (execution : ExecutionID) : Prop :=
  ∃ e ∈ s.approvals.entries, Automatic e.2 ∧ e.2.state = .granted ∧ e.2.purchase = some execution

instance (s : Store) (execution : ExecutionID) : Decidable (Outstanding s execution) :=
  inferInstanceAs (Decidable (∃ e ∈ s.approvals.entries,
    Automatic e.2 ∧ e.2.state = .granted ∧ e.2.purchase = some execution))

/-- **The condition on a request.** No undecided request that it denies is for a purchase with an
    outstanding automatic authorisation. -/
def Unshared (env : Env) (s : Store) (q : Request) : Prop :=
  ∀ a ∈ denials env s q, ∀ execution ∈ a.purchase, ¬Outstanding s execution

instance (env : Env) (s : Store) (q : Request) : Decidable (Unshared env s q) :=
  inferInstanceAs (Decidable (∀ a ∈ denials env s q, ∀ execution ∈ a.purchase, ¬Outstanding s execution))

/-- Every request of a sequence is served under the condition. -/
abbrev UnsharedRun (env : Env) (qs : List Request) : Prop :=
  Along (fun s q => (serve env q).final s) (Unshared env) {} qs

/-! ## What is authorised automatically is paid for or held -/

/-- The purchases in `paid` were paid for, and every other automatic authorisation of the mandate
    has its hold. -/
structure Covers (paid : Finset ExecutionID) (s : Store) (m : MandateID) : Prop where
  spent : ∑ execution ∈ paid, price execution ≤ (ledgerOf s m).spent
  used : ∀ id a execution, lookup id s.approvals = some a → Automatic a →
    a.purchase = some execution → execution.mandateID = m → a.state = .spent → execution ∈ paid
  usable : ∀ id a execution, lookup id s.approvals = some a → Automatic a →
    a.purchase = some execution → execution.mandateID = m → a.state = .granted →
      execution ∈ paid ∨ ∃ amount, (ledgerOf s m).hold execution = some amount

theorem covers_empty (m : MandateID) : Covers ∅ {} m where
  spent := Nat.zero_le _
  used := fun _ _ _ h => nomatch h
  usable := fun _ _ _ h => nomatch h

section
variable {env : Env} {q : Request} {s t : Store} {m : MandateID} {paid : Finset ExecutionID}

section
variable (h : Covers paid s m)

include h

/-- An automatic authorisation that was not paid for has its hold, which is the price. -/
theorem Covers.amount (hs : Books s)
    (hmem : execution ∈ automaticPurchases s m) (hpaid : execution ∉ paid) :
    Dir.amount (ledgerOf s m).reserved execution = price execution := by
  obtain ⟨hm, id, a, hget, hau, hgr | hsp, hbuy⟩ := mem_automaticPurchases.mp hmem
  · obtain hin | ⟨amt, hho⟩ := h.usable id a execution hget hau hbuy hm hgr
    · exact absurd hin hpaid
    show ((ledgerOf s m).hold execution).getD 0 = price execution
    rw [hho]
    exact (hs.priced m execution amt hho).2
  · exact absurd (h.used id a execution hget hau hbuy hm hsp) hpaid

/-- **What is covered is within the total.** -/
theorem Covers.within_total (hs : Books s) :
    ∑ execution ∈ automaticPurchases s m, price execution ≤ m.maxTotalAtomic := by
  rcases (automaticPurchases s m).eq_empty_or_nonempty with hemp | ⟨execution, hmem⟩
  · rw [hemp]
    exact Nat.zero_le _
  obtain ⟨rfl, id, a, hget, -, -, hbuy⟩ := mem_automaticPurchases.mp hmem
  have hval := (hs.filed id a execution hget hbuy).standing.valid
  generalize execution.mandateID = m at h hval ⊢
  have hled := (hs.kept m).ledgerFor hval
  have hbnd : (ledgerOf s m).spent + Dir.total (ledgerOf s m).reserved ≤ m.maxTotalAtomic :=
    hled.total ▸ hled.within.bounded
  calc ∑ execution ∈ automaticPurchases s m, price execution
      = ∑ execution ∈ automaticPurchases s m ∩ paid, price execution
          + ∑ execution ∈ automaticPurchases s m \ paid, price execution :=
        (Finset.sum_inter_add_sum_sdiff _ _ _).symm
    _ ≤ ∑ execution ∈ paid, price execution
          + ∑ execution ∈ automaticPurchases s m \ paid, Dir.amount (ledgerOf s m).reserved execution := by
        refine Nat.add_le_add (Finset.sum_le_sum_of_subset Finset.inter_subset_right) (le_of_eq ?_)
        refine Finset.sum_congr rfl fun execution hex => ?_
        obtain ⟨hmem, hpaid⟩ := Finset.mem_sdiff.mp hex
        exact (h.amount hs hmem hpaid).symm
    _ ≤ (ledgerOf s m).spent + Dir.total (ledgerOf s m).reserved :=
        Nat.add_le_add h.spent (Dir.sum_amount_le_total _ _)
    _ ≤ m.maxTotalAtomic := hbnd

/-! ## Every request keeps it covered -/

/-- A change that adds no automatic record and keeps the ledger's spending and holds. -/
theorem Covers.mono (hsp : (ledgerOf t m).spent = (ledgerOf s m).spent)
    (hho : ∀ execution amt, (ledgerOf s m).hold execution = some amt →
      Outstanding s execution → ∃ amount', (ledgerOf t m).hold execution = some amount')
    (hget : ∀ id a, lookup id t.approvals = some a → Automatic a → Usable a →
      lookup id s.approvals = some a ∨ a.state = .granted ∧ ∀ execution, a.purchase = some execution →
        execution.mandateID = m → ∃ amt, (ledgerOf t m).hold execution = some amt) : Covers paid t m where
  spent := hsp ▸ h.spent
  used := by
    intro id a execution ha hau hbuy hm hst
    rcases hget id a ha hau (.inr hst) with hold | ⟨hgr, -⟩
    · exact h.used id a execution hold hau hbuy hm hst
    · rw [hst] at hgr
      cases hgr
  usable := by
    intro id a execution ha hau hbuy hm hst
    rcases hget id a ha hau (.inl hst) with hold | ⟨-, hnew⟩
    · rcases h.usable id a execution hold hau hbuy hm hst with hpaid | ⟨amt, hamt⟩
      · exact .inl hpaid
      · have hout : Outstanding s execution := ⟨⟨id, a⟩, mem_lookup_iff.mp hold, hau, hst, hbuy⟩
        exact .inr (hho execution amt hamt hout)
    · exact .inr (hnew execution hbuy hm)

section
variable {a : Approval} {seconds : Nat} (happrovals : t.approvals = s.approvals.insert a.actionID (a.consumed seconds))
include happrovals

/-- A claim that spends a hold pays for its purchase. -/
theorem Covers.claimed_held (hs : Books s) {amount : Nat}
    (hbuy : a.purchase = some execution) (hamt : (ledgerOf s m).hold execution = some amount)
    (hsp : (ledgerOf t m).spent = (ledgerOf s m).spent + amount)
    (hho : ∀ exec', exec' ≠ execution → (ledgerOf t m).hold exec' = (ledgerOf s m).hold exec') :
    Covers (insert execution paid) t m where
  spent := by
    have hprice : price execution = amount := (hs.priced m execution amount hamt).2.symm
    have hsum : ∑ e ∈ insert execution paid, price e ≤ ∑ e ∈ paid, price e + price execution := by
      by_cases hmem : execution ∈ paid
      · rw [Finset.insert_eq_of_mem hmem]
        exact Nat.le_add_right _ _
      · rw [Finset.sum_insert hmem, Nat.add_comm]
    have hpaid := h.spent
    omega
  used := by
    intro id b exec' hb hau hbu hm hst
    rw [happrovals] at hb
    rcases lookup_insert_cases hb with ⟨-, rfl⟩ | hb
    · cases hbuy.symm.trans hbu
      exact Finset.mem_insert_self _ _
    · exact Finset.mem_insert_of_mem (h.used id b exec' hb hau hbu hm hst)
  usable := by
    intro id b exec' hb hau hbu hm hst
    rw [happrovals] at hb
    rcases lookup_insert_cases hb with ⟨-, rfl⟩ | hb
    · cases hst
    by_cases hsm : exec' = execution
    · exact .inl (hsm ▸ Finset.mem_insert_self _ _)
    · rw [hho exec' hsm]
      exact (h.usable id b exec' hb hau hbu hm hst).imp_left Finset.mem_insert_of_mem

/-- A claim that finds no hold changes no ledger; what it was for had been paid. -/
theorem Covers.claimed_unheld (hold : lookup a.actionID s.approvals = some a)
    (hst : a.state = .granted)
    (hunheld : ∀ execution, a.purchase = some execution → (ledgerOf s m).hold execution = none)
    (hsp : (ledgerOf t m).spent = (ledgerOf s m).spent)
    (hho : ∀ execution, (ledgerOf t m).hold execution = (ledgerOf s m).hold execution) : Covers paid t m where
  spent := hsp ▸ h.spent
  used := by
    intro id b execution hb hau hbu hm hsp
    rw [happrovals] at hb
    rcases lookup_insert_cases hb with ⟨-, rfl⟩ | hb
    · rcases h.usable _ a execution hold hau hbu hm hst with hpaid | ⟨amt, hamt⟩
      · exact hpaid
      · rw [hunheld execution hbu] at hamt
        cases hamt
    · exact h.used id b execution hb hau hbu hm hsp
  usable := by
    intro id b execution hb hau hbu hm hgr
    rw [happrovals] at hb
    rcases lookup_insert_cases hb with ⟨-, rfl⟩ | hb
    · cases hgr
    · rw [hho]
      exact h.usable id b execution hb hau hbu hm hgr

theorem Covers.claimed (hs : Books s) (hold : lookup a.actionID s.approvals = some a)
    (hst : a.state = .granted)
    (hsp : (ledgerOf t m).spent = (ledgerOf s m).spent + a.purchase.elim 0 (Dir.amount (ledgerOf s m).reserved))
    (hho : ∀ execution, (ledgerOf t m).hold execution
      = if a.purchase = some execution then none else (ledgerOf s m).hold execution) : ∃ paid', Covers paid' t m := by
  by_cases hhe : ∃ execution amount, a.purchase = some execution ∧ (ledgerOf s m).hold execution = some amount
  · obtain ⟨execution, amount, hbuy, hamt⟩ := hhe
    have hget : lookup execution (ledgerOf s m).reserved = some amount := hamt
    refine ⟨_, h.claimed_held happrovals hs hbuy hamt ?_ fun exec' hne => ?_⟩
    · rw [hsp, hbuy, Option.elim_some, Dir.amount, hget, Option.getD_some]
    · rw [hho, if_neg fun hsm => hne (Option.some.inj (hsm.symm.trans hbuy))]
  have hunheld : ∀ execution, a.purchase = some execution → (ledgerOf s m).hold execution = none := by
    intro execution hbuy
    cases hno : (ledgerOf s m).hold execution with
    | none => rfl
    | some amount => exact absurd ⟨execution, amount, hbuy, hno⟩ hhe
  refine ⟨paid, h.claimed_unheld happrovals hold hst hunheld ?_ fun execution => ?_⟩
  · rw [hsp]
    cases hbuy : a.purchase with
    | none => rfl
    | some execution =>
      have hget : lookup execution (ledgerOf s m).reserved = none := hunheld execution hbuy
      rw [Option.elim_some, Dir.amount, hget]
      rfl
  · rw [hho]
    split_ifs with hbuy
    · exact (hunheld execution hbuy).symm
    · rfl

end

/-- A price that is held covers the authorisation filed for it. -/
theorem Covers.held (hs : Books s) (hhe : Holding execution s t)
    (hfl : t.approvals = s.approvals ∨ ∃ a, Files a s t ∧ a.purchase = some execution ∧
      (a.state = .pending ∧ ¬Automatic a ∨ a.state = .granted)) : Covers paid t m := by
  have hkp : ∀ exec' amt, (ledgerOf s m).hold exec' = some amt →
      ∃ amount', (ledgerOf t m).hold exec' = some amount' := by
    intro exec' amt hamt
    by_cases hm : m = execution.mandateID
    · subst hm
      rw [hhe.hold hs]
      split_ifs
      · exact ⟨_, rfl⟩
      · exact ⟨amt, hamt⟩
    · rw [hhe.others m hm]
      exact ⟨amt, hamt⟩
  refine h.mono (hhe.spent hs m) (fun exec' amt hamt _ => hkp exec' amt hamt)
    fun id b hb hau huse => ?_
  rcases hfl with hsm | ⟨a, hfls, hbuy, hst⟩
  · rw [hsm] at hb
    exact .inl hb
  rw [hfls.approvals] at hb
  rcases lookup_insert_cases hb with ⟨-, rfl⟩ | hb
  · rcases hst with ⟨-, hmnl⟩ | hgr
    · exact absurd hau hmnl
    refine .inr ⟨hgr, fun exec' hbu hm => ?_⟩
    cases hbuy.symm.trans hbu
    subst hm
    rw [hhe.hold hs, if_pos rfl]
    exact ⟨_, rfl⟩
  · exact .inl hb

end

/-- **One request keeps automatic spending covered** under the condition. -/
theorem Change.covers (hchg : Change env q s t) (hs : Books s) (hq : Unshared env s q)
    (h : Covers paid s m) : ∃ paid', Covers paid' t m := by
  cases hchg with
  | quiet hqt =>
    refine ⟨paid, h.mono (by rw [hqt.ledgers]) (fun execution amt hho _ => ⟨amt, ?_⟩) fun id b hb _ _ => ?_⟩
    · rw [hqt.ledgers]; exact hho
    · rw [hqt.approvals] at hb; exact .inl hb
  | filed hfls hld hmnl =>
    refine ⟨paid, h.mono (by rw [hld]) (fun execution amt hho _ => ⟨amt, ?_⟩) fun id b hb hau _ => ?_⟩
    · rw [hld]; exact hho
    rw [hfls.approvals] at hb
    rcases lookup_insert_cases hb with ⟨-, rfl⟩ | hb
    · exact absurd hau hmnl
    · exact .inl hb
  | held hcl hbuy hhe hfl => exact ⟨paid, h.held hs hhe (hfl.imp_left And.left)⟩
  | @granted a seconds hold hst happrovals hld =>
    refine ⟨paid, h.mono (by rw [hld]) (fun execution amt hho _ => ⟨amt, ?_⟩) fun id b hb hau _ => ?_⟩
    · rw [hld]; exact hho
    rw [happrovals] at hb
    rcases lookup_insert_cases hb with ⟨-, rfl⟩ | hb
    · -- what an owner is asked about was not authorised automatically
      exact absurd hau (hs.undecided _ a hold hst)
    · exact .inl hb
  | denied reason seconds hcl hden hothers hsp hho =>
    refine ⟨paid, h.mono (hsp m) (fun execution amt hamt hout => ⟨amt, ?_⟩) fun id b hb _ huse => ?_⟩
    · -- the condition keeps the hold of an outstanding authorisation
      rw [hho, if_neg]
      · exact hamt
      · rintro ⟨a, ha, hbuy⟩
        exact hq a ha execution hbuy hout
    by_cases hdenial : ∃ a ∈ denials env s q, a.actionID = id
    · obtain ⟨a, ha, rfl⟩ := hdenial
      rw [hden a ha] at hb
      cases hb
      rcases huse with hst | hst <;> cases hst
    · rw [hothers id fun a ha hid => hdenial ⟨a, ha, hid⟩] at hb
      exact .inl hb
  | claimed hcl hold hst happrovals hsp hho => exact h.claimed happrovals hs hold hst (hsp m) (hho m)

/-- **Automatic spending stays within the mandate.** After every sequence of requests served under
    the condition, the prices of the distinct purchases authorised automatically under a mandate,
    and still granted or spent, add up to no more than its total. -/
theorem automatic_spending_within_total (env : Env) (qs : List Request) (hqs : UnsharedRun env qs) (m : MandateID) :
    ∑ execution ∈ automaticPurchases (served env qs) m, price execution ≤ m.maxTotalAtomic := by
  have hinv : Books (served env qs) ∧ ∃ paid, Covers paid (served env qs) m := by
    refine hqs.invariant (I := fun s => Books s ∧ ∃ paid, Covers paid s m) ?_ ⟨books_empty, ∅, covers_empty m⟩
    rintro s q ⟨hs, paid, h⟩ hq
    obtain ⟨ht, hchg⟩ := serve_serves env q hs
    exact ⟨ht, hchg.covers hs hq h⟩
  obtain ⟨hs, paid, h⟩ := hinv
  exact h.within_total hs

end

/-! ## What does not fit is put to the owner -/

/-- The policy allows the purchase of a request on its own, under a mandate that stands; it is not
    bound to another action. -/
structure Allowed (env : Env) (s : Store) (q : Request) (policy : Policy) (action : Action)
    (mandateID : MandateID) (mandate : Mandate) (terms : Terms) (decision : Decision) : Prop
    extends Judged env q policy action mandateID mandate terms decision where
  allowed : decision.outcome = .allow
  standing : ∃ stored, readMandate s mandateID = .ok (some stored) ∧ stored.revokedAtUnix = 0
  unbound : ∀ claim, lookup ⟨mandateID, terms⟩ s.executions = some claim → claim.actionID = action.content

/-- The clock is past the epoch, and the owner was asked about the action already or fewer than
    `maxPendingActions` requests wait. -/
structure CanAsk (env : Env) (s : Store) (id : ActionID) (now : Time) : Prop where
  clock : 0 ≤ now ∧ unixSeconds now ≠ 0
  room : lookup id s.approvals = none → countPendingApprovals env s (unixSeconds now) < maxPendingActions

section
variable {env : Env} {q : Request} {s t : Store} {policy : Policy} {action : Action} {mandateID : MandateID}
  {mandate : Mandate} {terms : Terms} {decision : Decision} {id : ActionID} {now : Time}

theorem CanAsk.congr (h : CanAsk env s id now) (happrovals : t.approvals = s.approvals) : CanAsk env t id now := by
  refine ⟨h.clock, fun habsent => ?_⟩
  have hroom := h.room (happrovals ▸ habsent)
  unfold countPendingApprovals readableApprovals readApproval at hroom ⊢
  rw [happrovals]
  exact hroom

/-- What the policy allows on its own is priced in the mandate's asset. -/
theorem Allowed.priced (h : Allowed env s q policy action mandateID mandate terms decision) :
    terms.price.validate = .ok () ∧ terms.price.asset = mandateID.asset := by
  obtain ⟨-, -, -, terms', base, hbuys, -, -, -, hdecision⟩ := Firewall.evaluateSpend_ok h.judged h.accepted
  cases h.buys.symm.trans hbuys
  have hallowed := h.allowed
  rw [hdecision] at hallowed
  unfold Firewall.judgeSpend at hallowed
  cases hpermits : mandate.permitsCommit terms q.now with
  | error e =>
    simp only [hpermits] at hallowed
    cases hallowed
  | ok personal =>
    iterate 6 obtain ⟨_, -, hpermits⟩ := seq_ok.mp hpermits
    obtain ⟨within, hwithin, -⟩ := seq_ok.mp hpermits
    obtain ⟨hasset, hprice, -⟩ := Money.atMost_ok.mp hwithin
    exact ⟨hprice, hasset.trans (congrArg Money.asset h.total.1)⟩

end

def sampleMandate : Mandate :=
  ⟨"translate a document", .commit, "text", totalOf sampleMandateID, totalOf sampleMandateID, 1, 1000⟩

/-- One purchase is allowed and claimed; another, which a message prompted, does not fit and is
    denied. -/
def separateRun : List Request :=
  [⟨.placeMandate sampleMandateID, 10⟩, asks (ownSpend 1) 20, asks (promptedSpend 2) 30,
    ⟨.denyAction (promptedSpend 2).content "not needed", 40⟩, ⟨.claimAction (ownSpend 1).content, 50⟩]

theorem separateRun_within_total :
    ∑ execution ∈ automaticPurchases (served Env.plain separateRun) sampleMandateID, price execution = 6 ∧
      ∑ execution ∈ automaticPurchases (served Env.plain separateRun) sampleMandateID, price execution
        ≤ sampleMandateID.maxTotalAtomic :=
  ⟨by decide +kernel, automatic_spending_within_total Env.plain separateRun (by decide +kernel) sampleMandateID⟩

/-- A purchase is allowed; prompted by a message, the same purchase is put to the owner, who denies
    it; another purchase is allowed. -/
def sharedRun : List Request :=
  [⟨.placeMandate sampleMandateID, 10⟩, asks (ownSpend 1) 20, asks (promptedSpend 1) 30,
    ⟨.denyAction (promptedSpend 1).content "not needed", 40⟩, asks (ownSpend 2) 50]

/-- **Two purchases at six units each are authorised under a mandate over ten.** -/
theorem sharedRun_exceeds_total :
    sampleMandateID.maxTotalAtomic
      < ∑ execution ∈ automaticPurchases (served Env.plain sharedRun) sampleMandateID, price execution := by
  decide +kernel

end Messenger.LocalApi
