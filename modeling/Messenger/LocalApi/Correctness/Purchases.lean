import Messenger.LocalApi.Correctness.Authority

/-!
# `LocalApi.Correctness.Purchases` — one purchase, one execution?

A purchase is a mandate and a set of terms; the same purchase can be described by several actions. A
grant is used once for each action, and the automatic path binds a purchase to one action; the
owner's path does not. So a purchase that was authorised automatically under one description can be
granted by the owner under another, and both are executed (`twiceRun_claims_twice`).

Where no grant is made beside another action's for the same purchase (`Unrivalled`), a purchase is
executed at most once over every run (`purchase_claimed_once`). For the automatic path the condition
asks for less: it is met, too, when the purchase is already bound to another action, because then
the binding keeps this one from being granted.
-/

namespace Messenger.LocalApi

open Lib
open Negotiation (ExecutionID)
open Firewall (ActionID)
open Commerce

/-! ## Actions that describe one purchase -/

variable (s : Store) (execution : ExecutionID) (id : ActionID)

/-- No other action that describes the purchase is granted or spent. -/
def NoRival : Prop :=
  ∀ e ∈ s.approvals.entries, e.1 ≠ id → e.2.purchase = some execution → ¬Usable e.2

instance (s : Store) (execution : ExecutionID) (id : ActionID) : Decidable (NoRival s execution id) :=
  inferInstanceAs (Decidable (∀ e ∈ s.approvals.entries, e.1 ≠ id → e.2.purchase = some execution → ¬Usable e.2))

/-- The purchase is bound to an action other than this one. -/
def BoundElsewhere : Prop :=
  ∃ claim ∈ lookup execution s.executions, claim.actionID ≠ id

instance (s : Store) (execution : ExecutionID) (id : ActionID) : Decidable (BoundElsewhere s execution id) :=
  inferInstanceAs (Decidable (∃ claim ∈ lookup execution s.executions, claim.actionID ≠ id))

/-- **The condition on a turn.** While the owner's grant of an action is served, no other action
    that describes its purchase is granted or spent; and while a purchase is being requested, the
    same, or it is bound to another action already. -/
def Call.Unrivalled : Call → Prop
  | .grantAction id => ∀ execution ∈ purchaseOf s id, NoRival s execution id
  | .requestAction policy action mandateID =>
    ∀ execution ∈ (Call.requestAction policy action mandateID).purchase,
      BoundElsewhere s execution action.content ∨ NoRival s execution action.content
  | _ => True

instance (s : Store) (call : Call) : Decidable (call.Unrivalled s) :=
  match call with
  | .grantAction id => inferInstanceAs (Decidable (∀ execution ∈ purchaseOf s id, NoRival s execution id))
  | .requestAction policy action mandateID =>
    inferInstanceAs (Decidable (∀ execution ∈ (Call.requestAction policy action mandateID).purchase,
      BoundElsewhere s execution action.content ∨ NoRival s execution action.content))
  | .denyAction _ _ | .claimAction _ | .placeMandate _ | .revokeMandate _ | .expire => .isTrue trivial

/-- The condition on the request a turn serves. -/
def Unrivalled (q : Request) (s : Store) : Prop := q.call.Unrivalled s

instance (q : Request) (s : Store) : Decidable (Unrivalled q s) := inferInstanceAs (Decidable (q.call.Unrivalled s))

variable {s : Store} {execution : ExecutionID} {x : Write}

theorem noRival_iff {id : ActionID} :
    NoRival s execution id ↔
      ∀ id' a, lookup id' s.approvals = some a → id' ≠ id → a.purchase = some execution → ¬Usable a := by
  constructor
  · intro h id' a ha
    exact h ⟨id', a⟩ (mem_lookup_iff.mp ha)
  · rintro h ⟨id', a⟩ he
    exact h id' a (mem_lookup_iff.mpr he)

/-- A write makes no rival of `id` unless it makes another action usable. -/
theorem NoRival.put {id : ActionID} (h : NoRival s execution id)
    (hx : ∀ a, x = .approval a → a.actionID ≠ id → ¬Usable a) : NoRival (Medium.put s x) execution id := by
  rw [noRival_iff] at h ⊢
  intro id' a ha hne hbuy
  cases x with
  | approval b =>
    replace ha : lookup id' (s.approvals.insert b.actionID b) = some a := ha
    rw [lookup_insert_eq] at ha
    split_ifs at ha with hid
    · cases ha
      exact hx a rfl (hid ▸ hne)
    · exact h id' a ha hne hbuy
  | _ => exact h id' a ha hne hbuy

/-- A request's own writes do not end its condition. -/
theorem Permitted.unrivalled {q : Request} (h : Permitted q s x) (hq : Unrivalled q s) :
    Unrivalled q (Medium.put s x) := by
  unfold Unrivalled at hq ⊢
  cases hcl : q.call with
  | grantAction id =>
    simp only [hcl, Call.Unrivalled] at hq ⊢
    -- a grant writes its own action's record, and denials make nothing usable
    have hoth : ∀ a, x = .approval a → a.actionID ≠ id → ¬Usable a := by
      rintro a rfl hne
      cases h with
      | filed h _ _ _ _ _ | authorised h _ _ _ _ _ _ | spent h _ _ => rw [hcl] at h; cases h
      | granted h _ _ => rw [hcl] at h; cases h; exact absurd rfl hne
      | denied _ _ => rintro (h | h) <;> cases h
    intro execution hex
    refine (hq execution ?_).put hoth
    -- the purchase of a record does not change, and a grant files none
    cases x with
    | approval a =>
      unfold purchaseOf at hex ⊢
      replace hex : execution ∈ (lookup id (s.approvals.insert a.actionID a)).bind fun a => a.purchase :=
        hex
      rw [lookup_insert_eq] at hex
      split_ifs at hex with hid
      · cases hold : lookup id s.approvals with
        | none =>
          rw [hid] at hold
          cases h with
          | filed h _ _ _ _ _ => rw [hcl] at h; cases h
          | authorised h _ _ _ _ _ _ => rw [hcl] at h; cases h
          | granted _ h _ | denied h _ | spent _ h _ => exact absurd (hold.symm.trans h) (by simp)
        | some b =>
          rw [hid] at hold
          show execution ∈ b.purchase
          rw [← h.purchase hold]
          exact hex
      · exact hex
    | _ => exact hex
  | requestAction policy action mid =>
    simp only [hcl, Call.Unrivalled] at hq ⊢
    have hoth : ∀ a, x = .approval a → a.actionID ≠ action.content → ¬Usable a := by
      rintro a rfl hne
      cases h with
      | filed h hid _ _ _ _ | authorised h hid _ _ _ _ _ => rw [hcl] at h; cases h; exact absurd hid hne
      | granted h _ _ | spent h _ _ => rw [hcl] at h; cases h
      | denied _ _ => rintro (h | h) <;> cases h
    intro execution hex
    rcases hq execution hex with ⟨claim, hclm, hne⟩ | hrival
    · exact .inl ⟨claim, h.bindingsKept.executions _ _ hclm, hne⟩
    · exact .inr (hrival.put hoth)
  | _ => trivial

/-! ## At most one usable action -/

/-- Two usable actions never describe one purchase. -/
def Exclusive (s : Store) : Prop :=
  ∀ id a execution, lookup id s.approvals = some a → a.purchase = some execution → Usable a → NoRival s execution id

/-- Making an action usable that has no rival keeps usable actions apart. -/
theorem Exclusive.put (hs : Exclusive s) {a : Approval}
    (hrival : Usable a → ∀ execution, a.purchase = some execution → NoRival s execution a.actionID) :
    Exclusive (Medium.put s (Write.approval a)) := by
  intro id b execution hb hbuy huse
  rw [noRival_iff]
  intro id' b' hb' hne hbuy' huse'
  replace hb : lookup id (s.approvals.insert a.actionID a) = some b := hb
  replace hb' : lookup id' (s.approvals.insert a.actionID a) = some b' := hb'
  rw [lookup_insert_eq] at hb hb'
  split_ifs at hb hb' with hid hid' hid'
  · exact hne (hid'.trans hid.symm)
  · -- the action written now is the first of the two
    cases hb
    exact noRival_iff.mp (hrival huse execution hbuy) id' b' hb' (hid ▸ hne) hbuy' huse'
  · -- it is the second
    cases hb'
    refine noRival_iff.mp (hrival huse' execution hbuy') id b hb ?_ hbuy huse
    exact fun h => hne (hid'.trans h.symm)
  · exact noRival_iff.mp (hs id b execution hb hbuy huse) id' b' hb' hne hbuy' huse'

theorem Permitted.exclusive {q : Request} (h : Permitted q s x) (hq : Unrivalled q s)
    (hs : Exclusive s) : Exclusive (Medium.put s x) := by
  unfold Unrivalled at hq
  cases h with
  | filed _ _ _ _ hst _ => exact hs.put fun huse => by rcases huse with h | h <;> rw [hst] at h <;> cases h
  | @authorised policy action mid a hcl hid hbuy _ _ _ hbd =>
    refine hs.put fun _ execution hex => ?_
    rw [hcl] at hq hbuy
    rw [hid]
    rcases hq execution (hbuy ▸ hex) with ⟨claim, hclm, hne⟩ | hrival
    · -- the policy grants an action only with its purchase bound to it
      obtain ⟨claim', hclaim', hbd⟩ := hbd execution hex
      cases hclm.symm.trans hclaim'
      exact absurd (hbd.trans hid) hne
    · exact hrival
  | @granted a sec hcl hold _ =>
    refine hs.put fun _ execution hex => ?_
    rw [hcl] at hq
    refine hq execution ?_
    unfold purchaseOf
    rw [hold]
    exact hex
  | denied _ _ => exact hs.put fun huse => by rcases huse with h | h <;> cases h
  | @spent a sec _ hold hst =>
    exact hs.put fun _ execution hex => hs a.actionID a execution hold hex (.inl hst)
  | execution _ => exact hs
  | toolExecution _ => exact hs
  | mandate => exact hs
  | mandateBudget => exact hs

/-! ## Spends of one purchase -/

/-- The write consumes the grant of an action that describes the purchase. -/
def spendsPurchase (execution : ExecutionID) : Write → Bool
  | .approval a => a.purchase = some execution && a.state = .spent
  | _ => false

theorem unrivalled_discipline (env : Env) : Pool.Discipline (serve env) BindingsKept Permitted Unrivalled where
  refl := BindingsKept.refl
  trans := BindingsKept.trans
  respects := fun _ _ _ h => h.bindingsKept
  steady := fun _ _ _ h hq => h.unrivalled hq
  safe := serve_safe env

/-- The turns of a run, taken under the condition. -/
abbrev UnrivalledRun (env : Env) (ts : List (Turn Request)) : Prop :=
  Along (Pool.step (serve env)) (Pool.Meets Unrivalled) (Pool.start {} : Api) ts

section
variable {env : Env} {ts : List (Turn Request)}

theorem unrivalled_sound (hts : UnrivalledRun env ts) :
    Pool.Sound BindingsKept Permitted Unrivalled {} (api env ts) := Pool.sound_run (unrivalled_discipline env) hts

theorem spends_purchase_once (hts : UnrivalledRun env ts) (execution : ExecutionID) :
    (api env ts).log.countP (fun e => spendsPurchase execution e.write) ≤ 1 := by
  have hgd := (unrivalled_sound hts).guarded.and_invariant (I := Exclusive)
    (fun s e hs he => he.2.exclusive he.1 hs) (fun id a _ h => by simp [lookup_empty] at h)
  refine Along.countP_le_one
    (J := fun s => ∃ id a, lookup id s.approvals = some a ∧ a.purchase = some execution ∧ a.state = .spent)
    ?_ ?_ hgd
  · rintro s e ⟨-, -, he⟩ ⟨id, a, ha, hbuy, hst⟩
    obtain ⟨b, hb, hbpurchase⟩ := he.recordsKept id a ha
    have hsp : stateOf s id = some .spent := by unfold stateOf; rw [ha]; exact congrArg some hst
    have haft := he.spent_kept hsp
    refine ⟨id, b, hb, hbpurchase.trans hbuy, ?_⟩
    unfold stateOf at haft
    rw [hb] at haft
    exact Option.some.inj haft
  · rintro s ⟨ticket, q, x⟩ ⟨hexcl, -, he⟩ hspd
    cases x with
    | approval a =>
      simp only [spendsPurchase, Bool.and_eq_true, decide_eq_true_eq] at hspd
      obtain ⟨hbuy, hst⟩ := hspd
      refine ⟨?_, a.actionID, a, lookup_insert _, hbuy, hst⟩
      rintro ⟨id, b, hb, hbpurchase, hbstate⟩
      have hspd : spends a.actionID (.approval a) := spends_iff.mpr ⟨a, rfl, rfl, hst⟩
      obtain ⟨c, hc⟩ := lookup_of_stateOf (he.of_spends hspd).1
      have hcstate : c.state = .granted := by
        have hpre := (he.of_spends hspd).1
        unfold stateOf at hpre
        rw [hc] at hpre
        exact Option.some.inj hpre
      have hcpurchase : c.purchase = some execution := (he.purchase hc).symm.trans hbuy
      -- the spent action and the granted one describe one purchase, so they are one action
      by_cases hid : id = a.actionID
      · subst hid
        cases hb.symm.trans hc
        rw [hbstate] at hcstate
        cases hcstate
      · exact noRival_iff.mp (hexcl a.actionID c execution hc hcpurchase (.inl hcstate)) id b hb hid hbpurchase
          (.inr hbstate)
    | _ => cases hspd

/-- A record in the log is for the purchase its action's record is for in the end. -/
theorem logged_purchase {e : Entry Write Request} (he : e ∈ (api env ts).log) {a : Approval}
    (hwr : e.write = .approval a) : purchaseOf (api env ts).store a.actionID = a.purchase := by
  have hsd := api_sound env ts
  obtain ⟨before, after, hlog⟩ := List.append_of_mem he
  have hgd := hsd.guarded
  rw [hlog] at hgd
  obtain ⟨-, -, haft⟩ := (along_append _ _ _).mp hgd
  have hkt := haft.related (R := RecordsKept) RecordsKept.refl RecordsKept.trans fun s e he => he.2.recordsKept
  have hstr : (api env ts).store = run Pool.apply (Pool.apply (run Pool.apply {} before) e) after := by
    rw [hsd.replay, hlog, run_append, run_cons]
  rw [← hstr] at hkt
  obtain ⟨b, hb, hbuy⟩ := hkt a.actionID a (by
    show lookup a.actionID (Store.put _ e.write).approvals = some a
    rw [hwr]
    exact lookup_insert _)
  unfold purchaseOf
  rw [hb]
  exact hbuy

end

/-- The claim of an action that describes the purchase and that was told to go ahead. -/
def authorisesPurchase (s : Store) (execution : ExecutionID) (r : Report Request Response) : Bool :=
  match r.input.call with
  | .claimAction id => purchaseOf s id = some execution && r.result.authorised
  | _ => false

/-- **A purchase is executed at most once** over all actions that describe it, in every run whose
    turns are taken under the condition. -/
theorem purchase_claimed_once (env : Env) (ts : List (Turn Request)) (hts : UnrivalledRun env ts)
    (execution : ExecutionID) :
    (api env ts).results.countP (authorisesPurchase (api env ts).store execution) ≤ 1 := by
  refine authorised_once env ts (fun h => claim_authorised h) (fun e he id hid hspd => ?_)
    (spends_purchase_once hts execution)
  obtain ⟨a, hwr, rfl, hst⟩ := spends_iff.mp hspd
  have hlogged := logged_purchase he hwr
  simp only [hwr, spendsPurchase, ← hlogged, of_decide_eq_true hid, hst, decide_true, Bool.and_self]

/-- The purchase of the runs below. -/
def samplePurchase : ExecutionID := ⟨sampleMandateID, sampleTerms 1⟩

/-- A purchase is allowed, and claimed; the same purchase under a prompt is put to the owner, who
    denies it. -/
def onceRun : List (Turn Request) :=
  alone 0 ⟨.placeMandate sampleMandateID, 10⟩ 1 ++ alone 1 (asks (ownSpend 1) 20) 6 ++
    alone 2 ⟨.claimAction (ownSpend 1).content, 30⟩ 5 ++ alone 3 (asks (promptedSpend 1) 40) 5 ++
    alone 4 ⟨.denyAction (promptedSpend 1).content "bought already", 50⟩ 5

theorem onceRun_claimed_once :
    UnrivalledRun Env.plain onceRun ∧
      (api Env.plain onceRun).results.map (fun r => r.result.authorised) = [false, false, true, false, false] ∧
      (api Env.plain onceRun).results.countP (authorisesPurchase (api Env.plain onceRun).store samplePurchase) ≤ 1 :=
  ⟨by decide +kernel, by decide +kernel, purchase_claimed_once Env.plain onceRun (by decide +kernel) samplePurchase⟩

/-- A purchase is allowed by the policy; prompted by a message, the same purchase is put to the
    owner and granted; both actions are claimed. -/
def twiceRun : List (Turn Request) :=
  alone 0 ⟨.placeMandate sampleMandateID, 10⟩ 1 ++ alone 1 (asks (ownSpend 1) 20) 6 ++
    alone 2 (asks (promptedSpend 1) 30) 5 ++ alone 3 ⟨.grantAction (promptedSpend 1).content, 40⟩ 1 ++
    alone 4 ⟨.claimAction (ownSpend 1).content, 50⟩ 5 ++ alone 5 ⟨.claimAction (promptedSpend 1).content, 60⟩ 5

/-- Both claims of the one purchase are authorised. -/
theorem twiceRun_claims_twice :
    (api Env.plain twiceRun).results.countP (authorisesPurchase (api Env.plain twiceRun).store samplePurchase) = 2 := by
  decide +kernel

end Messenger.LocalApi
