import Messenger.Firewall.Firewall
import Messenger.Negotiation.Sound

/-!
# `Firewall.Correctness` — what an unattended decision rests on

**More received content never allows more**, an allowed action is neither physical nor a change of
configuration nor, with received content behind it, the use of a key, and an allowed spend is one
the mandate commits to.
-/

namespace Messenger.Firewall

open Negotiation (Mandate)

theorem Effect.rank_inj {a b : Effect} (ha : a.known) (hb : b.known) (h : a.rank = b.rank) : a = b := by
  cases a <;> cases b <;> simp_all [known, rank]

variable {check : PhysicalOperation → Except Failure Unit} {policy : Policy} {action : Action} {decision : Decision}

theorem verdict_allow : (verdict policy action).1 = .allow ↔
    action.effect ≠ .physicalIo ∧ action.effect ≠ .configuration ∧ (action.untrusted → ¬action.effect.atLeast .keyUse) ∧
      (action.effect.atLeast (policy.ceiling action) → action.effect = policy.ceiling action) := by
  unfold verdict
  split_ifs with hphysical hconfig hkey hce
  · simp [hphysical]
  · simp [hconfig]
  · exact iff_of_false nofun fun h => h.2.2.1 hkey.1 hkey.2
  · exact iff_of_false nofun fun h => hce.2 (h.2.2.2 hce.1)
  · exact iff_of_true rfl ⟨hphysical, hconfig, not_and.mp hkey, fun h => not_not.mp (not_and.mp hce h)⟩

/-- What is allowed with more origins is allowed with fewer: the ceiling of received content is the
    lower one. -/
theorem verdict_mono (hpolicy : policy.validate = .ok ()) {origins : List Origin} (hsub : action.derivedFrom ⊆ origins)
    (h : (verdict policy { action with derivedFrom := origins }).1 = .allow) : (verdict policy action).1 = .allow := by
  obtain ⟨hphysical, hconfig, hkey, hce⟩ := verdict_allow.mp h
  by_cases hno : action.derivedFrom = []
  · have huntrusted : action.untrusted = false := by simp [Action.untrusted, hno]
    refine verdict_allow.mpr ⟨hphysical, hconfig, fun hu => absurd (huntrusted.symm.trans hu) nofun, fun hown => ?_⟩
    unfold Policy.validate at hpolicy
    simp only [seq_ok, failIf_ok, not_or, not_not, not_lt] at hpolicy
    obtain ⟨_, ⟨hkn, hknown'⟩, _, -, _, -, hranks⟩ := hpolicy
    unfold Policy.ceiling at hce hown ⊢
    rw [huntrusted] at hown ⊢
    simp only [Bool.false_eq_true, if_false, Effect.atLeast, decide_eq_true_eq] at hown hce ⊢
    split_ifs at hce
    · have heffect := hce (hranks.trans hown)
      refine Effect.rank_inj (heffect ▸ hkn) hknown' ?_
      rw [heffect] at hown ⊢
      exact hranks.antisymm hown
    · exact hce hown
  · have hmore : origins ≠ [] := fun hempty => hno (List.subset_nil.mp (hempty ▸ hsub))
    have hsm : ({ action with derivedFrom := origins } : Action).untrusted = action.untrusted := by
      simp [Action.untrusted, hno, hmore]
    unfold Policy.ceiling at hce
    rw [hsm] at hkey hce
    exact verdict_allow.mpr ⟨hphysical, hconfig, hkey, hce⟩

/-- A spend is allowed by the policy and by the mandate. -/
theorem evaluateSpend_allow {mandate : Mandate} {now : Time}
    (h : evaluateSpend check policy mandate action now = .ok decision) (hal : decision.outcome = .allow) :
    (verdict policy action).1 = .allow ∧ ∃ terms, action.terms = some terms ∧
      terms.validate = .ok () ∧ mandate.permitsCommit terms now = .ok false := by
  obtain ⟨-, -, -, terms, base, hterms, hvalid, hba, hrefuse, rfl⟩ := evaluateSpend_ok h (by rw [hal]; nofun)
  obtain ⟨-, hverdict, -⟩ := evaluate_ok hba hrefuse
  unfold judgeSpend at hal
  split at hal
  · cases hal
  · cases hal
  · next hpermits => exact ⟨hverdict ▸ hal, terms, hterms, hvalid, hpermits⟩

/-- **What an unattended decision rests on.** For a valid policy and a valid action, origins added
    to the action never turn a decision into one to allow; what is allowed is neither physical nor
    configuration, nor the use of a key on received content; and an allowed spend is inside a
    mandate to commit, at no more than its approval point. -/
theorem allow_monotone (hpolicy : policy.validate = .ok ()) (haction : action.validate check = .ok ()) :
    (∀ origins, action.derivedFrom ⊆ origins → ∀ before after,
        evaluate check policy action = .ok before → before.outcome ≠ .allow →
        evaluate check policy { action with derivedFrom := origins } = .ok after → after.outcome ≠ .allow) ∧
      (∀ mandate now origins, action.derivedFrom ⊆ origins → ∀ before after,
        evaluateSpend check policy mandate action now = .ok before → before.outcome ≠ .allow →
        evaluateSpend check policy mandate { action with derivedFrom := origins } now = .ok after →
        after.outcome ≠ .allow) ∧
      (∀ decision, evaluate check policy action = .ok decision → decision.outcome = .allow →
        action.effect ≠ .physicalIo ∧ action.effect ≠ .configuration ∧ (action.untrusted → action.effect ≠ .keyUse)) ∧
      ∀ mandate now decision, evaluateSpend check policy mandate action now = .ok decision →
        decision.outcome = .allow → ∃ terms, action.terms = some terms ∧ mandate.authority = .commit ∧
          mandate.Covers terms ∧ mandate.permitsCommit terms now = .ok false ∧
          terms.price.atomic ≤ mandate.approvalAbove.atomic := by
  have hjudge : ∀ base, evaluate check policy action = .ok base → base.outcome = (verdict policy action).1 := by
    intro base hba
    unfold evaluate at hba
    rw [hpolicy, haction] at hba
    cases hba
    rfl
  refine ⟨?_, ?_, ?_, ?_⟩
  · intro origins hsub before after hpr hblocked hafter hal
    obtain ⟨-, hverdict, -⟩ := evaluate_ok hafter (by rw [hal]; nofun)
    exact hblocked ((hjudge before hpr).trans (verdict_mono hpolicy hsub (hverdict ▸ hal)))
  · intro mandate now origins hsub before after hpr hblocked hafter hal
    obtain ⟨hverdict, terms, hterms, hvalid, hpermits⟩ := evaluateSpend_allow hafter hal
    obtain ⟨-, hpr⟩ := failIf_then.mp hpr
    obtain ⟨base, hba, hpr⟩ := seq_ok.mp hpr
    have hba := (hjudge base hba).trans (verdict_mono hpolicy hsub hverdict)
    rw [if_neg (by rw [hba]; nofun), show action.terms = some terms from hterms] at hpr
    simp only [hvalid, judgeSpend, hpermits] at hpr
    cases hpr
    exact hblocked hba
  · intro decision hdecision hal
    rw [hjudge decision hdecision] at hal
    obtain ⟨hphysical, hconfig, hkey, -⟩ := verdict_allow.mp hal
    refine ⟨hphysical, hconfig, fun huntrusted heffect => hkey huntrusted ?_⟩
    rw [heffect]
    rfl
  · intro mandate now decision hdecision hal
    obtain ⟨-, terms, hterms, -, hpermits⟩ := evaluateSpend_allow hdecision hal
    obtain ⟨hcov, hnds, hauthority⟩ := Mandate.permitsAt_ok hpermits
    exact ⟨terms, hterms, hauthority rfl, hcov, hpermits, not_lt.mp (of_decide_eq_false hnds.symm)⟩

/-- A purchase on the Agent's own initiative, and a mandate that leaves every price to it. -/
def purchase : Action := ⟨.spend, "translate", none, [], some Negotiation.dealTerms, none⟩

def openMandate : Mandate := { Negotiation.dealMandate with approvalAbove := Negotiation.dealMandate.maxTotal }

theorem allow_monotone_purchase :
    (evaluateSpend (fun _ => .ok ()) ⟨.message, .spend⟩ openMandate purchase 10).toOption.map Decision.outcome
        = some .allow ∧
      ∀ decision, evaluateSpend (fun _ => .ok ()) ⟨.message, .spend⟩ openMandate purchase 10 = .ok decision →
        decision.outcome = .allow → Negotiation.dealTerms.price.atomic ≤ openMandate.approvalAbove.atomic := by
  refine ⟨by decide +kernel, fun decision hdecided hal => ?_⟩
  have hpol : (⟨.message, .spend⟩ : Policy).validate = .ok () := by decide +kernel
  have hact : purchase.validate (fun _ => .ok ()) = .ok () := by decide +kernel
  obtain ⟨terms, htms, -, -, -, hprice⟩ := (allow_monotone hpol hact).2.2.2 _ 10 decision hdecided hal
  cases htms
  exact hprice

end Messenger.Firewall
