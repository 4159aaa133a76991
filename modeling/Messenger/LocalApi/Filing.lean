import Messenger.LocalApi.Server

/-!
# `LocalApi.Filing` — when the record of a spend can be filed

A spend's price is held before its record is filed, so whether the filing can still fail matters. A
spend that was judged passes every check of the record but two: the time must not be zero, and an
owner's list of undecided requests must have room (`CanFile`). What the firewall gives as the reason
is short enough to be recorded, and differs from the reason under which the policy's own grants are
recorded (`evaluateSpend_asks`), so the reason tells the two kinds of record apart.
-/

namespace Messenger.LocalApi

open Lib
open Negotiation (Mandate MandateID)
open Firewall (Action ActionID Decision Policy Origin evaluateSpend evaluate_ok evaluateSpend_ok
  judgeSpend verdict)
open Commerce

/-! ## Reasons -/

/-- A reason an owner can be asked with. It is not the one the policy's own grants are recorded
    with. -/
@[mk_iff]
structure Asks (reason : String) : Prop where
  nonempty : reason ≠ ""
  bounded : reason.utf8ByteSize ≤ maxApprovalSummaryBytes
  manual : reason ≠ automaticSpendReason

instance (reason : String) : Decidable (Asks reason) :=
  decidable_of_iff' _ (asks_iff reason)

variable {policy : Policy} {action : Action} {now : Time} {check : Firewall.PhysicalOperation → Except Failure Unit}

theorem verdict_asks (h : (verdict policy action).1 = .requireOwnerApproval) : Asks (verdict policy action).2 := by
  unfold verdict at h ⊢
  split_ifs at h ⊢ <;> decide

/-- A refusal of the mandate, quoted. -/
theorem asks_quoted {e : Failure} (h : e.text.utf8ByteSize ≤ 64) :
    Asks ("outside what the owner authorised in advance: " ++ e.text) := by
  refine ⟨?_, ?_, ?_⟩
  · intro hemp
    have hlist := congrArg String.toList hemp
    simp at hlist
  · rw [String.utf8ByteSize_append]
    have hquo : "outside what the owner authorised in advance: ".utf8ByteSize ≤ 64 := by decide
    have hrm : 64 + 64 ≤ maxApprovalSummaryBytes := by decide
    omega
  intro hsm
  have hlist := congrArg String.toList hsm
  simp [automaticSpendReason] at hlist

theorem evaluateSpend_asks {mandate : Mandate}
    {decision : Decision} (h : evaluateSpend check policy mandate action now = .ok decision)
    (hrfu : decision.outcome ≠ .refuse) (hal : decision.outcome ≠ .allow) : Asks decision.reason := by
  obtain ⟨-, -, -, terms, base, -, -, hba, href, rfl⟩ := evaluateSpend_ok h hrfu
  obtain ⟨-, hou, hrsn, -⟩ := evaluate_ok hba href
  unfold judgeSpend at hal ⊢
  cases hpmt : mandate.permitsCommit terms now with
  | error e =>
    obtain ⟨text, rfl, hsho⟩ := mandate.permitsAt_terse terms now true e hpmt
    exact asks_quoted hsho
  | ok personal =>
    cases personal with
    | true =>
      show Asks "above the amount the owner chose to decide personally"
      decide
    | false =>
      simp only [hpmt] at hal ⊢
      rw [hrsn]
      refine verdict_asks ?_
      rw [hou] at href hal
      cases hverdict : (verdict policy action).1 with
      | allow => exact absurd hverdict hal
      | requireOwnerApproval => rfl
      | refuse => exact absurd hverdict href

/-! ## The checks of the record -/

theorem validateApprovalOrigins_ok {origins : List Origin} (h : ∀ origin ∈ origins, origin.validate = .ok ()) :
    validateApprovalOrigins origins = .ok () := by
  induction origins with
  | nil => rfl
  | cons origin origins ih =>
    have hki : validateApprovalOrigin origin = .ok () := by
      obtain ⟨_, hki, -⟩ := seq_ok.mp (h origin (List.mem_cons_self ..))
      exact failIf_ok.mpr (failIf_ok.mp hki)
    exact seq_ok.mpr ⟨(), hki, ih fun o ho => h o (List.mem_cons_of_mem _ ho)⟩

/-- **The record of a judged spend passes its checks** under any reason that fits, unless the time
    is zero. -/
theorem spendRequest_valid {mandate : Mandate}
    {mid : MandateID} {id : ActionID} {decision : Decision} {reason : String}
    (h : evaluateSpend check policy mandate action now = .ok decision) (hrfu : decision.outcome ≠ .refuse)
    (hnem : reason ≠ "") (hbnd : reason.utf8ByteSize ≤ maxApprovalSummaryBytes) (hti : unixSeconds now ≠ 0) :
    validateApprovalRequest check (spendRequest action id decision reason mid now) = .ok () := by
  obtain ⟨heff, hval, hprv, terms, -, htms, hterms, -, -, -⟩ := evaluateSpend_ok h hrfu
  simp only [Action.validate, seq_ok, failIf_ok] at hval
  obtain ⟨_, -, _, hsu, _, hcnt, _, -, _, -, _, -, horigin⟩ := hval
  have hsrt : action.provenance.Perm action.derivedFrom := List.perm_insertionSort _ _
  have hcited : ∀ origin ∈ decision.provenance, origin.validate = .ok () := by
    rw [hprv]
    exact fun origin ho => Firewall.validateOrigins_ok horigin origin (hsrt.mem_iff.mp ho)
  have hlen : decision.provenance.length ≤ maxApprovalOrigins := by
    rw [hprv, hsrt.length_eq]
    exact Nat.not_lt.mp hcnt
  have heffect : ¬(action.effect.name = "" ∨ 64 < action.effect.name.utf8ByteSize) := by rw [heff]; decide
  -- the checks in the order of the source
  refine failIf_then.mpr ⟨heffect, ?_⟩
  refine failIf_then.mpr ⟨hsu, ?_⟩
  refine failIf_then.mpr ⟨not_or.mpr ⟨hnem, Nat.not_lt.mpr hbnd⟩, ?_⟩
  refine failIf_then.mpr ⟨hti, ?_⟩
  refine failIf_then.mpr ⟨Nat.not_lt.mpr hlen, ?_⟩
  refine seq_ok.mpr ⟨(), validateApprovalOrigins_ok hcited, ?_⟩
  refine failIf_then.mpr ⟨fun hno => ?_, ?_⟩
  · exact absurd (htms.symm.trans hno.2) (Option.some_ne_none _)
  have hbuy : Negotiation.validateTerms (some terms) = .ok () := hterms
  refine seq_ok.mpr ⟨(), (congrArg Negotiation.validateTerms htms).trans hbuy, ?_⟩
  refine failIf_then.mpr ⟨fun hphysical => ?_, ?_⟩
  · exact absurd (heff.symm.trans hphysical) (by decide)
  refine failIf_then.mpr ⟨fun hno => absurd hno.2 (Option.some_ne_none _), ?_⟩
  exact failIf_ok.mpr fun hoth => hoth.1 heff

/-! ## Filing -/

/-- Nothing is recorded about the action, the clock says something, and the owner's list has room. -/
def CanFile (env : Env) (s : Store) (id : ActionID) (now : Time) : Prop :=
  lookup id s.approvals = none ∧ unixSeconds now ≠ 0 ∧
    countPendingApprovals env s (unixSeconds now) < maxPendingActions

instance (env : Env) (s : Store) (id : ActionID) (now : Time) : Decidable (CanFile env s id now) :=
  inferInstanceAs (Decidable (lookup id s.approvals = none ∧ unixSeconds now ≠ 0 ∧
    countPendingApprovals env s (unixSeconds now) < maxPendingActions))

theorem CanFile.congr {env : Env} {s t : Store} {id : ActionID} (ht : t.approvals = s.approvals)
    (h : CanFile env s id now) : CanFile env t id now := by
  unfold CanFile countPendingApprovals readableApprovals readApproval at h ⊢
  rw [ht]
  exact h

section
variable {env : Env} {s : Store} {r : ApprovalRequest} {m : Durable Store Failure Approval} {Full : Prop} {a : Approval}

/-- What is not filed could not be. -/
theorem not_canFile (hval : unixSeconds now ≠ 0 → validateApprovalRequest env.check r = .ok ())
    (hfu : Full → maxPendingActions ≤ countPendingApprovals env s (unixSeconds now))
    (hstop : validateApprovalRequest env.check r = .ok () → lookup r.actionID s.approvals = none → Full) :
    ¬CanFile env s r.actionID now :=
  fun ⟨habs, hti, hrm⟩ => absurd (hfu (hstop (hval hti) habs)) (not_le.mpr hrm)

/-- A filing and the answer to it. -/
theorem files_ends {g : Approval → Response} {Q : Except Failure Response → Store → Prop} (h : Files env r m Full a s)
    (hstop : (validateApprovalRequest env.check r = .ok () → lookup r.actionID s.approvals = none → Full) → ∀ o, Q o s)
    (hfl : lookup r.actionID s.approvals = none → ∀ o, Q o (Medium.put s (.approval a))) :
    (Lib.Proc.region m >>= fun a => pure (g a)).run.Ends Q s := by
  rcases h with ⟨o, hrun, hcannot⟩ | ⟨habs, hrun⟩
  · cases o with
    | ok a => exact ends_regionBind hrun (hstop hcannot _)
    | error e => exact ends_regionError hrun (hstop hcannot _)
  · exact ends_regionBind hrun (hfl habs _)

end

end Messenger.LocalApi
