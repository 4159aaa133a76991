import Messenger.Negotiation.Negotiation

/-!
# `Moves` — what a transition of a negotiation can be

The one case analysis of the methods: `Moves n p` lists the plans `p` an operation can have in `n`,
each with what the operation's checks established, and `plan_moves` says that the list is complete.
Invariants are proved from it.
-/

set_option linter.dupNamespace false

namespace Messenger.Negotiation

open Negotiation

namespace Negotiation

/-- Bargaining is possible. -/
structure Open (n : Negotiation) : Prop where
  usable : n.poisoned = false
  unsettled : n.settled = false
  uncanonical : n.state ≠ .canonicalizationPending
  unagreed : n.state ≠ .intentAgreed

end Negotiation

/-- Terms that may be put on the table of an exchange: complete, with its counterparty and on its
    network. -/
structure Terms.Bound (terms : Terms) (counterparty : AgentID) (network : Network) : Prop where
  valid : terms.validate = .ok ()
  provider : terms.providerAgentID = counterparty
  network : terms.price.asset.network = network

/-- The owner approved exactly these terms, in this generation, under this mandate. -/
def Snapshot.Approved (s : Snapshot) (terms : Terms) : Prop :=
  ∃ approval, s.approval = some approval ∧ approval.termsDigest = terms ∧ approval.generation = s.generation
    ∧ approval.mandateDigest = s.mandateDigest

open Negotiation in
/-- **The transitions, each with what its checks established.** -/
inductive Moves (n : Negotiation) : Op → Plan → Prop where
  | stay {op : Op} : Moves n op .stay
  | table {op : Op} {terms : Terms} {state : State} {counteroffers : Nat} (hopen : n.Open)
    (hbound : terms.Bound n.counterpartyAgentID n.network)
      (hstate : state = .proposalPending ∨ state = .counterproposalPending) :
      Moves n op (.save { n with onTable := some terms, counteroffers, state })
  | agree {terms : Terms} {now : Time} {needsApproval : Bool} (hopen : n.Open) (hterms : n.onTable = some terms)
      (hpermits : n.mandate.permits terms now = .ok needsApproval) :
      Moves n (.acceptIntent now)
        (.hold terms.price { n with agreed := some terms, needsApproval, state := .intentAgreed })
  | reopen {reason : String} {now : Time} (hstate : n.state = .intentAgreed) :
      Moves n (.reopen reason now) (.free { n with
        agreed := none, needsApproval := false, approval := none, generation := succ64 n.generation,
        state := .discussing } (.ok ()))
  | approve {terms : Terms} {now : Time} (hstate : n.state = .intentAgreed)
      (hterms : n.agreed = some terms) : Moves n (.approveByOwner terms now)
        (.save { n with approval := some ⟨terms, n.generation, n.mandate, now.toNat⟩ })
  | canonicalize {now : Time} (husable : n.poisoned = false) (hstate : n.state = .intentAgreed)
      (hauthority : n.mandate.authority = .commit) (hbudget : n.budget = true)
      (happroved : n.needsApproval = true → ∃ terms, n.agreed = some terms ∧ n.content.Approved terms) :
      Moves n (.beginCanonicalization now) (.save { n with state := .canonicalizationPending })
  | settle {op : Op} {state : State} {reason : String} {result : Except Failure Unit} (hsettled : n.settled = false)
      (hstate : state = .rejected ∨ state = .withdrawn ∨ state = .expired) :
      Moves n op (n.settle state reason result)
  | finalize {resolver : Option QuoteResolver} {commitment : Option Digest} {quote : VerifiedAcceptedQuote}
    {terms : Terms} {now : Time}
      {needsApproval : Bool} (husable : n.poisoned = false) (hstate : n.state = .canonicalizationPending)
      (hbudget : n.budget = true) (hterms : n.agreed = some terms)
      (hsome : commitment.isSome) (hcommitment : quote.commitment = commitment) (hquote : quote.terms = terms)
      (hnetwork : quote.network = some n.network) (hvalid : quote.validate = .ok ())
      (happroved : n.needsApproval = true → n.content.Approved terms)
      (hpermits : n.mandate.permitsCommit terms now = .ok needsApproval) :
      Moves n (.finalize resolver commitment now)
        (.spend { n with commitment, quote := some quote, state := .finalized })

section
variable {n : Negotiation} {p : Plan}

namespace Negotiation

variable {u : Unit}

theorem usable_ok : n.usable = .ok u ↔ n.poisoned = false := by
  unfold usable
  cases n.poisoned <;> simp

theorem opens_ok {now : Time} (h : n.opens now = .ok u) : n.Open := by
  unfold opens at h
  simp only [seq_ok, usable_ok, failIf_ok, Bool.not_eq_true] at h
  obtain ⟨_, huse, _, hset, _, hcan, _, hagr, -⟩ := h
  exact ⟨huse, hset, hcan, hagr⟩

theorem validateNetworkDomain_some {network bound : Network}
    (h : validateNetworkDomain (some network) = .ok bound) : bound = network := by
  unfold validateNetworkDomain at h
  simp only [seq_ok] at h
  obtain ⟨_, -, hbd⟩ := h
  cases hbd
  rfl

theorem bindsNetwork_ok {terms : Terms} (h : n.bindsNetwork terms = .ok u) :
    terms.price.asset.network = n.network := by
  unfold bindsNetwork at h
  simp only [seq_ok, failIf_ok, not_not] at h
  obtain ⟨bound, hbd, hnet⟩ := h
  rw [hnet, validateNetworkDomain_some hbd]

theorem approvalStands_ok (h : n.approvalStands = .ok u) :
    ∃ terms, n.agreed = some terms ∧ n.content.Approved terms := by
  unfold approvalStands at h
  split at h
  · cases h
  · cases h
  · next approval cur happ hagr =>
    simp only [seq_ok, failIf_ok, not_not] at h
    obtain ⟨_, -, _, htms, _, hgen, _, -, hman⟩ := h
    exact ⟨cur, hagr, approval, happ, htms, hgen, hman⟩

theorem approved_ok (h : n.approved = .ok u) (hnds : n.needsApproval = true) :
    ∃ terms, n.agreed = some terms ∧ n.content.Approved terms := by
  unfold approved at h
  rw [if_pos hnds] at h
  exact approvalStands_ok h

end Negotiation

variable {terms : Terms} {now : Time}

theorem Mandate.permitsAt_valid {m : Mandate} {requireCommit needs : Bool}
    (h : m.permitsAt terms now requireCommit = .ok needs) : terms.validate = .ok () := by
  unfold Mandate.permitsAt at h
  simp only [seq_ok] at h
  obtain ⟨_, -, _, hval, -⟩ := h
  exact hval

open Negotiation

theorem receiveProposal_moves (h : n.receiveProposal terms now = .ok p) : Moves n (.receiveProposal terms now) p := by
  unfold receiveProposal bindsCounterparty at h
  simp only [seq_ok, failIf_ok, not_not] at h
  obtain ⟨_, hop, _, hval, _, hprovider, _, hnet, hend⟩ := h
  cases hend
  exact .table (opens_ok hop) ⟨hval, hprovider, bindsNetwork_ok hnet⟩ (.inl rfl)

theorem counter_moves (h : n.counter terms now = .ok p) : Moves n (.counter terms now) p := by
  unfold counter bindsCounterparty at h
  rw [seq_ok] at h
  obtain ⟨_, hop, hre⟩ := h
  have hop := opens_ok hop
  split_ifs at hre with hexhausted
  · cases hre
    exact .settle hop.unsettled (.inr (.inl rfl))
  simp only [seq_ok, failIf_ok, not_not] at hre
  obtain ⟨_, hpmt, _, hprovider, _, hnet, hend⟩ := hre
  cases hend
  exact .table hop ⟨Mandate.permitsAt_valid hpmt, hprovider, bindsNetwork_ok hnet⟩ (.inr rfl)

theorem acceptIntent_moves (h : n.acceptIntent now = .ok p) : Moves n (.acceptIntent now) p := by
  unfold acceptIntent at h
  simp only [seq_ok] at h
  obtain ⟨_, -, _, hop, htable⟩ := h
  cases htms : n.onTable with
  | none =>
    rw [htms] at htable
    cases htable
  | some terms =>
    rw [htms] at htable
    unfold acceptTable at htable
    rw [seq_ok] at htable
    obtain ⟨needsApproval, hpmt, hend⟩ := htable
    cases hend
    exact .agree (opens_ok hop) htms hpmt

theorem reopen_moves {reason : String} (h : n.reopen reason now = .ok p) : Moves n (.reopen reason now) p := by
  unfold reopen at h
  simp only [seq_ok, failIf_ok, not_not] at h
  obtain ⟨_, hst, _, -, _, -, hend⟩ := h
  cases hend
  exact .reopen hst

theorem approveByOwner_moves {digest : Terms} (h : n.approveByOwner digest now = .ok p) :
    Moves n (.approveByOwner digest now) p := by
  unfold approveByOwner at h
  simp only [seq_ok, failIf_ok, not_not] at h
  obtain ⟨_, hst, _, -, _, -, htms⟩ := h
  cases hagr : n.agreed with
  | none =>
    rw [hagr] at htms
    cases htms
  | some terms =>
    rw [hagr] at htms
    unfold approveTerms at htms
    simp only [seq_ok, failIf_ok, not_not] at htms
    obtain ⟨_, -, _, hdig, _, -, hend⟩ := htms
    cases hend
    rw [hdig]
    exact .approve hst hagr

theorem beginCanonicalization_moves (h : n.beginCanonicalization now = .ok p) :
    Moves n (.beginCanonicalization now) p := by
  unfold beginCanonicalization at h
  simp only [seq_ok, usable_ok, failIf_ok, not_not] at h
  obtain ⟨_, huse, _, hst, _, hauth, _, hbud, _, -, _, hapd, hend⟩ := h
  cases hend
  exact .canonicalize huse hst hauth hbud (approved_ok hapd)

theorem finalize_moves {resolver : Option QuoteResolver} {cmt : Option Digest}
    (h : n.finalize resolver cmt now = .ok p) : Moves n (.finalize resolver cmt now) p := by
  unfold finalize at h
  simp only [seq_ok, usable_ok, failIf_ok, not_not] at h
  obtain ⟨_, huse, _, hst, _, -, _, -, _, hbud, hend⟩ := h
  have hset : n.settled = false := by
    unfold settled
    rw [hst]
    rfl
  split at hend
  · -- the mandate ran out first
    cases hend
    exact .settle hset (.inr (.inr rfl))
  simp only [seq_ok, failIf_ok] at hend
  obtain ⟨_, hso, hend⟩ := hend
  have hso : cmt.isSome := Option.isSome_iff_ne_none.mpr fun hno => hso (Option.isNone_iff_eq_none.mpr hno)
  cases hagr : n.agreed with
  | none =>
    rw [hagr] at hend
    cases hend
  | some terms =>
    rw [hagr] at hend
    rw [finalizeAgreed] at hend
    split at hend
    · cases hend
      exact .settle hset (.inl rfl)
    · cases hend
    · next quote hquo =>
      obtain ⟨hcmt, htms, hnet, hval⟩ := resolveMatchingAcceptedQuote_ok hquo
      unfold finalizeQuote at hend
      rw [seq_ok] at hend
      obtain ⟨_, hapd, hend⟩ := hend
      split at hend
      · cases hend
        exact .settle hset (.inl rfl)
      · next needsApproval hpmt =>
        cases hend
        rw [htms] at hpmt
        refine .finalize huse hst hbud hagr hso hcmt htms hnet hval (fun hnds => ?_) hpmt
        obtain ⟨cur, hcur, hdecided⟩ := approved_ok hapd hnds
        rw [hagr] at hcur
        cases hcur
        exact hdecided

theorem expire_moves (h : n.expire now = .ok p) : Moves n (.expire now) p := by
  unfold expire at h
  split_ifs at h with hset
  · cases h
    exact .stay
  split at h
  · cases h
    exact .stay
  · cases h
    exact .settle (Bool.eq_false_iff.mpr hset) (.inr (.inr rfl))

theorem unsettled_of_agreed (h : n.state = .intentAgreed) : n.settled = false := by
  unfold settled
  rw [h]
  rfl

theorem unfinalized_of_unsettled (h : n.settled = false) : n.state ≠ .finalized := by
  intro hfin
  unfold settled at h
  rw [hfin] at h
  cases h

/-- **Every plan is one of the transitions.** -/
theorem plan_moves {op : Op} (h : op.plan n = .ok p) : Moves n op p := by
  cases op with
  | receiveProposal terms now => exact receiveProposal_moves h
  | counter terms now => exact counter_moves h
  | acceptIntent now => exact acceptIntent_moves h
  | reopen reason now => exact reopen_moves h
  | approveByOwner digest now => exact approveByOwner_moves h
  | beginCanonicalization now => exact beginCanonicalization_moves h
  | finalize resolver cmt now => exact finalize_moves h
  | expire now => exact expire_moves h
  | rejectIntent reason =>
    obtain ⟨_, hset, hend⟩ := seq_ok.mp h
    cases hend
    exact .settle (Bool.eq_false_iff.mpr (failIf_ok.mp hset)) (.inl rfl)
  | withdraw reason =>
    obtain ⟨_, hset, hend⟩ := seq_ok.mp h
    cases hend
    exact .settle (Bool.eq_false_iff.mpr (failIf_ok.mp hset)) (.inr (.inl rfl))
  | denyByOwner reason =>
    obtain ⟨hst, hend⟩ := failIf_then.mp h
    cases hend
    exact .settle (unsettled_of_agreed (not_not.mp hst)) (.inl rfl)

end

end Messenger.Negotiation
