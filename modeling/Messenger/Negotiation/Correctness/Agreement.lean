import Messenger.Negotiation.Sound

/-!
# `Negotiation.Correctness.Agreement` — a commitment is what was agreed, and what was permitted

Whatever happened to a negotiation before, a finalized one stands for the purchase the two parties
agreed on, with the bound counterparty, on the bound network and inside the mandate; and where the
price is above the approval point, the owner has approved exactly those terms in the generation that
was finalized.

The state is `Desk.run_sound`. What is added here is where an approval comes from: the only event
that makes one is the owner's own operation, with that digest (`approved_by_owner`).
-/

set_option linter.dupNamespace false

namespace Messenger.Negotiation

open Lib Eventlog

/-- The approval the object or its record carries. -/
def Desk.Approves (d : Desk) (approval : Approval) : Prop :=
  d.negotiation.approval = some approval
    ∨ ∃ s, lookup d.negotiation.id d.books.snapshots = some s ∧ s.approval = some approval

/-- The event is the owner approving these terms. -/
def Event.Approves (event : Event) (digest : Terms) : Prop := ∃ now f, event = .act (.approveByOwner digest now) f

/-- An operation carries an approval over or is the owner's. -/
theorem Moves.approval {n next : Negotiation} {op : Op} {p : Plan} (hmv : Moves n op p)
    (hnx : p.next = some next) {approval : Approval} (happ : next.approval = some approval) :
    n.approval = some approval ∨ ∃ now, op = .approveByOwner approval.termsDigest now := by
  cases hmv with
  | stay => cases hnx
  | approve hst htms =>
    cases hnx
    cases happ
    exact .inr ⟨_, rfl⟩
  | reopen hst =>
    cases hnx
    cases happ
  | table | agree | canonicalize | settle | finalize =>
    cases hnx
    exact .inl happ

namespace Desk

/-- **One event** carries approvals over or is the owner's. -/
theorem step_approves {d : Desk} (hd : d.Sound) {event : Event} {approval : Approval}
    (h : (d.step event).Approves approval) : d.Approves approval ∨ event.Approves approval.termsDigest := by
  have hid : (d.step event).negotiation.id = d.negotiation.id := congrArg Prod.fst (hd.step event).2
  unfold Approves at h
  rw [hid] at h
  rcases d.step_cases event with ⟨op, f, p, next, rfl, hpl, hnx, hcar⟩ | ⟨hown, hobj⟩
  · -- wherever the approval is now, the object the plan left carries it, or the record already did
    have hcarried : next.approval = some approval ∨ d.Approves approval := by
      rcases h with hobj | ⟨s, hget, hs⟩
      · exact .inl ((congrArg Snapshot.approval hcar.content).symm.trans hobj)
      rcases hcar.2 with hsm | hsto
      · rw [hsm] at hget
        exact .inr (.inr ⟨s, hget, hs⟩)
      rw [hsto] at hget
      rcases lookup_insert_cases hget with ⟨-, rfl⟩ | hget
      · exact .inl hs
      · exact .inr (.inr ⟨s, hget, hs⟩)
    rcases hcarried with hnextA | hpre
    · rcases (plan_moves hpl).approval hnx hnextA with hpre | ⟨now, rfl⟩
      · exact .inl (.inl hpre)
      · exact .inr ⟨now, f, rfl⟩
    · exact .inl hpre
  · left
    rw [hown] at h
    rcases h with happ | hrec
    · rcases hobj with hsm | hget
      · exact .inl ((congrArg Snapshot.approval hsm).symm.trans happ)
      · exact .inr ⟨_, hget, happ⟩
    · exact .inr hrec

section
variable {f : Faults} {id : String} {conversationID : ConversationID} {counterparty : AgentID} {mandate : Mandate}
  {network : Option Network} {budget : Bool} {now : Time} {books : Books} {d : Desk}

/-- **Every approval is the owner's.** -/
theorem approved_by_owner (h : new f id conversationID counterparty mandate network budget now books = .ok d)
    (events : List Event) {approval : Approval} (happroves : (run step d events).Approves approval) :
    ∃ event ∈ events, event.Approves approval.termsDigest := by
  induction events using List.reverseRecOn with
  | nil =>
    -- a new negotiation carries no approval, and neither does its record
    obtain ⟨n, hbeg, rfl, -⟩ := new_ok h
    have hno : n.approval = none := by
      unfold start at hbeg
      simp only [seq_ok] at hbeg
      obtain ⟨_, -, _, -, _, -, _, -, _, -, hend⟩ := hbeg
      cases hend
      rfl
    rcases happroves with hobj | ⟨s, hget, hs⟩
    · cases hno.symm.trans hobj
    have hco : some n.content = some s := (lookup_insert books.snapshots).symm.trans hget
    cases hco
    cases hno.symm.trans hs
  | append_singleton events event ih =>
    rw [run_append] at happroves
    rcases step_approves (run_sound h events).1 happroves with hpre | hnow
    · obtain ⟨event', hmem, happroves'⟩ := ih hpre
      exact ⟨event', List.mem_append_left _ hmem, happroves'⟩
    · exact ⟨event, List.mem_append_right _ (List.mem_singleton.mpr rfl), hnow⟩

/-- **A finalized negotiation is what was agreed and what was permitted.** Whatever operations,
    failed writes, restores and foreign activity came before: the quote behind the commitment says
    exactly the agreed terms, with the counterparty and on the network the negotiation was started
    with, inside the mandate it was started under, which may commit; and a price above the approval
    point was approved by the owner, in this generation and under this mandate, by an operation of
    this run. -/
theorem finalized_as_agreed (h : new f id conversationID counterparty mandate network budget now books = .ok d)
    (events : List Event) (hfinal : (run step d events).negotiation.state = .finalized) :
    ∃ (n : Negotiation) (terms : Terms) (quote : VerifiedAcceptedQuote),
      (run step d events).negotiation = n ∧ n.agreed = some terms ∧ n.quote = some quote
        ∧ quote.terms = terms
        ∧ terms.providerAgentID = counterparty
        ∧ quote.network = network ∧ some terms.price.asset.network = network
        ∧ n.mandate = mandate ∧ mandate.Covers terms ∧ mandate.authority = .commit
        ∧ (mandate.approvalAbove.atomic < terms.price.atomic →
            (∃ approval, n.approval = some approval ∧ approval.termsDigest = terms
              ∧ approval.generation = n.generation ∧ approval.mandateDigest = mandate)
            ∧ ∃ event ∈ events, event.Approves terms) := by
  obtain ⟨hsd, hidn⟩ := run_sound h events
  obtain ⟨terms, quote, hagr, hquo⟩ := hsd.object.final hfinal
  obtain ⟨hbd, hcov, hnds⟩ := hsd.object.agreed terms hagr
  obtain ⟨n, hbeg, rfl, -⟩ := new_ok h
  -- what the negotiation was started with is what it still has
  obtain ⟨hcp, hman, hnet⟩ :
      n.counterpartyAgentID = counterparty ∧ n.mandate = mandate ∧ some n.network = network := by
    unfold start at hbeg
    simp only [seq_ok] at hbeg
    obtain ⟨_, -, bound, hbound, _, -, _, -, _, -, hend⟩ := hbeg
    cases hend
    cases network with
    | none => cases hbound
    | some domain => exact ⟨rfl, rfl, congrArg some (Negotiation.validateNetworkDomain_some hbound)⟩
  simp only [Snapshot.identity, Prod.mk.injEq] at hidn
  obtain ⟨-, -, hagt, hauthorises, hdom⟩ := hidn
  have hman' : (run step (kept ⟨n, books⟩) events).negotiation.content.mandateDigest = mandate :=
    hauthorises.trans hman
  have hnet' : some (run step (kept ⟨n, books⟩) events).negotiation.content.network = network :=
    (congrArg some hdom).trans hnet
  rw [hman'] at hcov hnds
  refine ⟨_, terms, quote, rfl, hagr, hquo.evidence, hquo.quoted, ?_, ?_, ?_, hman', hcov, ?_, ?_⟩
  · exact hbd.provider.trans (hagt.trans hcp)
  · exact hquo.network.trans hnet'
  · exact (congrArg some hbd.network).trans hnet'
  · rw [← hman']
    exact hquo.authority
  intro habove
  obtain ⟨approval, happ, htms, hgen, hdig⟩ :=
    hquo.approved (hnds.trans (decide_eq_true habove))
  refine ⟨⟨approval, happ, htms, hgen, hdig.trans hman'⟩, ?_⟩
  rw [← htms]
  exact approved_by_owner h events (.inl happ)

end

/-- The sample exchange: its price is above the approval point, and it is finalized. -/
theorem deal_as_agreed :
    ∃ (n : Negotiation) (terms : Terms) (quote : VerifiedAcceptedQuote),
      (run step (kept ⟨dealStart, dealBooks⟩) (dealOps.map fun op => .act op {})).negotiation = n
        ∧ n.agreed = some terms ∧ n.quote = some quote
        ∧ quote.terms = terms
        ∧ terms.providerAgentID = ⟨2⟩
        ∧ quote.network = some dealNetwork ∧ some terms.price.asset.network = some dealNetwork
        ∧ n.mandate = dealMandate ∧ dealMandate.Covers terms ∧ dealMandate.authority = .commit
        ∧ (dealMandate.approvalAbove.atomic < terms.price.atomic →
            (∃ approval, n.approval = some approval ∧ approval.termsDigest = terms
              ∧ approval.generation = n.generation ∧ approval.mandateDigest = dealMandate)
            ∧ ∃ event ∈ dealOps.map fun op => Event.act op {}, event.Approves terms) :=
  finalized_as_agreed deal_new _ (by decide +kernel)

end Desk

end Messenger.Negotiation
