import Messenger.Negotiation.Desk

/-!
# `Negotiation.Sound` — what every negotiation is, in memory and in the store

`Snapshot.Sound` is the invariant of the state machine: the terms on the table and the agreed terms
belong to this exchange, the agreed terms are inside the mandate, an approval is of the current
generation, and a finalized exchange has the quote its commitment names. It is a predicate on the
content of an object, so it is the same before a snapshot and after a restore.

- **One transition** (`Moves.sound`): the object a plan leaves is sound if the one it started from
  was.
- **One event** (`Desk.Sound.step`): the object and what the store holds of it stay sound, whichever
  writes fail.
- **A sound snapshot is valid** (`Sound.validate`), so the store's own check never refuses one.
-/

set_option linter.dupNamespace false

namespace Messenger.Negotiation

open Lib Eventlog

/-! ## Terms inside a mandate -/

/-- Terms a mandate covers: what is bought, in which asset, and for no more than its ceiling. -/
structure Mandate.Covers (m : Mandate) (terms : Terms) : Prop where
  capabilityClass : terms.capabilityClass = m.capabilityClass
  asset : terms.price.asset = m.maxTotal.asset
  ceiling : terms.price.atomic ≤ m.maxTotal.atomic

/-- The owner decides personally about a price above the approval point. -/
def Mandate.asks (m : Mandate) (terms : Terms) : Bool := decide (m.approvalAbove.atomic < terms.price.atomic)

theorem Mandate.permitsAt_ok {m : Mandate} {terms : Terms} {now : Time} {requireCommit needs : Bool}
    (h : m.permitsAt terms now requireCommit = .ok needs) :
    m.Covers terms ∧ needs = m.asks terms ∧ (requireCommit = true → m.authority = .commit) := by
  unfold Mandate.permitsAt at h
  simp only [seq_ok, failIf_ok, not_not] at h
  obtain ⟨_, -, _, -, _, -, _, hcmm, _, hcls, _, hast, within, hwi, _, hce, _, -, _, -, under, hunder, hnds⟩ := h
  obtain ⟨-, -, -, rfl⟩ := Money.atMost_ok.mp hwi
  obtain ⟨-, -, -, rfl⟩ := Money.atMost_ok.mp hunder
  cases hnds
  refine ⟨⟨hcls, hast, of_decide_eq_true hce⟩, ?_, fun hrequest => ?_⟩
  · unfold Mandate.asks
    rw [← decide_not]
    simp only [Nat.not_le]
  · by_contra hauth
    exact hcmm ⟨hrequest, hauth⟩

/-! ## The invariant -/

namespace Snapshot

/-- A finalized exchange has what its commitment names: a valid quote for the agreed terms, read on
    the bound network, under an authority to commit, and approved by the owner if the terms needed
    that. -/
structure Final (s : Snapshot) (terms : Terms) (quote : VerifiedAcceptedQuote) : Prop where
  evidence : s.quote = some quote
  commitment : s.commitment.isSome ∧ quote.commitment = s.commitment
  quoted : quote.terms = terms
  network : quote.network = some s.network
  valid : quote.validate = .ok ()
  authority : s.mandateDigest.authority = .commit
  approved : s.needsApproval = true → s.Approved terms

/-- The invariant of a negotiation. -/
structure Sound (s : Snapshot) : Prop where
  id : s.id ≠ "" ∧ s.id.utf8ByteSize ≤ 128
  mandate : s.mandateDigest.validate = .ok ()
  network : s.network.validate = .ok ()
  table : ∀ terms, s.onTable = some terms → terms.Bound s.counterpartyAgentID s.network
  agreed : ∀ terms, s.agreed = some terms →
    terms.Bound s.counterpartyAgentID s.network ∧ s.mandateDigest.Covers terms ∧
      s.needsApproval = s.mandateDigest.asks terms
  agreement : s.state = .intentAgreed ∨ s.state = .canonicalizationPending → s.agreed.isSome
  approval : ∀ approval, s.approval = some approval → approval.generation = s.generation
  final : s.state = .finalized → ∃ terms quote, s.agreed = some terms ∧ s.Final terms quote

end Snapshot

variable {n : Negotiation} {s : Snapshot}

/-- **One transition keeps a negotiation sound.** -/
theorem Moves.sound {next : Negotiation} {op : Op} {p : Plan} (hmv : Moves n op p)
    (hnx : p.next = some next) (hn : n.content.Sound) : next.content.Sound := by
  cases hmv with
  | stay => cases hnx
  | table hop hbd hst =>
    cases hnx
    refine { hn with table := ?_, agreement := ?_, final := ?_ }
    · intro terms htms
      cases htms
      exact hbd
    · rintro (hagr | hcan)
      · rcases hst with rfl | rfl <;> cases hagr
      · rcases hst with rfl | rfl <;> cases hcan
    · intro hfin
      rcases hst with rfl | rfl <;> cases hfin
  | agree hop htms hpmt =>
    cases hnx
    obtain ⟨hcov, hnds, -⟩ := Mandate.permitsAt_ok hpmt
    refine { hn with agreed := ?_, agreement := fun _ => rfl, final := ?_ }
    · intro terms hagr
      cases hagr
      exact ⟨hn.table _ htms, hcov, hnds⟩
    · intro hfin
      cases hfin
  | reopen hst =>
    cases hnx
    refine { hn with agreed := ?_, agreement := ?_, approval := ?_, final := ?_ }
    · intro terms hagr
      cases hagr
    · rintro (hagr | hcan)
      · cases hagr
      · cases hcan
    · intro approval happ
      cases happ
    · intro hfin
      cases hfin
  | approve hst htms =>
    cases hnx
    refine { hn with approval := ?_, final := ?_ }
    · intro approval happ
      cases happ
      rfl
    intro hfin
    rw [show n.state = State.finalized from hfin] at hst
    cases hst
  | canonicalize huse hst hauth hbud hapd =>
    cases hnx
    refine { hn with agreement := fun _ => hn.agreement (.inl hst), final := ?_ }
    intro hfin
    cases hfin
  | settle hset hst =>
    cases hnx
    refine { hn with table := ?_, agreement := ?_, final := ?_ }
    · intro terms htms
      cases htms
    · rintro (hagr | hcan)
      · rcases hst with rfl | rfl | rfl <;> cases hagr
      · rcases hst with rfl | rfl | rfl <;> cases hcan
    · intro hfin
      rcases hst with rfl | rfl | rfl <;> cases hfin
  | @finalize resolver cmt quote terms now needsApproval huse hst hbud htms hso hcmt hquo hnet
      hval hapd hpmt =>
    cases hnx
    obtain ⟨-, -, hauth⟩ := Mandate.permitsAt_ok hpmt
    refine { hn with agreement := fun _ => hn.agreement (.inr hst), final := fun _ => ?_ }
    exact ⟨terms, quote, htms, rfl, ⟨hso, hcmt⟩, hquo, hnet, hval, hauth rfl, hapd⟩

/-- Which exchange a snapshot is of, under which mandate. -/
def Snapshot.identity (s : Snapshot) : String × ConversationID × AgentID × Mandate × Network :=
  (s.id, s.conversationID, s.counterpartyAgentID, s.mandateDigest, s.network)

/-- No transition changes which exchange the object is, or its mandate. -/
theorem Moves.identity {next : Negotiation} {op : Op} {p : Plan} (hmv : Moves n op p)
    (hnx : p.next = some next) : next.content.identity = n.content.identity := by
  cases hmv <;> cases hnx <;> rfl

/-! ## A sound snapshot is valid -/

theorem Snapshot.Sound.validate (hs : s.Sound) : s.validate = .ok () := by
  have hcar : ∀ terms : Option Terms, (∀ t, terms = some t → t.Bound s.counterpartyAgentID s.network) →
      s.carries terms = .ok () := by
    intro terms hbd
    cases terms with
    | none => rfl
    | some t =>
      have ht := hbd t rfl
      exact seq_ok.mpr ⟨(), ht.valid, failIf_ok.mpr (not_not.mpr ht.network)⟩
  have hlat : ¬(s.approval.any fun approval => decide (s.generation < approval.generation)) = true := by
    cases happ : s.approval with
    | none => exact Bool.false_ne_true
    | some approval =>
      have hgen := hs.approval approval happ
      simp only [Option.any_some, decide_eq_true_eq]
      omega
  have hevidence : s.state = .finalized → s.evidence = .ok () := by
    intro hst
    obtain ⟨terms, quote, hagr, hfin⟩ := hs.final hst
    obtain ⟨hso, hcmt⟩ := hfin.commitment
    obtain ⟨cmt, hso⟩ := Option.isSome_iff_exists.mp hso
    have hnet : quote.terms.price.asset.network = s.network := by
      rw [hfin.quoted]
      exact (hs.agreed terms hagr).1.network
    unfold Snapshot.evidence
    rw [hso, hfin.evidence]
    rw [hso] at hcmt
    exact seq_ok.mpr ⟨(), hfin.valid, failIf_then.mpr ⟨not_not.mpr hcmt, failIf_ok.mpr (not_not.mpr hnet)⟩⟩
  refine failIf_then.mpr ⟨?_, seq_ok.mpr ⟨(), ?_, seq_ok.mpr ⟨(), hcar _ hs.table, ?_⟩⟩⟩
  · rintro (hemp | hlong)
    · exact hs.id.1 hemp
    · have hsho := hs.id.2
      omega
  · rw [hs.network]
    rfl
  refine seq_ok.mpr ⟨(), hcar _ fun t ht => (hs.agreed t ht).1, ?_⟩
  refine failIf_then.mpr ⟨hlat, ?_⟩
  split_ifs with hst
  · exact hevidence hst
  · rfl

/-! ## The object and its record -/

/-- The object and what the store holds of it are sound, and the store holds something. -/
structure Desk.Sound (d : Desk) : Prop where
  object : d.negotiation.content.Sound
  name : negotiationNamePattern d.negotiation.id = true
  record : ∃ s, lookup d.negotiation.id d.books.snapshots = some s ∧ s.Sound
    ∧ s.identity = d.negotiation.content.identity

theorem restore_ok {mandate : Mandate} {budget : Bool} (h : restore s mandate budget = .ok n) :
    n = s.object s.mandateDigest budget := by
  unfold restore at h
  simp only [seq_ok, failIf_ok, not_not] at h
  obtain ⟨_, -, _, -, _, hman, _, -, _, -, hend⟩ := h
  cases hend
  rw [hman]

/-- A rebuilt object is what the snapshot says, if the snapshot could be restored at all. -/
theorem Desk.rebuilt_cases (d : Desk) (mandate : Mandate) (budget : Bool) (s : Option Snapshot) :
    d.rebuilt mandate budget s = d ∨ ∃ snapshot, s = some snapshot ∧
      d.rebuilt mandate budget s = { d with negotiation := snapshot.object snapshot.mandateDigest budget } := by
  cases s with
  | none => exact .inl rfl
  | some snapshot =>
    rw [Desk.rebuilt]
    cases hrestore : restore snapshot mandate budget with
    | error e => exact .inl rfl
    | ok n =>
      obtain rfl := restore_ok hrestore
      exact .inr ⟨snapshot, rfl, rfl⟩

theorem snapshot_toOption (h : n.snapshot.toOption = some s) : s = n.content := by
  cases hs : n.snapshot with
  | error e =>
    rw [hs] at h
    cases h
  | ok s' =>
    rw [hs] at h
    cases h
    exact Desk.snapshot_ok hs

namespace Desk

variable {d : Desk}

/-- **What an event can do.** An operation moves the object as planned; otherwise its record stays,
    and the object stays too or is rebuilt from the record. -/
theorem step_cases (d : Desk) (event : Event) :
    (∃ op f p next, event = .act op f ∧ op.plan d.negotiation = .ok p ∧ p.next = some next
      ∧ d.Carries next (d.step event)) ∨
      lookup d.negotiation.id (d.step event).books.snapshots = lookup d.negotiation.id d.books.snapshots ∧
        ((d.step event).negotiation.content = d.negotiation.content ∨
          lookup d.negotiation.id d.books.snapshots = some (d.step event).negotiation.content) := by
  cases event with
  | act op f =>
    rcases d.act_object op f with ⟨hobj, hsnapshots⟩ | ⟨p, next, hpl, hnx, hcar⟩
    · exact .inr ⟨congrArg (lookup _) hsnapshots, .inl (congrArg Negotiation.content hobj)⟩
    · exact .inl ⟨op, f, p, next, rfl, hpl, hnx, hcar⟩
  | reload mandate budget =>
    right
    rw [Desk.step]
    rcases d.rebuilt_cases mandate budget (lookup d.negotiation.id d.books.snapshots) with hlf | ⟨s, hs, hreb⟩
    · rw [hlf]
      exact ⟨rfl, .inl rfl⟩
    · rw [hreb]
      exact ⟨rfl, .inr hs⟩
  | resume mandate budget =>
    right
    rw [Desk.step]
    rcases d.rebuilt_cases mandate budget d.negotiation.snapshot.toOption with hlf | ⟨s, hs, hreb⟩
    · rw [hlf]
      exact ⟨rfl, .inl rfl⟩
    · rw [hreb]
      exact ⟨rfl, .inl (snapshot_toOption hs)⟩
  | elsewhere books =>
    right
    rw [Desk.step]
    split_ifs with hown
    · exact ⟨hown, .inl rfl⟩
    · exact ⟨rfl, .inl rfl⟩

/-- A sound object of the same exchange, beside the record there was. -/
theorem Sound.beside (hd : d.Sound) {d' : Desk} (hs : d'.negotiation.content.Sound)
    (hidn : d'.negotiation.content.identity = d.negotiation.content.identity)
    (hown : lookup d.negotiation.id d'.books.snapshots = lookup d.negotiation.id d.books.snapshots) : d'.Sound := by
  obtain ⟨stored, hget, hsto, hsm⟩ := hd.record
  have hid : d'.negotiation.id = d.negotiation.id := congrArg Prod.fst hidn
  refine ⟨hs, hid ▸ hd.name, stored, ?_, hsto, hsm.trans hidn.symm⟩
  rw [hid, hown, hget]

/-- **One event keeps a negotiation and its record sound**, and it stays the same exchange. -/
theorem Sound.step (hd : d.Sound) (event : Event) :
    (d.step event).Sound ∧ (d.step event).negotiation.content.identity = d.negotiation.content.identity := by
  rcases d.step_cases event with ⟨op, f, p, next, -, hpl, hnx, hcar⟩ | ⟨hown, hobj⟩
  · have hmv := plan_moves hpl
    have hco := hcar.content
    have hsd := hmv.sound hnx hd.object
    have hidn := hmv.identity hnx
    have hid : (d.step event).negotiation.id = next.id := congrArg Snapshot.id hco
    have hsame : next.id = d.negotiation.id := congrArg Prod.fst hidn
    refine ⟨?_, hco ▸ hidn⟩
    rcases hcar.2 with hsm | hsto
    · exact hd.beside (hco ▸ hsd) (hco ▸ hidn) (congrArg (lookup _) hsm)
    · refine ⟨hco ▸ hsd, hid.trans hsame ▸ hd.name, next.content, ?_, hsd, congrArg Snapshot.identity hco.symm⟩
      rw [hsto, hid, lookup_insert]
  · obtain ⟨stored, hget, hsto, hsm⟩ := hd.record
    have hkt : (d.step event).negotiation.content.Sound ∧
        (d.step event).negotiation.content.identity = d.negotiation.content.identity := by
      rcases hobj with hobj | hobj
      · rw [hobj]
        exact ⟨hd.object, rfl⟩
      · obtain rfl : stored = _ := Option.some.inj (hget.symm.trans hobj)
        exact ⟨hsto, hsm⟩
    exact ⟨hd.beside hkt.1 hkt.2 hown, hkt.2⟩

/-- The store accepts the object, and what a transition makes of it. -/
theorem storable_of_sound {n : Negotiation} {books : Books} (hobj : n.content.Sound)
    (hnm : negotiationNamePattern n.id = true) (hrec : (lookup n.id books.snapshots).isSome) :
    books.snapshots.storable n.content = .ok () := by
  refine seq_ok.mpr ⟨(), hobj.validate, failIf_then.mpr ⟨not_not.mpr hnm, ?_⟩⟩
  rw [if_neg]
  · rfl
  rintro ⟨hno, -⟩
  rw [Option.isNone_iff_eq_none] at hno
  rw [show lookup n.id books.snapshots = none from hno] at hrec
  cases hrec

theorem Sound.storable (hd : d.Sound) {op : Op} {p : Plan} {next : Negotiation}
    (hpl : op.plan d.negotiation = .ok p) (hnx : p.next = some next) :
    next.mandate.validate = .ok () ∧ d.books.snapshots.storable next.content = .ok () := by
  have hmv := plan_moves hpl
  have hsd := hmv.sound hnx hd.object
  have hid : next.id = d.negotiation.id := congrArg Prod.fst (hmv.identity hnx)
  obtain ⟨s, hget, -, -⟩ := hd.record
  refine ⟨hsd.mandate, storable_of_sound hsd ?_ ?_⟩
  · exact hid ▸ hd.name
  · exact Option.isSome_iff_exists.mpr ⟨s, hid ▸ hget⟩

/-! ## A new negotiation -/

section
variable {f : Faults} {id : String} {conversationID : ConversationID} {counterparty : AgentID} {mandate : Mandate}
  {network : Option Network} {budget : Bool} {now : Time} {books : Books} {d : Desk} {n : Negotiation}

theorem start_sound (h : start id conversationID counterparty mandate network budget now = .ok n) :
    n.content.Sound ∧ n.state = .discussing := by
  unfold start at h
  simp only [seq_ok, failIf_ok, not_or, not_lt, not_not] at h
  obtain ⟨_, hid, bound, hbd, _, hlv, _, -, _, -, hend⟩ := h
  have hval : mandate.validate = .ok () := by
    unfold Mandate.live at hlv
    simp only [seq_ok] at hlv
    exact hlv.choose_spec.1
  have hnet : bound.validate = .ok () := by
    cases network with
    | none => cases hbd
    | some domain =>
      obtain rfl := Negotiation.validateNetworkDomain_some hbd
      unfold validateNetworkDomain at hbd
      rw [seq_ok] at hbd
      obtain ⟨_, hfail, -⟩ := hbd
      exact failIf_ok.mpr (failIf_ok.mp hfail)
  cases hend
  refine ⟨⟨hid, hval, hnet, ?_, ?_, ?_, ?_, ?_⟩, rfl⟩
  · intro terms htms
    cases htms
  · intro terms htms
    cases htms
  · rintro (hst | hst) <;> cases hst
  · intro approval happ
    cases happ
  · intro hst
    cases hst

section
variable (h : new f id conversationID counterparty mandate network budget now books = .ok d)

include h

/-- A negotiation that was started has been written, as it is. -/
theorem new_ok :
    ∃ n, start id conversationID counterparty mandate network budget now = .ok n ∧ d = kept ⟨n, books⟩
      ∧ books.snapshots.storable n.content = .ok () := by
  unfold new at h
  cases hbeg : start id conversationID counterparty mandate network budget now with
  | error e =>
    rw [hbeg] at h
    cases h
  | ok n =>
    rw [hbeg] at h
    refine ⟨n, rfl, ?_⟩
    unfold persist Books.save at h
    cases hs : n.snapshot with
    | error e =>
      simp only [hs] at h
      cases h
    | ok s =>
      obtain rfl := snapshot_ok hs
      simp only [hs] at h
      cases hsr : books.snapshots.storable n.content with
      | error e =>
        rw [hsr] at h
        cases h
      | ok _ =>
        rw [hsr] at h
        cases hsave : f.save with
        | done => rw [hsave] at h; cases h; exact ⟨rfl, rfl⟩
        | refused | unacknowledged => rw [hsave] at h; cases h

theorem new_sound : d.Sound := by
  obtain ⟨n, hbeg, rfl, hsr⟩ := new_ok h
  have hsd := (start_sound hbeg).1
  unfold Negotiations.storable at hsr
  simp only [seq_ok, failIf_ok, not_not] at hsr
  obtain ⟨_, -, _, hnm, -⟩ := hsr
  exact ⟨hsd, hnm, n.content, lookup_insert _, hsd, rfl⟩

omit h in
/-- Nothing but the checks stands between a caller and a new negotiation whose write succeeds. -/
theorem new_done (hbeg : start id conversationID counterparty mandate network budget now = .ok n)
    (hsr : books.snapshots.storable n.content = .ok ()) :
    new {} id conversationID counterparty mandate network budget now books = .ok (kept ⟨n, books⟩) := by
  have hman : n.mandate.validate = .ok () := (start_sound hbeg).1.mandate
  unfold new
  rw [hbeg]
  simp only [persist_done (d := ⟨n, books⟩) hman hsr]

/-- **Every negotiation that can be reached is sound**, and is still the exchange that was started. -/
theorem run_sound (events : List Event) :
    (run step d events).Sound ∧ (run step d events).negotiation.content.identity = d.negotiation.content.identity :=
  run_invariant (I := fun d' : Desk => d'.Sound ∧ d'.negotiation.content.identity = d.negotiation.content.identity)
    (fun _ event hd' => ⟨(hd'.1.step event).1, (hd'.1.step event).2.trans hd'.2⟩) ⟨new_sound h, rfl⟩ events

end

end

end Desk

/-! ## A sample exchange -/

def dealNetwork : Network := ⟨"tos", 1, 2⟩

def dealMandate : Mandate where
  objective := "translate"
  authority := .commit
  capabilityClass := "text"
  maxTotal := ⟨⟨dealNetwork, 0, 3, 4, 5, 6⟩, 10⟩
  approvalAbove := ⟨⟨dealNetwork, 0, 3, 4, 5, 6⟩, 5⟩
  maxCounteroffers := 3
  expiresAtUnix := 1000

/-- An offer that is inside the mandate and above the approval point. -/
def dealTerms : Terms where
  capabilityID := ⟨1⟩
  capabilityVersion := "1"
  capabilityClass := "text"
  providerAgentID := ⟨2⟩
  manifestDigest := ⟨false, 1⟩
  transportBindingDigest := ⟨false, 2⟩
  price := ⟨⟨dealNetwork, 0, 3, 4, 5, 6⟩, 6⟩
  escrowTermsDigest := ⟨false, 3⟩
  disputePolicyDigest := ⟨false, 4⟩
  notAfterUnix := 500

def dealCommitment : Digest := ⟨true, 7⟩

def dealQuote : VerifiedAcceptedQuote where
  commitment := some dealCommitment
  terms := dealTerms
  finalizedCheckpoint := some 9
  network := some dealNetwork
  finalizedAtUnix := 100

def dealResolver : QuoteResolver := fun commitment => .ok (if commitment = dealCommitment then some dealQuote else none)

/-- The exchange as `New` leaves it. -/
def dealStart : Negotiation where
  id := "deal"
  conversationID := ⟨1⟩
  counterpartyAgentID := ⟨2⟩
  mandate := dealMandate
  network := dealNetwork
  state := .discussing
  generation := 0
  counteroffers := 0
  onTable := none
  agreed := none
  needsApproval := false
  approval := none
  commitment := none
  quote := none
  failure := ""
  budget := true
  poisoned := false

/-- Books nothing was written in, with a budget of ten. -/
def dealBooks : Books where
  snapshots := ∅
  everFinalized := []
  budget := Budget.opened dealMandate.maxTotal
  ledger := some (Budget.opened dealMandate.maxTotal)

/-- The operations of an exchange that is finalized with the owner's approval. -/
def dealOps : List Op := [
  .receiveProposal dealTerms 10, .acceptIntent 11, .approveByOwner dealTerms 12, .beginCanonicalization 13,
  .finalize (some dealResolver) (some dealCommitment) 14]

theorem deal_new : Desk.new {} "deal" ⟨1⟩ ⟨2⟩ dealMandate (some dealNetwork) true 5 dealBooks
    = .ok (Desk.kept ⟨dealStart, dealBooks⟩) :=
  Desk.new_done (by decide +kernel) (by decide +kernel)

end Messenger.Negotiation
