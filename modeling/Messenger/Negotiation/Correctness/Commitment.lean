import Messenger.Negotiation.Sound

/-!
# `Negotiation.Correctness.Commitment` — what `Committed` reports and what the store holds

`Committed` reads the object in memory. `Finalize` moves the object before it writes it, and a
failed write leaves it moved, so the object can report a commitment the store has never seen
(`deal_unsaved_commitment`). If the writes of `Finalize` succeed, object and record are finalized
together, with one commitment, and every other operation's write may fail as it likes
(`committed_is_stored`).
-/

set_option linter.dupNamespace false

namespace Messenger.Negotiation

open Lib Eventlog

/-- The store accepts the write, if the event is a finalisation. -/
def Event.FinalizeSaved : Event → Prop
  | .act (.finalize ..) f => f.save = .done
  | _ => True

/-- Only a finalisation finalizes, and nothing else starts from a finalized object. -/
theorem Moves.unfinalized {n next : Negotiation} {op : Op} {p : Plan} (hmv : Moves n op p)
    (hnx : p.next = some next) :
    n.state ≠ .finalized ∧ (next.state = .finalized →
      ∃ resolver cmt now, op = .finalize resolver cmt now ∧ p = .spend next) := by
  have hset := @unfinalized_of_unsettled n
  cases hmv with
  | stay => cases hnx
  | table hop hbd hst =>
    cases hnx
    refine ⟨hset hop.unsettled, fun hfin => ?_⟩
    rcases hst with rfl | rfl <;> cases hfin
  | agree hop htms hpmt =>
    cases hnx
    exact ⟨hset hop.unsettled, fun hfin => nomatch hfin⟩
  | reopen hst | canonicalize huse hst hauth hbud hapd =>
    cases hnx
    exact ⟨hset (unsettled_of_agreed hst), fun hfin => nomatch hfin⟩
  | approve hst htms =>
    cases hnx
    exact ⟨hset (unsettled_of_agreed hst), fun hfin => nomatch hst.symm.trans hfin⟩
  | settle huns hst =>
    cases hnx
    refine ⟨hset huns, fun hfin => ?_⟩
    rcases hst with rfl | rfl | rfl <;> cases hfin
  | finalize huse hst hbud htms hso hcmt hquo hnet hval hapd hpmt =>
    cases hnx
    refine ⟨fun hfin => ?_, fun _ => ⟨_, _, _, rfl, rfl⟩⟩
    cases hst.symm.trans hfin

namespace Desk

/-- If the object or its record is finalized, both are, with one commitment. -/
def Agrees (d : Desk) : Prop :=
  ∀ s, lookup d.negotiation.id d.books.snapshots = some s →
    d.negotiation.state = .finalized ∨ s.state = .finalized →
      d.negotiation.state = .finalized ∧ s.state = .finalized ∧ s.commitment = d.negotiation.commitment

/-- A finalisation whose write succeeds leaves the record it left in memory. -/
theorem act_finalized {d : Desk} (hd : d.Sound) {op : Op} {f : Faults} {next : Negotiation}
    (hpl : op.plan d.negotiation = .ok (.spend next)) (hsave : f.save = .done) :
    (d.act op f).2.negotiation = next
      ∧ (d.act op f).2.books.snapshots = d.books.snapshots.insert next.id next.content := by
  obtain ⟨hman, hsr⟩ := hd.storable hpl rfl
  have hpersist : (d.moved next).persist f.save = (.ok (), (d.moved next).kept) := by
    rw [hsave]
    exact persist_done hman hsr
  unfold act
  rw [hpl]
  simp only
  rw [perform, hpersist]
  have hcmm := onBudget_sameObject (d := (d.moved next).kept)
    (Books.commit_sameStore f.record (d.moved next).kept.negotiation.id (d.moved next).kept.books)
  exact hcmm

/-- **One event** keeps object and record in agreement, if the finalisation it may be is saved. -/
theorem Agrees.step {d : Desk} (hd : d.Sound) (hags : d.Agrees) {event : Event}
    (hsaved : event.FinalizeSaved) : (d.step event).Agrees := by
  have hid : (d.step event).negotiation.id = d.negotiation.id := congrArg Prod.fst (hd.step event).2
  intro s hget hfin
  rw [hid] at hget
  rcases d.step_cases event with ⟨op, f, p, next, rfl, hpl, hnx, hcar⟩ | ⟨hown, hobj⟩
  · have hmv := plan_moves hpl
    have hnextID : next.id = d.negotiation.id := congrArg Prod.fst (hmv.identity hnx)
    obtain ⟨hpre, hspend⟩ := hmv.unfinalized hnx
    have hst : (d.act op f).2.negotiation.state = next.state := congrArg Snapshot.state hcar.content
    by_cases hnow : next.state = .finalized
    · -- the finalisation: its write succeeded
      obtain ⟨resolver, cmt, now, rfl, rfl⟩ := hspend hnow
      obtain ⟨hobj, hsnapshots⟩ := act_finalized hd hpl hsaved
      rw [Desk.step, hsnapshots, hnextID, lookup_insert] at hget
      cases hget
      rw [Desk.step, hobj]
      exact ⟨hnow, hnow, rfl⟩
    · -- neither the object nor the record was or is finalized
      exfalso
      rcases hfin with hfin | hfin
      · exact hnow (hst.symm.trans hfin)
      rcases hcar.2 with hsm | hsto
      · rw [hsm] at hget
        exact hpre (hags s hget (.inr hfin)).1
      rw [hsto, hnextID, lookup_insert] at hget
      cases hget
      exact hnow hfin
  · rw [hown] at hget
    rcases hobj with hsm | hrec
    · have hst : (d.step event).negotiation.state = d.negotiation.state := congrArg Snapshot.state hsm
      rw [hst] at hfin ⊢
      rw [show (d.step event).negotiation.commitment = _ from congrArg Snapshot.commitment hsm]
      exact hags s hget hfin
    · obtain rfl : s = _ := Option.some.inj (hget.symm.trans hrec)
      have hs := hfin.elim id id
      exact ⟨hs, hs, rfl⟩

section
variable {f : Faults} {id : String} {conversationID : ConversationID} {counterparty : AgentID} {mandate : Mandate}
  {network : Option Network} {budget : Bool} {now : Time} {books : Books} {d : Desk}

theorem new_agrees (h : new f id conversationID counterparty mandate network budget now books = .ok d) :
    d.Agrees := by
  obtain ⟨n, hbeg, rfl, -⟩ := new_ok h
  have hst := (start_sound hbeg).2
  intro s hget hfin
  have hco : some n.content = some s := (lookup_insert books.snapshots).symm.trans hget
  cases hco
  have hfin : n.state = .finalized := (or_self _).mp hfin
  cases hst.symm.trans hfin

/-- **A negotiation outlives its process.** In every run, whatever writes fail: what is stored of it
    restores under the mandate it was started with, and the object's own snapshot to the object,
    poison apart. -/
theorem restorable (h : new f id conversationID counterparty mandate network budget now books = .ok d)
    (events : List Event) {live : Bool} (hlive : mandate.authority = .commit → live) :
    (∃ s, lookup id (run step d events).books.snapshots = some s ∧
        restore s mandate live = .ok (s.object mandate live)) ∧
      ∃ s, (run step d events).negotiation.snapshot = .ok s ∧
        restore s mandate live = .ok { (run step d events).negotiation with budget := live, poisoned := false } := by
  obtain ⟨hsd, hidn⟩ := run_sound h events
  obtain ⟨n, hbeg, rfl, -⟩ := new_ok h
  unfold start at hbeg
  simp only [seq_ok, failIf_ok, not_not] at hbeg
  obtain ⟨_, -, bound, -, _, -, _, hprice, _, -, hbeg⟩ := hbeg
  cases hbeg
  generalize run step _ events = reached at hsd hidn ⊢
  have hrest : ∀ s : Snapshot, s.Sound → s.identity = (id, conversationID, counterparty, mandate, bound) →
      s.id = id ∧ s.mandateDigest = mandate ∧ restore s mandate live = .ok (s.object mandate live) := by
    intro s hs hsame
    cases hsame
    refine ⟨rfl, rfl, ?_⟩
    unfold restore
    simp only [seq_ok, failIf_ok, not_not, not_and]
    exact ⟨_, hs.validate, _, hs.mandate, (), trivial, (), hprice, (), hlive, rfl⟩
  obtain ⟨s, hget, hs, hsame⟩ := hsd.record
  obtain ⟨hid, rfl, hobj⟩ := hrest _ hsd.object hidn
  exact ⟨⟨s, hid ▸ hget, (hrest s hs (hsame.trans hidn)).2.2⟩, _, seq_ok.mpr ⟨(), hsd.object.mandate, rfl⟩, hobj⟩

/-- The sample exchange, of which nothing after its start could be written. -/
theorem restorable_deal :
    let d := run step (kept ⟨dealStart, dealBooks⟩) (dealOps.map fun op => .act op { save := .refused })
    ∃ s, d.negotiation.snapshot = .ok s ∧
      restore s dealMandate true = .ok { d.negotiation with budget := true, poisoned := false } :=
  (restorable deal_new _ fun _ => rfl).2

/-- **A reported commitment is a stored one**, in every run in which the writes of `Finalize`
    succeed; every other write of the object or of the ledger may fail. -/
theorem committed_is_stored (h : new f id conversationID counterparty mandate network budget now books = .ok d)
    {events : List Event} (hsaved : ∀ event ∈ events, event.FinalizeSaved) {commitment : Digest}
    (hcommitted : (run step d events).negotiation.committed = some commitment) :
    ∃ s, AList.lookup (run step d events).negotiation.id (run step d events).books.snapshots = some s
      ∧ s.state = .finalized ∧ s.commitment = some commitment := by
  have hrun : (run step d events).Sound ∧ (run step d events).Agrees :=
    (Along.of_mem hsaved d).invariant (I := fun d' : Desk => d'.Sound ∧ d'.Agrees)
      (fun _ event hd' hev => ⟨(hd'.1.step event).1, hd'.2.step hd'.1 hev⟩) ⟨new_sound h, new_agrees h⟩
  obtain ⟨s, hget, -, -⟩ := hrun.1.record
  unfold Negotiation.committed at hcommitted
  split_ifs at hcommitted with hst
  obtain ⟨-, hs, hcmt⟩ := hrun.2 s hget (.inl (not_not.mp hst))
  exact ⟨s, hget, hs, hcmt.trans hcommitted⟩

end

/-- The sample exchange, with every write accepted, reports its commitment, and the store has it. -/
theorem deal_committed_is_stored :
    ∃ s, AList.lookup (run step (kept ⟨dealStart, dealBooks⟩) (dealOps.map fun op => .act op {})).negotiation.id
        (run step (kept ⟨dealStart, dealBooks⟩) (dealOps.map fun op => .act op {})).books.snapshots = some s
      ∧ s.state = .finalized ∧ s.commitment = some dealCommitment := by
  refine committed_is_stored deal_new (fun event hev => ?_) (by decide +kernel)
  obtain ⟨op, -, rfl⟩ := List.mem_map.mp hev
  cases op <;> trivial

/-- The sample exchange, with the last write of the object refused. -/
def dealUnsaved : Desk :=
  run step (kept ⟨dealStart, dealBooks⟩) (dealOps.map fun op =>
    .act op { save := if op matches .finalize .. then .refused else .done })

/-- **A commitment the store has never seen.** The write of `Finalize` failed; the object reports
    the commitment, and the last snapshot the store accepted is still being canonicalised and names
    none. -/
theorem deal_unsaved_commitment :
    dealUnsaved.negotiation.committed = some dealCommitment
      ∧ (AList.lookup "deal" dealUnsaved.books.snapshots).map (fun s => (s.state, s.commitment))
          = some (.canonicalizationPending, none) := by
  decide +kernel

end Desk

end Messenger.Negotiation
