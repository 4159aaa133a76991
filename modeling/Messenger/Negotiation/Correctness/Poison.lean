import Messenger.Negotiation.Sound

/-!
# `Correctness.Poison` — which operations a failed write stops

Once a write of the object has failed, the object is marked, and it stays marked for its lifetime.
Five of the eleven operations look at the mark (`Op.guarded`): they are refused and nothing changes.
The other six never look at it. They go on from the state in memory, which the store does not have,
and write it.

`poisoned_refused_iff` is that line, for every reachable negotiation whose write failed once.
-/

set_option linter.dupNamespace false

namespace Messenger.Negotiation

open Lib Eventlog Negotiation

/-- The operations that refuse a poisoned object. -/
def Op.guarded : Op → Bool
  | .receiveProposal .. | .counter .. | .acceptIntent .. | .beginCanonicalization .. | .finalize .. => true
  | .reopen .. | .rejectIntent .. | .withdraw .. | .approveByOwner .. | .denyByOwner .. | .expire .. => false

/-! ## The guarded operations -/

variable {op : Op}

theorem guarded_plan {n : Negotiation} (hpo : n.poisoned = true) (h : op.guarded = true) :
    op.plan n = .error .poisoned := by
  have huse : n.usable = .error .poisoned := if_pos hpo
  have hopens : ∀ now, n.opens now = .error .poisoned := by
    intro now
    unfold Negotiation.opens
    rw [huse]
    rfl
  cases op with
  | receiveProposal terms now =>
    show n.receiveProposal terms now = _
    unfold receiveProposal
    rw [hopens]
    rfl
  | counter terms now =>
    show n.counter terms now = _
    unfold counter
    rw [hopens]
    rfl
  | acceptIntent now =>
    show n.acceptIntent now = _
    unfold acceptIntent
    rw [huse]
    rfl
  | beginCanonicalization now =>
    show n.beginCanonicalization now = _
    unfold beginCanonicalization
    rw [huse]
    rfl
  | finalize resolver cmt now =>
    show n.finalize resolver cmt now = _
    unfold finalize
    rw [huse]
    rfl
  | reopen | rejectIntent | withdraw | approveByOwner | denyByOwner | expire => cases h

/-! ## The operations that do not look -/

/-- A plan whose caller is told of no error but those of its writes. -/
inductive Plan.Silent : Plan → Prop where
  | stay : Plan.Silent .stay
  | save (next : Negotiation) : Plan.Silent (.save next)
  | free (next : Negotiation) : Plan.Silent (.free next (.ok ()))

/-- An unguarded operation is refused with a text of its own, or goes on to its writes. -/
theorem unguarded_plan (n : Negotiation) (h : op.guarded = false) :
    Terse 64 (op.plan n) ∧ ∀ p, op.plan n = .ok p → p.Silent := by
  cases op with
  | receiveProposal | counter | acceptIntent | beginCanonicalization | finalize => cases h
  | reopen reason now =>
    constructor
    · exact terse_check (terse_bind (n.mandate.live_terse now) fun _ => terse_check (terse_ok _))
    intro p hp
    simp only [Op.plan, reopen, seq_ok] at hp
    obtain ⟨_, -, _, -, _, -, hend⟩ := hp
    cases hend
    exact .free _
  | rejectIntent reason | withdraw reason | denyByOwner reason =>
    refine ⟨terse_check (terse_ok _), fun p hp => ?_⟩
    obtain ⟨_, -, hend⟩ := seq_ok.mp hp
    cases hend
    exact .free _
  | approveByOwner digest now =>
    have htms : Terse 64 (n.approveTerms digest now n.agreed) := by
      cases n.agreed with
      | none => exact terse_other (by decide)
      | some cur =>
        refine terse_bind cur.validate_terse fun _ => terse_check ?_
        exact terse_bind n.mandate.validate_terse fun _ => terse_ok _
    constructor
    · exact terse_check (terse_bind (n.mandate.live_terse now) fun _ => terse_check htms)
    intro p hp
    simp only [Op.plan, approveByOwner, seq_ok] at hp
    obtain ⟨_, -, _, -, _, -, hend⟩ := hp
    cases hagr : n.agreed with
    | none =>
      rw [hagr] at hend
      cases hend
    | some cur =>
      rw [hagr, approveTerms] at hend
      simp only [seq_ok] at hend
      obtain ⟨_, -, _, -, _, -, hend⟩ := hend
      cases hend
      exact .save _
  | expire now =>
    show Terse 64 (n.expire now) ∧ ∀ p, n.expire now = .ok p → p.Silent
    unfold expire
    split_ifs
    · refine ⟨terse_ok _, fun p hp => ?_⟩
      cases hp
      exact .stay
    split
    · refine ⟨terse_ok _, fun p hp => ?_⟩
      cases hp
      exact .stay
    refine ⟨terse_ok _, fun p hp => ?_⟩
    cases hp
    exact .free _

namespace Desk

variable {d : Desk} {op : Op}

theorem guarded_act (hpo : d.negotiation.poisoned = true) (h : op.guarded = true) (f : Faults) :
    d.act op f = (.error .poisoned, d) := by
  unfold act
  rw [guarded_plan hpo h]

/-! ## What the writes of a reachable negotiation report -/

/-- The write of a reachable object fails only as the disk does. -/
theorem persist_result (hd : d.Sound) {p : Plan} {next : Negotiation}
    (hpl : op.plan d.negotiation = .ok p) (hnx : p.next = some next) (w : Written) :
    ((d.moved next).persist w).1 = w.result "commit event transition" := by
  obtain ⟨hman, hsr⟩ := hd.storable hpl hnx
  unfold persist Books.save
  rw [show (d.moved next).negotiation.snapshot = .ok next.content from snapshot_of_valid hman]
  simp only [moved, hsr]
  cases w <;> rfl

theorem result_ne_poisoned (w : Written) (text : String) : w.result text ≠ .error .poisoned := by
  cases w <;> exact fun h => nomatch h

theorem release_ne_poisoned (d : Desk) (w : Written) (id : String) :
    (d.onBudget (Books.release w id)).1 ≠ .error .poisoned := by
  unfold onBudget
  split_ifs
  · show (d.books.release w id).1 ≠ _
    unfold Books.release
    split
    · exact fun h => nomatch h
    · exact result_ne_poisoned w _
  · exact fun h => nomatch h

/-- An unguarded operation never says that the object is poisoned. -/
theorem unguarded_act (hd : d.Sound) (h : op.guarded = false) (f : Faults) : (d.act op f).1 ≠ .error .poisoned := by
  obtain ⟨hterse, hsilent⟩ := unguarded_plan d.negotiation h
  unfold act
  cases hpl : op.plan d.negotiation with
  | error e =>
    obtain ⟨text, rfl, -⟩ := hterse e hpl
    exact fun h => nomatch h
  | ok p =>
    cases hsilent p hpl with
    | stay => exact fun h => nomatch h
    | save next =>
      show ((d.moved next).persist f.save).1 ≠ _
      rw [persist_result hd hpl rfl]
      exact result_ne_poisoned _ _
    | free next =>
      refine andThen_result_ne ?_ fun d' => andThen_result_ne (release_ne_poisoned d' f.record _) fun _ h => nomatch h
      rw [persist_result hd hpl rfl]
      exact result_ne_poisoned _ _

/-! ## The mark -/

/-- The result of the write of the object, if the operation comes to it. -/
def persistResult (d : Desk) (op : Op) (f : Faults) : Option (Except Failure Unit) :=
  match op.plan d.negotiation with
  | .error _ | .ok .stay => none
  | .ok (.save next) | .ok (.free next _) | .ok (.spend next) => some ((d.moved next).persist f.save).1
  | .ok (.hold price next) =>
    match d.onBudget (Books.reserve f.record d.negotiation.id price) with
    | (.error _, _) => none
    | (.ok _, d') => some ((d'.moved next).persist f.save).1

/-- The operation's write of the object failed. -/
def PersistFails (d : Desk) (op : Op) (f : Faults) : Prop := ∃ e, d.persistResult op f = some (.error e)

/-- A failed write of an object with a valid mandate marks it. -/
theorem persist_poisons {w : Written} {e : Failure} (hman : d.negotiation.mandate.validate = .ok ())
    (h : (d.persist w).1 = .error e) : (d.persist w).2.negotiation.poisoned = true := by
  unfold persist at h ⊢
  rw [snapshot_of_valid hman] at h ⊢
  simp only at h ⊢
  revert h
  cases d.books.save w d.negotiation.content with
  | mk result books =>
    cases result with
    | error e => exact fun _ => rfl
    | ok _ => exact fun h => nomatch h

/-- **An operation whose write failed leaves the object marked.** -/
theorem act_poisons (hd : d.Sound) {f : Faults} (h : d.PersistFails op f) :
    (d.act op f).2.negotiation.poisoned = true := by
  obtain ⟨e, h⟩ := h
  unfold persistResult at h
  unfold act
  cases hpl : op.plan d.negotiation with
  | error e' =>
    rw [hpl] at h
    cases h
  | ok p =>
    rw [hpl] at h
    have hman : ∀ {next}, p.next = some next → next.mandate.validate = .ok () :=
      fun hnx => (hd.storable hpl hnx).1
    cases p with
    | stay => cases h
    | save next => exact persist_poisons (hman rfl) (Option.some.inj h)
    | hold price next =>
      simp only at h ⊢
      rw [perform]
      generalize d.onBudget (Books.reserve f.record d.negotiation.id price) = out at h ⊢
      obtain ⟨result, d'⟩ := out
      cases result with
      | error e' => cases h
      | ok _ => exact persist_poisons (d := d'.moved next) (hman rfl) (Option.some.inj h)
    | free next result | spend next =>
      have hfails : ((d.moved next).persist f.save).1 = .error e := Option.some.inj h
      have hpo := persist_poisons (hman rfl) hfails
      refine andThen_ends (P := fun d' => d'.negotiation.poisoned = true) (fun _ _ => hpo) fun hok => ?_
      rw [hfails] at hok
      cases hok

end Desk

/-- No transition takes the mark off. -/
theorem Moves.poisoned {n next : Negotiation} {p : Plan} (hmv : Moves n op p)
    (hnx : p.next = some next) : next.poisoned = n.poisoned := by
  cases hmv <;> cases hnx <;> rfl

/-- The event leaves the object in place. -/
def Event.sameObject : Event → Bool
  | .act .. | .elsewhere .. => true
  | .reload .. | .resume .. => false

namespace Desk

/-- **The mark stays** for as long as the object is not rebuilt. -/
theorem step_poisoned {d : Desk} {event : Event} (hev : event.sameObject = true)
    (hpo : d.negotiation.poisoned = true) : (d.step event).negotiation.poisoned = true := by
  cases event with
  | reload => cases hev
  | resume => cases hev
  | elsewhere books =>
    rw [Desk.step]
    split_ifs <;> exact hpo
  | act op f =>
    show (d.act op f).2.negotiation.poisoned = true
    rcases d.act_object op f with ⟨hobj, -⟩ | ⟨p, next, hpl, hnx, hcar⟩
    · rw [hobj]
      exact hpo
    rcases hcar.1 with hobj | hobj
    · rw [hobj, (plan_moves hpl).poisoned hnx]
      exact hpo
    · rw [hobj]

theorem run_poisoned {d : Desk} (hpo : d.negotiation.poisoned = true) {events : List Event}
    (hevents : ∀ event ∈ events, event.sameObject = true) : (run step d events).negotiation.poisoned = true :=
  (Along.of_mem hevents d).invariant (I := fun d' : Desk => d'.negotiation.poisoned = true)
    (fun _ _ hpoisoned' hev => step_poisoned hev hpoisoned') hpo

/-! ## The line -/

section
variable {f : Faults} {id : String} {conversationID : ConversationID} {counterparty : AgentID} {mandate : Mandate}
  {network : Option Network} {budget : Bool} {now : Time} {books : Books} {d : Desk}

/-- **After a failed write, exactly the guarded operations are refused.** For every negotiation,
    whatever happened before its write failed and whatever is done with the same object afterwards,
    an operation answers that the object is poisoned and changes neither object nor store nor budget
    if and only if it is one of the five that look. -/
theorem poisoned_refused_iff (h : new f id conversationID counterparty mandate network budget now books = .ok d)
    (before : List Event) (op : Op) (faults : Faults) (hfails : (run step d before).PersistFails op faults)
    (after : List Event) (hafter : ∀ event ∈ after, event.sameObject = true) (op' : Op)
    (faults' : Faults) : (run step ((run step d before).act op faults).2 after).act op' faults'
        = (.error .poisoned, run step ((run step d before).act op faults).2 after) ↔ op'.guarded = true := by
  have hpre := (run_sound h before).1
  have hpo := run_poisoned (act_poisons hpre hfails) hafter
  have hsd : (run step ((run step d before).act op faults).2 after).Sound :=
    run_invariant (I := Sound) (fun _ event hd => (hd.step event).1) (hpre.step (.act op faults)).1 after
  constructor
  · intro hact
    by_contra hgd
    exact unguarded_act hsd (Bool.eq_false_iff.mpr hgd) faults' (congrArg Prod.fst hact)
  · intro hgd
    exact guarded_act hpo hgd faults'

end

/-- The sample exchange with an offer on the table, whose acceptance holds the price and then cannot
    be written. -/
def dealPoisoned : Desk :=
  ((run step (kept ⟨dealStart, dealBooks⟩) [.act (.receiveProposal dealTerms 10) {}]).act (.acceptIntent 11)
    { save := .refused }).2

/-- Accepting again is refused. -/
theorem deal_poisoned_refused :
    dealPoisoned.act (.acceptIntent 12) {} = (.error .poisoned, dealPoisoned) ↔ (Op.acceptIntent 12).guarded = true :=
  poisoned_refused_iff deal_new [.act (.receiveProposal dealTerms 10) {}] (.acceptIntent 11) { save := .refused }
    ⟨.other "commit event transition", by decide +kernel⟩ [] (by decide) (.acceptIntent 12) {}

/-- **An operation that does not look.** The object is poisoned; withdrawing it succeeds, writes the
    store and moves the budget. -/
theorem dealPoisoned_withdraws :
    dealPoisoned.negotiation.poisoned = true
      ∧ (dealPoisoned.act (.withdraw "no answer") {}).1 = .ok ()
      ∧ (AList.lookup "deal" dealPoisoned.books.snapshots).map Snapshot.state = some .proposalPending
      ∧ (AList.lookup "deal" (dealPoisoned.act (.withdraw "no answer") {}).2.books.snapshots).map Snapshot.state
          = some .withdrawn
      ∧ dealPoisoned.books.budget.hold "deal" = some 6
      ∧ (dealPoisoned.act (.withdraw "no answer") {}).2.books.budget.hold "deal" = none := by
  decide +kernel

end Desk

end Messenger.Negotiation
