import Messenger.Eventlog.Accounts
import Messenger.Negotiation.Sound

/-!
# `Eventlog.Correctness.Settlement` — holds and spending after a restart

After a restart a hold should stand exactly for what stands agreed, at the agreed price, and
everything that was ever finalized should have been spent, once. What the shipped code misses is a
hold that outlives its negotiation: the ledger write of `Finalize` fails, the finalized negotiation
is dropped, and start-up takes the hold for one without an exchange and gives it back
(`dropped_unpaid`).

`settled_after_restart` is the result for every run in which

- a stored finalized negotiation is dropped, or its identifier used again by `New`, only when the
  budget holds nothing for it any more, and
- only the last object made for a negotiation is operated on;

every durable write may fail, with or without effect, and the process may crash anywhere.
-/

set_option linter.dupNamespace false

namespace Messenger.Eventlog

open Lib Negotiation

/-! ## More about records and objects -/

section
variable {total : Money} {b : Books} {x : Budget String} {n : Negotiation} {id : String}

/-- The record of an object was replaced by one of an exchange that has just begun. -/
theorem Live.overwritten (h : Live total b n) {s : Snapshot} (hid : s.id = n.id) (hstd : standing s.state = false)
    (hfin : s.state ≠ .finalized) : Live total (b.stored s) n := by
  refine { h with bargaining := ?_, unsettled := ?_ }
  · intro _ _ _ t hget
    rw [show lookup n.id (b.stored s).snapshots = some s from hid ▸ lookup_insert _] at hget
    cases hget
    exact ⟨hstd, hfin⟩
  intro _
  rw [finalizedAt_stored, if_pos hid.symm]
  exact decide_eq_false hfin

theorem finalizedAt_of_erased {id' : String}
    (h : ({ b with snapshots := b.snapshots.erase id } : Books).finalizedAt id' = true) : b.finalizedAt id' = true := by
  rw [finalizedAt_erased] at h
  split_ifs at h
  exact h

/-- A record was removed. -/
theorem Live.erased (h : Live total b n) : Live total { b with snapshots := b.snapshots.erase id } n := by
  refine { h with bargaining := ?_, unsettled := ?_ }
  · intro huse hset hstd t hget
    exact h.bargaining huse hset hstd t (lookup_erase_some hget).2
  intro hset
  by_contra hfin
  rw [Bool.not_eq_false] at hfin
  cases (h.unsettled hset).symm.trans (finalizedAt_of_erased hfin)

theorem Kept.erased (h : Kept total b) (hrem : b.finalizedAt id = true → b.budget.hold id = none) :
    Kept total { b with snapshots := b.snapshots.erase id } where
  formed := {
    named := fun id' s hget => h.formed.named id' s (lookup_erase_some hget).2
    agreed := fun id' s hget => h.formed.agreed id' s (lookup_erase_some hget).2
    finals := h.formed.finals }
  disk := Accounts.erased (b := b) h.disk fun hfin => h.tied id hfin (hrem hfin)
  memory := Accounts.erased (b := b) h.memory hrem
  tied := fun id' hfin hno => h.tied id' (finalizedAt_of_erased hfin) hno

/-- A new negotiation as its checks leave it. -/
theorem start_live {conversationID : ConversationID} {counterparty : AgentID} {mandate : Mandate}
    {network : Option Network} {now : Time}
    (h : Negotiation.start id conversationID counterparty mandate network true now = .ok n) :
    n.id = id ∧ n.state = .discussing ∧ n.budget = true ∧ n.mandate.validate = .ok () := by
  have hsd := (Desk.start_sound h).1.mandate
  unfold Negotiation.start at h
  simp only [seq_ok] at h
  obtain ⟨_, -, _, -, _, -, _, -, _, -, hend⟩ := h
  cases hend
  exact ⟨rfl, rfl, rfl, hsd⟩

/-- A stored negotiation, rebuilt. -/
theorem restore_live {s : Snapshot} {mandate : Mandate} (hkt : Kept total b)
    (hget : lookup id b.snapshots = some s) (h : restore s mandate true = .ok n) :
    n.id = id ∧ Live total b n := by
  have hman : s.mandateDigest.validate = .ok () := by
    unfold restore at h
    simp only [seq_ok, failIf_ok, not_not] at h
    obtain ⟨_, -, _, hval, _, hdig, -⟩ := h
    rw [← hdig]
    exact hval
  obtain rfl := restore_ok h
  have hid : s.id = id := (hkt.formed.named id s hget).2
  subst hid
  refine ⟨rfl, hman, rfl, ?_, ?_, ?_⟩
  · intro hstd
    exact ⟨hkt.formed.agreed _ s hget hstd, hkt.memory.stands _ s hget hstd, hkt.disk.stands _ s hget hstd⟩
  · intro _ hset hstd t ht
    cases hget.symm.trans ht
    exact ⟨hstd, unfinalized_of_unsettled hset⟩
  intro hset
  show b.finalizedAt s.id = false
  rw [finalizedAt_of_lookup hget]
  exact decide_eq_false (unfinalized_of_unsettled hset)

end

/-! ## Reconciliation -/

section
variable {total : Money} {b : Books} {x out : Budget String}

theorem holdDisposition_eq (hfrm : Formed b) {id : String} {s : Snapshot}
    (hget : lookup id b.snapshots = some s) : holdDisposition b.snapshots id = stateDisposition s.state := by
  unfold holdDisposition
  rw [if_neg (not_not.mpr (hfrm.named id s hget).1), hget]

theorem stateDisposition_stands (state : State) : stateDisposition state = .holdStands ↔ standing state = true := by
  cases state <;> simp [stateDisposition, standing]

/-- What reconciliation spends is what is stored as finalized. -/
theorem spends_eq (hfrm : Formed b) : spends b.snapshots = b.finalizedAt := by
  funext id
  unfold spends
  cases hget : lookup id b.snapshots with
  | none =>
    unfold holdDisposition Books.finalizedAt
    rw [hget]
    simp
  | some s =>
    rw [holdDisposition_eq hfrm hget, finalizedAt_of_lookup hget]
    cases s.state <;> rfl

/-- The hold the stored negotiations call for: the agreed price of one that stands, and nothing
    else. -/
def owed (b : Books) (id : String) : Option Nat :=
  (lookup id b.snapshots).bind fun s => if standing s.state then s.agreed.map (·.price.atomic) else none

theorem owed_congr {c : Books} (h : b.SameStore c) (id : String) : owed c id = owed b id := by
  unfold owed
  rw [h.1]

theorem Accounts.repaired_hold (h : Accounts total b x) (hfrm : Formed b)
    (hout : Repaired b.snapshots x out) (id : String) : out.hold id = owed b id := by
  rw [hout.hold]
  unfold owed
  cases hget : lookup id b.snapshots with
  | none =>
    have hreturn : holdDisposition b.snapshots id = .holdReturns := by
      unfold holdDisposition
      rw [hget]
      simp
    rw [hreturn]
    rfl
  | some s =>
    rw [holdDisposition_eq hfrm hget, Option.bind_some]
    cases hstd : standing s.state with
    | true =>
      obtain ⟨terms, htms⟩ := Option.isSome_iff_exists.mp (hfrm.agreed id s hget hstd)
      rw [if_pos ((stateDisposition_stands _).mpr hstd), if_pos rfl, h.stands id s hget hstd]
      unfold price
      rw [htms]
      rfl
    | false =>
      have hdispose : stateDisposition s.state ≠ .holdStands := fun h =>
        nomatch hstd.symm.trans ((stateDisposition_stands _).mp h)
      rw [if_neg hdispose]
      rfl

theorem Accounts.repaired_spent (h : Accounts total b x) (hfrm : Formed b)
    (hout : Repaired b.snapshots x out) : out.spent = paid b.everFinalized := by
  rw [hout.spent, spends_eq hfrm]
  exact h.spent

/-- **A reconciled budget accounts for the store.** -/
theorem Accounts.repaired (h : Accounts total b x) (hfrm : Formed b)
    (hout : Repaired b.snapshots x out) : Accounts total b out where
  within := hout.within
  asset := hout.asset.trans h.asset
  total := hout.total.trans h.total
  stands := by
    intro id s hget hstd
    obtain ⟨terms, htms⟩ := Option.isSome_iff_exists.mp (hfrm.agreed id s hget hstd)
    rw [h.repaired_hold hfrm hout]
    unfold owed price
    rw [hget, Option.bind_some, if_pos hstd, htms]
    rfl
  spent := by
    rw [h.repaired_spent hfrm hout]
    -- no hold is left of a negotiation that is stored as finalized
    have hno : Dir.totalWhere b.finalizedAt out.reserved = 0 := by
      unfold Dir.totalWhere
      rw [List.filter_eq_nil_iff.mpr]
      · rfl
      intro e he hfin
      have hhe : out.hold e.1 = some e.2 := hold_of_mem_entries he
      rw [h.repaired_hold hfrm hout] at hhe
      unfold owed at hhe
      unfold Books.finalizedAt at hfin
      cases hget : lookup e.1 b.snapshots with
      | none =>
        rw [hget] at hhe
        cases hhe
      | some s =>
        rw [hget] at hfin hhe
        have hst : s.state = .finalized := of_decide_eq_true hfin
        rw [Option.bind_some, hst] at hhe
        cases hhe
    rw [hno]
    rfl

end

/-! ## Runs -/

namespace Installation

variable {total : Money} {s : Installation}

/-- The use of the installation the result is about. -/
def Fit (s : Installation) : Input → Prop
  | .new id .. => s.books.finalizedAt id = true → s.books.budget.hold id = none
  | .drop id .. => s.books.finalizedAt id = true → s.books.budget.hold id = none
  | .actStale .. => False
  | _ => True

instance (s : Installation) : ∀ input, Decidable (s.Fit input)
  | .new id .. => inferInstanceAs (Decidable (s.books.finalizedAt id = true → s.books.budget.hold id = none))
  | .drop id .. => inferInstanceAs (Decidable (s.books.finalizedAt id = true → s.books.budget.hold id = none))
  | .actStale .. => isFalse id
  | .load .. | .act .. | .crash | .reopen .. => isTrue trivial

/-- **The invariant of an installation.** -/
structure Good (total : Money) (s : Installation) : Prop where
  formed : Formed s.books
  disk : Accounts total s.books (onDisk total s.books)
  awake : s.running = true → Kept total s.books
  objects : ∀ id n, lookup id s.current = some n → n.id = id ∧ Live total s.books n
  asleep : s.running = false → s.current = ∅

theorem good_of_kept (hkt : Kept total s.books) (hru : s.running = true)
    (hobject : ∀ id n, lookup id s.current = some n → n.id = id ∧ Live total s.books n) : Good total s :=
  ⟨hkt.formed, hkt.disk, fun _ => hkt, hobject, fun h => nomatch hru.symm.trans h⟩

/-- An object was made, and nothing else happened. -/
theorem Good.made (h : Good total s) (hru : s.running = true) {n : Negotiation}
    (hlv : Live total s.books n) : Good total (s.made n) := by
  exact good_of_kept (h.awake hru) hru (forall_insert h.objects ⟨rfl, hlv⟩)

theorem Good.start (h : Good total s) (hru : s.running = true) {n : Negotiation}
    (hst : n.state = .discussing) (hbud : n.budget = true) (hman : n.mandate.validate = .ok ())
    (hop : s.books.finalizedAt n.id = true → s.books.budget.hold n.id = none) (save : Written) :
    Good total (s.start n save) := by
  have hkt := h.awake hru
  have hstd : standing n.state = false := by rw [hst]; rfl
  have hfin : n.state ≠ .finalized := by rw [hst]; exact fun h => nomatch h
  have hno : standing n.content.state = true ∨ n.content.state = .finalized → Held total s.books n.content := by
    rintro (h' | h')
    · cases hstd.symm.trans h'
    · exact absurd h' hfin
  -- the records after the first state was written, and the objects there were before
  have hsto : s.books.snapshots.storable n.content = .ok () →
      Good total { s with books := s.books.stored n.content } := by
    intro hsr
    have hnm : negotiationNamePattern n.content.id = true := storable_named hsr
    refine good_of_kept (hkt.stored hnm hop hno) hru fun id n' hget => ?_
    obtain ⟨hid, hlv⟩ := h.objects id n' hget
    refine ⟨hid, ?_⟩
    by_cases hsm : n'.id = n.id
    · exact hlv.overwritten hsm.symm hstd hfin
    · exact hlv.stored hsm
  have hen := Desk.persist_cases save ⟨n, s.books⟩
  unfold Installation.start
  generalize Desk.persist save ⟨n, s.books⟩ = out at hen ⊢
  cases hen with
  | saved hsr =>
    refine (hsto hsr).made hru (live_stored hman hbud fun h' => ?_)
    cases hstd.symm.trans h'
  | unacknowledged e hsr => exact hsto hsr
  | refused e => exact h
  | unwritable e hinvalid => exact absurd hman hinvalid

theorem Good.act (h : Good total s) (hru : s.running = true) (id : String) (op : Op) (f : Faults) :
    Good total (s.act id op f) := by
  unfold Installation.act
  cases hget : lookup id s.current with
  | none => exact h
  | some n =>
    obtain ⟨rfl, hlv⟩ := h.objects id n hget
    have hadv := act_advances (d := ⟨n, s.books⟩) (h.awake hru) hlv op f
    refine good_of_kept hadv.kept hru fun id' n' hget' => ?_
    rw [lookup_insert_eq] at hget'
    split_ifs at hget' with hsm
    · cases hget'
      exact ⟨hadv.id.trans hsm.symm, hadv.own⟩
    · obtain ⟨rfl, hlive'⟩ := h.objects id' n' hget'
      exact ⟨rfl, hadv.others n' hsm hlive'⟩

theorem Good.drop (h : Good total s) (hru : s.running = true) {id : String}
    (hrem : s.books.finalizedAt id = true → s.books.budget.hold id = none) (now : Time) (remove : Written) :
    Good total { s with books := { s.books with snapshots := (s.books.snapshots.drop remove id now).2 } } := by
  unfold Negotiations.drop
  split
  · exact h
  · exact h
  unfold Written.put
  split_ifs
  · exact h
  refine good_of_kept ((h.awake hru).erased hrem) hru fun id' n hget => ?_
  obtain ⟨hid, hlv⟩ := h.objects id' n hget
  exact ⟨hid, hlv.erased⟩

/-! ### Restarts -/

/-- The books of a process that has just opened its budget: memory and disk are one. -/
theorem kept_of_ledger {b : Books} (hfrm : Formed b) {x : Budget String} (hled : onDisk total b = x)
    (hbud : b.budget = x) (hx : Accounts total b x) : Kept total b :=
  ⟨hfrm, hled ▸ hx, hbud ▸ hx, fun _ _ hno => hled ▸ hbud ▸ hno⟩

/-- **Opening the journal and the budget** over records that account for each other. If it succeeds,
    the budget is what reconciliation leaves of the ledger. -/
theorem Good.reopen (h : Good total s) (hasleep : s.running = false) (reconcile record : Written) :
    Good total (s.reopen total reconcile record)
      ∧ ((s.reopen total reconcile record).running = true →
          ∃ x, Accounts total s.books x ∧ Repaired s.books.snapshots x (s.reopen total reconcile record).books.budget
            ∧ onDisk total (s.reopen total reconcile record).books = (s.reopen total reconcile record).books.budget
            ∧ s.books.SameStore (s.reopen total reconcile record).books) := by
  have hemp : s.current = ∅ := h.asleep hasleep
  -- a state that keeps the store and has no objects is good if its ledger accounts for the store
  have hgood : ∀ t : Installation, s.books.SameStore t.books → t.current = ∅ →
      Accounts total s.books (onDisk total t.books) → (t.running = true → onDisk total t.books = t.books.budget) →
      Good total t := by
    intro t hstr hno hdk hbud
    have hfrm : Formed t.books := by
      refine ⟨?_, ?_, ?_⟩
      · rw [hstr.1]; exact h.formed.named
      · rw [hstr.1]; exact h.formed.agreed
      · rw [hstr.2]; exact h.formed.finals
    refine ⟨hfrm, hdk.congr hstr, fun hru => ?_, fun id n hget => ?_, fun _ => hno⟩
    · exact kept_of_ledger hfrm (hbud hru) rfl ((hbud hru) ▸ hdk.congr hstr)
    · rw [hno] at hget
      cases hget
  have hdk := h.disk
  unfold onDisk at hdk
  unfold Installation.reopen
  cases hled : s.books.ledger with
  | none =>
    -- no budget was ever recorded: the one that is opened holds nothing
    have hopn : Accounts total s.books (Budget.opened total) := by rwa [hled] at hdk
    have hdk : onDisk total { s.books with
        budget := Budget.opened total, ledger := record.put none (some (Budget.opened total)) } =
          Budget.opened total := by
      cases record <;> rfl
    refine ⟨hgood _ ⟨rfl, rfl⟩ hemp (hdk ▸ hopn) fun _ => hdk, fun _ => ⟨_, hopn, ?_, hdk, rfl, rfl⟩⟩
    refine ⟨hopn.within, rfl, rfl, rfl, fun id => ?_⟩
    split_ifs <;> rfl
  | some stored =>
    have hsto : Accounts total s.books stored := by rwa [hled] at hdk
    rw [reconcileCommerce]
    have hcases := reconcileBudgetFile_cases reconcile s.books.snapshots hsto.within
    have hok := reconcileBudgetFile_repaired (d := s.books.snapshots) (w := reconcile) hsto.within
    generalize reconcileBudgetFile reconcile s.books.snapshots stored = out at hcases hok ⊢
    obtain ⟨result, out⟩ := out
    have hout : Accounts total s.books out := by
      rcases hcases with hsm | hrepaired
      · rw [show out = stored from hsm]
        exact hsto
      · exact hsto.repaired h.formed hrepaired
    cases result with
    | error e =>
      have hdown : s.running ≠ true := Bool.eq_false_iff.mp hasleep
      exact ⟨hgood _ ⟨rfl, rfl⟩ hemp hout fun hru => absurd hru hdown, fun hru => absurd hru hdown⟩
    | ok _ =>
      -- the total is the one it was opened with, so the budget opens
      have hopens : openBudget total record { s.books with ledger := some out }
          = (true, { s.books with ledger := some out, budget := out }) := by
        unfold openBudget
        simp only
        rw [if_pos ⟨hout.asset, hout.total⟩]
      simp only [hopens]
      refine ⟨hgood _ ⟨rfl, rfl⟩ hemp hout fun _ => rfl, fun _ => ⟨stored, hsto, hok rfl, rfl, rfl, rfl⟩⟩

/-- **One event** of an installation that is used as `Fit` says. -/
theorem Good.step (h : Good total s) {input : Input} (hfit : s.Fit input) : Good total (s.step total input) := by
  cases input with
  | crash => exact ⟨h.formed, h.disk, nofun, forall_empty, fun _ => rfl⟩
  | reopen reconcile record =>
    rw [Installation.step]
    split_ifs with hru
    · exact h
    · exact (h.reopen (Bool.eq_false_iff.mpr hru) reconcile record).1
  | new id conversationID counterpartyAgentID mandate network now save =>
    rw [Installation.step]
    split_ifs with hru
    · split
      · exact h
      · next n hbeg =>
        obtain ⟨rfl, hst, hbud, hman⟩ := start_live hbeg
        exact h.start hru hst hbud hman hfit save
    · exact h
  | load id mandate =>
    rw [Installation.step]
    split_ifs with hru
    · cases hget : lookup id s.books.snapshots with
      | none => exact h
      | some snapshot =>
        rw [Installation.load]
        split
        · exact h
        · next n hrestore => exact h.made hru (restore_live (h.awake hru) hget hrestore).2
    · exact h
  | act id op f =>
    rw [Installation.step]
    split_ifs with hru
    · exact h.act hru id op f
    · exact h
  | actStale index op f => exact hfit.elim
  | drop id now remove =>
    rw [Installation.step]
    split_ifs with hru
    · exact h.drop hru hfit now remove
    · exact h

theorem fresh_good (htot : total.validate = .ok ()) : Good total (fresh total) where
  formed := ⟨forall_empty, forall_empty, List.forall_mem_nil _⟩
  disk := ⟨Budget.opened_within htot, rfl, rfl, forall_empty, rfl⟩
  awake := nofun
  objects := forall_empty
  asleep := fun _ => rfl

/-- The installation after the process ended and the journal and the budget were opened again. -/
def restarted (total : Money) (s : Installation) (reconcile record : Written) : Installation :=
  (s.step total .crash).step total (.reopen reconcile record)

/-- **Holds and spending after a restart.** In every run that is used as `Fit` says, with any write
    failing, in effect or not, and a crash anywhere: once the budget is open again, the holds, in
    memory and on disk, are exactly the agreed prices of what stands agreed or canonicalising, and
    what was spent is the price of everything that was ever stored as finalized, each once. -/
theorem settled_after_restart (htotal : total.validate = .ok ()) {inputs : List Input}
    (hfit : Along (Installation.step total) Fit (fresh total) inputs) (reconcile record : Written)
    (hopen : (restarted total (run (Installation.step total) (fresh total) inputs) reconcile record).running = true) :
    ∃ after, restarted total (run (Installation.step total) (fresh total) inputs) reconcile record = after
      ∧ (∀ id, after.books.budget.hold id = owed after.books id
          ∧ (onDisk total after.books).hold id = owed after.books id)
      ∧ after.books.budget.spent = paid after.books.everFinalized
      ∧ (onDisk total after.books).spent = paid after.books.everFinalized := by
  have hgood : Good total (run (Installation.step total) (fresh total) inputs) :=
    hfit.invariant (fun _ _ hs hinp => hs.step hinp) (fresh_good htotal)
  have hcrash : Good total ((run (Installation.step total) (fresh total) inputs).step total .crash) :=
    hgood.step trivial
  have hreopen := hcrash.reopen rfl reconcile record
  obtain ⟨x, hx, hrepaired, hdk, hstr⟩ := hreopen.2 hopen
  have hsp := hx.repaired_spent hcrash.formed hrepaired
  rw [← hstr.2] at hsp
  refine ⟨_, rfl, fun id => ?_, hsp, (congrArg Budget.spent hdk).trans hsp⟩
  have hho := hx.repaired_hold hcrash.formed hrepaired id
  rw [← owed_congr hstr] at hho
  exact ⟨hho, (congrArg (fun y => Budget.hold y id) hdk).trans hho⟩

/-- The sample exchange in an installation of its own; the ledger write of its finalisation fails. -/
def dealInputs : List Input :=
  [.reopen .done .done, .new "deal" ⟨1⟩ ⟨2⟩ dealMandate (some dealNetwork) 5 .done]
    ++ dealOps.map fun op => .act "deal" op { record := if op matches .finalize .. then .refused else .done }

/-- The sample exchange, restarted: its hold is found and spent. -/
theorem deal_settled :
    ∃ after, restarted dealMandate.maxTotal
        (run (Installation.step dealMandate.maxTotal) (fresh dealMandate.maxTotal) dealInputs) .done .done = after
      ∧ (∀ id, after.books.budget.hold id = owed after.books id
          ∧ (onDisk dealMandate.maxTotal after.books).hold id = owed after.books id)
      ∧ after.books.budget.spent = paid after.books.everFinalized
      ∧ (onDisk dealMandate.maxTotal after.books).spent = paid after.books.everFinalized :=
  settled_after_restart (by decide +kernel) (by decide +kernel) .done .done (by decide +kernel)

/-- **A shared budget is not overspent.** In every run as `Fit` says, at every moment: all that was
    ever stored as finalized costs no more than the budget's total. -/
theorem paid_within_total (htotal : total.validate = .ok ()) {inputs : List Input}
    (hfit : Along (Installation.step total) Fit (fresh total) inputs) :
    paid (run (Installation.step total) (fresh total) inputs).books.everFinalized ≤ total.atomic := by
  have hdk := (hfit.invariant (fun _ _ hs hinp => hs.step hinp) (fresh_good htotal)).disk
  -- what was finalized is spent, or still held
  refine le_trans ?_ (hdk.within.bounded.trans_eq hdk.total)
  rw [← hdk.spent]
  exact Nat.add_le_add_left ((List.filter_sublist.map _).sum_le_sum fun _ _ => Nat.zero_le _) _

theorem deal_within_total :
    paid (run (Installation.step dealMandate.maxTotal) (fresh dealMandate.maxTotal) dealInputs).books.everFinalized
      ≤ 10 :=
  paid_within_total (by decide +kernel) (by decide +kernel)

/-- The sample exchange, dropped before the restart. -/
def dealDropped : Installation :=
  restarted dealMandate.maxTotal
    (run (Installation.step dealMandate.maxTotal) (fresh dealMandate.maxTotal) (dealInputs ++ [.drop "deal" 20 .done]))
    .done .done

/-- **A finalized purchase that is never spent.** The store permits the drop, since the negotiation
    is settled; the hold it left is given back at the restart, and the price of six appears nowhere. -/
theorem dropped_unpaid :
    dealDropped.running = true ∧ dealDropped.books.everFinalized.map price = [6]
      ∧ dealDropped.books.budget.hold "deal" = none ∧ dealDropped.books.budget.spent = 0
      ∧ dealDropped.books.ledger.map Budget.spent = some 0 := by
  decide +kernel

end Installation

end Messenger.Eventlog
