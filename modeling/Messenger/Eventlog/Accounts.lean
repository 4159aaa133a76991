import Messenger.Eventlog.Installation
import Messenger.Eventlog.Reconciliation

/-!
# `Eventlog.Accounts` — a budget that accounts for the stored negotiations

`Accounts total b x` relates a budget `x` to the stored negotiations of `b`: what stands agreed is
held at the agreed price, and what was spent, with the holds of negotiations stored as finalized, is
the price of everything that was ever stored as finalized. It is kept for the budget in memory and
for the one on disk, which part when a ledger write took effect without being acknowledged.

- **`Kept`**: both budgets account for the store.
- **`Live`**: what is true of a current object, whose memory may be ahead of its record.
- **`Advances`**: what one operation of a current object leaves of all this (`act_advances`), from
  one lemma for each of its writes.
-/

set_option linter.dupNamespace false

namespace Messenger.Eventlog

open Lib Negotiation

/-! ## Snapshots and budgets -/

/-- Agreed, or on the way to a commitment: the states in which the price is held. -/
def standing : State → Bool
  | .intentAgreed | .canonicalizationPending => true
  | _ => false

/-- The agreed price. -/
def price (s : Snapshot) : Nat := (s.agreed.map fun terms => terms.price.atomic).getD 0

/-- The price of everything that was ever stored as finalized. -/
def paid (finalized : List Snapshot) : Nat := (finalized.map price).sum

variable (total : Money) (b : Books)

/-- The budget on disk; before its first record it is the one a first opening would write. -/
def onDisk : Budget String := b.ledger.getD (Budget.opened total)

/-- **A budget that accounts for the stored negotiations.** -/
structure Accounts (x : Budget String) : Prop where
  within : x.Within
  asset : x.asset = total.asset
  total : x.total = total.atomic
  stands : ∀ id s, lookup id b.snapshots = some s → standing s.state = true → x.hold id = some (price s)
  spent : x.spent + Dir.totalWhere b.finalizedAt x.reserved = paid b.everFinalized

section
variable {total : Money} {b : Books} {x : Budget String} {id : String} {s : Snapshot}

/-- Only the stored negotiations matter. -/
theorem Accounts.congr {c : Books} (h : Accounts total b x) (hstr : b.SameStore c) : Accounts total c x where
  within := h.within
  asset := h.asset
  total := h.total
  stands := by
    rw [hstr.1]
    exact h.stands
  spent := by
    unfold Books.finalizedAt
    rw [hstr.1, hstr.2]
    exact h.spent

theorem amount_of_no_hold (h : x.hold id = none) : Dir.amount x.reserved id = 0 := by
  unfold Dir.amount
  rw [show lookup id x.reserved = none from h]
  rfl

theorem finalizedAt_of_lookup (h : lookup id b.snapshots = some s) :
    b.finalizedAt id = decide (s.state = .finalized) := by
  unfold Books.finalizedAt
  rw [h]
  rfl

theorem finalizedAt_stored (b : Books) (s : Snapshot) (id : String) :
    (b.stored s).finalizedAt id = if id = s.id then decide (s.state = .finalized) else b.finalizedAt id := by
  unfold Books.finalizedAt
  rw [show (b.stored s).snapshots = b.snapshots.insert s.id s from rfl, lookup_insert_eq]
  split_ifs <;> rfl

theorem finalizedAt_erased (b : Books) (id id' : String) :
    ({ b with snapshots := b.snapshots.erase id } : Books).finalizedAt id'
      = if id' = id then false else b.finalizedAt id' := by
  unfold Books.finalizedAt
  rw [lookup_erase_eq]
  split_ifs <;> rfl

variable (h : Accounts total b x)

include h

/-- **A snapshot is written.** It may stand, or become final, only over a hold of its price, and it
    may replace a finalized one only when that one's hold is gone. -/
theorem Accounts.stored (hreplaced : b.finalizedAt s.id = true → x.hold s.id = none)
    (hhe : standing s.state = true ∨ s.state = .finalized ∧ b.finalizedAt s.id = false →
      x.hold s.id = some (price s)) : Accounts total (b.stored s) x := by
  refine { h with stands := ?_, spent := ?_ }
  · intro id t hget hstd
    rcases lookup_insert_cases hget with ⟨rfl, rfl⟩ | hold
    · exact hhe (.inl hstd)
    · exact h.stands id t hold hstd
  have hoth : ∀ id, id ≠ s.id → b.finalizedAt id = (b.stored s).finalizedAt id := by
    intro id hne
    rw [finalizedAt_stored, if_neg hne]
  have hcg := Dir.totalWhere_congr hoth x.reserved
  have hnow : (b.stored s).finalizedAt s.id = decide (s.state = .finalized) := by
    rw [finalizedAt_stored, if_pos rfl]
  have hsp := h.spent
  rw [hnow] at hcg
  show x.spent + Dir.totalWhere (b.stored s).finalizedAt x.reserved
    = paid (if s.state = .finalized ∧ ¬b.finalizedAt s.id then s :: b.everFinalized else b.everFinalized)
  cases hwas : b.finalizedAt s.id with
  | true =>
    -- the negotiation was final before: its hold was spent then
    rw [amount_of_no_hold (hreplaced hwas)] at hcg
    simp only [ite_self, Nat.add_zero] at hcg
    rw [if_neg (by simp), ← hcg]
    exact hsp
  | false =>
    rw [hwas] at hcg
    by_cases hfin : s.state = .finalized
    · rw [Budget.amount_of_hold (hhe (.inr ⟨hfin, hwas⟩))] at hcg
      rw [if_pos ⟨hfin, by simp⟩]
      simp only [hfin, decide_true, if_true, Bool.false_eq_true, if_false, Nat.add_zero] at hcg
      show _ = price s + paid b.everFinalized
      omega
    simp only [hfin, decide_false, Bool.false_eq_true, if_false, Nat.add_zero] at hcg
    rw [if_neg fun hc => hfin hc.1, ← hcg]
    exact hsp

/-- **A snapshot is removed**, and no hold of a finalized negotiation goes with it. -/
theorem Accounts.erased (hrem : b.finalizedAt id = true → x.hold id = none) :
    Accounts total { b with snapshots := b.snapshots.erase id } x := by
  refine { h with stands := ?_, spent := ?_ }
  · exact fun id' t hget => h.stands id' t (lookup_erase_some hget).2
  have hoth : ∀ id', id' ≠ id →
      b.finalizedAt id' = ({ b with snapshots := b.snapshots.erase id } : Books).finalizedAt id' := by
    intro id' hne
    rw [finalizedAt_erased, if_neg hne]
  have hcg := Dir.totalWhere_congr hoth x.reserved
  rw [finalizedAt_erased, if_pos rfl] at hcg
  have hgo : (if b.finalizedAt id = true then Dir.amount x.reserved id else 0) = 0 := by
    split_ifs with hwas
    · exact amount_of_no_hold (hrem hwas)
    · rfl
  rw [hgo] at hcg
  simp only [Bool.false_eq_true, if_false, Nat.add_zero] at hcg
  rw [← hcg]
  exact h.spent

/-- The negotiation neither stands nor is final, as far as the store knows. -/
def Idle (b : Books) (id : String) : Prop :=
  ∀ s, lookup id b.snapshots = some s → standing s.state = false ∧ s.state ≠ .finalized

omit h in
theorem Idle.unfinalized (h : Idle b id) : b.finalizedAt id = false := by
  cases hget : lookup id b.snapshots with
  | none =>
    unfold Books.finalizedAt
    rw [hget]
    rfl
  | some s =>
    rw [finalizedAt_of_lookup hget]
    exact decide_eq_false (h s hget).2

/-- **A budget is changed** for one negotiation, which does not stand. -/
theorem Accounts.changed {y : Budget String} (hwi : y.Within) (hast : y.asset = x.asset)
    (htot : y.total = x.total) (hhs : ∀ id', id' ≠ id → y.hold id' = x.hold id')
    (hstd : ∀ s, lookup id b.snapshots = some s → standing s.state = false)
    (hsp : y.spent + Dir.totalWhere b.finalizedAt y.reserved = x.spent + Dir.totalWhere b.finalizedAt x.reserved) :
    Accounts total b y where
  within := hwi
  asset := hast.trans h.asset
  total := htot.trans h.total
  stands := by
    intro id' s hget hsn
    rw [hhs, h.stands id' s hget hsn]
    rintro rfl
    cases (hstd s hget).symm.trans hsn
  spent := hsp.trans h.spent

/-- **A hold is taken** for a negotiation that is idle. -/
theorem Accounts.reserved (hidle : Idle b id) {amt : Nat}
    (hwi : ({ x with reserved := x.reserved.insert id amt } : Budget String).Within) :
    Accounts total b { x with reserved := x.reserved.insert id amt } := by
  refine h.changed hwi rfl rfl (fun id' hne => (Budget.hold_insert ..).trans (if_neg hne))
    (fun s hget => (hidle s hget).1) ?_
  have hers := Dir.totalWhere_erase b.finalizedAt x.reserved id
  rw [hidle.unfinalized] at hers
  rw [Dir.totalWhere_insert, hidle.unfinalized]
  simp only [Bool.false_eq_true, if_false] at hers ⊢
  omega

/-- **A hold goes back** for a negotiation that is idle. -/
theorem Accounts.released (hidle : Idle b id)
    (hwi : ({ x with reserved := x.reserved.erase id } : Budget String).Within) :
    Accounts total b { x with reserved := x.reserved.erase id } := by
  refine h.changed hwi rfl rfl (fun id' hne => (Budget.hold_erase x x.spent ..).trans (if_neg hne))
    (fun s hget => (hidle s hget).1) ?_
  have hers := Dir.totalWhere_erase b.finalizedAt x.reserved id
  rw [hidle.unfinalized] at hers
  simp only [Bool.false_eq_true, if_false] at hers
  dsimp only
  omega

/-- **A hold becomes a spend** for a negotiation that is stored as finalized. -/
theorem Accounts.committed (hfin : b.finalizedAt id = true) {amt : Nat}
    (hhe : x.hold id = some amt) :
    Accounts total b { x with spent := x.spent + amt, reserved := x.reserved.erase id } := by
  refine h.changed (h.within.spend hhe) rfl rfl
    (fun id' hne => (Budget.hold_erase x (x.spent + amt) ..).trans (if_neg hne)) ?_ ?_
  · intro s hget
    rw [finalizedAt_of_lookup hget, decide_eq_true_eq] at hfin
    rw [hfin]
    rfl
  have hers := Dir.totalWhere_erase b.finalizedAt x.reserved id
  rw [hfin, Budget.amount_of_hold hhe] at hers
  simp only [if_true] at hers
  dsimp only
  omega

end

/-! ## Both budgets, and the objects in memory -/

/-- The stored negotiations, each under its own name and with agreed terms where a price is owed. -/
structure Formed : Prop where
  named : ∀ id s, lookup id b.snapshots = some s → negotiationNamePattern id = true ∧ s.id = id
  agreed : ∀ id s, lookup id b.snapshots = some s → standing s.state = true → s.agreed.isSome
  finals : ∀ s ∈ b.everFinalized, s.state = .finalized ∧ s.agreed.isSome

/-- The records and the memory of a running installation. -/
structure Kept : Prop where
  formed : Formed b
  disk : Accounts total b (onDisk total b)
  memory : Accounts total b b.budget
  tied : ∀ id, b.finalizedAt id = true → b.budget.hold id = none → (onDisk total b).hold id = none

/-- The agreed price is held, in memory and on disk. -/
def Held (s : Snapshot) : Prop :=
  s.agreed.isSome ∧ b.budget.hold s.id = some (price s) ∧ (onDisk total b).hold s.id = some (price s)

/-- **A current object.** Its record may be behind it, but never so that an operation could strand a
    hold. -/
structure Live (n : Negotiation) : Prop where
  mandate : n.mandate.validate = .ok ()
  budget : n.budget = true
  held : standing n.state = true → Held total b n.content
  bargaining : n.poisoned = false → n.settled = false → standing n.state = false → Idle b n.id
  unsettled : n.settled = false → b.finalizedAt n.id = false

/-- **What an operation of a current object leaves.** -/
structure Advances (d d' : Desk) : Prop where
  kept : Kept total d'.books
  own : Live total d'.books d'.negotiation
  others : ∀ n, n.id ≠ d.negotiation.id → Live total d.books n → Live total d'.books n
  id : d'.negotiation.id = d.negotiation.id

section
variable {total : Money} {b : Books} {d d' d'' : Desk} {n : Negotiation}

theorem Advances.trans (h : Advances total d d') (h' : Advances total d' d'') : Advances total d d'' where
  kept := h'.kept
  own := h'.own
  others := fun n hne hlv => h'.others n (fun hid => hne (hid.trans h.id)) (h.others n hne hlv)
  id := h'.id.trans h.id

/-! ### The write of the ledger -/

variable {next : Budget String} {s : Snapshot}

/-- A ledger write, of a budget that accounts for the store and forgets no hold of a finalized
    negotiation. -/
theorem Kept.record (h : Kept total b) (hnx : Accounts total b next)
    (hdown : ∀ id, b.finalizedAt id = true → b.budget.hold id = none → next.hold id = none)
    (w : Written) : Kept total (b.record w next).2 := by
  have hstr := Books.record_sameStore w next b
  have hfrm : Formed (b.record w next).2 := ⟨h.formed.named, h.formed.agreed, h.formed.finals⟩
  cases w with
  | done => exact ⟨hfrm, hnx.congr hstr, hnx.congr hstr, fun _ _ hno => hno⟩
  | refused => exact ⟨hfrm, h.disk.congr hstr, h.memory.congr hstr, h.tied⟩
  | unacknowledged => exact ⟨hfrm, hnx.congr hstr, h.memory.congr hstr, hdown⟩

/-- Objects whose hold the write does not touch. -/
theorem Live.record (h : Live total b n) (hsm : next.hold n.id = b.budget.hold n.id) (w : Written) :
    Live total (b.record w next).2 n := by
  refine { h with held := fun hstd => ?_ }
  obtain ⟨hagr, hmemory, hdk⟩ := h.held hstd
  cases w with
  | done => exact ⟨hagr, hsm.trans hmemory, hsm.trans hmemory⟩
  | refused => exact ⟨hagr, hmemory, hdk⟩
  | unacknowledged => exact ⟨hagr, hmemory, hsm.trans hmemory⟩

/-! ### The write of a snapshot -/

theorem Formed.stored (h : Formed b) (hnm : negotiationNamePattern s.id = true)
    (hagr : standing s.state = true ∨ s.state = .finalized → s.agreed.isSome) : Formed (b.stored s) where
  named := forall_insert h.named ⟨hnm, rfl⟩
  agreed := forall_insert h.agreed fun hstd => hagr (.inl hstd)
  finals := by
    intro t hmem
    rw [show (b.stored s).everFinalized = if s.state = .finalized ∧ ¬b.finalizedAt s.id then s :: b.everFinalized
      else b.everFinalized from rfl] at hmem
    split_ifs at hmem with hfin
    · rcases List.mem_cons.mp hmem with rfl | hmem
      · exact ⟨hfin.1, hagr (.inr hfin.1)⟩
      · exact h.finals t hmem
    · exact h.finals t hmem

theorem Kept.stored (h : Kept total b) (hnm : negotiationNamePattern s.id = true)
    (hop : b.finalizedAt s.id = true → b.budget.hold s.id = none)
    (hhe : standing s.state = true ∨ s.state = .finalized → Held total b s) : Kept total (b.stored s) where
  formed := h.formed.stored hnm fun hst => (hhe hst).1
  disk := by
    refine Accounts.stored (b := b) h.disk (fun hfin => h.tied _ hfin (hop hfin)) fun hst => ?_
    exact (hhe (hst.imp id And.left)).2.2
  memory := by
    refine Accounts.stored (b := b) h.memory hop fun hst => ?_
    exact (hhe (hst.imp id And.left)).2.1
  tied := by
    intro id hfin hno
    rw [finalizedAt_stored] at hfin
    split_ifs at hfin with hid
    · rw [hid, show (b.stored s).budget.hold s.id = _ from (hhe (.inr (of_decide_eq_true hfin))).2.1] at hno
      cases hno
    · exact h.tied id hfin hno

/-- Objects of other negotiations. -/
theorem Live.stored (h : Live total b n) (hne : n.id ≠ s.id) : Live total (b.stored s) n := by
  have hget : lookup n.id (b.stored s).snapshots = lookup n.id b.snapshots := lookup_insert_ne hne
  refine { h with bargaining := ?_, unsettled := ?_ }
  · intro huse hset hstd t ht
    rw [hget] at ht
    exact h.bargaining huse hset hstd t ht
  intro hset
  rw [finalizedAt_stored, if_neg hne]
  exact h.unsettled hset

theorem storable_named (h : b.snapshots.storable s = .ok ()) : negotiationNamePattern s.id = true := by
  unfold Negotiations.storable at h
  simp only [seq_ok, failIf_ok, not_not] at h
  obtain ⟨_, -, _, hnm, -⟩ := h
  exact hnm

/-! ### The writes of an object -/

theorem Live.poison (h : Live total b n) : Live total b { n with poisoned := true } :=
  { h with bargaining := fun huse => nomatch huse }

/-- The object that was just written. -/
theorem live_stored (hman : n.mandate.validate = .ok ()) (hbud : n.budget = true)
    (hhe : standing n.state = true → Held total b n.content) : Live total (b.stored n.content) n where
  mandate := hman
  budget := hbud
  held := hhe
  bargaining := by
    intro _ hset hstd t hget
    rw [show lookup n.id (b.stored n.content).snapshots = some n.content from lookup_insert _] at hget
    cases hget
    exact ⟨hstd, unfinalized_of_unsettled hset⟩
  unsettled := by
    intro hset
    rw [finalizedAt_stored, if_pos (show n.id = n.content.id from rfl)]
    exact decide_eq_false (unfinalized_of_unsettled hset)

/-- **The object is written**, from a negotiation that was not final: the price is held if the
    object stands or is final. -/
theorem persist_advances (hkt : Kept total d.books) (hman : d.negotiation.mandate.validate = .ok ())
    (hbud : d.negotiation.budget = true) (hfree : d.books.finalizedAt d.negotiation.id = false)
    (hhe : standing d.negotiation.state = true ∨ d.negotiation.state = .finalized →
      Held total d.books d.negotiation.content) (w : Written) : Advances total d (d.persist w).2 := by
  have hsto : d.books.snapshots.storable d.negotiation.content = .ok () →
      Kept total (d.books.stored d.negotiation.content) := fun hsr =>
    hkt.stored (s := d.negotiation.content) (storable_named hsr)
      (fun hfin => nomatch hfree.symm.trans hfin) hhe
  have hown := live_stored (b := d.books) hman hbud fun hstd => hhe (.inl hstd)
  have hen := Desk.persist_cases w d
  generalize d.persist w = out at hen ⊢
  cases hen with
  | saved hsr =>
    exact ⟨hsto hsr, hown, fun n hne hlv => hlv.stored hne, rfl⟩
  | unacknowledged e hsr =>
    exact ⟨hsto hsr, hown.poison, fun n hne hlv => hlv.stored hne, rfl⟩
  | refused e =>
    refine ⟨hkt, ⟨hman, hbud, fun hstd => hhe (.inl hstd), ?_, fun _ => hfree⟩, fun _ _ h => h, rfl⟩
    exact fun huse => nomatch huse
  | unwritable e hinvalid => exact absurd hman hinvalid

/-- After a write that succeeded, the store has the object. -/
theorem persist_ok {w : Written} (h : (d.persist w).1 = .ok ()) : (d.persist w).2 = d.kept := by
  have hen := Desk.persist_cases w d
  generalize d.persist w = out at hen h ⊢
  cases hen with
  | saved hsr => rfl
  | unacknowledged e hsr => cases h
  | refused e => cases h
  | unwritable e hinvalid => cases h

/-! ### The writes of the budget -/

theorem onBudget_eq (hbud : d.negotiation.budget = true) (change : Books → Except Failure Unit × Books) :
    d.onBudget change = ((change d.books).1, { d with books := (change d.books).2 }) := by
  unfold Desk.onBudget
  rw [if_pos hbud]

theorem onBudget_object (d : Desk) (change : Books → Except Failure Unit × Books) :
    (d.onBudget change).2.negotiation = d.negotiation := by
  unfold Desk.onBudget
  split_ifs <;> rfl

/-- The object moves in memory first. -/
theorem Advances.moved (h : Advances total (d.moved n) d') (hid : n.id = d.negotiation.id) : Advances total d d' where
  kept := h.kept
  own := h.own
  others := fun n' hne hlv => h.others n' (fun hid' => hne (hid'.trans hid)) hlv
  id := h.id.trans hid

/-- A transition that writes the object, from a negotiation that was not final. -/
theorem save_advances (hkt : Kept total d.books) (hid : n.id = d.negotiation.id)
    (hman : n.mandate.validate = .ok ()) (hbud : n.budget = true) (hfree : d.books.finalizedAt n.id = false)
    (hhe : standing n.state = true ∨ n.state = .finalized → Held total d.books n.content)
    (w : Written) : Advances total d ((d.moved n).persist w).2 :=
  Advances.moved (persist_advances (d := d.moved n) hkt hman hbud hfree hhe w) hid

section
variable (hkt : Kept total d.books) (hlv : Live total d.books d.negotiation)

include hkt hlv

section
variable (hstd : standing d.negotiation.state = false)

include hstd

/-- A ledger write that touches the hold of this negotiation alone, which does not stand. -/
theorem record_advances (hnx : Accounts total d.books next)
    (hsm : ∀ id, id ≠ d.negotiation.id → next.hold id = d.books.budget.hold id)
    (hdown : d.books.finalizedAt d.negotiation.id = true → next.hold d.negotiation.id = none)
    (w : Written) : Advances total d { d with books := (d.books.record w next).2 } where
  kept := by
    refine hkt.record hnx (fun id hfin hno => ?_) w
    by_cases hid : id = d.negotiation.id
    · rw [hid] at hfin ⊢
      exact hdown hfin
    · exact (hsm id hid).trans hno
  own := { hlv with held := fun hstd' => nomatch hstd.symm.trans hstd' }
  others := fun n hne hoth => hoth.record (hsm n.id hne) w
  id := rfl

/-- **The price is held** for a negotiation that is idle. -/
theorem reserve_advances (hidle : Idle d.books d.negotiation.id) (amt : Money) (w : Written) :
    Advances total d (d.onBudget (Books.reserve w d.negotiation.id amt)).2
      ∧ ((d.onBudget (Books.reserve w d.negotiation.id amt)).1 = .ok () →
        (d.onBudget (Books.reserve w d.negotiation.id amt)).2.books.budget.hold d.negotiation.id = some amt.atomic
          ∧ (onDisk total (d.onBudget (Books.reserve w d.negotiation.id amt)).2.books).hold d.negotiation.id
            = some amt.atomic) := by
  rw [onBudget_eq hlv.budget]
  unfold Books.reserve
  cases hres : d.books.budget.reserve d.negotiation.id amt with
  | error e => exact ⟨⟨hkt, hlv, fun _ _ h => h, rfl⟩, fun h => nomatch h⟩
  | ok next =>
    obtain ⟨-, rfl, hwi⟩ := hkt.memory.within.reserve hres
    refine ⟨record_advances hkt hlv hstd (hkt.memory.reserved hidle hwi) ?_ ?_ w, ?_⟩
    · intro id hne
      rw [Budget.hold_insert, if_neg hne]
    · intro hfin
      cases hidle.unfinalized.symm.trans hfin
    intro hok
    have hown : ({ d.books.budget with
        reserved := d.books.budget.reserved.insert d.negotiation.id amt.atomic } : Budget String).hold
          d.negotiation.id = some amt.atomic := by
      rw [Budget.hold_insert, if_pos rfl]
    cases w with
    | done => exact ⟨hown, hown⟩
    | refused => cases hok
    | unacknowledged => cases hok

/-- **The hold goes back** for a negotiation that is idle. -/
theorem release_advances (hidle : Idle d.books d.negotiation.id) (w : Written) :
    Advances total d (d.onBudget (Books.release w d.negotiation.id)).2 := by
  rw [onBudget_eq hlv.budget]
  unfold Books.release
  cases hrel : d.books.budget.release d.negotiation.id with
  | none => exact ⟨hkt, hlv, fun _ _ h => h, rfl⟩
  | some next =>
    have hwi := hkt.memory.within.release hrel
    unfold Budget.release at hrel
    split at hrel
    · cases hrel
    cases hrel
    refine record_advances hkt hlv hstd (hkt.memory.released hidle hwi) ?_ ?_ w
    · intro id hne
      rw [Budget.hold_erase d.books.budget d.books.budget.spent, if_neg hne]
    · intro hfin
      cases hidle.unfinalized.symm.trans hfin

/-- **The hold becomes a spend** for a negotiation that is stored as finalized. -/
theorem commit_advances (hfin : d.books.finalizedAt d.negotiation.id = true)
    {amt : Nat} (hhe : d.books.budget.hold d.negotiation.id = some amt) (w : Written) :
    Advances total d (d.onBudget (Books.commit w d.negotiation.id)).2 := by
  rw [onBudget_eq hlv.budget]
  unfold Books.commit
  rw [hkt.memory.within.solvent.commit hhe]
  refine record_advances hkt hlv hstd (hkt.memory.committed hfin hhe) ?_ ?_ w
  · intro id hne
    rw [Budget.hold_erase d.books.budget (d.books.budget.spent + amt), if_neg hne]
  · intro _
    rw [Budget.hold_erase d.books.budget (d.books.budget.spent + amt), if_pos rfl]

end

/-! ### One operation -/

theorem Advances.refl : Advances total d d :=
  ⟨hkt, hlv, fun _ _ h => h, rfl⟩

/-- A transition that writes the object and gives its hold back. -/
theorem free_advances
    (hset : d.negotiation.settled = false) (hid : n.id = d.negotiation.id) (hman : n.mandate = d.negotiation.mandate)
    (hbud : n.budget = d.negotiation.budget) (hstd : standing n.state = false) (hfin : n.state ≠ .finalized)
    (f : Faults) (result : Except Failure Unit) : Advances total d (d.perform f (.free n result)).2 := by
  have hpersist : Advances total d ((d.moved n).persist f.save).2 := by
    refine save_advances hkt hid ?_ ?_ ?_ ?_ f.save
    · rw [hman]
      exact hlv.mandate
    · rw [hbud]
      exact hlv.budget
    · rw [hid]
      exact hlv.unsettled hset
    rintro (hstd' | hfinal')
    · cases hstd.symm.trans hstd'
    · exact absurd hfinal' hfin
  refine Desk.andThen_ends (P := Advances total d) (fun _ _ => hpersist) fun hok => ?_
  -- the store has the object, which is idle
  rw [persist_ok hok] at hpersist ⊢
  have hidle : Idle (d.moved n).kept.books n.id := by
    intro t hget
    rw [show lookup n.id (d.moved n).kept.books.snapshots = some n.content from lookup_insert _] at hget
    cases hget
    exact ⟨hstd, hfin⟩
  have hrel := hpersist.trans (release_advances hpersist.kept hpersist.own hstd hidle f.record)
  exact Desk.andThen_ends (P := Advances total d) (fun _ _ => hrel) fun _ => hrel

/-- **The writes of one transition**, whichever of them fail. -/
theorem perform_advances {op : Op} {p : Plan}
    (hmv : Moves d.negotiation op p) (f : Faults) : Advances total d (d.perform f p).2 := by
  cases hmv with
  | stay => exact Advances.refl hkt hlv
  | @table _ terms state counteroffers hop hbd hst =>
    have hidle : standing state = true ∨ state = .finalized → False := by
      rintro (hstd | hfin)
      · rcases hst with rfl | rfl <;> cases hstd
      · rcases hst with rfl | rfl <;> cases hfin
    refine save_advances hkt ?_ ?_ ?_ ?_ ?_ f.save
    exacts [rfl, hlv.mandate, hlv.budget, hlv.unsettled hop.unsettled, fun h => (hidle h).elim]
  | @agree terms now needsApproval hop htms hpmt =>
    have hstd : standing d.negotiation.state = false := by
      cases hst : d.negotiation.state with
      | intentAgreed => exact absurd hst hop.unagreed
      | canonicalizationPending => exact absurd hst hop.uncanonical
      | discussing | proposalPending | counterproposalPending | finalized | rejected | withdrawn | expired => rfl
    have hidle := hlv.bargaining hop.usable hop.unsettled hstd
    obtain ⟨hres, hhe⟩ := reserve_advances hkt hlv hstd hidle terms.price f.record
    refine Desk.andThen_ends (P := Advances total d) (fun _ _ => hres) fun hok => ?_
    refine hres.trans ?_
    have hfree := hres.own.unsettled
    rw [onBudget_object] at hfree
    refine save_advances hres.kept ?_ ?_ ?_ ?_ ?_ f.save
    exacts [hres.id.symm, hlv.mandate, hlv.budget, hfree hop.unsettled, fun _ => ⟨rfl, hhe hok⟩]
  | reopen hst =>
    refine free_advances hkt hlv (unsettled_of_agreed hst) ?_ ?_ ?_ ?_ ?_ f _
    exacts [rfl, rfl, rfl, rfl, fun h => nomatch h]
  | settle hset hst =>
    refine free_advances hkt hlv hset ?_ ?_ ?_ ?_ ?_ f _
    · rfl
    · rfl
    · rfl
    · rcases hst with rfl | rfl | rfl <;> rfl
    · rintro hfin
      rcases hst with rfl | rfl | rfl <;> cases hfin
  | approve hst htms | canonicalize huse hst hauth hbud hapd =>
    have hstd : standing d.negotiation.state = true := by rw [hst]; rfl
    refine save_advances hkt ?_ ?_ ?_ ?_ ?_ f.save
    exacts [rfl, hlv.mandate, hlv.budget, hlv.unsettled (unsettled_of_agreed hst), fun _ => hlv.held hstd]
  | @finalize resolver cmt quote terms now needsApproval huse hst hbud htms hso hcmt hquo
      hnet hval hapd hpmt =>
    have hstd : standing d.negotiation.state = true := by rw [hst]; rfl
    have hset : d.negotiation.settled = false := by
      unfold Negotiation.settled
      rw [hst]
      rfl
    have hpersist := save_advances hkt
      (n := { d.negotiation with commitment := cmt, quote := some quote, state := .finalized }) rfl
      hlv.mandate hlv.budget (hlv.unsettled hset) (fun _ => hlv.held hstd) f.save
    refine Desk.andThen_ends (P := Advances total d) (fun _ _ => hpersist) fun hok => ?_
    rw [persist_ok hok] at hpersist ⊢
    refine hpersist.trans (commit_advances hpersist.kept hpersist.own rfl ?_ (hlv.held hstd).2.1 f.record)
    show (d.books.stored _).finalizedAt d.negotiation.id = true
    rw [finalizedAt_stored]
    exact if_pos rfl

/-- **One operation of a current object.** -/
theorem act_advances (op : Op) (f : Faults) : Advances total d (d.act op f).2 := by
  unfold Desk.act
  cases hpl : op.plan d.negotiation with
  | error e => exact Advances.refl hkt hlv
  | ok p => exact perform_advances hkt hlv (plan_moves hpl) f

end

end

end Messenger.Eventlog
