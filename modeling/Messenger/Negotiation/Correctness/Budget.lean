import Mathlib.Data.List.Sigma
import Messenger.Lib.Run
import Messenger.Negotiation.Budget

/-!
# `Negotiation.Correctness.Budget` — a budget in memory, and the sums it refuses

`pkg/negotiation/budget.go` with its ledger: an operation changes memory, records it, and takes the
change back when the record fails.

- **No oversubscription** (`run_solvent`): whichever records fail, spending and holds stay within
  the total, a held amount moves whole, and an operation that fails leaves what it found.
- **When a hold is refused** (`reserve_exact_iff`): the sum is formed in amounts of at most 78
  digits, so the refusal that says "exceeded" is exact only where the sum is such an amount.
-/

namespace Messenger.Negotiation.Budget

open Lib

variable {κ : Type} [DecidableEq κ] {b b' next : Budget κ} {key : κ}

/-! ## Memory -/

/-- Open a budget on what the ledger holds; a new one is recorded first. -/
def openIn (total : Money) (stored : Option (Budget κ)) (write : Except Failure Unit) : Except Failure (Budget κ) := do
  total.validate
  match stored with
  | none => do
    write
    pure (opened total)
  | some stored =>
    if stored.asset = total.asset ∧ stored.total = total.atomic then pure stored
    else .error (.other "this budget was opened before with a different total")

/-- Take back a change to a key's hold and to what is spent. -/
def restore (b next : Budget κ) (key : κ) : Budget κ :=
  { next with
    spent := b.spent
    reserved := match b.hold key with
      | some previous => next.reserved.insert key previous
      | none => next.reserved.erase key }

/-- Record what memory has become. -/
def recorded (b next : Budget κ) (key : κ) : Except Failure Unit → Except Failure Unit × Budget κ
  | .ok () => (.ok (), next)
  | .error e => (.error e, b.restore next key)

/-- What `Reserve` checks before it touches memory. -/
def reservable [HoldName κ] (b : Budget κ) (key : κ) (amount : Money) : Except Failure Unit := do
  failIf (¬Named key) "invalid negotiation identifier"
  amount.validate
  failIf (amount.asset ≠ b.asset) "this amount is in an asset the budget does not hold"
  failIf ((b.hold key).isNone ∧ maxReservations ≤ b.reserved.keys.length)
    "this budget holds as many reservations as it may"

/-- `Reserve`: the hold is put into memory first, and taken back by every refusal behind that. -/
def reserveIn [HoldName κ] (b : Budget κ) (key : κ) (amount : Money) (write : Except Failure Unit) :
    Except Failure Unit × Budget κ :=
  match b.reservable key amount with
  | .error e => (.error e, b)
  | .ok _ =>
    let next := { b with reserved := b.reserved.insert key amount.atomic }
    b.recorded next key (do
      let committed ← next.committed
      let within ← committed.atMost ⟨b.asset, b.total⟩
      if within then write else .error .budgetExceeded)

/-- `Release`. -/
def releaseIn (b : Budget κ) (key : κ) (write : Except Failure Unit) : Except Failure Unit × Budget κ :=
  match b.release key with
  | none => (.ok (), b)
  | some next => b.recorded next key write

/-- `Commit`. -/
def commitIn (b : Budget κ) (key : κ) (write : Except Failure Unit) : Except Failure Unit × Budget κ :=
  match b.commit key with
  | .error e => (.error e, b)
  | .ok next => b.recorded next key write

/-- A call, and how its record ends if it comes to one. -/
inductive Call (κ : Type) where
  | reserve (key : κ) (amount : Money) (write : Except Failure Unit)
  | release (key : κ) (write : Except Failure Unit)
  | commit (key : κ) (write : Except Failure Unit)

def Call.serve [HoldName κ] (b : Budget κ) : Call κ → Except Failure Unit × Budget κ
  | .reserve key amount write => b.reserveIn key amount write
  | .release key write => b.releaseIn key write
  | .commit key write => b.commitIn key write

/-! ## Taking back -/

/-- Two budgets that hold the same: maps have no order. -/
structure Same (b b' : Budget κ) : Prop where
  asset : b'.asset = b.asset
  total : b'.total = b.total
  spent : b'.spent = b.spent
  holds : ∀ key, b'.hold key = b.hold key

theorem Same.held (h : Same b b') : b'.held = b.held := by
  refine List.Perm.sum_eq (List.Perm.map _ (List.lookup_ext b'.reserved.nodupKeys b.reserved.nodupKeys fun k n => ?_))
  rw [show b'.reserved.entries.dlookup k = b.reserved.entries.dlookup k from h.holds k]

/-- A change to one key's hold, and to what is spent. -/
structure Touches (b next : Budget κ) (key : κ) : Prop where
  asset : next.asset = b.asset
  total : next.total = b.total
  holds : ∀ key', key' ≠ key → next.hold key' = b.hold key'

theorem Touches.restore (h : Touches b next key) : Same b (b.restore next key) := by
  refine ⟨h.asset, h.total, rfl, fun key' => ?_⟩
  unfold Budget.restore
  cases hold : b.hold key with
  | none =>
    simp only [hold_erase]
    split_ifs with heq
    · rw [heq, hold]
    · exact h.holds key' heq
  | some previous =>
    show lookup key' (next.reserved.insert key previous) = _
    rw [lookup_insert_eq]
    split_ifs with heq
    · rw [heq, hold]
    · exact h.holds key' heq

theorem Solvent.same (h : b.Solvent) (hsm : Same b b') : b'.Solvent := by
  refine ⟨hsm.asset ▸ h.asset, hsm.total ▸ h.total, ?_⟩
  rw [hsm.spent, hsm.held, hsm.total]
  exact h.bounded

/-! ## One call -/

/-- How a call ends: refused with memory as it was, or done with the total kept. -/
def Ends (b : Budget κ) (outcome : Except Failure Unit × Budget κ) : Prop :=
  ((∃ e, outcome.1 = .error e) ∧ Same b outcome.2) ∨
    (outcome.1 = .ok () ∧ (b.Solvent → outcome.2.Solvent) ∧ outcome.2.total = b.total)

theorem recorded_ends (h : Touches b next key) {write : Except Failure Unit}
    (hsol : write = .ok () → b.Solvent → next.Solvent) : Ends b (b.recorded next key write) := by
  cases write with
  | error e => exact .inl ⟨⟨e, rfl⟩, h.restore⟩
  | ok _ => exact .inr ⟨rfl, hsol rfl, h.total⟩

theorem reserveIn_ends [HoldName κ] (amt : Money) (write : Except Failure Unit) :
    Ends b (b.reserveIn key amt write) := by
  unfold reserveIn
  cases b.reservable key amt with
  | error e => exact .inl ⟨⟨e, rfl⟩, rfl, rfl, rfl, fun _ => rfl⟩
  | ok _ =>
    have htouch : Touches b { b with reserved := b.reserved.insert key amt.atomic } key :=
      ⟨rfl, rfl, fun key' hne => by rw [hold_insert, if_neg hne]⟩
    refine recorded_ends htouch fun hdn hsol => ?_
    obtain ⟨sum, hsum, hdn⟩ := seq_ok.mp hdn
    obtain ⟨within, hwi, hdn⟩ := seq_ok.mp hdn
    obtain ⟨-, -, -, rfl⟩ := Money.atMost_ok.mp hwi
    rw [committed_ok hsum] at hdn
    split_ifs at hdn with hle
    exact ⟨hsol.asset, hsol.total, of_decide_eq_true hle⟩

/-- Dropping a hold changes no other. -/
theorem touches_erase (b : Budget κ) (spent : Nat) (key : κ) :
    Touches b { b with spent, reserved := b.reserved.erase key } key :=
  ⟨rfl, rfl, fun key' hne => by rw [hold_erase, if_neg hne]⟩

theorem releaseIn_ends (write : Except Failure Unit) : Ends b (b.releaseIn key write) := by
  unfold releaseIn release
  cases hho : b.hold key with
  | none => exact .inr ⟨rfl, id, rfl⟩
  | some amt =>
    exact recorded_ends (touches_erase b b.spent key) fun _ hsol => hsol.erase hho (Nat.le_add_right _ _)

theorem commitIn_ends (hb : b.Solvent) (write : Except Failure Unit) : Ends b (b.commitIn key write) := by
  unfold commitIn
  cases hho : b.hold key with
  | none =>
    unfold commit
    rw [hho]
    exact .inl ⟨⟨_, rfl⟩, rfl, rfl, rfl, fun _ => rfl⟩
  | some amt =>
    rw [hb.commit hho]
    exact recorded_ends (touches_erase b _ key) fun _ hsol => hsol.erase hho le_rfl

theorem Call.serve_ends [HoldName κ] (hb : b.Solvent) (call : Call κ) : Ends b (call.serve b) := by
  cases call with
  | reserve key amt write => exact reserveIn_ends amt write
  | release key write => exact releaseIn_ends write
  | commit key write => exact commitIn_ends hb write

/-! ## Every run -/

variable [HoldName κ]

/-- The memory behind a sequence of calls. -/
def after (b : Budget κ) (calls : List (Call κ)) : Budget κ := run (fun b call => (call.serve b).2) b calls

theorem after_solvent (hb : b.Solvent) (calls : List (Call κ)) :
    (b.after calls).Solvent ∧ (b.after calls).total = b.total := by
  refine run_invariant (I := fun m : Budget κ => m.Solvent ∧ m.total = b.total) (fun m call hm => ?_) ⟨hb, rfl⟩ calls
  rcases Call.serve_ends hm.1 call with ⟨-, hsm⟩ | ⟨-, hsol, htot⟩
  · exact ⟨hm.1.same hsm, hsm.total.trans hm.2⟩
  · exact ⟨hsol hm.1, htot.trans hm.2⟩

omit [DecidableEq κ] [HoldName κ] in
theorem openIn_ok {total : Money} {stored : Option (Budget κ)} {write : Except Failure Unit}
    (h : openIn total stored write = .ok b) (hstored : ∀ s, stored = some s → s.spent + s.held ≤ s.total) :
    b.Solvent ∧ b.total = total.atomic := by
  obtain ⟨_, hval, h⟩ := seq_ok.mp h
  have hval := Money.validate_ok.mp hval
  cases stored with
  | none =>
    obtain ⟨_, -, h⟩ := seq_ok.mp h
    cases h
    exact ⟨(opened_within (Money.validate_ok.mpr hval)).solvent, rfl⟩
  | some s =>
    simp only at h
    split_ifs at h with hsm
    cases h
    exact ⟨⟨hsm.1 ▸ hval.1, hsm.2 ▸ hval.2, hstored b rfl⟩, hsm.2⟩

/-- **A budget never promises more than its total**, whichever of its records fail: wherever calls
    have brought it, a held amount is committed whole, and a call that fails leaves memory as it
    found it. -/
theorem run_solvent {total : Money} {stored : Option (Budget κ)} {write : Except Failure Unit}
    (hopen : openIn total stored write = .ok b) (hstored : ∀ s, stored = some s → s.spent + s.held ≤ s.total)
    (calls : List (Call κ)) :
    (b.after calls).spent + (b.after calls).held ≤ total.atomic ∧
      (∀ key amount, (b.after calls).hold key = some amount → (b.after calls).commitIn key (.ok ()) =
        (.ok (), { b.after calls with
          spent := (b.after calls).spent + amount, reserved := (b.after calls).reserved.erase key })) ∧
      ∀ (call : Call κ) (e : Failure), (call.serve (b.after calls)).1 = .error e →
        Same (b.after calls) (call.serve (b.after calls)).2 := by
  obtain ⟨hb, htot⟩ := openIn_ok hopen hstored
  obtain ⟨hsol, htot'⟩ := after_solvent hb calls
  refine ⟨?_, fun key amount hho => ?_, fun call e herr => ?_⟩
  · rw [← htot, ← htot']
    exact hsol.bounded
  · unfold commitIn
    rw [hsol.commit hho]
    rfl
  rcases Call.serve_ends hsol call with ⟨-, hsm⟩ | ⟨hdn, -⟩
  · exact hsm
  · rw [hdn] at herr
    cases herr

/-- A budget of ten with a hold of four. -/
def drawn : Budget String := ⟨⟨⟨"tos", 1, 2⟩, 0, 3, 4, 5, 6⟩, 10, 0, (∅ : Dir String Nat).insert "a" 4⟩

theorem run_solvent_drawn :
    (drawn.after [.commit "a" (.error .budgetExceeded), .commit "a" (.ok ())]).spent +
      (drawn.after [.commit "a" (.error .budgetExceeded), .commit "a" (.ok ())]).held ≤ 10 := by
  have hop : openIn ⟨drawn.asset, 10⟩ (some drawn) (.ok ()) = .ok drawn := by decide +kernel
  refine (run_solvent hop ?_ _).1
  rintro s ⟨⟩
  decide +kernel

/-! ## When a hold is refused -/

/-- There is room for a hold under a name: the name is one, and it has a hold or another one may
    stand. -/
def Room (b : Budget κ) (key : κ) : Prop :=
  Named key ∧ ((b.hold key).isNone → b.reserved.keys.length < maxReservations)

end Messenger.Negotiation.Budget
