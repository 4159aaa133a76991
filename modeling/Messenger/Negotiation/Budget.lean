import Messenger.Lib.Dir
import Messenger.Negotiation.Terms

/-!
# `Negotiation.Budget` — what several purchases draw on at once

A budget is a total, what was spent of it, and the holds standing against the rest
(`pkg/negotiation/budget.go`). The operations here are the in-memory half: from the state a budget
was opened with to the state it would record. Loading and recording are the store's, and what lies
between the two is not atomic there.

Every amount of a budget is of the budget's one asset (`reserve` refuses any other), so the state
carries the asset once and its amounts as atomic counts.

`Within` is what every operation keeps: a valid total that spending and holds together do not
exceed, and a bounded number of holds.
-/

namespace Messenger.Negotiation

open Lib

def maxReservations : Nat := 256

/-- The state of a budget, in memory and as recorded; `κ` names what a hold is for. -/
structure Budget (κ : Type) where
  asset : Asset
  total : Nat
  spent : Nat
  reserved : Dir κ Nat

/-- What holds are kept under, by the size of its text. -/
class HoldName (κ : Type) where
  size : κ → Nat

instance : HoldName String := ⟨String.utf8ByteSize⟩

/-- An execution is named by `eex_` and 64 digits. -/
instance : HoldName ExecutionID := ⟨fun _ => 68⟩

namespace Budget

variable {κ : Type} [DecidableEq κ]

instance : DecidableEq (Budget κ) := fun a b =>
  decidable_of_iff
    (a.asset = b.asset ∧ a.total = b.total ∧ a.spent = b.spent ∧ a.reserved.entries = b.reserved.entries) (by
      cases a; cases b; simp [AList.ext_iff])

/-- A budget nothing was drawn on. -/
def opened (total : Money) : Budget κ where
  asset := total.asset
  total := total.atomic
  spent := 0
  reserved := ∅

variable (b : Budget κ) (key : κ)

/-- The sum of the holds. -/
def held : Nat := Dir.total b.reserved

/-- The hold under one key, if there is one. -/
def hold : Option Nat := lookup key b.reserved

/-- Spending and holds together. The source adds the holds in key order, which the sum does not
    depend on. -/
def committed : Except Failure Money :=
  (b.reserved.entries.map Sigma.snd).foldlM (fun sum amount => sum.add ⟨b.asset, amount⟩) ⟨b.asset, b.spent⟩

/-- A text that can name a hold. -/
def Named [HoldName κ] (key : κ) : Prop := 0 < HoldName.size key ∧ HoldName.size key ≤ 128

instance [HoldName κ] (key : κ) : Decidable (Named key) := inferInstanceAs (Decidable (_ ∧ _))

/-- Hold an amount; a hold under the same key is replaced. -/
def reserve [HoldName κ] (amount : Money) : Except Failure (Budget κ) := do
  failIf (¬Named key) "invalid negotiation identifier"
  amount.validate
  failIf (amount.asset ≠ b.asset) "this amount is in an asset the budget does not hold"
  failIf ((b.hold key).isNone ∧ maxReservations ≤ b.reserved.keys.length)
    "this budget holds as many reservations as it may"
  let next := { b with reserved := b.reserved.insert key amount.atomic }
  let committed ← next.committed
  let within ← committed.atMost ⟨b.asset, b.total⟩
  if within then pure next else .error .budgetExceeded

/-- Drop a hold; without one there is nothing to record. -/
def release : Option (Budget κ) :=
  match b.hold key with
  | none => none
  | some _ => some { b with reserved := b.reserved.erase key }

/-- Turn a hold into a spend. -/
def commit : Except Failure (Budget κ) :=
  match b.hold key with
  | none => .error (.other "this negotiation holds no reservation")
  | some amount => do
    let spent ← (⟨b.asset, b.spent⟩ : Money).add ⟨b.asset, amount⟩
    let within ← spent.atMost ⟨b.asset, b.total⟩
    if within then pure { b with spent := spent.atomic, reserved := b.reserved.erase key }
    else .error .budgetExceeded

/-! ## What the operations keep -/

/-- A budget with no more holds than it may have, whose total is a valid amount and is not exceeded. -/
structure Within (b : Budget κ) : Prop where
  asset : b.asset.validate = .ok ()
  total : b.total < atomicBound
  bounded : b.spent + b.held ≤ b.total
  count : b.reserved.keys.length ≤ maxReservations

/-- A budget whose total is a valid amount and is not exceeded, with any number of holds. -/
structure Solvent (b : Budget κ) : Prop where
  asset : b.asset.validate = .ok ()
  total : b.total < atomicBound
  bounded : b.spent + b.held ≤ b.total

omit [DecidableEq κ] in
theorem Within.solvent {b : Budget κ} (h : b.Within) : b.Solvent := ⟨h.asset, h.total, h.bounded⟩

end Budget

theorem Money.validate_ok {m : Money} {u : Unit} :
    m.validate = .ok u ↔ m.asset.validate = .ok () ∧ m.atomic < atomicBound := by
  unfold validate
  rw [seq_ok]
  simp only [failIf_ok, Nat.not_le]
  exact ⟨fun ⟨_, hast, hatomic⟩ => ⟨hast, hatomic⟩, fun ⟨hast, hatomic⟩ => ⟨(), hast, hatomic⟩⟩

theorem Money.int_ok {m : Money} {n : Nat} : m.int = .ok n ↔ m.validate = .ok () ∧ n = m.atomic := by
  unfold int
  rw [seq_ok]
  constructor
  · rintro ⟨_, hval, hn⟩
    cases hn
    exact ⟨hval, rfl⟩
  · rintro ⟨hval, rfl⟩
    exact ⟨(), hval, rfl⟩

theorem Money.atMost_ok {m ceiling : Money} {within : Bool} :
    m.atMost ceiling = .ok within ↔ m.asset = ceiling.asset ∧ m.validate = .ok () ∧
      ceiling.validate = .ok () ∧ within = decide (m.atomic ≤ ceiling.atomic) := by
  unfold atMost
  simp only [seq_ok, failIf_ok, not_not, int_ok]
  constructor
  · rintro ⟨_, hast, left, ⟨hlf, rfl⟩, right, ⟨hright, rfl⟩, hwi⟩
    cases hwi
    exact ⟨hast, hlf, hright, rfl⟩
  · rintro ⟨hast, hlf, hright, rfl⟩
    exact ⟨(), hast, _, ⟨hlf, rfl⟩, _, ⟨hright, rfl⟩, rfl⟩

theorem Money.add_ok {m other sum : Money} :
    m.add other = .ok sum ↔ m.asset = other.asset ∧ m.validate = .ok () ∧ other.validate = .ok () ∧
      sum = ⟨m.asset, m.atomic + other.atomic⟩ ∧ sum.validate = .ok () := by
  unfold add
  simp only [seq_ok, failIf_ok, not_not, int_ok]
  constructor
  · rintro ⟨_, hast, left, ⟨hlf, rfl⟩, right, ⟨hright, rfl⟩, _, hval, hsum⟩
    cases hsum
    exact ⟨hast, hlf, hright, rfl, hval⟩
  · rintro ⟨hast, hlf, hright, rfl, hval⟩
    exact ⟨(), hast, _, ⟨hlf, rfl⟩, _, ⟨hright, rfl⟩, (), hval, rfl⟩

namespace Budget

variable {κ : Type} [DecidableEq κ] {b b' : Budget κ} {key : κ} {amt : Nat}

omit [DecidableEq κ] in
/-- Where the sum of the holds can be formed at all, it is the sum. -/
theorem committed_ok {sum : Money} (h : b.committed = .ok sum) : sum = ⟨b.asset, b.spent + b.held⟩ := by
  have hfold : ∀ (amounts : List Nat) (start : Money),
      amounts.foldlM (fun sum amt => sum.add ⟨b.asset, amt⟩) start = .ok sum →
        sum = ⟨start.asset, start.atomic + amounts.sum⟩ := by
    intro amounts
    induction amounts with
    | nil =>
      intro start hbeg
      cases hbeg
      rfl
    | cons amt amounts ih =>
      intro start hbeg
      rw [List.foldlM_cons, seq_ok] at hbeg
      obtain ⟨next, hnx, hre⟩ := hbeg
      obtain ⟨-, -, -, rfl, -⟩ := Money.add_ok.mp hnx
      rw [ih _ hre, List.sum_cons, Nat.add_assoc]
  exact hfold _ _ h

/-- A new hold adds one key, a replaced one none. -/
theorem length_keys_insert (b : Budget κ) (key : κ) (amt : Nat) :
    (b.reserved.insert key amt).keys.length ≤ b.reserved.keys.length + (if (b.hold key).isNone then 1 else 0) := by
  rw [AList.keys_insert, List.length_cons]
  have hers : (b.reserved.keys.erase key).length ≤ b.reserved.keys.length := List.length_erase_le
  cases hho : b.hold key with
  | none => simpa using hers
  | some amt =>
    have hmem : key ∈ b.reserved.keys := mem_keys.mp (lookup_isSome.mp (Option.isSome_of_eq_some hho))
    have hpos : 0 < b.reserved.keys.length := List.length_pos_of_mem hmem
    rw [List.length_erase_of_mem hmem]
    omega

/-- **A hold that was taken** is of the budget's asset, replaces the key's earlier hold, and keeps
    the total. -/
theorem Within.reserve [HoldName κ] (hb : b.Within) {amt : Money} (h : b.reserve key amt = .ok b') :
    amt.asset = b.asset ∧ b' = { b with reserved := b.reserved.insert key amt.atomic } ∧ b'.Within := by
  unfold Budget.reserve at h
  simp only [seq_ok, failIf_ok, not_not] at h
  obtain ⟨_, -, _, -, _, hast, _, hrm, sum, hsum, within, hwi, hend⟩ := h
  obtain ⟨-, -, htot, rfl⟩ := Money.atMost_ok.mp hwi
  have htot := Money.validate_ok.mp htot
  rw [committed_ok hsum] at hend
  simp only [decide_eq_true_eq] at hend
  split_ifs at hend with hle
  cases hend
  refine ⟨hast, rfl, htot.1, htot.2, hle, ?_⟩
  have hkeys := length_keys_insert b key amt.atomic
  have hcnt := hb.count
  show (b.reserved.insert key amt.atomic).keys.length ≤ maxReservations
  by_cases hno : (b.hold key).isNone
  · rw [if_pos hno] at hkeys
    have hlt : ¬maxReservations ≤ b.reserved.keys.length := fun hle => hrm ⟨hno, hle⟩
    omega
  · rw [if_neg hno] at hkeys
    omega

omit [DecidableEq κ] in
theorem opened_within {total : Money} (h : total.validate = .ok ()) : (opened total : Budget κ).Within where
  asset := (Money.validate_ok.mp h).1
  total := (Money.validate_ok.mp h).2
  bounded := Nat.zero_le _
  count := Nat.zero_le _

theorem length_keys_erase (b : Budget κ) (key : κ) : (b.reserved.erase key).keys.length ≤ b.reserved.keys.length := by
  rw [keys_erase]
  exact List.length_erase_le

theorem held_insert (b : Budget κ) (key : κ) (amount : Nat) :
    ({ b with reserved := b.reserved.insert key amount } : Budget κ).held + Dir.amount b.reserved key
      = b.held + amount := by
  have hers := Dir.total_erase b.reserved key
  show Dir.total (b.reserved.insert key amount) + _ = Dir.total b.reserved + amount
  rw [Dir.total_insert]
  omega

theorem amount_of_hold {amount : Nat} (hho : b.hold key = some amount) : Dir.amount b.reserved key = amount := by
  unfold Dir.amount
  rw [show lookup key b.reserved = some amount from hho]
  rfl

theorem held_erase (hho : b.hold key = some amt) :
    ({ b with reserved := b.reserved.erase key } : Budget κ).held + amt = b.held := by
  have hers := Dir.total_erase b.reserved key
  rw [amount_of_hold hho] at hers
  exact hers

/-- Holding the same amount again changes nothing that is committed. -/
theorem held_insert_same (hho : b.hold key = some amt) :
    ({ b with reserved := b.reserved.insert key amt } : Budget κ).held = b.held := by
  have hinsert := held_insert b key amt
  rw [amount_of_hold hho] at hinsert
  omega

/-- A hold that is dropped, or spent, keeps the total. -/
theorem Solvent.erase (h : b.Solvent) {spent : Nat} (hho : b.hold key = some amt)
    (hsp : spent ≤ b.spent + amt) : ({ b with spent, reserved := b.reserved.erase key } : Budget κ).Solvent := by
  have hers := held_erase hho
  have hbnd := h.bounded
  refine ⟨h.asset, h.total, ?_⟩
  show spent + ({ b with reserved := b.reserved.erase key } : Budget κ).held ≤ b.total
  omega

theorem Within.erase (h : b.Within) {spent : Nat} (hho : b.hold key = some amt)
    (hsp : spent ≤ b.spent + amt) : ({ b with spent, reserved := b.reserved.erase key } : Budget κ).Within :=
  ⟨h.asset, h.total, (h.solvent.erase hho hsp).bounded, (length_keys_erase b key).trans h.count⟩

/-- Dropping a hold keeps the total. -/
theorem Within.release (h : b.Within) (hrel : b.release key = some b') : b'.Within := by
  unfold Budget.release at hrel
  split at hrel
  · cases hrel
  next amount hho =>
    cases hrel
    exact h.erase hho (Nat.le_add_right _ _)

/-- **A hold of a budget within its total can always be spent.** -/
theorem Solvent.commit (h : b.Solvent) (hho : b.hold key = some amt) :
    b.commit key = .ok { b with spent := b.spent + amt, reserved := b.reserved.erase key } := by
  have hers := held_erase hho
  have hbnd := h.bounded
  have htot := h.total
  have hadd : (⟨b.asset, b.spent⟩ : Money).add ⟨b.asset, amt⟩ = .ok ⟨b.asset, b.spent + amt⟩ := by
    refine Money.add_ok.mpr ⟨rfl, Money.validate_ok.mpr ⟨h.asset, ?_⟩,
      Money.validate_ok.mpr ⟨h.asset, ?_⟩, rfl, Money.validate_ok.mpr ⟨h.asset, ?_⟩⟩
    · show b.spent < atomicBound; omega
    · show amt < atomicBound; omega
    · show b.spent + amt < atomicBound; omega
  have hwi : (⟨b.asset, b.spent + amt⟩ : Money).atMost ⟨b.asset, b.total⟩ = .ok true := by
    refine Money.atMost_ok.mpr ⟨rfl, Money.validate_ok.mpr ⟨h.asset, ?_⟩, Money.validate_ok.mpr ⟨h.asset, htot⟩, ?_⟩
    · show b.spent + amt < atomicBound; omega
    · exact (decide_eq_true (by show b.spent + amt ≤ b.total; omega)).symm
  unfold Budget.commit
  rw [hho]
  show ((⟨b.asset, b.spent⟩ : Money).add ⟨b.asset, amt⟩ >>= _) = _
  rw [hadd]
  show ((⟨b.asset, b.spent + amt⟩ : Money).atMost ⟨b.asset, b.total⟩ >>= _) = _
  rw [hwi]
  rfl

/-- Spending a hold keeps the total. -/
theorem Within.spend (h : b.Within) (hho : b.hold key = some amt) :
    ({ b with spent := b.spent + amt, reserved := b.reserved.erase key } : Budget κ).Within := h.erase hho le_rfl

/-! ## Holds one by one -/

/-- Holds after one was taken. -/
theorem hold_insert (b : Budget κ) (key key' : κ) (amt : Nat) :
    ({ b with reserved := b.reserved.insert key amt } : Budget κ).hold key'
      = if key' = key then some amt else b.hold key' := lookup_insert_eq b.reserved key key' amt

/-- Holds after one was dropped; what is spent does not matter to them. -/
theorem hold_erase (b : Budget κ) (spent : Nat) (key key' : κ) :
    ({ b with spent, reserved := b.reserved.erase key } : Budget κ).hold key'
      = if key' = key then none else b.hold key' := lookup_erase_eq b.reserved key key'

end Budget

end Messenger.Negotiation
