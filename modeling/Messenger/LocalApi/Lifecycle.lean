import Messenger.Lib.Pool
import Messenger.LocalApi.Writes

/-!
# `LocalApi.Lifecycle` — the life of an approval over whole runs

A run of the local API is a run of the pool of its connections: any number of requests, interleaved
region by region, with a crash and restart at any point. What a run leaves of an approval follows
from what one write can do to it:

- its state only moves `— → pending → granted → spent` or `pending → denied`, with `— → granted` for
  a policy's own grant (`Moves`);
- its action and its purchase never change (`RecordsKept`);
- an invocation has a record only while its key is bound to it (`KeysBound`).
-/

namespace Messenger.LocalApi

open Lib
open Negotiation (ExecutionID)
open Firewall (ActionID)
open Commerce

/-- The pool of the local API's connections. -/
abbrev Api := Pool Store Write Request Response

variable (id : ActionID) (env : Env) (ts : List (Turn Request))

/-- The API after a sequence of turns, from an installation that holds nothing. -/
def api : Api := run (Pool.step (serve env)) (Pool.start {}) ts

/-- The turns that serve one request to its end, for at most `n` regions. -/
def alone (ticket : Nat) (q : Request) (n : Nat) : List (Turn Request) :=
  .spawn q :: List.replicate n (.step ticket none)

/-- The state of an action's approval; `none` when there is no record. -/
def stateOf (s : Store) (id : ActionID) : Option ApprovalState := (lookup id s.approvals).map fun a => a.state

/-- The purchase an action's approval is for. -/
def purchaseOf (s : Store) (id : ActionID) : Option ExecutionID :=
  (lookup id s.approvals).bind fun a => a.purchase

/-! ## What one write does to an approval -/

/-- The moves of an approval. -/
inductive Moves : Option ApprovalState → ApprovalState → Prop
  | filed : Moves none .pending
  | authorised : Moves none .granted
  | granted : Moves (some .pending) .granted
  | denied : Moves (some .pending) .denied
  | spent : Moves (some .granted) .spent

theorem stateOf_put_approval (s : Store) (a : Approval) (id : ActionID) :
    stateOf (Medium.put s (Write.approval a)) id = if id = a.actionID then some a.state else stateOf s id := by
  show Option.map _ (lookup id (s.approvals.insert a.actionID a)) = _
  rw [lookup_insert_eq]
  split_ifs <;> rfl

variable {q : Request} {s : Store} {x : Write}

theorem Permitted.moves {a : Approval} (h : Permitted q s (.approval a)) : Moves (stateOf s a.actionID) a.state := by
  have hget : ∀ b : Approval, lookup b.actionID s.approvals = some b → stateOf s b.actionID = some b.state := by
    intro b hb
    unfold stateOf
    rw [hb]
    rfl
  cases h with
  | filed _ _ _ habs hst _ =>
    unfold stateOf
    rw [habs, hst]
    exact .filed
  | authorised _ _ _ habs hst _ _ =>
    unfold stateOf
    rw [habs, hst]
    exact .authorised
  | @granted old _ _ hold hst =>
    have hpre : stateOf s old.actionID = some .pending := (hget old hold).trans (congrArg some hst)
    exact hpre ▸ .granted
  | @denied old _ _ hold hst =>
    have hpre : stateOf s old.actionID = some .pending := (hget old hold).trans (congrArg some hst)
    exact hpre ▸ .denied
  | @spent old _ _ hold hst =>
    have hpre : stateOf s old.actionID = some .granted := (hget old hold).trans (congrArg some hst)
    exact hpre ▸ .spent

/-- **One write, one move.** A permitted write leaves an approval's state or moves it. -/
theorem Permitted.stateOf_put (h : Permitted q s x) (id : ActionID) :
    stateOf (Medium.put s x) id = stateOf s id ∨
      ∃ a, x = .approval a ∧ a.actionID = id ∧ stateOf (Medium.put s x) id = some a.state ∧
        Moves (stateOf s id) a.state := by
  cases x with
  | approval a =>
    by_cases hid : id = a.actionID
    · subst hid
      refine .inr ⟨a, rfl, rfl, ?_, h.moves⟩
      rw [stateOf_put_approval, if_pos rfl]
    · left
      rw [stateOf_put_approval, if_neg hid]
  | _ => exact .inl rfl

/-- A request decided against, or used, stays so. -/
def Closed : Option ApprovalState → Prop
  | some .denied | some .spent => True
  | _ => False

instance : DecidablePred Closed := fun o =>
  match o with
  | none => inferInstanceAs (Decidable False)
  | some .pending => inferInstanceAs (Decidable False)
  | some .granted => inferInstanceAs (Decidable False)
  | some .denied => inferInstanceAs (Decidable True)
  | some .spent => inferInstanceAs (Decidable True)

theorem Moves.not_closed {before : Option ApprovalState} {after : ApprovalState}
    (h : Moves before after) : ¬Closed before := by
  cases h <;> exact id

/-- Closed requests stay as they are. -/
def ClosedKept (s t : Store) : Prop := ∀ id, Closed (stateOf s id) → stateOf t id = stateOf s id

theorem ClosedKept.refl (s : Store) : ClosedKept s s := fun _ _ => rfl

theorem ClosedKept.trans {a b c : Store} (hab : ClosedKept a b) (hbc : ClosedKept b c) : ClosedKept a c := by
  intro id hid
  have hb : stateOf b id = stateOf a id := hab id hid
  have hc : stateOf c id = stateOf b id := hbc id (by rw [hb]; exact hid)
  exact hc.trans hb

theorem Permitted.closedKept (h : Permitted q s x) : ClosedKept s (Medium.put s x) := by
  intro id hid
  rcases h.stateOf_put id with hsm | ⟨a, -, -, -, hmv⟩
  · exact hsm
  · exact absurd hid hmv.not_closed

/-! ## What a record keeps -/

/-- A record stays, and stays the record of its purchase. -/
def RecordsKept (s t : Store) : Prop :=
  ∀ id a, lookup id s.approvals = some a → ∃ b, lookup id t.approvals = some b ∧ b.purchase = a.purchase

theorem RecordsKept.refl (s : Store) : RecordsKept s s := fun _ a h => ⟨a, h, rfl⟩

theorem RecordsKept.trans {a b c : Store} (hab : RecordsKept a b) (hbc : RecordsKept b c) : RecordsKept a c := by
  intro id r hr
  obtain ⟨r', hr', hbuy⟩ := hab id r hr
  obtain ⟨r'', hr'', hbuy'⟩ := hbc id r' hr'
  exact ⟨r'', hr'', hbuy'.trans hbuy⟩

/-- A record written over another is for the same purchase. -/
theorem Permitted.purchase {a b : Approval} (h : Permitted q s (.approval a))
    (hold : lookup a.actionID s.approvals = some b) : a.purchase = b.purchase := by
  cases h with
  | filed _ _ _ habs _ _ | authorised _ _ _ habs _ _ _ => rw [habs] at hold; cases hold
  | granted _ h _ | denied h _ | spent _ h _ => cases h.symm.trans hold; rfl

theorem Permitted.recordsKept (h : Permitted q s x) : RecordsKept s (Medium.put s x) := by
  intro id b hb
  cases x with
  | approval a =>
    exact Lib.Dir.lookup_insert_retains (R := fun b a => a.purchase = b.purchase) hb rfl h.purchase
  | _ => exact ⟨b, hb, rfl⟩

/-- An invocation has a record only with its key bound to it. -/
def KeysBound (s : Store) : Prop := ∀ id a, lookup id s.approvals = some a → Keyed s id

theorem Permitted.keysBound (h : Permitted q s x) (hs : KeysBound s) : KeysBound (Medium.put s x) := by
  intro id b hb
  refine Keyed.kept ?_ h.bindingsKept
  cases x with
  | approval a =>
    rcases Lib.Dir.lookup_insert_cases hb with ⟨rfl, -⟩ | hold
    · cases h with
      | filed _ _ _ _ _ hkey | authorised _ _ _ _ _ hkey _ => exact hkey
      | granted _ hold _ | denied hold _ | spent _ hold _ => exact hs _ _ hold
    · exact hs id b hold
  | _ => exact hs id b hb

/-! ## Whole runs -/

theorem api_discipline : Pool.Discipline (serve env) BindingsKept Permitted fun _ _ => True where
  refl := BindingsKept.refl
  trans := BindingsKept.trans
  respects := fun _ _ _ h => h.bindingsKept
  steady := fun _ _ _ _ _ => trivial
  safe := serve_safe env

/-- With no condition on its turns, every run is one that meets it. -/
theorem meets_true {p : Api} {t : Turn Request} : Pool.Meets (fun _ _ => True) p t := by
  unfold Pool.Meets
  split
  · trivial
  · split <;> trivial

/-- **Every write of every run is permitted** in the state it is made in. -/
theorem api_sound : Pool.Sound BindingsKept Permitted (fun _ _ => True) {} (api env ts) :=
  Pool.sound_run (api_discipline env) (Along.of_forall (fun _ _ => meets_true) _ _)

/-! ## An authorisation rests on a spend -/

/-- The write consumes the action's grant. -/
def spends : Write → Bool
  | .approval a => a.actionID = id && a.state = .spent
  | _ => false

/-- The write grants the action. -/
def grants : Write → Bool
  | .approval a => a.actionID = id && a.state = .granted
  | _ => false

/-- The request claims the action. -/
def Request.claims (q : Request) (id : ActionID) : Bool := q.call = .claimAction id

/-- The claim of an action that was told to go ahead. -/
def authorises (r : Report Request Response) : Bool := r.input.claims id && r.result.authorised

/-- What a claim's authorisation rests on. -/
def ClaimSpends (q : Request) (x : Write) : Prop := ∃ id, q.claims id ∧ spends id x

/-- An authorisation of a claim. -/
def ClaimAuthorised (q : Request) (r : Response) : Prop := (∃ id, q.claims id) ∧ r.authorised

/-- **No claim is authorised without a spend of its own.** -/
theorem serve_earns (q : Request) : (serve env q).Earns (ClaimSpends q) (ClaimAuthorised q) := by
  by_cases hcm : ∃ id, q.claims id
  · obtain ⟨id, hid⟩ := hcm
    have hcl : q.call = .claimAction id := of_decide_eq_true hid
    unfold serve handle
    rw [hcl]
    refine Proc.earns_bind (Proc.earns_observe fun s => ?_)
    rcases spendApproval_cases id q.now s with ⟨e, hrun⟩ | ⟨a, ⟨hold, rfl⟩, hst, hrun⟩
    · -- a claim that could not spend is not authorised
      right
      have hou : (spendApproval id q.now).outcome s = .error e := by unfold Durable.outcome; rw [hrun]
      show ¬¬_
      rw [hou, not_not]
      simp only
      split_ifs
      · exact fun h => h fun hauthorises => by cases hauthorises.2
      · exact fun h => h fun hauthorises => by cases hauthorises.2
    · left
      refine ⟨.approval (a.consumed q.now.toNat), ?_, a.actionID, hid, ?_⟩
      · show _ ∈ (spendApproval a.actionID q.now s).1
        rw [hrun]
        exact List.mem_singleton_self _
      · show (decide (a.actionID = a.actionID) && decide (ApprovalState.spent = ApprovalState.spent)) = true
        simp
  · exact Proc.earns_of_never (fun r hr => hcm hr.1) _

/-- Each authorised claim of a run has its own spend in the log. -/
theorem api_receipts : Pool.Receipted ClaimSpends ClaimAuthorised
    (api env ts) := Pool.receipts_run (serve_earns env) _ ts

end Messenger.LocalApi
