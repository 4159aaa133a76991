import Messenger.LocalApi.Lifecycle

/-!
# `LocalApi.Correctness.Authority` — one decision, one execution

Over every run of the local API, with its requests interleaved in any way and the process restarted
at any point: a claim is authorised at most once for an action, and at most once for an invocation
key; it is authorised only after the one grant the action ever gets; and an action that was denied
or used is never granted again.

The argument is about the log of writes. Granting and spending an action each happen at most once in
it, because of what a write can do to an approval's state; and every authorised claim has a spend of
its own in it.
-/

namespace Messenger.LocalApi

open Lib
open Firewall (ActionID)
open Commerce

/-! ## Grants and spends in the log -/

variable {id : ActionID}

theorem spends_iff {x : Write} : spends id x ↔ ∃ a, x = .approval a ∧ a.actionID = id ∧ a.state = .spent := by
  cases x <;> simp [spends]

theorem grants_iff {x : Write} : grants id x ↔ ∃ a, x = .approval a ∧ a.actionID = id ∧ a.state = .granted := by
  cases x <;> simp [grants]

section
variable {q : Request} {s : Store} {x : Write} {id : ActionID} (h : Permitted q s x)

include h

theorem Permitted.of_spends (hspd : spends id x) :
    stateOf s id = some .granted ∧ stateOf (Medium.put s x) id = some .spent := by
  obtain ⟨a, rfl, rfl, hst⟩ := spends_iff.mp hspd
  have hmv := h.moves
  rw [stateOf_put_approval, if_pos rfl, hst]
  rw [hst] at hmv
  generalize stateOf s a.actionID = before at hmv
  cases hmv
  exact ⟨rfl, rfl⟩

theorem Permitted.of_grants (hgrants : grants id x) :
    (stateOf s id = none ∨ stateOf s id = some .pending) ∧ stateOf (Medium.put s x) id = some .granted := by
  obtain ⟨a, rfl, rfl, hst⟩ := grants_iff.mp hgrants
  have hmv := h.moves
  rw [stateOf_put_approval, if_pos rfl, hst]
  rw [hst] at hmv
  generalize stateOf s a.actionID = before at hmv
  cases hmv with
  | authorised => exact ⟨.inl rfl, rfl⟩
  | granted => exact ⟨.inr rfl, rfl⟩

/-- The approval was decided: granted, denied or used. -/
def Decided (s : Store) (id : ActionID) : Prop := stateOf s id ≠ none ∧ stateOf s id ≠ some .pending

theorem Permitted.decided (hs : Decided s id) : Decided (Medium.put s x) id := by
  rcases h.stateOf_put id with hsm | ⟨a, -, -, haft, hmv⟩
  · unfold Decided
    rw [hsm]
    exact hs
  unfold Decided at hs ⊢
  rw [haft]
  generalize stateOf s id = before at hs hmv
  generalize a.state = after at hmv
  cases hmv <;> simp_all

theorem Permitted.spent_kept (hs : stateOf s id = some .spent) :
    stateOf (Medium.put s x) id = some .spent :=
  (h.closedKept id (by rw [hs]; trivial)).trans hs

/-- Only a grant makes an action usable. -/
theorem Permitted.usable (hgrants : ¬grants id x)
    (hs : stateOf s id ≠ some .granted ∧ stateOf s id ≠ some .spent) :
    stateOf (Medium.put s x) id ≠ some .granted ∧ stateOf (Medium.put s x) id ≠ some .spent := by
  rcases h.stateOf_put id with hsm | ⟨a, rfl, rfl, haft, hmv⟩
  · rw [hsm]
    exact hs
  have hst : a.state ≠ .granted := fun hst => hgrants (grants_iff.mpr ⟨a, rfl, rfl, hst⟩)
  rw [haft]
  generalize stateOf s a.actionID = before at hs hmv
  generalize a.state = after at hmv hst
  cases hmv <;> simp_all

end

section
variable {env : Env} {ts : List (Turn Request)}

/-- An entry of the log made by a permitted write. -/
abbrev PermittedEntry (s : Store) (e : Entry Write Request) : Prop := True ∧ Permitted e.input s e.write

theorem grants_once (env : Env) (ts : List (Turn Request)) (id : ActionID) :
    (api env ts).log.countP (fun e => grants id e.write) ≤ 1 := by
  refine Along.countP_le_one (J := fun s => Decided s id) (fun s e he hs => he.2.decided hs) (fun s e he hgrants => ?_)
    (api_sound env ts).guarded
  obtain ⟨hpre, haft⟩ := he.2.of_grants hgrants
  refine ⟨fun hdcd => ?_, ?_⟩
  · rcases hpre with hno | hpn
    · exact hdcd.1 hno
    · exact hdcd.2 hpn
  show stateOf (Medium.put s e.write) id ≠ none ∧ stateOf (Medium.put s e.write) id ≠ some .pending
  rw [haft]
  simp

theorem spends_once (env : Env) (ts : List (Turn Request)) (id : ActionID) :
    (api env ts).log.countP (fun e => spends id e.write) ≤ 1 := by
  refine Along.countP_le_one (J := fun s => stateOf s id = some .spent) (fun s e he hs => he.2.spent_kept hs)
    (fun s e he hspd => ?_) (api_sound env ts).guarded
  obtain ⟨hpre, haft⟩ := he.2.of_spends hspd
  refine ⟨fun hsp => ?_, haft⟩
  rw [hpre] at hsp
  cases hsp

/-- Before an action is usable there is a grant of it. -/
theorem exists_grant {s : Store} {log : List (Entry Write Request)} {id : ActionID}
    (hlog : Along Pool.apply PermittedEntry s log) (hs : stateOf s id ≠ some .granted ∧ stateOf s id ≠ some .spent)
    (hend : stateOf (run Pool.apply s log) id = some .granted) : 0 < log.countP fun e => grants id e.write := by
  induction log generalizing s with
  | nil => exact absurd hend hs.1
  | cons e log ih =>
    by_cases hgrants : grants id e.write
    · rw [List.countP_cons, if_pos hgrants]
      exact Nat.succ_pos _
    · rw [List.countP_cons, if_neg hgrants, Nat.add_zero]
      exact ih hlog.2 (hlog.1.2.usable hgrants hs) hend

end

/-! ## Invocation keys -/

variable (key : IdempotencyKey)

/-- The action is an invocation under this key. -/
def invokesUnder (id : ActionID) : Bool :=
  id.effect.invokes && id.idempotencyKey = some key

/-- The write consumes the grant of an invocation under this key. -/
def spendsKey : Write → Bool
  | .approval a => invokesUnder key a.actionID && a.state = .spent
  | _ => false

/-- The claim of an invocation under this key that was told to go ahead. -/
def authorisesKey (r : Report Request Response) : Bool :=
  match r.input.call with
  | .claimAction id => invokesUnder key id && r.result.authorised
  | _ => false

/-- Two invocations under one key that have records are one action. -/
theorem KeysBound.unique {s : Store} (hs : KeysBound s) {key : IdempotencyKey} {id' : ActionID} {a a' : Approval}
    (hid : invokesUnder key id) (hid' : invokesUnder key id') (ha : lookup id s.approvals = some a)
    (ha' : lookup id' s.approvals = some a') : id = id' := by
  simp only [invokesUnder, Bool.and_eq_true, decide_eq_true_eq] at hid hid'
  obtain ⟨k, claim, hk, hclm, hbd⟩ := hs id a ha hid.1
  obtain ⟨k', claim', hk', hclaim', hbound'⟩ := hs id' a' ha' hid'.1
  have hkey : k = key := Option.some.inj (hk.symm.trans hid.2)
  have hkey' : k' = key := Option.some.inj (hk'.symm.trans hid'.2)
  rw [hkey] at hclm
  rw [hkey', hclm] at hclaim'
  cases hclaim'
  exact hbd.symm.trans hbound'

theorem lookup_of_stateOf {s : Store} {state : ApprovalState} (h : stateOf s id = some state) :
    ∃ a, lookup id s.approvals = some a := by
  obtain ⟨a, ha, -⟩ := Option.map_eq_some_iff.mp h
  exact ⟨a, ha⟩

theorem spends_key_once (env : Env) (ts : List (Turn Request)) (key : IdempotencyKey) :
    (api env ts).log.countP (fun e => spendsKey key e.write) ≤ 1 := by
  have hgd := (api_sound env ts).guarded.and_invariant (I := KeysBound)
    (fun s e hs he => he.2.keysBound hs) forall_empty
  refine Along.countP_le_one (J := fun s => ∃ id, invokesUnder key id ∧ stateOf s id = some .spent) ?_ ?_ hgd
  · rintro s e ⟨-, -, he⟩ ⟨id, hid, hsp⟩
    exact ⟨id, hid, he.spent_kept hsp⟩
  rintro s e ⟨hkeys, -, he⟩ hspd
  obtain ⟨ticket, q, x⟩ := e
  cases x with
  | approval a =>
    simp only [spendsKey, Bool.and_eq_true, decide_eq_true_eq] at hspd
    have hspend : spends a.actionID (.approval a) := spends_iff.mpr ⟨a, rfl, rfl, hspd.2⟩
    obtain ⟨hpre, haft⟩ := he.of_spends hspend
    refine ⟨?_, a.actionID, hspd.1, haft⟩
    -- a key with a spent invocation belongs to that invocation, which is not granted any more
    rintro ⟨id, hid, hsp⟩
    obtain ⟨b, hb⟩ := lookup_of_stateOf hsp
    obtain ⟨c, hc⟩ := lookup_of_stateOf hpre
    rw [hkeys.unique hid hspd.1 hb hc, hpre] at hsp
    cases hsp
  | _ => cases hspd

/-! ## Authorisations -/

section
variable {env : Env} {ts : List (Turn Request)} {id : ActionID} {r : Report Request Response}

theorem authorises_iff : authorises id r ↔ r.input.claims id ∧ r.result.authorised := by
  simp [authorises]

theorem Request.claims_unique {q : Request} {id' : ActionID} (h : q.claims id) (h' : q.claims id') : id = id' := by
  simp only [Request.claims, decide_eq_true_eq] at h h'
  rw [h] at h'
  cases h'
  rfl

/-- The claims that were told to go ahead are no more than the spends behind them. -/
theorem authorised_once (env : Env) (ts : List (Turn Request)) {p : ActionID → Prop}
    {test : Report Request Response → Bool} {w : Write → Bool} (htest : ∀ {r}, test r → ∃ id, p id ∧ authorises id r)
    (hsp : ∀ e ∈ (api env ts).log, ∀ id, p id → spends id e.write → w e.write)
    (honce : (api env ts).log.countP (fun e => w e.write) ≤ 1) : (api env ts).results.countP test ≤ 1 := by
  refine (api_receipts env ts).countP_le_one (Pool.ticketed_run _ ts) (w := fun e => w e.write) ?_ ?_ honce
  · intro r hr
    obtain ⟨id, -, hauthz⟩ := htest hr
    exact ⟨⟨id, (authorises_iff.mp hauthz).1⟩, (authorises_iff.mp hauthz).2⟩
  rintro r e he hr - ⟨id', hid', hspd⟩
  obtain ⟨id, hid, hauthz⟩ := htest hr
  rw [← Request.claims_unique (authorises_iff.mp hauthz).1 hid'] at hspd
  exact hsp e he id hid hspd

theorem authorises_once (env : Env) (ts : List (Turn Request)) (id : ActionID) :
    (api env ts).results.countP (authorises id) ≤ 1 :=
  authorised_once env ts (p := (· = id)) (fun h => ⟨id, rfl, h⟩) (fun _ _ _ hid h => hid ▸ h) (spends_once env ts id)

/-- The claim of an action of some kind that was told to go ahead. -/
theorem claim_authorised {p : ActionID → Bool} (h : (match r.input.call with
    | .claimAction id => p id && r.result.authorised
    | _ => false) = true) : ∃ id, p id ∧ authorises id r := by
  split at h
  · next id hcl =>
    obtain ⟨hp, hauthorises⟩ := Bool.and_eq_true_iff.mp h
    exact ⟨id, hp, authorises_iff.mpr ⟨decide_eq_true hcl, hauthorises⟩⟩
  · cases h

theorem authorises_key_once (env : Env) (ts : List (Turn Request)) (key : IdempotencyKey) :
    (api env ts).results.countP (authorisesKey key) ≤ 1 := by
  refine authorised_once env ts (fun h => claim_authorised h) (fun e _ id hid hspd => ?_) (spends_key_once env ts key)
  obtain ⟨a, hx, rfl, hst⟩ := spends_iff.mp hspd
  simp only [hx, spendsKey, hid, hst, decide_true, Bool.and_self]

/-- Every authorised claim comes after the only grant of its action. -/
theorem authorised_after_grant (env : Env) (ts : List (Turn Request))
    (hr : r ∈ (api env ts).results) (hauthz : authorises id r) :
    ∃ before e after, (api env ts).log = before ++ e :: after ∧ e.ticket = r.ticket ∧
      spends id e.write ∧ before.countP (fun e => grants id e.write) = 1 ∧
      (api env ts).log.countP (fun e => grants id e.write) = 1 := by
  obtain ⟨hcm, hrs⟩ := authorises_iff.mp hauthz
  obtain ⟨e, he, htkt, hinp, id', hid', hspd⟩ := (api_receipts env ts).result r hr ⟨⟨id, hcm⟩, hrs⟩
  obtain rfl := Request.claims_unique hcm hid'
  obtain ⟨before, after, hlog⟩ := List.append_of_mem he
  have hgd := (api_sound env ts).guarded
  rw [hlog] at hgd
  obtain ⟨hpre, hspend, -⟩ := (along_append _ _ _).mp hgd
  have hgr := (hspend.2.of_spends hspd).1
  have hpos : 0 < before.countP fun e => grants id e.write :=
    exists_grant hpre (by simp [stateOf, lookup_empty]) hgr
  have honce := grants_once env ts id
  have hsplit : (api env ts).log.countP (fun e => grants id e.write)
      = before.countP (fun e => grants id e.write) + (e :: after).countP (fun e => grants id e.write) := by
    rw [hlog, List.countP_append]
  exact ⟨before, e, after, hlog, htkt, hspd, by omega, by omega⟩

/-- What was denied or used stays so, whatever is done after. -/
theorem closed_kept (env : Env) (ts ts' : List (Turn Request)) :
    ClosedKept (api env ts).store (api env (ts ++ ts')).store := by
  have hlat : api env (ts ++ ts') = run (Pool.step (serve env)) (api env ts) ts' := run_append _ _ _
  rw [hlat]
  exact (api_sound env ts).related (api_discipline env) ClosedKept.refl ClosedKept.trans
    (fun _ _ _ h => h.closedKept) (Along.of_forall (fun _ _ => meets_true) _ _)

end

/-- **One decision backs one execution.** Over every run: an action, and an invocation key, yields
    an authorised claim at most once; the claim's own spend follows the only grant the action ever
    gets; and an action that was denied or used keeps that state, so that it can not be claimed
    again. -/
theorem authority_used_once (env : Env) (ts : List (Turn Request)) :
    (∀ id, (api env ts).results.countP (authorises id) ≤ 1) ∧
      (∀ key, (api env ts).results.countP (authorisesKey key) ≤ 1) ∧
      (∀ id, ∀ r ∈ (api env ts).results, authorises id r →
        ∃ before e after, (api env ts).log = before ++ e :: after ∧ e.ticket = r.ticket ∧
          spends id e.write ∧ before.countP (fun e => grants id e.write) = 1 ∧
          (api env ts).log.countP (fun e => grants id e.write) = 1) ∧
      ∀ ts' id, Closed (stateOf (api env ts).store id) →
        stateOf (api env (ts ++ ts')).store id = stateOf (api env ts).store id :=
  ⟨authorises_once env ts, authorises_key_once env ts, fun _ _ hr hid => authorised_after_grant env ts hr hid,
    fun ts' => closed_kept env ts ts'⟩

/-- A tool call of the Agent's own initiative. -/
def toolCall (summary : String) : Firewall.Action := ⟨.toolCall, summary, some ⟨7⟩, [], none, none⟩

/-- The call is allowed and claimed; reworded, it is asked for and claimed again. -/
def toolRun : List (Turn Request) :=
  alone 0 ⟨.requestAction .default (toolCall "look it up") none, 10⟩ 2 ++
    alone 1 ⟨.claimAction (toolCall "look it up").content, 11⟩ 1 ++
    alone 2 ⟨.requestAction .default (toolCall "search for it") none, 12⟩ 2 ++
    alone 3 ⟨.claimAction (toolCall "search for it").content, 13⟩ 1

/-- The reworded call finds its key taken, and the key yields one authorisation. -/
theorem toolRun_authority_used_once :
    (api Env.plain toolRun).results.map (fun r => r.result.authorised) = [false, true, false, false] ∧
      (api Env.plain toolRun).results.countP (authorisesKey ⟨7⟩) ≤ 1 :=
  ⟨by decide +kernel, (authority_used_once Env.plain toolRun).2.1 ⟨7⟩⟩

/-- **The record of a decision lasts.** Between any two moments of a run no approval goes or changes
    its purchase, no purchase or key is bound anew, and the approval of an invocation has its key
    bound to it. -/
theorem decisions_recorded (env : Env) (ts ts' : List (Turn Request)) :
    RecordsKept (api env ts).store (api env (ts ++ ts')).store ∧
      BindingsKept (api env ts).store (api env (ts ++ ts')).store ∧ KeysBound (api env ts).store := by
  have hsd := api_sound env ts
  have hlat : api env (ts ++ ts') = run (Pool.step (serve env)) (api env ts) ts' := run_append _ _ _
  have hkeys := hsd.guarded.invariant (fun _ _ hs he => he.2.keysBound hs) forall_empty
  rw [← hsd.replay] at hkeys
  rw [hlat, ← and_assoc]
  exact ⟨hsd.related (T := fun s t => RecordsKept s t ∧ BindingsKept s t) (api_discipline env)
    (fun s => ⟨.refl s, .refl s⟩) (fun h h' => ⟨h.1.trans h'.1, h.2.trans h'.2⟩)
    (fun _ _ _ h => ⟨h.recordsKept, h.bindingsKept⟩) (Along.of_forall (fun _ _ => meets_true) _ _), hkeys⟩

end Messenger.LocalApi
