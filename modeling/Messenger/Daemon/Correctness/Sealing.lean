import Messenger.Daemon.Correctness.Generations

/-!
# `Daemon.Correctness.Sealing` — who stores a ciphertext, and what reaches the transport

A delivery is sealed at most once: the attempt that claimed it reads the session, seals from the
generation it read, and `CommitSealed` advances the session from exactly that generation before it
stores the ciphertext. This file follows a ciphertext from there to the transport:

- `step_outbound` is the invariant rule for the deliveries, from what a delivery write can be;
- `Dispatched` is the invariant of the dispatch: every stored ciphertext, and every one a sweep is
  about to send or has sent, has its seal in the history, and the seals come from distinct
  generations and distinct deliveries;
- `Sealing` says what the move that stores a ciphertext looks like.

**The lease.** `CommitSealed` compares the claim's expiry with the time it is passed, and a sweep
passes the time it captured when it started, which is also the time its claims were made at. The
comparison can then never fail for the sweep's own attempt, however late the commit runs by the
clock: `slowRun` stores a ciphertext long after the lease ran out. By the clock the lease is
unexpired when less than the attempt lease has passed since the sweep started (`Move.timely`).
-/

namespace Messenger.Daemon

open Eventlog Dispatch Lib World Sweep

section
variable {env : Env}

/-! ## The invariant rule for deliveries -/

/-- What queueing, settling, claiming and sealing preserve, a move preserves. -/
theorem World.step_outbound {Q : DeliveryPath → Delivery → Prop} (w : World env) (m : Move env)
    (hqueue : ∀ request : OutboundRequest, Q request.delivery.key.path request.delivery)
    (hchan : ∀ p d d', Q p d → DeliveryChange d d' → Q p d')
    (hclaimed : ∀ p d att now, Q p d → lookup att (w.step m).attempts = some now →
      Q p (d.claimed att (now.toNat + env.attemptLease)))
    (hsl : ∀ σ d, Q σ.path d → m.sealed w = some σ → d.sessionID = σ.sessionID → d.ciphertext = [] →
      Q σ.path { d with ciphertext := σ.ciphertext })
    (hw : ∀ p d, lookup p w.journal.outbound = some d → Q p d) :
    ∀ p d, lookup p (w.step m).journal.outbound = some d → Q p d := by
  refine w.step_preserves m (I := fun j => ∀ p d, lookup p j.outbound = some d → Q p d) ?_ hw
  intro j x hj hx
  -- a delivery write concerns its own path only
  have hput : ∀ {p' : DeliveryPath} {d' : Delivery}, Q p' d' →
      ∀ p d, lookup p (Medium.put j (.delivery p' d')).outbound = some d → Q p d := forall_insert hj
  cases hx with
  | accept | settle | advance => exact hj
  | recover hrecover => cases hrecover <;> exact hj
  | claim hdr hrd => exact hput (hclaimed _ _ _ _ (hj _ _ (readDelivery_ok.mp hrd).1) hdr)
  | sealed hm hrd hses hemp =>
    exact hput (hsl _ _ (hj _ _ (readDelivery_ok.mp hrd).1) hm hses hemp)
  | routine hrtn =>
    cases hrtn with
    | record | session | moderation => exact hj
    | enqueue request _ => exact hput (hqueue request)
    | delivery hrd hchg => exact hput (hchan _ _ _ (hj _ _ (readDelivery_ok.mp hrd).1) hchg)

/-! ## A stored ciphertext stays -/

/-- Every stored ciphertext of `j` is still there in `j'`. -/
def CiphertextsKept (j j' : Journal) : Prop :=
  ∀ p d, lookup p j.outbound = some d → d.ciphertext ≠ [] →
    ∃ d', lookup p j'.outbound = some d' ∧ d'.ciphertext = d.ciphertext

theorem CiphertextsKept.refl (j : Journal) : CiphertextsKept j j := fun _ d hd _ => ⟨d, hd, rfl⟩

theorem CiphertextsKept.trans {a b c : Journal} (hab : CiphertextsKept a b)
    (hbc : CiphertextsKept b c) : CiphertextsKept a c := by
  intro p d hd hsl
  obtain ⟨d₁, hd₁, hsame₁⟩ := hab p d hd hsl
  obtain ⟨d₂, hd₂, hsame₂⟩ := hbc p d₁ hd₁ (hsame₁ ▸ hsl)
  exact ⟨d₂, hd₂, hsame₂.trans hsame₁⟩

variable {j : Journal} {p : DeliveryPath} {w : World env} {m : Move env} {s : Sweep} {σ : Seal} {a : Attempt}

/-- A delivery write keeps the ciphertexts if it keeps the one it replaces. -/
theorem ciphertextsKept_delivery {d' : Delivery}
    (h : ∀ d, lookup p j.outbound = some d → d.ciphertext ≠ [] → d'.ciphertext = d.ciphertext) :
    CiphertextsKept j (Medium.put j (.delivery p d')) := by
  intro q d hd hsl
  exact Lib.Dir.lookup_insert_retains (R := fun d d' => d'.ciphertext = d.ciphertext) hd rfl fun hp => h d hp hsl

/-- The same, by the delivery the writer read. -/
theorem ciphertextsKept_of_read {d d' : Delivery} (hrd : readDelivery j p = .ok d)
    (h : d.ciphertext ≠ [] → d'.ciphertext = d.ciphertext) : CiphertextsKept j (Medium.put j (.delivery p d')) := by
  refine ciphertextsKept_delivery fun d₀ hd₀ hsl => ?_
  have hsm : d₀ = d := Option.some.inj (hd₀.symm.trans (readDelivery_ok.mp hrd).1)
  rw [hsm] at hsl ⊢
  exact h hsl

theorem ciphertextsKept_performed (j : Journal) (x : JournalWrite) (hx : Performed w m j x) :
    CiphertextsKept j (Medium.put j x) := by
  cases hx with
  | accept | settle | advance => exact .refl j
  | recover hrecover => cases hrecover <;> exact .refl j
  | claim hdr hrd => exact ciphertextsKept_of_read hrd fun _ => rfl
  | sealed hm hrd hses hemp => exact ciphertextsKept_of_read hrd fun hsl => absurd hemp hsl
  | routine hrtn =>
    cases hrtn with
    | record | session | moderation => exact .refl j
    | enqueue request hfr =>
      refine ciphertextsKept_delivery fun d hd _ => ?_
      rw [hfr] at hd
      cases hd
    | delivery hrd hchg => exact ciphertextsKept_of_read hrd fun _ => hchg.identity.2.1

theorem ciphertextsKept_step (w : World env) (m : Move env) : CiphertextsKept w.journal (w.step m).journal := by
  rw [step_journal]
  exact (m.performed w).related CiphertextsKept.refl CiphertextsKept.trans ciphertextsKept_performed

/-! ## The move that seals -/

theorem landed_whole {ws : List JournalWrite} {crash : Option Nat} (h : whole ws crash = true) :
    landed ws crash = ws := by
  cases crash with
  | none => rfl
  | some k => exact List.take_of_length_le (by simpa [whole] using h)

theorem perform_sealed {clock : Time} {a : SweepAct} (h : (s.perform env j clock a).sealed = some σ) :
    ∃ result, a = .commitSealed result ∧ (s.commitEffect env j result).sealed = some σ := by
  cases a with
  | commitSealed result => exact ⟨result, rfl, h⟩
  | claim | prepare | send | settle =>
    simp only [perform, claimEffect, prepareEffect, sendEffect, settleEffect] at h
    repeat' split at h
    all_goals cases h

/-- **A ciphertext becomes durable only by a sealing commit that made both its writes.** -/
theorem sealed_cases (h : m.sealed w = some σ) :
    ∃ ticket s a session ct next crash,
      m = .act (.sweep ticket (.commitSealed (some (ct, next)))) crash ∧
      lookup ticket w.sweeps = some s ∧ s.stage = .prepared a session ∧
      σ = ⟨a.delivery.key.path, a.delivery.sessionID, session.generation, ct⟩ ∧
      SealOutcome env w.journal (s.sealRequest a session ct next) (m.writes w) := by
  cases m with
  | openJournal | tick => cases h
  | act a crash =>
    simp only [Move.sealed] at h
    split_ifs at h with hgate
    obtain ⟨hru, hwhole⟩ := Bool.and_eq_true_iff.mp hgate
    cases a with
    | accept | call => cases h
    | beginInbound | settleInbound | startSweep =>
      simp only [Act.effect] at h
      split at h <;> cases h
    | sweep ticket a =>
      rcases effect_sweep_cases w ticket a with hqt | ⟨s, hswp, hfr, heff⟩
      · rw [hqt] at h; cases h
      rw [heff] at h hwhole
      obtain ⟨result, rfl, hsl⟩ := perform_sealed (show (s.perform env w.journal w.clock a).sealed = some σ from h)
      rcases commitEffect_cases env w.journal s result with
        ⟨-, hno⟩ | ⟨b, session, ct, next, hsg, rfl, hou, hσ⟩
      · rw [hno] at hsl; cases hsl
      refine ⟨ticket, s, b, session, ct, next, crash, rfl, hswp, hsg, ?_, ?_⟩
      · exact Option.some.inj (hsl.symm.trans hσ)
      have hws : Move.writes w (.act (.sweep ticket (.commitSealed (some (ct, next)))) crash) =
          (s.commitEffect env w.journal (some (ct, next))).writes := by
        simp only [Move.writes, hru, if_true]
        rw [heff]
        exact landed_whole hwhole
      rw [hws]
      exact hou

/-! ## The invariant of the dispatch -/

/-- Where a seal came from: a session and the generation it was at. -/
def sourceOf (σ : Seal) : SessionID × Nat := (σ.sessionID, σ.generation)

/-- The history has the seal of a ciphertext. -/
def Attested (w : World env) (path : DeliveryPath) (sessionID : SessionID) (ciphertext : Bytes) : Prop :=
  ∃ σ ∈ w.seals, σ.path = path ∧ σ.sessionID = sessionID ∧ σ.ciphertext = ciphertext

/-- What a sweep carries: attempts it drew itself, and ciphertexts that were sealed. -/
structure SweepOk (w : World env) (s : Sweep) : Prop where
  claimed : ∀ a, s.stage = .claimed a → lookup a.attemptID w.attempts = some s.now ∧
    (a.delivery.ciphertext ≠ [] → Attested w a.delivery.key.path a.delivery.sessionID a.delivery.ciphertext)
  prepared : ∀ a session, s.stage = .prepared a session → lookup a.attemptID w.attempts = some s.now
  ready : ∀ a ciphertext, s.stage = .ready a ciphertext →
    Attested w a.delivery.key.path a.delivery.sessionID ciphertext

/-- **The invariant of the dispatch.** -/
structure Dispatched (w : World env) : Prop where
  keyed : ∀ p d, lookup p w.journal.outbound = some d → d.key.path = p
  /-- A stored claim expires one lease after the time its sweep captured. -/
  holder : ∀ p d, lookup p w.journal.outbound = some d → ∀ attemptID, d.attemptID = some attemptID →
    ∃ now, lookup attemptID w.attempts = some now ∧ d.attemptExpiresAt = now.toNat + env.attemptLease
  stored : ∀ p d, lookup p w.journal.outbound = some d → d.ciphertext ≠ [] → Attested w p d.sessionID d.ciphertext
  /-- A seal's ciphertext is the one its delivery has. -/
  kept : ∀ σ ∈ w.seals, ∃ d, lookup σ.path w.journal.outbound = some d ∧ d.ciphertext ≠ []
  paths : (w.seals.map Seal.path).Nodup
  consumed : ∀ σ ∈ w.seals, sourceOf σ ∈ generationsConsumed .empty w.log
  sources : (w.seals.map sourceOf).Nodup
  sweep : ∀ ticket s, lookup ticket w.sweeps = some s → SweepOk w s
  sent : ∀ x ∈ w.sent, Attested w x.path x.message.sessionID x.message.ciphertext

theorem dispatched_fresh : Dispatched (fresh env) where
  keyed := forall_empty
  holder := forall_empty
  stored := forall_empty
  kept := fun _ h => by cases h
  paths := List.nodup_nil
  consumed := fun _ h => by cases h
  sources := List.nodup_nil
  sweep := forall_empty
  sent := fun _ h => by cases h

theorem Attested.step {sid : SessionID} {ciphertext : Bytes} (h : Attested w p sid ciphertext)
    (m : Move env) : Attested (w.step m) p sid ciphertext := by
  obtain ⟨σ, hσ, hmatch⟩ := h
  refine ⟨σ, ?_, hmatch⟩
  rw [step_seals]
  exact List.mem_append_left _ hσ

theorem attested_sealed (h : m.sealed w = some σ) : Attested (w.step m) σ.path σ.sessionID σ.ciphertext := by
  refine ⟨σ, ?_, rfl, rfl, rfl⟩
  rw [step_seals, h]
  exact List.mem_append_right _ (by simp)

theorem SweepOk.step (h : SweepOk w s) (m : Move env) : SweepOk (w.step m) s where
  claimed := fun a ha => ⟨step_attempts m (h.claimed a ha).1, fun hc => ((h.claimed a ha).2 hc).step m⟩
  prepared := fun a session ha => step_attempts m (h.prepared a session ha)
  ready := fun a ct ha => (h.ready a ct ha).step m

/-- What a sweep carries is said by its stage. -/
theorem sweepOk_of_stage (h : match s.stage with
      | .claimed a => lookup a.attemptID w.attempts = some s.now ∧
        (a.delivery.ciphertext ≠ [] → Attested w a.delivery.key.path a.delivery.sessionID a.delivery.ciphertext)
      | .prepared a _ => lookup a.attemptID w.attempts = some s.now
      | .ready a ct => Attested w a.delivery.key.path a.delivery.sessionID ct
      | _ => True) : SweepOk w s where
  claimed := fun a ha => by rwa [ha] at h
  prepared := fun a session ha => by rwa [ha] at h
  ready := fun a ct ha => by rwa [ha] at h

theorem sweepOk_idle (h : s.stage = .idle) : SweepOk w s := sweepOk_of_stage (by rw [h]; trivial)

/-! ### A sweep's own step -/

section
variable {w : World env} {ticket : Nat} {s s' : Sweep} {m : Move env} (hs : SweepOk w s)

include hs

/-- The claim takes the delivery as it is stored, under an identifier drawn for it. -/
theorem sweepOk_claim (hw : Dispatched w) {att : AttemptID}
    (hdr : lookup att (w.step m).attempts = some s.now)
    (h : (s.claimEffect env w.journal att).sweep = some s') : SweepOk (w.step m) s' := by
  unfold claimEffect at h
  split at h
  · next d rest _ _ =>
    cases h
    rcases claimForSend_cases d.key att s.now env.attemptLease w.journal with ⟨e, hclm⟩ | ⟨d', hrd, -, hclm⟩
    · refine sweepOk_idle ?_
      simp only [Durable.outcome, hclm]
      rfl
    have hget := (readDelivery_ok.mp hrd).1
    have hpa : d'.key.path = d.key.path := hw.keyed _ _ hget
    have hsg : claimedStage d.key att ((claimForSend d.key att s.now env.attemptLease).outcome w.journal)
        = .claimed ⟨d.key, att, d'.claimed att (s.now.toNat + env.attemptLease)⟩ := by
      simp only [Durable.outcome, hclm]
      rfl
    refine sweepOk_of_stage ?_
    rw [hsg]
    refine ⟨hdr, fun hsl => ?_⟩
    have hattested : Attested w d'.key.path d'.sessionID d'.ciphertext := by
      rw [hpa]
      exact hw.stored _ _ hget hsl
    exact hattested.step m
  · cases h
  · cases h; exact hs.step m

theorem sweepOk_prepare (h : (s.prepareEffect env w.journal).sweep = some s') : SweepOk (w.step m) s' := by
  unfold prepareEffect at h
  split at h
  · next a hsg =>
    obtain ⟨hdr, hattested⟩ := hs.claimed a hsg
    cases h
    unfold preparedStage
    split_ifs with hsl
    · exact sweepOk_of_stage ((hattested hsl).step m)
    split
    · exact sweepOk_of_stage trivial
    split_ifs
    · exact sweepOk_of_stage trivial
    · exact sweepOk_of_stage (step_attempts m hdr)
  · cases h; exact hs.step m

/-- Only a commit that succeeded leaves a ciphertext to send, and its seal is in the history. -/
theorem sweepOk_commit {result : Option (Bytes × Bytes)}
    (hm : ∀ σ, (s.commitEffect env w.journal result).sealed = some σ → m.sealed w = some σ)
    (h : (s.commitEffect env w.journal result).sweep = some s') : SweepOk (w.step m) s' := by
  unfold commitEffect at h hm
  split at h
  · next a session ciphertext next hsg =>
    simp only [hsg] at hm
    unfold sealEffect at h hm
    split at h
    · next d hcom =>
      cases h
      simp only [hcom] at hm
      exact sweepOk_of_stage (attested_sealed (hm _ rfl))
    · cases h; exact sweepOk_of_stage trivial
  · cases h; exact sweepOk_of_stage trivial
  · cases h; exact hs.step m

theorem sweepOk_send {verdict : Option Fault.Code}
    (h : (s.sendEffect env w.journal verdict).sweep = some s') : SweepOk (w.step m) s' := by
  unfold sendEffect at h
  split at h
  · next a ciphertext hsg =>
    split at h
    · cases h; exact sweepOk_of_stage trivial
    cases h
    cases verdict with
    | none => exact sweepOk_of_stage trivial
    | some code => exact sweepOk_of_stage trivial
  · cases h; exact hs.step m

theorem sweepOk_settle (h : (s.settleEffect w.journal w.clock).sweep = some s') : SweepOk (w.step m) s' := by
  unfold settleEffect at h
  split at h
  · next a hsg =>
    cases h
    split
    · exact sweepOk_idle rfl
    · exact sweepOk_of_stage trivial
  · next a code hsg =>
    split at h
    · cases h; exact sweepOk_idle rfl
    · cases h
  · cases h; exact hs.step m

theorem SweepOk.perform (hw : Dispatched w) (hru : w.running = true)
    (hswp : lookup ticket w.sweeps = some s) {a : SweepAct} (hfr : a.repeats w.attempts = false)
    (h : (s.perform env w.journal w.clock a).sweep = some s') :
    SweepOk (w.step (.act (.sweep ticket a) none)) s' := by
  have heff := effect_sweep hswp hfr
  cases a with
  | claim att =>
    refine sweepOk_claim hs hw ?_ h
    rw [step_act_attempts hru, heff]
    exact lookup_insert _
  | prepare => exact sweepOk_prepare hs h
  | commitSealed result =>
    refine sweepOk_commit hs (fun σ hσ => ?_) h
    simp only [Move.sealed, hru, whole, Bool.and_self, if_true]
    rw [heff]
    exact hσ
  | send verdict => exact sweepOk_send hs h
  | settle => exact sweepOk_settle hs h

end

/-! ### Every move -/

theorem perform_sent {clock : Time} {a : SweepAct} {x : Sent} (h : (s.perform env j clock a).sent = some x) :
    ∃ b ciphertext, s.stage = .ready b ciphertext ∧ x.path = b.delivery.key.path ∧
      x.message.sessionID = b.delivery.sessionID ∧ x.message.ciphertext = ciphertext := by
  cases a with
  | claim | prepare | commitSealed | settle =>
    simp only [perform, claimEffect, prepareEffect, commitEffect, sealEffect, settleEffect] at h
    repeat' split at h
    all_goals cases h
  | send verdict =>
    simp only [perform, sendEffect] at h
    split at h
    · next b ciphertext hsg =>
      split at h
      · cases h
      · cases h; exact ⟨b, ciphertext, hsg, rfl, rfl, rfl⟩
    · cases h

/-- What a move hands to the transport was ready in one of the sweeps. -/
theorem sent_cases {x : Sent} (h : m.sent w = some x) :
    ∃ ticket s b ciphertext, lookup ticket w.sweeps = some s ∧ s.stage = .ready b ciphertext ∧
      x.path = b.delivery.key.path ∧ x.message.sessionID = b.delivery.sessionID ∧
        x.message.ciphertext = ciphertext := by
  cases m with
  | openJournal | tick => cases h
  | act a crash =>
    simp only [Move.sent] at h
    split_ifs at h
    cases a with
    | accept | call => cases h
    | beginInbound | settleInbound | startSweep =>
      simp only [Act.effect] at h
      split at h <;> cases h
    | sweep ticket a =>
      rcases effect_sweep_cases w ticket a with hqt | ⟨s, hswp, -, heff⟩
      · rw [hqt] at h; cases h
      rw [heff] at h
      obtain ⟨b, ciphertext, hready⟩ := perform_sent (show (s.perform env w.journal w.clock a).sent = some x from h)
      exact ⟨ticket, s, b, ciphertext, hswp, hready⟩

/-! ### What a seal leaves behind -/

section
variable {w : World env} {m : Move env} {σ : Seal}

/-- The delivery had no ciphertext before, and has this one after. -/
theorem sealed_stored (h : m.sealed w = some σ) :
    (∃ d, lookup σ.path w.journal.outbound = some d ∧ d.ciphertext = []) ∧
      ∃ d, lookup σ.path (w.step m).journal.outbound = some d ∧ d.ciphertext ≠ [] := by
  obtain ⟨ticket, s, a, session, ciphertext, next, crash, -, -, -, rfl, hou⟩ := sealed_cases h
  rw [step_journal]
  generalize m.writes w = ws at hou
  cases hou with
  | @mk d cur body hrd hsbl hnem _ _ _ =>
    refine ⟨⟨d, (readDelivery_ok.mp hrd).1, (sealable_ok hsbl).2.2.2⟩, { d with ciphertext }, ?_, hnem⟩
    exact lookup_insert _

/-- The seal consumed the generation it names. -/
theorem sealed_source (h : m.sealed w = some σ) : sourceOf σ ∈ generationsConsumed w.journal (m.writes w) := by
  obtain ⟨ticket, s, a, session, ct, next, crash, -, -, -, rfl, hou⟩ := sealed_cases h
  generalize m.writes w = ws at hou
  cases hou with
  | @mk d cur body _ _ _ hcur hgen _ =>
    have hat : generationAt w.journal a.delivery.sessionID = session.generation :=
      (congrArg generationOf (currentSession_lookup hcur)).trans hgen
    refine List.mem_append_left _ ?_
    show sourceOf _ ∈ [(a.delivery.sessionID, generationAt w.journal a.delivery.sessionID)]
    rw [hat]
    exact List.mem_singleton.mpr rfl

end

/-- A list stays without duplicates when what is added, if anything, is new. -/
theorem nodup_append_toList {α : Type} {l : List α} {o : Option α} (hl : l.Nodup)
    (ho : ∀ a, o = some a → a ∉ l) : (l ++ o.toList).Nodup := by
  cases o with
  | none => simpa using hl
  | some a =>
    refine List.nodup_append.mpr ⟨hl, List.nodup_singleton a, ?_⟩
    rintro b hb c hc rfl
    exact ho a rfl (List.mem_singleton.mp hc ▸ hb)

section
variable {w : World env} (hw : Dispatched w) (hacct : Accounted w) (m : Move env)

include hw

theorem Dispatched.keyed_step : ∀ p d, lookup p (w.step m).journal.outbound = some d → d.key.path = p := by
  refine w.step_outbound m (fun _ => rfl) ?_ ?_ ?_ hw.keyed
  · intro p d d' hd hchg
    rw [hchg.identity.1]
    exact hd
  · intro p d att now hd _
    exact hd
  · intro σ d hd _ _ _
    exact hd

theorem Dispatched.holder_step :
    ∀ p d, lookup p (w.step m).journal.outbound = some d → ∀ att, d.attemptID = some att →
      ∃ now, lookup att (w.step m).attempts = some now ∧ d.attemptExpiresAt = now.toNat + env.attemptLease := by
  refine w.step_outbound m ?_ ?_ ?_ ?_ ?_
  · intro request att h
    cases h
  · intro p d d' _ hchg att h
    rw [hchg.identity.2.2.2] at h
    cases h
  · intro p d drawn now _ hdr att h
    cases h
    exact ⟨now, hdr, rfl⟩
  · intro σ d hd _ _ _
    exact hd
  intro p d hd att h
  obtain ⟨now, hnow, hxs⟩ := hw.holder p d hd att h
  exact ⟨now, step_attempts m hnow, hxs⟩

theorem Dispatched.stored_step :
    ∀ p d, lookup p (w.step m).journal.outbound = some d → d.ciphertext ≠ [] →
      Attested (w.step m) p d.sessionID d.ciphertext := by
  refine w.step_outbound m ?_ ?_ ?_ ?_ ?_
  · intro request hsl
    exact absurd rfl hsl
  · intro p d d' hd hchg
    rw [hchg.identity.2.1, hchg.identity.2.2.1]
    exact hd
  · intro p d att now hd _
    exact hd
  · intro σ d _ hm hses _ _
    rw [hses]
    exact attested_sealed hm
  · intro p d hd hsl
    exact (hw.stored p d hd hsl).step m

theorem Dispatched.kept_step :
    ∀ σ ∈ (w.step m).seals, ∃ d, lookup σ.path (w.step m).journal.outbound = some d ∧ d.ciphertext ≠ [] := by
  intro σ hσ
  rw [step_seals, List.mem_append, Option.mem_toList] at hσ
  rcases hσ with hold | hnew
  · obtain ⟨d, hd, hsl⟩ := hw.kept σ hold
    obtain ⟨d', hd', hsm⟩ := ciphertextsKept_step w m σ.path d hd hsl
    exact ⟨d', hd', hsm ▸ hsl⟩
  · exact (sealed_stored hnew).2

theorem Dispatched.paths_step : ((w.step m).seals.map Seal.path).Nodup := by
  rw [step_seals, List.map_append, ← Option.toList_map]
  refine nodup_append_toList hw.paths ?_
  intro p hp hmem
  obtain ⟨σ, hσ, rfl⟩ := Option.map_eq_some_iff.mp hp
  obtain ⟨τ, hτ, hpa⟩ := List.mem_map.mp hmem
  -- an earlier seal of this delivery would have left a ciphertext in it
  obtain ⟨d, hd, hsl⟩ := hw.kept τ hτ
  obtain ⟨⟨d', hd', hemp⟩, -⟩ := sealed_stored hσ
  rw [hpa, hd'] at hd
  cases hd
  exact hsl hemp

include hacct in
theorem Dispatched.sources_step : ((w.step m).seals.map sourceOf).Nodup := by
  have hnd := (hacct.step m).spent.nodup
  rw [hacct.consumed_step, List.nodup_append] at hnd
  rw [step_seals, List.map_append, ← Option.toList_map]
  refine nodup_append_toList hw.sources ?_
  intro source hsrc hmem
  obtain ⟨σ, hσ, rfl⟩ := Option.map_eq_some_iff.mp hsrc
  obtain ⟨τ, hτ, hsm⟩ := List.mem_map.mp hmem
  exact hnd.2.2 _ (hw.consumed τ hτ) _ (sealed_source hσ) hsm

include hacct in
theorem Dispatched.consumed_step :
    ∀ σ ∈ (w.step m).seals, sourceOf σ ∈ generationsConsumed .empty (w.step m).log := by
  intro σ hσ
  rw [hacct.consumed_step, List.mem_append]
  rw [step_seals, List.mem_append, Option.mem_toList] at hσ
  rcases hσ with hold | hnew
  · exact .inl (hw.consumed σ hold)
  · exact .inr (sealed_source hnew)

theorem Dispatched.sweep_step : ∀ ticket s, lookup ticket (w.step m).sweeps = some s → SweepOk (w.step m) s := by
  intro ticket s' hs'
  rcases step_sweep hs' with hsm | ⟨limit, hstart⟩ | ⟨s, a, rfl, hru, hswp, hfr, hperforms⟩
  · exact (hw.sweep ticket s' hsm).step m
  · exact sweepOk_idle (start_idle hstart)
  · exact (hw.sweep ticket s hswp).perform hw hru hswp hfr hperforms

theorem Dispatched.sent_step :
    ∀ x ∈ (w.step m).sent, Attested (w.step m) x.path x.message.sessionID x.message.ciphertext := by
  intro x hx
  rw [step_sent, List.mem_append, Option.mem_toList] at hx
  rcases hx with hold | hnew
  · exact (hw.sent x hold).step m
  obtain ⟨ticket, s, b, ct, hswp, hsg, hpa, hses, hct⟩ := sent_cases hnew
  rw [hpa, hses, hct]
  exact ((hw.sweep ticket s hswp).ready b ct hsg).step m

include hacct in
theorem Dispatched.step : Dispatched (w.step m) where
  keyed := hw.keyed_step m
  holder := hw.holder_step m
  stored := hw.stored_step m
  kept := hw.kept_step m
  paths := hw.paths_step m
  consumed := hw.consumed_step hacct m
  sources := hw.sources_step hacct m
  sweep := hw.sweep_step m
  sent := hw.sent_step m

end

theorem dispatched_run (env : Env) (ms : List (Move env)) :
    Accounted (run step (fresh env) ms) ∧ Dispatched (run step (fresh env) ms) :=
  run_invariant (I := fun w => Accounted w ∧ Dispatched w) (fun _ m hw => ⟨hw.1.step m, hw.2.step hw.1 m⟩)
    ⟨accounted_fresh, dispatched_fresh⟩ ms

/-! ## The result -/

/-- At a sealing commit, less than the attempt lease has passed by the clock since its sweep
    started. -/
def Move.timely (w : World env) : Move env → Bool
  | .act (.sweep ticket (.commitSealed _)) _ =>
    (lookup ticket w.sweeps).all fun s => w.clock.toNat < s.now.toNat + env.attemptLease
  | _ => true

/-- **What the move that stores a ciphertext looks like**: the sealing commit of a sweep whose
    attempt holds the delivery under a lease that is unexpired by the clock. The session on disk is
    at the generation the sweep sealed at, and the commit writes the session one generation further
    first and the ciphertext second. -/
inductive Sealing (w : World env) (m : Move env) (path : DeliveryPath) (ciphertext : Bytes) : Prop
  | mk {ticket : Nat} {next : Bytes} {crash : Option Nat} {s : Sweep} {a : Attempt} {session body : SessionRecord}
      {d : Delivery} (hmove : m = .act (.sweep ticket (.commitSealed (some (ciphertext, next)))) crash)
      (hsweep : lookup ticket w.sweeps = some s) (hstage : s.stage = .prepared a session)
      (hstored : lookup path w.journal.outbound = some d) (hempty : d.ciphertext = [])
      (hholder : d.attemptID = some a.attemptID) (hlease : w.clock.toNat < d.attemptExpiresAt)
      (hgeneration : generationAt w.journal d.sessionID = session.generation)
      (hadvanced : body.generation = succ64 session.generation)
      (hwrites : m.writes w = [.session d.sessionID body, .delivery path { d with ciphertext }])

/-- A move stores a new ciphertext only by sealing. -/
def StoresBySealing (w : World env) (m : Move env) : Prop :=
  ∀ p d', lookup p (w.step m).journal.outbound = some d' → d'.ciphertext ≠ [] →
    (∃ d, lookup p w.journal.outbound = some d ∧ d.ciphertext = d'.ciphertext) ∨ Sealing w m p d'.ciphertext

/-- A seal is the one of a message. -/
def SealOf (σ : Seal) (x : Sent) : Prop :=
  σ.path = x.path ∧ σ.sessionID = x.message.sessionID ∧ σ.ciphertext = x.message.ciphertext

/-- **No key is used twice**: every message handed to the transport was sealed, and two of them that
    were sealed from one generation of one session carry one ciphertext of one delivery. -/
def NoKeyReuse (w : World env) : Prop :=
  (∀ x ∈ w.sent, ∃ σ ∈ w.seals, SealOf σ x) ∧
    ∀ x ∈ w.sent, ∀ y ∈ w.sent, ∀ σ ∈ w.seals, ∀ τ ∈ w.seals, SealOf σ x → SealOf τ y →
      sourceOf σ = sourceOf τ → x.path = y.path ∧ x.message.ciphertext = y.message.ciphertext

section
variable {w : World env} {m : Move env}

theorem Dispatched.sealing (hw : Dispatched w) (hm : m.timely w = true) {σ : Seal}
    (hσ : m.sealed w = some σ) : Sealing w m σ.path σ.ciphertext := by
  obtain ⟨ticket, s, a, session, ct, next, crash, rfl, hswp, hsg, rfl, hou⟩ := sealed_cases hσ
  generalize hws : Move.writes w (.act (.sweep ticket (.commitSealed (some (ct, next)))) crash) = ws at hou
  cases hou with
  | @mk d cur body hrd hsbl hnem hcur hgen hbo =>
    have hget := (readDelivery_ok.mp hrd).1
    obtain ⟨hses, hhdr, -, hemp⟩ := sealable_ok hsbl
    have hsess' : d.sessionID = a.delivery.sessionID := hses
    -- the stored claim is the sweep's own, so it expires one lease after the sweep started
    obtain ⟨now, hnow, hxs⟩ := hw.holder _ d hget _ hhdr
    have hdr : lookup a.attemptID w.attempts = some s.now := (hw.sweep ticket s hswp).prepared a session hsg
    have hsm : now = s.now := Option.some.inj (hnow.symm.trans hdr)
    have hclk : w.clock.toNat < s.now.toNat + env.attemptLease := by simpa [Move.timely, hswp] using hm
    have hat : generationAt w.journal a.delivery.sessionID = session.generation :=
      (congrArg generationOf (currentSession_lookup hcur)).trans hgen
    refine .mk rfl hswp hsg hget hemp hhdr ?_ (hsess' ▸ hat) hbo ?_
    · rw [hxs, hsm]
      exact hclk
    · rw [hws, hsess']
      rfl

theorem Dispatched.storesBySealing (hw : Dispatched w) (hm : m.timely w = true) : StoresBySealing w m := by
  have hnew : ∀ p d', lookup p (w.step m).journal.outbound = some d' → d'.ciphertext ≠ [] →
      (∃ d, lookup p w.journal.outbound = some d ∧ d.ciphertext = d'.ciphertext) ∨
        ∃ σ, m.sealed w = some σ ∧ σ.path = p ∧ σ.ciphertext = d'.ciphertext := by
    refine w.step_outbound m ?_ ?_ ?_ ?_ ?_
    · intro request hsl
      exact absurd rfl hsl
    · intro p d d' hd hchg
      rw [hchg.identity.2.1]
      exact hd
    · intro p d att now hd _
      exact hd
    · intro σ d _ hσ _ _ _
      exact .inr ⟨σ, hσ, rfl, rfl⟩
    · intro p d hd _
      exact .inl ⟨d, hd, rfl⟩
  intro p d' hd' hsl
  rcases hnew p d' hd' hsl with hold | ⟨σ, hσ, rfl, hct⟩
  · exact .inl hold
  · rw [← hct]
    exact .inr (hw.sealing hm hσ)

theorem Dispatched.noKeyReuse (hw : Dispatched w) : NoKeyReuse w := by
  refine ⟨hw.sent, ?_⟩
  intro x _ y _ σ hσ τ hτ hx hy hsrc
  have hsm : σ = τ := List.inj_on_of_nodup_map hw.sources hσ hτ hsrc
  subst hsm
  exact ⟨hx.1.symm.trans hy.1, hx.2.2.symm.trans hy.2.2⟩

end

end

/-- **Sealing is safe** in every run whose sealing commits are timely: each generation of a session
    is consumed once, no stored ciphertext is replaced between any two states, a ciphertext is
    stored only by sealing, and no key is used twice. Only the lease needs the condition. -/
theorem sealing_safe (env : Env) (ms ns : List (Move env))
    (htimely : Along World.step (fun w m => m.timely w = true) (World.fresh env) (ms ++ ns)) :
    (generationsConsumed .empty (run World.step (World.fresh env) (ms ++ ns)).log).Nodup ∧
      CiphertextsKept (run World.step (World.fresh env) ms).journal
        (run World.step (World.fresh env) (ms ++ ns)).journal ∧
      (∀ m ∈ ns.head?, StoresBySealing (run World.step (World.fresh env) ms) m) ∧
      NoKeyReuse (run World.step (World.fresh env) (ms ++ ns)) := by
  obtain ⟨hacct, hdispatched⟩ := dispatched_run env (ms ++ ns)
  obtain ⟨-, hns⟩ := (along_append _ ms ns).mp htimely
  refine ⟨hacct.spent.nodup, ?_, ?_, hdispatched.noKeyReuse⟩
  · rw [run_append]
    exact hns.related (R := fun w w' => CiphertextsKept w.journal w'.journal) (fun w => .refl w.journal)
      CiphertextsKept.trans fun w m _ => ciphertextsKept_step w m
  intro m hm
  cases ns with
  | nil => cases hm
  | cons n rest =>
    cases hm
    exact (dispatched_run env ms).2.storesBySealing hns.1

/-- A session, a queued event, and a sweep that has claimed it and read the session at time 100. -/
def sampleSweep : List (Move .plain) :=
  [.openJournal none,
   .act (.call (.putSession ⟨1⟩ ⟨"suite"⟩ [1] 5)) none,
   .act (.call (.enqueue ⟨none, ⟨7⟩, ⟨1⟩, ⟨2⟩, none, ⟨3⟩, [1], 10, 1000⟩)) none,
   .tick 100,
   .act (.startSweep 0 0) none,
   .act (.sweep 0 (.claim ⟨1⟩)) none,
   .act (.sweep 0 .prepare) none]

/-- The commit of what the suite returned, and the hand-over. -/
def sampleSeal : List (Move .plain) :=
  [.act (.sweep 0 (.commitSealed (some ([9], [2])))) none, .act (.sweep 0 (.send none)) none]

/-- Without a pause the sweep seals in time, and its message is the sealed one. -/
theorem sampleSweep_sealing_safe :
    (run World.step (World.fresh .plain) (sampleSweep ++ sampleSeal)).sent.length = 1 ∧
      NoKeyReuse (run World.step (World.fresh .plain) (sampleSweep ++ sampleSeal)) :=
  ⟨by decide, (sealing_safe .plain sampleSweep sampleSeal (by decide)).2.2.2⟩

/-- The suite takes until 500. -/
def slowRun : List (Move .plain) := sampleSweep ++ [.tick 500]

/-- The claim expired at 160 and the clock is at 500, and the commit still stores the ciphertext. -/
theorem slowRun_seals_after_the_lease :
    (run World.step (World.fresh .plain) slowRun).clock = 500 ∧
      (AList.lookup ⟨7⟩ (run World.step (World.fresh .plain) slowRun).journal.outbound).map
        (fun d => (d.attemptID, d.attemptExpiresAt, d.ciphertext)) = some (some ⟨1⟩, 160, []) ∧
      (AList.lookup ⟨7⟩ (run World.step (World.fresh .plain)
        (slowRun ++ [.act (.sweep 0 (.commitSealed (some ([9], [2])))) none])).journal.outbound).map
        (fun d => (d.attemptID, d.attemptExpiresAt, d.ciphertext)) = some (some ⟨1⟩, 160, [9]) := by
  decide

/-- What was handed to the transport for a delivery is what the journal has for it. -/
def SentStored (w : World env) : Prop :=
  ∀ x ∈ w.sent, ∃ d, lookup x.path w.journal.outbound = some d ∧ d.sessionID = x.message.sessionID ∧
    d.ciphertext = x.message.ciphertext

/-- **A message is sent again as it was sent first**, in every run, whatever is interrupted, until
    it is pruned. -/
theorem sent_is_stored (env : Env) (ms : List (Move env)) : SentStored (run World.step (World.fresh env) ms) := by
  obtain ⟨-, hw⟩ := dispatched_run env ms
  intro x hx
  obtain ⟨σ, hσ, hpath, hses, hct⟩ := hw.sent x hx
  obtain ⟨d, hget, hsl⟩ := hw.kept σ hσ
  obtain ⟨τ, hτ, hsame, hses', hct'⟩ := hw.stored _ d hget hsl
  -- a delivery is sealed once
  obtain rfl := List.inj_on_of_nodup_map hw.paths hτ hσ hsame
  exact ⟨d, hpath ▸ hget, hses'.symm.trans hses, hct'.symm.trans hct⟩

end Messenger.Daemon
