import Messenger.Admission.Correctness.Rooms
import Messenger.Eventlog.Correctness.Receipts
import Messenger.Eventlog.Prune
import Messenger.Lib.Observe

/-!
# `Admission.Correctness.Replay` — one event is accepted as fresh once

Replay protection is the record of an event. `Prune` drops it a retention after the event was
**received**; whether the gate would take the event again depends on when it **expires**. The two
windows meet only for events that expire, and within the retention floor of their receipt: in a run
of such arrivals under a clock that never goes back, no event is accepted as fresh twice
(`fresh_once`). An event without an expiry is (`unexpiring_fresh_twice`).

After a fresh acceptance, the record of the event is on disk, or the event has expired by the latest
reading of the clock (`Covered`).
-/

namespace Messenger.Admission

open Lib Identity Eventlog
open Envelope (Event eventCanonicalBytes validateEvent)

/-! ## Commits -/

section
variable {env : Env} {entry : Entry} {j : Journal}

/-- A commit that only tells whether its entry is new. -/
theorem run_flag (m : Region (Bool × Eventlog.Record)) (j : Journal) :
    (do let committed ← m; pure committed.1 : Region Bool) j = (m.writes j, (m.outcome j).map Prod.fst) := by
  cases hm : m.outcome j with
  | error e => exact run_bind_error (Prod.ext rfl hm)
  | ok committed =>
    have hrun : m j = (m.writes j, .ok committed) := Prod.ext rfl hm
    rw [run_bind_ok hrun]
    simp [Except.map]

/-- What a region that only tells its flag does is what the region under it does. -/
theorem flag_keepsReceipt {m : Region (Bool × Eventlog.Record)} (h : Guarded KeepsReceipt j (m.writes j)) :
    Guarded KeepsReceipt j ((do let committed ← m; pure committed.1 : Region Bool).writes j) := by
  unfold Durable.writes
  rw [run_flag]
  exact h

theorem flag_fresh {m : Region (Bool × Eventlog.Record)} {id : EventID} {receivedAt : Nat}
    (hfr : ∀ r, m.outcome j = .ok (true, r) → lookup id j.inbound = none ∧
      ∃ r, lookup id (m.final j).inbound = some r ∧ r.receivedAt = receivedAt)
    (h : (do let committed ← m; pure committed.1 : Region Bool).outcome j = .ok true) :
    lookup id j.inbound = none ∧
      ∃ r, lookup id ((do let committed ← m; pure committed.1 : Region Bool).final j).inbound = some r ∧
        r.receivedAt = receivedAt := by
  unfold Durable.outcome at h
  unfold Durable.final Durable.writes
  rw [run_flag] at h ⊢
  cases hm : m.outcome j with
  | error e =>
    rw [hm] at h
    cases h
  | ok committed =>
    rw [hm] at h
    obtain ⟨fresh, r⟩ := committed
    have hflag : fresh = true := Except.ok.inj h
    subst hflag
    exact hfr r hm

theorem Commit.region_keepsReceipt (env : Env) (entry : Entry) (j : Journal) (commit : Commit) :
    Guarded KeepsReceipt j ((commit.region env entry).writes j) := by
  cases commit with
  | accept => exact flag_keepsReceipt (accept_keepsReceipt env entry j)
  | session sid algorithm expectedGeneration next now => exact flag_keepsReceipt (commitInbound_keepsReceipt _ j)
  | firstContact sid algorithm next bootstrap now =>
    cases hreq : firstContactRequest env sid algorithm next entry bootstrap now with
    | error e =>
      simp only [Commit.region, hreq]
      trivial
    | ok request =>
      simp only [Commit.region, hreq]
      exact flag_keepsReceipt (commitInbound_keepsReceipt request j)

/-- A request for a first contact is about its entry. -/
theorem firstContactRequest_entry {sid : SessionID} {algorithm : AlgorithmID} {next : Bytes}
    {bootstrap : FirstContact} {now : Time} {request : CommitRequest env}
    (h : firstContactRequest env sid algorithm next entry bootstrap now = .ok request) : request.entry = entry := by
  unfold firstContactRequest at h
  split_ifs at h with hses
  cases h
  rfl

theorem Commit.region_fresh {commit : Commit} (h : (commit.region env entry).outcome j = .ok true) :
    lookup entry.eventID j.inbound = none ∧
      ∃ r, lookup entry.eventID ((commit.region env entry).final j).inbound = some r ∧
        r.receivedAt = entry.receivedAt := by
  cases commit with
  | accept => exact flag_fresh (fun _ => accept_fresh) h
  | session sid algorithm expectedGeneration next now => exact flag_fresh (fun _ => commitInbound_fresh) h
  | firstContact sid algorithm next bootstrap now =>
    cases hreq : firstContactRequest env sid algorithm next entry bootstrap now with
    | error e =>
      simp only [Commit.region, hreq] at h
      cases h
    | ok request =>
      simp only [Commit.region, hreq] at h ⊢
      rw [← firstContactRequest_entry hreq]
      exact flag_fresh (fun _ => commitInbound_fresh) h

/-- On any disk a commit keeps the receipts. -/
theorem Commit.run_retains (env : Env) (entry : Entry) (j : Journal) (commit : Commit)
    (fault : Option Nat) : j.Retains (commit.run env entry j fault).2 := by
  have hkp := commit.region_keepsReceipt env entry j
  unfold Commit.run
  split
  · next k w ws hws =>
    rw [hws] at hkp
    exact puts_retains (hkp.take k)
  · exact puts_retains hkp

theorem Commit.run_fresh {commit : Commit} {fault : Option Nat}
    (h : (commit.run env entry j fault).1 = .ok true) : lookup entry.eventID j.inbound = none ∧
      ∃ r, lookup entry.eventID (commit.run env entry j fault).2.inbound = some r ∧
        r.receivedAt = entry.receivedAt := by
  unfold Commit.run at h ⊢
  split at h
  · cases h
  · exact Commit.region_fresh h

end

/-! ## Runs -/

/-- A step of an installation. The other ledgers may change in any way between two steps of the
    journal. -/
inductive Step where
  | arrive (x : Arrival)
  /-- An operation of the journal, cut after `landed` writes if that is given. -/
  | call (call : Call) (landed : Option Nat)
  /-- What `Open` does after a crash. -/
  | recover (landed : Option Nat)
  | prune (now : Time) (retention : Duration) (disk : PruneDisk)
  | elsewhere (invites : Invites) (ledgers : RoomLedgers) (devices : Devices)

/-- The writes that landed. -/
def landing (landed : Option Nat) (ws : List JournalWrite) : List JournalWrite := ws.take (landed.getD ws.length)

namespace Gate
variable (g : Gate)

def step (s : State) : Step → State
  | .arrive x => (g.admitWithCommit s x).2
  | .call call landed => { s with journal := puts s.journal (landing landed (call.writes g.env s.journal)) }
  | .recover landed => { s with journal := puts s.journal (landing landed ((recoverStaged g.env).writes s.journal)) }
  | .prune now retention disk => { s with journal := (Eventlog.prune g.env now retention disk s.journal).2 }
  | .elsewhere invites ledgers devices => { s with invites, ledgers, devices }

/-- The event a step accepts as fresh, to work on or to hold for the owner. -/
def fresh (s : State) : Step → Option EventID
  | .arrive x =>
    match (g.admitWithCommit s x).1 with
    | .ok decision =>
      if decision.outcome = .accepted ∨ decision.outcome = .held then some x.inbound.event.eventID else none
    | .error _ => none
  | .call _ _ | .recover _ | .prune _ _ _ | .elsewhere _ _ _ => none

end Gate

/-- The reading of the clock a step is made at. -/
def Step.time : Step → Option Int
  | .arrive x => some x.inbound.receivedAt.toNat
  | .prune now _ _ => some now
  | .call _ _ | .recover _ | .elsewhere _ _ _ => none

/-- The events a run presents. -/
def presented (steps : List Step) : List Event :=
  steps.filterMap fun
    | .arrive x => some x.inbound.event
    | .call _ _ | .recover _ | .prune _ _ _ | .elsewhere _ _ _ => none

/-- The hash tells the presented events apart. -/
def Gate.NoCollision (g : Gate) (events : List Event) : Prop :=
  ∀ a ∈ events, ∀ b ∈ events, ∀ p q, eventCanonicalBytes g.rules a = .ok p →
    eventCanonicalBytes g.rules b = .ok q → g.crypto.sum256 p = g.crypto.sum256 q → p = q

/-- The event expires, and no later than the retention floor after it came. -/
def Arrival.Expiring (x : Arrival) : Prop :=
  x.inbound.event.expiresAt ≠ 0 ∧ x.inbound.event.expiresAt.toNat ≤ x.inbound.receivedAt.toNat + minClaimRetention

/-! ## What a step keeps -/

variable {g : Gate} {s : State} {x : Arrival} {p : Gate.Passed}

theorem moderate_inbound (g : Gate) (s : State) (x : Arrival) (p : Gate.Passed) :
    (g.moderate s x p).2.inbound = s.journal.inbound := by
  unfold Gate.moderate
  split
  · rfl
  · rfl
  cases x.disk.moderation.written with
  | done => rfl
  | refused => rfl
  | unacknowledged => rfl

theorem admitWithCommit_retains (g : Gate) (s : State) (x : Arrival) :
    s.journal.Retains (g.admitWithCommit s x).2.journal := by
  rcases g.admitWithCommit_cases s x with ⟨stop, -, hadm⟩ | ⟨p, -, hre⟩
  · rw [hadm]
    exact .refl _
  have hmoderated : s.journal.Retains (g.effected s x p).journal := .of_inbound (moderate_inbound g s x p)
  rcases hre with ⟨e, -, hadm⟩ | ⟨-, ⟨stop, -, hadm⟩ | ⟨-, hadm⟩⟩
  · rw [hadm]
    exact .refl _
  · rw [hadm]
    exact hmoderated
  · rw [hadm]
    exact hmoderated.trans (x.commit.run_retains g.env (g.entry x p) _ x.disk.commit)

/-- Only a prune ends a record. -/
theorem step_retains (g : Gate) (s : State) {i : Step} (hprune : ∀ now retention disk, i ≠ .prune now retention disk) :
    s.journal.Retains (g.step s i).journal := by
  cases i with
  | arrive x => exact admitWithCommit_retains g s x
  | call call landed =>
    have hkp := (call.routine g.env s.journal).mono fun _ _ => Routine.keepsReceipt
    exact puts_retains (hkp.take _)
  | recover landed =>
    have hkp : Guarded KeepsReceipt s.journal ((recoverStaged g.env).writes s.journal) :=
      recoverStaged_guarded.mono fun _ _ => RecoveryWrite.keepsReceipt
    exact puts_retains (hkp.take _)
  | prune now retention disk => exact absurd rfl (hprune now retention disk)
  | elsewhere invites ledgers devices => exact .refl _

/-- **What is behind a fresh acceptance**: the event passed the checks, there was no record of it,
    and there is one now that was received when it came. -/
theorem fresh_cases {i : Step} {id : EventID} (h : g.fresh s i = some id) :
    ∃ x p, i = .arrive x ∧ x.inbound.event.eventID = id ∧ g.Checked s x p ∧ lookup id s.journal.inbound = none ∧
      ∃ r, lookup id (g.step s i).journal.inbound = some r ∧ r.receivedAt = x.inbound.receivedAt.toNat := by
  cases i with
  | arrive x =>
    unfold Gate.fresh at h
    cases hans : (g.admitWithCommit s x).1 with
    | error e =>
      simp only [hans] at h
      cases h
    | ok decision =>
      simp only [hans] at h
      split_ifs at h with hou
      cases h
      have hrecord : recorded (g.admitWithCommit s x).1 := by
        rw [hans]
        rcases hou with ho | ho <;> simp [recorded, ho]
      obtain ⟨p, flag, hchk, -, -, hrun, hadm⟩ := Gate.recorded_cases hrecord
      have hflag : flag = true := by
        have hdecided : decision = g.committed x p flag := by
          rw [hadm] at hans
          exact (Except.ok.inj hans).symm
        cases flag with
        | true => rfl
        | false =>
          rw [hdecided] at hou
          simp [Gate.committed] at hou
      subst hflag
      obtain ⟨hno, r, hr, hrcv⟩ := Commit.run_fresh hrun
      rw [moderate_inbound] at hno
      refine ⟨x, p, rfl, rfl, Gate.check_ok hchk, hno, r, ?_, hrcv⟩
      simp only [Gate.step, hadm]
      exact hr
  | call | recover | prune | elsewhere => cases h

/-! ## The two windows -/

/-- **An identifier that will not be fresh again**: all its events expire at one time, and its
    record is there for as long as they could pass, or that time is over. -/
def Gate.Covered (g : Gate) (steps : List Step) (id : EventID) (s : State × Int) : Prop :=
  ∃ expiry : Nat,
    (∀ x, .arrive x ∈ steps → x.inbound.event.eventID = id → validateEvent g.crypto g.rules x.inbound.event = .ok () →
      x.inbound.event.expiresAt.toNat = expiry) ∧
    ((∃ r, lookup id s.1.journal.inbound = some r ∧ expiry ≤ r.receivedAt + minClaimRetention ∧
        r.receivedAt < 2 ^ 63) ∨ (expiry : Int) ≤ s.2)

/-- An input of the run, at a reading that does not go back. -/
def InTime (steps : List Step) (s : State × Int) (i : Step) : Prop := i ∈ steps ∧ ∀ t ∈ i.time, s.2 ≤ t

variable {steps : List Step} {id : EventID} {c : Int} {i : Step}

theorem clock_le (h : InTime steps (s, c) i) : c ≤ (i.time).getD c := by
  cases hti : i.time with
  | none => exact le_refl _
  | some t => exact h.2 t hti

/-- A record is dropped when its events have expired. -/
theorem prune_covered {now : Time} {retention : Duration} {disk : PruneDisk} {r : Eventlog.Record} {expiry : Nat}
    (hr : lookup id s.journal.inbound = some r) (hxy : expiry ≤ r.receivedAt + minClaimRetention)
    (hrcv : r.receivedAt < 2 ^ 63) :
    lookup id (prune g.env now retention disk s.journal).2.inbound = some r ∨ (expiry : Int) ≤ now := by
  rcases prune_inbound g.env now retention disk s.journal id with hsm | ⟨-, hnow, hfloor, r', hr', -, hold⟩
  · exact .inl (hsm.trans hr)
  right
  cases hr.symm.trans hr'
  have hwp : wrap64 (r.receivedAt + retention.seconds) = r.receivedAt + retention.seconds := by
    have hsecond := retention.seconds_lt
    exact Nat.mod_eq_of_lt (by omega)
  have hnow : (0 : Int) ≤ now := hnow
  omega

theorem step_covered (hin : InTime steps (s, c) i) (h : g.Covered steps id (s, c)) :
    g.Covered steps id (clocked g.step Step.time (s, c) i) := by
  obtain ⟨expiry, hxy, hre⟩ := h
  refine ⟨expiry, hxy, ?_⟩
  have hclk := clock_le hin
  rcases hre with ⟨r, hr, hwi, hrcv⟩ | hov
  · by_cases hprune : ∃ now retention disk, i = .prune now retention disk
    · obtain ⟨now, retention, disk, rfl⟩ := hprune
      rcases prune_covered hr hwi hrcv with hsm | hov
      · exact .inl ⟨r, hsm, hwi, hrcv⟩
      · exact .inr hov
    push Not at hprune
    obtain ⟨r', hr', hsm⟩ := step_retains g s hprune id r hr
    exact .inl ⟨r', hr', by omega, by omega⟩
  · exact .inr (hov.trans hclk)

theorem Gate.Covered.unseen (hexpiring : ∀ x, .arrive x ∈ steps → x.Expiring)
    (hin : InTime steps (s, c) i) (h : g.Covered steps id (s, c)) : g.fresh s i ≠ some id := by
  intro hfr
  obtain ⟨x, p, rfl, hid, hchd, hno, -⟩ := fresh_cases hfr
  obtain ⟨expiry, hxy, ⟨r, hr, -⟩ | hov⟩ := h
  · cases hno.symm.trans hr
  have hsm := hxy x hin.1 hid hchd.valid
  have hrd : c ≤ x.inbound.receivedAt.toNat := hin.2 _ rfl
  rcases hchd.unexpired with hz | hlat
  · exact (hexpiring x hin.1).1 hz
  have hlat := UInt64.lt_iff_toNat_lt.mp hlat
  have hov : (expiry : Int) ≤ c := hov
  omega

/-- The hash fixes the expiry of an identifier's events. -/
theorem expiry_of_identifier {y : Arrival} (hcollide : g.NoCollision (presented steps)) (hx : .arrive x ∈ steps)
    (hy : .arrive y ∈ steps) (hid : x.inbound.event.eventID = y.inbound.event.eventID)
    (hvalid : validateEvent g.crypto g.rules x.inbound.event = .ok ())
    (hvalidY : validateEvent g.crypto g.rules y.inbound.event = .ok ()) :
    x.inbound.event.expiresAt = y.inbound.event.expiresAt := by
  obtain ⟨a, ha, hida⟩ := Envelope.validateEvent_ok hvalid
  obtain ⟨b, hb, hidb⟩ := Envelope.validateEvent_ok hvalidY
  have hmem : ∀ z : Arrival, .arrive z ∈ steps → z.inbound.event ∈ presented steps :=
    fun z hz => List.mem_filterMap.mpr ⟨.arrive z, hz, rfl⟩
  have hdig : g.crypto.sum256 a = g.crypto.sum256 b := by
    rw [hida, hidb] at hid
    exact Identifier.mk.inj hid
  have hsm := hcollide _ (hmem x hx) _ (hmem y hy) a b ha hb hdig
  rw [Envelope.canonical_inj ha (hsm ▸ hb)]

theorem fresh_covered (hcollide : g.NoCollision (presented steps)) (hexpiring : ∀ x, .arrive x ∈ steps → x.Expiring)
    (hin : InTime steps (s, c) i) (hfr : g.fresh s i = some id) :
    g.Covered steps id (clocked g.step Step.time (s, c) i) := by
  obtain ⟨x, p, rfl, hid, hchd, -, r, hr, hrcv⟩ := fresh_cases hfr
  refine ⟨x.inbound.event.expiresAt.toNat, ?_, .inl ⟨r, hr, ?_, ?_⟩⟩
  · intro y hy hidY hval
    exact congrArg UInt64.toNat
      (expiry_of_identifier hcollide hy hin.1 (hidY.trans hid.symm) hval hchd.valid)
  · rw [hrcv]
    exact (hexpiring x hin.1).2
  · rw [hrcv]
    exact (unixTime_of_nonneg hchd.live).2

/-- **One event is accepted as fresh once.** From any state, in every run of arrivals, journal
    operations, crashes, recoveries and prunes under a clock that never goes back, if every event
    that comes expires within the retention floor of its coming. -/
theorem fresh_once (g : Gate) (s : State) (steps : List Step) (hcollision : g.NoCollision (presented steps))
    (hclock : (steps.filterMap Step.time).Pairwise (· ≤ ·)) (hexpiring : ∀ x, .arrive x ∈ steps → x.Expiring) :
    (observed g.step g.fresh s steps).Nodup := by
  obtain ⟨c, hc⟩ := exists_clock hclock
  have hmem : Along (clocked g.step Step.time) (fun _ i => i ∈ steps) (s, c) steps :=
    Along.of_mem (fun _ hi => hi) (s, c)
  have hin : Along (clocked g.step Step.time) (InTime steps) (s, c) steps := hmem.and (along_clocked hclock hc s)
  rw [← observed_clocked Step.time s c steps]
  exact hin.observed_nodup (J := g.Covered steps) (fun _ _ _ hin h => step_covered hin h)
    (fun _ _ _ hin h => h.unseen hexpiring hin) (fun _ _ _ hin h => fresh_covered hcollision hexpiring hin h)

/-! ## An event without an expiry -/

/-- One event does not collide with itself. -/
theorem noCollision_of_eq (event : Event) {events : List Event} (h : ∀ a ∈ events, a = event) :
    g.NoCollision events := by
  intro a ha b hb p q hp hq _
  rw [h a ha] at hp
  rw [h b hb] at hq
  exact Except.ok.inj (hp.symm.trans hq)

/-- The message, with an expiry. -/
def expiringMessage : Event := { outsiderMessage with expiresAt := 100 }

def expiringSteps : List Step :=
  [.arrive (arriving expiringMessage 20), .prune 25 shortestRetention {},
    .arrive (arriving expiringMessage 30)]

theorem fresh_once_expiring : (observed openGate.step openGate.fresh twoMembers expiringSteps).Nodup := by
  refine fresh_once openGate twoMembers expiringSteps ?_ (by decide) ?_
  · refine noCollision_of_eq expiringMessage ?_
    intro a ha
    rcases List.mem_pair.mp ha with rfl | rfl
    · rfl
    · rfl
  intro x hx
  simp only [expiringSteps, List.mem_cons, List.not_mem_nil, or_false, Step.arrive.injEq, reduceCtorEq, false_or] at hx
  rcases hx with rfl | rfl
  · exact ⟨by decide, by decide⟩
  · exact ⟨by decide, by decide⟩

/-- A runtime takes the message and finishes it, and the journal is pruned thirty days after the
    receipt. -/
def finishing : List Step :=
  [.call (.claim outsiderMessage.eventID ⟨1⟩ 30 60 {}) none, .call (.complete outsiderMessage.eventID ⟨1⟩ 40) none,
    .prune 2592020 shortestRetention {}]

def replaying : List Step :=
  .arrive (arriving outsiderMessage 20) :: finishing ++ [.arrive (arriving outsiderMessage 2592020)]

/-- **A message that never expires is fresh twice**: once it is finished and pruned, it comes again. -/
theorem unexpiring_fresh_twice :
    openGate.NoCollision (presented replaying) ∧ (replaying.filterMap Step.time).Pairwise (· ≤ ·) ∧
      observed openGate.step openGate.fresh twoMembers replaying =
        [outsiderMessage.eventID, outsiderMessage.eventID] := by
  refine ⟨?_, by decide, ?_⟩
  · refine noCollision_of_eq outsiderMessage ?_
    intro a ha
    rcases List.mem_pair.mp ha with rfl | rfl
    · rfl
    · rfl
  · decide +kernel

end Messenger.Admission
