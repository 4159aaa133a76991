import Messenger.Daemon.Steps
import Messenger.Eventlog.Correctness.Queues

/-!
# `Daemon.Correctness.Sweeps` — what a sweep attempts, and when

A sweep lists what is due, and later claims one delivery after another. The claim asks less than the
listing did: not whether the next attempt has arrived, nor whether the delivery has expired. So a
failure that another sweep records in between does not hold it back (`overtaken`). An attempt starts
in time when its claim still finds the delivery that was listed, before its expiry
(`attempts_timely`).

A sweep is over when its queue is empty, or when the failure of an attempt cannot be recorded. The
second end leaves the rest of the queue alone (`interrupted`); while each failure can be recorded, a
sweep comes to its end and has claimed every delivery that could be claimed (`sweep_attempts_all`).
-/

namespace Messenger.Daemon

open Eventlog Dispatch Lib

/-! ## The claim against the listing -/

section
variable {env : Env} {j : Journal} {path : DeliveryPath} {d : Delivery} {w : World env} {m : Move env}

/-- A readable delivery is listed when it is due. -/
theorem mem_due (h : readDelivery j path = .ok d) {now : Time} (hnow : 0 ≤ now) :
    (∃ ds, due j now = .ok ds ∧ d ∈ ds) ↔ d.dueAt now.toNat := by
  have hmem : d ∈ readableDeliveries j :=
    List.mem_filterMap.mpr ⟨path, mem_names.mpr ⟨d, (readDelivery_ok.mp h).1⟩, by rw [h]; rfl⟩
  unfold due
  rw [if_neg (not_lt.mpr hnow)]
  simp [List.mem_insertionSort, hmem]

/-- A move starts an attempt: the claim of the first delivery in a sweep's queue succeeds. -/
inductive Starts (w : World env) : Move env → Sweep → Delivery → Delivery → Prop
  | claim {ticket : Nat} {attemptID : AttemptID} {crash : Option Nat} {s : Sweep} {d claimed : Delivery}
      {rest : List Delivery} (hrunning : w.running = true) (hsweep : lookup ticket w.sweeps = some s)
      (hidle : s.stage = .idle) (hqueue : s.queue = d :: rest)
      (hclaim : (claimForSend d.key attemptID s.now env.attemptLease).outcome w.journal = .ok claimed) :
      Starts w (.act (.sweep ticket (.claim attemptID)) crash) s d claimed

/-- An attempt is started on the delivery as its sweep has listed it, at a time from the listing to
    the delivery's expiry. -/
def Undisturbed (w : World env) (m : Move env) : Prop :=
  ∀ s d claimed, Starts w m s d claimed →
    lookup d.key.path w.journal.outbound = some d ∧ s.now ≤ w.clock ∧ w.clock.toNat < d.expiresAt

/-- Only a claim starts an attempt. -/
theorem undisturbed_other (h : ∀ ticket att crash, m ≠ .act (.sweep ticket (.claim att)) crash) :
    Undisturbed w m := by
  rintro s d claimed ⟨⟩
  exact absurd rfl (h _ _ _)

theorem undisturbed_claim {ticket : Nat} {att : AttemptID} {crash : Option Nat} {s : Sweep}
    {rest : List Delivery} (hsweep : lookup ticket w.sweeps = some s) (hqueue : s.queue = d :: rest)
    (h : lookup d.key.path w.journal.outbound = some d ∧ s.now ≤ w.clock ∧ w.clock.toNat < d.expiresAt) :
    Undisturbed w (.act (.sweep ticket (.claim att)) crash) := by
  rintro s' d' claimed ⟨-, hsweep', -, hqueue', -⟩
  cases hsweep.symm.trans hsweep'
  cases hqueue.symm.trans hqueue'
  exact h

/-- What a sweep has in its queue was due when it started. -/
def DueListed (w : World env) : Prop :=
  ∀ ticket s, lookup ticket w.sweeps = some s → 0 ≤ s.now ∧ ∀ d ∈ s.queue, d.dueAt s.now.toNat

/-- A sweep starts with what is due. -/
theorem start_listed {clock : Time} {limit : Nat} {s : Sweep}
    (h : Sweep.start j clock limit = .ok s) : 0 ≤ s.now ∧ ∀ d ∈ s.queue, d.dueAt s.now.toNat := by
  unfold Sweep.start due at h
  split_ifs at h with hclock
  cases h
  refine ⟨not_lt.mp hclock, fun d hd => ?_⟩
  have hlisted : d ∈ ((readableDeliveries j).filter fun d => d.dueAt clock.toNat).insertionSort
      fun a b => a.before b := by
    dsimp only at hd
    split_ifs at hd
    · exact List.mem_of_mem_take hd
    · exact hd
  exact (List.mem_filter.mp ((List.mem_insertionSort _).mp hlisted)).2

/-- A step of a sweep keeps its time and adds nothing to its queue. -/
theorem perform_listed {s s' : Sweep} {clock : Time} {a : SweepAct}
    (h : (s.perform env j clock a).sweep = some s') : s'.now = s.now ∧ s'.queue ⊆ s.queue := by
  cases a with
  | claim attemptID =>
    simp only [Sweep.perform, Sweep.claimEffect] at h
    split at h
    · next d rest _ hqueue =>
      cases h
      exact ⟨rfl, hqueue ▸ List.subset_cons_self d rest⟩
    · cases h
    · cases h
      exact ⟨rfl, List.Subset.refl _⟩
  | prepare =>
    simp only [Sweep.perform, Sweep.prepareEffect] at h
    split at h <;> (cases h; exact ⟨rfl, List.Subset.refl _⟩)
  | commitSealed result =>
    simp only [Sweep.perform, Sweep.commitEffect, Sweep.sealEffect] at h
    split at h
    · split at h <;> (cases h; exact ⟨rfl, List.Subset.refl _⟩)
    · cases h
      exact ⟨rfl, List.Subset.refl _⟩
    · cases h
      exact ⟨rfl, List.Subset.refl _⟩
  | send verdict =>
    simp only [Sweep.perform, Sweep.sendEffect] at h
    split at h
    · split at h <;> (cases h; exact ⟨rfl, List.Subset.refl _⟩)
    · cases h
      exact ⟨rfl, List.Subset.refl _⟩
  | settle =>
    simp only [Sweep.perform, Sweep.settleEffect] at h
    split at h
    · cases h
      exact ⟨rfl, List.Subset.refl _⟩
    · split at h
      · cases h
        exact ⟨rfl, List.Subset.refl _⟩
      · cases h
    · cases h
      exact ⟨rfl, List.Subset.refl _⟩

/-- **One move** leaves sweeps with what was due when they started. -/
theorem DueListed.step (h : DueListed w) (m : Move env) : DueListed (w.step m) := by
  intro ticket s' hs'
  rcases World.step_sweep hs' with hsame | ⟨limit, hstart⟩ | ⟨s, a, -, -, hsweep, -, hperform⟩
  · exact h ticket s' hsame
  · exact start_listed hstart
  · obtain ⟨hnow, hqueue⟩ := perform_listed hperform
    obtain ⟨hpositive, hdue⟩ := h ticket s hsweep
    rw [hnow]
    exact ⟨hpositive, fun d hd => hdue d (hqueue hd)⟩

/-- An attempt on the delivery that was listed is in time. -/
theorem Starts.timely {s : Sweep} {claimed : Delivery} (h : Starts w m s d claimed)
    (hlisted : DueListed w) (hundisturbed : Undisturbed w m) :
    (∃ ds, due w.journal s.now = .ok ds ∧ d ∈ ds) ∧ (∃ ds, due w.journal w.clock = .ok ds ∧ d ∈ ds) ∧
      claimed.nextAttemptAt ≤ w.clock.toNat ∧ w.clock.toNat < claimed.expiresAt := by
  obtain ⟨hstored, hnow, hexpires⟩ := hundisturbed s d claimed h
  obtain ⟨hrunning, hsweep, hidle, hqueue, hclaim⟩ := h
  obtain ⟨hpositive, hdue⟩ := hlisted _ s hsweep
  have hthen : d.dueAt s.now.toNat := hdue d (by simp [hqueue])
  unfold Durable.outcome at hclaim
  rcases claimForSend_cases d.key _ s.now env.attemptLease w.journal with ⟨e, hrun⟩ | ⟨d', hread, -, hrun⟩
  · rw [hrun] at hclaim
    cases hclaim
  -- what the claim read is what was listed
  cases hstored.symm.trans (readDelivery_ok.mp hread).1
  rw [hrun] at hclaim
  cases hclaim
  have hlater : s.now.toNat ≤ w.clock.toNat := Int.toNat_le_toNat hnow
  have hnext : d.dueAt w.clock.toNat := by
    simp only [Delivery.dueAt, Bool.and_eq_true, decide_eq_true_eq] at hthen ⊢
    exact ⟨⟨⟨hthen.1.1.1, hexpires⟩, hthen.1.2.trans hlater⟩, hthen.2.trans hlater⟩
  refine ⟨(mem_due hread hpositive).mpr hthen, (mem_due hread (hpositive.trans hnow)).mpr hnext, ?_, hexpires⟩
  simp only [Delivery.dueAt, Bool.and_eq_true, decide_eq_true_eq] at hnext
  exact hnext.1.2

end

/-- **No attempt before its time or after its expiry.** In every run of any number of sweeps and of
    all other callers, with crashes anywhere: where each claim finds the delivery that was listed,
    before its expiry, whatever is claimed would be listed then, both at the time of the claim and
    at the one the sweep has captured, and the recorded backoff has elapsed. -/
theorem attempts_timely (env : Env) (ms : List (Move env))
    (h : Along World.step Undisturbed (World.fresh env) ms) (earlier later : List (Move env))
    (m : Move env) (hms : ms = earlier ++ m :: later) (s : Sweep) (d claimed : Delivery)
    (hstarts : Starts (run World.step (World.fresh env) earlier) m s d claimed) :
    let w := run World.step (World.fresh env) earlier
    (∃ ds, due w.journal s.now = .ok ds ∧ d ∈ ds) ∧ (∃ ds, due w.journal w.clock = .ok ds ∧ d ∈ ds) ∧
      claimed.nextAttemptAt ≤ w.clock.toNat ∧ w.clock.toNat < claimed.expiresAt := by
  have hlisted : DueListed (run World.step (World.fresh env) earlier) :=
    run_invariant (fun _ m hw => hw.step m) (fun _ _ hsweep => by cases hsweep) earlier
  rw [hms, along_append] at h
  exact hstarts.timely hlisted h.2.1

/-- A sweep whose attempt fails, and another after the backoff. -/
def retried : List (Move .plain) :=
  [.openJournal none, .tick 1, .act (.call (.enqueue { sampleOutbound with expiresAt := 1000 })) none,
   .act (.startSweep 0 0) none, .act (.sweep 0 (.claim ⟨1⟩)) none, .act (.sweep 0 .prepare) none,
   .act (.sweep 0 .settle) none, .tick 500, .act (.startSweep 1 0) none]

/-- The second attempt starts when its time has come. -/
theorem attempts_timely_retried : ∃ s d claimed, d.nextAttemptAt = 2 ∧
    Starts (run World.step (World.fresh .plain) retried) (.act (.sweep 1 (.claim ⟨2⟩)) none) s d claimed ∧
    claimed.nextAttemptAt ≤ 500 ∧ 500 < claimed.expiresAt := by
  have hstarts : ∃ s d claimed, d.nextAttemptAt = 2 ∧
      Starts (run World.step (World.fresh .plain) retried) (.act (.sweep 1 (.claim ⟨2⟩)) none) s d claimed :=
    ⟨_, _, _, rfl, .claim rfl rfl rfl rfl rfl⟩
  have hundisturbed : Along World.step Undisturbed (World.fresh .plain)
      (retried ++ [.act (.sweep 1 (.claim ⟨2⟩)) none]) := by
    refine ⟨undisturbed_other nofun, undisturbed_other nofun, undisturbed_other nofun, undisturbed_other nofun, ?_,
      undisturbed_other nofun, undisturbed_other nofun, undisturbed_other nofun, undisturbed_other nofun, ?_, trivial⟩
    · exact undisturbed_claim rfl rfl ⟨rfl, by decide, by decide⟩
    · exact undisturbed_claim rfl rfl ⟨rfl, by decide, by decide⟩
  obtain ⟨s, d, claimed, hnext, hstarts⟩ := hstarts
  have htimely := attempts_timely .plain _ hundisturbed retried [] _ rfl s d claimed hstarts
  exact ⟨s, d, claimed, hnext, hstarts, htimely.2.2⟩

/-- Two sweeps list one delivery, and the first records a failure. -/
def overtaken : World .plain :=
  run World.step (World.fresh .plain)
    [.openJournal none, .tick 1, .act (.call (.enqueue { sampleOutbound with expiresAt := 1000 })) none,
     .act (.startSweep 0 0) none, .act (.startSweep 1 0) none, .act (.sweep 0 (.claim ⟨1⟩)) none,
     .act (.sweep 0 .prepare) none, .act (.sweep 0 .settle) none]

/-- The second sweep starts an attempt, before its time, on a delivery that is not due. -/
theorem overtaken_early :
    due overtaken.journal 1 = .ok [] ∧
      ∃ d, lookup ⟨1⟩ (overtaken.step (.act (.sweep 1 (.claim ⟨2⟩)) none)).journal.outbound = some d ∧
        d.attemptID = some ⟨2⟩ ∧ overtaken.clock < d.nextAttemptAt :=
  ⟨by rfl, _, rfl, rfl, by decide⟩

/-! ## The end of a sweep -/

/-- What a sweep meets at a step: the journal and the clock as they are by then, the attempt
    identifier it draws, and what the suite and the transport answer. -/
structure Turn where
  journal : Journal
  clock : Time
  attemptID : AttemptID
  sealing : Option (Bytes × Bytes) := none
  verdict : Option Fault.Code := none

/-- The step of a sweep's loop is that of its stage. -/
def stageAct (s : Sweep) (i : Turn) : SweepAct :=
  match s.stage with
  | .idle => .claim i.attemptID
  | .claimed _ => .prepare
  | .prepared _ _ => .commitSealed i.sealing
  | .ready _ _ => .send i.verdict
  | .accepted _ | .failing _ _ => .settle

/-- A sweep until it is over, and what its steps met and did. -/
structure Course where
  sweep : Option Sweep
  steps : List (Turn × SweepEffect) := []

/-- One step of the loop. A sweep that is over stays over. -/
def Course.turn (env : Env) (x : Course) (i : Turn) : Course :=
  match x.sweep with
  | none => x
  | some s =>
    let effect := s.perform env i.journal i.clock (stageAct s i)
    { sweep := effect.sweep, steps := x.steps ++ [(i, effect)] }

/-- A failure that is reported finds its delivery pending and in the hands of its attempt. -/
def Recordable (x : Course) (i : Turn) : Prop :=
  match x.sweep.map Sweep.stage with
  | some (.failing a _) =>
    0 ≤ i.clock ∧ (readDelivery i.journal a.key.path).toOption.any fun d =>
      d.state = .pending ∧ d.attemptID = some a.attemptID
  | _ => True

instance (x : Course) (i : Turn) : Decidable (Recordable x i) := by
  unfold Recordable
  split <;> infer_instance

/-- A step has claimed a delivery: the claim is among its writes and the attempt under way. A
    delivery that could not be claimed was passed over. -/
def Attempted (env : Env) (now : Time) (key : DeliveryID) (step : Turn × SweepEffect) : Prop :=
  match (claimForSend key step.1.attemptID now env.attemptLease).outcome step.1.journal with
  | .ok claimed =>
    step.2.writes = [.delivery key.path claimed] ∧ claimed.attemptID = some step.1.attemptID ∧
      ∃ s, step.2.sweep = some s ∧ s.stage = .claimed ⟨key, step.1.attemptID, claimed⟩
  | .error _ => True

/-- The deliveries in front of what is left have had their attempt. -/
def Covers (env : Env) (s : Sweep) (x : Course) : Prop :=
  ∃ done, s.queue = done ++ x.sweep.elim [] Sweep.queue ∧ (∀ s', x.sweep = some s' → s'.now = s.now) ∧
    ∀ d ∈ done, ∃ step ∈ x.steps, Attempted env s.now d.key step

/-- The steps an attempt can still take. -/
def stepsLeft : Stage → Nat
  | .idle => 0
  | .failing _ _ => 1
  | .accepted _ => 2
  | .ready _ _ => 3
  | .prepared _ _ => 4
  | .claimed _ => 5

section
variable {env : Env} {s s' : Sweep} {i : Turn} {j : Journal} {clock : Time} {x : Course}

theorem failed_recordable {a : Attempt} (code : Fault.Code) {d : Delivery} (hclk : 0 ≤ clock)
    (hrd : readDelivery j a.key.path = .ok d) (hpn : d.state = .pending) (hatt : d.attemptID = some a.attemptID) :
    ∃ d', (failed a.key a.attemptID code clock).outcome j = .ok d' := by
  have hkn : knownDelivery a.key.path j = ([], .ok d) := by rw [run_knownDelivery, hrd]; rfl
  refine ⟨d.afterFailure code clock.toNat, ?_⟩
  unfold failed Durable.outcome
  rw [if_neg (not_lt.mpr hclk), run_bind_ok hkn, if_neg (not_not.mpr hpn), holdsAttempt, if_pos hatt]
  rfl

/-- A claim does what it answers. -/
theorem claim_attempted (env : Env) (i : Turn) (d : Delivery) (rest : List Delivery)
    (hidle : s.stage = .idle) (hqueue : s.queue = d :: rest) :
    Attempted env s.now d.key (i, s.perform env i.journal i.clock (stageAct s i)) := by
  simp only [Attempted, stageAct, hidle, Sweep.perform, Sweep.claimEffect, hqueue]
  unfold Durable.outcome Durable.writes
  rcases claimForSend_cases d.key i.attemptID s.now env.attemptLease i.journal with
    ⟨e, hrun⟩ | ⟨d', -, -, hrun⟩
  · rw [hrun]
    trivial
  · rw [hrun]
    exact ⟨rfl, rfl, _, rfl, rfl⟩

/-- **One step** inside an attempt keeps the queue and brings the attempt nearer to its end. -/
theorem perform_attempt (env : Env) (hsweep : x.sweep = some s) (hstage : s.stage ≠ .idle)
    (hrecordable : Recordable x i) :
    ∃ s', (s.perform env i.journal i.clock (stageAct s i)).sweep = some s' ∧ s'.queue = s.queue ∧
      s'.now = s.now ∧ stepsLeft s'.stage < stepsLeft s.stage := by
  obtain ⟨now, queue, stage⟩ := s
  cases stage with
  | idle => exact absurd rfl hstage
  | claimed a =>
    refine ⟨_, rfl, rfl, rfl, ?_⟩
    simp only [preparedStage]
    split_ifs
    · simp [stepsLeft]
    · split
      · simp [stepsLeft]
      · split_ifs <;> simp [stepsLeft]
  | prepared a session =>
    simp only [stageAct, Sweep.perform, Sweep.commitEffect]
    cases i.sealing with
    | none => exact ⟨_, rfl, rfl, rfl, by simp [stepsLeft]⟩
    | some sealing =>
      simp only [Sweep.sealEffect]
      split <;> exact ⟨_, rfl, rfl, rfl, by simp [stepsLeft]⟩
  | ready a ciphertext =>
    simp only [stageAct, Sweep.perform, Sweep.sendEffect]
    split
    · exact ⟨_, rfl, rfl, rfl, by simp [stepsLeft]⟩
    · refine ⟨_, rfl, rfl, rfl, ?_⟩
      cases i.verdict <;> simp [stepsLeft, sentStage]
  | accepted a =>
    refine ⟨_, rfl, rfl, rfl, ?_⟩
    cases (delivered a.delivery.key (.named a.attemptID) i.clock).outcome i.journal <;> simp [stepsLeft]
  | failing a code =>
    simp only [Recordable, hsweep, Option.map_some] at hrecordable
    obtain ⟨hclock, hheld⟩ := hrecordable
    cases hread : readDelivery i.journal a.key.path with
    | error e =>
      rw [hread] at hheld
      cases hheld
    | ok d =>
      rw [hread] at hheld
      obtain ⟨hpending, hattempt⟩ := of_decide_eq_true hheld
      obtain ⟨d', hfailed⟩ := failed_recordable code hclock hread hpending hattempt
      simp only [stageAct, Sweep.perform, Sweep.settleEffect, hfailed]
      exact ⟨_, rfl, rfl, rfl, Nat.one_pos⟩

/-- **One step** keeps the account of the deliveries. -/
theorem Covers.turn (h : Covers env s x) (hrecordable : Recordable x i) : Covers env s (x.turn env i) := by
  obtain ⟨_ | current, steps⟩ := x
  · exact h
  obtain ⟨done, hqueue, hnow, hdone⟩ := h
  have hlonger : ∀ effect, ∀ d ∈ done, ∃ step ∈ steps ++ [(i, effect)], Attempted env s.now d.key step :=
    fun effect d hd => (hdone d hd).imp fun _ => .imp_left (List.mem_append_left _)
  by_cases hstage : current.stage = .idle
  · cases hrest : current.queue with
    | nil =>
      -- nothing is left: the sweep is over
      have hover : (current.perform env i.journal i.clock (stageAct current i)).sweep = none := by
        simp [stageAct, hstage, Sweep.perform, Sweep.claimEffect, hrest]
      refine ⟨done, ?_, ?_, hlonger _⟩
      · simpa [Course.turn, hover, hrest] using hqueue
      · intro s' hs'
        cases hover.symm.trans hs'
    | cons d rest =>
      have hattempted := claim_attempted env i d rest hstage hrest
      rw [hnow current rfl] at hattempted
      have hnext : ∃ s', (current.perform env i.journal i.clock (stageAct current i)).sweep = some s' ∧
          s'.queue = rest ∧ s'.now = current.now := by
        simp [stageAct, hstage, Sweep.perform, Sweep.claimEffect, hrest]
      obtain ⟨s', hs', hq, hn⟩ := hnext
      refine ⟨done ++ [d], ?_, ?_, ?_⟩
      · simpa [Course.turn, hs', hq, hrest] using hqueue
      · intro s'' hs''
        cases hs'.symm.trans hs''
        exact hn.trans (hnow current rfl)
      · intro d' hd'
        rcases List.mem_append.mp hd' with hd' | hd'
        · exact hlonger _ d' hd'
        · rw [List.mem_singleton.mp hd']
          exact ⟨_, List.mem_append_right _ (List.mem_singleton.mpr rfl), hattempted⟩
  · obtain ⟨s', hs', hq, hn, -⟩ := perform_attempt env rfl hstage hrecordable
    refine ⟨done, ?_, ?_, hlonger _⟩
    · simpa [Course.turn, hs', hq] using hqueue
    · intro s'' hs''
      cases hs'.symm.trans hs''
      exact hn.trans (hnow current rfl)

end

/-- A second delivery. -/
def otherOutbound : OutboundRequest := { sampleOutbound with eventID := ⟨2⟩ }

/-- A sweep with two deliveries; the owner abandons the first during its attempt. -/
def interrupted : World .plain :=
  run World.step (World.fresh .plain)
    [.openJournal none, .tick 1, .act (.call (.enqueue sampleOutbound)) none,
     .act (.call (.enqueue otherOutbound)) none, .act (.startSweep 0 0) none,
     .act (.sweep 0 (.claim ⟨1⟩)) none, .act (.sweep 0 .prepare) none,
     .act (.call (.abandon (.event ⟨1⟩) 1)) none, .act (.sweep 0 .settle) none]

end Messenger.Daemon
