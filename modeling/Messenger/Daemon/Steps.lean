import Messenger.Daemon.World

/-!
# `Daemon.Steps` — what one write of the running system can be

The inversion lemma of the interleaved system. `Performed w m j x` lists every kind of write a move
`m` can make from the world `w`, with `j` the journal the write itself is made on, which differs
from `w`'s once the move has made an earlier write. `Move.performed` is the one case analysis over
moves, goroutine steps and crash points; the safety results are proved against `Performed`.

The rest of a step is read off by accessors: `step_journal`, `step_log`, `step_seals` and
`step_sent` for what it leaves on the disk and in the history, `step_flight` and `step_sweep` for
what it leaves in memory.
-/

namespace Messenger.Daemon

open Eventlog Dispatch Lib World

section
variable {env : Env}

/-! ## A move is its durable writes -/

/-- Whether a step that may be cut after some writes made all of them durable. -/
def whole (ws : List JournalWrite) : Option Nat → Bool
  | none => true
  | some k => ws.length ≤ k

/-- The writes of a move that become durable. -/
def Move.writes (w : World env) : Move env → List JournalWrite
  | .act a crash => if w.running then landed (a.effect w).writes crash else []
  | .openJournal crash => if w.running then [] else landed ((recoverStaged env).writes w.journal) crash
  | .tick _ => []

/-- The ciphertext a move makes durable. -/
def Move.sealed (w : World env) : Move env → Option Seal
  | .act a crash => if w.running && whole (a.effect w).writes crash then (a.effect w).sealed else none
  | .openJournal _ | .tick _ => none

/-- The message a move hands to the transport. -/
def Move.sent (w : World env) : Move env → Option Sent
  | .act a _ => if w.running then (a.effect w).sent else none
  | .openJournal _ | .tick _ => none

/-- The commitment a move settles. -/
def Move.settles : Move env → Option Nat
  | .act (.settleInbound ticket) _ => some ticket
  | _ => none

variable (w : World env) (m : Move env)

theorem World.step_journal : (w.step m).journal = puts w.journal (m.writes w) := by
  cases m with
  | act a crash =>
    cases crash with
    | none => simp only [step, Move.writes]; split <;> rfl
    | some k => simp only [step, Move.writes]; split <;> rfl
  | openJournal crash => simp only [step, Move.writes]; split <;> rfl
  | tick now => rfl

theorem World.step_log : (w.step m).log = w.log ++ m.writes w := by
  have hnil : w.log = w.log ++ [] := (List.append_nil _).symm
  cases m with
  | act a crash =>
    cases crash with
    | none => simp only [step, Move.writes]; split; exacts [rfl, hnil]
    | some k => simp only [step, Move.writes]; split; exacts [rfl, hnil]
  | openJournal crash => simp only [step, Move.writes]; split; exacts [hnil, rfl]
  | tick now => exact hnil

theorem World.step_seals : (w.step m).seals = w.seals ++ (m.sealed w).toList := by
  have hnil : w.seals = w.seals ++ (none : Option Seal).toList := (List.append_nil _).symm
  cases m with
  | act a crash =>
    by_cases hru : w.running = true
    · cases crash with
      | none => simp [step, complete, Move.sealed, whole, hru]
      | some k =>
        by_cases hk : (a.effect w).writes.length ≤ k <;>
          simp [step, die, Move.sealed, whole, hru, hk]
    · cases crash <;> simp [step, Move.sealed, hru]
  | openJournal crash => simp only [step, Move.sealed]; split <;> exact hnil
  | tick now => exact hnil

theorem World.step_sent : (w.step m).sent = w.sent ++ (m.sent w).toList := by
  have hnil : w.sent = w.sent ++ (none : Option Sent).toList := (List.append_nil _).symm
  cases m with
  | act a crash =>
    cases crash with
    | none => simp only [step, Move.sent]; split; exacts [rfl, hnil]
    | some k => simp only [step, Move.sent]; split; exacts [rfl, hnil]
  | openJournal crash => simp only [step, Move.sent]; split <;> exact hnil
  | tick now => exact hnil

/-! ## The kinds of write -/

/-- **What a write of a move can be.** -/
inductive Performed (w : World env) (m : Move env) (j : Journal) : JournalWrite → Prop
  /-- A call, or an attempt's settlement. -/
  | routine {x : JournalWrite} (hroutine : Routine env j x) : Performed w m j x
  /-- A new event's record. -/
  | accept (entry : Entry) (hnone : lookup entry.eventID j.inbound = none)
      (hreceived : entry.receivedAt ≠ 0) : Performed w m j (.record entry.eventID entry.record)
  /-- A commitment's second region writes back the record it carries. -/
  | settle {ticket : Nat} {f : InFlight env} {r : Record} (hm : m.settles = some ticket)
      (hflight : lookup ticket w.commits = some f) (hunsettled : f.unsettled = true)
      (hinbound : j.inbound = w.journal.inbound)
      (hr : r = f.record.mark .abandoned ∨ r = f.record.commitAt f.request.now.toNat) :
      Performed w m j (.record f.request.entry.eventID r)
  /-- A commitment advances its session. -/
  | advance {path : SessionID} {s : SessionRecord} {current : Option SessionRecord}
      (hcurrent : currentSession env j path = .ok current)
      (hgeneration : s.generation = succ64 (generationOf current)) : Performed w m j (.session path s)
  | recover {x : JournalWrite} (hrecovery : RecoveryWrite env j x) : Performed w m j x
  /-- A send attempt claims a delivery under the time its sweep captured. -/
  | claim {path : DeliveryPath} {d : Delivery} {attemptID : AttemptID} {now : Time}
      (hdrawn : lookup attemptID (w.step m).attempts = some now) (hread : readDelivery j path = .ok d) :
      Performed w m j (.delivery path (d.claimed attemptID (now.toNat + env.attemptLease)))
  /-- A send attempt seals a delivery that has no ciphertext. -/
  | sealed {σ : Seal} {d : Delivery} (hm : m.sealed w = some σ) (hread : readDelivery j σ.path = .ok d)
      (hsession : d.sessionID = σ.sessionID) (hempty : d.ciphertext = []) :
      Performed w m j (.delivery σ.path { d with ciphertext := σ.ciphertext })

section
variable {m : Move env} (w : World env)

theorem accept_performed (entry : Entry) : Guarded (Performed w m) w.journal
    ((Eventlog.accept env entry).writes w.journal) := by
  unfold Durable.writes
  rcases accept_cases env entry w.journal with ⟨e, h⟩ | ⟨hno, hrcv, h⟩ | ⟨r, -, h⟩
  · rw [h]; trivial
  · rw [h]; exact ⟨.accept entry hno hrcv, trivial⟩
  · rw [h]; trivial

theorem beginInbound_performed (q : CommitRequest env) : Guarded (Performed w m) w.journal
    ((Eventlog.beginInbound q).writes w.journal) := by
  unfold Durable.writes
  rcases beginInbound_cases q w.journal with ⟨e, h⟩ | ⟨hno, -, hrcv, h⟩ | ⟨r, -, h⟩
  · rw [h]; trivial
  · rw [h]; exact ⟨.accept q.staged hno hrcv, trivial⟩
  · rw [h]; trivial

theorem settleInbound_performed {ticket : Nat} {f : InFlight env} (hm : m.settles = some ticket)
    (hfli : lookup ticket w.commits = some f) : Guarded (Performed w m) w.journal
    ((Eventlog.settleInbound f.request f.fresh f.record).writes w.journal) := by
  by_cases huns : f.unsettled = true
  · have hop : f.fresh = true ∨ f.record.crypto ≠ .committed := by
      simpa [InFlight.unsettled] using huns
    have hws := settleInbound_settlement f.request w.journal f.fresh f.record hop
    generalize (Eventlog.settleInbound f.request f.fresh f.record).writes w.journal = ws at hws
    cases hws with
    | damaged => trivial
    | behind => exact ⟨.settle hm hfli huns rfl (.inl rfl), trivial⟩
    | @advanced cur hcur hgen =>
      have hadvance : succ64 f.request.expectedGeneration = succ64 (generationOf cur) :=
        congrArg succ64 hgen.symm
      exact ⟨.advance hcur hadvance, .settle hm hfli huns rfl (.inr rfl), trivial⟩
  · have hdn : f.fresh = false ∧ f.record.crypto = .committed := by
      simpa [InFlight.unsettled] using huns
    rw [hdn.1, writes_settleInbound_committed f.request w.journal hdn.2]
    trivial

theorem claimEffect_performed (s : Sweep) {att : AttemptID} (hdr : lookup att (w.step m).attempts = some s.now) :
    Guarded (Performed w m) w.journal (s.claimEffect env w.journal att).writes := by
  unfold Sweep.claimEffect
  split
  · next d rest _ _ =>
    exact (claimForSend_cases d.key att s.now env.attemptLease w.journal).guarded fun _ hd _ => .claim hdr hd
  · trivial
  · trivial

theorem settleEffect_performed (s : Sweep) : Guarded (Performed w m) w.journal
    (s.settleEffect w.journal w.clock).writes := by
  unfold Sweep.settleEffect
  split
  · next a _ => exact (settle_routine a.delivery.key (.named a.attemptID) _ w.clock).mono fun _ _ => .routine
  · next a code _ => exact (failed_routine a.key a.attemptID code w.clock).mono fun _ _ => .routine
  · trivial

/-- Preparing and sending write nothing. -/
theorem writes_prepareEffect (j : Journal) (s : Sweep) : (s.prepareEffect env j).writes = [] := by
  unfold Sweep.prepareEffect
  split <;> rfl

theorem writes_sendEffect (j : Journal) (s : Sweep) (verdict : Option Fault.Code) :
    (s.sendEffect env j verdict).writes = [] := by
  unfold Sweep.sendEffect
  split
  · split <;> rfl
  · rfl

end

variable {j : Journal} {m : Move env} {s : Sweep} {w : World env} {ticket : Nat}

theorem guarded_landed {P : Journal → JournalWrite → Prop} {ws : List JournalWrite}
    (h : Guarded P j ws) (crash : Option Nat) : Guarded P j (landed ws crash) := by
  cases crash with
  | none => exact h
  | some k => exact h.take k

/-- Of two writes the second is made only if both are. -/
theorem guarded_landed_pair {P : Journal → JournalWrite → Prop} {x y : JournalWrite} {crash : Option Nat} (hx : P j x)
    (hy : whole [x, y] crash = true → P (Medium.put j x) y) : Guarded P j (landed [x, y] crash) := by
  match crash with
  | none => exact ⟨hx, hy rfl, trivial⟩
  | some 0 => trivial
  | some 1 => exact ⟨hx, trivial⟩
  | some (k + 2) =>
    have hwhole : whole [x, y] (some (k + 2)) = true := by simp [whole]
    exact ⟨hx, hy hwhole, by simp⟩

/-! ## Sealing -/

/-- What a sealing commit that succeeded found, and what it writes. -/
inductive SealOutcome (env : Env) (j : Journal) (q : SealRequest) : List JournalWrite → Prop
  | mk {d : Delivery} {current : Option SessionRecord} {body : SessionRecord}
      (hread : readDelivery j q.deliveryID.path = .ok d) (hsealable : d.sealable q = .ok ())
      (hnonempty : q.ciphertext ≠ []) (hcurrent : currentSession env j q.sessionID = .ok current)
      (hgeneration : generationOf current = q.expectedGeneration)
      (hbody : body.generation = succ64 q.expectedGeneration) :
      SealOutcome env j q
        [.session q.sessionID body, .delivery q.deliveryID.path { d with ciphertext := q.ciphertext }]

/-- A sealing step of a sweep stops without a write and without a seal, or does both. -/
theorem sealEffect_cases (env : Env) (j : Journal) (s : Sweep) (a : Attempt)
    (session : SessionRecord) (ct next : Bytes) :
    ((s.sealEffect env j a session ct next).writes = [] ∧
        (s.sealEffect env j a session ct next).sealed = none) ∨
      (SealOutcome env j (s.sealRequest a session ct next)
          (s.sealEffect env j a session ct next).writes ∧
        (s.sealEffect env j a session ct next).sealed =
          some ⟨a.delivery.key.path, a.delivery.sessionID, session.generation, ct⟩) := by
  unfold Sweep.sealEffect Durable.outcome Durable.writes
  rcases commitSealed_cases env (s.sealRequest a session ct next) j with
    ⟨e, h⟩ | ⟨d, cur, hd, hsbl, hnem, hcur, hgen, h⟩
  · rw [h]
    exact .inl ⟨rfl, rfl⟩
  · rw [h]
    exact .inr ⟨.mk hd hsbl hnem hcur hgen rfl, rfl⟩

/-- The sealing step of a sweep, by cases on where it stands and on what the suite returned. -/
theorem commitEffect_cases (env : Env) (j : Journal) (s : Sweep) (result : Option (Bytes × Bytes)) :
    ((s.commitEffect env j result).writes = [] ∧ (s.commitEffect env j result).sealed = none) ∨
      ∃ a session ct next, s.stage = .prepared a session ∧ result = some (ct, next) ∧
        SealOutcome env j (s.sealRequest a session ct next) (s.commitEffect env j result).writes ∧
        (s.commitEffect env j result).sealed =
          some ⟨a.delivery.key.path, a.delivery.sessionID, session.generation, ct⟩ := by
  unfold Sweep.commitEffect
  split
  · next a session ct next hsg =>
    rcases sealEffect_cases env j s a session ct next with h | ⟨hou, hsl⟩
    · exact .inl h
    · exact .inr ⟨a, session, ct, next, hsg, rfl, hou, hsl⟩
  · exact .inl ⟨rfl, rfl⟩
  · exact .inl ⟨rfl, rfl⟩

theorem commitEffect_performed (w : World env) {result : Option (Bytes × Bytes)} {crash : Option Nat}
    (hm : ∀ σ, whole (s.commitEffect env w.journal result).writes crash = true →
      (s.commitEffect env w.journal result).sealed = some σ → m.sealed w = some σ) :
    Guarded (Performed w m) w.journal (landed (s.commitEffect env w.journal result).writes crash) := by
  rcases commitEffect_cases env w.journal s result with
    ⟨hws, -⟩ | ⟨a, session, ct, next, -, -, hou, hsl⟩
  · rw [hws]
    exact guarded_landed (along_nil _) crash
  generalize (s.commitEffect env w.journal result).writes = ws at hm hou ⊢
  cases hou with
  | @mk d cur body hrd hsbl hnem hcur hgen hbo =>
    have hadvance : body.generation = succ64 (generationOf cur) := by rw [hbo, hgen]
    refine guarded_landed_pair (.advance hcur hadvance) fun hwhole => ?_
    have hchd := sealable_ok hsbl
    exact .sealed (hm _ hwhole hsl) hrd hchd.1 hchd.2.2.2

/-! ## Every move -/

theorem effect_sweep {a : SweepAct} (hswp : lookup ticket w.sweeps = some s)
    (hfr : a.repeats w.attempts = false) : (Act.sweep ticket a).effect w = w.sweepEffect ticket s a := by
  simp [Act.effect, hswp, hfr]

/-- A sweep's step is not enabled, or it is the step of the sweep under the ticket. -/
theorem effect_sweep_cases (w : World env) (ticket : Nat) (a : SweepAct) :
    (Act.sweep ticket a).effect w = w.quiet [] ∨
      ∃ s, lookup ticket w.sweeps = some s ∧ a.repeats w.attempts = false ∧
        (Act.sweep ticket a).effect w = w.sweepEffect ticket s a := by
  cases hswp : lookup ticket w.sweeps with
  | none => exact .inl (by simp [Act.effect, hswp])
  | some s =>
    cases hrepeats : a.repeats w.attempts with
    | true => exact .inl (by simp [Act.effect, hswp, hrepeats])
    | false => exact .inr ⟨s, rfl, rfl, effect_sweep hswp hrepeats⟩

theorem step_act_attempts (hru : w.running = true) (a : Act env) (crash : Option Nat) :
    (w.step (.act a crash)).attempts = (a.effect w).attempts := by
  cases crash <;> simp [step, hru, complete, die]

/-- Every durable write of a sweep's step is one of the kinds above. -/
theorem sweep_performed (hru : w.running = true) (ticket : Nat) (a : SweepAct)
    (crash : Option Nat) : Guarded (Performed w (.act (.sweep ticket a) crash)) w.journal
      (landed ((Act.sweep ticket a).effect w).writes crash) := by
  rcases effect_sweep_cases w ticket a with hqt | ⟨s, hswp, hfr, heff⟩
  · rw [hqt]
    exact guarded_landed (along_nil _) crash
  rw [heff]
  cases a with
  | claim att =>
    have hdr : lookup att (w.step (.act (.sweep ticket (.claim att)) crash)).attempts = some s.now := by
      rw [step_act_attempts hru, heff]
      exact lookup_insert _
    exact guarded_landed (claimEffect_performed w s hdr) crash
  | prepare =>
    show Guarded _ _ (landed (s.prepareEffect env w.journal).writes crash)
    rw [writes_prepareEffect]
    exact guarded_landed (along_nil _) crash
  | commitSealed result =>
    refine commitEffect_performed w fun σ hwhole hsl => ?_
    have hall : whole ((Act.sweep ticket (.commitSealed result)).effect w).writes crash = true := by
      rw [heff]
      exact hwhole
    simp only [Move.sealed, hru, hall, Bool.and_self, if_true]
    rw [heff]
    exact hsl
  | send verdict =>
    show Guarded _ _ (landed (s.sendEffect env w.journal verdict).writes crash)
    rw [writes_sendEffect]
    exact guarded_landed (along_nil _) crash
  | settle => exact guarded_landed (settleEffect_performed w s) crash

/-- Every durable write of a goroutine's step is one of the kinds above. -/
theorem act_performed (hru : w.running = true) (a : Act env) (crash : Option Nat) :
    Guarded (Performed w (.act a crash)) w.journal (landed (a.effect w).writes crash) := by
  cases a with
  | accept entry => exact guarded_landed (accept_performed w _) crash
  | beginInbound ticket q =>
    simp only [Act.effect]
    split_ifs
    · exact guarded_landed (along_nil _) crash
    · exact guarded_landed (beginInbound_performed w q) crash
  | settleInbound ticket =>
    simp only [Act.effect]
    split
    · exact guarded_landed (along_nil _) crash
    · next f hfli => exact guarded_landed (settleInbound_performed w rfl hfli) crash
  | call c => exact guarded_landed ((c.routine env w.journal).mono fun _ _ => .routine) crash
  | startSweep ticket limit =>
    simp only [Act.effect]
    split <;> exact guarded_landed (along_nil _) crash
  | sweep ticket a => exact sweep_performed hru ticket a crash

/-- **Every durable write of every move is one of the kinds above**, a crash inside the move
    included. -/
theorem Move.performed (w : World env) (m : Move env) : Guarded (Performed w m) w.journal (m.writes w) := by
  cases m with
  | act a crash =>
    simp only [Move.writes]
    split_ifs with hru
    · exact act_performed hru a crash
    · trivial
  | openJournal crash =>
    simp only [Move.writes]
    split_ifs
    · trivial
    · exact guarded_landed (recoverStaged_guarded.mono fun _ _ => .recover) crash
  | tick now => trivial

/-- The invariant rule of the system: what every kind of write preserves, a move preserves. -/
theorem World.step_preserves {I : Journal → Prop} (w : World env) (m : Move env)
    (hwr : ∀ j x, I j → Performed w m j x → I (Medium.put j x)) (hw : I w.journal) : I (w.step m).journal := by
  rw [step_journal]
  exact (m.performed w).invariant hwr hw

/-! ## The commitments in flight -/

/-- **What is in memory after a move**: what was there, nothing, or what an act leaves. -/
theorem World.step_memory (w : World env) (m : Move env) :
    (w.step m).commits = w.commits ∧ (w.step m).sweeps = w.sweeps ∨
      (w.step m).commits = ∅ ∧ (w.step m).sweeps = ∅ ∨
      ∃ a, m = .act a none ∧ w.running = true ∧ (w.step m).commits = (a.effect w).commits ∧
        (w.step m).sweeps = (a.effect w).sweeps := by
  cases m with
  | tick now => exact .inl ⟨rfl, rfl⟩
  | openJournal crash =>
    simp only [step]
    split_ifs <;> exact .inl ⟨rfl, rfl⟩
  | act a crash =>
    cases crash with
    | some k =>
      simp only [step]
      split_ifs
      · exact .inr (.inl ⟨rfl, rfl⟩)
      · exact .inl ⟨rfl, rfl⟩
    | none =>
      simp only [step]
      split_ifs with hru
      · exact .inr (.inr ⟨a, rfl, hru, rfl, rfl⟩)
      · exact .inl ⟨rfl, rfl⟩

/-- **A commitment in flight** was in flight before, or this move accepted its event. -/
theorem World.step_flight {f : InFlight env} (h : lookup ticket (w.step m).commits = some f) :
    lookup ticket w.commits = some f ∨
      (Eventlog.beginInbound f.request).outcome w.journal = .ok (f.fresh, f.record) := by
  rcases w.step_memory m with ⟨hsm, -⟩ | ⟨hno, -⟩ | ⟨a, -, -, hcommit, -⟩
  · exact .inl (hsm ▸ h)
  · rw [hno, lookup_empty] at h
    cases h
  rw [hcommit] at h
  cases a with
  | accept | call => exact .inl h
  | startSweep ticket' limit =>
    refine .inl ?_
    simp only [Act.effect] at h
    split at h <;> exact h
  | sweep ticket' a =>
    refine .inl ?_
    simp only [Act.effect] at h
    split at h
    · exact h
    · split_ifs at h <;> exact h
  | settleInbound ticket' =>
    refine .inl ?_
    simp only [Act.effect] at h
    split at h
    · exact h
    · exact (lookup_erase_some h).2
  | beginInbound ticket' q =>
    simp only [Act.effect] at h
    split_ifs at h with hbusy
    · exact .inl h
    cases hout : (Eventlog.beginInbound q).outcome w.journal with
    | error e => rw [hout] at h; exact .inl h
    | ok accepted =>
      rw [hout] at h
      rcases lookup_insert_cases h with ⟨-, rfl⟩ | hold
      · exact .inr hout
      · exact .inl hold

/-- What an acceptance returns: the staged record it created, or the record it found under the
    event. -/
theorem beginInbound_outcome {q : CommitRequest env} {fresh : Bool} {r : Record}
    (h : (Eventlog.beginInbound q).outcome j = .ok (fresh, r)) :
    (fresh = true ∧ r = q.staged.record) ∨ (fresh = false ∧ lookup q.entry.eventID j.inbound = some r) := by
  unfold Durable.outcome at h
  rcases beginInbound_cases q j with ⟨e, hbgn⟩ | ⟨-, -, -, hbgn⟩ | ⟨r', hrd, hbgn⟩
  · rw [hbgn] at h; cases h
  · rw [hbgn] at h
    cases h
    exact .inl ⟨rfl, rfl⟩
  rw [hbgn] at h
  cases h
  exact .inr ⟨rfl, (readRecord_ok.mp hrd).1⟩

/-! ## The sweeps in memory -/

theorem start_idle {clock : Time} {limit : Nat} (h : Sweep.start j clock limit = .ok s) : s.stage = .idle := by
  unfold Sweep.start at h
  split_ifs at h
  cases hdue : due j clock with
  | error e => rw [hdue] at h; cases h
  | ok ds => rw [hdue] at h; cases h; rfl

/-- What a sweep in memory can be after a move: what it was, a sweep that has just started, or what
    its own step left of it. -/
theorem World.step_sweep {s' : Sweep} (h : lookup ticket (w.step m).sweeps = some s') :
    lookup ticket w.sweeps = some s' ∨ (∃ limit, Sweep.start w.journal w.clock limit = .ok s') ∨
      ∃ s a, m = .act (.sweep ticket a) none ∧ w.running = true ∧ lookup ticket w.sweeps = some s ∧
        a.repeats w.attempts = false ∧ (s.perform env w.journal w.clock a).sweep = some s' := by
  rcases w.step_memory m with ⟨-, hsm⟩ | ⟨-, hno⟩ | ⟨a, rfl, hru, -, hsweep⟩
  · exact .inl (hsm ▸ h)
  · rw [hno, lookup_empty] at h
    cases h
  rw [hsweep] at h
  cases a with
  | accept | call => exact .inl h
  | beginInbound | settleInbound =>
    refine .inl ?_
    simp only [Act.effect] at h
    split at h <;> exact h
  | startSweep ticket' limit =>
    simp only [Act.effect] at h
    split at h
    · next s _ hbeg =>
      rcases lookup_insert_cases h with ⟨-, rfl⟩ | hold
      · exact .inr (.inl ⟨limit, hbeg⟩)
      · exact .inl hold
    · exact .inl h
  | sweep ticket' a =>
    rcases effect_sweep_cases w ticket' a with hqt | ⟨s, hswp, hfr, heff⟩
    · rw [hqt] at h; exact .inl h
    rw [heff] at h
    replace h : lookup ticket (w.swept ticket' (s.perform env w.journal w.clock a).sweep) = some s' := h
    cases haft : (s.perform env w.journal w.clock a).sweep with
    | none =>
      rw [haft] at h
      exact .inl (lookup_erase_some h).2
    | some after =>
      rw [haft] at h
      rcases lookup_insert_cases h with ⟨rfl, rfl⟩ | hold
      · exact .inr (.inr ⟨s, a, rfl, hru, hswp, hfr, haft⟩)
      · exact .inl hold

/-- A drawn attempt identifier keeps its time. -/
theorem World.step_attempts (m : Move env) {att : AttemptID} {now : Time}
    (h : lookup att w.attempts = some now) : lookup att (w.step m).attempts = some now := by
  cases m with
  | tick => exact h
  | openJournal crash => simp only [step]; split <;> exact h
  | act a crash =>
    cases hru : w.running with
    | false => cases crash <;> simpa [step, hru] using h
    | true =>
      rw [step_act_attempts hru]
      cases a with
      | accept | call => exact h
      | beginInbound ticket q => simp only [Act.effect]; split_ifs <;> exact h
      | settleInbound ticket | startSweep ticket limit => simp only [Act.effect]; split <;> exact h
      | sweep ticket a =>
        rcases effect_sweep_cases w ticket a with hqt | ⟨s, -, hfr, heff⟩
        · rw [hqt]; exact h
        rw [heff]
        cases a with
        | claim drawn => exact Lib.Dir.lookup_insert_of_absent (by simpa [SweepAct.repeats] using hfr) h
        | prepare | commitSealed | send | settle => exact h

/-! ## Names -/

/-- Records, carried copies and moderation decisions are all under the event they are about, and a
    carried copy that is fresh is staged. -/
structure Keyed (w : World env) : Prop where
  record : ∀ {e r}, lookup e w.journal.inbound = some r → r.eventID = e
  flight : ∀ {ticket f}, lookup ticket w.commits = some f → f.record.eventID = f.request.entry.eventID
  fresh : ∀ {ticket f}, lookup ticket w.commits = some f → f.fresh = true → f.record.crypto = .staged
  moderation : ∀ {e d}, lookup e w.journal.moderation = some d → d.wellFormed e = true

theorem keyed_fresh : Keyed (fresh env) where
  record := nofun
  flight := nofun
  fresh := nofun
  moderation := nofun

/-- A record write keeps names if its record does. -/
theorem recordKeys_put {p : EventID} {r' : Record} (hj : ∀ e r, lookup e j.inbound = some r → r.eventID = e)
    (hr' : r'.eventID = p) : ∀ e r, lookup e (Medium.put j (.record p r')).inbound = some r → r.eventID = e :=
  forall_insert hj hr'

theorem Keyed.record_step (hw : Keyed w) (m : Move env) :
    ∀ e r, lookup e (w.step m).journal.inbound = some r → r.eventID = e := by
  refine w.step_preserves m (I := fun j => ∀ e r, lookup e j.inbound = some r → r.eventID = e) ?_
    fun e r => hw.record
  intro j x hj hx
  cases hx with
  | accept entry => exact recordKeys_put hj rfl
  | @settle ticket f r _ hfli _ _ hr =>
    refine recordKeys_put hj ?_
    rcases hr with rfl | rfl <;> exact hw.flight hfli
  | advance | claim | sealed => exact hj
  | routine hrtn =>
    cases hrtn with
    | record hrd hchg =>
      exact recordKeys_put hj (hchg.identity.1.trans (hj _ _ (readRecord_ok.mp hrd).1))
    | session | enqueue | delivery | moderation => exact hj
  | recover hrecover =>
    cases hrecover with
    | @record path r c hrd _ =>
      have hr : r.eventID = path := hj _ _ (readRecord_ok.mp hrd).1
      exact recordKeys_put hj hr
    | session => exact hj

theorem Keyed.moderation_step (hw : Keyed w) (m : Move env) :
    ∀ e d, lookup e (w.step m).journal.moderation = some d → d.wellFormed e = true := by
  refine w.step_preserves m (I := fun j => ∀ e d, lookup e j.moderation = some d → d.wellFormed e = true) ?_
    fun e d => hw.moderation
  intro j x hj hx
  cases hx with
  | accept | settle | advance | claim | sealed => exact hj
  | recover hrecover => cases hrecover <;> exact hj
  | routine hrtn =>
    cases hrtn with
    | record | session | enqueue | delivery => exact hj
    | moderation hrdb => exact forall_insert hj hrdb

theorem Keyed.step (hw : Keyed w) (m : Move env) : Keyed (w.step m) where
  record := fun h => hw.record_step m _ _ h
  moderation := fun h => hw.moderation_step m _ _ h
  flight := by
    intro ticket f h
    rcases step_flight h with hold | hbegan
    · exact hw.flight hold
    rcases beginInbound_outcome hbegan with ⟨-, hr⟩ | ⟨-, hr⟩
    · rw [hr]; rfl
    · exact hw.record hr
  fresh := by
    intro ticket f h hfr
    rcases step_flight h with hold | hbegan
    · exact hw.fresh hold hfr
    rcases beginInbound_outcome hbegan with ⟨-, hr⟩ | ⟨hnot, -⟩
    · rw [hr]; rfl
    · rw [hfr] at hnot; cases hnot

/-- In every reachable world records, carried copies and decisions are under their own event. -/
theorem keyed_run (env : Env) (ms : List (Move env)) : Keyed (run step (fresh env) ms) :=
  run_invariant (fun _ m hw => hw.step m) keyed_fresh ms

end

end Messenger.Daemon
