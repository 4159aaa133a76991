import Messenger.Daemon.Steps

/-!
# `Daemon.Correctness.Updates` — when record updates survive concurrent commitments

Every writer of an inbound record but one reads the record and writes it back inside one region of
the journal's mutex. The exception is `commitInbound`: `Accept` reads the record, the mutex is
released, and the second region writes back **the copy read before the release**. Whatever another
caller did to the record in between is overwritten.

`Keeps` says what must survive between two states of a record, and is a preorder. The writers that
stay inside one region respect it; a commitment respects it when the record it carries is still the
stored one (`Move.current`). `staleRun` is the interleaving in which it is not: one commitment of an
event settles after another one has committed it, the owner has admitted it and the runtime has
finished with it.
-/

namespace Messenger.Daemon

open Eventlog Lib

/-! ## What must survive -/

/-- **No update is lost** from `r` to `r'`: a committed event stays committed, a decided admission
    keeps its decision, and a finished event stays finished. -/
structure Keeps (r r' : Record) : Prop where
  crypto : r.crypto = .committed → r'.crypto = .committed
  admission : r.admission ≠ .pending → r'.admission = r.admission
  terminal : r.terminal = true → r'.terminal = true

theorem Keeps.refl (r : Record) : Keeps r r := ⟨id, fun _ => rfl, id⟩

theorem Keeps.trans {a b c : Record} (hab : Keeps a b) (hbc : Keeps b c) : Keeps a c where
  crypto := fun h => hbc.crypto (hab.crypto h)
  admission := by
    intro hdcd
    have hb : b.admission = a.admission := hab.admission hdcd
    have hc : c.admission = b.admission := hbc.admission (hb ▸ hdcd)
    exact hc.trans hb
  terminal := fun h => hbc.terminal (hab.terminal h)

variable {r r' : Record}

/-- A change made inside one region keeps everything. -/
theorem keeps_of_recordChange (h : RecordChange r r') : Keeps r r' where
  crypto := fun hcom => h.identity.2.1.trans hcom
  admission := h.admission_eq
  terminal := h.terminal_of

/-- Deciding the cryptographic dimension of an uncommitted record keeps everything. -/
theorem keeps_mark (c : CryptoState) (h : r.crypto ≠ .committed) : Keeps r (r.mark c) :=
  ⟨fun hcom => absurd hcom h, fun _ => rfl, id⟩

theorem keeps_commitAt (r : Record) (sec : Nat) : Keeps r (r.commitAt sec) :=
  ⟨fun _ => rfl, fun _ => rfl, id⟩

/-- Every record of `j` is still there in `j'`, with nothing lost. -/
def RecordsKept (j j' : Journal) : Prop :=
  ∀ e r, lookup e j.inbound = some r → ∃ r', lookup e j'.inbound = some r' ∧ Keeps r r'

theorem RecordsKept.refl (j : Journal) : RecordsKept j j := fun _ r hr => ⟨r, hr, .refl r⟩

theorem RecordsKept.trans {a b c : Journal} (hab : RecordsKept a b) (hbc : RecordsKept b c) : RecordsKept a c := by
  intro e r hr
  obtain ⟨r₁, hr₁, hkeep₁⟩ := hab e r hr
  obtain ⟨r₂, hr₂, hkeep₂⟩ := hbc e r₁ hr₁
  exact ⟨r₂, hr₂, hkeep₁.trans hkeep₂⟩

/-- A record write loses nothing if what it writes keeps what it replaces. -/
theorem recordsKept_record {j : Journal} {p : EventID} (h : ∀ r, lookup p j.inbound = some r → Keeps r r') :
    RecordsKept j (Medium.put j (.record p r')) := by
  intro e r hr
  exact Lib.Dir.lookup_insert_retains hr (.refl r) (h r)

/-- The same, by the record the writer read. -/
theorem recordsKept_of_read {j : Journal} {p : EventID} (hrd : lookup p j.inbound = some r)
    (h : Keeps r r') : RecordsKept j (Medium.put j (.record p r')) := by
  refine recordsKept_record fun r₀ hr₀ => ?_
  have hsm : r₀ = r := Option.some.inj (hr₀.symm.trans hrd)
  exact hsm ▸ h

section
variable {env : Env}

/-! ## The condition -/

/-- The record a commitment carries is the stored one, or the commitment has nothing left to write. -/
def InFlight.current (f : InFlight env) (j : Journal) : Bool :=
  !f.unsettled || lookup f.request.entry.eventID j.inbound = some f.record

/-- The commitment a move settles, if it settles one, is current. -/
def Move.current (w : World env) (m : Move env) : Bool :=
  (m.settles.bind fun ticket => lookup ticket w.commits).all fun f => f.current w.journal

variable {w : World env} {m : Move env}

theorem Move.current_flight {ticket : Nat} {f : InFlight env} (hm : m.current w = true)
    (htkt : m.settles = some ticket) (hfli : lookup ticket w.commits = some f)
    (huns : f.unsettled = true) : lookup f.request.entry.eventID w.journal.inbound = some f.record := by
  simpa [Move.current, htkt, hfli, InFlight.current, huns] using hm

/-! ## One step and whole runs -/

/-- A commitment with something left to write carries an uncommitted record. -/
theorem Keyed.uncommitted (hw : Keyed w) {ticket : Nat} {f : InFlight env}
    (hfli : lookup ticket w.commits = some f) (huns : f.unsettled = true) :
    f.record.crypto ≠ .committed := by
  cases hfr : f.fresh with
  | true =>
    rw [hw.fresh hfli hfr]
    decide
  | false => simpa [InFlight.unsettled, hfr] using huns

/-- Every kind of write keeps every record, a commitment's under the condition. -/
theorem recordsKept_performed (hw : Keyed w) (hm : m.current w = true) (j : Journal)
    (x : JournalWrite) (hx : Performed w m j x) : RecordsKept j (Medium.put j x) := by
  cases hx with
  | accept entry hno _ =>
    refine recordsKept_record fun r hr => ?_
    rw [hno] at hr
    cases hr
  | @settle ticket f r htkt hfli huns hinbox hr =>
    -- the record read before the release is still the stored one
    have hsto : lookup f.request.entry.eventID j.inbound = some f.record := by
      rw [hinbox]
      exact Move.current_flight hm htkt hfli huns
    refine recordsKept_of_read hsto ?_
    rcases hr with rfl | rfl
    · exact keeps_mark _ (hw.uncommitted hfli huns)
    · exact keeps_commitAt _ _
  | advance | claim | sealed => exact .refl j
  | routine hrtn =>
    cases hrtn with
    | record hrd hchg => exact recordsKept_of_read (readRecord_ok.mp hrd).1 (keeps_of_recordChange hchg)
    | session | enqueue | delivery | moderation => exact .refl j
  | recover hrecover =>
    cases hrecover with
    | @record path r c hrd hstg _ =>
      refine recordsKept_of_read (readRecord_ok.mp hrd).1 (keeps_mark c ?_)
      rw [hstg]
      decide
    | session => exact .refl j

theorem recordsKept_step (hw : Keyed w) (hm : m.current w = true) : RecordsKept w.journal (w.step m).journal := by
  rw [World.step_journal]
  exact (m.performed w).related RecordsKept.refl RecordsKept.trans (recordsKept_performed hw hm)

end

/-- **No record update is lost** in any interleaving in which every commitment settles on the record
    it accepted: between any two states of the run, every record keeps its commitment, its decision
    and its verdict. -/
theorem no_record_update_lost (env : Env) (ms ns : List (Move env))
    (hcurrent : Along World.step (fun w m => m.current w = true) (World.fresh env) (ms ++ ns)) :
    RecordsKept (run World.step (World.fresh env) ms).journal
      (run World.step (World.fresh env) (ms ++ ns)).journal := by
  obtain ⟨-, hns⟩ := (along_append _ ms ns).mp hcurrent
  rw [run_append]
  have hinvariant := hns.and_invariant (I := Keyed) (fun _ m hw _ => hw.step m) (keyed_run env ms)
  exact hinvariant.related (R := fun w w' => RecordsKept w.journal w'.journal) (fun w => .refl w.journal)
    RecordsKept.trans fun w m h => recordsKept_step h.1 h.2

/-- Two commitments of one event, the second begun after the first has settled, and the owner's
    decision. -/
def settledRun : List (Move .plain) :=
  [.openJournal none,
   .act (.beginInbound 0 (sampleCommit 7 .pending 0)) none,
   .act (.settleInbound 0) none,
   .act (.beginInbound 1 (sampleCommit 7 .pending 0)) none]

def decidedRun : List (Move .plain) :=
  [.act (.call (.admitEvent ⟨7⟩ 30)) none, .act (.settleInbound 1) none]

theorem settledRun_keeps :
    RecordsKept (run World.step (World.fresh .plain) settledRun).journal
      (run World.step (World.fresh .plain) (settledRun ++ decidedRun)).journal :=
  no_record_update_lost .plain settledRun decidedRun (by decide)

/-- Two commitments of one event accept it; the second one settles, the owner admits the event, and
    a runtime claims it and finishes it. -/
def staleRun : List (Move .plain) :=
  [.openJournal none,
   .act (.beginInbound 0 (sampleCommit 7 .pending 0)) none,
   .act (.beginInbound 1 (sampleCommit 7 .pending 0)) none,
   .act (.settleInbound 1) none,
   .act (.call (.admitEvent ⟨7⟩ 30)) none,
   .act (.call (.claim ⟨7⟩ ⟨1⟩ 40 60 {})) none,
   .act (.call (.complete ⟨7⟩ ⟨1⟩ 50)) none]

/-- Then the first one settles, with the record as it was when it was staged: the commitment, the
    owner's decision and the runtime's verdict are all gone. -/
theorem staleRun_loses_updates :
    (AList.lookup ⟨7⟩ (run World.step (World.fresh .plain) staleRun).journal.inbound).map
        (fun r => (r.crypto, r.admission, r.application)) = some (.committed, .admitted, .applied) ∧
      (AList.lookup ⟨7⟩ (run World.step (World.fresh .plain)
        (staleRun ++ [.act (.settleInbound 0) none])).journal.inbound).map
        (fun r => (r.crypto, r.admission, r.application)) = some (.abandoned, .pending, .queued) := by
  decide

end Messenger.Daemon
