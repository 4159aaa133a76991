import Messenger.Eventlog.Calls

/-!
# `Eventlog.Correctness.Receipts` — an inbound record keeps its time of receipt

Whatever the journal's operations write over an inbound record, the record stays and says when its
event was received: `Journal.Retains` relates the two ends of any guarded list of writes, so also
the state a crash leaves behind. Only a prune ends a record.

`commitInbound_fresh` says what a fresh commitment leaves: a record that was not there, received
when the entry says.
-/

namespace Messenger.Eventlog

open Lib

/-- Every inbound record is still there, received at the same time. -/
def Journal.Retains (j j' : Journal) : Prop :=
  ∀ id r, lookup id j.inbound = some r → ∃ r', lookup id j'.inbound = some r' ∧ r'.receivedAt = r.receivedAt

theorem Journal.Retains.refl (j : Journal) : j.Retains j := fun _ r hr => ⟨r, hr, rfl⟩

theorem Journal.Retains.trans {a b c : Journal} (hab : a.Retains b) (hbc : b.Retains c) : a.Retains c := by
  intro id r hr
  obtain ⟨r', hr', hsm'⟩ := hab id r hr
  obtain ⟨r'', hr'', hsame''⟩ := hbc id r' hr'
  exact ⟨r'', hr'', hsame''.trans hsm'⟩

/-- Operations on the other directories retain every record. -/
theorem Journal.Retains.of_inbound {j j' : Journal} (h : j'.inbound = j.inbound) : j.Retains j' := by
  intro id r hr
  exact ⟨r, h ▸ hr, rfl⟩

/-- A write over an inbound record repeats its time of receipt. -/
def KeepsReceipt (j : Journal) : JournalWrite → Prop
  | .record path r' => ∀ r, lookup path j.inbound = some r → r'.receivedAt = r.receivedAt
  | .session _ _ | .delivery _ _ | .moderation _ _ => True

variable {w : JournalWrite} {record : Record}

theorem put_retains {j : Journal} (h : KeepsReceipt j w) : j.Retains (Medium.put j w) := by
  cases w with
  | record path r' =>
    intro id r hr
    exact Lib.Dir.lookup_insert_retains (R := fun r r' => r'.receivedAt = r.receivedAt) hr rfl (h r)
  | session path s => exact .of_inbound rfl
  | delivery path d => exact .of_inbound rfl
  | moderation path d => exact .of_inbound rfl

theorem puts_retains {j : Journal} {ws : List JournalWrite} (h : Guarded KeepsReceipt j ws) : j.Retains (puts j ws) :=
  h.related (R := Journal.Retains) .refl .trans fun _ _ hw => put_retains hw

variable {env : Env} {j : Journal}

theorem RecordChange.receivedAt {r r' : Record} (h : RecordChange r r') : r'.receivedAt = r.receivedAt := by
  cases h with
  | decided code sec _ _ => unfold Record.decided; split <;> rfl
  | finished verdict sec _ => cases verdict <;> rfl
  | expiredOut | leased | read => rfl

theorem Routine.keepsReceipt (h : Routine env j w) : KeepsReceipt j w := by
  cases h with
  | record hrd hchg =>
    intro r hr
    cases (readRecord_ok.mp hrd).1.symm.trans hr
    exact hchg.receivedAt
  | session | enqueue | delivery | moderation => trivial

theorem RecoveryWrite.keepsReceipt (h : RecoveryWrite env j w) : KeepsReceipt j w := by
  cases h with
  | record hrd _ _ =>
    intro r hr
    cases (readRecord_ok.mp hrd).1.symm.trans hr
    rfl
  | session => trivial

/-! ## The inbound commitment -/

/-- The second region writes the carried record over the one it was read from. -/
theorem settleInbound_keepsReceipt (q : CommitRequest env) (fresh : Bool)
    (hcarried : lookup q.entry.eventID j.inbound = some record) :
    Guarded KeepsReceipt j ((settleInbound q fresh record).writes j) := by
  have hov : ∀ r' : Record, r'.receivedAt = record.receivedAt →
      ∀ r, lookup q.entry.eventID j.inbound = some r → r'.receivedAt = r.receivedAt := by
    intro r' hsm r hr
    cases hcarried.symm.trans hr
    exact hsm
  by_cases hop : fresh = true ∨ record.crypto ≠ .committed
  · have hset := settleInbound_settlement q j fresh record hop
    generalize (settleInbound q fresh record).writes j = ws at hset
    cases hset with
    | damaged _ => trivial
    | behind _ _ => exact ⟨hov _ rfl, trivial⟩
    | advanced _ _ => exact ⟨trivial, hov _ rfl, trivial⟩
  push Not at hop
  rw [Bool.eq_false_of_not_eq_true hop.1, writes_settleInbound_committed q j hop.2]
  trivial

theorem commitInbound_keepsReceipt (q : CommitRequest env) (j : Journal) :
    Guarded KeepsReceipt j ((commitInbound q).writes j) := by
  rcases beginInbound_cases q j with ⟨e, hbgn⟩ | ⟨hno, -, -, hbgn⟩ | ⟨r, hrd, hbgn⟩
  · unfold commitInbound Durable.writes
    rw [run_bind_error hbgn]
    trivial
  · unfold commitInbound Durable.writes
    rw [run_bind_ok hbgn]
    refine ⟨?_, settleInbound_keepsReceipt q true (lookup_insert _)⟩
    intro r hr
    cases hno.symm.trans hr
  unfold commitInbound Durable.writes
  rw [run_bind_ok hbgn]
  exact settleInbound_keepsReceipt q false (readRecord_ok.mp hrd).1

/-- The second region passes on whether the event was fresh. -/
theorem settleInbound_flag {q : CommitRequest env} {fresh fresh' : Bool} {record' : Record}
    (h : (settleInbound q fresh record).outcome j = .ok (fresh', record')) : fresh' = fresh := by
  unfold settleInbound Durable.outcome at h
  split_ifs at h with hcom
  · simp only [Bool.and_eq_true, Bool.not_eq_true'] at hcom
    cases h
    exact hcom.1.symm
  rw [run_read_bind] at h
  cases hcur : currentSession env j q.sessionID with
  | error e =>
    rw [hcur, run_lift_error_bind] at h
    cases h
  | ok cur =>
    rw [hcur, run_lift_ok_bind] at h
    by_cases hgen : generationOf cur = q.expectedGeneration
    · rw [if_neg (not_not.mpr hgen),
        run_bind_ok (run_writeSessionInbound hcur (q.authority_none_or hcur hgen)),
        run_commit_bind] at h
      cases h
      rfl
    · rw [if_pos hgen, run_commit_bind] at h
      cases h

/-- **A fresh commitment**: there was no record of the event, and there is one now, received when
    the entry says. -/
theorem commitInbound_fresh {q : CommitRequest env} (h : (commitInbound q).outcome j = .ok (true, record)) :
    lookup q.entry.eventID j.inbound = none ∧
      ∃ r, lookup q.entry.eventID ((commitInbound q).final j).inbound = some r ∧
        r.receivedAt = q.entry.receivedAt := by
  have hkp := commitInbound_keepsReceipt q j
  unfold Durable.final
  unfold commitInbound Durable.outcome at h
  unfold commitInbound Durable.writes at hkp ⊢
  rcases beginInbound_cases q j with ⟨e, hbgn⟩ | ⟨hno, -, -, hbgn⟩ | ⟨r, hrd, hbgn⟩
  · rw [run_bind_error hbgn] at h
    cases h
  · refine ⟨hno, ?_⟩
    rw [run_bind_ok hbgn] at hkp ⊢
    -- the record is there after the first write, and the others keep it
    exact puts_retains hkp.2 q.entry.eventID q.staged.record (lookup_insert _)
  · rw [run_bind_ok hbgn] at h
    cases settleInbound_flag h

theorem accept_keepsReceipt (env : Env) (entry : Entry) (j : Journal) :
    Guarded KeepsReceipt j ((accept env entry).writes j) := by
  unfold Durable.writes
  rcases accept_cases env entry j with ⟨e, hacp⟩ | ⟨hno, -, hacp⟩ | ⟨r, -, hacp⟩
  · rw [hacp]
    trivial
  · rw [hacp]
    refine ⟨?_, trivial⟩
    intro r hr
    cases hno.symm.trans hr
  · rw [hacp]
    trivial

theorem accept_fresh {entry : Entry} (h : (accept env entry).outcome j = .ok (true, record)) :
    lookup entry.eventID j.inbound = none ∧
      ∃ r, lookup entry.eventID ((accept env entry).final j).inbound = some r ∧ r.receivedAt = entry.receivedAt := by
  unfold Durable.final Durable.writes
  unfold Durable.outcome at h
  rcases accept_cases env entry j with ⟨e, hacp⟩ | ⟨hno, -, hacp⟩ | ⟨r, -, hacp⟩
  · rw [hacp] at h
    cases h
  · rw [hacp]
    exact ⟨hno, entry.record, lookup_insert _, rfl⟩
  · rw [hacp] at h
    cases h

end Messenger.Eventlog
