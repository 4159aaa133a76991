import Messenger.Eventlog.Sequential

/-!
# `Eventlog.Correctness.Recovery` — the inbound commitment survives a crash at any write

The three writes of an inbound commitment are not atomic. What makes them one transaction is that a
crash between them leaves a state the recovery can read. This file states what that is.

- `Rest` holds between requests: exactly the consumed events are committed, and a record that is
  still staged waits on a session that cannot be read (its recovery will refuse to open the
  journal).
- `Balanced focus` holds at a crash point: the same, except that **one** record, the focus, may be
  staged over a readable session, which may already have advanced for it.

A request takes `Rest` to `Rest` with `Balanced` at every write on the way, and the recovery takes
`Balanced` to `Rest`. There is one exception, and it is the reason the result below is conditional:
re-presenting an event whose record is **abandoned** advances the session while the record still
says abandoned, and the recovery does not look at abandoned records.
-/

namespace Messenger.Eventlog

open Lib Medium Disk

/-! ## The journal with the history it is judged against -/

/-- A journal and the events its session writes consumed so far. -/
structure History where
  journal : Journal
  consumed : Set EventID

instance : Medium History JournalWrite where
  put h w := { journal := put h.journal w, consumed := h.consumed ∪ { e | w.consumes = some e } }

variable (env : Env) (d : Disk) (h : History) (ws : List JournalWrite)

@[simp] theorem put_history (w : JournalWrite) : put h w =
    { journal := put h.journal w, consumed := h.consumed ∪ { e | w.consumes = some e } } := rfl

theorem puts_history : puts h ws = { journal := puts h.journal ws, consumed := h.consumed ∪ consumed ws } := by
  induction ws generalizing h with
  | nil => simp
  | cons w ws ih => rw [puts_cons, ih, consumed_cons, puts_cons, put_history, Set.union_assoc]

theorem journal_puts : (puts h ws).journal = puts h.journal ws := by
  rw [puts_history]

/-- A disk's journal with the history its log stands for. -/
def Disk.history : History := { journal := d.journal, consumed := consumed d.log }

theorem Disk.history_apply (running : Bool) : (d.apply ws running).history = puts d.history ws := by
  rw [puts_history]
  simp [apply, history]

/-! ## The invariants -/

/-- The record waits on a session that cannot be read. -/
def Stuck (j : Journal) (r : Record) : Prop :=
  ∃ t e, r.transition = some t ∧ currentSession env j t.sessionID = .error e

/-- The record's session has already advanced for it. -/
def Advanced (j : Journal) (r : Record) : Prop :=
  ∃ t s, r.transition = some t ∧ currentSession env j t.sessionID = .ok (some s) ∧
    s.generation = succ64 t.expectedGeneration ∧ s.lastInboundEventID = some r.eventID

/-- A record as an inbound commitment leaves it: under its own event, readable, bound to a session,
    and with a next state while it is staged. -/
structure Bound (e : EventID) (r : Record) : Prop where
  key : r.eventID = e
  readable : r.wellFormed env = true
  bound : r.crypto ≠ .unbound
  staged : r.crypto = .staged → ∃ t, r.transition = some t ∧ t.nextState ≠ []

/-- **The crash-point invariant.** At most one record, the focus, is staged over a session that can
    be read. -/
structure Balanced (focus : Option EventID) (h : History) : Prop where
  bound : ∀ {e r}, lookup e h.journal.inbound = some r → Bound env e r
  consumed : ∀ {e}, e ∈ h.consumed → ∃ r, lookup e h.journal.inbound = some r ∧
    (r.crypto = .committed ∨ r.crypto = .staged ∧ (Stuck env h.journal r ∨ focus = some e ∧ Advanced env h.journal r))
  committed : ∀ {e r}, lookup e h.journal.inbound = some r → r.crypto = .committed → e ∈ h.consumed
  last : ∀ {p s e}, lookup p h.journal.sessions = some s → s.lastInboundEventID = some e → e ∈ h.consumed
  staged : ∀ {e r}, lookup e h.journal.inbound = some r → r.crypto = .staged →
    Stuck env h.journal r ∨ focus = some e

/-- **The invariant between requests.** Nothing is in focus and every consumed event is committed. -/
structure Rest : Prop extends Balanced env none h where
  settled : ∀ {e}, e ∈ h.consumed → ∃ r, lookup e h.journal.inbound = some r ∧ r.crypto = .committed

/-- Some focus makes the state a crash point. -/
def Recoverable : Prop := ∃ focus, Balanced env focus h

theorem Rest.recoverable {env : Env} {h : History} (hre : Rest env h) : Recoverable env h := ⟨none, hre.toBalanced⟩

/-- Between requests the journal is faithful to its history. -/
theorem Rest.faithful {env : Env} {d : Disk} (h : Rest env d.history) : Faithful d := by
  intro e
  refine ⟨h.settled, fun hnot r hr => ?_⟩
  have hcom : r.crypto ≠ .committed := fun hc => hnot (h.committed hr hc)
  simp [Record.deliverable, hcom, (h.bound hr).bound]

theorem rest_fresh : Rest env fresh.history := by
  have hrec : ∀ e, lookup e fresh.history.journal.inbound = none := fun e => lookup_empty e
  have hses : ∀ p, lookup p fresh.history.journal.sessions = none := fun p => lookup_empty p
  have hno : ∀ e, e ∉ fresh.history.consumed := by simp [fresh, history]
  exact
    { bound := by simp [hrec]
      consumed := fun he => absurd he (hno _)
      committed := by simp [hrec]
      last := by simp [hses]
      staged := by simp [hrec]
      settled := fun he => absurd he (hno _) }

/-! ## What a session write does to the other records -/

section
variable {env : Env} {j : Journal} {p p' : SessionID} {s : SessionRecord}

theorem currentSession_put_ne (hne : p' ≠ p) :
    currentSession env (put j (.session p s)) p' = currentSession env j p' := by
  unfold currentSession readSession readFile
  rw [put_session, lookup_insert_ne hne]

/-- A session that was just written either reads back as written or not at all. -/
theorem currentSession_put_self :
    currentSession env (put j (.session p s)) p = .ok (some s) ∨
      ∃ e, currentSession env (put j (.session p s)) p = .error e := by
  by_cases hwf : s.wellFormed env = true
  · exact .inl (currentSession_some.mpr ⟨lookup_insert _, hwf⟩)
  refine .inr ⟨.other "invalid session record", ?_⟩
  unfold currentSession readSession readFile
  rw [put_session, lookup_insert]
  simp only [if_neg hwf]

/-- A record that is stuck stays stuck: only sessions that can be read are written. -/
theorem Stuck.put_session {r : Record} {current : Option SessionRecord}
    (hcur : currentSession env j p = .ok current) (h : Stuck env j r) :
    Stuck env (put j (.session p s)) r := by
  obtain ⟨t, e, ht, he⟩ := h
  refine ⟨t, e, ht, ?_⟩
  rw [currentSession_put_ne, he]
  rintro rfl
  rw [hcur] at he
  cases he

end

/-! ## One write at a time -/

section
variable {env : Env} {h : History} {focus focus' : Option EventID} {e : EventID} {r r' : Record}

theorem lookup_put_record (x : EventID) :
    lookup x (put h (.record e r)).journal.inbound =
      if x = e then some r else lookup x h.journal.inbound := lookup_insert_eq _ _ _ _

theorem consumed_put_record : (put h (.record e r)).consumed = h.consumed := by
  simp [JournalWrite.consumes]

/-- A record write keeps a crash point when the new body is right for its event and the focus moves
    only there. -/
theorem Balanced.put_record (hbal : Balanced env focus h) (hbd : Bound env e r')
    (hfoc : ∀ x, x ≠ e → focus = some x → focus' = some x)
    (hcn : e ∈ h.consumed → r'.crypto = .committed ∨
      r'.crypto = .staged ∧ (Stuck env h.journal r' ∨ focus' = some e ∧ Advanced env h.journal r'))
    (hcom : r'.crypto = .committed → e ∈ h.consumed)
    (hstg : r'.crypto = .staged → Stuck env h.journal r' ∨ focus' = some e) :
    Balanced env focus' (put h (.record e r')) := by
  refine ⟨forall_insert (fun _ _ => hbal.bound) hbd _ _, ?_, ?_, ?_, ?_⟩
  · intro x hx
    rw [consumed_put_record] at hx
    rw [lookup_put_record]
    by_cases hxe : x = e
    · subst hxe
      exact ⟨r', if_pos rfl, hcn hx⟩
    rw [if_neg hxe]
    obtain ⟨rx, hrx, hcry⟩ := hbal.consumed hx
    refine ⟨rx, hrx, hcry.imp_right fun hs => ⟨hs.1, hs.2.imp_right fun hf => ?_⟩⟩
    exact ⟨hfoc x hxe hf.1, hf.2⟩
  · rw [consumed_put_record]
    exact forall_insert (fun _ _ => hbal.committed) hcom _ _
  · rw [consumed_put_record]
    exact hbal.last
  · intro x rx hx hs
    rw [lookup_put_record] at hx
    split_ifs at hx with hxe
    · cases hx; exact hxe ▸ hstg hs
    · exact (hbal.staged hx hs).imp_right (hfoc x hxe)

/-- Between requests, a record write must agree with what was consumed. -/
theorem Rest.put_record (hre : Rest env h) (hbd : Bound env e r')
    (hcom : r'.crypto = .committed ↔ e ∈ h.consumed)
    (hstg : r'.crypto = .staged → Stuck env h.journal r') : Rest env (put h (.record e r')) where
  toBalanced := hre.toBalanced.put_record hbd (fun _ _ hx => hx) (fun he => .inl (hcom.mpr he))
    hcom.mp fun hs => .inl (hstg hs)
  settled := by
    intro x hx
    rw [consumed_put_record] at hx
    rw [lookup_put_record]
    by_cases hxe : x = e
    · subst hxe
      exact ⟨r', if_pos rfl, hcom.mpr hx⟩
    · rw [if_neg hxe]
      exact hre.settled hx

variable {p : SessionID} {s : SessionRecord} {current : Option SessionRecord}

theorem consumed_put_session :
    (put h (.session p s)).consumed = h.consumed ∪ { x | s.lastInboundEventID = some x } := rfl

/-- With the records and the history as they were, only the sessions have to be looked at. -/
theorem Rest.frame {h' : History} (hre : Rest env h) (hin : h'.journal.inbound = h.journal.inbound)
    (hcn : h'.consumed = h.consumed) (hla : ∀ {p s x}, lookup p h'.journal.sessions = some s →
      s.lastInboundEventID = some x → x ∈ h.consumed)
    (hstu : ∀ {r}, Stuck env h.journal r → Stuck env h'.journal r) : Rest env h' := by
  refine ⟨⟨hin ▸ hre.bound, ?_, ?_, hcn ▸ hla, ?_⟩, ?_⟩ <;> rw [hin]
  · rw [hcn]
    intro x hx
    obtain ⟨rx, hrx, hc⟩ := hre.settled hx
    exact ⟨rx, hrx, .inl hc⟩
  · exact hcn ▸ hre.committed
  · intro x rx hx hs
    exact (hre.staged hx hs).imp_left hstu
  · exact hcn ▸ hre.settled

/-- A session that advances on its own account disturbs nothing between requests. -/
theorem Rest.put_session (hre : Rest env h) (hcur : currentSession env h.journal p = .ok current)
    (hla : s.lastInboundEventID = none) : Rest env (put h (.session p s)) := by
  refine hre.frame rfl ?_ ?_ (Stuck.put_session hcur)
  · rw [consumed_put_session, hla]
    simp
  intro p' s' x hs' hx
  rcases lookup_insert_cases hs' with ⟨-, rfl⟩ | hold
  · rw [hla] at hx; cases hx
  · exact hre.last hold hx

/-- A session that advances **for a staged event** reaches a crash point: the event is consumed and
    its record says so, by its session or by being stuck. -/
theorem Balanced.put_session (hbal : Balanced env focus h) (hcur : currentSession env h.journal p = .ok current)
    (hla : s.lastInboundEventID = some e) (hfoc : ∀ x, focus = some x → x = e)
    (hr : lookup e h.journal.inbound = some r) (hstg : r.crypto = .staged)
    (hown : Stuck env h.journal r ∨ focus = some e ∧
      ∃ t, r.transition = some t ∧ t.sessionID = p ∧ s.generation = succ64 t.expectedGeneration) :
    Balanced env focus (put h (.session p s)) := by
  have hmine : Stuck env (put h (.session p s)).journal r ∨
      focus = some e ∧ Advanced env (put h (.session p s)).journal r := by
    rcases hown with hstuck | ⟨hf, t, ht, rfl, hgen⟩
    · exact .inl (Stuck.put_session hcur hstuck)
    rcases @currentSession_put_self env h.journal t.sessionID s with hsf | ⟨x, hsf⟩
    · have hkey : some r.eventID = some e := congrArg some (hbal.bound hr).key
      exact .inr ⟨hf, t, s, ht, hsf, hgen, hla.trans hkey.symm⟩
    · exact .inl ⟨t, x, ht, hsf⟩
  have hmem : ∀ {x}, x ∈ (put h (.session p s)).consumed → x = e ∨ x ∈ h.consumed := by
    intro x hx
    exact hx.elim .inr fun he => .inl (Option.some.inj (he.symm.trans hla))
  refine ⟨hbal.bound, ?_, ?_, ?_, ?_⟩
  · intro x hx
    by_cases hxe : x = e
    · subst hxe
      exact ⟨r, hr, .inr ⟨hstg, hmine⟩⟩
    obtain ⟨rx, hrx, hcry⟩ := hbal.consumed ((hmem hx).resolve_left hxe)
    refine ⟨rx, hrx, hcry.imp_right fun hs => ⟨hs.1, .inl ?_⟩⟩
    rcases hs.2 with hstuck | hf
    · exact Stuck.put_session hcur hstuck
    · exact absurd (hfoc x hf.1) hxe
  · intro x rx hx hc
    exact .inl (hbal.committed hx hc)
  · intro p' s' x hs' hx
    rcases lookup_insert_cases hs' with ⟨-, rfl⟩ | hold
    · exact .inr hx
    · exact .inl (hbal.last hold hx)
  · intro x rx hx hs
    exact (hbal.staged hx hs).imp_left (Stuck.put_session hcur)

/-- The session advances for an event and the event is committed: the two writes together take
    `Rest` to `Rest`, whatever the event's record said before. -/
theorem Rest.settle (hre : Rest env h) (hcur : currentSession env h.journal p = .ok current)
    (hla : s.lastInboundEventID = some e) (hbd : Bound env e r') (hcom : r'.crypto = .committed) :
    Rest env (puts h [.session p s, .record e r']) := by
  have hstg : r'.crypto ≠ .staged := by simp [hcom]
  have hcn : (puts h [.session p s, .record e r']).consumed = h.consumed ∪ { x | s.lastInboundEventID = some x } := by
    simp [JournalWrite.consumes]
  have hget : ∀ x, lookup x (puts h [.session p s, .record e r']).journal.inbound =
      if x = e then some r' else lookup x h.journal.inbound := fun x => lookup_insert_eq _ _ _ _
  have hset : ∀ {x}, x ∈ (puts h [.session p s, .record e r']).consumed →
      ∃ rx, lookup x (puts h [.session p s, .record e r']).journal.inbound = some rx ∧ rx.crypto = .committed := by
    intro x hx
    rw [hget]
    by_cases hxe : x = e
    · exact ⟨r', if_pos hxe, hcom⟩
    rw [if_neg hxe]
    rw [hcn] at hx
    refine hre.settled (hx.resolve_right fun hx' => hxe ?_)
    exact Option.some.inj (hx'.symm.trans hla)
  refine ⟨⟨forall_insert (fun _ _ => hre.bound) hbd _ _, ?_, ?_, ?_, ?_⟩, hset⟩
  · intro x hx
    obtain ⟨rx, hrx, hc⟩ := hset hx
    exact ⟨rx, hrx, .inl hc⟩
  · intro x rx hx hc
    rw [hcn]
    rcases lookup_insert_cases hx with ⟨rfl, -⟩ | hold
    · exact .inr hla
    · exact .inl (hre.committed hold hc)
  · intro p' s' x hs' hx
    rw [hcn]
    rcases lookup_insert_cases hs' with ⟨-, rfl⟩ | hold
    · exact .inr hx
    · exact .inl (hre.last hold hx)
  · intro x rx hx hs
    rcases lookup_insert_cases hx with ⟨-, rfl⟩ | hold
    · exact absurd hs hstg
    · exact .inl (Stuck.put_session hcur ((hre.staged hold hs).resolve_right (by simp)))

end

/-! ## The recovery sweep -/

section
variable {env : Env} {h : History}

/-- No record under this name waits for its session. -/
def Unstaged (j : Journal) (p : EventID) : Prop := ∀ r, lookup p j.inbound = some r → r.crypto ≠ .staged

variable {e : EventID} {r : Record} {ws : List JournalWrite}

theorem Bound.mark (hbd : Bound env e r) {c : CryptoState} (hunbound : c ≠ .unbound)
    (hstg : c ≠ .staged) : Bound env e (r.mark c) where
  key := hbd.key
  readable := hbd.readable
  bound := hunbound
  staged := fun hc => absurd hc hstg

theorem unstaged_put_record {p : EventID} (hr : r.crypto ≠ .staged) (hp : Unstaged h.journal p) :
    Unstaged (put h (.record e r)).journal p := by
  intro rx hx
  rcases lookup_insert_cases hx with ⟨-, rfl⟩ | hold
  · exact hr
  · exact hp rx hold

/-- Deciding the record in focus, in agreement with what was consumed, leaves nothing in focus. -/
theorem Balanced.decide {c : CryptoState} (hbal : Balanced env (some e) h) (hbd : Bound env e r)
    (hc : c = .committed ∧ e ∈ h.consumed ∨ c = .abandoned ∧ e ∉ h.consumed) :
    Balanced env none (put h (.record e (r.mark c))) := by
  have hmark : Bound env e (r.mark c) := by
    rcases hc with ⟨rfl, -⟩ | ⟨rfl, -⟩ <;> exact hbd.mark (by simp) (by simp)
  refine hbal.put_record hmark (fun x hx hx' => absurd (Option.some.inj hx').symm hx) ?_ ?_ ?_
  · intro he
    rcases hc with ⟨hc, -⟩ | ⟨-, hnot⟩
    · exact .inl hc
    · exact absurd he hnot
  · intro hcom
    rcases hc with ⟨-, he⟩ | ⟨rfl, -⟩
    · exact he
    · cases hcom
  · intro hstg
    rcases hc with ⟨rfl, -⟩ | ⟨rfl, -⟩ <;> cases hstg

/-- What the sweep does to a crash point: it stays one at every write, no record becomes staged, and
    if the sweep may go on none of those it visited is. -/
def Recovers (env : Env) (h : History) (es : List EventID) (res : List JournalWrite × Except Failure Unit) : Prop :=
  Throughout put (Recoverable env) h res.1 ∧ (∀ p, Unstaged h.journal p → Unstaged (puts h res.1).journal p) ∧
    (res.2 = .ok () → ∀ e ∈ es, Unstaged (puts h res.1).journal e)

/-- The resolution of one staged record. -/
theorem Resolution.recovers {t : Transition} {res : List JournalWrite × Except Failure Unit}
    (hres : Resolution env h.journal e r t res) (hrec : Recoverable env h)
    (hr : lookup e h.journal.inbound = some r) (hstg : r.crypto = .staged)
    (ht : r.transition = some t) : Recovers env h [e] res := by
  obtain ⟨focus, hbal⟩ := hrec
  have hbd := hbal.bound hr
  -- a session that can be read puts this record in focus
  have hfoc : ∀ {current}, currentSession env h.journal t.sessionID = .ok current → focus = some e := by
    intro current hcur
    refine (hbal.staged hr hstg).resolve_left ?_
    rintro ⟨t', x, ht', hx⟩
    cases ht.symm.trans ht'
    cases hcur.symm.trans hx
  have hsf : ∀ {h' : History} {r' : Record}, r'.crypto ≠ .staged →
      ∀ x ∈ [e], Unstaged (put h' (.record e r')).journal x := by
    intro h' r' hr' x hmem rx hx
    rw [lookup_put_record, if_pos (List.mem_singleton.mp hmem)] at hx
    cases hx
    exact hr'
  cases hres with
  | refused x => exact ⟨by simpa using ⟨focus, hbal⟩, fun _ hp => hp, fun hok => by cases hok⟩
  | @applied current hcur hgen =>
    obtain rfl := hfoc hcur
    have hkey : some r.eventID = some e := congrArg some hbd.key
    refine ⟨?_, fun p hp => unstaged_put_record (by simp [Record.mark]) hp, fun _ => hsf (by simp [Record.mark])⟩
    have hmid : Balanced env (some e) (put h (.session t.sessionID (sessionBody current t.sessionID t.algorithm
        (succ64 t.expectedGeneration) t.nextState (some r.eventID) t.authority r.cryptoAt))) :=
      hbal.put_session hcur hkey (fun x hx => (Option.some.inj hx).symm) hr hstg
        (.inr ⟨rfl, t, ht, rfl, rfl⟩)
    simp only [throughout_cons, throughout_nil]
    exact ⟨⟨some e, hbal⟩, ⟨some e, hmid⟩, ⟨none, hmid.decide hbd (.inl ⟨rfl, .inr hkey⟩)⟩⟩
  | found hcur hgen hla =>
    obtain rfl := hfoc hcur
    have he : e ∈ h.consumed := hbal.last (currentSession_some.mp hcur).1 (hbd.key ▸ hla)
    refine ⟨?_, fun p hp => unstaged_put_record (by simp [Record.mark]) hp, fun _ => hsf (by simp [Record.mark])⟩
    simp only [throughout_cons, throughout_nil]
    exact ⟨⟨some e, hbal⟩, ⟨none, hbal.decide hbd (.inl ⟨rfl, he⟩)⟩⟩
  | lost hcur hbeh hoth =>
    obtain rfl := hfoc hcur
    -- a consumed event would have found its own advance
    have he : e ∉ h.consumed := by
      intro he
      obtain ⟨r', hr', hcry⟩ := hbal.consumed he
      cases hr.symm.trans hr'
      rcases hcry with hc | ⟨-, ⟨t', x, ht', hx⟩ | ⟨-, t', s, ht', hs, hgen, hla⟩⟩
      · rw [hstg] at hc; cases hc
      · cases ht.symm.trans ht'
        cases hcur.symm.trans hx
      · cases ht.symm.trans ht'
        exact hoth s (Except.ok.inj (hcur.symm.trans hs)) hgen hla
    refine ⟨?_, fun p hp => unstaged_put_record (by simp [Record.mark]) hp, fun _ => hsf (by simp [Record.mark])⟩
    simp only [throughout_cons, throughout_nil]
    exact ⟨⟨some e, hbal⟩, ⟨none, hbal.decide hbd (.inr ⟨rfl, he⟩)⟩⟩

/-- One directory entry of the sweep. -/
theorem recoverEntry_recovers (e : EventID) (hrec : Recoverable env h) :
    Recovers env h [e] (recoverEntry env e h.journal) := by
  have hidle : Unstaged h.journal e → Recovers env h [e] ([], .ok ()) :=
    fun he => ⟨by simpa using hrec, fun _ hp => hp, fun _ => List.forall_mem_singleton.mpr he⟩
  unfold recoverEntry
  rw [run_read_bind]
  cases hrd : readRecord env h.journal e with
  | error x =>
    refine hidle fun r hr => ?_
    have hwf := readRecord_ok.mpr ⟨hr, (hrec.choose_spec.bound hr).readable⟩
    rw [hrd] at hwf
    cases hwf
  | ok r =>
    have hr := (readRecord_ok.mp hrd).1
    by_cases hstg : r.crypto = .staged
    · obtain ⟨t, ht, hnx⟩ := (hrec.choose_spec.bound hr).staged hstg
      have hresolve : resolveStaged env e r = resolveTransition env e r t := by
        unfold resolveStaged
        rw [ht]
      simp only [if_pos hstg, hresolve]
      exact (resolveTransition_resolution env h.journal e r hnx).recovers hrec hr hstg ht
    simp only [if_neg hstg]
    refine hidle fun r' hr' => ?_
    cases hr.symm.trans hr'
    exact hstg

/-- The sweep over a listing: a crash point at every write, and nothing it visited stays staged. -/
theorem recoverEntries_recovers (es : List EventID) (hrec : Recoverable env h) :
    Recovers env h es (recoverEntries env es h.journal) := by
  induction es generalizing h with
  | nil => exact ⟨by simpa [recoverEntries] using hrec, fun _ hp => hp, by simp⟩
  | cons e es ih =>
    obtain ⟨hfst, hkeep, hdn⟩ := recoverEntry_recovers e hrec
    unfold recoverEntries
    obtain ⟨ws, out, hrun⟩ : ∃ ws out, recoverEntry env e h.journal = (ws, out) := ⟨_, _, rfl⟩
    rw [hrun] at hfst hkeep hdn
    cases out with
    | error x =>
      rw [run_bind_error hrun]
      exact ⟨hfst, hkeep, fun hok => by cases hok⟩
    | ok u =>
      obtain ⟨hre, hkeep', hdone'⟩ := ih hfst.finish
      rw [run_bind_ok hrun, ← journal_puts h]
      unfold Recovers
      simp only [run_append]
      refine ⟨throughout_append.mpr ⟨hfst, hre⟩, fun p hp => hkeep' p (hkeep p hp), fun hok x hx => ?_⟩
      rcases List.mem_cons.mp hx with rfl | hx
      · exact hkeep' x (hdn rfl x List.mem_cons_self)
      · exact hdone' hok x hx

/-- **`Open` recovers.** Every write of the recovery leaves a crash point, and a journal that opens
    is at rest. -/
theorem recoverStaged_recovers (hrec : Recoverable env h) :
    Throughout put (Recoverable env) h ((recoverStaged env).writes h.journal) ∧
      ((recoverStaged env).outcome h.journal = .ok () → Rest env (puts h ((recoverStaged env).writes h.journal))) := by
  have hrun : recoverStaged env h.journal = recoverEntries env (Dir.names h.journal.inbound) h.journal :=
    run_read_bind _ _
  obtain ⟨hall, hkeep, hdn⟩ := recoverEntries_recovers (Dir.names h.journal.inbound) hrec
  unfold Durable.writes Durable.outcome
  rw [hrun]
  generalize recoverEntries env (Dir.names h.journal.inbound) h.journal = res at hall hkeep hdn ⊢
  refine ⟨hall, fun hok => ?_⟩
  obtain ⟨focus, hbal⟩ := hall.finish
  -- a name outside the listing has no record, so nothing is staged anywhere
  have hunstaged : ∀ p, Unstaged (puts h res.1).journal p := by
    intro p
    by_cases hp : p ∈ Dir.names h.journal.inbound
    · exact hdn hok p hp
    · refine hkeep p fun r hr => absurd (mem_names.mpr ⟨r, hr⟩) hp
  have hset : ∀ {x}, x ∈ (puts h res.1).consumed →
      ∃ r, lookup x (puts h res.1).journal.inbound = some r ∧ r.crypto = .committed := by
    intro x hx
    obtain ⟨r, hr, hcry⟩ := hbal.consumed hx
    exact ⟨r, hr, hcry.resolve_right fun hs => hunstaged x r hr hs.1⟩
  refine ⟨⟨hbal.bound, ?_, hbal.committed, hbal.last, ?_⟩, hset⟩
  · intro x hx
    obtain ⟨r, hr, hc⟩ := hset hx
    exact ⟨r, hr, .inl hc⟩
  · intro x r hr hs
    exact absurd hs (hunstaged x r hr)

/-! ## The requests -/

/-- A write that no inbound commitment is behind. -/
inductive Neutral (env : Env) (j : Journal) : JournalWrite → Prop
  | record {e : EventID} {r r' : Record} (hread : readRecord env j e = .ok r)
      (hchange : RecordChange r r') : Neutral env j (.record e r')
  | session {p : SessionID} {s : SessionRecord} {current : Option SessionRecord}
      (hcurrent : currentSession env j p = .ok current) (hlast : s.lastInboundEventID = none) :
      Neutral env j (.session p s)
  | delivery (path : DeliveryPath) (d : Delivery) : Neutral env j (.delivery path d)
  | moderation (path : EventID) (d : ModerationDecision) : Neutral env j (.moderation path d)

theorem Routine.neutral {j : Journal} {w : JournalWrite} (hw : Routine env j w) : Neutral env j w := by
  cases hw with
  | record hrd hchg => exact .record hrd hchg
  | session hcur _ hla => exact .session hcur hla
  | enqueue | delivery => exact .delivery _ _
  | moderation => exact .moderation _ _

/-- The sealing commit advances its session with no inbound event behind it. -/
theorem commitSealed_neutral (j : Journal) (q : SealRequest) :
    Guarded (Neutral env) j ((commitSealed env q).writes j) := by
  unfold Durable.writes
  rcases commitSealed_cases env q j with ⟨e, hrun⟩ | ⟨d, current, -, -, -, hcur, -, hrun⟩
  · rw [hrun]
    trivial
  · rw [hrun]
    exact ⟨.session hcur rfl, .delivery _ _, trivial⟩

theorem Rest.neutral {w : JournalWrite} (hre : Rest env h) (hw : Neutral env h.journal w) : Rest env (put h w) := by
  cases hw with
  | @record e r r' hrd hchg =>
    obtain ⟨hr, hwf⟩ := readRecord_ok.mp hrd
    obtain ⟨hev, hcry, htransition⟩ := hchg.identity
    have hbd := hre.bound hr
    refine hre.put_record ⟨hev.trans hbd.key, hchg.wellFormed_of hwf, hcry ▸ hbd.bound, ?_⟩ ?_ ?_
    · rw [hcry, htransition]; exact hbd.staged
    · rw [hcry]
      refine ⟨hre.committed hr, fun he => ?_⟩
      obtain ⟨r₀, hr₀, hc⟩ := hre.settled he
      cases hr.symm.trans hr₀
      exact hc
    rw [hcry]
    intro hs
    obtain ⟨t, x, ht, hx⟩ := (hre.staged hr hs).resolve_right (by simp)
    exact ⟨t, x, htransition.trans ht, hx⟩
  | session hcur hla => exact hre.put_session hcur hla
  -- nothing the invariant speaks about depends on the other two directories
  | delivery | moderation => exact hre.frame rfl (by simp [JournalWrite.consumes]) hre.last id

/-- Neutral writes keep the journal at rest, whichever of them become durable. -/
theorem Rest.throughout_neutral (hre : Rest env h) (hws : Guarded (Neutral env) h.journal ws) :
    Throughout put (Rest env) h ws := by
  induction ws generalizing h with
  | nil => simpa using hre
  | cons w ws ih =>
    rw [throughout_cons]
    exact ⟨hre, ih (hre.neutral hws.1) hws.2⟩

/-- Every request but the inbound commitment makes neutral writes. -/
theorem Request.neutral {j : Journal} (r : Request env) (hr : ∀ q, r ≠ .commitInbound q) :
    Guarded (Neutral env) j (r.writes j) := by
  cases r with
  | commitInbound q => exact absurd rfl (hr q)
  | call c => exact (c.routine env j).mono fun _ _ => Routine.neutral
  | claimForSend did att now lease =>
    exact (claimForSend_cases did att now lease j).guarded fun _ _ _ => .delivery _ _
  | commitSealed q => exact commitSealed_neutral j q
  | failed did att code now =>
    exact (failed_routine did att code now).mono fun _ _ => Routine.neutral
  | delivered did att now =>
    exact (settle_routine did (.named att) _ now).mono fun _ _ => Routine.neutral

/-! ## The inbound commitment -/

variable (q : CommitRequest env)

/-- The staged record of a request is a commitment's record. -/
theorem CommitRequest.bound_staged (hnx : q.next ≠ []) (hrcv : q.entry.receivedAt ≠ 0) :
    Bound env q.entry.eventID q.staged.record where
  key := rfl
  readable := by
    have hauth : (q.authority.all fun a => a.validate env q.sessionID) = true := by
      cases ha : q.authority with
      | none => rfl
      | some a => exact (q.firstContact a ha).2
    simp [Record.wellFormed, Entry.record, CommitRequest.staged, CommitRequest.transition, hrcv, hauth]
  bound := by simp [Entry.record, CommitRequest.staged]
  staged := fun _ => ⟨q.transition, rfl, hnx⟩

theorem Bound.commitAt (hbd : Bound env e r) (sec : Nat) : Bound env e (r.commitAt sec) where
  key := hbd.key
  readable := hbd.readable
  bound := by simp [Record.commitAt]
  staged := fun hc => by cases hc

/-- Staging a new event puts it in focus. -/
theorem Rest.stage (hre : Rest env h) (hno : lookup e h.journal.inbound = none) (hbd : Bound env e r)
    (hstg : r.crypto = .staged) : Balanced env (some e) (put h (.record e r)) := by
  have he : e ∉ h.consumed := by
    intro he
    obtain ⟨r', hr', -⟩ := hre.settled he
    cases hno.symm.trans hr'
  exact hre.toBalanced.put_record hbd (fun _ _ hx => by cases hx) (fun hc => absurd hc he)
    (fun hc => by rw [hstg] at hc; cases hc) fun _ => .inr rfl

/-- Writing a record twice is writing it the second time. -/
theorem put_record_twice (h : History) (e : EventID) (r r' : Record) :
    put (put h (.record e r)) (.record e r') = put h (.record e r') := by
  simp [JournalWrite.consumes, insert_insert]

theorem put_record_session_record (h : History) (e : EventID) (r r' : Record) (p : SessionID) (s : SessionRecord) :
    puts h [.record e r, .session p s, .record e r'] = puts h [.session p s, .record e r'] := by
  simp [JournalWrite.consumes, insert_insert]

/-- A new event: the commitment ends at rest, and every write on the way leaves a crash point. -/
theorem Settlement.fresh {q : CommitRequest env} (hre : Rest env h)
    (hno : lookup q.entry.eventID h.journal.inbound = none)
    (hbd : Bound env q.entry.eventID q.staged.record)
    (hws : Settlement q (put h.journal (.record q.entry.eventID q.staged.record)) q.staged.record ws) :
    Rest env (puts h (.record q.entry.eventID q.staged.record :: ws)) ∧
      Throughout put (Recoverable env) h (.record q.entry.eventID q.staged.record :: ws) := by
  have hfoc := hre.stage hno hbd rfl
  have hnot : q.entry.eventID ∉ h.consumed := fun he => by
    obtain ⟨r, hr, -⟩ := hre.settled he
    cases hno.symm.trans hr
  simp only [throughout_cons]
  cases hws with
  | damaged hcur =>
    have hend : Rest env (put h (.record q.entry.eventID q.staged.record)) :=
      hre.put_record hbd (by simp [Entry.record, CommitRequest.staged, hnot]) fun _ => ⟨q.transition, _, rfl, hcur⟩
    exact ⟨hend, hre.recoverable, by simpa using hend.recoverable⟩
  | behind hcur hgen =>
    have hend : Rest env (put h (.record q.entry.eventID (q.staged.record.mark .abandoned))) :=
      hre.put_record (hbd.mark (by simp) (by simp)) (by simp [Record.mark, hnot]) (by simp [Record.mark])
    rw [← put_record_twice h _ q.staged.record] at hend
    refine ⟨hend, hre.recoverable, ?_⟩
    simp only [throughout_cons, throughout_nil]
    exact ⟨⟨_, hfoc⟩, hend.recoverable⟩
  | @advanced current hcur hgen =>
    -- staging wrote no session
    have hcur' : currentSession env h.journal q.sessionID = .ok current := hcur
    have hend := hre.settle (s := sessionBody current q.sessionID q.algorithm (succ64 q.expectedGeneration) q.next
      (some q.entry.eventID) q.authority q.now.toNat) hcur' rfl (hbd.commitAt q.now.toNat) rfl
    rw [← put_record_session_record h _ q.staged.record] at hend
    refine ⟨hend, hre.recoverable, ?_⟩
    simp only [throughout_cons, throughout_nil]
    refine ⟨⟨_, hfoc⟩, ⟨some q.entry.eventID, ?_⟩, hend.recoverable⟩
    exact hfoc.put_session hcur rfl (fun x hx => (Option.some.inj hx).symm)
      ((lookup_put_record _).trans (if_pos rfl)) rfl (.inr ⟨rfl, q.transition, rfl, rfl, rfl⟩)

/-- An event presented again: the commitment ends at rest. It leaves a crash point on the way unless
    the record is abandoned and the crash falls between the session's advance and the record's. -/
theorem Settlement.again {q : CommitRequest env} (hre : Rest env h)
    (hr : lookup q.entry.eventID h.journal.inbound = some r) (hop : r.crypto ≠ .committed)
    (hws : Settlement q h.journal r ws) :
    Rest env (puts h ws) ∧ ∀ k,
      (∀ current, r.crypto = .abandoned → currentSession env h.journal q.sessionID = .ok current →
        generationOf current = q.expectedGeneration → k ≠ 1) →
      Recoverable env (puts h (ws.take k)) := by
  have hbd := hre.bound hr
  have hnot : q.entry.eventID ∉ h.consumed := fun he => by
    obtain ⟨r', hr', hc⟩ := hre.settled he
    cases hr.symm.trans hr'
    exact hop hc
  cases hws with
  | damaged hcur => exact ⟨hre, fun k _ => by simpa using hre.recoverable⟩
  | behind hcur hgen =>
    have hend : Rest env (put h (.record q.entry.eventID (r.mark .abandoned))) :=
      hre.put_record (hbd.mark (by simp) (by simp)) (by simp [Record.mark, hnot]) (by simp [Record.mark])
    refine ⟨hend, fun k _ => ?_⟩
    cases k with
    | zero => exact hre.recoverable
    | succ k => simpa using hend.recoverable
  | @advanced current hcur hgen =>
    have hend := hre.settle (s := sessionBody current q.sessionID q.algorithm (succ64 q.expectedGeneration) q.next
      (some q.entry.eventID) q.authority q.now.toNat) hcur rfl (hbd.commitAt q.now.toNat) rfl
    refine ⟨hend, fun k huncut => ?_⟩
    match k with
    | 0 => exact hre.recoverable
    | 1 =>
      -- the session has advanced, the record has not: only a stuck record survives this
      have hstg : r.crypto = .staged := by
        cases hc : r.crypto with
        | staged => rfl
        | committed => exact absurd hc hop
        | unbound => exact absurd hc hbd.bound
        | abandoned => exact absurd rfl (huncut current hc hcur hgen)
      have hstuck := (hre.staged hr hstg).resolve_right (by simp)
      exact ⟨none, hre.toBalanced.put_session hcur rfl (fun x hx => by cases hx) hr hstg (.inl hstuck)⟩
    | k + 2 => simpa using hend.recoverable

/-- A crash does not cut the re-presentation of an abandoned event between its two writes. -/
def CommitRequest.Uncut (j : Journal) (k : Nat) : Prop :=
  ∀ r current, lookup q.entry.eventID j.inbound = some r → r.crypto = .abandoned →
    currentSession env j q.sessionID = .ok current → generationOf current = q.expectedGeneration → k ≠ 1

/-- **The inbound commitment.** -/
theorem commitInbound_rest (hre : Rest env h) : Rest env (puts h ((commitInbound q).writes h.journal)) ∧ ∀ k, q.Uncut
    h.journal k → Recoverable env (puts h (((commitInbound q).writes h.journal).take k)) := by
  have hidle : Rest env (puts h []) ∧ ∀ k, q.Uncut h.journal k → Recoverable env (puts h ([].take k)) :=
    ⟨hre, fun k _ => by simpa using hre.recoverable⟩
  unfold commitInbound
  rcases beginInbound_cases q h.journal with ⟨x, hbgn⟩ | ⟨hno, hnx, hrcv, hbgn⟩ | ⟨r, hrd, hbgn⟩
  · rw [Durable.writes, run_bind_error hbgn]
    exact hidle
  · rw [Durable.writes, run_bind_ok hbgn]
    obtain ⟨hend, hall⟩ := (settleInbound_settlement q _ true q.staged.record (.inl rfl)).fresh hre hno
      (q.bound_staged hnx hrcv)
    exact ⟨hend, fun k _ => hall k⟩
  rw [Durable.writes, run_bind_ok hbgn]
  have hr := (readRecord_ok.mp hrd).1
  by_cases hcom : r.crypto = .committed
  · have hnothing := writes_settleInbound_committed q h.journal hcom
    rw [show (settleInbound q false r (puts h.journal [])).1 = [] from hnothing]
    exact hidle
  obtain ⟨hend, hcut⟩ := (settleInbound_settlement q h.journal false r (.inr hcom)).again hre hr hcom
  refine ⟨hend, fun k huncut => hcut k fun current hc hcur hgen => ?_⟩
  exact huncut r current hr hc hcur hgen

end

/-! ## Runs -/

/-- What every state of a run satisfies: rest while a process owns the directory, a crash point
    while none does. -/
def Sound : Prop :=
  (d.running = true → Rest env d.history) ∧ (d.running = false → Recoverable env d.history)

/-- No crash cuts the re-presentation of an abandoned event between its two writes. -/
def Input.Uncut {env : Env} (d : Disk) : Input env → Prop
  | .request (.commitInbound q) (some k) => q.Uncut d.journal k
  | .request _ _ | .openJournal _ => True

section
variable {env : Env} {d : Disk}

theorem Sound.request {r : Request env} {crash : Option Nat} (hre : Rest env d.history)
    (huncut : Input.Uncut d (.request r crash)) :
    Sound env (d.apply (landed (r.writes d.journal) crash) crash.isNone) := by
  constructor
  · intro hru
    obtain rfl : crash = none := Option.isNone_iff_eq_none.mp hru
    rw [history_apply]
    by_cases hcmm : ∃ q, r = .commitInbound q
    · obtain ⟨q, rfl⟩ := hcmm
      exact (commitInbound_rest q hre).1
    · exact (hre.throughout_neutral (r.neutral fun q hq => hcmm ⟨q, hq⟩)).finish
  · intro hcrash
    obtain ⟨k, rfl⟩ : ∃ k, crash = some k := by
      cases crash with
      | none => cases hcrash
      | some k => exact ⟨k, rfl⟩
    rw [history_apply]
    by_cases hcmm : ∃ q, r = .commitInbound q
    · obtain ⟨q, rfl⟩ := hcmm
      exact (commitInbound_rest q hre).2 k huncut
    · exact (hre.throughout_neutral (r.neutral fun q hq => hcmm ⟨q, hq⟩) k).recoverable

theorem Sound.openJournal (crash : Option Nat) (hrec : Recoverable env d.history) :
    Sound env (d.apply (landed ((recoverStaged env).writes d.journal) crash)
      (crash.isNone && opens env d.journal)) := by
  obtain ⟨hall, hre⟩ := recoverStaged_recovers hrec
  constructor
  · intro hru
    obtain ⟨hno, hopens⟩ := Bool.and_eq_true_iff.mp hru
    obtain rfl : crash = none := Option.isNone_iff_eq_none.mp hno
    rw [history_apply]
    refine hre ?_
    unfold opens at hopens
    show (recoverStaged env).outcome d.journal = .ok ()
    cases hout : (recoverStaged env).outcome d.journal with
    | ok u => rfl
    | error x => rw [hout] at hopens; cases hopens
  · intro _
    rw [history_apply]
    cases crash with
    | none => exact hall.finish
    | some k => exact hall k

theorem Sound.step (i : Input env) (hsd : Sound env d) (huncut : i.Uncut d) : Sound env (d.step i) := by
  cases i with
  | request r crash =>
    unfold Disk.step
    split_ifs with hru
    · exact Sound.request (hsd.1 hru) huncut
    · exact hsd
  | openJournal crash =>
    unfold Disk.step
    split_ifs with hru
    · exact hsd
    · exact Sound.openJournal crash (hsd.2 (by simpa using hru))

end

/-- **Crash safety of the inbound commitment.** In every run that starts from an empty directory and
    in which no crash cuts the re-presentation of an abandoned event between its two writes, whoever
    owns the journal finds it faithful: the consumed events are committed and no other event is
    deliverable. -/
theorem inbound_commitment_crash_safe (env : Env) (is : List (Input env))
    (huncut : Along Disk.step (fun d i => i.Uncut d) Disk.fresh is)
    (hrunning : (run Disk.step Disk.fresh is).running = true) : Faithful (run Disk.step Disk.fresh is) := by
  have hfr : Sound env fresh := ⟨fun h => absurd h (by decide), fun _ => (rest_fresh env).recoverable⟩
  have hsd : Sound env (run Disk.step fresh is) :=
    huncut.invariant (fun d i hd hi => hd.step i hi) hfr
  exact (hsd.1 hrunning).faithful

/-- A new event whose commitment is cut after the session write, and finished by the recovery. -/
def crashRun : List (Input .plain) :=
  [.openJournal none,
   .request (.call (.putSession ⟨1⟩ ⟨"suite"⟩ [1] 5)) none,
   .request (.commitInbound (sampleCommit 7 .admitted 1)) (some 2),
   .openJournal none]

theorem crashRun_faithful : Faithful (run Disk.step Disk.fresh crashRun) :=
  inbound_commitment_crash_safe .plain crashRun ⟨trivial, trivial, fun _ _ _ _ _ _ => by decide, trivial, trivial⟩
    (by decide)

/-- The session exists, so the event is first abandoned at a stale generation; it is presented again
    at the current one, and the process dies after the session write. -/
def cutRun : List (Input .plain) :=
  [.openJournal none,
   .request (.call (.putSession ⟨1⟩ ⟨"suite"⟩ [1] 5)) none,
   .request (.commitInbound (sampleCommit 7 .admitted 0)) none,
   .request (.commitInbound (sampleCommit 7 .admitted 1)) (some 1),
   .openJournal none]

/-- After that run the journal is open, the event was consumed, and its record is abandoned. -/
theorem cutRun_loses_consumed_event :
    (run Disk.step Disk.fresh cutRun).running = true ∧ ¬ Faithful (run Disk.step Disk.fresh cutRun) := by
  refine ⟨by decide, fun hfaithful => ?_⟩
  have hcn : (⟨7⟩ : EventID) ∈ consumed (run Disk.step fresh cutRun).log := by
    have hany : (run Disk.step fresh cutRun).log.any (fun w => w.consumes = some ⟨7⟩) = true := by decide
    simpa [consumed] using hany
  have habandoned : (lookup ⟨7⟩ (run Disk.step fresh cutRun).journal.inbound).map Record.crypto =
      some .abandoned := by decide
  obtain ⟨r, hr, hc⟩ := (hfaithful ⟨7⟩).1 hcn
  rw [hr, Option.map_some, hc] at habandoned
  cases habandoned

end Messenger.Eventlog
