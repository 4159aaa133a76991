import Messenger.OwnerControl.Journal

/-!
# `OwnerControl.Correctness.Atomic` — a commit that is interrupted, and the journal opened after it

`commitRecord` takes three file writes, a call of the authority and a removal. Here one operation of
these goes wrong: it fails, or the process ends before it. `Fault.fate` is what `commitRecord` makes
of that, and `reopen` opens the journal again.

Every such fault leaves the old or the new records, but for one slip: `writeJSONAtomic` drops the
errors of `Chmod` and `Encode`, and renames what was written so far. So a fault is recovered from
exactly when it cuts neither the record nor the manifest off (`fault_recovered`), as long as the
revision has a successor.
-/

namespace Messenger.OwnerControl

open Lib
open Eventlog (Written)

/-! ## Faults -/

/-- The operations of `writeJSONAtomic`, in their order. -/
inductive WriteStep where
  | create
  | chmod
  | encode
  | sync
  | close
  | rename
  | syncDirectory
  deriving DecidableEq, Repr

/-- `writeJSONAtomic`, by which of its operations fail. -/
def writeJSONAtomic (fails : WriteStep → Bool) : FileWrite :=
  if fails .create then { written := .refused }
  else
    -- `Chmod` and `Encode` report to an `err` of the inner scope, which is dropped with it
    let cut := fails .chmod || fails .encode
    if fails .sync || fails .close || fails .rename then { written := .refused }
    else { written := if fails .syncDirectory then .unacknowledged else .done, cut }

/-- The write of a file with one operation that fails, or before which the process ends. A rename
    that was not synced may be lost: that is the end before the rename. -/
def interrupted (step : WriteStep) (crash : Bool) : FileWrite :=
  if crash then { written := if step = .syncDirectory then .unacknowledged else .refused }
  else writeJSONAtomic (· = step)

inductive JournalFile where
  | pending
  | record
  | metadata
  deriving DecidableEq, Repr

/-- What goes wrong in a commit. But for the writes of files, an operation that fails and one that
    is not reached leave the same. -/
inductive Fault where
  /-- Whether there is a pending commit cannot be found out. -/
  | inspect
  | write (file : JournalFile) (step : WriteStep) (crash : Bool)
  /-- The authority's answer is an error. It may have moved on. -/
  | advance (took : Bool)
  | remove
  | syncRemoval
  deriving DecidableEq, Repr

/-- What the commit makes of a fault. -/
def Fault.fate : Fault → JournalFate
  | .inspect => { pending := { written := .refused } }
  | .write .pending step crash => { pending := interrupted step crash }
  | .write .record step crash => { record := interrupted step crash }
  | .write .metadata step crash => { metadata := interrupted step crash }
  | .advance took => { advance := if took then .unacknowledged else .refused }
  | .remove => { clear := .refused }
  | .syncRemoval => { clear := .unacknowledged }

/-- The file that was cut off. The commit goes on after it and removes the pending file, so a
    pending file that was cut off is gone. -/
def Fault.torn : Fault → Option JournalFile
  | .write .record step crash => if (interrupted step crash).cut then some .record else none
  | .write .metadata step crash => if (interrupted step crash).cut then some .metadata else none
  | _ => none

/-- Does the pending file stay? -/
def JournalFate.leavesPending (fate : JournalFate) : Bool :=
  fate.pending.written = .unacknowledged ∨
    fate.pending.written = .done ∧ (fate.advance ≠ .done ∨ fate.record.written ≠ .done ∨
      fate.metadata.written ≠ .done ∨ fate.clear = .refused)

/-! ## Opening again -/

variable (rules : Rules) (s : JournalState)

/-- An opening that nothing goes wrong with, and the authority's true word. -/
def honestly (m : Metadata) : OpenFate where
  installationID := m.installationID
  check := match s.disk.metadata with
    | none | some .torn => .ok ()
    | some (.whole found) => failIf (s.authority.revision ≠ found.revision ∨
        s.authority.commitment ≠ rules.metadataCommitment found) "journal authority disagrees"

/-- The journal is opened again, under the installation of `m`. -/
def reopen (m : Metadata) : JournalState :=
  openFileJournal rules { s with current := none } (honestly rules s m)

/-- The manifest, the records and the authority agree, and no commit is pending. -/
structure Agreed (disk : Disk) (authority : Authority) (m : Metadata) : Prop where
  installation : m.installationID.length = 32
  metadata : disk.metadata = some (.whole m)
  pending : disk.pending = none
  authority : authority = ⟨m.revision, rules.metadataCommitment m⟩
  records : ∀ key, (lookup key m.recordDigests).map some
    = (lookup key disk.records).map fun file => file.decode.map rules.recordDigest

/-- The state a fault leaves. -/
def afterFault (j : OpenJournal) (fault : Fault) (key : Key) (value : Record)
    (observed : TrustedTime) : JournalState :=
  (commitRecord rules s j fault.fate key value observed).2

/-- An open journal that agrees with its directory and authority, has the old or the new records,
    and whose time has not gone back. -/
def Restored (s t : JournalState) (m : Metadata) (key : Key) (value : Record) : Prop :=
  ∃ j, t.current = some j ∧ Agreed rules t.disk t.authority j.metadata ∧
    (t.disk.records = s.disk.records ∨ t.disk.records = s.disk.records.insert key (.whole value)) ∧
    m.trustedTimeEpoch ≤ j.metadata.trustedTimeEpoch ∧ m.trustedTimeHighWater ≤ j.metadata.trustedTimeHighWater

/-- **A fault is recovered from**: nothing that was cut off replaces a file, and the journal opens
    to the old or the new records. -/
def Recovers (j : OpenJournal) (fault : Fault) (key : Key) (value : Record) (observed : TrustedTime) : Prop :=
  (fault.torn = some .metadata → s.disk.metadata = none) ∧
    (fault.torn = some .record → lookup key s.disk.records = none) ∧
    Restored rules s (reopen rules (afterFault rules s j fault key value observed) j.metadata) j.metadata key value

/-! ## What a fault leaves -/

variable {rules : Rules} {s : JournalState} {j : OpenJournal} {key : Key} {value : Record} {observed : TrustedTime}
  {disk : Disk} {authority : Authority} {m : Metadata}

theorem Agreed.verified (h : Agreed rules disk authority m) : verifyTrackedRecords rules m disk = .ok () := by
  refine failIf_ok.mpr ?_
  rintro ⟨k, hk, hno⟩
  have htracked := h.records k
  obtain ⟨want, hwant⟩ := Option.isSome_iff_exists.mp (lookup_isSome.mpr hk)
  rw [hwant] at htracked
  obtain ⟨file, hfile, hdigest⟩ := Option.map_eq_some_iff.mp htracked.symm
  cases file with
  | torn => cases hdigest
  | whole r =>
    cases hdigest
    simp [readTracked, hwant, hfile, Except.toOption] at hno

/-- A commit that was carried through leaves agreement. -/
theorem Agreed.next (h : Agreed rules disk authority m) :
    Agreed rules ⟨some (.whole (m.next rules key value observed)), none, disk.records.insert key (.whole value)⟩
      ⟨succ64 m.revision, rules.metadataCommitment (m.next rules key value observed)⟩
        (m.next rules key value observed) where
  installation := h.installation
  metadata := rfl
  pending := rfl
  authority := rfl
  records := by
    intro k
    show (lookup k (m.recordDigests.insert key (rules.recordDigest value))).map some = _
    rw [lookup_insert_eq, lookup_insert_eq]
    split_ifs
    · rfl
    · exact h.records k

@[simp]
theorem Metadata.next_revision : (m.next rules key value observed).revision = succ64 m.revision := rfl

/-- A directory in which a commit is pending: each of its other effects was made or was not, in
    their order. -/
structure Halfway (rules : Rules) (s t : JournalState) (m : Metadata) (key : Key) (value : Record)
    (observed : TrustedTime) : Prop where
  pending : t.disk.pending = some (.whole (pendingOf rules m key value observed))
  records : t.disk.records = s.disk.records ∨ t.disk.records = s.disk.records.insert key (.whole value)
  moved : t.authority = s.authority ∧ t.disk.metadata = some (.whole m) ∨
    t.authority = ⟨succ64 m.revision, rules.metadataCommitment (m.next rules key value observed)⟩ ∧
      (t.disk.metadata = some (.whole m) ∨ t.disk.metadata = some (.whole (m.next rules key value observed)))

variable (key value observed) in
/-- **What a commit leaves**, however it goes, with files that are whole: nothing was done, all was,
    or the commit is pending. A pending file that was cut off is gone in the end. -/
theorem commitRecord_leaves (h : Agreed rules s.disk s.authority j.metadata) (fate : JournalFate)
    (hrecord : fate.record.cut = false) (hmetadata : fate.metadata.cut = false)
    (hpending : fate.pending.cut → fate.leavesPending = false) :
    let t := (commitRecord rules s j fate key value observed).2
    if fate.leavesPending then Halfway rules s t j.metadata key value observed
    else t.disk = s.disk ∧ t.authority = s.authority ∨
      t.disk = ⟨some (.whole (j.metadata.next rules key value observed)), none,
          s.disk.records.insert key (.whole value)⟩ ∧
        t.authority = ⟨succ64 j.metadata.revision,
          rules.metadataCommitment (j.metadata.next rules key value observed)⟩ := by
  obtain ⟨⟨_, _, records⟩, authority, current, opened⟩ := s
  obtain ⟨-, hmeta, hpn, rfl, -⟩ := h
  subst hmeta hpn
  obtain ⟨⟨pending, cut⟩, advance, ⟨record, _⟩, ⟨metadata, _⟩, clear⟩ := fate
  subst hrecord hmetadata
  -- the effects are made in this order, and the first that goes wrong is the last
  cases pending with
  | refused => exact .inl ⟨rfl, rfl⟩
  | unacknowledged =>
    obtain rfl : cut = false := eq_false_of_ne_true fun hcut => nomatch hpending hcut
    exact ⟨rfl, .inl rfl, .inl ⟨rfl, rfl⟩⟩
  | done =>
    simp only [commitRecord, Authority.compareAndAdvance, ne_eq, not_true_eq_false, if_false]
    cases cut with
    | true =>
      have hdone := hpending rfl
      simp only [JournalFate.leavesPending, decide_eq_false_iff_not] at hdone
      push Not at hdone
      obtain ⟨rfl, rfl, rfl, hclear⟩ := hdone.2 trivial
      cases clear with
      | refused => exact absurd rfl hclear
      | unacknowledged | done => exact .inr ⟨rfl, rfl⟩
    | false =>
      cases advance with
      | refused => exact ⟨rfl, .inl rfl, .inl ⟨rfl, rfl⟩⟩
      | unacknowledged => exact ⟨rfl, .inl rfl, .inr ⟨rfl, .inl rfl⟩⟩
      | done =>
        cases record with
        | refused => exact ⟨rfl, .inl rfl, .inr ⟨rfl, .inl rfl⟩⟩
        | unacknowledged => exact ⟨rfl, .inr rfl, .inr ⟨rfl, .inl rfl⟩⟩
        | done =>
          cases metadata with
          | refused => exact ⟨rfl, .inr rfl, .inr ⟨rfl, .inl rfl⟩⟩
          | unacknowledged => exact ⟨rfl, .inr rfl, .inr ⟨rfl, .inr rfl⟩⟩
          | done =>
            cases clear with
            | refused => exact ⟨rfl, .inr rfl, .inr ⟨rfl, .inr rfl⟩⟩
            | unacknowledged | done => exact .inr ⟨rfl, rfl⟩

/-! ## Opening again what a fault left -/

/-- Where all agrees, opening finds just that. -/
theorem reopen_agreed (h : Agreed rules s.disk s.authority m) {m₀ : Metadata}
    (hid : m.installationID = m₀.installationID) :
    reopen rules s m₀ = { s with current := some ⟨s.opened, m⟩, opened := s.opened + 1 } := by
  have hlen : m₀.installationID.length = 32 := hid ▸ h.installation
  have hvrf := h.verified
  simp [reopen, openFileJournal, honestly, hlen, openManifest, h.metadata, hid, reconcile,
    h.pending, h.authority, failIf, hvrf]
  rfl

theorem Agreed.restored {t : JournalState} {m₀ : Metadata} (h : Agreed rules t.disk t.authority m)
    (hid : m.installationID = m₀.installationID)
    (hrc : t.disk.records = s.disk.records ∨ t.disk.records = s.disk.records.insert key (.whole value))
    (hti : m₀.trustedTimeEpoch ≤ m.trustedTimeEpoch ∧ m₀.trustedTimeHighWater ≤ m.trustedTimeHighWater) :
    Restored rules s (reopen rules t m₀) m₀ key value := by
  rw [reopen_agreed h hid]
  exact ⟨_, rfl, h, hrc, hti⟩

/-- The manifest that is found beside a pending commit, and the authority that is moved on or has
    been already. -/
theorem Halfway.found {t : JournalState} (h : Agreed rules s.disk s.authority m)
    (hrm : m.revision < succ64 m.revision) (ht : Halfway rules s t m key value observed) :
    ∃ found, t.disk.metadata = some (.whole found) ∧ found.installationID = m.installationID ∧
      ¬(found.revision < m.revision ∨ succ64 m.revision < found.revision) ∧
      advancePending t .done found (pendingOf rules m key value observed) =
        (.ok (), ⟨succ64 m.revision, rules.metadataCommitment (m.next rules key value observed)⟩) := by
  rcases ht.moved with ⟨hauth, hfnd⟩ | ⟨hauth, hfnd | hfnd⟩
  · refine ⟨m, hfnd, rfl, by omega, ?_⟩
    simp [advancePending, pendingOf, hauth, h.authority, Authority.compareAndAdvance, Written.put]
  · refine ⟨m, hfnd, rfl, by omega, ?_⟩
    simp [advancePending, pendingOf, hauth, hrm.ne']
  · refine ⟨_, hfnd, rfl, by rw [Metadata.next_revision]; omega, ?_⟩
    simp [advancePending, pendingOf, hauth, hrm.ne']

/-- A pending commit whose revision is a successor is carried through. -/
theorem reopen_halfway {t : JournalState} (h : Agreed rules s.disk s.authority m)
    (hrm : m.revision < succ64 m.revision) (ht : Halfway rules s t m key value observed) :
    reopen rules t m =
      { disk := ⟨some (.whole (m.next rules key value observed)), none, s.disk.records.insert key (.whole value)⟩
        authority := ⟨succ64 m.revision, rules.metadataCommitment (m.next rules key value observed)⟩
        current := some ⟨t.opened, m.next rules key value observed⟩
        opened := t.opened + 1 } := by
  have hclosed : Halfway rules s { t with current := none } m key value observed := ⟨ht.pending, ht.records, ht.moved⟩
  obtain ⟨found, hfnd, hid, hrng, hadvance⟩ := hclosed.found h hrm
  dsimp only at hfnd
  have hinsert : t.disk.records.insert key (.whole value) = s.disk.records.insert key (.whole value) := by
    rcases ht.records with hrc | hrc
    · rw [hrc]
    · rw [hrc, insert_insert]
  have hvrf : verifyTrackedRecords rules (m.next rules key value observed)
      ⟨some (.whole (m.next rules key value observed)), none, s.disk.records.insert key (.whole value)⟩ = .ok () :=
    h.next.verified
  have hnx : (pendingOf rules m key value observed).nextMetadata.revision = succ64 m.revision := rfl
  have hpri : (pendingOf rules m key value observed).priorRevision = m.revision := rfl
  have hcmt : rules.metadataCommitment (pendingOf rules m key value observed).nextMetadata =
      (pendingOf rules m key value observed).commitment := rfl
  simp [reopen, openFileJournal, honestly, openManifest, hfnd, hid, h.installation, reconcile, ht.pending, hnx,
    hpri, hrng, hcmt, hadvance, carryThrough, FileWrite.put, FileWrite.file, Written.put]
  simp [pendingOf, hinsert, hvrf, Except.map]

/-- A pending commit at the last revision is taken for a corrupt one. -/
theorem reopen_wrapped {t : JournalState} (hid : m.installationID.length = 32) (hwp : succ64 m.revision < m.revision)
    (ht : Halfway rules s t m key value observed) : (reopen rules t m).current = none := by
  have hfnd : ∃ found, t.disk.metadata = some (.whole found) ∧ found.installationID = m.installationID ∧
      (found.revision < m.revision ∨ succ64 m.revision < found.revision) := by
    rcases ht.moved with ⟨-, hfnd⟩ | ⟨-, hfnd | hfnd⟩
    · exact ⟨m, hfnd, rfl, .inr hwp⟩
    · exact ⟨m, hfnd, rfl, .inr hwp⟩
    · exact ⟨_, hfnd, rfl, .inl hwp⟩
  obtain ⟨found, hmeta, hinstalled, hrng⟩ := hfnd
  simp [reopen, openFileJournal, honestly, openManifest, hmeta, hinstalled, hid, reconcile, ht.pending, pendingOf, hrng]

/-- A manifest or a tracked record that was cut off does not open. -/
theorem reopen_torn (key : Key) (hid : m.installationID.length = 32)
    (htorn : s.disk.metadata = some .torn ∨ s.disk.pending = none ∧ lookup key s.disk.records = some .torn ∧
      ∃ found, s.disk.metadata = some (.whole found) ∧ found.installationID = m.installationID ∧
        key ∈ found.recordDigests.keys) : (reopen rules s m).current = none := by
  rcases htorn with hmetadata | ⟨hpending, hrecord, found, hmetadata, hinstallation, htracked⟩
  · simp [reopen, openFileJournal, honestly, openManifest, hmetadata, hid]
  have hverify : verifyTrackedRecords rules found { s with current := none }.disk
      = .error (.other "journal manifest references missing record") := by
    refine if_pos ⟨key, htracked, ?_⟩
    simp [readTracked, hrecord, Except.toOption]
  simp only [reopen, openFileJournal, honestly, openManifest, hmetadata, hinstallation, hid, ne_eq,
    not_true_eq_false, if_false, reconcile, hpending]
  cases failIf (s.authority.revision ≠ found.revision ∨ s.authority.commitment ≠ rules.metadataCommitment found)
    "journal authority disagrees" with
  | error e => rfl
  | ok _ =>
    simp only [bind, Except.bind, hverify]
    rfl

/-- A file that was cut off stays in place, as the commit goes on and is done. -/
theorem Fault.torn_left (h : Agreed rules s.disk s.authority j.metadata) {fault : Fault} (htorn : fault.torn ≠ none) :
    (reopen rules (afterFault rules s j fault key value observed) j.metadata).current = none := by
  obtain ⟨⟨_, _, records⟩, authority, current, opened⟩ := s
  obtain ⟨hid, hmetadata, hpending, rfl, -⟩ := h
  subst hmetadata hpending
  have hcut : ∀ {step crash}, (interrupted step crash).cut → interrupted step crash = ⟨.done, true⟩ := by
    intro step crash
    cases step <;> cases crash <;> decide
  cases fault with
  | write file step crash =>
    cases file with
    | pending => exact absurd rfl htorn
    | record =>
      have hcut := hcut (by by_contra hcut; exact htorn (if_neg hcut))
      refine reopen_torn key hid (.inr ?_)
      simp [afterFault, Fault.fate, hcut, commitRecord, Authority.compareAndAdvance, carryThrough,
        FileWrite.put, FileWrite.file, Written.put, Metadata.next, lookup_insert]
    | metadata =>
      have hcut := hcut (by by_contra hcut; exact htorn (if_neg hcut))
      refine reopen_torn key hid (.inl ?_)
      simp [afterFault, Fault.fate, hcut, commitRecord, Authority.compareAndAdvance, carryThrough,
        FileWrite.put, FileWrite.file, Written.put]
  | _ => exact absurd rfl htorn

/-- A fault that leaves no file cut off meets the conditions of `commitRecord_leaves`. -/
theorem Fault.uncut {fault : Fault} (htorn : fault.torn = none) :
    fault.fate.record.cut = false ∧ fault.fate.metadata.cut = false ∧
      (fault.fate.pending.cut → fault.fate.leavesPending = false) := by
  cases fault with
  | write file step crash => cases file <;> cases step <;> cases crash <;> revert htorn <;> decide
  | advance took => cases took <;> decide
  | _ => decide

/-! ## The result -/

/-- **A fault is recovered from** exactly when it cuts neither the record nor the manifest off, and
    the commit it leaves pending has a next revision. -/
theorem fault_recovered (rules : Rules) (s : JournalState) (j : OpenJournal) (fault : Fault) (key : Key)
    (value : Record) (observed : TrustedTime) (hagreed : Agreed rules s.disk s.authority j.metadata)
    (htime : validateTrustedTime j.metadata observed = .ok ()) :
    Recovers rules s j fault key value observed ↔
      fault.torn = none ∧ (fault.fate.leavesPending → j.metadata.revision < succ64 j.metadata.revision) := by
  have hobserved := failIf_ok.mp htime
  push Not at hobserved
  obtain ⟨-, -, -, hepoch, hhigh⟩ := hobserved
  have hleaves := fun htorn : fault.torn = none =>
    commitRecord_leaves key value observed hagreed fault.fate (Fault.uncut htorn).1 (Fault.uncut htorn).2.1
      (Fault.uncut htorn).2.2
  constructor
  · rintro ⟨-, -, j', hopen, -⟩
    have hwhole : fault.torn = none := by
      by_contra htorn
      cases (Fault.torn_left hagreed htorn).symm.trans hopen
    refine ⟨hwhole, fun hpending => ?_⟩
    by_contra hlast
    have hhalfway := hleaves hwhole
    rw [if_pos hpending] at hhalfway
    have hwraps : succ64 j.metadata.revision < j.metadata.revision := by
      unfold succ64 wrap64 at *
      omega
    rw [afterFault, reopen_wrapped hagreed.installation hwraps hhalfway] at hopen
    exact nomatch hopen
  · rintro ⟨hwhole, hnext⟩
    have hleaves := hleaves hwhole
    rw [Recovers, hwhole]
    refine ⟨nofun, nofun, ?_⟩
    by_cases hpending : fault.fate.leavesPending
    · rw [if_pos hpending] at hleaves
      rw [afterFault, reopen_halfway hagreed (hnext hpending) hleaves]
      exact ⟨_, rfl, hagreed.next, .inr rfl, hepoch, hhigh⟩
    rw [if_neg hpending] at hleaves
    rcases hleaves with ⟨hdisk, hauthority⟩ | ⟨hdisk, hauthority⟩
    · refine Agreed.restored ?_ rfl (.inl (congrArg Disk.records hdisk)) ⟨le_refl _, le_refl _⟩
      rw [afterFault, hdisk, hauthority]
      exact hagreed
    refine Agreed.restored ?_ (m := j.metadata.next rules key value observed) rfl
      (.inr (congrArg Disk.records hdisk)) ⟨hepoch, hhigh⟩
    rw [afterFault, hdisk, hauthority]
    exact hagreed.next

/-! ## A first commit -/

theorem newState_agreed : Agreed sampleRules newState.disk newState.authority newJournal.metadata where
  installation := rfl
  metadata := rfl
  pending := rfl
  authority := rfl
  records := fun key => by simp [newJournal, newState, Metadata.empty]

def firstRecord : Record where
  principal := ⟨0, [], [], "", [], [], false⟩
  effect := ⟨0, [], [], "", [], [], [], [], [], 0, 0, 0, 0, []⟩
  attempt := ⟨[], [], [], [], [], 0, 0⟩
  evidence := ⟨[], [], [], [], []⟩
  authorizationHistory := []
  resolution := ⟨.prepared, [], none, [], [], 0, none, [], [], none, none, 0⟩

theorem fault_recovered_remove :
    validateTrustedTime newJournal.metadata firstTime = .ok () ∧
      Recovers sampleRules newState newJournal .remove firstKey firstRecord firstTime :=
  ⟨rfl, (fault_recovered sampleRules newState newJournal .remove firstKey firstRecord firstTime newState_agreed rfl).mpr
    ⟨rfl, fun _ => by decide⟩⟩

/-- The manifest cannot be encoded, the commit reports success, and the manifest in place is cut
    off: the journal does not open any more. -/
theorem dropped_encode_error :
    Agreed sampleRules newState.disk newState.authority newJournal.metadata ∧
      (commitRecord sampleRules newState newJournal (Fault.write .metadata .encode false).fate firstKey firstRecord
        firstTime).1 = .ok () ∧
      newState.disk.metadata.isSome ∧
      ¬Recovers sampleRules newState newJournal (.write .metadata .encode false) firstKey firstRecord firstTime := by
  refine ⟨newState_agreed, rfl, rfl, ?_⟩
  rintro ⟨-, -, j, hop, -⟩
  exact nomatch hop

end Messenger.OwnerControl
