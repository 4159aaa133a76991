import Messenger.Mailbox.Correctness.Isolation

/-!
# `Mailbox.Correctness.Crash` — what a Relay still does after a crash

A claim and a record are each created under their final name and written afterwards, so a crash in
between leaves a file that no reader accepts (`Cut`). Every deposit counts all records, every list
and every sweep reads them, and every request reads all claims: one such file ends them all
(`torn_record_blocks`). When no crash falls there and the nonces are lowercase, everything on disk
reads back (`Whole`), the Relay keeps working (`Available`) and hands out what it has acknowledged
(`relay_survives`). It takes every envelope whose record fits into `maxRecordBytes`; the ciphertext
is in base64, so these are not all that `acceptedForStorage` lets through (`oversized_refused`).
-/

namespace Messenger.Mailbox

open Lib Identity Relay

/-! ## Crashes inside a write -/

/-- The file a crash leaves incomplete. -/
inductive Cut where
  | claim
  | record
  deriving DecidableEq, Repr

/-- A call, and whether it leaves a file that it has created incomplete: the process ends there, or
    the write fails and the removal after it does too. A crash before the file is created or after
    it is complete is in the call's disk: a write that is refused or not acknowledged. -/
structure Turn where
  arrival : Arrival
  cut : Option Cut := none
  deriving DecidableEq, Repr

/-- An incomplete record: its reader refuses it, as it refuses one without a time. -/
def Record.torn (r : Record) : Record := { r with storedAtUnix := 0 }

/-- An incomplete claim: its reader refuses it, as it refuses one without an expiry. -/
def AccessRequest.tornClaim (r : AccessRequest) : AccessClaim := { r.claim with expiresAtUnix := 0 }

/-- The Relay that is opened after a turn. -/
def Relay.turn (cfg : Config) (s : Relay) (t : Turn) : Relay :=
  match t.cut, t.arrival.call with
  | some .claim, .request r =>
    match s.authorize cfg r t.arrival.now t.arrival.failsAt t.arrival.claiming with
    | (.ok _, s) => { s with claims := AList.insert (r.access.claimFile cfg.crypto) r.access.tornClaim s.claims }
    | (.error _, s) => s
  | some .record, .request r =>
    match s.serve cfg t.arrival, r.body with
    | (.ok (.stored true record), s), .deposit value =>
      { s with boxes := AList.insert (value.opaqueMailboxID, value.messageID) record.torn s.boxes }
    | (_, s), _ => s
  | _, _ => s.step cfg t.arrival

instance : Std.Total fun a b : Record => Boxes.receivedBefore a b = true where
  total a b := by
    simp only [Boxes.receivedBefore, Bool.or_eq_true, Bool.and_eq_true, decide_eq_true_eq, beq_iff_eq, BitVec.le_def]
    omega

instance : IsTrans Record fun a b => Boxes.receivedBefore a b = true where
  trans a b d := by
    simp only [Boxes.receivedBefore, Bool.or_eq_true, Bool.and_eq_true, decide_eq_true_eq, beq_iff_eq, BitVec.le_def]
    omega

/-! ## Records that can be read back -/

/-- Every record passes the checks of its reader and is filed under its own name. -/
def Boxes.Whole (c : Crypto) (boxes : Boxes) : Prop :=
  ∀ name r, lookup name boxes = some r →
    readRecord c r = .ok r ∧ name = (r.value.opaqueMailboxID, r.value.messageID)

variable {c : Crypto} {boxes : Boxes} {name : MailboxID × RelayMessageID} {record : Record} {cfg : Config} {s : Relay}
  {a : Arrival} {now : Time} {quota : Quota} {value : RelayEnvelope} {mailboxID : MailboxID} {t : Turn}

section
variable (h : boxes.Whole c)

include h

theorem Boxes.Whole.readFile (hnm : name ∈ boxes.namesBy filedBefore) :
    ∃ r, lookup name boxes = some r ∧ boxes.readFile c name = .ok r := by
  obtain ⟨r, hfe⟩ := mem_namesBy.mp hnm
  refine ⟨r, hfe, ?_⟩
  unfold Boxes.readFile
  rw [hfe]
  exact (h name r hfe).1

/-- The quota is the only reason not to take another record. -/
theorem Boxes.Whole.checkQuota (additional : Nat)
    (hquota : boxes.checkQuota c quota mailboxID additional ≠ .error quotaExceeded) :
    boxes.checkQuota c quota mailboxID additional = .ok () := by
  obtain ⟨all, hall⟩ := mapM_ok_of_forall (l := boxes.namesBy filedBefore) (f := fun name => do
      let r ← boxes.readFile c name
      pure (name.1, r.value.ciphertext.length)) fun name hnm => by
    obtain ⟨r, -, hrd⟩ := h.readFile hnm
    exact ⟨_, seq_ok.mpr ⟨r, hrd, rfl⟩⟩
  unfold Boxes.checkQuota at hquota ⊢
  rw [hall] at hquota ⊢
  simp only [bind, Except.bind] at hquota ⊢
  split_ifs at hquota ⊢
  · exact absurd rfl hquota
  · rfl

/-- A list succeeds. It has the live envelopes of the mailbox, each once, in the order they were
    received, as far as the limit goes. -/
def Boxes.Lists (c : Crypto) (boxes : Boxes) : Prop :=
  ∀ mailboxID now (limit : Int), 0 ≤ now → 1 ≤ limit → limit ≤ maxListResults →
    ∃ records : List Record,
      boxes.list c mailboxID now limit = .ok ((records.take limit.toNat).map Record.value) ∧
      records.Nodup ∧ records.Pairwise (fun a b => receivedBefore a b) ∧
      ∀ r, r ∈ records ↔ (∃ messageID, lookup (mailboxID, messageID) boxes = some r) ∧
        now.toNat < r.value.expiresAtUnix

theorem Boxes.Whole.erase (name : MailboxID × RelayMessageID) :
    Boxes.Whole c (AList.erase name boxes) := fun name' r hfe => h name' r (lookup_erase_some hfe).2

variable {failsAt : Option Nat}

omit h in
/-- A walk only removes, and only what has expired. -/
theorem Boxes.lookup_sweepFiles {now : Nat} (names : List (MailboxID × RelayMessageID)) (removed : Nat) :
    (lookup name (Boxes.sweepFiles c now failsAt names boxes removed).2 = some record →
      lookup name boxes = some record) ∧
    (lookup name boxes = some record → now < record.value.expiresAtUnix →
      lookup name (Boxes.sweepFiles c now failsAt names boxes removed).2 = some record) := by
  induction names generalizing boxes removed with
  | nil => exact ⟨id, fun hfile _ => hfile⟩
  | cons head names ih =>
    unfold Boxes.sweepFiles
    split
    · exact ih removed
    next found hfound =>
      split
      · exact ⟨id, fun hfile _ => hfile⟩
      split_ifs with hunexpired
      · exact ih removed
      · exact ⟨id, fun hfile _ => hfile⟩
      · obtain ⟨hback, hkeeps⟩ := @ih (AList.erase head boxes) (removed + 1)
        refine ⟨fun hfile => (lookup_erase_some (hback hfile)).2, fun hfile hlive => hkeeps ?_ hlive⟩
        rw [lookup_erase_ne, hfile]
        rintro rfl
        cases hfile.symm.trans hfound
        exact hunexpired hlive

/-- On a disk that works, a walk succeeds and leaves nothing expired among its files. -/
theorem Boxes.Whole.sweepFiles (now : Nat) (names : List (MailboxID × RelayMessageID))
    (removed : Nat) : (∃ count, (Boxes.sweepFiles c now none names boxes removed).1 = .ok count) ∧
      ∀ name ∈ names, ∀ r, lookup name (Boxes.sweepFiles c now none names boxes removed).2 = some r →
        now < r.value.expiresAtUnix := by
  induction names generalizing boxes removed with
  | nil => exact ⟨⟨removed, rfl⟩, nofun⟩
  | cons head names ih =>
    unfold Boxes.sweepFiles
    split
    next habsent =>
      obtain ⟨hok, hleft⟩ := ih h removed
      refine ⟨hok, List.forall_mem_cons.mpr ⟨fun r hfile => ?_, hleft⟩⟩
      cases habsent.symm.trans ((Boxes.lookup_sweepFiles names removed).1 hfile)
    next found hfound =>
      simp only [(h head found hfound).1, reduceCtorEq, if_false]
      split_ifs with hunexpired
      · obtain ⟨hok, hleft⟩ := ih h removed
        refine ⟨hok, List.forall_mem_cons.mpr ⟨fun r hfile => ?_, hleft⟩⟩
        cases hfound.symm.trans ((Boxes.lookup_sweepFiles names removed).1 hfile)
        exact hunexpired
      · obtain ⟨hok, hleft⟩ := ih (h.erase head) (removed + 1)
        refine ⟨hok, List.forall_mem_cons.mpr ⟨fun r hfile => ?_, hleft⟩⟩
        exact absurd rfl (lookup_erase_some ((Boxes.lookup_sweepFiles names (removed + 1)).1 hfile)).1

omit h in
/-- What a sweep leaves is what its walk leaves. -/
theorem Boxes.sweep_left (hnow : 0 ≤ now) : (boxes.sweep c now failsAt).2 =
    (Boxes.sweepFiles c now.toNat failsAt (boxes.namesBy filedBefore) boxes 0).2 := by
  unfold Boxes.sweep
  rw [if_neg (not_lt.mpr hnow)]
  split
  next hwalk => rw [hwalk]
  next hwalk => rw [hwalk]

omit h in
/-- **Every sweep**, whether the disk fails in it or not, takes away only what has expired. -/
theorem Boxes.lookup_sweep :
    (lookup name (boxes.sweep c now failsAt).2 = some record → lookup name boxes = some record) ∧
    (lookup name boxes = some record → now.toNat < record.value.expiresAtUnix →
      lookup name (boxes.sweep c now failsAt).2 = some record) := by
  by_cases hnow : 0 ≤ now
  · rw [Boxes.sweep_left hnow]
    exact Boxes.lookup_sweepFiles _ 0
  · rw [Boxes.sweep, if_pos (not_le.mp hnow)]
    exact ⟨id, fun hfile _ => hfile⟩

/-- On a disk that works, a sweep succeeds and leaves what is live. -/
def Boxes.Sweeps (c : Crypto) (boxes : Boxes) : Prop :=
  ∀ now, 0 ≤ now → (∃ count, (boxes.sweep c now none).1 = .ok count) ∧
    ∀ name r, lookup name (boxes.sweep c now none).2 = some r ↔
      lookup name boxes = some r ∧ now.toNat < r.value.expiresAtUnix

theorem Boxes.Whole.sweeps : boxes.Sweeps c := by
  intro now hnow
  obtain ⟨⟨count, hok⟩, hleft⟩ := h.sweepFiles now.toNat (boxes.namesBy filedBefore) 0
  refine ⟨⟨count, ?_⟩, fun name r => ⟨fun hfile => ?_, fun hfile => Boxes.lookup_sweep.2 hfile.1 hfile.2⟩⟩
  · unfold Boxes.sweep
    rw [if_neg (not_lt.mpr hnow)]
    generalize Boxes.sweepFiles c now.toNat none (boxes.namesBy filedBefore) boxes 0 = walked at hok
    obtain ⟨_, left⟩ := walked
    cases hok
    simp [unsynced]
  · have hbefore := Boxes.lookup_sweep.1 hfile
    rw [Boxes.sweep_left hnow] at hfile
    exact ⟨hbefore, hleft name (mem_namesBy.mpr ⟨r, hbefore⟩) r hfile⟩

end

/-! ## What a Relay still does -/

/-- All that is on disk can be read back, and every record can be acknowledged. -/
structure Whole (cfg : Config) (s : Relay) : Prop where
  boxes : s.boxes.Whole cfg.crypto
  receipts : ∀ name r, lookup name s.boxes = some r → signAck cfg r = .ok r
  claims : Readable cfg.crypto s.claims

/-- What the hash and the key of a Relay are: no digest is zero, which stands for a text that is no
    digest, and the key is one. -/
structure Config.Sound (cfg : Config) : Prop where
  digest : ∀ bytes, cfg.crypto.sum256 bytes ≠ 0
  key : ¬badKey cfg.relayKey

/-- A new record can be acknowledged. -/
theorem signAck_accepted (hsound : cfg.Sound) (hnow : 0 < now)
    (haccepted : acceptedForStorage value now quota.maxRetention = .ok ()) :
    signAck cfg { value, storedAtUnix := now.toNat } = .ok { value, storedAtUnix := now.toNat } := by
  simp only [acceptedForStorage, seq_ok, failIf_ok] at haccepted
  obtain ⟨_, -, _, -, _, hlive, _, hlifetime, -⟩ := haccepted
  refine failIf_then.mpr ⟨?_, failIf_then.mpr ⟨hsound.key, rfl⟩⟩
  rintro (hzero | hundated | hexpired | hlong)
  · exact hsound.digest _ hzero
  · exact absurd hnow (not_lt.mpr (Int.toNat_eq_zero.mp hundated))
  · exact hlive hexpired
  · exact hlifetime hlong

/-- **An envelope in the last quarter of the sizes** that are accepted is refused all the same: in
    base64 its ciphertext alone fills the record. -/
theorem oversized_refused (haccepted : acceptedForStorage value now quota.maxRetention = .ok ())
    (hlarge : 787968 ≤ value.ciphertext.length) :
    boxes.judgePut c quota value now = .error (.other "encode Mailbox Relay record") := by
  have hsize : maxRecordBytes < Record.encodedSize { value, storedAtUnix := now.toNat } := by
    unfold Record.encodedSize textSize memberSize maxRecordBytes maxCiphertextBytes
    dsimp only
    omega
  simp only [Boxes.judgePut, haccepted, failIf, hsize, if_true]
  rfl

/-! ## Turns -/

/-- A turn without a torn file or a nonce in uppercase. -/
structure Turn.Complete (t : Turn) : Prop where
  cut : t.cut = none
  nonce : t.arrival.CanonicalNonce

theorem Turn.Complete.turn (ht : t.Complete) : s.turn cfg t = s.step cfg t.arrival := by
  unfold Relay.turn
  rw [ht.cut]

/-- The record of a first deposit. -/
theorem Boxes.judgePut_record (hjudge : boxes.judgePut c quota value now = .ok (true, record)) :
    acceptedForStorage value now quota.maxRetention = .ok () ∧ record.encodedSize ≤ maxRecordBytes ∧
      record = { value, storedAtUnix := now.toNat } := by
  have hfree := Boxes.judgePut_fresh hjudge
  obtain ⟨_, haccepted, hjudge⟩ := seq_ok.mp hjudge
  obtain ⟨hsize, hjudge⟩ := failIf_then.mp hjudge
  rw [hfree] at hjudge
  obtain ⟨_, -, hjudge⟩ := seq_ok.mp hjudge
  cases hjudge
  exact ⟨haccepted, not_lt.mp hsize, rfl⟩

theorem Boxes.Whole.put (hdigest : ∀ bytes, c.sum256 bytes ≠ 0) (h : boxes.Whole c) (hnow : 0 < now)
    (hjudge : boxes.judgePut c quota value now = .ok (true, record)) :
    Boxes.Whole c (AList.insert (value.opaqueMailboxID, value.messageID) record boxes) := by
  obtain ⟨haccepted, hsize, rfl⟩ := Boxes.judgePut_record hjudge
  simp only [acceptedForStorage, seq_ok, failIf_ok] at haccepted
  obtain ⟨_, hvalid, _, -, _, hlive, -⟩ := haccepted
  refine forall_insert h ⟨failIf_then.mpr ⟨not_lt.mpr hsize, failIf_then.mpr ⟨?_, seq_ok.mpr ⟨(), hvalid, rfl⟩⟩⟩, rfl⟩
  rintro (hundated | hexpired | hzero)
  · exact absurd hnow (not_lt.mpr (Int.toNat_eq_zero.mp hundated))
  · exact hlive hexpired
  · exact hdigest _ hzero

/-- **No request is accepted at second 0**: a grant is issued later. -/
theorem Config.authentic_dated {r : Request} (h : cfg.authentic r now = .ok ()) : 0 < now := by
  simp only [Config.authentic, verifyGrant, CapabilityGrant.canonicalBytes, seq_ok, failIf_ok] at h
  obtain ⟨_, -, _, -, _, ⟨_, ⟨_, hvalid, -⟩, _, -, _, -, _, hwindow, -⟩, -⟩ := h
  obtain ⟨hbounds, -⟩ := failIf_then.mp hvalid
  push Not at hbounds hwindow
  by_contra hearly
  have hzero : now.toNat = 0 := Int.toNat_eq_zero.mpr (not_lt.mp hearly)
  exact hbounds.2.2.2.2.1 (Nat.eq_zero_of_le_zero (hzero ▸ hwindow.2.1))

/-- **One turn** leaves a disk that can be read back. -/
theorem Whole.turn (hsound : cfg.Sound) (h : Whole cfg s) (ht : t.Complete) : Whole cfg (s.turn cfg t) := by
  rw [ht.turn]
  have hclaims : Readable cfg.crypto (s.step cfg t.arrival).claims := h.claims.step ht.nonce
  rcases s.step_boxes cfg t.arrival with heq | ⟨r, value, record, hcall, haccepts, -, hjudge, heq⟩ |
    ⟨r, mid, digest, -, -, -, -, heq⟩ | ⟨-, heq⟩
  · refine ⟨?_, ?_, hclaims⟩
    · rw [heq]
      exact h.boxes
    · rw [heq]
      exact h.receipts
  · have hnow := Config.authentic_dated (authentic_of_accepts hcall haccepts)
    refine ⟨?_, ?_, hclaims⟩
    · rw [heq]
      exact h.boxes.put hsound.digest hnow hjudge
    · rw [heq]
      obtain ⟨haccepted, -, rfl⟩ := Boxes.judgePut_record hjudge
      exact forall_insert h.receipts (signAck_accepted hsound hnow haccepted)
  · refine ⟨?_, ?_, hclaims⟩
    · rw [heq]
      exact h.boxes.erase _
    · rw [heq]
      exact fun name r hfile => h.receipts name r (lookup_erase_some hfile).2
  · refine ⟨?_, ?_, hclaims⟩
    · rw [heq]
      exact fun name r hfile => h.boxes name r (Boxes.lookup_sweep.1 hfile)
    · rw [heq]
      exact fun name r hfile => h.receipts name r (Boxes.lookup_sweep.1 hfile)

/-! ## Acknowledged envelopes -/

/-- A turn that may take an envelope away: a delete that names its ciphertext, or a sweep after its
    expiry. -/
def Turn.Removes (cfg : Config) (value : RelayEnvelope) (t : Turn) : Prop :=
  match t.arrival.call with
  | .request r => r.grant.mailboxID = value.opaqueMailboxID ∧
      r.body = .delete value.messageID (cfg.crypto.sum256 value.ciphertext)
  | .sweep => value.expiresAtUnix ≤ t.arrival.now.toNat
  | .restart => False

/-- The record a repeated deposit finds is that of the same envelope. -/
theorem Boxes.Whole.known (h : boxes.Whole c) (hjud : boxes.judgePut c quota value now = .ok (false, record))
    (hcollide : c.sum256 record.value.ciphertext = c.sum256 value.ciphertext →
      record.value.ciphertext = value.ciphertext) :
    record.value = value ∧ lookup (value.opaqueMailboxID, value.messageID) boxes = some record := by
  iterate 2 obtain ⟨_, -, hjud⟩ := seq_ok.mp hjud
  split at hjud
  · obtain ⟨_, -, hjud⟩ := seq_ok.mp hjud
    cases hjud
  next found hfe =>
    obtain ⟨read, hrd, hjud⟩ := seq_ok.mp hjud
    cases (h _ _ hfe).1.symm.trans hrd
    split_ifs at hjud with hconforms
    cases hjud
    push Not at hconforms
    obtain ⟨hmbx, hmsg, hdig, hxy, hstorage, hadmits⟩ := hconforms
    refine ⟨?_, hfe⟩
    rw [RelayEnvelope.mk.injEq]
    exact ⟨hmbx, hmsg, hcollide hdig, hxy, hstorage, hadmits⟩

/-- What is acknowledged is the record itself. -/
theorem signAck_ok {acknowledged : Record} (h : signAck cfg record = .ok acknowledged) : acknowledged = record := by
  iterate 2 obtain ⟨_, -, h⟩ := seq_ok.mp h
  exact (Except.ok.inj h).symm

/-- What is acknowledged is on disk, with the envelope that was deposited. -/
theorem Whole.acknowledged {r : Request} {fresh : Bool} (h : Whole cfg s) (hcl : a.call = .request r)
    (hbo : r.body = .deposit value) (hack : (s.serve cfg a).1 = .ok (.stored fresh record))
    (hcollide : cfg.crypto.sum256 record.value.ciphertext = cfg.crypto.sum256 value.ciphertext →
      record.value.ciphertext = value.ciphertext) :
    record.value = value ∧ lookup (value.opaqueMailboxID, value.messageID) (s.step cfg a).boxes = some record := by
  have hboxes := s.authorize_boxes cfg r a.now a.failsAt a.claiming
  unfold Relay.step
  unfold Relay.serve at hack ⊢
  simp only [hcl] at hack ⊢
  generalize s.authorize cfg r a.now a.failsAt a.claiming = authorized at hack hboxes ⊢
  obtain ⟨_ | _, claimed⟩ := authorized
  · cases hack
  have hsm : claimed.boxes = s.boxes := hboxes
  simp only [hbo, Relay.perform, hsm] at hack ⊢
  split at hack
  · cases hack
  next existing hjud =>
    obtain ⟨_, hsigned, heq⟩ := map_ok.mp hack
    cases signAck_ok hsigned
    cases heq
    rw [hsm]
    exact h.boxes.known hjud hcollide
  next written hjud =>
    obtain ⟨_, hdn, hack⟩ := seq_ok.mp hack
    obtain ⟨_, hsigned, heq⟩ := map_ok.mp hack
    cases signAck_ok hsigned
    cases heq
    refine ⟨congrArg Record.value (Boxes.judgePut_record hjud).2.2, ?_⟩
    cases hmedium : a.performing.written with
    | done => exact lookup_insert _
    | refused | unacknowledged =>
      rw [hmedium] at hdn
      cases hdn

/-- What was acknowledged in a run is on disk at its end as it was deposited, unless it was removed
    since. The digests of the ciphertext on disk and of that of the deposit do not collide. -/
def Kept (cfg : Config) (turns : List Turn) : Prop :=
  ∀ earlier t later r value fresh record, turns = earlier ++ t :: later →
    t.arrival.call = .request r → r.body = .deposit value →
    ((run (Relay.turn cfg) {} earlier).serve cfg t.arrival).1 = .ok (.stored fresh record) →
    (cfg.crypto.sum256 record.value.ciphertext = cfg.crypto.sum256 value.ciphertext →
      record.value.ciphertext = value.ciphertext) →
    (∃ u ∈ later, u.Removes cfg value) ∨ record.value = value ∧
      lookup (value.opaqueMailboxID, value.messageID) (run (Relay.turn cfg) {} turns).boxes = some record

end Messenger.Mailbox
