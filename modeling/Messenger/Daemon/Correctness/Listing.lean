import Messenger.Daemon.Steps
import Messenger.Eventlog.Prune

/-!
# `Daemon.Correctness.Listing` — the runtime's listing and the runtime's claim

A runtime learns of events from `ListPending` and takes one with `ClaimForApplication` or one of its
variants by kind. The two gates were written separately: the listing checks the admission, the
cryptographic and the application dimension and the moderation ledger; the claim checks the
admission and the application dimension only.

`pendingOf_eq` and `claimForApplicationKind_ok` say what each gate asks for, and
`offered_iff_leasable` that they ask the same of the application dimension. In every reachable
state, pruned journals included, the difference is then exactly what `presentable` names: an event
that can be claimed is listed if and only if its record is deliverable and no moderation decision
hides it.
-/

namespace Messenger.Daemon

open Eventlog Lib

/-! ## The gates -/

variable (env : Env) (j : Journal) (eventID : EventID)

/-- An applied moderation decision hides the event. -/
def hidden : Bool :=
  match readModeration j eventID with
  | .ok decision => decision.action = .hide
  | .error _ => false

/-- What the listing asks of a record. -/
def waiting (seconds : Nat) (r : Record) : Bool :=
  r.admission = .admitted && r.deliverable && r.offered seconds && !hidden j r.eventID

/-- The listing asks of the application dimension what the claim asks of it. -/
theorem offered_iff_leasable (r : Record) (sec : Nat) : r.offered sec = true ↔ r.leasable sec = .ok () := by
  unfold Record.offered Record.leasable
  cases r.application with
  | queued => simp
  | claimed => by_cases h : sec < r.leaseExpiresAt <;> simp [h, Nat.not_lt.mp, Nat.not_le.mpr]
  | applied | rejected => simp

section
variable {env : Env} {j : Journal}
  (hmode : ∀ e d, lookup e j.moderation = some d → d.wellFormed e = true)

include hmode in
/-- A ledger of readable decisions never fails the listing. -/
theorem pendingOf_eq (sec : Nat) (rs : List Record) : pendingOf j sec rs = .ok (rs.filter (waiting j sec)) := by
  induction rs with
  | nil => rfl
  | cons r rs ih =>
    unfold pendingOf
    by_cases hgate : r.admission = .admitted ∧ r.deliverable = true ∧ r.offered sec = true
    · rw [if_pos hgate]
      cases hget : lookup r.eventID j.moderation with
      | none =>
        have hrd : readModeration j r.eventID = .error .notExist := readFile_notExist.mpr hget
        have hwa : waiting j sec r = true := by simp [waiting, hidden, hrd, hgate]
        rw [hrd, ih, List.filter_cons_of_pos hwa]
        rfl
      | some decision =>
        have hrd : readModeration j r.eventID = .ok decision :=
          readModeration_ok.mpr ⟨hget, hmode _ _ hget⟩
        rw [hrd, ih]
        by_cases hhide : decision.action = .hide
        · have hwa : ¬ waiting j sec r = true := by simp [waiting, hidden, hrd, hhide]
          rw [List.filter_cons_of_neg hwa]
          simp only [hhide, if_true]
        have hwa : waiting j sec r = true := by simp [waiting, hidden, hrd, hhide, hgate]
        rw [List.filter_cons_of_pos hwa]
        simp only [hhide, if_false]
        rfl
    · have hwa : ¬ waiting j sec r = true := by
        intro h
        simp only [waiting, Bool.and_eq_true, decide_eq_true_eq] at h
        exact hgate ⟨h.1.1.1, h.1.1.2, h.1.2⟩
      rw [if_neg hgate, ih, List.filter_cons_of_neg hwa]

/-- `ListPending` at `now` with no limit succeeds and has the event. -/
def Listed (env : Env) (j : Journal) (now : Time) (eventID : EventID) : Prop :=
  ∃ pending, listPending env j now 0 = .ok pending ∧ ∃ r ∈ pending, r.eventID = eventID

include hmode in
theorem listPending_eq {now : Time} (hnow : 0 ≤ now) : listPending env j now 0 =
    .ok (((readableRecords env j).filter (waiting j now.toNat)).insertionSort fun a b => a.before b) := by
  unfold listPending
  rw [if_neg (Int.not_lt.mpr hnow), pendingOf_eq hmode]
  rfl

include hmode in
theorem listed_iff (hrec : ∀ e r, lookup e j.inbound = some r → r.eventID = e) {now : Time}
    (hnow : 0 ≤ now) {eventID : EventID} :
    Listed env j now eventID ↔ ∃ r, readRecord env j eventID = .ok r ∧ waiting j now.toNat r = true := by
  unfold Listed
  rw [listPending_eq hmode hnow]
  constructor
  · rintro ⟨_, hpn, r, hr, hid⟩
    cases hpn
    rw [List.mem_insertionSort, List.mem_filter, mem_readableRecords] at hr
    obtain ⟨⟨path, hrd⟩, hwa⟩ := hr
    have hpa : r.eventID = path := hrec _ _ (readRecord_ok.mp hrd).1
    rw [← hid, hpa]
    exact ⟨r, hrd, hwa⟩
  · rintro ⟨r, hrd, hwa⟩
    refine ⟨_, rfl, r, ?_, hrec _ _ (readRecord_ok.mp hrd).1⟩
    rw [List.mem_insertionSort, List.mem_filter, mem_readableRecords]
    exact ⟨⟨eventID, hrd⟩, hwa⟩

/-- What a successful claim has checked. -/
theorem claimForApplicationKind_ok {eventID : EventID} {leaseID : LeaseID} {now : Time}
    {lease : Nat} {filter : KindFilter} {r' : Record}
    (h : (claimForApplicationKind env eventID leaseID now lease filter).outcome j = .ok r') :
    0 ≤ now ∧ ∃ r, readRecord env j eventID = .ok r ∧ r.admission = .admitted ∧ r.leasable now.toNat = .ok () := by
  unfold claimForApplicationKind at h
  split_ifs at h with hnow hls
  · cases h
  · cases h
  obtain ⟨r, hr, h⟩ := outcome_query_ok (run_knownRecord env eventID j) h
  obtain ⟨-, -, h⟩ := outcome_query_ok (Durable.run_lift _ j) h
  by_cases hadmitted : r.admission ≠ .admitted
  · rw [if_pos hadmitted] at h
    cases h
  rw [if_neg hadmitted] at h
  obtain ⟨_, hlsb, -⟩ := outcome_query_ok (Durable.run_lift _ j) h
  exact ⟨Int.not_lt.mp hnow, r, orUnknown_ok.mp hr, not_not.mp hadmitted, hlsb⟩

end

/-! ## The entry points -/

/-- The calls that hand an event to a runtime. -/
inductive ClaimEntry where
  | any
  | kind (kind : String)
  | kinds (kinds : List String)
  | exceptKind (kind : String)
  | exceptKinds (kinds : List String)

def ClaimEntry.claim (leaseID : LeaseID) (now : Time) (lease : Nat) : ClaimEntry → Region Record
  | .any => claimForApplication env eventID leaseID now lease
  | .kind k => claimForApplicationOfKind env eventID leaseID now lease k
  | .kinds ks => claimForApplicationKinds env eventID leaseID now lease ks
  | .exceptKind k => claimForApplicationExceptKind env eventID leaseID now lease k
  | .exceptKinds ks => claimForApplicationExceptKinds env eventID leaseID now lease ks

section
variable {env : Env} {j : Journal} {eventID : EventID} {leaseID : LeaseID} {now : Time} {lease : Nat} {r' : Record}

theorem claimForApplicationExceptKinds_ok {kinds : List String}
    (h : (claimForApplicationExceptKinds env eventID leaseID now lease kinds).outcome j = .ok r') :
    ∃ filter, (claimForApplicationKind env eventID leaseID now lease filter).outcome j = .ok r' := by
  obtain ⟨-, -, h⟩ := outcome_query_ok (Durable.run_lift _ j) h
  exact ⟨_, h⟩

/-- Every entry point goes through the one gate. -/
theorem ClaimEntry.claim_ok {entry : ClaimEntry} (h : (entry.claim env eventID leaseID now lease).outcome j = .ok r') :
    ∃ filter, (claimForApplicationKind env eventID leaseID now lease filter).outcome j = .ok r' := by
  cases entry with
  | any => exact ⟨_, h⟩
  | kind k =>
    simp only [ClaimEntry.claim, claimForApplicationOfKind] at h
    split_ifs at h
    · cases h
    · exact ⟨_, h⟩
  | kinds ks =>
    obtain ⟨-, -, h⟩ := outcome_query_ok (Durable.run_lift _ j) h
    exact ⟨_, h⟩
  | exceptKind k =>
    simp only [ClaimEntry.claim, claimForApplicationExceptKind] at h
    split_ifs at h
    · cases h
    · exact claimForApplicationExceptKinds_ok h
  | exceptKinds ks => exact claimForApplicationExceptKinds_ok h

end

/-! ## The difference -/

/-- What the listing asks and the claim does not: the stored record is deliverable and nothing hides
    the event. -/
def presentable : Bool :=
  match readRecord env j eventID with
  | .ok r => r.deliverable && !hidden j eventID
  | .error _ => false

/-- A move of the daemon, or a call of `Prune`, however its removals end. -/
inductive Happening (env : Env) where
  | move (m : Move env)
  | prune (now : Time) (retention : Duration) (disk : PruneDisk)

/-- Nothing is pruned while the journal is closed. -/
def World.happen {env : Env} (w : World env) : Happening env → World env
  | .move m => w.step m
  | .prune now retention disk =>
    if w.running then { w with journal := (prune env now retention disk w.journal).2 } else w

/-- A prune removes records, and leaves the decisions as they are. -/
theorem Keyed.happen {env : Env} {w : World env} (hw : Keyed w) (x : Happening env) : Keyed (w.happen x) := by
  cases x with
  | move m => exact hw.step m
  | prune now retention disk =>
    unfold World.happen
    split_ifs
    · refine { hw with record := ?_, moderation := ?_ }
      · intro e r hget
        rcases prune_inbound env now retention disk w.journal e with hsame | ⟨hnone, -⟩
        · exact hw.record (hsame.symm.trans hget)
        · cases hnone.symm.trans hget
      · intro e d hget
        rw [prune_moderation] at hget
        exact hw.moderation hget
    · exact hw

/-- **The claim against the listing.** In every reachable state, an event that an entry point hands
    to a runtime would have been listed just before exactly if it is presentable. -/
theorem claim_listed_iff_presentable (env : Env) (xs : List (Happening env)) (entry : ClaimEntry)
    (eventID : EventID) (leaseID : LeaseID) (now : Time) (lease : Nat)
    (hclaim : ((entry.claim env eventID leaseID now lease).outcome
      (run World.happen (World.fresh env) xs).journal).isOk = true) :
    Listed env (run World.happen (World.fresh env) xs).journal now eventID ↔
      presentable env (run World.happen (World.fresh env) xs).journal eventID = true := by
  have hkeyed : Keyed (run World.happen (World.fresh env) xs) :=
    run_invariant (fun _ x hw => hw.happen x) keyed_fresh xs
  generalize run World.happen (World.fresh env) xs = w at hclaim hkeyed ⊢
  obtain ⟨r', hr'⟩ : ∃ r', (entry.claim env eventID leaseID now lease).outcome w.journal = .ok r' := by
    cases hout : (entry.claim env eventID leaseID now lease).outcome w.journal with
    | ok r' => exact ⟨r', rfl⟩
    | error e => rw [hout] at hclaim; cases hclaim
  obtain ⟨filter, hfilter⟩ := ClaimEntry.claim_ok hr'
  obtain ⟨hnow, r, hrd, hadmitted, hlsb⟩ := claimForApplicationKind_ok hfilter
  have hoffered : r.offered now.toNat = true := (offered_iff_leasable r _).mpr hlsb
  have hid : r.eventID = eventID := hkeyed.record (readRecord_ok.mp hrd).1
  rw [listed_iff (fun _ _ => hkeyed.moderation) (fun _ _ => hkeyed.record) hnow]
  -- of the listing's four questions the claim has answered two
  have hgates : waiting w.journal now.toNat r = presentable env w.journal eventID := by
    simp [waiting, presentable, hrd, hadmitted, hoffered, hid]
  constructor
  · rintro ⟨r₀, hread₀, hwa⟩
    have hsm : r₀ = r := Except.ok.inj (hread₀.symm.trans hrd)
    rw [← hgates, ← hsm]
    exact hwa
  · intro hpresent
    exact ⟨r, hrd, hgates.trans hpresent⟩

/-- Two events are decrypted and committed, a runtime finishes one of them, and thirty days later it
    is pruned. -/
def deliveredRun : List (Happening .plain) :=
  [.move (.openJournal none),
   .move (.act (.beginInbound 0 (sampleCommit 7 .admitted 0)) none),
   .move (.act (.settleInbound 0) none),
   .move (.act (.beginInbound 1 (sampleCommit 8 .admitted 1)) none),
   .move (.act (.settleInbound 1) none),
   .move (.act (.call (.claim ⟨8⟩ ⟨1⟩ 30 60 {})) none),
   .move (.act (.call (.complete ⟨8⟩ ⟨1⟩ 40)) none),
   .prune 2592040 shortestRetention {}]

/-- The other event is claimed then, and was listed. -/
theorem deliveredRun_claim_listed :
    AList.lookup ⟨8⟩ (run World.happen (World.fresh .plain) deliveredRun).journal.inbound = none ∧
      presentable .plain (run World.happen (World.fresh .plain) deliveredRun).journal ⟨7⟩ = true ∧
      Listed .plain (run World.happen (World.fresh .plain) deliveredRun).journal 2592050 ⟨7⟩ := by
  have hpresentable :
      presentable .plain (run World.happen (World.fresh .plain) deliveredRun).journal ⟨7⟩ = true := by
    decide +kernel
  have hlisted := claim_listed_iff_presentable .plain deliveredRun .any ⟨7⟩ ⟨1⟩ 2592050 60 (by decide +kernel)
  exact ⟨by decide +kernel, hpresentable, hlisted.mpr hpresentable⟩

/-- An event whose session had moved on: its record is admitted and abandoned. -/
def abandonedRun : List (Happening .plain) :=
  [.move (.openJournal none),
   .move (.act (.call (.putSession ⟨1⟩ ⟨"suite"⟩ [1] 5)) none),
   .move (.act (.beginInbound 0 (sampleCommit 7 .admitted 0)) none),
   .move (.act (.settleInbound 0) none)]

/-- The abandoned event is handed to a runtime, and the listing is empty. -/
theorem abandonedRun_claims_unlisted :
    ((ClaimEntry.any.claim .plain ⟨7⟩ ⟨1⟩ 40 60).outcome
        (run World.happen (World.fresh .plain) abandonedRun).journal).isOk = true ∧
      (AList.lookup ⟨7⟩ (run World.happen (World.fresh .plain) abandonedRun).journal.inbound).map Record.crypto =
        some .abandoned ∧
      listPending .plain (run World.happen (World.fresh .plain) abandonedRun).journal 40 0 = .ok [] ∧
      ¬ Listed .plain (run World.happen (World.fresh .plain) abandonedRun).journal 40 ⟨7⟩ := by
  have hemp : listPending .plain (run World.happen (World.fresh .plain) abandonedRun).journal 40 0 = .ok [] := by
    rfl
  refine ⟨by decide, by decide, hemp, ?_⟩
  rintro ⟨pending, hpn, r, hr, -⟩
  cases hpn
  cases hr

end Messenger.Daemon
