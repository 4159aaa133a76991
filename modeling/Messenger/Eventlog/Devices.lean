import Messenger.Eventlog.Negotiations
import Messenger.E2ee.Devices

/-!
# `Eventlog.Devices` — the device ledger

One record an endpoint: the device set accepted last, and the devices that ever left
(`pkg/eventlog/devices.go`). A set is judged and recorded in one operation.

What one call can do to a record is `acceptSet_cases`: nothing, or it writes the record of a first
sight, or it replaces the record by one that `Follows` it.
-/

namespace Messenger.Eventlog

open Lib Identity
open E2ee (Bundle SetSummary Succession succeed missingFrom)

def maxTombstones : Nat := 256

/-- What the installation remembers about one endpoint's devices. -/
structure DeviceRecord where
  endpointID : EndpointID
  setDigest : BitVec 256
  deviceIDs : List DeviceID
  bundleDigests : List (BitVec 256)
  newestIssuedAt : Nat
  tombstones : List DeviceID
  updatedAt : Nat
  deriving DecidableEq, Repr

/-- The set on record. -/
def DeviceRecord.summary (r : DeviceRecord) : SetSummary :=
  ⟨r.setDigest, r.endpointID, r.deviceIDs, r.bundleDigests, r.newestIssuedAt⟩

abbrev Devices := Dir EndpointID DeviceRecord

/-- How a device stands against the record. -/
inductive DeviceStanding where
  | current
  | revoked
  | unknown
  deriving DecidableEq, Repr

namespace Devices

def read (disk : Medium) (d : Devices) (endpointID : EndpointID) : Except Failure (Option DeviceRecord) := do
  failIf (¬disk.readable) "read device record"
  match lookup endpointID d with
  | none => pure none
  | some record =>
    failIf (record.endpointID ≠ endpointID) "device record describes another endpoint"
    pure (some record)

variable (c : Crypto) (disk : Medium) (endpointID : EndpointID)

/-- Judge a published set: the succession, and the record to write if anything changed. -/
def judgeSet (bundles : List Bundle) (now : Time) (d : Devices) : Except Failure
    (Succession × Option DeviceRecord) := do
  failIf (now < 0) "invalid time"
  let found ← d.read disk endpointID
  let tombstones := found.elim [] DeviceRecord.tombstones
  let succession ← succeed c (found.map DeviceRecord.summary) tombstones bundles
  failIf (succession.accepted.endpointID ≠ endpointID) "the set belongs to another endpoint"
  if found.any (·.setDigest = succession.accepted.digest) then
    -- nothing changed; nothing is rewritten and nothing is removed again
    pure (⟨succession.accepted, []⟩, none)
  else do
    failIf (maxTombstones < tombstones.length + succession.removed.length)
      "this peer has revoked more devices than a record may carry"
    pure (succession, some
      { endpointID := endpointID
        setDigest := succession.accepted.digest
        deviceIDs := succession.accepted.deviceIDs
        bundleDigests := succession.accepted.bundleDigests
        newestIssuedAt := succession.accepted.newestIssuedAt
        tombstones := tombstones ++ succession.removed
        updatedAt := now.toNat })

/-- Judge a published set and record it. -/
def acceptSet (bundles : List Bundle) (now : Time) (d : Devices) : Except Failure Succession × Devices :=
  match d.judgeSet c disk endpointID bundles now with
  | .error e => (.error e, d)
  | .ok (succession, none) => (.ok succession, d)
  | .ok (succession, some record) =>
    ((disk.written.result "commit event transition").map fun _ => succession,
      disk.written.put d (d.insert endpointID record))

/-- Classify one device claim. -/
def judge (d : Devices) (endpointID : EndpointID) (deviceID : DeviceID) : Except Failure DeviceStanding := do
  match ← d.read disk endpointID with
  | none => pure .unknown
  | some record =>
    if deviceID ∈ record.tombstones then pure .revoked
    else if deviceID ∈ record.deviceIDs then pure .current
    else pure .unknown

end Devices

/-! ## What one call can do -/

variable {c : Crypto} {d : Devices} {disk : Medium} {endpointID : EndpointID} {bundles : List Bundle} {now : Time}

/-- The record is that of a set, and none of its devices was ever removed. -/
structure DeviceRecord.Sound (c : Crypto) (endpointID : EndpointID) (bundles : List Bundle)
    (r : DeviceRecord) : Prop where
  endpoint : r.endpointID = endpointID
  summarizes : E2ee.summarize c bundles = .ok r.summary
  live : ∀ device ∈ r.deviceIDs, device ∉ r.tombstones

/-- The set of the first record can never be accepted over the second: one of its devices is
    revoked, or it is older. -/
def DeviceRecord.Behind (r r' : DeviceRecord) : Prop :=
  (∃ device ∈ r.deviceIDs, device ∈ r'.tombstones) ∨ r.newestIssuedAt < r'.newestIssuedAt

/-- **How a record may change.** Devices leave by being tombstoned, tombstones and the watermark
    only grow, and the set that was replaced is left behind. -/
structure DeviceRecord.Follows (r r' : DeviceRecord) : Prop where
  devices : ∀ device ∈ r.deviceIDs, device ∈ r'.deviceIDs ∨ device ∈ r'.tombstones
  tombstones : r.tombstones <+: r'.tombstones
  newest : r.newestIssuedAt ≤ r'.newestIssuedAt
  replaced : r' = r ∨ r.Behind r'

theorem Devices.read_ok {found : Option DeviceRecord} (h : d.read disk endpointID = .ok found) :
    lookup endpointID d = found ∧ ∀ r ∈ found, r.endpointID = endpointID := by
  obtain ⟨_, -, h⟩ := seq_ok.mp h
  cases hget : lookup endpointID d with
  | none =>
    simp only [hget] at h
    cases h
    exact ⟨rfl, fun _ hr => nomatch hr⟩
  | some record =>
    simp only [hget] at h
    obtain ⟨hept, h⟩ := failIf_then.mp h
    cases h
    refine ⟨rfl, ?_⟩
    intro r hr
    cases hr
    exact not_not.mp hept

theorem mem_missingFrom {cur next : List DeviceID} {device : DeviceID} :
    device ∈ missingFrom cur next ↔ device ∈ cur ∧ device ∉ next := by
  simp [missingFrom]

/-- A record that is written: it is sound for the set presented, and follows the one before it. -/
theorem Devices.judgeSet_record {s : Succession} {record : DeviceRecord}
    (h : d.judgeSet c disk endpointID bundles now = .ok (s, some record)) :
    record.Sound c endpointID bundles ∧ ∀ r ∈ lookup endpointID d, r.Follows record := by
  simp only [judgeSet, seq_ok] at h
  obtain ⟨_, -, found, hrd, succession, hsucceed, _, hept, h⟩ := h
  obtain ⟨hget, -⟩ := Devices.read_ok hrd
  have hept := not_not.mp (failIf_ok.mp hept)
  split_ifs at h with hunchanged
  · cases h
  obtain ⟨_, -, h⟩ := seq_ok.mp h
  cases h
  obtain ⟨hsu, hlv, hcases⟩ := E2ee.succeed_ok hsucceed
  have hsummary : E2ee.summarize c bundles = .ok ⟨s.accepted.digest, endpointID,
      s.accepted.deviceIDs, s.accepted.bundleDigests, s.accepted.newestIssuedAt⟩ := by
    rw [hsu, ← hept]
  rcases hcases with ⟨hrem, hsm⟩ | ⟨cur, hcur, -, hrem, hnewer, hbeh⟩
  · -- a first sight: with a record the digest would have been the recorded one
    have hno : found = none := by
      cases found with
      | none => rfl
      | some r =>
        refine absurd ?_ hunchanged
        exact decide_eq_true (hsm r.summary rfl).symm
    subst hno
    refine ⟨⟨rfl, hsummary, ?_⟩, ?_⟩
    · intro device hdev
      rw [hrem, List.append_nil]
      exact hlv device hdev
    intro r hr
    rw [hget] at hr
    cases hr
  · obtain ⟨r, rfl, rfl⟩ := Option.map_eq_some_iff.mp hcur
    refine ⟨⟨rfl, hsummary, ?_⟩, ?_⟩
    · intro device hdev hmem
      rcases List.mem_append.mp hmem with hold | hnew
      · exact hlv device hdev hold
      · rw [hrem] at hnew
        exact (mem_missingFrom.mp hnew).2 hdev
    intro r' hr'
    rw [hget] at hr'
    cases hr'
    refine ⟨?_, List.prefix_append _ _, hnewer, .inr ?_⟩
    · intro device hdev
      by_cases hkt : device ∈ s.accepted.deviceIDs
      · exact .inl hkt
      refine .inr (List.mem_append_right _ ?_)
      rw [hrem]
      exact mem_missingFrom.mpr ⟨hdev, hkt⟩
    rcases hbeh with hso | hfresh
    · -- some device left with this set
      obtain ⟨device, hdev⟩ := List.exists_mem_of_ne_nil _ hso
      refine .inl ⟨device, ?_, List.mem_append_right _ hdev⟩
      rw [hrem] at hdev
      exact (mem_missingFrom.mp hdev).1
    · exact .inr hfresh

/-- **What one call does.** -/
theorem Devices.acceptSet_cases (c : Crypto) (disk : Medium) (endpointID : EndpointID)
    (bundles : List Bundle) (now : Time) (d : Devices) :
    (d.acceptSet c disk endpointID bundles now).2 = d ∨
      ∃ s record, d.judgeSet c disk endpointID bundles now = .ok (s, some record) ∧
        (d.acceptSet c disk endpointID bundles now).2 = d.insert endpointID record ∧
        ((d.acceptSet c disk endpointID bundles now).1 = .ok s ∨ disk.written = .unacknowledged) := by
  unfold acceptSet
  cases hjdg : d.judgeSet c disk endpointID bundles now with
  | error e => exact .inl rfl
  | ok decision =>
    obtain ⟨s, record⟩ := decision
    cases record with
    | none => exact .inl rfl
    | some record =>
      cases hwrt : disk.written with
      | done => exact .inr ⟨s, record, rfl, rfl, .inl rfl⟩
      | refused => exact .inl rfl
      | unacknowledged => exact .inr ⟨s, record, rfl, rfl, .inr rfl⟩

end Messenger.Eventlog
