import Messenger.Envelope.Event
import Messenger.Eventlog.Calls
import Messenger.Lib.Sweep

/-!
# `Eventlog.Prune` — removing records whose purpose has ended

One call sweeps the inbound records and then the deliveries (`pkg/eventlog/prune.go`). A finished
inbound record is removed once its receipt is a retention ago, a settled delivery once its
settlement is. A retention shorter than the longest an envelope may be held is refused.

`prune_inbound` says what a call can remove of the inbound records, and `prune_moderation` that
decisions stay.
-/

namespace Messenger.Eventlog

open Lib

/-- A `time.Duration`: nanoseconds in 64 bits. -/
structure Duration where
  nanoseconds : Int
  fits : -(2 : Int) ^ 63 ≤ nanoseconds ∧ nanoseconds < (2 : Int) ^ 63

/-- The floor of a retention, in seconds. -/
def minClaimRetention : Nat := Envelope.maxEnvelopeLifetimeSeconds

/-- The shortest retention that `Prune` takes. -/
def shortestRetention : Duration := ⟨minClaimRetention * 10 ^ 9, by decide⟩

/-- A duration in whole seconds. -/
def Duration.seconds (d : Duration) : Nat := (d.nanoseconds / 10 ^ 9).toNat

structure PruneReport where
  claimsRemoved : Nat
  deliveriesRemoved : Nat
  unreadable : List String
  deriving DecidableEq, Repr

/-- How the removals of a call end. -/
structure PruneDisk where
  removesRecord : EventID → Bool := fun _ => true
  removesDelivery : DeliveryPath → Bool := fun _ => true
  inboundSynced : Bool := true
  outboundSynced : Bool := true

/-- The file of a record named by 256 bits. -/
def fileName (digest : BitVec 256) : String := Canon.hexEncode (Canon.bigEndian 32 digest.toNat) ++ ".json"

variable (env : Env) (j : Journal)

/-- Is a claim's replay window closed? Unfinished work is kept at any age. -/
def judgeClaim (horizon seconds : Nat) (path : EventID) : Finding :=
  match readRecord env j path with
  | .error _ => .unreadable
  | .ok record =>
    if record.terminal ∧ wrap64 (record.receivedAt + horizon) ≤ seconds then .drop else .keep

/-- When a delivery was settled; one without a time counts from its creation. -/
def Delivery.settledOrCreatedAt (d : Delivery) : Nat := if d.settledAt = 0 then d.createdAt else d.settledAt

/-- Is a settled delivery old enough? Live work is kept at any age. -/
def judgeDelivery (horizon seconds : Nat) (path : DeliveryPath) : Finding :=
  match readDelivery j path with
  | .error _ => .unreadable
  | .ok delivery =>
    if (delivery.state = .delivered ∨ delivery.state = .abandoned) ∧
        wrap64 (delivery.settledOrCreatedAt + horizon) ≤ seconds then .drop
    else .keep

/-- How a sweep ends. -/
def sweepResult {κ α : Type} (s : Sweep κ α) (synced : Bool) : Except Failure Unit :=
  if s.stopped then .error (.other "remove event journal record")
  else if 0 < s.removed ∧ ¬synced then .error (.other "sync event journal directory")
  else .ok ()

/-- The sessions that do not read back; none is removed. -/
def unreadableSessions : List String :=
  ((Dir.names j.sessions).filter fun path => !(readSession env j path).toOption.isSome).map fun path =>
    fileName path.digest

/-- The report, with its names in order. -/
def pruneReport (claims : Sweep EventID Record) (deliveries : Sweep DeliveryPath Delivery) : PruneReport where
  claimsRemoved := claims.removed
  deliveriesRemoved := deliveries.removed
  unreadable := ((claims.unreadable.map fun path => fileName path.digest) ++
    (deliveries.unreadable.map fun path => fileName path.digest) ++ unreadableSessions env j).insertionSort (· ≤ ·)

/-- `Prune` -/
def prune (env : Env) (now : Time) (retention : Duration) (disk : PruneDisk) (j : Journal) :
    Except Failure PruneReport × Journal :=
  if now < 0 then (.error (.other "invalid prune time"), j)
  else if retention.nanoseconds < minClaimRetention * 10 ^ 9 then
    (.error (.other "retention is shorter than the replay window it must cover"), j)
  else
    let claims := sweep (judgeClaim env j retention.seconds now.toNat) disk.removesRecord j.inbound
    match sweepResult claims disk.inboundSynced with
    | .error e => (.error e, { j with inbound := claims.dir })
    | .ok _ =>
      let deliveries := sweep (judgeDelivery j retention.seconds now.toNat) disk.removesDelivery j.outbound
      ((sweepResult deliveries disk.outboundSynced).map fun _ => pruneReport env j claims deliveries,
        { j with inbound := claims.dir, outbound := deliveries.dir })

/-! ## What a call removes -/

variable {env : Env} {now : Time} {retention : Duration} {disk : PruneDisk} {j : Journal}

/-- An accepted retention, in seconds. -/
theorem Duration.seconds_ge {d : Duration} (h : ¬d.nanoseconds < (minClaimRetention : Int) * 10 ^ 9) :
    minClaimRetention ≤ d.seconds := by
  unfold Duration.seconds
  omega

/-- A duration is less than three hundred years. -/
theorem Duration.seconds_lt (d : Duration) : d.seconds < 2 ^ 34 := by
  have hft := d.fits.2
  unfold Duration.seconds
  omega

theorem judgeClaim_drop {horiz seconds : Nat} {path : EventID} (h : judgeClaim env j horiz seconds path = .drop) :
    ∃ r, readRecord env j path = .ok r ∧ r.terminal ∧ wrap64 (r.receivedAt + horiz) ≤ seconds := by
  unfold judgeClaim at h
  split at h
  · cases h
  · next r hrd =>
    split_ifs at h with hold
    exact ⟨r, hrd, hold⟩

/-- **What a call does to an inbound record.** It is as before, or it was finished and received a
    retention ago. -/
theorem prune_inbound (env : Env) (now : Time) (retention : Duration) (disk : PruneDisk) (j : Journal) (id : EventID) :
    lookup id (prune env now retention disk j).2.inbound = lookup id j.inbound ∨
      lookup id (prune env now retention disk j).2.inbound = none ∧ 0 ≤ now ∧
        minClaimRetention ≤ retention.seconds ∧
        ∃ r, lookup id j.inbound = some r ∧ r.terminal ∧ wrap64 (r.receivedAt + retention.seconds) ≤ now.toNat := by
  unfold prune
  split_ifs with hnow hret
  · exact .inl rfl
  · exact .inl rfl
  -- either way of ending leaves the swept directory
  have hswept : lookup id (sweep (judgeClaim env j retention.seconds now.toNat) disk.removesRecord j.inbound).dir
        = lookup id j.inbound ∨
      lookup id (sweep (judgeClaim env j retention.seconds now.toNat) disk.removesRecord j.inbound).dir = none ∧
        0 ≤ now ∧ minClaimRetention ≤ retention.seconds ∧
        ∃ r, lookup id j.inbound = some r ∧ r.terminal ∧ wrap64 (r.receivedAt + retention.seconds) ≤ now.toNat := by
    rcases sweep_lookup (judgeClaim env j retention.seconds now.toNat) disk.removesRecord j.inbound id with
      hsm | ⟨hno, hdrop⟩
    · exact .inl hsm
    · obtain ⟨r, hrd, hterm, hold⟩ := judgeClaim_drop hdrop
      exact .inr ⟨hno, not_lt.mp hnow, Duration.seconds_ge hret, r, (readRecord_ok.mp hrd).1, hterm, hold⟩
  dsimp only
  split
  · exact hswept
  · exact hswept

/-- Moderation decisions are never pruned. -/
theorem prune_moderation (env : Env) (now : Time) (retention : Duration) (disk : PruneDisk)
    (j : Journal) : (prune env now retention disk j).2.moderation = j.moderation := by
  unfold prune
  split_ifs
  · rfl
  · rfl
  dsimp only
  split <;> rfl

end Messenger.Eventlog
