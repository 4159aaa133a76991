import Messenger.Directory.Descriptor
import Messenger.Eventlog.Devices
import Messenger.Lib.Run

/-!
# `Directory.Manager` — refreshed snapshots of peers

A refresh verifies a peer's delegation, locator, descriptor and prekeys at one instant and submits
the device set to the ledger (`pkg/directory/refresh.go`). The manager keeps the last snapshot of
each Agent until a deadline (`manager.go`).

Its lock covers only the cache read, the cache write and the deletion, so calls interleave between
them. A run is a list of `Turn`s: a call of `Ensure` reads the cache (`look`), starts its refresh,
completes it and writes the cache (`install`), each in a turn of its own. A refresh carries the
places in the run at which it started and completed. `Run` is calls of `Invalidate` and `Ensure` in
turn.
-/

namespace Messenger.Directory

open Lib Identity
open E2ee (Bundle Succession)
open Eventlog (Devices Medium)

/-- An instant, in nanoseconds. -/
abbrev Instant := Int

/-- The whole seconds of an instant. -/
def Instant.unix (now : Instant) : Time := now / 1000000000

inductive RefreshStage where
  | delegation
  | policy
  | locator
  | descriptor
  | prekeys
  deriving DecidableEq

/-- Why a refresh failed, and at which stage. -/
structure RefreshError where
  stage : Option RefreshStage
  failure : Failure
  deriving DecidableEq

def staged {α : Type} (stage : RefreshStage) (x : Except Failure α) : Except RefreshError α :=
  x.mapError fun e => ⟨some stage, e⟩

/-- What a source answers to one refresh. The delegation is what its document verifies to under
    finalized state. -/
structure Publication where
  delegation : Except Failure Authority
  policy : Except Failure DescriptorPolicy
  locator : Except Failure Locator
  descriptor : Except Failure Descriptor
  prekeys : Except Failure (List Bundle)

/-- The verified snapshot of one refresh. -/
structure RefreshResult where
  authority : Authority
  descriptor : Descriptor
  locator : Locator
  bundles : List Bundle
  succession : Succession
  refreshedAt : Instant

/-- The key a locator is published under exists. -/
def locatorKey (a : Authority) : Except Failure Unit :=
  failIf (a.delegation.identityPublicKey.length ≠ publicKeySize ∨ a.delegation.identityPublicKey.all (· = 0))
    "invalid endpoint public key"

/-- The part of a refresh that needs no ledger. -/
def verifyPublication (c : Crypto) (agentID : AgentID) (now : Time) (p : Publication) :
    Except RefreshError (Authority × Locator × Descriptor × List Bundle) := do
  let authority ← staged .delegation p.delegation
  staged .delegation (failIf (authority.delegation.agentID ≠ agentID) "source returned another Agent's delegation")
  let policy ← staged .policy p.policy
  staged .locator (locatorKey authority)
  let locator ← staged .locator p.locator
  staged .locator (verifyLocator c authority locator now)
  let descriptor ← staged .descriptor p.descriptor
  staged .descriptor (matchesDescriptor c locator descriptor)
  staged .descriptor (bind c authority descriptor policy now)
  let bundles ← staged .prekeys p.prekeys
  pure (authority, locator, descriptor, bundles)

/-- Submit a published set to succession, once it is bound to the delegation and the descriptor. -/
def admitPublishedSet (c : Crypto) (disk : Medium) (a : Authority) (committed : BitVec 256)
    (bundles : List Bundle) (now : Time) (d : Devices) : Except Failure Succession × Devices :=
  match bindBundleSet c a bundles committed now with
  | .error e => (.error e, d)
  | .ok () => d.acceptSet c disk a.delegation.endpointID bundles now

def refresh (c : Crypto) (agentID : AgentID) (now : Instant) (p : Publication) (disk : Medium)
    (d : Devices) : Except RefreshError RefreshResult × Devices :=
  match verifyPublication c agentID now.unix p with
  | .error e => (.error e, d)
  | .ok (authority, locator, descriptor, bundles) =>
    let (admitted, d') := admitPublishedSet c disk authority descriptor.prekeyBundleDigest bundles now.unix d
    (staged .prekeys admitted |>.map fun succession => ⟨authority, descriptor, locator, bundles, succession, now⟩, d')

/-- The expiry a snapshot is refreshed for: the descriptor's or the locator's, whichever comes
    first. -/
def RefreshResult.expiresAt (r : RefreshResult) : Nat := min r.descriptor.expiresAt r.locator.expiresAt

/-- When a snapshot is due for a refresh. -/
def refreshAt (r : RefreshResult) (lead : Int) : Except RefreshError Instant :=
  if lead < 0 then .error ⟨none, .other "refresh lead cannot be negative"⟩
  else if r.expiresAt = 0 then .error ⟨none, .other "refresh result has no expiry"⟩
  else .ok (max (r.expiresAt * 1000000000 - lead) r.refreshedAt)

/-! ## The manager -/

/-- A completed refresh, and when in the run it started and completed. -/
structure Refreshed where
  result : RefreshResult
  started : Nat
  completed : Nat

structure ManagedEntry where
  refreshed : Refreshed
  refreshAt : Instant

/-- Where a call of `Ensure` stands. An answer comes with the instant its call, or the refresh it
    made, read. -/
inductive Phase where
  | called
  | missed
  | refreshing (now : Instant) (started : Nat)
  | refreshed (r : Refreshed)
  | returned (answer : Except RefreshError (Instant × Refreshed))

structure Task where
  agentID : AgentID
  phase : Phase

/-- The manager, the ledger and the calls of `Ensure`, each under the place in the run at which it
    was made. The times of the last invalidation and of the last completed refresh of each Agent are
    kept for the statements. -/
structure State where
  entries : Dir AgentID ManagedEntry := ∅
  ledger : Devices := ∅
  tasks : Dir Nat Task := ∅
  turns : Nat := 0
  invalidated : Dir AgentID Nat := ∅
  completed : Dir AgentID Nat := ∅

inductive Turn where
  | call (agentID : AgentID)
  | look (ticket : Nat) (now : Instant)
  | start (ticket : Nat) (now : Instant)
  | admission (ticket : Nat) (p : Publication) (disk : Medium)
  | install (ticket : Nat)
  | invalidate (agentID : AgentID)

variable (c : Crypto) (lead : Int) (s : State) (ticket : Nat)

/-- One call moves on. -/
def State.moved (agentID : AgentID) (phase : Phase) : State :=
  { s with tasks := s.tasks.insert ticket ⟨agentID, phase⟩ }

/-- The cache read: a snapshot that is not due is the answer. -/
def State.look (agentID : AgentID) (now : Instant) : Phase :=
  match lookup agentID s.entries with
  | none => .missed
  | some entry => if now < entry.refreshAt then .returned (.ok (now, entry.refreshed)) else .missed

/-- The refresh reads its clock. -/
def State.start (now : Instant) : Phase :=
  if now.unix < 0 then .returned (.error ⟨none, .other "invalid refresh time"⟩) else .refreshing now s.turns

/-- The refresh completes, or fails. -/
def State.admission (agentID : AgentID) (now : Instant) (started : Nat) (p : Publication) (disk : Medium) : State :=
  match refresh c agentID now p disk s.ledger with
  | (.error e, d) => { s with ledger := d }.moved ticket agentID (.returned (.error e))
  | (.ok r, d) =>
    { s with ledger := d, completed := s.completed.insert agentID s.turns }.moved ticket agentID
      (.refreshed ⟨r, started, s.turns⟩)

/-- The cache write and the answer. -/
def State.install (agentID : AgentID) (r : Refreshed) : State :=
  match refreshAt r.result lead with
  | .error e => s.moved ticket agentID (.returned (.error e))
  | .ok deadline =>
    { s with entries := s.entries.insert agentID ⟨r, deadline⟩ }.moved ticket agentID
      (.returned (.ok (r.result.refreshedAt, r)))

/-- What a turn does, before it is counted. -/
def State.act : Turn → State
  | .call agentID => { s with tasks := s.tasks.insert s.turns ⟨agentID, .called⟩ }
  | .look ticket now =>
    match lookup ticket s.tasks with
    | some ⟨agentID, .called⟩ => s.moved ticket agentID (s.look agentID now)
    | _ => s
  | .start ticket now =>
    match lookup ticket s.tasks with
    | some ⟨agentID, .missed⟩ => s.moved ticket agentID (s.start now)
    | _ => s
  | .admission ticket p disk =>
    match lookup ticket s.tasks with
    | some ⟨agentID, .refreshing now started⟩ => s.admission c ticket agentID now started p disk
    | _ => s
  | .install ticket =>
    match lookup ticket s.tasks with
    | some ⟨agentID, .refreshed r⟩ => s.install lead ticket agentID r
    | _ => s
  | .invalidate agentID =>
    { s with entries := s.entries.erase agentID, invalidated := s.invalidated.insert agentID s.turns }

def step (turn : Turn) : State :=
  { s.act c lead turn with turns := s.turns + 1 }

/-- What a call of `Ensure` returned: for whom, for which instant, and from which refresh. -/
def State.answer : Option (AgentID × Instant × Refreshed) :=
  match lookup ticket s.tasks with
  | some ⟨agentID, .returned (.ok (now, r))⟩ => some (agentID, now, r)
  | _ => none

/-! ## What a refresh and a turn can do -/

theorem staged_ok {α : Type} {stage : RefreshStage} {x : Except Failure α} {a : α} :
    staged stage x = .ok a ↔ x = .ok a := by
  cases x with
  | error e => exact ⟨fun h => (by cases h), fun h => (by cases h)⟩
  | ok b => exact ⟨fun h => congrArg _ (Except.ok.inj h), fun h => congrArg _ (Except.ok.inj h)⟩

/-- Every object of the snapshot is inside its window. -/
structure RefreshResult.LiveAt (r : RefreshResult) (t : Time) : Prop where
  delegation : Live r.authority.delegation.notBefore r.authority.delegation.expiresAt t
  locator : Live r.locator.issuedAt r.locator.expiresAt t
  descriptor : Live r.descriptor.issuedAt r.descriptor.expiresAt t
  bundles : ∀ b ∈ r.bundles, Live b.issuedAt.toNat b.expiresAt.toNat t

/-- The bundles a source serves live until its descriptor or its locator has expired. -/
def Publication.covered (p : Publication) : Bool :=
  match p.locator, p.descriptor, p.prekeys with
  | .ok l, .ok d, .ok bundles => bundles.all fun b => min d.expiresAt l.expiresAt ≤ b.expiresAt.toNat
  | _, _, _ => true

/-- **A completed refresh**: everything is live at the instant it read, and the set went through the
    ledger. -/
structure Completes (now : Instant) (p : Publication) (disk : Medium) (d d' : Devices)
    (r : RefreshResult) : Prop where
  refreshedAt : r.refreshedAt = now
  live : r.LiveAt now.unix
  bounded : r.locator.expiresAt ≤ r.authority.delegation.expiresAt
  covered : p.covered → ∀ b ∈ r.bundles, r.expiresAt ≤ b.expiresAt.toNat
  accepted : d.acceptSet c disk r.authority.delegation.endpointID r.bundles now.unix = (.ok r.succession, d')

variable {c : Crypto} {agentID : AgentID} {now : Instant} {p : Publication} {disk : Medium} {d d' : Devices}

theorem refresh_ok {r : RefreshResult} (h : refresh c agentID now p disk d = (.ok r, d')) :
    Completes c now p disk d d' r := by
  unfold refresh at h
  split at h
  · cases h
  · next authority locator descriptor bundles hver =>
    simp only [verifyPublication, seq_ok] at hver
    obtain ⟨_, hauth, _, -, _, -, _, -, _, hloc, _, hpoint, _, hdescriptor, _, -, _, hbi, _, hprekeys, hver⟩ := hver
    cases hver
    obtain ⟨hdel, hlv, hbnd⟩ := verifyLocator_live (staged_ok.mp hpoint)
    unfold admitPublishedSet at h
    cases hset : bindBundleSet c authority bundles descriptor.prekeyBundleDigest now.unix with
    | error e =>
      rw [hset] at h
      cases h
    | ok u =>
      rw [hset] at h
      cases hacp : d.acceptSet c disk authority.delegation.endpointID bundles now.unix with
      | mk accepted after =>
        rw [hacp] at h
        cases accepted with
        | error e => cases h
        | ok succession =>
          cases h
          refine ⟨rfl, ⟨hdel, hlv, bind_live (staged_ok.mp hbi), bindBundleSet_live hset⟩, hbnd, ?_, hacp⟩
          intro hcvd b hb
          unfold Publication.covered at hcvd
          rw [staged_ok.mp hloc, staged_ok.mp hdescriptor, staged_ok.mp hprekeys] at hcvd
          exact of_decide_eq_true (List.all_eq_true.mp hcvd b hb)

theorem refreshAt_ok {r : RefreshResult} {lead : Int} {deadline : Instant} (h : refreshAt r lead = .ok deadline) :
    0 ≤ lead ∧ deadline = max (r.expiresAt * 1000000000 - lead) r.refreshedAt := by
  unfold refreshAt at h
  split_ifs at h with hlead hxs
  exact ⟨not_lt.mp hlead, (Except.ok.inj h).symm⟩

/-- **What a turn can do.** -/
inductive Acts (c : Crypto) (lead : Int) (s : State) : Turn → State → Prop where
  | idle (turn : Turn) : Acts c lead s turn s
  | called (agentID : AgentID) :
    Acts c lead s (.call agentID) { s with tasks := s.tasks.insert s.turns ⟨agentID, .called⟩ }
  | answered {ticket : Nat} {now : Instant} {agentID : AgentID} {entry : ManagedEntry}
    (htask : lookup ticket s.tasks = some ⟨agentID, .called⟩)
    (hentry : lookup agentID s.entries = some entry) (hnow : now < entry.refreshAt) :
    Acts c lead s (.look ticket now) (s.moved ticket agentID (.returned (.ok (now, entry.refreshed))))
  | passed {turn : Turn} {ticket : Nat} {agentID : AgentID} {was phase : Phase}
    (htask : lookup ticket s.tasks = some ⟨agentID, was⟩) (hwas : was = .called ∨ was = .missed)
    (hphase : phase = .missed ∨ ∃ e, phase = .returned (.error e)) :
    Acts c lead s turn (s.moved ticket agentID phase)
  | started {ticket : Nat} {now : Instant} {agentID : AgentID}
    (htask : lookup ticket s.tasks = some ⟨agentID, .missed⟩) :
    Acts c lead s (.start ticket now) (s.moved ticket agentID (.refreshing now s.turns))
  | failed {ticket started : Nat} {now : Instant} {agentID : AgentID} {p : Publication} {disk : Medium} {d : Devices}
    {e : RefreshError} (htask : lookup ticket s.tasks = some ⟨agentID, .refreshing now started⟩)
    (hrefresh : refresh c agentID now p disk s.ledger = (.error e, d)) :
    Acts c lead s (.admission ticket p disk) ({ s with ledger := d }.moved ticket agentID (.returned (.error e)))
  | completed {ticket started : Nat} {now : Instant} {agentID : AgentID} {p : Publication} {disk : Medium} {d : Devices}
    {r : RefreshResult} (htask : lookup ticket s.tasks = some ⟨agentID, .refreshing now started⟩)
    (hrefresh : Completes c now p disk s.ledger d r) :
    Acts c lead s (.admission ticket p disk)
      ({ s with ledger := d, completed := s.completed.insert agentID s.turns }.moved ticket agentID
        (.refreshed ⟨r, started, s.turns⟩))
  | rejected {ticket : Nat} {agentID : AgentID} {r : Refreshed} {e : RefreshError}
    (htask : lookup ticket s.tasks = some ⟨agentID, .refreshed r⟩) (hdeadline : refreshAt r.result lead = .error e) :
    Acts c lead s (.install ticket) (s.moved ticket agentID (.returned (.error e)))
  | installed {ticket : Nat} {agentID : AgentID} {r : Refreshed} {deadline : Instant}
    (htask : lookup ticket s.tasks = some ⟨agentID, .refreshed r⟩)
    (hdeadline : refreshAt r.result lead = .ok deadline) :
    Acts c lead s (.install ticket)
      ({ s with entries := s.entries.insert agentID ⟨r, deadline⟩ }.moved ticket agentID
        (.returned (.ok (r.result.refreshedAt, r))))
  | invalidated (agentID : AgentID) :
    Acts c lead s (.invalidate agentID)
      { s with entries := s.entries.erase agentID, invalidated := s.invalidated.insert agentID s.turns }

theorem act_acts (c : Crypto) (lead : Int) (s : State) (turn : Turn) : Acts c lead s turn (s.act c lead turn) := by
  cases turn with
  | call agentID => exact .called agentID
  | invalidate agentID => exact .invalidated agentID
  | look ticket now =>
    unfold State.act
    dsimp only
    split
    · next agentID htk =>
      unfold State.look
      split
      · exact .passed htk (.inl rfl) (.inl rfl)
      · next entry hent =>
        split_ifs with hnow
        · exact .answered htk hent hnow
        · exact .passed htk (.inl rfl) (.inl rfl)
    · exact .idle _
  | start ticket now =>
    unfold State.act
    dsimp only
    split
    · next agentID htk =>
      unfold State.start
      split_ifs
      · exact .passed htk (.inr rfl) (.inr ⟨_, rfl⟩)
      · exact .started htk
    · exact .idle _
  | admission ticket p disk =>
    unfold State.act
    dsimp only
    split
    · next agentID now started htk =>
      unfold State.admission
      split
      · next e d hrf => exact .failed htk hrf
      · next r d hrf => exact .completed htk (refresh_ok hrf)
    · exact .idle _
  | install ticket =>
    unfold State.act
    dsimp only
    split
    · next agentID r htk =>
      unfold State.install
      split
      · next e hrefresh => exact .rejected htk hrefresh
      · next deadline hrefresh => exact .installed htk hrefresh
    · exact .idle _

end Messenger.Directory
