import Messenger.Directory.Manager
import Messenger.Eventlog.Correctness.Devices

/-!
# `Directory.Snapshots` — what a manager's answers are worth

Two laws of the answers of `Ensure`, over every interleaving.

- **Windows.** A snapshot is kept until its descriptor or its locator is due, whatever its bundles
  say. Its objects are all inside their windows when it is answered (`snapshots_live`), provided the
  bundles a source serves outlive one of the two and no clock is behind the refresh it judges.
  Bundles that expire earlier are answered all the same (`expired_bundle_answered`).
- **Order.** A refresh runs outside the lock and writes the cache unconditionally. An answer
  reflects every invalidation and every removal of a device before its call (`answers_current`),
  provided no cache write is overtaken and no cache read falls between the completion of a refresh
  and its cache write. An overtaken write brings a removed device back (`removed_device_answered`).
-/

namespace Messenger.Directory

open Lib Identity
open E2ee (Bundle)
open Eventlog (Devices Medium)

variable {c : Crypto} {lead : Int} {s : State}

/-! ## Windows -/

/-- A snapshot that was verified at the instant it names, with bundles that outlive what it is
    refreshed for. -/
structure Fresh (r : RefreshResult) : Prop where
  live : r.LiveAt r.refreshedAt.unix
  bounded : r.locator.expiresAt ≤ r.authority.delegation.expiresAt
  covered : ∀ b ∈ r.bundles, r.expiresAt ≤ b.expiresAt.toNat

variable {now : Instant} {turn : Turn} {r : Refreshed} {ticket : Nat} {d d' : Devices} {p : Publication}
  {disk : Medium}

/-- A fresh snapshot is live from its refresh until it is due. -/
theorem Fresh.until_due {r : RefreshResult} (h : Fresh r) {deadline : Instant}
    (hdue : refreshAt r lead = .ok deadline) (hclk : r.refreshedAt ≤ now) (hnow : now < deadline) :
    r.LiveAt now.unix := by
  obtain ⟨hlead, hrefresh⟩ := refreshAt_ok hdue
  have hnow : now < r.expiresAt * 1000000000 - lead := by
    rcases lt_max_iff.mp (hrefresh ▸ hnow) with hlt | hlt
    · exact hlt
    · exact absurd hlt (not_lt.mpr hclk)
  have hle : r.refreshedAt.unix ≤ now.unix := Int.ediv_le_ediv (by decide) hclk
  have hpre : now.unix.toNat < r.expiresAt := by
    have hunix : now.unix < r.expiresAt :=
      Int.ediv_lt_of_lt_mul (by decide) (lt_of_lt_of_le hnow (sub_le_self _ hlead))
    exact (Int.toNat_lt (le_trans h.live.locator.1 hle)).mpr hunix
  have hloc : r.expiresAt ≤ r.locator.expiresAt := min_le_right _ _
  refine ⟨h.live.delegation.later hle ?_, h.live.locator.later hle ?_, h.live.descriptor.later hle ?_, ?_⟩
  · exact lt_of_lt_of_le hpre (le_trans hloc h.bounded)
  · exact lt_of_lt_of_le hpre hloc
  · exact lt_of_lt_of_le hpre (min_le_left _ _)
  · intro b hb
    exact (h.live.bundles b hb).later hle (lt_of_lt_of_le hpre (h.covered b hb))

/-- No clock is behind the refresh it judges, and the bundles a source serves outlive its descriptor
    or its locator. -/
def State.punctual (s : State) : Turn → Bool
  | .look ticket now =>
    (lookup ticket s.tasks).all fun task =>
      (lookup task.agentID s.entries).all fun entry => entry.refreshed.result.refreshedAt ≤ now
  | .admission _ p _ => p.covered
  | _ => true

def Phase.Lives : Phase → Prop
  | .refreshed r => Fresh r.result
  | .returned (.ok (t, r)) => r.result.LiveAt t.unix
  | _ => True

/-- Every snapshot in the cache is fresh, and every answer was live. -/
structure Lively (lead : Int) (s : State) : Prop where
  tasks : ∀ ticket task, lookup ticket s.tasks = some task → task.phase.Lives
  entries : ∀ agentID entry, lookup agentID s.entries = some entry →
    Fresh entry.refreshed.result ∧ refreshAt entry.refreshed.result lead = .ok entry.refreshAt

theorem Lively.step (h : Lively lead s) (htn : s.punctual turn) : Lively lead (Directory.step c lead s turn) := by
  suffices hact : ∀ {s' : State}, Acts c lead s turn s' → Lively lead s' from
    ⟨(hact (act_acts c lead s turn)).tasks, (hact (act_acts c lead s turn)).entries⟩
  intro s' hacts
  cases hacts with
  | idle => exact h
  | called agentID | started htk | failed htk hrf | rejected htk hrefresh =>
    exact ⟨forall_insert h.tasks trivial, h.entries⟩
  | @answered ticket now agentID entry htk hent hnow =>
    obtain ⟨hfr, hdue⟩ := h.entries agentID entry hent
    have hclk : entry.refreshed.result.refreshedAt ≤ now := by
      simpa only [State.punctual, htk, hent, Option.all_some, decide_eq_true_eq] using htn
    exact ⟨forall_insert h.tasks (hfr.until_due hdue hclk hnow), h.entries⟩
  | passed htk hwas hphase =>
    refine ⟨forall_insert h.tasks ?_, h.entries⟩
    rcases hphase with rfl | ⟨e, rfl⟩ <;> trivial
  | @completed ticket started now agentID p disk d r htk hrf =>
    refine ⟨forall_insert h.tasks ?_, h.entries⟩
    exact ⟨hrf.refreshedAt ▸ hrf.live, hrf.bounded, hrf.covered htn⟩
  | @installed ticket agentID r deadline htk hrefresh =>
    have hfr : Fresh r.result := h.tasks _ _ htk
    exact ⟨forall_insert h.tasks hfr.live, forall_insert h.entries ⟨hfr, hrefresh⟩⟩
  | invalidated agentID => exact ⟨h.tasks, fun agentID' entry hent => h.entries _ _ (lookup_erase_some hent).2⟩

theorem answer_eq_some {agentID : AgentID} {t : Instant} :
    s.answer ticket = some (agentID, t, r) ↔ lookup ticket s.tasks = some ⟨agentID, .returned (.ok (t, r))⟩ := by
  unfold State.answer
  split
  · next heq => rw [heq]; simp
  · next hoth =>
    refine ⟨fun h => (nomatch h), fun h => ?_⟩
    exact absurd h (hoth _ _ _)

/-- **An answered snapshot is live.** Cached or refreshed, its delegation, its locator, its
    descriptor and every bundle are inside their windows at the instant it is answered for. -/
theorem snapshots_live (c : Crypto) (lead : Int) (turns : List Turn)
    (h : Along (step c lead) (fun s turn => s.punctual turn) {} turns) (ticket : Nat) (agentID : AgentID) (t : Instant)
    (r : Refreshed) (hanswer : (run (step c lead) {} turns).answer ticket = some (agentID, t, r)) :
    r.result.LiveAt t.unix := by
  have hlively : Lively lead (run (step c lead) {} turns) := by
    refine h.invariant (fun s turn => Lively.step) ⟨?_, ?_⟩
    · exact fun _ _ h => nomatch h
    · exact fun _ _ h => nomatch h
  exact hlively.tasks _ _ (answer_eq_some.mp hanswer)

/-- What an endpoint publishes from second 10 to second 100. -/
def samplePublication (bundles : List Bundle) : Publication :=
  let descriptor := sampleDescriptor bundles 10 100
  { delegation := .ok (sampleAuthority (samplePolicy 1000))
    policy := .ok (samplePolicy 1000)
    locator := .ok ⟨⟨2⟩, (descriptorDigest lengths descriptor).toOption.getD 0, sampleAddress, 10,
      100, List.replicate 64 0⟩
    descriptor := .ok descriptor
    prekeys := .ok bundles }

/-- A snapshot is refreshed in second 10 and asked for again in second 60. -/
def askedTwice (bundles : List Bundle) : List Turn :=
  [.call ⟨1⟩, .look 0 10000000000, .start 0 10000000000, .admission 0 (samplePublication bundles) {}, .install 0,
    .call ⟨1⟩, .look 5 60000000000]

theorem snapshots_live_cached : ∃ agentID t r,
    (run (step lengths 0) {} (askedTwice [sampleBundle 1 10 100])).answer 5 = some (agentID, t, r) ∧
      r.result.LiveAt t.unix := by
  have hpunctual : Along (step lengths 0) (fun s turn => s.punctual turn) {} (askedTwice [sampleBundle 1 10 100]) := by
    decide +kernel
  have hso : ((run (step lengths 0) {} (askedTwice [sampleBundle 1 10 100])).answer 5).isSome := by decide +kernel
  obtain ⟨⟨agentID, t, r⟩, hans⟩ := Option.isSome_iff_exists.mp hso
  exact ⟨agentID, t, r, hans, snapshots_live lengths 0 _ hpunctual 5 agentID t r hans⟩

/-- A bundle that expires in second 50 is answered in second 60. -/
theorem expired_bundle_answered : ∃ agentID t r,
    (run (step lengths 0) {} (askedTwice [sampleBundle 1 10 50])).answer 5 = some (agentID, t, r) ∧
      ¬r.result.LiveAt t.unix := by
  have hexp : ((run (step lengths 0) {} (askedTwice [sampleBundle 1 10 50])).answer 5).any
      fun a => a.2.2.result.bundles.any fun b => b.expiresAt.toNat ≤ a.2.1.unix.toNat := by decide +kernel
  obtain ⟨⟨agentID, t, r⟩, hans, hbundle⟩ := (Option.any_eq_true _ _).mp hexp
  obtain ⟨b, hb, hlate⟩ := List.any_eq_true.mp hbundle
  refine ⟨agentID, t, r, hans, fun hlv => ?_⟩
  exact absurd (hlv.bundles b hb).2.2 (not_lt.mpr (of_decide_eq_true hlate))

/-! ## Order -/

/-- The snapshot is of the endpoint and lists the device. -/
def RefreshResult.Lists (r : RefreshResult) (endpointID : EndpointID) (device : DeviceID) : Prop :=
  r.authority.delegation.endpointID = endpointID ∧ ∃ b ∈ r.bundles, b.deviceID = device

/-- The device once was in the endpoint's set and has left it. -/
def Gone (endpointID : EndpointID) (device : DeviceID) (d : Devices) : Prop :=
  ∃ record, lookup endpointID d = some record ∧ device ∈ record.tombstones

variable {endpointID : EndpointID} {device : DeviceID} {agentID : AgentID} {n : Nat}

/-- A device that is gone stays gone. -/
theorem Gone.step (h : Gone endpointID device d) (call : Eventlog.DeviceCall) :
    Gone endpointID device (Devices.step c d call) := by
  obtain ⟨record, hrec, hto⟩ := h
  obtain ⟨record', hrecord', hfol⟩ := Devices.step_continues d call record hrec
  exact ⟨record', hrecord', hfol.tombstones.subset hto⟩

/-- It does so whatever the refresh ends in. -/
theorem Gone.refresh {answer : Except RefreshError RefreshResult} (h : Gone endpointID device d)
    (hrf : Directory.refresh c agentID now p disk d = (answer, d')) : Gone endpointID device d' := by
  have hd : d' = d ∨ ∃ call : Eventlog.DeviceCall, d' = Devices.step c d call := by
    unfold Directory.refresh at hrf
    split at hrf
    · exact .inl (congrArg Prod.snd hrf).symm
    · next authority locator descriptor bundles _ =>
      have hd : d' = (admitPublishedSet c disk authority descriptor.prekeyBundleDigest bundles now.unix d).2 :=
        (congrArg Prod.snd hrf).symm
      unfold admitPublishedSet at hd
      split at hd
      · exact .inl hd
      · exact .inr ⟨⟨authority.delegation.endpointID, bundles, now.unix, disk⟩, hd⟩
  rcases hd with rfl | ⟨call, rfl⟩
  · exact h
  · exact h.step call

theorem Gone.completes {r : RefreshResult} (h : Gone endpointID device d)
    (hrf : Completes c now p disk d d' r) : Gone endpointID device d' := by
  have hd : d' = Devices.step c d ⟨r.authority.delegation.endpointID, r.bundles, now.unix, disk⟩ :=
    (congrArg Prod.snd hrf.accepted).symm
  exact hd ▸ h.step _

/-- A refresh that completes lists no device that is gone by then. -/
theorem Completes.not_lists {r : RefreshResult} (h : Completes c now p disk d d' r)
    (hgo : Gone endpointID device d') : ¬r.Lists endpointID device := by
  rintro ⟨rfl, b, hb, rfl⟩
  obtain ⟨record, hrec, hto⟩ := hgo
  have hd : d' = (d.acceptSet c disk r.authority.delegation.endpointID r.bundles now.unix).2 :=
    (congrArg Prod.snd h.accepted).symm
  have hlst : ∀ {summary}, E2ee.summarize c r.bundles = .ok summary → b.deviceID ∈ summary.deviceIDs :=
    fun hsu => ((E2ee.summarize_ok hsu).2.2.1 _).mpr ⟨b, hb, rfl⟩
  rcases Devices.acceptSet_cases c disk r.authority.delegation.endpointID r.bundles now.unix d with
    hsm | ⟨s, record', hjdg, hinsert, -⟩
  · -- The record did not change, and the set was judged against it.
    rw [hd, hsm] at hrec
    have hacc := congrArg Prod.fst h.accepted
    unfold Devices.acceptSet at hacc
    cases hjdg : d.judgeSet c disk r.authority.delegation.endpointID r.bundles now.unix with
    | error e =>
      rw [hjdg] at hacc
      cases hacc
    | ok decision =>
      simp only [Devices.judgeSet, seq_ok] at hjdg
      obtain ⟨_, -, found, hrd, succession, hsucceed, -⟩ := hjdg
      obtain ⟨hget, -⟩ := Devices.read_ok hrd
      rw [hrec] at hget
      subst hget
      obtain ⟨hsu, hlv, -⟩ := E2ee.succeed_ok hsucceed
      exact hlv _ (hlst hsu) hto
  · obtain ⟨hsd, -⟩ := Devices.judgeSet_record hjdg
    rw [hd, hinsert, lookup_insert_eq, if_pos rfl] at hrec
    cases hrec
    exact hsd.live _ (hlst hsd.summarizes) hto

/-- Does a call for the Agent stand between its completed refresh and its cache write? -/
def State.pending (s : State) (agentID : AgentID) : Bool :=
  s.tasks.entries.any fun e =>
    match e.2.phase with
    | .refreshed _ => e.2.agentID = agentID
    | _ => false

theorem pending_of_lookup (h : lookup ticket s.tasks = some ⟨agentID, .refreshed r⟩) : s.pending agentID :=
  List.any_eq_true.mpr ⟨⟨ticket, _⟩, mem_lookup_iff.mp h, decide_eq_true rfl⟩

/-- No cache write is overtaken: since its refresh started the Agent was not invalidated, and no
    refresh of the Agent completed after it. No cache read falls between the completion of a refresh
    of the Agent and its cache write. -/
def State.orderly (s : State) : Turn → Bool
  | .look ticket _ => (lookup ticket s.tasks).all fun task => !s.pending task.agentID
  | .install ticket =>
    match lookup ticket s.tasks with
    | some ⟨agentID, .refreshed r⟩ =>
      (lookup agentID s.invalidated).all (· < r.started) &&
        (lookup agentID s.completed).all (· ≤ r.completed)
    | _ => true
  | _ => true

theorem orderly_install (h : s.orderly (.install ticket))
    (htk : lookup ticket s.tasks = some ⟨agentID, .refreshed r⟩) :
    (∀ m, lookup agentID s.invalidated = some m → m < r.started) ∧
      ∀ m, lookup agentID s.completed = some m → m ≤ r.completed := by
  simp only [State.orderly, htk, Bool.and_eq_true] at h
  refine ⟨fun m hm => ?_, fun m hm => ?_⟩
  · simpa only [hm, Option.all_some, decide_eq_true_eq] using h.1
  · simpa only [hm, Option.all_some, decide_eq_true_eq] using h.2

/-- A read or a write of one Agent's cell reads back there only. -/
theorem latest_insert {d : Dir AgentID Nat} {k : AgentID} {m : Nat} (hm : n ≤ m)
    (h : ∃ m, lookup agentID d = some m ∧ n ≤ m) :
    ∃ m', lookup agentID (AList.insert k m d) = some m' ∧ n ≤ m' := by
  rw [lookup_insert_eq]
  split_ifs
  · exact ⟨m, rfl, hm⟩
  · exact h

/-! ### After an invalidation -/

def Phase.After (n : Nat) : Phase → Prop
  | .refreshing _ started => n < started
  | .refreshed r => n < r.started
  | .returned (.ok (_, r)) => n < r.started
  | _ => True

/-- **Since an invalidation at turn `n`**, the cache and the later calls hold refreshes that started
    after it. -/
structure Renewed (n : Nat) (agentID : AgentID) (s : State) : Prop where
  turns : n < s.turns
  invalidated : ∃ m, lookup agentID s.invalidated = some m ∧ n ≤ m
  entries : ∀ agentID' entry, lookup agentID' s.entries = some entry → agentID' = agentID →
    n < entry.refreshed.started
  tasks : ∀ ticket task, lookup ticket s.tasks = some task → task.agentID = agentID → n < ticket →
    task.phase.After n

theorem Renewed.step (h : Renewed n agentID s) (htn : s.orderly turn) :
    Renewed n agentID (Directory.step c lead s turn) := by
  suffices hact : ∀ {s' : State}, Acts c lead s turn s' → Renewed n agentID { s' with turns := s.turns } from by
    have hmoved := hact (act_acts c lead s turn)
    exact ⟨Nat.lt_succ_of_lt h.turns, hmoved.invalidated, hmoved.entries, hmoved.tasks⟩
  intro s' hacts
  cases hacts with
  | idle => exact h
  | called agentID | failed htk hrf | rejected htk hrefresh =>
    exact { h with tasks := forall_insert h.tasks fun _ _ => trivial }
  | answered htk hent hnow =>
    exact { h with tasks := forall_insert h.tasks fun hagt _ => h.entries _ _ hent hagt }
  | passed htk hwas hphase =>
    refine { h with tasks := forall_insert h.tasks fun _ _ => ?_ }
    rcases hphase with rfl | ⟨e, rfl⟩ <;> trivial
  | started htk => exact { h with tasks := forall_insert h.tasks fun _ _ => h.turns }
  | completed htk hrf => exact { h with tasks := forall_insert h.tasks fun hagt htkt => (h.tasks _ _ htk hagt htkt :) }
  | installed htk hrefresh =>
    refine ⟨h.turns, h.invalidated, forall_insert h.entries ?_, ?_⟩
    · rintro rfl
      obtain ⟨m, hm, hle⟩ := h.invalidated
      exact lt_of_le_of_lt hle ((orderly_install htn htk).1 m hm)
    · exact forall_insert h.tasks fun hagt htkt => (h.tasks _ _ htk hagt htkt :)
  | invalidated agentID =>
    exact ⟨h.turns, latest_insert h.turns.le h.invalidated, fun _ _ hent => h.entries _ _ (lookup_erase_some hent).2,
      h.tasks⟩

/-! ### After a removal -/

/-- What is known of a completed refresh whose cache write is pending. -/
structure Pending (s : State) (agentID : AgentID) (r : Refreshed) : Prop where
  expires : 0 < r.result.expiresAt
  early : r.completed < s.turns
  latest : ∃ m, lookup agentID s.completed = some m ∧ r.completed ≤ m
  clean : r.completed + 1 = s.turns → ∀ {endpointID device}, Gone endpointID device s.ledger →
    ¬r.result.Lists endpointID device

/-- What holds of every run. A cache entry was written under a lead that is not negative. -/
structure Sane (lead : Int) (s : State) : Prop where
  lead : ∀ agentID entry, lookup agentID s.entries = some entry → 0 ≤ lead
  tasks : ∀ ticket task, lookup ticket s.tasks = some task →
    ticket < s.turns ∧ ∀ r, task.phase = .refreshed r → Pending s task.agentID r

/-- A refresh that was pending before a turn is no longer the last one to complete. -/
theorem Pending.later {s' : State} (h : Pending s agentID r) (hturns : s'.turns = s.turns + 1)
    (hcompleted : s'.completed = s.completed ∨ ∃ k, s'.completed = AList.insert k s.turns s.completed) :
    Pending s' agentID r := by
  have hearly := h.early
  refine ⟨h.expires, by omega, ?_, fun hla => by omega⟩
  rcases hcompleted with heq | ⟨k, heq⟩
  · rw [heq]
    exact h.latest
  · rw [heq]
    exact latest_insert h.early.le h.latest

theorem Sane.step (h : Sane lead s) : Sane lead (Directory.step c lead s turn) := by
  suffices hact : ∀ {s' : State}, Acts c lead s turn s' → Sane lead { s' with turns := s.turns + 1 } from
    hact (act_acts c lead s turn)
  intro s' hacts
  -- The calls that do not move in the turn.
  have hre : s'.completed = s.completed ∨ (∃ k, s'.completed = AList.insert k s.turns s.completed) →
      ∀ ticket task, lookup ticket s.tasks = some task → ticket < s.turns + 1 ∧
        ∀ r, task.phase = .refreshed r → Pending { s' with turns := s.turns + 1 } task.agentID r := by
    intro hcompleted ticket task htk
    obtain ⟨htkt, hpn⟩ := h.tasks ticket task htk
    exact ⟨Nat.lt_succ_of_lt htkt, fun r hr => (hpn r hr).later rfl hcompleted⟩
  cases hacts with
  | idle => exact ⟨h.lead, hre (.inl rfl)⟩
  | called agentID =>
    exact ⟨h.lead, forall_insert (hre (.inl rfl)) ⟨Nat.lt_succ_self _, fun _ hr => (nomatch hr)⟩⟩
  | answered htk hent hnow | started htk | failed htk hrf | rejected htk hrefresh =>
    exact ⟨h.lead, forall_insert (hre (.inl rfl)) ⟨(hre (.inl rfl) _ _ htk).1, fun _ hr => (nomatch hr)⟩⟩
  | passed htk hwas hphase =>
    refine ⟨h.lead, forall_insert (hre (.inl rfl)) ⟨(hre (.inl rfl) _ _ htk).1, fun _ hr => ?_⟩⟩
    rcases hphase with rfl | ⟨e, rfl⟩ <;> cases hr
  | @completed ticket started now agentID p disk d r htk hrf =>
    have hre := hre (.inr ⟨agentID, rfl⟩)
    refine ⟨h.lead, forall_insert hre ⟨(hre _ _ htk).1, fun _ hr => ?_⟩⟩
    cases hr
    have hxs : 0 < r.expiresAt := lt_min (Nat.zero_lt_of_lt hrf.live.descriptor.2.2)
      (Nat.zero_lt_of_lt hrf.live.locator.2.2)
    exact ⟨hxs, Nat.lt_succ_self _, ⟨_, lookup_insert _, le_refl _⟩, fun _ => hrf.not_lists⟩
  | installed htk hrefresh =>
    exact ⟨forall_insert h.lead (refreshAt_ok hrefresh).1,
      forall_insert (hre (.inl rfl)) ⟨(hre (.inl rfl) _ _ htk).1, fun _ hr => (nomatch hr)⟩⟩
  | invalidated agentID => exact ⟨fun _ _ hent => h.lead _ _ (lookup_erase_some hent).2, hre (.inl rfl)⟩

/-- With an entry in the cache, no cache write is rejected. -/
theorem Sane.not_rejected (h : Sane lead s) {entry : ManagedEntry} {task : Task} {e : RefreshError}
    (hent : lookup agentID s.entries = some entry) (htk : lookup ticket s.tasks = some task)
    (hphase : task.phase = .refreshed r) : refreshAt r.result lead ≠ .error e := by
  unfold refreshAt
  rw [if_neg (not_lt.mpr (h.lead _ _ hent)), if_neg ((h.tasks _ _ htk).2 r hphase).expires.ne']
  exact fun heq => nomatch heq

/-- Refreshes that completed at turn `n` or later, and answers to calls after it, do not list the
    device. -/
def Phase.Clean (n ticket : Nat) (endpointID : EndpointID) (device : DeviceID) : Phase → Prop
  | .refreshed r => (n < ticket → n ≤ r.completed) ∧ (n ≤ r.completed → ¬r.result.Lists endpointID device)
  | .returned (.ok (_, r)) => n < ticket → ¬r.result.Lists endpointID device
  | _ => True

/-- **Since a refresh of the Agent completed at turn `n`** with the device gone, a snapshot that
    lists the device can be in the cache only until the cache is written. -/
structure Removed (n : Nat) (agentID : AgentID) (endpointID : EndpointID) (device : DeviceID) (s : State) : Prop where
  turns : n < s.turns
  gone : Gone endpointID device s.ledger
  completed : ∃ m, lookup agentID s.completed = some m ∧ n ≤ m
  tasks : ∀ ticket task, lookup ticket s.tasks = some task → task.agentID = agentID →
    task.phase.Clean n ticket endpointID device
  entries : (∃ ticket r, lookup ticket s.tasks = some ⟨agentID, .refreshed r⟩) ∨
    ∀ agentID' entry, lookup agentID' s.entries = some entry → agentID' = agentID →
      ¬entry.refreshed.result.Lists endpointID device

/-- A call that is moved on from another phase leaves a pending cache write pending. -/
theorem refreshed_insert {task : Task} (hoth : ∀ r, lookup ticket s.tasks ≠ some ⟨agentID, .refreshed r⟩)
    (h : ∃ ticket' r, lookup ticket' s.tasks = some ⟨agentID, .refreshed r⟩) :
    ∃ ticket' r, lookup ticket' (AList.insert ticket task s.tasks) = some ⟨agentID, .refreshed r⟩ := by
  obtain ⟨ticket', r, hr⟩ := h
  refine ⟨ticket', r, ?_⟩
  rw [lookup_insert_ne]
  · exact hr
  · rintro rfl
    exact hoth r hr

theorem Removed.step (h : Removed n agentID endpointID device s) (hsane : Sane lead s) (htn : s.orderly turn) :
    Removed n agentID endpointID device (Directory.step c lead s turn) := by
  suffices hact : ∀ {s' : State}, Acts c lead s turn s' →
      Removed n agentID endpointID device { s' with turns := s.turns } from by
    have hmoved := hact (act_acts c lead s turn)
    exact ⟨Nat.lt_succ_of_lt h.turns, hmoved.gone, hmoved.completed, hmoved.tasks, hmoved.entries⟩
  -- A call in a phase other than the cache write moves on, and the cache stays.
  have hmove : ∀ {ticket : Nat} {agentID' : AgentID} {was phase : Phase},
      lookup ticket s.tasks = some ⟨agentID', was⟩ → (∀ r, was ≠ .refreshed r) →
      (agentID' = agentID → phase.Clean n ticket endpointID device) →
      Removed n agentID endpointID device (s.moved ticket agentID' phase) := by
    intro ticket agentID' was phase htk hwas hcln
    refine ⟨h.turns, h.gone, h.completed, forall_insert h.tasks hcln, h.entries.imp_left ?_⟩
    refine refreshed_insert fun r hr => ?_
    rw [htk] at hr
    exact hwas r (congrArg Task.phase (Option.some.inj hr))
  intro s' hacts
  cases hacts with
  | idle => exact h
  | called agentID' =>
    refine ⟨h.turns, h.gone, h.completed, forall_insert h.tasks fun _ => trivial, h.entries.imp_left ?_⟩
    refine refreshed_insert fun r hr => ?_
    exact lt_irrefl _ (hsane.tasks _ _ hr).1
  | @answered ticket now agentID' entry htk hent hnow =>
    refine hmove htk (fun _ hr => nomatch hr) ?_
    rintro rfl -
    -- The cache is read while no write is pending.
    rcases h.entries with ⟨ticket', r, hr⟩ | hcln
    · simp only [State.orderly, htk, Option.all_some, pending_of_lookup hr] at htn
      cases htn
    · exact hcln _ _ hent rfl
  | @passed _ ticket agentID' was phase htk hwas hphase =>
    refine hmove htk ?_ fun _ => ?_
    · rintro r rfl
      rcases hwas with heq | heq <;> cases heq
    · rcases hphase with rfl | ⟨e, rfl⟩ <;> trivial
  | started htk => exact hmove htk (fun _ hr => nomatch hr) fun _ => trivial
  | @failed ticket _ _ agentID' _ _ _ e htk hrf =>
    have hmoved : Removed n agentID endpointID device (s.moved ticket agentID' (.returned (.error e))) :=
      hmove htk (fun _ hr => nomatch hr) fun _ => trivial
    exact ⟨h.turns, h.gone.refresh hrf, hmoved.completed, hmoved.tasks, hmoved.entries⟩
  | @completed ticket started now agentID' p disk d r htk hrf =>
    have hmoved := hmove htk (fun _ hr => nomatch hr) fun _ =>
      show (Phase.refreshed ⟨r, started, s.turns⟩).Clean n ticket endpointID device from
        ⟨fun _ => h.turns.le, fun _ => hrf.not_lists (h.gone.completes hrf)⟩
    exact ⟨h.turns, h.gone.completes hrf, latest_insert h.turns.le h.completed, hmoved.tasks, hmoved.entries⟩
  | @rejected ticket agentID' r e htk hrefresh =>
    refine ⟨h.turns, h.gone, h.completed, forall_insert h.tasks fun _ => trivial, .inr ?_⟩
    intro agentID'' entry hent
    exact absurd hrefresh (hsane.not_rejected hent htk rfl)
  | @installed ticket agentID' r deadline htk hrefresh =>
    by_cases hagt : agentID' = agentID
    · subst hagt
      obtain ⟨m, hm, hle⟩ := h.completed
      have hlate : n ≤ r.completed := le_trans hle ((orderly_install htn htk).2 m hm)
      have hcln : ¬r.result.Lists endpointID device := (h.tasks _ _ htk rfl).2 hlate
      refine ⟨h.turns, h.gone, h.completed, forall_insert h.tasks fun _ _ => hcln, .inr ?_⟩
      intro agentID'' entry hent heq
      subst heq
      cases hent.symm.trans (lookup_insert _)
      exact hcln
    · refine ⟨h.turns, h.gone, h.completed, forall_insert h.tasks fun heq => absurd heq hagt, ?_⟩
      refine h.entries.imp (refreshed_insert fun r' hr' => ?_) fun hcln => forall_insert hcln fun heq => ?_
      · rw [htk] at hr'
        exact hagt (congrArg Task.agentID (Option.some.inj hr'))
      · exact absurd heq hagt
  | invalidated agentID' =>
    refine ⟨h.turns, h.gone, h.completed, h.tasks, h.entries.imp_right ?_⟩
    intro hcln agentID'' entry hent
    exact hcln _ _ (lookup_erase_some hent).2

/-! ### The law -/

theorem turns_run (c : Crypto) (lead : Int) (s : State) (turns : List Turn) :
    (run (step c lead) s turns).turns = s.turns + turns.length := by
  induction turns generalizing s with
  | nil => rfl
  | cons turn turns ih => rw [run_cons, ih, List.length_cons]; exact Nat.add_right_comm _ 1 _

/-- **An answer reflects what happened before its call.** If the Agent was invalidated before, the
    answer is from a refresh that started after that. If a refresh of the Agent completed before,
    the answer lists no device that had left by then. -/
theorem answers_current (c : Crypto) (lead : Int) (earlier : List Turn) (turn : Turn) (later : List Turn)
    (h : Along (step c lead) (fun s turn => s.orderly turn) {} (earlier ++ turn :: later)) (ticket : Nat)
    (hticket : earlier.length < ticket) (agentID : AgentID) (t : Instant) (r : Refreshed)
    (hanswer : (run (step c lead) {} (earlier ++ turn :: later)).answer ticket = some (agentID, t, r)) :
    (turn = .invalidate agentID → earlier.length < r.started) ∧
    ∀ ticket' r', AList.lookup ticket' (run (step c lead) {} (earlier ++ [turn])).tasks =
        some ⟨agentID, .refreshed r'⟩ → r'.completed = earlier.length →
      ∀ endpointID record device,
        AList.lookup endpointID (run (step c lead) {} (earlier ++ [turn])).ledger = some record →
        device ∈ record.tombstones → ¬r.result.Lists endpointID device := by
  rw [List.append_cons] at h hanswer
  obtain ⟨hearlier, hlat⟩ := (along_append _ _ _).mp h
  rw [run_append] at hanswer
  generalize hs : run (step c lead) {} (earlier ++ [turn]) = s at hlat hanswer ⊢
  have hturns : s.turns = earlier.length + 1 := by
    rw [← hs, turns_run, List.length_append]
    exact Nat.zero_add _
  have hsane : Sane lead s :=
    hs ▸ run_invariant (fun s turn => Sane.step) ⟨fun _ _ h => (nomatch h), fun _ _ h => (nomatch h)⟩ _
  have hpre : ∀ ticket task, lookup ticket s.tasks = some task → ¬earlier.length < ticket := by
    intro ticket task htk
    have := (hsane.tasks ticket task htk).1
    omega
  refine ⟨?_, ?_⟩
  · rintro rfl
    have hrenewed : Renewed earlier.length agentID s := by
      rw [run_append] at hs
      subst hs
      refine ⟨hturns ▸ Nat.lt_succ_self _, ⟨_, lookup_insert _, ?_⟩, ?_, ?_⟩
      · rw [turns_run]
        exact Nat.le_add_left _ _
      · exact fun agentID' entry hent heq => absurd heq (lookup_erase_some hent).1
      · exact fun ticket task htk _ hlt => absurd hlt (hpre ticket task htk)
    have hfin := hlat.invariant (fun s turn => Renewed.step) hrenewed
    exact hfin.tasks _ _ (answer_eq_some.mp hanswer) rfl hticket
  · intro ticket' r' hr' hcompleted endpointID record device hrec hto
    have hpn := (hsane.tasks _ _ hr').2 r' rfl
    have hrem : Removed earlier.length agentID endpointID device s := by
      refine ⟨hturns ▸ Nat.lt_succ_self _, ⟨record, hrec, hto⟩, hcompleted ▸ hpn.latest, ?_, .inl ⟨ticket', r', hr'⟩⟩
      rintro ticket ⟨_, phase⟩ htk rfl
      match phase, htk with
      | .refreshed r, htk =>
        refine ⟨fun hlt => absurd hlt (hpre _ _ htk), fun hle => ?_⟩
        have hr := (hsane.tasks _ _ htk).2 r rfl
        have hearly := hr.early
        exact hr.clean (by omega) ⟨record, hrec, hto⟩
      | .returned (.ok (_, r)), htk => exact fun hlt => absurd hlt (hpre _ _ htk)
      | .returned (.error _), _ => trivial
      | .called, _ => trivial
      | .missed, _ => trivial
      | .refreshing _ _, _ => trivial
    have hfin := hlat.invariant
      (I := fun s => Sane lead s ∧ Removed earlier.length agentID endpointID device s)
      (fun s turn hs htn => ⟨hs.1.step, hs.2.step hs.1 htn⟩) ⟨hsane, hrem⟩
    exact hfin.2.tasks _ _ (answer_eq_some.mp hanswer) rfl hticket

/-- A first refresh, with two devices. -/
def firstRefresh : List Turn :=
  [.call ⟨1⟩, .look 0 10000000000, .start 0 10000000000,
    .admission 0 (samplePublication [sampleBundle 1 10 100, sampleBundle 2 10 100]) {}, .install 0]

/-- The Agent is invalidated, and a second refresh completes without the first device. -/
def secondRefresh : List Turn := [.invalidate ⟨1⟩, .call ⟨1⟩, .look 6 20000000000, .start 6 20000000000]

def withoutFirst : Turn := .admission 6 (samplePublication [sampleBundle 2 10 100]) {}

/-- Another call finds the second refresh in the cache. -/
def cachedCall : List Turn := [.install 6, .call ⟨1⟩, .look 11 30000000000]

theorem renewing_run :
    Along (step lengths 0) (fun s turn => s.orderly turn) {}
        (firstRefresh ++ secondRefresh ++ withoutFirst :: cachedCall) ∧
      ((run (step lengths 0) {} (firstRefresh ++ secondRefresh ++ withoutFirst :: cachedCall)).answer 11).any
        (fun a => a.1 = ⟨1⟩) ∧
      (AList.lookup 6 (run (step lengths 0) {} (firstRefresh ++ secondRefresh ++ [withoutFirst])).tasks).any
        (fun task => task.agentID = ⟨1⟩ && match task.phase with
          | .refreshed r => r.completed = 9
          | _ => false) ∧
      (AList.lookup ⟨2⟩ (run (step lengths 0) {} (firstRefresh ++ secondRefresh ++ [withoutFirst])).ledger).any
        (⟨1⟩ ∈ ·.tombstones) := by
  decide +kernel

/-- The last call is answered from the second refresh, without the device that left. -/
theorem answers_current_renewed : ∃ agentID t r,
    (run (step lengths 0) {} (firstRefresh ++ secondRefresh ++ withoutFirst :: cachedCall)).answer 11 =
      some (agentID, t, r) ∧
    5 < r.started ∧ ¬r.result.Lists ⟨2⟩ ⟨1⟩ ∧
    Gone ⟨2⟩ ⟨1⟩ (run (step lengths 0) {} (firstRefresh ++ secondRefresh ++ [withoutFirst])).ledger := by
  obtain ⟨horderly, hanswered, hcompleted, hgone⟩ := renewing_run
  obtain ⟨second, hsecond, hlength⟩ : ∃ second, secondRefresh = .invalidate ⟨1⟩ :: second ∧ second.length = 3 :=
    ⟨_, rfl, rfl⟩
  have hfirst : firstRefresh.length = 5 := rfl
  rw [hsecond] at horderly hanswered hcompleted hgone ⊢
  -- nothing below computes with the turns
  generalize firstRefresh = first at *
  generalize withoutFirst = admission at *
  generalize cachedCall = later at *
  obtain ⟨⟨agentID, t, r⟩, hanswer, hagent⟩ := (Option.any_eq_true _ _).mp hanswered
  obtain ⟨⟨agentID', phase⟩, htask, hphase⟩ := (Option.any_eq_true _ _).mp hcompleted
  obtain ⟨record, hrecord, hleft⟩ := (Option.any_eq_true _ _).mp hgone
  simp only [Bool.and_eq_true, decide_eq_true_eq] at hagent hphase hleft
  subst hagent
  obtain ⟨rfl, hphase⟩ := hphase
  obtain ⟨r', rfl, hnine⟩ : ∃ r', phase = .refreshed r' ∧ r'.completed = 9 := by
    cases phase with
    | refreshed r' => exact ⟨r', rfl, of_decide_eq_true hphase⟩
    | called | missed | refreshing | returned => cases hphase
  have hninth : (first ++ .invalidate ⟨1⟩ :: second).length = 9 := by simp [hfirst, hlength]
  have hlists : ¬r.result.Lists ⟨2⟩ ⟨1⟩ :=
    (answers_current lengths 0 _ admission later horderly 11 (by omega) _ t r hanswer).2 6 r' htask
      (hnine.trans hninth.symm) ⟨2⟩ record ⟨1⟩ hrecord hleft
  refine ⟨_, t, r, hanswer, ?_, hlists, record, hrecord, hleft⟩
  rw [List.append_assoc] at horderly hanswer
  have hrenewed := (answers_current lengths 0 _ _ _ horderly 11 (by omega) _ t r hanswer).1 rfl
  rwa [hfirst] at hrenewed

/-- Two calls overlap. The second refresh completes last, without device 1, and the Agent is
    invalidated; then the first call writes the cache. -/
def overtaken : List Turn :=
  [.call ⟨1⟩, .call ⟨1⟩, .look 0 10000000000, .look 1 10000000000, .start 0 10000000000, .start 1 10000000000,
    .admission 0 (samplePublication [sampleBundle 1 10 100, sampleBundle 2 10 100]) {},
    .admission 1 (samplePublication [sampleBundle 2 10 100]) {}, .invalidate ⟨1⟩, .install 1,
    .install 0, .call ⟨1⟩, .look 11 20000000000]

/-- The overtaken cache write brings the removed device back, from a refresh that started before the
    invalidation. -/
theorem removed_device_answered : ∃ agentID t r, (run (step lengths 0) {} overtaken).answer 11 = some (agentID, t, r) ∧
    Gone ⟨2⟩ ⟨1⟩ (run (step lengths 0) {} (overtaken.take 8)).ledger ∧ r.result.Lists ⟨2⟩ ⟨1⟩ ∧ r.started < 8 := by
  have hans : ((run (step lengths 0) {} overtaken).answer 11).any fun a =>
      a.2.2.result.authority.delegation.endpointID = ⟨2⟩ && a.2.2.result.bundles.any (·.deviceID = ⟨1⟩) &&
        a.2.2.started < 8 := by decide +kernel
  have hgo : (lookup ⟨2⟩ (run (step lengths 0) {} (overtaken.take 8)).ledger).any (⟨1⟩ ∈ ·.tombstones) := by
    decide +kernel
  obtain ⟨⟨agentID, t, r⟩, hans, hlists⟩ := (Option.any_eq_true _ _).mp hans
  obtain ⟨record, hrec, hto⟩ := (Option.any_eq_true _ _).mp hgo
  simp only [Bool.and_eq_true, decide_eq_true_eq, List.any_eq_true] at hlists
  exact ⟨agentID, t, r, hans, ⟨record, hrec, of_decide_eq_true hto⟩, hlists.1, hlists.2⟩

end Messenger.Directory
