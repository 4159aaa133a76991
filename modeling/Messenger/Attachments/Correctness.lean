import Messenger.Attachments.Storage
import Messenger.Mailbox.Correctness.Claims

/-!
# `Attachments.Correctness` — who can take a lease away

A lease is filed under the digest of its manifest and does not say under whose grant it was
committed, and every live Endpoint can sign a grant for every manifest. What the service guarantees
is that a request changes only the lease of its own grant (`confined`) and that collection removes
only what has expired (`gc_removes_expired`). So a lease is safe from the other Endpoints as far as
no two Endpoints sign upload or delete grants for one manifest (`leases_protected`), and no further
(`foreign_grant_deletes`).
-/

namespace Messenger.Attachments

open Lib Identity Store

/-- Who signs a grant. -/
def CapabilityGrant.signer (g : CapabilityGrant) : AgentID × EndpointID := (g.agentID, g.endpointID)

/-- The Endpoint a grant names is live and its key has signed the grant. -/
def CapabilityGrant.SignedAt (cfg : Config) (g : CapabilityGrant) (now : Time) : Prop :=
  Signed cfg.crypto (resolveAttachmentEndpoint cfg.authority g now) g.canonicalBytes g.endpointSignatureHex

variable {cfg : Config} {r : Request} {now : Time} {c : Crypto} {s : Store} {a : Arrival} {lease : StorageLease}
  {manifest : BitVec 256}

/-- A request that passes the checks has a signed grant. -/
theorem Config.authentic_signed (h : cfg.authentic r now = .ok ()) : r.grant.SignedAt cfg now := by
  simp only [Config.authentic, seq_ok] at h
  obtain ⟨digest, -, key, hkey, _, hgnt, -⟩ := h
  obtain ⟨message, hmsg, hgnt⟩ := seq_ok.mp hgnt
  iterate 6 obtain ⟨_, -, hgnt⟩ := seq_ok.mp hgnt
  exact ⟨key, message, hkey, hmsg, not_not.mp (failIf_ok.mp hgnt)⟩

/-! ## What a call does to the leases -/

/-- A lease is committed where none was. -/
theorem Leases.judgeCommit_fresh {quota : StoreQuota} {leases : Leases} {objects : Objects} {value : StorageLease}
    {bytes : Nat} (h : leases.judgeCommit c quota objects value bytes now = .ok true) :
    lookup value.manifestDigest leases = none := by
  iterate 2 obtain ⟨_, -, h⟩ := seq_ok.mp h
  split at h
  next existing hexists =>
    obtain ⟨read, -, h⟩ := seq_ok.mp h
    split_ifs at h
    obtain ⟨_, -, h⟩ := seq_ok.mp h
    cases h
  next hno => exact hno

/-- **What an operation does to the leases**: nothing, or it commits the lease of its grant where
    none was, or it removes the lease of its manifest. -/
theorem Store.perform_leases (cfg : Config) (s : Store) (g : CapabilityGrant) (a : Arrival)
    (body : Body) : (s.perform cfg g a body).2.leases = s.leases ∨
    (body.operation = .upload ∧ lookup g.manifestDigest s.leases = none ∧
      (s.perform cfg g a body).2.leases = AList.insert g.manifestDigest g.lease s.leases) ∨
    (body.operation = .delete ∧ (s.perform cfg g a body).2.leases = AList.erase g.manifestDigest s.leases) := by
  cases body with
  | upload chunks =>
    simp only [perform]
    split
    · exact .inl rfl
    next objects hput =>
      unfold commitOpaque
      split
      · exact .inl rfl
      · exact .inl rfl
      next hjud =>
        cases a.performing with
        | refused => exact .inl rfl
        | done | unacknowledged => exact .inr (.inl ⟨rfl, Leases.judgeCommit_fresh hjud, rfl⟩)
  | fetch digests =>
    simp only [perform]
    split
    · exact .inl rfl
    · exact .inl rfl
  | delete =>
    simp only [perform]
    split
    · exact .inl rfl
    cases a.performing with
    | refused => exact .inl rfl
    | done | unacknowledged => exact .inr (.inr ⟨rfl, rfl⟩)

/-- Claiming a request does not touch the leases. -/
theorem Store.authorize_leases (cfg : Config) (s : Store) (r : Request) (a : Arrival) :
    (s.authorize cfg r a).2.leases = s.leases := by
  unfold authorize
  split <;> rfl

theorem Store.authentic_of_authorize {s' : Store} {u : Unit}
    (h : s.authorize cfg r a = (.ok u, s')) : cfg.authentic r a.now = .ok () := by
  unfold authorize at h
  split at h
  · cases h
  · assumption

/-- **Confinement.** A request changes no lease but that of its own grant; it passed the checks, and
    a fetch changes none. -/
theorem Store.request_leases (cfg : Config) (s : Store) (hcl : a.call = .request r) :
    (s.step cfg a).leases = s.leases ∨ (cfg.authentic r a.now = .ok () ∧
      ((r.body.operation = .upload ∧ lookup r.grant.manifestDigest s.leases = none ∧
        (s.step cfg a).leases = AList.insert r.grant.manifestDigest r.grant.lease s.leases) ∨
      (r.body.operation = .delete ∧ (s.step cfg a).leases = AList.erase r.grant.manifestDigest s.leases))) := by
  unfold step serve
  simp only [hcl]
  have hlss := s.authorize_leases cfg r a
  cases hauthority : s.authorize cfg r a with
  | mk result claimed =>
    rw [hauthority] at hlss
    have hsm : claimed.leases = s.leases := hlss
    cases result with
    | error failure => exact .inl hsm
    | ok u =>
      have haut := authentic_of_authorize hauthority
      rw [← hsm]
      rcases claimed.perform_leases cfg r.grant a r.body with h | h | h
      · exact .inl h
      · exact .inr ⟨haut, .inl h⟩
      · exact .inr ⟨haut, .inr h⟩

/-- A stored lease that was read is the one under its manifest. -/
theorem Leases.mem_all {leases : Leases} {held : List StorageLease} (h : leases.all = .ok held)
    (hls : lease ∈ held) : lookup lease.manifestDigest leases = some lease := by
  obtain ⟨digest, -, hrd⟩ := (mapM_ok_mem h).2 lease hls
  split at hrd
  next value hvl =>
    obtain ⟨hchs, hrd⟩ := failIf_then.mp hrd
    cases hrd
    have hdig := hchs
    push Not at hdig
    rw [hdig.1]
    exact hvl
  next => cases hrd

theorem Store.lookup_remove (s : Store) (expired loose : List (BitVec 256))
    (manifest : BitVec 256) : lookup manifest (s.remove expired loose).leases =
      if manifest ∈ expired then none else lookup manifest s.leases :=
  Dir.lookup_foldl_erase expired s.leases manifest

variable (owner : BitVec 256 → AgentID × EndpointID) {grace : Nat} {collects : Option Nat}

/-- **Collection** removes a lease only when it has expired. -/
theorem Store.gc_removes_expired (h : lookup manifest s.leases = some lease)
    (hgo : lookup manifest (s.gc c now grace collects).2.leases ≠ some lease) : lease.expiresAtUnix ≤ now.toNat := by
  unfold gc at hgo
  split at hgo
  · exact absurd h hgo
  next expired loose hjud =>
    have herased : manifest ∈ expired := by
      by_contra hkt
      have htkn : manifest ∉ expired.take (collects.getD (expired.length + loose.length)) :=
        fun hmem => hkt (List.mem_of_mem_take hmem)
      apply hgo
      rw [lookup_remove, if_neg htkn]
      exact h
    iterate 2 obtain ⟨_, -, hjud⟩ := seq_ok.mp hjud
    obtain ⟨held, hhe, hjud⟩ := seq_ok.mp hjud
    obtain ⟨_, -, hjud⟩ := seq_ok.mp hjud
    cases hjud
    obtain ⟨gone, hmem, rfl⟩ := List.mem_map.mp herased
    rw [List.mem_filter] at hmem
    have hsm := Leases.mem_all hhe hmem.1
    rw [h] at hsm
    cases hsm
    exact of_decide_eq_true hmem.2

/-! ## Whose lease it is -/

/-- A store together with the leases that were created so far, and under whose grant, the last one
    first. -/
structure Watched where
  store : Store := {}
  created : List (BitVec 256 × (AgentID × EndpointID)) := []

/-- A request that makes a lease appear creates it. -/
def Watched.note (cfg : Config) (w : Watched) (a : Arrival) : List (BitVec 256 × (AgentID × EndpointID)) :=
  match a.call with
  | .request r =>
    if (lookup r.grant.manifestDigest w.store.leases).isNone ∧
        (lookup r.grant.manifestDigest (w.store.step cfg a).leases).isSome
    then (r.grant.manifestDigest, r.grant.signer) :: w.created else w.created
  | _ => w.created

def Watched.step (cfg : Config) (w : Watched) (a : Arrival) : Watched where
  store := w.store.step cfg a
  created := w.note cfg a

/-- Every lease is deleted by its creator's requests alone, or collected after its expiry; and a
    commit of an Endpoint that has created a lease for the manifest conflicts with a lease of this
    Endpoint only. -/
def Protected (cfg : Config) (calls : List Arrival) : Prop :=
  ∀ earlier a later, calls = earlier ++ a :: later →
    let w := run (Watched.step cfg) {} earlier
    (∀ r manifest lease, a.call = .request r → lookup manifest w.store.leases = some lease →
      lookup manifest (w.store.step cfg a).leases ≠ some lease → w.created.lookup manifest = some r.grant.signer) ∧
    (∀ r, a.call = .request r → (w.store.serve cfg a).1 = .error leaseConflict →
      (r.grant.manifestDigest, r.grant.signer) ∈ w.created →
        w.created.lookup r.grant.manifestDigest = some r.grant.signer) ∧
    (∀ manifest lease, (∀ r, a.call ≠ .request r) → lookup manifest w.store.leases = some lease →
      lookup manifest (w.store.step cfg a).leases ≠ some lease → lease.expiresAtUnix ≤ a.now.toNat)

/-- The upload and delete grants presented for a manifest are signed by its owner alone. -/
def Owned (cfg : Config) (owner : BitVec 256 → AgentID × EndpointID) (a : Arrival) : Prop :=
  ∀ r, a.call = .request r → r.body.operation ≠ .fetch → r.grant.SignedAt cfg a.now →
    r.grant.signer = owner r.grant.manifestDigest

/-- The leases are the owners' own, and each has its creator on the list. -/
structure OwnersOnly (w : Watched) : Prop where
  creators : ∀ manifest signer, (manifest, signer) ∈ w.created → signer = owner manifest
  noted : ∀ manifest lease, lookup manifest w.store.leases = some lease → (manifest, owner manifest) ∈ w.created

/-- The last creator on the list. -/
theorem OwnersOnly.lookup {owner : BitVec 256 → AgentID × EndpointID} {w : Watched} (h : OwnersOnly owner w)
    (hmem : (manifest, owner manifest) ∈ w.created) : w.created.lookup manifest = some (owner manifest) := by
  have hcreators := h.creators
  revert hcreators hmem
  induction w.created with
  | nil =>
    intro hmem
    cases hmem
  | cons entry rest ih =>
    obtain ⟨digest, signer⟩ := entry
    intro hmem hcreators
    rw [List.lookup_cons]
    by_cases hdig : manifest = digest
    · subst hdig
      simp [hcreators manifest signer List.mem_cons_self]
    have hre : (manifest, owner manifest) ∈ rest := by
      rcases List.mem_cons.mp hmem with heq | hre
      · exact absurd (Prod.mk.inj heq).1 hdig
      · exact hre
    rw [beq_false_of_ne hdig]
    exact ih hre fun m s hm => hcreators m s (List.mem_cons_of_mem _ hm)

/-- Collection adds no lease. -/
theorem Store.gc_leases (h : lookup manifest (s.gc c now grace collects).2.leases = some lease) :
    lookup manifest s.leases = some lease := by
  unfold gc at h
  split at h
  · exact h
  have hlf : lookup manifest (s.remove _ _).leases = some lease := h
  rw [lookup_remove] at hlf
  split_ifs at hlf
  exact hlf

/-- **One step, seen from the creators.** No lease appears and none is noted, or an upload that
    passed the checks creates the lease of its grant. -/
theorem Watched.step_cases (cfg : Config) (w : Watched) (a : Arrival) :
    ((w.step cfg a).created = w.created ∧ ∀ manifest lease,
      lookup manifest (w.step cfg a).store.leases = some lease → lookup manifest w.store.leases = some lease) ∨
    ∃ r, a.call = .request r ∧ cfg.authentic r a.now = .ok () ∧ r.body.operation = .upload ∧
      (w.step cfg a).created = (r.grant.manifestDigest, r.grant.signer) :: w.created ∧
      (w.step cfg a).store.leases = AList.insert r.grant.manifestDigest r.grant.lease w.store.leases := by
  have hnoted : (w.step cfg a).created = w.note cfg a := rfl
  unfold Watched.note at hnoted
  cases hcl : a.call with
  | request r =>
    rw [hcl] at hnoted
    have hnote : (w.step cfg a).created = if (lookup r.grant.manifestDigest w.store.leases).isNone ∧
        (lookup r.grant.manifestDigest (w.store.step cfg a).leases).isSome
        then (r.grant.manifestDigest, r.grant.signer) :: w.created else w.created := hnoted
    rw [hnote]
    rcases w.store.request_leases cfg hcl with hsm | ⟨haut, ⟨hop, hfree, hinsert⟩ | ⟨hop, hers⟩⟩
    · refine .inl ⟨if_neg ?_, ?_⟩
      · rw [hsm]
        simp
      · intro manifest lease hls
        rwa [← hsm]
    · refine .inr ⟨r, rfl, haut, hop, if_pos ?_, hinsert⟩
      rw [hinsert, hfree, lookup_insert]
      exact ⟨rfl, rfl⟩
    refine .inl ⟨if_neg ?_, ?_⟩
    · rw [hers, lookup_erase]
      simp
    intro manifest lease hls
    have hlf : lookup manifest (AList.erase r.grant.manifestDigest w.store.leases) = some lease := by
      rwa [← hers]
    exact (lookup_erase_some hlf).2
  | gc | restart =>
    rw [hcl] at hnoted
    refine .inl ⟨hnoted, fun manifest lease hls => ?_⟩
    have hsrv : lookup manifest (w.store.serve cfg a).2.leases = some lease := hls
    unfold serve at hsrv
    rw [hcl] at hsrv
    first
      | exact gc_leases hsrv
      | exact hsrv

/-- **One step** keeps the leases the owners' own. -/
theorem OwnersOnly.step {owner : BitVec 256 → AgentID × EndpointID} {w : Watched}
    (h : OwnersOnly owner w) (howned : Owned cfg owner a) : OwnersOnly owner (w.step cfg a) := by
  rcases w.step_cases cfg a with ⟨hcrt, hlss⟩ | ⟨r, hcl, haut, hop, hcrt, hlss⟩
  · refine ⟨?_, ?_⟩
    · rw [hcrt]
      exact h.creators
    intro manifest lease hls
    rw [hcrt]
    exact h.noted manifest lease (hlss manifest lease hls)
  have hsgn : r.grant.signer = owner r.grant.manifestDigest :=
    howned r hcl (by rw [hop]; decide) (Config.authentic_signed haut)
  refine ⟨?_, ?_⟩
  · intro manifest signer hmem
    rw [hcrt] at hmem
    rcases List.mem_cons.mp hmem with heq | hmem
    · obtain ⟨rfl, rfl⟩ := Prod.mk.inj heq
      exact hsgn
    · exact h.creators manifest signer hmem
  intro manifest lease hls
  rw [hlss] at hls
  rw [hcrt]
  rcases lookup_insert_cases hls with ⟨rfl, -⟩ | hpre
  · rw [hsgn]
    exact List.mem_cons_self
  · exact List.mem_cons_of_mem _ (h.noted manifest lease hpre)

theorem ownersOnly_start : OwnersOnly owner {} where
  creators _ _ hmem := absurd hmem List.not_mem_nil
  noted _ _ hls := by cases hls

/-- **Protection.** When no two Endpoints sign upload or delete grants for one manifest, a lease is
    taken away by its creator's requests alone, or after its expiry. -/
theorem leases_protected (cfg : Config) (calls : List Arrival) (owner : BitVec 256 → AgentID × EndpointID)
    (howned : ∀ a ∈ calls, Owned cfg owner a) : Protected cfg calls := by
  rintro earlier a later rfl w
  have halong : Along (Watched.step cfg) (fun _ a => Owned cfg owner a) {} earlier :=
    Along.of_mem (fun b hb => howned b (List.mem_append_left _ hb)) _
  have howners : OwnersOnly owner w :=
    halong.invariant (I := OwnersOnly owner) (fun _ _ h hown => h.step hown) (ownersOnly_start owner)
  have hown : Owned cfg owner a := howned a (List.mem_append_right _ List.mem_cons_self)
  refine ⟨?_, ?_, ?_⟩
  · intro r manifest lease hcl hls hgo
    have hcreator := howners.lookup (howners.noted manifest lease hls)
    rcases w.store.request_leases cfg hcl with hsm | ⟨haut, ⟨hop, hfree, hinsert⟩ | ⟨hop, hers⟩⟩
    · rw [hsm] at hgo
      exact absurd hls hgo
    · -- a commit is where no lease was, so this lease is not touched
      rw [hinsert] at hgo
      exact absurd (Lib.Dir.lookup_insert_of_absent hfree hls) hgo
    have hmnf : manifest = r.grant.manifestDigest := by
      by_contra hoth
      rw [hers, lookup_erase_ne hoth] at hgo
      exact hgo hls
    rw [hown r hcl (by rw [hop]; decide) (Config.authentic_signed haut), ← hmnf]
    exact hcreator
  · intro r hcl hconforms hmem
    have hsgn := howners.creators _ _ hmem
    rw [hsgn] at hmem ⊢
    exact howners.lookup hmem
  · intro manifest lease hmain hls hgo
    have hsrv : lookup manifest (w.store.serve cfg a).2.leases ≠ some lease := hgo
    unfold serve at hsrv
    cases hcl : a.call with
    | request r => exact absurd hcl (hmain r)
    | gc grace =>
      rw [hcl] at hsrv
      exact gc_removes_expired hls hsrv
    | restart =>
      rw [hcl] at hsrv
      exact absurd hls hsrv

/-! ### A store with two tenants

The sample digest, network and Endpoints are those of the sample Relay. -/

section
open Mailbox (ending chain tenant)

def hosting : Config where
  crypto := ending
  authority := { network := chain, delegation := fun agentID _ => .ok (tenant agentID) }
  quota := { maxLeases := 8, maxObjects := 8, maxBytes := 4096, maxRetention := 10000 }
  storageKey := List.replicate 32 9

/-- The one chunk of every attachment. -/
def piece : Chunk where
  index := 0
  digest := 2
  ciphertext := List.replicate 17 1

variable (agentID : AgentID) (manifestDigest : BitVec 256) (retainUntil : Nat)

/-- A grant of an Agent's Endpoint for one operation on a manifest. -/
def grantBy (operation : Operation) : CapabilityGrant where
  network := chain
  agentID := agentID
  endpointID := ⟨agentID.digest⟩
  storagePublicKeyHex := Canon.hexEncode hosting.storageKey
  capabilityPublicKeyHex := Canon.hexEncode (List.replicate 32 11)
  manifestDigest := manifestDigest
  chunkDigests := [2]
  ciphertextBytes := 17
  retainUntilUnix := retainUntil
  operations := [operation]
  issuedAtUnix := 10
  expiresAtUnix := 10000
  endpointSignatureHex := Canon.hexEncode (List.replicate 64 3)

/-- A request under such a grant; the digest of its body and its nonce are given. -/
def requestUnder (body : Body) (bodyDigest : BitVec 256) (nonce : UInt8) : Request where
  grant := grantBy agentID manifestDigest retainUntil body.operation
  access := {
    grantDigest := 17
    operation := body.operation
    bodyDigest := bodyDigest
    nonceHex := Canon.hexEncode (List.replicate 32 nonce)
    issuedAtUnix := 100
    expiresAtUnix := 200
    capabilitySignatureHex := Canon.hexEncode (List.replicate 64 3) }
  body := body

/-- Such a request at second 100. -/
def arrival (body : Body) (bodyDigest : BitVec 256) (nonce : UInt8) : Arrival where
  call := .request (requestUnder agentID manifestDigest retainUntil body bodyDigest nonce)
  now := 100

/-- The first Endpoint uploads an attachment. -/
def uploading : Arrival := arrival ⟨1⟩ 5 5000 (.upload [piece]) 18 170

/-- The second Endpoint deletes it. -/
def foreignDeleting : Arrival := arrival ⟨2⟩ 5 5000 .delete 54 187

theorem Watched.created_of_appears {cfg : Config} {w : Watched} {a : Arrival} {r : Request} (hcl : a.call = .request r)
    (hfree : lookup r.grant.manifestDigest w.store.leases = none) {lease : StorageLease}
    (hls : lookup r.grant.manifestDigest (w.store.step cfg a).leases = some lease) :
    (w.step cfg a).created = (r.grant.manifestDigest, r.grant.signer) :: w.created := by
  show w.note cfg a = _
  unfold Watched.note
  rw [hcl]
  simp only [hfree, hls, Option.isNone_none, Option.isSome_some, and_self, if_true]

theorem Protected.second {cfg : Config} {first second : Arrival} {r r' : Request} {lease : StorageLease}
    (h : Protected cfg [first, second]) (hcl : first.call = .request r) (hc' : second.call = .request r')
    (hls : lookup r.grant.manifestDigest (step cfg {} first).leases = some lease)
    (hgo : lookup r.grant.manifestDigest ((step cfg {} first).step cfg second).leases ≠ some lease) :
    r.grant.signer = r'.grant.signer := by
  have hcrt : (Watched.step cfg {} first).created = [(r.grant.manifestDigest, r.grant.signer)] :=
    Watched.created_of_appears hcl rfl hls
  have hget := (h [first] second [] rfl).1 r' _ lease hc' hls hgo
  rw [run_cons, run_nil, hcrt, List.lookup_cons_self] at hget
  exact Option.some.inj hget

/-- Each Endpoint uploads an attachment of its own. The first then sends its manifest with another
    retention, and the second deletes its attachment. -/
def sharing : List Arrival := [uploading, arrival ⟨2⟩ 8 5000 (.upload [piece]) 18 171,
  arrival ⟨1⟩ 5 6000 (.upload [piece]) 18 172, arrival ⟨2⟩ 8 5000 .delete 57 173]

/-- What the calls of a run are answered. -/
def answers (cfg : Config) (s : Store) : List Arrival → List (Except Failure Answer)
  | [] => []
  | a :: calls => (s.serve cfg a).1 :: answers cfg (s.step cfg a) calls

theorem leases_protected_sharing : Protected hosting sharing ∧
    answers hosting {} sharing = [.ok (.uploaded (some true)), .ok (.uploaded (some true)),
      .error leaseConflict, .ok (.deleted true)] := by
  have hanswers : answers hosting {} sharing = [.ok (.uploaded (some true)),
      .ok (.uploaded (some true)), .error leaseConflict, .ok (.deleted true)] := by decide +kernel
  refine ⟨?_, hanswers⟩
  apply leases_protected hosting sharing fun digest => if digest = 5 then (⟨1⟩, ⟨1⟩) else (⟨2⟩, ⟨2⟩)
  intro a ha r hcall hoperation hsigned
  simp only [sharing, uploading, List.mem_cons, List.not_mem_nil, or_false] at ha
  rcases ha with rfl | rfl | rfl | rfl
  · cases hcall
    rfl
  · cases hcall
    rfl
  · cases hcall
    rfl
  · cases hcall
    rfl

/-- Another Endpoint signs a delete grant for the manifest of the first, and its lease is gone. -/
theorem foreign_grant_deletes : ¬Protected hosting [uploading, foreignDeleting] := by
  have hls : lookup 5 (step hosting {} uploading).leases = some (grantBy ⟨1⟩ 5 5000 .upload).lease := by
    decide +kernel
  have hgo : lookup 5 ((step hosting {} uploading).step hosting foreignDeleting).leases ≠
      some (grantBy ⟨1⟩ 5 5000 .upload).lease := by decide +kernel
  intro h
  exact absurd (h.second rfl rfl hls hgo) (by decide)

end

end Messenger.Attachments
