import Messenger.Lib.Run
import Messenger.Mailbox.Relay

/-!
# `Mailbox.Correctness.Claims` — a nonce is used once, and a claim never blocks the next

Two facts about every run of a Relay, both under the condition that the nonce texts are lowercase:

- **Single use.** A request whose nonce bytes were accepted before, under the same grant, is
  accepted again only after the first one expired (`nonce_single_use`).
- **Progress.** Every claim on disk can be read back, and so a fresh request that passes the checks
  is accepted while there is room for a claim (`fresh_accepted`).

Both fail for a nonce in uppercase, which the request's canonical bytes accept and the claim's
reader refuses (`uppercase_replayed`, `uppercase_blocks`).
-/

namespace Messenger.Mailbox

open Lib Identity Relay
open Eventlog (Written Medium)

/-! ## Walking the claims -/

section
variable {c : Crypto} {now : Nat} {name : BitVec 256} {claim : AccessClaim}
  {names : List (BitVec 256)} {claims : Claims} {live : Nat} {failsAt : Option Nat}

/-- What is left was there. -/
theorem lookup_of_walkClaims (h : lookup name (walkClaims c now names claims live failsAt).2 = some claim) :
    lookup name claims = some claim := by
  induction names generalizing claims live failsAt with
  | nil => exact h
  | cons head names ih =>
    simp only [walkClaims] at h
    split at h
    · exact ih h
    split at h
    · exact h
    split_ifs at h
    · exact ih h
    · exact h
    · exact (lookup_erase_some (ih h)).2

/-- A claim that has not expired is kept. -/
theorem walkClaims_keeps (h : lookup name claims = some claim) (hlive : now < claim.expiresAtUnix) :
    lookup name (walkClaims c now names claims live failsAt).2 = some claim := by
  induction names generalizing claims live failsAt with
  | nil => exact h
  | cons head names ih =>
    simp only [walkClaims]
    split
    · exact ih h
    next found hfound =>
      split
      · exact h
      split_ifs with hunexpired
      · exact ih h
      · exact h
      · have hother : name ≠ head := by
          rintro rfl
          rw [h] at hfound
          cases hfound
          exact hunexpired hlive
        apply ih
        rwa [lookup_erase_ne hother]

/-- A walk that ends well has removed what had expired. -/
theorem walkClaims_live {count : Nat} (hok : (walkClaims c now names claims live failsAt).1 = .ok count)
    (hname : name ∈ names) (h : lookup name (walkClaims c now names claims live failsAt).2 = some claim) :
    now < claim.expiresAtUnix := by
  induction names generalizing claims live failsAt with
  | nil => cases hname
  | cons head names ih =>
    have hbefore := lookup_of_walkClaims h
    simp only [walkClaims] at hok h
    split at hok
    next habsent =>
      simp only [habsent] at h
      rcases List.mem_cons.mp hname with rfl | hname
      · rw [hbefore] at habsent
        cases habsent
      · exact ih hok hname h
    next found hfound =>
      simp only [hfound] at h
      split at hok
      · cases hok
      next hread =>
        simp only [hread] at h
        split_ifs at hok h with hunexpired
        · rcases List.mem_cons.mp hname with rfl | hname
          · rw [hbefore] at hfound
            cases hfound
            exact hunexpired
          · exact ih hok hname h
        rcases List.mem_cons.mp hname with rfl | hname
        · have herased := lookup_of_walkClaims h
          rw [lookup_erase] at herased
          cases herased
        · exact ih hok hname h

/-- On a disk that works, the claims that have not expired, counted along a list of names. -/
theorem walkClaims_count
    (hreadable : ∀ name claim, lookup name claims = some claim → readAccessClaim c name claim = .ok ()) :
    (walkClaims c now names claims live none).1 = .ok (live + (names.filter fun name =>
      (lookup name claims).any fun claim => now < claim.expiresAtUnix).length) := by
  induction names generalizing claims live with
  | nil => rfl
  | cons head names ih =>
    simp only [walkClaims]
    split
    next habsent =>
      rw [ih hreadable, List.filter_cons_of_neg (by simp [habsent])]
    next found hfound =>
      simp only [hreadable head found hfound, reduceCtorEq, if_false, Option.map_none]
      split_ifs with hunexpired
      · rw [ih hreadable, List.filter_cons_of_pos (by simpa [hfound] using hunexpired), List.length_cons]
        congr 1
        omega
      · -- the names behind it do not see the difference: its claim had expired
        have hsame : ∀ name,
            (lookup name (AList.erase head claims)).any (fun claim => now < claim.expiresAtUnix)
              = (lookup name claims).any fun claim => now < claim.expiresAtUnix := by
          intro name
          by_cases hname : name = head
          · subst hname
            rw [lookup_erase, hfound]
            exact (decide_eq_false hunexpired).symm
          · rw [lookup_erase_ne hname]
        have hrest : ∀ name claim, lookup name (AList.erase head claims) = some claim →
            readAccessClaim c name claim = .ok () :=
          fun name claim hclaim => hreadable name claim (lookup_erase_some hclaim).2
        rw [ih hrest, List.filter_cons_of_neg (by simpa [hfound] using hunexpired)]
        simp only [hsame]

end

/-! ## Claiming -/

section
variable (c : Crypto) (claims : Claims) (r : AccessRequest) (now : Time) (failsAt : Option Nat) (m : Medium)

theorem expireClaims_left :
    (expireClaims c claims now failsAt).2 = (walkClaims c now.toNat claims.names claims 0 failsAt).2 := by
  unfold expireClaims
  split
  next hwalk => rw [hwalk]
  next hwalk => rw [hwalk]

/-- On a disk that works, only a claim that cannot be read stops the walk. -/
theorem expireClaims_working :
    (expireClaims c claims now none).1 = (walkClaims c now.toNat claims.names claims 0 none).1 := by
  unfold expireClaims
  split
  next hwalk => rw [hwalk]
  next hwalk => simp [hwalk, unsynced]

/-- **What claiming a request can do**: nothing, a walk that ends in a refusal, or a walk and a
    write. -/
theorem claimAccess_cases :
    (∃ failure, claimAccess c claims r now failsAt m = (.error failure, claims)) ∨
    (∃ failure, claimAccess c claims r now failsAt m = (.error failure, (expireClaims c claims now failsAt).2)) ∨
    ((∃ message, r.canonicalBytes = .ok message) ∧
      lookup (r.claimFile c) (expireClaims c claims now failsAt).2 = none ∧
      claimAccess c claims r now failsAt m = (acknowledged "write Mailbox Relay record" m.written,
        m.written.put (expireClaims c claims now failsAt).2
          (AList.insert (r.claimFile c) r.claim (expireClaims c claims now failsAt).2))) := by
  unfold claimAccess
  split
  · exact .inl ⟨_, rfl⟩
  next message hmessage =>
    split_ifs with hnow hreadable
    · exact .inl ⟨_, rfl⟩
    · split
      next failure walked hwalk =>
        rw [hwalk]
        exact .inr (.inl ⟨_, rfl⟩)
      next live walked hwalk =>
        rw [hwalk]
        split_ifs with hfull htaken
        · exact .inr (.inl ⟨_, rfl⟩)
        · exact .inr (.inl ⟨_, rfl⟩)
        · refine .inr (.inr ⟨⟨message, hmessage⟩, ?_, rfl⟩)
          simpa using htaken
    · exact .inl ⟨_, rfl⟩

end

variable {c : Crypto} {claims : Claims} {r : AccessRequest} {now : Time} {cfg : Config} {s : Relay}
  {a : Arrival} {message : Bytes} {failsAt : Option Nat}

/-- A request that could be claimed: its file was free and now has its claim. -/
theorem claimAccess_ok {m : Medium} (h : (claimAccess c claims r now failsAt m).1.isOk) :
    (∃ message, r.canonicalBytes = .ok message) ∧
      lookup (r.claimFile c) (expireClaims c claims now failsAt).2 = none ∧
      lookup (r.claimFile c) (claimAccess c claims r now failsAt m).2 = some r.claim := by
  rcases claimAccess_cases c claims r now failsAt m with ⟨failure, heq⟩ | ⟨failure, heq⟩ | ⟨hcanonical, hfree, heq⟩
  · rw [heq] at h
    cases h
  · rw [heq] at h
    cases h
  refine ⟨hcanonical, hfree, ?_⟩
  rw [heq] at h ⊢
  cases hwritten : m.written with
  | done => exact lookup_insert _
  | refused | unacknowledged =>
    rw [hwritten] at h
    cases h

/-- The operation itself does not touch the claims. -/
theorem Relay.perform_claims (cfg : Config) (s : Relay) (mailboxID : MailboxID) (now : Time)
    (m : Medium) (body : Body) : (s.perform cfg mailboxID now m body).2.claims = s.claims := by
  cases body with
  | deposit value | delete mid ciphertextDigest =>
    simp only [perform]
    split <;> rfl
  | read limit => rfl

/-- A request that passes the checks is accepted when it can be claimed. -/
theorem Relay.claims_of_authentic {r : Request} (hcl : a.call = .request r)
    (haut : cfg.authentic r a.now = .ok ()) :
    s.accepts cfg a = (claimAccess cfg.crypto s.claims r.access a.now a.failsAt a.claiming).1.isOk ∧
      (s.step cfg a).claims = (claimAccess cfg.crypto s.claims r.access a.now a.failsAt a.claiming).2 := by
  unfold step serve accepts authorize
  simp only [hcl, haut, true_and]
  split
  next hclm => rw [← (Prod.mk.inj hclm).2]
  next hclm => rw [perform_claims, ← (Prod.mk.inj hclm).2]

/-- **One step, seen from the claims.** Only a request that passes the checks reaches them, and it
    is accepted when it could be claimed. -/
theorem Relay.step_claims (cfg : Config) (s : Relay) (a : Arrival) :
    (s.accepts cfg a = false ∧ (s.step cfg a).claims = s.claims) ∨
    ∃ r, a.call = .request r ∧ cfg.authentic r a.now = .ok () ∧
      s.accepts cfg a = (claimAccess cfg.crypto s.claims r.access a.now a.failsAt a.claiming).1.isOk ∧
      (s.step cfg a).claims = (claimAccess cfg.crypto s.claims r.access a.now a.failsAt a.claiming).2 := by
  cases hcl : a.call with
  | sweep | restart =>
    refine .inl ?_
    simp only [accepts, step, serve, hcl, and_self]
  | request r =>
    cases haut : cfg.authentic r a.now with
    | error failure =>
      refine .inl ?_
      simp only [accepts, step, serve, authorize, hcl, haut, and_true]
      rfl
    | ok u => exact .inr ⟨r, rfl, haut, claims_of_authentic hcl haut⟩

/-! ## Claims that can be read back -/

/-- Every claim on disk passes the checks of its reader. -/
def Readable (c : Crypto) (claims : Claims) : Prop :=
  ∀ name claim, lookup name claims = some claim → readAccessClaim c name claim = .ok ()

theorem readable_empty (c : Crypto) : Readable c ∅ := by
  intro name claim h
  cases h

theorem Readable.expire (h : Readable c claims) (now : Time) (failsAt : Option Nat) :
    Readable c (expireClaims c claims now failsAt).2 := by
  rw [expireClaims_left]
  exact fun name claim hclaim => h name claim (lookup_of_walkClaims hclaim)

/-- The claim of a request with a lowercase nonce can be read back. -/
theorem AccessRequest.claim_readable (hcan : r.canonicalBytes = .ok message)
    (hnon : decodeFixedHex r.nonceHex 32 ≠ none) : readAccessClaim c (r.claimFile c) r.claim = .ok () := by
  obtain ⟨hchs, -⟩ := failIf_then.mp hcan
  have hbound := hchs
  push Not at hbound
  obtain ⟨hgnt, -, -, hxs, -⟩ := hbound
  refine failIf_then.mpr ⟨?_, failIf_then.mpr ⟨hnon, failIf_ok.mpr ?_⟩⟩
  · rintro (h | h)
    · exact hgnt h
    · have hz : r.expiresAtUnix = 0 := h
      omega
  · exact fun h => h rfl

/-- The request of a call carries its nonce in lowercase: the text the claim's reader accepts. -/
def Arrival.CanonicalNonce (a : Arrival) : Prop :=
  ∀ r, a.call = .request r → decodeFixedHex r.access.nonceHex 32 ≠ none

/-- **One step** with a lowercase nonce leaves claims that can be read back. -/
theorem Readable.step (h : Readable cfg.crypto s.claims) (hnon : a.CanonicalNonce) :
    Readable cfg.crypto (s.step cfg a).claims := by
  rcases s.step_claims cfg a with ⟨-, hsm⟩ | ⟨r, hcl, -, -, hcm⟩
  · rwa [hsm]
  rw [hcm]
  rcases claimAccess_cases cfg.crypto s.claims r.access a.now a.failsAt a.claiming with
    ⟨failure, heq⟩ | ⟨failure, heq⟩ | ⟨⟨message, hcan⟩, -, heq⟩
  · rwa [heq]
  · rw [heq]
    exact h.expire a.now a.failsAt
  rw [heq]
  unfold Written.put
  split_ifs
  · exact h.expire a.now a.failsAt
  · exact forall_insert (h.expire a.now a.failsAt) (AccessRequest.claim_readable hcan (hnon r hcl))

/-- What a request that passes the checks tells of its claim. -/
theorem Config.authentic_canonical {r : Request} (h : cfg.authentic r now = .ok ()) :
    ¬now < 0 ∧ ∃ message, r.access.canonicalBytes = .ok message := by
  simp only [Config.authentic, verifyAccessRequest, seq_ok, failIf_ok] at h
  obtain ⟨_, -, _, -, _, -, _, -, message, hmsg, _, -, _, -, _, hwin, -⟩ := h
  refine ⟨?_, message, hmsg⟩
  intro hnegative
  exact hwin (.inl hnegative)

/-- **A free file is claimed.** With readable claims, room for one more and no live claim under its
    name, a canonical request is claimed. -/
theorem claimAccess_free (hcan : r.canonicalBytes = .ok message) (hnow : ¬now < 0)
    (hrd : Readable c claims) (hrm : claims.live now.toNat < maxAccessClaims)
    (hfree : ∀ claim, lookup (r.claimFile c) claims = some claim → claim.expiresAtUnix ≤ now.toNat) :
    claimAccess c claims r now none {} =
      (.ok (), AList.insert (r.claimFile c) r.claim (expireClaims c claims now none).2) := by
  have hwalked : (walkClaims c now.toNat claims.names claims 0 none).1 = .ok (0 + claims.live now.toNat) :=
    walkClaims_count hrd
  have hcount := (expireClaims_working c claims now).trans hwalked
  have hname : lookup (r.claimFile c) (expireClaims c claims now none).2 = none := by
    rw [expireClaims_left]
    by_contra htaken
    obtain ⟨claim, hclaim⟩ := Option.ne_none_iff_exists'.mp htaken
    have hbefore := lookup_of_walkClaims hclaim
    have hlive := walkClaims_live hwalked (mem_names.mpr ⟨claim, hbefore⟩) hclaim
    have hexpired := hfree claim hbefore
    omega
  unfold claimAccess
  simp only [hcan, if_neg hnow, not_true, if_false]
  generalize hwalk : expireClaims c claims now none = walked at hcount hname ⊢
  obtain ⟨result, left⟩ := walked
  cases hcount
  rw [Nat.zero_add]
  simp only [if_neg (Nat.not_le.mpr hrm), hname, Option.isSome_none, Bool.false_eq_true, if_false]
  rfl

/-! ## Single use -/

/-- Two lowercase texts of the same nonce are one text. -/
theorem nonceHex_inj {a b : String} (ha : decodeFixedHex a 32 ≠ none) (hb : decodeFixedHex b 32 ≠ none) {nonce : Bytes}
    (hnon : nonceBytes a = some nonce) (hnonce' : nonceBytes b = some nonce) : a = b := by
  obtain ⟨raw, hraw⟩ := Option.ne_none_iff_exists'.mp ha
  obtain ⟨raw', hraw'⟩ := Option.ne_none_iff_exists'.mp hb
  obtain ⟨hdec, henc⟩ := decodeFixedHex_some hraw
  obtain ⟨hdecode', henc'⟩ := decodeFixedHex_some hraw'
  have hsm : some raw = some nonce := hdec ▸ (Option.filter_eq_some_iff.mp hnon).1
  have hsm' : some raw' = some nonce := hdecode' ▸ (Option.filter_eq_some_iff.mp hnonce').1
  rw [← henc, ← henc', Option.some.inj (hsm.trans hsm'.symm)]

/-- A request with canonical bytes has a nonce. -/
theorem AccessRequest.nonce_of_canonicalBytes (h : r.canonicalBytes = .ok message) :
    ∃ nonce, nonceBytes r.nonceHex = some nonce := by
  obtain ⟨_, -, h⟩ := seq_ok.mp h
  obtain ⟨nonce, hnon, -⟩ := seq_ok.mp h
  exact ⟨nonce, required_ok.mp hnon⟩

/-- A claim stands, or has expired by some time. -/
def Standing (name : BitVec 256) (expires : Nat) (bound : Time) (s : Relay) : Prop :=
  (∃ claim, lookup name s.claims = some claim ∧ claim.expiresAtUnix = expires) ∨ expires ≤ bound.toNat

/-- **One step** leaves a claim standing, up to the time of the step. -/
theorem Standing.step {name : BitVec 256} {expires : Nat} {bound : Time} (h : Standing name expires bound s)
    (hnow : a.now ≤ bound) : Standing name expires bound (s.step cfg a) := by
  rcases h with ⟨claim, hclm, rfl⟩ | hexp
  · by_cases hlv : a.now.toNat < claim.expiresAtUnix
    · refine .inl ⟨claim, ?_, rfl⟩
      have hkt : lookup name (expireClaims cfg.crypto s.claims a.now a.failsAt).2 = some claim := by
        rw [expireClaims_left]
        exact walkClaims_keeps hclm hlv
      rcases s.step_claims cfg a with ⟨-, hsm⟩ | ⟨r, -, -, -, hcm⟩
      · rwa [hsm]
      rw [hcm]
      rcases claimAccess_cases cfg.crypto s.claims r.access a.now a.failsAt a.claiming with
        ⟨failure, heq⟩ | ⟨failure, heq⟩ | ⟨-, hfree, heq⟩
      · rwa [heq]
      · rwa [heq]
      -- the new claim has another name: this one is taken
      rw [heq]
      unfold Written.put
      split_ifs
      · exact hkt
      · exact Lib.Dir.lookup_insert_of_absent hfree hkt
    · have hbd := Int.toNat_le_toNat hnow
      exact .inr (by omega)
  · exact .inr hexp

/-- An accepted request was claimed. -/
theorem claimed_of_accepts {r : Request} (hcl : a.call = .request r) (h : s.accepts cfg a) :
    (claimAccess cfg.crypto s.claims r.access a.now a.failsAt a.claiming).1.isOk ∧
      (s.step cfg a).claims = (claimAccess cfg.crypto s.claims r.access a.now a.failsAt a.claiming).2 := by
  rcases s.step_claims cfg a with ⟨href, -⟩ | ⟨r', hc', -, haccepted, hcm⟩
  · rw [href] at h
    cases h
  rw [hcl] at hc'
  cases hc'
  rw [haccepted] at h
  exact ⟨h, hcm⟩

theorem nonce_of_accepts {r : Request} (hcl : a.call = .request r) (h : s.accepts cfg a) :
    ∃ nonce, nonceBytes r.access.nonceHex = some nonce := by
  obtain ⟨message, hmsg⟩ := (claimAccess_ok (claimed_of_accepts hcl h).1).1
  exact AccessRequest.nonce_of_canonicalBytes hmsg

/-- An accepted request leaves its claim. -/
theorem standing_of_accepts {r : Request} (hcl : a.call = .request r) (h : s.accepts cfg a) (bound : Time) :
    Standing (r.access.claimFile cfg.crypto) r.access.expiresAtUnix bound (s.step cfg a) := by
  obtain ⟨hok, hcm⟩ := claimed_of_accepts hcl h
  refine .inl ⟨r.access.claim, ?_, rfl⟩
  rw [hcm]
  exact (claimAccess_ok hok).2.2

/-- A request under a standing claim is accepted only once that claim has expired. -/
theorem expired_of_accepts {r : Request} {expires : Nat} (hcl : a.call = .request r)
    (hsn : Standing (r.access.claimFile cfg.crypto) expires a.now s) (h : s.accepts cfg a) :
    expires ≤ a.now.toNat := by
  rcases hsn with ⟨claim, hclm, rfl⟩ | hexp
  · by_contra hlate
    have hkt : lookup (r.access.claimFile cfg.crypto) (expireClaims cfg.crypto s.claims a.now a.failsAt).2 =
        some claim := by
      rw [expireClaims_left]
      exact walkClaims_keeps hclm (by omega)
    have hfree := (claimAccess_ok (claimed_of_accepts hcl h).1).2.1
    rw [hkt] at hfree
    cases hfree
  · exact hexp

/-- Of two accepted requests of a run with one grant and one nonce, the second comes when the first
    has expired. -/
def SingleUse (cfg : Config) (calls : List Arrival) : Prop :=
  ∀ earlier first between second later, calls = earlier ++ first :: between ++ second :: later →
    let s := run (step cfg) {} earlier
    s.accepts cfg first → (run (step cfg) (s.step cfg first) between).accepts cfg second →
    ∀ r r', first.call = .request r → second.call = .request r' → r.access.grantDigest = r'.access.grantDigest →
      nonceBytes r.access.nonceHex = nonceBytes r'.access.nonceHex → r.access.expiresAtUnix ≤ second.now.toNat

theorem SingleUse.pair {first second : Arrival} {r r' : Request} (h : SingleUse cfg [first, second])
    (hfst : accepts cfg {} first) (hsec : (step cfg {} first).accepts cfg second)
    (hcl : first.call = .request r) (hc' : second.call = .request r')
    (hgnt : r.access.grantDigest = r'.access.grantDigest)
    (hnon : nonceBytes r.access.nonceHex = nonceBytes r'.access.nonceHex) :
    r.access.expiresAtUnix ≤ second.now.toNat :=
  h [] first [] second [] rfl hfst hsec r r' hcl hc' hgnt hnon

/-- **Single use.** With lowercase nonces and a clock that does not go back, no request is accepted
    a second time while the first is unexpired. -/
theorem nonce_single_use (cfg : Config) (calls : List Arrival) (hnonce : ∀ a ∈ calls, a.CanonicalNonce)
    (hclock : calls.Pairwise fun a b => a.now ≤ b.now) : SingleUse cfg calls := by
  rintro earlier first between second later rfl s hfst hsec r r' hcl hc' hgnt hbs
  -- the two requests have one claim file
  have hcan := hnonce first (by simp) r hcl
  have hcanonical' := hnonce second (by simp) r' hc'
  obtain ⟨nonce, hbytes⟩ := nonce_of_accepts hcl hfst
  have htext : r.access.nonceHex = r'.access.nonceHex :=
    nonceHex_inj hcan hcanonical' hbytes (hbs ▸ hbytes)
  have hfe : r.access.claimFile cfg.crypto = r'.access.claimFile cfg.crypto := by
    unfold AccessRequest.claimFile
    rw [hgnt, htext]
  -- the first claim stands until the second call
  have hpre : ∀ a ∈ between, a.now ≤ second.now := by
    intro a ha
    have hordered : (first :: between ++ second :: later).Pairwise fun a b => a.now ≤ b.now := by
      rw [List.append_assoc] at hclock
      exact (List.pairwise_append.mp hclock).2.1
    exact (List.pairwise_append.mp hordered).2.2 a (List.mem_cons_of_mem _ ha) second List.mem_cons_self
  have hbeg := standing_of_accepts hcl hfst second.now
  have halong : Along (step cfg) (fun _ a => a.now ≤ second.now) (s.step cfg first) between :=
    Along.of_mem hpre _
  have hstd := halong.invariant
    (I := Standing (r.access.claimFile cfg.crypto) r.access.expiresAtUnix second.now)
    (fun _ _ hsn hnow => hsn.step hnow) hbeg
  rw [hfe] at hstd
  exact expired_of_accepts hc' hstd hsec

/-! ### A Relay with two tenants -/

/-- The last byte as a digest, and signatures that all verify. -/
def ending : Crypto where
  sum256 bytes := BitVec.ofNat 256 ((bytes.getLastD 0).toNat + 1)
  verify _ _ _ := true

def chain : Network where
  networkID := Canon.Field.utf8 "tos"
  genesisRootHash := Canon.hexEncode (List.replicate 32 1)
  genesisFileHash := Canon.hexEncode (List.replicate 32 2)

variable (agentID : AgentID) (mailboxID : MailboxID)

/-- The Endpoint of an Agent. -/
def tenant : Delegation where
  network := some chain
  agentID := agentID
  endpointID := ⟨agentID.digest⟩
  identityPublicKey := List.replicate 32 7
  allowedOutboundEventClasses := []
  notBefore := 1
  expiresAt := 10000

/-- A Relay that serves every Agent. -/
def hosting : Config where
  crypto := ending
  authority := { network := chain, delegation := fun agentID _ => .ok (tenant agentID) }
  quota := { maxMessages := 8, maxMessagesPerBox := 8, maxBytes := 4096, maxBytesPerBox := 4096, maxRetention := 4096 }
  relayKey := List.replicate 32 9

/-- A grant of an Agent's Endpoint for one operation on a mailbox. -/
def grantBy (operation : Operation) : CapabilityGrant where
  network := chain
  agentID := agentID
  endpointID := ⟨agentID.digest⟩
  relayPublicKeyHex := Canon.hexEncode hosting.relayKey
  mailboxID := mailboxID
  capabilityPublicKeyHex := Canon.hexEncode (List.replicate 32 11)
  operations := [operation]
  issuedAtUnix := 10
  expiresAtUnix := 10000
  endpointSignatureHex := Canon.hexEncode (List.replicate 64 3)

/-- A request under such a grant; the digest of its body and its nonce are given. -/
def requestUnder (body : Body) (bodyDigest : BitVec 256) (nonceHex : String) : Request where
  grant := grantBy agentID mailboxID body.operation
  access := {
    grantDigest := 17
    operation := body.operation
    mailboxID := mailboxID
    bodyDigest := bodyDigest
    nonceHex := nonceHex
    issuedAtUnix := 100
    expiresAtUnix := 200
    capabilitySignatureHex := Canon.hexEncode (List.replicate 64 3) }
  body := body

/-- A nonce of one letter. -/
def nonceOf (letter : Char) : String := String.ofList (List.replicate 64 letter)

/-- Such a request, with a nonce of one letter. -/
def arrival (body : Body) (bodyDigest : BitVec 256) (letter : Char) (now : Time) : Arrival where
  call := .request (requestUnder agentID mailboxID body bodyDigest (nonceOf letter))
  now := now

/-- A read of mailbox 5 by the first Endpoint. -/
def reading (letter : Char) (now : Time) : Arrival := arrival ⟨1⟩ ⟨5⟩ (.read 8) 9 letter now

theorem canonical_a : decodeFixedHex (nonceOf 'a') 32 ≠ none := by decide +kernel

theorem reading_canonical (now : Time) : (reading 'a' now).CanonicalNonce := by
  intro r hcl
  cases hcl
  exact canonical_a

theorem nonce_single_use_twice : SingleUse hosting [reading 'a' 100, reading 'a' 150] := by
  refine nonce_single_use hosting _ ?_ (by decide)
  intro a ha r hcl
  simp only [List.mem_cons, List.not_mem_nil, or_false] at ha
  rcases ha with rfl | rfl
  · exact reading_canonical 100 r hcl
  · exact reading_canonical 150 r hcl

/-- A request captured in lowercase is accepted again in uppercase: the bytes that were signed are
    the same, the claims are not. -/
theorem uppercase_replayed : ¬SingleUse hosting [reading 'a' 100, reading 'A' 150] := by
  obtain ⟨hfst, hsec⟩ : accepts hosting {} (reading 'a' 100) ∧
      (step hosting {} (reading 'a' 100)).accepts hosting (reading 'A' 150) := by decide +kernel
  have hnon : nonceBytes (nonceOf 'a') = nonceBytes (nonceOf 'A') := by decide +kernel
  intro h
  exact absurd (h.pair hfst hsec rfl rfl rfl hnon) (by decide)

/-! ## Progress -/

/-- No live claim is for the grant and the nonce of a request. -/
def Fresh (claims : Claims) (r : AccessRequest) (now : Time) : Prop :=
  ∀ name claim, lookup name claims = some claim → now.toNat < claim.expiresAtUnix →
    ¬(claim.grantDigest = r.grantDigest ∧ claim.nonceHex = r.nonceHex)

/-- The digest that names the claims does not collide between a request and the claims on disk. -/
def Collisionless (c : Crypto) (claims : Claims) (r : AccessRequest) : Prop :=
  ∀ name claim, lookup name claims = some claim → claimName c claim.grantDigest claim.nonceHex = r.claimFile c →
    claim.grantDigest = r.grantDigest ∧ claim.nonceHex = r.nonceHex

/-- Every fresh request that passes the checks is accepted while there is room for its claim. -/
def Serviceable (cfg : Config) (s : Relay) : Prop :=
  ∀ a r, a.call = .request r → a.failsAt = none → a.claiming = {} → cfg.authentic r a.now = .ok () →
    s.claims.live a.now.toNat < maxAccessClaims → Fresh s.claims r.access a.now →
    Collisionless cfg.crypto s.claims r.access → s.accepts cfg a

/-- Readable claims do not stand in the way. -/
theorem Readable.serviceable (h : Readable cfg.crypto s.claims) : Serviceable cfg s := by
  intro a r hcl hremoving hdk haut hrm hfr hcollisionless
  obtain ⟨hnow, message, hmsg⟩ := Config.authentic_canonical haut
  have hfree : ∀ claim, lookup (r.access.claimFile cfg.crypto) s.claims = some claim →
      claim.expiresAtUnix ≤ a.now.toNat := by
    intro claim hclm
    by_contra hlv
    -- a readable claim is under its own name
    obtain ⟨_, -, hchs⟩ := seq_ok.mp (h _ claim hclm)
    obtain ⟨_, -, hchs⟩ := seq_ok.mp hchs
    have hnm := not_not.mp (failIf_ok.mp hchs)
    exact hfr _ claim hclm (Nat.not_le.mp hlv) (hcollisionless _ claim hclm hnm.symm)
  rw [(claims_of_authentic hcl haut).1, hremoving, hdk, claimAccess_free hmsg hnow h hrm hfree]
  rfl

/-- **Progress.** After every run of requests with lowercase nonces, the claims on disk can be read
    back and a fresh request that passes the checks is accepted. -/
theorem fresh_accepted (cfg : Config) (calls : List Arrival)
    (hnonce : ∀ a ∈ calls, a.CanonicalNonce) : let s := run (Relay.step cfg) {} calls
    Readable cfg.crypto s.claims ∧ Serviceable cfg s := by
  intro s
  have halong : Along (step cfg) (fun _ a => a.CanonicalNonce) {} calls := Along.of_mem hnonce _
  have hrdb : Readable cfg.crypto s.claims :=
    halong.invariant (I := fun s => Readable cfg.crypto s.claims) (fun _ _ hrd hcan => hrd.step hcan)
      (readable_empty cfg.crypto)
  exact ⟨hrdb, hrdb.serviceable⟩

theorem fresh_accepted_reading : let s := run (Relay.step hosting) {} [reading 'a' 100]
    Readable hosting.crypto s.claims ∧ Serviceable hosting s := by
  apply fresh_accepted
  intro a ha
  rw [List.mem_singleton.mp ha]
  exact reading_canonical 100

/-- An accepted request with its nonce in uppercase leaves a claim that no later claim gets past. -/
theorem uppercase_blocks : ¬Serviceable hosting (run (Relay.step hosting) {} [reading 'A' 100]) := by
  -- no claim on disk is for the nonce of the second request, or under its name
  obtain ⟨haut, hrm, honly, href⟩ :
      hosting.authentic (requestUnder ⟨1⟩ ⟨5⟩ (.read 8) 9 (nonceOf 'b')) 150 = .ok () ∧
        (run (step hosting) {} [reading 'A' 100]).claims.live 150 < maxAccessClaims ∧
        ((run (step hosting) {} [reading 'A' 100]).claims.entries.all fun e => e.2.nonceHex ≠ nonceOf 'b' ∧
          claimName ending e.2.grantDigest e.2.nonceHex ≠ claimName ending 17 (nonceOf 'b')) ∧
        (run (step hosting) {} [reading 'A' 100]).accepts hosting (reading 'b' 150) = false := by decide +kernel
  have hoth := fun name claim hclm =>
    of_decide_eq_true (List.all_eq_true.mp honly ⟨name, claim⟩ (mem_lookup_iff.mp hclm))
  intro h
  have haccepted := h (reading 'b' 150) _ rfl rfl rfl haut hrm
    (fun name claim hclm _ hsm => (hoth name claim hclm).1 hsm.2)
    fun name claim hclm hnm => absurd hnm (hoth name claim hclm).2
  exact absurd (haccepted.symm.trans href) (by decide)

end Messenger.Mailbox
