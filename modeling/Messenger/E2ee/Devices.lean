import Messenger.Identity.Delegation
import Mathlib.Data.List.Sort

/-!
# `E2ee.Devices` — published device sets and how one succeeds another

An endpoint publishes one prekey bundle a device (`pkg/e2ee/bundle.go`). A receiver remembers a
summary of the set it accepted last and judges the next one against it (`pkg/e2ee/devices.go`): a
removed device never returns, and what is not a pure retirement must be strictly fresher.

- **Digests.** A bundle's digest is over its signed fields and a set's digest is over its bundles'
  digests in order. The signatures are not part of either.
- **What a digest determines.** Where no two of the hashed preimages collide (`Collisionless`), sets
  of one digest have the same devices and the same watermark (`summarize_determined`).
-/

namespace Messenger.E2ee

open Identity
open Canon (Field digestText)

/-! ## Bundles -/

def bundleSchema : String := "tos.messaging.prekey-bundle.v2"
def domainPrekeyBundle : String := "tos.messaging.prekey-bundle.v2\x00"
def domainPrekeyBundleSet : String := "tos.messaging.prekey-bundle-set.v2\x00"
def maxMaterialBytes : Nat := 4 * 1024
def maxBundleLifetimeSeconds : Nat := 30 * 24 * 60 * 60
def maxDevicesPerSet : Nat := 16

/-- `^tos\.messaging\.e2ee\.[a-z0-9-]{1,32}\.v[0-9]{1,3}$` -/
def algorithmPattern (text : String) : Bool :=
  let stem := "tos.messaging.e2ee.".toList
  let rest := text.toList.drop stem.length
  let name := rest.takeWhile (· ≠ '.')
  let version := rest.drop name.length
  stem.isPrefixOf text.toList && 1 ≤ name.length && name.length ≤ 32 &&
    name.all (fun c => ('a' ≤ c && c ≤ 'z') || ('0' ≤ c && c ≤ '9') || c = '-') &&
    ".v".toList.isPrefixOf version && 3 ≤ version.length && version.length ≤ 5 &&
    (version.drop 2).all fun c => '0' ≤ c && c ≤ '9'

/-- One device's published prekey material. -/
structure Bundle where
  network : Option Network
  agentID : AgentID
  endpointID : EndpointID
  deviceID : DeviceID
  algorithmID : String
  material : Bytes
  issuedAt : UInt64
  expiresAt : UInt64
  endpointSignature : Bytes
  deriving DecidableEq, Repr

def validateBundle (b : Bundle) (signed : Bool) : Except Failure Unit := do
  failIf (¬b.network.any Network.valid) "invalid bundle network domain"
  failIf (¬algorithmPattern b.algorithmID) "invalid end-to-end encryption algorithm identifier"
  failIf (b.material = [] ∨ maxMaterialBytes < b.material.length ∨ b.material.all (· = 0)) "invalid bundle material"
  failIf (b.issuedAt = 0 ∨ b.expiresAt ≤ b.issuedAt ∨ maxBundleLifetimeSeconds < (b.expiresAt - b.issuedAt).toNat)
    "invalid bundle validity window"
  failIf (signed ∧ b.endpointSignature.length ≠ signatureSize) "invalid bundle signature"

/-- The fields of a bundle that its endpoint signs. -/
def Bundle.fields (b : Bundle) (network : List Field) : List Field :=
  [.text bundleSchema] ++ network ++ [.text b.agentID.text, .text b.endpointID.text, .text b.deviceID.text,
    .text b.algorithmID, .bytes b.material, .uint64 b.issuedAt.toNat, .uint64 b.expiresAt.toNat]

def bundleSigningBytes (b : Bundle) : Except Failure Bytes := do
  validateBundle b false
  match b.network.bind Network.fields with
  | none => .error (.other "invalid canonical 32-byte hash")
  | some network => pure (Canon.preimage domainPrekeyBundle (b.fields network))

def bundleDigest (c : Crypto) (b : Bundle) : Except Failure (BitVec 256) := do
  let preimage ← bundleSigningBytes b
  pure (c.sum256 preimage)

/-! ## Sets -/

/-- The loop over a set: every bundle is valid, belongs where the first does, and names a new
    device. -/
def validateBundles (first : Bundle) : List DeviceID → List Bundle → Except Failure Unit
  | _, [] => .ok ()
  | seen, b :: rest => do
    validateBundle b true
    failIf (b.endpointID ≠ first.endpointID) "a prekey bundle set belongs to one endpoint"
    failIf (b.agentID ≠ first.agentID) "a prekey bundle set belongs to one Agent"
    failIf (b.network ≠ first.network) "a prekey bundle set belongs to one network"
    failIf (b.algorithmID ≠ first.algorithmID) "a prekey bundle set uses one suite"
    failIf (b.deviceID ∈ seen) "a prekey bundle set cannot list one device twice"
    validateBundles first (b.deviceID :: seen) rest

def validateSet (bundles : List Bundle) : Except Failure Unit :=
  match bundles with
  | [] => .error (.other "invalid prekey bundle set size")
  | first :: rest => do
    failIf (maxDevicesPerSet < (first :: rest).length) "invalid prekey bundle set size"
    validateBundles first [] (first :: rest)

variable {bundles s : List Bundle} {c : Crypto} {b : Bundle} {x : Bytes}

theorem validateSet_length (h : validateSet bundles = .ok ()) : bundles.length ≤ maxDevicesPerSet := by
  cases bundles with
  | nil => exact Nat.zero_le _
  | cons first rest =>
    obtain ⟨hsi, -⟩ := failIf_then.mp h
    exact not_lt.mp hsi

/-- What a descriptor commits to: the digests of the bundles in order. -/
def setCanonicalBytes (c : Crypto) (bundles : List Bundle) : Except Failure Bytes := do
  validateSet bundles
  let digests ← bundles.mapM (bundleDigest c)
  let sorted := digests.insertionSort (· ≤ ·)
  pure (Canon.preimage domainPrekeyBundleSet (.uint32 sorted.length :: sorted.map fun d => .text (digestText d)))

def setDigest (c : Crypto) (bundles : List Bundle) : Except Failure (BitVec 256) := do
  let preimage ← setCanonicalBytes c bundles
  pure (c.sum256 preimage)

/-- What a receiver remembers about a device set. -/
structure SetSummary where
  digest : BitVec 256
  endpointID : EndpointID
  deviceIDs : List DeviceID
  bundleDigests : List (BitVec 256)
  newestIssuedAt : Nat
  deriving DecidableEq, Repr

/-- The freshest issuance of a set. -/
def newestIssuedAt (bundles : List Bundle) : Nat := bundles.foldl (fun newest b => max newest b.issuedAt.toNat) 0

/-- Reduce a valid set to what succession is judged on. -/
def summarize (c : Crypto) (bundles : List Bundle) : Except Failure SetSummary :=
  match bundles with
  | [] => .error (.other "invalid prekey bundle set size")
  | first :: rest => do
    validateSet (first :: rest)
    let digest ← setDigest c (first :: rest)
    let bundleDigests ← (first :: rest).mapM (bundleDigest c)
    pure { digest := digest
           endpointID := first.endpointID
           deviceIDs := ((first :: rest).map Bundle.deviceID).insertionSort (· ≤ ·)
           bundleDigests := bundleDigests.insertionSort (· ≤ ·)
           newestIssuedAt := newestIssuedAt (first :: rest) }

/-! ## Succession -/

/-- The outcome of judging a successor set. -/
structure Succession where
  accepted : SetSummary
  removed : List DeviceID
  deriving DecidableEq, Repr

def missingFrom (current next : List DeviceID) : List DeviceID := current.filter (· ∉ next)

def isSubset (smaller larger : List (BitVec 256)) : Bool := smaller.all (· ∈ larger)

/-- May a set replace the one on record? `none` is a peer never seen before. -/
def succeed (c : Crypto) (current : Option SetSummary) (tombstones : List DeviceID)
    (next : List Bundle) : Except Failure Succession := do
  let summary ← summarize c next
  failIf (current.any fun cur => summary.endpointID ≠ cur.endpointID) "a device set cannot change whose it is"
  failIf (summary.deviceIDs.any (· ∈ tombstones)) "a revoked device cannot return to the set"
  match current with
  | none => pure ⟨summary, []⟩
  | some cur =>
    if summary.digest = cur.digest then pure ⟨summary, []⟩
    else if summary.newestIssuedAt < cur.newestIssuedAt then .error .setRollback
    else if isSubset summary.bundleDigests cur.bundleDigests then do
      -- a pure retirement: nothing new was issued and devices only left
      failIf (missingFrom cur.deviceIDs summary.deviceIDs = []) "a successor set must change something"
      pure ⟨summary, missingFrom cur.deviceIDs summary.deviceIDs⟩
    else if summary.newestIssuedAt = cur.newestIssuedAt then .error .setEquivocation
    else pure ⟨summary, missingFrom cur.deviceIDs summary.deviceIDs⟩

/-- **What an accepted succession is.** A first sight, the set on record again, or a set that leaves
    the one on record behind for good: it removes one of its devices or is strictly fresher. -/
theorem succeed_ok {current : Option SetSummary} {tombstones : List DeviceID} {next : List Bundle}
    {s : Succession} (h : succeed c current tombstones next = .ok s) :
    summarize c next = .ok s.accepted ∧ (∀ device ∈ s.accepted.deviceIDs, device ∉ tombstones) ∧
      ((s.removed = [] ∧ ∀ cur ∈ current, s.accepted.digest = cur.digest) ∨
        ∃ cur, current = some cur ∧ s.accepted.digest ≠ cur.digest ∧
          s.removed = missingFrom cur.deviceIDs s.accepted.deviceIDs ∧
          cur.newestIssuedAt ≤ s.accepted.newestIssuedAt ∧
          (s.removed ≠ [] ∨ cur.newestIssuedAt < s.accepted.newestIssuedAt)) := by
  simp only [succeed, seq_ok, failIf_ok] at h
  obtain ⟨summary, hsu, _, -, _, htombstones, h⟩ := h
  have hlv : ∀ device ∈ summary.deviceIDs, device ∉ tombstones := by
    intro device hdev hmem
    refine htombstones ?_
    exact List.any_eq_true.mpr ⟨device, hdev, decide_eq_true hmem⟩
  cases current with
  | none =>
    cases h
    exact ⟨hsu, hlv, .inl ⟨rfl, fun _ hcur => nomatch hcur⟩⟩
  | some cur =>
    dsimp only at h
    split_ifs at h with hsm holder hsubset hequal
    · cases h
      refine ⟨hsu, hlv, .inl ⟨rfl, ?_⟩⟩
      intro cur' hcur
      cases hcur
      exact hsm
    · obtain ⟨hrem, h⟩ := failIf_then.mp h
      cases h
      exact ⟨hsu, hlv, .inr ⟨cur, rfl, hsm, rfl, not_lt.mp holder, .inl hrem⟩⟩
    cases h
    have hlt : cur.newestIssuedAt < summary.newestIssuedAt := by
      have := not_lt.mp holder
      omega
    exact ⟨hsu, hlv, .inr ⟨cur, rfl, hsm, rfl, hlt.le, .inr hlt⟩⟩

/-! ## What a digest determines -/

/-- The preimages hashed when a set is judged. -/
def hashed (c : Crypto) (bundles : List Bundle) : List Bytes :=
  (bundles.filterMap fun b => (bundleSigningBytes b).toOption) ++ (setCanonicalBytes c bundles).toOption.toList

/-- No two preimages of these sets collide. -/
def Collisionless (c : Crypto) (sets : List (List Bundle)) : Prop :=
  ∀ x ∈ sets.flatMap (hashed c), ∀ y ∈ sets.flatMap (hashed c), c.sum256 x = c.sum256 y → x = y

theorem mem_hashed_bundle (hb : b ∈ bundles) (hx : bundleSigningBytes b = .ok x) : x ∈ hashed c bundles := by
  refine List.mem_append_left _ (List.mem_filterMap.mpr ⟨b, hb, ?_⟩)
  rw [hx]
  rfl

theorem mem_hashed_set (hx : setCanonicalBytes c bundles = .ok x) : x ∈ hashed c bundles := by
  refine List.mem_append_right _ ?_
  rw [hx]
  exact List.mem_singleton.mpr rfl

theorem algorithmPattern_size {text : String} (h : algorithmPattern text) : text.utf8ByteSize < 2 ^ 32 := by
  unfold algorithmPattern at h
  simp only [Bool.and_eq_true, decide_eq_true_eq] at h
  obtain ⟨⟨⟨⟨⟨⟨⟨hstem, -⟩, hnm⟩, -⟩, -⟩, -⟩, hvn⟩, -⟩ := h
  have hsi := Canon.utf8ByteSize_ofList_le text.toList
  rw [String.ofList_toList] at hsi
  have hre : (text.toList.drop "tos.messaging.e2ee.".toList.length).length ≤ 37 := by
    rw [List.length_drop] at hvn
    omega
  have hlen : text.toList.length ≤ 19 + 37 := by
    rw [List.length_drop] at hre
    have : "tos.messaging.e2ee.".toList.length = 19 := by decide
    omega
  omega

/-- The kinds of a bundle's fields are fixed, and each fits its length word. -/
theorem Bundle.fields_fit {network : List Field} (hval : validateBundle b false = .ok ())
    (hnet : b.network.bind Network.fields = some network) :
    (b.fields network).map Field.kind =
        [.text, .bytes, .bytes, .bytes, .text, .text, .text, .text, .bytes, .uint64, .uint64] ∧
      ∀ f ∈ b.fields network, f.Fits := by
  simp only [validateBundle, seq_ok, failIf_ok] at hval
  obtain ⟨_, hdom, _, halg, _, hmaterial, hval⟩ := hval
  push Not at hdom halg hmaterial
  obtain ⟨n, hn, hfd⟩ := Option.bind_eq_some_iff.mp hnet
  rw [hn, Option.any_some] at hdom
  obtain ⟨root, file, rfl, hnm, hrt, hfe⟩ := Network.fields_some hdom hfd
  refine ⟨rfl, ?_⟩
  intro f hf
  simp only [Bundle.fields, List.cons_append, List.nil_append, List.mem_cons, List.not_mem_nil, or_false] at hf
  rcases hf with rfl | rfl | rfl | rfl | rfl | rfl | rfl | rfl | rfl | rfl | rfl
  · show bundleSchema.utf8ByteSize < 2 ^ 32
    decide
  · exact hnm
  · exact hrt
  · exact hfe
  · exact b.agentID.text_fits
  · exact b.endpointID.text_fits
  · exact b.deviceID.text_fits
  · exact algorithmPattern_size halg
  · show b.material.length < 2 ^ 32
    have : maxMaterialBytes < 2 ^ 32 := by decide
    omega
  · exact b.issuedAt.toNat_lt
  · exact b.expiresAt.toNat_lt

/-- **A bundle's preimage determines its device and its issuance.** -/
theorem bundleSigningBytes_inj {b' : Bundle} (h : bundleSigningBytes b = .ok x)
    (h' : bundleSigningBytes b' = .ok x) : b.deviceID = b'.deviceID ∧ b.issuedAt = b'.issuedAt := by
  have hparts : ∀ {b : Bundle}, bundleSigningBytes b = .ok x → ∃ network, validateBundle b false = .ok () ∧
      b.network.bind Network.fields = some network ∧ x = Canon.preimage domainPrekeyBundle (b.fields network) := by
    intro b h
    obtain ⟨_, hval, h⟩ := seq_ok.mp h
    cases hnet : b.network.bind Network.fields with
    | none =>
      rw [hnet] at h
      cases h
    | some network =>
      rw [hnet] at h
      cases h
      exact ⟨network, hval, rfl, rfl⟩
  obtain ⟨network, hval, hnet, hx⟩ := hparts h
  obtain ⟨network', hval', hnet', hx'⟩ := hparts h'
  obtain ⟨hkinds, hfit⟩ := Bundle.fields_fit hval hnet
  obtain ⟨hkinds', hfit'⟩ := Bundle.fields_fit hval' hnet'
  have hfd : b.fields network = b'.fields network' :=
    Canon.preimage_inj (hkinds.trans hkinds'.symm) hfit hfit' (hx.symm.trans hx')
  have hlen : network.length = network'.length := by
    have := congrArg List.length hfd
    simp only [Bundle.fields, List.length_append, List.length_cons, List.length_nil] at this
    omega
  unfold Bundle.fields at hfd
  rw [List.append_assoc, List.append_assoc] at hfd
  obtain ⟨-, hre⟩ := List.append_inj hfd rfl
  obtain ⟨-, htl⟩ := List.append_inj hre hlen
  simp only [List.cons.injEq, Field.text.injEq, Field.uint64.injEq] at htl
  exact ⟨Identifier.text_inj htl.2.2.1, UInt64.toNat_inj.mp htl.2.2.2.2.2.1⟩

/-- **A set's preimage determines its bundles' digests.** -/
theorem setCanonicalBytes_inj {t : List Bundle} (hs : setCanonicalBytes c s = .ok x)
    (ht : setCanonicalBytes c t = .ok x) {d : BitVec 256} (hb : b ∈ s)
    (hd : bundleDigest c b = .ok d) : ∃ b' ∈ t, bundleDigest c b' = .ok d := by
  have hparts : ∀ {s : List Bundle}, setCanonicalBytes c s = .ok x → ∃ digests, s.mapM (bundleDigest c) = .ok digests ∧
      (digests.insertionSort (· ≤ ·)).length < 2 ^ 32 ∧ x = Canon.preimage domainPrekeyBundleSet
        (.uint32 (digests.insertionSort (· ≤ ·)).length ::
          (digests.insertionSort (· ≤ ·)).map fun d => .text (digestText d)) := by
    intro s h
    obtain ⟨_, hval, h⟩ := seq_ok.mp h
    obtain ⟨digests, hdigests, h⟩ := seq_ok.mp h
    cases h
    refine ⟨digests, hdigests, ?_, rfl⟩
    rw [List.length_insertionSort, mapM_length hdigests]
    have := validateSet_length hval
    have : maxDevicesPerSet < 2 ^ 32 := by decide
    omega
  obtain ⟨ds, hds, hdsLe, hx⟩ := hparts hs
  obtain ⟨dt, hdt, hdtLe, hx'⟩ := hparts ht
  have hsrt : ds.insertionSort (· ≤ ·) = dt.insertionSort (· ≤ ·) :=
    Canon.counted_texts_inj (fun _ _ => Canon.digestText_inj) Canon.digestText_fits hdsLe hdtLe
      (List.append_cancel_left (hx.symm.trans hx'))
  obtain ⟨e, he, hbe⟩ := (mapM_ok_mem hds).1 b hb
  rw [hd] at hbe
  cases hbe
  have hmem : d ∈ dt := by
    have : d ∈ ds.insertionSort (· ≤ ·) := (List.mem_insertionSort _).mpr he
    rw [hsrt] at this
    exact (List.mem_insertionSort _).mp this
  obtain ⟨b', hb', hdb'⟩ := (mapM_ok_mem hdt).2 d hmem
  exact ⟨b', hb', hdb'⟩

/-- The watermark is the least bound of the issuances. -/
theorem newestIssuedAt_le_iff {n : Nat} : newestIssuedAt bundles ≤ n ↔ ∀ b ∈ bundles, b.issuedAt.toNat ≤ n := by
  have general : ∀ start, bundles.foldl (fun newest b => max newest b.issuedAt.toNat) start ≤ n ↔
      start ≤ n ∧ ∀ b ∈ bundles, b.issuedAt.toNat ≤ n := by
    induction bundles with
    | nil => simp
    | cons b rest ih =>
      intro start
      rw [List.foldl_cons, ih, max_le_iff, List.forall_mem_cons, and_assoc]
  rw [newestIssuedAt, general]
  exact and_iff_right (Nat.zero_le n)

/-- What a summary says about its set. -/
theorem summarize_ok {summary : SetSummary} (h : summarize c s = .ok summary) :
    setDigest c s = .ok summary.digest ∧ (∀ b ∈ s, ∃ d, bundleDigest c b = .ok d) ∧
      (∀ device, device ∈ summary.deviceIDs ↔ ∃ b ∈ s, b.deviceID = device) ∧
      summary.newestIssuedAt = newestIssuedAt s := by
  cases s with
  | nil => cases h
  | cons first rest =>
    simp only [summarize, seq_ok] at h
    obtain ⟨_, -, digest, hdig, bundleDigests, hbun, h⟩ := h
    cases h
    refine ⟨hdig, ?_, ?_, rfl⟩
    · intro b hb
      obtain ⟨d, -, hd⟩ := (mapM_ok_mem hbun).1 b hb
      exact ⟨d, hd⟩
    · intro device
      rw [List.mem_insertionSort, List.mem_map]

/-- **Sets of one digest have the same devices and the same watermark**, where nothing that was
    hashed collides. -/
theorem summarize_determined {sets : List (List Bundle)} (hc : Collisionless c sets) {t : List Bundle} (hs : s ∈ sets)
    (ht : t ∈ sets) {a b : SetSummary} (ha : summarize c s = .ok a) (hb : summarize c t = .ok b)
    (hdig : a.digest = b.digest) :
    (∀ device ∈ a.deviceIDs, device ∈ b.deviceIDs) ∧ a.newestIssuedAt ≤ b.newestIssuedAt := by
  obtain ⟨haSet, haBun, haDev, haNew⟩ := summarize_ok ha
  obtain ⟨hbSet, hbBun, hbDev, hbNew⟩ := summarize_ok hb
  obtain ⟨x, hx, hax⟩ := seq_ok.mp haSet
  obtain ⟨y, hy, hby⟩ := seq_ok.mp hbSet
  have hmem : ∀ {u : List Bundle} {z : Bytes}, u ∈ sets → z ∈ hashed c u → z ∈ sets.flatMap (hashed c) :=
    fun hu hz => List.mem_flatMap.mpr ⟨_, hu, hz⟩
  have hxy : x = y := by
    refine hc x (hmem hs (mem_hashed_set hx)) y (hmem ht (mem_hashed_set hy)) ?_
    rw [show c.sum256 x = a.digest from Except.ok.inj hax, show c.sum256 y = b.digest from Except.ok.inj hby, hdig]
  subst hxy
  -- each bundle of one set has its like in the other
  have hlike : ∀ u ∈ s, ∃ v ∈ t, u.deviceID = v.deviceID ∧ u.issuedAt = v.issuedAt := by
    intro u hu
    obtain ⟨d, hd⟩ := haBun u hu
    obtain ⟨v, hv, hdv⟩ := setCanonicalBytes_inj hx hy hu hd
    obtain ⟨p, hp, hdp⟩ := seq_ok.mp hd
    obtain ⟨q, hq, hdq⟩ := seq_ok.mp hdv
    have hpq : p = q := by
      refine hc p (hmem hs (mem_hashed_bundle hu hp)) q (hmem ht (mem_hashed_bundle hv hq)) ?_
      rw [show c.sum256 p = d from Except.ok.inj hdp, show c.sum256 q = d from Except.ok.inj hdq]
    subst hpq
    exact ⟨v, hv, bundleSigningBytes_inj hp hq⟩
  refine ⟨?_, ?_⟩
  · intro device hdev
    obtain ⟨u, hu, rfl⟩ := (haDev device).mp hdev
    obtain ⟨v, hv, hsm, -⟩ := hlike u hu
    exact (hbDev _).mpr ⟨v, hv, hsm.symm⟩
  rw [haNew, hbNew, newestIssuedAt_le_iff]
  intro u hu
  obtain ⟨v, hv, -, hsm⟩ := hlike u hu
  rw [hsm]
  exact newestIssuedAt_le_iff.mp (Nat.le_refl (newestIssuedAt t)) v hv

end Messenger.E2ee
