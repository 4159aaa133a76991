import Messenger.Attachments.Access

/-!
# `Attachments.Storage` — the store of encrypted attachments and the requests it serves

The durable store of a storage operator and the authenticated operations over it
(`pkg/attachments/store.go`, `remote_auth.go`).

- **State.** All of it is on disk: the ciphertext objects by their digest, the leases by the digest
  of their manifest, the claims and their clock. A restart changes nothing. A lease does not say
  under whose grant it was committed.
- **Objects.** An upload stages its chunks one by one; `failsAt` is the chunk at which the disk
  fails, if it does. The time an object was last sent is the time of the call.
- **Claims.** `removing` is the number of expired claims after whose removal the disk fails, if it
  does.
- **Collection.** `collects` is the number of removals after which the disk fails, if it does.
-/

namespace Messenger.Attachments

open Lib Identity
open Canon (Field preimage digestText)
open Eventlog (Written Medium)

/-! ## Objects and leases -/

structure Chunk where
  index : Nat
  digest : BitVec 256
  ciphertext : Bytes
  deriving DecidableEq, Repr

/-- What a storage operator needs of an attachment. -/
structure StorageLease where
  manifestDigest : BitVec 256
  chunkDigests : List (BitVec 256)
  expiresAtUnix : Nat
  deriving DecidableEq, Repr

/-- A stored ciphertext and when it was last sent. -/
structure Object where
  ciphertext : Bytes
  modified : Time
  deriving DecidableEq, Repr

abbrev Objects := Dir (BitVec 256) Object
abbrev Leases := Dir (BitVec 256) StorageLease

/-- What one store may hold; the retention is in seconds. -/
structure StoreQuota where
  maxLeases : Nat
  maxObjects : Nat
  maxBytes : Nat
  maxRetention : Nat
  deriving DecidableEq, Repr

def storeConflict (what : String) : Failure := .other ("attachment store conflict: " ++ what)
def leaseConflict : Failure := storeConflict "manifest conflicts with its stored lease"
def leaseNotFound : Failure := .other "attachment lease not found"

/-- The size of a ciphertext chunk: its plaintext and an authentication tag. -/
def badSize (ciphertext : Bytes) : Prop := ciphertext.length ≤ 16 ∨ maxChunkBytes + 16 < ciphertext.length

instance (ciphertext : Bytes) : Decidable (badSize ciphertext) := inferInstanceAs (Decidable (_ ∨ _))

/-- The chunks of a batch, one after the other; `total` is the size of those before. -/
def validateChunks (c : Crypto) (seen : List (BitVec 256)) (total : Nat) : List Chunk → Except Failure Unit
  | [] => .ok ()
  | chunk :: chunks => do
    failIf (maxChunks ≤ chunk.index ∨ chunk.digest = 0 ∨ badSize chunk.ciphertext ∨
      c.sum256 chunk.ciphertext ≠ chunk.digest) "invalid opaque attachment ciphertext chunk"
    failIf (chunk.digest ∈ seen) "duplicate opaque attachment ciphertext chunk"
    failIf (maxPlaintextBytes + maxChunks * 16 < total + chunk.ciphertext.length)
      "opaque attachment ciphertext exceeds its bound"
    validateChunks c (chunk.digest :: seen) (total + chunk.ciphertext.length) chunks

def validateOpaqueChunkBatch (c : Crypto) (chunks : List Chunk) : Except Failure Unit := do
  failIf (chunks = [] ∨ maxChunks < chunks.length) "invalid opaque attachment chunk batch"
  validateChunks c [] 0 chunks

def validateStorageLeaseMetadata (value : StorageLease) (now : Time) (maxRetention : Nat) : Except Failure Unit := do
  failIf (value.manifestDigest = 0 ∨ value.chunkDigests = [] ∨ maxChunks < value.chunkDigests.length ∨ now < 0 ∨
    value.expiresAtUnix ≤ now.toNat ∨ maxRetention < value.expiresAtUnix - now.toNat) "invalid attachment storage lease"
  distinctDigests "invalid attachment storage lease digest" "duplicate attachment storage lease digest" []
    value.chunkDigests

namespace Objects

variable (c : Crypto) (objects : Objects)

/-- A stored object whose content is what its name says. -/
def read (digest : BitVec 256) : Option Bytes :=
  ((lookup digest objects).map Object.ciphertext).filter fun raw => c.sum256 raw = digest

/-- The number and the size of the chunks that are not stored yet. -/
def newObjectCost (objects : Objects) : List Chunk → Except Failure (Nat × Nat)
  | [] => .ok (0, 0)
  | chunk :: chunks =>
    match lookup chunk.digest objects with
    | none => do
      let (count, size) ← newObjectCost objects chunks
      pure (count + 1, size + chunk.ciphertext.length)
    | some object =>
      if object.ciphertext ≠ chunk.ciphertext then .error (storeConflict "stored object differs")
      else newObjectCost objects chunks

/-- The number and the size of what is stored, all of which has to be readable. -/
def usage : Except Failure (Nat × Nat) := do
  let sizes ← objects.names.mapM fun digest => do
    let raw ← required (objects.read c digest) "invalid attachment object"
    pure raw.length
  pure (sizes.length, sizes.sum)

/-- Store one chunk, or note that it was sent again. -/
def putObject (chunk : Chunk) (now : Time) : Except Failure Objects :=
  match lookup chunk.digest objects with
  | some object =>
    if object.ciphertext ≠ chunk.ciphertext then .error (storeConflict "stored object differs")
    else .ok (AList.insert chunk.digest { object with modified := now } objects)
  | none => .ok (AList.insert chunk.digest { ciphertext := chunk.ciphertext, modified := now } objects)

/-- Store chunks in order, up to the first failure. -/
def putEach (now : Time) : List Chunk → Option Nat → Objects → Except Failure Unit × Objects
  | [], _, objects => (.ok (), objects)
  | _ :: _, some 0, objects => (.error (.other "write attachment record"), objects)
  | chunk :: chunks, failsAt, objects =>
    match putObject objects chunk now with
    | .error failure => (.error failure, objects)
    | .ok objects => putEach now chunks (failsAt.map (· - 1)) objects

def judgeObjects (quota : StoreQuota) (objects : Objects) (chunks : List Chunk) : Except Failure Unit := do
  validateOpaqueChunkBatch c chunks
  let (newObjects, newBytes) ← objects.newObjectCost chunks
  let (count, heldBytes) ← objects.usage c
  if quota.maxObjects < count + newObjects ∨ quota.maxBytes < heldBytes + newBytes then .error storeQuota else pure ()

/-- Stage chunks without publishing a lease. -/
def putObjects (quota : StoreQuota) (objects : Objects) (chunks : List Chunk) (now : Time)
    (failsAt : Option Nat) : Except Failure Unit × Objects :=
  match objects.judgeObjects c quota chunks with
  | .error failure => (.error failure, objects)
  | .ok _ => putEach now chunks failsAt objects

/-- All objects of a lease are there and have the size that was granted. -/
def verifyLeaseObjects (digests : List (BitVec 256)) (expectedBytes : Nat) : Except Failure Unit :=
  match digests.mapM (objects.read c) with
  | none => .error leaseNotFound
  | some raws =>
    if (raws.map List.length).sum ≠ expectedBytes then
      .error (storeConflict "ciphertext byte count differs") else .ok ()

end Objects

/-- The checks of a lease that is read back. -/
def readLease (digest : BitVec 256) (value : StorageLease) : Except Failure StorageLease := do
  failIf (value.manifestDigest ≠ digest ∨ digest = 0 ∨ value.chunkDigests = [] ∨ maxChunks < value.chunkDigests.length ∨
    value.expiresAtUnix = 0 ∨ 0 ∈ value.chunkDigests) "invalid attachment lease"
  pure value

namespace Leases

def all (leases : Leases) : Except Failure (List StorageLease) :=
  leases.names.mapM fun digest =>
    match lookup digest leases with
    | some value => readLease digest value
    | none => .error (.other "invalid attachment lease set")

/-- Whether a lease is to be written; `false` when an equal one is there. -/
def judgeCommit (c : Crypto) (quota : StoreQuota) (leases : Leases) (objects : Objects)
    (value : StorageLease) (ciphertextBytes : Nat) (now : Time) : Except Failure Bool := do
  validateStorageLeaseMetadata value now quota.maxRetention
  failIf (ciphertextBytes = 0) "invalid attachment ciphertext byte count"
  match lookup value.manifestDigest leases with
  | some existing =>
    let existing ← readLease value.manifestDigest existing
    if existing ≠ value then .error leaseConflict
    else do
      objects.verifyLeaseObjects c value.chunkDigests ciphertextBytes
      pure false
  | none =>
    let held ← leases.all
    if quota.maxLeases ≤ held.length then .error storeQuota
    else do
      objects.verifyLeaseObjects c value.chunkDigests ciphertextBytes
      pure true

/-- The chunks of a live lease that are asked for, and the lease's expiry. -/
def fetchOpaque (c : Crypto) (leases : Leases) (objects : Objects) (manifestDigest : BitVec 256)
    (digests : List (BitVec 256)) (now : Time) : Except Failure (List Chunk × Nat) := do
  failIf (manifestDigest = 0 ∨ digests = [] ∨ maxChunks < digests.length ∨ now < 0) "invalid attachment object fetch"
  distinctDigests "invalid attachment object digest" "duplicate attachment object digest" [] digests
  match lookup manifestDigest leases with
  | none => .error leaseNotFound
  | some stored =>
    let stored ← readLease manifestDigest stored
    if stored.expiresAtUnix ≤ now.toNat then .error leaseNotFound
    else do
      let chunks ← digests.mapM fun digest => do
        let index ← required (stored.chunkDigests.idxOf? digest) "attachment object is outside its lease"
        let raw ← required (objects.read c digest) "attachment ciphertext object is missing or corrupt"
        pure { index, digest, ciphertext := raw }
      pure (chunks, stored.expiresAtUnix)

end Leases

/-! ## Collection -/

/-- What is on disk. -/
structure Store where
  objects : Objects := ∅
  leases : Leases := ∅
  replay : Replay := {}

namespace Store

/-- The leases that have expired and the objects no live lease names and no upload has sent within
    the grace. Everything is read before anything is removed. -/
def judgeGC (c : Crypto) (s : Store) (now : Time) (stagingGrace : Nat) :
    Except Failure (List (BitVec 256) × List (BitVec 256)) := do
  failIf (now < 0) "invalid attachment GC time"
  failIf (24 * 60 * 60 < stagingGrace) "invalid attachment staging grace"
  let held ← s.leases.all
  let expired := held.filter fun lease => lease.expiresAtUnix ≤ now.toNat
  let referenced := (held.filter fun lease => now.toNat < lease.expiresAtUnix).flatMap StorageLease.chunkDigests
  let unread := s.objects.names.filter fun digest => (s.objects.read c digest).isNone
  failIf (unread ≠ []) "invalid attachment object"
  let loose := s.objects.names.filter fun digest => digest ∉ referenced ∧
    (stagingGrace = 0 ∨ (lookup digest s.objects).any fun object => object.modified + stagingGrace ≤ now)
  pure (expired.map StorageLease.manifestDigest, loose)

/-- Without these leases and these objects. -/
def remove (s : Store) (leases objects : List (BitVec 256)) : Store where
  leases := leases.foldl (fun leases digest => AList.erase digest leases) s.leases
  objects := objects.foldl (fun objects digest => AList.erase digest objects) s.objects
  replay := s.replay

/-- What collection reports when `budget` of its removals succeed. -/
def report (expired loose budget : Nat) : Except Failure (Nat × Nat) :=
  if budget < expired then .error (.other "remove expired attachment lease")
  else if budget < expired + loose then .error (.other "remove attachment object")
  else .ok (expired, loose)

/-- Remove expired leases, then loose objects. -/
def gc (c : Crypto) (s : Store) (now : Time) (stagingGrace : Nat) (collects : Option Nat) :
    Except Failure (Nat × Nat) × Store :=
  match s.judgeGC c now stagingGrace with
  | .error failure => (.error failure, s)
  | .ok (expired, loose) =>
    let budget := collects.getD (expired.length + loose.length)
    (report expired.length loose.length budget, s.remove (expired.take budget) (loose.take (budget - expired.length)))

end Store

/-! ## The service -/

/-- What an operation is about. -/
inductive Body where
  | upload (chunks : List Chunk)
  | fetch (digests : List (BitVec 256))
  | delete
  deriving DecidableEq, Repr

def Body.operation : Body → Operation
  | .upload _ => .upload
  | .fetch _ => .fetch
  | .delete => .delete

/-- The start of every body's digest. -/
def operationBody (c : Crypto) (operation : Operation) (fields : List Field) : BitVec 256 :=
  c.sum256 (preimage "tos.messaging.attachment-operation-body.v1\x00" (.text operation.name :: fields))

/-- The fields of the chunks of an upload, each of which has to be at its place in the grant;
    `total` is the size of those before. -/
def uploadFields (c : Crypto) (g : CapabilityGrant) (seen : List (BitVec 256)) (total : Nat) :
    List Chunk → Except Failure (List Field × Nat)
  | [] => .ok ([], total)
  | chunk :: chunks => do
    failIf (g.chunkDigests.idxOf? chunk.digest ≠ some chunk.index ∨ badSize chunk.ciphertext ∨
      c.sum256 chunk.ciphertext ≠ chunk.digest) "invalid attachment upload chunk"
    failIf (chunk.digest ∈ seen) "duplicate attachment upload chunk"
    let (fields, total) ← uploadFields c g (chunk.digest :: seen) (total + chunk.ciphertext.length) chunks
    pure ([.uint32 chunk.index, .text (digestText chunk.digest), .uint64 chunk.ciphertext.length] ++ fields, total)

/-- The digests of a fetch, which have to be in the grant. -/
def fetchFields (g : CapabilityGrant) (seen : List (BitVec 256)) : List (BitVec 256) → Except Failure (List Field)
  | [] => .ok []
  | digest :: digests => do
    failIf (digest ∉ g.chunkDigests) "attachment fetch requests an object outside its grant"
    failIf (digest ∈ seen) "attachment fetch repeats an object"
    let fields ← fetchFields g (digest :: seen) digests
    pure (.text (digestText digest) :: fields)

def Body.digest (c : Crypto) (g : CapabilityGrant) : Body → Except Failure (BitVec 256)
  | .upload chunks => do
    let _ ← g.validate
    failIf (chunks = [] ∨ g.chunkDigests.length < chunks.length) "invalid attachment upload batch"
    let (fields, total) ← uploadFields c g [] 0 chunks
    failIf (g.ciphertextBytes < total) "attachment upload byte count exceeds its grant"
    pure (operationBody c .upload ([.text (digestText g.manifestDigest), .uint64 g.retainUntilUnix,
      .uint32 chunks.length] ++ fields))
  | .fetch digests => do
    let _ ← g.validate
    failIf (digests = [] ∨ maxChunks < digests.length) "invalid attachment fetch set"
    let fields ← fetchFields g [] digests
    pure (operationBody c .fetch ([.text (digestText g.manifestDigest), .uint32 digests.length] ++ fields))
  | .delete => do
    let _ ← g.validate
    pure (operationBody c .delete [.text (digestText g.manifestDigest)])

/-- A store's configuration and what it rests on. -/
structure Config where
  crypto : Crypto
  authority : Authority
  quota : StoreQuota
  storageKey : Bytes

structure Request where
  grant : CapabilityGrant
  access : AccessRequest
  body : Body
  deriving DecidableEq, Repr

inductive Call where
  | request (r : Request)
  | gc (stagingGrace : Nat)
  | restart
  deriving DecidableEq, Repr

/-- A call, its time, and what the disk does meanwhile. -/
structure Arrival where
  call : Call
  now : Time
  clocked : Written := .done
  removing : Option Nat := none
  claiming : Medium := {}
  failsAt : Option Nat := none
  performing : Written := .done
  collects : Option Nat := none
  deriving DecidableEq, Repr

inductive Answer where
  /-- `none` while objects of the lease are missing. -/
  | uploaded (fresh : Option Bool)
  | fetched (chunks : List Chunk)
  | deleted (present : Bool)
  | collected (leases objects : Nat)
  | opened
  deriving DecidableEq, Repr

/-- The checks of a request before its nonce is claimed. -/
def Config.authentic (cfg : Config) (r : Request) (now : Time) : Except Failure Unit := do
  let digest ← r.body.digest cfg.crypto r.grant
  let endpointKey ← resolveAttachmentEndpoint cfg.authority r.grant now
  verifyGrant cfg.crypto r.grant endpointKey cfg.storageKey now
  verifyAccessRequest cfg.crypto r.grant r.access r.body.operation digest now

/-- The lease a grant is for. -/
def CapabilityGrant.lease (g : CapabilityGrant) : StorageLease where
  manifestDigest := g.manifestDigest
  chunkDigests := g.chunkDigests
  expiresAtUnix := g.retainUntilUnix

namespace Store

variable (cfg : Config) (s : Store)

/-- Verify a request and claim it. -/
def authorize (r : Request) (a : Arrival) : Except Failure Unit × Store :=
  match cfg.authentic r a.now with
  | .error failure => (.error failure, s)
  | .ok _ =>
    let (result, replay) := claimAccess cfg.crypto s.replay r.access a.now a.clocked a.removing a.claiming
    (result, { s with replay })

/-- Publish the lease of a grant. -/
def commitOpaque (g : CapabilityGrant) (now : Time) (w : Written) : Except Failure Answer × Store :=
  match s.leases.judgeCommit cfg.crypto cfg.quota s.objects g.lease g.ciphertextBytes now with
  | .error failure => (if failure = leaseNotFound then .ok (.uploaded none) else .error failure, s)
  | .ok false => (.ok (.uploaded (some false)), s)
  | .ok true =>
    ((acknowledged "replace attachment record" w).map fun _ => .uploaded (some true),
      { s with leases := w.put s.leases (AList.insert g.manifestDigest g.lease s.leases) })

/-- Perform an operation that was authorized. -/
def perform (g : CapabilityGrant) (a : Arrival) : Body → Except Failure Answer × Store
  | .upload chunks =>
    match s.objects.putObjects cfg.crypto cfg.quota chunks a.now a.failsAt with
    | (.error failure, objects) => (.error failure, { s with objects })
    | (.ok _, objects) => Store.commitOpaque cfg { s with objects } g a.now a.performing
  | .fetch digests =>
    match s.leases.fetchOpaque cfg.crypto s.objects g.manifestDigest digests a.now with
    | .error failure => (.error failure, s)
    | .ok (chunks, expires) =>
      (if expires ≠ g.retainUntilUnix then .error (.other "attachment lease retention conflicts with its grant")
        else .ok (.fetched chunks), s)
  | .delete =>
    if (lookup g.manifestDigest s.leases).isNone then (.ok (.deleted false), s)
    else
      ((acknowledged "remove attachment lease" a.performing).map fun _ => .deleted true,
        { s with leases := a.performing.put s.leases (AList.erase g.manifestDigest s.leases) })

/-- One call. -/
def serve (a : Arrival) : Except Failure Answer × Store :=
  match a.call with
  | .request r =>
    match s.authorize cfg r a with
    | (.error failure, s) => (.error failure, s)
    | (.ok _, s) => s.perform cfg r.grant a r.body
  | .gc stagingGrace =>
    let (result, left) := s.gc cfg.crypto a.now stagingGrace a.collects
    (result.map fun removed => .collected removed.1 removed.2, left)
  | .restart => (.ok .opened, s)

/-- The store after a call. -/
def step (a : Arrival) : Store := (s.serve cfg a).2

end Store

end Messenger.Attachments
