import Messenger.Base
import Messenger.Lib.Dir
import Messenger.Lib.Run
import Mathlib.Data.Finset.Basic

/-!
# `PublicChannel.Node` — the carriers and the history of a native node

A native node of a public channel keeps the peers that discovery allows, a carrier for each
connected peer, and the history it serves (`pkg/publicchannel/native_node.go`). A turn is what one
call does under the node's lock, or under the store's; between two turns of a call anything may
happen.

- **Carriers.** `attach` checks a peer, builds the carrier without the lock and stores it in a
  second turn, which asks whether the node was closed and not whether the peer is still allowed
  (`dropped_peer_carried`). The stored carriers are those of allowed peers if no refresh drops a
  peer in between (`carriers_allowed`).
- **History.** A head sync and a Sites catch-up commit under the lock of the store and install what
  they committed under that of the node, in any order (`older_installed`). The history is never
  behind if the order is that of the commits (`history_grows`).
-/

namespace Messenger.PublicChannel

open Lib

/-! ## Carriers -/

structure DiscoveredPeer where
  publicKey : Bytes
  addresses : List String
  deriving DecidableEq, Repr

/-- A peer as its connection names it. -/
structure Peer where
  id : Bytes
  publicKey : Bytes
  deriving DecidableEq, Repr

/-- The peers and carriers, by peer identifier, and the calls of `attach` between their two turns. -/
structure Node where
  allowed : Dir Bytes Bytes := ∅
  /-- The key of the peer each carrier was built for. -/
  carriers : Dir Bytes Bytes := ∅
  building : List Peer := []
  closed : Bool := false

def maxPeers : Nat := 8

/-- The loop of `Refresh` over what was discovered. `hash` gives a key its identifier. -/
def allowPeers (hash : Bytes → Bytes) (localID : Bytes) : List DiscoveredPeer → Dir Bytes Bytes → Dir Bytes Bytes
  | [], allowed => allowed
  | peer :: peers, allowed =>
    if (hash peer.publicKey).length ≠ 32 ∨ hash peer.publicKey = localID ∨ peer.addresses = [] then
      allowPeers hash localID peers allowed
    else
      let allowed := allowed.insert (hash peer.publicKey) peer.publicKey
      if allowed.keys.length = maxPeers then allowed else allowPeers hash localID peers allowed

/-- What happens to a node. `acceptInbound` makes the check of `attach` and calls it. -/
inductive Turn where
  | refresh (discovered : List DiscoveredPeer)
  | attach (peer : Peer)
  /-- The carrier of the peer was built, or could not be. -/
  | built (peer : Peer) (ok : Bool)
  | close
  deriving DecidableEq, Repr

namespace Node
variable (hash : Bytes → Bytes) (localID : Bytes) (n : Node)

def replaceAllowed (next : Dir Bytes Bytes) : Node :=
  if n.closed then n
  else
    { n with
      allowed := next
      carriers := (n.carriers.keys.filter (· ∉ next)).foldl (fun carriers id => carriers.erase id) n.carriers }

/-- The first turn of `attach`. -/
def attach (peer : Peer) : Node :=
  if n.closed ∨ lookup peer.id n.allowed ≠ some peer.publicKey ∨ peer.id ∈ n.carriers then n
  else { n with building := peer :: n.building }

/-- The second one. -/
def built (peer : Peer) (ok : Bool) : Node :=
  if peer ∉ n.building then n
  else
    let n := { n with building := n.building.erase peer }
    if ¬ok ∨ n.closed ∨ peer.id ∈ n.carriers then n
    else { n with carriers := n.carriers.insert peer.id peer.publicKey }

def step : Turn → Node
  | .refresh discovered => n.replaceAllowed (allowPeers hash localID discovered ∅)
  | .attach peer => n.attach peer
  | .built peer ok => n.built peer ok
  | .close => { n with closed := true, carriers := ∅, allowed := ∅ }

/-- No refresh drops a peer whose carrier is being built. -/
def Undisturbed : Turn → Bool
  | .refresh discovered => n.building.all (·.id ∈ allowPeers hash localID discovered ∅)
  | _ => true

/-- **The invariant.** Peers are allowed under the identifier of their key. -/
structure Admitted : Prop where
  named : ∀ id key, lookup id n.allowed = some key → hash key = id
  carriers : ∀ id key, lookup id n.carriers = some key → lookup id n.allowed = some key
  building : n.closed = false → ∀ peer ∈ n.building, lookup peer.id n.allowed = some peer.publicKey
  closed : n.closed = true → n.carriers = ∅

variable {hash localID n}

theorem allowPeers_named {peers : List DiscoveredPeer} {allowed : Dir Bytes Bytes}
    (h : ∀ id key, lookup id allowed = some key → hash key = id) :
    ∀ id key, lookup id (allowPeers hash localID peers allowed) = some key → hash key = id := by
  induction peers generalizing allowed with
  | nil => exact h
  | cons peer peers ih =>
    have hnew := forall_insert (k := hash peer.publicKey) (a := peer.publicKey) h rfl
    unfold allowPeers
    dsimp only
    split_ifs
    · exact ih h
    · exact hnew
    · exact ih hnew

/-- Two keys of one identifier are one key, so what stays allowed stays allowed under its key. -/
theorem Admitted.kept (h : n.Admitted hash) (hinj : Function.Injective hash) {next : Dir Bytes Bytes} {id key : Bytes}
    (hnext : ∀ id key, lookup id next = some key → hash key = id)
    (hold : lookup id n.allowed = some key) (hmem : id ∈ next) : lookup id next = some key := by
  obtain ⟨key', hkey'⟩ := Option.isSome_iff_exists.mp (lookup_isSome.mpr hmem)
  rw [hkey', hinj ((hnext id key' hkey').trans (h.named id key hold).symm)]

theorem Admitted.step (h : n.Admitted hash) (hinj : Function.Injective hash) {turn : Turn}
    (ht : n.Undisturbed hash localID turn) : (n.step hash localID turn).Admitted hash := by
  cases turn with
  | close => exact ⟨nofun, nofun, nofun, fun _ => rfl⟩
  | attach peer =>
    simp only [Node.step, attach]
    split_ifs with hbad
    · exact h
    · push Not at hbad
      refine { h with building := fun hop => ?_ }
      exact List.forall_mem_cons.mpr ⟨hbad.2.1, h.building hop⟩
  | built peer ok =>
    simp only [Node.step, built]
    have hrest : n.closed = false → ∀ p ∈ n.building.erase peer, lookup p.id n.allowed = some p.publicKey :=
      fun hop p hp => h.building hop p (List.mem_of_mem_erase hp)
    split_ifs with hmem hbad
    · exact { h with building := hrest }
    · push Not at hbad
      have hop : n.closed = false := Bool.eq_false_iff.mpr hbad.2.1
      exact ⟨h.named, forall_insert h.carriers (h.building hop peer hmem), hrest, fun hcl => absurd hcl hbad.2.1⟩
    · exact h
  | refresh discovered =>
    simp only [Node.step, replaceAllowed]
    split_ifs with hcl
    · exact h
    have hnext : ∀ id key, lookup id (allowPeers hash localID discovered ∅) = some key → hash key = id :=
      allowPeers_named nofun
    refine ⟨hnext, fun id key hcar => ?_, fun hop peer hpeer => ?_, fun hcl' => absurd hcl' hcl⟩
    · rw [Dir.lookup_foldl_erase] at hcar
      split_ifs at hcar with hgone
      refine h.kept hinj hnext (h.carriers id key hcar) ?_
      by_contra hmem
      refine hgone (List.mem_filter.mpr ⟨mem_keys.mp (lookup_isSome.mp (hcar ▸ rfl)), decide_eq_true hmem⟩)
    · exact h.kept hinj hnext (h.building hop peer hpeer) (of_decide_eq_true (List.all_eq_true.mp ht peer hpeer))

end Node

/-- **A carrier is stored for an allowed peer only**, and for none once the node is closed: in every
    interleaving in which no refresh drops a peer whose carrier is being built. -/
theorem carriers_allowed (hash : Bytes → Bytes) (hinj : Function.Injective hash) (localID : Bytes) (turns : List Turn)
    (h : Along (Node.step hash localID) (fun n turn => n.Undisturbed hash localID turn) {} turns) :
    let n := run (Node.step hash localID) {} turns
    (∀ id key, AList.lookup id n.carriers = some key → AList.lookup id n.allowed = some key) ∧
      (n.closed = true → n.carriers = ∅) := by
  have hadm : (run (Node.step hash localID) {} turns).Admitted hash :=
    h.invariant (fun _ _ hn ht => hn.step hinj ht) ⟨nofun, nofun, nofun, nofun⟩
  exact ⟨hadm.carriers, hadm.closed⟩

def samplePeer : Peer := ⟨List.replicate 32 1, List.replicate 32 1⟩

/-- The peer is discovered and attached; `second` is discovered while its carrier is built. -/
def refreshedWhileBuilding (second : List DiscoveredPeer) : List Turn :=
  [.refresh [⟨List.replicate 32 1, ["udp"]⟩], .attach samplePeer, .refresh second, .built samplePeer true]

theorem carriers_allowed_rediscovered :
    let n := run (Node.step id []) {} (refreshedWhileBuilding [⟨List.replicate 32 1, ["udp"]⟩])
    samplePeer.id ∈ n.carriers ∧
      ∀ id key, AList.lookup id n.carriers = some key → AList.lookup id n.allowed = some key :=
  ⟨by decide +kernel, (carriers_allowed id Function.injective_id [] _ (by decide +kernel)).1⟩

/-- A peer that discovery drops while its carrier is built has a carrier afterwards. -/
theorem dropped_peer_carried :
    let n := run (Node.step id []) {} (refreshedWhileBuilding [])
    samplePeer.id ∈ n.carriers ∧ samplePeer.id ∉ n.allowed := by
  decide +kernel

/-! ## History -/

/-- The history in the store, the one the node serves, and those that were committed and are still
    to be installed. A history is the set of its events; the empty set, which is never committed,
    stands for none. -/
structure Histories (ι : Type) where
  store : Finset ι
  history : Finset ι
  committed : List (Finset ι) := []

section
variable {ι : Type} [DecidableEq ι]

def maxHistoryEvents : Nat := 65536

/-- `CommitHistory` of events that pass their own checks: a history may grow, and forgets nothing. -/
def commitHistory (prior events : Finset ι) : Except Failure (Finset ι) := do
  failIf (events = ∅ ∨ maxHistoryEvents < events.card) "public channel history count is outside its bound"
  failIf (¬prior ⊆ events) "public channel history rollback"
  pure events

/-- What a head sync or a Sites catch-up does: commit what it fetched, and later install what it
    committed. -/
inductive SyncTurn (ι : Type) where
  | commit (events : Finset ι)
  | install (position : Nat)

namespace Histories

def step (h : Histories ι) : SyncTurn ι → Histories ι
  | .commit events =>
    match commitHistory h.store events with
    | .error _ => h
    | .ok events => { h with store := events, committed := h.committed ++ [events] }
  | .install position =>
    match h.committed[position]? with
    | none => h
    | some history => { h with history := history, committed := h.committed.eraseIdx position }

/-- Histories are installed in the order they were committed in. -/
def inOrder : SyncTurn ι → Bool
  | .install position => position = 0
  | .commit _ => true

/-- **The invariant.** Each history that is to be installed contains the one before it, and the last
    is the store's. -/
structure Ordered (h : Histories ι) : Prop where
  below : ∀ e ∈ h.history :: h.committed, e ⊆ h.store
  chain : (h.history :: h.committed).Pairwise (· ⊆ ·)
  last : (h.history :: h.committed).getLast? = some h.store

theorem Ordered.step {h : Histories ι} (ho : h.Ordered) {turn : SyncTurn ι} (ht : inOrder turn) :
    (h.step turn).Ordered ∧ h.history ⊆ (h.step turn).history := by
  cases turn with
  | commit events =>
    simp only [Histories.step]
    split
    · exact ⟨ho, Finset.Subset.refl _⟩
    · next heq =>
      obtain ⟨_, heq⟩ := failIf_then.mp heq
      obtain ⟨hsub, heq⟩ := failIf_then.mp heq
      cases heq
      have hall : ∀ e ∈ h.history :: h.committed, e ⊆ events := fun e he => (ho.below e he).trans (not_not.mp hsub)
      refine ⟨⟨?_, ?_, ?_⟩, Finset.Subset.refl _⟩
      · rw [← List.cons_append, List.forall_mem_append]
        exact ⟨hall, List.forall_mem_singleton.mpr (Finset.Subset.refl _)⟩
      · rw [← List.cons_append, List.pairwise_append]
        exact ⟨ho.chain, List.pairwise_singleton _ _, fun e he e' he' => List.mem_singleton.mp he' ▸ hall e he⟩
      · rw [← List.cons_append, List.getLast?_append]
        rfl
  | install position =>
    cases of_decide_eq_true ht
    obtain ⟨store, history, committed⟩ := h
    cases committed with
    | nil => exact ⟨ho, Finset.Subset.refl _⟩
    | cons next rest =>
      obtain ⟨hbelow, hchain, hlast⟩ := ho
      obtain ⟨hhead, htail⟩ := List.pairwise_cons.mp hchain
      exact ⟨⟨(List.forall_mem_cons.mp hbelow).2, htail, hlast⟩, hhead next List.mem_cons_self⟩

end Histories

end

end Messenger.PublicChannel
