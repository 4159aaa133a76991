import Messenger.E2ee.Script
import Messenger.E2ee.Correctness.Usable

/-!
# `E2ee.Standing` — where a session stands in its conversation

A session's state is determined by the script and three numbers, its `Seat`: the last epoch of its
own, the last epoch of the peer it has received a message of, and how far it is in that one.
`Follows` spells the state out. Its skipped keys are those of the messages it has passed over and
not opened (`Tabled`).

From there on it is read off which key `Open` finds for a message of the peer: the right one for a
message that was not opened (`keyFor_behind`, `keyFor_ahead`, `keyFor_next`), and never the right
one for one that was (`key_opened`).
-/

namespace Messenger.E2ee

open Lib RatchetState

variable {K ω : Type} {p : Primitives K ω} {agree : K → K → K} {v : Values K ω} {t t' : Script K}
  {s s' : RatchetState K}

/-- Where a session stands: its own last epoch, the peer's last epoch it knows, and the next number
    in that. -/
structure Seat where
  own : Nat
  peer : Nat
  received : Nat

/-! ## Skipped keys -/

/-- **The table.** The skipped keys are those of the messages passed over and not opened, all of
    epochs up to the peer's. -/
def Tabled (p : Primitives K ω) (t : Script K) (peer : Nat) (opened : List Nat)
    (skipped : List (SkippedKey K)) : Prop :=
  ∃ places : List (Nat × Nat), skipped.Perm (places.map fun x => t.skippedAt p x.1 x.2)
    ∧ (places.map fun x => t.place x.1 x.2).Perm (outstanding opened)
    ∧ ∀ x ∈ places, x.1 ≤ peer ∧ x.1 % 2 = peer % 2 ∧ x.2 < t.count x.1

namespace Tabled
variable {peer : Nat} {opened : List Nat} {skipped : List (SkippedKey K)}

theorem nil : Tabled p t peer [] [] := ⟨[], List.Perm.refl _, List.Perm.refl _, by simp⟩

variable (h : Tabled p t peer opened skipped)

include h

theorem length : skipped.length = (outstanding opened).length := by
  obtain ⟨places, hsk, hpc, -⟩ := h
  rw [hsk.length_eq, ← hpc.length_eq, List.length_map, List.length_map]

theorem perm {skipped' : List (SkippedKey K)} (hpm : skipped'.Perm skipped) : Tabled p t peer opened skipped' := by
  obtain ⟨places, hsk, hpc, hval⟩ := h
  exact ⟨places, hpm.trans hsk, hpc, hval⟩

theorem extend (hext : t.Extends t') (hpeer : peer ≤ t.last) : Tabled p t' peer opened skipped := by
  obtain ⟨places, hsk, hpc, hval⟩ := h
  refine ⟨places, ?_, ?_, ?_⟩
  · rw [List.map_congr_left fun x hx => hext.skippedAt ((hval x hx).1.trans hpeer) x.2]
    exact hsk
  · rw [List.map_congr_left fun x hx => hext.place ((hval x hx).1.trans hpeer) x.2]
    exact hpc
  intro x hx
  obtain ⟨hle, hpar, hcnt⟩ := hval x hx
  exact ⟨hle, hpar, hcnt.trans_le (hext.count x.1)⟩

/-- **Passing over more messages.** -/
theorem append {peer' q : Nat} {more : List (Nat × Nat)} (hle : peer ≤ peer')
    (hpar : peer % 2 = peer' % 2) (hahd : frontier opened ≤ q)
    (hmore : (more.map fun x => t.place x.1 x.2) = (List.range (q - frontier opened)).map (frontier opened + ·))
    (hval' : ∀ x ∈ more, x.1 ≤ peer' ∧ x.1 % 2 = peer' % 2 ∧ x.2 < t.count x.1) :
    Tabled p t peer' (q :: opened) (skipped ++ more.map fun x => t.skippedAt p x.1 x.2) := by
  obtain ⟨places, hsk, hpc, hval⟩ := h
  refine ⟨places ++ more, ?_, ?_, ?_⟩
  · rw [List.map_append]
    exact hsk.append_right _
  · rw [List.map_append, hmore, outstanding_ahead hahd]
    exact hpc.append_right _
  intro x hx
  rcases List.mem_append.mp hx with hx | hx
  · obtain ⟨hxle, hxpar, hcnt⟩ := hval x hx
    exact ⟨hxle.trans hle, hxpar.trans hpar, hcnt⟩
  · exact hval' x hx

section
variable (ht : t.Sound p agree) (hpeer : peer ≤ t.last) {i k : Nat} (hi : i ≤ t.last) (hpar : i % 2 = peer % 2)
  (hk : k < t.count i)

include ht hpeer hi in
/-- A key under a message's identity is the message's. -/
theorem of_identity {entry : SkippedKey K} (hent : entry ∈ skipped)
    (hidn : entry.identity = (p.publicOf (t.secret i), k)) :
    entry = t.skippedAt p i k ∧ t.place i k ∈ outstanding opened ∧ i ≤ peer := by
  obtain ⟨places, hsk, hpc, hval⟩ := h
  obtain ⟨x, hx, rfl⟩ := List.mem_map.mp (hsk.mem_iff.mp hent)
  obtain ⟨hpublic, hnum⟩ := Prod.mk.inj hidn
  have hepo : x.1 = i := ht.distinct _ _ ((hval x hx).1.trans hpeer) hi hpublic
  have hnum : x.2 = k := hnum
  subst hepo
  subst hnum
  exact ⟨rfl, hpc.mem_iff.mp (List.mem_map.mpr ⟨x, hx, rfl⟩), (hval x hx).1⟩

include hpar hk in
omit h in
/-- The place of an outstanding message is among those of the table. -/
theorem mem_places {places : List (Nat × Nat)} (hpc : (places.map fun x => t.place x.1 x.2).Perm (outstanding opened))
    (hval : ∀ x ∈ places, x.1 ≤ peer ∧ x.1 % 2 = peer % 2 ∧ x.2 < t.count x.1)
    (hout : t.place i k ∈ outstanding opened) : (i, k) ∈ places := by
  obtain ⟨x, hx, hplc⟩ := List.mem_map.mp (hpc.mem_iff.mpr hout)
  obtain ⟨-, hxpar, hcnt⟩ := hval x hx
  obtain ⟨hepo, hnum⟩ := t.place_inj (hxpar.trans hpar.symm) hcnt hk hplc
  rwa [← hepo, ← hnum]

include ht hpeer hi hpar hk in
/-- **Taking a key** out of the table: it is the message's, and the table is that of one message
    more opened. -/
theorem take [DecidableEq K] (hout : t.place i k ∈ outstanding opened) :
    skipped.find? (isFor (p.publicOf (t.secret i)) k) = some (t.skippedAt p i k)
      ∧ Tabled p t peer (t.place i k :: opened) (skipped.eraseP (isFor (p.publicOf (t.secret i)) k)) := by
  have hunique : ∀ entry ∈ skipped, isFor (p.publicOf (t.secret i)) k entry = true → entry = t.skippedAt p i k := by
    intro entry hent hfor
    have hfd : entry.publicKey = p.publicOf (t.secret i) ∧ entry.number = k := of_decide_eq_true hfor
    exact (h.of_identity ht hpeer hi hent (Prod.ext hfd.1 hfd.2)).1
  have hmine : isFor (p.publicOf (t.secret i)) k (t.skippedAt p i k) = true := decide_eq_true ⟨rfl, rfl⟩
  obtain ⟨places, hsk, hpc, hval⟩ := h
  have hplc : (i, k) ∈ places := mem_places hpar hk hpc hval hout
  have hmem : t.skippedAt p i k ∈ skipped := hsk.mem_iff.mpr (List.mem_map.mpr ⟨(i, k), hplc, rfl⟩)
  constructor
  · obtain ⟨entry, hfi⟩ := Option.isSome_iff_exists.mp (List.find?_isSome.mpr ⟨_, hmem, hmine⟩)
    rw [hfi, hunique entry (List.mem_of_find?_eq_some hfi) (List.find?_some hfi)]
  -- The table without the key and the places without the message's are the rests of equal lists.
  obtain ⟨entry, before, after, -, hfor, heq, hers⟩ := List.exists_of_eraseP hmem hmine
  have hent : entry = t.skippedAt p i k := hunique entry (by rw [heq]; simp) hfor
  have hre := List.perm_cons_erase hplc
  rw [hers]
  refine ⟨places.erase (i, k), ?_, ?_, ?_⟩
  · have hlf : (t.skippedAt p i k :: (before ++ after)).Perm skipped := by
      rw [heq, hent]
      exact List.perm_middle.symm
    exact ((hlf.trans hsk).trans (hre.map _)).cons_inv
  · rw [outstanding_behind (mem_outstanding.mp hout).1]
    exact (((hre.map _).symm.trans hpc).trans (List.perm_cons_erase hout)).cons_inv
  · intro x hx
    exact hval x (List.mem_of_mem_erase hx)

end

end Tabled

/-! ## The state -/

/-- **A state follows the script** from its seat. -/
structure Follows (p : Primitives K ω) (t : Script K) (seat : Seat) (s : RatchetState K) : Prop where
  root : s.root = t.root (max seat.own seat.peer)
  selfPrivate : s.selfPrivate = t.secret seat.own
  selfPublic : s.selfPublic = p.publicOf (t.secret seat.own)
  peerPublic : s.peerPublic = p.publicOf (t.secret seat.peer)
  hasSend : s.hasSend = decide (seat.peer < seat.own)
  sendNumber : s.sendNumber = t.count seat.own
  sending : seat.peer < seat.own →
    s.previousSendNumber = t.previous seat.own ∧ s.sendChain = p.nextChain^[t.count seat.own] (t.chain seat.own)
  hasReceive : s.hasReceive = decide (0 < seat.peer)
  receiveChain : 0 < seat.peer → s.receiveChain = p.nextChain^[seat.received] (t.chain seat.peer)
  receiveNumber : s.receiveNumber = seat.received

namespace Follows
variable {seat : Seat} (h : Follows p t seat s)

include h

theorem tables (skipped : List (SkippedKey K)) (seen : List K) :
    Follows p t seat { s with skipped := skipped, seen := seen } := { h with }

/-- A script that grows elsewhere leaves the state where it is. -/
theorem extend (hext : t.Extends t') (hown : seat.own ≤ t.last) (hpeer : seat.peer ≤ t.last)
    (hcnt : t'.count seat.own = t.count seat.own) : Follows p t' seat s := by
  have hmax : max seat.own seat.peer ≤ t.last := by omega
  refine ⟨?_, ?_, ?_, ?_, h.hasSend, ?_, ?_, h.hasReceive, ?_, h.receiveNumber⟩
  · rw [hext.root _ hmax, h.root]
  · rw [hext.secret _ hown, h.selfPrivate]
  · rw [hext.secret _ hown, h.selfPublic]
  · rw [hext.secret _ hpeer, h.peerPublic]
  · rw [hcnt, h.sendNumber]
  · intro hsnd
    rw [hext.previous hown, hcnt, hext.chain _ hown]
    exact h.sending hsnd
  · intro hreceives
    rw [hext.chain _ hpeer, h.receiveChain hreceives]

/-- The keys that are set aside on the way along the receiving chain. -/
theorem upcoming {n : Nat} (hn : n = 0 ∨ 0 < seat.peer) :
    s.upcoming p n =
      ((List.range n).map fun d => (seat.peer, seat.received + d)).map fun x => t.skippedAt p x.1 x.2 := by
  rcases hn with rfl | hpeer
  · rfl
  unfold RatchetState.upcoming
  rw [List.map_map]
  refine List.map_congr_left fun d _ => ?_
  simp only [Function.comp_apply, Script.skippedAt, Script.keyAt, Primitives.keyAt, h.peerPublic,
    h.receiveNumber, h.receiveChain hpeer, ← Function.iterate_add_apply, Nat.add_comm d]

/-- The state after passing over messages of the receiving chain. -/
theorem skipMany (n : Nat) : Follows p t { seat with received := seat.received + n } (s.skipMany p n) := by
  rw [skipMany_eq]
  refine { h with receiveChain := ?_, receiveNumber := ?_ }
  · intro hpeer
    simp only [h.receiveChain hpeer, ← Function.iterate_add_apply, Nat.add_comm n]
  · simp only [h.receiveNumber]

/-- The state behind the next message of the receiving chain. -/
theorem received (hcnt : seat.received + 1 < counterBound) :
    Follows p t { seat with received := seat.received + 1 } (s.received p) := by
  refine { h with receiveChain := ?_, receiveNumber := ?_ }
  · intro hpeer
    simp only [RatchetState.received, h.receiveChain hpeer, Function.iterate_succ_apply']
  · simp only [RatchetState.received, h.receiveNumber, Nat.mod_eq_of_lt hcnt]

/-- **Entering the peer's next epoch** with the agreement of the two last keys. -/
theorem entered [Zero K] (hidl : Ideal p agree v) (ht : t.Sound p agree)
    (hown : seat.own = seat.peer + 1) (hla : seat.peer + 2 ≤ t.last) :
    Follows p t ⟨seat.own, seat.peer + 2, 0⟩
      (s.entered p (p.publicOf (t.secret (seat.peer + 2))) (agree (t.secret seat.own) (t.secret (seat.peer + 2)))) := by
  obtain ⟨hrt, hch⟩ := ht.derived (seat.peer + 1) (by omega) (by omega)
  have hmax : max seat.own (seat.peer + 2) = seat.peer + 2 := by omega
  have hpre : s.root = t.root (seat.peer + 1) := by
    rw [h.root]
    congr 1
    omega
  have hagree : agree (t.secret seat.own) (t.secret (seat.peer + 2)) =
      agree (t.secret (seat.peer + 2)) (t.secret (seat.peer + 1)) := by
    rw [hidl.agree_comm, hown]
  have htn : ¬seat.peer + 2 < seat.own := by omega
  refine ⟨?_, h.selfPrivate, h.selfPublic, rfl, (decide_eq_false htn).symm, h.sendNumber,
    fun hsnd => absurd hsnd htn, (decide_eq_true (Nat.succ_pos _)).symm, fun _ => ?_, rfl⟩
  · show (p.deriveRoot s.root _).1 = t.root (max seat.own (seat.peer + 2))
    rw [hmax, hpre, hagree]
    exact hrt.symm
  show (p.deriveRoot s.root _).2 = t.chain (seat.peer + 2)
  rw [hpre, hagree]
  exact hch.symm

/-- **Beginning an epoch** after the peer's last. -/
theorem begun (ht : t.Sound p agree) (hla : seat.peer = t.last) (hown : seat.peer = seat.own + 1)
    (key : K) : Follows p (t.enter p agree key) ⟨t.last + 1, seat.peer, seat.received⟩
      (s.begun p key (agree key (t.secret seat.peer))) := by
  have hext := Script.enter_extends p agree t key
  have hsecret : (t.enter p agree key).secret (t.last + 1) = key := Function.update_self _ _ _
  have hrt : (t.enter p agree key).root (t.last + 1) =
      (p.deriveRoot (t.root t.last) (agree key (t.secret t.last))).1 := Function.update_self _ _ _
  have hch : (t.enter p agree key).chain (t.last + 1) =
      (p.deriveRoot (t.root t.last) (agree key (t.secret t.last))).2 := Function.update_self _ _ _
  have hpre : s.root = t.root t.last := by
    rw [h.root]
    congr 1
    omega
  have hmax : max (t.last + 1) seat.peer = t.last + 1 := by omega
  have hnothing : t.count (t.last + 1) = 0 := ht.ahead _ (Nat.lt_succ_self _)
  refine ⟨?_, hsecret.symm, congrArg p.publicOf hsecret.symm, ?_, ?_, hnothing.symm,
    fun _ => ⟨?_, ?_⟩, h.hasReceive, ?_, h.receiveNumber⟩
  · show (p.deriveRoot s.root _).1 = (t.enter p agree key).root (max (t.last + 1) seat.peer)
    rw [hmax, hrt, hpre, hla]
  · show s.peerPublic = p.publicOf ((t.enter p agree key).secret seat.peer)
    rw [hext.secret _ hla.le, h.peerPublic]
  · exact (decide_eq_true (by show seat.peer < t.last + 1; omega)).symm
  · show s.sendNumber = (t.enter p agree key).previous (t.last + 1)
    rw [h.sendNumber, ← hla, hown]
    rfl
  · show (p.deriveRoot s.root _).2 = p.nextChain^[t.count (t.last + 1)] ((t.enter p agree key).chain (t.last + 1))
    rw [hnothing, hch, hpre, hla]
    rfl
  intro hreceives
  rw [hext.chain _ hla.le]
  exact h.receiveChain hreceives

end Follows

/-! ## Opening a message of the peer -/

/-- **A session's standing** in the conversation: its seat, and what follows from it for the state. -/
structure Standing (p : Primitives K ω) (t : Script K) (side : Side) (seat : Seat)
    (opened : List Nat) (s : RatchetState K) : Prop where
  owner : owner seat.own = side
  own : seat.own ≤ t.last
  turn : t.last < seat.own + 2
  peer : seat.peer ≤ t.last
  adjacent : seat.own = seat.peer + 1 ∨ seat.peer = seat.own + 1
  received : seat.received ≤ t.count seat.peer
  frontier : Lib.frontier opened = t.place seat.peer seat.received
  follows : Follows p t seat s
  tabled : Tabled p t seat.peer opened s.skipped

namespace Standing
variable {side : Side} {seat : Seat} {opened : List Nat} {i k : Nat}
variable (hidl : Ideal p agree v) (ht : t.Sound p agree) (h : Standing p t side seat opened s)
  (hi : i ≤ t.last) (howner : E2ee.owner i = side.other) (hk : k < t.count i)

include h

theorem parity (howner : E2ee.owner i = side.other) : i % 2 = seat.peer % 2 := by
  rw [← h.owner, ← owner_succ, owner_eq_iff] at howner
  rcases h.adjacent with hadj | hadj
  · omega
  · omega

/-- A side's last epoch is determined by the script. -/
theorem own_eq {seat' : Seat} {opened' : List Nat}
    (h' : Standing p t side seat' opened' s') : seat'.own = seat.own := by
  have hpar := owner_eq_iff.mp (h.owner.trans h'.owner.symm)
  have := h.own
  have := h.turn
  have := h'.own
  have := h'.turn
  omega

include hi howner hk in
/-- A message beyond everything opened is of the epoch the session knows, or of the next, which the
    session made possible by sending in its own. -/
theorem ahead_cases (hahd : Lib.frontier opened ≤ t.place i k) :
    (i = seat.peer ∧ seat.received ≤ k) ∨ (i = seat.peer + 2 ∧ seat.own = seat.peer + 1) := by
  have hpar := h.parity howner
  have htn := h.turn
  rw [h.frontier] at hahd
  unfold Script.place at hahd
  rcases Nat.lt_trichotomy i seat.peer with hlt | rfl | hlt
  · have := t.start_le hlt hpar
    omega
  · exact .inl ⟨rfl, by omega⟩
  rcases h.adjacent with hadj | hadj
  · exact .inr ⟨by omega, hadj⟩
  · omega

include ht in
/-- No key is set aside for a message that is not outstanding. -/
theorem takeSkipped_none [DecidableEq K] (hi : i ≤ t.last)
    (hout : t.place i k ∉ outstanding opened) : s.takeSkipped (p.publicOf (t.secret i)) k = none := by
  refine RatchetState.takeSkipped_none.mpr fun hmem => ?_
  obtain ⟨entry, hent, hidn⟩ := List.mem_map.mp hmem
  exact hout (h.tabled.of_identity ht h.peer hi hent hidn).2.1

omit h in
theorem not_outstanding (hahd : Lib.frontier opened ≤ t.place i k) : t.place i k ∉ outstanding opened := by
  intro hout
  have := (mem_outstanding.mp hout).1
  omega

section
variable [Zero K] [DecidableEq K]

include ht

/-- The key of the message and the standing behind it, or a refusal because too many messages would
    be passed over. -/
def Found (p : Primitives K ω) (t : Script K) (side : Side) (opened : List Nat) (i k : Nat)
    (s : RatchetState K) : Prop :=
  (∃ seat s', s.keyFor p (t.headerAt p i k) = .ok (t.keyAt p i k, s')
      ∧ Standing p t side seat (t.place i k :: opened) s') ∨
    (maxSkippedKeys < (outstanding (t.place i k :: opened)).length ∧ ∃ e, s.keyFor p (t.headerAt p i k) = .error e)

include hi howner hk in
/-- A message that was passed over. -/
theorem found_behind (hout : t.place i k ∈ outstanding opened) : Found p t side opened i k s := by
  obtain ⟨hfi, htable⟩ := h.tabled.take ht h.peer hi (h.parity howner) hk hout
  refine .inl ⟨seat, _, ?_, { h with frontier := ?_, follows := h.follows.tables _ s.seen, tabled := htable }⟩
  · unfold keyFor takeSkipped
    simp only [Script.headerAt, hfi, Option.map_some, Script.skippedAt]
  · rw [frontier_behind (mem_outstanding.mp hout).1, h.frontier]

omit [Zero K] [DecidableEq K] h in
theorem peer_pos (hk : k < t.count i) : 0 < i := by
  rcases Nat.eq_zero_or_pos i with rfl | hpos
  · have := ht.nothing
    omega
  · exact hpos

omit [Zero K] [DecidableEq K] ht in
/-- How many keys would be set aside. -/
theorem outstanding_length (hahd : Lib.frontier opened ≤ t.place i k) :
    (outstanding (t.place i k :: opened)).length = s.skipped.length + (t.place i k - Lib.frontier opened) := by
  rw [outstanding_ahead hahd, List.length_append, h.tabled.length, List.length_map, List.length_range]

/-- The key of a message that is not outstanding comes out of a chain. -/
theorem keyFor_eq_receiveKey (hi : i ≤ t.last) (hout : t.place i k ∉ outstanding opened) :
    s.keyFor p (t.headerAt p i k) = s.receiveKey p (t.headerAt p i k) := by
  have hno := h.takeSkipped_none ht hi hout
  unfold keyFor
  simp only [Script.headerAt, hno]

/-- **Along a chain of the message's epoch** its key is found, unless too many messages would be
    passed over. `rest` are those passed over before the chain was entered. -/
theorem found_along (rest : List (Nat × Nat))
    {chain : RatchetState K} {r : Nat} (hi : i ≤ t.last) (hadj : seat.own = i + 1 ∨ i = seat.own + 1)
    (hle : seat.peer ≤ i) (hpar : seat.peer % 2 = i % 2) (hk : k < t.count i) (hr : r ≤ k)
    (hflw : s.follow p (t.headerAt p i k) = .ok chain) (hch : Follows p t ⟨seat.own, i, r⟩ chain)
    (hskipped : chain.skipped = s.skipped ++ rest.map fun x => t.skippedAt p x.1 x.2)
    (hpc : (rest.map fun x => t.place x.1 x.2) = (List.range rest.length).map (Lib.frontier opened + ·))
    (hend : Lib.frontier opened + rest.length = t.start i + r)
    (hre : ∀ x ∈ rest, x.1 ≤ i ∧ x.1 % 2 = i % 2 ∧ x.2 < t.count x.1) : Found p t side opened i k s := by
  have hpos : 0 < i := peer_pos ht hk
  have hplc : ∀ n, t.place i n = t.start i + n := fun _ => rfl
  have hahd : Lib.frontier opened ≤ t.place i k := by
    rw [hplc]
    omega
  have hgap : t.place i k - Lib.frontier opened = rest.length + (k - r) := by
    rw [hplc]
    omega
  have hlen := h.outstanding_length hahd
  have hchain : chain.skipped.length = s.skipped.length + rest.length := by
    rw [hskipped, List.length_append, List.length_map]
  unfold Found
  rw [h.keyFor_eq_receiveKey ht hi (not_outstanding hahd)]
  by_cases hbd : chain.skipped.length + (k - r) ≤ maxSkippedKeys
  · left
    have hrch := hch.skipMany (k - r)
    rw [show r + (k - r) = k by omega] at hrch
    have hcnt := ht.counted i
    refine ⟨⟨seat.own, i, k + 1⟩, (chain.skipMany p (k - r)).received p, ?_, ?_⟩
    · refine receiveKey_ok.mpr ⟨chain, chain.skipMany p (k - r), hflw, ?_, ?_, ?_, rfl⟩
      · rw [skipTo_ok, hch.receiveNumber, hch.hasReceive]
        exact ⟨hr, hbd, .inr (decide_eq_true hpos), rfl⟩
      · rw [hrch.hasReceive]
        exact decide_eq_true hpos
      · rw [hrch.receiveChain hpos]
        rfl
    · refine ⟨h.owner, h.own, h.turn, hi, hadj, hk, ?_, hrch.received (by show k + 1 < counterBound; omega), ?_⟩
      · rw [frontier_ahead hahd]
        rfl
      show Tabled p t i (t.place i k :: opened) (chain.skipMany p (k - r)).skipped
      rw [skipMany_eq, hch.upcoming (.inr hpos)]
      rw [hskipped, List.append_assoc, ← List.map_append]
      refine h.tabled.append hle hpar hahd ?_ ?_
      · rw [hgap, List.range_add, List.map_append, List.map_append, hpc, List.map_map, List.map_map]
        refine congrArg _ (List.map_congr_left fun d _ => ?_)
        show t.place i (r + d) = Lib.frontier opened + (rest.length + d)
        rw [hplc]
        omega
      intro x hx
      rcases List.mem_append.mp hx with hx | hx
      · exact hre x hx
      obtain ⟨d, hd, rfl⟩ := List.mem_map.mp hx
      have hd := List.mem_range.mp hd
      refine ⟨le_rfl, rfl, ?_⟩
      show r + d < t.count i
      omega
  · right
    refine ⟨by omega, ?_⟩
    cases hkey : s.receiveKey p (t.headerAt p i k) with
    | error e => exact ⟨e, rfl⟩
    | ok found =>
      obtain ⟨chain', reached, hfollows', hsk, -⟩ := receiveKey_ok.mp hkey
      cases hflw.symm.trans hfollows'
      have hft := (skipTo_ok.mp hsk).2.1
      rw [hch.receiveNumber] at hft
      exact absurd hft hbd

/-- A message of the epoch the session knows. -/
theorem found_same (hk : k < t.count seat.peer) (hle : seat.received ≤ k) : Found p t side opened seat.peer k s :=
  h.found_along ht [] h.peer h.adjacent le_rfl rfl hk hle (follow_same h.follows.peerPublic.symm) h.follows
    (List.append_nil _).symm rfl h.frontier nofun

include hidl in
/-- A message of the peer's next epoch. What is left of the epoch before is passed over first. -/
theorem found_next (hla : seat.peer + 2 ≤ t.last) (hown : seat.own = seat.peer + 1)
    (hk : k < t.count (seat.peer + 2)) : Found p t side opened (seat.peer + 2) k s := by
  have hrcv := h.received
  have hre : t.count seat.peer - seat.received = 0 ∨ 0 < seat.peer := by
    rcases Nat.eq_zero_or_pos (t.count seat.peer) with hno | hso
    · exact .inl (by omega)
    · exact .inr (peer_pos ht hso)
  have hnew : (t.headerAt p (seat.peer + 2) k).publicKey ≠ s.peerPublic := by
    rw [h.follows.peerPublic]
    intro heq
    have := ht.distinct _ _ hla h.peer heq
    omega
  have hnum := h.follows.receiveNumber
  by_cases hft : s.skipped.length + (t.count seat.peer - seat.received) ≤ maxSkippedKeys
  · have hsk := h.follows.skipMany (t.count seat.peer - seat.received)
    have hentered := hsk.entered hidl ht hown hla
    refine h.found_along ht ((List.range (t.count seat.peer - seat.received)).map fun d =>
      (seat.peer, seat.received + d))
      hla (.inr (by omega)) (by omega) (by omega) hk (Nat.zero_le k) ?_ hentered ?_ ?_ ?_ ?_
    · refine (follow_new hnew).mpr ⟨_, _, ?_, ?_, rfl⟩
      · rw [skipTo_ok, hnum, h.follows.hasReceive]
        refine ⟨hrcv, hft, ?_, rfl⟩
        rcases hre with hz | hpos
        · exact .inl (by show t.count seat.peer = seat.received; omega)
        · exact .inr (decide_eq_true hpos)
      show p.ecdh (s.skipMany p (t.count seat.peer - seat.received)).selfPrivate _ = _
      rw [hsk.selfPrivate]
      exact hidl.ecdh _ _
    · rw [← h.follows.upcoming hre, skipMany_eq]
      rfl
    · rw [List.map_map, List.length_map, List.length_range, h.frontier]
      exact List.map_congr_left fun d _ => (Nat.add_assoc _ _ _).symm
    · rw [List.length_map, List.length_range, h.frontier]
      simp only [Script.place, Script.start]
      omega
    · intro x hx
      obtain ⟨d, hd, rfl⟩ := List.mem_map.mp hx
      have hd := List.mem_range.mp hd
      refine ⟨Nat.le_add_right _ 2, (Nat.add_mod_right _ 2).symm, ?_⟩
      show seat.received + d < t.count seat.peer
      omega
  · -- what is left of the epoch before is too much already
    have hahd : Lib.frontier opened + (t.count seat.peer - seat.received) ≤ t.place (seat.peer + 2) k := by
      rw [h.frontier]
      simp only [Script.place, Script.start]
      omega
    have hahead' := Nat.le_of_add_right_le hahd
    have hlen := h.outstanding_length hahead'
    refine .inr ⟨by omega, ?_⟩
    rw [h.keyFor_eq_receiveKey ht hla (not_outstanding hahead')]
    cases hkey : s.receiveKey p (t.headerAt p (seat.peer + 2) k) with
    | error e => exact ⟨e, rfl⟩
    | ok found =>
      obtain ⟨chain, reached, hflw, -⟩ := receiveKey_ok.mp hkey
      obtain ⟨rest, shared, hsk, -⟩ := (follow_new hnew).mp hflw
      have hfits' := (skipTo_ok.mp hsk).2.1
      rw [hnum] at hfits'
      exact absurd hfits' hft

include hidl hi howner hk in
/-- **The key of a message that was not opened.** -/
theorem found (hnew : t.place i k ∉ opened) : Found p t side opened i k s := by
  by_cases hahd : Lib.frontier opened ≤ t.place i k
  · rcases h.ahead_cases hi howner hk hahd with ⟨rfl, hle⟩ | ⟨rfl, hown⟩
    · exact h.found_same ht hk hle
    · exact h.found_next hidl ht hi hown hk
  · exact h.found_behind ht hi howner hk (mem_outstanding.mpr ⟨by omega, hnew⟩)

omit [Zero K] in
include hi howner hk in
/-- Opening a new message passes over none whose key is in the table. -/
theorem unrepeated (hnew : t.place i k ∉ opened) : Unrepeated s (t.headerAt p i k) := by
  -- What is left of the epoch the session knows is not in the table.
  have hre : ∀ d, (s.peerPublic, s.receiveNumber + d) ∉ s.skipped.map SkippedKey.identity := by
    intro d hmem
    obtain ⟨entry, hent, hidn⟩ := List.mem_map.mp hmem
    rw [h.follows.peerPublic, h.follows.receiveNumber] at hidn
    have hout := (h.tabled.of_identity ht h.peer h.peer hent hidn).2.1
    have hlt := (mem_outstanding.mp hout).1
    rw [h.frontier] at hlt
    unfold Script.place at hlt
    omega
  by_cases hahd : Lib.frontier opened ≤ t.place i k
  · right
    intro identity hpas hmem
    unfold passedOver at hpas
    split_ifs at hpas with hsm
    · obtain ⟨d, -, rfl⟩ := List.mem_map.mp hpas
      exact hre d hmem
    rcases List.mem_append.mp hpas with hpas | hpas
    · obtain ⟨d, -, rfl⟩ := List.mem_map.mp hpas
      exact hre d hmem
    obtain ⟨d, -, rfl⟩ := List.mem_map.mp hpas
    obtain ⟨entry, hent, hidn⟩ := List.mem_map.mp hmem
    have hle := (h.tabled.of_identity ht h.peer hi hent hidn).2.2
    rcases h.ahead_cases hi howner hk hahd with ⟨rfl, -⟩ | ⟨rfl, -⟩
    · exact hsm h.follows.peerPublic.symm
    · omega
  · left
    have hout : t.place i k ∈ outstanding opened := mem_outstanding.mpr ⟨by omega, hnew⟩
    obtain ⟨hfi, -⟩ := h.tabled.take ht h.peer hi (h.parity howner) hk hout
    exact List.mem_map.mpr ⟨_, List.mem_of_find?_eq_some hfi, rfl⟩

include hidl hi howner hk in
/-- **The key of a message that was opened is not found again**: its number is behind, or a chain is
    entered that is not its own. -/
theorem key_opened (ham : t.Among v) (hopn : t.place i k ∈ opened) {key : K}
    (hkey : s.keyFor p (t.headerAt p i k) = .ok (key, s')) : key ≠ t.keyAt p i k := by
  have hlt := lt_frontier hopn
  rw [h.frontier] at hlt
  unfold Script.place at hlt
  have hpar := h.parity howner
  have hpos := peer_pos ht hk
  have hown := h.own
  have hpeer := h.peer
  have hout : t.place i k ∉ outstanding opened := fun hout => (mem_outstanding.mp hout).2 hopn
  rw [h.keyFor_eq_receiveKey ht hi hout] at hkey
  obtain ⟨chain, reached, hflw, hsk, -, rfl, -⟩ := receiveKey_ok.mp hkey
  obtain ⟨hbeh, -, -, rfl⟩ := skipTo_ok.mp hsk
  by_cases hsm : (t.headerAt p i k).publicKey = s.peerPublic
  · rw [follow_same hsm] at hflw
    cases hflw
    rw [h.follows.peerPublic] at hsm
    have hepo := ht.distinct _ _ hi h.peer hsm
    subst hepo
    have hbeh : s.receiveNumber ≤ k := hbeh
    rw [h.follows.receiveNumber] at hbeh
    omega
  · obtain ⟨rest, shared, hre, hshared, rfl⟩ := (follow_new hsm).mp hflw
    obtain ⟨-, -, -, rfl⟩ := skipTo_ok.mp hre
    intro heq
    rw [skipMany_eq, skipMany_eq] at heq
    -- what was agreed on is of the session's last key and the message's
    have hagreed : p.ecdh s.selfPrivate (p.publicOf (t.secret i)) = some shared := by
      rw [skipMany_eq] at hshared
      exact hshared
    rw [h.follows.selfPrivate, hidl.ecdh] at hagreed
    cases hagreed
    have hle : i ≤ seat.peer := by
      by_contra hgt
      have := t.start_le (i := seat.peer) (j := i) (by omega) hpar.symm
      have := h.received
      omega
    have hkey : p.keyAt (p.deriveRoot s.root (agree (t.secret seat.own) (t.secret i))).2 k = t.keyAt p i k := heq
    rw [h.follows.root] at hkey
    exact ht.key_ne hidl ham hpos (by omega) (by omega) hown hi (hk.trans (ht.counted i)) hkey

end

omit h in
/-- A script that grows elsewhere leaves a session where it stands. -/
theorem extend (hext : t.Extends t') (h : Standing p t side seat opened s) (htn : t'.last < seat.own + 2)
    (hcnt : t'.count seat.own = t.count seat.own) : Standing p t' side seat opened s where
  owner := h.owner
  own := h.own.trans hext.last
  turn := htn
  peer := h.peer.trans hext.last
  adjacent := h.adjacent
  received := h.received.trans (hext.count _)
  frontier := h.frontier.trans (hext.place h.peer _).symm
  follows := h.follows.extend hext h.own h.peer hcnt
  tabled := h.tabled.extend hext h.peer

/-! ## Sealing a message -/

/-- The script once a session can send: the same, or with an epoch of the session's own. -/
structure Turned (p : Primitives K ω) (agree : K → K → K) (side : Side) (opened : List Nat)
    (random : Option K) (seat seat' : Seat) (t t' : Script K) (s' : RatchetState K) : Prop where
  growth : t.Extends t'
  sound : t'.Sound p agree
  standing : Standing p t' side seat' opened s'
  sends : seat'.peer < seat'.own
  counts : t'.count = t.count
  place : t'.place seat'.own (t'.count seat'.own) = t.place seat.own (t.count seat.own)
  secrets : ∀ i ≤ t'.last, (∃ j ≤ t.last, t'.secret i = t.secret j) ∨ some (t'.secret i) = random
  last : t'.last = t.last ∨ (t'.last = t.last + 1 ∧ seat'.own = t'.last)

include hidl ht in
/-- **A session that is to send.** -/
theorem turn_ok {random : Option K}
    (hdr : ∀ key, random = some key → ∀ i ≤ t.last, p.publicOf key ≠ p.publicOf (t.secret i))
    (hsending : s.sending p random = .ok s') : ∃ seat' t', Turned p agree side opened random seat seat' t t' s' := by
  rcases sending_ok.mp hsending with ⟨hsend, rfl⟩ | ⟨hsend, key, shared, rfl, hshared, rfl⟩
  · -- It already does, in the last epoch of its own.
    rw [h.follows.hasSend] at hsend
    exact ⟨seat, t, .refl t, ht, h, of_decide_eq_true hsend, rfl, rfl, fun i hi => .inl ⟨i, hi, rfl⟩, .inl rfl⟩
  -- It has received a message of the last epoch, and begins the next.
  rw [h.follows.hasSend] at hsend
  rw [h.follows.peerPublic, hidl.ecdh] at hshared
  cases hshared
  have htn : ¬seat.peer < seat.own := of_decide_eq_false hsend
  have hadj : seat.peer = seat.own + 1 := by
    rcases h.adjacent with hadj | hadj
    · omega
    · exact hadj
  have hla : seat.peer = t.last := by
    have := h.turn
    have := h.peer
    omega
  have hext := Script.enter_extends p agree t key
  refine ⟨⟨t.last + 1, seat.peer, seat.received⟩, t.enter p agree key, hext, ht.enter (hdr key rfl),
    ?_, ?_, rfl, ?_, ?_, .inr ⟨rfl, rfl⟩⟩
  · refine ⟨?_, le_rfl, ?_, h.peer.trans hext.last, ?_, h.received, h.frontier.trans (hext.place h.peer _).symm,
      h.follows.begun ht hla hadj key, h.tabled.extend hext h.peer⟩
    · rw [← h.owner, owner_eq_iff]
      show (t.last + 1) % 2 = seat.own % 2
      omega
    · show t.last + 1 < t.last + 1 + 2
      omega
    · exact .inl (by show t.last + 1 = seat.peer + 1; omega)
  · show seat.peer < t.last + 1
    omega
  · show (t.enter p agree key).start (t.last + 1) + t.count (t.last + 1) = t.start seat.own + t.count seat.own
    rw [ht.ahead _ (Nat.lt_succ_self _), ← hla, hadj, Script.start, hext.start h.own]
    rfl
  · intro i hi
    have hi : i ≤ t.last + 1 := hi
    by_cases hinew : i = t.last + 1
    · rw [hinew]
      exact .inr (congrArg some (Function.update_self _ _ _))
    · exact .inl ⟨i, by omega, hext.secret i (by omega)⟩

/-- The state behind a message that was sent. -/
theorem sent (hsnd : seat.peer < seat.own) : Standing p (t.record seat.own) side seat opened (s.sent p) := by
  have hext : t.Extends (t.record seat.own) := Script.record_extends h.turn
  have hf := h.follows
  refine { h with
    received := h.received.trans (hext.count _), frontier := h.frontier.trans (hext.place h.peer _).symm
    follows := { hf with sendNumber := ?_, sending := fun _ => ⟨?_, ?_⟩ }, tabled := h.tabled.extend hext h.peer }
  · rw [Script.record_count, ← hf.sendNumber]
    rfl
  · rw [hext.previous h.own]
    exact (hf.sending hsnd).1
  show p.nextChain s.sendChain = _
  rw [(hf.sending hsnd).2, Script.record_count, Function.iterate_succ_apply']
  rfl

/-- The header and the key of the next message. -/
theorem nextHeader (hsnd : seat.peer < seat.own) :
    s.nextHeader = t.headerAt p seat.own (t.count seat.own)
      ∧ p.messageKey s.sendChain = t.keyAt p seat.own (t.count seat.own) := by
  obtain ⟨hpv, hch⟩ := h.follows.sending hsnd
  constructor
  · rw [RatchetState.nextHeader, h.follows.selfPublic, hpv, h.follows.sendNumber]
    rfl
  · rw [hch]
    rfl

end Standing

end Messenger.E2ee
