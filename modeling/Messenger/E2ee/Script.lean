import Messenger.E2ee.Channel

/-!
# `E2ee.Script` — the conversation two sessions have, seen from outside

The two sides take turns at key pairs. Epoch 0 is the responder's prekey, on which nothing is sent;
epoch 1 is the key the initiator drew for `Initiate`; each later epoch is begun by the side that did
not begin the one before, when it seals a message after having received one of that epoch. So odd
epochs are the initiator's and even ones the responder's.

A `Script` is the list of all epochs with their secrets, the root and the chain each leads to, and
how many messages were sealed in it. It names everything there is to know about a conversation:
which message is the `q`-th of its side (`place`), under which header and key it was sealed, and
which keys can never meet (`Sound.key_ne`).

`Extends` says how a script may change while messages are still under way.
-/

namespace Messenger.E2ee

variable {K σ ω : Type}

/-- All epochs of a conversation, up to the last. -/
structure Script (K : Type) where
  last : Nat
  secret : Nat → K
  root : Nat → K
  chain : Nat → K
  /-- How many messages were sealed in an epoch. -/
  count : Nat → Nat

/-- The side that sends in an epoch. -/
def owner (epoch : Nat) : Side := if epoch % 2 = 1 then .initiator else .responder

theorem owner_eq_iff {i j : Nat} : owner i = owner j ↔ i % 2 = j % 2 := by
  unfold owner
  split_ifs with hi hj hj
  · exact iff_of_true rfl (by omega)
  · exact iff_of_false (by decide) (by omega)
  · exact iff_of_false (by decide) (by omega)
  · exact iff_of_true rfl (by omega)

theorem owner_succ (i : Nat) : owner (i + 1) = (owner i).other := by
  unfold owner
  split_ifs with hi hj hj
  · omega
  · rfl
  · rfl
  · omega

namespace Script

section
variable (t : Script K)

/-- The number of messages in the epoch before of the same side. -/
def previous : Nat → Nat
  | 0 => 0
  | 1 => 0
  | epoch + 2 => t.count epoch

/-- How many messages a side sealed before an epoch of its own. -/
def start : Nat → Nat
  | 0 => 0
  | 1 => 0
  | epoch + 2 => start epoch + t.count epoch

/-- The position of a message among all its side sealed. -/
def place (epoch number : Nat) : Nat := t.start epoch + number

variable (p : Primitives K ω)

def keyAt (epoch number : Nat) : K := p.keyAt (t.chain epoch) number

def headerAt (epoch number : Nat) : Header K := ⟨p.publicOf (t.secret epoch), t.previous epoch, number⟩

def skippedAt (epoch number : Nat) : SkippedKey K := ⟨p.publicOf (t.secret epoch), number, t.keyAt p epoch number⟩

/-- A message of an epoch, as it was sealed. -/
def ciphertextAt (f : Format K σ ω) (epoch number : Nat) (plaintext binding : Bytes) : ω :=
  f.encodeMessage (t.headerAt p epoch number)
    (p.aeadSeal (t.keyAt p epoch number) plaintext (t.headerAt p epoch number, binding))

end

variable {p : Primitives K ω} {t t' : Script K} {agree : K → K → K} {v : Values K ω}

/-! ## Positions -/

/-- All messages of an epoch come before those of a later one of the same side. -/
theorem start_le {i : Nat} : ∀ {j : Nat}, i < j → i % 2 = j % 2 → t.start i + t.count i ≤ t.start j
  | 0, hlt, _ => by omega
  | 1, hlt, hpar => by omega
  | j + 2, hlt, hpar => by
    rw [start]
    by_cases hnx : i = j
    · rw [hnx]
    · have := start_le (i := i) (j := j) (by omega) (by omega)
      omega

/-- A position belongs to one message. -/
theorem place_inj {i j k l : Nat} (hpar : i % 2 = j % 2) (hk : k < t.count i) (hl : l < t.count j)
    (h : t.place i k = t.place j l) : i = j ∧ k = l := by
  unfold place at h
  rcases Nat.lt_trichotomy i j with hlt | rfl | hlt
  · have := t.start_le hlt hpar
    omega
  · exact ⟨rfl, by omega⟩
  · have := t.start_le hlt hpar.symm
    omega

/-! ## Sound scripts -/

/-- **A sound script.** Each epoch's root and chain come from the one before, no two epochs have the
    same public key, and the counts fit their counters. -/
structure Sound (p : Primitives K ω) (agree : K → K → K) (t : Script K) : Prop where
  started : 1 ≤ t.last
  initial : ∃ secrets binding, t.root 1 = (p.deriveInitial secrets binding).1 ∧
    t.chain 1 = (p.deriveInitial secrets binding).2
  derived : ∀ i, 1 ≤ i → i < t.last →
    t.root (i + 1) = (p.deriveRoot (t.root i) (agree (t.secret (i + 1)) (t.secret i))).1
      ∧ t.chain (i + 1) = (p.deriveRoot (t.root i) (agree (t.secret (i + 1)) (t.secret i))).2
  distinct : ∀ i j, i ≤ t.last → j ≤ t.last → p.publicOf (t.secret i) = p.publicOf (t.secret j) → i = j
  counted : ∀ i, t.count i < counterBound
  nothing : t.count 0 = 0
  ahead : ∀ i, t.last < i → t.count i = 0

/-- The script's roots and secrets are among the values that occur. -/
structure Among (v : Values K ω) (t : Script K) : Prop where
  root : ∀ {i}, 1 ≤ i → i ≤ t.last → t.root i ∈ v.root
  secret : ∀ {i}, i ≤ t.last → t.secret i ∈ v.secret

theorem Among.derives (h : t.Among v) {c i j : Nat} (hc : 1 ≤ c) (hlast : c ≤ t.last) (hi : i ≤ t.last)
    (hj : j ≤ t.last) : v.Derives agree (t.root c) (agree (t.secret i) (t.secret j)) :=
  ⟨h.root hc hlast, _, h.secret hi, _, h.secret hj, rfl⟩

/-- No root comes back. -/
theorem Sound.root_inj (ht : t.Sound p agree) (hidl : Ideal p agree v) (ham : t.Among v) :
    ∀ {i j : Nat}, 1 ≤ i → i ≤ t.last → 1 ≤ j → j ≤ t.last → t.root i = t.root j → i = j := by
  -- On the first of the two epochs; a root other than the initial one leads back to the roots before.
  intro i
  induction i with
  | zero => omega
  | succ i ih =>
    intro j _ hi hj hla heq
    obtain ⟨secrets, binding, hinitial, -⟩ := ht.initial
    have hfirst : (p.deriveInitial secrets binding).1 ∈ v.root := hinitial ▸ ham.root le_rfl ht.started
    have hderives : ∀ {n : Nat}, 1 ≤ n → n + 1 ≤ t.last →
        v.Derives agree (t.root n) (agree (t.secret (n + 1)) (t.secret n)) :=
      fun hpos hle => ham.derives hpos (by omega) hle (by omega)
    obtain ⟨j, rfl⟩ : ∃ k, j = k + 1 := ⟨j - 1, by omega⟩
    by_cases hione : i = 0
    · by_cases hjone : j = 0
      · omega
      subst hione
      rw [Nat.zero_add, hinitial, (ht.derived j (by omega) (by omega)).1] at heq
      exact absurd heq (hidl.initialRoot hfirst (hderives (by omega) hla))
    by_cases hjone : j = 0
    · subst hjone
      rw [Nat.zero_add, hinitial, (ht.derived i (by omega) (by omega)).1] at heq
      exact absurd heq.symm (hidl.initialRoot hfirst (hderives (by omega) hi))
    rw [(ht.derived i (by omega) (by omega)).1, (ht.derived j (by omega) (by omega)).1] at heq
    have hsame : t.root i = t.root j := hidl.root (hderives (by omega) hi) (hderives (by omega) hla) heq
    have := ih (by omega) (by omega) (by omega) (by omega) hsame
    omega

/-- **An old chain is not entered again.** Whichever two keys are agreed on, a root of an epoch or a
    later one does not lead to the keys of the epoch. -/
theorem Sound.key_ne (ht : t.Sound p agree) (hidl : Ideal p agree v) (ham : t.Among v) {i c a b k : Nat} (hi : 1 ≤ i)
    (hic : i ≤ c) (hc : c ≤ t.last) (ha : a ≤ t.last) (hb : b ≤ t.last) (hk : k < counterBound) :
    p.keyAt (p.deriveRoot (t.root c) (agree (t.secret a) (t.secret b))).2 k ≠ t.keyAt p i k := by
  intro heq
  unfold keyAt at heq
  have hderives : v.Derives agree (t.root c) (agree (t.secret a) (t.secret b)) := ham.derives (by omega) hc ha hb
  obtain ⟨secrets, binding, hroot, hinitial⟩ := ht.initial
  obtain ⟨i, rfl⟩ : ∃ k, i = k + 1 := ⟨i - 1, by omega⟩
  by_cases hone : i = 0
  · subst hone
    rw [Nat.zero_add, hinitial] at heq
    exact hidl.initialChain (hroot ▸ ham.root le_rfl ht.started) hderives hk heq.symm
  rw [(ht.derived i (by omega) (by omega)).2] at heq
  have hsame := hidl.chain hderives (ham.derives (by omega) (by omega) (by omega) (by omega)) hk heq
  have := ht.root_inj hidl ham (by omega) (by omega) (by omega) (by omega) hsame
  omega

/-! ## While messages are under way -/

/-- **How a script may change.** Epochs are added, and messages to the last epoch of either side. -/
structure Extends (t t' : Script K) : Prop where
  last : t.last ≤ t'.last
  secret : ∀ i ≤ t.last, t'.secret i = t.secret i
  root : ∀ i ≤ t.last, t'.root i = t.root i
  chain : ∀ i ≤ t.last, t'.chain i = t.chain i
  closed : ∀ i, i + 2 ≤ t.last → t'.count i = t.count i
  count : ∀ i, t.count i ≤ t'.count i

theorem Extends.refl (t : Script K) : t.Extends t :=
  ⟨le_rfl, fun _ _ => rfl, fun _ _ => rfl, fun _ _ => rfl, fun _ _ => rfl, fun _ => le_rfl⟩

theorem Extends.trans {t'' : Script K} (h : t.Extends t') (h' : t'.Extends t'') : t.Extends t'' where
  last := h.last.trans h'.last
  secret i hi := (h'.secret i (hi.trans h.last)).trans (h.secret i hi)
  root i hi := (h'.root i (hi.trans h.last)).trans (h.root i hi)
  chain i hi := (h'.chain i (hi.trans h.last)).trans (h.chain i hi)
  closed i hi := (h'.closed i (hi.trans h.last)).trans (h.closed i hi)
  count i := (h.count i).trans (h'.count i)

namespace Extends
variable (h : Extends t t') {i : Nat}

include h

theorem start : ∀ {i : Nat}, i ≤ t.last → t'.start i = t.start i
  | 0, _ => rfl
  | 1, _ => rfl
  | i + 2, hi => by rw [Script.start, Script.start, start (by omega), h.closed i hi]

theorem place (hi : i ≤ t.last) (k : Nat) : t'.place i k = t.place i k := by rw [Script.place, Script.place, h.start hi]

theorem previous (hi : i ≤ t.last) : t'.previous i = t.previous i := by
  match i with
  | 0 => rfl
  | 1 => rfl
  | i + 2 => exact h.closed i hi

theorem keyAt (hi : i ≤ t.last) (k : Nat) : t'.keyAt p i k = t.keyAt p i k := by
  rw [Script.keyAt, Script.keyAt, h.chain i hi]

theorem headerAt (hi : i ≤ t.last) (k : Nat) : t'.headerAt p i k = t.headerAt p i k := by
  rw [Script.headerAt, Script.headerAt, h.secret i hi, h.previous hi]

theorem skippedAt (hi : i ≤ t.last) (k : Nat) : t'.skippedAt p i k = t.skippedAt p i k := by
  rw [Script.skippedAt, Script.skippedAt, h.secret i hi, h.keyAt hi]

theorem ciphertextAt (f : Format K σ ω) (hi : i ≤ t.last) (k : Nat) (pt binding : Bytes) :
    t'.ciphertextAt p f i k pt binding = t.ciphertextAt p f i k pt binding := by
  rw [Script.ciphertextAt, Script.ciphertextAt, h.headerAt hi, h.keyAt hi]

end Extends

/-- One more message in an epoch. -/
def record (t : Script K) (epoch : Nat) : Script K :=
  { t with count := Function.update t.count epoch (t.count epoch + 1) }

@[simp] theorem record_count (epoch : Nat) : (t.record epoch).count epoch = t.count epoch + 1 := by simp [record]

theorem record_count_ne {epoch i : Nat} (h : i ≠ epoch) : (t.record epoch).count i = t.count i := by
  simp [record, h]

theorem record_extends {epoch : Nat} (h : t.last < epoch + 2) : t.Extends (t.record epoch) where
  last := le_rfl
  secret _ _ := rfl
  root _ _ := rfl
  chain _ _ := rfl
  closed i hi := record_count_ne (by omega)
  count i := by
    by_cases hi : i = epoch
    · rw [hi, record_count]
      omega
    · rw [record_count_ne hi]

theorem Sound.record (ht : t.Sound p agree) {epoch : Nat} (hepo : 1 ≤ epoch) (hla : epoch ≤ t.last)
    (hcnt : t.count epoch + 1 < counterBound) : (t.record epoch).Sound p agree where
  started := ht.started
  initial := ht.initial
  derived := ht.derived
  distinct := ht.distinct
  counted i := by
    by_cases hi : i = epoch
    · rwa [hi, record_count]
    · rw [record_count_ne hi]
      exact ht.counted i
  nothing := by
    rw [record_count_ne (by omega)]
    exact ht.nothing
  ahead i hi := by
    have hi : t.last < i := hi
    rw [record_count_ne (by omega)]
    exact ht.ahead i hi

/-- One more epoch. -/
def enter (p : Primitives K ω) (agree : K → K → K) (t : Script K) (secret : K) : Script K :=
  { t with
    last := t.last + 1
    secret := Function.update t.secret (t.last + 1) secret
    root := Function.update t.root (t.last + 1) (p.deriveRoot (t.root t.last) (agree secret (t.secret t.last))).1
    chain := Function.update t.chain (t.last + 1) (p.deriveRoot (t.root t.last) (agree secret (t.secret t.last))).2 }

theorem enter_extends (p : Primitives K ω) (agree : K → K → K) (t : Script K) (secret : K) :
    t.Extends (t.enter p agree secret) where
  last := Nat.le_succ _
  secret i hi := Function.update_of_ne (by omega) _ _
  root i hi := Function.update_of_ne (by omega) _ _
  chain i hi := Function.update_of_ne (by omega) _ _
  closed _ _ := rfl
  count _ := le_rfl

theorem Sound.enter (ht : t.Sound p agree) {secret : K}
    (hnew : ∀ i ≤ t.last, p.publicOf secret ≠ p.publicOf (t.secret i)) : (t.enter p agree secret).Sound p agree := by
  have hold := enter_extends p agree t secret
  have hla : (t.enter p agree secret).secret (t.last + 1) = secret := Function.update_self _ _ _
  refine ⟨?_, ?_, ?_, ?_, ht.counted, ht.nothing, ?_⟩
  · exact ht.started.trans hold.last
  · obtain ⟨secrets, binding, hrt, hch⟩ := ht.initial
    exact ⟨secrets, binding, (hold.root 1 ht.started).trans hrt, (hold.chain 1 ht.started).trans hch⟩
  · intro i hi hlt
    have hlt : i < t.last + 1 := hlt
    by_cases hlast' : i = t.last
    · subst hlast'
      rw [hold.root _ le_rfl, hold.secret _ le_rfl, hla]
      exact ⟨Function.update_self _ _ _, Function.update_self _ _ _⟩
    rw [hold.root (i + 1) (by omega), hold.root i (by omega), hold.chain (i + 1) (by omega),
      hold.secret (i + 1) (by omega), hold.secret i (by omega)]
    exact ht.derived i hi (by omega)
  · intro i j hi hj heq
    have hi : i ≤ t.last + 1 := hi
    have hj : j ≤ t.last + 1 := hj
    by_cases hinew : i = t.last + 1
    · by_cases hjnew : j = t.last + 1
      · rw [hinew, hjnew]
      · rw [hinew, hla, hold.secret j (by omega)] at heq
        exact absurd heq (hnew j (by omega))
    by_cases hjnew : j = t.last + 1
    · rw [hjnew, hla, hold.secret i (by omega)] at heq
      exact absurd heq.symm (hnew i (by omega))
    · rw [hold.secret i (by omega), hold.secret j (by omega)] at heq
      exact ht.distinct i j (by omega) (by omega) heq
  · intro i hi
    have hi : t.last + 1 < i := hi
    exact ht.ahead i (by omega)

end Script

end Messenger.E2ee
