import Messenger.E2ee.Standing
import Mathlib.Logic.Equiv.List
import Mathlib.Data.Nat.Digits.Defs

/-!
# `E2ee.Correctness.Delivery` — every message is opened once, to what was sealed

Two sessions in a conversation, with ideal cryptography and a channel that promises nothing. In
every state that can be reached a message that was not opened opens to its plaintext under its
binding, as long as the messages passed over stay within the bound, and one that was opened is
refused under every binding (`delivered_once`).

The proof follows the script of the conversation (`E2ee.Script`): both states stand in one script,
each sealed message is one of the script's, and each call keeps it so.
-/

namespace Messenger.E2ee

open Lib Channel

variable {K σ ω : Type} {p : Primitives K ω} {f : Format K σ ω} {agree : K → K → K} {v : Values K ω}
  {t t' : Script K}

/-! ## Messages of a script -/

/-- The messages a side sealed are the script's. -/
def Carries (p : Primitives K ω) (f : Format K σ ω) (t : Script K) (side : Side) (mail : List (Sealed ω)) : Prop :=
  ∀ q message, mail[q]? = some message → ∃ i k, owner i = side ∧ i ≤ t.last ∧ k < t.count i ∧ q = t.place i k
    ∧ message.ciphertext = t.ciphertextAt p f i k message.plaintext message.binding

theorem Carries.extend {side : Side} {mail : List (Sealed ω)} (hext : t.Extends t')
    (h : Carries p f t side mail) : Carries p f t' side mail := by
  intro q message hmsg
  obtain ⟨i, k, hown, hi, hk, hplc, hct⟩ := h q message hmsg
  refine ⟨i, k, hown, hi.trans hext.last, hk.trans_le (hext.count i), ?_, ?_⟩
  · rw [hext.place hi, hplc]
  · rw [hext.ciphertextAt f hi, hct]

/-- One more message. -/
theorem Carries.append {side : Side} {mail : List (Sealed ω)} (h : Carries p f t side mail)
    {i k : Nat} {message : Sealed ω} (hown : owner i = side) (hi : i ≤ t.last) (hk : k < t.count i)
    (hplc : mail.length = t.place i k)
    (hct : message.ciphertext = t.ciphertextAt p f i k message.plaintext message.binding) :
    Carries p f t side (mail ++ [message]) := by
  intro q found hfnd
  rcases Nat.lt_trichotomy q mail.length with hlt | rfl | hgt
  · rw [List.getElem?_append_left hlt] at hfnd
    exact h q found hfnd
  · rw [List.getElem?_concat_length] at hfnd
    cases hfnd
    exact ⟨i, k, hown, hi, hk, hplc, hct⟩
  · rw [List.getElem?_eq_none (by simp; omega)] at hfnd
    cases hfnd

/-- The digests a session remembers are of messages it opened. -/
def Remembered (p : Primitives K ω) (inbox : List (Sealed ω)) (opened : List Nat) (seen : List K) : Prop :=
  ∀ d ∈ seen, ∃ q ∈ opened, ∃ message, inbox[q]? = some message ∧ d = p.digest message.ciphertext

theorem previous_lt (ht : t.Sound p agree) : ∀ i, t.previous i < counterBound
  | 0 => by show 0 < counterBound; decide
  | 1 => by show 0 < counterBound; decide
  | i + 2 => ht.counted i

section
variable [Zero K]

/-- A message of the script is read as it was sealed. -/
theorem ciphertext_read (hidl : Ideal p agree v) (hfmt : Faithful p f) (ht : t.Sound p agree)
    {i k : Nat} (hk : k < t.count i) (pt binding : Bytes) :
    f.decodeMessage (t.ciphertextAt p f i k pt binding) =
      some (t.headerAt p i k, p.aeadSeal (t.keyAt p i k) pt (t.headerAt p i k, binding)) :=
  hfmt.message _ _ (previous_lt ht i) (hk.trans (ht.counted i)) (hidl.tag _ _ _)

/-- Equal ciphertexts are of one message. -/
theorem ciphertext_inj (hidl : Ideal p agree v) (hfmt : Faithful p f) (ht : t.Sound p agree)
    {i k j l : Nat} (hi : i ≤ t.last) (hk : k < t.count i) (hj : j ≤ t.last) (hl : l < t.count j)
    {pt binding plaintext' binding' : Bytes}
    (h : t.ciphertextAt p f i k pt binding = t.ciphertextAt p f j l plaintext' binding') : i = j ∧ k = l := by
  have hrd := ciphertext_read hidl hfmt ht hk pt binding
  rw [h, ciphertext_read hidl hfmt ht hl] at hrd
  have hheader := congrArg Prod.fst (Option.some.inj hrd)
  exact ⟨(ht.distinct j i hj hi (congrArg Header.publicKey hheader)).symm, (congrArg Header.number hheader).symm⟩

/-! ## One session -/

/-- **A session in step** with its conversation. -/
structure InStep (p : Primitives K ω) (t : Script K) (side : Side) (seat : Seat) (opened : List Nat)
    (inbox : List (Sealed ω)) (s : RatchetState K) : Prop where
  usable : s.Usable p
  sized : s.Sized
  standing : Standing p t side seat opened s
  remembered : Remembered p inbox opened s.seen

variable {side : Side} {seat : Seat} {opened : List Nat} {inbox : List (Sealed ω)} {s : RatchetState K} {raw : σ}

/-- What a session in step writes is read back as a session in step. -/
theorem InStep.written (hfmt : Faithful p f) (h : InStep p t side seat opened inbox s) :
    ∃ raw s', f.encodeState s = .ok raw ∧ f.decodeState raw = .ok s' ∧ InStep p t side seat opened inbox s' := by
  obtain ⟨raw, skipped, henc, hpm, hdec⟩ := hfmt.state s h.usable h.sized
  refine ⟨raw, _, henc, hdec, h.usable.perm hpm, h.sized.perm hpm, ?_, h.remembered⟩
  exact { h.standing with
    follows := h.standing.follows.tables skipped s.seen, tabled := h.standing.tabled.perm hpm }

/-! ## Opening -/

theorem bind_refused {ε α β : Type} {x : Except ε α} {g : α → Except ε β} (h : ∀ a, x ≠ .ok a) :
    ∃ e, x.bind g = .error e := by
  cases x with
  | error e => exact ⟨e, rfl⟩
  | ok a => exact absurd rfl (h a)

section
variable [DecidableEq K] {q : Nat} {message : Sealed ω}

/-- `Open` of a message that can be read and was not seen. -/
theorem open_unseen {ct : ω} {header : Header K} {body : Bytes} (hraw : f.decodeState raw = .ok s)
    (hrd : f.decodeMessage ct = some (header, body)) (hunseen : p.digest ct ∉ s.seen)
    (binding : Bytes) : openCiphertext p f raw ct binding =
      (s.receive p (p.digest ct) header body binding).bind fun r => (f.encodeState r.2).map fun next =>
        (r.1, next) := by
  unfold openCiphertext
  simp only [hraw, hrd, if_neg hunseen, bind, Except.bind, pure, Except.pure, Except.map]

variable (hidl : Ideal p agree v) (hfmt : Faithful p f) (ht : t.Sound p agree)
  (hcar : Carries p f t side.other inbox) (h : InStep p t side seat opened inbox s)
  (hraw : f.decodeState raw = .ok s) (hmsg : inbox[q]? = some message)

include hidl hfmt ht hcar h hmsg in
omit [DecidableEq K] in
/-- A message that was not opened was not seen. -/
theorem InStep.unseen (hinbox : ∀ x ∈ inbox, x.ciphertext ∈ v.message) (hnew : q ∉ opened) :
    p.digest message.ciphertext ∉ s.seen := by
  intro hse
  obtain ⟨q', hq', message', hmess', hdig⟩ := h.remembered _ hse
  obtain ⟨i, k, -, hi, hk, hplc, hct⟩ := hcar q message hmsg
  obtain ⟨j, l, -, hj, hl, hplace', hct'⟩ := hcar q' message' hmess'
  have heq := hidl.digest (hinbox _ (List.mem_of_getElem? hmsg)) (hinbox _ (List.mem_of_getElem? hmess')) hdig
  rw [hct, hct'] at heq
  obtain ⟨rfl, rfl⟩ := ciphertext_inj hidl hfmt ht hi hk hj hl heq
  rw [hplc, ← hplace'] at hnew
  exact hnew hq'

include hidl hfmt ht hcar h hraw hmsg in
/-- **A message that was opened is refused**, under every binding. -/
theorem InStep.refuses (ham : t.Among v) (hopn : q ∈ opened) (binding : Bytes) :
    ∃ e, openCiphertext p f raw message.ciphertext binding = .error e := by
  by_cases hse : p.digest message.ciphertext ∈ s.seen
  · refine ⟨.replayed, ?_⟩
    unfold openCiphertext
    simp only [hraw, bind, Except.bind, if_pos hse]
  obtain ⟨i, k, hown, hi, hk, rfl, hct⟩ := hcar q message hmsg
  have hrd := ciphertext_read hidl hfmt ht hk message.plaintext message.binding
  rw [← hct] at hrd
  rw [open_unseen hraw hrd hse]
  refine bind_refused fun found hrv => ?_
  obtain ⟨key, reached, hkey, hop, -⟩ := RatchetState.receive_ok.mp hrv
  exact absurd (hidl.sealed hop).1 (h.standing.key_opened hidl ht hi hown hk ham hopn hkey)

include ht h hmsg in
/-- A session that opened one more message is in step with it. -/
theorem InStep.received {i k : Nat} {seat' : Seat} {s' : RatchetState K} {key : K} {body binding pt : Bytes}
    (hi : i ≤ t.last) (hown : owner i = side.other) (hk : k < t.count i) (hplc : q = t.place i k) (hnew : q ∉ opened)
    (hunseen : p.digest message.ciphertext ∉ s.seen) (hkey : s.keyFor p (t.headerAt p i k) = .ok (key, s'))
    (hrv : s.receive p (p.digest message.ciphertext) (t.headerAt p i k) body binding =
      .ok (pt, s'.remember (p.digest message.ciphertext)))
    (hsn : Standing p t side seat' (q :: opened) s') :
    InStep p t side seat' (q :: opened) inbox (s'.remember (p.digest message.ciphertext)) := by
  have hse := RatchetState.keyFor_seen hkey
  obtain ⟨-, hsz, huse⟩ := receive_effect h.usable h.sized (previous_lt ht i) (hk.trans (ht.counted i)) hunseen hrv
  obtain ⟨seen, hrmb, -, -, hmem⟩ := RatchetState.remember_seen (hse ▸ h.usable.seen) (hse ▸ h.usable.bounded.2)
    (hse ▸ hunseen)
  rw [hse] at hmem
  refine ⟨huse.mpr (h.standing.unrepeated ht hi hown hk (hplc ▸ hnew)), hsz, ?_, ?_⟩
  · rw [hrmb]
    exact { hsn with follows := hsn.follows.tables s'.skipped seen }
  rw [hrmb]
  intro d hd
  rcases hmem d hd with hd | rfl
  · obtain ⟨q', hq', found⟩ := h.remembered d hd
    exact ⟨q', List.mem_cons_of_mem _ hq', found⟩
  · exact ⟨q, List.mem_cons_self, message, hmsg, rfl⟩

include hidl hfmt ht hcar h hraw hmsg in
/-- **A message that was not opened** opens under its binding, to what was sealed, and the session
    stays in step; or too many messages would be passed over. Under another binding it is refused. -/
theorem InStep.opens (hinbox : ∀ x ∈ inbox, x.ciphertext ∈ v.message) (hnew : q ∉ opened) (binding : Bytes) :
    (binding = message.binding ∧ ∃ next seat' s', openCiphertext p f raw message.ciphertext binding =
      .ok (message.plaintext, next)
        ∧ f.decodeState next = .ok s' ∧ InStep p t side seat' (q :: opened) inbox s') ∨
      ((binding = message.binding → maxSkippedKeys < (outstanding (q :: opened)).length)
        ∧ ∃ e, openCiphertext p f raw message.ciphertext binding = .error e) := by
  have hunseen := h.unseen hidl hfmt ht hcar hmsg hinbox hnew
  obtain ⟨i, k, hown, hi, hk, hplc, hct⟩ := hcar q message hmsg
  have hrd := ciphertext_read hidl hfmt ht hk message.plaintext message.binding
  rw [← hct] at hrd
  rw [open_unseen hraw hrd hunseen, hplc]
  rw [hplc] at hnew hmsg
  rcases h.standing.found hidl ht hi hown hk hnew with ⟨seat', s', hkey, hsn⟩ | ⟨hbeyond, e, hkey⟩
  · by_cases hbi : binding = message.binding
    · -- The right key, and the body opens under it.
      left
      subst hbi
      have hrv : s.receive p (p.digest message.ciphertext) (t.headerAt p i k)
          (p.aeadSeal (t.keyAt p i k) message.plaintext (t.headerAt p i k, message.binding)) message.binding =
            .ok (message.plaintext, s'.remember (p.digest message.ciphertext)) :=
        RatchetState.receive_ok.mpr ⟨_, _, hkey, hidl.opens _ _ _, rfl⟩
      have hstp := h.received ht hmsg hi hown hk rfl hnew hunseen hkey hrv hsn
      obtain ⟨next, written, henc, hdec, hwrt⟩ := hstp.written hfmt
      refine ⟨rfl, next, seat', written, ?_, hdec, hwrt⟩
      rw [hrv]
      simp only [Except.bind, henc, Except.map]
    · -- The right key, but the body is bound to something else.
      right
      refine ⟨fun heq => absurd heq hbi, bind_refused fun found hrv => ?_⟩
      obtain ⟨key, reached, -, hop, -⟩ := RatchetState.receive_ok.mp hrv
      exact absurd (congrArg Prod.snd (hidl.sealed hop).2) hbi
  · right
    refine ⟨fun _ => hbeyond, e, ?_⟩
    unfold RatchetState.receive
    rw [hkey]
    rfl

end

/-! ## Sealing -/

/-- The conversation after a side has sealed a message: what has become of its script, and which
    message it is. -/
structure Continued (p : Primitives K ω) (f : Format K σ ω) (agree : K → K → K) (side : Side)
    (random : Option K) (seat seat' : Seat) (t t' : Script K) (message : Sealed ω) : Prop where
  growth : t.Extends t'
  sound : t'.Sound p agree
  /-- The message takes the next position. -/
  place : ∃ k, t'.count seat'.own = k + 1 ∧ t'.place seat'.own k = t.place seat.own (t.count seat.own)
    ∧ message.ciphertext = t'.ciphertextAt p f seat'.own k message.plaintext message.binding
  others : ∀ i, owner i ≠ side → t'.count i = t.count i
  secrets : ∀ i ≤ t'.last, (∃ j ≤ t.last, t'.secret i = t.secret j) ∨ some (t'.secret i) = random
  last : t'.last = t.last ∨ (t'.last = t.last + 1 ∧ seat'.own = t'.last)

/-- **A message that is sealed** is the next of the script, and the session stays in step. -/
theorem InStep.seals (hidl : Ideal p agree v) (hfmt : Faithful p f) (ht : t.Sound p agree)
    (h : InStep p t side seat opened inbox s) (hraw : f.decodeState raw = .ok s)
    {pt binding : Bytes} {random : Option K}
    (hdr : ∀ key, random = some key → ∀ i ≤ t.last, p.publicOf key ≠ p.publicOf (t.secret i))
    {ct : ω} {next : σ} (hsl : sealPlaintext p f raw pt binding random = .ok (ct, next)) :
    ∃ seat' t' s', Continued p f agree side random seat seat' t t' ⟨ct, pt, binding⟩
      ∧ f.decodeState next = .ok s' ∧ InStep p t' side seat' opened inbox s' := by
  obtain ⟨decoded, hdecoded, hsl⟩ := seq_ok.mp hsl
  rw [hraw] at hdecoded
  cases hdecoded
  obtain ⟨s', hsending, hsl⟩ := seq_ok.mp hsl
  obtain ⟨seat', t', hturned⟩ := h.standing.turn_ok hidl ht hdr hsending
  obtain ⟨huse, hsz, hsend⟩ := sending_usable h.usable h.sized hsending
  split_ifs at hsl with hexp
  obtain ⟨written, henc, hsl⟩ := seq_ok.mp hsl
  cases hsl
  have hsn := hturned.standing
  have hsnd := hturned.sends
  have hcnt : t'.count seat'.own + 1 < counterBound := by
    have := hturned.sound.counted seat'.own
    rw [hsn.follows.sendNumber] at hexp
    omega
  obtain ⟨huse', hsized'⟩ := sent_usable huse hsz hsend hexp
  have hse : s'.seen = s.seen := by
    rcases RatchetState.sending_ok.mp hsending with ⟨-, rfl⟩ | ⟨-, key, shared, -, -, rfl⟩ <;> rfl
  have hstp : InStep p (t'.record seat'.own) side seat' opened inbox (s'.sent p) := by
    refine ⟨huse', hsized', hsn.sent hsnd, ?_⟩
    show Remembered p inbox opened s'.seen
    rw [hse]
    exact h.remembered
  obtain ⟨raw', s'', henc', hdec, hwrt⟩ := hstp.written hfmt
  rw [henc] at henc'
  cases henc'
  have hrec : t'.Extends (t'.record seat'.own) := Script.record_extends hsn.turn
  obtain ⟨hheader, hkey⟩ := hsn.nextHeader hsnd
  refine ⟨seat', t'.record seat'.own, s'', ?_, hdec, hwrt⟩
  refine ⟨hturned.growth.trans hrec, hturned.sound.record (by omega) hsn.own hcnt, ?_, ?_,
    hturned.secrets, hturned.last⟩
  · refine ⟨t'.count seat'.own, Script.record_count _, ?_, ?_⟩
    · rw [hrec.place hsn.own, hturned.place]
    · rw [hrec.ciphertextAt f hsn.own, Script.ciphertextAt, ← hheader, ← hkey]
  intro i hi
  rw [Script.record_count_ne, hturned.counts]
  rintro rfl
  exact hi hsn.owner

end

/-! ## The channel -/

section
variable [Zero K] {c : Channel K σ ω} {side : Side}

/-- One side of a conversation. -/
structure Live (p : Primitives K ω) (f : Format K σ ω) (t : Script K) (c : Channel K σ ω)
    (side : Side) (seat : Seat) (s : RatchetState K) : Prop where
  held : f.decodeState (c.held side) = .ok s
  inStep : InStep p t side seat (c.opened side) (c.mail side.other) s
  length : (c.mail side).length = t.place seat.own (t.count seat.own)
  carries : Carries p f t side (c.mail side)

/-- **Two sessions in conversation.** One script of values that occur, in which both stand and whose
    keys were all drawn. -/
def Conversing (p : Primitives K ω) (f : Format K σ ω) (agree : K → K → K) (v : Values K ω)
    (c : Channel K σ ω) : Prop :=
  ∃ t : Script K, t.Sound p agree ∧ t.Among v ∧ (∀ i ≤ t.last, p.publicOf (t.secret i) ∈ c.drawn)
    ∧ ∀ side, ∃ seat s, Live p f t c side seat s

variable [DecidableEq K] (hidl : Ideal p agree v) (hfmt : Faithful p f)

include hidl hfmt in
theorem deliver_conversing (h : Conversing p f agree v c) (hocc : c.Occurs f v) (side : Side)
    (position : Nat) (binding : Bytes) :
    Conversing p f agree v (c.step p f (.deliver side position binding)) := by
  obtain ⟨t, ht, ham, hdr, hlv⟩ := h
  obtain ⟨seat, s, hsd⟩ := hlv side
  obtain ⟨seat', s', hoth⟩ := hlv side.other
  have hunchanged : Conversing p f agree v c := ⟨t, ht, ham, hdr, hlv⟩
  unfold step
  simp only
  cases hmsg : (c.mail side.other)[position]? with
  | none => exact hunchanged
  | some message =>
    simp only
    by_cases hopn : position ∈ c.opened side
    · obtain ⟨e, href⟩ := hsd.inStep.refuses hidl hfmt ht hoth.carries hsd.held hmsg ham hopn binding
      rw [href]
      exact hunchanged
    rcases hsd.inStep.opens hidl hfmt ht hoth.carries hsd.held hmsg (fun _ => hocc.message) hopn binding with
      ⟨-, next, seatNext, sNext, hop, hdec, hstp⟩ | ⟨-, e, href⟩
    · rw [hop]
      refine ⟨t, ht, ham, hdr, fun side' => ?_⟩
      by_cases hsm : side' = side
      · subst hsm
        refine ⟨seatNext, sNext, ⟨?_, ?_, ?_, hsd.carries⟩⟩
        · simpa using hdec
        · simpa using hstp
        · rw [hsd.length, hsd.inStep.standing.own_eq hstp.standing]
      obtain ⟨seatOther, sOther, hlive'⟩ := hlv side'
      refine ⟨seatOther, sOther, ⟨?_, ?_, hlive'.length, hlive'.carries⟩⟩
      · simpa [Function.update_of_ne hsm] using hlive'.held
      · simpa [Function.update_of_ne hsm] using hlive'.inStep
    · rw [href]
      exact hunchanged

omit [DecidableEq K] in
/-- The other side of a conversation, when one has sealed a message. -/
theorem Live.extend {seat seat' seatOther : Seat} {t t' : Script K} {s' sOther : RatchetState K} {random : Option K}
    {message : Sealed ω} {c' : Channel K σ ω} {opened : List Nat} (hsn : Standing p t' side seat' opened s')
    (hco : Continued p f agree side random seat seat' t t' message) (h : Live p f t c side.other seatOther sOther)
    (hhe : c'.held side.other = c.held side.other) (hopn : c'.opened side.other = c.opened side.other)
    (hsent : c'.mail side.other = c.mail side.other) (hmail : c'.mail side = c.mail side ++ [message]) :
    Live p f t' c' side.other seatOther sOther := by
  have hoth := h.inStep.standing
  have hdiffers : owner seatOther.own ≠ side := by
    rw [hoth.owner]
    exact side.other_ne
  have hcnt := hco.others _ hdiffers
  have htn : t'.last < seatOther.own + 2 := by
    rcases hco.last with hla | ⟨hla, hown⟩
    · rw [hla]
      exact hoth.turn
    -- A new epoch is the sender's, so the last one before is the other side's.
    have hpar : ¬seatOther.own % 2 = seat'.own % 2 := fun heq =>
      hdiffers ((owner_eq_iff.mpr heq).trans hsn.owner)
    have := hoth.own
    have := hoth.turn
    omega
  refine ⟨?_, ⟨h.inStep.usable, h.inStep.sized, ?_, ?_⟩, ?_, ?_⟩
  · rw [hhe]
    exact h.held
  · rw [hopn]
    exact hoth.extend hco.growth htn hcnt
  · rw [hopn]
    intro d hd
    obtain ⟨q, hq, found, hfnd, hdig⟩ := h.inStep.remembered d hd
    rw [Side.other_other] at hfnd ⊢
    refine ⟨q, hq, found, ?_, hdig⟩
    rw [hmail, List.getElem?_append_left (List.getElem?_eq_some_iff.mp hfnd).1]
    exact hfnd
  · rw [hsent, hcnt, hco.growth.place hoth.own]
    exact h.length
  · rw [hsent]
    exact h.carries.extend hco.growth

omit [Zero K] [DecidableEq K] in
/-- The values of a script that has grown: those of a new epoch are in the state of the side that
    began it. -/
theorem Continued.among {seat seat' : Seat} {random : Option K} {message : Sealed ω} {opened : List Nat}
    {s' : RatchetState K} (hco : Continued p f agree side random seat seat' t t' message)
    (h : t.Among v) (hsn : Standing p t' side seat' opened s') (hroot : s'.root ∈ v.root)
    (hsecret : s'.selfPrivate ∈ v.secret) : t'.Among v := by
  have hpeer := hsn.peer
  constructor
  · intro i hpos hi
    by_cases hold : i ≤ t.last
    · rw [hco.growth.root i hold]
      exact h.root hpos hold
    · rcases hco.last with hlast | ⟨hlast, hown⟩
      · omega
      rwa [hsn.follows.root, show max seat'.own seat'.peer = i by omega] at hroot
  · intro i hi
    by_cases hold : i ≤ t.last
    · rw [hco.growth.secret i hold]
      exact h.secret hold
    · rcases hco.last with hlast | ⟨hlast, hown⟩
      · omega
      rwa [hsn.follows.selfPrivate, show seat'.own = i by omega] at hsecret

include hidl hfmt in
theorem seal_conversing (h : Conversing p f agree v c) (side : Side) (pt binding : Bytes)
    (random : Option K) (hfr : Drawn p c (.sealMessage side pt binding random))
    (hocc : (c.step p f (.sealMessage side pt binding random)).Occurs f v) :
    Conversing p f agree v (c.step p f (.sealMessage side pt binding random)) := by
  obtain ⟨t, ht, ham, hdr, hlv⟩ := h
  obtain ⟨seat, s, hsd⟩ := hlv side
  unfold step at hocc ⊢
  simp only at hocc ⊢
  rcases hsl : sealPlaintext p f (c.held side) pt binding random with e | ⟨ct, next⟩
  · exact ⟨t, ht, ham, hdr, hlv⟩
  rw [hsl] at hocc
  have hnew : ∀ key, random = some key → ∀ i ≤ t.last, p.publicOf key ≠ p.publicOf (t.secret i) := by
    intro key hkey i hi heq
    exact hfr key hkey (heq ▸ hdr i hi)
  obtain ⟨seat', t', s', hco, hdec, hstp⟩ := hsd.inStep.seals hidl hfmt ht hsd.held hnew hsl
  have hheld : f.decodeState (Function.update c.held side next side) = .ok s' := by
    rw [Function.update_self]
    exact hdec
  refine ⟨t', hco.sound, hco.among ham hstp.standing (hocc.root hheld) (hocc.secret hheld), ?_, fun side' => ?_⟩
  · intro i hi
    rcases hco.secrets i hi with ⟨j, hj, heq⟩ | heq
    · rw [heq]
      exact List.mem_append_right _ (hdr j hj)
    · rw [← heq]
      exact List.mem_append_left _ List.mem_cons_self
  by_cases hsm : side' = side
  · subst hsm
    obtain ⟨k, hcnt, hplc, hct⟩ := hco.place
    have hsn := hstp.standing
    refine ⟨seat', s', ⟨?_, ?_, ?_, ?_⟩⟩
    · simpa using hdec
    · simpa [Function.update_of_ne side'.other_ne] using hstp
    · simp only [Function.update_self, List.length_append, List.length_singleton]
      rw [hsd.length, hcnt, ← hplc]
      rfl
    simp only [Function.update_self]
    refine (hsd.carries.extend hco.growth).append hsn.owner hsn.own (by omega) ?_ hct
    rw [hsd.length, hplc]
  · obtain rfl : side' = side.other := by
      cases side' <;> cases side <;> first | rfl | exact absurd rfl hsm
    obtain ⟨seatOther, sOther, hoth⟩ := hlv side.other
    refine ⟨seatOther, sOther, Live.extend hstp.standing hco hoth ?_ rfl ?_ ?_⟩
    · exact Function.update_of_ne side.other_ne _ _
    · exact Function.update_of_ne side.other_ne _ _
    · exact Function.update_self _ _ _

/-! ## Every run -/

/-- The script when nothing has been sealed. -/
def opening (prekey self root chain : K) : Script K where
  last := 1
  secret i := if i = 0 then prekey else self
  root _ := root
  chain _ := chain
  count _ := 0

omit [Zero K] [DecidableEq K] in
theorem opening_sound {prekey self : K} (hdist : p.publicOf self ≠ p.publicOf prekey)
    (secrets : List K) (binding : Bytes) :
    (opening prekey self (p.deriveInitial secrets binding).1 (p.deriveInitial secrets binding).2).Sound p agree := by
  refine ⟨le_rfl, ⟨secrets, binding, rfl, rfl⟩, ?_, ?_, fun _ => by show 0 < counterBound; decide, rfl, fun _ _ => rfl⟩
  · intro i hi hlt
    have hlt : i < 1 := hlt
    omega
  intro i j hi hj heq
  have hi : i ≤ 1 := hi
  have hj : j ≤ 1 := hj
  rcases Nat.lt_or_ge 0 i with hipos | hizero
  · rcases Nat.lt_or_ge 0 j with hjpos | hjzero
    · omega
    obtain rfl : i = 1 := by omega
    obtain rfl : j = 0 := by omega
    exact absurd heq hdist
  rcases Nat.lt_or_ge 0 j with hjpos | hjzero
  · obtain rfl : i = 0 := by omega
    obtain rfl : j = 1 := by omega
    exact absurd heq.symm hdist
  · omega

omit [DecidableEq K] in
/-- A session that is in step with the opening. -/
theorem opening_live (hfmt : Faithful p f) (seat : Seat) {s : RatchetState K} {raw : σ} (hs : Initial p s)
    (henc : f.encodeState s = .ok raw) (hhe : c.held side = raw) (hopn : c.opened side = [])
    (hmail : c.mail side = []) (hplc : t.place seat.own (t.count seat.own) = 0)
    (hsn : Standing p t side seat [] s) : ∃ seat s, Live p f t c side seat s := by
  have hstp : InStep p t side seat (c.opened side) (c.mail side.other) s := by
    refine ⟨hs.usable.1, hs.usable.2, ?_, ?_⟩
    · rw [hopn]
      exact hsn
    · rw [Remembered, hs.tables.2]
      simp
  obtain ⟨raw', s', henc', hdec, hwrt⟩ := hstp.written hfmt
  rw [henc] at henc'
  cases henc'
  refine ⟨seat, s', ⟨?_, hwrt, ?_, ?_⟩⟩
  · rw [hhe, hdec]
  · rw [hmail, hplc]
    rfl
  rw [hmail]
  intro q message hmsg
  cases hmsg

omit [DecidableEq K] in
theorem opening_among {prekey self root chain : K} (hocc : c.Occurs f v)
    (hlv : ∀ side, ∃ seat s, Live p f (opening prekey self root chain) c side seat s) :
    (opening prekey self root chain).Among v := by
  constructor
  · intro i _ _
    obtain ⟨seat, s, hsd⟩ := hlv .initiator
    have hroot := hocc.root hsd.held
    rw [hsd.inStep.standing.follows.root] at hroot
    exact hroot
  · intro i hi
    -- the first two epochs are one of either side's
    obtain ⟨seat, s, hsd⟩ := hlv (owner i)
    have hsecret := hocc.secret hsd.held
    have hsame := owner_eq_iff.mp hsd.inStep.standing.owner
    have hown : seat.own ≤ 1 := hsd.inStep.standing.own
    have hi : i ≤ 1 := hi
    rwa [hsd.inStep.standing.follows.selfPrivate, show seat.own = i by omega] at hsecret

include hidl hfmt in
omit [DecidableEq K] in
/-- `Initiate` and `Accept` agree. -/
theorem establish_conversing {initiator responder : PrivateMaterial K} {binding : Bytes} {self : K}
    (hdist : p.publicOf self ≠ p.publicOf responder.prekey)
    (h : establish p f initiator responder binding (some self) = .ok c) (hocc : c.Occurs f v) :
    Conversing p f agree v c := by
  obtain ⟨⟨state, initial⟩, hinit, h⟩ := seq_ok.mp h
  obtain ⟨accepted, hacp, h⟩ := seq_ok.mp h
  cases h
  simp only [initiate, PrivateMaterial.published, hidl.ecdh] at hinit
  obtain ⟨raw, henc, heq⟩ := map_ok.mp hinit
  cases heq
  simp only [accept, PrivateMaterial.published, hidl.ecdh, hidl.agree_comm responder.prekey,
    hidl.agree_comm responder.identity] at hacp
  suffices hlv : ∀ side, ∃ seat s, Live p f (opening responder.prekey self _ _) _ side seat s by
    refine ⟨opening responder.prekey self _ _, opening_sound hdist [agree initiator.identity responder.prekey,
      agree self responder.identity, agree self responder.prekey] binding, opening_among hocc hlv, ?_, hlv⟩
    intro i _
    by_cases hi : i = 0 <;> simp [opening, hi]
  intro side
  cases side with
  | initiator =>
    refine opening_live hfmt ⟨1, 0, 0⟩ ⟨rfl, ?_, fun _ => rfl, ⟨rfl, rfl, rfl⟩, rfl, rfl⟩ henc rfl rfl rfl rfl
      ⟨rfl, le_rfl, by show 1 < 3; decide, Nat.zero_le _, .inl rfl, le_rfl, rfl, ?_, .nil⟩
    · intro hno
      cases hno
    · exact ⟨rfl, rfl, rfl, rfl, rfl, rfl, fun _ => ⟨rfl, rfl⟩, rfl, fun hpos => absurd hpos (lt_irrefl 0), rfl⟩
  | responder =>
    refine opening_live hfmt ⟨0, 1, 0⟩ ⟨rfl, fun _ => rfl, ?_, ⟨rfl, rfl, rfl⟩, rfl, rfl⟩ hacp rfl rfl rfl rfl
      ⟨rfl, Nat.zero_le _, by show 1 < 2; decide, le_rfl, .inr rfl, le_rfl, rfl, ?_, .nil⟩
    · intro hno
      cases hno
    · exact ⟨rfl, rfl, rfl, rfl, rfl, rfl, fun hsnd => absurd hsnd (by decide), rfl, fun _ => rfl, rfl⟩

include hidl hfmt in
/-- **Every message is opened once, to what was sealed.** In every run of calls over a channel that
    loses, repeats and reorders, with cryptography that is ideal for the values of the run: a
    message that was not opened opens to its plaintext under its binding, if the messages passed
    over stay within the bound; and one that was opened is refused under every binding. -/
theorem delivered_once {initiator responder : PrivateMaterial K} {binding : Bytes} {self : K}
    (hdistinct : p.publicOf self ≠ p.publicOf responder.prekey)
    (hstart : establish p f initiator responder binding (some self) = .ok c)
    {events : List (Event K)} (hdrawn : Along (Channel.step p f) (Drawn p) c events)
    (hvalues : Throughout (Channel.step p f) (Channel.Occurs f v) c events) {side : Side}
    {position : Nat} {message : Sealed ω}
    (hmsg : ((run (Channel.step p f) c events).mail side.other)[position]? = some message) :
    (position ∉ (run (Channel.step p f) c events).opened side → (run (Channel.step p f) c events).Within side position →
        ∃ next, openCiphertext p f ((run (Channel.step p f) c events).held side) message.ciphertext message.binding =
          .ok (message.plaintext, next))
      ∧ (position ∈ (run (Channel.step p f) c events).opened side → ∀ binding,
        ∃ e, openCiphertext p f ((run (Channel.step p f) c events).held side) message.ciphertext binding =
          .error e) := by
  have hconversing : Conversing p f agree v (run (step p f) c events) ∧ (run (step p f) c events).Occurs f v := by
    refine (hdrawn.and_throughout hvalues).invariant (I := fun c => Conversing p f agree v c ∧ c.Occurs f v) ?_
      ⟨establish_conversing hidl hfmt hdistinct hstart hvalues.start, hvalues.start⟩
    rintro c event ⟨hc, hocc⟩ ⟨hev, hafter⟩
    refine ⟨?_, hafter⟩
    cases event with
    | sealMessage side plaintext binding random =>
      exact seal_conversing hidl hfmt hc side plaintext binding random hev hafter
    | deliver side position binding => exact deliver_conversing hidl hfmt hc hocc side position binding
  obtain ⟨⟨t, ht, ham, -, hlv⟩, hocc⟩ := hconversing
  obtain ⟨seat, s, hsd⟩ := hlv side
  obtain ⟨seatOther, sOther, hoth⟩ := hlv side.other
  constructor
  · intro hnew hwi
    rcases hsd.inStep.opens hidl hfmt ht hoth.carries hsd.held hmsg (fun _ => hocc.message) hnew message.binding with
      ⟨-, next, -, -, hop, -⟩ | ⟨hbeyond, -⟩
    · exact ⟨next, hop⟩
    · exact absurd hwi (not_le.mpr (hbeyond rfl))
  · intro hopn binding
    exact hsd.inStep.refuses hidl hfmt ht hoth.carries hsd.held hmsg ham hopn binding

end

/-- Nothing that was sealed is taken back. -/
theorem mail_run [Zero K] [DecidableEq K] (p : Primitives K ω) (f : Format K σ ω) (c : Channel K σ ω)
    (events : List (Event K)) (side : Side) : c.mail side <+: (run (step p f) c events).mail side := by
  refine (Along.of_forall (P := fun _ _ => True) (fun _ _ => trivial) c events).related
    (R := fun a b => a.mail side <+: b.mail side) (fun _ => List.prefix_rfl) List.IsPrefix.trans ?_
  intro c event _
  cases event with
  | sealMessage sender plaintext binding random =>
    unfold step
    simp only
    split
    · exact List.prefix_rfl
    · show c.mail side <+: Function.update c.mail sender _ side
      by_cases hside : side = sender
      · subst hside
        rw [Function.update_self]
        exact List.prefix_append _ _
      · rw [Function.update_of_ne hside]
  | deliver receiver position binding =>
    unfold step
    simp only
    split
    · exact List.prefix_rfl
    · split <;> exact List.prefix_rfl

/-! ## A conversation in the suite's bytes -/

/-- A number, in bytes below 255. -/
def numeral (n : Nat) : Bytes := (Nat.digits 255 n).map UInt8.ofNat

/-- The bytes of a number are its digits. -/
theorem numeral_digits (n : Nat) : (numeral n).map UInt8.toNat = Nat.digits 255 n := by
  unfold numeral
  rw [List.map_map]
  refine (List.map_congr_left fun digit hdigit => ?_).trans (List.map_id _)
  have hlt := Nat.digits_lt_base (by decide) hdigit
  exact UInt8.toNat_ofNat_of_lt' (by show digit < 256; omega)

theorem numeral_ne {n : Nat} {byte : UInt8} (h : byte ∈ numeral n) : byte ≠ 255 := by
  have hdigit : byte.toNat ∈ Nat.digits 255 n := numeral_digits n ▸ List.mem_map_of_mem h
  have hlt := Nat.digits_lt_base (by decide) hdigit
  rintro rfl
  exact absurd hlt (by decide)

/-- What a body is sealed with. -/
def stamp (key : Block) (additional : Header Block × Bytes) : Bytes :=
  numeral (Encodable.encode (key.toNat, additional.1.publicKey.toNat, additional.1.previousNumber, additional.1.number,
    additional.2.map UInt8.toNat))

theorem stamp_inj {key key' : Block} {additional additional' : Header Block × Bytes}
    (h : stamp key additional = stamp key' additional') : key = key' ∧ additional = additional' := by
  have hdigits := congrArg (List.map UInt8.toNat) h
  unfold stamp at hdigits
  rw [numeral_digits, numeral_digits] at hdigits
  have hencoded := Encodable.encode_injective (Nat.digits_inj_iff.mp hdigits)
  obtain ⟨⟨publicKey, previousNumber, number⟩, binding⟩ := additional
  obtain ⟨⟨publicKey', previousNumber', number'⟩, binding'⟩ := additional'
  simp only [Prod.mk.injEq, ← BitVec.toNat_eq] at hencoded
  obtain ⟨rfl, rfl, rfl, rfl, hbinding⟩ := hencoded
  rw [(List.map_injective_iff.mpr fun a b hab => UInt8.toNat_inj.mp hab) hbinding]
  exact ⟨rfl, rfl⟩

/-- The next root, which holds the one before and the end of what was agreed on. -/
def nextRoot (root shared : Block) : Block := BitVec.ofNat 256 (root.toNat * 2 ^ 32 + shared.toNat % 2 ^ 32)

/-- A sealed body shows what it was sealed with, and a digest is the end of a message. -/
def symbolic : Primitives Block Bytes where
  publicOf key := key
  ecdh secret publicKey := some (secret + publicKey)
  deriveInitial _ _ := (1, 1)
  deriveRoot root shared := (nextRoot root shared, nextRoot root shared)
  messageKey chain := chain
  nextChain chain := chain + 1
  aeadSeal key plaintext additional := List.replicate 16 0 ++ (stamp key additional ++ 255 :: plaintext)
  aeadOpen key body additional :=
    if (body.drop 16).takeWhile (· ≠ 255) = stamp key additional then
      some ((body.drop 16).dropWhile (· ≠ 255)).tail
    else none
  digest message := BitVec.ofNat 256 (Canon.ofBigEndian message)

/-- Roots that leave room for another, and these messages. -/
def roomy (messages : List Bytes) : Values Block Bytes where
  root := {root | 0 < root.toNat ∧ root.toNat < 2 ^ 192}
  secret := Set.univ
  message := {message | message ∈ messages}

theorem nextRoot_toNat {root : Block} (h : root.toNat < 2 ^ 192) (shared : Block) :
    (nextRoot root shared).toNat = root.toNat * 2 ^ 32 + shared.toNat % 2 ^ 32 := by
  unfold nextRoot
  rw [BitVec.toNat_ofNat, Nat.mod_eq_of_lt (by omega)]

theorem nextRoot_inj {root root' shared shared' : Block} (h : root.toNat < 2 ^ 192) (h' : root'.toNat < 2 ^ 192)
    (heq : nextRoot root shared = nextRoot root' shared') : root = root' := by
  have htoNat := congrArg BitVec.toNat heq
  rw [nextRoot_toNat h, nextRoot_toNat h'] at htoNat
  exact BitVec.eq_of_toNat_eq (by omega)

theorem nextRoot_ne_one {root : Block} (h : 0 < root.toNat ∧ root.toNat < 2 ^ 192)
    (shared : Block) : 1 ≠ nextRoot root shared := by
  intro heq
  have htoNat : 1 = _ := congrArg BitVec.toNat heq
  rw [nextRoot_toNat h.2] at htoNat
  omega

theorem symbolic_keyAt_inj {number : Nat} {chain chain' : Block}
    (h : symbolic.keyAt chain number = symbolic.keyAt chain' number) : chain = chain' :=
  (show Function.Injective symbolic.nextChain from add_left_injective 1).iterate number h

theorem symbolic_body (key : Block) (plaintext : Bytes) (additional : Header Block × Bytes) :
    ((symbolic.aeadSeal key plaintext additional).drop 16).takeWhile (· ≠ 255) = stamp key additional ∧
      ((symbolic.aeadSeal key plaintext additional).drop 16).dropWhile (· ≠ 255) = 255 :: plaintext := by
  have hdrop : (symbolic.aeadSeal key plaintext additional).drop 16 = stamp key additional ++ 255 :: plaintext :=
    List.drop_left' (by simp)
  have hstamp : ∀ byte ∈ stamp key additional, decide (byte ≠ 255) = true :=
    fun _ hbyte => decide_eq_true (numeral_ne hbyte)
  rw [hdrop, List.takeWhile_append_of_pos hstamp, List.dropWhile_append_of_pos hstamp]
  simp

/-- The cryptography in symbols is ideal for roots that leave room and messages with different ends. -/
theorem symbolic_ideal {messages : List Bytes} (h : (messages.map symbolic.digest).Nodup) :
    Ideal symbolic (· + ·) (roomy messages) where
  agree_comm := add_comm
  ecdh _ _ := rfl
  root hr hr' heq := nextRoot_inj hr.1.2 hr'.1.2 heq
  chain hr hr' _ heq := nextRoot_inj hr.1.2 hr'.1.2 (symbolic_keyAt_inj heq)
  initialRoot _ hr := nextRoot_ne_one hr.1 _
  initialChain _ hr _ heq := nextRoot_ne_one hr.1 _ (symbolic_keyAt_inj heq)
  opens key plaintext additional := by
    obtain ⟨htake, hrest⟩ := symbolic_body key plaintext additional
    show (if _ then _ else _) = _
    rw [if_pos htake, hrest]
    rfl
  sealed {key plaintext additional key' additional' opened} hopen := by
    obtain ⟨htake, -⟩ := symbolic_body key plaintext additional
    have hopen : (if _ then _ else _) = some opened := hopen
    split_ifs at hopen with hstamp
    obtain ⟨hkey, hadditional⟩ := stamp_inj (htake.symm.trans hstamp)
    exact ⟨hkey.symm, hadditional.symm⟩
  tag key plaintext additional := by
    simp only [symbolic, List.length_append, List.length_replicate]
    omega
  digest _ hm _ hm' := List.inj_on_of_nodup_map h hm hm'

/-- Two sessions, in the suite's own bytes. -/
def begun : Except Refusal (Channel Block Bytes Bytes) :=
  establish symbolic (byteFormat symbolic) ⟨1, 2⟩ ⟨3, 4⟩ [] (some 5)

/-- The initiator says three things. The responder hears the last of them first and answers under a
    new key; the initiator says a fourth thing under a new key, and the responder hears that. -/
def talk : List (Event Block) :=
  [.sealMessage .initiator [10] [1] none, .sealMessage .initiator [11] [1] none,
    .sealMessage .initiator [12] [1] none, .deliver .responder 2 [1],
    .sealMessage .responder [20] [1] (some 6), .deliver .initiator 0 [1],
    .sealMessage .initiator [13] [1] (some 7), .deliver .responder 3 [1]]

/-- The key that is drawn for an event. -/
def Event.random : Event Block → Option Block
  | .sealMessage _ _ _ random => random
  | .deliver .. => none

/-- The channel after some events. -/
abbrev after (c : Channel Block Bytes Bytes) (events : List (Event Block)) : Channel Block Bytes Bytes :=
  run (step symbolic (byteFormat symbolic)) c events

/-- What both sides have said. -/
def said (c : Channel Block Bytes Bytes) : List Bytes := (c.mail .initiator ++ c.mail .responder).map Sealed.ciphertext

/-- The roots of both sides leave room for another. -/
def fits (c : Channel Block Bytes Bytes) : Bool :=
  [Side.initiator, .responder].all fun side =>
    (decodeRatchetState symbolic (c.held side)).toOption.all fun s => 0 < s.root.toNat ∧ s.root.toNat < 2 ^ 192

/-- What there is to see in a conversation: the values that occur, the keys that are drawn, and what
    was said and heard. -/
@[mk_iff]
structure Talked (c : Channel Block Bytes Bytes) (events : List (Event Block)) : Prop where
  fits : ∀ n < events.length + 1, fits (after c (events.take n))
  drawn : ∀ n < events.length, (events[n]?.bind Event.random).all (· ∉ (after c (events.take n)).drawn)
  digests : ((said (after c events)).map symbolic.digest).Nodup
  said : ((after c events).mail .initiator).map Sealed.plaintext = [[10], [11], [12], [13]]
  opened : (after c events).opened .responder = [3, 2]

instance (events : List (Event Block)) : DecidablePred (Talked · events) := fun c =>
  decidable_of_iff' _ (talked_iff c events)

theorem begun_talked : ∃ c, begun = .ok c ∧ Talked c talk := by
  have hany : begun.toOption.any (fun c => decide (Talked c talk)) := by decide +kernel
  cases hbegun : begun with
  | error e =>
    rw [hbegun] at hany
    cases hany
  | ok c =>
    rw [hbegun] at hany
    exact ⟨c, rfl, of_decide_eq_true hany⟩

namespace Talked
variable {c : Channel Block Bytes Bytes} {events : List (Event Block)} (h : Talked c events)

include h

theorem occurs : Throughout (step symbolic (byteFormat symbolic))
    (Occurs (byteFormat symbolic) (roomy (E2ee.said (after c events)))) c events := by
  intro k
  have hfits : E2ee.fits (after c (events.take k)) := by
    by_cases hk : k ≤ events.length
    · exact h.fits k (Nat.lt_succ_of_le hk)
    · have hall := h.fits events.length (Nat.lt_succ_self _)
      rw [List.take_of_length_le le_rfl] at hall
      rwa [List.take_of_length_le (by omega)]
  refine ⟨fun {side s} hdec => ?_, fun _ => trivial, fun {side message} hmessage => ?_⟩
  · have hside := List.all_eq_true.mp hfits side (by cases side <;> simp)
    rw [show decodeRatchetState symbolic _ = .ok s from hdec] at hside
    show 0 < s.root.toNat ∧ s.root.toNat < 2 ^ 192
    exact of_decide_eq_true hside
  -- what was said so far is the beginning of what was said
  have hgrown := mail_run symbolic (byteFormat symbolic) (after c (events.take k)) (events.drop k) side
  rw [← run_append, List.take_append_drop] at hgrown
  refine List.mem_map_of_mem (List.mem_append.mpr ?_)
  cases side with
  | initiator => exact .inl (hgrown.subset hmessage)
  | responder => exact .inr (hgrown.subset hmessage)

theorem alongDrawn : Along (step symbolic (byteFormat symbolic)) (Drawn symbolic) c events := by
  refine Along.of_take fun n event hevent => ?_
  have hdrawn := h.drawn n (List.getElem?_eq_some_iff.mp hevent).1
  rw [hevent] at hdrawn
  cases event with
  | sealMessage side plaintext binding random =>
    rintro key rfl
    exact of_decide_eq_true hdrawn
  | deliver side position binding => trivial

end Talked

/-- **Out of order, across two new keys, with one message lost.** What was said first is opened
    last, and what was heard first is refused from then on. -/
theorem talk_once : ∃ (c : Channel Block Bytes Bytes) (first third : Sealed Bytes), begun = .ok c ∧
    ((after c talk).mail .initiator)[0]? = some first ∧ ((after c talk).mail .initiator)[2]? = some third ∧
    (∃ next, openCiphertext symbolic (byteFormat symbolic) ((after c talk).held .responder) first.ciphertext
      first.binding = .ok ([10], next)) ∧
    ∀ binding, ∃ e, openCiphertext symbolic (byteFormat symbolic) ((after c talk).held .responder) third.ciphertext
      binding = .error e := by
  obtain ⟨c, hbegun, htalked⟩ := begun_talked
  -- nothing below computes with the events
  generalize talk = events at htalked ⊢
  have hideal : Ideal symbolic (· + ·) (roomy (said (after c events))) := symbolic_ideal htalked.digests
  have hdistinct : symbolic.publicOf (5 : Block) ≠ symbolic.publicOf 4 := by decide
  have hplaintext : ∀ n : Nat, (((after c events).mail .initiator)[n]?).map Sealed.plaintext =
      [[10], [11], [12], [13]][n]? := by
    intro n
    rw [← List.getElem?_map, htalked.said]
  obtain ⟨first, hfirst, hten⟩ := Option.map_eq_some_iff.mp (hplaintext 0)
  obtain ⟨third, hthird, -⟩ := Option.map_eq_some_iff.mp (hplaintext 2)
  have hsent : ∀ {n : Nat} {message}, ((after c events).mail .initiator)[n]? = some message →
      ((after c events).mail Side.responder.other)[n]? = some message := id
  obtain ⟨hopens, -⟩ := delivered_once hideal (byteFormat_faithful symbolic) hdistinct hbegun
    htalked.alongDrawn htalked.occurs (hsent hfirst)
  obtain ⟨-, hrefused⟩ := delivered_once hideal (byteFormat_faithful symbolic) hdistinct hbegun
    htalked.alongDrawn htalked.occurs (hsent hthird)
  rw [hten, Within, htalked.opened] at hopens
  rw [htalked.opened] at hrefused
  exact ⟨c, first, third, hbegun, hfirst, hthird, hopens (by decide) (by decide), hrefused (by decide)⟩

end Messenger.E2ee
