import Messenger.Mailbox.Correctness.Claims

/-!
# `Mailbox.Correctness.Isolation` — what one tenant of a Relay can do to another's mailbox

A request that is accepted came with a grant that the Endpoint it names has signed, and it reaches
the mailbox of that grant only (`confined`). Nothing ties a mailbox to one Endpoint, though: every
live Endpoint can sign a grant for every mailbox. The tenants of a Relay are isolated from each
other as far as no two of them sign read or delete grants for one mailbox (`tenants_isolated`), and
no further (`foreign_grant_reads`).
-/

namespace Messenger.Mailbox

open Lib Identity Relay
open Eventlog (Written Medium)

/-- Who signs a grant. -/
def CapabilityGrant.signer (g : CapabilityGrant) : AgentID × EndpointID := (g.agentID, g.endpointID)

/-- The Endpoint a grant names is live and its key has signed the grant. -/
def CapabilityGrant.SignedAt (cfg : Config) (g : CapabilityGrant) (now : Time) : Prop :=
  Signed cfg.crypto (resolveMailboxEndpoint cfg.authority g now) g.canonicalBytes g.endpointSignatureHex

variable {cfg : Config} {r : Request} {now : Time} {s : Relay} {mailboxID : MailboxID}

/-- A request that is accepted has a signed grant. -/
theorem Config.authentic_signed (h : cfg.authentic r now = .ok ()) : r.grant.SignedAt cfg now := by
  simp only [Config.authentic, seq_ok] at h
  obtain ⟨digest, -, key, hkey, _, hgnt, -⟩ := h
  obtain ⟨message, hmsg, hgnt⟩ := seq_ok.mp hgnt
  iterate 3 obtain ⟨_, -, hgnt⟩ := seq_ok.mp hgnt
  exact ⟨key, message, hkey, hmsg, not_not.mp (failIf_ok.mp hgnt)⟩

theorem Relay.authentic_of_accepts {a : Arrival} (hcl : a.call = .request r) (h : s.accepts cfg a) :
    cfg.authentic r a.now = .ok () := by
  rcases s.step_claims cfg a with ⟨href, -⟩ | ⟨r', hc', haut, -⟩
  · rw [href] at h
    cases h
  rw [hcl] at hc'
  cases hc'
  exact haut

/-! ## What a request reaches -/

/-- A request is answered with an envelope of a mailbox, or an envelope of the mailbox is gone after
    it. -/
def Reaches (cfg : Config) (s : Relay) (a : Arrival) (mailboxID : MailboxID) : Prop :=
  (∃ values value, (s.serve cfg a).1 = .ok (.listed values) ∧ value ∈ values ∧ value.opaqueMailboxID = mailboxID) ∨
  ∃ messageID record, lookup (mailboxID, messageID) s.boxes = some record ∧
    lookup (mailboxID, messageID) (s.step cfg a).boxes ≠ some record

/-- A list is of one mailbox. -/
theorem Boxes.mem_list {c : Crypto} {boxes : Boxes} {limit : Int} {values : List RelayEnvelope}
    (h : boxes.list c mailboxID now limit = .ok values) {value : RelayEnvelope}
    (hvl : value ∈ values) : value.opaqueMailboxID = mailboxID := by
  obtain ⟨_, -, h⟩ := seq_ok.mp h
  obtain ⟨records, hrc, h⟩ := seq_ok.mp h
  cases h
  obtain ⟨record, hrec, rfl⟩ := List.mem_map.mp hvl
  have hsrt := List.mem_of_mem_take hrec
  have hrd : record ∈ records := List.mem_of_mem_filter ((List.mem_insertionSort _).mp hsrt)
  obtain ⟨name, -, hnm⟩ := (mapM_ok_mem hrc).2 record hrd
  obtain ⟨file, -, hnm⟩ := seq_ok.mp hnm
  obtain ⟨hplc, hnm⟩ := failIf_then.mp hnm
  cases hnm
  have hbox := hplc
  push Not at hbox
  exact hbox.1

/-- A deposit is filed where nothing was. -/
theorem Boxes.judgePut_fresh {c : Crypto} {quota : Quota} {boxes : Boxes} {value : RelayEnvelope}
    {record : Record} (h : boxes.judgePut c quota value now = .ok (true, record)) :
    lookup (value.opaqueMailboxID, value.messageID) boxes = none := by
  iterate 2 obtain ⟨_, -, h⟩ := seq_ok.mp h
  split at h
  next hno => exact hno
  next existing hexists =>
    obtain ⟨read, -, h⟩ := seq_ok.mp h
    split_ifs at h
    cases h

/-- Claiming a request does not touch the boxes. -/
theorem Relay.authorize_boxes (cfg : Config) (s : Relay) (r : Request) (now : Time)
    (failsAt : Option Nat) (m : Medium) : (s.authorize cfg r now failsAt m).2.boxes = s.boxes := by
  unfold authorize
  split <;> rfl

/-- Only a read is answered with envelopes. -/
theorem Relay.perform_listed {m : Medium} {body : Body} {values : List RelayEnvelope}
    (h : (s.perform cfg mailboxID now m body).1 = .ok (.listed values)) :
    ∃ limit, body = .read limit ∧ s.boxes.list cfg.crypto mailboxID now limit = .ok values := by
  cases body with
  | deposit value =>
    simp only [perform] at h
    split at h
    · cases h
    · obtain ⟨_, -, hstored⟩ := map_ok.mp h
      cases hstored
    · obtain ⟨_, -, hstored⟩ := seq_ok.mp h
      obtain ⟨_, -, hstored⟩ := map_ok.mp hstored
      cases hstored
  | delete mid ciphertextDigest =>
    simp only [perform] at h
    split at h
    · cases h
    · cases h
    · obtain ⟨_, -, hdeleted⟩ := map_ok.mp h
      cases hdeleted
  | read limit =>
    obtain ⟨listed, hlist, hsm⟩ := map_ok.mp h
    cases hsm
    exact ⟨limit, rfl, hlist⟩

/-- **What an operation does to the boxes**: nothing, one record is filed, or one is removed. -/
theorem Relay.perform_boxes (cfg : Config) (s : Relay) (mailboxID : MailboxID) (now : Time)
    (m : Medium) (body : Body) : (s.perform cfg mailboxID now m body).2.boxes = s.boxes ∨
    (∃ value record, body = .deposit value ∧ s.boxes.judgePut cfg.crypto cfg.quota value now = .ok (true, record) ∧
      (s.perform cfg mailboxID now m body).2.boxes =
        AList.insert (value.opaqueMailboxID, value.messageID) record s.boxes) ∨
    ∃ mid digest, body = .delete mid digest ∧
      s.boxes.judgeDelete cfg.crypto mailboxID mid digest = .ok true ∧
      (s.perform cfg mailboxID now m body).2.boxes = AList.erase (mailboxID, mid) s.boxes := by
  cases body with
  | deposit value =>
    simp only [perform]
    split
    · exact .inl rfl
    · exact .inl rfl
    next record hjud =>
      unfold Written.put
      split_ifs
      · exact .inl rfl
      · exact .inr (.inl ⟨value, record, rfl, hjud, rfl⟩)
  | read limit => exact .inl rfl
  | delete mid digest =>
    simp only [perform]
    split
    · exact .inl rfl
    · exact .inl rfl
    next hjud =>
      unfold Written.put
      split_ifs
      · exact .inl rfl
      · exact .inr (.inr ⟨mid, digest, rfl, hjud, rfl⟩)

/-- **What a call does to the boxes.** -/
theorem Relay.step_boxes (cfg : Config) (s : Relay) (a : Arrival) : (s.step cfg a).boxes = s.boxes ∨
    (∃ r value record, a.call = .request r ∧ s.accepts cfg a ∧ r.body = .deposit value ∧
      s.boxes.judgePut cfg.crypto cfg.quota value a.now = .ok (true, record) ∧
      (s.step cfg a).boxes = AList.insert (value.opaqueMailboxID, value.messageID) record s.boxes) ∨
    (∃ r mid digest, a.call = .request r ∧ s.accepts cfg a ∧ r.body = .delete mid digest ∧
      s.boxes.judgeDelete cfg.crypto r.grant.mailboxID mid digest = .ok true ∧
      (s.step cfg a).boxes = AList.erase (r.grant.mailboxID, mid) s.boxes) ∨
    a.call = .sweep ∧ (s.step cfg a).boxes = (s.boxes.sweep cfg.crypto a.now a.failsAt).2 := by
  unfold step serve accepts
  cases hcl : a.call with
  | sweep => exact .inr (.inr (.inr ⟨rfl, rfl⟩))
  | restart => exact .inl rfl
  | request r =>
    have hboxes := s.authorize_boxes cfg r a.now a.failsAt a.claiming
    dsimp only
    generalize s.authorize cfg r a.now a.failsAt a.claiming = authorized at hboxes ⊢
    obtain ⟨_ | _, claimed⟩ := authorized
    · exact .inl hboxes
    have hsm : claimed.boxes = s.boxes := hboxes
    rw [← hsm]
    rcases claimed.perform_boxes cfg r.grant.mailboxID a.now a.performing r.body with
      heq | ⟨value, record, hbo, hjud, heq⟩ | ⟨mid, digest, hbo, hjud, heq⟩
    · exact .inl heq
    · exact .inr (.inl ⟨r, value, record, rfl, rfl, hbo, hjud, heq⟩)
    · exact .inr (.inr (.inl ⟨r, mid, digest, rfl, rfl, hbo, hjud, heq⟩))

/-- **Confinement.** A request that reaches an envelope of a mailbox is an accepted read or delete
    under a grant for that mailbox. -/
theorem confined {a : Arrival} (hcl : a.call = .request r) (h : Reaches cfg s a mailboxID) :
    s.accepts cfg a ∧ r.grant.mailboxID = mailboxID ∧ r.body.operation ≠ .deposit := by
  rcases h with ⟨values, value, hlst, hvl, rfl⟩ | ⟨mid, record, hpre, haft⟩
  · unfold serve at hlst
    unfold accepts
    simp only [hcl] at hlst ⊢
    generalize s.authorize cfg r a.now a.failsAt a.claiming = authorized at hlst ⊢
    obtain ⟨_ | _, claimed⟩ := authorized
    · cases hlst
    · obtain ⟨limit, hbo, hlist⟩ := perform_listed hlst
      exact ⟨rfl, (Boxes.mem_list hlist hvl).symm, fun hop => by rw [hbo] at hop; cases hop⟩
  · rcases s.step_boxes cfg a with hsm | ⟨r', value, written, -, -, -, hjud, hfl⟩ |
      ⟨r', messageID', digest, hc', haccepted, hbo, -, hrem⟩ | ⟨hswp, -⟩
    · rw [hsm] at haft
      exact absurd hpre haft
    · -- it is filed where nothing was
      rw [hfl] at haft
      exact absurd (Lib.Dir.lookup_insert_of_absent (Boxes.judgePut_fresh hjud) hpre) haft
    · cases hcl.symm.trans hc'
      refine ⟨haccepted, ?_, fun hop => by rw [hbo] at hop; cases hop⟩
      by_contra hoth
      rw [hrem, lookup_erase_ne fun hnm => hoth (Prod.mk.inj hnm).1.symm] at haft
      exact haft hpre
    · cases hcl.symm.trans hswp

/-! ## Isolation -/

/-- A request that reaches a mailbox in which an Endpoint's grant was used to read or delete is
    under a grant of that Endpoint. -/
def Isolated (cfg : Config) (calls : List Arrival) : Prop :=
  ∀ earlier own later r, calls = earlier ++ own :: later → own.call = .request r →
    r.body.operation ≠ .deposit → (run (step cfg) {} earlier).accepts cfg own →
    ∀ earlier' other later' r', calls = earlier' ++ other :: later' → other.call = .request r' →
      Reaches cfg (run (step cfg) {} earlier') other r.grant.mailboxID → r'.grant.signer = r.grant.signer

theorem Isolated.third {first second third : Arrival} {r' : Request} (h : Isolated cfg [first, second, third])
    (hcl : first.call = .request r) (hop : r.body.operation ≠ .deposit)
    (haccepted : accepts cfg {} first) (hc' : third.call = .request r')
    (hreaches : Reaches cfg ((step cfg {} first).step cfg second) third r.grant.mailboxID) :
    r'.grant.signer = r.grant.signer :=
  h [] first [second, third] r rfl hcl hop haccepted [first, second] third [] r' rfl hc' hreaches

/-- The read and delete grants presented for a mailbox are signed by its owner alone. -/
def Owned (cfg : Config) (owner : MailboxID → AgentID × EndpointID) (a : Arrival) : Prop :=
  ∀ r, a.call = .request r → r.body.operation ≠ .deposit → r.grant.SignedAt cfg a.now →
    r.grant.signer = owner r.grant.mailboxID

/-- **Isolation.** When no two Endpoints sign read or delete grants for one mailbox, no tenant reads
    or removes what is in a mailbox another has used. -/
theorem tenants_isolated (cfg : Config) (calls : List Arrival) (owner : MailboxID → AgentID × EndpointID)
    (howned : ∀ a ∈ calls, Owned cfg owner a) : Isolated cfg calls := by
  intro earlier own later r hown hcl hop haccepted earlier' other later' r' hoth hc' hreaches
  obtain ⟨haccepted', hmbx, hop'⟩ := confined hc' hreaches
  have hsig := Config.authentic_signed (authentic_of_accepts hcl haccepted)
  have hsign' := Config.authentic_signed (authentic_of_accepts hc' haccepted')
  have hmem : own ∈ calls := by
    rw [hown]
    exact List.mem_append_right _ List.mem_cons_self
  have hmem' : other ∈ calls := by
    rw [hoth]
    exact List.mem_append_right _ List.mem_cons_self
  rw [howned own hmem r hcl hop hsig, howned other hmem' r' hc' hop' hsign', hmbx]

/-- An envelope for a mailbox. -/
def parcelFor (mailboxID : MailboxID) : RelayEnvelope where
  opaqueMailboxID := mailboxID
  messageID := ⟨6⟩
  ciphertext := List.replicate 32 1
  expiresAtUnix := 300
  storageToken := ""
  admissionToken := ""

/-- The first Endpoint uses mailbox 5 and the second mailbox 8: each is sent an envelope by the
    other and reads it. The first deletes its own. -/
def sharing : List Arrival := [
  arrival ⟨2⟩ ⟨5⟩ (.deposit (parcelFor ⟨5⟩)) 45 'a' 100,
  arrival ⟨1⟩ ⟨5⟩ (.read 8) 9 'b' 110,
  arrival ⟨1⟩ ⟨5⟩ (.delete ⟨6⟩ 2) 51 'c' 120,
  arrival ⟨1⟩ ⟨8⟩ (.deposit (parcelFor ⟨8⟩)) 45 'd' 130,
  arrival ⟨2⟩ ⟨8⟩ (.read 8) 9 'e' 140]

/-- What the calls of a run are answered. -/
def answers (cfg : Config) (s : Relay) : List Arrival → List (Except Failure Answer)
  | [] => []
  | a :: calls => (s.serve cfg a).1 :: answers cfg (s.step cfg a) calls

theorem tenants_isolated_sharing : Isolated hosting sharing ∧
    answers hosting {} sharing = [
      .ok (.stored true { value := parcelFor ⟨5⟩, storedAtUnix := 100 }),
      .ok (.listed [parcelFor ⟨5⟩]), .ok (.deleted true),
      .ok (.stored true { value := parcelFor ⟨8⟩, storedAtUnix := 130 }), .ok (.listed [parcelFor ⟨8⟩])] := by
  refine ⟨tenants_isolated hosting sharing (fun box => if box = ⟨5⟩ then (⟨1⟩, ⟨1⟩) else (⟨2⟩, ⟨2⟩)) ?_,
    by decide +kernel⟩
  intro a ha r hcall hoperation hsigned
  simp only [sharing, List.mem_cons, List.not_mem_nil, or_false] at ha
  rcases ha with rfl | rfl | rfl | rfl | rfl
  · cases hcall
    exact absurd rfl hoperation
  · cases hcall
    rfl
  · cases hcall
    rfl
  · cases hcall
    exact absurd rfl hoperation
  · cases hcall
    rfl

/-- The first Endpoint deposits an envelope in its own mailbox. -/
def depositing : Arrival := arrival ⟨1⟩ ⟨5⟩ (.deposit (parcelFor ⟨5⟩)) 45 'b' 100

/-- The second Endpoint reads that mailbox. -/
def foreignReading : Arrival := arrival ⟨2⟩ ⟨5⟩ (.read 8) 9 'c' 100

/-- Another Endpoint signs a read grant for the mailbox of the first, and is given what is in it. -/
theorem foreign_grant_reads : ¬Isolated hosting [reading 'a' 100, depositing, foreignReading] := by
  have hlisted : ((((step hosting {} (reading 'a' 100)).step hosting depositing).serve hosting
      foreignReading).1) = .ok (.listed [parcelFor ⟨5⟩]) := by decide +kernel
  intro h
  have hsigner := h.third rfl nofun (by decide +kernel) rfl
    (.inl ⟨_, parcelFor ⟨5⟩, hlisted, List.mem_singleton.mpr rfl, rfl⟩)
  exact absurd hsigner (by decide)

end Messenger.Mailbox
