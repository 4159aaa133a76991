import Messenger.LocalApi.Owner
import Mathlib.Data.List.Nodup

/-!
# `LocalApi.Correctness.Decisions` — a signature stands for one decision, a challenge for one signature

Two facts about the owner's authority.

* **The preimage.** The fields of a decision are delimited, so the bytes an owner signs determine
  the operation, the challenge and every field the handler acts on — with one exception. A mandate's
  network hashes are decoded before they are committed, and the decoder reads both letter cases,
  while the handler is given the texts. `Respelled` is that exception, and `sameDecision_iff` says
  that there is no other.
* **The challenges.** Over every run of requests, signatures and restarts, a challenge authorises at
  most one decision and none from its deadline on (`run_honoured`). Freshness of the random source
  and unforgeability of the signature scheme are conditions on the steps of the run.
-/

namespace Messenger.LocalApi.Wire

open Lib Request
open Canon (Field lowercase hexDecode hexDecode_eq_iff)

/-! ## Sizes -/

/-- The bound on the body of a frame. -/
def maxFrameBytes : Nat := 2 * 2 ^ 20

variable (r : Request) (genesisRootHash : String) (mandate : MandateTerms)

def MandateTerms.texts : List String :=
  [mandate.objective, mandate.authority, mandate.capabilityClass, mandate.asset.networkID, mandate.asset.accountID,
    mandate.asset.masterCodeHash, mandate.asset.walletCodeHash, mandate.maxTotalAtomic, mandate.approvalAboveAtomic]

/-- The texts a decision may commit. -/
def Request.texts (request : Request) : List String :=
  [request.eventID, request.actionID, request.mandateID, request.code, request.reason, request.invitedAgentID,
    request.quoteCommitment, request.escrowAddress, request.capabilityClass, request.targetDeviceID,
    request.conversationID, request.previousSegmentDigest, request.afterEventID, request.idempotencyKey] ++
  request.mandate.toList.flatMap MandateTerms.texts

/-- The request came in a frame. Decoding a JSON text at most triples its bytes: a byte that is no
    UTF-8 becomes the replacement character. -/
def Request.Framed (request : Request) : Prop := ∀ text ∈ request.texts, text.utf8ByteSize ≤ 3 * maxFrameBytes

instance (request : Request) : Decidable request.Framed := inferInstanceAs (Decidable (∀ text ∈ request.texts, _))

theorem Request.Framed.fits {request : Request} (h : request.Framed) {text : String}
    (hmem : text ∈ request.texts) : (Field.text text).Fits := by
  show text.utf8ByteSize < 2 ^ 32
  have := h text hmem
  unfold maxFrameBytes at this
  omega

theorem fits_uint64 (n : UInt64) : (Field.uint64 n.toNat).Fits := n.toNat_lt

theorem fits_uint32 (n : UInt32) : (Field.uint32 n.toNat).Fits := n.toNat_lt

section
variable {request : Request}

theorem op_text_size (op : Operation) : op.text.utf8ByteSize < 2 ^ 32 := by
  cases op <;> decide +kernel

theorem headFields_fit (hframed : request.Framed) {challenge : String}
    (hchallenge : challengePattern challenge) : ∀ f ∈ request.headFields challenge, f.Fits := by
  have hsi : challenge.utf8ByteSize < 2 ^ 32 := by
    have := Canon.hashPattern_size hchallenge
    omega
  have hsch : requestSchema.utf8ByteSize < 2 ^ 32 := by decide +kernel
  intro f hf
  simp only [headFields, List.mem_cons, List.not_mem_nil, or_false] at hf
  rcases hf with rfl | rfl | rfl | rfl | rfl | rfl | rfl | rfl | rfl | rfl
  · exact hsch
  · exact op_text_size _
  · exact hsi
  all_goals first | exact fits_uint64 _ | exact hframed.fits (by simp [texts])

theorem termsFields_fit (hframed : request.Framed) : ∀ f ∈ request.termsFields, f.Fits := by
  intro f hf
  unfold termsFields at hf
  split at hf
  · simp only [List.mem_cons, List.not_mem_nil, or_false] at hf
    rcases hf with rfl | rfl | rfl <;> exact hframed.fits (by simp [texts])
  · simp only [List.mem_cons, List.not_mem_nil, or_false] at hf
    rcases hf with rfl | rfl | rfl | rfl | rfl | rfl | rfl | rfl | rfl
    all_goals
      first
      | exact fits_uint64 _
      | exact Canon.uint32_lt _
      | exact hframed.fits (by simp [texts])
  · simp at hf

/-- What a mandate's fields are, where they can be formed. -/
theorem mandateFields_some {mandate : MandateTerms} {fields : List Field}
    (h : mandateFields (some mandate) = .ok fields) :
    ∃ root file, hexDecode mandate.asset.genesisRootHash = some root ∧ root.length = 32
      ∧ hexDecode mandate.asset.genesisFileHash = some file ∧ file.length = 32 ∧ fields = mandate.fields root file := by
  simp only [mandateFields] at h
  split at h
  · rename_i root file hrt hfe
    split_ifs at h with hlen
    rw [not_or, not_not, not_not] at hlen
    cases h
    exact ⟨root, file, hrt, hlen.1, hfe, hlen.2, rfl⟩
  · cases h

theorem mandateFields_fit (hframed : request.Framed) {fields : List Field}
    (h : mandateFields request.mandate = .ok fields) : ∀ f ∈ fields, f.Fits := by
  intro f hf
  cases hman : request.mandate with
  | none =>
    rw [hman] at h
    cases h
    cases hf
  | some mandate =>
    rw [hman] at h
    obtain ⟨root, file, -, hrt, -, hfe, rfl⟩ := mandateFields_some h
    have htexts : ∀ text ∈ mandate.texts, (Field.text text).Fits := by
      intro text hmem
      apply hframed.fits
      simp only [texts, hman, Option.toList_some, List.flatMap_singleton, List.mem_append]
      exact .inr hmem
    have hbs : ∀ raw : Bytes, raw.length = 32 → (Field.bytes raw).Fits := by
      intro raw hlen
      show raw.length < 2 ^ 32
      omega
    simp only [MandateTerms.fields, List.mem_cons, List.not_mem_nil, or_false] at hf
    rcases hf with rfl | rfl | rfl | rfl | rfl | rfl | rfl | rfl | rfl | rfl | rfl | rfl | rfl | rfl | rfl
    all_goals
      first
      | exact fits_uint64 _
      | exact fits_uint32 _
      | exact Canon.uint32_lt _
      | exact hbs _ hrt
      | exact hbs _ hfe
      | exact htexts _ (by simp [MandateTerms.texts])

end

/-! ## What the bytes determine -/

/-- What a successful preimage is made of. -/
theorem decisionBytes_ok {request : Request} {challenge : String} {bytes : Bytes}
    (h : decisionBytes request challenge = .ok bytes) :
    Deciding request.op ∧ challengePattern challenge ∧ ∃ mandate, mandateFields request.mandate = .ok mandate
      ∧ bytes = Canon.preimage domainOwnerDecision
          (request.headFields challenge ++ (request.termsFields ++ mandate)) := by
  simp only [decisionBytes, seq_ok, failIf_ok, not_not] at h
  obtain ⟨-, hop, -, hchallenge, mandate, hman, hbs⟩ := h
  cases hbs
  exact ⟨hop, hchallenge, mandate, hman, rfl⟩

/-- Among the deciding operations the name tells the operation. -/
theorem op_text_inj {a b : Operation} (ha : Deciding a) (hb : Deciding b) (h : a.text = b.text) : a = b := by
  have hnd : (deciding.map Operation.text).Nodup := by simp [deciding, Operation.text]
  exact List.inj_on_of_nodup_map hnd ha hb h

variable {fields fields' : List Field}

/-- Without a mandate there is nothing behind the terms; with one there always are the same kinds of
    fields. -/
theorem mandateFields_kinds {m m' : Option MandateTerms}
    (h : mandateFields m = .ok fields) (h' : mandateFields m' = .ok fields') :
    fields.map Field.kind <+: fields'.map Field.kind ∨ fields'.map Field.kind <+: fields.map Field.kind := by
  cases m with
  | none =>
    cases h
    exact .inl (List.nil_prefix)
  | some mandate =>
    cases m' with
    | none =>
      cases h'
      exact .inr (List.nil_prefix)
    | some mandate' =>
      obtain ⟨root, file, -, -, -, -, rfl⟩ := mandateFields_some h
      obtain ⟨root', file', -, -, -, -, rfl⟩ := mandateFields_some h'
      left
      simp only [MandateTerms.fields, List.map_cons, List.map_nil, Field.kind, List.prefix_refl]

theorem headFields_kinds (r r' : Request) {c c' : String} :
    (r.headFields c).map Field.kind = (r'.headFields c').map Field.kind := by
  simp only [headFields, List.map_cons, Field.kind]

/-- Operations of one name have terms of the same kinds. -/
theorem termsFields_kinds {r r' : Request} (hop : r.op = r'.op) :
    r.termsFields.map Field.kind = r'.termsFields.map Field.kind := by
  unfold termsFields
  rw [← hop]
  cases r.op <;> rfl

section
variable {r r' : Request} {c c' : String} {bytes : Bytes}

/-- **Equal preimages have equal fields.** The head tells the operation, the operation tells the
    kinds of the terms, and what is left is a mandate or nothing. -/
theorem fields_of_bytes (hr : r.Framed) (hr' : r'.Framed) (h : decisionBytes r c = .ok bytes)
    (h' : decisionBytes r' c' = .ok bytes) :
    r.op = r'.op ∧ r.headFields c = r'.headFields c' ∧ r.termsFields = r'.termsFields
      ∧ mandateFields r.mandate = mandateFields r'.mandate := by
  obtain ⟨hop, hc, mandate, hman, rfl⟩ := decisionBytes_ok h
  obtain ⟨hop', hc', mandate', hman', heq⟩ := decisionBytes_ok h'
  have hfl := List.append_cancel_left heq
  simp only [List.flatMap_append] at hfl
  obtain ⟨hhd, hre⟩ := Canon.field_delimited.split (headFields_kinds r r') (headFields_fit hr hc)
    (headFields_fit hr' hc') hfl
  have htext : r.op.text = r'.op.text := by
    simp only [headFields, List.cons.injEq, Field.text.injEq] at hhd
    exact hhd.2.1
  have hsm : r.op = r'.op := op_text_inj hop hop' htext
  obtain ⟨htms, hmandates⟩ := Canon.field_delimited.split (termsFields_kinds hsm) (termsFields_fit hr)
    (termsFields_fit hr') hre
  have hfd : mandate = mandate' :=
    Canon.field_delimited.flatMap_inj Field.encode_ne_nil (mandateFields_kinds hman hman')
      (mandateFields_fit hr hman) (mandateFields_fit hr' hman') hmandates
  exact ⟨hsm, hhd, htms, by rw [hman, hman', hfd]⟩

end

/-- A mandate with its network hashes in lowercase. -/
def MandateTerms.folded : MandateTerms :=
  { mandate with asset := { mandate.asset with
      genesisRootHash := lowercase mandate.asset.genesisRootHash
      genesisFileHash := lowercase mandate.asset.genesisFileHash } }

/-- **The fields of a mandate determine it up to the letter case of its network hashes.** -/
theorem mandateFields_eq_iff {m m' : MandateTerms}
    (h : mandateFields (some m) = .ok fields) (h' : mandateFields (some m') = .ok fields') :
    fields = fields' ↔ m.folded = m'.folded := by
  obtain ⟨root, file, hrt, -, hfe, -, rfl⟩ := mandateFields_some h
  obtain ⟨root', file', hroot', -, hfile', -, rfl⟩ := mandateFields_some h'
  have hroots := hexDecode_eq_iff hrt hroot'
  have hfls := hexDecode_eq_iff hfe hfile'
  have hwc : Canon.uint32 m.asset.workchain.toInt = Canon.uint32 m'.asset.workchain.toInt
      ↔ m.asset.workchain = m'.asset.workchain := by
    constructor
    · intro heq
      have hrng : ∀ w : Int32, -2 ^ 31 ≤ w.toInt ∧ w.toInt < -2 ^ 31 + 2 ^ 32 := by
        intro w
        have hlo := w.le_toInt
        have hhi := w.toInt_lt
        omega
      exact Int32.toInt_inj.mp (Canon.uint32_inj (hrng _) (hrng _) heq)
    · intro heq
      rw [heq]
  obtain ⟨objective, authority, capabilityClass, ⟨networkID, rootHash, fileHash, workchain, accountID, masterCodeHash,
    walletCodeHash, decimals⟩, maxTotal, approvalAbove, maxCounteroffers, expires⟩ := m
  obtain ⟨objective', authority', capabilityClass', ⟨networkID', rootHash', fileHash', workchain', accountID',
    masterCodeHash', walletCodeHash', decimals'⟩, maxTotal', approvalAbove', maxCounteroffers', expires'⟩ := m'
  simp only [MandateTerms.fields, MandateTerms.folded, List.cons.injEq, Field.text.injEq, Field.bytes.injEq,
    Field.uint32.injEq, Field.uint64.injEq, hroots, hfls, hwc, UInt32.toNat_inj, UInt64.toNat_inj,
    MandateTerms.mk.injEq, AssetIdentity.mk.injEq, and_true, and_assoc]

/-- The same operation, under the same challenge, on the same values. -/
structure SameDecision (c : String) (r' : Request) (c' : String) : Prop where
  op : r.op = r'.op
  challenge : c = c'
  decision : r.decision = r'.decision

/-- Two mandates are placed that differ in the letter case of a network hash, and in nothing else
    that is committed. -/
structure Respelled (c : String) (r' : Request) (c' : String) : Prop where
  op : r.op = .placeMandate
  op' : r'.op = .placeMandate
  challenge : c = c'
  eventID : r.eventID = r'.eventID
  actionID : r.actionID = r'.actionID
  mandateID : r.mandateID = r'.mandateID
  code : r.code = r'.code
  reason : r.reason = r'.reason
  invitedAgentID : r.invitedAgentID = r'.invitedAgentID
  inviteExpiresAtUnix : r.inviteExpiresAtUnix = r'.inviteExpiresAtUnix
  mandates : r.mandate ≠ r'.mandate
  folded : r.mandate.map MandateTerms.folded = r'.mandate.map MandateTerms.folded

section
variable {rules : EconomicRules} {r r' : Request} {c c' : String} {bytes bytes' : Bytes}

/-- An accepted export asks for a number of events that a word holds. -/
theorem export_limit (h : validateRequest rules r = .ok ()) (hop : r.op = .exportDeviceHistory) :
    0 ≤ r.limit ∧ r.limit < 0 + 2 ^ 32 := by
  have hdeciding : Deciding r.op := by rw [hop]; decide
  simp only [validateRequest, seq_ok, if_pos hdeciding] at h
  obtain ⟨-, -, -, -, hdecided⟩ := h
  simp only [validateDecision, hop, seq_ok, failIf_ok, not_or, not_not, not_lt] at hdecided
  obtain ⟨-, ⟨-, -, -, -, hlo, hhi, -⟩, -⟩ := hdecided
  unfold maxHistoryEventsPerSegment at hhi
  omega

/-- Outside mandates the committed fields are the fields the handler acts on. -/
theorem decision_of_fields (h : validateRequest rules r = .ok ()) (h' : validateRequest rules r' = .ok ())
    (hop : r.op = r'.op) (hhd : r.headFields c = r'.headFields c') (htms : r.termsFields = r'.termsFields)
    (hman : r.op = .placeMandate → r.mandate = r'.mandate) : r.decision = r'.decision := by
  simp only [headFields, List.cons.injEq, Field.text.injEq, Field.uint64.injEq, UInt64.toNat_inj,
    and_true, true_and] at hhd
  obtain ⟨-, -, hev, haction, hmandate, hcode, hrsn, hinvite, hxs⟩ := hhd
  unfold termsFields at htms
  unfold decision
  rw [← hop] at htms ⊢
  cases hcase : r.op with
  | placeMandate => simp only [hman hcase]
  | recordEscrowLocation =>
    simp only [hcase, List.cons.injEq, Field.text.injEq, and_true] at htms
    obtain ⟨hquo, hescrow, hcls⟩ := htms
    simp only [hquo, hescrow, hcls]
  | exportDeviceHistory =>
    simp only [hcase, List.cons.injEq, Field.text.injEq, Field.uint64.injEq, Field.uint32.injEq,
      UInt64.toNat_inj, and_true] at htms
    obtain ⟨hdev, hconv, hsequence, hpv, haft, hafter, hlimit, hkey, hxy⟩ := htms
    have hlimit : r.limit = r'.limit :=
      Canon.uint32_inj (export_limit h hcase) (export_limit h' (hop.symm.trans hcase)) hlimit
    simp only [hdev, hconv, hsequence, hpv, haft, hafter, hlimit, hkey, hxy]
  | _ => simp only [hev, haction, hmandate, hcode, hrsn, hinvite, hxs]

/-- Mandates whose fields can be formed have equal fields exactly when they agree up to letter case. -/
theorem mandateFields_option_eq_iff {m m' : Option MandateTerms}
    (h : mandateFields m = .ok fields) (h' : mandateFields m' = .ok fields') :
    fields = fields' ↔ m.map MandateTerms.folded = m'.map MandateTerms.folded := by
  cases m with
  | none =>
    cases h
    cases m' with
    | none =>
      cases h'
      simp
    | some mandate' =>
      obtain ⟨root, file, -, -, -, -, rfl⟩ := mandateFields_some h'
      simp [MandateTerms.fields]
  | some mandate =>
    cases m' with
    | none =>
      cases h'
      obtain ⟨root, file, -, -, -, -, rfl⟩ := mandateFields_some h
      simp [MandateTerms.fields]
    | some mandate' => rw [mandateFields_eq_iff h h', Option.map_some, Option.map_some, Option.some.injEq]

/-- Requests that commit the same fields have the same preimage. -/
theorem Respelled.bytes_eq (hsl : Respelled r c r' c') (h : decisionBytes r c = .ok bytes)
    (h' : decisionBytes r' c' = .ok bytes') : bytes = bytes' := by
  obtain ⟨-, -, mandate, hman, rfl⟩ := decisionBytes_ok h
  obtain ⟨-, -, mandate', hman', rfl⟩ := decisionBytes_ok h'
  have hfd : mandate = mandate' := (mandateFields_option_eq_iff hman hman').mpr hsl.folded
  have hhd : r.headFields c = r'.headFields c' := by
    simp only [headFields, hsl.op, hsl.op', hsl.challenge, hsl.eventID,
      hsl.actionID, hsl.mandateID, hsl.code, hsl.reason, hsl.invitedAgentID,
      hsl.inviteExpiresAtUnix]
  have htms : r.termsFields = r'.termsFields := by
    simp only [termsFields, hsl.op, hsl.op']
  rw [hhd, htms, hfd]

/-- **The bytes an owner signs determine the decision, respelled network hashes apart.** -/
theorem sameDecision_iff (h : validateRequest rules r = .ok ()) (h' : validateRequest rules r' = .ok ())
    (hr : r.Framed) (hr' : r'.Framed) (hbs : decisionBytes r c = .ok bytes)
    (hbytes' : decisionBytes r' c' = .ok bytes') :
    (bytes = bytes' → SameDecision r c r' c') ↔ ¬Respelled r c r' c' := by
  constructor
  · intro hsm hsl
    have hdecided := (hsm (hsl.bytes_eq hbs hbytes')).decision
    simp only [decision, hsl.op, hsl.op'] at hdecided
    have hinj : Function.Injective (Option.map Decision.placeMandate) :=
      Option.map_injective fun _ _ heq => by cases heq; rfl
    exact hsl.mandates (hinj hdecided)
  rintro hsl rfl
  obtain ⟨hop, hhd, htms, hmandates⟩ := fields_of_bytes hr hr' hbs hbytes'
  obtain ⟨-, -, mandate, hman, -⟩ := decisionBytes_ok hbs
  have hfolded := (mandateFields_option_eq_iff hman (hmandates ▸ hman)).mp rfl
  have hfd := hhd
  simp only [headFields, List.cons.injEq, Field.text.injEq, Field.uint64.injEq, UInt64.toNat_inj,
    and_true, true_and] at hfd
  obtain ⟨-, hchallenge, hev, haction, hmandate, hcode, hrsn, hinvite, hxs⟩ := hfd
  refine ⟨hop, hchallenge, decision_of_fields h h' hop hhd htms fun hplc => ?_⟩
  by_contra hne
  exact hsl ⟨hplc, hop ▸ hplc, hchallenge, hev, haction, hmandate, hcode, hrsn, hinvite, hxs, hne, hfolded⟩

end

/-! ## Runs of requests -/

/-- The server's challenges, and what has happened so far. -/
structure History where
  challenges : Challenges
  /-- Every challenge issued, with its deadline. -/
  issued : List (String × Instant) := []
  /-- The deciding requests that were authorised, with the time of each. -/
  decided : List (Request × Instant) := []
  /-- What the owner has signed. -/
  signed : List (Request × String) := []

inductive Event where
  | request (principal : Principal) (request : Request) (value : String) (now : Instant)
  /-- The owner's tool signs a decision under a challenge. -/
  | sign (request : Request) (challenge : String)
  | restart (lifetime : Int)

namespace History

def start (lifetime : Int) : History where
  challenges := Challenges.new lifetime

def step (rules : EconomicRules) (verify : Verifier) (s : History) : Event → History
  | .request principal request value now =>
    match handle rules verify s.challenges principal request value now with
    | (c, .decides _) => { s with challenges := c, decided := (request, now) :: s.decided }
    | (c, .issued value) => { s with challenges := c, issued := (value, now + c.lifetime) :: s.issued }
    | (c, _) => { s with challenges := c }
  | .sign request challenge => { s with signed := (request, challenge) :: s.signed }
  | .restart lifetime => { s with challenges := Challenges.new lifetime }

/-- Some decision the owner signed has this preimage. -/
def Signed (s : History) (preimage : Bytes) : Prop :=
  ∃ entry ∈ s.signed, decisionBytes entry.1 entry.2 = .ok preimage

/-- The random source gives a value it has not given before, and a signature that verifies was made
    by the owner. -/
def Ideal (verify : Verifier) (s : History) : Event → Prop
  | .request _ request value _ =>
    value ∉ s.issued.map Prod.fst ∧ ∀ preimage signature, verify preimage signature → 
      decisionBytes request request.challenge = .ok preimage → s.Signed preimage
  | _ => True

/-- **What holds of the challenges over a run.** Each issued value has one deadline; a decision was
    signed, under a challenge issued before, and came before the deadline; no two decisions share a
    challenge. -/
structure Honoured (s : History) : Prop where
  fresh : (s.issued.map Prod.fst).Nodup
  once : (s.decided.map fun entry => entry.1.challenge).Nodup
  timely : ∀ entry ∈ s.decided, ∃ deadline, (entry.1.challenge, deadline) ∈ s.issued ∧ entry.2 < deadline
  signed : ∀ entry ∈ s.decided, ∃ preimage, decisionBytes entry.1 entry.1.challenge = .ok preimage ∧ s.Signed preimage

/-- An outstanding challenge was issued and has authorised nothing. -/
def Outstanding (s : History) : Prop :=
  ∀ entry ∈ s.challenges.issued, entry ∈ s.issued ∧ entry.1 ∉ s.decided.map fun decided => decided.1.challenge

end History

/-! ### What a request does to the challenges -/

namespace Challenges

theorem expire_subset (c : Challenges) (now : Instant) : (c.expire now).issued ⊆ c.issued :=
  List.filter_subset_self _

/-- Issuing adds one entry at most. -/
theorem issue_cases (c : Challenges) (value : String) (now : Instant) : match c.issue value now with
    | (after, .error _) => after.issued ⊆ c.issued
    | (after, .ok given) => given = value ∧ after.issued ⊆ (value, now + after.lifetime) :: c.issued := by
  unfold issue
  dsimp only
  split_ifs
  · exact c.expire_subset now
  · refine ⟨rfl, List.cons_subset_cons _ ?_⟩
    exact List.Subset.trans (List.filter_subset_self _) (c.expire_subset now)

/-- **Spending.** What stands afterwards stood before; a challenge that is spent stood, its deadline
    was ahead, and it stands no more. -/
theorem spend_cases (c : Challenges) (value : String) (now : Instant) :
    (c.spend value now).1.issued ⊆ c.issued ∧ ((c.spend value now).2 = .ok () →
        (∃ deadline, (value, deadline) ∈ c.issued ∧ now < deadline)
        ∧ ∀ entry ∈ (c.spend value now).1.issued, entry.1 ≠ value) := by
  have hexpire := c.expire_subset now
  have hsp : (c.expire now).issued.filter (fun entry => entry.1 ≠ value) ⊆ c.issued :=
    List.Subset.trans (List.filter_subset_self _) hexpire
  unfold spend
  dsimp only
  split
  · exact ⟨hexpire, nofun⟩
  · next deadline hget =>
    split_ifs with hbefore
    · refine ⟨hsp, fun _ => ⟨⟨deadline, hexpire ?_, hbefore⟩, ?_⟩⟩
      · obtain ⟨before, after, hsplit, -⟩ := List.lookup_eq_some_iff.mp hget
        rw [hsplit]
        exact List.mem_append_right _ List.mem_cons_self
      · intro entry hent
        simpa using (List.mem_filter.mp hent).2
    · exact ⟨hsp, nofun⟩

end Challenges

/-- **What a request can come to.** It leaves no challenge standing that did not stand; it decides
    only with a valid signature and by spending its challenge; it issues only the value it was
    given. -/
inductive Handled (verify : Verifier) (c : Challenges) (request : Request) (value : String)
    (now : Instant) : Challenges × Answer → Prop where
  | decides {after : Challenges} {decision : Option Decision} {preimage signature : Bytes} {deadline : Instant}
      (hbytes : decisionBytes request request.challenge = .ok preimage) (hverify : verify preimage signature)
      (hstood : (request.challenge, deadline) ∈ c.issued) (hdeadline : now < deadline)
      (hstands : after.issued ⊆ c.issued) (hspent : ∀ entry ∈ after.issued,
      entry.1 ≠ request.challenge) : Handled verify c request value now (after, .decides decision)
  | issued {after : Challenges} (hstands : after.issued ⊆ (value, now + after.lifetime) :: c.issued) :
      Handled verify c request value now (after, .issued value)
  | other {after : Challenges} {answer : Answer} (hstands : after.issued ⊆ c.issued)
      (hdecides : ∀ decision, answer ≠ .decides decision) (hissued : ∀ value,
      answer ≠ .issued value) : Handled verify c request value now (after, answer)

section
variable {request : Request}

/-- An authorised decision: its signature verifies over its preimage, and its challenge is spent. -/
theorem authoriseDecision_cases (verify : Verifier) (c : Challenges) (now : Instant)
    (hop : Deciding request.op) : (authoriseDecision verify c request now).1.issued ⊆ c.issued
    ∧ ((authoriseDecision verify c request now).2 = .ok () →
        ∃ img signature, decisionBytes request request.challenge = .ok img ∧ verify img signature
          ∧ authoriseDecision verify c request now = c.spend request.challenge now) := by
  unfold authoriseDecision
  rw [if_neg (not_not.mpr hop)]
  split
  · exact ⟨List.Subset.refl _, nofun⟩
  · next signature _ =>
    split_ifs
    · exact ⟨List.Subset.refl _, nofun⟩
    split
    · exact ⟨List.Subset.refl _, nofun⟩
    · next img hbs =>
      split_ifs with hver
      · exact ⟨(c.spend_cases _ _).1, fun _ => ⟨img, signature, hbs, hver, rfl⟩⟩
      · exact ⟨List.Subset.refl _, nofun⟩

theorem handle_cases (rules : EconomicRules) (verify : Verifier) (c : Challenges)
    (principal : Principal) (request : Request) (value : String) (now : Instant) :
    Handled verify c request value now (handle rules verify c principal request value now) := by
  have href : ∀ {after : Challenges} (code : Fault.Code) (e : Failure), after.issued ⊆ c.issued →
      Handled verify c request value now (after, .refused code e) := fun code e hstd => .other hstd nofun nofun
  unfold handle
  split
  · exact href _ _ (List.Subset.refl _)
  have hidle : ¬Deciding request.op → authoriseDecision verify c request now = (c, .ok ()) := fun hop => if_pos hop
  split_ifs with hpermitted hop hchallenge
  · obtain ⟨hstd, hspd⟩ := authoriseDecision_cases verify c now hop
    split
    · next hauth =>
      rw [hauth] at hstd
      exact href _ _ hstd
    · next hauth =>
      rw [hauth] at hstd hspd
      obtain ⟨img, signature, hbs, hver, hspend⟩ := hspd rfl
      obtain ⟨-, hsp⟩ := c.spend_cases request.challenge now
      rw [← hspend] at hsp
      obtain ⟨⟨deadline, hstood, hbefore⟩, hgo⟩ := hsp rfl
      exact .decides hbs hver hstood hbefore hstd hgo
  · rw [hidle hop]
    have hissue := c.issue_cases value now
    dsimp only
    split
    · next heq =>
      rw [heq] at hissue
      exact href _ _ hissue
    · next heq =>
      rw [heq] at hissue
      obtain ⟨rfl, hstd⟩ := hissue
      exact .issued hstd
  · rw [hidle hop]
    exact .other (List.Subset.refl _) nofun nofun
  · exact href _ _ (List.Subset.refl _)

end

namespace History

variable {rules : EconomicRules} {verify : Verifier} {s : History}

/-- Signatures only accumulate. -/
theorem Signed.cons {preimage : Bytes} (h : s.Signed preimage) (entry : Request × String) :
    Signed { s with signed := entry :: s.signed } preimage := by
  obtain ⟨signed, hmem, hbs⟩ := h
  exact ⟨signed, List.mem_cons_of_mem _ hmem, hbs⟩

/-- Nothing standing is lost sight of when less stands. -/
theorem Outstanding.anti (h : s.Outstanding) {c : Challenges} (hc : c.issued ⊆ s.challenges.issued) :
    Outstanding { s with challenges := c } := fun entry hent => h entry (hc hent)

/-- **One event.** -/
theorem step_honoured (hs : s.Honoured ∧ s.Outstanding) {event : Event} (hidl : s.Ideal verify event) :
    (s.step rules verify event).Honoured ∧ (s.step rules verify event).Outstanding := by
  obtain ⟨hhon, hsn⟩ := hs
  cases event with
  | sign request challenge =>
    refine ⟨{ hhon with signed := fun entry hent => ?_ }, hsn⟩
    obtain ⟨img, hbs, hsig⟩ := hhon.signed entry hent
    exact ⟨img, hbs, hsig.cons _⟩
  | restart life =>
    have hno : (Challenges.new life).issued ⊆ s.challenges.issued := List.nil_subset _
    exact ⟨{ hhon with }, hsn.anti hno⟩
  | request principal request value now =>
    obtain ⟨hfr, hunfold⟩ := hidl
    have hhandle := handle_cases rules verify s.challenges principal request value now
    unfold step
    simp only
    generalize handle rules verify s.challenges principal request value now = outcome at hhandle ⊢
    cases hhandle with
    | decides hbs hver hstood hbefore hstd hsp =>
      obtain ⟨hiss, hunused⟩ := hsn _ hstood
      refine ⟨⟨hhon.fresh, List.nodup_cons.mpr ⟨hunused, hhon.once⟩, ?_, ?_⟩, ?_⟩
      · exact List.forall_mem_cons.mpr ⟨⟨_, hiss, hbefore⟩, hhon.timely⟩
      · exact List.forall_mem_cons.mpr ⟨⟨_, hbs, hunfold _ _ hver hbs⟩, hhon.signed⟩
      intro entry hent
      obtain ⟨hissued, hentry⟩ := hsn entry (hstd hent)
      refine ⟨hissued, fun hmem => ?_⟩
      rcases List.mem_cons.mp hmem with hsm | hmem
      · exact hsp entry hent hsm
      · exact hentry hmem
    | @issued after hstd =>
      -- A decision names an issued challenge, so a fresh value has authorised nothing.
      have hunused : value ∉ s.decided.map fun decided => decided.1.challenge := by
        intro hmem
        obtain ⟨decided, hdcd, rfl⟩ := List.mem_map.mp hmem
        obtain ⟨deadline, hiss, -⟩ := hhon.timely decided hdcd
        exact hfr (List.mem_map.mpr ⟨_, hiss, rfl⟩)
      refine ⟨⟨List.nodup_cons.mpr ⟨hfr, hhon.fresh⟩, hhon.once, ?_, hhon.signed⟩, ?_⟩
      · intro entry hent
        obtain ⟨deadline, hiss, hbefore⟩ := hhon.timely entry hent
        exact ⟨deadline, List.mem_cons_of_mem _ hiss, hbefore⟩
      intro entry hent
      rcases List.mem_cons.mp (hstd hent) with rfl | hstood
      · exact ⟨List.mem_cons_self, hunused⟩
      · obtain ⟨hissued, hentry⟩ := hsn entry hstood
        exact ⟨List.mem_cons_of_mem _ hissued, hentry⟩
    | @other after answer hstd hdecides hiss =>
      have hkeep : ({ s with challenges := after } : History).Honoured
          ∧ ({ s with challenges := after } : History).Outstanding :=
        ⟨{ hhon with }, hsn.anti hstd⟩
      cases answer with
      | decides decision => exact absurd rfl (hdecides decision)
      | issued value => exact absurd rfl (hiss value)
      | refused code e => exact hkeep
      | serves => exact hkeep

/-- **Every run.** -/
theorem run_honoured (life : Int) {events : List Event}
    (hidl : Along (step rules verify) (Ideal verify) (start life) events) :
    (run (step rules verify) (start life) events).Honoured := by
  have hbeg : (start life).Honoured ∧ (start life).Outstanding :=
    ⟨⟨List.nodup_nil, List.nodup_nil, List.forall_mem_nil _, List.forall_mem_nil _⟩, List.forall_mem_nil _⟩
  exact (hidl.invariant (fun _ _ hs hev => step_honoured hs hev) hbeg).1

end History

/-! ## The result -/

/-- **A signature stands for one decision and a challenge for one signature.** Of two accepted
    decisions with equal preimages the operation, the challenge and the values acted on are the same
    exactly when they are no respelling of each other; and every run from a fresh server honours its
    challenges. -/
theorem decisions_bound (rules : EconomicRules) :
    (∀ {r r' : Request} {c c' : String} {bytes bytes' : Bytes}, validateRequest rules r = .ok () →
      validateRequest rules r' = .ok () → r.Framed → r'.Framed → decisionBytes r c = .ok bytes →
      decisionBytes r' c' = .ok bytes' → ((bytes = bytes' → SameDecision r c r' c') ↔ ¬Respelled r c r' c'))
    ∧ ∀ (verify : Verifier) (lifetime : Int) (events : List Event),
        Along (History.step rules verify) (History.Ideal verify) (History.start lifetime) events →
        (run (History.step rules verify) (History.start lifetime) events).Honoured :=
  ⟨sameDecision_iff, fun _ lifetime _ hidl => History.run_honoured lifetime hidl⟩

/-- A mandate of a network whose root hash is written as given. -/
def sampleMandate : MandateTerms where
  objective := "books"
  authority := "commit"
  capabilityClass := "books"
  asset := {
    networkID := "tos"
    genesisRootHash := genesisRootHash
    genesisFileHash := "0000000000000000000000000000000000000000000000000000000000000001"
    workchain := 0
    accountID := "account"
    masterCodeHash := "master"
    walletCodeHash := "wallet"
    decimals := 6 }
  maxTotalAtomic := "10"
  approvalAboveAtomic := "5"
  maxCounteroffers := 3
  expiresAtUnix := 100

def sampleChallenge : String := "00000000000000000000000000000000000000000000000000000000000000aa"

/-- The owner places that mandate. -/
def placing : Request where
  op := .placeMandate
  mandate := some (sampleMandate genesisRootHash)
  challenge := sampleChallenge
  ownerSignature := Canon.hexEncode (List.replicate 64 0x5e)

def lowerRoot : String := "00000000000000000000000000000000000000000000000000000000000000ab"
def upperRoot : String := "00000000000000000000000000000000000000000000000000000000000000AB"

/-- No economic action is known. -/
def noEconomy : EconomicRules where
  maxActionRequestBytes := 0
  importSemanticFields := fun _ _ => .error (.other "unknown action kind")
  decodeMessengerEffectRequest := fun _ => .error (.other "unknown effect")

theorem placing_accepted : validateRequest noEconomy (placing lowerRoot) = .ok ()
    ∧ validateRequest noEconomy (placing upperRoot) = .ok () := by
  decide +kernel

theorem placing_differ : (placing lowerRoot).decision ≠ (placing upperRoot).decision := by
  decide +kernel

/-- Both spellings have one preimage. -/
theorem placing_bytes : ∃ bytes, decisionBytes (placing lowerRoot) sampleChallenge = .ok bytes
    ∧ decisionBytes (placing upperRoot) sampleChallenge = .ok bytes := by
  have hsm : decisionBytes (placing upperRoot) sampleChallenge = decisionBytes (placing lowerRoot) sampleChallenge := by
    decide +kernel
  have hok : (decisionBytes (placing lowerRoot) sampleChallenge).isOk := by decide +kernel
  cases hbs : decisionBytes (placing lowerRoot) sampleChallenge with
  | error e =>
    rw [hbs] at hok
    cases hok
  | ok bytes => exact ⟨bytes, rfl, hsm.trans hbs⟩

/-- Both spellings of a root hash are accepted, have one preimage, and hand different values to the
    handler. -/
theorem placing_respelled :
    validateRequest noEconomy (placing lowerRoot) = .ok () ∧ validateRequest noEconomy (placing upperRoot) = .ok ()
      ∧ (∃ bytes, decisionBytes (placing lowerRoot) sampleChallenge = .ok bytes
          ∧ decisionBytes (placing upperRoot) sampleChallenge = .ok bytes)
      ∧ ¬SameDecision (placing lowerRoot) sampleChallenge (placing upperRoot) sampleChallenge := by
  refine ⟨placing_accepted.1, placing_accepted.2, placing_bytes, fun hsm => ?_⟩
  exact placing_differ hsm.decision

/-- Only the preimage of that decision verifies. -/
def sampleVerifier : Verifier := fun preimage _ =>
  decisionBytes (placing lowerRoot) sampleChallenge = .ok preimage

/-- A challenge is issued, the owner signs the decision under it, and the decision is presented
    twice. -/
def placingEvents : List Event :=
  [.request .owner { op := .challenge } sampleChallenge 0, .sign (placing lowerRoot) sampleChallenge,
    .request .owner (placing lowerRoot) "" 1, .request .owner (placing lowerRoot) "" 2]

theorem placing_ideal : Along (History.step noEconomy sampleVerifier) (History.Ideal sampleVerifier)
    (History.start 0) placingEvents := by
  have hsig : ∀ (s : History) (preimage signature : Bytes), (placing lowerRoot,
      sampleChallenge) ∈ s.signed → sampleVerifier preimage signature → s.Signed preimage := by
    intro s preimage signature hmem hver
    exact ⟨_, hmem, of_decide_eq_true hver⟩
  refine ⟨⟨by decide +kernel, ?_⟩, trivial, ⟨by decide +kernel, ?_⟩, ⟨by decide +kernel, ?_⟩, trivial⟩
  · intro preimage signature _ hbs
    exact absurd (decisionBytes_ok hbs).1 (by decide)
  · exact fun preimage signature hver _ => hsig _ preimage signature (by decide +kernel) hver
  · exact fun preimage signature hver _ => hsig _ preimage signature (by decide +kernel) hver

/-- In that run one decision is authorised. -/
theorem placing_once :
    (run (History.step noEconomy sampleVerifier) (History.start 0) placingEvents).decided.length = 1
      ∧ (run (History.step noEconomy sampleVerifier) (History.start 0) placingEvents).Honoured
      ∧ Respelled (placing lowerRoot) sampleChallenge (placing upperRoot) sampleChallenge := by
  refine ⟨by decide +kernel, (decisions_bound noEconomy).2 _ _ _ placing_ideal, ?_⟩
  obtain ⟨bytes, hlower, hupper⟩ := placing_bytes
  by_contra hsl
  have hframed : (placing lowerRoot).Framed ∧ (placing upperRoot).Framed := by decide +kernel
  have hiff := (decisions_bound noEconomy).1 placing_accepted.1 placing_accepted.2 hframed.1 hframed.2 hlower hupper
  exact placing_differ (hiff.mpr hsl rfl).decision

end Messenger.LocalApi.Wire
