import Messenger.EconomicAction.Store
import Messenger.Lib.Run

/-!
# `EconomicAction.Fencing` — a superseded writer is never admitted again

Documents are ordered by how far their writers have come (`Document.Behind`), and every call and
every restart moves the document that counts up in this order (`step_raised`): what is in memory, or
what is on disk when no process runs. A new action raises its writer to the generation and fence it
was admitted under, so no later admission falls behind it.

An action that is on record is answered without raising anything. The law therefore holds for runs
in which such an answer is given under the generation on record (`writers_fenced`), and fails for a
retry under a newer one (`retry_not_fenced`).
-/

namespace Messenger.EconomicAction

open Lib
open Eventlog (Written)

variable {φ : Type} {rules : Rules φ} {d d' : Document} {s : State} {q : AdmitRequest φ} {w : Written}
  {digest : String}

/-! ## The order of documents -/

/-- No writer of `d` is ahead of its place in `d'`; a writer without a fence may get one. -/
def Document.Behind (d d' : Document) : Prop :=
  ∀ key, d.generationAt key < d'.generationAt key ∨
    d.generationAt key = d'.generationAt key ∧ (d.fenceAt key = d'.fenceAt key ∨ d.fenceAt key = "")

theorem Document.Behind.refl (d : Document) : d.Behind d := fun _ => .inr ⟨rfl, .inl rfl⟩

theorem Document.Behind.trans {a b c : Document} (hab : a.Behind b) (hbc : b.Behind c) : a.Behind c := by
  intro key
  rcases hab key with hlt | ⟨heq, hfen⟩
  · rcases hbc key with hlt' | ⟨heq', -⟩
    · exact .inl (hlt.trans hlt')
    · exact .inl (heq' ▸ hlt)
  rcases hbc key with hlt' | ⟨heq', hfence'⟩
  · exact .inl (heq ▸ hlt')
  refine .inr ⟨heq.trans heq', ?_⟩
  rcases hfen with hsm | hno
  · rcases hfence' with hsm' | hnone'
    · exact .inl (hsm.trans hsm')
    · exact .inr (hsm.trans hnone')
  · exact .inr hno

/-- Documents with the same writers. -/
theorem Document.Behind.of_writers (hgen : ∀ key, d'.generationAt key = d.generationAt key)
    (hfen : ∀ key, d'.fenceAt key = d.fenceAt key) : d.Behind d' :=
  fun key => .inr ⟨(hgen key).symm, .inl (hfen key).symm⟩

theorem generationAt_raised (d : Document) (key key' : String) (generation : Nat) (fence : String) :
    (d.raised key generation fence).generationAt key' = if key' = key then generation else d.generationAt key' := by
  unfold Document.generationAt Document.raised
  rw [lookup_insert_eq]
  split_ifs <;> rfl

theorem fenceAt_raised (d : Document) (key key' : String) (generation : Nat) (fence : String) :
    (d.raised key generation fence).fenceAt key' = if key' = key then fence else d.fenceAt key' := by
  unfold Document.fenceAt Document.raised
  rw [lookup_insert_eq]
  split_ifs <;> rfl

/-- Undoing an admission leaves every writer where it was. -/
theorem undone_writers (d : Document) (action : AuthorizedAction) (key : String) :
    (d.undone action).generationAt key = d.generationAt key ∧ (d.undone action).fenceAt key = d.fenceAt key := by
  have hgen : (d.undone action).generationAt key =
      (d.raised action.key (d.generationAt action.key) (d.fenceAt action.key)).generationAt key := rfl
  have hfen : (d.undone action).fenceAt key =
      (d.raised action.key (d.generationAt action.key) (d.fenceAt action.key)).fenceAt key := rfl
  rw [hgen, hfen, generationAt_raised, fenceAt_raised]
  split_ifs with hkey
  · subst hkey
    exact ⟨rfl, rfl⟩
  · exact ⟨rfl, rfl⟩

/-! ## What an admission establishes -/

/-- The writer is at the generation and fence, or past the generation. -/
def Document.Fenced (d : Document) (key : String) (generation : Nat) (fence : String) : Prop :=
  generation < d.generationAt key ∨ d.generationAt key = generation ∧ d.fenceAt key = fence

theorem Document.Fenced.mono {key : String} {generation : Nat} {fence : String} (hfen : fence ≠ "")
    (h : d.Fenced key generation fence) (hbeh : d.Behind d') : d'.Fenced key generation fence := by
  rcases h with hpast | ⟨hat, hsm⟩
  · rcases hbeh key with hlt | ⟨heq, -⟩
    · exact .inl (hpast.trans hlt)
    · exact .inl (heq ▸ hpast)
  rcases hbeh key with hlt | ⟨heq, hkt | hno⟩
  · exact .inl (hat ▸ hlt)
  · exact .inr ⟨heq.symm.trans hat, hkt.symm.trans hsm⟩
  · exact absurd (hsm.symm.trans hno) hfen

/-- What a verdict says about the writer on record. -/
structure Judged (rules : Rules φ) (d : Document) (q : AdmitRequest φ) (digest : String) : Prop where
  fence : rules.fenceDigest q.fence = .ok digest
  current : d.generationAt q.action.key ≤ q.action.writerGeneration
  same : q.action.writerGeneration = d.generationAt q.action.key →
    d.fenceAt q.action.key = "" ∨ d.fenceAt q.action.key = digest

theorem judgeAdmit_ok {verdict : Verdict} (h : judgeAdmit rules d q = .ok verdict) :
    ∃ digest, Judged rules d q digest ∧
      (verdict = .fresh digest ∧ lookup q.action.stableActionID d.actions = none ∨
        ∃ prior, verdict = .answered (answer q.action prior) ∧
          lookup q.action.stableActionID d.actions = some prior) := by
  simp only [judgeAdmit, seq_ok, failIf_ok] at h
  obtain ⟨_, -, digest, hdig, _, hstale, _, hfen, h⟩ := h
  have hjud : Judged rules d q digest := by
    refine ⟨hdig, not_lt.mp hstale, ?_⟩
    intro hsm
    by_cases hno : d.fenceAt q.action.key = ""
    · exact .inl hno
    by_cases hequal : d.fenceAt q.action.key = digest
    · exact .inr hequal
    · exact absurd ⟨hsm, hno, hequal⟩ hfen
  refine ⟨digest, hjud, ?_⟩
  cases hget : lookup q.action.stableActionID d.actions with
  | some prior =>
    simp only [hget] at h
    exact .inr ⟨prior, (Except.ok.inj h).symm, rfl⟩
  | none =>
    simp only [hget] at h
    obtain ⟨_, -, h⟩ := seq_ok.mp h
    exact .inl ⟨(Except.ok.inj h).symm, rfl⟩

/-- Does a new action move its writer? -/
def Document.Raises (d : Document) (action : AuthorizedAction) : Prop :=
  d.generationAt action.key < action.writerGeneration ∨ d.fenceAt action.key = ""

instance (d : Document) (action : AuthorizedAction) : Decidable (d.Raises action) :=
  inferInstanceAs (Decidable (_ ∨ _))

theorem writers_admitted (d : Document) (action : AuthorizedAction) (digest key : String) :
    (d.admitted action digest).generationAt key =
        (if d.Raises action ∧ key = action.key then action.writerGeneration else d.generationAt key) ∧
      (d.admitted action digest).fenceAt key =
        (if d.Raises action ∧ key = action.key then digest else d.fenceAt key) := by
  have hadmitted : ∀ next : Document,
      (if d.Raises action then d.raised action.key action.writerGeneration digest else d) = next →
        (d.admitted action digest).generationAt key = next.generationAt key ∧
          (d.admitted action digest).fenceAt key = next.fenceAt key := by
    rintro _ rfl
    exact ⟨rfl, rfl⟩
  by_cases hrse : d.Raises action
  · obtain ⟨hgen, hfen⟩ := hadmitted _ (if_pos hrse)
    rw [hgen, hfen, generationAt_raised, fenceAt_raised]
    simp only [hrse, true_and, and_self]
  obtain ⟨hgen, hfen⟩ := hadmitted _ (if_neg hrse)
  rw [hgen, hfen, if_neg fun h => hrse h.1, if_neg fun h => hrse h.1]
  exact ⟨rfl, rfl⟩

/-- A writer that is not moved stands where the request puts it. -/
theorem Judged.at_writer (h : Judged rules d q digest) (hrse : ¬ d.Raises q.action) :
    d.generationAt q.action.key = q.action.writerGeneration ∧ d.fenceAt q.action.key = digest := by
  unfold Document.Raises at hrse
  push Not at hrse
  have hsm := le_antisymm h.current hrse.1
  exact ⟨hsm, (h.same hsm.symm).resolve_left hrse.2⟩

/-- Recording an action raises its writer to where it was admitted. -/
theorem admitted_fenced (h : Judged rules d q digest) :
    (d.admitted q.action digest).Fenced q.action.key q.action.writerGeneration digest := by
  obtain ⟨hgen, hfen⟩ := writers_admitted d q.action digest q.action.key
  right
  rw [hgen, hfen]
  by_cases hrse : d.Raises q.action
  · rw [if_pos ⟨hrse, rfl⟩, if_pos ⟨hrse, rfl⟩]
    exact ⟨rfl, rfl⟩
  · rw [if_neg fun h => hrse h.1, if_neg fun h => hrse h.1]
    exact h.at_writer hrse

theorem behind_admitted (h : Judged rules d q digest) : d.Behind (d.admitted q.action digest) := by
  intro key
  obtain ⟨hgen, hfen⟩ := writers_admitted d q.action digest key
  rw [hgen, hfen]
  by_cases hrse : d.Raises q.action ∧ key = q.action.key
  · rw [if_pos hrse, if_pos hrse, hrse.2]
    rcases Nat.lt_or_eq_of_le h.current with hlt | heq
    · exact .inl hlt
    · exact .inr ⟨heq, (h.same heq.symm).symm⟩
  · rw [if_neg hrse, if_neg hrse]
    exact .inr ⟨rfl, .inl rfl⟩

/-! ## What a step does -/

/-- The document that counts: what is in memory, or on disk when no process runs. -/
def State.floor (s : State) : Document := s.doc.getD (s.file.getD .empty)

theorem floor_of_doc (hdoc : s.doc = some d) : s.floor = d := by
  rw [State.floor, hdoc]
  rfl

/-- What is in memory is not ahead of the disk. -/
def State.Durable (s : State) : Prop := ∀ d ∈ s.doc, ∃ f ∈ s.file, d.Behind f

/-- The document that counts has moved up, or stayed. -/
def State.Raised (s t : State) : Prop := s.floor.Behind t.floor ∧ t.Durable

/-- Writing a document that is not behind, and going back to one with the same writers if it fails. -/
theorem commit_raised {α : Type} (hdoc : s.doc = some d) (hdur : s.Durable) (next undo : Document)
    (hnx : d.Behind next) (hundo : d.Behind undo ∧ undo.Behind d) (result : α) :
    s.Raised (s.commit w next undo result).2 := by
  obtain ⟨f, hf, hbeh⟩ := hdur d hdoc
  unfold State.Raised
  rw [floor_of_doc hdoc]
  cases w with
  | done =>
    refine ⟨hnx, ?_⟩
    intro d' hd'
    cases hd'
    exact ⟨next, rfl, .refl next⟩
  | refused =>
    refine ⟨hundo.1, ?_⟩
    intro d' hd'
    cases hd'
    exact ⟨f, hf, hundo.2.trans hbeh⟩
  | unacknowledged =>
    refine ⟨hundo.1, ?_⟩
    intro d' hd'
    cases hd'
    exact ⟨next, rfl, hundo.2.trans hnx⟩

/-- **The ways an admission ends**: nothing is said and nothing changes, an action on record is
    answered, or a new one is committed. -/
theorem admitAction_cases (rules : Rules φ) (s : State) (q : AdmitRequest φ) (w : Written) :
    (∃ e, s.admitAction rules q w = (.error e, s)) ∨
      ∃ d digest, s.doc = some d ∧ Judged rules d q digest ∧
        ((∃ prior, lookup q.action.stableActionID d.actions = some prior ∧
            s.admitAction rules q w = (.ok (answer q.action prior), s)) ∨
          s.admitAction rules q w =
            s.commit w (d.admitted q.action digest) (d.undone q.action) (preparedResolution q.action)) := by
  unfold State.admitAction
  cases hdoc : s.doc with
  | none => exact .inl ⟨_, rfl⟩
  | some d =>
    dsimp only
    cases hjdg : judgeAdmit rules d q with
    | error e => exact .inl ⟨e, rfl⟩
    | ok verdict =>
      obtain ⟨digest, hjud, ⟨rfl, -⟩ | ⟨prior, rfl, hpri⟩⟩ := judgeAdmit_ok hjdg
      · exact .inr ⟨d, digest, rfl, hjud, .inr rfl⟩
      · exact .inr ⟨d, digest, rfl, hjud, .inl ⟨prior, hpri, rfl⟩⟩

/-- A call that changes nothing, or writes a new state of an action. -/
def Rewrites (s : State) (m : Except Failure ActionResolution × State) : Prop :=
  m.2 = s ∨ ∃ d w next stableID, s.doc = some d ∧ m = s.rewrite d w next stableID

theorem Rewrites.raised {m : Except Failure ActionResolution × State} (h : Rewrites s m)
    (hdur : s.Durable) : s.Raised m.2 := by
  rcases h with hsm | ⟨d, w, next, stableID, hdoc, rfl⟩
  · rw [hsm]
    exact ⟨.refl _, hdur⟩
  · exact commit_raised hdoc hdur { d with actions := d.actions.insert stableID next } d
      (.of_writers (fun _ => rfl) fun _ => rfl) ⟨.refl d, .refl d⟩ next

theorem submit_cases (s : State) (stableID rdig : String) (w : Written) :
    Rewrites s (s.submit stableID rdig w) := by
  unfold State.submit
  cases hdoc : s.doc with
  | none => exact .inl rfl
  | some d =>
    dsimp only
    split
    · exact .inl rfl
    · next prior hpri =>
      split
      · exact .inl rfl
      · exact .inl rfl
      · exact .inr ⟨d, w, _, stableID, hdoc, rfl⟩
      · exact .inl rfl
      · exact .inl rfl
      · exact .inl rfl

theorem accept_cases (rules : Rules φ) (s : State) (stableID rdig eventID : String) (w : Written) :
    Rewrites s (s.accept rules stableID rdig eventID w) := by
  unfold State.accept
  cases hdoc : s.doc with
  | none => exact .inl rfl
  | some d =>
    dsimp only
    split
    · exact .inl rfl
    · next prior hpri =>
      split
      · split_ifs
        · exact .inl rfl
        · exact .inl rfl
      -- Both open states are moved to accepted, when the result is valid.
      iterate 2
        · split
          · exact .inl rfl
          · exact .inr ⟨d, w, _, stableID, hdoc, rfl⟩
      · exact .inl rfl
      · exact .inl rfl
      · exact .inl rfl

/-- **Every step moves the document that counts up.** -/
theorem step_raised (hdur : s.Durable) (call : Call φ) : s.Raised (step rules s call) := by
  have hstay : s.Raised s := ⟨.refl _, hdur⟩
  cases call with
  | admission q w =>
    show s.Raised (s.admitAction rules q w).2
    rcases admitAction_cases rules s q w with ⟨e, hsm⟩ | ⟨d, digest, hdoc, hjud, ⟨prior, -, hsm⟩ | hcmm⟩
    · rw [hsm]
      exact hstay
    · rw [hsm]
      exact hstay
    rw [hcmm]
    have hundone := undone_writers d q.action
    exact commit_raised hdoc hdur _ _ (behind_admitted hjud)
      ⟨.of_writers (fun key => (hundone key).1) fun key => (hundone key).2,
        .of_writers (fun key => (hundone key).1.symm) fun key => (hundone key).2.symm⟩ _
  | submit stableID rdig w => exact (submit_cases s stableID rdig w).raised hdur
  | accept stableID rdig eventID w =>
    exact (accept_cases rules s stableID rdig eventID w).raised hdur
  | reopen w =>
    show s.Raised (s.reopen rules w).2
    have hdk : s.floor.Behind (s.file.getD .empty) := by
      unfold State.floor
      cases hdoc : s.doc with
      | none => exact .refl _
      | some d =>
        obtain ⟨f, hf, hbeh⟩ := hdur d hdoc
        rw [hf]
        exact hbeh
    unfold State.reopen
    cases hfe : s.file with
    | none =>
      rw [hfe] at hdk
      cases w with
      | done => exact ⟨hdk, fun d hd => ⟨d, hd, .refl d⟩⟩
      | refused | unacknowledged => exact ⟨hdk, fun d hd => by cases hd⟩
    | some f =>
      rw [hfe] at hdk
      dsimp only
      split_ifs
      · exact ⟨hdk, fun d hd => ⟨d, hfe.symm ▸ hd, .refl d⟩⟩
      · exact ⟨hdk, fun d hd => by cases hd⟩

/-! ## Runs -/

/-- An action that is on record is not presented by a writer that its admission would have raised. -/
def Settled (s : State) : Call φ → Prop
  | .admission q _ => (lookup q.action.stableActionID s.floor.actions).isSome → ¬ s.floor.Raises q.action
  | _ => True

instance (s : State) : ∀ call : Call φ, Decidable (Settled s call)
  | .admission _ _ => inferInstanceAs (Decidable (_ → _))
  | .submit _ _ _ | .accept _ _ _ _ | .reopen _ => isTrue trivial

/-- An admission that succeeds was judged against the document that counts. -/
theorem admission_judged {r : ActionResolution} (h : (s.admitAction rules q w).1 = .ok r) :
    ∃ digest, Judged rules s.floor q digest := by
  rcases admitAction_cases rules s q w with ⟨e, hsm⟩ | ⟨d, digest, hdoc, hjud, -⟩
  · rw [hsm] at h
    exact absurd h (by rintro ⟨⟩)
  · rw [floor_of_doc hdoc]
    exact ⟨digest, hjud⟩

/-- **What a successful admission leaves behind**: its writer at the generation and fence it was
    admitted under. -/
theorem admission_fenced {r : ActionResolution} (hset : Settled s (.admission q w))
    (h : (s.admitAction rules q w).1 = .ok r) :
    ∃ digest, rules.fenceDigest q.fence = .ok digest ∧
      (s.admitAction rules q w).2.floor.Fenced q.action.key q.action.writerGeneration digest := by
  rcases admitAction_cases rules s q w with ⟨e, hsm⟩ | ⟨d, digest, hdoc, hjud, ⟨prior, hpri, hsm⟩ | hcmm⟩
  · rw [hsm] at h
    exact absurd h (by rintro ⟨⟩)
  · -- Nothing is written, and the writer is already where it would be put.
    refine ⟨digest, hjud.fence, ?_⟩
    have hrse : ¬ d.Raises q.action := by
      have := hset
      rw [Settled, floor_of_doc hdoc, hpri] at this
      exact this rfl
    rw [hsm, floor_of_doc hdoc]
    exact .inr (hjud.at_writer hrse)
  · refine ⟨digest, hjud.fence, ?_⟩
    rw [hcmm] at h ⊢
    cases w with
    | done => exact admitted_fenced hjud
    | refused | unacknowledged => exact absurd h (by rintro ⟨⟩)

/-- **No writer falls behind an admission**: once an owner and Agent were admitted under a
    generation and fence, no later admission of theirs succeeds under an earlier generation, or
    under another fence of that generation. The fence digests are taken to be never empty and to
    tell the two fences apart. -/
theorem writers_fenced (rules : Rules φ) (file : Option Document) (earlier middle : List (Call φ))
    (q q' : AdmitRequest φ) (w w' : Written) (r r' : ActionResolution)
    (hsettled : Along (step rules) Settled ⟨file, none⟩ (earlier ++ .admission q w :: middle))
    (hdigest : rules.fenceDigest q.fence ≠ .ok "")
    (hcollision : rules.fenceDigest q'.fence = rules.fenceDigest q.fence → q'.fence = q.fence)
    (howner : q'.action.ownerID = q.action.ownerID) (hagent : q'.action.agentID = q.action.agentID)
    (h : ((run (step rules) ⟨file, none⟩ earlier).admitAction rules q w).1 = .ok r)
    (h' : ((run (step rules) ⟨file, none⟩ (earlier ++ .admission q w :: middle)).admitAction rules q' w').1 = .ok r') :
    q.action.writerGeneration ≤ q'.action.writerGeneration ∧
      (q'.action.writerGeneration = q.action.writerGeneration → q'.fence = q.fence) := by
  obtain ⟨-, hre⟩ := (along_append _ _ _).mp hsettled
  obtain ⟨digest, hfen, hfence⟩ := admission_fenced hre.1 h
  -- From the admission on, the document that counts only moves up.
  have hdur : (run (step rules) ⟨file, none⟩ earlier).Durable :=
    run_invariant (I := State.Durable) (fun _ call hdur => (step_raised hdur call).2)
      (fun d hd => by cases hd) earlier
  have hlat : (run (step rules) ⟨file, none⟩ (earlier ++ .admission q w :: middle)).floor.Fenced q.action.key
      q.action.writerGeneration digest := by
    rw [run_append]
    refine (run_invariant (I := fun s : State => s.Durable ∧
      s.floor.Fenced q.action.key q.action.writerGeneration digest)
      ?_ ?_ middle).2
    · rintro s call ⟨hdur, hfence⟩
      have hsp : s.Raised (step rules s call) := step_raised hdur call
      exact ⟨hsp.2, hfence.mono (fun hemp => hdigest (hemp ▸ hfen)) hsp.1⟩
    · exact ⟨(step_raised hdur (.admission q w)).2, hfence⟩
  obtain ⟨digest', hjud⟩ := admission_judged h'
  have hkey : q'.action.key = q.action.key := by
    unfold AuthorizedAction.key
    rw [howner, hagent]
  have hcur := hjud.current
  have hsm := hjud.same
  rw [hkey] at hcur hsm
  rcases hlat with hpast | ⟨hat, hkt⟩
  · exact ⟨by omega, fun heq => by omega⟩
  refine ⟨by omega, ?_⟩
  intro heq
  apply hcollision
  rw [hjud.fence, hfen]
  rcases hsm (heq.trans hat.symm) with hno | hequal
  · exact absurd (hfen.trans (congrArg _ (hkt.symm.trans hno))) hdigest
  · rw [← hequal, hkt]

/-! ## A retry under a newer writer -/

/-- A commerce package whose fences are their own digests. -/
def plainRules : Rules String := ⟨fun fence => .ok fence, fun _ => .ok ()⟩

/-- An action of one owner and Agent. -/
def presented (stableID fence : String) (generation : Nat) : AdmitRequest String where
  action :=
    { ownerID := "owner", agentID := "agent", writerGeneration := generation, stableActionID := stableID,
      exactRequestDigest := "request" }
  fence := fence
  verdict := .ok ()

/-- An action admitted by the fifth writer. -/
def fifthWriter : List (Call String) := [.reopen .done, .admission (presented "a" "f" 5) .done]

/-- The sixth writer after the fifth, with a retry of the fifth's action and a restart in between. -/
theorem writers_fenced_sixth :
    (presented "a" "f" 5).action.writerGeneration ≤ (presented "b" "h" 6).action.writerGeneration ∧
      ((presented "b" "h" 6).action.writerGeneration = (presented "a" "f" 5).action.writerGeneration →
        (presented "b" "h" 6).fence = (presented "a" "f" 5).fence) :=
  writers_fenced plainRules none [.reopen .done] [.admission (presented "a" "f" 5) .done, .reopen .done]
    (presented "a" "f" 5) (presented "b" "h" 6) .done .done (preparedResolution (presented "a" "f" 5).action)
    (preparedResolution (presented "b" "h" 6).action) (by decide +kernel) (by decide)
    (fun h => by injection h) rfl rfl (by decide +kernel) (by decide +kernel)

/-- The answer to the seventh writer is lost on the sixth: a retry is answered, and nothing of its
    writer is recorded. -/
theorem retry_not_fenced : let q := presented "a" "g" 7
    let q' := presented "b" "h" 6
    let s := run (step plainRules) ⟨none, none⟩ fifthWriter
    let s' := run (step plainRules) ⟨none, none⟩ (fifthWriter ++ [.admission q .done])
    (s.admitAction plainRules q .done).1.toOption.isSome ∧ (s'.admitAction plainRules q' .done).1.toOption.isSome ∧
      q'.action.ownerID = q.action.ownerID ∧ q'.action.agentID = q.action.agentID ∧
      q'.action.writerGeneration < q.action.writerGeneration := by
  decide +kernel

end Messenger.EconomicAction
