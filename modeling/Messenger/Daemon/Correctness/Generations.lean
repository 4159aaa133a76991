import Messenger.Daemon.Steps

/-!
# `Daemon.Correctness.Generations` — a session generation is consumed once

A session record holds the state at one generation, and a transition replaces the record by one at
the next. A message key belongs to the generation it was derived at, so two transitions from the
same generation would use one key twice. `generationsConsumed` reads off a log of writes which
generation each session write replaced, and `Spent` is the accounting: the consumed generations are
distinct, and all of them are below the stored one.

The generation is a 64-bit counter. When it wraps, the record is written at generation zero, which
does not read back: the session is exhausted and no transition starts from it again (`Spent.below`
allows exactly that).
-/

namespace Messenger.Daemon

open Eventlog Lib

/-! ## What a log has consumed -/

variable (j : Journal)

/-- The generation a session is stored at. -/
def generationAt (sessionID : SessionID) : Nat := generationOf (lookup sessionID j.sessions)

/-- The generation a write replaces. -/
def consumedBy : JournalWrite → Option (SessionID × Nat)
  | .session path _ => some (path, generationAt j path)
  | _ => none

/-- The generations a list of writes replaces, in order. -/
def generationsConsumed (j : Journal) : List JournalWrite → List (SessionID × Nat)
  | [] => []
  | x :: ws => (consumedBy j x).toList ++ generationsConsumed (Medium.put j x) ws

theorem generationsConsumed_append (ws vs : List JournalWrite) : generationsConsumed j (ws ++ vs) =
    generationsConsumed j ws ++ generationsConsumed (puts j ws) vs := by
  induction ws generalizing j with
  | nil => rfl
  | cons x ws ih => rw [List.cons_append, generationsConsumed, generationsConsumed, ih, List.append_assoc, puts_cons]

/-! ## The accounting -/

/-- The consumed generations are distinct, and below what is stored unless the session is exhausted. -/
structure Spent (gs : List (SessionID × Nat)) : Prop where
  nodup : gs.Nodup
  below : ∀ p g, (p, g) ∈ gs → ∃ s, lookup p j.sessions = some s ∧ (s.generation = 0 ∨ g < s.generation)
  bounded : ∀ p s, lookup p j.sessions = some s → s.generation < 2 ^ 64

theorem spent_empty : Spent .empty [] where
  nodup := List.nodup_nil
  below := fun _ _ h => by cases h
  bounded := nofun

section
variable {env : Env}

/-- A write that advances its session, if it writes one, by exactly one generation. -/
def Advancing (env : Env) (j : Journal) (x : JournalWrite) : Prop :=
  ∀ p s, x = .session p s →
    ∃ current, currentSession env j p = .ok current ∧ s.generation = succ64 (generationOf current)

variable {j : Journal} {gs : List (SessionID × Nat)} {w : World env}

/-- A session that reads back reads back as it is stored. -/
theorem currentSession_lookup {p : SessionID} {current : Option SessionRecord}
    (h : currentSession env j p = .ok current) : lookup p j.sessions = current := by
  cases current with
  | none => exact currentSession_none.mp h
  | some s => exact (currentSession_some.mp h).1

/-- Writes elsewhere change nothing. -/
theorem Spent.frame {j' : Journal} (h : Spent j gs) (hsess : j'.sessions = j.sessions) : Spent j' gs where
  nodup := h.nodup
  below := by rw [hsess]; exact h.below
  bounded := by rw [hsess]; exact h.bounded

/-- **One transition.** It consumes the stored generation, which no earlier one did. -/
theorem Spent.session {p : SessionID} {s : SessionRecord} {current : Option SessionRecord} (h : Spent j gs)
    (hcur : currentSession env j p = .ok current) (hgen : s.generation = succ64 (generationOf current)) :
    Spent (Medium.put j (.session p s)) (gs ++ [(p, generationAt j p)]) := by
  have hget : lookup p j.sessions = current := currentSession_lookup hcur
  have hat : generationAt j p = generationOf current := congrArg generationOf hget
  have hlt : generationAt j p < 2 ^ 64 := by
    rw [hat]
    cases current with
    | none => exact Nat.two_pow_pos 64
    | some c => exact h.bounded p c hget
  -- the session reads back, so what was consumed of it is below the stored generation
  have hbelow : ∀ g, (p, g) ∈ gs → g < generationAt j p := by
    intro g hg
    obtain ⟨c, hc, hz | hlt⟩ := h.below p g hg
    · have hwf := (currentSession_some.mp (hcur.trans (congrArg Except.ok (hget.symm.trans hc)))).2
      simp [SessionRecord.wellFormed, hz] at hwf
    · rw [generationAt, hc]
      exact hlt
  refine ⟨?_, ?_, ?_⟩
  · refine List.nodup_append.mpr ⟨h.nodup, List.nodup_singleton _, ?_⟩
    rintro ⟨q, g⟩ hg b hb heq
    rw [List.mem_singleton] at hb
    have hpair : (q, g) = (p, generationAt j p) := heq.trans hb
    cases hpair
    exact absurd (hbelow _ hg) (lt_irrefl _)
  · intro q g hg
    rw [put_session, lookup_insert_eq]
    split_ifs with hq
    · subst hq
      refine ⟨s, rfl, ?_⟩
      by_cases hwp : s.generation = 0
      · exact .inl hwp
      have hsucc : s.generation = generationAt j q + 1 := by
        rw [hgen, ← hat] at hwp ⊢
        exact succ64_eq hlt hwp
      rcases List.mem_append.mp hg with hold | hnew
      · have := hbelow g hold
        exact .inr (by omega)
      rw [List.mem_singleton] at hnew
      cases hnew
      exact .inr (by omega)
    · have hold : (q, g) ∈ gs := by
        rcases List.mem_append.mp hg with hold | hnew
        · exact hold
        · rw [List.mem_singleton] at hnew
          exact absurd (congrArg Prod.fst hnew) hq
      exact h.below q g hold
  · intro q c hc
    rw [put_session, lookup_insert_eq] at hc
    split_ifs at hc
    · cases hc
      rw [hgen]
      exact succ64_lt _
    · exact h.bounded q c hc

theorem Spent.write {x : JournalWrite} (h : Spent j gs) (hx : Advancing env j x) :
    Spent (Medium.put j x) (gs ++ (consumedBy j x).toList) := by
  cases x with
  | session p s =>
    obtain ⟨cur, hcur, hgen⟩ := hx p s rfl
    exact h.session hcur hgen
  | record | delivery | moderation =>
    simp only [consumedBy, Option.toList_none, List.append_nil]
    exact h.frame rfl

/-- The accounting over a list of writes. -/
theorem Spent.writes {ws : List JournalWrite} (h : Spent j gs)
    (hws : Guarded (Advancing env) j ws) : Spent (puts j ws) (gs ++ generationsConsumed j ws) := by
  induction ws generalizing j gs with
  | nil => rwa [generationsConsumed, List.append_nil]
  | cons x ws ih =>
    rw [generationsConsumed, ← List.append_assoc, puts_cons]
    exact ih (h.write hws.1) hws.2

/-! ## Every move advances -/

theorem performed_advancing {m : Move env} {x : JournalWrite} (h : Performed w m j x) : Advancing env j x := by
  rintro p s rfl
  cases h with
  | advance hcur hgen => exact ⟨_, hcur, hgen⟩
  | routine hrtn =>
    cases hrtn with
    | session hcur hgen _ => exact ⟨_, hcur, hgen⟩
  | recover hrecover =>
    cases hrecover with
    | session hcur hgen => exact ⟨_, hcur, hgen⟩

/-- The journal is what the log leaves of an empty directory, and the log's generations are
    accounted for. -/
structure Accounted (w : World env) : Prop where
  replay : w.journal = puts .empty w.log
  spent : Spent w.journal (generationsConsumed .empty w.log)

theorem accounted_fresh : Accounted (World.fresh env) := ⟨rfl, spent_empty⟩

/-- What a step consumes is added to what the log had consumed. -/
theorem Accounted.consumed_step (hw : Accounted w) (m : Move env) :
    generationsConsumed .empty (w.step m).log =
      generationsConsumed .empty w.log ++ generationsConsumed w.journal (m.writes w) := by
  rw [World.step_log, generationsConsumed_append, ← hw.replay]

theorem Accounted.step (hw : Accounted w) (m : Move env) : Accounted (w.step m) where
  replay := by
    rw [World.step_journal, World.step_log, hw.replay]
    exact (run_append _ _ _).symm
  spent := by
    rw [World.step_journal, hw.consumed_step]
    exact hw.spent.writes ((m.performed w).mono fun _ _ => performed_advancing)

end

end Messenger.Daemon
