import Messenger.Lib.Run

/-!
# `Lib.Durable` — computations over a durable medium, and where a crash can cut them

A *medium* is a state together with the effect of one atomic write. A `Durable` computation reads
the medium, issues writes in order and ends in a result or an error; an error does **not** undo the
writes issued before it. The writes are kept as a list, so the states a crash can leave behind are
exactly the medium after the writes of a prefix (`crashed`).

## Contents
- **The monad.** `Durable` with `read`, `write`, `fail`, `attempt`, and one equation for each.
- **Guards.** `Guarded P s ws`: each write of `ws` satisfies `P` in the state it is made in. Guards
  are closed under prefixes (`Along.take`), so what guarded writes preserve holds at every crash
  point.
- **Composition.** `guarded_bind`: a sequential composition is guarded if both halves are.
-/

namespace Lib

/-- A durable medium: `put s w` is the state after the atomic write `w`. -/
class Medium (σ : Type) (ω : outParam Type) where
  put : σ → ω → σ

/-- The medium after a list of writes, first write first. -/
abbrev puts {σ ω : Type} [Medium σ ω] (s : σ) (ws : List ω) : σ := run Medium.put s ws

theorem puts_cons {σ ω : Type} [Medium σ ω] (s : σ) (w : ω) (ws : List ω) :
    puts s (w :: ws) = puts (Medium.put s w) ws := rfl

/-- Each write satisfies `P` in the state it is made in. -/
abbrev Guarded {σ ω : Type} [Medium σ ω] (P : σ → ω → Prop) (s : σ) (ws : List ω) : Prop :=
  Along Medium.put P s ws

/-- A computation over the medium `σ`: its writes in order, then a result or an error. -/
def Durable (σ : Type) {ω : Type} [Medium σ ω] (ε α : Type) : Type := σ → List ω × Except ε α

namespace Durable

variable {σ ω ε α β : Type} [Medium σ ω]

/-- The writes a computation issues from `s`. -/
def writes (m : Durable σ ε α) (s : σ) : List ω := (m s).1

/-- What a computation returns from `s`. -/
def outcome (m : Durable σ ε α) (s : σ) : Except ε α := (m s).2

/-- The medium after a computation has run to its end. -/
def final (m : Durable σ ε α) (s : σ) : σ := puts s (m.writes s)

instance : Monad (Durable σ ε) where
  pure a := fun _ => ([], .ok a)
  bind m f := fun s =>
    match m s with
    | (ws, .ok a) => (ws ++ (f a (puts s ws)).1, (f a (puts s ws)).2)
    | (ws, .error e) => (ws, .error e)

/-- The current state of the medium. -/
def read : Durable σ ε σ := fun s => ([], .ok s)

variable (e : ε) (a : α) (w : ω)

/-- One atomic write. -/
def write : Durable σ ε Unit := fun _ => ([w], .ok ())

/-- Stop with an error; what was written stays written. -/
def fail : Durable σ ε α := fun _ => ([], .error e)

/-- A result that was computed without touching the medium. -/
def lift (r : Except ε α) : Durable σ ε α := fun _ => ([], r)

/-! ## One equation for each operation -/

@[simp] theorem run_pure (s : σ) : (pure a : Durable σ ε α) s = ([], .ok a) := rfl

@[simp] theorem run_read (s : σ) : (read : Durable σ ε σ) s = ([], .ok s) := rfl

@[simp] theorem run_write (s : σ) : (write w : Durable σ ε Unit) s = ([w], .ok ()) := rfl

@[simp] theorem run_fail (s : σ) : (fail e : Durable σ ε α) s = ([], .error e) := rfl

@[simp] theorem run_lift (r : Except ε α) (s : σ) : (lift r : Durable σ ε α) s = ([], r) := rfl

variable {m : Durable σ ε α} {f : α → Durable σ ε β} {s : σ}

theorem run_bind_ok {ws : List ω} {a : α} (h : m s = (ws, .ok a)) :
    (m >>= f) s = (ws ++ (f a (puts s ws)).1, (f a (puts s ws)).2) := by
  show (match m s with
    | (ws, .ok a) => (ws ++ (f a (puts s ws)).1, (f a (puts s ws)).2)
    | (ws, .error e) => (ws, .error e)) = _
  rw [h]

theorem run_bind_error {ws : List ω} {e : ε} (h : m s = (ws, .error e)) : (m >>= f) s = (ws, .error e) := by
  show (match m s with
    | (ws, .ok a) => (ws ++ (f a (puts s ws)).1, (f a (puts s ws)).2)
    | (ws, .error e) => (ws, .error e)) = _
  rw [h]

@[simp] theorem run_read_bind (f : σ → Durable σ ε β) (s : σ) : ((read : Durable σ ε σ) >>= f) s = f s s := by
  rw [run_bind_ok (run_read s)]; simp

@[simp] theorem run_write_bind (f : Unit → Durable σ ε β) (s : σ) : ((write w : Durable σ ε Unit) >>= f) s =
    (w :: (f () (Medium.put s w)).1, (f () (Medium.put s w)).2) := by
  rw [run_bind_ok (run_write w s)]; rfl

@[simp] theorem run_lift_ok_bind (f : α → Durable σ ε β) (s : σ) :
    ((lift (.ok a) : Durable σ ε α) >>= f) s = f a s := by
  rw [run_bind_ok (run_lift (.ok a) s)]; simp

@[simp] theorem run_lift_error_bind (f : α → Durable σ ε β) (s : σ) :
    ((lift (.error e) : Durable σ ε α) >>= f) s = ([], .error e) :=
  run_bind_error (run_lift (.error e) s)

@[simp] theorem writes_read_bind (f : σ → Durable σ ε β) (s : σ) :
    ((read : Durable σ ε σ) >>= f).writes s = (f s).writes s := by
  unfold writes; rw [run_read_bind]

@[simp] theorem writes_lift_ok_bind (f : α → Durable σ ε β) (s : σ) :
    ((lift (.ok a) : Durable σ ε α) >>= f).writes s = (f a).writes s := by
  unfold writes; rw [run_lift_ok_bind]

@[simp] theorem writes_lift_error_bind (f : α → Durable σ ε β) (s : σ) :
    ((lift (.error e) : Durable σ ε α) >>= f).writes s = [] := by
  unfold writes; rw [run_lift_error_bind]

section
variable {m : Durable σ ε α} {f : α → Durable σ ε β} {s : σ}

theorem writes_bind_ok {a : α} (h : m.outcome s = .ok a) :
    (m >>= f).writes s = m.writes s ++ (f a).writes (m.final s) := by
  have hm : m s = (m.writes s, .ok a) := Prod.ext rfl h
  rw [writes, run_bind_ok hm]
  rfl

theorem writes_bind_error {e : ε} (h : m.outcome s = .error e) : (m >>= f).writes s = m.writes s := by
  have hm : m s = (m.writes s, .error e) := Prod.ext rfl h
  rw [writes, run_bind_error hm]

/-- A computation that starts with a query succeeds only if the query does. -/
theorem outcome_query_ok {r : Except ε α} {b : β} (hm : m s = ([], r))
    (h : (m >>= f).outcome s = .ok b) : ∃ a, r = .ok a ∧ (f a).outcome s = .ok b := by
  unfold outcome at h ⊢
  cases r with
  | error e => rw [run_bind_error hm] at h; cases h
  | ok a => rw [run_bind_ok hm] at h; exact ⟨a, rfl, h⟩

end

/-! ## Guarded writes -/

variable {P : σ → ω → Prop}

theorem guarded_bind (hm : Guarded P s (m.writes s))
    (hf : ∀ a, m.outcome s = .ok a → Guarded P (m.final s) ((f a).writes (m.final s))) :
    Guarded P s ((m >>= f).writes s) := by
  cases hr : m.outcome s with
  | error e => rwa [writes_bind_error hr]
  | ok a =>
    rw [writes_bind_ok hr]
    exact (along_append s _ _).mpr ⟨hm, hf a hr⟩

/-- A computation that starts with a query, which writes nothing, is guarded if it is for what the
    query returns. -/
theorem guarded_query {r : Except ε α} (hm : m s = ([], r)) (hf : ∀ a, r = .ok a → Guarded P s ((f a).writes s)) :
    Guarded P s ((m >>= f).writes s) := by
  unfold writes
  cases r with
  | error e => rw [run_bind_error hm]; trivial
  | ok a => rw [run_bind_ok hm]; exact hf a rfl

/-! ## Replacing one record -/

/-- **What a computation does to one record.** It fails without a write, or replaces one that it
    found and that meets `Q`. -/
def Replaces (m : Durable σ ε α) (s : σ) (Found : α → Prop) (w : α → ω) (Q : α → Prop) (g : α → α) : Prop :=
  (∃ e, m s = ([], .error e)) ∨ ∃ a, Found a ∧ Q a ∧ m s = ([w (g a)], .ok (g a))

section
variable {Found Q : α → Prop} {w : α → ω} {g : α → α}

/-- The record is queried for first. -/
theorem replaces_query {r : Except ε α} {k : α → Durable σ ε α} (hm : m s = ([], r)) (hr : ∀ a, r = .ok a → Found a)
    (hk : ∀ a, (∃ e, k a s = ([], .error e)) ∨ Q a ∧ k a s = ([w (g a)], .ok (g a))) :
    Replaces (m >>= k) s Found w Q g := by
  cases r with
  | error e => exact .inl ⟨e, run_bind_error hm⟩
  | ok a =>
    unfold Replaces
    rw [show (m >>= k) s = k a s from run_bind_ok hm]
    exact (hk a).imp_right fun hwr => ⟨a, hr a rfl, hwr⟩

theorem Replaces.guarded (h : Replaces m s Found w Q g) (hw : ∀ a, Found a → Q a → P s (w (g a))) :
    Guarded P s (m.writes s) := by
  unfold writes
  rcases h with ⟨e, hrun⟩ | ⟨a, ha, hQ, hrun⟩
  · rw [hrun]
    trivial
  · rw [hrun]
    exact ⟨hw a ha hQ, trivial⟩

end

end Durable

export Durable (run_lift_ok_bind run_read_bind run_lift_error_bind run_bind_ok writes_read_bind run_bind_error
  guarded_bind guarded_query outcome_query_ok)

end Lib
