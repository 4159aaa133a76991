import Messenger.Lib.Durable

/-!
# `Lib.Proc` — processes made of atomic regions

A process works on a shared medium in **regions**. A region is atomic: it reads the medium, issues
its writes and decides how to go on, all from one state. Between two regions of a process anything
may happen to the medium, and what the process carries from one region to the next is in its own
memory, that is, in the continuation.

## Contents
- **The monad.** `Proc` with `atomic`, which makes one region of a `Durable` computation.
- **Alone.** `exec` runs a process to its end with nothing in between; `Ends Q p s` says what it
  ends with, and has the rules of a Hoare logic.
- **Among others.** `Safe R P p Q s`: started in `s`, and with the environment moving along `R`
  between its regions, every write of `p` satisfies `P` in the state it is made in, and `Q` holds at
  the end. The rules are those of a rely-guarantee logic: `safe_bind`, `safe_atomic`, `Safe.rely`.
- **Requests.** `Performs`: left alone, a process ends with a specified change of a view of the
  medium and a specified result, and does not touch the view before.
- **Failure.** `ExceptT` over `Proc`, with one rule for a region and one for a composition.
- **Receipts.** `Earns`: certain results are reached only through certain writes.
-/

namespace Lib

/-- A process over the medium `σ` with writes `ω`: finished, or a region and what follows it. Both
    are functions of the state the region finds. -/
inductive Proc (σ ω ρ : Type) : Type where
  | done (r : ρ)
  | act (writes : σ → List ω) (next : σ → Proc σ ω ρ)

namespace Proc

variable {σ ω α β ρ ε : Type}

def bind : Proc σ ω α → (α → Proc σ ω β) → Proc σ ω β
  | .done a, f => f a
  | .act writes next, f => .act writes fun s => (next s).bind f

instance : Monad (Proc σ ω) where
  pure := .done
  bind := bind

variable [Medium σ ω] (m : Durable σ ε α)

/-- One region. Its error, if it has one, is handed to the process. -/
def atomic : Proc σ ω (Except ε α) := .act m.writes fun s => .done (m.outcome s)

/-! ## A process alone -/

/-- The writes and the result of a process that is never interrupted. -/
def exec : Proc σ ω ρ → σ → List ω × ρ
  | .done r, _ => ([], r)
  | .act writes next, s =>
    (writes s ++ ((next s).exec (puts s (writes s))).1, ((next s).exec (puts s (writes s))).2)

variable (p : Proc σ ω ρ) (s : σ)

def writes : List ω := (p.exec s).1

def result : ρ := (p.exec s).2

def final : σ := puts s (p.writes s)

@[simp] theorem final_atomic : (atomic m).final s = m.final s := by
  show puts s (m.writes s ++ []) = _
  rw [List.append_nil]
  rfl

theorem final_act (writes : σ → List ω) (next : σ → Proc σ ω ρ) (s : σ) :
    (Proc.act writes next).final s = (next s).final (puts s (writes s)) := run_append _ _ _

variable (p : Proc σ ω α) (f : α → Proc σ ω β) (s : σ)

theorem exec_bind : (p >>= f).exec s =
    (p.writes s ++ (f (p.result s)).writes (p.final s), (f (p.result s)).result (p.final s)) := by
  induction p generalizing s with
  | done a => rfl
  | act writes next ih =>
    show (writes s ++ ((next s >>= f).exec (puts s (writes s))).1, ((next s >>= f).exec (puts s (writes s))).2) = _
    rw [ih]
    rw [final_act]
    exact Prod.ext (List.append_assoc _ _ _).symm rfl

theorem result_bind : (p >>= f).result s = (f (p.result s)).result (p.final s) := by
  rw [result, exec_bind]

theorem final_bind : (p >>= f).final s = (f (p.result s)).final (p.final s) := by
  have hws : (p >>= f).writes s = p.writes s ++ (f (p.result s)).writes (p.final s) := by
    rw [writes, exec_bind]
  rw [final, hws]
  exact run_append _ _ _

/-- Left alone from `s`, the process ends with a result and in a state that satisfy `Q`. -/
def Ends (Q : ρ → σ → Prop) (p : Proc σ ω ρ) (s : σ) : Prop := Q (p.result s) (p.final s)

variable {p : Proc σ ω ρ} {Q : ρ → σ → Prop} {f : α → Proc σ ω β} {W : ω → Prop}

theorem Ends.mono {Q' : ρ → σ → Prop} {s : σ} (h : p.Ends Q s) (hQ : ∀ r t, Q r t → Q' r t) : p.Ends Q' s := hQ _ _ h

theorem ends_bind {p : Proc σ ω α} {Q : β → σ → Prop} {s : σ} :
    (p >>= f).Ends Q s ↔ p.Ends (fun a t => (f a).Ends Q t) s := by
  unfold Ends
  rw [result_bind, final_bind]

/-! ## A process among others -/

/-- Every write satisfies `P`, and `Q` holds at the end, whatever moves along `R` the environment
    makes before each region. -/
def Safe (R : σ → σ → Prop) (P : σ → ω → Prop) : Proc σ ω ρ → (ρ → σ → Prop) → σ → Prop
  | .done r, Q, s => Q r s
  | .act writes next, Q, s => ∀ t, R s t → Guarded P t (writes t) ∧ Safe R P (next t) Q (puts t (writes t))

variable {R : σ → σ → Prop} {P : σ → ω → Prop} {s : σ}

theorem safe_bind {p : Proc σ ω α} {Q : β → σ → Prop} (h : Safe R P p (fun a t => Safe R P (f a) Q t) s) :
    Safe R P (p >>= f) Q s := by
  induction p generalizing s with
  | done a => exact h
  | act writes next ih =>
    intro t ht
    exact ⟨(h t ht).1, ih t (h t ht).2⟩

theorem safe_atomic {m : Durable σ ε α} {Q : Except ε α → σ → Prop}
    (h : ∀ t, R s t → Guarded P t (m.writes t) ∧ Q (m.outcome t) (m.final t)) : Safe R P (atomic m) Q s := h

theorem Safe.mono {Q' : ρ → σ → Prop} (hQ : ∀ r s, Q r s → Q' r s) (h : Safe R P p Q s) : Safe R P p Q' s := by
  induction p generalizing s with
  | done r => exact hQ r s h
  | act writes next ih =>
    intro t ht
    exact ⟨(h t ht).1, ih t (h t ht).2⟩

/-- The environment's own moves keep a process safe. -/
theorem Safe.rely {t : σ} (htr : ∀ {a b c}, R a b → R b c → R a c)
    (h : Safe R P p (fun _ _ => True) s) (hst : R s t) : Safe R P p (fun _ _ => True) t := by
  cases p with
  | done r => trivial
  | act writes next => exact fun u hu => h u (htr hst hu)

/-! ## A process left alone performs a request -/

/-- Left alone from `s`, the process ends with the view and the result of `out`; until then the view
    stays `v`. The store invariant `I` holds between regions. -/
def Performs {β : Type} (I : σ → Prop) (view : σ → β) (v : β) (out : β × ρ) : Proc σ ω ρ → σ → Prop
  | .done r, s => I s ∧ view s = out.1 ∧ r = out.2
  | .act writes next, s => I s ∧ view s = v ∧ (next s).Performs I view v out (puts s (writes s))

section
variable {β : Type} {I J : σ → Prop} {view : σ → β} {v : β} {out : β × ρ}

theorem Performs.mono {p : Proc σ ω ρ} (hIJ : ∀ s, I s → J s) (h : p.Performs I view v out s) :
    p.Performs J view v out s := by
  induction p generalizing s with
  | done r => exact ⟨hIJ s h.1, h.2⟩
  | act writes next ih => exact ⟨hIJ s h.1, h.2.1, ih s h.2.2⟩

/-- A first half that leaves the view as it is hands over to the second half. -/
theorem performs_bind {p : Proc σ ω α} {f : α → Proc σ ω ρ} {a : α} (hp : p.Performs I view v (v, a) s)
    (hf : ∀ t, I t → view t = v → (f a).Performs I view v out t) : (p >>= f).Performs I view v out s := by
  induction p generalizing s with
  | done r =>
    obtain ⟨hI, hview, rfl⟩ := hp
    exact hf s hI hview
  | act writes next ih => exact ⟨hp.1, hp.2.1, ih s hp.2.2⟩

/-- A process that performs a request ends with it performed. -/
theorem Performs.ends {p : Proc σ ω ρ} (h : p.Performs I view v out s) :
    p.Ends (fun r t => I t ∧ view t = out.1 ∧ r = out.2) s := by
  induction p generalizing s with
  | done r => exact h
  | act writes next ih =>
    unfold Ends
    rw [final_act]
    exact ih s h.2.2

end

/-! ## Processes that can fail -/

/-- One region of a process that can fail. -/
def region : ExceptT ε (Proc σ ω) α := ExceptT.mk (atomic m)

/-- A result computed without a region. -/
def computed (r : Except ε α) : ExceptT ε (Proc σ ω) α := ExceptT.mk (.done r)

/-- Run a process and hand its outcome, error or not, to what follows. -/
def observe (x : ExceptT ε (Proc σ ω) α) : ExceptT ε (Proc σ ω) (Except ε α) :=
  ExceptT.mk (x.run >>= fun r => .done (.ok r))

section
variable {γ : Type} {I : σ → Prop} {view : σ → γ} {v : γ} {out : γ × Except ε β}

theorem performs_tryBind {x : ExceptT ε (Proc σ ω) α} {f : α → ExceptT ε (Proc σ ω) β} {a : α}
    (hx : x.run.Performs I view v (v, .ok a) s)
    (hf : ∀ t, I t → view t = v → (f a).run.Performs I view v out t) : (x >>= f).run.Performs I view v out s :=
  performs_bind hx hf

/-- An error ends a composition. -/
theorem performs_error {x : ExceptT ε (Proc σ ω) α} {f : α → ExceptT ε (Proc σ ω) β} {e : ε}
    (hx : x.run.Performs I view v (v, .error e) s) : (x >>= f).run.Performs I view v (v, .error e) s :=
  performs_bind hx fun _ hI hview => ⟨hI, hview, rfl⟩

/-- A region on its own performs what it does. -/
theorem performs_region {m : Durable σ ε β} (hI : I s) (hview : view s = v)
    (hIfinal : I (m.final s)) (hfin : view (m.final s) = out.1) (hou : m.outcome s = out.2) :
    (region m).run.Performs I view v out s := ⟨hI, hview, hIfinal, hfin, hou⟩

end

section
variable {Q : Except ε β → σ → Prop} {x : ExceptT ε (Proc σ ω) α} {f : α → ExceptT ε (Proc σ ω) β} {ws : List ω}
  {m : Durable σ ε α}

theorem ends_tryBind
    (h : x.run.Ends (fun r t => match r with | .ok a => (f a).run.Ends Q t | .error e => Q (.error e) t) s) :
    (x >>= f).run.Ends Q s := by
  refine ends_bind.mpr (h.mono fun r t hr => ?_)
  cases r with
  | ok a => exact hr
  | error e => exact hr

theorem ends_observe {f : Except ε α → ExceptT ε (Proc σ ω) β}
    (h : x.run.Ends (fun r t => (f r).run.Ends Q t) s) : (observe x >>= f).run.Ends Q s :=
  ends_tryBind (ends_bind.mpr h)

theorem ends_region {m : Durable σ ε β} {r : Except ε β} (hm : m s = (ws, r))
    (h : Q r (puts s ws)) : (region m).run.Ends Q s := by
  have hrs : (region m).run.result s = r := congrArg Prod.snd hm
  have hfin : (region m).run.final s = puts s ws :=
    (final_atomic m s).trans (congrArg (puts s) (congrArg Prod.fst hm))
  unfold Ends
  rw [hrs, hfin]
  exact h

/-- A region first, then the rest on its outcome. -/
theorem ends_regionBind {a : α} (hm : m s = (ws, .ok a)) (h : (f a).run.Ends Q (puts s ws)) :
    (region m >>= f).run.Ends Q s :=
  ends_tryBind (ends_region hm h)

theorem ends_regionError {e : ε} (hm : m s = (ws, .error e)) (h : Q (.error e) (puts s ws)) :
    (region m >>= f).run.Ends Q s :=
  ends_tryBind (ends_region hm h)

theorem ends_computedBind {r : Except ε α} (herror : ∀ e, r = .error e → Q (.error e) s)
    (hok : ∀ a, r = .ok a → (f a).run.Ends Q s) : (computed r >>= f).run.Ends Q s := by
  cases r with
  | ok a => exact hok a rfl
  | error e => exact herror e rfl

theorem ends_ite {c : Prop} [Decidable c] {x y : ExceptT ε (Proc σ ω) β} (hx : c → x.run.Ends Q s)
    (hy : ¬c → y.run.Ends Q s) : (if c then x else y).run.Ends Q s := by
  split_ifs with hc
  · exact hx hc
  · exact hy hc

theorem safe_tryBind
    (h : Safe R P x.run (fun r t => match r with | .ok a => Safe R P (f a).run Q t | .error e => Q (.error e) t) s) :
    Safe R P (x >>= f).run Q s := by
  refine safe_bind (h.mono fun r t hr => ?_)
  cases r with
  | ok a => exact hr
  | error e => exact hr

theorem safe_observe {f : Except ε α → ExceptT ε (Proc σ ω) β}
    (h : Safe R P x.run (fun r t => Safe R P (f r).run Q t) s) : Safe R P (observe x >>= f).run Q s :=
  safe_tryBind (safe_bind h)

theorem safe_computed {r : Except ε α} (herror : ∀ e, r = .error e → Q (.error e) s)
    (hok : ∀ a, r = .ok a → Safe R P (f a).run Q s) : Safe R P (computed r >>= f).run Q s := by
  cases r with
  | ok a => exact hok a rfl
  | error e => exact herror e rfl

theorem safe_region (hws : ∀ t, R s t → Guarded P t (m.writes t))
    (herror : ∀ t e, R s t → m.outcome t = .error e → Q (.error e) (m.final t))
    (hok : ∀ t a, R s t → m.outcome t = .ok a → Safe R P (f a).run Q (m.final t)) :
    Safe R P (region m >>= f).run Q s := by
  intro t ht
  refine ⟨hws t ht, ?_⟩
  cases hr : m.outcome t with
  | ok a =>
    simp only [hr]
    exact hok t a ht hr
  | error e =>
    simp only [hr]
    exact herror t e ht hr

end

/-! ## Processes with one kind of write -/

/-- Every write is in `W`, whatever the state. -/
def Only (W : ω → Prop) : Proc σ ω ρ → Prop
  | .done _ => True
  | .act writes next => ∀ s, (∀ x ∈ writes s, W x) ∧ (next s).Only W

omit [Medium σ ω] in
theorem only_bind {p : Proc σ ω α} (hp : p.Only W) (hf : ∀ a, (f a).Only W) : (p >>= f).Only W := by
  induction p with
  | done a => exact hf a
  | act writes next ih => exact fun s => ⟨(hp s).1, ih s (hp s).2⟩

omit [Medium σ ω] in
theorem only_tryBind {x : ExceptT ε (Proc σ ω) α} {f : α → ExceptT ε (Proc σ ω) β}
    (hx : x.run.Only W) (hf : ∀ a, (f a).run.Only W) : (x >>= f).run.Only W := by
  refine only_bind hx fun r => ?_
  cases r with
  | ok a => exact hf a
  | error e => trivial

theorem only_region {m : Durable σ ε α} (hm : ∀ s, ∀ x ∈ m.writes s, W x) :
    (region m).run.Only W := fun s => ⟨hm s, trivial⟩

/-- A process whose writes are always allowed is safe, and what the rely keeps is kept. -/
theorem Only.safe (h : p.Only W) (hP : ∀ s x, W x → P s x) (hrefl : ∀ s, R s s)
    (htr : ∀ {a b c}, R a b → R b c → R a c) (hR : ∀ s x, P s x → R s (Medium.put s x))
    (hQ : ∀ r t, R s t → Q r t) : Safe R P p Q s := by
  induction p generalizing s with
  | done r => exact hQ r s (hrefl s)
  | act writes next ih =>
    intro t ht
    have hwrite : Guarded P t (writes t) := by
      have hall : ∀ (ws : List ω) (u : σ), (∀ x ∈ ws, W x) → Guarded P u ws := by
        intro ws
        induction ws with
        | nil => exact fun _ _ => along_nil _
        | cons x ws ih =>
          intro u hws
          exact (along_cons _ _ _).mpr ⟨hP u x (hws x (List.mem_cons_self ..)),
            ih _ fun y hy => hws y (List.mem_cons_of_mem _ hy)⟩
      exact hall _ t (h t).1
    refine ⟨hwrite, ih t (h t).2 fun r u hu => hQ r u (htr ht (htr ?_ hu))⟩
    exact hwrite.related hrefl htr hR

/-! ## Results and the writes they rest on -/

omit [Medium σ ω]

/-- The process reports a result in `B` only after a write in `W`. -/
def Earns (W : ω → Prop) (B : ρ → Prop) : Proc σ ω ρ → Prop
  | .done r => ¬B r
  | .act writes next => ∀ s, (∃ x ∈ writes s, W x) ∨ (next s).Earns W B

/-- Where no result is in `B`, nothing has to be earned. -/
theorem earns_of_never {B : ρ → Prop} (hB : ∀ r, ¬B r) (p : Proc σ ω ρ) : p.Earns W B := by
  induction p with
  | done r => exact hB r
  | act writes next ih => exact fun s => .inr (ih s)

/-- What a composition still owes is what its second half owes. -/
theorem earns_bind {B : β → Prop} {p : Proc σ ω α} (h : p.Earns W fun a => ¬(f a).Earns W B) :
    (p >>= f).Earns W B := by
  induction p with
  | done a => exact not_not.mp h
  | act writes next ih => exact fun s => (h s).imp id (ih s)

theorem earns_observe {B : Except ε β → Prop} {x : ExceptT ε (Proc σ ω) α} {f : Except ε α → ExceptT ε (Proc σ ω) β}
    (h : x.run.Earns W fun r => ¬(f r).run.Earns W B) : (observe x >>= f).run.Earns W B := by
  refine earns_bind (earns_bind ?_)
  have hsm : ∀ r : Except ε α, (¬(Proc.done (.ok r) : Proc σ ω (Except ε (Except ε α))).Earns W
      fun a => ¬(ExceptT.bindCont f a).Earns W B) ↔ ¬(f r).run.Earns W B := fun r => not_congr not_not
  simp only [hsm]
  exact h

end Proc

export Proc (ends_regionBind only_tryBind ends_regionError ends_tryBind safe_computed ends_computedBind safe_tryBind
  safe_region ends_observe ends_ite)

end Lib
