import Messenger.Lib.Dir
import Messenger.Lib.Proc

/-!
# `Lib.Pool` — processes interleaved over one medium

A pool serves requests: each request becomes a process under a new ticket, and at each turn one
process runs one region. A turn may also be the last one of its process group: with a crash after
the first `k` writes of the region, every process is gone and the medium keeps those writes.

The pool keeps its history: which ticket made which write for which request (`log`), and which
result each finished ticket reported (`results`). A process that has nothing left to do after a
region reports in the same turn.

## Contents
- **The machine.** `Pool.step`, and one equation for each part of the pool a turn changes.
- **Tickets.** `Ticketed`: no ticket reports twice.
- **Guards.** `sound_run`: if every process is `Safe` under a rely that guarded writes respect
  (`Discipline`), every write of every run satisfies its process's guard, together with the
  condition the turns were taken under.
- **Receipts.** `receipts_run`: a result that is only reached through a certain write has that write
  in the log, under its own ticket.
- **Serial runs.** `serial_run`: where no process is disturbed between its first region and its
  last, the results are those of performing the requests one after the other.
-/

namespace Lib

/-- A process being served: the request, what is left of it, and the length of the log after its
    last region, if it has run one. -/
structure Task (σ ω ι ρ : Type) where
  input : ι
  proc : Proc σ ω ρ
  seen : Option Nat

/-- One durable write, with the ticket and the request it was made for. -/
structure Entry (ω ι : Type) where
  ticket : Nat
  input : ι
  write : ω
  deriving DecidableEq

/-- A reported result. -/
structure Report (ι ρ : Type) where
  ticket : Nat
  input : ι
  result : ρ
  deriving DecidableEq

structure Pool (σ ω ι ρ : Type) where
  store : σ
  log : List (Entry ω ι)
  tasks : Dir Nat (Task σ ω ι ρ)
  results : List (Report ι ρ)
  fresh : Nat

/-- One turn: a new request, or one region of the process under a ticket. -/
inductive Turn (ι : Type) where
  | spawn (i : ι)
  | step (ticket : Nat) (crash : Option Nat)

/-- The writes of a region that become durable. -/
def durable {ω : Type} : Option Nat → List ω → List ω
  | none, ws => ws
  | some k, ws => ws.take k

namespace Pool

variable {σ ω ι ρ : Type}

/-- A pool that has served nothing yet. -/
def start (s : σ) : Pool σ ω ι ρ where
  store := s
  log := []
  tasks := ∅
  results := []
  fresh := 0

variable (p : Pool σ ω ι ρ)

/-- The region a task would run now. -/
def region (task : Task σ ω ι ρ) : List ω :=
  match task.proc with
  | .act writes _ => writes p.store
  | .done _ => []

/-- What is left of a task after its region. -/
def rest (task : Task σ ω ι ρ) : Proc σ ω ρ :=
  match task.proc with
  | .act _ next => next p.store
  | .done r => .done r

/-- What a turn adds to the log. -/
def entries : Turn ι → List (Entry ω ι)
  | .spawn _ => []
  | .step ticket crash =>
    match lookup ticket p.tasks with
    | none => []
    | some task => (durable crash (p.region task)).map (Entry.mk ticket task.input)

/-- The result a turn reports. -/
def reported : Turn ι → Option (Report ι ρ)
  | .spawn _ => none
  | .step _ (some _) => none
  | .step ticket none =>
    match lookup ticket p.tasks with
    | none => none
    | some task =>
      match p.rest task with
      | .done r => some ⟨ticket, task.input, r⟩
      | .act _ _ => none

/-- The tasks after a turn; `length` is the length of the log after it. -/
def tasksAfter (prog : ι → Proc σ ω ρ) (p : Pool σ ω ι ρ) (length : Nat) : Turn ι → Dir Nat (Task σ ω ι ρ)
  | .spawn i => p.tasks.insert p.fresh ⟨i, prog i, none⟩
  | .step _ (some _) => ∅
  | .step ticket none =>
    match lookup ticket p.tasks with
    | none => p.tasks
    | some task =>
      match p.rest task with
      | .done _ => p.tasks.erase ticket
      | .act writes next => p.tasks.insert ticket ⟨task.input, .act writes next, some length⟩

def freshAfter : Turn ι → Nat
  | .spawn _ => p.fresh + 1
  | .step _ _ => p.fresh

variable [Medium σ ω]

/-- The effect of a log entry on the medium. -/
def apply (s : σ) (e : Entry ω ι) : σ := Medium.put s e.write

def step (prog : ι → Proc σ ω ρ) (p : Pool σ ω ι ρ) (t : Turn ι) : Pool σ ω ι ρ where
  store := run apply p.store (p.entries t)
  log := p.log ++ p.entries t
  tasks := p.tasksAfter prog (p.log ++ p.entries t).length t
  results := p.results ++ (p.reported t).toList
  fresh := p.freshAfter t

/-- The condition `K` on requests holds of the request a turn works on, in the state the turn finds. -/
def Meets (K : ι → σ → Prop) (p : Pool σ ω ι ρ) : Turn ι → Prop
  | .spawn _ => True
  | .step ticket _ =>
    match lookup ticket p.tasks with
    | none => True
    | some task => K task.input p.store

instance (K : ι → σ → Prop) [∀ i s, Decidable (K i s)] (p : Pool σ ω ι ρ) (t : Turn ι) : Decidable (Meets K p t) :=
  match t with
  | .spawn _ => .isTrue trivial
  | .step ticket _ =>
    match h : lookup ticket p.tasks with
    | none => .isTrue (by simp only [Meets, h])
    | some task => decidable_of_iff (K task.input p.store) (by simp only [Meets, h])

variable {prog : ι → Proc σ ω ρ} {p : Pool σ ω ι ρ} {t : Turn ι} {ticket : Nat} {task : Task σ ω ι ρ}
  (htk : lookup ticket p.tasks = some task)

omit [Medium σ ω] in
/-- **What a task can be after a turn**: what it was, the task of a new request, or what its own
    region left. -/
theorem tasksAfter_cases {length ticket : Nat} {task : Task σ ω ι ρ}
    (h : lookup ticket (p.tasksAfter prog length t) = some task) :
    lookup ticket p.tasks = some task ∨
      (∃ i, t = .spawn i ∧ ticket = p.fresh ∧ task = ⟨i, prog i, none⟩) ∨
      ∃ old, t = .step ticket none ∧ lookup ticket p.tasks = some old ∧
        task = ⟨old.input, p.rest old, some length⟩ := by
  match t with
  | .spawn i =>
    rcases lookup_insert_cases h with ⟨htkt, htk⟩ | hold
    · exact .inr (.inl ⟨i, rfl, htkt, htk⟩)
    · exact .inl hold
  | .step n (some k) =>
    replace h : lookup ticket (∅ : Dir Nat (Task σ ω ι ρ)) = some task := h
    cases h
  | .step n none =>
    simp only [tasksAfter] at h
    cases hold : lookup n p.tasks with
    | none => rw [hold] at h; exact .inl h
    | some old =>
      simp only [hold] at h
      cases hre : p.rest old with
      | done r =>
        simp only [hre] at h
        exact .inl (lookup_erase_some h).2
      | act writes next =>
        simp only [hre] at h
        rcases lookup_insert_cases h with ⟨rfl, rfl⟩ | hoth
        · exact .inr (.inr ⟨old, rfl, hold, by rw [hre]⟩)
        · exact .inl hoth

omit [Medium σ ω] in
/-- A result is reported by a task whose region was its last. -/
theorem reported_cases {x : Report ι ρ} (h : p.reported t = some x) :
    t = .step x.ticket none ∧
      ∃ task, lookup x.ticket p.tasks = some task ∧ task.input = x.input ∧ p.rest task = .done x.result := by
  match t with
  | .spawn i => cases h
  | .step n (some k) => cases h
  | .step n none =>
    simp only [reported] at h
    split at h
    · cases h
    next task htk =>
      cases hre : p.rest task with
      | done r =>
        simp only [hre, Option.some.injEq] at h
        subst h
        exact ⟨rfl, task, htk, rfl, hre⟩
      | act writes next =>
        simp only [hre] at h
        cases h

/-! ## Tickets -/

/-- Tickets are handed out once, and a ticket that has reported is not being served. -/
structure Ticketed (p : Pool σ ω ι ρ) : Prop where
  task : ∀ ticket task, lookup ticket p.tasks = some task → ticket < p.fresh
  result : ∀ x ∈ p.results, x.ticket < p.fresh ∧ lookup x.ticket p.tasks = none
  nodup : (p.results.map Report.ticket).Nodup

omit [Medium σ ω] in
theorem ticketed_start (s : σ) : Ticketed (start s : Pool σ ω ι ρ) where
  task := nofun
  result := fun _ h => by cases h
  nodup := List.nodup_nil

omit [Medium σ ω] in
theorem le_freshAfter (p : Pool σ ω ι ρ) (t : Turn ι) : p.fresh ≤ p.freshAfter t := by
  cases t <;> simp [freshAfter]

omit [Medium σ ω] in
/-- A ticket that was handed out and is not being served stays so. -/
theorem lookup_tasksAfter_of_none {length n : Nat} (hfr : n < p.fresh)
    (hno : lookup n p.tasks = none) : lookup n (p.tasksAfter prog length t) = none := by
  rw [Option.eq_none_iff_forall_ne_some]
  intro task htk
  rcases tasksAfter_cases htk with hold | ⟨i, -, heq, -⟩ | ⟨old, -, hold, -⟩
  · rw [hno] at hold; cases hold
  · omega
  · rw [hno] at hold; cases hold

theorem Ticketed.step (hp : Ticketed p) (t : Turn ι) : Ticketed (p.step prog t) := by
  have hnew : ∀ x, p.reported t = some x → x.ticket < p.fresh ∧
      lookup x.ticket (p.tasksAfter prog (p.log ++ p.entries t).length t) = none := by
    intro x hx
    obtain ⟨rfl, task, htk, -, hre⟩ := reported_cases hx
    refine ⟨hp.task _ _ htk, ?_⟩
    simp only [tasksAfter, htk, hre]
    exact lookup_erase _ _
  refine ⟨?_, ?_, ?_⟩
  · intro ticket task htk
    rcases tasksAfter_cases htk with hold | ⟨i, rfl, rfl, -⟩ | ⟨old, -, hold, -⟩
    · exact lt_of_lt_of_le (hp.task _ _ hold) (le_freshAfter p t)
    · exact Nat.lt_succ_self _
    · exact lt_of_lt_of_le (hp.task _ _ hold) (le_freshAfter p t)
  · intro x hx
    rcases List.mem_append.mp hx with hold | hla
    · have hx := hp.result x hold
      exact ⟨lt_of_lt_of_le hx.1 (le_freshAfter p t), lookup_tasksAfter_of_none hx.1 hx.2⟩
    · have hx := hnew x (Option.mem_toList.mp hla)
      exact ⟨lt_of_lt_of_le hx.1 (le_freshAfter p t), hx.2⟩
  show ((p.results ++ (p.reported t).toList).map Report.ticket).Nodup
  rw [List.map_append, List.nodup_append]
  refine ⟨hp.nodup, ?_, ?_⟩
  · cases p.reported t <;> simp
  intro n hn m hm hnm
  obtain ⟨x, hx, rfl⟩ := List.mem_map.mp hn
  obtain ⟨y, hy, rfl⟩ := List.mem_map.mp hm
  obtain ⟨-, task, htk, -, -⟩ := reported_cases (Option.mem_toList.mp hy)
  -- the ticket that reports now is being served, the other one is not
  rw [← hnm, (hp.result x hx).2] at htk
  cases htk

theorem ticketed_run (s : σ) (ts : List (Turn ι)) : Ticketed (run (step prog) (start s) ts) :=
  run_invariant (fun _ t hp => hp.step t) (ticketed_start s) ts

/-! ## Safe processes keep the log guarded -/

/-- What is asked of the processes of a pool: each is safe for its own request's guard `P`, under a
    rely `R` that every guarded write respects; and no request's writes end the condition `K` its
    turns are taken under. -/
structure Discipline (prog : ι → Proc σ ω ρ) (R : σ → σ → Prop) (P : ι → σ → ω → Prop) (K : ι → σ → Prop) : Prop where
  refl : ∀ s, R s s
  trans : ∀ {a b c}, R a b → R b c → R a c
  respects : ∀ i s x, P i s x → R s (Medium.put s x)
  steady : ∀ i s x, P i s x → K i s → K i (Medium.put s x)
  safe : ∀ i s, Proc.Safe R (P i) (prog i) (fun _ _ => True) s

/-- The store is what the log leaves of `s₀`; every entry satisfies its request's guard, made under
    the condition the turns were taken under; and every task is safe from where the store is. -/
structure Sound (R : σ → σ → Prop) (P : ι → σ → ω → Prop) (K : ι → σ → Prop) (s₀ : σ) (p : Pool σ ω ι ρ) : Prop where
  replay : p.store = run apply s₀ p.log
  guarded : Along apply (fun s e => K e.input s ∧ P e.input s e.write) s₀ p.log
  safe : ∀ ticket task, lookup ticket p.tasks = some task →
    Proc.Safe R (P task.input) task.proc (fun _ _ => True) p.store

section
variable {R : σ → σ → Prop} {P : ι → σ → ω → Prop} {K : ι → σ → Prop} {s₀ : σ}

theorem sound_start : Sound R P K s₀ (start s₀ : Pool σ ω ι ρ) where
  replay := rfl
  guarded := along_nil _
  safe := nofun

/-- The entries of one request's writes act as the writes do. -/
theorem run_apply_map (ticket : Nat) (i : ι) (s : σ) (ws : List ω) :
    run apply s (ws.map (Entry.mk ticket i)) = puts s ws := by
  induction ws generalizing s with
  | nil => rfl
  | cons x ws ih => exact ih _

include htk in
/-- A region that runs to its end leaves what its writes leave. -/
theorem store_step : (p.step prog (.step ticket none)).store = puts p.store (p.region task) := by
  show run apply p.store (p.entries (.step ticket none)) = _
  simp only [Pool.entries, htk, durable]
  exact run_apply_map _ _ _ _

/-- A turn that writes nothing leaves the store. -/
theorem store_idle (h : p.entries t = []) : (p.step prog t).store = p.store := by
  show run apply p.store (p.entries t) = p.store
  rw [h]
  rfl

theorem along_apply_map {Q : ι → σ → ω → Prop} (ticket : Nat) (i : ι) {s : σ} {ws : List ω}
    (h : Guarded (Q i) s ws) : Along apply (fun s e => Q e.input s e.write) s (ws.map (Entry.mk ticket i)) := by
  induction ws generalizing s with
  | nil => exact along_nil _
  | cons x ws ih =>
    have hx := (along_cons _ _ _).mp h
    exact (along_cons _ _ _).mpr ⟨hx.1, ih hx.2⟩

include htk in
/-- A safe task's region is guarded, and what is left of it is safe. -/
theorem Sound.region (hp : Sound R P K s₀ p) (hrefl : ∀ s, R s s) :
    Guarded (P task.input) p.store (p.region task) ∧
      Proc.Safe R (P task.input) (p.rest task) (fun _ _ => True) (puts p.store (p.region task)) := by
  have hsafe := hp.safe ticket task htk
  unfold Pool.region Pool.rest
  cases hproc : task.proc with
  | done r => exact ⟨along_nil _, trivial⟩
  | act writes next =>
    rw [hproc] at hsafe
    exact hsafe p.store (hrefl p.store)

/-- What a turn adds to the log is guarded. -/
theorem Sound.entries (hp : Sound R P K s₀ p) (hd : Discipline prog R P K) (ht : Meets K p t) :
    Along apply (fun s e => K e.input s ∧ P e.input s e.write) p.store (p.entries t) := by
  match t with
  | .spawn i => exact along_nil _
  | .step ticket crash =>
    simp only [Pool.entries]
    cases htk : lookup ticket p.tasks with
    | none => exact along_nil _
    | some task =>
      simp only [Meets, htk] at ht
      have hregion := (hp.region htk hd.refl).1
      have hdur : Guarded (P task.input) p.store (durable crash (p.region task)) := by
        cases crash with
        | none => exact hregion
        | some k => exact hregion.take k
      exact along_apply_map (Q := fun i s x => K i s ∧ P i s x) ticket task.input
        (hdur.and_invariant (fun s x hk hx => hd.steady task.input s x hx hk) ht)

theorem Sound.step (hp : Sound R P K s₀ p) (hd : Discipline prog R P K) (ht : Meets K p t) :
    Sound R P K s₀ (p.step prog t) := by
  have hentries := hp.entries hd ht
  have hmoved : R p.store (p.step prog t).store :=
    hentries.related hd.refl hd.trans fun s e he => hd.respects e.input s e.write he.2
  refine ⟨?_, ?_, ?_⟩
  · show run apply p.store (p.entries t) = run apply s₀ (p.log ++ p.entries t)
    rw [hp.replay]
    exact (run_append _ _ _).symm
  · rw [hp.replay] at hentries
    exact (along_append _ _ _).mpr ⟨hp.guarded, hentries⟩
  intro ticket task htk
  rcases tasksAfter_cases htk with hold | ⟨i, -, -, rfl⟩ | ⟨old, rfl, hold, rfl⟩
  · exact (hp.safe ticket task hold).rely hd.trans hmoved
  · exact hd.safe i _
  · rw [store_step hold]
    exact (hp.region hold hd.refl).2

/-- **The rule of the pool.** A run of disciplined processes whose turns meet the condition leaves a
    guarded log. -/
theorem sound_run (hd : Discipline prog R P K) {ts : List (Turn ι)}
    (hts : Along (step prog) (Meets K) (start s₀) ts) : Sound R P K s₀ (run (step prog) (start s₀) ts) :=
  hts.invariant (fun _ _ hp ht => hp.step hd ht) sound_start

/-- What permitted writes never undo is not undone by the turns of a run. -/
theorem Sound.related {T : σ → σ → Prop} (hp : Sound R P K s₀ p) (hd : Discipline prog R P K) (hrefl : ∀ s, T s s)
    (htr : ∀ {a b c}, T a b → T b c → T a c) (hT : ∀ i s x, P i s x → T s (Medium.put s x)) {ts : List (Turn ι)}
    (hts : Along (Pool.step prog) (Meets K) p ts) : T p.store (run (Pool.step prog) p ts).store := by
  induction ts generalizing p with
  | nil => exact hrefl _
  | cons t ts ih =>
    have hsp : T p.store (p.step prog t).store :=
      (hp.entries hd hts.1).related hrefl htr fun s e he => hT e.input s e.write he.2
    exact htr hsp (ih (hp.step hd hts.1) hts.2)

end

/-! ## Results and the writes they rest on -/

section
variable {W : ι → ω → Prop} {B : ι → ρ → Prop}

/-- The write a result of this kind rests on is in the log, under this ticket. -/
def Receipt (W : ι → ω → Prop) (p : Pool σ ω ι ρ) (ticket : Nat) (i : ι) : Prop :=
  ∃ e ∈ p.log, e.ticket = ticket ∧ e.input = i ∧ W i e.write

structure Receipted (W : ι → ω → Prop) (B : ι → ρ → Prop) (p : Pool σ ω ι ρ) : Prop where
  task : ∀ ticket task, lookup ticket p.tasks = some task →
    Receipt W p ticket task.input ∨ task.proc.Earns (W task.input) (B task.input)
  result : ∀ x ∈ p.results, B x.input x.result → Receipt W p x.ticket x.input

theorem Receipt.step {ticket : Nat} {i : ι} (h : Receipt W p ticket i) (t : Turn ι) :
    Receipt W (p.step prog t) ticket i := by
  obtain ⟨e, he, htkt⟩ := h
  exact ⟨e, List.mem_append_left _ he, htkt⟩

include htk in
/-- After its region a task has its receipt, or still has to earn it. -/
theorem Receipted.region (hp : Receipted W B p) :
    Receipt W (p.step prog (.step ticket none)) ticket task.input ∨
      (p.rest task).Earns (W task.input) (B task.input) := by
  rcases hp.task ticket task htk with hreceipt | hearns
  · exact .inl (hreceipt.step _)
  unfold Pool.rest
  cases hproc : task.proc with
  | done r => rw [hproc] at hearns; exact .inr hearns
  | act writes next =>
    rw [hproc] at hearns
    rcases hearns p.store with ⟨x, hx, hW⟩ | hnx
    · refine .inl ⟨⟨ticket, task.input, x⟩, List.mem_append_right _ ?_, rfl, rfl, hW⟩
      simp only [Pool.entries, htk, durable, Pool.region, hproc]
      exact List.mem_map_of_mem hx
    · exact .inr hnx

theorem Receipted.step (hp : Receipted W B p) (hprog : ∀ i, (prog i).Earns (W i) (B i))
    (t : Turn ι) : Receipted W B (p.step prog t) := by
  refine ⟨?_, ?_⟩
  · intro ticket task htk
    rcases tasksAfter_cases htk with hold | ⟨i, -, -, rfl⟩ | ⟨old, rfl, hold, rfl⟩
    · exact (hp.task ticket task hold).imp (fun h => h.step t) id
    · exact .inr (hprog i)
    · exact hp.region hold
  intro x hx hB
  rcases List.mem_append.mp hx with hold | hla
  · exact (hp.result x hold hB).step t
  obtain ⟨rfl, task, htk, hinp, hre⟩ := reported_cases (Option.mem_toList.mp hla)
  have hregion : Receipt W (p.step prog (.step x.ticket none)) x.ticket task.input ∨ _ := hp.region htk
  rcases hregion with hreceipt | hearns
  · rw [hinp] at hreceipt
    exact hreceipt
  · rw [hre, hinp] at hearns
    exact absurd hB hearns

/-- **The rule of receipts.** Where every process reaches a result in `B` only after a write in `W`,
    every such result of a run has its own write in the log. -/
theorem receipts_run (hprog : ∀ i, (prog i).Earns (W i) (B i)) (s : σ) (ts : List (Turn ι)) :
    Receipted W B (run (step prog) (start s) ts) := by
  refine run_invariant (fun _ t hp => hp.step hprog t) ⟨?_, ?_⟩ ts
  · intro ticket task htk
    simp [start, lookup_empty] at htk
  · intro x hx
    cases hx

omit [Medium σ ω] in
/-- Where the writes that results rest on happen at most once, so do the results: no two results
    share a ticket, and each has a write of its own. -/
theorem Receipted.countP_le_one (hp : Receipted W B p) (ht : Ticketed p) {b : Report ι ρ → Bool}
    {w : Entry ω ι → Bool} (hb : ∀ x, b x → B x.input x.result)
    (hw : ∀ x, ∀ e ∈ p.log, b x → e.input = x.input → W x.input e.write → w e)
    (hlog : p.log.countP w ≤ 1) : p.results.countP b ≤ 1 := by
  rw [List.countP_eq_length_filter] at hlog ⊢
  have hnd : ((p.results.filter b).map Report.ticket).Nodup := ht.nodup.sublist (List.filter_sublist.map _)
  have hent : (p.results.filter b).map Report.ticket ⊆ (p.log.filter w).map Entry.ticket := by
    intro ticket hticket
    obtain ⟨x, hx, rfl⟩ := List.mem_map.mp hticket
    obtain ⟨hmem, hx⟩ := List.mem_filter.mp hx
    obtain ⟨e, he, htkt, hinp, hW⟩ := hp.result x hmem (hb x hx)
    exact List.mem_map.mpr ⟨e, List.mem_filter.mpr ⟨he, hw x e he hx hinp hW⟩, htkt⟩
  have hle := (List.subperm_of_subset hnd hent).length_le
  rw [List.length_map, List.length_map] at hle
  exact hle.trans hlog

end

/-! ## Serial runs -/

/-- No crash, and nothing was written since the last region of the task the turn serves, if it has
    run one. -/
def Undisturbed (p : Pool σ ω ι ρ) : Turn ι → Prop
  | .spawn _ => True
  | .step _ (some _) => False
  | .step ticket none =>
    match lookup ticket p.tasks with
    | none => True
    | some task => task.seen = none ∨ task.seen = some p.log.length

instance (p : Pool σ ω ι ρ) (t : Turn ι) : Decidable (Undisturbed p t) :=
  match t with
  | .spawn _ => .isTrue trivial
  | .step _ (some _) => .isFalse id
  | .step ticket none =>
    match h : lookup ticket p.tasks with
    | none => .isTrue (by simp only [Undisturbed, h])
    | some task =>
      decidable_of_iff (task.seen = none ∨ task.seen = some p.log.length) (by simp only [Undisturbed, h])

section
variable {β : Type} {I : σ → Prop} {view : σ → β} {spec : ι → β → β × ρ} {s₀ : σ}

/-- The results so far are those of performing the requests one after the other on the view, and a
    task nobody disturbed since its last region performs its request on the view as it is now. -/
structure Serial (prog : ι → Proc σ ω ρ) (I : σ → Prop) (view : σ → β) (spec : ι → β → β × ρ)
    (s₀ : σ) (p : Pool σ ω ι ρ) : Prop where
  inv : I p.store
  replay : view p.store = run (fun v x => (spec x.input v).1) (view s₀) p.results
  agree : Along (fun v x => (spec x.input v).1) (fun v x => x.result = (spec x.input v).2) (view s₀) p.results
  waiting : ∀ ticket task, lookup ticket p.tasks = some task → task.seen = none → task.proc = prog task.input
  running : ∀ ticket task n, lookup ticket p.tasks = some task → task.seen = some n →
    n ≤ p.log.length ∧ (n = p.log.length →
      task.proc.Performs I view (view p.store) (spec task.input (view p.store)) p.store)

theorem serial_start (hI : I s₀) : Serial prog I view spec s₀ (start s₀) where
  inv := hI
  replay := rfl
  agree := along_nil _
  waiting := nofun
  running := nofun

variable (hp : Serial prog I view spec s₀ p)
  (hprog : ∀ i s, I s → (prog i).Performs I view (view s) (spec i (view s)) s)

include hp

include htk hprog in
/-- An undisturbed task performs its request on the view as it is now. -/
theorem Serial.performs (hse : task.seen = none ∨ task.seen = some p.log.length) :
    task.proc.Performs I view (view p.store) (spec task.input (view p.store)) p.store := by
  rcases hse with hno | hla
  · rw [hp.waiting ticket task htk hno]
    exact hprog task.input p.store hp.inv
  · exact (hp.running ticket task _ htk hla).2 rfl

include htk in
/-- Another task's region leaves a task alone, or the task is disturbed. -/
theorem Serial.others {n : Nat} (hse : task.seen = some n) :
    n ≤ (p.log ++ p.entries t).length ∧ (n = (p.log ++ p.entries t).length →
      task.proc.Performs I view (view (p.step prog t).store) (spec task.input (view (p.step prog t).store))
        (p.step prog t).store) := by
  obtain ⟨hle, hperforms⟩ := hp.running ticket task n htk hse
  rw [List.length_append]
  refine ⟨by omega, fun hn => ?_⟩
  have hnil : p.entries t = [] := List.length_eq_zero_iff.mp (by omega)
  rw [store_idle hnil]
  exact hperforms (by omega)

/-- A turn in which no task runs leaves the store and the results. -/
theorem Serial.idle (hentries : p.entries t = []) (hreport : p.reported t = none)
    (htasks : ∀ ticket task, lookup ticket (p.step prog t).tasks = some task →
      lookup ticket p.tasks = some task ∨ (task.seen = none ∧ task.proc = prog task.input)) :
    Serial prog I view spec s₀ (p.step prog t) := by
  have hstr : (p.step prog t).store = p.store := store_idle hentries
  have hrl : (p.step prog t).results = p.results := by
    show p.results ++ (p.reported t).toList = p.results
    rw [hreport]
    exact List.append_nil _
  refine ⟨?_, ?_, ?_, ?_, ?_⟩
  · rw [hstr]; exact hp.inv
  · rw [hstr, hrl]; exact hp.replay
  · rw [hrl]; exact hp.agree
  · intro ticket task htk hno
    rcases htasks ticket task htk with hold | ⟨-, hproc⟩
    · exact hp.waiting ticket task hold hno
    · exact hproc
  intro ticket task n htk hse
  rcases htasks ticket task htk with hold | ⟨hno, -⟩
  · exact hp.others hold hse
  · rw [hno] at hse; cases hse

include hprog

include htk in
/-- One region of an undisturbed task. -/
theorem Serial.region (hse : task.seen = none ∨ task.seen = some p.log.length) :
    Serial prog I view spec s₀ (p.step prog (.step ticket none)) := by
  have hre : (p.rest task).Performs I view (view p.store) (spec task.input (view p.store))
      (puts p.store (p.region task)) := by
    have hperforms := hp.performs htk hprog hse
    unfold Pool.rest Pool.region
    cases hproc : task.proc with
    | done r => rw [hproc] at hperforms; exact hperforms
    | act writes next => rw [hproc] at hperforms; exact hperforms.2.2
  have hstr : (p.step prog (.step ticket none)).store = _ := store_step htk
  rw [← hstr] at hre
  have hrl : (p.step prog (.step ticket none)).results
      = p.results ++ (p.reported (.step ticket none)).toList := rfl
  simp only [Pool.reported, htk] at hrl
  have hwa : ∀ n other, lookup n (p.step prog (.step ticket none)).tasks = some other →
      other.seen = none → other.proc = prog other.input := by
    intro n other hoth hno
    rcases tasksAfter_cases hoth with hold | ⟨i, ht, -⟩ | ⟨old, -, -, rfl⟩
    · exact hp.waiting n other hold hno
    · cases ht
    · cases hno
  cases hdn : p.rest task with
  | done r =>
    -- the last region: the request is performed, and its result is reported
    rw [hdn] at hre
    simp only [hdn, Option.toList_some] at hrl
    obtain ⟨hinv, hview, hrs⟩ := hre
    refine ⟨hinv, ?_, ?_, hwa, ?_⟩
    · rw [hview, hrl, run_append, hp.replay]
      rfl
    · rw [hrl]
      refine (along_append _ _ _).mpr ⟨hp.agree, ?_, trivial⟩
      rw [← hp.replay]
      exact hrs
    intro n other k hoth hk
    rcases tasksAfter_cases hoth with hold | ⟨i, ht, -⟩ | ⟨old, ht, hold, rfl⟩
    · exact hp.others hold hk
    · cases ht
    cases ht
    -- a ticket that has reported is no longer served
    have herased : lookup ticket (p.step prog (.step ticket none)).tasks = none := by
      show lookup ticket (p.tasksAfter prog _ (.step ticket none)) = none
      simp only [tasksAfter, htk, hdn]
      exact lookup_erase _ _
    rw [herased] at hoth
    cases hoth
  | act writes next =>
    rw [hdn] at hre
    simp only [hdn, Option.toList_none, List.append_nil] at hrl
    have hview := hre.2.1
    refine ⟨hre.1, ?_, ?_, hwa, ?_⟩
    · rw [hview, hrl, hp.replay]
    · rw [hrl]; exact hp.agree
    intro n other k hoth hk
    rcases tasksAfter_cases hoth with hold | ⟨i, ht, -⟩ | ⟨old, ht, hold, rfl⟩
    · exact hp.others hold hk
    · cases ht
    cases ht
    cases hk
    rw [htk] at hold
    cases hold
    refine ⟨le_rfl, fun _ => ?_⟩
    rw [hview, hdn]
    exact hre

theorem Serial.step (ht : Undisturbed p t) : Serial prog I view spec s₀ (p.step prog t) := by
  match t with
  | .spawn i =>
    refine hp.idle rfl rfl fun ticket task htk => ?_
    rcases tasksAfter_cases htk with hold | ⟨j, hj, -, rfl⟩ | ⟨old, hj, -⟩
    · exact .inl hold
    · exact .inr ⟨rfl, rfl⟩
    · cases hj
  | .step ticket (some k) => exact absurd ht id
  | .step ticket none =>
    simp only [Undisturbed] at ht
    cases htk : lookup ticket p.tasks with
    | none =>
      refine hp.idle ?_ ?_ fun n task hn => ?_
      · simp only [Pool.entries, htk]
      · simp only [Pool.reported, htk]
      rcases tasksAfter_cases hn with hold | ⟨i, hj, -⟩ | ⟨old, hj, hold, -⟩
      · exact .inl hold
      · cases hj
      · cases hj; rw [htk] at hold; cases hold
    | some task =>
      simp only [htk] at ht
      exact hp.region htk hprog ht

omit hp in
/-- **The rule of serial runs.** Where every process, left alone, performs its request on a view of
    the store, a run that disturbs no process between two of its regions performs the requests one
    after the other. -/
theorem serial_run (hI : I s₀) {ts : List (Turn ι)} (hts : Along (step prog) Undisturbed (start s₀) ts) :
    Serial prog I view spec s₀ (run (step prog) (start s₀) ts) :=
  hts.invariant (fun _ _ hp ht => hp.step hprog ht) (serial_start hI)

end

end Pool

end Lib
