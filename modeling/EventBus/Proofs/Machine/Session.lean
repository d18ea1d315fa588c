import EventBus.Proofs.Machine.SideBySide

/-!
# Sessions

Runs that go beyond one script: tasks are done one after the other, a script on the main thread or a
turn of the pool, and each starts in the state that the last one ended with. Two sessions are
`Abreast` when their machines are in step and the tasks that remain are the same; `forth` and `back`
carry a relation between sessions from single steps over to whole runs.
-/

namespace EventBus

variable {H σ σ' ε : Type}

/-- Something to be done when the machine has come to an end. -/
inductive Task (H σ ε : Type) where
  | script (script : Script H σ ε)
  /-- The pool runs until it is empty. -/
  | pool

/-- A machine that is running, and what remains to be done afterwards. -/
structure Session (H σ ε : Type) where
  machine : Machine H σ ε
  tasks : List (Task H σ ε)

def Task.start (s : State H σ ε) : Task H σ ε → Machine H σ ε
  | .script body => .start s body
  | .pool => .startPool s

namespace Session

/-- The session one step further. It stays as it is when nothing remains to be done, and when the
machine is stuck. -/
def next (p : Program H σ ε) (c : Session H σ ε) : Session H σ ε :=
  match Machine.step p c.machine with
  | .going m => { c with machine := m }
  | .ended s _ =>
    match c.tasks with
    | [] => c
    | task :: rest => ⟨task.start s, rest⟩
  | .stuck _ => c

/-- The session that starts with a script in a state. -/
def start (s : State H σ ε) (script : Script H σ ε) (tasks : List (Task H σ ε)) : Session H σ ε :=
  ⟨.start s script, tasks⟩

def after (p : Program H σ ε) (c : Session H σ ε) (n : Nat) : State H σ ε :=
  ((next p)^[n] c).machine.state

end Session

section Iteration

variable {A B : Type} {f : A → A} {g : B → B} {R : A → B → Prop} {a : A} {b : B}

/-- Where each step on the left is matched by one or none on the right, so is each run. -/
lemma iterate_forth (step : ∀ a b, R a b → R (f a) b ∨ R (f a) (g b)) (r : R a b) (n : Nat) :
    ∃ k, R (f^[n] a) (g^[k] b) := by
  induction n with
  | zero => exact ⟨0, r⟩
  | succ n ih =>
    obtain ⟨k, r⟩ := ih
    rw [Function.iterate_succ_apply']
    obtain r | r := step _ _ r
    · exact ⟨k, r⟩
    · refine ⟨k + 1, ?_⟩
      rwa [Function.iterate_succ_apply']

/-- Where each step on the right is matched by some on the left, so is each run. -/
lemma iterate_back (catches : ∀ a b, R a b → ∃ j, R (f^[j] a) (g b)) (r : R a b) (k : Nat) :
    ∃ n, R (f^[n] a) (g^[k] b) := by
  induction k with
  | zero => exact ⟨0, r⟩
  | succ k ih =>
    obtain ⟨n, r⟩ := ih
    obtain ⟨j, r⟩ := catches _ _ r
    refine ⟨j + n, ?_⟩
    rwa [Function.iterate_add_apply, Function.iterate_succ_apply']

end Iteration

namespace Pairing

variable (P : Pairing H σ σ' ε)

inductive LikeTask : Task H σ ε → Task H σ' ε → Prop where
  | script {script script'} :
    P.Matches script script' →
    LikeTask (.script script) (.script script')
  | pool : LikeTask .pool .pool

/-- Sessions in which the same is being done and remains to be done. -/
structure Abreast (c : Session H σ ε) (c' : Session H σ' ε) : Prop where
  machine : P.InStep c.machine c'.machine
  tasks : List.Forall₂ P.LikeTask c.tasks c'.tasks

/-- What becomes of two sessions abreast, the first of which comes from a state `s₀`. -/
inductive Onwards (p : Program H σ ε) (s₀ : State H σ ε) :
    Session H σ ε → Session H σ' ε → Prop where
  | abreast {c c'} :
    P.Abreast c c' →
    Onwards p s₀ c c'
  | opens {m n tasks tasks' id e xs} :
    P.immediate →
    P.Abreast ⟨m, tasks⟩ ⟨n, tasks'⟩ →
    m.control = .back →
    (∀ x ∈ xs, s₀.Lists x) →
    Onwards p s₀ ⟨m.drive m.state (.queued id) e xs, tasks⟩
      ⟨n.drive n.state .immediate e xs, tasks'⟩
  | fails {m n tasks tasks' f e x} :
    P.lenient →
    P.Abreast ⟨m, tasks⟩ ⟨n, tasks'⟩ →
    m.control = .back →
    Onwards p s₀ ⟨Machine.report p m m.state m.stack f e x, tasks⟩
      ⟨{ n with state := n.state.emit (.delivered e x) }, tasks'⟩

variable {P}

/-- Machines that start with scripts that do the same are in step. -/
lemma Alike.start {s : State H σ ε} {s' : State H σ' ε} (h : P.Alike s s')
    {script : Script H σ ε} {script' : Script H σ' ε} (same : P.Matches script script') :
    P.InStep (.start s script) (.start s' script') :=
  ⟨h, rfl, .nil, .run same⟩

/-- Machines that start with the work of their pools are in step. -/
lemma Alike.startPool {s : State H σ ε} {s' : State H σ' ε} (h : P.Alike s s') :
    P.InStep (.startPool s) (.startPool s') :=
  ⟨h, rfl, .cons .pool .nil, .back⟩

/-- Sessions abreast go on together. -/
theorem Abreast.next {p : Program H σ ε} {p' : Program H σ' ε} {c : Session H σ ε}
    {c' : Session H σ' ε} (h : P.Abreast c c') (similar : P.Similar p p') :
    P.Onwards p c.machine.state (c.next p) (c'.next p') := by
  have paired := h.machine.step similar
  unfold Session.next
  generalize Machine.step p c.machine = left at paired
  generalize Machine.step p' c'.machine = right at paired
  cases paired with
  | going inStep => exact .abreast ⟨inStep, h.tasks⟩
  | ended alike =>
    dsimp only
    have tasks := h.tasks
    generalize c.tasks = left at tasks
    generalize c'.tasks = right at tasks
    cases tasks with
    | nil => exact .abreast h
    | cons task rest =>
      cases task with
      | script same => exact .abreast ⟨alike.start same, rest⟩
      | pool => exact .abreast ⟨alike.startPool, rest⟩
  | stuck => exact .abreast h
  | opens immediate inStep back listed => exact .opens immediate ⟨inStep, h.tasks⟩ back listed
  | fails lenient inStep back => exact .fails lenient ⟨inStep, h.tasks⟩ back

/-- New states are alike. -/
lemma Alike.initial (hierarchy : Hierarchy) {user : σ} {user' : σ'} (related : P.user user user') :
    P.Alike (.initial hierarchy user) (.initial hierarchy user') where
  hierarchy := rfl
  buses _ := rfl
  queues := rfl
  idle _ := rfl
  locks := rfl
  backlog := rfl
  pool := rfl
  busCount := rfl
  dispatcherCount := rfl
  threadCount := rfl
  user := related
  trace := rfl

end Pairing

end EventBus
