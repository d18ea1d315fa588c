import EventBus.Proofs.Machine.Session

/-!
# Errors leave the course of events alone

A session in which handlers fail beside the one in which they take the same actions and end well.
While an error is being reported the first session is behind, with the report on top of its stack;
as long as reports make no calls of buses, they come down to what they stand on, and the two
sessions are abreast again.
-/

namespace EventBus

variable {H σ σ' ε : Type}

/-- Whether an occurrence tells how handlers end, what becomes of their errors, or what is noted
down. -/
def Occurrence.isAftermath : Occurrence H ε → Bool
  | delivered _ _ | reported _ _ | failureLogged _ _ | reportFailed _ _ _ | reportPanicked _ _ _
  | noted _ => true
  | _ => false

/-- The bus and the event that is wrapped where a dead event is made. -/
def Occurrence.death? : Occurrence H ε → Option (BusRef × Event)
  | died b e => some (b, e)
  | _ => none

/-- The dead events that buses have made. -/
def deathsOf (os : List (Occurrence H ε)) : List (BusRef × Event) :=
  os.filterMap (·.death?)

namespace Pairing

/-- The second side is the one without errors; `R` relates what the handlers keep. -/
def isolated (R : σ → σ' → Prop) : Pairing H σ σ' ε where
  user := R
  lenient := true
  immediate := false
  told o := !o.isAftermath
  untold_reportFailed _ _ _ _ := rfl
  untold_built := by rintro ⟨⟩
  untold_dispatched := by rintro ⟨⟩

end Pairing

/-- Scripts that make no calls of buses, and that change nothing in the handlers' sight. -/
inductive Script.Quiet (R : σ → σ' → Prop) : Script H σ ε → Prop where
  | finish {r} : Quiet R (.finish r)
  | panic {payload} : Quiet R (.panic payload)
  | note {entry next} :
    Quiet R next →
    Quiet R (.note entry next)
  | inspect {next} :
    (∀ s t, Quiet R (next s t)) →
    Quiet R (.inspect next)
  | update {change next} :
    (∀ u u', R u u' → R (change u) u') →
    Quiet R next →
    Quiet R (.update change next)

namespace Session

variable {R : σ → σ' → Prop} {p : Program H σ ε} {p' : Program H σ' ε}

/-- A report that is under way. -/
inductive Underway (R : σ → σ' → Prop) : Control H σ ε → Prop where
  | run {script} :
    script.Quiet R →
    Underway R (.run script)
  | unwind {payload} : Underway R (.unwind payload)

/-- The first session is abreast of the second one, or it is reporting an error. -/
inductive Isolated (R : σ → σ' → Prop) : Session H σ ε → Session H σ' ε → Prop where
  | abreast {c c'} :
    (Pairing.isolated R).Abreast c c' →
    Isolated R c c'
  | reporting {s t stack control f x tasks c'} :
    (Pairing.isolated R).Abreast ⟨⟨s, t, stack, .back⟩, tasks⟩ c' →
    Underway R control →
    Isolated R ⟨⟨s, t, .reporting f x :: stack, control⟩, tasks⟩ c'

namespace Isolated

variable {c : Session H σ ε} {c' : Session H σ' ε} {s : State H σ ε} {t : Nat}
  {stack : List (Frame H σ ε)} {tasks : List (Task H σ ε)}

/-- Sessions of which one has a report to make are alike. -/
lemma alike (h : Isolated R c c') :
    (Pairing.isolated R).Alike c.machine.state c'.machine.state := by
  cases h with
  | abreast h => exact h.machine.state
  | reporting h _ => exact h.machine.state

/-- What comes of an error may be told on one side alone. -/
lemma emit (h : (Pairing.isolated R).Abreast ⟨⟨s, t, stack, .back⟩, tasks⟩ c')
    {o : Occurrence H ε} (aftermath : o.isAftermath) :
    (Pairing.isolated R).Abreast ⟨⟨s.emit o, t, stack, .back⟩, tasks⟩ c' := by
  have untold : (Pairing.isolated (H := H) (ε := ε) R).told o = false := by
    simp [Pairing.isolated, aftermath]
  exact ⟨{ h.machine with state := h.machine.state.emit_left untold }, h.tasks⟩

/-- A report that is under way makes its next step by itself. -/
lemma reporting_next {control : Control H σ ε} {f : Failure} {x : FailureContext}
    (h : (Pairing.isolated R).Abreast ⟨⟨s, t, stack, .back⟩, tasks⟩ c')
    (underway : Underway R control) :
    Isolated R (next p ⟨⟨s, t, .reporting f x :: stack, control⟩, tasks⟩) c' := by
  cases underway with
  | unwind => exact .abreast (emit h rfl)
  | run quiet =>
    cases quiet with
    | @finish r =>
      cases r with
      | ok _ => exact .abreast h
      | error _ => exact .abreast (emit h rfl)
    | panic => exact .reporting h .unwind
    | note quiet => exact .reporting (emit h rfl) (.run quiet)
    | inspect quiet => exact .reporting h (.run (quiet _ _))
    | update keeps quiet =>
      have state := h.machine.state
      refine .reporting ⟨{ h.machine with state := ?_ }, h.tasks⟩ (.run quiet)
      exact { state with user := keeps _ _ state.user }

/-- A report that is under way comes to its end. -/
lemma reporting_ends {control : Control H σ ε} {f : Failure} {x : FailureContext}
    (h : (Pairing.isolated R).Abreast ⟨⟨s, t, stack, .back⟩, tasks⟩ c')
    (underway : Underway R control) :
    ∃ j, (Pairing.isolated R).Abreast
      ((next p)^[j] ⟨⟨s, t, .reporting f x :: stack, control⟩, tasks⟩) c' := by
  have caught {s : State H σ ε} {payload : Payload}
      (h : (Pairing.isolated R).Abreast ⟨⟨s, t, stack, .back⟩, tasks⟩ c') :
      (Pairing.isolated R).Abreast
        (next p ⟨⟨s, t, .reporting f x :: stack, .unwind payload⟩, tasks⟩) c' := emit h rfl
  cases underway with
  | unwind => exact ⟨1, caught h⟩
  | run quiet =>
    induction quiet generalizing s with
    | @finish r =>
      refine ⟨1, ?_⟩
      cases r with
      | ok _ => exact h
      | error _ => exact emit h rfl
    | panic => exact ⟨2, caught h⟩
    | note _ ih =>
      obtain ⟨j, abreast⟩ := ih (emit h (o := .noted _) rfl)
      exact ⟨j + 1, abreast⟩
    | inspect _ ih =>
      obtain ⟨j, abreast⟩ := ih s t h
      exact ⟨j + 1, abreast⟩
    | @update change _ keeps _ ih =>
      have state := h.machine.state
      have h : (Pairing.isolated R).Abreast
          ⟨⟨{ s with user := change s.user }, t, stack, .back⟩, tasks⟩ c' := by
        refine ⟨{ h.machine with state := ?_ }, h.tasks⟩
        exact { state with user := keeps _ _ state.user }
      obtain ⟨j, abreast⟩ := ih h
      exact ⟨j + 1, abreast⟩

/-- What is done about an error is the first session's affair. -/
lemma report (quiet : ∀ code f x, (p.report code f x).Quiet R)
    (h : (Pairing.isolated R).Abreast ⟨⟨s, t, stack, .back⟩, tasks⟩ c') (f : Failure) (e : Event)
    (x : Subscriber H) :
    Isolated R ⟨Machine.report p ⟨s, t, stack, .back⟩ s stack f e x, tasks⟩ c' := by
  have reported := emit h (o := .reported f (x.failureContext e)) rfl
  unfold Machine.report
  dsimp only
  cases x.desk.policy with
  | log => exact .abreast (emit reported rfl)
  | custom code => exact .reporting reported (.run (quiet ..))

/-- From abreast, the sessions go on together. -/
lemma abreast_next (similar : (Pairing.isolated R).Similar p p')
    (quiet : ∀ code f x, (p.report code f x).Quiet R)
    (h : (Pairing.isolated R).Abreast c c') : Isolated R (c.next p) (c'.next p') := by
  have onwards := h.next similar
  generalize c.next p = left at onwards
  generalize c'.next p' = right at onwards
  cases onwards with
  | abreast h => exact .abreast h
  | opens immediate _ _ _ => cases immediate
  | @fails m n tasks tasks' f e x _ h back =>
    obtain ⟨s, t, stack, control⟩ := m
    cases back
    -- The second side tells that the delivery is over, the first one reports its error.
    have state : (Pairing.isolated R).Alike s (n.state.emit (.delivered e x)) :=
      h.machine.state.emit_right rfl
    have h : (Pairing.isolated R).Abreast ⟨⟨s, t, stack, .back⟩, tasks⟩
        ⟨{ n with state := n.state.emit (.delivered e x) }, tasks'⟩ :=
      ⟨{ h.machine with state := state }, h.tasks⟩
    exact report quiet h f e x

/-- A step with errors is matched by one or none without them. -/
lemma forth (similar : (Pairing.isolated R).Similar p p')
    (quiet : ∀ code f x, (p.report code f x).Quiet R) (h : Isolated R c c') :
    Isolated R (c.next p) c' ∨ Isolated R (c.next p) (c'.next p') := by
  cases h with
  | abreast h => exact .inr (abreast_next similar quiet h)
  | reporting h underway => exact .inl (reporting_next h underway)

/-- A step without errors is matched by some with them. -/
lemma back (similar : (Pairing.isolated R).Similar p p')
    (quiet : ∀ code f x, (p.report code f x).Quiet R) (h : Isolated R c c') :
    ∃ j, Isolated R ((next p)^[j] c) (c'.next p') := by
  cases h with
  | abreast h => exact ⟨1, abreast_next similar quiet h⟩
  | reporting h underway =>
    obtain ⟨j, h⟩ := reporting_ends (p := p) h underway
    refine ⟨j + 1, ?_⟩
    rw [Function.iterate_succ_apply']
    exact abreast_next similar quiet h

end Isolated

end Session

end EventBus
