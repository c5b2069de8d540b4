import Mathlib.Order.WellFounded

/-! Systems given by an executable step function, their runs, and what holds along every run. -/

/-- A labelled system: an initial state, and the state each enabled label leads to. -/
structure Machine (σ ℓ : Type) where
  init : σ
  step : σ → ℓ → Option σ

namespace Machine

variable {σ ℓ : Type} (M : Machine σ ℓ) {ok better : σ → ℓ → Prop}

/-- The states reached by runs all of whose steps meet a condition on the state before the step. -/
inductive Reaches (ok : σ → ℓ → Prop) : σ → Prop
  | init : Reaches ok M.init
  | step {s t : σ} {l : ℓ} (before : Reaches ok s) (met : ok s l) (taken : M.step s l = some t) :
      Reaches ok t

/-- The states reached by any run at all. -/
def Reachable : σ → Prop := M.Reaches fun _ _ => True

/-- The state after a list of labels, refused at the first one that breaks the condition. -/
def runUnder (ok : σ → ℓ → Prop) [∀ s l, Decidable (ok s l)] : σ → List ℓ → Option σ
  | s, [] => some s
  | s, l :: rest =>
    if ok s l then
      match M.step s l with
      | some t => runUnder ok t rest
      | none => none
    else none

variable {M}

/-- What holds at the start and survives every step that meets the condition always holds. -/
theorem Reaches.invariant {P : σ → Prop} (start : P M.init)
    (kept : ∀ s l t, M.Reaches ok s → P s → ok s l → M.step s l = some t → P t)
    {s : σ} (reached : M.Reaches ok s) : P s := by
  -- The induction is on the run, so the invariant is known before each of its steps.
  induction reached with
  | init => exact start
  | step before met taken ih => exact kept _ _ _ before ih met taken

/-- A run under a condition is a run under every weaker one. -/
theorem Reaches.mono (weaker : ∀ s l, ok s l → better s l) {s : σ} (reached : M.Reaches ok s) :
    M.Reaches better s := by
  induction reached with
  | init => exact .init
  | step _ met taken ih => exact .step ih (weaker _ _ met) taken

/-- A run under any condition is a run. -/
theorem Reaches.reachable {s : σ} (reached : M.Reaches ok s) : M.Reachable s :=
  reached.mono fun _ _ _ => trivial

/-- Executing labels that meet the condition extends a run. -/
theorem Reaches.run [∀ s l, Decidable (ok s l)] {labels : List ℓ} :
    ∀ {s t : σ}, M.Reaches ok s → M.runUnder ok s labels = some t → M.Reaches ok t := by
  -- Each executed label is one more step of the run.
  induction labels with
  | nil =>
    intro s t reached executed
    cases executed
    exact reached
  | cons l rest ih =>
    intro s t reached executed
    simp only [runUnder] at executed
    split at executed
    · rename_i met
      split at executed
      · rename_i mid taken
        exact ih (reached.step met taken) executed
      · cases executed
    · cases executed

/-- Executing labels that meet the condition in every state extends a run. -/
theorem Reaches.run_forall {labels : List ℓ} :
    ∀ {s t : σ}, M.Reaches ok s → (∀ s, ∀ l ∈ labels, ok s l) →
      M.runUnder (fun _ _ => True) s labels = some t → M.Reaches ok t := by
  induction labels with
  | nil =>
    intro s t reached _ executed
    cases executed
    exact reached
  | cons l rest ih =>
    intro s t reached met executed
    simp only [runUnder, if_true] at executed
    split at executed
    · rename_i mid taken
      refine ih (reached.step (met _ l List.mem_cons_self) taken) ?_ executed
      exact fun s other listed => met s other (List.mem_cons_of_mem _ listed)
    · cases executed

/-- A property found true by executing labels from the start holds in some reached state. -/
theorem exists_reaches [∀ s l, Decidable (ok s l)] {P : σ → Prop} [DecidablePred P]
    (labels : List ℓ) (found : (M.runUnder ok M.init labels).any (fun s => P s) = true) :
    ∃ s, M.Reaches ok s ∧ P s := by
  cases executed : M.runUnder ok M.init labels with
  | none => simp [executed] at found
  | some s =>
    simp only [executed, Option.any_some, decide_eq_true_eq] at found
    exact ⟨s, Reaches.init.run executed, found⟩

/-- Executing labels in two parts is executing the second from where the first ends. -/
theorem runUnder_append [∀ s l, Decidable (ok s l)] (first second : List ℓ) (s : σ) :
    M.runUnder ok s (first ++ second) =
      (M.runUnder ok s first).bind fun t => M.runUnder ok t second := by
  induction first generalizing s with
  | nil => rfl
  | cons l rest ih =>
    simp only [List.cons_append, runUnder]
    split
    · split
      · exact ih _
      · rfl
    · rfl

/-- The same system, started in another state. -/
def startedAt (M : Machine σ ℓ) (s : σ) : Machine σ ℓ := { M with init := s }

/-- A run from a reached state goes on with the run that reached it. -/
theorem Reaches.extend {s t : σ} (reached : M.Reachable s) (window : (M.startedAt s).Reaches ok t) :
    M.Reachable t := by
  induction window with
  | init => exact reached
  | step _ _ taken ih => exact .step ih trivial taken

/-- One step reaches its end from its start. -/
theorem reachable_step {s t : σ} {l : ℓ} (taken : M.step s l = some t) :
    (M.startedAt s).Reachable t :=
  .step (M := M.startedAt s) .init trivial taken

/-- What is reached from a state that is reached from another is reached from that one. -/
theorem reachable_trans {s mid t : σ} (first : (M.startedAt s).Reachable mid)
    (second : (M.startedAt mid).Reachable t) : (M.startedAt s).Reachable t :=
  Reaches.extend (M := M.startedAt s) first second

/-- The system with an observer beside it, who notes something at every step and decides nothing. -/
def watch {τ : Type} (M : Machine σ ℓ) (start : τ) (note : σ → ℓ → σ → τ → τ) :
    Machine (σ × τ) ℓ where
  init := (M.init, start)
  step watched l := (M.step watched.1 l).map fun t => (t, note watched.1 l t watched.2)

section Watch

variable {τ : Type} {start : τ} {note : σ → ℓ → σ → τ → τ}

/-- What holds at the start and survives every noted step holds of the state and the notes. -/
theorem Reaches.watch_invariant {watchedOk : σ × τ → ℓ → Prop} {P : σ → τ → Prop}
    (begins : P M.init start)
    (kept : ∀ s w l t, (M.watch start note).Reaches watchedOk (s, w) → P s w → watchedOk (s, w) l →
      M.step s l = some t → P t (note s l t w))
    {s : σ} {w : τ} (reached : (M.watch start note).Reaches watchedOk (s, w)) : P s w := by
  refine reached.invariant (P := fun watched => P watched.1 watched.2) begins
    fun ⟨s, w⟩ l after before holds met taken => ?_
  -- A watched step is a step of the system, noted.
  obtain ⟨t, stepped, rfl⟩ := Option.map_eq_some_iff.mp taken
  exact kept s w l t before holds met stepped

/-- What is reached under the eyes of an observer is reached without it. -/
theorem Reaches.unwatched {watchedOk : σ × τ → ℓ → Prop}
    (weaker : ∀ s w l, watchedOk (s, w) l → ok s l) {s : σ} {w : τ}
    (reached : (M.watch start note).Reaches watchedOk (s, w)) : M.Reaches ok s :=
  reached.watch_invariant (P := fun s _ => M.Reaches ok s) .init
    fun s w l _ _ before met taken => before.step (weaker s w l met) taken

/-- An observer hinders nothing: every reached state is reached under its eyes. -/
theorem Reaches.watched {s : σ} (reached : M.Reaches ok s) :
    ∃ w, (M.watch start note).Reaches (fun before l => ok before.1 l) (s, w) := by
  induction reached with
  | init => exact ⟨start, .init⟩
  | @step s t l _ met taken ih =>
    obtain ⟨w, watched⟩ := ih
    exact ⟨note s l t w, .step watched met (by simp [watch, taken])⟩

end Watch

/-- An endless run under a condition: at every moment one step is taken, or nothing happens. -/
structure Run (M : Machine σ ℓ) (ok : σ → ℓ → Prop) where
  state : Nat → σ
  start : state 0 = M.init
  next : ∀ n, state (n + 1) = state n ∨
    ∃ l, ok (state n) l ∧ M.step (state n) l = some (state (n + 1))

namespace Run

variable (run : M.Run ok)

/-- The endless run that executes some labels and then rests. -/
def resting [∀ s l, Decidable (ok s l)] (labels : List ℓ)
    (executes : (M.runUnder ok M.init labels).isSome = true) : M.Run ok where
  state n := (M.runUnder ok M.init (labels.take n)).getD M.init
  start := rfl
  next n := by
    have begun : ∃ s, M.runUnder ok M.init (labels.take n) = some s := by
      rw [← List.take_append_drop n labels, runUnder_append] at executes
      cases ran : M.runUnder ok M.init (labels.take n) with
      | none => simp [ran] at executes
      | some s => exact ⟨s, rfl⟩
    obtain ⟨s, begun⟩ := begun
    by_cases more : n < labels.length
    · -- The next label is one more step of the execution.
      rw [List.take_succ_eq_append_getElem more, runUnder_append, begun]
      have whole := executes
      rw [← List.take_append_drop (n + 1) labels, List.take_succ_eq_append_getElem more,
        runUnder_append, runUnder_append, begun] at whole
      simp only [runUnder, Option.bind_some, Option.getD_some] at whole ⊢
      split at whole
      · rename_i met
        split at whole
        · rename_i t taken
          exact .inr ⟨labels[n], met, by rw [taken, if_pos met]; rfl⟩
        · cases whole
      · cases whole
    · rw [List.take_of_length_le (by omega), List.take_of_length_le (by omega)]
      exact .inl rfl

/-- A resting run rests where the execution of its labels ends. -/
theorem resting_state [∀ s l, Decidable (ok s l)] {labels : List ℓ}
    (executes : (M.runUnder ok M.init labels).isSome = true) {n : Nat} (long : labels.length ≤ n) :
    M.runUnder ok M.init labels = some ((resting labels executes).state n) := by
  obtain ⟨s, ran⟩ := Option.isSome_iff_exists.mp executes
  simp only [resting, List.take_of_length_le long, ran, Option.getD_some]

/-- Every moment of an endless run is reached by a finite one. -/
theorem reaches (n : Nat) : M.Reaches ok (run.state n) := by
  induction n with
  | zero =>
    rw [run.start]
    exact .init
  | succ n ih =>
    rcases run.next n with same | ⟨l, met, taken⟩
    · rw [same]
      exact ih
    · exact ih.step met taken

/-- What is only ever left for something else, and not held for ever, comes to that. -/
theorem leaves {P Q : σ → Prop} {n : Nat}
    (moves : ∀ s l t, M.Reaches ok s → ok s l → M.step s l = some t → P s → P t ∨ Q t)
    (holds : P (run.state n)) (ends : ∃ m, n ≤ m ∧ ¬P (run.state m)) :
    ∃ m, n ≤ m ∧ Q (run.state m) := by
  obtain ⟨m, later, ended⟩ := ends
  obtain ⟨distance, rfl⟩ := Nat.exists_eq_add_of_le later
  -- The induction is on the distance to the moment at which it no longer holds.
  induction distance generalizing n with
  | zero => exact absurd holds ended
  | succ distance ih =>
    have step : P (run.state (n + 1)) ∨ Q (run.state (n + 1)) := by
      rcases run.next n with same | ⟨l, met, taken⟩
      · rw [same]
        exact .inl holds
      · exact moves _ l _ (run.reaches n) met taken holds
    rcases step with kept | reached
    · have shifted : n + (distance + 1) = n + 1 + distance := by omega
      rw [shifted] at ended
      obtain ⟨m, later, reached⟩ := ih kept (Nat.le_add_right _ _) ended
      exact ⟨m, by omega, reached⟩
    · exact ⟨n + 1, Nat.le_succ n, reached⟩

/-- What holds only while a measure does not rise, and does not stand still for ever, comes to an end. -/
theorem ends {P : σ → Prop} {α : Type*} [PartialOrder α] [WellFoundedLT α] (measure : σ → α)
    (descends : ∀ s l t, M.Reaches ok s → ok s l → M.step s l = some t → P s → P t →
      measure t ≤ measure s)
    (progress : ∀ n, (∀ m, n ≤ m → P (run.state m)) →
      ∃ m, n ≤ m ∧ measure (run.state m) ≠ measure (run.state n)) (n : Nat) :
    ∃ m, n ≤ m ∧ ¬P (run.state m) := by
  by_contra never
  have always : ∀ m, n ≤ m → P (run.state m) := by
    intro m later
    by_contra ended
    exact never ⟨m, later, ended⟩
  clear never
  -- The induction is on the measure, with the moment at which it is taken generalized.
  generalize taken : measure (run.state n) = value
  induction value using WellFoundedLT.induction generalizing n with
  | ind value ih =>
    have below (distance : Nat) : measure (run.state (n + distance)) ≤ value := by
      induction distance with
      | zero => exact taken.le
      | succ distance sofar =>
        rcases run.next (n + distance) with same | ⟨l, met, stepped⟩
        · rw [← Nat.add_assoc, same]
          exact sofar
        · have holds := always (n + distance) (Nat.le_add_right _ _)
          have after := always (n + distance + 1) (by omega)
          exact (descends _ l _ (run.reaches _) met stepped holds after).trans sofar
    obtain ⟨m, later, moved⟩ := progress n always
    obtain ⟨distance, rfl⟩ := Nat.exists_eq_add_of_le later
    have less := lt_of_le_of_ne (below distance) (taken ▸ moved)
    exact ih _ less (n + distance) (fun m after => always m (later.trans after)) rfl

end Run

end Machine
