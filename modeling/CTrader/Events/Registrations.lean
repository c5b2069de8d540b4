import CTrader.Events.Unsubscribe

/-! Parties that register handlers and undo just that, beside each other and beside everybody else. -/

namespace CTrader.Events

section Lists

variable {τ η : Type} [DecidableEq τ]

/-- The handlers that pairings give to one class, in their order. -/
def handlersFor (messageType : τ) (pairings : List (τ × η)) : List η :=
  (pairings.filter fun pairing => pairing.1 = messageType).map Prod.snd

/-- A pairing gives its handler to its own class, in front of those that the others give. -/
theorem handlersFor_cons (messageType : τ) (pairing : τ × η) (pairings : List (τ × η)) :
    handlersFor messageType (pairing :: pairings) =
      if pairing.1 = messageType then pairing.2 :: handlersFor messageType pairings
      else handlersFor messageType pairings := by
  by_cases own : pairing.1 = messageType <;> simp [handlersFor, own]

variable {mine : η → Bool} {pairings : List (τ × η)}

/-- Pairings that come from some handlers give only these. -/
theorem filter_handlersFor (own : ∀ pairing ∈ pairings, mine pairing.2 = true) (messageType : τ) :
    (handlersFor messageType pairings).filter mine = handlersFor messageType pairings := by
  refine List.filter_eq_self.mpr fun handler given => ?_
  obtain ⟨pairing, listed, rfl⟩ := List.mem_map.mp given
  exact own pairing (List.mem_of_mem_filter listed)

/-- Pairings that come from other handlers give none of them. -/
theorem filter_handlersFor_of_not (foreign : ∀ pairing ∈ pairings, mine pairing.2 = false)
    (messageType : τ) : (handlersFor messageType pairings).filter mine = [] := by
  refine List.filter_eq_nil_iff.mpr fun handler given => ?_
  obtain ⟨pairing, listed, rfl⟩ := List.mem_map.mp given
  simp [foreign pairing (List.mem_of_mem_filter listed)]

end Lists

namespace Registry

variable {τ η : Type} [DecidableEq τ] {registry : Registry τ η}

/-- Registering a handler puts it behind the others of its class. -/
theorem handlersOf_onEvent (messageType other : τ) (handler : η) :
    (registry.onEvent messageType handler).handlersOf other =
      if messageType = other then registry.handlersOf messageType ++ [handler]
      else registry.handlersOf other := by
  by_cases same : messageType = other
  · subst same
    simp [onEvent, handlersOf, Dict.get?_set_self]
  · rw [if_neg same]
    simp [onEvent, handlersOf, Dict.get?_set_of_ne _ _ (Ne.symm same)]

/-- Register the handlers of some pairings, one after the other. -/
def register (registry : Registry τ η) (pairings : List (τ × η)) : Registry τ η :=
  pairings.foldl (fun registry pairing => registry.onEvent pairing.1 pairing.2) registry

/-- Registering pairings puts their handlers behind the others of their classes. -/
theorem handlersOf_register (pairings : List (τ × η)) (messageType : τ) :
    (registry.register pairings).handlersOf messageType =
      registry.handlersOf messageType ++ handlersFor messageType pairings := by
  -- The induction is on the pairings, from the first one that is registered.
  induction pairings generalizing registry with
  | nil => simp [register, handlersFor]
  | cons pairing pairings ih =>
    have first : registry.register (pairing :: pairings) =
        (registry.onEvent pairing.1 pairing.2).register pairings := rfl
    rw [first, ih, handlersOf_onEvent, handlersFor_cons]
    by_cases own : pairing.1 = messageType
    · rw [if_pos own, if_pos own, own, List.append_assoc, List.singleton_append]
    · rw [if_neg own, if_neg own]

variable [Setoid η] [DecidableRel (α := η) (· ≈ ·)]

/-- Removing a handler changes the handlers of its own class only. -/
theorem handlersOf_removeHandler_of_ne {messageType other : τ} (different : messageType ≠ other)
    (handler : η) :
    (registry.removeHandler messageType handler).handlersOf other = registry.handlersOf other := by
  unfold removeHandler handlersOf
  cases found : registry.eventHandlers.get? messageType with
  | none => rfl
  | some handlers => simp [Dict.get?_set_of_ne _ _ (Ne.symm different)]

/-- Call the undo functions of some pairings, one after the other. -/
def dispose (registry : Registry τ η) (pairings : List (τ × η)) : Registry τ η :=
  pairings.foldl (fun registry pairing => registry.removeHandler pairing.1 pairing.2) registry

variable {mine : η → Bool} (respects : ∀ a b : η, a ≈ b → mine a = mine b)

include respects

/-- Removing one of some handlers removes it from among these. -/
theorem filter_removeHandler {handler : η} (own : mine handler = true) (messageType other : τ) :
    ((registry.removeHandler messageType handler).handlersOf other).filter mine =
      if messageType = other then
        ((registry.handlersOf messageType).filter mine).eraseP (· ≈ handler)
      else (registry.handlersOf other).filter mine := by
  by_cases same : messageType = other
  · subst same
    -- Whatever equals one of the handlers is one of them.
    have equal : (fun held => decide (held ≈ handler)) =
        fun held => mine held && decide (held ≈ handler) := by
      funext held
      by_cases equals : held ≈ handler
      · simp [equals, respects held handler equals, own]
      · simp [equals]
    rw [if_pos rfl, handlersOf_removeHandler]
    conv_lhs => rw [equal, filter_eraseP]
  · rw [if_neg same, handlersOf_removeHandler_of_ne same]

/-- Removing a handler that is none of some handlers leaves all of these. -/
theorem filter_removeHandler_of_not {handler : η} (foreign : mine handler = false)
    (messageType other : τ) :
    ((registry.removeHandler messageType handler).handlersOf other).filter mine =
      (registry.handlersOf other).filter mine := by
  -- At its own class the handler removed fails the test; at another nothing happens.
  by_cases same : messageType = other
  · subst same
    rw [handlersOf_removeHandler]
    refine filter_eraseP_of_dropped (fun held equals => ?_) _
    rw [respects held handler (of_decide_eq_true equals), foreign]
  · rw [handlersOf_removeHandler_of_ne same]

/-- Undoing the pairings of others leaves all of some handlers. -/
theorem filter_dispose_of_not {pairings : List (τ × η)}
    (foreign : ∀ pairing ∈ pairings, mine pairing.2 = false) (messageType : τ) :
    ((registry.dispose pairings).handlersOf messageType).filter mine =
      (registry.handlersOf messageType).filter mine := by
  induction pairings generalizing registry with
  | nil => rfl
  | cons pairing pairings ih =>
    -- The pairings are undone in turn, and each of them is somebody else's.
    have first : registry.dispose (pairing :: pairings) =
        (registry.removeHandler pairing.1 pairing.2).dispose pairings := rfl
    rw [first, ih fun other listed => foreign other (.tail _ listed)]
    exact filter_removeHandler_of_not respects (foreign pairing (.head _)) _ _

/-- Undoing the pairings that some handlers come from leaves none of these. -/
theorem filter_dispose {pairings : List (τ × η)} (own : ∀ pairing ∈ pairings, mine pairing.2 = true)
    (held : ∀ messageType, (registry.handlersOf messageType).filter mine =
      handlersFor messageType pairings) (messageType : τ) :
    ((registry.dispose pairings).handlersOf messageType).filter mine = [] := by
  -- The induction is on the pairings, each of which removes the first handler of those that are left.
  induction pairings generalizing registry with
  | nil => exact held messageType
  | cons pairing pairings ih =>
    have first : registry.dispose (pairing :: pairings) =
        (registry.removeHandler pairing.1 pairing.2).dispose pairings := rfl
    rw [first]
    refine ih (fun other listed => own other (.tail _ listed)) fun other => ?_
    rw [filter_removeHandler respects (own pairing (.head _)), held, held, handlersFor_cons,
      handlersFor_cons, if_pos rfl]
    by_cases same : pairing.1 = other
    · have itself : decide (pairing.2 ≈ pairing.2) = true := decide_eq_true (Setoid.refl _)
      rw [if_pos same, List.eraseP_cons_of_pos (p := fun held => decide (held ≈ pairing.2)) itself, same]
    · rw [if_neg same, if_neg same]

end Registry

/-- A registry, and the parties at it with the registrations that they hold the undo functions of. -/
structure Bench (τ η ρ : Type) where
  registry : Registry τ η := {}
  disposers : Dict ρ (List (τ × η)) := .empty

/-- What the parties at a registry do, and what everybody else does. -/
inductive BenchLabel (τ η ρ : Type)
  | start (party : ρ)
  | stop (party : ρ)
  | onEvent (messageType : τ) (handler : η)
  | removeHandler (messageType : τ) (handler : η)
deriving DecidableEq

namespace Bench

/-- The handlers of the parties are told apart from each other and from those of everybody else. -/
structure Ownership {τ η ρ : Type} [Setoid η] (pairings : ρ → List (τ × η))
    (owner : η → Option ρ) :
    Prop where
  respects : ∀ a b : η, a ≈ b → owner a = owner b
  own : ∀ party, ∀ pairing ∈ pairings party, owner pairing.2 = some party

/-- A test for an owner does not tell equal handlers apart. -/
theorem Ownership.test {τ η ρ : Type} [DecidableEq ρ] [Setoid η] {pairings : ρ → List (τ × η)}
    {owner : η → Option ρ} (ownership : Ownership pairings owner) (whose : Option ρ) (a b : η)
    (equal : a ≈ b) : decide (owner a = whose) = decide (owner b = whose) := by
  rw [ownership.respects a b equal]

variable {τ η ρ : Type} [DecidableEq τ] [DecidableEq ρ] [Setoid η] [DecidableRel (α := η) (· ≈ ·)]

/-- The undo functions that a party holds, by the registrations that they undo. -/
def disposersOf (bench : Bench τ η ρ) (party : ρ) : List (τ × η) :=
  (bench.disposers.get? party).getD []

/-- Whether a party holds any undo function. -/
def isStarted (bench : Bench τ η ρ) (party : ρ) : Bool := !(bench.disposersOf party).isEmpty

/-- A party registers its handlers and keeps the undo functions, unless it holds some already. -/
def start (pairings : ρ → List (τ × η)) (bench : Bench τ η ρ) (party : ρ) : Bench τ η ρ :=
  if bench.isStarted party then bench
  else ⟨bench.registry.register (pairings party), bench.disposers.set party (pairings party)⟩

/-- A party calls the undo functions that it holds, and drops them. -/
def stop (bench : Bench τ η ρ) (party : ρ) : Bench τ η ρ :=
  if bench.isStarted party then
    ⟨bench.registry.dispose (bench.disposersOf party), bench.disposers.set party []⟩
  else bench

/-- What one label does. -/
def act (pairings : ρ → List (τ × η)) (bench : Bench τ η ρ) : BenchLabel τ η ρ → Bench τ η ρ
  | .start party => bench.start pairings party
  | .stop party => bench.stop party
  | .onEvent messageType handler => { bench with registry := bench.registry.onEvent messageType handler }
  | .removeHandler messageType handler =>
    { bench with registry := bench.registry.removeHandler messageType handler }

/-- What one label does to a registry at which there are no parties. -/
def actWithout (others : Registry τ η) : BenchLabel τ η ρ → Registry τ η
  | .onEvent messageType handler => others.onEvent messageType handler
  | .removeHandler messageType handler => others.removeHandler messageType handler
  | _ => others

/-- A registry and its parties, beside the registry that there would be without the parties. -/
def machine (pairings : ρ → List (τ × η)) :
    Machine (Bench τ η ρ × Registry τ η) (BenchLabel τ η ρ) :=
  Machine.watch ⟨{}, fun bench label => some (bench.act pairings label)⟩ {}
    fun _ label _ others => actWithout others label

/-- Whoever is no party registers and removes handlers that are no party's. -/
def Foreign (owner : η → Option ρ) : BenchLabel τ η ρ → Prop
  | .onEvent _ handler => owner handler = none
  | .removeHandler _ handler => owner handler = none
  | _ => True

instance {τ η ρ : Type} [DecidableEq ρ] (owner : η → Option ρ) :
    DecidablePred (Foreign (τ := τ) owner)
  | .onEvent _ handler => inferInstanceAs (Decidable (owner handler = none))
  | .removeHandler _ handler => inferInstanceAs (Decidable (owner handler = none))
  | .start _ => inferInstanceAs (Decidable True)
  | .stop _ => inferInstanceAs (Decidable True)

/-- Every party has its handlers registered or none of them, and everybody else has their own. -/
structure Tidy (pairings : ρ → List (τ × η)) (owner : η → Option ρ) (bench : Bench τ η ρ)
    (others : Registry τ η) : Prop where
  held : ∀ party, bench.disposersOf party = [] ∨ bench.disposersOf party = pairings party
  own : ∀ party messageType,
    (bench.registry.handlersOf messageType).filter (owner · = some party) =
      handlersFor messageType (bench.disposersOf party)
  others : ∀ messageType,
    (bench.registry.handlersOf messageType).filter (owner · = none) = others.handlersOf messageType

section

variable {pairings : ρ → List (τ × η)} {owner : η → Option ρ} {bench : Bench τ η ρ}
  {others : Registry τ η}

omit [DecidableEq τ] [Setoid η] [DecidableRel (α := η) (· ≈ ·)] in
/-- The undo functions of one party are written without regard to the others'. -/
theorem disposersOf_set (registry : Registry τ η) (party other : ρ) (held : List (τ × η)) :
    (⟨registry, bench.disposers.set party held⟩ : Bench τ η ρ).disposersOf other =
      if other = party then held else bench.disposersOf other := by
  simp only [disposersOf, Dict.get?_set]
  split <;> rfl

omit [Setoid η] [DecidableRel (α := η) (· ≈ ·)] in
/-- A party that starts is started, and the others are as they were. -/
theorem isStarted_start {party : ρ} (some_pairing : pairings party ≠ []) (other : ρ) :
    (bench.start pairings party).isStarted other = (other = party || bench.isStarted other) := by
  -- A party that is started already is left alone.
  unfold Bench.start
  split
  · rename_i started
    by_cases same : other = party
    · simp [same, started]
    · simp [same]
  · simp only [isStarted, disposersOf_set]
    by_cases same : other = party
    · simp [same, some_pairing]
    · simp [same]

/-- A party that stops is not started, and the others are as they were. -/
theorem isStarted_stop (party other : ρ) :
    (bench.stop party).isStarted other = (other ≠ party && bench.isStarted other) := by
  -- A party that is not started has nothing to stop.
  unfold Bench.stop
  split
  · simp only [isStarted, disposersOf_set]
    by_cases same : other = party
    · simp [same]
    · simp [same]
  · rename_i stopped
    by_cases same : other = party
    · simp [same, stopped]
    · simp [same]

omit [DecidableRel (α := η) (· ≈ ·)] in
/-- A party that starts leaves everything tidy. -/
theorem Tidy.start (ownership : Ownership pairings owner) (tidy : Tidy pairings owner bench others)
    (party : ρ) : Tidy pairings owner (bench.start pairings party) others := by
  unfold Bench.start
  split
  · exact tidy
  · rename_i stopped
    have none_held : bench.disposersOf party = [] := by simpa [isStarted] using stopped
    constructor
    · intro other
      rw [disposersOf_set]
      split
      · rename_i same
        exact .inr (by rw [same])
      · exact tidy.held other
    · intro other messageType
      rw [Registry.handlersOf_register, List.filter_append, tidy.own, disposersOf_set]
      by_cases same : other = party
      · -- All that is new belongs to the party, which had nothing before.
        subst same
        have own : ∀ pairing ∈ pairings other, decide (owner pairing.2 = some other) = true :=
          fun pairing listed => decide_eq_true (ownership.own other pairing listed)
        rw [none_held, if_pos rfl, filter_handlersFor own]
        rfl
      · have foreign : ∀ pairing ∈ pairings party, decide (owner pairing.2 = some other) = false := by
          intro pairing listed
          simp [ownership.own party pairing listed, Ne.symm same]
        rw [if_neg same, filter_handlersFor_of_not foreign, List.append_nil]
    · intro messageType
      have foreign : ∀ pairing ∈ pairings party, decide (owner pairing.2 = none) = false := by
        intro pairing listed
        simp [ownership.own party pairing listed]
      rw [Registry.handlersOf_register, List.filter_append, tidy.others,
        filter_handlersFor_of_not foreign, List.append_nil]

/-- A party that stops leaves everything tidy. -/
theorem Tidy.stop (ownership : Ownership pairings owner) (tidy : Tidy pairings owner bench others)
    (party : ρ) : Tidy pairings owner (bench.stop party) others := by
  unfold Bench.stop
  split
  · rename_i started
    -- What the party holds is what it registers, and so belongs to it.
    have held : bench.disposersOf party = pairings party := by
      refine (tidy.held party).resolve_left fun none_held => ?_
      simp [isStarted, none_held] at started
    have owned : ∀ pairing ∈ bench.disposersOf party, owner pairing.2 = some party := by
      rw [held]
      exact ownership.own party
    constructor
    · intro other
      rw [disposersOf_set]
      split
      · exact .inl rfl
      · exact tidy.held other
    · intro other messageType
      rw [disposersOf_set]
      by_cases same : other = party
      · subst same
        rw [if_pos rfl]
        exact Registry.filter_dispose (ownership.test (some other))
          (fun pairing listed => decide_eq_true (owned pairing listed)) (tidy.own other) messageType
      · rw [if_neg same, ← tidy.own other]
        refine Registry.filter_dispose_of_not (ownership.test (some other)) ?_ messageType
        intro pairing listed
        simp [owned pairing listed, Ne.symm same]
    · intro messageType
      rw [← tidy.others]
      refine Registry.filter_dispose_of_not (ownership.test none) ?_ messageType
      intro pairing listed
      simp [owned pairing listed]
  · exact tidy

/-- Whatever anybody does leaves everything tidy. -/
theorem Tidy.act (ownership : Ownership pairings owner) (tidy : Tidy pairings owner bench others)
    {label : BenchLabel τ η ρ} (foreign : Foreign owner label) :
    Tidy pairings owner (bench.act pairings label) (actWithout others label) := by
  cases label with
  | start party => exact tidy.start ownership party
  | stop party => exact tidy.stop ownership party
  | onEvent cls handler =>
    -- The handler belongs to no party, so it is added to the others' side alone.
    have nobody : owner handler = none := foreign
    refine ⟨tidy.held, fun party messageType => ?_, fun messageType => ?_⟩
    · simp only [Bench.act, Registry.handlersOf_onEvent]
      have same := tidy.own party messageType
      split
      · rename_i own
        subst own
        rw [List.filter_append, same]
        simp [nobody, disposersOf]
      · exact same
    · simp only [Bench.act, actWithout, Registry.handlersOf_onEvent]
      have same := tidy.others messageType
      split
      · rename_i own
        subst own
        rw [List.filter_append, same]
        simp [nobody]
      · exact same
  | removeHandler cls handler =>
    -- A handler of no party is removed on both sides alike.
    have nobody : owner handler = none := foreign
    refine ⟨tidy.held, fun party messageType => ?_, fun messageType => ?_⟩
    · refine Eq.trans ?_ (tidy.own party messageType)
      exact Registry.filter_removeHandler_of_not (ownership.test (some party)) (by simp [nobody]) _ _
    · simp only [Bench.act, actWithout]
      rw [Registry.filter_removeHandler (ownership.test none) (by simp [nobody]), tidy.others,
        tidy.others]
      by_cases same : cls = messageType
      · subst same
        rw [if_pos rfl, Registry.handlersOf_removeHandler]
      · rw [if_neg same, Registry.handlersOf_removeHandler_of_ne same]

omit [Setoid η] [DecidableRel (α := η) (· ≈ ·)] in
/-- Where no party is started there are everybody else's handlers only. -/
theorem Tidy.handlersOf_of_stopped (tidy : Tidy pairings owner bench others)
    (stopped : ∀ party, bench.isStarted party = false) (messageType : τ) :
    bench.registry.handlersOf messageType = others.handlersOf messageType := by
  rw [← tidy.others, List.filter_eq_self.mpr]
  intro handler listed
  cases owned : owner handler with
  | none => simp
  | some party =>
    -- A handler of a party would be one that it has registered, and it has registered none.
    have none_held : bench.disposersOf party = [] := by simpa [isStarted] using stopped party
    have none_own : (bench.registry.handlersOf messageType).filter (owner · = some party) = [] := by
      rw [tidy.own, none_held]
      rfl
    exact absurd (decide_eq_true owned) (List.filter_eq_nil_iff.mp none_own handler listed)

/-- Along every run everything is tidy. -/
theorem tidy_of_reaches (ownership : Ownership pairings owner)
    (reached : (machine pairings).Reaches (fun _ label => Foreign owner label) (bench, others)) :
    Tidy pairings owner bench others := by
  refine Machine.Reaches.watch_invariant (P := Tidy pairings owner) ?_ ?_ reached
  · constructor <;> intros <;> simp [disposersOf, Registry.handlersOf, handlersFor]
  · intro bench others label after _ tidy foreign taken
    cases taken
    exact tidy.act ownership foreign

end

end Bench

end CTrader.Events
