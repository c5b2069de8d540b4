import Mathlib.Data.List.Basic

/-! What leaves the block of a client: single failures as themselves, several ones as a group. -/

namespace CTrader.Client

/-- A raised exception by the object that it is: a failure of its own, or a group of at least one. -/
inductive Raised (ι : Type)
  | single (object : ι)
  | group (object : ι) (first : Raised ι) (rest : List (Raised ι))

variable {ι : Type}

namespace Raised

/-- The object that was raised. -/
def object : Raised ι → ι
  | single object => object
  | group object _ _ => object

/-- Whether the exception is a `BaseExceptionGroup`. -/
def isGroup : Raised ι → Bool
  | single _ => false
  | group _ _ _ => true

/-- The exceptions that a group was made of. -/
def exceptions : Raised ι → List (Raised ι)
  | single _ => []
  | group _ first rest => first :: rest

mutual

/-- The failures that are no groups, at any depth. -/
def leaves : Raised ι → List ι
  | single object => [object]
  | group _ first rest => leaves first ++ leavesAll rest

/-- The failures that are no groups, over a list of exceptions. -/
def leavesAll : List (Raised ι) → List ι
  | [] => []
  | raised :: rest => leaves raised ++ leavesAll rest

end

/-- An exception and all that it is made of, at any depth. -/
inductive Within : Raised ι → Raised ι → Prop
  | self (failure : Raised ι) : Within failure failure
  | inside {outer middle inner : Raised ι} (member : middle ∈ outer.exceptions)
      (deeper : Within middle inner) : Within outer inner

/-- The body of the loop in `_sole_failure`, where its condition holds. -/
def unwrap? (failure : Raised ι) : Option (Raised ι) :=
  match failure.isGroup, failure.exceptions with
  | true, [only] => some only
  | _, _ => none

/-- The loop of `_sole_failure`, in at most so many looks at its condition. -/
def soleFailureWithin : Nat → Raised ι → Option (Raised ι)
  | 0, _ => none
  | looks + 1, failure =>
    match failure.unwrap? with
    | some only => soleFailureWithin looks only
    | none => some failure

/-- `_sole_failure`: the one failure a group wrapped, or the group when there were several. -/
def soleFailure : Raised ι → Raised ι
  | group _ only [] => soleFailure only
  | failure => failure

/-- The loop comes to its end, at the failure that it is described by. -/
theorem soleFailureWithin_of_enough (failure : Raised ι) :
    ∃ enough, ∀ looks, enough ≤ looks →
      soleFailureWithin looks failure = some failure.soleFailure := by
  -- The induction follows the unwrapping, and every group takes one more look.
  fun_induction soleFailure failure with
  | case1 object only ih =>
    obtain ⟨enough, ends⟩ := ih
    -- The wrapped exception needs one look less.
    refine ⟨enough + 1, fun looks more => ?_⟩
    obtain ⟨fewer, rfl⟩ : ∃ fewer, looks = fewer + 1 := ⟨looks - 1, by omega⟩
    exact ends fewer (by omega)
  | case2 failure several =>
    refine ⟨1, fun looks more => ?_⟩
    obtain ⟨fewer, rfl⟩ : ∃ fewer, looks = fewer + 1 := ⟨looks - 1, by omega⟩
    -- Only a group of one has anything to unwrap, and this is none.
    have wrapped : failure.unwrap? = none := by
      match failure with
      | single _ => rfl
      | group object only [] => exact absurd rfl (several object only)
      | group _ _ (_ :: _) => rfl
    rw [soleFailureWithin, wrapped]

/-- No exception is without a failure. -/
theorem leaves_ne_nil (failure : Raised ι) : failure.leaves ≠ [] := by
  match failure with
  | single object => simp [leaves]
  | group _ first _ =>
    -- A group is made of at least one exception, which has a failure already.
    intro empty
    rw [leaves, List.append_eq_nil_iff] at empty
    exact leaves_ne_nil first empty.1

/-- Unwrapping loses no failure and adds none. -/
theorem leaves_soleFailure (failure : Raised ι) : failure.soleFailure.leaves = failure.leaves := by
  -- A group of one has the failures of what it wraps.
  fun_induction soleFailure failure with
  | case1 object only ih =>
    rw [ih, leaves, leavesAll, List.append_nil]
  | case2 failure several => rfl

/-- What is left is a part of the exception. -/
theorem within_soleFailure (failure : Raised ι) : Within failure failure.soleFailure := by
  -- Every unwrapping goes one group further in.
  fun_induction soleFailure failure with
  | case1 object only ih =>
    have member : only ∈ (group object only []).exceptions := List.mem_singleton_self only
    exact .inside member ih
  | case2 failure several => exact .self failure

/-- What is left is one failure, or a group of at least two exceptions. -/
theorem soleFailure_cases (failure : Raised ι) :
    (∃ object, failure.soleFailure = single object) ∨
      ∃ object first second rest, failure.soleFailure = group object first (second :: rest) := by
  -- The unwrapping stops at a failure or at a group of several, and nowhere else.
  fun_induction soleFailure failure with
  | case1 object only ih => exact ih
  | case2 failure several =>
    match failure with
    | single object => exact .inl ⟨object, rfl⟩
    | group object only [] => exact absurd rfl (several object only)
    | group object first (second :: rest) => exact .inr ⟨object, first, second, rest, rfl⟩

/-- A group of two exceptions has two failures. -/
theorem two_le_leaves (object : ι) (first second : Raised ι) (rest : List (Raised ι)) :
    2 ≤ (group object first (second :: rest)).leaves.length := by
  -- Each of the two has a failure of its own.
  have one := List.length_pos_iff.mpr (leaves_ne_nil first)
  have two := List.length_pos_iff.mpr (leaves_ne_nil second)
  simp only [leaves, leavesAll, List.length_append]
  omega

/-- An exception with a single failure is unwrapped down to that failure. -/
theorem soleFailure_of_leaves {failure : Raised ι} {object : ι} (sole : failure.leaves = [object]) :
    failure.soleFailure = single object := by
  rw [← leaves_soleFailure] at sole
  rcases soleFailure_cases failure with ⟨left, unwrapped⟩ | ⟨_, first, second, rest, several⟩
  · rw [unwrapped, leaves, List.singleton_inj] at sole
    rw [unwrapped, sole]
  · -- A group that is left has too many failures.
    have two := two_le_leaves ‹ι› first second rest
    rw [several] at sole
    rw [leaves] at sole two
    rw [sole] at two
    exact absurd two (by simp)

end Raised

/-- How an awaited call ends: what it returns, or what it raises. -/
inductive Ended (ι α : Type)
  | returned (value : α)
  | raised (failure : Raised ι)

variable {ρ : Type} [DecidableEq ι]

/-- What a block hands on when a group came out of the lifecycle around it. -/
def unwrapped {α : Type} (group : Raised ι) : Ended ι α :=
  let failure := group.soleFailure
  if failure.object = group.object then .raised group else .raised failure

/-- `CTraderClient.__aenter__`, with the lifecycle it leaves running. -/
def aenter (running : Option ρ) (alreadyConnected : ι) (lifecycle : ρ) (enter : ρ → Ended ι Unit) :
    Option ρ × Ended ι Unit :=
  match running with
  | some held => (some held, .raised (.single alreadyConnected))
  | none =>
    match enter lifecycle with
    | .returned () => (some lifecycle, .returned ())
    | .raised failure => (none, if failure.isGroup then unwrapped failure else .raised failure)

/-- `CTraderClient.__aexit__`, which returns whether the exception of the block is swallowed. -/
def aexit (running : Option ρ) (exit : ρ → Ended ι Bool) (own : Option (Raised ι)) :
    Option ρ × Ended ι Bool :=
  match running with
  | none => (none, .returned false)
  | some lifecycle =>
    (none, match exit lifecycle with
      | .returned swallowed => .returned swallowed
      | .raised failure =>
        if failure.isGroup then
          -- The block's own exception propagates as itself rather than being raised again.
          if own.map Raised.object = some failure.soleFailure.object then .returned false
          else unwrapped failure
        else .raised failure)

/-- What leaves a block that ended with an exception of its own, or without one. -/
def leavesBlock (own : Option (Raised ι)) : Ended ι Bool → Option (Raised ι)
  | .returned true => none
  | .returned false => own
  | .raised failure => some failure

/-- A client that one failure keeps from opening raises that failure as itself, and is not connected. -/
theorem aenter_of_sole {group : Raised ι} {leaf alreadyConnected : ι} {lifecycle : ρ}
    {enter : ρ → Ended ι Unit} (fails : enter lifecycle = .raised group)
    (sole : group.leaves = [leaf]) (apart : group.isGroup = true → group.object ≠ leaf) :
    aenter none alreadyConnected lifecycle enter = (none, .raised (.single leaf)) := by
  simp only [aenter, fails]
  cases wrapped : group.isGroup with
  | true =>
    -- No object is a group and a failure that is none, so the group is not raised in its place.
    have other : (Raised.single leaf).object ≠ group.object := (apart wrapped).symm
    rw [if_pos rfl, unwrapped, Raised.soleFailure_of_leaves sole]
    simp only [if_neg other]
  | false =>
    cases group with
    | single object =>
      rw [Raised.leaves, List.singleton_inj] at sole
      rw [sole]
      rfl
    | group object first rest => cases wrapped

/-- Unwrapping a group of failures always ends: with the only failure that the group has, or with a
part of it that is a group of several exceptions and has all of its failures. A block whose own
exception is the only failure of the group that comes out is left by that exception as itself, and a
client that its only failure keeps from opening raises that failure as itself. -/
theorem sole_failure_unwrapped (object : ι) (first : Raised ι) (rest : List (Raised ι)) :
    let group := Raised.group object first rest
    (∃ enough, ∀ looks, enough ≤ looks →
        Raised.soleFailureWithin looks group = some group.soleFailure) ∧
      (group.soleFailure.isGroup = false ↔ group.leaves.length = 1) ∧
      (∀ leaf, group.leaves = [leaf] → group.soleFailure = .single leaf) ∧
      (group.soleFailure.isGroup = true →
        Raised.Within group group.soleFailure ∧ 2 ≤ group.soleFailure.exceptions.length ∧
          group.soleFailure.leaves = group.leaves) ∧
      (∀ (ρ : Type) (lifecycle : ρ) (exit : ρ → Ended ι Bool) (own : ι),
        exit lifecycle = .raised group → group.leaves = [own] →
        (aexit (some lifecycle) exit (some (.single own))).2 = .returned false ∧
          leavesBlock (some (.single own)) (aexit (some lifecycle) exit (some (.single own))).2 =
            some (.single own)) ∧
      ∀ (ρ : Type) (lifecycle : ρ) (enter : ρ → Ended ι Unit) (alreadyConnected leaf : ι),
        enter lifecycle = .raised group → group.leaves = [leaf] → object ≠ leaf →
        aenter none alreadyConnected lifecycle enter = (none, .raised (.single leaf)) := by
  intro group
  refine ⟨group.soleFailureWithin_of_enough, ?_, fun leaf => Raised.soleFailure_of_leaves,
    fun several => ⟨group.within_soleFailure, ?_, group.leaves_soleFailure⟩, ?_,
    fun ρ lifecycle enter alreadyConnected leaf fails sole apart =>
      aenter_of_sole fails sole fun _ => apart⟩
  · rcases group.soleFailure_cases with ⟨leaf, alone⟩ | ⟨outer, one, two, others, several⟩
    · -- What is left is a failure, and it is the only one.
      refine iff_of_true (by rw [alone]; rfl) ?_
      rw [← group.leaves_soleFailure, alone]
      rfl
    · refine iff_of_false (by simp [several, Raised.isGroup]) ?_
      have count := Raised.two_le_leaves outer one two others
      rw [← several, group.leaves_soleFailure] at count
      omega
  · rcases group.soleFailure_cases with ⟨leaf, alone⟩ | ⟨outer, one, two, others, left⟩
    · rw [alone] at several
      cases several
    · rw [left]
      exact Nat.le_add_left 2 others.length
  · intro ρ lifecycle exit own raised sole
    have alone : group.soleFailure = .single own := Raised.soleFailure_of_leaves sole
    -- The only failure is the object that the block raised.
    have same : (some (Raised.single own)).map Raised.object = some group.soleFailure.object := by
      rw [alone]
      rfl
    have returned : (aexit (some lifecycle) exit (some (.single own))).2 = .returned false := by
      simp only [aexit, raised, same, if_true]
      rfl
    exact ⟨returned, by rw [returned]; rfl⟩

/-- Two task groups around a block whose own exception is the only failure. -/
theorem sole_failure_unwrapped_nested :
    leavesBlock (some (.single 0)) (aexit (some ()) (fun _ =>
      .raised (.group 1 (.group 2 (.single 0) []) [])) (some (.single 0))).2 = some (.single 0) := by
  obtain ⟨-, -, -, -, leaves, -⟩ := sole_failure_unwrapped 1 (.group 2 (.single 0) []) []
  exact (leaves Unit () _ 0 rfl rfl).2

end CTrader.Client
