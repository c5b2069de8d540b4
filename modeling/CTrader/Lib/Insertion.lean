import CTrader.Lib.Dict

/-! The order in which the keys of a dictionary were inserted, each since it was last removed. -/

namespace Dict

variable {κ α β : Type}

/-- Replacing the values leaves every key in its place. -/
theorem keys_mapValues (d : Dict κ α) (f : α → β) : (d.mapValues f).keys = d.keys := by
  simp only [keys, mapValues, List.map_map]
  rfl

/-- What an operation on a dictionary does to its keys. -/
inductive Touch (κ : Type)
  | write (key : κ)
  | erase (key : κ)
  | keep

variable [DecidableEq κ]

/-- The keys after an operation. -/
def Touch.keysAfter (touch : Touch κ) (keys : List κ) : List κ :=
  match touch with
  | .write key => if key ∈ keys then keys else keys ++ [key]
  | .erase gone => keys.filter fun key => key ≠ gone
  | .keep => keys

/-- The number of the operation that inserted a key since its last removal, newest first. -/
def insertedAt (key : κ) : List (Touch κ) → Option Nat
  | [] => none
  | .write written :: earlier =>
    match insertedAt key earlier with
    | some moment => some moment
    | none => if written = key then some earlier.length else none
  | .erase gone :: earlier => if gone = key then none else insertedAt key earlier
  | .keep :: earlier => insertedAt key earlier

/-- Whether one key was inserted before another. -/
def InsertedBefore (touches : List (Touch κ)) (first second : κ) : Prop :=
  ∃ m n, insertedAt first touches = some m ∧ insertedAt second touches = some n ∧ m < n

/-- Keys that are exactly those inserted and not removed since, in the order of their insertion. -/
structure InOrder (keys : List κ) (touches : List (Touch κ)) : Prop where
  listed : ∀ key, key ∈ keys ↔ (insertedAt key touches).isSome
  ordered : keys.Pairwise (InsertedBefore touches)

section Steps

variable {key : κ} {touches : List (Touch κ)} {moment : Nat}

/-- A key that was inserted stays at its moment when any key is written. -/
theorem insertedAt_write_of_inserted (inserted : insertedAt key touches = some moment) (written : κ) :
    insertedAt key (.write written :: touches) = some moment := by
  simp only [insertedAt, inserted]

/-- A key that is not there is inserted when it is written, and only then. -/
theorem insertedAt_write_of_absent (absent : insertedAt key touches = none) (written : κ) :
    insertedAt key (.write written :: touches) =
      if written = key then some touches.length else none := by
  simp only [insertedAt, absent]

/-- A removal of another key leaves a key at its moment. -/
theorem insertedAt_erase_of_ne {gone : κ} (other : key ≠ gone) :
    insertedAt key (.erase gone :: touches) = insertedAt key touches := by
  rw [insertedAt, if_neg (Ne.symm other)]

/-- An insertion is one of the operations so far. -/
theorem insertedAt_lt (inserted : insertedAt key touches = some moment) :
    moment < touches.length := by
  induction touches with
  | nil => cases inserted
  | cons touch earlier ih =>
    rw [List.length_cons]
    -- Only the newest operation can be the one, or the key was inserted before it.
    cases touch with
    | write written =>
      cases before : insertedAt key earlier with
      | some old =>
        -- A key that is there already keeps its moment.
        rw [insertedAt_write_of_inserted before] at inserted
        have := ih (before.trans inserted)
        omega
      | none =>
        rw [insertedAt_write_of_absent before] at inserted
        split at inserted
        · cases inserted
          -- The newest operation is the insertion.
          omega
        · cases inserted
    | erase gone =>
      rw [insertedAt] at inserted
      split at inserted
      · cases inserted
      · have := ih inserted
        omega
    | keep =>
      have := ih inserted
      omega

end Steps

/-- With no operation there is no key. -/
theorem inOrder_nil : InOrder ([] : List κ) [] :=
  ⟨fun _ => ⟨nofun, nofun⟩, .nil⟩

/-- A write leaves every key at its place, and puts a new one behind the others. -/
theorem InOrder.write {keys : List κ} {touches : List (Touch κ)} (inOrder : InOrder keys touches)
    (key : κ) : InOrder ((Touch.write key).keysAfter keys) (.write key :: touches) := by
  -- What was inserted before one moment or the other still was.
  have still {first second : κ} (before : InsertedBefore touches first second) :
      InsertedBefore (.write key :: touches) first second := by
    obtain ⟨m, n, first, second, less⟩ := before
    exact ⟨m, n, insertedAt_write_of_inserted first key, insertedAt_write_of_inserted second key, less⟩
  have known (other : κ) : (insertedAt other (.write key :: touches)).isSome ↔
      other ∈ keys ∨ other = key := by
    rw [inOrder.listed]
    cases before : insertedAt other touches with
    | some moment => simp [insertedAt_write_of_inserted before]
    | none =>
      rw [insertedAt_write_of_absent before]
      by_cases same : key = other
      · simp [same]
      · simp [same, Ne.symm same]
  by_cases present : key ∈ keys
  · -- A key that is there keeps its place, and nothing moves.
    rw [Touch.keysAfter, if_pos present]
    refine ⟨fun other => ?_, inOrder.ordered.imp still⟩
    rw [known]
    exact ⟨.inl, fun either => either.elim id fun same => same ▸ present⟩
  · have absent : insertedAt key touches = none :=
      Option.not_isSome_iff_eq_none.mp fun inserted => present ((inOrder.listed key).mpr inserted)
    rw [Touch.keysAfter, if_neg present]
    refine ⟨fun other => ?_, List.pairwise_append.mpr ⟨inOrder.ordered.imp still,
      List.pairwise_singleton _ _, fun first listed second last => ?_⟩⟩
    · rw [known, List.mem_append, List.mem_singleton]
    · -- The new key is inserted now, and every other one was inserted before.
      obtain rfl := List.mem_singleton.mp last
      obtain ⟨moment, inserted⟩ := Option.isSome_iff_exists.mp ((inOrder.listed first).mp listed)
      refine ⟨moment, touches.length, insertedAt_write_of_inserted inserted second, ?_,
        insertedAt_lt inserted⟩
      rw [insertedAt_write_of_absent absent, if_pos rfl]

/-- A removal takes one key out from among the others. -/
theorem InOrder.erase {keys : List κ} {touches : List (Touch κ)} (inOrder : InOrder keys touches)
    (gone : κ) : InOrder ((Touch.erase gone).keysAfter keys) (.erase gone :: touches) := by
  rw [Touch.keysAfter]
  constructor
  · intro key
    rw [List.mem_filter, inOrder.listed, decide_eq_true_eq]
    by_cases same : key = gone
    · -- The key that goes is not inserted any longer.
      subst same
      simp [insertedAt]
    · rw [insertedAt_erase_of_ne same]
      exact and_iff_left same
  · -- Two keys that stay were inserted when they were before.
    refine (inOrder.ordered.filter _).imp_of_mem fun {first second} one two before => ?_
    obtain ⟨m, n, firstAt, secondAt, less⟩ := before
    have stays {key : κ} (member : key ∈ keys.filter fun key => key ≠ gone) : key ≠ gone := by
      simpa using (List.mem_filter.mp member).2
    refine ⟨m, n, ?_, ?_, less⟩
    · rw [insertedAt_erase_of_ne (stays one)]
      exact firstAt
    · rw [insertedAt_erase_of_ne (stays two)]
      exact secondAt

/-- Every operation keeps the keys in the order of their insertion. -/
theorem InOrder.touch {keys : List κ} {touches : List (Touch κ)} (inOrder : InOrder keys touches)
    (touch : Touch κ) : InOrder (touch.keysAfter keys) (touch :: touches) := by
  cases touch with
  | write key => exact inOrder.write key
  | erase gone => exact inOrder.erase gone
  | keep => exact ⟨inOrder.listed, inOrder.ordered⟩

/-- A written key is at its old place, or else at the end. -/
theorem keys_set (d : Dict κ α) (key : κ) (value : α) :
    (d.set key value).keys = (Touch.write key).keysAfter d.keys :=
  write_keys key value d.entries

/-- A written key that was there already leaves the keys as they are. -/
theorem keys_set_of_found {d : Dict κ α} {key : κ} {old : α} (found : d.get? key = some old)
    (value : α) : (d.set key value).keys = d.keys := by
  rw [keys_set, Touch.keysAfter, if_pos (d.mem_keys_iff.mpr ⟨old, found⟩)]

/-- A removal takes its key out, and leaves the others in their places. -/
theorem keys_erase (d : Dict κ α) (key : κ) :
    (d.erase key).keys = (Touch.erase key).keysAfter d.keys := by
  simp only [keys, erase, Touch.keysAfter, List.filter_map]
  rfl

end Dict
