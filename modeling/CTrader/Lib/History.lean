/-! Event histories, newest first, and what has happened since a moment counted in events. -/

namespace History

variable {ε : Type}

/-- Whether an event of some kind has happened since a moment, the length of an older history. -/
def since (history : List ε) (moment : Nat) (kind : ε → Bool) : Bool :=
  (history.take (history.length - moment)).any kind

/-- Nothing has happened since the present moment. -/
@[simp] theorem since_now (history : List ε) (kind : ε → Bool) :
    since history history.length kind = false := by
  simp [since]

/-- One more event is the only thing that can change what has happened since a past moment. -/
theorem since_cons {history : List ε} {moment : Nat} (past : moment ≤ history.length)
    (event : ε) (kind : ε → Bool) :
    since (event :: history) moment kind = (kind event || since history moment kind) := by
  have grown : (event :: history).length - moment = history.length - moment + 1 := by
    simp only [List.length_cons]
    omega
  rw [since, grown, List.take_succ_cons, List.any_cons, since]

/-- What has happened since a moment has still happened after one more event. -/
theorem since_mono {history : List ε} {moment : Nat} {kind : ε → Bool} (event : ε)
    (happened : since history moment kind = true) : since (event :: history) moment kind = true := by
  by_cases past : moment ≤ history.length
  · rw [since_cons past, happened, Bool.or_true]
  · have : history.length - moment = 0 := by omega
    simp [since, this] at happened

/-- A split of a history after one more event either starts with it or splits the old one. -/
theorem cons_eq_split {event pivot : ε} {history later earlier : List ε}
    (split : event :: history = later ++ pivot :: earlier) :
    (later = [] ∧ event = pivot ∧ history = earlier) ∨
      ∃ rest, later = event :: rest ∧ history = rest ++ pivot :: earlier := by
  -- The pivot is the new event, or the new event stands in front of it.
  cases later with
  | nil =>
    simp only [List.nil_append, List.cons.injEq] at split
    exact .inl ⟨rfl, split⟩
  | cons first rest =>
    simp only [List.cons_append, List.cons.injEq] at split
    exact .inr ⟨rest, by rw [split.1], split.2⟩

/-- A history of one event splits at that event only. -/
theorem singleton_eq_split {event pivot : ε} {later earlier : List ε}
    (split : [event] = later ++ pivot :: earlier) : later = [] ∧ event = pivot := by
  rcases cons_eq_split split with ⟨first, same, -⟩ | ⟨rest, -, split⟩
  · exact ⟨first, same⟩
  · simp at split

/-- A kind of event of which no two stand in a list happens at most once. -/
theorem countP_le_one {kind : ε → Bool} {events : List ε}
    (apart : events.Pairwise fun event other => kind event = true → kind other = false) :
    events.countP kind ≤ 1 := by
  induction apart with
  | nil => simp
  | @cons event rest others _ ih =>
    -- The first of the kind forbids any later one.
    by_cases here : kind event = true
    · have nowhere : rest.countP kind = 0 :=
        List.countP_eq_zero.mpr fun other member => by simp [others other member here]
      simp [nowhere, here]
    · rw [List.countP_cons, if_neg here]
      exact ih

/-- What holds of every split of a list holds at its head, and of every split of the rest. -/
theorem forall_split_cons {P : List ε → ε → List ε → Prop} {first : ε} {rest : List ε} :
    (∀ before event after, first :: rest = before ++ event :: after → P before event after) ↔
      P [] first rest ∧
        ∀ before event after, rest = before ++ event :: after → P (first :: before) event after := by
  constructor
  · intro every
    exact ⟨every [] first rest rfl, fun before event after split =>
      every (first :: before) event after (by rw [split, List.cons_append])⟩
  · rintro ⟨head, tail⟩ before event after split
    -- The split is at the head or inside of the rest.
    rcases cons_eq_split split with ⟨rfl, rfl, rfl⟩ | ⟨inner, rfl, others⟩
    · exact head
    · exact tail inner event after others

/-- Whether every event of one kind comes where the marks in front of it, or their absence, allow it. -/
def guarded (kind mark : ε → Bool) (allowed : Bool → Bool) : Bool → List ε → Bool
  | _, [] => true
  | seen, event :: rest =>
    (!kind event || allowed seen) && guarded kind mark allowed (seen || mark event) rest

/-- The check of a list says of each event of the kind what its split says. -/
theorem guarded_iff (kind mark : ε → Bool) (allowed : Bool → Bool) (events : List ε) :
    ∀ seen, guarded kind mark allowed seen events = true ↔
      ∀ before event after, events = before ++ event :: after → kind event = true →
        allowed (seen || before.any mark) = true := by
  induction events with
  | nil => simp [guarded]
  | cons event rest ih =>
    intro seen
    rw [guarded, Bool.and_eq_true, ih, forall_split_cons]
    -- An event of the kind asks for a mark among those before it, which `seen` counts.
    cases kind event <;> simp [Bool.or_assoc]

/-- Events without a mark in front of a list leave its check as it is, if they pass it themselves. -/
theorem guarded_append {kind mark : ε → Bool} {allowed : Bool → Bool} {seen : Bool}
    {first : List ε} (unmarked : ∀ event ∈ first, mark event = false)
    (passes : ∀ event ∈ first, kind event = true → allowed seen = true) (rest : List ε) :
    guarded kind mark allowed seen (first ++ rest) = guarded kind mark allowed seen rest := by
  induction first with
  | nil => rfl
  | cons event others ih =>
    -- Each event passes, and none of them is a mark for those after it.
    have here : (!kind event || allowed seen) = true := by
      cases isKind : kind event with
      | false => rfl
      | true => exact passes event (.head _) isKind
    rw [List.cons_append, guarded, here, unmarked event (.head _), Bool.or_false, Bool.true_and]
    exact ih (fun other member => unmarked other (.tail _ member))
      fun other member => passes other (.tail _ member)

/-- A split of a grown history splits the old one, or what was added. -/
theorem append_eq_split {new history later earlier : List ε} {event : ε}
    (split : new ++ history = later ++ event :: earlier) :
    (∃ rest, later = new ++ rest ∧ history = rest ++ event :: earlier) ∨
      ∃ rest, new = later ++ event :: rest ∧ earlier = rest ++ history := by
  -- Where the event stands decides on which side of the seam the split is.
  rcases List.append_eq_append_iff.mp split with ⟨rest, grown, old⟩ | ⟨rest, grown, old⟩
  · exact .inl ⟨rest, grown, old⟩
  · cases rest with
    | nil =>
      refine .inl ⟨[], ?_, ?_⟩
      · simpa using grown.symm
      · simpa using old.symm
    | cons first rest =>
      simp only [List.cons_append, List.cons.injEq] at old
      exact .inr ⟨rest, by rw [grown, old.1], old.2⟩

/-- A history splits in one way only at the latest event of a kind. -/
theorem split_unique {kind : ε → Prop} {later later' earlier earlier' : List ε} {event event' : ε}
    (split : later ++ event :: earlier = later' ++ event' :: earlier') (isKind : kind event)
    (isKind' : kind event') (latest : ∀ recent ∈ later, ¬kind recent)
    (latest' : ∀ recent ∈ later', ¬kind recent) : later = later' ∧ event = event' := by
  rcases append_eq_split split with ⟨rest, same, inner⟩ | ⟨rest, same, -⟩
  · rcases cons_eq_split inner with ⟨rfl, equal, -⟩ | ⟨more, rfl, -⟩
    · exact ⟨by rw [same, List.append_nil], equal⟩
    · -- The later split would pass over the event of the kind.
      exact absurd isKind (latest' event (same ▸ List.mem_append_right _ (.head _)))
  · exact absurd isKind' (latest event' (same ▸ List.mem_append_right _ (.head _)))

/-- What has happened since the moment of an event is that event and everything after it. -/
theorem since_split (later earlier : List ε) (event : ε) (kind : ε → Bool) :
    since (later ++ event :: earlier) earlier.length kind = (later.any kind || kind event) := by
  have recent : (later ++ event :: earlier).length - earlier.length = later.length + 1 := by
    simp only [List.length_append, List.length_cons]
    omega
  rw [since, recent, List.take_append, List.take_of_length_le (Nat.le_succ _)]
  simp

end History
