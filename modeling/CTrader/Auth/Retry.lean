import CTrader.Auth.Passes

/-! Failed refreshes: when the next pass of the refresher tries the account again. -/

namespace CTrader.Auth

/-- The reading of the wall clock that the refresher last decided by. -/
def lastCheck : List Event → Option Binary64
  | [] => none
  | .checked _ _ time _ :: _ => some time
  | _ :: earlier => lastCheck earlier

/-- Whether a pair is within the refresh buffer at the reading last decided by. -/
def dueAtLastCheck (cfg : Config) (passes : List Event) (credentials : AccountCredentials) : Bool :=
  (lastCheck passes).any fun time => credentials.expiresSoon cfg.refresh.bufferSeconds time

/-- Whether the wall clock was not set back since the refresher last decided by it. -/
def runsForward (passes : List Event) : Label → Bool
  | .refresh (.check time) => (lastCheck passes).all fun last => last.le time
  | _ => true

/-- The condition on a step: a failed refresh leaves a pair that is due, and the clock runs on. -/
def LeavesDue (cfg : Config) (s : State) (label : Label) : Prop :=
  runsForward s.passes label = true ∧
    (s.endsRefresh cfg label).all (fun ended => ended.2.all (dueAtLastCheck cfg s.passes)) = true

instance (cfg : Config) (s : State) (label : Label) : Decidable (LeavesDue cfg s label) :=
  inferInstanceAs (Decidable (_ ∧ _))

/-- Whether an event begins a pass. -/
def Event.beginsPass : Event → Prop
  | .passBegan _ => True
  | _ => False

/-- Whether some event decides about an entry of a snapshot. -/
def DecidedIn (during : List Event) (entry : Int × AccountCredentials) : Prop :=
  ∃ time due, .checked entry.1 entry.2 time due ∈ during

/-- What is known of the passes, newest first, and of the one under way. -/
structure PassesHold (cfg : Config) (passes : List Event)
    (rest : Option (List (Int × AccountCredentials))) : Prop where
  -- Whatever pair a failed refresh left is due since.
  overdue : ∀ {later earlier account credentials},
    passes = later ++ .refreshFailed account (some credentials) :: earlier →
    dueAtLastCheck cfg passes credentials = true
  -- So every later check of that pair finds it due.
  retried : ∀ {later between earlier account credentials time due},
    passes = later ++ .checked account credentials time due ::
      (between ++ .refreshFailed account (some credentials) :: earlier) → due = true
  -- The pass under way has decided about every entry that is not ahead of it.
  underway : ∀ {ahead}, rest = some ahead → ∃ during snapshot before,
    passes = during ++ .passBegan snapshot :: before ∧ (∀ event ∈ during, ¬event.beginsPass) ∧
      ∀ entry ∈ snapshot, entry ∈ ahead ∨ DecidedIn during entry
  -- A pass that came to its end has decided about every entry.
  completed : ∀ {later during snapshot before},
    passes = later ++ .passEnded :: (during ++ .passBegan snapshot :: before) →
    (∀ event ∈ during, ¬event.beginsPass) → ∀ entry ∈ snapshot, DecidedIn during entry

namespace PassesHold

variable {cfg : Config} {passes : List Event} {rest : Option (List (Int × AccountCredentials))}

/-- Before the first pass there is nothing to know. -/
theorem nil : PassesHold cfg [] none where
  overdue := fun split => by simp at split
  retried := fun split => by simp at split
  underway := fun within => by cases within
  completed := fun split => by simp at split

/-- A pass that is given up leaves what is known of the others. -/
theorem abandon (holds : PassesHold cfg passes rest) : PassesHold cfg passes none where
  overdue := holds.overdue
  retried := holds.retried
  underway := fun within => by cases within
  completed := holds.completed

/-- A pair that is within the buffer stays so while the clock runs on. -/
theorem expiresSoon_mono {credentials : AccountCredentials} {buffer time later : Binary64}
    (due : credentials.expiresSoon buffer time = true) (forward : time.le later = true) :
    credentials.expiresSoon buffer later = true :=
  Binary64.le_trans due forward

/-- What one more event of a pass has to bring along. -/
theorem cons (holds : PassesHold cfg passes rest) (event : Event)
    (left : ∀ account credentials, event = .refreshFailed account (some credentials) →
      dueAtLastCheck cfg passes credentials = true)
    (kept : ∀ credentials, dueAtLastCheck cfg passes credentials = true →
      dueAtLastCheck cfg (event :: passes) credentials = true)
    (decided : ∀ account credentials time due, event = .checked account credentials time due →
      dueAtLastCheck cfg passes credentials = true → due = true)
    (ended : event = .passEnded → rest = some [])
    {onward : Option (List (Int × AccountCredentials))}
    (underway : ∀ {ahead}, onward = some ahead → ∃ during snapshot before,
      event :: passes = during ++ .passBegan snapshot :: before ∧
        (∀ event ∈ during, ¬event.beginsPass) ∧
        ∀ entry ∈ snapshot, entry ∈ ahead ∨ DecidedIn during entry) :
    PassesHold cfg (event :: passes) onward where
  overdue := by
    intro later earlier account credentials split
    rcases History.cons_eq_split split with ⟨-, same, -⟩ | ⟨_, -, old⟩
    · exact kept credentials (left account credentials same)
    · exact kept credentials (holds.overdue old)
  retried := by
    intro later between earlier account credentials time due split
    rcases History.cons_eq_split split with ⟨-, same, old⟩ | ⟨_, -, old⟩
    · exact decided account credentials time due same (holds.overdue old)
    · exact holds.retried old
  underway := underway
  completed := by
    intro later during snapshot before split single
    rcases History.cons_eq_split split with ⟨-, same, old⟩ | ⟨_, -, old⟩
    · obtain ⟨recent, taken, past, found, latest, reached⟩ := holds.underway (ended same)
      -- The pass that ended is the one that was under way.
      rw [found] at old
      obtain ⟨rfl, equal⟩ := History.split_unique old trivial trivial latest single
      cases equal
      intro entry member
      exact (reached entry member).resolve_left (by simp)
    · exact holds.completed old single

/-- A new pass has everything ahead of it. -/
theorem begins (holds : PassesHold cfg passes rest) (snapshot : List (Int × AccountCredentials)) :
    PassesHold cfg (.passBegan snapshot :: passes) (some snapshot) := by
  refine holds.cons (.passBegan snapshot) (fun _ _ same => by cases same) (fun _ due => due)
    (fun _ _ _ _ same => by cases same) (fun same => by cases same) fun within => ?_
  cases within
  exact ⟨[], snapshot, passes, rfl, by simp, fun entry member => .inl member⟩

/-- A pass at the end of its snapshot has decided about all of it. -/
theorem ends (holds : PassesHold cfg passes (some [])) :
    PassesHold cfg (.passEnded :: passes) none :=
  holds.cons .passEnded (fun _ _ same => by cases same) (fun _ due => due)
    (fun _ _ _ _ same => by cases same) (fun _ => rfl) fun within => by cases within

/-- A check at a later reading finds every pair due that a failed refresh left. -/
theorem checks {account : Int} {credentials : AccountCredentials}
    {ahead : List (Int × AccountCredentials)} {time : Binary64}
    (holds : PassesHold cfg passes (some ((account, credentials) :: ahead)))
    (forward : (lastCheck passes).all (fun last => last.le time) = true) :
    PassesHold cfg (.checked account credentials time
      (credentials.expiresSoon cfg.refresh.bufferSeconds time) :: passes) (some ahead) := by
  -- A pair due at one reading is due at every later one.
  have later (pair : AccountCredentials) (due : dueAtLastCheck cfg passes pair = true) :
      pair.expiresSoon cfg.refresh.bufferSeconds time = true := by
    unfold dueAtLastCheck at due
    cases found : lastCheck passes with
    | none => simp [found] at due
    | some last =>
      simp only [found, Option.any_some, Option.all_some] at due forward
      exact expiresSoon_mono due forward
  refine holds.cons (.checked ..) (fun _ _ same => by cases same) (fun pair due => ?_) ?_
    (fun same => by cases same) fun within => ?_
  · exact later pair due
  · intro _ _ _ _ same due
    cases same
    exact later _ due
  · -- The entry that is checked leaves the list ahead and is known to be decided.
    cases within
    obtain ⟨during, snapshot, before, found, latest, decided⟩ := holds.underway rfl
    refine ⟨_ :: during, snapshot, before, congrArg _ found, ?_, fun entry member => ?_⟩
    · intro event member
      rcases List.mem_cons.mp member with rfl | member
      · exact id
      · exact latest event member
    · rcases decided entry member with inAhead | ⟨moment, due, known⟩
      · rcases List.mem_cons.mp inAhead with rfl | inAhead
        · exact .inr ⟨time, _, .head _⟩
        · exact .inl inAhead
      · exact .inr ⟨moment, due, .tail _ known⟩

/-- A refresh that fails with a due pair in the store adds to what is overdue. -/
theorem fails (holds : PassesHold cfg passes rest) (account : Int) {left : Option AccountCredentials}
    (due : left.all (dueAtLastCheck cfg passes) = true) :
    PassesHold cfg (.refreshFailed account left :: passes) rest := by
  refine holds.cons (.refreshFailed account left) ?_ (fun _ due => due) (fun _ _ _ _ same => by cases same)
    (fun same => by cases same) fun within => ?_
  · rintro _ credentials same
    cases same
    exact due
  · -- A failure decides nothing about the entries ahead.
    obtain ⟨during, snapshot, before, found, latest, decided⟩ := holds.underway within
    refine ⟨_ :: during, snapshot, before, congrArg _ found, ?_, fun entry member => ?_⟩
    · intro event member
      rcases List.mem_cons.mp member with rfl | member
      · exact id
      · exact latest event member
    · rcases decided entry member with inAhead | ⟨moment, due, known⟩
      · exact .inl inAhead
      · exact .inr ⟨moment, due, .tail _ known⟩

end PassesHold

/-- Every pass that finds the pair a failed refresh left in the store calls `_refresh_account` for
the account again before it ends. -/
def State.RetriesFailed (s : State) : Prop :=
  ∀ later during between earlier snapshot account credentials,
    s.passes = later ++ .passEnded :: (during ++ .passBegan snapshot ::
      (between ++ .refreshFailed account (some credentials) :: earlier)) →
    (∀ event ∈ during, ¬event.beginsPass) → (account, credentials) ∈ snapshot →
    ∃ time, .checked account credentials time true ∈ during

/-- In every run that meets the condition, failed refreshes are tried again. -/
theorem failed_refresh_retried {cfg : Config} {s : State}
    (reached : (machine cfg).Reaches (LeavesDue cfg) s) : s.RetriesFailed := by
  intro later during between earlier snapshot account credentials split single held
  have holds : PassesHold cfg s.passes s.refresher.rest := by
    refine reached.invariant (P := fun s => PassesHold cfg s.passes s.refresher.rest) .nil
      fun s label t _ holds met taken => ?_
    cases State.step_pass taken with
    | aside passes rest =>
      rw [passes]
      rcases rest with rest | rest
      · rw [rest]
        exact holds
      · rw [rest]
        exact holds.abandon
    | begins passes rest =>
      rw [passes, rest]
      exact holds.begins s.store.items
    | ends passes done rest =>
      rw [passes, rest]
      exact (done ▸ holds).ends
    | checks time account credentials ahead label next passes rest =>
      subst label
      rw [passes, rest]
      exact (next ▸ holds).checks met.1
    | fails account left ended passes rest =>
      rw [passes, rest]
      have due := met.2
      rw [ended] at due
      exact holds.fails account due
  obtain ⟨time, due, known⟩ := holds.completed split single (account, credentials) held
  -- The decision of that pass lies after the failure.
  obtain ⟨recent, past, found⟩ := List.append_of_mem known
  have arranged : s.passes = (later ++ .passEnded :: recent) ++ .checked account credentials time due ::
      ((past ++ .passBegan snapshot :: between) ++
        .refreshFailed account (some credentials) :: earlier) := by
    rw [split, found]
    simp
  rw [holds.retried arranged] at known
  exact ⟨time, known⟩

/-- A pass over the only account, which is found due and whose refresh request times out. -/
def Label.pass (time : Binary64) : List Label :=
  [.refresh .wake, .refresh (.check time), .refresh (.reply (.failed .connectionTimeout) time time),
    .refresh .reported, .refresh (.check time)]

/-- A refresh whose request times out is tried again by the next pass. -/
theorem failed_refresh_retried_timeout : ∃ s, (machine {}).Reaches (LeavesDue {}) s ∧
    s.passes = [.passEnded, .refreshFailed 7 (some granted), .checked 7 granted (.round 860) true,
      .passBegan [(7, granted)], .passEnded, .refreshFailed 7 (some granted),
      .checked 7 granted (.round 800) true, .passBegan [(7, granted)]] ∧ s.RetriesFailed := by
  have found : ∃ s, (machine {}).Reaches (LeavesDue {}) s ∧
      s.passes = [.passEnded, .refreshFailed 7 (some granted), .checked 7 granted (.round 860) true,
        .passBegan [(7, granted)], .passEnded, .refreshFailed 7 (some granted),
        .checked 7 granted (.round 800) true, .passBegan [(7, granted)]] :=
    Machine.exists_reaches
      -- Two passes a minute apart, and the request of the first one times out.
      (Label.signIn 0 granted ++ [.refresh .serve] ++ Label.pass (.round 800) ++
        Label.pass (.round 860))
      (by decide +kernel)
  obtain ⟨s, reached, passes⟩ := found
  exact ⟨s, reached, passes, failed_refresh_retried reached⟩

/-- A refresh whose pair cannot be saved leaves that pair in the store, and is not tried again. -/
theorem failed_refresh_forgotten : ∃ s, (machine { tokenStore := true }).Reachable s ∧
    ¬s.RetriesFailed := by
  have found : ∃ s, (machine { tokenStore := true }).Reachable s ∧
      s.passes = [.passEnded, .checked 7 reissued (.round 860) false, .passBegan [(7, reissued)],
        .passEnded, .refreshFailed 7 (some reissued), .checked 7 granted (.round 800) true,
        .passBegan [(7, granted)]] :=
    Machine.exists_reaches
      (Label.signIn 0 granted ++ Label.refreshing ++
        [.refresh (.saveRaises (.request (.other "OSError"))), .refresh .reported,
          .refresh (.check (.round 800)), .refresh .wake, .refresh (.check (.round 860)),
          .refresh (.check (.round 860))])
      (by decide +kernel)
  obtain ⟨s, reached, passes⟩ := found
  refine ⟨s, reached, fun retries => ?_⟩
  obtain ⟨time, tried⟩ := retries [] [.checked 7 reissued (.round 860) false] [.passEnded] _ _ 7
    reissued passes (by simp [Event.beginsPass]) (.head _)
  -- The only decision of that pass was not to refresh.
  simp at tried

end CTrader.Auth
