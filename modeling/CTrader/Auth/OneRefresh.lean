import CTrader.Auth.Disconnects
import CTrader.Auth.Refreshes

/-! What a call of `_refresh_account` does, in whatever order the other tasks run beside it. -/

namespace CTrader.Auth

namespace RefreshAct

/-- Whether a reply is heard after which no other request may be sent. -/
@[simp] def isFinal : RefreshAct → Bool
  | .heard reply => !reply.allowsRetry
  | _ => false

/-- Whether `TokenStore.save` returned. -/
@[simp] def isSaved : RefreshAct → Bool
  | .saved => true
  | _ => false

/-- Whether `establish` is called. -/
@[simp] def isEstablishing : RefreshAct → Bool
  | .establishing _ => true
  | _ => false

/-- Whether `establish` recorded the account as authorized. -/
@[simp] def isEstablished : RefreshAct → Bool
  | .established => true
  | _ => false

/-- Whether `TokenRefreshError` is raised. -/
@[simp] def isRaised : RefreshAct → Bool
  | .raised => true
  | _ => false

end RefreshAct

/-- The attempts whose errors allowed another one. -/
def asked (refreshToken : String) (errors : List APIError) : List RefreshAct :=
  errors.flatMap fun error => [.sent refreshToken, .heard (.refused error)]

/-- The attempt that brought a new pair, which replaced the old one. -/
def obtained (held : AccountCredentials) (issue : Issue) : List RefreshAct :=
  [.sent held.refreshToken, .heard issue.reply, .replaced (some (issue.pair held))]

/-- The new pair was given to the token store, if there is one. -/
def stored (cfg : Config) (fresh : AccountCredentials) : List RefreshAct :=
  if cfg.tokenStore then [.saving fresh, .saved] else []

/-- How far a refresh has come. -/
inductive RefreshEnd
  | underway
  | failed
  | done

/-- What a refresh has done after the attempts that only failed. -/
inductive RefreshTail (cfg : Config) (held : AccountCredentials) :
    RefreshEnd → List RefreshAct → Prop
  | waiting : RefreshTail cfg held .underway []
  | asking : RefreshTail cfg held .underway [.sent held.refreshToken]
  | saving (issue : Issue) (store : cfg.tokenStore = true) :
      RefreshTail cfg held .underway (obtained held issue ++ [.saving (issue.pair held)])
  | establishing (issue : Issue) :
      RefreshTail cfg held .underway
        (obtained held issue ++ stored cfg (issue.pair held) ++ [.establishing (issue.pair held)])
  | refused {reply : RefreshReply} (failed : reply.isIssued = false) :
      RefreshTail cfg held .failed [.sent held.refreshToken, .heard reply, .raised]
  | unsaved (issue : Issue) (store : cfg.tokenStore = true) :
      RefreshTail cfg held .failed
        (obtained held issue ++ [.saving (issue.pair held), .saveRaised, .raised])
  | rejected (issue : Issue) :
      RefreshTail cfg held .failed
        (obtained held issue ++ stored cfg (issue.pair held) ++
          [.establishing (issue.pair held), .raised])
  | established (issue : Issue) :
      RefreshTail cfg held .done
        (obtained held issue ++ stored cfg (issue.pair held) ++
          [.establishing (issue.pair held), .established])

namespace RefreshRecord

/-- A record tells of the failed attempts, and of what came after them. -/
structure Tells (cfg : Config) (record : RefreshRecord) (held : AccountCredentials)
    (errors : List APIError) (tail : List RefreshAct) : Prop where
  pair : record.held = some held
  named : held.accountId = record.account
  curable : ∀ error ∈ errors, error.isTokenFailure = false
  within : (errors.length : Int) < cfg.refresh.retryAttempts
  acts : record.acts = asked held.refreshToken errors ++ tail

/-- A record of a call that is over: the account was not held, or the refresh came to an end. -/
def Over (cfg : Config) (record : RefreshRecord) : Prop :=
  record.held = none ∧ record.acts = [] ∨
    ∃ held errors ending tail, record.Tells cfg held errors tail ∧
      RefreshTail cfg held ending tail ∧
      (ending = .underway → record.cancelled = true)

/-- What a position of the refresher has to do with the record. -/
def At (cfg : Config) (record : RefreshRecord) : Refresher → Prop
  | .requesting account held attempt _ _ =>
    record.account = account ∧ record.cancelled = false ∧ ∃ errors : List APIError,
      attempt = errors.length + 1 ∧ record.Tells cfg held errors [.sent held.refreshToken]
  | .backingOff account held attempt _ _ =>
    record.account = account ∧ record.cancelled = false ∧ ∃ errors : List APIError,
      attempt = errors.length ∧ record.Tells cfg held errors []
  | .saving account held _ _ fresh _ _ =>
    record.account = account ∧ record.cancelled = false ∧ cfg.tokenStore = true ∧
      ∃ errors issue, fresh = issue.pair held ∧
        record.Tells cfg held errors (obtained held issue ++ [.saving (issue.pair held)])
  | .establishing account call _ =>
    record.account = account ∧ record.cancelled = false ∧
      ∃ held errors issue, call.Renews (issue.pair held) ∧
        record.Tells cfg held errors
          (obtained held issue ++ stored cfg (issue.pair held) ++ [.establishing (issue.pair held)])
  | _ => record.Over cfg

end RefreshRecord

/-- One call of `_refresh_account`, step by step, as the record has it. -/
structure OneRefresh (cfg : Config) (s : State) (record : RefreshRecord) : Prop where
  /-- No more requests than attempts, each with the refresh token held when the call began. -/
  few : ((record.acts.filterMap RefreshAct.token?).length : Int) ≤ cfg.refresh.retryAttempts
  token : ∀ refreshToken ∈ record.acts.filterMap RefreshAct.token?,
    record.held.map AccountCredentials.refreshToken = some refreshToken
  /-- No request after a success, a token failure or an exception that is no `APIError`. -/
  last : ∀ before act after, record.acts = before ++ act :: after → act.token?.isSome = true →
    before.any RefreshAct.isFinal = false
  /-- The stored credentials are replaced once if a success reply came, and otherwise never. -/
  replaced : record.acts.countP RefreshAct.isReplaced =
    if record.acts.any RefreshAct.isSuccess then 1 else 0
  /-- What replaces the pair that the store held is made of it and of the success reply, and is what the
  store holds for the account from then on. -/
  kept : ∀ kept, .replaced kept ∈ record.acts → ∃ (held : AccountCredentials) (issue : Issue),
    record.held = some held ∧ held.accountId = record.account ∧
    .heard issue.reply ∈ record.acts ∧ kept = some (issue.pair held)
  /-- No other pair is saved or used. -/
  used : ∀ pair, .saving pair ∈ record.acts ∨ .establishing pair ∈ record.acts →
    .replaced (some pair) ∈ record.acts
  beforeSave : ∀ before act after, record.acts = before ++ act :: after → act.isSaving = true →
    before.any RefreshAct.isReplaced = true
  savedOnce : record.acts.countP RefreshAct.isSaving ≤ 1
  afterSave : cfg.tokenStore = true → ∀ before act after, record.acts = before ++ act :: after →
    act.isEstablishing = true → before.any RefreshAct.isSaved = true
  /-- A call that ends of itself raises if and only if the account was held and something failed. -/
  raised : s.refresher.refreshing = none → record.cancelled = false →
    (record.acts.any RefreshAct.isRaised = true ↔ record.held.isSome = true ∧
      ¬ (record.acts.any RefreshAct.isSuccess = true ∧
        (cfg.tokenStore = true → record.acts.any RefreshAct.isSaved = true) ∧
        record.acts.any RefreshAct.isEstablished = true))
  running : ∀ account, s.refresher.refreshing = some account → record.account = account
  /-- However the call ends, the account is not refreshing any more and nobody waits for it. -/
  left : s.refresher.refreshing = none → s.store.isRefreshing record.account = false ∧
    ∀ task event, s.handlers.get? task = some (.waiting record.account event) →
      s.store.isSettled event = true

section Shapes

variable {cfg : Config} {held : AccountCredentials} {refreshToken : String} {ending : RefreshEnd}
  {tail : List RefreshAct}

/-- What the attempts that only failed are made of. -/
theorem mem_asked {errors : List APIError} {act : RefreshAct} :
    act ∈ asked refreshToken errors ↔
      ∃ error ∈ errors, act = .sent refreshToken ∨ act = .heard (.refused error) := by
  simp [asked]

/-- Each attempt that only failed sent one request. -/
theorem asked_sends (refreshToken : String) (errors : List APIError) :
    (asked refreshToken errors).filterMap RefreshAct.token? =
      List.replicate errors.length refreshToken := by
  induction errors with
  | nil => rfl
  | cons error rest ih =>
    rw [asked, List.flatMap_cons, List.filterMap_append, List.length_cons, List.replicate_succ]
    exact congrArg (refreshToken :: ·) ih

/-- Nothing but requests and refusals happens in an attempt that only failed. -/
theorem asked_quiet (refreshToken : String) {errors : List APIError} {kind : RefreshAct → Bool}
    (sends : ∀ token, kind (.sent token) = false)
    (hears : ∀ error ∈ errors, kind (.heard (.refused error)) = false) :
    ∀ act ∈ asked refreshToken errors, kind act = false := by
  intro act member
  obtain ⟨error, listed, rfl | rfl⟩ := mem_asked.mp member
  · exact sends _
  · exact hears error listed

/-- Attempts that only failed leave open what may come after them. -/
theorem guarded_asked {errors : List APIError} {kind mark : RefreshAct → Bool} {allowed : Bool → Bool}
    (unmarked : ∀ act ∈ asked refreshToken errors, mark act = false)
    (allows : allowed false = true ∨ ∀ act ∈ asked refreshToken errors, kind act = false) :
    History.guarded kind mark allowed false (asked refreshToken errors ++ tail) =
      History.guarded kind mark allowed false tail := by
  refine History.guarded_append unmarked (fun act member isKind => ?_) tail
  rcases allows with free | none
  · exact free
  · rw [none act member] at isKind
    cases isKind

/-- No request follows a final reply. -/
theorem RefreshTail.last (shape : RefreshTail cfg held ending tail) :
    History.guarded (fun act => act.token?.isSome) RefreshAct.isFinal not false tail = true := by
  by_cases store : cfg.tokenStore = true <;> cases shape <;>
    simp [obtained, stored, store, History.guarded]

/-- The stored credentials are replaced before the token store is called. -/
theorem RefreshTail.beforeSave (shape : RefreshTail cfg held ending tail) :
    History.guarded RefreshAct.isSaving RefreshAct.isReplaced id false tail = true := by
  by_cases store : cfg.tokenStore = true <;> cases shape <;>
    simp [obtained, stored, store, History.guarded]

/-- With a token store, `establish` is called after it returned. -/
theorem RefreshTail.afterSave (shape : RefreshTail cfg held ending tail)
    (store : cfg.tokenStore = true) :
    History.guarded RefreshAct.isEstablishing RefreshAct.isSaved id false tail = true := by
  cases shape <;> simp [obtained, stored, store, History.guarded]

/-- At most one more request is sent, with the same token. -/
theorem RefreshTail.sends (shape : RefreshTail cfg held ending tail) :
    (tail.filterMap RefreshAct.token?).length ≤ 1 ∧
      ∀ sent ∈ tail.filterMap RefreshAct.token?, sent = held.refreshToken := by
  by_cases store : cfg.tokenStore = true <;> cases shape <;> simp [obtained, stored, store]

/-- Credentials are replaced and the token store is called once at most, and a success is what they
are replaced for. -/
theorem RefreshTail.counts (shape : RefreshTail cfg held ending tail) :
    tail.countP RefreshAct.isReplaced = (if tail.any RefreshAct.isSuccess then 1 else 0) ∧
      tail.countP RefreshAct.isSaving ≤ 1 := by
  by_cases store : cfg.tokenStore = true <;> cases shape <;>
    simp_all [obtained, stored, List.countP_cons]

/-- The pair that replaces the old one is made of the reply. -/
theorem RefreshTail.kept (shape : RefreshTail cfg held ending tail)
    {kept : Option AccountCredentials} (replaced : .replaced kept ∈ tail) :
    ∃ issue : Issue, .heard issue.reply ∈ tail ∧ kept = some (issue.pair held) := by
  cases shape with
  | waiting | asking | refused failed => simp at replaced
  | saving issue store | unsaved issue store =>
    exact ⟨issue, by simp [obtained], by simpa [obtained] using replaced⟩
  | establishing issue | rejected issue | established issue =>
    refine ⟨issue, by simp [obtained], ?_⟩
    by_cases store : cfg.tokenStore = true <;> simpa [obtained, stored, store] using replaced

/-- The pair that is saved and used is the one that replaced the old one. -/
theorem RefreshTail.used (shape : RefreshTail cfg held ending tail) {pair : AccountCredentials}
    (uses : .saving pair ∈ tail ∨ .establishing pair ∈ tail) : .replaced (some pair) ∈ tail := by
  by_cases store : cfg.tokenStore = true <;> cases shape <;>
    simp_all [obtained, stored]

/-- An error is raised in a refresh that failed, and all goes well in one that is done. -/
theorem RefreshTail.raised (shape : RefreshTail cfg held ending tail)
    (ended : ending ≠ .underway) :
    tail.any RefreshAct.isRaised = true ↔
      ¬ (tail.any RefreshAct.isSuccess = true ∧
        (cfg.tokenStore = true → tail.any RefreshAct.isSaved = true) ∧
        tail.any RefreshAct.isEstablished = true) := by
  by_cases store : cfg.tokenStore = true <;> cases shape <;> simp_all [obtained, stored]

end Shapes

namespace RefreshRecord

variable {cfg : Config} {s t : State} {record : RefreshRecord}

/-- A record that tells of a refresh has what is done next at its end. -/
theorem Tells.moved {held : AccountCredentials} {errors : List APIError} {tail : List RefreshAct}
    (tells : record.Tells cfg held errors tail) (s : State) (label : Label) (acts : List RefreshAct) :
    (record.moved s label none acts).Tells cfg held errors (tail ++ acts) :=
  ⟨tells.pair, tells.named, tells.curable, tells.within,
    by simp [RefreshRecord.moved, tells.acts]⟩

/-- Where no refresh is in progress, the call of the record is over. -/
theorem at_iff_over {refresher : Refresher} (idle : refresher.refreshing = none) :
    record.At cfg refresher ↔ record.Over cfg := by
  cases refresher with
  | stopped | sleeping | checking | reporting => exact .rfl
  | requesting | backingOff | saving | establishing => cases idle

/-- Whatever a position of the refresher is, the record tells of no refresh or of one. -/
theorem At.tells {refresher : Refresher} (holds : record.At cfg refresher) :
    (record.held = none ∧ record.acts = []) ∨
      ∃ held errors ending tail, record.Tells cfg held errors tail ∧
        RefreshTail cfg held ending tail := by
  -- A call that is over has acted out one of the shapes, or has done nothing at all.
  have finished (past : record.Over cfg) : (record.held = none ∧ record.acts = []) ∨
      ∃ held errors ending tail, record.Tells cfg held errors tail ∧
        RefreshTail cfg held ending tail := by
    rcases past with none | ⟨held, errors, ending, tail, tells, shape, -⟩
    · exact .inl none
    · exact .inr ⟨held, errors, ending, tail, tells, shape⟩
  -- Wherever the refresher is within a call, its position says which part of a shape is behind it.
  cases refresher with
  | stopped | sleeping | checking | reporting => exact finished holds
  | requesting =>
    obtain ⟨-, -, errors, -, tells⟩ := holds
    exact .inr ⟨_, errors, _, _, tells, .asking⟩
  | backingOff =>
    obtain ⟨-, -, errors, -, tells⟩ := holds
    exact .inr ⟨_, errors, _, _, tells, .waiting⟩
  | saving account held attempt began fresh taken rest =>
    obtain ⟨-, -, store, errors, issue, -, tells⟩ := holds
    exact .inr ⟨held, errors, _, _, tells, .saving issue store⟩
  | establishing =>
    obtain ⟨-, -, held, errors, issue, -, tells⟩ := holds
    exact .inr ⟨held, errors, _, _, tells, .establishing issue⟩

/-- A refresh that is stopped midway leaves a record that says so. -/
theorem At.stopped {refresher : Refresher} {account : Int} (busy : refresher.refreshing = some account)
    (holds : record.At cfg refresher) :
    ({ record with cancelled := true } : RefreshRecord).Over cfg := by
  -- A refresher that is stopped in the middle leaves the part that it had acted out.
  obtain ⟨held, errors, tail, tells, shape⟩ : ∃ held errors tail,
      record.Tells cfg held errors tail ∧ RefreshTail cfg held .underway tail := by
    cases refresher with
    | stopped | sleeping | checking | reporting => cases busy
    | requesting =>
      obtain ⟨-, -, errors, -, tells⟩ := holds
      exact ⟨_, errors, _, tells, .asking⟩
    | backingOff =>
      obtain ⟨-, -, errors, -, tells⟩ := holds
      exact ⟨_, errors, _, tells, .waiting⟩
    | saving account held attempt began fresh taken rest =>
      obtain ⟨-, -, store, errors, issue, -, tells⟩ := holds
      exact ⟨held, errors, _, tells, .saving issue store⟩
    | establishing =>
      obtain ⟨-, -, held, errors, issue, -, tells⟩ := holds
      exact ⟨held, errors, _, tells, .establishing issue⟩
  exact .inr ⟨held, errors, .underway, tail,
    ⟨tells.pair, tells.named, tells.curable, tells.within, tells.acts⟩, shape, fun _ => rfl⟩

/-- One more attempt that only failed. -/
theorem asked_concat (refreshToken : String) (errors : List APIError) (error : APIError) :
    asked refreshToken (errors ++ [error]) =
      asked refreshToken errors ++ [.sent refreshToken, .heard (.refused error)] := by
  simp [asked]

/-- A call that has come to the end of a refresh is over. -/
theorem Tells.ends {held : AccountCredentials} {errors : List APIError} {tail : List RefreshAct}
    {ending : RefreshEnd} (tells : record.Tells cfg held errors tail)
    (shape : RefreshTail cfg held ending tail)
    (ended : ending ≠ .underway) : record.Over cfg :=
  .inr ⟨held, errors, ending, tail, tells, shape, fun going => absurd going ended⟩

/-- Every move of the refresher keeps the record in step with its position. -/
theorem At.move {label : Label} {called : Option Int} {acts : List RefreshAct}
    (attempts : 1 ≤ cfg.refresh.retryAttempts) (move : RefreshMove cfg s t label called acts)
    (holds : record.At cfg s.refresher) : (record.moved s label called acts).At cfg t.refresher := by
  -- The record of a call grows by what the move shows, and its position says which part that is.
  cases move with
  | idles before after kept =>
    rw [at_iff_over after]
    simpa [moved, before] using (at_iff_over before).mp holds
  | misses before absent after kept =>
    rw [at_iff_over after]
    exact .inl ⟨absent, rfl⟩
  | begins before found after store =>
    -- The call begins with the pair the store holds, before any request.
    rw [after]
    refine ⟨rfl, rfl, [], rfl, found, s.store.credentials_keyed found, nofun, ?_, rfl⟩
    exact Int.lt_of_lt_of_le Int.zero_lt_one attempts
  | @backsOff own held attempt began rest error time later before curable more after =>
    rw [before] at holds
    obtain ⟨account, going, errors, rfl, tells⟩ := holds
    rw [after]
    -- One more error that may pass is behind the call, and an attempt is left.
    refine ⟨account, by simp [moved, going, Label.stopsRefresher], errors ++ [error], by simp,
      tells.pair, tells.named, ?_, ?_, ?_⟩
    · intro other member
      rcases List.mem_append.mp member with earlier | last
      · exact tells.curable other earlier
      · exact List.mem_singleton.mp last ▸ curable
    · simpa using more
    · simp [moved, tells.acts, asked_concat]
  | retries before after =>
    rw [before] at holds
    obtain ⟨account, going, errors, rfl, tells⟩ := holds
    rw [after]
    -- The next attempt asks with the same refresh token.
    exact ⟨account, by simp [moved, going, Label.stopsRefresher], errors, rfl, tells.moved _ _ _⟩
  | givesUp before failed after left =>
    rw [before] at holds
    obtain ⟨account, going, errors, rfl, tells⟩ := holds
    rw [after]
    -- The attempts are used up, or the failure is one that no attempt mends.
    exact (tells.moved _ _ _).ends (.refused failed) nofun
  | saves before issue store after =>
    rw [before] at holds
    obtain ⟨account, going, errors, rfl, tells⟩ := holds
    rw [after]
    -- The success reply is behind the call, and the pair it made is to be saved.
    exact ⟨account, by simp [moved, going, Label.stopsRefresher], store, errors, issue, rfl,
      tells.moved _ _ _⟩
  | @establishes own held attempt began rest later outcome before issue store after =>
    rw [before] at holds
    obtain ⟨account, going, errors, rfl, tells⟩ := holds
    -- Nothing is stored without a token store.
    have renewed : stored cfg (issue.pair held) = [] := by simp [stored, store]
    rcases after with ⟨call, after, renews, rfl⟩ | ⟨after, rfl, left⟩
    · -- The pair is established, as it was issued.
      rw [after]
      refine ⟨account, by simp [moved, going, Label.stopsRefresher], held, errors, issue, renews, ?_⟩
      rw [renewed]
      exact tells.moved _ _ _
    · -- The issued pair has expired already, so the call raises before any request.
      rw [after]
      refine Tells.ends (show Tells cfg _ held errors _ from ?_) (.rejected issue) nofun
      rw [renewed]
      exact tells.moved _ _ _
  | @establishesSaved own held fresh attempt began taken rest time outcome before after =>
    rw [before] at holds
    obtain ⟨account, going, store, errors, issue, rfl, tells⟩ := holds
    have renewed : stored cfg (issue.pair held) =
        [.saving (issue.pair held), .saved] := by simp [stored, store]
    rcases after with ⟨call, after, renews, rfl⟩ | ⟨after, rfl, left⟩
    · -- The save is behind the call as well.
      rw [after]
      refine ⟨account, by simp [moved, going, Label.stopsRefresher], held, errors, issue, renews, ?_⟩
      rw [renewed]
      exact tells.moved _ _ _
    · rw [after]
      refine Tells.ends (show Tells cfg _ held errors _ from ?_) (.rejected issue) nofun
      rw [renewed]
      exact tells.moved _ _ _
  | saveFails before after left =>
    rw [before] at holds
    obtain ⟨account, going, store, errors, issue, rfl, tells⟩ := holds
    rw [after]
    exact (tells.moved _ _ _).ends (.unsaved issue store) nofun
  | proceeds before answers same after =>
    rw [before] at holds
    obtain ⟨account, going, held, errors, issue, renews, tells⟩ := holds
    rw [after]
    -- The reply changes nothing about the pair that is established.
    obtain rfl := same.symm.trans renews.credentials
    refine ⟨account, by simp [moved, going, Label.stopsRefresher], held, errors, issue, answers, ?_⟩
    simpa using tells.moved _ _ []
  | returns before after left =>
    rw [before] at holds
    obtain ⟨account, going, held, errors, issue, renews, tells⟩ := holds
    rw [after]
    refine Tells.ends (show Tells cfg _ held errors _ from ?_) (.established issue) nofun
    simpa using tells.moved _ _ [.established]
  | raises before after left =>
    rw [before] at holds
    obtain ⟨account, going, held, errors, issue, renews, tells⟩ := holds
    rw [after]
    refine Tells.ends (show Tells cfg _ held errors _ from ?_) (.rejected issue) nofun
    simpa using tells.moved _ _ [.raised]
  | stops before after left =>
    have cut := holds.stopped before
    -- A stop cuts the call short wherever it was.
    rw [after, at_iff_over rfl]
    simpa [moved, before, Label.stopsRefresher] using cut

/-- The attempts that only failed count for nothing but requests and refusals. -/
theorem Tells.quietly {held : AccountCredentials} {errors : List APIError} {tail : List RefreshAct}
    (tells : record.Tells cfg held errors tail) {kind : RefreshAct → Bool}
    (sends : ∀ token, kind (.sent token) = false)
    (hears : ∀ error, kind (.heard (.refused error)) = false) :
    record.acts.countP kind = tail.countP kind ∧ record.acts.any kind = tail.any kind := by
  -- A failed attempt is told as its request and its refusal, and `kind` is neither.
  have none := asked_quiet held.refreshToken sends fun error (_ : error ∈ errors) => hears error
  have uncounted : (asked held.refreshToken errors).countP kind = 0 :=
    List.countP_eq_zero.mpr fun act member => by simp [none act member]
  have absent : (asked held.refreshToken errors).any kind = false :=
    List.any_eq_false.mpr fun act member => by simp [none act member]
  rw [tells.acts, List.countP_append, List.any_append, uncounted, absent, Nat.zero_add, Bool.false_or]
  exact ⟨rfl, rfl⟩

/-- What is checked of the acts after the attempts that only failed holds of the whole record. -/
theorem Tells.guards {held : AccountCredentials} {errors : List APIError} {tail : List RefreshAct}
    (tells : record.Tells cfg held errors tail) {kind mark : RefreshAct → Bool}
    {allowed : Bool → Bool} (sends : ∀ token, mark (.sent token) = false)
    (hears : ∀ error : APIError, error.isTokenFailure = false → mark (.heard (.refused error)) = false)
    (allows : allowed false = true ∨
      ((∀ token, kind (.sent token) = false) ∧ ∀ error, kind (.heard (.refused error)) = false))
    (guards : History.guarded kind mark allowed false tail = true) :
    ∀ before act after, record.acts = before ++ act :: after → kind act = true →
      allowed (before.any mark) = true := by
  -- The attempts that only failed bear none of the marks.
  have unmarked := asked_quiet held.refreshToken sends
    fun error listed => hears error (tells.curable error listed)
  have whole : History.guarded kind mark allowed false record.acts = true := by
    rw [tells.acts, guarded_asked unmarked ?_]
    · exact guards
    · exact allows.imp id fun none => asked_quiet _ none.1 fun error _ => none.2 error
  simpa using (History.guarded_iff kind mark allowed record.acts false).mp whole

/-- A call that came to its own end raised if and only if the account was held and something failed. -/
theorem Over.raised (past : record.Over cfg) (going : record.cancelled = false) :
    record.acts.any RefreshAct.isRaised = true ↔ record.held.isSome = true ∧
      ¬ (record.acts.any RefreshAct.isSuccess = true ∧
        (cfg.tokenStore = true → record.acts.any RefreshAct.isSaved = true) ∧
        record.acts.any RefreshAct.isEstablished = true) := by
  rcases past with ⟨absent, idle⟩ | ⟨held, errors, ending, tail, tells, shape, cut⟩
  · simp [absent, idle]
  · -- A call that was not cut short has come to an end of its own.
    have ended : ending ≠ .underway := by
      rintro rfl
      rw [cut rfl] at going
      cases going
    -- The failed attempts bear no mark of success, so the marks are those of the last one.
    have same {kind : RefreshAct → Bool} (sends : ∀ token, kind (.sent token) = false)
        (hears : ∀ error, kind (.heard (.refused error)) = false) :
        record.acts.any kind = tail.any kind := (tells.quietly sends hears).2
    rw [same (fun _ => rfl) fun _ => rfl, same (fun _ => rfl) fun _ => rfl,
      same (fun _ => rfl) fun _ => rfl, same (fun _ => rfl) fun _ => rfl, tells.pair,
      Option.isSome_some, eq_self, true_and]
    exact shape.raised ended

/-- The record of any moment is that of one refresh. -/
theorem At.oneRefresh (attempts : 1 ≤ cfg.refresh.retryAttempts) (holds : record.At cfg s.refresher)
    (quiet : ∀ account, s.store.isRefreshing account = true → s.refresher.refreshing = some account) :
    OneRefresh cfg s record := by
  -- A call that is over has taken its account out of the refreshing ones, which wakes its waiters.
  have left : s.refresher.refreshing = none → s.store.isRefreshing record.account = false ∧
      ∀ task event, s.handlers.get? task = some (.waiting record.account event) →
        s.store.isSettled event = true := by
    intro idle
    -- No refresh is running at all, so every event has been set.
    have free (account : Int) : s.store.refreshing.get? account = none := by
      refine Option.not_isSome_iff_eq_none.mp fun running => ?_
      have busy := quiet account running
      rw [idle] at busy
      cases busy
    refine ⟨by simp [SessionStore.isRefreshing, free], fun task event _ => ?_⟩
    rw [SessionStore.isSettled, Dict.eq_empty_of_get? free]
    rfl
  have running : ∀ account, s.refresher.refreshing = some account → record.account = account := by
    intro account busy
    cases position : s.refresher with
    | stopped | sleeping | checking | reporting => simp [position, Refresher.refreshing] at busy
    | requesting | backingOff | saving | establishing =>
      rw [position] at holds busy
      cases busy
      exact holds.1
  rcases holds.tells with ⟨absent, idle⟩ | ⟨held, errors, ending, tail, tells, shape⟩
  · -- A call without a pair has done nothing, so there is nothing to check.
    refine ⟨?_, ?_, ?_, ?_, ?_, ?_, ?_, ?_, ?_, ?_, running, left⟩
    · simp only [idle, List.filterMap_nil, List.length_nil]
      exact Int.le_trans (by decide) attempts
    all_goals simp [idle, absent]
  · obtain ⟨pair, named, curable, within, acts⟩ := id tells
    -- The requests are those of the attempts that failed and of the last one.
    have sent : record.acts.filterMap RefreshAct.token? =
        List.replicate errors.length held.refreshToken ++ tail.filterMap RefreshAct.token? := by
      rw [acts, List.filterMap_append, asked_sends]
    obtain ⟨once, same⟩ := shape.sends
    obtain ⟨replaced, saving⟩ := shape.counts
    -- What is no request and no reply happens after the attempts that only failed.
    have last {act : RefreshAct} (own : ∀ token, act ≠ .sent token)
        (told : ∀ reply, act ≠ .heard reply) : act ∈ record.acts ↔ act ∈ tail := by
      rw [acts, List.mem_append, mem_asked]
      simp [own, told]
    refine ⟨?_, ?_, ?_, ?_, ?_, ?_, ?_, ?_, ?_, ?_, running, left⟩
    · -- The shapes send once more at most, and the errors are fewer than the attempts.
      rw [sent, List.length_append, List.length_replicate]
      omega
    · intro refreshToken member
      -- Every attempt asks with the token that was held as the call began.
      rw [sent] at member
      rw [pair, Option.map_some, Option.some.injEq]
      rcases List.mem_append.mp member with earlier | last
      · exact (List.mem_replicate.mp earlier).2.symm
      · exact (same refreshToken last).symm
    · intro before act after split requests
      -- Nothing final lies before a request, since errors that may pass are not final.
      have none := tells.guards (fun _ => rfl)
        (fun error curable => by simp [RefreshReply.allowsRetry, curable]) (.inl rfl) shape.last
        before act after split requests
      simpa using none
    · rw [(tells.quietly (fun _ => rfl) fun _ => rfl).1, (tells.quietly (fun _ => rfl) fun _ => rfl).2]
      -- The failed attempts replace nothing.
      exact replaced
    · intro kept member
      -- A replacement belongs to the last attempt, and with it the reply that it is made of.
      obtain ⟨issue, heard, same⟩ := shape.kept ((last (by simp) (by simp)).mp member)
      exact ⟨held, issue, pair, named, acts ▸ List.mem_append_right _ heard, same⟩
    · intro used member
      -- What is saved and established belongs to the last attempt too.
      refine (last (by simp) (by simp)).mpr (shape.used ?_)
      exact member.imp (last (by simp) (by simp)).mp (last (by simp) (by simp)).mp
    · exact tells.guards (fun _ => rfl) (fun _ _ => rfl) (.inr ⟨fun _ => rfl, fun _ => rfl⟩)
        shape.beforeSave
    · rw [(tells.quietly (fun _ => rfl) fun _ => rfl).1]
      exact saving
    · intro store
      exact tells.guards (fun _ => rfl) (fun _ _ => rfl) (.inr ⟨fun _ => rfl, fun _ => rfl⟩)
        (shape.afterSave store)
    · intro idle
      exact ((at_iff_over idle).mp holds).raised

end RefreshRecord

/-- What every moment has to do with the record. -/
structure Recorded (cfg : Config) (s : State) (record : RefreshRecord) : Prop where
  position : record.At cfg s.refresher
  refreshing : ∀ account, s.store.isRefreshing account = true → s.refresher.refreshing = some account

/-- The refresh in progress is the only one that the store knows of, through every move. -/
theorem RefreshMove.refreshing {cfg : Config} {s t : State} {label : Label} {called : Option Int}
    {acts : List RefreshAct} (move : RefreshMove cfg s t label called acts)
    (kept : label.ofCheck = false → ∀ account, t.store.isRefreshing account = true →
      s.store.isRefreshing account = true)
    (only : ∀ account, s.store.isRefreshing account = true → s.refresher.refreshing = some account)
    {account : Int} (running : t.store.isRefreshing account = true) :
    t.refresher.refreshing = some account := by
  -- Nobody was refreshed while the refresher was idle.
  have none (idle : s.refresher.refreshing = none) : s.store.isRefreshing account = false := by
    refine Bool.eq_false_iff.mpr fun held => ?_
    have busy := only account held
    rw [idle] at busy
    cases busy
  -- A step that begins no refresh leaves the account that was refreshed.
  have goes {own : Int} (busy : s.refresher.refreshing = some own) (check : label.ofCheck = false) :
      own = account := by
    rw [only account (kept check account running), Option.some.injEq] at busy
    exact busy.symm
  have unfinished {own : Int} (busy : s.refresher.refreshing = some own) (check : label.ofCheck = false)
      (left : t.store.isRefreshing own = false) : False := by
    rw [goes busy check, running] at left
    cases left
  cases move with
  | idles before after same | misses before absent after same =>
    rw [SessionStore.isRefreshing, same] at running
    exact absurd running (Bool.eq_false_iff.mp (none before))
  | @begins time own held began rest before found after store =>
    rw [after]
    by_cases same : account = own
    · rw [same]
      rfl
    · -- Only the account of the call is new among the running refreshes.
      have unheld := none before
      rw [store] at running
      simp only [SessionStore.isRefreshing, SessionStore.beginRefresh] at running unheld
      split at running
      · rw [unheld] at running
        cases running
      · rw [Dict.get?_set, if_neg same, unheld] at running
        cases running
  | backsOff before curable more after | retries before after | saves before issue store after
  | proceeds before answers same after =>
    rw [after]
    exact congrArg some (goes (by rw [before]; rfl) rfl)
  | givesUp before failed after left | saveFails before after left | returns before after left
  | raises before after left =>
    -- A call that is over has ended its refresh.
    exact (unfinished (by rw [before]; rfl) rfl left).elim
  | establishes before issue store after | establishesSaved before after =>
    rcases after with ⟨call, after, renews, -⟩ | ⟨after, -, left⟩
    · rw [after]
      exact congrArg some (goes (by rw [before]; rfl) rfl)
    · exact (unfinished (by rw [before]; rfl) rfl left).elim
  | stops before after left => exact (unfinished before rfl left).elim

/-- Where the record fits the position, every step of the refresher is one of its moves. -/
theorem RefreshRecord.At.moves {cfg : Config} {s t : State} {label : Label} {record : RefreshRecord}
    (holds : record.At cfg s.refresher) (own : label.ofRefresher = true)
    (notApi : label.saveRaisesApi = false) (taken : s.step cfg label = some t) :
    RefreshMove cfg s t label (s.refreshCall t) (s.refreshActs label t) := by
  cases label with
  | refresh label =>
    refine State.refreshStep_move notApi (fun position => ?_) taken
    -- The pair in hand names the account of the call.
    rw [position] at holds
    obtain ⟨rfl, -, errors, -, tells⟩ := holds
    exact tells.named
  | call who label =>
    cases who with
    | refresher =>
      cases position : s.refresher with
      | establishing account call rest =>
        rw [position] at holds
        obtain ⟨-, -, held, errors, issue, renews, -⟩ := holds
        exact State.callStep_move position renews taken
      | _ => simp [State.step, State.callStep, State.call, position] at taken
    | _ => cases own
  | _ => cases own

/-- Every step keeps the record in step with the state. -/
theorem Recorded.step {cfg : Config} (attempts : 1 ≤ cfg.refresh.retryAttempts) {s t : State}
    {label : Label} {record : RefreshRecord} (holds : Recorded cfg s record)
    (notApi : label.saveRaisesApi = false) (taken : s.step cfg label = some t) :
    Recorded cfg t (record.note s label t) := by
  -- A step of the refresher moves the record, and any other step leaves it as it is.
  have frame := State.step_frame taken
  cases own : label.ofRefresher with
  | false =>
    have unmoved := State.step_refresher taken own
    rw [RefreshRecord.note, if_neg (Bool.eq_false_iff.mp own)]
    refine ⟨unmoved ▸ holds.position, fun account running => ?_⟩
    rw [unmoved]
    refine holds.refreshing account ?_
    cases label with
    | handler task label =>
      rw [SessionStore.isRefreshing, State.handlerStep_refreshing taken] at running
      exact running
    | refresh label => cases own
    | _ => exact (frame.uneventful rfl rfl).refreshing account running
  | true =>
    -- The move shows what the call did, and the record grows by it.
    have move := holds.position.moves own notApi taken
    rw [RefreshRecord.note, if_pos own]
    refine ⟨holds.position.move attempts move, fun account running => ?_⟩
    refine move.refreshing (fun check => (frame.uneventful ?_ check).refreshing) holds.refreshing running
    cases label with
    | handler task label => cases own
    | _ => rfl

/-- Whatever else runs beside it, a call of `_refresh_account` sends no more requests than attempts and
none after a final reply, keeps a new pair before it saves it and saves it before it uses it, raises if
and only if something failed, and leaves the account and all who wait for it free. -/
theorem refresh_step_by_step {cfg : Config} (attempts : 1 ≤ cfg.refresh.retryAttempts) {s : State}
    {record : RefreshRecord}
    (reached : ((machine cfg).watch {} RefreshRecord.note).Reaches
      (fun _ label => label.saveRaisesApi = false) (s, record)) :
    OneRefresh cfg s record := by
  -- No refresh is recorded to begin with.
  have begun : RefreshRecord.At cfg {} .stopped := Or.inl ⟨rfl, rfl⟩
  have recorded : Recorded cfg s record := by
    refine reached.watch_invariant (P := Recorded cfg) ⟨begun, ?_⟩ ?_
    · intro account refreshing
      simp [machine, SessionStore.isRefreshing, SessionStore.empty] at refreshing
    · intro s record label t _ holds notApi taken
      exact holds.step attempts notApi taken
  -- The record stands at the refresh task's position, which says how far the steps have come.
  exact recorded.position.oneRefresh attempts recorded.refreshing

/-- A refresh that is refused once, and whose new pair is then issued, saved and used. -/
def Label.refreshingTwice : List Label :=
  Label.signIn 0 granted ++
    [.refresh .serve, .refresh .wake, .refresh (.check (.round 800)),
      .refresh (.reply (.refused { errorCode := "REQUEST_FREQUENCY_EXCEEDED" }) (.round 800) (.round 800)),
      .refresh .retry,
      .refresh (.reply (.issued "reissued" "reissued-refresh" 3600) (.round 800) (.round 800)),
      .refresh (.saved (.round 800)), .call .refresher (.dispatch .accepted),
      .call .refresher (.resume (.round 0))]

/-- The pair that the second attempt brings is stored, saved and used. -/
theorem refresh_step_by_step_retried : ∃ s record,
    OneRefresh { tokenStore := true } s record ∧
      record.acts.filterMap RefreshAct.token? = ["granted-refresh", "granted-refresh"] ∧
      .replaced (some reissued) ∈ record.acts ∧ s.store.credentials 7 = some reissued ∧
      record.acts.any RefreshAct.isEstablished = true ∧ record.cancelled = false := by
  have found : ∃ watched, ((machine { tokenStore := true }).watch {} RefreshRecord.note).Reaches
      (fun _ label => label.saveRaisesApi = false) watched ∧
      watched.2.acts.filterMap RefreshAct.token? = ["granted-refresh", "granted-refresh"] ∧
      .replaced (some reissued) ∈ watched.2.acts ∧
      watched.1.store.credentials 7 = some reissued ∧
      watched.2.acts.any RefreshAct.isEstablished = true ∧ watched.2.cancelled = false :=
    -- The first attempt is refused, the second brings the pair that is stored.
    Machine.exists_reaches Label.refreshingTwice (by decide +kernel)
  obtain ⟨⟨s, record⟩, reached, sent, replaced, holds, used, going⟩ := found
  exact ⟨s, record, refresh_step_by_step (by decide) reached, sent, replaced, holds, used, going⟩

end CTrader.Auth
