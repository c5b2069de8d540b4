import CTrader.Auth.Frames

/-! One call of `_refresh_account` after the other, as an observer of the package records it. -/

namespace CTrader.Auth

/-- What a refresh does and is told, one thing after the other. -/
inductive RefreshAct
  -- `ProtoOARefreshTokenReq` went out with this token.
  | sent (refreshToken : String)
  | heard (reply : RefreshReply)
  -- The store was given another pair for the account, and holds this one since.
  | replaced (kept : Option AccountCredentials)
  -- `TokenStore.save` was called, returned or raised.
  | saving (fresh : AccountCredentials)
  | saved
  | saveRaised
  -- `establish` was called, and recorded the account as authorized.
  | establishing (fresh : AccountCredentials)
  | established
  -- `TokenRefreshError` was raised.
  | raised
deriving DecidableEq

/-- Whether a reply brings a new pair. -/
def RefreshReply.isIssued : RefreshReply → Bool
  | .issued .. => true
  | _ => false

/-- A success reply, with the reading of the clock that it is taken at. -/
structure Issue where
  accessToken : String
  refreshToken : String
  expiresIn : Int
  time : Binary64

namespace Issue

/-- What the server replies. -/
def reply (issue : Issue) : RefreshReply :=
  .issued issue.accessToken issue.refreshToken issue.expiresIn

/-- The pair that is made of the reply to a request for another one. -/
def pair (issue : Issue) (held : AccountCredentials) : AccountCredentials :=
  held.withRefreshedTokens issue.accessToken issue.refreshToken issue.expiresIn issue.time

/-- An issue is a success. -/
@[simp] theorem isIssued_reply (issue : Issue) : issue.reply.isIssued = true := rfl

/-- The new pair names the account of the old one. -/
@[simp] theorem accountId_pair (issue : Issue) (held : AccountCredentials) :
    (issue.pair held).accountId = held.accountId := rfl

end Issue

/-- Whether another attempt may follow a reply: only after an error that does not blame the token. -/
def RefreshReply.allowsRetry : RefreshReply → Bool
  | .refused error => !error.isTokenFailure
  | _ => false

namespace RefreshAct

/-- The token that a request carries. -/
@[simp] def token? : RefreshAct → Option String
  | .sent refreshToken => some refreshToken
  | _ => none

/-- Whether a success reply is heard. -/
@[simp] def isSuccess : RefreshAct → Bool
  | .heard reply => reply.isIssued
  | _ => false

/-- Whether the stored credentials are replaced. -/
@[simp] def isReplaced : RefreshAct → Bool
  | .replaced _ => true
  | _ => false

/-- Whether `TokenStore.save` is called. -/
@[simp] def isSaving : RefreshAct → Bool
  | .saving _ => true
  | _ => false

end RefreshAct

/-- Whether a step is one of the refresher, on its own or inside its `establish`. -/
def Label.ofRefresher : Label → Bool
  | .refresh _ | .call .refresher _ => true
  | _ => false

/-- Whether a step stops the refresher. -/
def Label.stopsRefresher : Label → Bool
  | .refresh .stop => true
  | _ => false

/-- What the refresher is told by a step. -/
def Label.tells : Label → List RefreshAct
  | .refresh (.reply reply _ _) => [.heard reply]
  | .refresh (.saved _) => [.saved]
  | .refresh (.saveRaises _) => [.saveRaised]
  | _ => []

/-- Whether `TokenStore.save` raises an error of the API. -/
def Label.saveRaisesApi : Label → Bool
  | .refresh (.saveRaises (.api _)) => true
  | _ => false

/-- Whether an event is a replacement of stored credentials. -/
def Event.isRotation : Event → Bool
  | .rotated .. => true
  | _ => false

/-- What an event says of the refresh in progress. -/
def Event.refreshAct : Event → Option RefreshAct
  | .began credentials .tokenRefresh => some (.establishing credentials)
  | .authorized _ _ .tokenRefresh _ _ _ => some .established
  | .refreshFailed _ _ => some .raised
  | _ => none

/-- The account that `_refresh_account` was called for, if an event records a call. -/
def Event.refreshCall : Event → Option Int
  | .checked account _ _ true => some account
  | _ => none

/-- The account whose refresh is in progress. -/
def Refresher.refreshing : Refresher → Option Int
  | .requesting account _ _ _ _ | .backingOff account _ _ _ _ | .saving account _ _ _ _ _ _
  | .establishing account _ _ => some account
  | _ => none

/-- What the refresher sets going by coming to another position. -/
def Refresher.entering (before after : Refresher) : List RefreshAct :=
  match after with
  | .requesting _ credentials _ _ _ => if before = after then [] else [.sent credentials.refreshToken]
  | .saving _ _ _ _ fresh _ _ => if before = after then [] else [.saving fresh]
  | _ => []

namespace State

/-- The events that a step recorded, the oldest first. -/
def recorded (s t : State) : List Event :=
  (t.history.take (t.history.length - s.history.length)).reverse

/-- Whether a step replaced what the store holds for the account of the refresh in progress: by a
replacement that is on record, or in any other way but by recording a session. -/
def replacing (s t : State) : List RefreshAct :=
  match s.refresher.refreshing with
  | none => []
  | some account =>
    if (s.recorded t).any Event.isRotation ∨
        (s.recorded t).any Event.isAuthorization = false ∧
          t.store.credentials account ≠ s.store.credentials account then
      [.replaced (t.store.credentials account)]
    else []

/-- What a step of the refresher comes to. -/
def refreshActs (s : State) (label : Label) (t : State) : List RefreshAct :=
  label.tells ++ s.replacing t ++ (s.recorded t).filterMap Event.refreshAct ++
    s.refresher.entering t.refresher

/-- The account that a step called `_refresh_account` for. -/
def refreshCall (s t : State) : Option Int := (s.recorded t).findSome? Event.refreshCall

end State

/-- The record of the latest call of `_refresh_account`. -/
structure RefreshRecord where
  account : Int := 0
  -- The pair that the store held for the account when the call began.
  held : Option AccountCredentials := none
  acts : List RefreshAct := []
  -- Whether the refresher was stopped in the middle of the call.
  cancelled : Bool := false

/-- The record after a step of the refresher, which opens a new one with every call. -/
def RefreshRecord.moved (record : RefreshRecord) (s : State) (label : Label) (called : Option Int)
    (acts : List RefreshAct) : RefreshRecord :=
  match called with
  | some account => { account, held := s.store.credentials account, acts }
  | none =>
    { record with
      acts := record.acts ++ acts
      cancelled := record.cancelled || (s.refresher.refreshing.isSome && label.stopsRefresher) }

/-- The observer keeps the record up to date. -/
def RefreshRecord.note (s : State) (label : Label) (t : State) (record : RefreshRecord) :
    RefreshRecord :=
  if label.ofRefresher then record.moved s label (s.refreshCall t) (s.refreshActs label t) else record

/-- A call of `establish` on behalf of a refresh, which ends with its reply. -/
structure Call.Renews (call : Call) (fresh : AccountCredentials) : Prop where
  credentials : call.credentials = fresh
  trigger : call.trigger = .tokenRefresh
  phase : call.phase = .requesting ∨ ∃ reply received, call.phase = .answered reply received

/-- The steps of the refresher, each with the call that it makes and what it comes to. -/
inductive RefreshMove (cfg : Config) (s t : State) : Label → Option Int → List RefreshAct → Prop
  | idles {label : Label} (before : s.refresher.refreshing = none)
      (after : t.refresher.refreshing = none) (kept : t.store.refreshing = s.store.refreshing) :
      RefreshMove cfg s t label none []
  -- The account is not held any more.
  | misses {time : Binary64} {account : Int} (before : s.refresher.refreshing = none)
      (absent : s.store.credentials account = none) (after : t.refresher.refreshing = none)
      (kept : t.store.refreshing = s.store.refreshing) :
      RefreshMove cfg s t (.refresh (.check time)) (some account) []
  | begins {time : Binary64} {account : Int} {held : AccountCredentials} {began : Moment}
      {rest : List (Int × AccountCredentials)} (before : s.refresher.refreshing = none)
      (found : s.store.credentials account = some held)
      (after : t.refresher = .requesting account held 1 began rest)
      (store : t.store = s.store.beginRefresh account) :
      RefreshMove cfg s t (.refresh (.check time)) (some account) [.sent held.refreshToken]
  | backsOff {account : Int} {held : AccountCredentials} {attempt : Nat} {began : Moment}
      {rest : List (Int × AccountCredentials)} {error : APIError} {time later : Binary64}
      (before : s.refresher = .requesting account held attempt began rest)
      (curable : error.isTokenFailure = false) (more : (attempt : Int) < cfg.refresh.retryAttempts)
      (after : t.refresher = .backingOff account held attempt began rest) :
      RefreshMove cfg s t (.refresh (.reply (.refused error) time later)) none
        [.heard (.refused error)]
  | retries {account : Int} {held : AccountCredentials} {attempt : Nat} {began : Moment}
      {rest : List (Int × AccountCredentials)}
      (before : s.refresher = .backingOff account held attempt began rest)
      (after : t.refresher = .requesting account held (attempt + 1) began rest) :
      RefreshMove cfg s t (.refresh .retry) none [.sent held.refreshToken]
  -- The last attempt failed, or one that no other can follow.
  | givesUp {account : Int} {held : AccountCredentials} {attempt : Nat} {began : Moment}
      {rest : List (Int × AccountCredentials)} {reply : RefreshReply} {time later : Binary64}
      (before : s.refresher = .requesting account held attempt began rest)
      (failed : reply.isIssued = false) (after : t.refresher = .reporting rest)
      (left : t.store.isRefreshing account = false) :
      RefreshMove cfg s t (.refresh (.reply reply time later)) none [.heard reply, .raised]
  | saves {account : Int} {held : AccountCredentials} {attempt : Nat} {began taken : Moment}
      {rest : List (Int × AccountCredentials)} {later : Binary64}
      (before : s.refresher = .requesting account held attempt began rest)
      (issue : Issue) (store : cfg.tokenStore = true)
      (after : t.refresher = .saving account held attempt began (issue.pair held) taken rest) :
      RefreshMove cfg s t (.refresh (.reply issue.reply issue.time later)) none
        [.heard issue.reply, .replaced (some (issue.pair held)), .saving (issue.pair held)]
  -- Without a token store the new pair is used at once.
  | establishes {account : Int} {held : AccountCredentials} {attempt : Nat} {began : Moment}
      {rest : List (Int × AccountCredentials)} {later : Binary64} {outcome : List RefreshAct}
      (before : s.refresher = .requesting account held attempt began rest)
      (issue : Issue) (store : cfg.tokenStore = false)
      (after : (∃ call, t.refresher = .establishing account call rest ∧
          call.Renews (issue.pair held) ∧ outcome = []) ∨
        t.refresher = .reporting rest ∧ outcome = [.raised] ∧ t.store.isRefreshing account = false) :
      RefreshMove cfg s t (.refresh (.reply issue.reply issue.time later)) none
        ([.heard issue.reply, .replaced (some (issue.pair held)), .establishing (issue.pair held)] ++
          outcome)
  | establishesSaved {account : Int} {held fresh : AccountCredentials} {attempt : Nat}
      {began taken : Moment} {rest : List (Int × AccountCredentials)} {time : Binary64}
      {outcome : List RefreshAct}
      (before : s.refresher = .saving account held attempt began fresh taken rest)
      (after : (∃ call, t.refresher = .establishing account call rest ∧ call.Renews fresh ∧
          outcome = []) ∨
        t.refresher = .reporting rest ∧ outcome = [.raised] ∧ t.store.isRefreshing account = false) :
      RefreshMove cfg s t (.refresh (.saved time)) none ([.saved, .establishing fresh] ++ outcome)
  | saveFails {account : Int} {held fresh : AccountCredentials} {attempt : Nat}
      {began taken : Moment} {rest : List (Int × AccountCredentials)} {failure : Failure}
      (before : s.refresher = .saving account held attempt began fresh taken rest)
      (after : t.refresher = .reporting rest) (left : t.store.isRefreshing account = false) :
      RefreshMove cfg s t (.refresh (.saveRaises failure)) none [.saveRaised, .raised]
  | proceeds {account : Int} {call answered : Call} {rest : List (Int × AccountCredentials)}
      {fresh : AccountCredentials} {label : CallLabel}
      (before : s.refresher = .establishing account call rest) (answers : answered.Renews fresh)
      (same : call.credentials = fresh)
      (after : t.refresher = .establishing account answered rest) :
      RefreshMove cfg s t (.call .refresher label) none []
  | returns {account : Int} {call : Call} {rest : List (Int × AccountCredentials)}
      {label : CallLabel} (before : s.refresher = .establishing account call rest)
      (after : t.refresher = .checking rest) (left : t.store.isRefreshing account = false) :
      RefreshMove cfg s t (.call .refresher label) none [.established]
  | raises {account : Int} {call : Call} {rest : List (Int × AccountCredentials)}
      {label : CallLabel} (before : s.refresher = .establishing account call rest)
      (after : t.refresher = .reporting rest) (left : t.store.isRefreshing account = false) :
      RefreshMove cfg s t (.call .refresher label) none [.raised]
  | stops {account : Int} (before : s.refresher.refreshing = some account)
      (after : t.refresher = .stopped) (left : t.store.isRefreshing account = false) :
      RefreshMove cfg s t (.refresh .stop) none []

namespace State

section Moves

variable {cfg : Config} {s t : State}

/-- An account leaves the running refreshes when its own ends. -/
theorem isRefreshing_endRefresh (store : SessionStore) (account : Int) :
    (store.endRefresh account).isRefreshing account = false := by
  simp [SessionStore.isRefreshing, SessionStore.endRefresh]

/-- What a step recorded is what it put in front of the history. -/
theorem recorded_eq {new : List Event} (grown : t.history = new ++ s.history) :
    s.recorded t = new.reverse := by
  rw [recorded, grown, List.length_append, Nat.add_sub_cancel, List.take_left]

/-- Where no replacement is recorded, none happens while no account changes, a session is recorded, or
no refresh is in progress. -/
theorem replacing_eq_nil {new : List Event} (grown : t.history = new ++ s.history)
    (unrotated : new.any Event.isRotation = false)
    (kept : t.store.accounts = s.store.accounts ∨ new.any Event.isAuthorization = true ∨
      s.refresher.refreshing = none) : s.replacing t = [] := by
  unfold replacing
  rw [recorded_eq grown, List.any_reverse, List.any_reverse, unrotated]
  split
  · rfl
  · rename_i account busy
    -- The accounts are as they were, or the write was recorded elsewhere, or nothing is in
    -- progress.
    rcases kept with same | recorded | idle
    · simp [SessionStore.credentials, same]
    · simp [recorded]
    · rw [idle] at busy
      cases busy

/-- A replacement that is recorded has the account hold what it holds after it. -/
theorem replacing_rotation {new : List Event} (grown : t.history = new ++ s.history)
    (rotated : new.any Event.isRotation = true) {account : Int}
    (busy : s.refresher.refreshing = some account) :
    s.replacing t = [.replaced (t.store.credentials account)] := by
  unfold replacing
  rw [recorded_eq grown, List.any_reverse, rotated, busy]
  exact if_pos (.inl rfl)

/-- A step that replaces nothing is a move when its events and its new position say so. -/
theorem refreshMove_of {label : Label} {new : List Event} {called : Option Int}
    {acts : List RefreshAct} (grown : t.history = new ++ s.history)
    (unrotated : new.any Event.isRotation = false)
    (kept : t.store.accounts = s.store.accounts ∨ new.any Event.isAuthorization = true ∨
      s.refresher.refreshing = none)
    (calls : new.reverse.findSome? Event.refreshCall = called)
    (comes : label.tells ++ new.reverse.filterMap Event.refreshAct ++
      s.refresher.entering t.refresher = acts)
    (move : RefreshMove cfg s t label called acts) :
    RefreshMove cfg s t label (s.refreshCall t) (s.refreshActs label t) := by
  -- With nothing replaced the acts are the label's own, those recorded, and the one entered.
  rw [refreshCall, refreshActs, replacing_eq_nil grown unrotated kept, recorded_eq grown, calls,
    List.append_nil, comes]
  exact move

/-- A step that replaces the pair of the refresh in progress is a move when the rest says so. -/
theorem refreshMove_of_rotation {label : Label} {new : List Event} {account : Int}
    {kept : Option AccountCredentials} {acts : List RefreshAct}
    (grown : t.history = new ++ s.history) (rotated : new.any Event.isRotation = true)
    (busy : s.refresher.refreshing = some account) (holds : t.store.credentials account = kept)
    (calls : new.reverse.findSome? Event.refreshCall = none)
    (comes : label.tells ++ [.replaced kept] ++ new.reverse.filterMap Event.refreshAct ++
      s.refresher.entering t.refresher = acts)
    (move : RefreshMove cfg s t label none acts) :
    RefreshMove cfg s t label (s.refreshCall t) (s.refreshActs label t) := by
  -- The replacement is told first, before what was recorded after it.
  rw [refreshCall, refreshActs, replacing_rotation grown rotated busy, holds, recorded_eq grown,
    calls, comes]
  exact move

/-- A pair that replaces another one is what the store holds for the account afterwards. -/
theorem credentials_rotate (s : State) {held fresh : AccountCredentials} {account : Int}
    (named : fresh.accountId = account) :
    (s.rotate held fresh).store.credentials account = some fresh := by
  change (s.store.replaceCredentials fresh).credentials account = some fresh
  rw [SessionStore.credentials, SessionStore.get?_replaceCredentials, if_pos named.symm]
  rfl

/-- A renewal enters `establish` with the fresh pair, unless that pair has expired already. -/
theorem renew_cases (s : State) (account : Int) (fresh : AccountCredentials) (moment : Moment)
    (rest : List (Int × AccountCredentials)) (time : Binary64) :
    (∃ call, s.renew account fresh moment rest time =
        { s.log (.began fresh .tokenRefresh) with refresher := .establishing account call rest } ∧
      call.Renews fresh) ∨
    s.renew account fresh moment rest time =
      (s.log (.began fresh .tokenRefresh)).refreshFails account rest := by
  rcases s.renew_outcomes account fresh moment rest time with ⟨-, fails⟩ | ⟨-, enters⟩
  · exact .inr fails
  · exact .inl ⟨_, enters, rfl, rfl, .inl rfl⟩

/-- What the retry decision comes to after an attempt that ended with an error of the API. -/
theorem retryOrFail_cases (cfg : Config) (s : State) (account : Int) (credentials : AccountCredentials)
    (attempt : Nat) (began : Moment) (rest : List (Int × AccountCredentials)) :
    ((attempt : Int) < cfg.refresh.retryAttempts ∧
      s.retryOrFail cfg account credentials attempt began rest =
        { s with refresher := .backingOff account credentials attempt began rest }) ∨
    s.retryOrFail cfg account credentials attempt began rest = s.refreshFails account rest := by
  unfold retryOrFail
  by_cases more : (attempt : Int) < cfg.refresh.retryAttempts
  · exact .inl ⟨more, if_pos more⟩
  · exact .inr (if_neg more)

/-- Stopping the refresher ends the refresh in progress, if there is one. -/
theorem stop_move (taken : s.refreshStep cfg .stop = some t) :
    RefreshMove cfg s t (.refresh .stop) (s.refreshCall t) (s.refreshActs (.refresh .stop) t) := by
  cases held : s.refresher with
  | stopped => simp [refreshStep, held] at taken
  -- Nothing is being refreshed here, so nothing is cut off.
  | sleeping | checking | reporting =>
    simp only [refreshStep, held] at taken
    cases taken
    exact refreshMove_of (show _ = [] ++ s.history from rfl) rfl (.inl rfl) rfl
      (by simp [Label.tells, Refresher.entering])
      (.idles (by simp [held, Refresher.refreshing]) rfl rfl)
  -- In these positions a refresh is under way, and the cancellation ends it.
  | requesting | backingOff | saving | establishing =>
    simp only [refreshStep, held] at taken
    cases taken
    exact refreshMove_of (show _ = [] ++ s.history from rfl) rfl (.inl rfl) rfl
      (by simp [Label.tells, Refresher.entering])
      (.stops (by rw [held]; rfl) rfl (isRefreshing_endRefresh _ _))

/-- A step of the refresher itself is one of its moves. -/
theorem refreshStep_move {label : RefreshLabel}
    (notApi : (Label.refresh label).saveRaisesApi = false)
    (named : ∀ {account held attempt began rest},
      s.refresher = .requesting account held attempt began rest → held.accountId = account)
    (taken : s.refreshStep cfg label = some t) :
    RefreshMove cfg s t (.refresh label) (s.refreshCall t) (s.refreshActs (.refresh label) t) := by
  -- `stop` fits every position, so it is taken apart on its own.
  by_cases stops : label = .stop
  · subst stops
    exact stop_move taken
  unfold refreshStep at taken
  split at taken
  · rename_i held
    cases taken
    exact refreshMove_of (show _ = [] ++ s.history from rfl) rfl (.inl rfl) rfl
      (by simp [Label.tells, Refresher.entering])
      (.idles (by simp [held, Refresher.refreshing]) rfl rfl)
  · -- The interval is over, and the pass takes the list of the store.
    rename_i held
    cases taken
    exact refreshMove_of (show _ = [_] ++ s.history from rfl) rfl (.inl rfl) rfl
      (by simp [Label.tells, Refresher.entering, Event.refreshAct, List.filterMap_cons])
      (.idles (by simp [held, Refresher.refreshing]) rfl rfl)
  · -- The list is through.
    rename_i held
    cases taken
    exact refreshMove_of (show _ = [_] ++ s.history from rfl) rfl (.inl rfl) rfl
      (by simp [Label.tells, Refresher.entering, Event.refreshAct, List.filterMap_cons])
      (.idles (by simp [held, Refresher.refreshing]) rfl rfl)
  · -- The next account of the list is due or not, and may have been removed since the list was
    -- taken.
    rename_i time account credentials rest held
    split at taken
    · split at taken
      · rename_i absent
        cases taken
        exact refreshMove_of (show _ = [_] ++ s.history from rfl) rfl (.inl rfl) rfl
          (by simp [Label.tells, Refresher.entering, Event.refreshAct, List.filterMap_cons])
          (.misses (by simp [held, Refresher.refreshing]) absent rfl rfl)
      · rename_i pair found
        cases taken
        have idle : s.refresher.refreshing = none := by simp [held, Refresher.refreshing]
        exact refreshMove_of (show _ = [_] ++ s.history from rfl) rfl (.inr (.inr idle)) rfl
          (by simp [Label.tells, Refresher.entering, Event.refreshAct, List.filterMap_cons, held])
          (.begins idle found rfl rfl)
    · cases taken
      exact refreshMove_of (show _ = [_] ++ s.history from rfl) rfl (.inl rfl) rfl
        (by simp [Label.tells, Refresher.entering, Event.refreshAct, List.filterMap_cons])
        (.idles (by simp [held, Refresher.refreshing]) rfl rfl)
  · rename_i accessToken refreshToken expiresIn time later account credentials attempt began rest held
    -- What the step makes of the reply is an issue for the pair in hand.
    obtain ⟨issue, rfl, rfl, rfl, rfl⟩ : ∃ issue : Issue, issue.accessToken = accessToken ∧
        issue.refreshToken = refreshToken ∧ issue.expiresIn = expiresIn ∧ issue.time = time :=
      ⟨⟨accessToken, refreshToken, expiresIn, time⟩, rfl, rfl, rfl, rfl⟩
    have folded : credentials.withRefreshedTokens issue.accessToken issue.refreshToken
        issue.expiresIn issue.time = issue.pair credentials := rfl
    dsimp only at taken
    rw [folded] at taken
    have busy : s.refresher.refreshing = some account := by rw [held]; rfl
    have same : credentials.accountId = account := named held
    -- The pair that is kept is the one the reply issued, under the account it was issued for.
    have keeps : (s.rotate credentials (issue.pair credentials)).store.credentials account =
        some (issue.pair credentials) := s.credentials_rotate same
    -- With a token store the pair is saved before the account is authorized again.
    by_cases store : cfg.tokenStore = true
    · rw [if_pos store] at taken
      cases taken
      exact refreshMove_of_rotation
        (show _ = [.rotated credentials (issue.pair credentials)] ++ s.history from rfl) rfl busy keeps
        rfl (by simp [Label.tells, Refresher.entering, Event.refreshAct, held, Issue.reply, Issue.pair])
        (.saves held issue store rfl)
    · rw [if_neg store] at taken
      cases taken
      -- The new pair goes to `establish` at once.
      have without := Bool.eq_false_iff.mpr store
      -- The call begins, or the pair has expired already and ends the refresh.
      rcases renew_cases (s.rotate credentials (issue.pair credentials)) account (issue.pair credentials)
        (s.rotate credentials (issue.pair credentials)).now rest later with
        ⟨call, entered, renews⟩ | expired
      · rw [entered]
        exact refreshMove_of_rotation
          (show _ = [.began (issue.pair credentials) .tokenRefresh,
            .rotated credentials (issue.pair credentials)] ++ s.history from rfl) rfl busy keeps rfl
          (by simp [Label.tells, Refresher.entering, Event.refreshAct, List.filterMap_cons, Issue.reply])
          (.establishes held issue without (.inl ⟨call, rfl, renews, rfl⟩))
      · rw [expired]
        exact refreshMove_of_rotation
          (show _ = [.refreshFailed account _, .began (issue.pair credentials) .tokenRefresh,
            .rotated credentials (issue.pair credentials)] ++ s.history from rfl) rfl busy keeps rfl
          (by simp [Label.tells, Refresher.entering, Event.refreshAct, List.filterMap_cons,
            refreshFails, State.log, Issue.reply])
          (show RefreshMove cfg s _ _ none
            ([.heard _, .replaced _, .establishing (issue.pair credentials)] ++ [.raised]) from
            .establishes held issue without (.inr ⟨rfl, rfl, isRefreshing_endRefresh _ _⟩))
  · -- The server refused the refresh token, with an error that may be tried again or not.
    rename_i error time later account credentials attempt began rest held
    split at taken
    · cases taken
      exact refreshMove_of (show _ = [.refreshFailed account _] ++ s.history from rfl) rfl (.inl rfl) rfl
        (by simp [Label.tells, Refresher.entering, Event.refreshAct, refreshFails, State.log])
        (.givesUp held rfl rfl (isRefreshing_endRefresh _ _))
    · rename_i curable
      cases taken
      rcases retryOrFail_cases cfg s account credentials attempt began rest with
        ⟨more, waits⟩ | fails
      · rw [waits]
        exact refreshMove_of (show _ = [] ++ s.history from rfl) rfl (.inl rfl) rfl
          (by simp [Label.tells, Refresher.entering])
          (.backsOff held (Bool.eq_false_iff.mpr curable) more rfl)
      · rw [fails]
        exact refreshMove_of (show _ = [.refreshFailed account _] ++ s.history from rfl) rfl (.inl rfl) rfl
          (by simp [Label.tells, Refresher.entering, Event.refreshAct, refreshFails, State.log])
          (.givesUp held rfl rfl (isRefreshing_endRefresh _ _))
  · rename_i held
    cases taken
    exact refreshMove_of (show _ = [.refreshFailed _ _] ++ s.history from rfl) rfl (.inl rfl) rfl
      (by simp [Label.tells, Refresher.entering, Event.refreshAct, refreshFails, State.log])
      (.givesUp held rfl rfl (isRefreshing_endRefresh _ _))
  · -- The back-off is over, and the request is made again.
    rename_i held
    cases taken
    exact refreshMove_of (show _ = [] ++ s.history from rfl) rfl (.inl rfl) rfl
      (by simp [Label.tells, Refresher.entering, held]) (.retries held rfl)
  · -- The save has returned, and the pair goes to `establish`.
    rename_i time account credentials attempt began fresh moment rest held
    cases taken
    rcases renew_cases s account fresh moment rest time with ⟨call, entered, renews⟩ | expired
    · rw [entered]
      exact refreshMove_of (show _ = [.began fresh .tokenRefresh] ++ s.history from rfl) rfl (.inl rfl) rfl
        (by simp [Label.tells, Refresher.entering, Event.refreshAct])
        (.establishesSaved held (.inl ⟨call, rfl, renews, rfl⟩))
    · rw [expired]
      exact refreshMove_of
        (show _ = [.refreshFailed account _, .began fresh .tokenRefresh] ++ s.history from rfl) rfl
          (.inl rfl) rfl
        (by simp [Label.tells, Refresher.entering, Event.refreshAct, refreshFails, State.log])
        (.establishesSaved held (.inr ⟨rfl, rfl, isRefreshing_endRefresh _ _⟩))
  · -- A save that raises an `APIError` would be read as the server's refusal, which is left out.
    cases notApi
  · -- A save that raises anything else ends the refresh with the pair already stored.
    rename_i held
    cases taken
    exact refreshMove_of (show _ = [.refreshFailed _ _] ++ s.history from rfl) rfl (.inl rfl) rfl
      (by simp [Label.tells, Refresher.entering, Event.refreshAct, refreshFails, State.log])
      (.saveFails held rfl (isRefreshing_endRefresh _ _))
  · rename_i held
    cases taken
    exact refreshMove_of (show _ = [] ++ s.history from rfl) rfl (.inl rfl) rfl
      (by simp [Label.tells, Refresher.entering])
      (.idles (by simp [held, Refresher.refreshing]) rfl rfl)
  -- No other label fits.
  all_goals first | exact absurd rfl stops | cases taken

/-- A step inside the `establish` of a refresh is one of the refresher's moves. -/
theorem callStep_move {label : CallLabel} {account : Int} {call : Call} {fresh : AccountCredentials}
    {rest : List (Int × AccountCredentials)} (held : s.refresher = .establishing account call rest)
    (renews : call.Renews fresh) (taken : s.callStep cfg .refresher label = some t) :
    RefreshMove cfg s t (.call .refresher label) (s.refreshCall t)
      (s.refreshActs (.call .refresher label) t) := by
  have raised {failure : Failure} {received : Moment} {clock : Binary64}
      (raises : t = s.raises cfg .refresher failure received clock) :
      RefreshMove cfg s t (.call .refresher label) (s.refreshCall t)
        (s.refreshActs (.call .refresher label) t) := by
    subst raises
    simp only [State.raises, held]
    exact refreshMove_of (show _ = [.refreshFailed account _] ++ s.history from rfl) rfl (.inl rfl) rfl
      (by simp [Label.tells, Refresher.entering, Event.refreshAct, refreshFails, State.log])
      (.raises held rfl (isRefreshing_endRefresh _ _))
  have found : s.call .refresher = some call := by simp [State.call, held]
  obtain ⟨pair, trigger, asking | ⟨reply, received, answered⟩⟩ := renews
  · -- The reply has not come yet.
    cases label with
    | dispatch reply =>
      simp only [callStep, found, asking] at taken
      cases taken
      simp only [setPhase, held]
      exact refreshMove_of (show _ = [.replied _] ++ s.history from rfl) rfl (.inl rfl) rfl
        (by simp [Label.tells, Refresher.entering, Event.refreshAct, State.log])
        (.proceeds held (show Call.Renews { call with phase := .answered reply s.now } fresh from
          ⟨pair, trigger, .inr ⟨reply, s.now, rfl⟩⟩) pair rfl)
    | fail failure clock =>
      simp only [callStep, found, asking] at taken
      cases taken
      exact raised rfl
    | _ => simp [callStep, found, asking] at taken
  · cases label with
    | resume clock =>
      cases reply with
      | accepted =>
        simp only [callStep, found, answered] at taken
        cases taken
        have returned : s.accepted cfg .refresher call received =
            { s.authorize call.op call.credentials .tokenRefresh received false with
              store := (s.store.authorize call.credentials).endRefresh account
              refresher := .checking rest } := by
          simp [accepted, trigger, State.returns, authorize, State.log, held]
        rw [returned]
        exact refreshMove_of (show _ = [.authorized _ _ .tokenRefresh _ _ _] ++ s.history from rfl)
          rfl (.inr (.inl rfl)) rfl (by simp [Label.tells, Refresher.entering, Event.refreshAct])
          (.returns held rfl (isRefreshing_endRefresh _ _))
      | refused error =>
        simp only [callStep, found, answered] at taken
        cases taken
        exact raised rfl
    | fail failure clock =>
      simp only [callStep, found, answered] at taken
      cases taken
      exact raised rfl
    -- A renewal has no subscriptions to restore and nothing to announce.
    | _ => simp [callStep, found, answered] at taken

end Moves

section Others

variable {s t : State} {who : Caller}

/-- Another task that goes on inside its `establish` leaves the refresher where it is. -/
theorem refresher_setPhase (other : who ≠ .refresher) (call : Call) (phase : Phase) :
    (s.setPhase who call phase).refresher = s.refresher := by
  unfold setPhase
  cases who with
  | user task => rfl
  | refresher => exact absurd rfl other
  | recovery | reconnect =>
    dsimp only
    split <;> rfl

/-- Another task that returns from its `establish` leaves the refresher where it is. -/
theorem refresher_returns (other : who ≠ .refresher) : (s.returns who).refresher = s.refresher := by
  unfold returns
  cases who with
  | user task => rfl
  | refresher => exact absurd rfl other
  | recovery | reconnect =>
    dsimp only
    split <;> rfl

/-- Another task whose `establish` raises leaves the refresher where it is. -/
theorem refresher_raises (cfg : Config) (other : who ≠ .refresher) (failure : Failure)
    (received : Moment) (clock : Binary64) :
    (s.raises cfg who failure received clock).refresher = s.refresher := by
  unfold raises
  cases who with
  | user task => rfl
  | refresher => exact absurd rfl other
  -- What the recovery does with its failure moves only its own position.
  | recovery =>
    dsimp only
    split
    · exact (recoveryRaises_positions ..).2.1
    · rfl
  | reconnect =>
    dsimp only
    split <;> rfl

/-- A step inside the `establish` of another task leaves the refresher where it is. -/
theorem callStep_refresher {cfg : Config} {label : CallLabel} (other : who ≠ .refresher)
    (taken : s.callStep cfg who label = some t) : t.refresher = s.refresher := by
  unfold callStep at taken
  split at taken
  · cases taken
  split at taken
  all_goals cases taken
  · exact refresher_setPhase other ..
  · -- A session known meanwhile returns at once; another may restore or announce first.
    unfold accepted
    split
    · exact refresher_returns other
    · split <;> exact refresher_setPhase other ..
  · exact refresher_raises cfg other ..
  · exact refresher_raises cfg other ..
  · exact refresher_raises cfg other ..
  · exact refresher_setPhase other ..
  · exact refresher_raises cfg other ..
  · exact refresher_returns other

/-- A step of another task leaves the refresher where it is. -/
theorem step_refresher {cfg : Config} {label : Label} (taken : s.step cfg label = some t)
    (other : label.ofRefresher = false) : t.refresher = s.refresher := by
  cases label with
  | authenticateTrader task credentials time =>
    obtain ⟨-, rfl | rfl⟩ := authenticateTrader_outcomes taken
    · rfl
    · rfl
  | cancelUser task =>
    simp only [step] at taken
    split at taken <;> cases taken
    rfl
  | removeAccount account =>
    cases taken
    rfl
  | connectionLost =>
    cases taken
    rfl
  | authenticateApp =>
    simp only [step] at taken
    split at taken <;> cases taken
    rfl
  | client label =>
    simp only [step, clientStep] at taken
    split at taken <;> cases taken <;> rfl
  -- Calls of the application, the recovery and the reconnection keep their own positions.
  | call who label =>
    refine callStep_refresher (fun own => ?_) taken
    subst own
    cases other
  | refresh label => cases other
  | recovery label => exact (recoveryStep_positions taken).2.1
  | reconnect label => exact (reconnectStep_positions taken).2.1
  | handler task label =>
    have unmoved := handlerStep_positions taken
    simp only [positions, Prod.mk.injEq] at unmoved
    exact unmoved.2.1

end Others

end State

end CTrader.Auth
