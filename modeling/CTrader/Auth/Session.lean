import CTrader.Auth.Credentials
import CTrader.Lib.Dict

/-! Per-account session state, and the store that the parts of the auth package share. -/

namespace CTrader

/-- Why an account authentication is performed. -/
inductive AuthTrigger
  | initial
  | reconnect
  | tokenRefresh
  | accountReauth
deriving DecidableEq, Repr

/-- Zero is a float, so a freshly dropped session can be due at once. -/
theorem representable_zero : Representable 0 := ⟨0, 0, by norm_num, by norm_num, by norm_num, by norm_num⟩

/-- The retry state of a session that the server dropped. -/
structure AwaitingRecovery where
  attempts : Nat := 0
  nextAttemptAt : Binary64 := .finite 0 representable_zero
deriving DecidableEq

/-- A server-side session: live, or dropped with its recovery in flight. -/
inductive Session
  | authorized
  | awaitingRecovery (state : AwaitingRecovery)
deriving DecidableEq

/-- Credentials the package holds, with their session if there is one. -/
structure TrackedAccount where
  credentials : AccountCredentials
  session : Option Session := none
deriving DecidableEq

/-- Every account the client knows, keyed by the account its credentials name. -/
structure SessionStore where
  accounts : Dict Int TrackedAccount
  keyed : ∀ {account tracked}, accounts.get? account = some tracked →
    tracked.credentials.accountId = account
  -- The events of running refreshes, each with the number that identifies the object.
  refreshing : Dict Int Nat := .empty
  nextEvent : Nat := 0

namespace SessionStore

/-- The store of a fresh client. -/
def empty : SessionStore where
  accounts := .empty
  keyed := by
    intro account tracked found
    simp at found

/-- Writing an account under the key that its credentials name keeps every entry under its key. -/
theorem keyed_set (store : SessionStore) (tracked : TrackedAccount) {account : Int}
    {found : TrackedAccount}
    (read : (store.accounts.set tracked.credentials.accountId tracked).get? account = some found) :
    found.credentials.accountId = account := by
  -- Either the read finds the written entry under its own key, or an older one.
  rw [Dict.get?_set] at read
  split at read
  · rename_i same
    cases read
    exact same.symm
  · exact store.keyed read

/-- Replace one entry, under the key its credentials name. -/
def put (store : SessionStore) (tracked : TrackedAccount) : SessionStore :=
  { store with
    accounts := store.accounts.set tracked.credentials.accountId tracked
    keyed := store.keyed_set tracked }

/-- Note that an account's authorization is being replaced. -/
def beginRefresh (store : SessionStore) (account : Int) : SessionStore :=
  match store.refreshing.get? account with
  | some _ => store
  | none => { store with
      refreshing := store.refreshing.set account store.nextEvent
      nextEvent := store.nextEvent + 1 }

/-- Note that it has been replaced, or that the attempt gave up. -/
def endRefresh (store : SessionStore) (account : Int) : SessionStore :=
  { store with refreshing := store.refreshing.erase account }

/-- Whether a refresh is replacing the account's authorization. -/
def isRefreshing (store : SessionStore) (account : Int) : Bool :=
  (store.refreshing.get? account).isSome

/-- Whether the event a refresh was announced with has been set, by leaving the running ones. -/
def isSettled (store : SessionStore) (event : Nat) : Bool :=
  !store.refreshing.values.contains event

/-- Every account held, oldest first. -/
def accountIds (store : SessionStore) : List Int := store.accounts.keys

/-- Whether a tracked account has a live, authorized session. -/
def liveSession (tracked : TrackedAccount) : Bool := tracked.session == some .authorized

/-- Every account with a live, authorized session, oldest first. -/
def authorizedIds (store : SessionStore) : List Int :=
  (store.accounts.entries.filter fun entry => liveSession entry.2).map Prod.fst

/-- Whether the account has a live, authorized session. -/
def isAuthorized (store : SessionStore) (account : Int) : Bool :=
  (store.accounts.get? account).any liveSession

/-- The account's current credentials, if it is held. -/
def credentials (store : SessionStore) (account : Int) : Option AccountCredentials :=
  (store.accounts.get? account).map TrackedAccount.credentials

/-- Credentials for every account held, oldest first. -/
def allCredentials (store : SessionStore) : List AccountCredentials :=
  store.accounts.values.map TrackedAccount.credentials

/-- Every account and its credentials, as a snapshot. -/
def items (store : SessionStore) : List (Int × AccountCredentials) :=
  store.accounts.entries.map fun entry => (entry.1, entry.2.credentials)

/-- Record the account as holding a live session on the current link. -/
def authorize (store : SessionStore) (credentials : AccountCredentials) : SessionStore :=
  store.put ⟨credentials, some .authorized⟩

/-- Swap in rotated tokens, leaving the session state as it was. -/
def replaceCredentials (store : SessionStore) (credentials : AccountCredentials) : SessionStore :=
  store.put ⟨credentials, (store.accounts.get? credentials.accountId).bind TrackedAccount.session⟩

/-- Forget the account entirely. -/
def remove (store : SessionStore) (account : Int) : SessionStore :=
  { store with
    accounts := store.accounts.erase account
    keyed := by
      intro other tracked found
      rw [Dict.get?_erase] at found
      split at found
      · cases found
      · exact store.keyed found }

/-- Forget every server-side session, keeping the credentials. -/
def invalidateAll (store : SessionStore) : SessionStore :=
  { store with
    accounts := store.accounts.mapValues fun tracked => ⟨tracked.credentials, none⟩
    keyed := by
      intro account tracked found
      rw [Dict.get?_mapValues, Option.map_eq_some_iff] at found
      obtain ⟨old, held, rfl⟩ := found
      have key := store.keyed held
      exact key }

/-- Mark a session the server dropped, and say whether that newly flagged the account. -/
def flagForRecovery (store : SessionStore) (account : Int) : SessionStore × Bool :=
  match store.accounts.get? account with
  | none => (store, false)
  | some ⟨_, some (.awaitingRecovery _)⟩ => (store, false)
  | some ⟨credentials, _⟩ => (store.put ⟨credentials, some (.awaitingRecovery {})⟩, true)

/-- Record the next attempt for an account that is still awaiting recovery. -/
def rescheduleRecovery (store : SessionStore) (account : Int) (state : AwaitingRecovery) :
    SessionStore :=
  match store.accounts.get? account with
  | some ⟨credentials, some (.awaitingRecovery _)⟩ =>
    store.put ⟨credentials, some (.awaitingRecovery state)⟩
  | _ => store

/-- Accounts awaiting recovery, each with its credentials and retry state. -/
def awaitingRecovery (store : SessionStore) : List (Int × AccountCredentials × AwaitingRecovery) :=
  store.accounts.entries.filterMap fun entry =>
    match entry.2.session with
    | some (.awaitingRecovery state) => some (entry.1, entry.2.credentials, state)
    | _ => none

section Reading

variable (store : SessionStore)

/-- Reading an account after a replacement finds the new entry there and the old ones elsewhere. -/
theorem get?_put (tracked : TrackedAccount) (account : Int) :
    (store.put tracked).accounts.get? account =
      if account = tracked.credentials.accountId then some tracked
      else store.accounts.get? account :=
  Dict.get?_set ..

/-- An authorization finds the pair live under its account. -/
theorem get?_authorize (credentials : AccountCredentials) (account : Int) :
    (store.authorize credentials).accounts.get? account =
      if account = credentials.accountId then some ⟨credentials, some .authorized⟩
      else store.accounts.get? account :=
  store.get?_put ..

/-- A replacement finds the new pair with the session that was there. -/
theorem get?_replaceCredentials (credentials : AccountCredentials) (account : Int) :
    (store.replaceCredentials credentials).accounts.get? account =
      if account = credentials.accountId then
        some ⟨credentials, (store.accounts.get? account).bind TrackedAccount.session⟩
      else store.accounts.get? account := by
  rw [replaceCredentials, get?_put]
  split
  · rename_i same
    rw [same]
  · rfl

/-- A removal finds nothing under the removed account. -/
theorem get?_remove (gone account : Int) :
    (store.remove gone).accounts.get? account =
      if account = gone then none else store.accounts.get? account :=
  Dict.get?_erase ..

/-- Ending every session finds every pair and no session. -/
theorem get?_invalidateAll (account : Int) :
    store.invalidateAll.accounts.get? account =
      (store.accounts.get? account).map fun tracked => ⟨tracked.credentials, none⟩ :=
  Dict.get?_mapValues ..

/-- Flagging keeps every entry's credentials and never makes a session live. -/
theorem get?_flagForRecovery (flagged account : Int) :
    (store.flagForRecovery flagged).1.accounts.get? account = store.accounts.get? account ∨
      ∃ tracked, store.accounts.get? account = some tracked ∧
        (store.flagForRecovery flagged).1.accounts.get? account =
          some ⟨tracked.credentials, some (.awaitingRecovery {})⟩ := by
  -- Only an account that is held without a pending recovery is written, under its own key.
  unfold flagForRecovery
  split
  · exact .inl rfl
  · exact .inl rfl
  · rename_i credentials session unflagged found
    rw [get?_put]
    split
    · rename_i same
      have key : flagged = credentials.accountId := (store.keyed found).symm
      exact .inr ⟨_, by rw [same, ← key]; exact found, rfl⟩
    · exact .inl rfl

/-- An account that is newly flagged awaits recovery from its first attempt on. -/
theorem get?_flagged {flagged : Int} {after : SessionStore}
    (newly : store.flagForRecovery flagged = (after, true)) :
    ∃ credentials, ∀ account, after.accounts.get? account =
      if account = flagged then some ⟨credentials, some (.awaitingRecovery {})⟩
      else store.accounts.get? account := by
  unfold flagForRecovery at newly
  -- Only an account that is held and not flagged yet is newly flagged.
  split at newly
  · cases newly
  · cases newly
  · rename_i credentials session unflagged found
    cases newly
    have key : credentials.accountId = flagged := store.keyed found
    refine ⟨credentials, fun account => ?_⟩
    rw [get?_put, key]

/-- Rescheduling keeps every entry's credentials and only touches a pending recovery. -/
theorem get?_rescheduleRecovery (charged account : Int) (state : AwaitingRecovery) :
    (store.rescheduleRecovery charged state).accounts.get? account =
      match store.accounts.get? account with
      | some ⟨credentials, some (.awaitingRecovery old)⟩ =>
        some ⟨credentials, some (.awaitingRecovery (if account = charged then state else old))⟩
      | other => other := by
  unfold rescheduleRecovery
  split
  · rename_i credentials old found
    have key : charged = credentials.accountId := (store.keyed found).symm
    rw [get?_put]
    by_cases same : account = charged
    · subst same
      simp [found, ← key]
    · rw [if_neg (by rw [← key]; exact same)]
      split <;> simp_all
  · -- Nothing is written, so the charged account has no recovery to reschedule.
    rename_i untouched
    by_cases same : account = charged
    · subst same
      split
      · rename_i credentials old found
        exact absurd found (untouched credentials old)
      · rfl
    · split <;> simp_all

/-- The pair held for an account names it. -/
theorem credentials_keyed {account : Int} {credentials : AccountCredentials}
    (held : store.credentials account = some credentials) : credentials.accountId = account := by
  obtain ⟨tracked, found, rfl⟩ := Option.map_eq_some_iff.mp held
  exact store.keyed found

/-- Noting a refresh touches no account. -/
@[simp] theorem beginRefresh_accounts (account : Int) :
    (store.beginRefresh account).accounts = store.accounts := by
  unfold beginRefresh
  split <;> rfl

/-- Every listed pair is held for the account it names. -/
theorem credentials_of_mem_allCredentials {credentials : AccountCredentials}
    (listed : credentials ∈ store.allCredentials) :
    store.credentials credentials.accountId = some credentials := by
  simp only [allCredentials, Dict.values, List.map_map, List.mem_map, Function.comp] at listed
  obtain ⟨⟨account, tracked⟩, member, rfl⟩ := listed
  have found := store.accounts.mem_entries_iff.mp member
  simp [SessionStore.credentials, store.keyed found, found]

/-- Every account listed for recovery is held, awaiting, with the listed pair and state. -/
theorem mem_awaitingRecovery {account : Int} {credentials : AccountCredentials}
    {state : AwaitingRecovery} :
    (account, credentials, state) ∈ store.awaitingRecovery ↔
      store.accounts.get? account = some ⟨credentials, some (.awaitingRecovery state)⟩ := by
  simp only [SessionStore.awaitingRecovery, List.mem_filterMap]
  -- The listing filters the entries by their session.
  constructor
  · rintro ⟨⟨key, ⟨held, session⟩⟩, member, listed⟩
    have found := store.accounts.mem_entries_iff.mp member
    split at listed
    · rename_i pending
      cases listed
      simp only at pending
      rw [found, pending]
    · cases listed
  · intro found
    exact ⟨(account, _), store.accounts.mem_entries_iff.mpr found, rfl⟩

/-- The queue names every account once. -/
theorem awaitingRecovery_nodup : (store.awaitingRecovery.map Prod.fst).Nodup := by
  -- Each entry of the queue keeps the key of the entry it was read from.
  have names : ∀ entries : List (Int × TrackedAccount),
      ((entries.filterMap fun entry =>
        match entry.2.session with
        | some (.awaitingRecovery state) => some (entry.1, entry.2.credentials, state)
        | _ => none).map Prod.fst).Sublist (entries.map Prod.fst) := by
    intro entries
    induction entries with
    | nil => exact .slnil
    | cons entry rest ih =>
      rcases entry with ⟨account, credentials, _ | _ | state⟩
      · exact ih.cons _
      · exact ih.cons _
      · exact ih.cons_cons _
  exact store.accounts.nodup.sublist (names _)

end Reading

end SessionStore

end CTrader
