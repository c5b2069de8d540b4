import CTrader.Auth.Session
import CTrader.Lib.Insertion

/-! The session store after any history of its operations: what it holds, and in which order. -/

namespace CTrader

/-- The operations that change the accounts of a store. -/
inductive StoreOp
  | authorize (credentials : AccountCredentials)
  | replaceCredentials (credentials : AccountCredentials)
  | remove (account : Int)
  | invalidateAll
  | flagForRecovery (account : Int)
  | rescheduleRecovery (account : Int) (state : AwaitingRecovery)

namespace StoreOp

/-- The store after the operation. -/
def apply (op : StoreOp) (store : SessionStore) : SessionStore :=
  match op with
  | authorize credentials => store.authorize credentials
  | replaceCredentials credentials => store.replaceCredentials credentials
  | remove account => store.remove account
  | invalidateAll => store.invalidateAll
  | flagForRecovery account => (store.flagForRecovery account).1
  | rescheduleRecovery account state => store.rescheduleRecovery account state

/-- The one account that the operation is about. -/
def account? : StoreOp → Option Int
  | authorize credentials | replaceCredentials credentials => some credentials.accountId
  | remove account | flagForRecovery account | rescheduleRecovery account _ => some account
  | invalidateAll => none

/-- What the operation may do to the accounts held: only some insert, and only one removes. -/
def touch : StoreOp → Dict.Touch Int
  | authorize credentials | replaceCredentials credentials => .write credentials.accountId
  | remove account => .erase account
  | invalidateAll | flagForRecovery _ | rescheduleRecovery _ _ => .keep

end StoreOp

namespace SessionStore

/-- The store that a history of operations leaves, newest first, from an empty one on. -/
def after : List StoreOp → SessionStore
  | [] => .empty
  | op :: earlier => op.apply (after earlier)

/-- The accounts without a server-side session. -/
def idleIds (store : SessionStore) : List Int :=
  (store.accounts.entries.filter fun entry => entry.2.session.isNone).map Prod.fst

section Views

variable (store : SessionStore)

/-- Flagging writes over an account that is held, so no account comes or goes. -/
theorem accountIds_flagForRecovery (account : Int) :
    (store.flagForRecovery account).1.accountIds = store.accountIds := by
  -- Only the branch that writes needs an account that is held already.
  unfold flagForRecovery
  split
  · rfl
  · rfl
  · rename_i credentials session unflagged found
    have key : credentials.accountId = account := store.keyed found
    exact Dict.keys_set_of_found (key ▸ found) _

/-- Rescheduling writes over an account that is held, so no account comes or goes. -/
theorem accountIds_rescheduleRecovery (account : Int) (state : AwaitingRecovery) :
    (store.rescheduleRecovery account state).accountIds = store.accountIds := by
  unfold rescheduleRecovery
  split
  · rename_i credentials old found
    have key : credentials.accountId = account := store.keyed found
    exact Dict.keys_set_of_found (key ▸ found) _
  · rfl

/-- Every operation does to the accounts held what it may do to them. -/
theorem accountIds_apply (op : StoreOp) :
    (op.apply store).accountIds = op.touch.keysAfter store.accountIds := by
  -- One case for each operation, with what the dictionary says of it.
  cases op with
  | authorize credentials => exact store.accounts.keys_set credentials.accountId _
  | replaceCredentials credentials => exact store.accounts.keys_set credentials.accountId _
  | remove account => exact store.accounts.keys_erase account
  | invalidateAll => exact store.accounts.keys_mapValues _
  | flagForRecovery account => exact store.accountIds_flagForRecovery account
  | rescheduleRecovery account state => exact store.accountIds_rescheduleRecovery account state

/-- No operation but a removal moves an account from its place. -/
theorem prefix_accountIds_apply {op : StoreOp} (kept : ∀ account, op ≠ .remove account) :
    store.accountIds <+: (op.apply store).accountIds := by
  rw [accountIds_apply]
  have written (account : Int) :
      store.accountIds <+: (Dict.Touch.write account).keysAfter store.accountIds := by
    rw [Dict.Touch.keysAfter]
    split
    · exact List.prefix_rfl
    · exact List.prefix_append _ _
  cases op with
  | authorize credentials | replaceCredentials credentials => exact written credentials.accountId
  | remove account =>
    -- A removal is the one operation that was excluded.
    exact absurd rfl (kept account)
  | invalidateAll | flagForRecovery account | rescheduleRecovery account state =>
    exact List.prefix_rfl

/-- The accounts held are listed in the order of their insertion since their last removal. -/
theorem inOrder_after (history : List StoreOp) :
    Dict.InOrder (after history).accountIds (history.map StoreOp.touch) := by
  -- The induction is on the history, and the newest operation is the last step.
  induction history with
  | nil => exact Dict.inOrder_nil
  | cons op earlier ih =>
    rw [after, accountIds_apply]
    exact ih.touch op.touch

/-- Every entry stands under the account that its pair names. -/
theorem keyed_entries {entry : Int × TrackedAccount} (member : entry ∈ store.accounts.entries) :
    entry.2.credentials.accountId = entry.1 :=
  store.keyed (store.accounts.mem_entries_iff.mp member)

/-- The pairs are listed as their accounts are. -/
theorem allCredentials_accountIds :
    store.allCredentials.map AccountCredentials.accountId = store.accountIds := by
  -- Each pair names the account that it is stored under.
  simp only [allCredentials, accountIds, Dict.values, Dict.keys, List.map_map]
  exact List.map_congr_left fun entry member => store.keyed_entries member

/-- The items are the accounts and their pairs. -/
theorem items_eq : store.items.map Prod.fst = store.accountIds ∧
    store.items.map Prod.snd = store.allCredentials := by
  simp only [items, accountIds, allCredentials, Dict.keys, Dict.values, List.map_map]
  exact ⟨rfl, rfl⟩

/-- The live accounts are listed as they are among all accounts. -/
theorem authorizedIds_eq : store.authorizedIds = store.accountIds.filter store.isAuthorized := by
  simp only [authorizedIds, accountIds, Dict.keys, List.filter_map]
  refine congrArg (List.map Prod.fst) (List.filter_congr fun entry member => ?_)
  -- The entry is what its account reads.
  have found := store.accounts.mem_entries_iff.mp (show (entry.1, entry.2) ∈ _ from member)
  simp only [Function.comp, isAuthorized, found, Option.any_some]

/-- Every account is live, awaits recovery or has no session, and is only one of these. -/
theorem situations_perm :
    (store.authorizedIds ++ store.awaitingRecovery.map Prod.fst ++ store.idleIds).Perm
      store.accountIds := by
  simp only [authorizedIds, awaitingRecovery, idleIds, accountIds, Dict.keys]
  -- The three views walk the same entries, so the induction is on these.
  generalize store.accounts.entries = entries
  induction entries with
  | nil => exact .nil
  | cons entry rest ih =>
    -- The head is in exactly one of the three lists.
    rcases entry with ⟨account, credentials, _ | _ | state⟩
    · exact List.perm_middle.trans (ih.cons account)
    · exact ih.cons account
    · rw [List.append_assoc] at ih ⊢
      exact List.perm_middle.trans (ih.cons account)

/-- An operation about one account leaves every other account as it was. -/
theorem get?_apply_of_ne {op : StoreOp} {account other : Int} (about : op.account? = some account)
    (different : other ≠ account) :
    (op.apply store).accounts.get? other = store.accounts.get? other := by
  cases op with
  | authorize credentials =>
    cases about
    exact (store.get?_authorize credentials other).trans (if_neg different)
  | replaceCredentials credentials =>
    cases about
    exact (store.get?_replaceCredentials credentials other).trans (if_neg different)
  | remove gone =>
    cases about
    exact (store.get?_remove account other).trans (if_neg different)
  | invalidateAll => cases about
  | flagForRecovery flagged =>
    cases about
    simp only [StoreOp.apply, flagForRecovery]
    split
    · rfl
    · rfl
    · -- The entry is written under the account that its pair names.
      rename_i credentials session unflagged found
      have key : credentials.accountId = account := store.keyed found
      rw [get?_put, if_neg (by rw [key]; exact different)]
  | rescheduleRecovery charged state =>
    cases about
    simp only [StoreOp.apply, rescheduleRecovery]
    split
    · rename_i credentials old found
      have key : credentials.accountId = account := store.keyed found
      rw [get?_put, if_neg (by rw [key]; exact different)]
    · rfl

/-- Only an account that awaits recovery is rescheduled. -/
theorem rescheduleRecovery_eq_self {account : Int} (state : AwaitingRecovery)
    (settled : ∀ credentials old, store.accounts.get? account ≠
      some ⟨credentials, some (.awaitingRecovery old)⟩) :
    store.rescheduleRecovery account state = store := by
  unfold rescheduleRecovery
  split
  · rename_i credentials old found
    exact absurd found (settled credentials old)
  · rfl

/-- Only an account that is held and does not await recovery is flagged. -/
theorem flagForRecovery_eq_self {account : Int}
    (pending : ∀ tracked, store.accounts.get? account = some tracked →
      ∃ state, tracked.session = some (.awaitingRecovery state)) :
    (store.flagForRecovery account).1 = store := by
  unfold flagForRecovery
  split
  · rfl
  · rfl
  · -- It is held and not flagged, which the hypothesis rules out.
    rename_i credentials session unflagged found
    obtain ⟨state, awaits⟩ := pending _ found
    simp only at awaits
    subst awaits
    exact absurd rfl (unflagged state)

end Views

end SessionStore

/-- What a store has to do with the history that it came from, newest operation first. -/
structure StoreSound (history : List StoreOp) (store : SessionStore) : Prop where
  -- Every account stands under its own name, once.
  keyed : ∀ account tracked, (account, tracked) ∈ store.accounts.entries →
    tracked.credentials.accountId = account
  once : store.accountIds.Nodup
  -- Every account is in one of three situations, and in only one.
  situations : (store.authorizedIds ++ store.awaitingRecovery.map Prod.fst ++ store.idleIds).Perm
    store.accountIds
  apart : (store.authorizedIds ++ store.awaitingRecovery.map Prod.fst ++ store.idleIds).Nodup
  -- The accounts are in the order of their insertion since their last removal, in every view.
  inOrder : Dict.InOrder store.accountIds (history.map StoreOp.touch)
  credentials : store.allCredentials.map AccountCredentials.accountId = store.accountIds
  items : store.items.map Prod.fst = store.accountIds ∧
    store.items.map Prod.snd = store.allCredentials
  authorized : store.authorizedIds = store.accountIds.filter store.isAuthorized
  -- An update leaves the accounts in their places, and at most puts one behind them.
  updates : ∀ op : StoreOp, (∀ account, op ≠ .remove account) →
    store.accountIds <+: (op.apply store).accountIds
  -- A dropped link ends every session and leaves every pair.
  invalidated : ∀ account, store.invalidateAll.accounts.get? account =
    (store.accounts.get? account).map fun tracked => ⟨tracked.credentials, none⟩
  invalidatedIds : store.invalidateAll.accountIds = store.accountIds
  -- A late failure or a repeated report changes nothing, and no account comes back by either.
  rescheduledIds : ∀ account state, (store.rescheduleRecovery account state).accountIds = store.accountIds
  rescheduled : ∀ account state, (∀ credentials old, store.accounts.get? account ≠
    some ⟨credentials, some (.awaitingRecovery old)⟩) → store.rescheduleRecovery account state = store
  flaggedIds : ∀ account, (store.flagForRecovery account).1.accountIds = store.accountIds
  flagged : ∀ account, (∀ tracked, store.accounts.get? account = some tracked →
    ∃ state, tracked.session = some (.awaitingRecovery state)) →
      (store.flagForRecovery account).1 = store
  -- An operation is about one account and no other.
  frame : ∀ (op : StoreOp) account other, op.account? = some account → other ≠ account →
    (op.apply store).accounts.get? other = store.accounts.get? other

/-- Every history of operations on an empty store leaves a store that is sound. -/
theorem store_sound (history : List StoreOp) :
    StoreSound history (SessionStore.after history) := by
  have once := (SessionStore.after history).accounts.nodup
  have situations := (SessionStore.after history).situations_perm
  -- Each field is one law of the store, by its own lemma.
  exact {
    keyed := fun account tracked member => SessionStore.keyed_entries _ member
    once := once
    situations := situations
    apart := situations.nodup_iff.mpr once
    inOrder := SessionStore.inOrder_after history
    credentials := SessionStore.allCredentials_accountIds _
    items := SessionStore.items_eq _
    authorized := SessionStore.authorizedIds_eq _
    updates := fun op => SessionStore.prefix_accountIds_apply _
    invalidated := SessionStore.get?_invalidateAll _
    invalidatedIds := Dict.keys_mapValues _ _
    rescheduledIds := SessionStore.accountIds_rescheduleRecovery _
    rescheduled := fun account state => SessionStore.rescheduleRecovery_eq_self _ state
    flaggedIds := SessionStore.accountIds_flagForRecovery _
    flagged := fun account => SessionStore.flagForRecovery_eq_self _
    frame := fun op account other about different => SessionStore.get?_apply_of_ne _ about different }

end CTrader
