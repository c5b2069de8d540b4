import CTrader.Lib.SortedSet
import Mathlib.Data.List.Induction
import Mathlib.Data.Prod.Lex
import Mathlib.Data.String.Basic

/-! What an account has asked of the market data, and its restoration on a fresh session. -/

namespace CTrader.MarketData

/-- The periods of a trendbar. -/
inductive TrendbarPeriod
  | m1 | m2 | m3 | m4 | m5 | m10 | m15 | m30 | h1 | h4 | h12 | d1 | w1 | mn1
deriving DecidableEq, Repr

/-- The name of a period, by which trendbars are sorted. -/
def TrendbarPeriod.name : TrendbarPeriod → String
  | .m1 => "M1"
  | .m2 => "M2"
  | .m3 => "M3"
  | .m4 => "M4"
  | .m5 => "M5"
  | .m10 => "M10"
  | .m15 => "M15"
  | .m30 => "M30"
  | .h1 => "H1"
  | .h4 => "H4"
  | .h12 => "H12"
  | .d1 => "D1"
  | .w1 => "W1"
  | .mn1 => "MN1"

/-- No two periods have the same name. -/
theorem TrendbarPeriod.name_injective : Function.Injective TrendbarPeriod.name := by
  intro period other same
  cases period <;> cases other <;> first | rfl | (exact absurd same (by decide))

/-- The trendbars of one symbol and period. -/
structure Candle where
  symbol : Int
  period : TrendbarPeriod
deriving DecidableEq, Repr

/-- Trendbars are ordered by their symbol and then by the name of their period. -/
instance : LinearOrder Candle :=
  LinearOrder.lift' (fun candle => toLex (candle.symbol, candle.period.name)) (by
    intro candle other same
    obtain ⟨symbol, name⟩ := Prod.mk.inj (toLex.injective same)
    have period := TrendbarPeriod.name_injective name
    cases candle
    cases other
    simp_all)

/-- What one account has asked for, kept so it can be re-applied later. -/
structure Standing where
  spots : SortedSet Int := ∅
  trendbars : SortedSet Candle := ∅
  depth : SortedSet Int := ∅
deriving DecidableEq

/-- The request of a call that subscribes or unsubscribes. -/
inductive Request
  | spots (symbols : List Int)
  | trendbars (candle : Candle)
  | depth (symbols : List Int)
deriving DecidableEq, Repr

/-- One thing an account can be subscribed to. -/
inductive Item
  | spots (symbol : Int)
  | trendbars (candle : Candle)
  | depth (symbol : Int)
deriving DecidableEq, Repr

/-- The things a request names. -/
def Request.items : Request → List Item
  | .spots symbols => symbols.map .spots
  | .trendbars candle => [.trendbars candle]
  | .depth symbols => symbols.map .depth

namespace Standing

/-- The record holds a thing. -/
def Holds (standing : Standing) : Item → Prop
  | .spots symbol => symbol ∈ standing.spots
  | .trendbars candle => candle ∈ standing.trendbars
  | .depth symbol => symbol ∈ standing.depth

instance (standing : Standing) : DecidablePred standing.Holds
  | .spots symbol => inferInstanceAs (Decidable (symbol ∈ standing.spots))
  | .trendbars candle => inferInstanceAs (Decidable (candle ∈ standing.trendbars))
  | .depth symbol => inferInstanceAs (Decidable (symbol ∈ standing.depth))

/-- What a subscription that succeeded adds. -/
def record (standing : Standing) : Request → Standing
  | .spots symbols => { standing with spots := standing.spots.update symbols }
  | .trendbars candle => { standing with trendbars := standing.trendbars.insert candle }
  | .depth symbols => { standing with depth := standing.depth.update symbols }

/-- What an unsubscription that succeeded takes away. -/
def withdraw (standing : Standing) : Request → Standing
  | .spots symbols => { standing with spots := standing.spots.differenceUpdate symbols }
  | .trendbars candle => { standing with trendbars := standing.trendbars.erase candle }
  | .depth symbols => { standing with depth := standing.depth.differenceUpdate symbols }

/-- A subscription adds what it names. -/
@[simp] theorem holds_record {standing : Standing} {request : Request} {item : Item} :
    (standing.record request).Holds item ↔ item ∈ request.items ∨ standing.Holds item := by
  cases request <;> cases item <;> simp [record, Holds, Request.items]

/-- An unsubscription takes away what it names. -/
@[simp] theorem holds_withdraw {standing : Standing} {request : Request} {item : Item} :
    (standing.withdraw request).Holds item ↔ item ∉ request.items ∧ standing.Holds item := by
  cases request <;> cases item <;> simp [withdraw, Holds, Request.items]

/-- A record is what it holds. -/
theorem eq_of_holds {standing other : Standing}
    (same : ∀ item, standing.Holds item ↔ other.Holds item) : standing = other := by
  obtain ⟨spots, trendbars, depth⟩ := standing
  obtain ⟨spots', trendbars', depth'⟩ := other
  have first : spots = spots' := SortedSet.eq_of_mem_iff fun symbol => same (.spots symbol)
  have second : trendbars = trendbars' :=
    SortedSet.eq_of_mem_iff fun candle => same (.trendbars candle)
  have third : depth = depth' := SortedSet.eq_of_mem_iff fun symbol => same (.depth symbol)
  rw [first, second, third]

/-- Recording what the record holds already changes nothing. -/
theorem record_of_holds {standing : Standing} {request : Request}
    (held : ∀ item ∈ request.items, standing.Holds item) : standing.record request = standing := by
  refine eq_of_holds fun item => ?_
  rw [holds_record]
  constructor
  · rintro (named | before)
    · exact held item named
    · exact before
  · exact .inr

end Standing

/-- What a session of the server is subscribed to. -/
abbrev Session := Standing

/-- Whether a server takes a subscription: that of a trendbar needs the spots of its symbol. -/
def Session.accepts (session : Session) : Request → Bool
  | .spots _ | .depth _ => true
  | .trendbars candle => candle.symbol ∈ session.spots

/-- An account, seen from both sides: what stands for it, and what its session is subscribed to. -/
structure Account where
  standing : Standing := {}
  session : Session := {}
deriving DecidableEq

/-- A call that raised: the request that was refused, and the account as it was left. -/
structure Refusal where
  request : Request
  left : Account
deriving DecidableEq

/-- Every standing trendbar has the spots of its symbol standing. -/
def Covered (standing : Standing) : Prop :=
  ∀ candle ∈ standing.trendbars, candle.symbol ∈ standing.spots

namespace Account

/-- `subscribe_spots`, `subscribe_trendbars` and `subscribe_depth`: what the server took is recorded. -/
def subscribe (request : Request) (account : Account) : Except Refusal Account :=
  if account.session.accepts request then
    .ok ⟨account.standing.record request, Standing.record account.session request⟩
  else .error ⟨request, account⟩

/-- `unsubscribe_spots`, `unsubscribe_trendbars` and `unsubscribe_depth`. -/
def unsubscribe (request : Request) (account : Account) : Account :=
  ⟨account.standing.withdraw request, Standing.withdraw account.session request⟩

/-- The first part of `restore`. -/
def restoreSpots (account : Account) : Except Refusal Account :=
  if account.standing.spots.elements = [] then .ok account
  else account.subscribe (.spots account.standing.spots.elements)

/-- The second part of `restore`: trendbars are rejected unless spots for the symbol are live. -/
def restoreTrendbars (account : Account) : Except Refusal Account :=
  account.standing.trendbars.elements.foldlM
    (fun account candle => account.subscribe (.trendbars candle)) account

/-- The last part of `restore`. -/
def restoreDepth (account : Account) : Except Refusal Account :=
  if account.standing.depth.elements = [] then .ok account
  else account.subscribe (.depth account.standing.depth.elements)

/-- Re-apply the standing subscriptions, up to the first failure, which is then published. -/
def restore (account : Account) : Except Refusal Account := do
  let account ← account.restoreSpots
  let account ← account.restoreTrendbars
  account.restoreDepth

/-- The account on a fresh session. -/
def renewed (account : Account) : Account := { account with session := {} }

/-- An account whose subscriptions a fresh session can be given, all of them and without a failure. -/
def Restorable (account : Account) : Prop :=
  account.renewed.restore = .ok ⟨account.standing, account.standing⟩

/-- On a fresh session the standing spots are all taken, and recorded once more. -/
theorem restoreSpots_eq (standing : Standing) :
    restoreSpots ⟨standing, {}⟩ = .ok ⟨standing, { spots := standing.spots }⟩ := by
  unfold restoreSpots
  split
  · -- With no spots standing no request is made, and the session's spots stay empty.
    rename_i none
    have empty : standing.spots = ∅ := SortedSet.ext none
    simp only [empty]
  · -- The request names what stands, so recording it changes nothing.
    have kept : standing.record (.spots standing.spots.elements) = standing :=
      Standing.record_of_holds fun item named => by
        obtain ⟨symbol, member, rfl⟩ := List.mem_map.mp named
        exact member
    simp only [subscribe, Session.accepts, if_true, kept]
    simp only [Standing.record, SortedSet.empty_update]

/-- Trendbars whose symbols are subscribed are taken one after the other. -/
theorem restore_trendbars {standing : Standing} (candles : List Candle) :
    ∀ session : Session, (∀ candle ∈ candles, candle ∈ standing.trendbars) →
      (∀ candle ∈ candles, candle.symbol ∈ session.spots) →
      candles.foldlM (fun account candle => subscribe (.trendbars candle) account)
          (⟨standing, session⟩ : Account) =
        .ok ⟨standing, { session with trendbars := session.trendbars.update candles }⟩ := by
  -- The induction is on the trendbars that are left, whatever the session has by then.
  induction candles with
  | nil => exact fun session _ _ => rfl
  | cons candle rest ih =>
    intro session standing_all spots_all
    have live : candle.symbol ∈ session.spots := spots_all candle List.mem_cons_self
    have kept : standing.record (.trendbars candle) = standing :=
      Standing.record_of_holds fun item named => by
        obtain rfl := List.mem_singleton.mp named
        exact standing_all candle List.mem_cons_self
    rw [List.foldlM_cons, subscribe]
    simp only [Session.accepts, live, decide_true, if_true, kept]
    exact ih _ (fun other member => standing_all other (List.mem_cons_of_mem _ member))
      fun other member => spots_all other (List.mem_cons_of_mem _ member)

/-- A trendbar whose symbol is not subscribed ends the restoration. -/
theorem restore_dangling {candles : List Candle} :
    ∀ account : Account, (∃ candle ∈ candles, candle.symbol ∉ account.session.spots) →
      ∃ refusal, candles.foldlM (fun account candle => subscribe (.trendbars candle) account) account =
        .error refusal := by
  induction candles with
  | nil => simp
  | cons candle rest ih =>
    intro account dangling
    rw [List.foldlM_cons, subscribe]
    by_cases live : candle.symbol ∈ account.session.spots
    · -- This one is taken, and the spots of the session are what they were.
      simp only [Session.accepts, live, decide_true, if_true]
      obtain ⟨other, member, missing⟩ := dangling
      rcases List.mem_cons.mp member with rfl | later
      · exact (missing live).elim
      · exact ih _ ⟨other, later, missing⟩
    · simp only [Session.accepts, live, decide_false, Bool.false_eq_true, if_false]
      exact ⟨_, rfl⟩

/-- The depth that stands is taken, and recorded once more. -/
theorem restoreDepth_eq (standing : Standing) (session : Session) (fresh : session.depth = ∅) :
    restoreDepth ⟨standing, session⟩ = .ok ⟨standing, { session with depth := standing.depth }⟩ := by
  unfold restoreDepth
  split
  · -- Without depth no request is made either.
    rename_i none
    have empty : standing.depth = ∅ := SortedSet.ext none
    simp only [empty, ← fresh]
  · -- Recording what stands already changes nothing.
    have kept : standing.record (.depth standing.depth.elements) = standing :=
      Standing.record_of_holds fun item named => by
        obtain ⟨symbol, member, rfl⟩ := List.mem_map.mp named
        exact member
    simp only [subscribe, Session.accepts, if_true, kept]
    simp only [Standing.record, fresh, SortedSet.empty_update]

/-- Restoration goes through, and leaves the session with exactly what stands, if and only if no
trendbar stands without the spots of its symbol. -/
theorem restorable_iff (account : Account) : account.Restorable ↔ Covered account.standing := by
  obtain ⟨standing, session⟩ := account
  have unfolded : (⟨standing, {}⟩ : Account).restore =
      ((⟨standing, { spots := standing.spots }⟩ : Account).restoreTrendbars).bind restoreDepth := by
    rw [restore, restoreSpots_eq]
    rfl
  rw [Restorable, renewed, unfolded, restoreTrendbars]
  constructor
  · -- A trendbar without its spots is refused on the renewed session.
    intro restored candle member
    by_contra missing
    obtain ⟨refusal, refused⟩ := restore_dangling
      (⟨standing, { spots := standing.spots }⟩ : Account) ⟨candle, member, missing⟩
    rw [refused] at restored
    cases restored
  · -- The candles are walked with the spots of the session in place.
    intro covered
    have walked := restore_trendbars standing.trendbars.elements { spots := standing.spots }
      (fun _ member => member) covered
    rw [walked, Except.bind, restoreDepth_eq _ _ rfl, SortedSet.empty_update]

end Account

/-- What can happen to an account: a call of its user that succeeds, or the end of its session. -/
inductive Happening
  | subscribe (request : Request)
  | unsubscribe (request : Request)
  -- A fresh session, on which `restore` was run.
  | renew
deriving DecidableEq, Repr

/-- The account after something happened to it, unless the server refuses the call. -/
def Happening.perform (account : Account) : Happening → Option Account
  | .subscribe request => (account.subscribe request).toOption
  | .unsubscribe request => some (account.unsubscribe request)
  | .renew =>
    match account.renewed.restore with
    | .ok restored => some restored
    | .error refusal => some refusal.left

/-- The account after a history. -/
def after (history : List Happening) : Option Account := history.foldlM Happening.perform {}

/-- An account whose session has the spots that stand, and whose trendbars have theirs. -/
structure InStep (account : Account) : Prop where
  covered : Covered account.standing
  spots : account.session.spots = account.standing.spots

/-- What happens to an account keeps it in step, unless it takes the spots of a standing trendbar. -/
theorem InStep.perform {account next : Account} {happening : Happening} (holds : InStep account)
    (spared : ∀ symbols, happening = .unsubscribe (.spots symbols) →
      ∀ candle ∈ account.standing.trendbars, candle.symbol ∉ symbols)
    (performed : happening.perform account = some next) : InStep next := by
  obtain ⟨covered, spots⟩ := holds
  cases happening with
  | subscribe request =>
    simp only [Happening.perform, Account.subscribe] at performed
    split at performed
    · rename_i taken
      cases performed
      cases request with
      | spots symbols =>
        refine ⟨fun candle member => ?_, ?_⟩
        · exact SortedSet.mem_update.mpr (.inr (covered candle member))
        · simp only [Standing.record, spots]
      | trendbars candle =>
        refine ⟨fun other member => ?_, spots⟩
        -- The server takes a trendbar only with the spots of its symbol, which stand as well.
        have live : candle.symbol ∈ account.session.spots := of_decide_eq_true taken
        rcases SortedSet.mem_insert.mp member with rfl | before
        · rw [spots] at live
          exact live
        · exact covered other before
      | depth symbols => exact ⟨covered, spots⟩
    · cases performed
  | unsubscribe request =>
    cases performed
    cases request with
    | spots symbols =>
      refine ⟨fun candle member => ?_, ?_⟩
      · have kept := spared symbols rfl candle member
        exact SortedSet.mem_differenceUpdate.mpr ⟨kept, covered candle member⟩
      · simp only [Account.unsubscribe, Standing.withdraw, spots]
    | trendbars candle =>
      refine ⟨fun other member => covered other ?_, spots⟩
      exact (SortedSet.mem_erase.mp member).2
    | depth symbols => exact ⟨covered, spots⟩
  | renew =>
    have restored : account.renewed.restore = .ok ⟨account.standing, account.standing⟩ :=
      account.restorable_iff.mpr covered
    simp only [Happening.perform, restored] at performed
    cases performed
    exact ⟨covered, rfl⟩

/-- A history that goes on does so from where it was. -/
theorem after_append (past : List Happening) (happening : Happening) :
    after (past ++ [happening]) = (after past).bind happening.perform := by
  simp only [after, List.foldlM_append, List.foldlM_cons, List.foldlM_nil, bind, pure,
    Option.bind_fun_some]

/-- Restoration goes through on a fresh session if and only if every standing trendbar has the spots
of its symbol standing; and it goes through at every point of a history of successful calls, with any
number of fresh sessions in between, if and only if no `unsubscribe_spots` of the history names the
symbol of a trendbar that stands. -/
theorem restorable_along_history (history : List Happening) :
    (∀ account : Account, account.Restorable ↔ Covered account.standing) ∧
    ((∀ past, past <+: history → ∀ account, after past = some account → account.Restorable) ↔
      ∀ past symbols, past ++ [.unsubscribe (.spots symbols)] <+: history →
        ∀ account, after past = some account →
          ∀ candle ∈ account.standing.trendbars, candle.symbol ∉ symbols) := by
  refine ⟨Account.restorable_iff, fun restorable past symbols within account reached candle member
    named => ?_, fun spared past within account reached => ?_⟩
  · -- The trendbar is left without its spots, right after the call.
    have next : after (past ++ [.unsubscribe (.spots symbols)]) =
        some (account.unsubscribe (.spots symbols)) := by
      rw [after_append, reached]
      rfl
    have covered := (Account.restorable_iff _).mp (restorable _ within _ next)
    have live := covered candle member
    exact (SortedSet.mem_differenceUpdate.mp live).1 named
  · -- The induction is on the past, which grows at its end.
    suffices holds : InStep account from (Account.restorable_iff _).mpr holds.covered
    induction past using List.reverseRecOn generalizing account with
    | nil =>
      cases reached
      exact ⟨fun candle member => (SortedSet.not_mem_empty _ member).elim, rfl⟩
    | append_singleton past happening ih =>
      rw [after_append] at reached
      obtain ⟨before, earlier, performed⟩ := Option.bind_eq_some_iff.mp reached
      have holds := ih ((List.prefix_append _ _).trans within) before earlier
      refine holds.perform (fun symbols call => ?_) performed
      subst call
      exact spared past symbols within before earlier

/-- A trendbar whose spots are unsubscribed blocks every later restoration. -/
theorem dangling_trendbar_not_restored :
    after [.subscribe (.spots [1]), .subscribe (.trendbars ⟨1, .m1⟩), .subscribe (.depth [1]),
        .unsubscribe (.spots [1])] =
      some ⟨⟨∅, SortedSet.insert ∅ ⟨1, .m1⟩, SortedSet.insert ∅ 1⟩,
        ⟨∅, SortedSet.insert ∅ ⟨1, .m1⟩, SortedSet.insert ∅ 1⟩⟩ ∧
    Account.restore ⟨⟨∅, SortedSet.insert ∅ ⟨1, .m1⟩, SortedSet.insert ∅ 1⟩, {}⟩ =
      .error ⟨.trendbars ⟨1, .m1⟩,
        ⟨⟨∅, SortedSet.insert ∅ ⟨1, .m1⟩, SortedSet.insert ∅ 1⟩, {}⟩⟩ := by
  decide +kernel

end CTrader.MarketData
