import CTrader.Auth.Frames

/-! What one step of a `handle_account_disconnect` can do. -/

namespace CTrader.Auth

/-- The account that a report is checking, from the probe to the end of the publication. -/
def Handler.checks : Handler → Option Int
  | .waiting _ _ => none
  | .probing account _ | .publishing account => some account

/-- The steps of one report, each with the state it leads to. -/
inductive Reporting (s : State) (task : Nat) : HandlerLabel → State → Prop
  -- A refresh of the account is running, and the report waits for its event.
  | waits {account : Int} {event : Nat} (free : s.handlers.get? task = none)
      (running : s.store.refreshing.get? account = some event) :
      Reporting s task (.report account)
        { s with handlers := s.handlers.set task (.waiting account event) }
  -- There is a session to lose and nobody checks it, so the account is probed.
  | probes {label : HandlerLabel} {account : Int}
      (begins : label = .report account ∧ s.handlers.get? task = none ∧
          s.store.refreshing.get? account = none ∨
        label = .settled ∧ ∃ event, s.handlers.get? task = some (.waiting account event))
      (live : s.store.isAuthorized account = true) (alone : account ∉ s.verifying) :
      Reporting s task label
        { s with
          verifying := account :: s.verifying
          handlers := s.handlers.set task (.probing account none) }
  -- The report ends without a check, or without having made one.
  | drops {label : HandlerLabel} (unchecked : (s.handlers.get? task).bind Handler.checks = none) :
      Reporting s task label { s with handlers := s.handlers.erase task }
  | answered {account : Int} {reply : AuthReply}
      (probing : s.handlers.get? task = some (.probing account none)) :
      Reporting s task (.dispatch reply)
        { s with handlers := s.handlers.set task (.probing account (some reply)) }
  -- The check ends with nothing learnt, the session alive or the publication done.
  | ends {label : HandlerLabel} {account : Int}
      (checking : (s.handlers.get? task).bind Handler.checks = some account) :
      Reporting s task label (s.endReport task account)
  -- The probe was refused for any reason but the token.
  | loses {account : Int} {error : APIError}
      (probing : s.handlers.get? task = some (.probing account (some (.refused error))))
      (session : error.isTokenFailure = false) :
      Reporting s task .resume (s.reportDropped task account)

/-- The step of a report that reads a refusal of its probe, for any reason but the token. -/
structure Refused (s : State) (label : Label) (task : Nat) (account : Int) : Prop where
  resumed : label = .handler task .resume
  answer : ∃ error : APIError,
    s.handlers.get? task = some (.probing account (some (.refused error))) ∧
      error.isTokenFailure = false

namespace State

/-- A report checks its account, or ends at once. -/
theorem reporting_verifyReport {s : State} {task : Nat} {label : HandlerLabel} {account : Int}
    (begins : label = .report account ∧ s.handlers.get? task = none ∧
        s.store.refreshing.get? account = none ∨
      label = .settled ∧ ∃ event, s.handlers.get? task = some (.waiting account event)) :
    Reporting s task label (s.verifyReport task account) := by
  unfold verifyReport
  -- Nothing to lose or a check under way ends the report, anything else sends the probe.
  split
  · refine .drops ?_
    rcases begins with ⟨-, free, -⟩ | ⟨-, event, waiting⟩
    · simp [free]
    · simp [waiting, Handler.checks]
  · rename_i checked
    simp only [Bool.or_eq_true, Bool.not_eq_true', List.contains_eq_mem, decide_eq_true_eq,
      not_or, Bool.not_eq_false] at checked
    exact .probes begins checked.1 checked.2

/-- Every step of a report is one of these. -/
theorem handlerStep_reporting {s t : State} {task : Nat} {label : HandlerLabel}
    (taken : s.handlerStep task label = some t) : Reporting s task label t := by
  unfold handlerStep at taken
  -- The report begins, waits, probes, publishes or is cancelled, by the task's position.
  split at taken
  · rename_i account free
    split at taken
    · rename_i event running
      cases taken
      exact .waits free running
    · rename_i unrefreshed
      cases taken
      exact reporting_verifyReport (.inl ⟨rfl, free, unrefreshed⟩)
  · rename_i account event waiting
    split at taken
    · cases taken
      exact reporting_verifyReport (.inr ⟨rfl, event, waiting⟩)
    · cases taken
  · rename_i probing
    cases taken
    exact .answered probing
  · rename_i probing
    cases taken
    exact .ends (by simp [probing, Handler.checks])
  · rename_i account error probing
    split at taken
    · cases taken
      exact .ends (by simp [probing, Handler.checks])
    · rename_i session
      cases taken
      exact .loses probing (Bool.eq_false_iff.mpr session)
  · rename_i probing
    cases taken
    exact .ends (by simp [probing, Handler.checks])
  · rename_i publishing
    cases taken
    exact .ends (by simp [publishing, Handler.checks])
  · rename_i waiting
    cases taken
    exact .drops (by simp [waiting, Handler.checks])
  · rename_i probing
    cases taken
    exact .ends (by simp [probing, Handler.checks])
  · rename_i publishing
    cases taken
    exact .ends (by simp [publishing, Handler.checks])
  · cases taken

/-- Flagging an account moves no report. -/
@[simp] theorem flag_handlers (s : State) (account : Int) : (s.flag account).handlers = s.handlers :=
  congrArg Prod.fst (s.outlook_flag account)

/-- Flagging an account touches no refresh. -/
@[simp] theorem flag_refreshing (s : State) (account : Int) :
    (s.flag account).store.refreshing = s.store.refreshing :=
  congrArg Prod.snd (s.outlook_flag account)

/-- A step of a report touches no refresh. -/
theorem handlerStep_refreshing {s t : State} {task : Nat} {label : HandlerLabel}
    (taken : s.handlerStep task label = some t) : t.store.refreshing = s.store.refreshing := by
  cases handlerStep_reporting taken with
  | loses probing session => simp [reportDropped, State.log]
  | _ => rfl

/-- A step of a report leaves the other reports where they are. -/
theorem handlerStep_others {s t : State} {task other : Nat} {label : HandlerLabel}
    (taken : s.handlerStep task label = some t) (different : other ≠ task) :
    t.handlers.get? other = s.handlers.get? other := by
  cases handlerStep_reporting taken with
  | waits free running => exact (Dict.get?_set ..).trans (if_neg different)
  | probes begins live alone => exact (Dict.get?_set ..).trans (if_neg different)
  | drops unchecked => exact (Dict.get?_erase ..).trans (if_neg different)
  | answered probing => exact (Dict.get?_set ..).trans (if_neg different)
  | ends checking => exact (Dict.get?_erase ..).trans (if_neg different)
  | loses probing session => exact (Dict.get?_set ..).trans (if_neg different)

/-- A probe without a reply was there before, or begins with the report or with the end of its wait. -/
theorem handlerStep_probing {s t : State} {task other : Nat} {label : HandlerLabel} {account : Int}
    (taken : s.handlerStep task label = some t)
    (probing : t.handlers.get? other = some (.probing account none)) :
    s.handlers.get? other = some (.probing account none) ∨
      (other = task ∧ label = .report account ∧ s.store.refreshing.get? account = none) ∨
      other = task ∧ label = .settled ∧
        ∃ event, s.handlers.get? task = some (.waiting account event) := by
  -- Only its own task can have begun a probe.
  by_cases same : other = task
  · subst same
    right
    cases handlerStep_reporting taken with
    | waits free running => simp at probing
    | probes begins live alone =>
      simp only [Dict.get?_set, if_true, Option.some.injEq, Handler.probing.injEq, and_true] at probing
      subst probing
      rcases begins with ⟨rfl, -, unrefreshed⟩ | ⟨rfl, waiting⟩
      · exact .inl ⟨rfl, rfl, unrefreshed⟩
      · exact .inr ⟨rfl, rfl, waiting⟩
    | drops unchecked => simp at probing
    | answered before => simp at probing
    | ends checking => simp [endReport] at probing
    | loses before session => simp [reportDropped] at probing
  · exact .inl ((handlerStep_others taken same).symm.trans probing)

/-- A report comes to publish a disconnect only by reading a refusal of its probe. -/
theorem refused_of_publishing {cfg : Config} {s t : State} {label : Label} {task : Nat} {account : Int}
    (taken : s.step cfg label = some t)
    (publishing : t.handlers.get? task = some (.publishing account))
    (fresh : s.handlers.get? task ≠ some (.publishing account)) : Refused s label task account := by
  cases own : label.ofHandler with
  | false =>
    -- The step of another task moves no report.
    rw [(step_frame taken).handlers own] at publishing
    exact (fresh publishing).elim
  | true =>
    cases label with
    | handler other label =>
      by_cases same : task = other
      · subst same
        cases handlerStep_reporting taken with
        | waits free running => simp at publishing
        | probes begins live alone => simp at publishing
        | drops unchecked => simp at publishing
        | answered probing => simp at publishing
        | ends checking => simp [endReport] at publishing
        | loses probing session =>
          simp only [reportDropped, Dict.get?_set, if_true, Option.some.injEq,
            Handler.publishing.injEq] at publishing
          subst publishing
          exact ⟨rfl, _, probing, session⟩
      · exact (fresh ((handlerStep_others taken same).symm.trans publishing)).elim
    | _ => cases own

end State

end CTrader.Auth
