import CTrader.Auth.Disconnects
import CTrader.Auth.Probe
import CTrader.Connection.Messages

/-! What a reported disconnect comes to, for each answer to its probe, when nothing else happens. -/

namespace CTrader.Auth

open Connection

/-- How the `send_request` of a probe ends: with a message of the server, or with an exception. -/
abbrev Answer := Except RequestFailure Inner

/-- What `send_request` makes of an answer. -/
def Answer.result : Answer → Result
  | .ok inner => inner.outcome
  | .error failure => .raised failure

/-- Whether the account still holds a live session on this link, or what is raised instead. -/
def probeSession (answer : Answer) : Except Failure Bool :=
  match request "ProtoOATraderRes" answer.result with
  | .returned _ => .ok true
  | .api error => if error.isTokenFailure then .error (.api error) else .ok false
  | .raised failure => .error (.request failure)

/-- The steps of a report whose probe is answered. -/
def Label.answering (task : Nat) (answer : Answer) : List Label :=
  match request "ProtoOATraderRes" answer.result with
  | .returned _ => [.handler task (.dispatch .accepted), .handler task .resume]
  | .api error => [.handler task (.dispatch (.refused error)), .handler task .resume]
  | .raised _ => [.handler task .fail]

namespace State

/-- One `handle_account_disconnect` up to its publication or its end, with no other task running. -/
def handleAccountDisconnect (cfg : Config) (s : State) (task : Nat) (account : Int) (answer : Answer) :
    Option State :=
  (s.step cfg (.handler task (.report account))).bind fun begun =>
    match begun.handlers.get? task with
    | some (.probing _ _) =>
      (machine cfg).runUnder (fun _ _ => True) begun (Label.answering task answer)
    -- The report waits for a refresh, or found nothing to check.
    | _ => some begun

/-- Whether a report of an account is checked at once. -/
def checksReport (s : State) (account : Int) : Bool :=
  !s.store.isRefreshing account && s.store.isAuthorized account && !s.verifying.contains account

/-- A step after which the store, the recovery signal and the published events are what they were. -/
structure Unchanged (s t : State) : Prop where
  store : t.store = s.store
  signal : t.reauthSignal = s.reauthSignal
  history : t.history = s.history

/-- A report that is checked begins with a probe. -/
theorem report_checked {cfg : Config} {s : State} {task : Nat} {account : Int}
    (free : s.handlers.get? task = none) (checks : s.checksReport account = true) :
    s.step cfg (.handler task (.report account)) = some
      { s with
        verifying := account :: s.verifying
        handlers := s.handlers.set task (.probing account none) } := by
  simp only [checksReport, Bool.and_eq_true, Bool.not_eq_true', SessionStore.isRefreshing,
    Option.isSome_eq_false_iff, Option.isNone_iff_eq_none] at checks
  -- Not refreshing, live, and no other check of the account: the probe goes out at once.
  obtain ⟨⟨unrefreshed, live⟩, alone⟩ := checks
  simp only [step, handlerStep, free, unrefreshed, verifyReport, live, alone, Bool.not_true,
    Bool.or_self, Bool.false_eq_true, if_false]

/-- A report that is not checked changes nothing. -/
theorem report_unchecked (cfg : Config) {s : State} {task : Nat} {account : Int} (answer : Answer)
    (free : s.handlers.get? task = none) (checks : s.checksReport account = false) :
    ∃ t, s.handleAccountDisconnect cfg task account answer = some t ∧ Unchanged s t := by
  cases refresh : s.store.refreshing.get? account with
  | some event =>
    -- The report waits, and nobody ends the refresh it waits for.
    refine ⟨{ s with handlers := s.handlers.set task (.waiting account event) }, ?_, rfl, rfl, rfl⟩
    simp [handleAccountDisconnect, step, handlerStep, free, refresh]
  | none =>
    -- There is no session to lose, or its check is running.
    have idle : (!s.store.isAuthorized account || s.verifying.contains account) = true := by
      simp only [checksReport, SessionStore.isRefreshing, refresh, Option.isSome_none, Bool.not_false,
        Bool.true_and] at checks
      simpa only [Bool.not_and, Bool.not_not, Bool.not_false] using congrArg Bool.not checks
    have begun : s.step cfg (.handler task (.report account)) =
        some { s with handlers := s.handlers.erase task } := by
      simp only [step, handlerStep, free, refresh, verifyReport, idle, if_true]
    refine ⟨{ s with handlers := s.handlers.erase task }, ?_, rfl, rfl, rfl⟩
    simp only [handleAccountDisconnect, begun, Option.bind_some, Dict.get?_erase_self]

/-- A confirmed drop is published. -/
theorem history_reportDropped (s : State) (task : Nat) (account : Int) :
    (s.reportDropped task account).history ≠ s.history := by
  -- A flag is logged or not; the report always is.
  have shorter : s.history.length ≤ (s.flag account).history.length := by
    unfold flag
    split
    · exact Nat.le_succ _
    · exact Nat.le_refl _
  intro same
  have lengths := congrArg List.length same
  simp only [reportDropped, State.log, List.length_cons] at lengths
  omega

/-- A probe whose reply was dispatched and not yet read. -/
def replied (s : State) (task : Nat) (account : Int) (reply : AuthReply) : State :=
  { s with handlers := s.handlers.set task (.probing account (some reply)) }

/-- A reply is dispatched, and the report runs on from there. -/
theorem run_replied (cfg : Config) {s : State} {task : Nat} {account : Int} (reply : AuthReply)
    (probing : s.handlers.get? task = some (.probing account none)) :
    (machine cfg).runUnder (fun _ _ => True) s
        [.handler task (.dispatch reply), .handler task .resume] =
      (s.replied task account reply).handlerStep task .resume := by
  have dispatched : s.handlerStep task (.dispatch reply) = some (s.replied task account reply) := by
    simp only [handlerStep, probing, replied]
  simp only [Machine.runUnder, machine, step, if_true, dispatched]
  cases (s.replied task account reply).handlerStep task .resume <;> rfl

/-- A probe that is answered drops its report, or ends it, as it says. -/
theorem run_answering (cfg : Config) {s : State} {task : Nat} {account : Int} (answer : Answer)
    (probing : s.handlers.get? task = some (.probing account none)) :
    ∃ t, (machine cfg).runUnder (fun _ _ => True) s (Label.answering task answer) = some t ∧
      (probeSession answer = .ok false → t.history ≠ s.history) ∧
      (probeSession answer ≠ .ok false → Unchanged s t) := by
  have reading (reply : AuthReply) : (s.replied task account reply).handlers.get? task =
      some (.probing account (some reply)) := Dict.get?_set_self ..
  unfold Label.answering probeSession
  -- The probe succeeds, fails without an answer, or is refused; only the last can mean a loss.
  cases request "ProtoOATraderRes" answer.result with
  | returned inner =>
    refine ⟨(s.replied task account .accepted).endReport task account, ?_, by simp,
      fun _ => ⟨rfl, rfl, rfl⟩⟩
    rw [run_replied cfg _ probing]
    simp only [handlerStep, reading]
  | raised failure =>
    refine ⟨s.endReport task account, ?_, by simp, fun _ => ⟨rfl, rfl, rfl⟩⟩
    simp only [Machine.runUnder, machine, step, if_true, handlerStep, probing]
  | api error =>
    simp only [run_replied cfg _ probing, handlerStep, reading]
    cases error.isTokenFailure with
    | true => exact ⟨_, rfl, by simp, fun _ => ⟨rfl, rfl, rfl⟩⟩
    | false =>
      refine ⟨_, rfl, fun _ => ?_, fun lost => (lost rfl).elim⟩
      exact history_reportDropped (s.replied task account (.refused error)) task account

/-- A report that is checked is dropped, or ends, as its probe says. -/
theorem report_answered (cfg : Config) {s : State} {task : Nat} {account : Int} (answer : Answer)
    (free : s.handlers.get? task = none) (checks : s.checksReport account = true) :
    ∃ t, s.handleAccountDisconnect cfg task account answer = some t ∧
      (probeSession answer = .ok false → t.history ≠ s.history) ∧
      (probeSession answer ≠ .ok false → Unchanged s t) := by
  -- After the report the task waits for its probe.
  let begun : State :=
    { s with
      verifying := account :: s.verifying
      handlers := s.handlers.set task (.probing account none) }
  have probing : begun.handlers.get? task = some (.probing account none) := Dict.get?_set_self ..
  obtain ⟨t, ran, outcome⟩ := run_answering cfg answer probing
  refine ⟨t, ?_, outcome.1, fun alive => ?_⟩
  · simp only [handleAccountDisconnect, report_checked free checks, Option.bind_some,
      Dict.get?_set_self]
    exact ran
  · obtain ⟨store, signal, history⟩ := outcome.2 alive
    exact ⟨store, signal, history⟩

end State

/-- Whether an answer says nothing of the session and is taken for its loss: a message of another
class, or an error response that is a rate limit or maintenance and not about the token. -/
def misread : Answer → Bool
  | .ok (.errorRes response) =>
    !(APIError.fromProto response).isTokenFailure &&
      ((APIError.fromProto response).isRateLimited || (APIError.fromProto response).isMaintenance)
  | .ok (.other name _) => name != "ProtoOATraderRes"
  | .error _ => false

/-- Whether an answer is an error response that says the account is served no longer. -/
def confirms : Answer → Bool
  | .ok (.errorRes response) =>
    !(APIError.fromProto response).isTokenFailure &&
      !(APIError.fromProto response).isRateLimited && !(APIError.fromProto response).isMaintenance
  | _ => false

/-- A probe is read as the loss of the session on a confirmation and on a misread answer alone. -/
theorem probeSession_eq_false (answer : Answer) :
    probeSession answer = .ok false ↔ confirms answer = true ∨ misread answer = true := by
  cases answer with
  | error failure => simp [probeSession, Answer.result, request, confirms, misread]
  | ok inner =>
    cases inner with
    | errorRes response =>
      simp only [probeSession, Answer.result, Inner.outcome, request, confirms, misread]
      cases (APIError.fromProto response).isTokenFailure <;>
        cases (APIError.fromProto response).isRateLimited <;>
        cases (APIError.fromProto response).isMaintenance <;> simp
    | other name fields =>
      -- The error that is raised for another class has a code that blames nobody.
      have blameless (description : Option String) :
          ({ errorCode := "UNEXPECTED_RESPONSE", description } : APIError).isTokenFailure = false := rfl
      simp only [probeSession, Answer.result, Inner.outcome, request, Inner.cls, confirms, misread,
        MessageClass.proto.injEq]
      by_cases expected : name = "ProtoOATraderRes"
      · simp [expected]
      · simp [expected, blameless]

/-- A report that nothing else interferes with, on any store and with any answer to its probe, leaves
the store, the signal and the published events as they were unless the account held a session and an
error response confirmed its loss; that is so exactly if the account is not checked or its answer is
not misread. -/
theorem check_leaves_unanswered (cfg : Config) {s : State} {task : Nat} (account : Int)
    (answer : Answer) (free : s.handlers.get? task = none) :
    ∃ t, s.handleAccountDisconnect cfg task account answer = some t ∧
      ((s.store.isAuthorized account = true ∧ confirms answer = true ∨ s.Unchanged t) ↔
        (s.checksReport account && misread answer) = false) := by
  have distinct : ¬(confirms answer = true ∧ misread answer = true) := by
    rcases answer with failure | ⟨response⟩ | ⟨name, fields⟩
    · simp [misread]
    · simp only [confirms, misread]
      cases (APIError.fromProto response).isRateLimited <;>
        cases (APIError.fromProto response).isMaintenance <;> simp
    · simp [confirms]
  cases checks : s.checksReport account with
  | false =>
    obtain ⟨t, handled, unchanged⟩ := State.report_unchecked cfg answer free checks
    exact ⟨t, handled, by simp [unchanged]⟩
  | true =>
    obtain ⟨t, handled, drops, ends⟩ := State.report_answered cfg answer free checks
    refine ⟨t, handled, ?_⟩
    have live : s.store.isAuthorized account = true := by
      simp only [State.checksReport, Bool.and_eq_true] at checks
      exact checks.1.2
    cases missed : misread answer with
    | true =>
      -- The answer is taken for a loss and published, though nothing was confirmed.
      have published := drops ((probeSession_eq_false answer).mpr (.inr missed))
      have unconfirmed : confirms answer ≠ true := fun confirmed => distinct ⟨confirmed, missed⟩
      simp only [Bool.true_and, Bool.true_eq_false, iff_false, not_or]
      exact ⟨fun confirmed => unconfirmed confirmed.2, fun unchanged => published unchanged.history⟩
    | false =>
      simp only [Bool.true_and, iff_true]
      by_cases confirmed : confirms answer = true
      · exact .inl ⟨live, confirmed⟩
      · refine .inr (ends fun lost => ?_)
        rcases (probeSession_eq_false answer).mp lost with confirmation | misreading
        · exact confirmed confirmation
        · rw [missed] at misreading
          cases misreading

/-- A report of a signed-in account whose probe the server answers as for any account it serves. -/
theorem check_leaves_unanswered_served : ∃ s t, (machine {}).Reachable s ∧
    s.handleAccountDisconnect {} 0 7 (.ok (.other "ProtoOATraderRes" [])) = some t ∧
    (s.store.isAuthorized 7 = true ∧ confirms (.ok (.other "ProtoOATraderRes" [])) = true ∨
      s.Unchanged t) := by
  have found : ∃ s, (machine {}).Reachable s ∧ s.handlers.get? 0 = none :=
    Machine.exists_reaches (Label.signIn 0 granted) (by decide +kernel)
  obtain ⟨s, reached, free⟩ := found
  obtain ⟨t, handled, unchanged⟩ :=
    check_leaves_unanswered {} 7 (.ok (.other "ProtoOATraderRes" [])) free
  exact ⟨s, t, reached, handled, unchanged.mpr (by simp [misread])⟩

/-- The error response of a server that asks for fewer requests. -/
def frequencyExceeded : ProtoOAErrorRes := { errorCode := "REQUEST_FREQUENCY_EXCEEDED", retryAfter := 5 }

/-- A rate limit on the probe is published as the loss of the session. -/
theorem rate_limit_read_as_drop : ∃ s t, (machine {}).Reachable s ∧
    s.handleAccountDisconnect {} 0 7 (.ok (.errorRes frequencyExceeded)) = some t ∧
    (APIError.fromProto frequencyExceeded).isRateLimited = true ∧
    t.history = .accountDisconnected 7 :: .flagged 7 :: s.history := by
  have found : ∃ s, (machine {}).Reachable s ∧
      (s.handleAccountDisconnect {} 0 7 (.ok (.errorRes frequencyExceeded))).any
        -- The server answers the probe with a rate limit.
        (fun t => decide (t.history = .accountDisconnected 7 :: .flagged 7 :: s.history)) = true :=
    Machine.exists_reaches (Label.signIn 0 granted) (by decide +kernel)
  obtain ⟨s, reached, checked⟩ := found
  obtain ⟨t, handled, published⟩ := (Option.any_eq_true _ _).mp checked
  exact ⟨s, t, reached, handled, by decide, of_decide_eq_true published⟩

end CTrader.Auth
