import CTrader.Connection.Answers

/-! Error replies of the server, and what the calls that they answer raise. -/

namespace CTrader.Connection

/-- The error response of the proxy, with absent fields at their protobuf defaults. -/
structure ProtoErrorRes where
  errorCode : String
  description : String := ""
  maintenanceEndTimestamp : Nat := 0

/-- The event that rejects an order, with absent fields at their protobuf defaults. -/
structure ProtoOAOrderErrorEvent where
  ctidTraderAccountId : Int := 0
  errorCode : String := ""
  orderId : Int := 0
  positionId : Int := 0
  description : String := ""

/-- What the fields of a message say, for the classes whose fields a call reads. -/
structure Payloads (ε : Type) where
  errorRes : List Nat → ProtoErrorRes
  orderError : List Nat → ProtoOAOrderErrorEvent
  executionType : List Nat → Int
  /-- `execution_event_from_proto`, which has no event for an unknown execution type. -/
  executionEvent : List Nat → Option ε

/-- A text of the wire, where the empty one stands for absence. -/
def presentText (text : String) : Option String := if text = "" then none else some text

/-- How a trade ends. -/
inductive TradeResult (ε : Type)
  | executed (event : ε)
  | api (error : APIError)
  | raised (failure : RequestFailure)

section Trading

variable {ε : Type} (payloads : Payloads ε)

/-- `_proto_to_execution_event`. -/
def protoToExecutionEvent (fields : List Nat) : TradeResult ε :=
  match payloads.executionEvent fields with
  | some event => .executed event
  | none =>
    .api {
      errorCode := "UNKNOWN_EXECUTION_TYPE"
      description := some s!"Unknown execution type: {payloads.executionType fields}" }

/-- The error that `_raise_if_order_error` raises for an order error. -/
def orderError (proto : ProtoOAOrderErrorEvent) : APIError where
  errorCode := if proto.errorCode = "" then "ORDER_ERROR" else proto.errorCode
  description := presentText proto.description
  ctidTraderAccountId := presentInt proto.ctidTraderAccountId

/-- What `TradingAPI._execute_trade` makes of how its `send_request` ended. -/
def executeTrade : Result → TradeResult ε
  | .returned inner =>
    match inner with
    | .other "ProtoOAOrderErrorEvent" fields => .api (orderError (payloads.orderError fields))
    | .other "ProtoOAExecutionEvent" fields => protoToExecutionEvent payloads fields
    | _ =>
      .api {
        errorCode := "UNEXPECTED_RESPONSE"
        description := some s!"Expected ProtoOAExecutionEvent, got {inner.className}" }
  | .api error => .api error
  | .raised failure => .raised failure

end Trading

/-- The ways to send a request. -/
inductive Call
  | sendRequest
  | request (responseType : String)
  | executeTrade
deriving DecidableEq, Repr

/-- The error of the API that a request ends with, if it does. -/
def Result.error : Result → Option APIError
  | .api error => some error
  | _ => none

/-- The error of the API that a trade ends with, if it does. -/
def TradeResult.error {ε : Type} : TradeResult ε → Option APIError
  | .api error => some error
  | _ => none

/-- The error of the API that a call raises when its `send_request` ends so. -/
def Call.error {ε : Type} (payloads : Payloads ε) (result : Result) : Call → Option APIError
  | .sendRequest => result.error
  | .request responseType => (CTrader.Connection.request responseType result).error
  | .executeTrade => (CTrader.Connection.executeTrade payloads result).error

/-- What an error reply reports, of either class. -/
structure Report where
  errorCode : String
  description : String
  maintenanceEndTimestamp : Int

namespace Report

/-- Whether the token is what the server complains of. -/
def isTokenFailure (report : Report) : Bool := APIError.tokenErrorCodes.contains report.errorCode

/-- Whether the server reports maintenance. -/
def isMaintenance (report : Report) : Bool :=
  report.errorCode == "SERVER_IS_UNDER_MAINTENANCE" || report.maintenanceEndTimestamp != 0

/-- A call raises an error of the API that says what the reply reported, and that is classified so. -/
structure Surfaces (report : Report) (raised : Option APIError) : Prop where
  fields : ∃ error, raised = some error ∧ error.errorCode = report.errorCode ∧
    error.description = presentText report.description ∧
    error.maintenanceEndTimestamp = presentInt report.maintenanceEndTimestamp
  classified : ∀ error, raised = some error →
    error.isTokenFailure = report.isTokenFailure ∧ error.isMaintenance = report.isMaintenance

end Report

/-- What a message reports, if it is an error reply: a response of the server or one of its proxy. -/
def Inner.report {ε : Type} (payloads : Payloads ε) : Inner → Option Report
  | .errorRes response =>
    some ⟨response.errorCode, response.description, response.maintenanceEndTimestamp⟩
  | .other "ProtoErrorRes" fields =>
    some ⟨(payloads.errorRes fields).errorCode, (payloads.errorRes fields).description,
      (payloads.errorRes fields).maintenanceEndTimestamp⟩
  | .other _ _ => none

/-- The class of the response that a call insists on. -/
def Call.expected : Call → Option String
  | .sendRequest => none
  | .request responseType => some responseType
  | .executeTrade => some "ProtoOAExecutionEvent"

/-- What the error for an unexpected response says of a reply of the proxy. -/
def unexpectedProxy (responseType : String) : String :=
  let className := "ProtoErrorRes"
  s!"Expected {responseType}, got {className}"

/-- A reply of the proxy reports the very error that a call raises for an unexpected response. -/
def Call.Coincides (call : Call) (report : Report) : Prop :=
  ∃ responseType, call.expected = some responseType ∧ responseType ≠ "ProtoErrorRes" ∧
    report.errorCode = "UNEXPECTED_RESPONSE" ∧
    report.description = unexpectedProxy responseType ∧ report.maintenanceEndTimestamp = 0

/-- An error with the fields of a report is classified as the report is. -/
theorem Report.surfaces_some_iff {report : Report} {error : APIError} :
    report.Surfaces (some error) ↔ error.errorCode = report.errorCode ∧
      error.description = presentText report.description ∧
      error.maintenanceEndTimestamp = presentInt report.maintenanceEndTimestamp := by
  constructor
  · rintro ⟨⟨_, same, fields⟩, -⟩
    cases same
    exact fields
  · -- The classification is a function of the fields, so equal fields are classified alike.
    rintro ⟨code, description, maintenance⟩
    refine ⟨⟨error, rfl, code, description, maintenance⟩, ?_⟩
    intro _ same
    cases same
    constructor
    · rw [APIError.isTokenFailure, code, Report.isTokenFailure]
    · -- A maintenance end of zero is absent, so both sides ask for a time that is not zero.
      rw [APIError.isMaintenance, code, maintenance, Report.isMaintenance, presentInt]
      by_cases zero : report.maintenanceEndTimestamp = 0 <;> simp [zero]

/-- A call that raises no error of the API does not surface a report. -/
theorem Report.not_surfaces_none {report : Report} : ¬ report.Surfaces none := by
  rintro ⟨⟨_, absent, -⟩, -⟩
  cases absent

/-- A text that is not empty is present as itself only. -/
theorem some_eq_presentText_iff {text other : String} (some_text : text ≠ "") :
    some text = presentText other ↔ other = text := by
  unfold presentText
  split
  · rename_i empty
    subst empty
    exact iff_of_false nofun some_text.symm
  · rw [Option.some.injEq, eq_comm]

/-- An integer is absent where it is zero. -/
theorem none_eq_presentInt_iff {value : Int} : none = presentInt value ↔ value = 0 := by
  unfold presentInt
  split <;> simp [*]

/-- The error of an unexpected response surfaces a report only if that reports the very same. -/
theorem Report.surfaces_unexpected_iff {report : Report} {responseType : String} :
    report.Surfaces (some {
        errorCode := "UNEXPECTED_RESPONSE"
        description := some (unexpectedProxy responseType) }) ↔
      report.errorCode = "UNEXPECTED_RESPONSE" ∧
        report.description = unexpectedProxy responseType ∧ report.maintenanceEndTimestamp = 0 := by
  -- The text begins with nine letters, so it is never the empty one.
  have some_text : unexpectedProxy responseType ≠ "" := by
    intro empty
    have lengths := congrArg String.length empty
    have first : (toString "Expected ").length = 9 := rfl
    simp only [unexpectedProxy, String.length_append, String.length_empty] at lengths
    omega
  rw [Report.surfaces_some_iff, some_eq_presentText_iff some_text, none_eq_presentInt_iff,
    eq_comm (a := report.errorCode)]

/-- A call surfaces an error reply that answers it if that is one of the server, or if its proxy reports
the error of an unexpected response. -/
theorem surfaces_outcome_iff {ε : Type} (payloads : Payloads ε) {inner : Inner} {report : Report}
    (reported : inner.report payloads = some report) (call : Call) :
    report.Surfaces (call.error payloads inner.outcome) ↔
      (∃ response, inner = .errorRes response) ∨ call.Coincides report := by
  cases inner with
  | errorRes response =>
    refine iff_of_true ?_ (.inl ⟨response, rfl⟩)
    cases reported
    -- The slot holds the error, and every call raises what its slot holds.
    cases call <;> exact Report.surfaces_some_iff.mpr ⟨rfl, rfl, rfl⟩
  | other name fields =>
    have proxy : name = "ProtoErrorRes" := by
      unfold Inner.report at reported
      split at reported
      · rename_i same
        cases same
      · rename_i same
        cases same
        rfl
      · cases reported
    subst proxy
    simp only [Inner.outcome, reduceCtorEq, exists_false, false_or]
    cases call with
    | sendRequest =>
      refine iff_of_false Report.not_surfaces_none ?_
      rintro ⟨_, absent, -⟩
      cases absent
    | request responseType =>
      by_cases asked : responseType = "ProtoErrorRes"
      · -- The message is what the call asked for, and is returned.
        subst asked
        refine iff_of_false Report.not_surfaces_none ?_
        rintro ⟨_, same, other, -⟩
        cases same
        exact other rfl
      · have unexpected : Call.error payloads (.returned (.other "ProtoErrorRes" fields))
            (.request responseType) = some {
              errorCode := "UNEXPECTED_RESPONSE"
              description := some (unexpectedProxy responseType) } := by
          simp [Call.error, CTrader.Connection.request, Inner.cls, Ne.symm asked, Result.error,
            Inner.className, unexpectedProxy]
        rw [unexpected, Report.surfaces_unexpected_iff]
        constructor
        · intro same
          exact ⟨responseType, rfl, asked, same⟩
        · rintro ⟨_, same, -, report⟩
          cases same
          exact report
    | executeTrade =>
      have unexpected : Call.error payloads (.returned (.other "ProtoErrorRes" fields)) .executeTrade =
          some {
            errorCode := "UNEXPECTED_RESPONSE"
            description := some (unexpectedProxy "ProtoOAExecutionEvent") } := rfl
      rw [unexpected, Report.surfaces_unexpected_iff]
      constructor
      · intro same
        exact ⟨_, rfl, by decide, same⟩
      · rintro ⟨_, same, -, report⟩
        cases same
        exact report

/-- In every run in which nothing comes between a reply and its call, an error reply surfaces with its
own code exactly when the server itself sent it, or when its proxy reports the error of an unexpected
response. -/
theorem error_reply_surfaces_iff {ε : Type} (payloads : Payloads ε) {attempts : Option Int} {s : State}
    (reached : (protocol attempts).Reaches (Undisturbed attempts) s) {later earlier : List Note}
    {serial : Nat} {result : Result}
    (split : s.desk.slots.history = later ++ .finished serial result :: earlier) {inner : Inner}
    (answered : .answered serial inner true ∈ earlier) {report : Report}
    (reported : inner.report payloads = some report) (call : Call) :
    report.Surfaces (call.error payloads result) ↔
      (∃ response, inner = .errorRes response) ∨ call.Coincides report := by
  have faithful := faithful_of_undisturbed reached fun _ _ => id
  -- The call ends with what the reply holds, which leaves a question about the reply alone.
  rw [faithful.final later earlier serial result inner split answered]
  exact surfaces_outcome_iff payloads reported call

/-- Payloads whose error responses and order errors name the code of a dead token. -/
def deadToken : Payloads Unit where
  errorRes _ := { errorCode := "CH_ACCESS_TOKEN_INVALID", description := "Invalid access token" }
  orderError _ := { errorCode := "CH_ACCESS_TOKEN_INVALID" }
  executionType _ := 0
  executionEvent _ := none

/-- A dead token that the server itself reports surfaces. -/
theorem error_reply_surfaces_iff_server : ∃ s, (protocol none).Reaches (Undisturbed none) s ∧
    ∀ call : Call, Report.Surfaces ⟨"CH_ACCESS_TOKEN_INVALID", "", 0⟩
      (call.error deadToken (.api { errorCode := "CH_ACCESS_TOKEN_INVALID" })) := by
  have found : ∃ s, (protocol none).Reaches (Undisturbed none) s ∧
      s.desk.slots.history.head? =
        some (.finished 1 (.api { errorCode := "CH_ACCESS_TOKEN_INVALID" })) ∧
      .answered 1 (.errorRes { errorCode := "CH_ACCESS_TOKEN_INVALID" }) true ∈
        s.desk.slots.history.tail :=
    Machine.exists_reaches
      (Label.online ++ Label.ask 1 ++
        [.link (.reader 0 (.frame ⟨"1", .errorRes { errorCode := "CH_ACCESS_TOKEN_INVALID" }⟩)),
          .desk (.request 1 .resume)])
      (by decide +kernel)
  obtain ⟨s, reached, newest, member⟩ := found
  have split : s.desk.slots.history = [] ++ _ :: s.desk.slots.history.tail :=
    (List.cons_head?_tail newest).symm
  exact ⟨s, reached, fun call =>
    (error_reply_surfaces_iff deadToken reached split member rfl call).mpr (.inl ⟨_, rfl⟩)⟩

/-- A dead token that the proxy reports is returned as a response, or raised as an unexpected one. -/
theorem proxy_error_not_raised : ∃ s, (protocol none).Reachable s ∧ ∃ earlier,
    s.desk.slots.history = .finished 1 (.returned (.other "ProtoErrorRes" [])) :: earlier ∧
    .answered 1 (.other "ProtoErrorRes" []) true ∈ earlier ∧
    (Inner.other "ProtoErrorRes" []).report deadToken =
      some ⟨"CH_ACCESS_TOKEN_INVALID", "Invalid access token", 0⟩ ∧
    Call.sendRequest.error deadToken (.returned (.other "ProtoErrorRes" [])) = none ∧
    ((Call.request "ProtoOATraderRes").error deadToken
      (.returned (.other "ProtoErrorRes" []))).map (·.errorCode) = some "UNEXPECTED_RESPONSE" ∧
    (Call.executeTrade.error deadToken
      (.returned (.other "ProtoErrorRes" []))).map (·.errorCode) = some "UNEXPECTED_RESPONSE" := by
  have found : ∃ s, (protocol none).Reachable s ∧
      s.desk.slots.history.head? = some (.finished 1 (.returned (.other "ProtoErrorRes" []))) ∧
      .answered 1 (.other "ProtoErrorRes" []) true ∈ s.desk.slots.history.tail :=
    Machine.exists_reaches
      (Label.online ++ Label.ask 1 ++
        [.link (.reader 0 (.frame ⟨"1", .other "ProtoErrorRes" []⟩)), .desk (.request 1 .resume)])
      (by decide +kernel)
  obtain ⟨s, reached, newest, member⟩ := found
  exact ⟨s, reached, _, (List.cons_head?_tail newest).symm, member, rfl, rfl, rfl, rfl⟩

end CTrader.Connection
