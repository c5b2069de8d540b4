import CTrader.Exceptions

/-! The decoded messages of a link, and the ways a request over it can end. -/

namespace CTrader.Connection

/-- The classes an event handler can be registered for. -/
inductive MessageClass
  | proto (name : String)
  -- `betterproto.Message` and what it is derived from.
  | message
  | abc
  | object
deriving DecidableEq, Repr

/-- A message unwrapped from its envelope. -/
inductive Inner
  | errorRes (response : ProtoOAErrorRes)
  | other (name : String) (fields : List Nat)
deriving DecidableEq, Repr

/-- The class of a message. -/
def Inner.cls : Inner → MessageClass
  | .errorRes _ => .proto "ProtoOAErrorRes"
  | .other name _ => .proto name

/-- The classes a message belongs to, in method resolution order. -/
def Inner.mro (inner : Inner) : List MessageClass := [inner.cls, .message, .abc, .object]

/-- What the reader decodes from one frame, where an absent id is the empty string. -/
structure Envelope where
  clientMsgId : String
  inner : Inner
deriving DecidableEq, Repr

/-- How a request ends. -/
inductive Result
  | returned (inner : Inner)
  | api (error : APIError)
  | raised (failure : RequestFailure)
deriving DecidableEq, Repr

/-- What a request ends with when it is answered by this message. -/
def Inner.outcome : Inner → Result
  | .errorRes response => .api (APIError.fromProto response)
  | inner => .returned inner

/-- The name of the class of a message. -/
def Inner.className : Inner → String
  | .errorRes _ => "ProtoOAErrorRes"
  | .other name _ => name

/-- What `Protocol.request` makes of how its `send_request` ended: a response of another class than
the expected one is raised as an error of the API. -/
def request (responseType : String) : Result → Result
  | .returned inner =>
    if inner.cls = .proto responseType then .returned inner
    else
      .api {
        errorCode := "UNEXPECTED_RESPONSE"
        description := some s!"Expected {responseType}, got {inner.className}" }
  | result => result

/-- The id of the request that took the counter to a number. -/
def clientMsgId (serial : Nat) : String := toString serial

/-- No two numbers of the counter give the same id. -/
theorem clientMsgId_injective {serial other : Nat} (same : clientMsgId serial = clientMsgId other) :
    serial = other := by
  -- Reading the digits back gives the number they were written for.
  have digits : Nat.toDigits 10 serial = Nat.toDigits 10 other := by
    rw [← Nat.toList_repr, ← Nat.toList_repr]
    exact congrArg String.toList same
  simpa using congrArg (Nat.ofDigitChars 10 · 0) digits

/-- No request has the id that stands for absence. -/
theorem clientMsgId_ne_empty (serial : Nat) : clientMsgId serial ≠ "" := Nat.repr_ne_empty

end CTrader.Connection
