/-! The failures the client reports, and the questions it asks of a server's error response. -/

namespace CTrader

/-- The error response of the server, with absent fields at their protobuf defaults. -/
structure ProtoOAErrorRes where
  errorCode : String
  description : String := ""
  ctidTraderAccountId : Int := 0
  maintenanceEndTimestamp : Int := 0
  retryAfter : Int := 0
deriving DecidableEq, Repr

/-- An error response as the library raises it. -/
structure APIError where
  errorCode : String
  description : Option String := none
  ctidTraderAccountId : Option Int := none
  maintenanceEndTimestamp : Option Int := none
  retryAfter : Option Int := none
deriving DecidableEq, Repr

/-- An integer field of the wire, where zero stands for absence. -/
def presentInt (value : Int) : Option Int := if value = 0 then none else some value

namespace APIError

/-- The error raised for an error response, with every falsy field read as absent. -/
def fromProto (errorRes : ProtoOAErrorRes) : APIError where
  errorCode := errorRes.errorCode
  description := if errorRes.description = "" then none else some errorRes.description
  ctidTraderAccountId := presentInt errorRes.ctidTraderAccountId
  maintenanceEndTimestamp := presentInt errorRes.maintenanceEndTimestamp
  retryAfter := presentInt errorRes.retryAfter

/-- The codes that blame the token rather than the application, the account or the request. -/
def tokenErrorCodes : List String := ["OA_AUTH_TOKEN_EXPIRED", "CH_ACCESS_TOKEN_INVALID"]

/-- Whether the error indicates rate limiting. -/
def isRateLimited (error : APIError) : Bool :=
  error.errorCode == "REQUEST_FREQUENCY_EXCEEDED" || error.retryAfter.isSome

/-- Whether the token is the problem, which no retry can cure. -/
def isTokenFailure (error : APIError) : Bool := tokenErrorCodes.contains error.errorCode

/-- Whether the error indicates server maintenance. -/
def isMaintenance (error : APIError) : Bool :=
  error.errorCode == "SERVER_IS_UNDER_MAINTENANCE" || error.maintenanceEndTimestamp.isSome

end APIError

/-- The exceptions that a request can end with other than an error response. -/
inductive RequestFailure
  | connectionClosed (reason : String)
  | connectionTimeout
  | other (name : String)
deriving DecidableEq, Repr

/-- The errors of the wire protocol. -/
inductive ProtocolError
  | framing (expectedBytes receivedBytes : Nat)
  | deserialization (payloadType : Int) (rawData : List UInt8)
  | unknownPayloadType (payloadType : Int)
deriving DecidableEq, Repr

/-- The exceptions that the calls of the auth package end with. -/
inductive Failure
  | request (failure : RequestFailure)
  | api (error : APIError)
  | applicationAuth (errorCode : String) (description : Option String)
  | accountAuth (errorCode : String) (description : Option String) (account : Int)
  | tokenExpired (account : Int)
  | overflow
deriving DecidableEq, Repr

/-- Whether an account was rejected only because it holds a live session already. -/
def Failure.isAlreadyAuthorized : Failure → Bool
  | .accountAuth errorCode _ _ => errorCode == "ALREADY_LOGGED_IN"
  | _ => false

end CTrader
