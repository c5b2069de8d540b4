import CTrader.Lib.Binary64

/-! Account credentials and the policies that say when they are refreshed and retried. -/

namespace CTrader

/-- The tokens of one trading account. -/
structure AccountCredentials where
  accountId : Int
  accessToken : String
  refreshToken : String
  expiresAt : Binary64
deriving DecidableEq

namespace AccountCredentials

/-- Whether the access token expires within a buffer of the wall clock's reading. -/
def expiresSoon (credentials : AccountCredentials) (bufferSeconds time : Binary64) : Bool :=
  (credentials.expiresAt.sub bufferSeconds).le time

/-- Whether the access token has already expired at the wall clock's reading. -/
def isExpired (credentials : AccountCredentials) (time : Binary64) : Bool :=
  credentials.expiresAt.le time

/-- The same account with a freshly issued pair of tokens. -/
def withRefreshedTokens (credentials : AccountCredentials) (accessToken refreshToken : String)
    (expiresIn : Int) (time : Binary64) : AccountCredentials where
  accountId := credentials.accountId
  accessToken := accessToken
  refreshToken := refreshToken
  -- The lifetime is a 64-bit field, so its conversion to a float cannot overflow.
  expiresAt := time.add (Binary64.round expiresIn)

end AccountCredentials

/-- When an access token is refreshed, and how hard a single refresh tries. -/
structure RefreshPolicy where
  bufferSeconds : Binary64 := .round 300
  checkInterval : Binary64 := .round 60
  retryAttempts : Int := 3
  retryMinWait : Binary64 := .round 1
  retryMaxWait : Binary64 := .round 30

/-- The backoff between attempts to re-establish a dropped session. -/
structure ReauthPolicy where
  minWait : Binary64 := .round 1
  maxWait : Binary64 := .round 60

namespace ReauthPolicy

/-- The wait before an attempt, or none when the exponential overflows the float range. -/
def backoffDelay (policy : ReauthPolicy) (attempts : Nat) : Option Binary64 :=
  -- The power is an exact integer that is converted only for the product.
  (Binary64.ofInt (2 ^ (attempts - 1))).map fun factor =>
    (policy.minWait.mul factor).min policy.maxWait

end ReauthPolicy

end CTrader
