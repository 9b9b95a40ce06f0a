import Endpoints.Client.Error
import Endpoints.Url.Reader

/-! Settings of a client. -/

namespace Endpoints

/-- Times are in milliseconds. -/
structure ClientOptions where
  baseUrl : Url
  debug : Bool
  timeout : Nat
  connectTimeout : Nat
  /-- Headers sent with every request, in the order in which they were added. -/
  headers : List (String × String)
  deriving DecidableEq, Repr

/-- Settings under way: what is not given takes its default. -/
structure ClientOptionsBuilder where
  baseUrl : Option String
  debug : Bool
  timeout : Option Nat
  connectTimeout : Option Nat
  headers : List (String × String)
  deriving DecidableEq, Repr

namespace ClientOptions

def userAgent : String × String := ("User-Agent", "restgen/0.1.0")

def ofBaseUrl (baseUrl : Url) : ClientOptions :=
  { baseUrl, debug := false, timeout := 30000, connectTimeout := 10000, headers := [userAgent] }

def toBuilder (options : ClientOptions) : ClientOptionsBuilder :=
  { baseUrl := some options.baseUrl.text
    debug := options.debug
    timeout := some options.timeout
    connectTimeout := some options.connectTimeout
    headers := options.headers }

end ClientOptions

namespace ClientOptionsBuilder

def empty : ClientOptionsBuilder := ⟨none, false, none, none, []⟩

def withBaseUrl (builder : ClientOptionsBuilder) (baseUrl : String) : ClientOptionsBuilder :=
  { builder with baseUrl := some baseUrl }

def withDebug (builder : ClientOptionsBuilder) (debug : Bool) : ClientOptionsBuilder :=
  { builder with debug }

def withTimeout (builder : ClientOptionsBuilder) (timeout : Nat) : ClientOptionsBuilder :=
  { builder with timeout := some timeout }

def withConnectTimeout (builder : ClientOptionsBuilder) (timeout : Nat) : ClientOptionsBuilder :=
  { builder with connectTimeout := some timeout }

def withHeaders (builder : ClientOptionsBuilder) (headers : List (String × String)) :
    ClientOptionsBuilder :=
  { builder with headers := builder.headers ++ headers }

def build (builder : ClientOptionsBuilder) : Except CallError ClientOptions :=
  match builder.baseUrl with
  | none => .error (.argument "base URL cannot be empty")
  | some text => do
    let defaults := ClientOptions.ofBaseUrl (← (Url.read text).mapError .url)
    return {
      baseUrl := defaults.baseUrl
      debug := builder.debug
      timeout := builder.timeout.getD defaults.timeout
      connectTimeout := builder.connectTimeout.getD defaults.connectTimeout
      headers := defaults.headers ++ builder.headers }

end ClientOptionsBuilder

end Endpoints
