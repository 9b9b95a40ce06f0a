import Endpoints.Json.Fault
import Endpoints.Url.Error

/-! Why a call of an endpoint fails. -/

namespace Endpoints

/-- What keeps a request from being answered. -/
inductive TransportFault where
  /-- The request is none that can be sent. -/
  | unsendable
  /-- Nothing answers. -/
  | unreachable
  deriving DecidableEq, Repr

def TransportFault.message : TransportFault → String
  | .unsendable => "builder error"
  | .unreachable => "error sending request"

inductive CallError where
  | unregistered
  | encoding (reason : String)
  | transport (fault : TransportFault) (url : String)
  | url (error : UrlError)
  | headerName
  | headerValue
  | decoding (reason : String)
  | notText
  | argument (reason : String)
  deriving DecidableEq, Repr

def CallError.message : CallError → String
  | .unregistered =>
    "A rest client has not been registered yet. You must call restclient::register_client first"
  | .encoding reason => "Failed to encode request body: " ++ reason
  | .transport fault address => fault.message ++ " for url (" ++ address ++ ")"
  | .url error => "Invalid URL: " ++ error.message
  | .headerName => "Invalid header: invalid HTTP header name"
  | .headerValue => "Invalid header value: failed to parse header value"
  | .decoding reason => "Failed to decode response: " ++ reason
  | .notText => "IO error: stream did not contain valid UTF-8"
  | .argument reason => "Invalid argument: " ++ reason

end Endpoints
