import Endpoints.Proofs.PayloadSelection
import Endpoints.Proofs.SettingOrder

/-! Whether a request is built, and which error is reported when it is not. Four things can be in the way:
the client, the address, the payload and the headers. They are looked at in this order, and the headers
in the order of the bytes of their keys. -/

namespace Endpoints
open Checks

namespace SetterCall

variable {endpoint : Endpoint} (calls : List (SetterCall endpoint))

def address (client : Client) : String :=
  client.baseText ++ Template.expand endpoint.template
    (Keyed.ofList ((settings calls).filterMap (Setting.entry? .path)))

end SetterCall

namespace Draft

variable {endpoint : Endpoint} (calls : List (SetterCall endpoint))

end Draft

namespace SetterCall

variable {endpoint : Endpoint} {calls : List (SetterCall endpoint)}

end SetterCall

namespace Endpoint

variable {endpoint : Endpoint} {registry : Registry} {boundary : String} {calls : List (SetterCall endpoint)}

end Endpoint

end Endpoints
