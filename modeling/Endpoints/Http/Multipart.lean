import Endpoints.Keyed
import Endpoints.Url.Percent

/-! Bodies of several parts, each with a name, between lines with a boundary. -/

namespace Endpoints.Multipart

/-- How a part tells its name. A name with escapes has a form of its own, unless the escape of one byte
is all of it. -/
def nameField (name : String) : List Char :=
  let encoded := Percent.encode Percent.inPathSegment name.toList
  if encoded = name.toList ∨ name.utf8ByteSize = 1 then "name=\"".toList ++ (encoded ++ ['"'])
  else "name*=utf-8''".toList ++ encoded

def part (boundary name : String) (content : Bytes) : Bytes :=
  bytesOf ("--" ++ boundary ++ "\r\nContent-Disposition: form-data; "
    ++ String.ofList (nameField name) ++ "\r\n\r\n") ++ (content ++ bytesOf "\r\n")

/-- Without parts there is nothing to end. -/
def body (boundary : String) (parts : Keyed Bytes) : Bytes :=
  if parts.isEmpty then []
  else parts.flatMap (fun (name, content) => part boundary name content)
    ++ bytesOf ("--" ++ boundary ++ "--\r\n")

def contentType (boundary : String) : String := "multipart/form-data; boundary=" ++ boundary

end Endpoints.Multipart
