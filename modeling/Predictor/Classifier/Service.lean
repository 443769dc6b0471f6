import Predictor.Classifier.Header
import Predictor.Json.Tree
import Predictor.Text.Base64
import Predictor.Url.Target

/-!
The classification service and the request that one call sends to it. The endpoint is a fixed path
below the base address; a user in the address becomes a header, and the API key is a bearer token
beside it.
-/

namespace Predictor

structure Service where
  endpoint : String
  apiKey : Option String
  deriving DecidableEq, Repr

structure Request where
  url : Url
  headers : List (String × String)
  body : String
  deriving DecidableEq, Repr

/-- Why no request can be made; with the address when there is one. -/
inductive RequestFault
  | malformed
  | unsupported (url : Url)
  deriving DecidableEq, Repr

def RequestFault.message : RequestFault → String
  | .malformed => "builder error"
  | .unsupported url => "builder error for url (" ++ url.text ++ ")"

namespace Service

/-- The service at a base address; slashes at the end of the address do not count. -/
def ofBase (base : String) (apiKey : Option String) : Service :=
  let address := (base.toList.reverse.dropWhile (· == '/')).reverse
  ⟨String.ofList address ++ "/classify", apiKey⟩

def bearer (key : String) : String := "Bearer " ++ key

/-- The address of the calls, and the key as a header value. -/
def address (service : Service) : Except RequestFault Url :=
  match Url.ofText service.endpoint with
  | .error _ => .error .malformed
  | .ok url =>
    if url.host?.isNone then .error (.unsupported url)
    else if !service.apiKey.all fun key => Header.isValue (bearer key) then .error .malformed
    else if (url.scheme == "http" || url.scheme == "https") && Url.isTarget url.withoutUser.text then
      .ok url
    else .error (.unsupported url.withoutUser)

/-- User name and password of an address as a header value. -/
def basic? (url : Url) : Option String := do
  let authority ← url.authority
  let username ← textOf? (Url.decode authority.username.toList)
  let password ← textOf? (Url.decode authority.password.toList)
  if username.isEmpty ∧ password.isEmpty then none
  else some ("Basic " ++ String.ofList (Text.base64 (bytesOf (username ++ ":" ++ password))))

/-- Inserts a header unless one of its name is there. -/
def withDefault (headers : HeaderMap) (name value : String) : HeaderMap :=
  if (headers.get? name).isSome then headers else headers.insert name value

def body (resource : String) (id : PredictionId) : String :=
  (Json.Tree.object [(bytesOf "resource", Json.Tree.ofText resource),
    (bytesOf "prediction_id", Json.Tree.ofText id.text)]).render

/-- All headers of a request, the bearer token last. -/
def headersFor (service : Service) (url : Url) (correlation : Correlation) (body : String) :
    List (String × String) :=
  let headers := correlation.headerMap
  let headers := (basic? url).elim headers (withDefault headers "authorization")
  let headers := withDefault headers "content-type" "application/json"
  let headers := withDefault headers "accept" "*/*"
  let headers := withDefault headers "content-length" (toString body.utf8ByteSize)
  headers.fields ++ (service.apiKey.map fun key => ("authorization", bearer key)).toList

/-- The request of one call. -/
def request (service : Service) (resource : String) (id : PredictionId)
    (correlation : Correlation) : Except RequestFault Request := do
  let url ← service.address
  let body := body resource id
  .ok ⟨url.withoutUser, service.headersFor url correlation body, body⟩

end Service

end Predictor
