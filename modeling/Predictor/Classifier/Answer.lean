import Predictor.Classifier.Fault
import Predictor.RawResult
import Predictor.Text.Blank
import Predictor.Text.Charset

/-!
Answers of the classification service. A success carries a raw result; every other status is one of
the four faults, told apart by its number, and its detail is the status with the text of the body
behind it, if that is not blank.
-/

namespace Predictor

/-- The standard phrases of status codes. -/
def statusPhrases : List (Nat × String) :=
  [(100, "Continue"), (101, "Switching Protocols"), (102, "Processing"), (200, "OK"),
    (201, "Created"), (202, "Accepted"), (203, "Non Authoritative Information"),
    (204, "No Content"), (205, "Reset Content"), (206, "Partial Content"), (207, "Multi-Status"),
    (208, "Already Reported"), (226, "IM Used"), (300, "Multiple Choices"),
    (301, "Moved Permanently"), (302, "Found"), (303, "See Other"), (304, "Not Modified"),
    (305, "Use Proxy"), (307, "Temporary Redirect"), (308, "Permanent Redirect"),
    (400, "Bad Request"), (401, "Unauthorized"), (402, "Payment Required"), (403, "Forbidden"),
    (404, "Not Found"), (405, "Method Not Allowed"), (406, "Not Acceptable"),
    (407, "Proxy Authentication Required"), (408, "Request Timeout"), (409, "Conflict"),
    (410, "Gone"), (411, "Length Required"), (412, "Precondition Failed"),
    (413, "Payload Too Large"), (414, "URI Too Long"), (415, "Unsupported Media Type"),
    (416, "Range Not Satisfiable"), (417, "Expectation Failed"), (418, "I'm a teapot"),
    (421, "Misdirected Request"), (422, "Unprocessable Entity"), (423, "Locked"),
    (424, "Failed Dependency"), (425, "Too Early"), (426, "Upgrade Required"),
    (428, "Precondition Required"), (429, "Too Many Requests"),
    (431, "Request Header Fields Too Large"), (451, "Unavailable For Legal Reasons"),
    (500, "Internal Server Error"), (501, "Not Implemented"), (502, "Bad Gateway"),
    (503, "Service Unavailable"), (504, "Gateway Timeout"), (505, "HTTP Version Not Supported"),
    (506, "Variant Also Negotiates"), (507, "Insufficient Storage"), (508, "Loop Detected"),
    (510, "Not Extended"), (511, "Network Authentication Required")]

/-- A status code with its phrase. -/
def statusText (status : Nat) : String :=
  toString status ++ " " ++ (statusPhrases.lookup status).getD "<unknown status code>"

/-- The last answer to a call. -/
structure Answer where
  status : Nat
  /-- The character set that the content type names, in lower case. -/
  charset : Option String
  /-- Nothing when the body breaks off. -/
  body : Option Bytes
  deriving DecidableEq, Repr

namespace Answer

def isSuccess (answer : Answer) : Bool := 200 ≤ answer.status && answer.status < 300

/-- The text of the body; one that breaks off counts as empty. -/
def text (answer : Answer) : String :=
  (answer.body.map (Text.Charset.text answer.charset)).getD ""

end Answer

namespace ClassifyError

/-- What the record of the failed prediction says besides the kind. -/
def statusDetail (status : Nat) (body : String) : String :=
  if Text.isBlankText body then statusText status
  else statusText status ++ ": " ++ Text.trim body

/-- The fault that a status other than a success stands for. -/
def ofStatus (status : Nat) (body : String) : ClassifyError :=
  let detail := statusDetail status body
  match status with
  | 400 | 422 => .badInput detail
  | 401 | 403 => .forbidden detail
  | 404 => .notFound detail
  | _ => .internal detail

/-- The fault of a success that carries no raw result. -/
def undecodable : ClassifyError :=
  .internal "undecodable response: error decoding response body"

end ClassifyError

/-- What an answer says of the resource. -/
def Answer.result (answer : Answer) : Except ClassifyError RawResult :=
  if answer.isSuccess then
    match answer.body.bind RawResult.ofBytes? with
    | some raw => .ok raw
    | none => .error .undecodable
  else .error (.ofStatus answer.status answer.text)

end Predictor
