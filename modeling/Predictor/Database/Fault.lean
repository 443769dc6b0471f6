import Predictor.Text.Numeral
import Predictor.Text.Quoted
import Predictor.Url.Fault

/-!
What can go wrong between a store and its database: the address cannot be used, no connection comes
about, the server refuses a statement, or a statement that returns a row returns none. A fault has a
message and the causes below it, outermost first.
-/

namespace Predictor

/-- Why the address of a database cannot be used. -/
inductive AddressFault
  | url (fault : UrlFault)
  /-- A parameter that should be a number is none. -/
  | number (fault : Text.NumeralFault)
  | internetAddress
  /-- The parameter for encrypted connections has none of its values. -/
  | encryption (text : String)
  deriving DecidableEq, Repr

namespace AddressFault

/-- The causes of a fault, outermost first, and never none. -/
def chain : AddressFault → String × List String
  | .url fault => (fault.message, [])
  | .number fault => (fault.message, [])
  | .internetAddress => ("invalid IP address syntax", [])
  | .encryption text =>
    let cause := "unknown value " ++ Text.quoted text ++ " for \x60ssl_mode\x60"
    ("error with configuration: " ++ cause, [cause])

end AddressFault

/-- Why a statement, or the connection to the database, failed. -/
inductive DatabaseFault
  | address (fault : AddressFault)
  /-- No connection to the server; `reason` is the system's own. -/
  | unreachable (reason : String)
  /-- The server refused with a message. -/
  | refused (message : String)
  /-- A statement that returns one row returned none. -/
  | noRow
  deriving DecidableEq, Repr

namespace DatabaseFault

def message : DatabaseFault → String
  | .address fault => "error with configuration: " ++ fault.chain.1
  | .unreachable reason => "error communicating with database: " ++ reason
  | .refused message => "error returned from database: " ++ message
  | .noRow => "no rows returned by a query that expected to return at least one row"

/-- The causes below the message, outermost first. -/
def causes : DatabaseFault → List String
  | .address fault => fault.chain.1 :: fault.chain.2
  | .unreachable reason => [reason]
  | .refused message => [message]
  | .noRow => []

end DatabaseFault

end Predictor
