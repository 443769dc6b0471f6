import Predictor.Database.Fault
import Predictor.Url.Reading

/-!
Addresses of database servers: URLs whose query holds further parameters. The parameters with values
of their own are checked in the order in which they stand; unknown ones are left aside.
-/

namespace Predictor.Database

structure Address where
  url : Url
  /-- Names and values of the query. -/
  parameters : List (String × String)
  deriving DecidableEq, Repr

namespace Address

/-- A part of a query: plus signs are blanks, and the rest is percent-encoded. -/
def unescaped (cs : List Char) : String :=
  String.ofList (Text.mend (Url.decode (cs.map fun c => if c = '+' then ' ' else c)))

/-- Names and values between ampersands. -/
def parametersOf (query : String) : List (String × String) :=
  ((Host.fields '&' query.toList).filter (!·.isEmpty)).map fun cs =>
    (unescaped (cs.takeWhile (· != '=')), unescaped ((cs.dropWhile (· != '=')).drop 1))

def encryptionModes : List String :=
  ["disable", "allow", "prefer", "require", "verify-ca", "verify-full"]

def isInternetAddress (text : String) : Bool :=
  match (Host.fields '.' text.toList).mapM Host.octet? with
  | some [_, _, _, _] => true
  | _ => (Host.ipv6? text.toList).isSome

def number (limit : Nat) (text : String) : Except AddressFault Unit :=
  match Text.natural limit text.toList with
  | .ok _ => .ok ()
  | .error fault => .error (.number fault)

/-- Whether a parameter has one of the values that its name admits. -/
def check (parameter : String × String) : Except AddressFault Unit :=
  let (name, value) := parameter
  match name with
  | "sslmode" | "ssl-mode" =>
    if encryptionModes.contains value.toLower then .ok () else .error (.encryption value)
  | "statement-cache-capacity" => number Text.maxWord64 value
  | "port" => number 0xFFFF value
  | "hostaddr" => if isInternetAddress value then .ok () else .error .internetAddress
  | _ => .ok ()

def ofText (text : String) : Except AddressFault Address :=
  match Url.ofText text with
  | .error fault => .error (.url fault)
  | .ok url => do
    let parameters := parametersOf (url.query.getD "")
    parameters.forM check
    .ok ⟨url, parameters⟩

end Address

end Predictor.Database
