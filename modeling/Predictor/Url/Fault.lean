/-!
Why a text is no URL.
-/

namespace Predictor

inductive UrlFault
  | emptyHost
  /-- The name of the host has no form in ASCII. -/
  | invalidName
  | invalidPort
  | invalidIpv4
  | invalidIpv6
  /-- A character that no host may have. -/
  | invalidCharacter
  /-- No scheme in front. -/
  | relative
  deriving DecidableEq, Repr

def UrlFault.message : UrlFault → String
  | .emptyHost => "empty host"
  | .invalidName => "invalid international domain name"
  | .invalidPort => "invalid port number"
  | .invalidIpv4 => "invalid IPv4 address"
  | .invalidIpv6 => "invalid IPv6 address"
  | .invalidCharacter => "invalid domain character"
  | .relative => "relative URL without a base"

end Predictor
