import Predictor.Url.Host

/-!
URLs in their normal form, by parts, and their text. A URL without an authority has no host; the one
of an authority may still be empty when the scheme is not special.
-/

namespace Predictor

namespace Url

structure Authority where
  /-- User name and password, percent-encoded, empty when there is none. -/
  username : String
  password : String
  host : Option Host
  /-- The port, unless it is the usual one of the scheme. -/
  port : Option Nat
  deriving DecidableEq, Repr

inductive Path
  /-- Each segment with a slash in front. -/
  | segments (items : List String)
  /-- A path that is no place below a root. -/
  | rootless (text : String)
  deriving DecidableEq, Repr

end Url

structure Url where
  scheme : String
  authority : Option Url.Authority
  path : Url.Path
  query : Option String
  fragment : Option String
  deriving DecidableEq, Repr

namespace Url

def Authority.text (a : Authority) : String :=
  let user := if a.password.isEmpty then a.username else a.username ++ ":" ++ a.password
  (if user.isEmpty then "" else user ++ "@") ++ (a.host.elim "" Host.text) ++
    a.port.elim "" fun port => ":" ++ toString port

def Path.text : Path → String
  | .segments items => String.join (items.map ("/" ++ ·))
  | .rootless text => text

def host? (url : Url) : Option Host := url.authority.bind (·.host)

/-- The URL without user name and password. -/
def withoutUser (url : Url) : Url :=
  { url with authority := url.authority.map fun a => { a with username := "", password := "" } }

/-- Whether the text of a path could be taken for an authority. -/
def looksLikeAuthority : Path → Bool
  | .segments ("" :: _ :: _) => true
  | _ => false

def text (url : Url) : String :=
  let front := match url.authority with
    | some a => "//" ++ a.text
    | none => if looksLikeAuthority url.path then "/." else ""
  url.scheme ++ ":" ++ front ++ url.path.text ++ (url.query.elim "" ("?" ++ ·)) ++
    url.fragment.elim "" ("#" ++ ·)

end Url

end Predictor
