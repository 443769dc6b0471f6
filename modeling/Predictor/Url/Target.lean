import Predictor.Url.Reading

/-!
Texts that can be sent as the target of a request: an authority, a scheme with an authority and a
path, or a path alone, made of the characters that RFC 3986 allows. Paths and queries may hold a few
more, which clients send in practice.
-/

namespace Predictor.Url

/-- Characters of an authority, and those that end it. -/
def isTargetChar (c : Char) : Bool :=
  isLetter c || Host.isDigit c || isOneOf "!#$&\x27()*+,-./:;=?@[]_~" c

structure AuthorityScan where
  colons : Nat
  opened : Bool
  closed : Bool
  /-- A percent sign was met that no at sign follows. -/
  percent : Bool
  endsWithAt : Bool

def AuthorityScan.next? (s : AuthorityScan) (c : Char) : Option AuthorityScan :=
  let s := { s with endsWithAt := false }
  if c = ':' then if 8 ≤ s.colons then none else some { s with colons := s.colons + 1 }
  else if c = '[' then if s.percent || s.opened then none else some { s with opened := true }
  else if c = ']' then
    if !s.opened || s.closed then none
    else some { s with closed := true, colons := 0, percent := false }
  else if c = '@' then some { s with colons := 0, percent := false, endsWithAt := true }
  else if c = '%' then some { s with percent := true }
  else if isTargetChar c then some s
  else none

def isTargetAuthority (cs : List Char) : Bool :=
  (cs.foldlM AuthorityScan.next? ⟨0, false, false, false, false⟩).any fun s =>
    s.opened == s.closed && s.colons ≤ 1 && !s.endsWithAt && !s.percent

/-- Characters of a path, percent signs included. -/
def isTargetPathChar (c : Char) : Bool :=
  0x7F ≤ c.toNat || isLetter c || Host.isDigit c ||
    isOneOf "!$%&\x27()*+,-./:;=@[\\]^_|~\"\x7b\x7d" c

def isTargetQueryChar (c : Char) : Bool :=
  c != '"' && (isTargetPathChar c || c == '?' || c == '\x60')

/-- A path with its query; a fragment is not sent. -/
def isTargetPath (cs : List Char) : Bool :=
  let sent := cs.takeWhile (· != '#')
  (sent.takeWhile (· != '?')).all isTargetPathChar &&
    ((sent.dropWhile (· != '?')).drop 1).all isTargetQueryChar

/-- What follows the scheme; `none` when the scheme is too long. -/
def afterTargetScheme (cs : List Char) : Option (Option (List Char)) :=
  let isScheme (c : Char) : Bool := (isSchemeChar c || c == '~') && c != ':'
  match cs.dropWhile isScheme with
  | ':' :: '/' :: '/' :: rest =>
    if 64 < (cs.takeWhile isScheme).length then none else some (some rest)
  | _ => some none

def targetLimit : Nat := 65534

def isTarget (text : String) : Bool :=
  let cs := text.toList
  let isInside (c : Char) : Bool := !endsAuthority false c
  if targetLimit < text.utf8ByteSize then false
  else match cs with
    | [] => false
    | ['*'] => true
    | '/' :: _ => isTargetPath cs
    | _ =>
      match afterTargetScheme cs with
      | none => false
      | some none => cs.all isInside && isTargetAuthority cs
      | some (some rest) =>
        let authority := rest.takeWhile isInside
        !authority.isEmpty && isTargetAuthority authority && isTargetPath (rest.dropWhile isInside)

end Predictor.Url
