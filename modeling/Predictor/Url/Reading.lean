import Predictor.Url.Basic

/-!
Reading a URL by the rules of the living standard for URLs, without a base. Controls and blanks at
both ends and tabs and line ends everywhere are left out. The schemes of the web are special: any
number of slashes or backslashes leads to their authority, and they need a host.
-/

namespace Predictor.Url

def defaultPort? (scheme : String) : Option Nat :=
  match scheme with
  | "http" | "ws" => some 80
  | "https" | "wss" => some 443
  | "ftp" => some 21
  | _ => none

def isSpecial (scheme : String) : Bool := (defaultPort? scheme).isSome || scheme == "file"

/-- The text that is read. -/
def cleaned (cs : List Char) : List Char :=
  let isOutside (c : Char) : Bool := c.toNat ≤ 0x20
  let trimmed := ((cs.dropWhile isOutside).reverse.dropWhile isOutside).reverse
  trimmed.filter fun c => !isOneOf "\t\n\r" c

def isLetter (c : Char) : Bool := ('a' ≤ c && c ≤ 'z') || ('A' ≤ c && c ≤ 'Z')

def isSchemeChar (c : Char) : Bool := isLetter c || Host.isDigit c || isOneOf "+-." c

/-- The scheme in lower case, and what follows its colon. -/
def scheme? (cs : List Char) : Option (String × List Char) :=
  match cs.takeWhile isSchemeChar, cs.dropWhile isSchemeChar with
  | c :: scheme, ':' :: rest =>
    if isLetter c then some (String.ofList ((c :: scheme).map Char.toLower), rest) else none
  | _, _ => none

/-! ## Authority -/

def isSlash (special : Bool) (c : Char) : Bool := c == '/' || (special && c == '\\')

def endsAuthority (special : Bool) (c : Char) : Bool :=
  isSlash special c || c == '?' || c == '#'

/-- What stands before the last at sign, and behind it. -/
def splitUser (cs : List Char) : Option (List Char) × List Char :=
  if cs.contains '@' then
    let host := (cs.reverse.takeWhile (· != '@')).reverse
    (some (cs.take (cs.length - host.length - 1)), host)
  else (none, cs)

/-- The host, and the port with its colon; a colon between brackets is part of the host. -/
def splitPort (inside : Bool) : List Char → List Char × List Char
  | [] => ([], [])
  | c :: rest =>
    if c = ':' ∧ !inside then ([], c :: rest)
    else
      let (host, port) := splitPort (if c = '[' then true else if c = ']' then false else inside) rest
      (c :: host, port)

/-- The port, and what follows its digits. -/
def readPort (scheme : String) : List Char → Except UrlFault (Option Nat × List Char)
  | [] => .ok (none, [])
  | _ :: cs =>
    let digits := cs.takeWhile Host.isDigit
    let rest := cs.dropWhile Host.isDigit
    let port := (Host.numberIn? 10 digits).getD 0
    if 0xFFFF < port ∨ !(rest.isEmpty || rest.head? == some '\\') then .error .invalidPort
    else
      .ok (if digits.isEmpty || some port == defaultPort? scheme then none else some port, rest)

/-- User name and password, encoded. -/
def readUser (cs : List Char) : String × String :=
  let isName (c : Char) : Bool := c != ':'
  (String.ofList (encode inUserInfo (cs.takeWhile isName)),
    String.ofList (encode inUserInfo ((cs.dropWhile isName).drop 1)))

/-- The authority, and what of its text belongs to the path. The flag says that the URL ends with the
authority. -/
def readAuthority (scheme : String) (isLast : Bool) (cs : List Char) :
    Except UrlFault (Authority × List Char) := do
  let special := isSpecial scheme
  let (user, address) := splitUser cs
  let (host, port) := splitPort false address
  if host.isEmpty && (special || !port.isEmpty || user.any (!·.isEmpty) ||
      (user.isSome && !isLast)) then .error .emptyHost
  else
    let (username, password) := readUser (user.getD [])
    let read ← Host.ofChars special host
    let (port, rest) ← readPort scheme port
    .ok (⟨username, password, if host.isEmpty then none else some read, port⟩, rest)

/-! ## Path, query and fragment -/

/-- The segments between slashes, at least one. -/
def segmentsOf (special : Bool) : List Char → List (List Char)
  | [] => [[]]
  | c :: rest =>
    if isSlash special c then [] :: segmentsOf special rest
    else match segmentsOf special rest with
      | first :: others => (c :: first) :: others
      | [] => [[c]]

/-- A segment with encoded dots written out. -/
def dotted (segment : List Char) : List Char :=
  match segment with
  | '%' :: '2' :: c :: rest => if c = 'e' ∨ c = 'E' then '.' :: dotted rest else segment
  | '.' :: rest => '.' :: dotted rest
  | _ => segment

/-- Takes out the segments of one dot, and those of two dots with the segment before them; `passed`
holds the segments so far, the last one first. -/
def withoutDots (passed : List (List Char)) : List (List Char) → List (List Char)
  | [] => passed.reverse
  | segment :: rest =>
    let passed :=
      if dotted segment = ['.', '.'] then (if rest.isEmpty then [[]] else []) ++ passed.tail
      else if dotted segment = ['.'] then (if rest.isEmpty then [[]] else []) ++ passed
      else encode inPath segment :: passed
    withoutDots passed rest

def endsPath (c : Char) : Bool := c == '?' || c == '#'

/-- The path below a root; its first slash may be missing. -/
def readSegments (special : Bool) (cs : List Char) : Path :=
  match cs with
  | [] => .segments (if special then [""] else [])
  | c :: rest =>
    let cs := if isSlash special c then rest else cs
    .segments ((withoutDots [] (segmentsOf special cs)).map String.ofList)

def readQuery (special : Bool) (cs : List Char) : Option String :=
  match cs.takeWhile (· != '#') with
  | '?' :: query =>
    some (String.ofList (encode (if special then inSpecialQuery else inQuery) query))
  | _ => none

def readFragment (cs : List Char) : Option String :=
  match cs.dropWhile (· != '#') with
  | _ :: fragment => some (String.ofList (encode inFragment fragment))
  | [] => none

/-! ## The whole -/

/-- The URL with an authority at the head of the text. -/
def readAbove (scheme : String) (cs : List Char) : Except UrlFault Url := do
  let special := isSpecial scheme
  let isInside (c : Char) : Bool := !endsAuthority special c
  let below := cs.dropWhile isInside
  let (authority, rest) ← readAuthority scheme below.isEmpty (cs.takeWhile isInside)
  let below := rest ++ below
  let tail := below.dropWhile fun c => !endsPath c
  .ok ⟨scheme, some authority, readSegments special (below.takeWhile fun c => !endsPath c),
    readQuery special tail, readFragment tail⟩

/-- The URL of a file: a host after two slashes, else none. -/
def readFile (cs : List Char) : Except UrlFault Url := do
  let (host, below) ← match cs with
    | a :: b :: rest =>
      if isSlash true a && isSlash true b then
        let isInside (c : Char) : Bool := !endsAuthority true c
        let host := rest.takeWhile isInside
        let read ← if host.isEmpty then .ok none else (Host.ofChars true host).map some
        .ok (if read = some (.name "localhost") then none else read, rest.dropWhile isInside)
      else .ok (none, cs)
    | _ => .ok (none, cs)
  let tail := below.dropWhile fun c => !endsPath c
  .ok ⟨"file", some ⟨"", "", host, none⟩,
    readSegments true (below.takeWhile fun c => !endsPath c), readQuery true tail,
    readFragment tail⟩

def ofText (text : String) : Except UrlFault Url :=
  match scheme? (cleaned text.toList) with
  | none => .error .relative
  | some (scheme, rest) =>
    if scheme = "file" then readFile rest
    else if isSpecial scheme then readAbove scheme (rest.dropWhile (isSlash true))
    else match rest with
      | '/' :: '/' :: rest => readAbove scheme rest
      | _ =>
        let path := rest.takeWhile fun c => !endsPath c
        let tail := rest.dropWhile fun c => !endsPath c
        .ok ⟨scheme, none,
          if path.head? = some '/' then readSegments false path
          else .rootless (String.ofList (encode isControl path)),
          readQuery false tail, readFragment tail⟩

end Predictor.Url
