import Predictor.Text.Utf8

/-!
Character sets of answers. A byte order mark decides before the name that a content type gives;
without either, and for names not known here, bytes are taken as UTF-8. What cannot be read becomes
U+FFFD.
-/

namespace Predictor.Text

inductive Charset
  | utf8
  | utf16 (bigEndian : Bool)
  | windows1252
  deriving DecidableEq, Repr

namespace Charset

/-- The characters of Windows code page 1252 from 0x80 to 0x9F; the five unused places keep their
number. -/
def extras : List Nat :=
  [0x20AC, 0x81, 0x201A, 0x0192, 0x201E, 0x2026, 0x2020, 0x2021, 0x02C6, 0x2030, 0x0160, 0x2039,
    0x0152, 0x8D, 0x017D, 0x8F, 0x90, 0x2018, 0x2019, 0x201C, 0x201D, 0x2022, 0x2013, 0x2014,
    0x02DC, 0x2122, 0x0161, 0x203A, 0x0153, 0x9D, 0x017E, 0x0178]

def windows1252Char (b : UInt8) : Char :=
  Char.ofNat ((if b.toNat < 0x80 then none else extras[b.toNat - 0x80]?).getD b.toNat)

/-- The units of two bytes each; a byte left over is no unit. -/
def units (bigEndian : Bool) : Bytes → List (Option Nat)
  | [] => []
  | [_] => [none]
  | a :: b :: rest =>
    some (if bigEndian then a.toNat * 256 + b.toNat else b.toNat * 256 + a.toNat) ::
      units bigEndian rest

def isTrail (n : Nat) : Bool := 0xDC00 ≤ n && n ≤ 0xDFFF
def isSurrogate (n : Nat) : Bool := 0xD800 ≤ n && n ≤ 0xDFFF

def joinUnits : List (Option Nat) → List Char
  | [] => []
  | none :: rest => replacement :: joinUnits rest
  | some lead :: some trail :: rest =>
    if !isSurrogate lead then Char.ofNat lead :: joinUnits (some trail :: rest)
    else if !isTrail lead && isTrail trail then
      Char.ofNat (0x10000 + (lead - 0xD800) * 0x400 + (trail - 0xDC00)) :: joinUnits rest
    else replacement :: joinUnits (some trail :: rest)
  | [some n] => [if isSurrogate n then replacement else Char.ofNat n]
  | some n :: none :: rest =>
    if isSurrogate n then replacement :: joinUnits rest
    else Char.ofNat n :: replacement :: joinUnits rest

def decode : Charset → Bytes → List Char
  | .utf8, bytes => mend bytes
  | .utf16 bigEndian, bytes => joinUnits (units bigEndian bytes)
  | .windows1252, bytes => bytes.map windows1252Char

/-- The sets by the names that are in use for them, in lower case. -/
def ofName? (name : String) : Option Charset :=
  if ["windows-1252", "ansi_x3.4-1968", "ascii", "cp1252", "cp819", "csisolatin1", "ibm819",
      "iso-8859-1", "iso-ir-100", "iso8859-1", "iso88591", "iso_8859-1", "iso_8859-1:1987", "l1",
      "latin1", "us-ascii", "x-cp1252"].contains name then some .windows1252
  else if ["utf-16", "utf-16le", "csunicode", "iso-10646-ucs-2", "ucs-2", "unicode",
      "unicodefeff"].contains name then some (.utf16 false)
  else if ["utf-16be", "unicodefffe"].contains name then some (.utf16 true)
  else none

/-- The set that a byte order mark stands for, and the bytes behind it. -/
def marked? : Bytes → Option (Charset × Bytes)
  | 0xEF :: 0xBB :: 0xBF :: rest => some (.utf8, rest)
  | 0xFE :: 0xFF :: rest => some (.utf16 true, rest)
  | 0xFF :: 0xFE :: rest => some (.utf16 false, rest)
  | _ => none

/-- The text of bytes that are said to be in a set of this name. -/
def text (name : Option String) (bytes : Bytes) : String :=
  match marked? bytes with
  | some (charset, rest) => String.ofList (charset.decode rest)
  | none => String.ofList (((name.bind ofName?).getD .utf8).decode bytes)

end Charset

end Predictor.Text
