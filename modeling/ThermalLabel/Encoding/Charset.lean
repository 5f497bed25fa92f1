/-
  The codecs that the command line program brings along, by their names.

  A run takes whatever codecs its surroundings have; these four are the ones at hand where there
  are no others. Names are compared without regard to case, and any characters between letters,
  digits and points count as one underscore. A point may stand for an underscore in the other names
  of an encoding, not in its own. The name `locale`, in this form alone, is that of the encoding of
  the surroundings, UTF-8.
-/
import ThermalLabel.Encoding.Stream

namespace ThermalLabel

/-- An encoding of label files. -/
inductive Charset where
  | utf8
  | latin1
  | windows1252
  | ascii
  deriving DecidableEq

namespace Charset

/-! ## Names -/

/-- The own names of the encodings. -/
def names : List (String × Charset) :=
  [("utf_8", utf8), ("latin_1", latin1), ("cp1252", windows1252), ("ascii", ascii)]

/-- Other names of the encodings. -/
def aliases : List (String × Charset) :=
  [("cp65001", utf8), ("u8", utf8), ("utf", utf8), ("utf8", utf8), ("utf8_ucs2", utf8),
    ("utf8_ucs4", utf8),
    ("8859", latin1), ("cp819", latin1), ("csisolatin1", latin1), ("ibm819", latin1),
    ("iso8859", latin1), ("iso8859_1", latin1), ("iso_8859_1", latin1),
    ("iso_8859_1_1987", latin1), ("iso_ir_100", latin1), ("l1", latin1), ("latin", latin1),
    ("latin1", latin1),
    ("1252", windows1252), ("windows_1252", windows1252),
    ("646", ascii), ("ansi_x3.4_1968", ascii), ("ansi_x3.4_1986", ascii),
    ("ansi_x3_4_1968", ascii), ("cp367", ascii), ("csascii", ascii), ("ibm367", ascii),
    ("iso646_us", ascii), ("iso_646.irv_1991", ascii), ("iso_ir_6", ascii), ("us", ascii),
    ("us_ascii", ascii)]

/-- A name in small letters, with one underscore for the other characters between two letters,
    digits or points. `pending` says that such characters stand before the text, and `started`
    that a letter, digit or point does. -/
def normalize (started pending : Bool) : Text → Text
  | [] => []
  | c :: rest =>
    if c.isAlphanum || c == '.' then
      if started && pending then '_' :: c.toLower :: normalize true false rest
      else c.toLower :: normalize true false rest
    else normalize started true rest

/-- The name of the encoding of the surroundings. -/
def localName : Text := "locale".toList

/-- The encoding of a name. -/
def ofName? (name : Text) : Option Charset :=
  let normal := normalize false false name
  let underscored := normal.map fun c => if c = '.' then '_' else c
  if name = localName then some utf8
  else
    (aliases.lookup (Text.shown normal)).or
      ((aliases.lookup (Text.shown underscored)).or (names.lookup (Text.shown normal)))

/-! ## Reading -/

/-- The characters of the bytes 80 to 9F in Windows-1252, where 0 stands for none. -/
def windowsControls : List Nat :=
  [0x20AC, 0, 0x201A, 0x0192, 0x201E, 0x2026, 0x2020, 0x2021,
    0x02C6, 0x2030, 0x0160, 0x2039, 0x0152, 0, 0x017D, 0,
    0, 0x2018, 0x2019, 0x201C, 0x201D, 0x2022, 0x2013, 0x2014,
    0x02DC, 0x2122, 0x0161, 0x203A, 0x0153, 0, 0x017E, 0x0178]

/-- The character of a byte in Windows-1252. -/
def windowsChar? (b : UInt8) : Option Char :=
  let n := b.toNat
  if 0x80 ≤ n ∧ n < 0xA0 then
    match windowsControls[n - 0x80]? with
    | some 0 | none => none
    | some code => some (Char.ofNat code)
  else some (Char.ofNat n)

/-- The character of a byte in ASCII. -/
def asciiChar? (b : UInt8) : Option Char :=
  if b.toNat < 0x80 then some (Char.ofNat b.toNat) else none

/-- The text of a byte string; none if a byte has no character. -/
def decode? : Charset → Bytes → Option Text
  | utf8, bytes => Utf8.decode? bytes
  | latin1, bytes => some (Bytes.toText bytes)
  | windows1252, bytes => bytes.mapM windowsChar?
  | ascii, bytes => bytes.mapM asciiChar?

/-- The four encodings as codecs. -/
def codecs : Codecs := fun name => (ofName? name).map decode?

end Charset

end ThermalLabel
