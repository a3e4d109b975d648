import Workflow.Text.Name.Letter
import Workflow.Text.Name.Picture
import Workflow.Text.Name.Sign

/-!
# Names of characters

A character has a name in capital letters, and control characters have others by which they are called.
Ideographs are named by their numbers, and syllables of Korean by their sounds. Case does not matter in
a name that stands in a table.
-/
namespace Workflow.Text.Name

/-- Other names than the first, by code points, each up to a bar. -/
def others : List (Nat × String) := [
  (0x0, "NUL|NULL"), (0x1, "SOH|START OF HEADING"), (0x2, "START OF TEXT|STX"), (0x3, "END OF TEXT|ETX"),
  (0x4, "END OF TRANSMISSION|EOT"), (0x5, "ENQ|ENQUIRY"), (0x6, "ACK|ACKNOWLEDGE"), (0x7, "ALERT|BEL"),
  (0x8, "BACKSPACE|BS"), (0x9, "CHARACTER TABULATION|HORIZONTAL TABULATION|HT|TAB"),
  (0xa, "END OF LINE|EOL|LF|LINE FEED|NEW LINE|NL"), (0xb, "LINE TABULATION|VERTICAL TABULATION|VT"),
  (0xc, "FF|FORM FEED"), (0xd, "CARRIAGE RETURN|CR"), (0xe, "LOCKING-SHIFT ONE|SHIFT OUT|SO"),
  (0xf, "LOCKING-SHIFT ZERO|SHIFT IN|SI"), (0x10, "DATA LINK ESCAPE|DLE"),
  (0x11, "DC1|DEVICE CONTROL ONE"), (0x12, "DC2|DEVICE CONTROL TWO"), (0x13, "DC3|DEVICE CONTROL THREE"),
  (0x14, "DC4|DEVICE CONTROL FOUR"), (0x15, "NAK|NEGATIVE ACKNOWLEDGE"), (0x16, "SYN|SYNCHRONOUS IDLE"),
  (0x17, "END OF TRANSMISSION BLOCK|ETB"), (0x18, "CAN|CANCEL"), (0x19, "END OF MEDIUM|EOM"),
  (0x1a, "SUB|SUBSTITUTE"), (0x1b, "ESC|ESCAPE"), (0x1c, "FILE SEPARATOR|FS|INFORMATION SEPARATOR FOUR"),
  (0x1d, "GROUP SEPARATOR|GS|INFORMATION SEPARATOR THREE"),
  (0x1e, "INFORMATION SEPARATOR TWO|RECORD SEPARATOR|RS"),
  (0x1f, "INFORMATION SEPARATOR ONE|UNIT SEPARATOR|US"), (0x20, "SP"), (0x7f, "DEL|DELETE"),
  (0x80, "PAD|PADDING CHARACTER"), (0x81, "HIGH OCTET PRESET|HOP"), (0x82, "BPH|BREAK PERMITTED HERE"),
  (0x83, "NBH|NO BREAK HERE"), (0x84, "IND|INDEX"), (0x85, "NEL|NEXT LINE"),
  (0x86, "SSA|START OF SELECTED AREA"), (0x87, "END OF SELECTED AREA|ESA"),
  (0x88, "CHARACTER TABULATION SET|HORIZONTAL TABULATION SET|HTS"),
  (0x89, "CHARACTER TABULATION WITH JUSTIFICATION|HORIZONTAL TABULATION WITH JUSTIFICATION|HTJ"),
  (0x8a, "LINE TABULATION SET|VERTICAL TABULATION SET|VTS"),
  (0x8b, "PARTIAL LINE DOWN|PARTIAL LINE FORWARD|PLD"),
  (0x8c, "PARTIAL LINE BACKWARD|PARTIAL LINE UP|PLU"), (0x8d, "REVERSE INDEX|REVERSE LINE FEED|RI"),
  (0x8e, "SINGLE SHIFT TWO|SINGLE-SHIFT-2|SS2"), (0x8f, "SINGLE SHIFT THREE|SINGLE-SHIFT-3|SS3"),
  (0x90, "DCS|DEVICE CONTROL STRING"), (0x91, "PRIVATE USE ONE|PRIVATE USE-1|PU1"),
  (0x92, "PRIVATE USE TWO|PRIVATE USE-2|PU2"), (0x93, "SET TRANSMIT STATE|STS"),
  (0x94, "CANCEL CHARACTER|CCH"), (0x95, "MESSAGE WAITING|MW"),
  (0x96, "SPA|START OF GUARDED AREA|START OF PROTECTED AREA"),
  (0x97, "END OF GUARDED AREA|END OF PROTECTED AREA|EPA"), (0x98, "SOS|START OF STRING"),
  (0x99, "SGC|SINGLE GRAPHIC CHARACTER INTRODUCER"), (0x9a, "SCI|SINGLE CHARACTER INTRODUCER"),
  (0x9b, "CONTROL SEQUENCE INTRODUCER|CSI"), (0x9c, "ST|STRING TERMINATOR"),
  (0x9d, "OPERATING SYSTEM COMMAND|OSC"), (0x9e, "PM|PRIVACY MESSAGE"),
  (0x9f, "APC|APPLICATION PROGRAM COMMAND"), (0xa0, "NBSP"), (0xad, "SHY"),
  (0x1a2, "LATIN CAPITAL LETTER GHA"), (0x1a3, "LATIN SMALL LETTER GHA"), (0x34f, "CGJ"), (0x61c, "ALM"),
  (0x180b, "FVS1"), (0x180c, "FVS2"), (0x180d, "FVS3"), (0x180e, "MVS"), (0x200b, "ZWSP"),
  (0x200c, "ZWNJ"), (0x200d, "ZWJ"), (0x200e, "LRM"), (0x200f, "RLM"), (0x202a, "LRE"), (0x202b, "RLE"),
  (0x202c, "PDF"), (0x202d, "LRO"), (0x202e, "RLO"), (0x202f, "NNBSP"), (0x205f, "MMSP"), (0x2060, "WJ"),
  (0x2066, "LRI"), (0x2067, "RLI"), (0x2068, "FSI"), (0x2069, "PDI"),
  (0x2118, "WEIERSTRASS ELLIPTIC FUNCTION"), (0x2448, "MICR ON US SYMBOL"), (0x2449, "MICR DASH SYMBOL"),
  (0x2b7a, "LEFTWARDS TRIANGLE-HEADED ARROW WITH DOUBLE VERTICAL STROKE"),
  (0x2b7c, "RIGHTWARDS TRIANGLE-HEADED ARROW WITH DOUBLE VERTICAL STROKE"), (0xfe00, "VS1"),
  (0xfe01, "VS2"), (0xfe02, "VS3"), (0xfe03, "VS4"), (0xfe04, "VS5"), (0xfe05, "VS6"), (0xfe06, "VS7"),
  (0xfe07, "VS8"), (0xfe08, "VS9"), (0xfe09, "VS10"), (0xfe0a, "VS11"), (0xfe0b, "VS12"), (0xfe0c, "VS13"),
  (0xfe0d, "VS14"), (0xfe0e, "VS15"), (0xfe0f, "VS16"),
  (0xfe18, "PRESENTATION FORM FOR VERTICAL RIGHT WHITE LENTICULAR BRACKET"),
  (0xfeff, "BOM|BYTE ORDER MARK|ZWNBSP"), (0x122d4, "CUNEIFORM SIGN NU11 TENU")]

/-- The ranges of ideographs that are named by their numbers. -/
def ideographs : List (Nat × Nat) :=
  [(0x3400, 0x4dbf), (0x4e00, 0x9fff), (0x20000, 0x2a6df), (0x2a700, 0x2b738), (0x2b740, 0x2b81d),
    (0x2b820, 0x2cea1), (0x2ceb0, 0x2ebe0), (0x30000, 0x3134a)]

def initials : List String :=
  ["G", "GG", "N", "D", "DD", "R", "M", "B", "BB", "S", "SS", "", "J", "JJ", "C", "K", "T", "P", "H"]

def medials : List String :=
  ["A", "AE", "YA", "YAE", "EO", "E", "YEO", "YE", "O", "WA", "WAE", "OE", "YO", "U", "WEO", "WE", "WI",
    "YU", "EU", "YI", "I"]

def finals : List String :=
  ["", "G", "GG", "GS", "N", "NJ", "NH", "D", "L", "LG", "LM", "LB", "LS", "LT", "LP", "LH", "M", "B", "BS",
    "S", "SS", "NG", "J", "C", "K", "T", "P", "H"]

/-- The longest of some sounds at the front, by its place among them, and the rest. -/
def sound? (sounds : List String) (cs : List Char) : Option (Nat × List Char) :=
  let found := sounds.zipIdx.filter fun (s, _) => s.toList.isPrefixOf cs
  let longest := found.foldl (fun n (s, _) => max n s.length) 0
  (found.find? fun (s, _) => s.length == longest).map fun (_, place) => (place, cs.drop longest)

/-- The syllable of Korean with some sounds. -/
def syllable? (cs : List Char) : Option Nat := do
  let (initial, rest) ← sound? initials cs
  let (medial, rest) ← sound? medials rest
  let (final, rest) ← sound? finals rest
  if rest.isEmpty then return 0xac00 + (initial * 21 + medial) * 28 + final else none

/-- The ideograph of a number with four or five digits. -/
def ideograph? (cs : List Char) : Option Nat :=
  let digit (c : Char) : Nat := if c.isDigit then c.toNat - 0x30 else c.toNat - 0x37
  if (cs.length == 4 || cs.length == 5) && cs.all fun c => c.isDigit || ('A' ≤ c && c ≤ 'F') then
    let code := cs.foldl (fun n c => n * 16 + digit c) 0
    if ideographs.any fun (first, last) => first ≤ code && code ≤ last then some code else none
  else none

/-- The code point that a row names. -/
def inRow? (name : String) (row : Nat × String × String) : Option Nat :=
  let (code, start, ends) := row
  if name.startsWith start then
    (((ends.splitOn "|").map fun rest => start ++ rest).findIdx? (· == name)).map (code + ·)
  else none

/-- The code point of a name. -/
def code? (name : List Char) : Option Nat :=
  let ideograph := "CJK UNIFIED IDEOGRAPH-".toList
  let syllable := "HANGUL SYLLABLE ".toList
  if ideograph.isPrefixOf name then ideograph? (name.drop ideograph.length)
  else if syllable.isPrefixOf name then syllable? (name.drop syllable.length)
  else
    let name := String.ofList (name.map Char.toUpper)
    ((letterRows ++ signRows ++ pictureRows).findSome? (inRow? name)).orElse fun _ =>
      (others.find? fun (_, names) => (names.splitOn "|").contains name).map (·.1)

end Workflow.Text.Name
