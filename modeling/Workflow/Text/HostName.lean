import Workflow.Text.Case
import Workflow.Text.Punycode
import Workflow.Value.Text

/-!
# Names of hosts

A label of the name of a host, one of the parts between full stops, is in ASCII. One that begins with
`xn--` stands for a text in other characters, in Punycode. Such a text is prepared - its letters are
folded and characters that do not count are left out - and it is only taken if it leads back to the
same label.
-/
namespace Workflow.Text.HostName

def mark : List Char := ['x', 'n', '-', '-']

def isIn (ranges : List (Nat × Nat)) (code : Nat) : Bool :=
  ranges.any fun (first, last) => first ≤ code && code ≤ last

/-- The characters that do not count. -/
def ignored : List (Nat × Nat) :=
  [(0xad, 0xad), (0x34f, 0x34f), (0x1806, 0x1806), (0x180b, 0x180d), (0x200b, 0x200d), (0x2060, 0x2060),
    (0xfe00, 0xfe0f), (0xfeff, 0xfeff)]

/-- The characters that no label has. -/
def prohibited : List (Nat × Nat) :=
  [(0x80, 0x9f), (0x340, 0x341), (0x6dd, 0x6dd), (0x70f, 0x70f), (0x1680, 0x1680), (0x180e, 0x180e),
    (0x200e, 0x200f), (0x2028, 0x202e), (0x2061, 0x2063), (0x206a, 0x206f), (0x2ff0, 0x2ffb),
    (0xd800, 0xf8ff), (0xfdd0, 0xfdef), (0xfff9, 0xffff), (0x1d173, 0x1d17a), (0x1fffe, 0x1ffff),
    (0x2fffe, 0x2ffff), (0x3fffe, 0x3ffff), (0x4fffe, 0x4ffff), (0x5fffe, 0x5ffff), (0x6fffe, 0x6ffff),
    (0x7fffe, 0x7ffff), (0x8fffe, 0x8ffff), (0x9fffe, 0x9ffff), (0xafffe, 0xaffff), (0xbfffe, 0xbffff),
    (0xcfffe, 0xcffff), (0xdfffe, 0xdffff), (0xe0001, 0xe0001), (0xe0020, 0xe007f), (0xefffe, 0x10ffff)]

/-- The characters that are written from the right. -/
def fromRight : List (Nat × Nat) :=
  [(0x5be, 0x5be), (0x5c0, 0x5c0), (0x5c3, 0x5c3), (0x5d0, 0x5ea), (0x5f0, 0x5f4), (0x61b, 0x61b),
    (0x61f, 0x61f), (0x621, 0x63a), (0x640, 0x64a), (0x66d, 0x66f), (0x671, 0x6d5), (0x6dd, 0x6dd),
    (0x6e5, 0x6e6), (0x6fa, 0x6fe), (0x700, 0x70d), (0x710, 0x710), (0x712, 0x72c), (0x780, 0x7a5),
    (0x7b1, 0x7b1), (0x200f, 0x200f), (0xfb1d, 0xfb1d), (0xfb1f, 0xfb28), (0xfb2a, 0xfb36),
    (0xfb38, 0xfb3c), (0xfb3e, 0xfb3e), (0xfb40, 0xfb41), (0xfb43, 0xfb44), (0xfb46, 0xfbb1),
    (0xfbd3, 0xfd3d), (0xfd50, 0xfd8f), (0xfd92, 0xfdc7), (0xfdf0, 0xfdfc), (0xfe70, 0xfe74),
    (0xfe76, 0xfefc)]

/-- Whether a character is a letter that is written from the left. -/
def isFromLeft (code : Nat) : Bool :=
  !isIn fromRight code && (isCased (Char.ofNat code) || isIn [(0x905, 0x1fff), (0x3041, 0xd7a3)] code)

/-- A code point with its letters folded. -/
def folded (code : Nat) : List Nat :=
  if code == 0x131 || isHalf code then [code]
  else
    ((upperChar (Char.ofNat code)).flatMap fun c => lowerChar [] c []).map Char.toNat

/-- The text of a label as it is compared, or why it is none. -/
def prepared (text : List Nat) : Except String (List Nat) := do
  let text := (text.filter fun code => !isIn ignored code).flatMap folded
  match text.find? (isIn prohibited) with
  | some code => throw ("Invalid character " ++ quoted (String.ofList (ofCode code)))
  | none => pure ()
  if text.any (isIn fromRight) then
    if text.any isFromLeft then throw "Violation of BIDI requirement 2"
    if !(isIn fromRight (text.headD 0) && isIn fromRight (text.getLastD 0)) then
      throw "Violation of BIDI requirement 3"
  return text

def ofAscii? (text : List Nat) : Option (List Char) :=
  if text.all (· < 0x80) then some (text.map Char.ofNat) else none

/-- The label of a text. -/
def label (text : List Nat) : Except String (List Char) := do
  let sized (cs : List Char) : Except String (List Char) :=
    if 0 < cs.length && cs.length < 64 then .ok cs else .error "label empty or too long"
  match ofAscii? text with
  | some cs => sized cs
  | none =>
    let text ← prepared text
    match ofAscii? text with
    | some cs => sized cs
    | none =>
      if (mark.map Char.toNat).isPrefixOf text then throw "Label starts with ACE prefix"
      sized (mark ++ Punycode.write text)

def bytesOf (cs : List Char) : String := quotedBytes (cs.map fun c => UInt8.ofNat c.toNat)

/-- The text of a label. -/
def readLabel (cs : List Char) : Except String (List Char) := do
  if !mark.isPrefixOf cs then return cs
  let (plain, extended) := Punycode.split (cs.drop mark.length)
  let text ← (Punycode.read plain extended).mapError fun f =>
    "decoding with 'punycode' codec failed (UnicodeError: " ++ f.message ++ ")"
  let again ← label text
  if cs.map Char.toLower == again then return text.flatMap ofCode
  else throw ("('IDNA does not round-trip', " ++ bytesOf cs ++ ", " ++ bytesOf again ++ ")")

/-- The text of the name of a host in ASCII. -/
def read (cs : List Char) : Except String (List Char) := do
  let labels ← ((String.ofList cs).splitOn ".").mapM fun label => readLabel label.toList
  return ['.'].intercalate labels

end Workflow.Text.HostName
