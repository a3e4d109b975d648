import Workflow.Text.EastAsian
import Workflow.Text.HostName
import Workflow.Text.Name
import Workflow.Text.Utf8
import Workflow.Value.Text

/-!
# Encodings of text

An `Encoding` reads bytes as text, or says at which bytes it cannot.
-/
namespace Workflow.Text

inductive Encoding where
  | utf8
  /-- As UTF-8, without a byte order mark in front. -/
  | utf8Signed
  | latin1
  | ascii
  /-- Two bytes a unit; a byte order mark in front tells their order. -/
  | utf16
  | utf16Little
  | utf16Big
  /-- Four bytes a unit; a byte order mark in front tells their order. -/
  | utf32
  | utf32Little
  | utf32Big
  /-- Seven bits, with sections in base sixty-four. -/
  | utf7
  /-- Characters beyond Latin by escapes. -/
  | rawEscapes
  /-- Characters by escapes as in the literals of programs. -/
  | escapes
  /-- The names of hosts. -/
  | hostNames
  /-- Characters beyond ASCII by numbers at the end. -/
  | punycode
  /-- An encoding that reads nothing. -/
  | undefined
  | codePage (page : CodePage)
  | eastAsian (encoding : EastAsian)
deriving DecidableEq

namespace Encoding

/-- Words of letters and digits, joined by low lines. -/
def normalise (name : String) : String :=
  let step (state : List Char × Bool) (c : Char) : List Char × Bool :=
    if c.isAlphanum || c == '.' then
      (if state.2 && !state.1.isEmpty then c.toLower :: '_' :: state.1 else c.toLower :: state.1,
        false)
    else (state.1, true)
  String.ofList (name.toList.foldl step ([], false)).1.reverse

/-- The encodings of the whole of Unicode and of parts of it, by their names. -/
def basic : List (String × Encoding × List String) := [
  ("utf_8", utf8, ["utf8", "u8", "utf", "cp65001", "utf8_ucs2", "utf8_ucs4"]),
  ("utf_8_sig", utf8Signed, []),
  ("latin_1", latin1, ["latin1", "latin", "l1", "iso8859_1", "iso_8859_1", "iso8859", "8859",
    "cp819", "ibm819", "iso_8859_1_1987", "iso_ir_100", "csisolatin1"]),
  ("charmap", latin1, []),
  ("ascii", ascii, ["us_ascii", "us", "646", "iso646_us", "iso_ir_6", "cp367", "ibm367", "csascii",
    "ansi_x3.4_1968", "ansi_x3_4_1968", "ansi_x3.4_1986", "iso_646.irv_1991"]),
  ("utf_16", utf16, ["utf16", "u16"]),
  ("utf_16_le", utf16Little, ["utf_16le", "unicodelittleunmarked"]),
  ("utf_16_be", utf16Big, ["utf_16be", "unicodebigunmarked"]),
  ("utf_32", utf32, ["utf32", "u32"]),
  ("utf_32_le", utf32Little, ["utf_32le"]),
  ("utf_32_be", utf32Big, ["utf_32be"]),
  ("utf_7", utf7, ["utf7", "u7", "unicode_1_1_utf_7"]),
  ("raw_unicode_escape", rawEscapes, []),
  ("unicode_escape", escapes, []),
  ("idna", hostNames, []),
  ("punycode", punycode, []),
  ("undefined", undefined, [])]

/-- The encodings, each with its name and its other names. -/
def all : List (String × Encoding × List String) :=
  basic ++ CodePage.all.map (fun page => (page.name, codePage page, page.aliases)) ++
    EastAsian.all.map fun (e, aliases) => (e.name, eastAsian e, aliases)

/-- The names of encodings of bytes as other bytes. -/
def byteNames : List String :=
  ["base64_codec", "base64", "base_64", "bz2_codec", "bz2", "hex_codec", "hex", "quopri_codec",
    "quopri", "quoted_printable", "quotedprintable", "rot_13", "rot13", "uu_codec", "uu",
    "zlib_codec", "zip", "zlib"]

/-- Why no encoding of text has a name. -/
def unknownText (name : String) : String :=
  if byteNames.contains (normalise name) then
    quoted name ++ " is not a text encoding; use codecs.open() to handle arbitrary codecs"
  else "unknown encoding: " ++ name

/-- The encoding of a name. In other names than the first a full stop may stand for a low line. -/
def ofName? (name : String) : Option Encoding :=
  let name := normalise name
  let joined := name.map fun c => if c == '.' then '_' else c
  (all.find? fun (first, _, others) =>
    first == name || others.contains name || others.contains joined).map (·.2.1)

end Encoding

/-- Bytes that an encoding cannot read. -/
structure DecodeFault where
  encoding : String
  position : Nat
  bytes : List UInt8
  reason : String
deriving DecidableEq

def DecodeFault.message (f : DecodeFault) : String :=
  "'" ++ f.encoding ++ "' codec can't decode " ++
    (match f.bytes with
      | [b] => "byte 0x" ++ Text.hex 2 b.toNat ++ " in position " ++ toString f.position
      | _ => "bytes in position " ++ toString f.position ++ "-" ++
        toString (f.position + f.bytes.length - 1)) ++ ": " ++ f.reason

def Utf8Fault.reason : Utf8Fault → String
  | invalidStart => "invalid start byte"
  | invalidContinuation => "invalid continuation byte"
  | unexpectedEnd => "unexpected end of data"

/-- Reads UTF-8 from a position on. -/
def readUtf8 : Nat → Nat → List UInt8 → Except DecodeFault (List Char)
  | 0, _, _ => .ok []
  | _, _, [] => .ok []
  | fuel + 1, position, first :: rest =>
    match utf8Step first rest with
    | .error (fault, size) =>
      .error ⟨"utf-8", position, (first :: rest).take size, fault.reason⟩
    | .ok (c, size) =>
      (readUtf8 fuel (position + size) (rest.drop (size - 1))).map (c :: ·)

/-- Reads bytes of which each is a character. -/
def readAscii : Nat → List UInt8 → Except DecodeFault (List Char)
  | _, [] => .ok []
  | position, b :: rest =>
    if b.toNat < 128 then (readAscii (position + 1) rest).map (Char.ofNat b.toNat :: ·)
    else .error ⟨"ascii", position, [b], "ordinal not in range(128)"⟩

/-- The unit that two bytes make. -/
def unit16 (big : Bool) (a b : UInt8) : Nat :=
  if big then a.toNat * 256 + b.toNat else b.toNat * 256 + a.toNat

def isHighSurrogate (n : Nat) : Bool := 0xd800 ≤ n && n ≤ 0xdbff

def isLowSurrogate (n : Nat) : Bool := 0xdc00 ≤ n && n ≤ 0xdfff

/-- Reads units of two bytes from a position on. -/
def readUtf16 (big : Bool) : Nat → List UInt8 → Except DecodeFault (List Char)
  | _, [] => .ok []
  | position, [a] => .error ⟨codec, position, [a], "truncated data"⟩
  | position, a :: b :: rest =>
    let first := unit16 big a b
    if isLowSurrogate first then .error ⟨codec, position, [a, b], "illegal encoding"⟩
    else if isHighSurrogate first then
      match rest with
      | c :: d :: rest =>
        let second := unit16 big c d
        if isLowSurrogate second then
          let n := 0x10000 + (first - 0xd800) * 0x400 + (second - 0xdc00)
          (readUtf16 big (position + 4) rest).map (Char.ofNat n :: ·)
        else .error ⟨codec, position, [a, b], "illegal UTF-16 surrogate"⟩
      | _ => .error ⟨codec, position, a :: b :: rest, "unexpected end of data"⟩
    else (readUtf16 big (position + 2) rest).map (Char.ofNat first :: ·)
where
  /-- The name of the byte order. -/
  codec : String := if big then "utf-16-be" else "utf-16-le"

/-- Reads units of four bytes from a position on. -/
def readUtf32 (big : Bool) : Nat → List UInt8 → Except DecodeFault (List Char)
  | _, [] => .ok []
  | position, a :: b :: c :: d :: rest =>
    let n :=
      if big then unit16 true a b * 0x10000 + unit16 true c d
      else unit16 false c d * 0x10000 + unit16 false a b
    if isHighSurrogate n || isLowSurrogate n then
      .error ⟨codec, position, [a, b, c, d], "code point in surrogate code point range(0xd800, 0xe000)"⟩
    else if n ≥ 0x110000 then
      .error ⟨codec, position, [a, b, c, d], "code point not in range(0x110000)"⟩
    else (readUtf32 big (position + 4) rest).map (Char.ofNat n :: ·)
  | position, bytes => .error ⟨codec, position, bytes, "truncated data"⟩
where
  /-- The name of the byte order. -/
  codec : String := if big then "utf-32-be" else "utf-32-le"

/-- Reads the bytes of a code page. -/
def readPage (page : CodePage) : Nat → List UInt8 → Except DecodeFault (List Char)
  | _, [] => .ok []
  | position, b :: rest =>
    match page.char? b with
    | some c => (readPage page (position + 1) rest).map (c :: ·)
    | none => .error ⟨"charmap", position, [b], "character maps to <undefined>"⟩

def EastAsian.decode (e : EastAsian) (bytes : List UInt8) : Except DecodeFault (List Char) :=
  match e.read bytes with
  | .ok cs => .ok cs
  | .error (position, size, isCut) =>
    .error ⟨e.name, position, (bytes.drop position).take size,
      if isCut then "incomplete multibyte sequence" else "illegal multibyte sequence"⟩

/-! ## UTF-7 -/

/-- The value of a character of base sixty-four. -/
def sextet? (c : Char) : Option Nat :=
  if 'A' ≤ c && c ≤ 'Z' then some (c.toNat - 0x41)
  else if 'a' ≤ c && c ≤ 'z' then some (c.toNat - 0x61 + 26)
  else if c.isDigit then some (c.toNat - 0x30 + 52)
  else if c == '+' then some 62
  else if c == '/' then some 63
  else none

/-- A section in base sixty-four. -/
structure Section where
  start : Nat
  /-- The bits that are in no unit yet, and their count. -/
  bits : Nat := 0
  count : Nat := 0
  /-- The first half of a surrogate pair. -/
  half : Option Nat := none

def Section.halfChar (s : Section) : List Char := s.half.toList.map surrogate

/-- Adds the bits of a character; gives the characters that are complete then. -/
def Section.add (s : Section) (bits : Nat) : List Char × Section :=
  let bits := s.bits * 64 + bits
  let count := s.count + 6
  if count < 16 then ([], { s with bits, count })
  else
    let unit := bits / twoTo (count - 16)
    let rest : Section := { s with bits := bits % twoTo (count - 16), count := count - 16, half := none }
    match s.half with
    | some high =>
      if isLowSurrogate unit then
        (ofCode (0x10000 + (high - 0xd800) * 0x400 + (unit - 0xdc00)), rest)
      else if isHighSurrogate unit then (s.halfChar, { rest with half := some unit })
      else (s.halfChar ++ [Char.ofNat unit], rest)
    | none =>
      if isHighSurrogate unit then ([], { rest with half := some unit })
      else if isLowSurrogate unit then ([surrogate unit], rest)
      else ([Char.ofNat unit], rest)

/-- Reads UTF-7 from a position on, inside a section or outside. -/
def readUtf7 (all : List UInt8) :
    Nat → Option Section → Nat → List UInt8 → Except DecodeFault (List Char)
  | 0, _, _, _ => .ok []
  | _, none, _, [] => .ok []
  | _, some s, _, [] =>
    if s.half.isSome || s.count ≥ 6 || (s.count > 0 && s.bits != 0) then
      .error ⟨"utf7", s.start, all.drop s.start, "unterminated shift sequence"⟩
    else .ok []
  | fuel + 1, none, position, b :: rest =>
    let next := position + 1
    if b.toNat == 0x2b then
      match rest with
      | c :: tail =>
        if c.toNat == 0x2d then (readUtf7 all fuel none (position + 2) tail).map ('+' :: ·)
        else if (sextet? (Char.ofNat c.toNat)).isNone then
          .error ⟨"utf7", position, [b, c], "ill-formed sequence"⟩
        else readUtf7 all fuel (some { start := position }) next rest
      | [] => readUtf7 all fuel (some { start := position }) next rest
    else if b.toNat < 0x80 then
      (readUtf7 all fuel none next rest).map (Char.ofNat b.toNat :: ·)
    else .error ⟨"utf7", position, [b], "unexpected special character"⟩
  | fuel + 1, some s, position, b :: rest =>
    let next := position + 1
    match sextet? (Char.ofNat b.toNat) with
    | some bits =>
      let (cs, s) := s.add bits
      (readUtf7 all fuel (some s) next rest).map (cs ++ ·)
    | none =>
      let fault (reason : String) : Except DecodeFault (List Char) :=
        .error ⟨"utf7", s.start, (all.take next).drop s.start, reason⟩
      if s.count ≥ 6 then fault "partial character in shift sequence"
      else if s.count > 0 && s.bits != 0 then fault "non-zero padding bits in shift sequence"
      else
        let half := if b.toNat < 0x80 && b.toNat != 0x2b then s.halfChar else []
        if b.toNat == 0x2d then (readUtf7 all fuel none next rest).map (half ++ ·)
        else (readUtf7 all fuel none position (b :: rest)).map (half ++ ·)

/-! ## Escapes -/

/-- The digit of a byte in a base up to sixteen. -/
def digitOfByte? (base : Nat) (b : UInt8) : Option Nat :=
  let n := b.toNat
  let digit :=
    if 0x30 ≤ n && n ≤ 0x39 then some (n - 0x30)
    else if 0x61 ≤ n && n ≤ 0x66 then some (n - 0x57)
    else if 0x41 ≤ n && n ≤ 0x46 then some (n - 0x37)
    else none
  digit.filter (· < base)

/-- The number of digits at the front, at most so many, and their count. -/
def leadingDigits (base : Nat) : Nat → List UInt8 → Nat × Nat
  | 0, _ => (0, 0)
  | _, [] => (0, 0)
  | count + 1, b :: rest =>
    match digitOfByte? base b with
    | none => (0, 0)
    | some d =>
      let (n, size) := leadingDigits base count rest
      (d * Nat.pow base size + n, size + 1)

/-- The digits of a hexadecimal escape, and how it is called. -/
def hexEscape? (letter : UInt8) : Option (Nat × String) :=
  if letter.toNat == 0x78 then some (2, "\\xXX")
  else if letter.toNat == 0x75 then some (4, "\\uXXXX")
  else if letter.toNat == 0x55 then some (8, "\\UXXXXXXXX")
  else none

/-- The character that a letter stands for behind a backslash; a line break stands for none. -/
def letterEscape? (letter : UInt8) : Option (List Char) :=
  (match Char.ofNat letter.toNat with
    | '\n' => some []
    | '\\' => some ['\\']
    | '\'' => some ['\'']
    | '"' => some ['"']
    | 'b' => some ['\x08']
    | 'f' => some ['\x0c']
    | 't' => some ['\t']
    | 'n' => some ['\n']
    | 'r' => some ['\r']
    | 'v' => some ['\x0b']
    | 'a' => some ['\x07']
    | _ => none)

/-- The character that is named in braces and the count of bytes that are read, or that of those that are
wrong and why. -/
def namedEscape (bytes : List UInt8) : Except (Nat × String) (List Char × Nat) :=
  let malformed := "malformed \\N character escape"
  match bytes with
  | b :: rest =>
    if b.toNat != 0x7b then .error (0, malformed)
    else
      let name := rest.takeWhile fun b => b.toNat != 0x7d
      if name.length == rest.length || name.isEmpty then .error (name.length + 1, malformed)
      else
        match Name.code? (name.map fun b => Char.ofNat b.toNat) with
        | some code => .ok (ofCode code, name.length + 2)
        | none => .error (name.length + 2, "unknown Unicode character name")
  | [] => .error (0, malformed)

/-- Reads bytes with escapes; `raw` if only those of code points are some. -/
def readEscapes (raw : Bool) : Nat → Nat → List UInt8 → Except DecodeFault (List Char)
  | 0, _, _ => .ok []
  | _, _, [] => .ok []
  | fuel + 1, position, b :: rest =>
    let codec := if raw then "rawunicodeescape" else "unicodeescape"
    let go (cs : List Char) (size : Nat) : Except DecodeFault (List Char) :=
      (readEscapes raw fuel (position + size) (rest.drop (size - 1))).map (cs ++ ·)
    if b.toNat != 0x5c then go [Char.ofNat b.toNat] 1
    else
      match rest with
      | [] => if raw then go ['\\'] 1 else .error ⟨codec, position, [b], "\\ at end of string"⟩
      | letter :: tail =>
        match (hexEscape? letter).filter fun (count, _) => !raw || count > 2 with
        | some (count, name) =>
          let (n, size) := leadingDigits 16 count tail
          let bytes := (b :: rest).take (size + 2)
          if size < count then .error ⟨codec, position, bytes, "truncated " ++ name ++ " escape"⟩
          else if n ≥ 0x110000 then
            .error ⟨codec, position, bytes,
              if raw then "\\Uxxxxxxxx out of range" else "illegal Unicode character"⟩
          else go (ofCode n) (count + 2)
        | none =>
          if raw then go ['\\', Char.ofNat letter.toNat] 2
          else if letter.toNat == 0x4e then
            match namedEscape tail with
            | .ok (cs, size) => go cs (size + 2)
            | .error (size, reason) =>
              .error ⟨codec, position, (b :: rest).take (size + 2), reason⟩
          else
            match letterEscape? letter, leadingDigits 8 3 rest with
            | some cs, _ => go cs 2
            | none, (_, 0) => go ['\\', Char.ofNat letter.toNat] 2
            | none, (n, size) => go [Char.ofNat n] (size + 1)

/-- Reads the name of a host, in ASCII. -/
def readHostName (bytes : List UInt8) : Except String (List Char) := do
  HostName.read (← (readAscii 0 bytes).mapError DecodeFault.message)

/-- Reads bytes in Punycode, which are in ASCII on both sides of the last hyphen. -/
def readPunycode (bytes : List UInt8) : Except String (List Char) := do
  let (plain, extended) := Punycode.split (bytes.map fun b => Char.ofNat b.toNat)
  let plain ← (readAscii 0 (bytes.take plain.length)).mapError DecodeFault.message
  let extended ← (readAscii 0 (bytes.drop (bytes.length - extended.length))).mapError
    DecodeFault.message
  let codes ← (Punycode.read plain extended).mapError Punycode.Fault.message
  return codes.flatMap ofCode

/-- The characters of bytes in an encoding that can write no halves of surrogate pairs. -/
def Encoding.characters (e : Encoding) (bytes : List UInt8) : Except String (List Char) :=
  match e with
  | utf8 => (readUtf8 bytes.length 0 bytes).mapError DecodeFault.message
  | utf8Signed =>
    let mark := [0xef, 0xbb, 0xbf]
    if bytes.isPrefixOf mark then .ok []
    else
      let bytes := if mark.isPrefixOf bytes then bytes.drop mark.length else bytes
      (readUtf8 bytes.length 0 bytes).mapError DecodeFault.message
  | latin1 => .ok (bytes.map fun b => Char.ofNat b.toNat)
  | ascii => (readAscii 0 bytes).mapError DecodeFault.message
  | utf16Little => (readUtf16 false 0 bytes).mapError DecodeFault.message
  | utf16Big => (readUtf16 true 0 bytes).mapError DecodeFault.message
  | utf16 =>
    match bytes with
    | 0xff :: 0xfe :: rest => (readUtf16 false 2 rest).mapError DecodeFault.message
    | 0xfe :: 0xff :: rest => (readUtf16 true 2 rest).mapError DecodeFault.message
    | bytes =>
      match readUtf16 false 0 bytes with
      | .ok [] => .ok []
      | .ok _ => .error "UTF-16 stream does not start with BOM"
      | .error f => .error f.message
  | utf32Little => (readUtf32 false 0 bytes).mapError DecodeFault.message
  | utf32Big => (readUtf32 true 0 bytes).mapError DecodeFault.message
  | utf32 =>
    match bytes with
    | 0xff :: 0xfe :: 0 :: 0 :: rest => (readUtf32 false 4 rest).mapError DecodeFault.message
    | 0 :: 0 :: 0xfe :: 0xff :: rest => (readUtf32 true 4 rest).mapError DecodeFault.message
    | bytes =>
      match readUtf32 false 0 bytes with
      | .ok [] => .ok []
      | .ok _ => .error "UTF-32 stream does not start with BOM"
      | .error f => .error f.message
  | undefined => .error "undefined encoding"
  | codePage page => (readPage page 0 bytes).mapError DecodeFault.message
  | eastAsian e => (e.decode bytes).mapError DecodeFault.message
  | _ => .ok []

/-- The text of bytes, or why there is none. -/
def Encoding.decode (e : Encoding) (bytes : List UInt8) : Except String (List Char) :=
  match e with
  | utf7 => (readUtf7 bytes (2 * bytes.length + 2) none 0 bytes).mapError DecodeFault.message
  | rawEscapes => (readEscapes true bytes.length 0 bytes).mapError DecodeFault.message
  | escapes => (readEscapes false bytes.length 0 bytes).mapError DecodeFault.message
  | punycode => readPunycode bytes
  | hostNames => readHostName bytes
  | e => (e.characters bytes).map withMarks

end Workflow.Text
