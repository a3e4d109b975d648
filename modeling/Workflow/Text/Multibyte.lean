import Workflow.Text.Charset.Chinese
import Workflow.Text.Charset.Japanese
import Workflow.Text.Charset.Korean
import Workflow.Text.Charset.Planes
import Workflow.Text.Charset.Traditional

/-!
# Encodings with characters of several bytes

Most of the encodings of East Asia write a character as two bytes, and ASCII as it is. A `step` of an
encoding reads what stands at the front of some bytes; `readSteps` reads all of them. Some encodings
shift from one set of characters to another, and their steps carry along what is in force.
-/
namespace Workflow.Text

/-- What stands at the front of bytes. -/
inductive Reading (σ : Type) where
  /-- Characters of so many bytes, and what is in force behind them. -/
  | read (cs : List Char) (size : Nat) (next : σ)
  /-- So many bytes that mean nothing. -/
  | illegal (size : Nat)
  /-- The beginning of a character, and then the end. -/
  | incomplete

/-- A step of an encoding: the bytes at the front are its arguments. -/
abbrev Step (σ : Type) := σ → UInt8 → List UInt8 → Reading σ

/-- Reads bytes up to their end, or gives the position and the count of those that cannot be read and
whether only their rest is missing. -/
def readSteps {σ : Type} (step : Step σ) :
    Nat → σ → Nat → List UInt8 → Except (Nat × Nat × Bool) (List Char)
  | 0, _, _, _ => .ok []
  | _, _, _, [] => .ok []
  | fuel + 1, state, position, first :: rest =>
    match step state first rest with
    | .read cs size next =>
      (readSteps step fuel next (position + size) (rest.drop (size - 1))).map (cs ++ ·)
    | .illegal size => .error (position, size, false)
    | .incomplete => .error (position, rest.length + 1, true)

/-- The character at a place in rows. -/
def charAt? (rows : List String) (row column : Nat) : Option Char :=
  (rows[row]?).bind fun cs => (cs.toList[column]?).filter (· != '.')

/-- The character at a place in runs of characters. -/
def charInRuns? (runs : List (Nat × Nat × Nat)) (place : Nat) : Option Char :=
  (runs.find? fun (start, count, _) => start ≤ place && place < start + count).map
    fun (start, _, code) => Char.ofNat (code + (place - start))

/-- The place of a second byte among 0x40 to 0x7e and those from another byte to 0xfe. -/
def column? (further b : Nat) : Option Nat :=
  if 0x40 ≤ b && b ≤ 0x7e then some (b - 0x40)
  else if further ≤ b && b ≤ 0xfe then some (b - further + 63)
  else none

/-- The character of two bytes in rows that begin with the byte 0xa1, as do their columns. -/
def charOfPair? (rows : List String) (a b : Nat) : Option Char :=
  if 0xa1 ≤ a && 0xa1 ≤ b then charAt? rows (a - 0xa1) (b - 0xa1) else none

/-- A step of an encoding with ASCII and characters of two bytes. -/
def pairStep (char? : Nat → Nat → Option Char) : Step Unit := fun _ a rest =>
  if a.toNat < 0x80 then .read [Char.ofNat a.toNat] 1 ()
  else
    match rest with
    | [] => .incomplete
    | b :: _ =>
      match char? a.toNat b.toNat with
      | some c => .read [c] 2 ()
      | none => .illegal 1

/-! ## Chinese -/

def gbkChar? (a b : Nat) : Option Char :=
  if a < 0x81 then none else (column? 0x80 b).bind (charAt? gbkRows (a - 0x81))

/-- Whether two bytes have a character only in later sets than GB 2312. -/
def isLaterThanGb2312 (a b : Nat) : Bool :=
  a < 0xa1 || b < 0xa1 || a > 0xf7 || (a == 0xa2 && b ≤ 0xaa) ||
    (a == 0xa6 && b ≥ 0xe0) || (a == 0xa8 && (b == 0xbb || b == 0xbd || b == 0xbe || b == 0xc0))

def gb2312Char? (a b : Nat) : Option Char :=
  if isLaterThanGb2312 a b then none
  else if a == 0xa1 && b == 0xa4 then some '・'
  else if a == 0xa1 && b == 0xaa then some '―'
  else gbkChar? a b

def gb18030Char? (a b : Nat) : Option Char :=
  (gbkChar? a b).orElse fun _ =>
    (column? 0x80 b).bind fun column =>
      if a < 0x81 then none else charInRuns? gb18030Runs ((a - 0x81) * 190 + column)

/-- The character of four bytes of GB 18030. -/
def gb18030Long? (a b c d : Nat) : Option Char :=
  if a < 0x81 || a > 0xfe || c < 0x81 || c > 0xfe || d < 0x30 || d > 0x39 then none
  else
    let place (first : Nat) : Nat := ((a - first) * 10 + (b - 0x30)) * 1260 + (c - 0x81) * 10 + (d - 0x30)
    if a < 0x85 then charInRuns? gb18030LongRuns (place 0x81)
    else if a < 0x90 then none
    else
      let code := 0x10000 + place 0x90
      if code < 0x110000 then some (Char.ofNat code) else none

def gb18030Step : Step Unit := fun state a rest =>
  match rest with
  | b :: rest =>
    if a.toNat < 0x80 || b.toNat < 0x30 || b.toNat > 0x39 then
      pairStep gb18030Char? state a (b :: rest)
    else
      match rest with
      | c :: d :: _ =>
        match gb18030Long? a.toNat b.toNat c.toNat d.toNat with
        | some ch => .read [ch] 4 ()
        | none => .illegal 1
      | _ => .incomplete
  | [] => pairStep gb18030Char? state a rest

/-- A step of HZ, in which signs switch between ASCII and pairs of seven bits. -/
def hzStep : Step Bool := fun inPairs a rest =>
  let tilde := 0x7e
  if a.toNat == tilde then
    match rest with
    | [] => .incomplete
    | b :: _ =>
      if !inPairs && b.toNat == tilde then .read ['~'] 2 inPairs
      else if !inPairs && b.toNat == 0x7b then .read [] 2 true
      else if !inPairs && b.toNat == 0x0a then .read [] 2 inPairs
      else if inPairs && b.toNat == 0x7d then .read [] 2 false
      else .illegal 1
  else if a.toNat ≥ 0x80 then .illegal 1
  else if !inPairs then .read [Char.ofNat a.toNat] 1 inPairs
  else
    match rest with
    | [] => .incomplete
    | b :: _ =>
      match if b.toNat < 0x80 then gb2312Char? (a.toNat + 0x80) (b.toNat + 0x80) else none with
      | some c => .read [c] 2 inPairs
      | none => .illegal 1

def big5Char? (a b : Nat) : Option Char :=
  if a < 0xa1 then none else (column? 0xa1 b).bind (charAt? big5Rows (a - 0xa1))

def codePage950Char? (a b : Nat) : Option Char :=
  (codePage950.lookup (a * 256 + b)).orElse fun _ => big5Char? a b

def hongKongChar? (a b : Nat) : Option Char :=
  let further := (hongKongRows.lookup a).bind fun row =>
    (column? 0xa1 b).bind fun column => (row.toList[column]?).filter (· != '.')
  further.orElse fun _ =>
    if a < 0xc6 || a > 0xc8 || (a == 0xc6 && b < 0xa1) then big5Char? a b else none

/-- The pairs that stand for a letter and an accent. -/
def accented : List (Nat × List Char) :=
  [(0x8862, ['Ê', '\u0304']), (0x8864, ['Ê', '\u030c']), (0x88a3, ['ê', '\u0304']),
    (0x88a5, ['ê', '\u030c'])]

def hongKongStep : Step Unit := fun state a rest =>
  match rest.head?.bind fun b => accented.lookup (a.toNat * 256 + b.toNat) with
  | some cs => .read cs 2 ()
  | none => pairStep hongKongChar? state a rest

/-! ## Korean -/

def ksxChar? (a b : Nat) : Option Char := charOfPair? ksxRows a b

/-- The character of a pair, with the filler of syllables among the letters. -/
def koreanChar? (a b : Nat) : Option Char :=
  if a == 0xa4 && b == 0xd4 then some '\u3164' else ksxChar? a b

/-- The consonants and vowels that a syllable may be put together of: the places of their second bytes,
for the beginning, the middle and the end. -/
def initials : List Nat :=
  [0xa1, 0xa2, 0xa4, 0xa7, 0xa8, 0xa9, 0xb1, 0xb2, 0xb3, 0xb5, 0xb6, 0xb7, 0xb8, 0xb9, 0xba, 0xbb,
    0xbc, 0xbd, 0xbe]

def finals : List Nat :=
  [0xd4, 0xa1, 0xa2, 0xa3, 0xa4, 0xa5, 0xa6, 0xa7, 0xa9, 0xaa, 0xab, 0xac, 0xad, 0xae, 0xaf, 0xb0, 0xb1,
    0xb2, 0xb4, 0xb5, 0xb6, 0xb7, 0xb8, 0xba, 0xbb, 0xbc, 0xbd, 0xbe]

/-- The syllable of a beginning, a middle and an end. -/
def syllable (initial medial final : Nat) : Char :=
  Char.ofNat (0xac00 + (initial * 21 + medial) * 28 + final)

/-- A syllable that is written letter by letter behind a filler. -/
def spelled? (initial medial final : Nat) : Option Char := do
  let i ← initials.idxOf? initial
  let f ← finals.idxOf? final
  if 0xbf ≤ medial && medial ≤ 0xd3 then some (syllable i (medial - 0xbf) f) else none

def eucKrStep : Step Unit := fun state a rest =>
  let first : UInt8 := 0xa4
  match rest with
  | b :: tail =>
    if a == first && b.toNat == 0xd4 then
      match tail with
      | c :: x :: d :: y :: e :: z :: _ =>
        if c != first || d != first || e != first then .illegal 1
        else
          match spelled? x.toNat y.toNat z.toNat with
          | some ch => .read [ch] 8 ()
          | none => .illegal 1
      | _ => .incomplete
    else pairStep ksxChar? state a rest
  | [] => pairStep ksxChar? state a rest

/-- The syllables that have a place in rows. -/
def commonSyllables : List Char := ((ksxRows.drop 15).take 25).flatMap String.toList

/-- The syllables between two numbers that are not in an ordered list. -/
def gaps : Nat → Nat → List Char → List Char
  | 0, _, _ => []
  | count + 1, code, [] => Char.ofNat code :: gaps count (code + 1) []
  | count + 1, code, c :: rest =>
    if c.toNat == code then gaps count (code + 1) rest
    else Char.ofNat code :: gaps count (code + 1) (c :: rest)

/-- The place of a second byte of the syllables that code page 949 adds: letters and the bytes from
0x81 on. -/
def furtherColumn? (b : Nat) : Option Nat :=
  if 0x41 ≤ b && b ≤ 0x5a then some (b - 0x41)
  else if 0x61 ≤ b && b ≤ 0x7a then some (b - 0x61 + 26)
  else if 0x81 ≤ b && b ≤ 0xfe then some (b - 0x81 + 52)
  else none

/-- The place among the syllables that code page 949 adds. From the first byte 0xa1 on they end where
the rows begin. -/
def furtherPlace? (a b : Nat) : Option Nat := do
  let column ← furtherColumn? b
  if 0x81 ≤ a && a ≤ 0xa0 then some ((a - 0x81) * 178 + column)
  else if 0xa1 ≤ a && a ≤ 0xc6 && column < 84 then some (32 * 178 + (a - 0xa1) * 84 + column)
  else none

def codePage949Char? (a b : Nat) : Option Char :=
  (koreanChar? a b).orElse fun _ => do
    let place ← furtherPlace? a b
    (gaps 11172 0xac00 commonSyllables)[place]?

/-- The places of five bits of a letter in Johab: the beginning, the middle and the end. -/
def johabInitial? (n : Nat) : Option Nat := if 2 ≤ n && n ≤ 20 then some (n - 2) else none

def johabMedial? (n : Nat) : Option Nat :=
  [3, 4, 5, 6, 7, 10, 11, 12, 13, 14, 15, 18, 19, 20, 21, 22, 23, 26, 27, 28, 29].idxOf? n

def johabFinal? (n : Nat) : Option Nat :=
  if 1 ≤ n && n ≤ 17 then some (n - 1) else if 19 ≤ n && n ≤ 29 then some (n - 2) else none

/-- The single letters, by the second bytes of their row. -/
def letter? (place : Nat) : Option Char := ksxChar? 0xa4 place

/-- A character of five bits for each of three letters, of which some may be absent. -/
def johabLetters? (initial medial final : Nat) : Option Char :=
  match johabInitial? initial, johabMedial? medial, johabFinal? final with
  | some i, some m, some f => some (syllable i m f)
  | some i, none, some 0 => if medial == 2 then (initials[i]?).bind letter? else none
  | none, some m, some 0 => if initial == 1 then letter? (0xbf + m) else none
  | none, none, some f =>
    if initial != 1 || medial != 2 then none
    else if f == 0 then some '\u3000'
    else (finals[f]?).bind letter?
  | _, _, _ => none

def johabChar? (a b : Nat) : Option Char :=
  if a < 0xd8 then johabLetters? (a / 4 % 32) ((a * 8 + b / 32) % 32) (b % 32)
  else if a == 0xd8 || a == 0xdf || a > 0xf9 || b < 0x31 || (0x80 ≤ b && b < 0x91) || b % 128 == 127 ||
      (a == 0xda && 0xa1 ≤ b && b ≤ 0xd3) then none
  else
    let row := if a < 0xe0 then 2 * (a - 0xd9) else 2 * a - 0x197
    let column := if b < 0x91 then b - 0x31 else b - 0x43
    if column < 94 then ksxChar? (row + 0xa1) (column + 0xa1)
    else ksxChar? (row + 0xa2) (column - 94 + 0xa1)

/-! ## Japanese -/

def jisChar? (a b : Nat) : Option Char := charOfPair? jisRows a b

/-- The narrow letters of the bytes 0xa1 to 0xdf. -/
def narrowChar? (b : Nat) : Option Char :=
  if 0xa1 ≤ b && b ≤ 0xdf then some (Char.ofNat (0xff61 + (b - 0xa1))) else none

def eucJpStep : Step Unit := fun state a rest =>
  if a.toNat == 0x8e then
    match rest with
    | [] => .incomplete
    | b :: _ =>
      match narrowChar? b.toNat with
      | some c => .read [c] 2 ()
      | none => .illegal 1
  else if a.toNat == 0x8f then
    match rest with
    | b :: c :: _ =>
      match charOfPair? jisFurtherRows b.toNat c.toNat with
      | some ch => .read [ch] 3 ()
      | none => .illegal 1
    | _ => .incomplete
  else pairStep jisChar? state a rest

/-- The row and the column that two bytes of Shift JIS stand for. -/
def shifted? (a b : Nat) : Option (Nat × Nat) :=
  if b < 0x40 || b == 0x7f || b > 0xfc then none
  else
    let row := (if a < 0xe0 then a - 0x81 else a - 0xc1) * 2
    let column := if b < 0x80 then b - 0x40 else b - 0x41
    some (if column < 94 then (row, column) else (row + 1, column - 94))

def isShifted (a : Nat) : Bool := (0x81 ≤ a && a ≤ 0x9f) || (0xe0 ≤ a && a ≤ 0xea)

def shiftJisStep : Step Unit := fun state a rest =>
  match narrowChar? a.toNat with
  | some c => .read [c] 1 ()
  | none =>
    if a.toNat ≥ 0x80 && !isShifted a.toNat then .illegal 1
    else
      pairStep (fun a b => (shifted? a b).bind fun (row, column) => charAt? jisRows row column) state a
        rest

/-- The editions of the larger Japanese set. -/
inductive JisEdition where
  | first
  | second
deriving DecidableEq

/-- The pairs that only the second edition has. -/
def laterPairs : List Nat :=
  [0xaea1, 0xaffe, 0xcfd4, 0xcffe, 0xf4a7, 0xfefa, 0xfefb, 0xfefc, 0xfefd, 0xfefe]

/-- Whether an edition does not have a pair yet. -/
def JisEdition.lacks (edition : JisEdition) (pair : Nat) : Bool :=
  edition == .first && laterPairs.contains pair

/-- The characters of a pair in the first plane of the larger set. -/
def planeChars? (edition : JisEdition) (a b : Nat) : Option (List Char) :=
  let pair := a * 256 + b
  if edition.lacks pair then none
  else
    (jisSequences.lookup pair).or
      (((jisChar? a b).or (charOfPair? jisFirstRows a b)).map fun c => [c])

/-- The character of a pair in the second plane of the larger set. -/
def secondPlaneChar? (edition : JisEdition) (a b : Nat) : Option Char :=
  if edition == .first && a == 0xfd && b == 0xbb then some '\u9b1d' else charOfPair? jisSecondRows a b

/-- The signs of ASCII that Shift JIS and the sets of escapes have in the place of wide ones. -/
def narrowSign? (pair : Nat) : Option (List Char) :=
  if pair == 0xa1c0 then some ['\\'] else if pair == 0xa2b2 then some ['~'] else none

def eucJisStep (edition : JisEdition) : Step Unit := fun state a rest =>
  if a.toNat < 0x80 || a.toNat == 0x8e then eucJpStep state a rest
  else if a.toNat == 0x8f then
    match rest with
    | b :: c :: _ =>
      let second := secondPlaneChar? edition b.toNat c.toNat
      match second.or (charOfPair? jisFurtherRows b.toNat c.toNat) with
      | some ch => .read [ch] 3 ()
      | none => .illegal 1
    | _ => .incomplete
  else
    match rest with
    | [] => .incomplete
    | b :: _ =>
      match planeChars? edition a.toNat b.toNat with
      | some cs => .read cs 2 ()
      | none => .illegal (if edition.lacks (a.toNat * 256 + b.toNat) then 2 else 1)

/-- The row of the second plane that stands behind the first plane. -/
def secondPlaneRow (row : Nat) : Nat :=
  if row ≥ 0x67 then row + 0x07 else if row ≥ 0x63 || row == 0x5f then row - 0x37 else row - 0x3d

/-- What two bytes of Shift JIS stand for. -/
def shiftedPlaneReading (edition : JisEdition) (a b : Nat) : Reading Unit :=
  match shifted? a b with
  | none => .illegal 1
  | some (row, column) =>
    let pair := (row + 0xa1) * 256 + (column + 0xa1)
    let chars :=
      if row < 94 then (narrowSign? pair).or (planeChars? edition (row + 0xa1) (column + 0xa1))
      else (secondPlaneChar? edition (secondPlaneRow row + 0x80) (column + 0xa1)).map fun c => [c]
    match chars with
    | some cs => .read cs 2 ()
    | none => .illegal (if row < 94 && edition.lacks pair then 2 else 1)

def shiftJisPlaneStep (edition : JisEdition) : Step Unit := fun _ a rest =>
  let n := a.toNat
  if n == 0x5c then .read ['¥'] 1 ()
  else if n == 0x7e then .read ['‾'] 1 ()
  else if n < 0x80 then .read [Char.ofNat n] 1 ()
  else
    match narrowChar? n with
    | some c => .read [c] 1 ()
    | none =>
      if n == 0x80 || n == 0xa0 || n > 0xfc then .illegal 1
      else
        match rest with
        | [] => .incomplete
        | b :: _ => shiftedPlaneReading edition n b.toNat

/-- The place of a second byte among 0x40 to 0x7e and 0x80 to 0xfc. -/
def shiftedColumn? (b : Nat) : Option Nat := if b > 0xfc then none else column? 0x80 b

def codePage932Char? (a b : Nat) : Option Char :=
  let further := (codePage932.lookup (a * 256 + b)).orElse fun _ =>
    (codePage932Rows.lookup a).bind fun row =>
      (shiftedColumn? b).bind fun column => (row.toList[column]?).filter (· != '.')
  further.orElse fun _ =>
    if isShifted a then
      (shifted? a b).bind fun (row, column) => charAt? jisRows row column
    else if 0xf0 ≤ a && a ≤ 0xf9 then
      (shiftedColumn? b).map fun column => Char.ofNat (0xe000 + (a - 0xf0) * 188 + column)
    else none

def codePage932Step : Step Unit := fun state a rest =>
  let n := a.toNat
  match narrowChar? n with
  | some c => .read [c] 1 ()
  | none =>
    if n == 0x80 then .read ['\x80'] 1 ()
    else if n == 0xa0 then .read ['\uf8f0'] 1 ()
    else if n ≥ 0xfd then .read [Char.ofNat (0xf8f1 + (n - 0xfd))] 1 ()
    else pairStep codePage932Char? state a rest

/-! ## Sets that escapes call in -/

/-- A set of characters. -/
inductive Charset where
  | ascii
  | latin
  | greek
  | roman
  | narrow
  | jis
  | jisFurther
  | jisPlane (edition : JisEdition)
  | jisSecondPlane
  | chinese
  | korean
deriving DecidableEq

/-- The bytes of a character of a set. -/
def Charset.width : Charset → Nat
  | ascii => 1
  | latin => 1
  | greek => 1
  | roman => 1
  | narrow => 1
  | _ => 2

/-- An encoding in which escapes call sets in. -/
structure Designations where
  /-- The sets by the last byte of their escape and whether they have characters of two bytes. -/
  sets : List ((Nat × Bool) × Charset)
  /-- Whether two control characters shift between the first and the second set. -/
  shifts : Bool
  /-- Whether an escape takes one character from the third set. -/
  thirdSet : Bool
  /-- Whether an escape may announce a revised set. -/
  revisions : Bool

/-- The sets that are called in, and where in the text we are. -/
structure Shift where
  first : Charset := .ascii
  second : Charset := .ascii
  third : Charset := .ascii
  isShifted : Bool := false
  /-- Behind an escape of another kind, whose characters stay. -/
  inEscape : Bool := false

/-- Whether a byte ends an escape. -/
def endsEscape (b : Nat) : Bool := (0x41 ≤ b && b ≤ 0x5a) || b == 0x40

/-- The bytes of an escape that begins here, counted from one of them on; zero if it does not end, and
none if the text ends before. -/
def escapeLength? (revisions : Bool) (bytes : List Nat) : Nat → Nat → Option Nat
  | 0, _ => some 0
  | fuel + 1, i =>
    if i ≥ 16 then some 0
    else
      match bytes[i]? with
      | none => none
      | some b =>
        if endsEscape b then some (i + 1)
        else if revisions && b == 0x26 && bytes[i + 1]? == some 0x40 then
          escapeLength? revisions bytes fuel (i + 3)
        else escapeLength? revisions bytes fuel (i + 1)

/-- The set that an escape calls in, and its place. -/
def designation? (d : Designations) : List Nat → Option (Nat × Bool × Nat)
  | [_, 0x24, x] => some (x, true, 0)
  | [_, 0x28, x] => some (x, false, 0)
  | [_, 0x29, x] => some (x, false, 1)
  | [_, 0x2e, x] => if d.thirdSet then some (x, false, 2) else none
  | [_, 0x24, 0x28, x] => some (x, true, 0)
  | [_, 0x24, 0x29, x] => some (x, true, 1)
  | [_, _, _, 0x1b, 0x24, 0x42] => if d.revisions then some (0x42, true, 0) else none
  | _ => none

def Shift.call (s : Shift) (place : Nat) (set : Charset) : Shift :=
  match place with
  | 0 => { s with first := set }
  | 1 => { s with second := set }
  | _ => { s with third := set }

/-- The character of a pair of seven bits. -/
def Charset.pairChar? (set : Charset) (a b : Nat) : Option Char :=
  match set with
  | jis => jisChar? a b
  | jisFurther => charOfPair? jisFurtherRows a b
  | jisSecondPlane => secondPlaneChar? .first a b
  | chinese => gb2312Char? a b
  | korean => koreanChar? a b
  | _ => none

/-- The character of a byte of seven bits. -/
def Charset.byteChar? (set : Charset) (a : Nat) : Option Char :=
  match set with
  | ascii => some (Char.ofNat a)
  | roman => some (if a == 0x5c then '¥' else if a == 0x7e then '‾' else Char.ofNat a)
  | narrow => narrowChar? (a + 0x80)
  | _ => none

/-- The characters of a set for one or two bytes of seven bits. -/
def Charset.chars? (set : Charset) (a b : Nat) : Option (List Char) :=
  if set.width == 1 then (set.byteChar? a).map fun c => [c]
  else if b ≥ 0x80 then none
  else
    let a := a + 0x80
    let b := b + 0x80
    match set with
    | jisPlane edition =>
      (if a == 0xa2 && b == 0xb2 then some ['~'] else none).or (planeChars? edition a b)
    | set => (set.pairChar? a b).map fun c => [c]

/-- The character of a byte in the third set. -/
def thirdChar? (greekChar? : Nat → Option Char) (set : Charset) (b : Nat) : Option Char :=
  match set with
  | .latin => if b < 0x80 then some (Char.ofNat (b + 0x80)) else none
  | .greek => if b < 0x80 then greekChar? (b + 0x80) else none
  | _ => if b < 0x80 then some (Char.ofNat b) else none

def escapeStep (d : Designations) (s : Shift) (a : UInt8) (rest : List UInt8) : Reading Shift :=
  let bytes := a.toNat :: (rest.take 20).map UInt8.toNat
  match escapeLength? d.revisions bytes 16 1 with
  | none => .incomplete
  | some 0 => .illegal 1
  | some size =>
    match designation? d (bytes.take size) with
    | none => .illegal size
    | some (mark, isDouble, place) =>
      if mark == 0x42 && !isDouble then .read [] size (s.call place .ascii)
      else
        match d.sets.lookup (mark, isDouble) with
        | some set => .read [] size (s.call place set)
        | none => .illegal size

def shiftStep (greekChar? : Nat → Option Char) (d : Designations) : Step Shift := fun s a rest =>
  let n := a.toNat
  let plain (s : Shift) : Reading Shift := .read [Char.ofNat n] 1 s
  if s.inEscape then plain { s with inEscape := !endsEscape n }
  else if n == 0x1b then
    match rest with
    | [] => .incomplete
    | b :: tail =>
      if [0x24, 0x26, 0x28, 0x29, 0x2e].contains b.toNat then escapeStep d s a rest
      else if d.thirdSet && b.toNat == 0x4e then
        match tail with
        | [] => .incomplete
        | c :: _ =>
          match thirdChar? greekChar? s.third c.toNat with
          | some ch => .read [ch] 3 s
          | none => .illegal 3
      else plain { s with inEscape := true }
  else if d.shifts && n == 0x0f then .read [] 1 { s with isShifted := false }
  else if d.shifts && n == 0x0e then .read [] 1 { s with isShifted := true }
  else if n == 0x0a then plain { s with isShifted := false }
  else if n < 0x20 then plain s
  else if n ≥ 0x80 then .illegal 1
  else
    let set := if s.isShifted then s.second else s.first
    if set.width > rest.length + 1 then .incomplete
    else
      match set.chars? n ((rest.head?.map UInt8.toNat).getD 0) with
      | some cs => .read cs set.width s
      | none => .illegal set.width

namespace Designations

/-- The sets of the Japanese encodings. -/
def japaneseSets : List ((Nat × Bool) × Charset) :=
  [((0x42, true), .jis), ((0x40, true), .jis), ((0x4a, false), .roman)]

def further : (Nat × Bool) × Charset := ((0x44, true), .jisFurther)

def japanese : Designations := ⟨japaneseSets, false, false, true⟩

def japanese1 : Designations := ⟨further :: japaneseSets, false, false, true⟩

def japanese2 : Designations :=
  ⟨further :: ((0x43, true), .korean) :: ((0x41, true), .chinese) :: ((0x41, false), .latin) ::
    ((0x46, false), .greek) :: japaneseSets, false, true, true⟩

/-- The sets of an edition of the larger set, by the last byte of its escape. -/
def japanesePlanes (edition : JisEdition) (mark : Nat) : Designations :=
  ⟨[((0x42, true), .jis), ((mark, true), .jisPlane edition), ((0x50, true), .jisSecondPlane)], false,
    false, true⟩

def japanese3 : Designations := japanesePlanes .first 0x4f

def japanese2004 : Designations := japanesePlanes .second 0x51

def japaneseExtended : Designations :=
  ⟨further :: ((0x49, false), .narrow) :: japaneseSets, false, false, true⟩

def korean : Designations := ⟨[((0x43, true), .korean)], true, false, false⟩

end Designations

end Workflow.Text
