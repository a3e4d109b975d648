import Workflow.Text.Surrogate

/-!
# UTF-8

`encodeUtf8` writes characters as bytes; `utf8Step` reads one character or says what is wrong with
the bytes at the front: how many of them form the longest start of a character that goes no further.
-/
namespace Workflow.Text

/-- What is wrong with bytes that are not UTF-8. -/
inductive Utf8Fault where
  | invalidStart
  | invalidContinuation
  | unexpectedEnd
deriving DecidableEq

/-- The bytes of a character. -/
def encodeChar (c : Char) : List UInt8 := (String.ofList [c]).toUTF8.toList

/-- The bytes of a text. -/
def encodeUtf8 (cs : List Char) : List UInt8 := (withoutMarks cs).flatMap encodeChar

/-- The lowest six bits of a byte. -/
def lowBits (b : UInt8) : Nat := b.toNat % 64

/-- Whether a byte may stand second behind a first byte. -/
def mayFollow (first second : UInt8) : Bool :=
  let a := first.toNat
  let b := second.toNat
  if a == 0xe0 then 0xa0 ≤ b && b ≤ 0xbf
  else if a == 0xed then 0x80 ≤ b && b ≤ 0x9f
  else if a == 0xf0 then 0x90 ≤ b && b ≤ 0xbf
  else if a == 0xf4 then 0x80 ≤ b && b ≤ 0x8f
  else 0x80 ≤ b && b ≤ 0xbf

def isContinuation (b : UInt8) : Bool := 0x80 ≤ b.toNat && b.toNat ≤ 0xbf

/-- The count of bytes of the character that a byte begins. -/
def sizeOfStart (b : UInt8) : Nat :=
  let n := b.toNat
  if n < 0x80 then 1
  else if 0xc2 ≤ n && n ≤ 0xdf then 2
  else if 0xe0 ≤ n && n ≤ 0xef then 3
  else if 0xf0 ≤ n && n ≤ 0xf4 then 4
  else 0

/-- Reads the character at the front: the character with its count of bytes, or the fault with the
count of bytes that belong to it. -/
def utf8Step (first : UInt8) (rest : List UInt8) : Except (Utf8Fault × Nat) (Char × Nat) :=
  let size := sizeOfStart first
  if size == 1 then .ok (Char.ofNat first.toNat, 1)
  else if size == 0 then .error (.invalidStart, 1)
  else
    match rest with
    | [] => .error (.unexpectedEnd, 1)
    | second :: rest =>
      if !mayFollow first second then .error (.invalidContinuation, 1)
      else if size == 2 then
        .ok (Char.ofNat ((first.toNat - 0xc0) * 64 + lowBits second), 2)
      else
        match rest with
        | [] => .error (.unexpectedEnd, 2)
        | third :: rest =>
          if !isContinuation third then .error (.invalidContinuation, 2)
          else if size == 3 then
            .ok (Char.ofNat (((first.toNat - 0xe0) * 64 + lowBits second) * 64 + lowBits third), 3)
          else
            match rest with
            | [] => .error (.unexpectedEnd, 3)
            | fourth :: _ =>
              if !isContinuation fourth then .error (.invalidContinuation, 3)
              else
                .ok (Char.ofNat ((((first.toNat - 0xf0) * 64 + lowBits second) * 64 +
                  lowBits third) * 64 + lowBits fourth), 4)

/-- Reads bytes that are all valid. -/
def decodeWithin : Nat → List UInt8 → Option (List Char)
  | 0, _ => some []
  | _, [] => some []
  | fuel + 1, first :: rest =>
    match utf8Step first rest with
    | .error _ => none
    | .ok (c, size) => (decodeWithin fuel (rest.drop (size - 1))).map (c :: ·)

def decodeUtf8? (bytes : List UInt8) : Option (List Char) :=
  (decodeWithin bytes.length bytes).map withMarks

/-- Reads bytes with the replacement character in the place of what is not valid. -/
def replaceWithin : Nat → List UInt8 → List Char
  | 0, _ => []
  | _, [] => []
  | fuel + 1, first :: rest =>
    match utf8Step first rest with
    | .error (_, size) => '\ufffd' :: replaceWithin fuel (rest.drop (size - 1))
    | .ok (c, size) => c :: replaceWithin fuel (rest.drop (size - 1))

def decodeReplacing (bytes : List UInt8) : List Char := withMarks (replaceWithin bytes.length bytes)

end Workflow.Text
