/-!
# UTF-8

`decode` reads bytes as text and stops at the first byte that no text has there, with its place and
the reason. `decodeLossy` puts U+FFFD in the place of each such run of bytes and goes on.
-/

namespace StableLocator
namespace Text

inductive Utf8Fault
  | invalidStart
  | invalidContinuation
  | unexpectedEnd
  deriving DecidableEq, Repr

/-- The bytes from `start`, as many as listed, are not text. -/
structure Utf8Error where
  start : Nat
  bytes : List UInt8
  fault : Utf8Fault
  deriving DecidableEq, Repr

/-- What a first byte announces: its bits of the code point, how many bytes follow, and between
which bounds the first of them lies. -/
structure Utf8Lead where
  bits : Nat
  tails : Nat
  low : Nat
  high : Nat
  deriving DecidableEq, Repr

/-- The announcement of a first byte; none where no character begins with it. -/
def Utf8Lead.ofByte? (b : Nat) : Option Utf8Lead :=
  if b < 0x80 then some ⟨b, 0, 0x80, 0xBF⟩
  else if b < 0xC2 then none
  else if b < 0xE0 then some ⟨b - 0xC0, 1, 0x80, 0xBF⟩
  else if b = 0xE0 then some ⟨0, 2, 0xA0, 0xBF⟩
  else if b = 0xED then some ⟨0xD, 2, 0x80, 0x9F⟩
  else if b < 0xF0 then some ⟨b - 0xE0, 2, 0x80, 0xBF⟩
  else if b = 0xF0 then some ⟨0, 3, 0x90, 0xBF⟩
  else if b < 0xF4 then some ⟨b - 0xF0, 3, 0x80, 0xBF⟩
  else if b = 0xF4 then some ⟨4, 3, 0x80, 0x8F⟩
  else none

/-- A character with the number of bytes after its first one, or a fault with the number of bytes
after the first one that belong to it. -/
def readTails :
    (tails low high point taken : Nat) → List UInt8 → Except (Utf8Fault × Nat) (Char × Nat)
  | 0, _, _, point, taken, _ => .ok (Char.ofNat point, taken)
  | _ + 1, _, _, _, taken, [] => .error (.unexpectedEnd, taken)
  | tails + 1, low, high, point, taken, b :: rest =>
    if low ≤ b.toNat ∧ b.toNat ≤ high then
      readTails tails 0x80 0xBF (point * 64 + (b.toNat - 0x80)) (taken + 1) rest
    else .error (.invalidContinuation, taken)

/-- The character at the start of the bytes, as `readTails` gives it. -/
def readChar (b : UInt8) (rest : List UInt8) : Except (Utf8Fault × Nat) (Char × Nat) :=
  match Utf8Lead.ofByte? b.toNat with
  | none => .error (.invalidStart, 0)
  | some lead => readTails lead.tails lead.low lead.high lead.bits 0 rest

/-- The text from the given position on, or the first fault. -/
def decodeFrom (position : Nat) : List UInt8 → Except Utf8Error (List Char)
  | [] => .ok []
  | b :: rest =>
    match readChar b rest with
    | .ok (c, taken) => (decodeFrom (position + 1 + taken) (rest.drop taken)).map (c :: ·)
    | .error (fault, taken) => .error ⟨position, b :: rest.take taken, fault⟩
  termination_by bytes => bytes.length
  decreasing_by simp only [List.length_drop, List.length_cons]; omega

def decode (bytes : List UInt8) : Except Utf8Error String :=
  (decodeFrom 0 bytes).map String.ofList

def decodeLossyChars : List UInt8 → List Char
  | [] => []
  | b :: rest =>
    match readChar b rest with
    | .ok (c, taken) => c :: decodeLossyChars (rest.drop taken)
    | .error (_, taken) => Char.ofNat 0xFFFD :: decodeLossyChars (rest.drop taken)
  termination_by bytes => bytes.length
  decreasing_by all_goals simp only [List.length_drop, List.length_cons]; omega

/-- Bytes read as text with U+FFFD for what is none. -/
def decodeLossy (bytes : List UInt8) : String := String.ofList (decodeLossyChars bytes)

def encode (s : String) : List UInt8 := s.toUTF8.toList

def unifyLineEnds : List Char → List Char
  | [] => []
  | '\r' :: '\n' :: rest => '\n' :: unifyLineEnds rest
  | '\r' :: rest => '\n' :: unifyLineEnds rest
  | c :: rest => c :: unifyLineEnds rest

def Utf8Fault.message : Utf8Fault → String
  | .invalidStart => "invalid start byte"
  | .invalidContinuation => "invalid continuation byte"
  | .unexpectedEnd => "unexpected end of data"

def byteHex (b : UInt8) : String :=
  String.ofList (Nat.toDigits 16 (b.toNat / 16) ++ Nat.toDigits 16 (b.toNat % 16))

/-- A decoding error in words: one byte is shown, of several only the positions. -/
def Utf8Error.message (e : Utf8Error) : String :=
  match e.bytes with
  | [b] =>
    s!"'utf-8' codec can't decode byte 0x{byteHex b} in position {e.start}: {e.fault.message}"
  | bytes =>
    let last := e.start + bytes.length - 1
    s!"'utf-8' codec can't decode bytes in position {e.start}-{last}: {e.fault.message}"

end Text
end StableLocator
