import Stepflow.Text.Surrogate

/-!
# The encoding of a JSON payload

A payload of bytes is UTF-8, UTF-16 or UTF-32. A byte order mark decides if there is one;
otherwise the zero bytes among the first four do, since a JSON text starts with ASCII.
Code points of the surrogate range are let through by every decoder.
Bytes that are in no way part of a character stop the decoding with a `DecodeError`.
-/

namespace Stepflow.Json

inductive Encoding where
  | utf8
  | utf16 (bigEndian : Bool)
  | utf32 (bigEndian : Bool)
deriving DecidableEq, Repr

def Encoding.name : Encoding → String
  | .utf8 => "utf-8"
  | .utf16 bigEndian => if bigEndian then "utf-16-be" else "utf-16-le"
  | .utf32 bigEndian => if bigEndian then "utf-32-be" else "utf-32-le"

inductive DecodeCause where
  | invalidStart
  | invalidContinuation
  | unexpectedEnd
  | truncated
  | outOfRange
deriving DecidableEq, Repr

def DecodeCause.message : DecodeCause → String
  | .invalidStart => "invalid start byte"
  | .invalidContinuation => "invalid continuation byte"
  | .unexpectedEnd => "unexpected end of data"
  | .truncated => "truncated data"
  | .outOfRange => "code point not in range(0x110000)"

/-- The bytes that stopped the decoding: `first` is the earliest, `count` how many. -/
structure DecodeError where
  encoding : Encoding
  cause : DecodeCause
  position : Nat
  count : Nat
  first : UInt8
deriving DecidableEq, Repr

def DecodeError.message (e : DecodeError) : String :=
  let digits := Nat.toDigits 16 e.first.toNat
  let byte := String.ofList (if digits.length < 2 then '0' :: digits else digits)
  let place :=
    if e.count == 1 then s!"byte 0x{byte} in position {e.position}"
    else s!"bytes in position {e.position}-{e.position + e.count - 1}"
  s!"'{e.encoding.name}' codec can't decode {place}: {e.cause.message}"

/-- The encoding of a payload and the number of bytes of its byte order mark. A 32-bit
mark is looked for first, since the little-endian 16-bit mark starts it. -/
def Encoding.detect (bytes : List UInt8) : Encoding × Nat :=
  match bytes with
  | 0x00 :: 0x00 :: 0xFE :: 0xFF :: _ => (.utf32 true, 4)
  | 0xFF :: 0xFE :: 0x00 :: 0x00 :: _ => (.utf32 false, 4)
  | 0xFE :: 0xFF :: _ => (.utf16 true, 2)
  | 0xFF :: 0xFE :: _ => (.utf16 false, 2)
  | 0xEF :: 0xBB :: 0xBF :: _ => (.utf8, 3)
  | b0 :: b1 :: b2 :: b3 :: _ =>
    if b0 == 0 then (if b1 == 0 then .utf32 true else .utf16 true, 0)
    else if b1 == 0 then (if b2 == 0 && b3 == 0 then .utf32 false else .utf16 false, 0)
    else (.utf8, 0)
  | [b0, b1] =>
    if b0 == 0 then (.utf16 true, 0)
    else if b1 == 0 then (.utf16 false, 0)
    else (.utf8, 0)
  | _ => (.utf8, 0)

/-- Why decoding stopped, and how many bytes are part of it. -/
abbrev Refusal := DecodeCause × Nat

/-- A byte that may follow the lead byte of a UTF-8 sequence. -/
def isContinuation (b : UInt8) : Bool :=
  0x80 ≤ b && b ≤ 0xBF

/-- Appends the six payload bits of a continuation byte. -/
def push (n : Nat) (b : UInt8) : Nat :=
  n * 64 + b.toNat % 64

/-- The least and the greatest second byte after a lead byte of three or four bytes:
narrower than a continuation byte where overlong forms or values above U+10FFFF start. -/
def secondRange (lead : UInt8) : UInt8 × UInt8 :=
  if lead == 0xE0 then (0xA0, 0xBF)
  else if lead == 0xF0 then (0x90, 0xBF)
  else if lead == 0xF4 then (0x80, 0x8F)
  else (0x80, 0xBF)

/-- A second byte that the lead byte admits. -/
def isSecond (lead b : UInt8) : Bool :=
  (secondRange lead).1 ≤ b && b ≤ (secondRange lead).2

/-- A surrogate's second byte; such a sequence counts only when it is complete. -/
def isSurrogateSecond (lead b : UInt8) : Bool :=
  lead == 0xED && 0xA0 ≤ b

/-- The character at the front of non-empty UTF-8 bytes, and the number of bytes it takes. -/
def utf8Char (lead : UInt8) (rest : List UInt8) : Except Refusal (Nat × Nat) :=
  if lead < 0x80 then .ok (lead.toNat, 1)
  else if lead < 0xC2 || 0xF4 < lead then .error (.invalidStart, 1)
  else if lead < 0xE0 then
    match rest with
    | [] => .error (.unexpectedEnd, 1)
    | b1 :: _ =>
      if isContinuation b1 then .ok (push (lead.toNat % 32) b1, 2)
      else .error (.invalidContinuation, 1)
  else if lead < 0xF0 then
    match rest with
    | [] => .error (.unexpectedEnd, 1)
    | [b1] =>
      if isSecond lead b1 && !isSurrogateSecond lead b1 then .error (.unexpectedEnd, 2)
      else .error (.invalidContinuation, 1)
    | b1 :: b2 :: _ =>
      if !isSecond lead b1 then .error (.invalidContinuation, 1)
      else if isContinuation b2 then .ok (push (push (lead.toNat % 16) b1) b2, 3)
      else .error (.invalidContinuation, if isSurrogateSecond lead b1 then 1 else 2)
  else
    match rest with
    | [] => .error (.unexpectedEnd, 1)
    | b1 :: rest =>
      if !isSecond lead b1 then .error (.invalidContinuation, 1)
      else match rest with
        | [] => .error (.unexpectedEnd, 2)
        | b2 :: rest =>
          if !isContinuation b2 then .error (.invalidContinuation, 2)
          else match rest with
            | [] => .error (.unexpectedEnd, 3)
            | b3 :: _ =>
              if isContinuation b3 then
                .ok (push (push (push (lead.toNat % 8) b1) b2) b3, 4)
              else .error (.invalidContinuation, 3)

def unit16 (bigEndian : Bool) (a b : UInt8) : Nat :=
  if bigEndian then a.toNat * 256 + b.toNat else b.toNat * 256 + a.toNat

def utf16Char (bigEndian : Bool) (lead : UInt8) (rest : List UInt8) :
    Except Refusal (Nat × Nat) :=
  match rest with
  | [] => .error (.truncated, 1)
  | a :: rest =>
    let high := unit16 bigEndian lead a
    match rest with
    | b :: c :: _ =>
      let low := unit16 bigEndian b c
      if 0xD800 ≤ high && high < 0xDC00 && 0xDC00 ≤ low && low < 0xE000 then
        .ok (0x10000 + (high - 0xD800) * 0x400 + (low - 0xDC00), 4)
      else .ok (high, 2)
    | _ => .ok (high, 2)

def utf32Char (bigEndian : Bool) (lead : UInt8) (rest : List UInt8) :
    Except Refusal (Nat × Nat) :=
  match rest with
  | a :: b :: c :: _ =>
    let n :=
      if bigEndian then ((lead.toNat * 256 + a.toNat) * 256 + b.toNat) * 256 + c.toNat
      else ((c.toNat * 256 + b.toNat) * 256 + a.toNat) * 256 + lead.toNat
    if n < 0x110000 then .ok (n, 4) else .error (.outOfRange, 4)
  | rest => .error (.truncated, rest.length + 1)

def Encoding.char (encoding : Encoding) (lead : UInt8) (rest : List UInt8) :
    Except Refusal (Nat × Nat) :=
  match encoding with
  | .utf8 => utf8Char lead rest
  | .utf16 bigEndian => utf16Char bigEndian lead rest
  | .utf32 bigEndian => utf32Char bigEndian lead rest

/-- Decodes the bytes that stand at `position`, passing over the `skip` bytes that belong
to the character before them. -/
def Encoding.decodeFrom (encoding : Encoding) (position skip : Nat) :
    List UInt8 → Except DecodeError (List Char)
  | [] => .ok []
  | lead :: rest =>
    match skip with
    | skip + 1 => encoding.decodeFrom (position + 1) skip rest
    | 0 =>
      match encoding.char lead rest with
      | .error (cause, count) => .error ⟨encoding, cause, position, count, lead⟩
      | .ok (n, size) => do
        let tail ← encoding.decodeFrom (position + 1) (size - 1) rest
        return Text.ofCodePoint n ++ tail

/-- The characters of a payload. Positions count from behind a UTF-8 mark, and from the
start of the payload otherwise. -/
def decode (bytes : List UInt8) : Except DecodeError (List Char) :=
  let (encoding, mark) := Encoding.detect bytes
  encoding.decodeFrom (if encoding = .utf8 then 0 else mark) 0 (bytes.drop mark)

end Stepflow.Json
