import LayerGraph.Text.CodePoints

/-! Texts as bytes: encoding, and decoding that says where and why bytes are no text.
-/

set_option autoImplicit false

namespace LayerGraph.Text

/-- Why bytes are refused. -/
inductive Utf8Reason where
  | start
  | continuation
  | ending
  deriving DecidableEq, Repr

/-- A refused stretch of bytes: its position, its bytes and the reason. -/
structure Utf8Defect where
  position : Nat
  bytes : List UInt8
  reason : Utf8Reason
  deriving DecidableEq, Repr

def Utf8Reason.text : Utf8Reason → String
  | .start => "invalid start byte"
  | .continuation => "invalid continuation byte"
  | .ending => "unexpected end of data"

def Utf8Defect.message (defect : Utf8Defect) : String :=
  match defect.bytes with
  | [byte] =>
    "'utf-8' codec can't decode byte 0x" ++ String.ofList (hex 2 byte.toNat) ++ " in position "
      ++ toString defect.position ++ ": " ++ defect.reason.text
  | bytes =>
    "'utf-8' codec can't decode bytes in position " ++ toString defect.position ++ "-"
      ++ toString (defect.position + bytes.length - 1) ++ ": " ++ defect.reason.text

def encodeChar (c : Char) : List UInt8 :=
  let n := c.toNat
  if n < 0x80 then [UInt8.ofNat n]
  else if n < 0x800 then [UInt8.ofNat (0xc0 + n / 64), UInt8.ofNat (0x80 + n % 64)]
  else if n < 0x10000 then
    [UInt8.ofNat (0xe0 + n / 4096), UInt8.ofNat (0x80 + n / 64 % 64), UInt8.ofNat (0x80 + n % 64)]
  else
    [UInt8.ofNat (0xf0 + n / 262144), UInt8.ofNat (0x80 + n / 4096 % 64),
      UInt8.ofNat (0x80 + n / 64 % 64), UInt8.ofNat (0x80 + n % 64)]

def encodeUtf8 (text : String) : List UInt8 := text.toList.flatMap encodeChar

/-- How a leading byte goes on: the count of further bytes and the bounds of the first of them. -/
def leadingByte? (n : Nat) : Option (Nat × Nat × Nat) :=
  if n < 0x80 then some (0, 0, 0)
  else if 0xc2 ≤ n ∧ n ≤ 0xdf then some (1, 0x80, 0xbf)
  else if n = 0xe0 then some (2, 0xa0, 0xbf)
  else if n = 0xed then some (2, 0x80, 0x9f)
  else if 0xe1 ≤ n ∧ n ≤ 0xef then some (2, 0x80, 0xbf)
  else if n = 0xf0 then some (3, 0x90, 0xbf)
  else if n = 0xf4 then some (3, 0x80, 0x8f)
  else if 0xf1 ≤ n ∧ n ≤ 0xf3 then some (3, 0x80, 0xbf)
  else none

/-- Read the bytes that continue a character; `taken` holds those read so far, the last one first. -/
def continueChar (position : Nat) (taken : List UInt8) (value : Nat) :
    Nat → Nat → Nat → List UInt8 → Except Utf8Defect (Nat × List UInt8)
  | 0, _, _, rest => .ok (value, rest)
  | _ + 1, _, _, [] => .error ⟨position, taken.reverse, .ending⟩
  | count + 1, low, high, byte :: rest =>
    if low ≤ byte.toNat ∧ byte.toNat ≤ high then
      continueChar position (byte :: taken) (value * 64 + (byte.toNat - 0x80)) count 0x80 0xbf rest
    else .error ⟨position, taken.reverse, .continuation⟩

/-- Decode the first character; the rest follows. -/
def decodeChar (position : Nat) (byte : UInt8) (rest : List UInt8) :
    Except Utf8Defect (Char × List UInt8) :=
  match leadingByte? byte.toNat with
  | none => .error ⟨position, [byte], .start⟩
  | some (0, _, _) => .ok (Char.ofNat byte.toNat, rest)
  | some (count, low, high) =>
    let lead := byte.toNat % Nat.pow 2 (6 - count)
    (continueChar position [byte] lead count low high rest).map fun (value, rest) =>
      (Char.ofNat value, rest)

/-- Decode with at most `fuel` characters to go. -/
def decodeFrom : Nat → Nat → List UInt8 → List Char → Except Utf8Defect (List Char)
  | _, _, [], read => .ok read.reverse
  | 0, _, _ :: _, read => .ok read.reverse
  | fuel + 1, position, byte :: rest, read =>
    match decodeChar position byte rest with
    | .error defect => .error defect
    | .ok (c, remaining) =>
      decodeFrom fuel (position + (encodeChar c).length) remaining (c :: read)

def decodeUtf8 (bytes : List UInt8) : Except Utf8Defect String :=
  (decodeFrom bytes.length 0 bytes []).map String.ofList

end LayerGraph.Text
