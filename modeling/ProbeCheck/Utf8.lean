import ProbeCheck.Text.Quoted
import ProbeCheck.Numeral

namespace ProbeCheck

abbrev Bytes := List UInt8

namespace Utf8

def encode (text : Text) : Bytes := text.flatMap String.utf8EncodeChar

inductive Defect
  | startByte
  | continuation
  | endOfData
deriving DecidableEq, Repr

inductive Piece
  | scalar (c : Char)
  | malformed (bytes : Bytes) (defect : Defect)
deriving DecidableEq

-- A sequence that has begun: its bytes, their payload, how many bytes are still to come, and
-- the range in which the next one has to lie. Only the second byte has a range of its own; it keeps
-- out overlong forms, surrogates and numbers past U+10FFFF.
structure Begun where
  bytes : Bytes
  payload : Nat
  missing : Nat
  low : UInt8
  high : UInt8

def start (byte : UInt8) : Option Piece × Option Begun :=
  if byte < 0x80 then (some (.scalar (Char.ofNat byte.toNat)), none)
  else if byte < 0xC2 then (some (.malformed [byte] .startByte), none)
  else if byte < 0xE0 then (none, some ⟨[byte], byte.toNat % 0x20, 1, 0x80, 0xBF⟩)
  else if byte < 0xF0 then
    (none, some ⟨[byte], byte.toNat % 0x10, 2, if byte = 0xE0 then 0xA0 else 0x80,
      if byte = 0xED then 0x9F else 0xBF⟩)
  else if byte < 0xF5 then
    (none, some ⟨[byte], byte.toNat % 0x08, 3, if byte = 0xF0 then 0x90 else 0x80,
      if byte = 0xF4 then 0x8F else 0xBF⟩)
  else (some (.malformed [byte] .startByte), none)

structure Scan where
  pieces : List Piece
  begun : Option Begun

-- A byte outside the awaited range ends the begun sequence, which is then the longest piece
-- that could have been completed, and is looked at again as the start of a character.
def Scan.step (scan : Scan) (byte : UInt8) : Scan :=
  match scan.begun with
  | none =>
    let (piece, begun) := start byte
    ⟨piece.toList ++ scan.pieces, begun⟩
  | some pending =>
    if pending.low ≤ byte ∧ byte ≤ pending.high then
      let payload := pending.payload * 0x40 + byte.toNat % 0x40
      if pending.missing ≤ 1 then ⟨.scalar (Char.ofNat payload) :: scan.pieces, none⟩
      else ⟨scan.pieces, some ⟨pending.bytes ++ [byte], payload, pending.missing - 1, 0x80, 0xBF⟩⟩
    else
      let (piece, begun) := start byte
      ⟨piece.toList ++ .malformed pending.bytes .continuation :: scan.pieces, begun⟩

def Scan.finish (scan : Scan) : List Piece :=
  match scan.begun with
  | none => scan.pieces.reverse
  | some pending => (.malformed pending.bytes .endOfData :: scan.pieces).reverse

def pieces (bytes : Bytes) : List Piece := (bytes.foldl Scan.step ⟨[], none⟩).finish

def Piece.isScalar : Piece → Bool
  | .scalar _ => true
  | .malformed .. => false

def Piece.width : Piece → Nat
  | .scalar c => c.utf8Size
  | .malformed bytes _ => bytes.length

def Piece.shown : Piece → Char
  | .scalar c => c
  | .malformed .. => '\ufffd'

def decodeLossy (bytes : Bytes) : Text := (pieces bytes).map Piece.shown

structure Malformed where
  bytes : Bytes
  position : Nat
  defect : Defect
deriving DecidableEq

def width (pieces : List Piece) : Nat := pieces.foldl (fun total piece => total + piece.width) 0

def decode? (bytes : Bytes) : Except Malformed Text :=
  match (pieces bytes).span Piece.isScalar with
  | (before, .malformed bad defect :: _) => .error ⟨bad, width before, defect⟩
  | (all, _) => .ok (all.map Piece.shown)

def Defect.reason : Defect → Text
  | .startByte => "invalid start byte"
  | .continuation => "invalid continuation byte"
  | .endOfData => "unexpected end of data"

def Malformed.message (fault : Malformed) : Text :=
  let place : Text :=
    match fault.bytes with
    | [byte] =>
      "byte 0x" ++ Text.hex 2 byte.toNat ++ " in position " ++ Numeral.digits fault.position
    | several =>
      "bytes in position " ++ Numeral.digits fault.position ++ "-" ++
        Numeral.digits (fault.position + several.length - 1)
  "'utf-8' codec can't decode " ++ place ++ ": " ++ fault.defect.reason

example : decodeLossy [0xF0, 0x9F, 0x98, 0x2E] = ['\ufffd', '.'] := by decide +kernel
example : decodeLossy [0xED, 0xA0, 0x80] = ['\ufffd', '\ufffd', '\ufffd'] := by decide +kernel
example : decodeLossy [0xE2, 0x82, 0xAC] = ['€'] := by decide +kernel

end Utf8
end ProbeCheck
