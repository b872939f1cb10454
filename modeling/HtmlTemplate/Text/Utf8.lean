import HtmlTemplate.Decimal.Written
import HtmlTemplate.Text.Quoted

/-!
Reading UTF-8. A character takes one to four bytes; the first tells how many follow and between
which bounds the second lies, so that no character has two forms and none is a surrogate. Bytes that
are no UTF-8 are reported from the start of the broken character: the bytes of it that are right so
far, or the one byte that starts none.
-/

namespace HtmlTemplate.Text.Utf8

inductive Flaw where
  | start
  | continuation
  | unexpectedEnd
  deriving DecidableEq, Repr

/-- A broken character: where it starts, its bytes, and what is wrong with it. -/
structure Fault where
  offset : Nat
  bytes : List UInt8
  flaw : Flaw
  deriving DecidableEq, Repr

def Flaw.message : Flaw → String
  | .start => "invalid start byte"
  | .continuation => "invalid continuation byte"
  | .unexpectedEnd => "unexpected end of data"

def Fault.message (fault : Fault) : String :=
  let place :=
    match fault.bytes with
    | [b] =>
      "byte 0x" ++ String.ofList (Quoted.hex 2 b.toNat) ++ " in position "
        ++ Decimal.writeInt fault.offset
    | bytes =>
      "bytes in position " ++ Decimal.writeInt fault.offset ++ "-"
        ++ Decimal.writeInt (fault.offset + bytes.length - 1)
  "'utf-8' codec can't decode " ++ place ++ ": " ++ fault.flaw.message

/-- A character that is not read to its end. -/
structure Partial where
  /-- The bits so far. -/
  value : Nat
  /-- How many bytes follow. -/
  owed : Nat
  /-- The bounds of the next byte. -/
  low : Nat := 0x80
  high : Nat := 0xBF
  /-- The bytes so far, the last one first. -/
  bytes : List UInt8
  deriving DecidableEq, Repr

/-- What a first byte starts: a character of its own, or a longer one. -/
inductive Start where
  | whole (n : Nat)
  | longer (p : Partial)
  | invalid

def start (b : UInt8) : Start :=
  let n := b.toNat
  if n ≤ 0x7F then .whole n
  else if n < 0xC2 then .invalid
  else if n ≤ 0xDF then .longer { value := n - 0xC0, owed := 1, bytes := [b] }
  else if n ≤ 0xEF then
    .longer
      { value := n - 0xE0
        owed := 2
        low := if n = 0xE0 then 0xA0 else 0x80
        high := if n = 0xED then 0x9F else 0xBF
        bytes := [b] }
  else if n ≤ 0xF4 then
    .longer
      { value := n - 0xF0
        owed := 3
        low := if n = 0xF0 then 0x90 else 0x80
        high := if n = 0xF4 then 0x8F else 0xBF
        bytes := [b] }
  else .invalid

/-- Reads bytes from an offset on, in the middle of a character if `p` is one. -/
def decodeFrom : (offset : Nat) → Option Partial → List UInt8 → Except Fault (List Char)
  | _, none, [] => .ok []
  | offset, some p, [] =>
    .error
      { offset := offset - p.bytes.length, bytes := p.bytes.reverse, flaw := .unexpectedEnd }
  | offset, none, b :: rest =>
    match start b with
    | .whole n => (decodeFrom (offset + 1) none rest).map (Char.ofNat n :: ·)
    | .longer p => decodeFrom (offset + 1) (some p) rest
    | .invalid => .error { offset, bytes := [b], flaw := .start }
  | offset, some p, b :: rest =>
    if p.low ≤ b.toNat ∧ b.toNat ≤ p.high then
      let value := p.value * 64 + (b.toNat - 0x80)
      match p.owed with
      | owed + 2 =>
        decodeFrom (offset + 1) (some { value, owed := owed + 1, bytes := b :: p.bytes }) rest
      | _ => (decodeFrom (offset + 1) none rest).map (Char.ofNat value :: ·)
    else
      .error { offset := offset - p.bytes.length, bytes := p.bytes.reverse, flaw := .continuation }

def decode (bytes : List UInt8) : Except Fault (List Char) := decodeFrom 0 none bytes

/-- The bytes of a character. -/
def encodeChar (c : Char) : List UInt8 :=
  let n := c.toNat
  let tail := fun (shift : Nat) => UInt8.ofNat (0x80 + n / Nat.pow 2 shift % 64)
  if n ≤ 0x7F then [UInt8.ofNat n]
  else if n ≤ 0x7FF then [UInt8.ofNat (0xC0 + n / 64), tail 0]
  else if n ≤ 0xFFFF then [UInt8.ofNat (0xE0 + n / 4096), tail 6, tail 0]
  else [UInt8.ofNat (0xF0 + n / 262144), tail 12, tail 6, tail 0]

def encode (s : List Char) : List UInt8 := s.flatMap encodeChar

end HtmlTemplate.Text.Utf8

namespace HtmlTemplate.Text

/-- Turns a carriage return, alone or before a line feed, into a line feed. -/
def joinLineEnds : List Char → List Char
  | [] => []
  | '\r' :: '\n' :: rest => '\n' :: joinLineEnds rest
  | '\r' :: rest => '\n' :: joinLineEnds rest
  | c :: rest => c :: joinLineEnds rest

end HtmlTemplate.Text
