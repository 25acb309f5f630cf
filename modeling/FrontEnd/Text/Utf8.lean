import FrontEnd.Text.Quoted

/-!
# UTF-8

Text as bytes and back. The decoder reads byte by byte and keeps what it owes to the sequence it
is in: how many continuation bytes are to come, and the least and the greatest the next one may
be. It refuses the first byte that cannot stand where it stands, so overlong forms, surrogates
and code points above U+10FFFF are refused at their second byte.
-/

namespace FrontEnd.Text.Utf8

/-- The UTF-8 bytes of a text. -/
def encode (s : String) : List UInt8 := s.toList.flatMap String.utf8EncodeChar

/-- What is wrong with a sequence of bytes. -/
inductive Cause where
  /-- The byte begins no sequence. -/
  | invalidStart
  /-- A byte that does not continue the sequence follows. -/
  | invalidContinuation
  /-- The text ends inside the sequence. -/
  | unexpectedEnd
  deriving DecidableEq, Repr

/-- The wording of a cause. -/
def Cause.reason : Cause → String
  | .invalidStart => "invalid start byte"
  | .invalidContinuation => "invalid continuation byte"
  | .unexpectedEnd => "unexpected end of data"

/-- A refusal: the cause, the offset of the sequence, and the bytes of it that were read. -/
structure Fault where
  /-- Why the bytes are refused. -/
  cause : Cause
  /-- The offset of the first refused byte. -/
  offset : Nat
  /-- The refused bytes, of which there is at least one. -/
  bytes : List UInt8
  deriving DecidableEq, Repr

/-- The message for a refusal: one byte is shown, of several the offsets are. -/
def Fault.message (f : Fault) : String :=
  let subject := match f.bytes with
    | [b] => s!"byte 0x" ++ String.ofList (hexDigits 2 b.toNat) ++ s!" in position {f.offset}"
    | bs => s!"bytes in position {f.offset}-{f.offset + bs.length - 1}"
  "'utf-8' codec can't decode " ++ subject ++ ": " ++ f.cause.reason

/-- A sequence that has begun and is not complete. -/
structure Pending where
  /-- The bytes read, the last one first. -/
  taken : List UInt8
  /-- The number of bytes to come after the next one. -/
  owed : Nat
  /-- The least byte that may come next. -/
  low : Nat
  /-- The greatest byte that may come next. -/
  high : Nat
  /-- The number that the bytes read contribute. -/
  code : Nat

/-- What a lead byte of several announces. -/
def Pending.ofLead (b : UInt8) : Option Pending :=
  let n := b.toNat
  if n < 0xC2 then none
  else if n < 0xE0 then some ⟨[b], 0, 0x80, 0xBF, n - 0xC0⟩
  else if n < 0xF0 then
    some ⟨[b], 1, if n = 0xE0 then 0xA0 else 0x80, if n = 0xED then 0x9F else 0xBF, n - 0xE0⟩
  else if n < 0xF5 then
    some ⟨[b], 2, if n = 0xF0 then 0x90 else 0x80, if n = 0xF4 then 0x8F else 0xBF, n - 0xF0⟩
  else none

/-- The state of the decoder between two bytes. -/
structure Decoder where
  /-- The characters decoded, the last one first. -/
  done : List Char
  /-- The number of bytes read. -/
  offset : Nat
  /-- The sequence the decoder is in, if any. -/
  pending : Option Pending

/-- The decoder before the first byte. -/
def Decoder.start : Decoder := ⟨[], 0, none⟩

/-- Refuse the sequence that is pending. -/
def Decoder.refuse (d : Decoder) (p : Pending) (cause : Cause) : Fault :=
  ⟨cause, d.offset - p.taken.length, p.taken.reverse⟩

/-- Read one byte. -/
def Decoder.step (d : Decoder) (b : UInt8) : Except Fault Decoder :=
  match d.pending with
  | none =>
    if b.toNat < 0x80 then .ok ⟨Char.ofNat b.toNat :: d.done, d.offset + 1, none⟩
    else match Pending.ofLead b with
      | none => .error ⟨.invalidStart, d.offset, [b]⟩
      | some p => .ok { d with offset := d.offset + 1, pending := some p }
  | some p =>
    if b.toNat < p.low ∨ p.high < b.toNat then .error (d.refuse p .invalidContinuation)
    else
      let code := p.code * 64 + (b.toNat - 0x80)
      match p.owed with
      | 0 => .ok ⟨Char.ofNat code :: d.done, d.offset + 1, none⟩
      | owed + 1 =>
        .ok { d with offset := d.offset + 1, pending := some ⟨b :: p.taken, owed, 0x80, 0xBF, code⟩ }

/-- The text decoded, or a refusal if a sequence is not complete. -/
def Decoder.finish (d : Decoder) : Except Fault (List Char) :=
  match d.pending with
  | none => .ok d.done.reverse
  | some p => .error (d.refuse p .unexpectedEnd)

/-- The text that the bytes encode, or the first refusal. -/
def decode (bytes : List UInt8) : Except Fault String := do
  let d ← bytes.foldlM Decoder.step Decoder.start
  return String.ofList (← d.finish)

end FrontEnd.Text.Utf8
