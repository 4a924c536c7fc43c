import GnuplotScript.Text.Inspect

/-!
# UTF-8

Octets are read one at a time. The first octet of a character settles how many follow it and
which values the second may take; all later ones are continuation octets. The reader stops at
the first octet that rules the text out, and reports the octets of the character begun there.
A text is written unless it holds halves of surrogate pairs, of which the first are reported.

## Main definitions

* `Utf8.Failure` — what rules a string of octets out, and where
* `Utf8.decode` — the text of a string of octets
* `Utf8.encode` — the octets of a text, whatever it holds
* `Utf8.Unencodable` — what rules a text out, and where
* `Utf8.encodeStrict` — the octets of a text that has an encoding
-/

namespace GnuplotScript.Text.Utf8

/-- Why octets are not the encoding of a text. -/
inductive Cause where
  | startByte
  | continuationByte
  | endOfData
  deriving DecidableEq, Repr

/-- The octets of a character begun but not ended: the first of them, its position, and how
many there are before the fault. -/
structure Failure where
  cause : Cause
  first : UInt8
  position : Nat
  count : Nat
  deriving DecidableEq, Repr

/-- What the cause is called in messages. -/
def Cause.message : Cause → String
  | .startByte => "invalid start byte"
  | .continuationByte => "invalid continuation byte"
  | .endOfData => "unexpected end of data"

/-- One octet is named with its value, several by their positions. -/
def Failure.message (failure : Failure) : String :=
  let place :=
    if failure.count = 1 then
      "byte 0x" ++ String.ofList (hexPadded 2 failure.first.toNat) ++ " in position "
        ++ toString failure.position
    else
      "bytes in position " ++ toString failure.position ++ "-"
        ++ toString (failure.position + failure.count - 1)
  "'utf-8' codec can't decode " ++ place ++ ": " ++ failure.cause.message

/-- A character of which some octets are still to come: those read, the bits they carry, and
the bounds of the next one. -/
structure Pending where
  first : UInt8
  position : Nat
  seen : Nat
  owed : Nat
  bits : Nat
  low : Nat
  high : Nat

/-- The character that a first octet begins; one owed octet at least. The bounds of the
second octet exclude overlong forms, surrogates and values past the last code point. -/
def begin? (position : Nat) (octet : UInt8) : Option Pending :=
  let b := octet.toNat
  let start (owed bits low high : Nat) : Option Pending :=
    some ⟨octet, position, 1, owed, bits, low, high⟩
  -- Continuation octets, and the starts of overlong forms.
  if b < 0xc2 then none
  else if b < 0xe0 then start 1 (b - 0xc0) 0x80 0xbf
  else if b = 0xe0 then start 2 0 0xa0 0xbf
  else if b = 0xed then start 2 0xd 0x80 0x9f
  else if b < 0xf0 then start 2 (b - 0xe0) 0x80 0xbf
  else if b = 0xf0 then start 3 0 0x90 0xbf
  else if b < 0xf4 then start 3 (b - 0xf0) 0x80 0xbf
  else if b = 0xf4 then start 3 4 0x80 0x8f
  else none

/-- The character after one more octet. -/
def Pending.push (pending : Pending) (octet : UInt8) : Pending :=
  { pending with
    seen := pending.seen + 1
    owed := pending.owed - 1
    bits := pending.bits * 64 + (octet.toNat - 0x80)
    low := 0x80
    high := 0xbf }

/-- The failure of a character that does not go on as it must. -/
def Pending.fail (pending : Pending) (cause : Cause) : Failure :=
  ⟨cause, pending.first, pending.position, pending.seen⟩

/-- The characters of the octets from a position on, after a character begun before it. -/
def decodeFrom (pending : Option Pending) (position : Nat) :
    List UInt8 → Except Failure (List Char)
  | [] =>
    match pending with
    | none => .ok []
    | some begun => .error (begun.fail .endOfData)
  | octet :: rest =>
    match pending with
    | none =>
      if octet.toNat < 0x80 then
        (decodeFrom none (position + 1) rest).map (Char.ofNat octet.toNat :: ·)
      else
        match begin? position octet with
        | some begun => decodeFrom (some begun) (position + 1) rest
        | none => .error ⟨.startByte, octet, position, 1⟩
    | some begun =>
      if begun.low ≤ octet.toNat ∧ octet.toNat ≤ begun.high then
        let longer := begun.push octet
        -- The bounds of the octets have kept the bits within the code points.
        if longer.owed = 0 then
          (decodeFrom none (position + 1) rest).map (Char.ofNat longer.bits :: ·)
        else decodeFrom (some longer) (position + 1) rest
      else .error (begun.fail .continuationByte)

/-- The text of a string of octets. -/
def decode (octets : List UInt8) : Except Failure (List Char) :=
  decodeFrom none 0 octets

/-- The octets of a text, in which all characters stand for themselves. -/
def encode (s : String) : List UInt8 :=
  s.toUTF8.toList

/-- Why a text has no encoding: halves of pairs in a row, given by the first of them, its position
and their number. -/
structure Unencodable where
  half : Nat
  position : Nat
  count : Nat
  deriving DecidableEq, Repr

/-- One half is named with its code, several by their positions. -/
def Unencodable.message (failure : Unencodable) : String :=
  let place :=
    if failure.count = 1 then
      "character '" ++ String.ofList (escapeCode failure.half) ++ "' in position "
        ++ toString failure.position
    else
      "characters in position " ++ toString failure.position ++ "-"
        ++ toString (failure.position + failure.count - 1)
  "'utf-8' codec can't encode " ++ place ++ ": surrogates not allowed"

section Halves

variable [Halves]

/-- The first halves of pairs in characters that begin at a position. -/
def firstHalves (position : Nat) : List Char → Option Unencodable
  | [] => none
  | c :: rest =>
    match half? c with
    | none => firstHalves (position + 1) rest
    | some half => some ⟨half, position, 1 + (rest.takeWhile fun c => (half? c).isSome).length⟩

/-- What rules a text out, if anything does. -/
def unencodable? (s : String) : Option Unencodable :=
  firstHalves 0 s.toList

/-- The octets of a text that has an encoding. -/
def encodeStrict (s : String) : Except Unencodable (List UInt8) :=
  match unencodable? s with
  | some failure => .error failure
  | none => .ok (encode s)

end Halves

end GnuplotScript.Text.Utf8
