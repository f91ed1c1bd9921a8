/-!
# UTF-8

Encoding of characters, and decoding of arbitrary bytes into characters and the parts that are none:
a part that is no character is as long as a character could still have begun there, so the strict
reading (`decode?`) and the lossy one (`decodeLossy`) come from one decomposition (`pieces`).
-/

namespace ProjectContext.Utf8

def encodeChar (c : Char) : List UInt8 :=
  let n := c.toNat
  if n < 0x80 then [n.toUInt8]
  else if n < 0x800 then [(0xC0 + n / 64).toUInt8, (0x80 + n % 64).toUInt8]
  else if n < 0x10000 then
    [(0xE0 + n / 4096).toUInt8, (0x80 + n / 64 % 64).toUInt8, (0x80 + n % 64).toUInt8]
  else
    [(0xF0 + n / 262144).toUInt8, (0x80 + n / 4096 % 64).toUInt8, (0x80 + n / 64 % 64).toUInt8,
      (0x80 + n % 64).toUInt8]

def encode (text : String) : List UInt8 := text.toList.flatMap encodeChar

/-- A character of which the first bytes are known: the bits they carry, the number of bytes still
owed after the next one, and the bounds of the next one. -/
structure Pending where
  bits : Nat
  owed : Nat
  low : UInt8 := 0x80
  high : UInt8 := 0xBF
deriving DecidableEq, Repr

/-- What a byte means where a character may begin. -/
inductive Lead
  | complete (piece : Option Char)
  | opens (pending : Pending)
deriving DecidableEq, Repr

/-- The meaning of a first byte. The bounds of the second byte keep out overlong forms, surrogates
and code points above `10FFFF`. -/
def Lead.ofByte (b : UInt8) : Lead :=
  if b < 0x80 then .complete (some (Char.ofNat b.toNat))
  else if b < 0xC2 then .complete none
  else if b < 0xE0 then .opens { bits := b.toNat - 0xC0, owed := 0 }
  else if b = 0xE0 then .opens { bits := 0, owed := 1, low := 0xA0 }
  else if b = 0xED then .opens { bits := 0xD, owed := 1, high := 0x9F }
  else if b < 0xF0 then .opens { bits := b.toNat - 0xE0, owed := 1 }
  else if b = 0xF0 then .opens { bits := 0, owed := 2, low := 0x90 }
  else if b < 0xF4 then .opens { bits := b.toNat - 0xF0, owed := 2 }
  else if b = 0xF4 then .opens { bits := 4, owed := 2, high := 0x8F }
  else .complete none

/-- The characters of a byte string read after `pending`; each part that is no character is `none`.
-/
def piecesFrom : Option Pending → List UInt8 → List (Option Char)
  | none, [] => []
  | some _, [] => [none]
  | pending, b :: rest =>
    let fresh (_ : Unit) := match Lead.ofByte b with
      | .complete piece => piece :: piecesFrom none rest
      | .opens next => piecesFrom (some next) rest
    match pending with
    | none => fresh ()
    | some p =>
      if p.low ≤ b && b ≤ p.high then
        let bits := p.bits * 64 + (b.toNat - 0x80)
        match p.owed with
        | 0 => some (Char.ofNat bits) :: piecesFrom none rest
        | owed + 1 => piecesFrom (some { bits, owed }) rest
      else none :: fresh ()

/-- The characters of a byte string and, as `none`, its parts that are no character. -/
def pieces (bytes : List UInt8) : List (Option Char) := piecesFrom none bytes

def decode? (bytes : List UInt8) : Option String :=
  ((pieces bytes).mapM id).map String.ofList

/-- The text of the bytes, with U+FFFD for each part that is no character. -/
def decodeLossy (bytes : List UInt8) : String :=
  String.ofList ((pieces bytes).map (·.getD '\uFFFD'))

end ProjectContext.Utf8
