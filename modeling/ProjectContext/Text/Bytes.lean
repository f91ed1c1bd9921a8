import ProjectContext.Text.Utf8

/-!
# Byte strings

Names, paths and file contents are byte strings. Here are the cuts that the other modules make in
them and their two written forms, UTF-8 text and lower-case hexadecimal.
-/

namespace ProjectContext

abbrev Bytes := List UInt8

namespace Bytes

def ofString (text : String) : Bytes := Utf8.encode text

/-- The parts between the occurrences of `separator`: one part more than there are occurrences. -/
def splitOn (separator : UInt8) : Bytes → List Bytes
  | [] => [[]]
  | b :: rest =>
    match splitOn separator rest with
    | [] => [[b]]
    | part :: parts => if b = separator then [] :: part :: parts else (b :: part) :: parts

def dropStart? : (start bytes : Bytes) → Option Bytes
  | [], bytes => some bytes
  | _ :: _, [] => none
  | a :: start, b :: bytes => if a = b then dropStart? start bytes else none

def hexDigit (n : Nat) : Char :=
  if n < 10 then Char.ofNat (48 + n) else Char.ofNat (87 + n)

def toHex (bytes : Bytes) : String :=
  String.ofList (bytes.flatMap fun b => [hexDigit (b.toNat / 16), hexDigit (b.toNat % 16)])

end Bytes

end ProjectContext
