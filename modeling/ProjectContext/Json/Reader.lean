import ProjectContext.Json.Value

/-!
# Reading JSON

The strict syntax: four kinds of blanks, no comma too many, nothing behind the value, no raw control
character in a text. Texts are read to code units first, so that surrogate halves can be paired.
-/

namespace ProjectContext.Json

def isBlank (c : Char) : Bool := c == ' ' || c == '\t' || c == '\n' || c == '\r'

def skipBlanks (text : List Char) : List Char := text.dropWhile isBlank

/-! ## Texts -/

def hexValue? (c : Char) : Option Nat :=
  if '0' ≤ c && c ≤ '9' then some (c.toNat - 48)
  else if 'a' ≤ c && c ≤ 'f' then some (c.toNat - 87)
  else if 'A' ≤ c && c ≤ 'F' then some (c.toNat - 55)
  else none

def unit? (a b c d : Char) : Option Nat := do
  return (((← hexValue? a) * 16 + (← hexValue? b)) * 16 + (← hexValue? c)) * 16 + (← hexValue? d)

def escaped? : Char → Option Char
  | '"' => some '"'
  | '\\' => some '\\'
  | '/' => some '/'
  | 'b' => some '\x08'
  | 'f' => some '\x0C'
  | 'n' => some '\n'
  | 'r' => some '\r'
  | 't' => some '\t'
  | _ => none

/-- A part of a text: a character, or a code unit that was spelled by its number. -/
inductive TextPart
  | char (c : Char)
  | unit (n : Nat)

def readParts : List Char → Option (List TextPart × List Char)
  | [] => none
  | '"' :: rest => some ([], rest)
  | '\\' :: 'u' :: a :: b :: c :: d :: rest => do
    let n ← unit? a b c d
    let (parts, rest) ← readParts rest
    return (.unit n :: parts, rest)
  | '\\' :: e :: rest => do
    let c ← escaped? e
    let (parts, rest) ← readParts rest
    return (.char c :: parts, rest)
  | c :: rest =>
    if c.toNat < 0x20 || c == '\\' then none
    else do
      let (parts, rest) ← readParts rest
      return (.char c :: parts, rest)

def isHighSurrogate (n : Nat) : Bool := 0xD800 ≤ n && n < 0xDC00

def isLowSurrogate (n : Nat) : Bool := 0xDC00 ≤ n && n < 0xE000

/-- The characters of the parts, unless half of a surrogate pair stands alone. -/
def joinParts : List TextPart → Option (List Char)
  | [] => some []
  | .char c :: parts => (joinParts parts).map (c :: ·)
  | .unit n :: parts =>
    if isHighSurrogate n then
      match parts with
      | .unit m :: parts =>
        if isLowSurrogate m then
          (joinParts parts).map (Char.ofNat (0x10000 + (n - 0xD800) * 0x400 + (m - 0xDC00)) :: ·)
        else none
      | _ => none
    else if isLowSurrogate n then none
    else (joinParts parts).map (Char.ofNat n :: ·)

def readText (text : List Char) : Option (Option String × List Char) := do
  let (parts, rest) ← readParts text
  return ((joinParts parts).map String.ofList, rest)

/-! ## Numbers -/

def isDigit (c : Char) : Bool := '0' ≤ c && c ≤ '9'

def readDigits (text : List Char) : Option (List Char × List Char) :=
  match text.span isDigit with
  | ([], _) => none
  | parts => some parts

def readInteger : List Char → Option (List Char × List Char)
  | '0' :: rest => some (['0'], rest)
  | text => readDigits text

def readFraction : List Char → Option (List Char × List Char)
  | '.' :: rest => do
    let (digits, rest) ← readDigits rest
    return ('.' :: digits, rest)
  | rest => some ([], rest)

def readExponent : List Char → Option (List Char × List Char)
  | [] => some ([], [])
  | c :: rest =>
    if c == 'e' || c == 'E' then
      match rest with
      | '+' :: rest => do let (digits, rest) ← readDigits rest; return (c :: '+' :: digits, rest)
      | '-' :: rest => do let (digits, rest) ← readDigits rest; return (c :: '-' :: digits, rest)
      | rest => do let (digits, rest) ← readDigits rest; return (c :: digits, rest)
    else some ([], c :: rest)

def readNumber (text : List Char) : Option (List Char × List Char) := do
  let (sign, rest) := match text with
    | '-' :: rest => (['-'], rest)
    | rest => ([], rest)
  let (integer, rest) ← readInteger rest
  let (fraction, rest) ← readFraction rest
  let (exponent, rest) ← readExponent rest
  return (sign ++ integer ++ fraction ++ exponent, rest)

/-! ## Values -/

mutual

def readValue : Nat → List Char → Option (Value × List Char)
  | 0, _ => none
  | fuel + 1, text =>
    match text with
    | 'n' :: 'u' :: 'l' :: 'l' :: rest => some (.null, rest)
    | 't' :: 'r' :: 'u' :: 'e' :: rest => some (.boolean true, rest)
    | 'f' :: 'a' :: 'l' :: 's' :: 'e' :: rest => some (.boolean false, rest)
    | '"' :: rest => do
      let (s, rest) ← readText rest
      return (.text s, rest)
    | '[' :: rest =>
      match skipBlanks rest with
      | ']' :: rest => some (.array [], rest)
      | rest => do
        let (items, rest) ← readItems fuel rest
        return (.array items, rest)
    | '\x7B' :: rest =>
      match skipBlanks rest with
      | '\x7D' :: rest => some (.object [], rest)
      | rest => do
        let (members, rest) ← readMembers fuel rest
        return (.object members, rest)
    | text => do
      let (literal, rest) ← readNumber text
      return (.number (String.ofList literal), rest)

def readItems : Nat → List Char → Option (List Value × List Char)
  | 0, _ => none
  | fuel + 1, text => do
    let (item, rest) ← readValue fuel text
    match skipBlanks rest with
    | ']' :: rest => return ([item], rest)
    | ',' :: rest =>
      let (items, rest) ← readItems fuel (skipBlanks rest)
      return (item :: items, rest)
    | _ => none

def readMembers : Nat → List Char → Option (List (Option String × Value) × List Char)
  | 0, _ => none
  | fuel + 1, text => do
    let '"' :: rest := text | none
    let (name, rest) ← readText rest
    let ':' :: rest := skipBlanks rest | none
    let (value, rest) ← readValue fuel (skipBlanks rest)
    match skipBlanks rest with
    | '\x7D' :: rest => return ([(name, value)], rest)
    | ',' :: rest =>
      let (members, rest) ← readMembers fuel (skipBlanks rest)
      return ((name, value) :: members, rest)
    | _ => none

end

/-- The value that a text spells, with nothing but blanks around it. Every step into a value reads a
character, so the length of the text bounds the steps. -/
def Value.read (text : String) : Option Value := do
  let chars := text.toList
  let (value, rest) ← readValue (2 * chars.length + 1) (skipBlanks chars)
  if (skipBlanks rest).isEmpty then return value else none

/-! ## Fields -/

namespace Value

def text? : Value → Option String
  | .text s => s
  | _ => none

def boolean? : Value → Option Bool
  | .boolean b => some b
  | _ => none

/-- A natural number below `2 ^ 64`, written without sign, point and exponent. -/
def word? : Value → Option UInt64
  | .number literal =>
    let digits := literal.toList
    if digits.all isDigit then
      let n := digits.foldl (fun n c => n * 10 + (c.toNat - 48)) 0
      if n < UInt64.size then some n.toUInt64 else none
    else none
  | _ => none

def list? (item : Value → Option α) : Value → Option (List α)
  | .array items => items.mapM item
  | _ => none

def only? (name : String) (members : List (String × Value)) : Option Value :=
  match members.filter (·.1 == name) with
  | [(_, value)] => some value
  | _ => none

/-- The values of the named fields: of an object the members of those names, which occur once each
among others, of a list the items, as many as there are names. -/
def fields? (names : List String) : Value → Option (List Value)
  | .object members => do
    let members ← members.mapM fun (name, value) => name.map (·, value)
    names.mapM (only? · members)
  | .array items => if items.length = names.length then some items else none
  | _ => none

end Value

end ProjectContext.Json
