/-!
# JSON values and their printed form

A number is kept as it is written. A text whose escapes leave half of a surrogate pair alone is
still a value of the syntax, `none` in place of a string; no field of this library's data accepts
it.
-/

namespace ProjectContext.Json

inductive Value
  | null
  | boolean (b : Bool)
  | number (literal : String)
  | text (s : Option String)
  | array (items : List Value)
  | object (members : List (Option String × Value))
deriving Inhabited

namespace Value

def ofString (s : String) : Value := .text (some s)

def ofWord (n : UInt64) : Value := .number (toString n)

def ofStrings (texts : List String) : Value := .array (texts.map ofString)

def record (members : List (String × Value)) : Value :=
  .object (members.map fun (name, value) => (some name, value))

/-! ## Printing -/

def hexDigit (n : Nat) : Char :=
  if n < 10 then Char.ofNat (48 + n) else Char.ofNat (87 + n)

/-- A character inside quotes. Only quotes, backslashes and the control characters below the blank
are escaped. -/
def escapeChar (c : Char) : List Char :=
  match c with
  | '"' => ['\\', '"']
  | '\\' => ['\\', '\\']
  | '\x08' => ['\\', 'b']
  | '\x0C' => ['\\', 'f']
  | '\n' => ['\\', 'n']
  | '\r' => ['\\', 'r']
  | '\t' => ['\\', 't']
  | c =>
    if c.toNat < 0x20 then
      ['\\', 'u', '0', '0', hexDigit (c.toNat / 16), hexDigit (c.toNat % 16)]
    else [c]

def quoted (s : String) : List Char := '"' :: s.toList.flatMap escapeChar ++ ['"']

def newline (level : Nat) : List Char := '\n' :: List.replicate (2 * level) ' '

mutual

def render (level : Nat) : Value → List Char
  | .null => "null".toList
  | .boolean true => "true".toList
  | .boolean false => "false".toList
  | .number literal => literal.toList
  | .text s => quoted (s.getD "")
  | .array [] => ['[', ']']
  | .array (item :: items) =>
    '[' :: newline (level + 1) ++ item.render (level + 1) ++ renderItems (level + 1) items ++
      newline level ++ [']']
  | .object [] => ['\x7B', '\x7D']
  | .object ((name, value) :: members) =>
    '\x7B' :: newline (level + 1) ++ quoted (name.getD "") ++ [':', ' '] ++
      value.render (level + 1) ++ renderMembers (level + 1) members ++ newline level ++ ['\x7D']

def renderItems (level : Nat) : List Value → List Char
  | [] => []
  | item :: items => ',' :: newline level ++ item.render level ++ renderItems level items

def renderMembers (level : Nat) : List (Option String × Value) → List Char
  | [] => []
  | (name, value) :: members =>
    ',' :: newline level ++ quoted (name.getD "") ++ [':', ' '] ++ value.render level ++
      renderMembers level members

end

/-- The printed form over several lines, without a line break at the end. -/
def pretty (v : Value) : String := String.ofList (v.render 0)

end Value

end ProjectContext.Json
