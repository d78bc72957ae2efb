import NvMemory.Text.Decimal
import NvMemory.Text.Hex

/-!
JSON values as reports write them, and their text: `compact` on one line without blanks,
`pretty` with one member or item a line. Members keep the order in which they are listed.
-/

namespace NvMemory.Json

inductive Value where
  | null
  | bool (value : Bool)
  | natural (value : Nat)
  | float (value : Float)
  | text (value : String)
  | array (items : List Value)
  | object (members : List (String × Value))

namespace Value

def optional {α : Type} (write : α → Value) : Option α → Value
  | none => .null
  | some value => write value

def hex (bytes : List UInt8) : Value :=
  .text (Hex.ofBytes bytes)

def list {α : Type} (write : α → Value) (items : List α) : Value :=
  .array (items.map write)

/-- Quotes, backslashes and control characters are escaped, and nothing else. -/
def escape (char : Char) : List Char :=
  match char with
  | '"' => ['\\', '"']
  | '\\' => ['\\', '\\']
  | '\x08' => ['\\', 'b']
  | '\x0c' => ['\\', 'f']
  | '\n' => ['\\', 'n']
  | '\r' => ['\\', 'r']
  | '\t' => ['\\', 't']
  | char =>
      if char.toNat < 32 then
        '\\' :: 'u' :: (Hex.digits 4 char.toNat).map Char.toLower
      else [char]

def quote (content : String) : String :=
  String.ofList ('"' :: content.toList.flatMap escape ++ ['"'])

/-- Infinities and values that are not numbers have no JSON number. -/
def floatText (value : Float) : String :=
  if value.isFinite then Decimal.documented value else "null"

def scalarText : Value → String
  | .null => "null"
  | .bool true => "true"
  | .bool false => "false"
  | .natural value => toString value
  | .float value => floatText value
  | .text value => quote value
  | .array _ => "[]"
  | .object _ => "\x7b\x7d"

mutual

def compact : Value → String
  | .array items => "[" ++ compactItems items ++ "]"
  | .object members => "\x7b" ++ compactMembers members ++ "\x7d"
  | scalar => scalar.scalarText

def compactItems : List Value → String
  | [] => ""
  | [item] => item.compact
  | item :: rest => item.compact ++ "," ++ compactItems rest

def compactMembers : List (String × Value) → String
  | [] => ""
  | [(key, value)] => quote key ++ ":" ++ value.compact
  | (key, value) :: rest => quote key ++ ":" ++ value.compact ++ "," ++ compactMembers rest

end

/-- A new line, indented by two blanks a level. -/
def newline (level : Nat) : String :=
  String.ofList ('\n' :: List.replicate (2 * level) ' ')

mutual

def prettyAt (level : Nat) : Value → String
  | .array (item :: rest) =>
      "[" ++ newline (level + 1) ++ prettyItems (level + 1) (item :: rest) ++ newline level ++ "]"
  | .object (member :: rest) =>
      "\x7b" ++ newline (level + 1) ++ prettyMembers (level + 1) (member :: rest) ++
        newline level ++ "\x7d"
  | scalar => scalar.scalarText

def prettyItems (level : Nat) : List Value → String
  | [] => ""
  | [item] => item.prettyAt level
  | item :: rest => item.prettyAt level ++ "," ++ newline level ++ prettyItems level rest

def prettyMembers (level : Nat) : List (String × Value) → String
  | [] => ""
  | [(key, value)] => quote key ++ ": " ++ value.prettyAt level
  | (key, value) :: rest =>
      quote key ++ ": " ++ value.prettyAt level ++ "," ++ newline level ++ prettyMembers level rest

end

def pretty (value : Value) : String :=
  value.prettyAt 0

end Value

end NvMemory.Json
