import NvMemory.Json.Token

/-!
JSON documents as trees, read from tokens.

The reader keeps the containers that are still open in a list of its own, so that nesting
costs no call depth, and takes one token at a time: `Progress.step` is the whole grammar.
-/

namespace NvMemory.Json

inductive Document where
  | null
  | bool (value : Bool)
  | natural (value : Nat)
  /-- A number with a sign, a fraction or a power of ten. -/
  | otherNumber
  /-- A string literal; `none` if it denotes no text. -/
  | text (content : Option String)
  | array (items : List Document)
  | object (members : List (Option String × Document))
deriving Repr

/-- An open container, what it holds so far listed newest first. -/
inductive OpenContainer where
  | array (items : List Document)
  /-- An object whose member named `key` is being read. -/
  | object (members : List (Option String × Document)) (key : Option String)

/-- How far a document has been read, and the containers around that place. -/
inductive Progress where
  /-- A value must come. -/
  | value (around : List OpenContainer)
  /-- A bracket was opened. -/
  | firstItem (around : List OpenContainer)
  /-- A brace was opened. -/
  | firstKey (around : List OpenContainer)
  /-- A comma was read in an object. -/
  | nextKey (members : List (Option String × Document)) (around : List OpenContainer)
  /-- A key was read. -/
  | colon (members : List (Option String × Document)) (key : Option String)
      (around : List OpenContainer)
  /-- A value is complete. -/
  | done (document : Document) (around : List OpenContainer)

namespace Progress

/-- Reads the first token of a value. -/
def startValue (around : List OpenContainer) : Token → Option Progress
  | .openBracket => some (.firstItem around)
  | .openBrace => some (.firstKey around)
  | .null => some (.done .null around)
  | .bool answer => some (.done (.bool answer) around)
  | .natural number => some (.done (.natural number) around)
  | .otherNumber => some (.done .otherNumber around)
  | .text content => some (.done (.text content) around)
  | _ => none

def step : Progress → Token → Option Progress
  | .value around, token => startValue around token
  | .firstItem around, .closeBracket => some (.done (.array []) around)
  | .firstItem around, token => startValue (.array [] :: around) token
  | .firstKey around, .closeBrace => some (.done (.object []) around)
  | .firstKey around, .text key => some (.colon [] key around)
  | .nextKey members around, .text key => some (.colon members key around)
  | .colon members key around, .colon => some (.value (.object members key :: around))
  | .done document (.array items :: around), .comma =>
      some (.value (.array (document :: items) :: around))
  | .done document (.array items :: around), .closeBracket =>
      some (.done (.array (document :: items).reverse) around)
  | .done document (.object members key :: around), .comma =>
      some (.nextKey ((key, document) :: members) around)
  | .done document (.object members key :: around), .closeBrace =>
      some (.done (.object ((key, document) :: members).reverse) around)
  | _, _ => none

/-- The document, once nothing is open. -/
def result? : Progress → Option Document
  | .done document [] => some document
  | _ => none

end Progress

namespace Document

def ofTokens? (tokens : List Token) : Option Document := do
  let progress ← tokens.foldlM Progress.step (.value [])
  progress.result?

def parse? (bytes : List UInt8) : Option Document := do
  let tokens ← Token.ofBytes? bytes
  ofTokens? tokens

/-- A natural number that is at most `limit`. -/
def upTo? (limit : Nat) : Document → Option Nat
  | .natural value => if value ≤ limit then some value else none
  | _ => none

/-- The name of an alternative without content: a text, or an object whose only member has
that name and the value null. -/
def alternative? : Document → Option String
  | .text content => content
  | .object [(key, .null)] => key
  | _ => none

end Document

end NvMemory.Json
