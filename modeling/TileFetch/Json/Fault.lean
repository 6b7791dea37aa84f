import TileFetch.Json.Writer

/-!
# Why a document is refused

A fault has a cause, the place in the text where it was found if there is a text,
and the path from the root of the document to the value at fault.
-/

namespace TileFetch.Json

inductive SyntaxFault where
  | endInList
  | endInObject
  | endInString
  | endInValue
  | expectedColon
  | expectedItemEnd
  | expectedMemberEnd
  | expectedWord
  | expectedValue
  | invalidEscape
  | invalidNumber
  | numberOutOfRange
  | invalidCodePoint
  | controlCharacter
  | keyNotString
  | loneSurrogate
  | trailingComma
  | trailingCharacters
  | endOfEscape
  | nestingTooDeep
  deriving DecidableEq

/-- The sort of a fault: bad syntax, a value of the wrong shape, or a text that
ends too early. -/
inductive Category where
  | syntaxError
  | data
  | endOfInput
  deriving DecidableEq

def Category.name : Category → String
  | syntaxError => "Syntax"
  | data => "Data"
  | endOfInput => "Eof"

namespace SyntaxFault

def message : SyntaxFault → String
  | endInList => "EOF while parsing a list"
  | endInObject => "EOF while parsing an object"
  | endInString => "EOF while parsing a string"
  | endInValue => "EOF while parsing a value"
  | expectedColon => "expected `:`"
  | expectedItemEnd => "expected `,` or `]`"
  | expectedMemberEnd => "expected `,` or `\x7d`"
  | expectedWord => "expected ident"
  | expectedValue => "expected value"
  | invalidEscape => "invalid escape"
  | invalidNumber => "invalid number"
  | numberOutOfRange => "number out of range"
  | invalidCodePoint => "invalid unicode code point"
  | controlCharacter => "control character (\\u0000-\\u001F) found while parsing a string"
  | keyNotString => "key must be a string"
  | loneSurrogate => "lone leading surrogate in hex escape"
  | trailingComma => "trailing comma"
  | trailingCharacters => "trailing characters"
  | endOfEscape => "unexpected end of hex escape"
  | nestingTooDeep => "recursion limit exceeded"

def category : SyntaxFault → Category
  | endInList | endInObject | endInString | endInValue => .endOfInput
  | _ => .syntaxError

end SyntaxFault

inductive Found where
  | null
  | bool (value : Bool)
  | number (value : Number)
  | string (value : String)
  | sequence
  | mapping

namespace Found

def ofJson : Json → Found
  | .null => null
  | .bool b => bool b
  | .number n => number n
  | .string s => string s
  | .array _ => sequence
  | .object _ => mapping

def text : Found → String
  | null => "null"
  | bool b => if b then "boolean `true`" else "boolean `false`"
  | number (.int i) => "integer `" ++ String.ofList (writeInt i) ++ "`"
  | number (.real x) => "floating point `" ++ String.ofList (writeReal x) ++ "`"
  | string s => "string " ++ Text.quoted s
  | sequence => "sequence"
  | mapping => "map"

end Found

def alternatives : List String → String
  | [] => ""
  | [a] => "`" ++ a ++ "`"
  | [a, b] => "`" ++ a ++ "` or `" ++ b ++ "`"
  | names => "one of " ++ ", ".intercalate (names.map fun n ↦ "`" ++ n ++ "`")

inductive Cause where
  | badSyntax (fault : SyntaxFault)
  | wrongType (found : Found) (expected : String)
  | wrongValue (found : Found) (expected : String)
  | wrongLength (length : Nat) (expected : String)
  | unknownField (name : String) (known : List String)
  | unknownVariant (name : String) (known : List String)
  | missingField (name : String)
  | duplicateField (name : String)
  | refused (reason : String)

namespace Cause

def message : Cause → String
  | badSyntax f => f.message
  | wrongType found expected => "invalid type: " ++ found.text ++ ", expected " ++ expected
  | wrongValue found expected => "invalid value: " ++ found.text ++ ", expected " ++ expected
  | wrongLength n expected => "invalid length " ++ toString n ++ ", expected " ++ expected
  | unknownField name known =>
      "unknown field `" ++ name ++ "`, expected " ++ alternatives known
  | unknownVariant name known =>
      "unknown variant `" ++ name ++ "`, expected " ++ alternatives known
  | missingField name => "missing field `" ++ name ++ "`"
  | duplicateField name => "duplicate field `" ++ name ++ "`"
  | refused reason => reason

def category : Cause → Category
  | badSyntax f => f.category
  | _ => .data

end Cause

/-- A place in a text: lines from one, columns in bytes from zero. -/
structure Position where
  line : Nat
  column : Nat
  deriving DecidableEq

inductive Step where
  | item (index : Nat)
  | member (key : String)
  | unknown
  deriving DecidableEq

structure Fault where
  cause : Cause
  position : Option Position := none
  path : List Step := []

namespace Fault

def category (f : Fault) : Category :=
  f.cause.category

def message (f : Fault) : String :=
  match f.position with
  | none => f.cause.message
  | some p =>
      f.cause.message ++ " at line " ++ toString p.line ++ " column " ++ toString p.column

/-- The fault, as seen from the value that `step` starts from. -/
def inside (step : Step) (f : Fault) : Fault :=
  { f with path := step :: f.path }

def placed (p : Position) (f : Fault) : Fault :=
  match f.position with
  | none => { f with position := some p }
  | some _ => f

end Fault

def pathTail : List Step → String
  | [] => ""
  | .item i :: rest => "[" ++ toString i ++ "]" ++ pathTail rest
  | .member key :: rest => "." ++ key ++ pathTail rest
  | .unknown :: rest => ".?" ++ pathTail rest

/-- The text of a path: keys after dots, indices in brackets, and a single dot for
the root. -/
def pathText : List Step → String
  | [] => "."
  | .item i :: rest => "[" ++ toString i ++ "]" ++ pathTail rest
  | .member key :: rest => key ++ pathTail rest
  | .unknown :: rest => "?" ++ pathTail rest

end TileFetch.Json
