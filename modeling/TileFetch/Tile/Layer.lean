import TileFetch.Json.Record
import TileFetch.Text.CharClass
import TileFetch.Text.Shown
import TileFetch.Text.Utf8

/-!
# Layer names

A layer name goes into URLs as it is, so it has no blanks, no control characters and none
of the characters that separate the parts of a URL.
-/

namespace TileFetch

/-- The largest number of bytes of a layer name. -/
def layerNameLimit : Nat := 128

def layerDelimiters : List Char :=
  ['/', '\\', '?', '#', '%', '&', '=', '\x7b', '\x7d']

def isLayerChar (c : Char) : Bool :=
  !(Text.isBlank c || Text.isControl c || layerDelimiters.contains c)

inductive LayerFault where
  | empty
  | badCharacter
  | tooLong (limit : Nat)
  deriving DecidableEq

def LayerFault.message : LayerFault → String
  | empty => "Layer name cannot be empty."
  | badCharacter =>
      "Layer name contains a character that is not allowed in a URL segment."
  | tooLong limit => "Layer name exceeds " ++ toString limit ++ " bytes."

namespace LayerFault

def name : LayerFault → String
  | empty => "Empty"
  | badCharacter => "InvalidCharacter"
  | tooLong _ => "TooLong"

/-- The JSON value of a fault: its name, with the limit if one was exceeded. -/
def json (e : LayerFault) : Json :=
  match e with
  | tooLong limit => .object [(e.name, .object [("max", .nat limit)])]
  | _ => .string e.name

def shown (e : LayerFault) : String :=
  match e with
  | tooLong limit => Text.shownRecord e.name [("max", toString limit)]
  | _ => e.name

end LayerFault

def layerFault? (s : String) : Option LayerFault :=
  if s.toList.isEmpty then some .empty
  else if !s.toList.all isLayerChar then some .badCharacter
  else if layerNameLimit < Text.Utf8.width s.toList then some (.tooLong layerNameLimit)
  else none

structure LayerName where
  text : String
  valid : layerFault? text = none
  deriving DecidableEq

namespace LayerName

def ofString (s : String) : Except LayerFault LayerName :=
  match h : layerFault? s with
  | some fault => .error fault
  | none => .ok ⟨s, h⟩

def parse (s : String) : Except LayerFault LayerName :=
  ofString s

def validate (s : String) : Except LayerFault { text : String // layerFault? text = none } :=
  match h : layerFault? s with
  | some fault => .error fault
  | none => .ok ⟨s, h⟩

/-- The layer name that a text is converted to: it is checked, and kept as it is. -/
def convert (s : String) : Except LayerFault LayerName := do
  let checked ← validate s
  return ⟨checked.1, checked.2⟩

def json (l : LayerName) : Json :=
  .string l.text

def decoder : Json.Decoder LayerName :=
  Json.Decoder.string.check fun s ↦ (convert s).mapError LayerFault.message

def shown (l : LayerName) : String :=
  "Layer(" ++ l.text ++ ")"

def sorted (names : List LayerName) : Dict LayerName :=
  Dict.ofPairs (names.map fun l ↦ (l.text, l))

end LayerName

end TileFetch
