import TileFetch.Text.Quoted

/-!
# Descriptions of values

One-line descriptions for logs: a record with its fields, a value under a name,
an optional value, a dictionary.
-/

namespace TileFetch.Text

def shownFields (fields : List (String × String)) : String :=
  ", ".intercalate (fields.map fun f ↦ f.1 ++ ": " ++ f.2)

def shownRecord (name : String) (fields : List (String × String)) : String :=
  name ++ " \x7b " ++ shownFields fields ++ " \x7d"

/-- A record with fields that are not shown. -/
def shownPartly (name : String) (fields : List (String × String)) : String :=
  name ++ " \x7b " ++ shownFields fields ++ ", .. \x7d"

def shownUnder (name : String) (inner : String) : String :=
  name ++ "(" ++ inner ++ ")"

def shownOption : Option String → String
  | none => "None"
  | some inner => shownUnder "Some" inner

def shownTexts (entries : List (String × String)) : String :=
  "\x7b" ++ ", ".intercalate (entries.map fun e ↦ quoted e.1 ++ ": " ++ quoted e.2) ++ "\x7d"

def shownBool : Bool → String
  | true => "true"
  | false => "false"

end TileFetch.Text
