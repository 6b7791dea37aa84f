import TileFetch.Dict
import TileFetch.Number.Shortest

/-!
# JSON documents

The values of JSON.  An integer that fits in 64 bits stays an integer, every
other number is a binary fraction.  The members of an object are kept in
increasing order of their keys.
-/

namespace TileFetch

namespace Json

/-- A number: an integer of 64 bits, signed or unsigned, or a binary fraction. -/
inductive Number where
  | int (value : Int)
  | real (value : Number.Binary64)
  deriving DecidableEq

end Json

inductive Json where
  | null
  | bool (value : Bool)
  | number (value : Json.Number)
  | string (value : String)
  | array (items : List Json)
  | object (members : List (String × Json))

namespace Json

instance : Inhabited Json :=
  ⟨.null⟩

def int (i : Int) : Json :=
  .number (.int i)

def nat (n : Nat) : Json :=
  .number (.int n)

def stringOrNull : Option String → Json
  | none => .null
  | some s => .string s

/-- The object of a list of members; of two members with one key the later wins. -/
def ofMembers (members : List (String × Json)) : Json :=
  .object (members.foldl (fun ms m ↦ putEntry m.1 m.2 ms) [])

def ofTexts (d : Dict String) : Json :=
  .object (d.entries.map fun e ↦ (e.1, .string e.2))

def member? (key : String) : Json → Option Json
  | .object members => findEntry key members
  | _ => none

end Json

end TileFetch
