import TileFetch.Json.Reader

/-!
# Decoding JSON

A decoder turns documents into values of a type in two ways: from a JSON value,
and from text as it is read, without a JSON value in between.  Both find the first
fault in the order of the document; only the second knows places in a text.
-/

namespace TileFetch.Json

open Reader

/-- How values of type `α` are read from a JSON value and from text.  The number
that a text reader takes is the nesting that is left. -/
structure Decoder (α : Type) where
  ofJson : Json → Except Fault α
  read : Nat → Reader α

/-- The nesting that a document may have: one level less than this. -/
def nestingLimit : Nat := 128

/-! ## Enclosures -/

/-- Enters a list or an object, whose opening byte is ahead, and yields the nesting
that is left inside. -/
def enter (depth : Nat) : Reader Nat :=
  if depth ≤ 1 then failNext .nestingTooDeep
  else do
    advance
    return depth - 1

/-- Is there another item of a list?  `first` says that none has been read. -/
def moreItems (first : Bool) : Reader Bool := do
  match ← peekToken with
  | none => failNext .endInList
  | some b =>
      if b = 0x5D then return false
      else if first then return true
      else if b = 0x2C then do
        advance
        match ← peekToken with
        | none => failNext .endInValue
        | some b => if b = 0x5D then failNext .trailingComma else return true
      else failNext .expectedItemEnd

def closeList : Reader Unit := do
  match ← peekToken with
  | none => failNext .endInList
  | some b =>
      if b = 0x5D then advance
      else if b = 0x2C then do
        advance
        let b ← peekToken
        if b = some 0x5D then failNext .trailingComma else failNext .trailingCharacters
      else failNext .trailingCharacters

def moreMembers (first : Bool) : Reader Bool := do
  match ← peekToken with
  | none => failNext .endInObject
  | some b =>
      if b = 0x7D then return false
      else if first then
        if b = 0x22 then return true else failNext .keyNotString
      else if b = 0x2C then do
        advance
        match ← peekToken with
        | none => failNext .endInValue
        | some b =>
            if b = 0x22 then return true
            else if b = 0x7D then failNext .trailingComma
            else failNext .keyNotString
      else failNext .expectedMemberEnd

def closeObject : Reader Unit := do
  match ← peekToken with
  | none => failNext .endInObject
  | some b =>
      if b = 0x7D then advance
      else if b = 0x2C then failNext .trailingComma
      else failNext .trailingCharacters

def nextKey (first : Bool) : Reader (Option String) :=
  inside .unknown do
    if ← moreMembers first then do
      advance
      return some (← readText)
    else return none

def readColon : Reader Unit := do
  match ← peekToken with
  | none => failNext .endInObject
  | some b => if b = 0x3A then advance else failNext .expectedColon

/-- Reads the contents of an enclosure and its end.  The end is read in any case;
a fault of the contents comes first, and takes the place that was reached in the
end if it has none. -/
def enclosed {α : Type} (contents : Reader α) (close : Reader Unit) : Reader α := do
  let outcome ← attempt contents
  let closed ← attempt close
  match outcome, closed with
  | .ok a, .ok () => return a
  | .error e, _ => fail e
  | .ok _, .error e => fail e

/-! ## Values of any shape -/

/-- Refuses the value ahead, of which only its first token is read. -/
def refuseType {α : Type} (expected : String) : Reader α := do
  match ← peek with
  | some b =>
      if b = 0x6E then do
        advance
        readWord ['u', 'l', 'l']
        refuse (.wrongType .null expected)
      else if b = 0x74 then do
        advance
        readWord ['r', 'u', 'e']
        refuse (.wrongType (.bool true) expected)
      else if b = 0x66 then do
        advance
        readWord ['a', 'l', 's', 'e']
        refuse (.wrongType (.bool false) expected)
      else if b = 0x2D then do
        advance
        refuse (.wrongType (.number (← readNumber true)) expected)
      else if isDigitByte b then
        refuse (.wrongType (.number (← readNumber false)) expected)
      else if b = 0x22 then do
        advance
        refuse (.wrongType (.string (← readText)) expected)
      else if b = 0x5B then refuse (.wrongType .sequence expected)
      else if b = 0x7B then refuse (.wrongType .mapping expected)
      else failNext .expectedValue
  | none => failNext .expectedValue

/-- The items of a list; `done` holds the items before, last first. -/
def readItems {α : Type} (item : Reader α) : Nat → List α → Reader (List α)
  | 0, _ => failHere .endInList
  | fuel + 1, done => do
      if ← moreItems done.isEmpty then do
        let a ← inside (.item done.length) item
        readItems item fuel (a :: done)
      else return done.reverse

def readMembers {α : Type} (value : Reader α) :
    Nat → Bool → List (String × α) → Reader (List (String × α))
  | 0, _, _ => failHere .endInObject
  | fuel + 1, first, done => do
      match ← nextKey first with
      | none => return done
      | some key => do
          readColon
          let a ← inside (.member key) value
          readMembers value fuel false (putEntry key a done)

/-- A value of any shape, `depth` being the nesting that is left. -/
def readValue : Nat → Reader Json
  | 0 => failNext .nestingTooDeep
  | depth + 1 => placed do
      match ← peekToken with
      | none => failNext .endInValue
      | some b =>
          if b = 0x6E then do
            advance
            readWord ['u', 'l', 'l']
            return .null
          else if b = 0x74 then do
            advance
            readWord ['r', 'u', 'e']
            return .bool true
          else if b = 0x66 then do
            advance
            readWord ['a', 'l', 's', 'e']
            return .bool false
          else if b = 0x2D then do
            advance
            return .number (← readNumber true)
          else if isDigitByte b then return .number (← readNumber false)
          else if b = 0x22 then do
            advance
            return .string (← readText)
          else if b = 0x5B then do
            let _ ← enter (depth + 1)
            let items ← enclosed (do readItems (readValue depth) ((← ahead) + 1) []) closeList
            return .array items
          else if b = 0x7B then do
            let _ ← enter (depth + 1)
            let members ←
              enclosed (do readMembers (readValue depth) ((← ahead) + 1) true []) closeObject
            return .object members
          else failNext .expectedValue

namespace Decoder

def wrongType {α : Type} (j : Json) (expected : String) : Except Fault α :=
  .error { cause := .wrongType (Found.ofJson j) expected }

def any : Decoder Json where
  ofJson j := .ok j
  read depth := readValue depth

def ignored : Decoder Unit where
  ofJson _ := .ok ()
  read _ := skip

def map {α β : Type} (f : α → β) (d : Decoder α) : Decoder β where
  ofJson j := (d.ofJson j).map f
  read depth := do return f (← d.read depth)

def check {α β : Type} (d : Decoder α) (f : α → Except String β) : Decoder β where
  ofJson j := do
    match f (← d.ofJson j) with
    | .ok b => .ok b
    | .error reason => .error { cause := .refused reason }
  read depth := do
    match f (← d.read depth) with
    | .ok b => return b
    | .error reason => refuse (.refused reason)

def string : Decoder String where
  ofJson
    | .string s => .ok s
    | j => wrongType j "a string"
  read _ := placed do
    match ← peekToken with
    | none => failNext .endInValue
    | some b =>
        if b = 0x22 then do
          advance
          readText
        else refuseType "a string"

def bool : Decoder Bool where
  ofJson
    | .bool b => .ok b
    | j => wrongType j "a boolean"
  read _ := placed do
    match ← peekToken with
    | none => failNext .endInValue
    | some b =>
        if b = 0x74 then do
          advance
          readWord ['r', 'u', 'e']
          return true
        else if b = 0x66 then do
          advance
          readWord ['a', 'l', 's', 'e']
          return false
        else refuseType "a boolean"

def unit : Decoder Unit where
  ofJson
    | .null => .ok ()
    | j => wrongType j "unit"
  read _ := placed do
    match ← peekToken with
    | none => failNext .endInValue
    | some b =>
        if b = 0x6E then do
          advance
          readWord ['u', 'l', 'l']
        else refuseType "unit"

def number {α : Type} (expected : String) (accept : Number → Except Cause α) :
    Decoder α where
  ofJson
    | .number n =>
        match accept n with
        | .ok a => .ok a
        | .error cause => .error { cause }
    | j => wrongType j expected
  read _ := placed do
    let take (n : Number) : Reader α :=
      match accept n with
      | .ok a => pure a
      | .error cause => refuse cause
    match ← peekToken with
    | none => failNext .endInValue
    | some b =>
        if b = 0x2D then do
          advance
          take (← readNumber true)
        else if isDigitByte b then do take (← readNumber false)
        else refuseType expected

def integer (expected : String) (lowest highest : Int) : Decoder Int :=
  number expected fun
    | .int i =>
        if lowest ≤ i && i ≤ highest then .ok i
        else .error (.wrongValue (.number (.int i)) expected)
    | .real x => .error (.wrongType (.number (.real x)) expected)

def natural (bits : Nat) : Decoder Nat :=
  (integer ("u" ++ toString bits) 0 (Nat.pow 2 bits - 1 : Nat)).map Int.toNat

def signed (bits : Nat) : Decoder Int :=
  integer ("i" ++ toString bits) (-(Nat.pow 2 (bits - 1) : Nat)) (Nat.pow 2 (bits - 1) - 1 : Nat)

def real : Decoder Number.Binary64 :=
  number "f64" fun
    | .real x => .ok x
    | .int i =>
        match Number.Binary64.ofRatio (i < 0) i.natAbs 1 with
        | some x => .ok x
        | none => .error (.wrongValue (.number (.int i)) "f64")

def option {α : Type} (d : Decoder α) : Decoder (Option α) where
  ofJson
    | .null => .ok none
    | j => (d.ofJson j).map some
  read depth := do
    match ← peekToken with
    | some b =>
        if b = 0x6E then do
          advance
          readWord ['u', 'l', 'l']
          return none
        else return some (← d.read depth)
    | none => return some (← d.read depth)

def itemsOfJson {α : Type} (d : Decoder α) : Nat → List Json → Except Fault (List α)
  | _, [] => .ok []
  | i, j :: js =>
      match d.ofJson j with
      | .error e => .error (e.inside (.item i))
      | .ok a =>
          match itemsOfJson d (i + 1) js with
          | .error e => .error e
          | .ok as => .ok (a :: as)

def list {α : Type} (d : Decoder α) : Decoder (List α) where
  ofJson
    | .array items => itemsOfJson d 0 items
    | j => wrongType j "a sequence"
  read depth := placed do
    match ← peekToken with
    | none => failNext .endInValue
    | some b =>
        if b = 0x5B then do
          let inner ← enter depth
          enclosed (do readItems (d.read inner) ((← ahead) + 1) []) closeList
        else refuseType "a sequence"

def membersOfJson {α : Type} (d : Decoder α) :
    List (String × Json) → List (String × α) → Except Fault (List (String × α))
  | [], done => .ok done
  | (key, j) :: rest, done =>
      match d.ofJson j with
      | .error e => .error (e.inside (.member key))
      | .ok a => membersOfJson d rest (putEntry key a done)

/-- The entries of an object; of two members with one key the later wins. -/
def entries {α : Type} (d : Decoder α) : Decoder (List (String × α)) where
  ofJson
    | .object members => membersOfJson d members []
    | j => wrongType j "a map"
  read depth := placed do
    match ← peekToken with
    | none => failNext .endInValue
    | some b =>
        if b = 0x7B then do
          let inner ← enter depth
          enclosed (do readMembers (d.read inner) ((← ahead) + 1) true []) closeObject
        else refuseType "a map"

def dict {α : Type} (d : Decoder α) : Decoder (Dict α) :=
  (entries d).map Dict.ofPairs

def variantNamed {α : Type} (variants : List (String × α)) (name : String) :
    Except Cause α :=
  match findEntry name variants with
  | some a => .ok a
  | none => .error (.unknownVariant name (variants.map (·.1)))

/-- A constant given by its name, or by an object whose only member has that name and
the value `null`. -/
def variant {α : Type} (variants : List (String × α)) : Decoder α where
  ofJson
    | .string name =>
        match variantNamed variants name with
        | .ok a => .ok a
        | .error cause => .error { cause }
    | .object [(name, inner)] =>
        match variantNamed variants name with
        | .error cause => .error { cause }
        | .ok a => (unit.ofJson inner).map fun _ ↦ a
    | .object _ => .error { cause := .wrongValue .mapping "map with a single key" }
    | j => wrongType j "string or map"
  read depth := do
    let readName : Reader α := placed do
      advance
      match variantNamed variants (← readText) with
      | .ok a => return a
      | .error cause => refuse cause
    match ← peekToken with
    | none => failNext .endInValue
    | some b =>
        if b = 0x7B then do
          let inner ← enter depth
          match ← peekToken with
          | none => failNext .endInObject
          | some b =>
              if b = 0x7D then failNext .expectedValue
              else if b ≠ 0x22 then failNext .keyNotString
              else pure ()
          let a ← readName
          readColon
          unit.read inner
          match ← peekToken with
          | none => failHere .endInObject
          | some b =>
              if b = 0x7D then do
                advance
                return a
              else failHere .expectedValue
        else if b = 0x22 then readName
        else failNext .expectedValue

/-- The value at the beginning of a text, whatever follows it. -/
def parseLeading {α : Type} (d : Decoder α) (bytes : List UInt8) : Except Fault α :=
  (d.read nestingLimit (Cursor.start bytes)).1

/-- The value of a text with nothing but blanks after it. -/
def parse {α : Type} (d : Decoder α) (bytes : List UInt8) : Except Fault α :=
  let reader : Reader α := do
    let a ← d.read nestingLimit
    match ← peekToken with
    | none => return a
    | some _ => failNext .trailingCharacters
  (reader (Cursor.start bytes)).1

def parseString {α : Type} (d : Decoder α) (s : String) : Except Fault α :=
  d.parse (Text.Utf8.bytes s)

end Decoder

end TileFetch.Json
