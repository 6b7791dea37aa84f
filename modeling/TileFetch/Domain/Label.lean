import TileFetch.Domain.ClassTable
import TileFetch.Domain.Composition
import TileFetch.Domain.Mapping
import TileFetch.Domain.Punycode

/-!
# Domain names

The ASCII form of a domain name.  The name is prepared and composed; each of its labels
has to pass the rules for labels and is written in Punycode if it is not ASCII.
-/

namespace TileFetch.Domain

def markTable : Text.RangeTable Unit :=
  Text.rangeTable (fun _ ↦ ()) markText

def joiningTable : Text.RangeTable Char :=
  Text.rangeTable (·.headD ' ') joiningText

def directionTable : Text.RangeTable Char :=
  Text.rangeTable (·.headD ' ') directionText

def isMark (c : Char) : Bool :=
  (markTable.find? c.toNat).isSome

def joiningType (c : Char) : Char :=
  (joiningTable.find? c.toNat).getD 'U'

def direction (c : Char) : Char :=
  (directionTable.find? c.toNat).getD 'L'

/-- Is the character a sign that suppresses the vowel of a consonant? -/
def isVirama (c : Char) : Bool :=
  combiningClass c.toNat = 9

/-- May a joiner stand after `before`, last first, and in front of `after`?  It follows a
virama, or a non-joiner stands between letters that join. -/
def joinerFits (joiner : Char) (before after : List Char) : Bool :=
  let nextType (cs : List Char) : Char :=
    joiningType ((cs.dropWhile (joiningType · = 'T')).headD ' ')
  before.head?.any isVirama ||
    (joiner.toNat = 0x200C && ['L', 'D'].contains (nextType before) &&
      ['R', 'D'].contains (nextType after))

def joinersFit : List Char → List Char → Bool
  | _, [] => true
  | before, c :: after =>
      ((c.toNat ≠ 0x200C && c.toNat ≠ 0x200D) || joinerFits c before after) &&
        joinersFit (c :: before) after

def isRightToLeft (cs : List Char) : Bool :=
  cs.any fun c ↦ ['R', 'A', 'N'].contains (direction c)

def directionFits (cs : List Char) : Bool :=
  let classes := cs.map direction
  let ending := (classes.reverse.dropWhile (· = 'M')).head?
  match classes.head? with
  | none => true
  | some 'L' =>
      classes.all (['L', 'E', 'S', 'C', 'T', 'O', 'B', 'M'].contains ·) &&
        ending.any (['L', 'E'].contains ·)
  | some first =>
      (first = 'R' || first = 'A') &&
        classes.all (['R', 'A', 'N', 'E', 'S', 'C', 'T', 'O', 'B', 'M'].contains ·) &&
        ending.any (['R', 'A', 'E', 'N'].contains ·) &&
        !(classes.contains 'E' && classes.contains 'N')

def isForbidden (c : Char) : Bool :=
  c.toNat ≤ 0x20 || c.toNat = 0x7F || ['%', '#', '/', ':', '<', '>', '?', '@', '[', '\\', ']',
    '^', '|'].contains c

/-- Is the label ASCII, or short enough for Punycode? -/
def lengthFits (cs : List Char) : Bool :=
  cs.all (·.toNat < 128) || cs.length ≤ Punycode.maxText

def labelFits (cs : List Char) : Bool :=
  lengthFits cs && !cs.any isForbidden && !cs.head?.any isMark && joinersFit [] cs

def encodedMark : List Char := ['x', 'n', '-', '-']

/-- The text of a label that is written in Punycode: not only ASCII, and in the form that
preparing would give it. -/
def decodeLabel? (written : List Char) : Option (List Char) := do
  let cs ← Punycode.decode? written
  let again ← mapChars cs
  if cs.all (·.toNat < 128) || composedForm again ≠ cs then none else some cs

def readLabel? (cs : List Char) : Option (List Char × List Char) :=
  if encodedMark.isPrefixOf cs then do
    if (cs.drop 4).getLast? = some '-' then none
    let text ← decodeLabel? (cs.drop 4)
    if labelFits text then some (text, cs) else none
  else if cs.all (·.toNat < 128) then if labelFits cs then some (cs, cs) else none
  else if labelFits cs then some (cs, encodedMark ++ Punycode.encode cs)
  else none

def toAscii? (name : List Char) : Option (List Char) := do
  let prepared ← mapChars name
  let labels ← (Text.splitOn (· = '.') (composedForm prepared)).mapM readLabel?
  if labels.any (isRightToLeft ·.1) && !labels.all (directionFits ·.1) then none
  else some (['.'].intercalate (labels.map (·.2)))

end TileFetch.Domain
