import TileFetch.Text.CharClass
import TileFetch.Url.Basic

/-!
# Reading URLs

The text of an absolute URL is taken apart from left to right: scheme, credentials, host,
port, path, query, fragment.  The special schemes always have a host and know the
backslash as a second slash; `file` has rules of its own for drive letters.
-/

namespace TileFetch.Url

inductive SchemeKind where
  | special
  | file
  | other
  deriving DecidableEq

def defaultPort (scheme : List Char) : Option Nat :=
  match String.ofList scheme with
  | "http" => some 80
  | "ws" => some 80
  | "https" => some 443
  | "wss" => some 443
  | "ftp" => some 21
  | _ => none

def SchemeKind.of (scheme : List Char) : SchemeKind :=
  if scheme = ['f', 'i', 'l', 'e'] then .file
  else if (defaultPort scheme).isSome then .special
  else .other

/-! ## Preparation -/

def trimEnds (cs : List Char) : List Char :=
  let isMargin (c : Char) : Bool := c.toNat ≤ 0x20
  ((cs.dropWhile isMargin).reverse.dropWhile isMargin).reverse

def isIgnored (c : Char) : Bool :=
  c = '\t' || c = '\n' || c = '\r'

def clean (cs : List Char) : List Char :=
  cs.filter (!isIgnored ·)

def isLetter (c : Char) : Bool :=
  ('a' ≤ c && c ≤ 'z') || ('A' ≤ c && c ≤ 'Z')

def isSchemeChar (c : Char) : Bool :=
  isLetter c || c.isDigit || c = '+' || c = '-' || c = '.'

def splitScheme (cs : List Char) : Option (List Char × List Char) :=
  if cs.head?.any isLetter then
    match cs.dropWhile isSchemeChar with
    | ':' :: rest => some ((cs.takeWhile isSchemeChar).map Text.lowerAscii, rest)
    | _ => none
  else none

/-! ## Segments of a path -/

def isDoubleDot (segment : List Char) : Bool :=
  [['.', '.'], ['.', '%', '2', 'e'], ['%', '2', 'e', '.'],
    ['%', '2', 'e', '%', '2', 'e']].contains (segment.map Text.lowerAscii)

def isSingleDot (segment : List Char) : Bool :=
  segment = ['.'] || segment.map Text.lowerAscii = ['%', '2', 'e']

def isDriveLetter : List Char → Bool
  | [letter, mark] => isLetter letter && (mark = ':' || mark = '|')
  | _ => false

/-- Does a segment begin with a drive letter that ends there or at a backslash? -/
def hasDriveLetter (segment : List Char) : Bool :=
  isDriveLetter (segment.take 2) && (segment.length = 2 || segment[2]? = some '\\')

/-- Takes away the last segment, unless it has a drive letter. -/
def popSegment (done : List (List Char)) : List (List Char) :=
  if done.getLast?.any hasDriveLetter then done else done.dropLast

/-- A drive letter with a colon and the text that follows it in the segment, if only
characters that do not count separate the two. -/
def splitDrive? (segment : List Char) : Option (List Char × List Char) :=
  match clean (segment.takeWhile (· ≠ ':')), (segment.dropWhile (· ≠ ':')).drop 1 with
  | [letter], mark :: rest =>
      if isLetter letter && isIgnored mark && !(clean rest).isEmpty then
        some ([letter, ':'], clean rest)
      else none
  | _, _ => none

/-- A segment without the characters that do not count.  A drive letter at the beginning
of a path is a segment of its own. -/
def takeDrive (done : List (List Char)) (segment : List Char) :
    List (List Char) × List Char :=
  match if done.isEmpty then splitDrive? segment else none with
  | some (drive, rest) => ([drive], rest)
  | none => (done, clean segment)

def resolveSegments : List (List Char) → List (List Char) → List (List Char)
  | done, [] => done
  | done, segment :: rest =>
      let (done, segment) := takeDrive done segment
      let ending := if rest.isEmpty then [[]] else []
      if isDoubleDot segment then resolveSegments (popSegment done ++ ending) rest
      else if isSingleDot segment then resolveSegments (done ++ ending) rest
      else resolveSegments (done ++ [encode pathSet segment]) rest

def isSlash (kind : SchemeKind) (c : Char) : Bool :=
  c = '/' || (kind ≠ .other && c = '\\')

def isPathEnd (c : Char) : Bool :=
  c = '?' || c = '#'

/-- Empty segments at the beginning of a file path do not count. -/
def dropEmpty (segments : List (List Char)) : List (List Char) :=
  match segments.dropWhile List.isEmpty with
  | [] => [[]]
  | kept => kept

def readSegments (kind : SchemeKind) (cs : List Char) : List (List Char) :=
  resolveSegments [] (Text.splitOn (isSlash kind) cs)

def dropSlash (kind : SchemeKind) : List Char → List Char
  | [] => []
  | c :: cs => if isSlash kind c then cs else c :: cs

def readPath (kind : SchemeKind) (cs : List Char) : Path :=
  if kind = .other && cs.isEmpty then .segments []
  else .segments (readSegments kind (dropSlash kind cs))

/-! ## Query and fragment -/

def querySetOf : SchemeKind → EncodeSet
  | .other => querySet
  | _ => specialQuerySet

def readEnd (kind : SchemeKind) (u : Url) (cs : List Char) : Url :=
  let fragment (cs : List Char) : Option (List Char) :=
    match cs with
    | '#' :: rest => some (encode fragmentSet rest)
    | _ => none
  match cs with
  | '?' :: rest =>
      { u with
        query := some (encode (querySetOf kind) (rest.takeWhile (· ≠ '#')))
        fragment := fragment (rest.dropWhile (· ≠ '#')) }
  | _ => { u with fragment := fragment cs }

/-! ## Authority -/

def isAuthorityEnd (kind : SchemeKind) (c : Char) : Bool :=
  c = '/' || c = '?' || c = '#' || (kind ≠ .other && c = '\\')

/-- The text before the last `@`, and the text after it. -/
def splitCredentials (cs : List Char) : Option (List Char × List Char) :=
  let after := (cs.reverse.takeWhile (· ≠ '@')).reverse
  if after.length < cs.length then some (cs.take (cs.length - after.length - 1), after)
  else none

/-- The text up to a colon outside brackets or the end of the authority. -/
def splitHost (kind : SchemeKind) : Bool → List Char → List Char × List Char
  | _, [] => ([], [])
  | inBrackets, c :: cs =>
      if (c = ':' && !inBrackets) || isAuthorityEnd kind c then ([], c :: cs)
      else
        let inside := if c = '[' then true else if c = ']' then false else inBrackets
        let (host, rest) := splitHost kind inside cs
        (c :: host, rest)

/-- The digits of a port as a number, if it has 16 bits. -/
def portNumber? (digits : List Char) : Option Nat :=
  let n := digits.foldl (fun n c ↦ n * 10 + (c.toNat - 48)) 0
  if n < 65536 then some n else none

def readPort (scheme cs : List Char) : Except UrlFault (Option Nat × List Char) :=
  let digits := cs.takeWhile Char.isDigit
  let rest := cs.dropWhile Char.isDigit
  match portNumber? digits with
  | none => .error .badPort
  | some port =>
      if rest.head?.any fun c ↦ !isAuthorityEnd .special c then .error .badPort
      else if digits.isEmpty || defaultPort scheme = some port then .ok (none, rest)
      else .ok (some port, rest)

def readOptionalPort (scheme : List Char) : List Char →
    Except UrlFault (Option Nat × List Char)
  | ':' :: cs => readPort scheme cs
  | cs => .ok (none, cs)

def readHostAndPort (kind : SchemeKind) (scheme cs : List Char) :
    Except UrlFault (Host × Option Nat × List Char) := do
  let (hostText, rest) := splitHost kind false cs
  let host ←
    if kind = .other then Host.readOpaque hostText
    else if hostText.isEmpty then .error .emptyHost
    else Host.read hostText
  if host = .empty && rest.head? = some ':' then .error .emptyHost
  else
    let (port, rest) ← readOptionalPort scheme rest
    .ok (host, port, rest)

def readCredentials (kind : SchemeKind) (cs : List Char) :
    Except UrlFault (List Char × List Char × List Char) :=
  let section_ := cs.takeWhile (!isAuthorityEnd kind ·)
  let beyond := cs.dropWhile (!isAuthorityEnd kind ·)
  match splitCredentials section_ with
  | none => .ok ([], [], cs)
  | some ([], after) =>
      if after.isEmpty && !beyond.isEmpty then .error .emptyHost
      else .ok ([], [], after ++ beyond)
  | some (info, after) =>
      .ok (encode userinfoSet (info.takeWhile (· ≠ ':')),
        encode userinfoSet ((info.dropWhile (· ≠ ':')).drop 1), after ++ beyond)

def readAuthority (kind : SchemeKind) (scheme cs : List Char) : Except UrlFault Url := do
  let (username, password, rest) ← readCredentials kind cs
  let (host, port, rest) ← readHostAndPort kind scheme rest
  if host = .empty && !(username.isEmpty && password.isEmpty) then .error .emptyHost
  else
    let path := readPath kind (rest.takeWhile (!isPathEnd ·))
    let u : Url := ⟨scheme, username, password, host, port, path, none, none⟩
    .ok (readEnd kind u (rest.dropWhile (!isPathEnd ·)))

/-! ## Files -/

/-- The host of a file and the text after it.  A drive letter is no host, and the local
host has no name. -/
def readFileHost (cs : List Char) : Except UrlFault (Host × List Char) :=
  let hostText := clean (cs.takeWhile (!isAuthorityEnd .file ·))
  let rest := cs.dropWhile (!isAuthorityEnd .file ·)
  if isDriveLetter hostText then .ok (.empty, cs)
  else if hostText.isEmpty then .ok (.empty, rest)
  else
    match Host.read hostText with
    | .error e => .error e
    | .ok host =>
        if host = .name "localhost".toList then .ok (.empty, rest) else .ok (host, rest)

/-- The text after two slashes, between which characters that do not count may stand. -/
def dropTwoSlashes? (cs : List Char) : Option (List Char) :=
  match cs.dropWhile isIgnored with
  | c :: rest =>
      match rest.dropWhile isIgnored with
      | d :: rest => if isSlash .file c && isSlash .file d then some rest else none
      | [] => none
  | [] => none

def writeDrive (segments : List (List Char)) : List (List Char) :=
  match segments with
  | [letter, mark] :: rest =>
      if isDriveLetter [letter, mark] then [letter, ':'] :: rest else segments
  | _ => segments

/-- A file URL after its scheme, with the characters that do not count.  A drive letter at
the beginning of the path leaves no host, and gets a colon unless the path follows an
empty host. -/
def readFile (cs : List Char) : Except UrlFault Url := do
  let (host, rest) ←
    match dropTwoSlashes? cs with
    | some rest => readFileHost rest
    | none => .ok (.empty, cs)
  let pathText := (rest.takeWhile (!isPathEnd ·)).dropWhile isIgnored
  let segments := readSegments .file (dropSlash .file pathText)
  let atDrive := (readSegments .file (dropSlash .file (clean pathText))).head?.any isDriveLetter
  let afterEmptyHost := (dropTwoSlashes? cs).isSome && host = .empty &&
    pathText.head?.any (isSlash .file)
  let path := dropEmpty (if afterEmptyHost then segments else writeDrive segments)
  let u : Url := ⟨['f', 'i', 'l', 'e'], [], [], if atDrive then .empty else host, none,
    .segments path, none, none⟩
  .ok (readEnd .file u (clean (rest.dropWhile (!isPathEnd ·))))

/-! ## All URLs -/

def readOther (scheme cs : List Char) : Except UrlFault Url :=
  match cs with
  | '/' :: '/' :: rest => readAuthority .other scheme rest
  | _ =>
      let pathText := cs.takeWhile (!isPathEnd ·)
      let path :=
        match pathText with
        | '/' :: rest => .segments (readSegments .other rest)
        | _ => .plain (encode controlSet pathText)
      let u : Url := ⟨scheme, [], [], .absent, none, path, none, none⟩
      .ok (readEnd .other u (cs.dropWhile (!isPathEnd ·)))

def ofChars (cs : List Char) : Except UrlFault Url :=
  let text := trimEnds cs
  match splitScheme (clean text) with
  | none => .error .noScheme
  | some (scheme, rest) =>
      match SchemeKind.of scheme with
      | .file => readFile ((text.dropWhile (· ≠ ':')).drop 1)
      | .special => readAuthority .special scheme (rest.dropWhile (isSlash .special))
      | .other => readOther scheme rest

def parse (s : String) : Except UrlFault Url :=
  ofChars s.toList

end TileFetch.Url
