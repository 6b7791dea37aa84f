import TileFetch.Template.Scan
import TileFetch.Tile.Request
import TileFetch.Url.Parser

/-!
# URL templates

The address of a tile with placeholders for layer, zoom level, column and row.  A template
is taken apart once; a request then only fills in the gaps.
-/

namespace TileFetch

inductive UrlTemplate.Segment where
  | literal (text : List Char)
  | zoom
  | column
  | row
  | layer
  deriving DecidableEq

structure UrlTemplate where
  raw : String
  segments : List UrlTemplate.Segment
  deriving DecidableEq

/-- The address of a template with its gaps filled is not a URL. -/
structure TemplateFault where
  template : String
  cause : Url.UrlFault
  deriving DecidableEq

namespace UrlTemplate

def Segment.ofName? (name : List Char) : Option Segment :=
  if name = ['z'] then some zoom
  else if name = ['x'] then some column
  else if name = ['y'] then some row
  else if name = ['l', 'a', 'y', 'e', 'r'] then some layer
  else none

def Segment.fill (z x y layerName : List Char) : Segment → List Char
  | literal text => text
  | zoom => z
  | column => x
  | row => y
  | layer => layerName

/-- Literal text in front of segments; neighbouring literals are one segment. -/
def prepend (text : List Char) : List Segment → List Segment
  | .literal following :: segments => .literal (text ++ following) :: segments
  | segments => if text.isEmpty then segments else .literal text :: segments

/-- The segments of pieces.  An unknown placeholder is literal text. -/
def segmentsOf : List Template.Piece → List Segment
  | [] => []
  | .text t :: pieces => prepend t (segmentsOf pieces)
  | .placeholder name :: pieces =>
      match Segment.ofName? name with
      | some segment => segment :: segmentsOf pieces
      | none => prepend (Template.Piece.placeholder name).source (segmentsOf pieces)

def fill (t : UrlTemplate) (z x y layerName : List Char) : List Char :=
  t.segments.flatMap (Segment.fill z x y layerName)

/-- The template of a text, whether it gives URLs or not. -/
def ofRaw (raw : String) : UrlTemplate :=
  ⟨raw, segmentsOf (Template.scan raw.toList)⟩

/-- The address of a tile that stands for all tiles when a template is checked. -/
def probe (t : UrlTemplate) : List Char :=
  t.fill (decimal 0) (decimal 0) (decimal 0) ['l', 'a', 'y', 'e', 'r']

/-- The template of a text, if its address for the probe tile is an absolute URL. -/
def parse (raw : String) : Except TemplateFault UrlTemplate :=
  let t := ofRaw raw
  match Url.ofChars t.probe with
  | .ok _ => .ok t
  | .error cause => .error ⟨raw, cause⟩

def renderChars (t : UrlTemplate) (r : TileRequest) : List Char :=
  t.fill (decimal r.z.toNat) (decimal r.x.toNat) (decimal r.y.toNat) r.layer.text.toList

def render (t : UrlTemplate) (r : TileRequest) : String :=
  String.ofList (t.renderChars r)

def renderUrl (t : UrlTemplate) (r : TileRequest) : Except Url.UrlFault Url :=
  Url.ofChars (t.renderChars r)

def shown (t : UrlTemplate) : String :=
  "UrlTemplate(" ++ t.raw ++ ")"

end UrlTemplate

end TileFetch
