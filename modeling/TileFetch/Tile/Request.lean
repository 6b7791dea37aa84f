import TileFetch.Text.Shown
import TileFetch.Tile.Layer

/-!
# Tile requests

One tile of a layer, addressed by zoom level, column and row.  The numbers are passed on
as they are; no range is checked.
-/

namespace TileFetch

structure TileRequest where
  layer : LayerName
  z : UInt8
  x : UInt32
  y : UInt32
  deriving DecidableEq

def decimal (n : Nat) : List Char :=
  Nat.toDigits 10 n

namespace TileRequest

/-- The characters of a request: layer, zoom level, column and row between slashes. -/
def chars (r : TileRequest) : List Char :=
  r.layer.text.toList ++ '/' :: decimal r.z.toNat ++ '/' :: decimal r.x.toNat ++
    '/' :: decimal r.y.toNat

def text (r : TileRequest) : String :=
  String.ofList r.chars

def shown (r : TileRequest) : String :=
  Text.shownRecord "TileRequest"
    [("layer", r.layer.shown), ("z", String.ofList (decimal r.z.toNat)),
      ("x", String.ofList (decimal r.x.toNat)), ("y", String.ofList (decimal r.y.toNat))]

def json (r : TileRequest) : Json :=
  .object [("layer", r.layer.json), ("z", .nat r.z.toNat), ("x", .nat r.x.toNat),
    ("y", .nat r.y.toNat)]

structure Draft where
  layer : Option LayerName := none
  z : Option UInt8 := none
  x : Option UInt32 := none
  y : Option UInt32 := none

def shape : Json.Shape Draft TileRequest where
  expected := "struct TileRequest"
  fields :=
    [.of "layer" Draft.layer (fun d v ↦ { d with layer := v }) false LayerName.decoder,
      .of "z" Draft.z (fun d v ↦ { d with z := v }) false
        ((Json.Decoder.natural 8).map UInt8.ofNat),
      .of "x" Draft.x (fun d v ↦ { d with x := v }) false
        ((Json.Decoder.natural 32).map UInt32.ofNat),
      .of "y" Draft.y (fun d v ↦ { d with y := v }) false
        ((Json.Decoder.natural 32).map UInt32.ofNat)]
  closed := false
  blank := {}
  finish d := do
    let layer ← Json.required "layer" d.layer
    let z ← Json.required "z" d.z
    let x ← Json.required "x" d.x
    let y ← Json.required "y" d.y
    return { layer, z, x, y }

def decoder : Json.Decoder TileRequest :=
  shape.decoder

end TileRequest

end TileFetch
