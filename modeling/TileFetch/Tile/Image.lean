import TileFetch.Text.Shown
import TileFetch.Text.Utf8

/-!
# Images

The bytes of a tile as they came, with the media type if it is known.
-/

namespace TileFetch

structure Image where
  bytes : List UInt8
  contentType : Option String := none
  deriving DecidableEq

namespace Image

def ofString (s : String) (contentType : Option String) : Image :=
  ⟨Text.Utf8.bytes s, contentType⟩

def size (i : Image) : Nat :=
  i.bytes.length

def shown (i : Image) : String :=
  Text.shownRecord "Image"
    [("len", toString i.size),
      ("content_type", Text.shownOption (i.contentType.map Text.quoted))]

end Image

end TileFetch
