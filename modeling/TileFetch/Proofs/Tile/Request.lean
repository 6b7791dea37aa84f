import TileFetch.Proofs.Tile.Layer
import TileFetch.Tile.Request

/-!
# What requests say

Since a layer name has no slash, the text of a request tells its parts: `TileRequest.splitOn_chars`.
-/

namespace TileFetch

open Json (Decoder IsDocument)

theorem isDigit_of_mem_decimal {n : Nat} {c : Char} (h : c ∈ decimal n) : c.isDigit = true :=
  Json.isDigit_of_mem_toDigits h

theorem decimal_injective : Function.Injective decimal :=
  Function.LeftInverse.injective (g := fun digits ↦ Nat.ofDigitChars 10 digits 0)
    fun _ ↦ Nat.ofDigitChars_ten_toDigits

namespace TileRequest

theorem slash_notMem_decimal (n : Nat) : '/' ∉ decimal n :=
  fun hmem ↦ absurd (isDigit_of_mem_decimal hmem) (by decide)

def parts (r : TileRequest) : List (List Char) :=
  [r.layer.text.toList, decimal r.z.toNat, decimal r.x.toNat, decimal r.y.toNat]

theorem chars_eq_intercalate (r : TileRequest) : r.chars = ['/'].intercalate r.parts := by
  simp [chars, parts, List.intercalate]

theorem splitOn_chars (r : TileRequest) : r.chars.splitOn '/' = r.parts := by
  rw [chars_eq_intercalate, List.splitOn_intercalate]
  · intro part hpart
    simp only [parts, List.mem_cons, List.not_mem_nil, or_false] at hpart
    rcases hpart with rfl | rfl | rfl | rfl
    · exact fun hslash ↦ r.layer.not_delimiter hslash (by decide)
    all_goals exact slash_notMem_decimal _
  · simp [parts]

theorem text_injective : Function.Injective text := by
  intro r r' h
  have hparts : r.parts = r'.parts := by
    rw [← splitOn_chars, ← splitOn_chars, String.ofList_injective h]
  simp only [parts, List.cons.injEq, String.toList_inj, decimal_injective.eq_iff, UInt8.toNat_inj,
    UInt32.toNat_inj, and_true] at hparts
  obtain ⟨⟨text, _⟩, z, x, y⟩ := r
  obtain ⟨⟨text', _⟩, z', x', y'⟩ := r'
  obtain ⟨rfl, rfl, rfl, rfl⟩ := hparts
  rfl

theorem takes_json {depth : Nat} (r : TileRequest) (hdepth : 1 < depth) :
    decoder.Takes depth r.json.tree r := by
  have hbyte (n : UInt8) : ((Decoder.natural 8).map UInt8.ofNat).Takes (depth - 1)
      (Json.nat n.toNat).tree n := by
    simpa using (Decoder.takes_natural (by decide) n.toNat_lt).map UInt8.ofNat
  have hword (n : UInt32) : ((Decoder.natural 32).map UInt32.ofNat).Takes (depth - 1)
      (Json.nat n.toNat).tree n := by
    simpa using (Decoder.takes_natural (by decide) n.toNat_lt).map UInt32.ofNat
  refine Json.Shape.takes_written ⟨some r.layer, some r.z, some r.x, some r.y⟩ rfl hdepth ?_ rfl
  exact .field rfl rfl (r.layer.takes_json.map _) <| .field rfl rfl ((hbyte r.z).map _) <|
    .field rfl rfl ((hword r.x).map _) <| .field rfl rfl ((hword r.y).map _) .nil

end TileRequest

/-- All roads to a layer name accept the same texts, hold them unchanged, and refuse the others
for the same reason, also if the text stands in a document.  Requests with the same text are
equal. -/
theorem LayerName.roads_agree :
    (∀ s : String,
      (parse s = ofString s ∧ convert s = ofString s ∧
        decoder.ofJson (.string s) =
          (ofString s).mapError (fun fault ↦ { cause := .refused fault.message }) ∧
        decoder.parseString (Json.string s).text =
          (ofString s).mapError (fun fault ↦ { cause := .refused fault.message }) ∧
        ∀ tree bytes, IsDocument tree bytes → tree.IsString s → decoder.parse bytes =
          (ofString s).mapError fun fault ↦ { cause := .refused fault.message }) ∧
      ((∃ layer, ofString s = .ok layer) ↔
        1 ≤ s.utf8ByteSize ∧ s.utf8ByteSize ≤ 128 ∧ ¬ HasForbidden s) ∧
      (∀ layer, ofString s = .ok layer → layer.text = s) ∧
      (ofString s = .error .empty ↔ s = "") ∧
      (ofString s = .error .badCharacter ↔ HasForbidden s) ∧
      ∀ limit, ofString s = .error (.tooLong limit) ↔
        limit = 128 ∧ 128 < s.utf8ByteSize ∧ ¬ HasForbidden s) ∧
    ∀ r r' : TileRequest, r.text = r'.text → r = r' := by
  refine ⟨fun s ↦ ⟨⟨rfl, convert_eq_ofString s, ofJson_decoder s, ?_, fun _ _ ↦ parse_decoder⟩, ?_,
    fun _ ↦ ofString_eq_ok_iff.mp, ?_, ?_, fun limit ↦ ?_⟩, fun _ _ h ↦ TileRequest.text_injective h⟩
  · exact parse_decoder (Json.isDocument_text _) (Json.isString_tree s)
  · exact exists_ofString_eq_ok_iff.trans layerFault?_eq_none_iff
  · exact ofString_eq_error_iff.trans layerFault?_eq_empty_iff
  · exact ofString_eq_error_iff.trans layerFault?_eq_badCharacter_iff
  · exact ofString_eq_error_iff.trans layerFault?_eq_tooLong_iff

end TileFetch
