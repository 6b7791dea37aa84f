import TileFetch.Proofs.Json.Taken
import TileFetch.Tile.Layer

/-!
# What layer names are

A text is a layer name if it is neither empty nor too long and has no character that a name may
not hold.  A document that is a text is accepted or refused as the text is:
`LayerName.parse_decoder`.
-/

namespace TileFetch

open Json (Decoder IsDocument Tree)

variable {s : String} {c : Char}

theorem Text.Utf8.width_toList (s : String) : width s.toList = s.utf8ByteSize := by
  rw [width_eq, String.utf8Len_toList]

/-! ## Faults of names -/

def IsWhiteSpace (n : Nat) : Prop :=
  (0x09 ≤ n ∧ n ≤ 0x0D) ∨ (0x2000 ≤ n ∧ n ≤ 0x200A) ∨
    n ∈ [0x20, 0x85, 0xA0, 0x1680, 0x2028, 0x2029, 0x202F, 0x205F, 0x3000]

def IsControl (n : Nat) : Prop :=
  n < 0x20 ∨ (0x7F ≤ n ∧ n ≤ 0x9F)

def IsForbidden (c : Char) : Prop :=
  IsWhiteSpace c.toNat ∨ IsControl c.toNat ∨
    c ∈ ['/', '\\', '?', '#', '%', '&', '=', '\x7b', '\x7d']

def HasForbidden (s : String) : Prop :=
  ∃ c ∈ s.toList, IsForbidden c

theorem isBlank_iff : Text.isBlank c = true ↔ IsWhiteSpace c.toNat := by
  simp only [Text.isBlank, IsWhiteSpace, Bool.or_eq_true, Bool.and_eq_true, decide_eq_true_eq,
    List.mem_cons, List.not_mem_nil, or_false]
  omega

theorem isControl_iff : Text.isControl c = true ↔ IsControl c.toNat := by
  simp [Text.isControl, IsControl]

theorem isLayerChar_eq_false_iff : isLayerChar c = false ↔ IsForbidden c := by
  rw [isLayerChar, Bool.not_eq_false', Bool.or_eq_true, Bool.or_eq_true, List.contains_iff_mem,
    isBlank_iff, isControl_iff, or_assoc]
  rfl

theorem hasForbidden_iff : HasForbidden s ↔ s.toList.all isLayerChar = false := by
  simp [HasForbidden, List.all_eq_false, isLayerChar_eq_false_iff]

theorem layerFault?_cases (s : String) :
    (s = "" ∧ layerFault? s = some .empty) ∨
      (HasForbidden s ∧ layerFault? s = some .badCharacter) ∨
      (¬ HasForbidden s ∧ layerNameLimit < s.utf8ByteSize ∧
        layerFault? s = some (.tooLong layerNameLimit)) ∨
      (¬ HasForbidden s ∧ 1 ≤ s.utf8ByteSize ∧ s.utf8ByteSize ≤ layerNameLimit ∧
        layerFault? s = none) := by
  have hsize : 1 ≤ s.utf8ByteSize ↔ s ≠ "" := by
    rw [Nat.one_le_iff_ne_zero, ne_eq, ne_eq, String.utf8ByteSize_eq_zero_iff]
  rw [hasForbidden_iff, hsize]
  unfold layerFault?
  rw [Text.Utf8.width_toList]
  split_ifs with hempty hforbidden hlong
  · exact .inl ⟨by simpa using hempty, rfl⟩
  · exact .inr (.inl ⟨by simpa using hforbidden, rfl⟩)
  · exact .inr (.inr (.inl ⟨by simpa using hforbidden, hlong, rfl⟩))
  · exact .inr (.inr (.inr ⟨by simpa using hforbidden, by simpa using hempty, by omega, rfl⟩))

theorem HasForbidden.ne_empty (h : HasForbidden s) : s ≠ "" := by
  rintro rfl
  simp [HasForbidden] at h

theorem layerFault?_eq_none_iff : layerFault? s = none ↔
    1 ≤ s.utf8ByteSize ∧ s.utf8ByteSize ≤ layerNameLimit ∧ ¬ HasForbidden s := by
  rcases layerFault?_cases s with ⟨rfl, h⟩ | ⟨hbad, h⟩ | ⟨-, hlong, h⟩ | ⟨hgood, hone, hlimit, h⟩
  · simp [h]
  · simp [h, hbad]
  · simp [h, Nat.not_le.mpr hlong]
  · simp [h, hgood, hone, hlimit]

theorem layerFault?_eq_empty_iff : layerFault? s = some .empty ↔ s = "" := by
  rcases layerFault?_cases s with ⟨rfl, h⟩ | ⟨hbad, h⟩ | ⟨-, hlong, h⟩ | ⟨-, hone, -, h⟩
  · simp [h]
  · simp [h, hbad.ne_empty]
  · have hne : s ≠ "" := by
      rintro rfl
      simp at hlong
    simp [h, hne]
  · have hne : s ≠ "" := by
      rintro rfl
      simp at hone
    simp [h, hne]

theorem layerFault?_eq_badCharacter_iff :
    layerFault? s = some .badCharacter ↔ HasForbidden s := by
  rcases layerFault?_cases s with ⟨rfl, h⟩ | ⟨hbad, h⟩ | ⟨hgood, -, h⟩ | ⟨hgood, -, -, h⟩
  · simpa [h] using fun hbad : HasForbidden "" ↦ hbad.ne_empty rfl
  · simp [h, hbad]
  · simp [h, hgood]
  · simp [h, hgood]

theorem layerFault?_eq_tooLong_iff {limit : Nat} : layerFault? s = some (.tooLong limit) ↔
    limit = layerNameLimit ∧ layerNameLimit < s.utf8ByteSize ∧ ¬ HasForbidden s := by
  rcases layerFault?_cases s with ⟨rfl, h⟩ | ⟨hbad, h⟩ | ⟨hgood, hlong, h⟩ | ⟨-, -, hlimit, h⟩
  · simp [h]
  · simp [h, hbad]
  · simp [h, hgood, hlong, eq_comm]
  · simp [h, Nat.not_lt.mpr hlimit]

namespace LayerName

variable {layer : LayerName} {fault : LayerFault}

theorem ofString_eq_ok_iff : ofString s = .ok layer ↔ layer.text = s := by
  unfold ofString
  constructor
  · intro h
    split at h
    · simp at h
    · rw [← Except.ok.inj h]
  · rintro rfl
    split
    · rename_i h
      simp [layer.valid] at h
    · rfl

theorem ofString_text (layer : LayerName) : ofString layer.text = .ok layer :=
  ofString_eq_ok_iff.mpr rfl

theorem ofString_eq_error_iff : ofString s = .error fault ↔ layerFault? s = some fault := by
  unfold ofString
  split <;> simp_all

/-- A text is converted as it is made a name. -/
@[simp] theorem convert_eq_ofString (s : String) : convert s = ofString s := by
  unfold convert validate ofString
  split <;> rfl

theorem exists_ofString_eq_ok_iff : (∃ layer, ofString s = .ok layer) ↔ layerFault? s = none := by
  constructor
  · rintro ⟨layer, h⟩
    rw [← ofString_eq_ok_iff.mp h]
    exact layer.valid
  · intro h
    exact ⟨⟨s, h⟩, ofString_text ⟨s, h⟩⟩

theorem not_hasForbidden (layer : LayerName) : ¬ HasForbidden layer.text :=
  (layerFault?_eq_none_iff.mp layer.valid).2.2

theorem not_delimiter (layer : LayerName) (hc : c ∈ layer.text.toList) : c ∉ layerDelimiters :=
  fun hdelimiter ↦ layer.not_hasForbidden ⟨c, hc, .inr (.inr hdelimiter)⟩

/-! ## Names in documents -/

theorem takes_json {depth : Nat} (layer : LayerName) :
    decoder.Takes depth layer.json.tree layer := by
  refine (Decoder.takes_string layer.text).check ?_
  rw [convert_eq_ofString, ofString_text]
  rfl

theorem parse_decoder {tree : Tree} {bytes : List UInt8} (hdocument : IsDocument tree bytes)
    (hstring : tree.IsString s) : decoder.parse bytes =
      (ofString s).mapError fun fault ↦ { cause := .refused fault.message } := by
  refine ((Decoder.reflects_string.takes hstring).parse_check hdocument).trans ?_
  rw [convert_eq_ofString]
  cases ofString s <;> rfl

theorem ofJson_decoder (s : String) : decoder.ofJson (.string s) =
    (ofString s).mapError fun fault ↦ { cause := .refused fault.message } := by
  refine (Decoder.ofJson_check (d := .string) rfl).trans ?_
  rw [convert_eq_ofString]
  cases ofString s <;> rfl

end LayerName

end TileFetch
