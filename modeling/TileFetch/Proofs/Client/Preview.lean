import TileFetch.Client.Fault
import TileFetch.Proofs.Text.Lossy

/-!
# What is kept of a body

Of the body of an answer the first 256 characters are kept, and an ellipsis if there are more.
They lie in the first 1024 bytes, so that longer bodies which agree there are kept as the same text.
-/

namespace TileFetch.Client

open Text.Utf8 (decodeLossy pieces replacement Replaces)

variable {bytes bytes' : List UInt8} {limit : Nat} {cs cs' : List Char}

theorem length_shorten_le : (shorten limit cs).length ≤ limit + 1 := by
  unfold shorten
  split_ifs with h
  · omega
  · simp

theorem shorten_congr (h : limit < cs.length) (h' : limit < cs'.length)
    (htake : cs.take limit = cs'.take limit) : shorten limit cs = shorten limit cs' := by
  rw [shorten, if_neg (by omega), shorten, if_neg (by omega), htake]

theorem preview_some (h : bytes ≠ []) :
    preview (some bytes) = some (String.ofList (shorten previewLimit (decodeLossy bytes))) := by
  obtain ⟨b, rest, rfl⟩ := List.exists_cons_of_ne_nil h
  rfl

/-- A character that is cut short is one bad run. -/
example : preview (some [0xE2, 0x82, 0x41]) = some (String.ofList [Char.ofNat 0xFFFD, 'A']) := by
  cbv

theorem lt_length_decodeLossy (h : 4 * limit < bytes.length) :
    limit < (decodeLossy bytes).length := by
  have hlength := Text.Utf8.length_le_pieces bytes
  rw [decodeLossy, List.length_map]
  omega

theorem take_decodeLossy_congr (h : bytes.take (4 * limit) = bytes'.take (4 * limit)) :
    (decodeLossy bytes).take limit = (decodeLossy bytes').take limit := by
  simp only [decodeLossy, ← List.map_take, Text.Utf8.take_pieces_congr h]

/-- Long bodies with the same beginning are kept as the same text. -/
theorem preview_congr (h : 4 * previewLimit < bytes.length) (h' : 4 * previewLimit < bytes'.length)
    (htake : bytes.take (4 * previewLimit) = bytes'.take (4 * previewLimit)) :
    preview (some bytes) = preview (some bytes') := by
  have hne : ∀ {bytes : List UInt8}, 4 * previewLimit < bytes.length → bytes ≠ [] := by
    rintro _ hlength rfl
    simp at hlength
  rw [preview_some (hne h), preview_some (hne h'),
    shorten_congr (lt_length_decodeLossy h) (lt_length_decodeLossy h')
      (take_decodeLossy_congr htake)]

/-- A failure keeps nothing of a body that is absent or empty.  Of any other it keeps the text in
which bad runs are replaced, or its first 256 characters and an ellipsis. -/
theorem preview_of_body (code : Nat) (url : String) :
    (∀ body, ∃ kept, Fault.ofStatus code url body = .status code url kept ∧
      (kept = none ↔ body = none ∨ body = some []) ∧
      ∀ bytes, body = some bytes → bytes ≠ [] → ∃ d text, (∀ d', Replaces bytes d' ↔ d' = d) ∧
        kept = some text ∧
        text.toList = (if d.length ≤ 256 then d else d.take 256 ++ [Char.ofNat 0x2026]) ∧
        text.length ≤ 257) ∧
      ∀ bytes bytes' : List UInt8, 1024 < bytes.length → 1024 < bytes'.length →
        bytes.take 1024 = bytes'.take 1024 →
          Fault.ofStatus code url (some bytes) = Fault.ofStatus code url (some bytes') := by
  refine ⟨fun body ↦ ⟨preview body, rfl, ?_, ?_⟩, fun bytes bytes' h h' htake ↦ ?_⟩
  · rcases body with _ | _ | ⟨b, bytes⟩ <;> simp [preview]
  · rintro bytes rfl hne
    refine ⟨decodeLossy bytes, _, fun d ↦ ?_, preview_some hne, ?_, ?_⟩
    · rw [← Text.Utf8.decodeLossy_eq_iff, eq_comm]
    · rw [String.toList_ofList]
      rfl
    · rw [String.length_ofList]
      exact length_shorten_le
  · exact congrArg (Fault.status code url) (preview_congr h h' htake)

end TileFetch.Client
