import TileFetch.Auth.Context
import TileFetch.Proofs.Tile.Request
import TileFetch.Proofs.Time.Parts

/-!
# Contexts in documents

What is written of a context is read as the context, whatever its texts are and whenever it
expires.
-/

namespace TileFetch.Auth.Context

open Json (Decoder)

variable {depth : Nat}

theorem takes_instantOrNull (t? : Option Time.Instant) (hdepth : 1 < depth) :
    Time.Instant.decoder.option.Takes depth ((t?.map Time.Instant.json).getD .null).tree t? := by
  cases t? with
  | none => exact Decoder.takes_option_none
  | some t => exact (t.takes_json hdepth).option Json.Tree.noConfusion

theorem takes_json (c : Context) (hdepth : 2 < depth) : decoder.Takes depth c.json.tree c := by
  have hinner : 1 < depth - 1 := by omega
  refine Json.Shape.takes_written
    ⟨some c.bypass, some c.token, some c.expiresAt, some c.values⟩ rfl (by omega) ?_ rfl
  exact .field rfl rfl ((Decoder.takes_bool c.bypass).map _) <|
    .field rfl rfl ((Decoder.takes_stringOrNull c.token).map _) <|
    .field rfl rfl ((takes_instantOrNull c.expiresAt hinner).map _) <|
    .field rfl rfl ((Decoder.takes_texts c.values hinner).map _) .nil

/-- What is written of a context or of a request is read as the same context or request.  The
instant of a context is written as its local date and time and its offset. -/
theorem written_context_read_back :
    (∀ c : Context, decoder.parseString c.json.text = .ok c ∧
      ∀ t, c.expiresAt = some t → ∃ numbers, t.IsSplit numbers ∧
        c.json.member? "expires_at" = some (.array (numbers.map Json.int))) ∧
      ∀ r : TileRequest, TileRequest.decoder.parseString r.json.text = .ok r := by
  refine ⟨fun c ↦ ⟨(c.takes_json (by decide)).parse (Json.isDocument_text _), fun t ht ↦ ?_⟩,
    fun r ↦ (r.takes_json (by decide)).parse (Json.isDocument_text _)⟩
  refine ⟨t.parts, t.isSplit_parts, ?_⟩
  rw [json, ht]
  rfl

end TileFetch.Auth.Context
