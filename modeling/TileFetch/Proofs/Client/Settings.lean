import TileFetch.Client.Settings
import TileFetch.Proofs.Json.Taken
import TileFetch.Proofs.Json.Yielded

/-!
# Settings in documents

What is written of settings is read as the settings with a timeout of whole milliseconds that fit
64 bits.  All settings that were read have such a timeout, so that they are read again as they
are.
-/

namespace TileFetch.Client.Settings

open Json (Decoder)

variable {s : Settings} {depth n : Nat}

def writtenTimeout (n : Nat) : Nat :=
  min (n / 1000000) 18446744073709551615 * 1000000

theorem writtenTimeout_millis (h : n < 2 ^ 64) :
    writtenTimeout (n * 1000000) = n * 1000000 := by
  unfold writtenTimeout
  omega

theorem takes_policy (policy : HeaderPolicy) :
    HeaderPolicy.decoder.Takes depth (Json.string policy.name).tree policy :=
  Decoder.takes_variant (by cases policy <;> rfl)

theorem takes_json (s : Settings) (hdepth : 2 < depth) :
    decoder.Takes depth s.json.tree { s with timeout := writtenTimeout s.timeout } := by
  have hinner : 1 < depth - 1 := by omega
  have hmillis : min s.timeoutMillis maxMillis < 2 ^ 64 := by
    unfold maxMillis
    omega
  refine Json.Shape.takes_written ⟨some (writtenTimeout s.timeout), some s.userAgent,
    some s.headers, some s.headerPolicy⟩ rfl (by omega) ?_ rfl
  exact .field rfl rfl (((Decoder.takes_natural (by decide) hmillis).map _).map _) <|
    .field rfl rfl ((Decoder.takes_string s.userAgent).map _) <|
    .field rfl rfl ((Decoder.takes_texts s.headers hinner).map _) <|
    .field rfl rfl ((takes_policy s.headerPolicy).map _) .nil

theorem parse_json (s : Settings) : decoder.parseString s.json.text =
    .ok { s with timeout := writtenTimeout s.timeout } :=
  (s.takes_json (by decide)).parse (Json.isDocument_text _)

theorem yields_decoder : decoder.Yields fun s ↦ writtenTimeout s.timeout = s.timeout := by
  have hothers {α : Type} (d : Decoder α) : d.Yields fun _ ↦ True := .of_forall fun _ ↦ trivial
  refine Json.Shape.yields (I := fun draft ↦ ∀ n ∈ draft.timeout, writtenTimeout n = n) ?_ ?_ ?_
  · intro field hfield
    simp only [shape, List.mem_cons, List.not_mem_nil, or_false] at hfield
    rcases hfield with rfl | rfl | rfl | rfl
    · have htimeout : ((Decoder.natural 64).map (· * 1000000)).Yields
          fun n ↦ writtenTimeout n = n := Decoder.yields_natural.map fun _ ↦ writtenTimeout_millis
      exact htimeout.map fun n hn draft _ ↦ by simpa using hn
    all_goals exact (hothers _).map fun _ _ _ hdraft ↦ hdraft
  · simp [shape]
  · intro draft s hdraft hfinish
    rw [← Except.ok.inj hfinish]
    change writtenTimeout (draft.timeout.getD default.timeout) = draft.timeout.getD default.timeout
    cases htimeout : draft.timeout with
    | none => exact writtenTimeout_millis (n := 30000) (by decide)
    | some n => exact hdraft n htimeout

/-- What is written of settings is read as the settings, but for what the timeout has beyond whole
milliseconds of 64 bits; settings that were read are read as they are, and the text is the same
when they are written again. -/
theorem written_settings_read_back :
    (∀ s : Settings, decoder.parseString s.json.text =
        .ok { s with timeout := min (s.timeout / 1000000) 18446744073709551615 * 1000000 }) ∧
      (∀ s : Settings, ((∃ bytes, decoder.parse bytes = .ok s) ∨ ∃ j, decoder.ofJson j = .ok s) →
        decoder.parseString s.json.text = .ok s) ∧
      ∀ s s' : Settings, decoder.parseString s.json.text = .ok s' → s'.json.text = s.json.text := by
  refine ⟨parse_json, fun s hread ↦ ?_, fun s s' hread ↦ ?_⟩
  · have hexact : writtenTimeout s.timeout = s.timeout := by
      rcases hread with ⟨bytes, h⟩ | ⟨j, h⟩
      · exact yields_decoder.parse h
      · exact yields_decoder.ofJson h
    rw [parse_json, hexact]
  · rw [parse_json] at hread
    obtain rfl := Except.ok.inj hread
    have hmillis : min (writtenTimeout s.timeout / 1000000) maxMillis =
        min (s.timeout / 1000000) maxMillis := by
      unfold writtenTimeout maxMillis
      omega
    simp only [json, timeoutMillis, hmillis]

end TileFetch.Client.Settings
