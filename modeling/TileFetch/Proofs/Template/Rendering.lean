import TileFetch.Proofs.Template.Expansion
import TileFetch.Template.UrlTemplate

/-!
# Templates that are taken apart, and templates that are expanded

A URL template is taken apart once, and a request fills its gaps.  The outcome is the same as
if the text of the template were expanded for each request: `fill_ofRaw`.
-/

namespace TileFetch.UrlTemplate

open Template (Expands IsName expand expands_expand)

def gapValue? (z x y layerName name : List Char) : Option (List Char) :=
  [(['z'], z), (['x'], x), (['y'], y), (['l', 'a', 'y', 'e', 'r'], layerName)].lookup name

/-- The values for a request: the digits of its numbers, and the name of its layer. -/
def valueOf? (r : TileRequest) : List Char → Option (List Char) :=
  gapValue? (decimal r.z.toNat) (decimal r.x.toNat) (decimal r.y.toNat) r.layer.text.toList

def plainName : List Char :=
  ['l', 'a', 'y', 'e', 'r']

def probeValue? : List Char → Option (List Char) :=
  gapValue? (decimal 0) (decimal 0) (decimal 0) plainName

variable {z x y layerName : List Char}

theorem gapValue?_eq (name : List Char) :
    gapValue? z x y layerName name = (Segment.ofName? name).map (Segment.fill z x y layerName) := by
  by_cases hz : name = ['z']
  · rw [hz]
    rfl
  by_cases hx : name = ['x']
  · rw [hx]
    rfl
  by_cases hy : name = ['y']
  · rw [hy]
    rfl
  by_cases hlayer : name = ['l', 'a', 'y', 'e', 'r']
  · rw [hlayer]
    rfl
  · simp [gapValue?, List.lookup, Segment.ofName?, hz, hx, hy, hlayer,
      beq_eq_false_iff_ne.mpr]

def gapNames : List (List Char) :=
  [['z'], ['x'], ['y'], plainName]

theorem mem_gapNames {name : List Char} (h : gapValue? z x y layerName name ≠ none) :
    name ∈ gapNames := by
  by_contra hmem
  simp only [gapNames, plainName, List.mem_cons, List.not_mem_nil, or_false, not_or] at hmem
  obtain ⟨hz, hx, hy, hlayer⟩ := hmem
  exact h (by simp [gapValue?_eq, Segment.ofName?, hz, hx, hy, hlayer])

theorem flatMap_prepend (text : List Char) (segments : List Segment) :
    (prepend text segments).flatMap (Segment.fill z x y layerName) =
      text ++ segments.flatMap (Segment.fill z x y layerName) := by
  unfold prepend
  split
  · simp [Segment.fill]
  · split
    · simp_all
    · rfl

theorem flatMap_segmentsOf (pieces : List Template.Piece) :
    (segmentsOf pieces).flatMap (Segment.fill z x y layerName) = pieces.flatMap fun
      | .text t => t
      | .placeholder name =>
          (gapValue? z x y layerName name).getD (Template.Piece.placeholder name).source := by
  induction pieces with
  | nil => rfl
  | cons piece pieces ih =>
      cases piece with
      | text t =>
          rw [segmentsOf, flatMap_prepend, ih]
          rfl
      | placeholder name =>
          rw [segmentsOf, List.flatMap_cons, ← ih]
          cases hname : Segment.ofName? name with
          | some segment => simp [gapValue?_eq, hname]
          | none => simp [gapValue?_eq, hname, flatMap_prepend]

theorem fill_ofRaw (raw : String) (z x y layerName : List Char) :
    (ofRaw raw).fill z x y layerName = expand (gapValue? z x y layerName) raw.toList :=
  flatMap_segmentsOf _

theorem probe_ofRaw (raw : String) : (ofRaw raw).probe = expand probeValue? raw.toList :=
  fill_ofRaw ..

theorem renderChars_ofRaw (raw : String) (r : TileRequest) :
    (ofRaw raw).renderChars r = expand (valueOf? r) raw.toList :=
  fill_ofRaw ..

theorem parse_eq_ok_iff {raw : String} {t : UrlTemplate} :
    parse raw = .ok t ↔ t = ofRaw raw ∧ ∃ u, Url.ofChars (ofRaw raw).probe = .ok u := by
  cases h : Url.ofChars (ofRaw raw).probe with
  | ok u => simp [parse, h, eq_comm]
  | error cause => simp [parse, h]

theorem parse_eq_error_iff {raw : String} {fault : TemplateFault} :
    parse raw = .error fault ↔
      fault.template = raw ∧ Url.ofChars (ofRaw raw).probe = .error fault.cause := by
  obtain ⟨template, cause⟩ := fault
  cases h : Url.ofChars (ofRaw raw).probe with
  | ok u => simp [parse, h]
  | error cause' => simp [parse, h, eq_comm]

/-- A text is a template exactly if it is the text of a URL once it is expanded for the tile
that stands for all tiles; the fault of any other text carries it unchanged.  The address of a
tile is the expanded text: placeholders of other names, empty ones and single braces stay where
they are. -/
theorem parsed_renders_as_expanded (raw : String) :
    let probe := String.ofList (expand probeValue? raw.toList)
    ((∃ t, parse raw = .ok t) ↔ ∃ u, Url.parse probe = .ok u) ∧
      (∀ fault, parse raw = .error fault →
        fault.template = raw ∧ Url.parse probe = .error fault.cause) ∧
      ∀ t, parse raw = .ok t → t.raw = raw ∧ ∀ r : TileRequest,
        t.render r = String.ofList (expand (valueOf? r) raw.toList) ∧
          Expands (valueOf? r) raw.toList (t.render r).toList := by
  intro probe
  have hprobe : Url.parse probe = Url.ofChars (ofRaw raw).probe := by
    rw [probe_ofRaw, Url.parse, String.toList_ofList]
  rw [hprobe]
  refine ⟨?_, fun fault hfault ↦ parse_eq_error_iff.mp hfault, ?_⟩
  · simp [parse_eq_ok_iff]
  · intro t ht
    obtain ⟨rfl, -⟩ := parse_eq_ok_iff.mp ht
    refine ⟨rfl, fun r ↦ ?_⟩
    have hrender : (ofRaw raw).render r = String.ofList (expand (valueOf? r) raw.toList) := by
      rw [render, renderChars_ofRaw]
    rw [hrender, String.toList_ofList]
    exact ⟨rfl, expands_expand _ _⟩

example : (ofRaw "{q}/{z/{x}}?s={}&l=\x7blayer").renderChars ⟨⟨"sat", by decide⟩, 3, 5, 1⟩ =
    "{q}/{z/5}?s={}&l=\x7blayer".toList := by
  cbv

end TileFetch.UrlTemplate
