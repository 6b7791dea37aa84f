import TileFetch.Proofs.Template.Rendering
import TileFetch.Proofs.Tile.Request
import TileFetch.Proofs.Url.Percent
import TileFetch.Proofs.Url.Segments

/-!
# The layer as a segment of the path

The gap of the layer may be a whole segment of the path of a template.  A layer name has none of
the characters that end a segment, so whatever it is, it stays one segment and moves none of the
others, with two exceptions: as segments of a path the names `.` and `..` stand for other segments.
-/

namespace TileFetch

namespace LayerName

variable (layer : LayerName) {c : Char}

theorem not_isMargin (hc : c ∈ layer.text.toList) : Url.isMargin c = false := by
  rw [Bool.eq_false_iff]
  intro hmargin
  have hle : c.toNat ≤ 0x20 := by simpa [Url.isMargin] using hmargin
  refine layer.not_hasForbidden ⟨c, hc, ?_⟩
  rcases Nat.lt_or_eq_of_le hle with hlt | heq
  · exact .inr (.inl (.inl hlt))
  · exact .inl (.inr (.inr (by simp [heq])))

theorem isSegment : Url.IsSegment layer.text.toList := by
  intro c hc
  have hdelimiter := layer.not_delimiter hc
  simp only [layerDelimiters, List.mem_cons, not_or] at hdelimiter
  obtain ⟨hslash, hbackslash, hquery, hfragment, -⟩ := hdelimiter
  refine ⟨?_, ?_, layer.not_isMargin hc⟩
  · simp [Url.isSlash, hslash, hbackslash]
  · simp [Url.isPathEnd, hquery, hfragment]

theorem not_dotSegment (hdot : layer.text ≠ ".") (hdots : layer.text ≠ "..") :
    Url.isDotSegment layer.text.toList = false := by
  have hpercent : '%' ∉ layer.text.toList.map Text.lowerAscii := by
    intro hmem
    obtain ⟨c, hc, hlower⟩ := List.mem_map.mp hmem
    obtain rfl := (Url.lowerAscii_eq_iff rfl).mp hlower
    exact layer.not_delimiter hc (by decide)
  have hone : layer.text.toList ≠ ['.'] := fun h ↦ hdot (String.toList_inj.mp h)
  have htwo : layer.text.toList.map Text.lowerAscii ≠ ['.', '.'] := by
    intro h
    obtain ⟨c, d, heq⟩ : ∃ c d, layer.text.toList = [c, d] := by
      apply List.length_eq_two.mp
      simpa using congrArg List.length h
    obtain ⟨hc, hd⟩ : Text.lowerAscii c = '.' ∧ Text.lowerAscii d = '.' := by simpa [heq] using h
    obtain rfl := (Url.lowerAscii_eq_iff rfl).mp hc
    obtain rfl := (Url.lowerAscii_eq_iff rfl).mp hd
    exact hdots (String.toList_inj.mp heq)
  have hescaped : ∀ cs, '%' ∈ cs → layer.text.toList.map Text.lowerAscii ≠ cs :=
    fun cs hcs heq ↦ hpercent (heq ▸ hcs)
  simp [Url.isDotSegment, Url.isSingleDot, Url.isDoubleDot, hone, htwo, hescaped]

end LayerName

namespace UrlTemplate

open Template (Piece Expands IsName expand expands_expand expands_iff expand_cons_of_ne)
open Url (HasAuthority isSlash isIgnored isPathEnd isAuthorityEnd)

/-! ## Texts without the gap of the layer -/

theorem isName_plainName : IsName plainName := by
  refine ⟨List.cons_ne_nil _ _, ?_⟩
  simp [plainName, Template.isBrace, Template.openBrace, Template.closeBrace]

def layerGap : List Char :=
  (Piece.placeholder plainName).source

/-- The values for the numbers of a tile.  The one for the layer is a number as well, for texts
in which it does not matter. -/
def numberValue? (z x y : Nat) : List Char → Option (List Char) :=
  gapValue? (decimal z) (decimal x) (decimal y) (decimal 0)

variable {z x y : Nat} {layerName cs left right after : List Char}

theorem exists_decimal {name value : List Char} (h : numberValue? z x y name = some value) :
    ∃ n, value = decimal n := by
  obtain ⟨before, after, hvalues, -⟩ := List.lookup_eq_some_iff.mp h
  have hmem : (name, value) ∈ before ++ (name, value) :: after := by simp
  rw [← hvalues] at hmem
  simp only [List.mem_cons, Prod.mk.injEq, List.not_mem_nil, or_false] at hmem
  rcases hmem with ⟨-, rfl⟩ | ⟨-, rfl⟩ | ⟨-, rfl⟩ | ⟨-, rfl⟩ <;> exact ⟨_, rfl⟩

theorem isMargin_of_isDigit {c : Char} (hc : c.isDigit = true) : Url.isMargin c = false := by
  have hrange := Json.isDigit_bounds hc
  simp only [Url.isMargin, decide_eq_false_iff_not]
  omega

theorem isLetter_of_isDigit {c : Char} (hc : c.isDigit = true) : Url.isLetter c = false := by
  have hrange := Json.isDigit_bounds hc
  have hsmall : ¬ 'a' ≤ c := fun hle ↦ by
    have h97 : 97 ≤ c.toNat := hle
    omega
  have hcapital : ¬ 'A' ≤ c := fun hle ↦ by
    have h65 : 65 ≤ c.toNat := hle
    omega
  simp [Url.isLetter, hsmall, hcapital]

theorem ne_of_isDigit {c d : Char} (hc : c.isDigit = true) (hd : d.isDigit = false) : c ≠ d := by
  rintro rfl
  exact Bool.false_ne_true (hd.symm.trans hc)

theorem exists_mem_decimal {p : Char → Prop} (h : ∀ c, c.isDigit = true → p c) (n : Nat) :
    ∃ c ∈ decimal n, p c := by
  have hne : decimal n ≠ [] := Nat.toDigits_ne_nil
  obtain ⟨c, hc⟩ := List.exists_mem_of_ne_nil _ hne
  exact ⟨c, hc, h c (isDigit_of_mem_decimal hc)⟩

/-- Without the gap of the layer its name does not matter. -/
theorem expands_of_no_layer (h : ¬ layerGap <:+: cs) (z x y : Nat) (layerName : List Char) :
    Expands (gapValue? (decimal z) (decimal x) (decimal y) layerName) cs
      (expand (numberValue? z x y) cs) := by
  refine (expands_expand (numberValue? z x y) cs).congr fun name hname ↦ ?_
  have hne : name ≠ ['l', 'a', 'y', 'e', 'r'] := by
    rintro rfl
    exact h hname
  simp only [numberValue?, gapValue?_eq, Segment.ofName?, hne, if_false]
  split_ifs <;> rfl

/-- A character of the expanded text is a character of the template or a digit. -/
theorem mem_expand_numbers {c : Char} (h : c ∈ expand (numberValue? z x y) cs) :
    c ∈ cs ∨ c.isDigit = true := by
  refine (expands_expand _ cs).mem h |>.imp_right ?_
  rintro ⟨name, value, hvalue, hc⟩
  obtain ⟨n, rfl⟩ := exists_decimal hvalue
  exact isDigit_of_mem_decimal hc

/-- Expanding does not lose the last character of a kind that the digits are of. -/
theorem exists_mem_expand {p : Char → Prop} (hdigit : ∀ c, c.isDigit = true → p c)
    (h : ∃ c ∈ cs, p c) : ∃ c ∈ expand (numberValue? z x y) cs, p c := by
  refine (expands_expand _ cs).exists_mem (fun name value hvalue ↦ ?_) h
  obtain ⟨n, rfl⟩ := exists_decimal hvalue
  exact exists_mem_decimal hdigit n

/-- A text that has no digits after it is expanded had no gaps. -/
theorem expand_eq_self (h : ∀ c ∈ expand (numberValue? z x y) cs, c.isDigit = false)
    (z' x' y' : Nat) : expand (numberValue? z' x' y') cs = cs := by
  have hsame : Expands (numberValue? z' x' y') cs cs := by
    refine (expands_expand (numberValue? z x y) cs).untouched (p := (·.isDigit = true))
      (fun name value hvalue ↦ ?_) (by simpa using h) fun name hnone ↦ ?_
    · obtain ⟨n, rfl⟩ := exists_decimal hvalue
      exact exists_mem_decimal (fun _ ↦ id) n
    · simp_all [numberValue?, gapValue?_eq]
  exact (expands_iff.mp hsame).symm

/-- A scheme without digits comes from a text without digits. -/
theorem not_isDigit_of_scheme {scheme : List Char}
    (h : Url.schemeOf? (Url.clean (cs.dropWhile Url.isMargin)) = some scheme)
    (hscheme : ∀ c ∈ scheme, c.isDigit = false) : ∀ c ∈ cs, c.isDigit = false := by
  intro c hc
  rw [Bool.eq_false_iff]
  intro hdigit
  have hmargin := isMargin_of_isDigit hdigit
  have hignored := Url.isIgnored_of_not_isMargin hmargin
  have hdrop : c ∈ cs.dropWhile Url.isMargin := by
    rw [← List.takeWhile_append_dropWhile (p := Url.isMargin) (l := cs)] at hc
    rcases List.mem_append.mp hc with hc | hc
    · exact absurd (List.mem_takeWhile_imp hc) (by simp [hmargin])
    · exact hc
  have hmem : c ∈ scheme := by
    simp only [Url.schemeOf?, Option.ite_none_right_eq_some, Option.some.injEq] at h
    rw [← h.2, List.mem_map]
    have hlower := (Url.lowerAscii_eq_iff (isLetter_of_isDigit hdigit)).mpr rfl
    exact ⟨c, by simp [Url.clean, hdrop, hignored], hlower⟩
  exact Bool.false_ne_true ((hscheme c hmem).symm.trans hdigit)

/-! ## The layer as a segment -/

/-- The gap of the layer is there once, as a segment of the path: it follows a slash that comes
after the authority, and ends where a segment ends. -/
structure LayerIsSegment (cs left right after : List Char) : Prop where
  eq_append : cs = left ++ ':' :: right ++ '/' :: (layerGap ++ after)
  no_colon : ':' ∉ left
  authority : ∃ c ∈ right, isSlash .special c = false ∧ isIgnored c = false
  in_path : ∀ c ∈ right, isPathEnd c = false
  once : ¬ layerGap <:+: left ++ ':' :: right ∧ ¬ layerGap <:+: after
  ends : ∀ c, after.head? = some c → c = '/' ∨ c = '?' ∨ c = '#'

namespace LayerIsSegment

variable (h : LayerIsSegment cs left right after)

include h

theorem expand_eq (z x y : Nat) (layerName : List Char) :
    expand (gapValue? (decimal z) (decimal x) (decimal y) layerName) cs =
      expand (numberValue? z x y) left ++ ':' :: expand (numberValue? z x y) right ++
        '/' :: (layerName ++ expand (numberValue? z x y) after) := by
  have hleft : ¬ layerGap <:+: left := fun hin ↦
    h.once.1 (hin.trans (List.prefix_append _ _).isInfix)
  have hright : ¬ layerGap <:+: right := fun hin ↦
    h.once.1 (hin.trans ((List.suffix_cons ':' right).trans (List.suffix_append _ _)).isInfix)
  -- The template is cut at the colon and at the slash; no name of a gap has either of them.
  have hfree : ∀ c, c = ':' ∨ c = '/' → ∀ name, IsName name → c ∈ name →
      gapValue? (decimal z) (decimal x) (decimal y) layerName name = none := by
    intro c hc name _ hmem
    by_contra hvalue
    have hnames : ∀ name ∈ gapNames, ':' ∉ name ∧ '/' ∉ name := by decide
    obtain ⟨hcolon, hslash⟩ := hnames name (mem_gapNames hvalue)
    rcases hc with rfl | rfl
    · exact hcolon hmem
    · exact hslash hmem
  have htail : Expands (gapValue? (decimal z) (decimal x) (decimal y) layerName)
      ('/' :: (layerGap ++ after)) ('/' :: (layerName ++ expand (numberValue? z x y) after)) := by
    refine .keep '/' (fun name rest _ heq ↦ absurd (List.cons.inj heq).1 (by decide)) ?_
    refine .gap plainName layerName isName_plainName rfl ?_
    exact expands_of_no_layer h.once.2 z x y layerName
  have hmiddle := (expands_of_no_layer hright z x y layerName).append_cons (by decide)
    (hfree '/' (.inr rfl)) htail
  have hcolon := Expands.keep ':' (fun name rest _ heq ↦ absurd (List.cons.inj heq).1 (by decide))
    hmiddle
  have hall := (expands_of_no_layer hleft z x y layerName).append_cons (by decide)
    (hfree ':' (.inl rfl)) hcolon
  rw [h.eq_append, List.append_assoc, List.cons_append, ← hall.eq_expand]
  simp

theorem no_colon_expand (z x y : Nat) : ':' ∉ expand (numberValue? z x y) left := by
  intro hmem
  rcases mem_expand_numbers hmem with hmem | hdigit
  · exact h.no_colon hmem
  · exact absurd hdigit (by decide)

theorem hasAuthority (z x y : Nat) : HasAuthority
    (expand (numberValue? z x y) left ++ ':' :: expand (numberValue? z x y) right)
    (expand (numberValue? z x y) left) (expand (numberValue? z x y) right) := by
  refine ⟨rfl, h.no_colon_expand z x y, exists_mem_expand (fun c hc ↦ ⟨?_, ?_⟩) h.authority⟩
  · simp [isSlash, ne_of_isDigit hc]
  · simp [isIgnored, ne_of_isDigit hc]

theorem not_isPathEnd (z x y : Nat) :
    ∀ c ∈ expand (numberValue? z x y) right, isPathEnd c = false := by
  intro c hc
  rcases mem_expand_numbers hc with hc | hdigit
  · exact h.in_path c hc
  · simp [isPathEnd, ne_of_isDigit hdigit]

theorem ends_expand (z x y : Nat) : ∀ c, (expand (numberValue? z x y) after).head? = some c →
    isAuthorityEnd .special c = true := by
  intro c hc
  cases hafter : after with
  | nil => simp [hafter] at hc
  | cons d rest =>
      have hd := h.ends d (by rw [hafter]; rfl)
      have hopen : d ≠ Template.openBrace := by
        rcases hd with rfl | rfl | rfl <;> decide
      obtain rfl : d = c := by simpa [hafter, expand_cons_of_ne hopen] using hc
      rcases hd with rfl | rfl | rfl <;> rfl

/-- A scheme without digits is the same for all tiles. -/
theorem scheme_eq {w v : Url} {z' x' y' : Nat} {layerName' : List Char}
    (hw : Url.ofChars (expand (gapValue? (decimal z) (decimal x) (decimal y) layerName) cs) = .ok w)
    (hdigits : ∀ c ∈ w.scheme, c.isDigit = false)
    (hv : Url.ofChars (expand (gapValue? (decimal z') (decimal x') (decimal y') layerName') cs) =
      .ok v) : v.scheme = w.scheme := by
  rw [h.expand_eq] at hw hv
  have hscheme := (h.hasAuthority z x y).schemeOf_eq rfl hw
  have hscheme' := (h.hasAuthority z' x' y').schemeOf_eq rfl hv
  have hleft := expand_eq_self (not_isDigit_of_scheme hscheme hdigits)
  rw [hleft] at hscheme hscheme'
  exact Option.some.inj (hscheme'.symm.trans hscheme)

end LayerIsSegment

/-- A layer name stays in its segment, and changes nothing else of the URL, unless it is a dot
segment. -/
theorem layer_in_segment {raw : String} {t : UrlTemplate} (ht : parse raw = .ok t) {w : Url}
    (hw : Url.ofChars t.probe = .ok w)
    (hhttp : w.scheme = ['h', 't', 't', 'p'] ∨ w.scheme = ['h', 't', 't', 'p', 's'])
    (hlayer : LayerIsSegment raw.toList left right after) {r : TileRequest}
    (hplain : r.layer.text.toList = plainName) {v : Url} (hv : t.renderUrl r = .ok v)
    (hdots : ∀ segment ∈ Url.writtenSegments (t.renderChars r), Url.isDotSegment segment = false) :
    ∃ front back, v.path = .segments (front ++ plainName :: back) ∧
      ∀ layer : LayerName, layer.text ≠ "." → layer.text ≠ ".." →
        Url.percentDecode (Url.encode Url.pathSet layer.text.toList) = Text.Utf8.bytes layer.text ∧
        t.renderUrl { r with layer } = .ok { v with
          path := .segments (front ++ Url.encode Url.pathSet layer.text.toList :: back) } := by
  obtain ⟨rfl, -⟩ := parse_eq_ok_iff.mp ht
  have hspecial : Url.SchemeKind.of v.scheme = .special := by
    have hdigits : ∀ c ∈ w.scheme, c.isDigit = false := by
      rcases hhttp with heq | heq <;> simp [heq]
    rw [probe_ofRaw] at hw
    rw [renderUrl, renderChars_ofRaw] at hv
    rw [hlayer.scheme_eq hw hdigits hv]
    rcases hhttp with heq | heq <;> rw [heq] <;> rfl
  set z := r.z.toNat
  set x := r.x.toNat
  set y := r.y.toNat
  have hrender : ∀ layer : LayerName, (ofRaw raw).renderChars { r with layer } =
      expand (numberValue? z x y) left ++ ':' :: expand (numberValue? z x y) right ++
        '/' :: (layer.text.toList ++ expand (numberValue? z x y) after) := fun layer ↦ by
    rw [renderChars_ofRaw, valueOf?, hlayer.expand_eq]
  have hplainRender := hrender r.layer
  rw [hplain] at hplainRender
  rw [renderUrl, hplainRender] at hv
  rw [hplainRender] at hdots
  have hplainSegment : Url.IsSegment plainName := hplain ▸ r.layer.isSegment
  obtain ⟨front, back, hpath, hexchange⟩ := (hlayer.hasAuthority z x y).exists_exchange
    (hlayer.not_isPathEnd z x y) hplainSegment (hlayer.ends_expand z x y) hv hspecial hdots
  have hencode : Url.encode Url.pathSet plainName = plainName := by decide
  refine ⟨front, back, hencode ▸ hpath, fun layer hdot hdots ↦ ⟨?_, ?_⟩⟩
  · exact Url.percentDecode_encode fun hmem ↦ layer.not_delimiter hmem (by decide)
  · rw [renderUrl, hrender]
    exact hexchange _ layer.isSegment (layer.not_dotSegment hdot hdots)

def versioned : String :=
  "https://[::1]/v1/{layer}/{z}?q={x}"

theorem layerIsSegment_versioned : LayerIsSegment versioned.toList "https".toList
    "//[::1]/v1".toList "/{z}?q={x}".toList := by
  constructor
  · decide
  · decide
  · exact ⟨'[', by decide⟩
  · simp [isPathEnd]
  · decide
  · simp

theorem probe_versioned : (ofRaw versioned).probe = "https://[::1]/v1/layer/0?q=0".toList := by
  cbv

theorem renderChars_versioned : (ofRaw versioned).renderChars ⟨⟨"layer", by decide⟩, 3, 5, 1⟩ =
    "https://[::1]/v1/layer/3?q=5".toList := by
  cbv

/-- A name that only begins like a dot segment. -/
theorem layer_in_segment_dots :
    ∃ t v front back, parse versioned = .ok t ∧
      t.renderUrl ⟨⟨"layer", by decide⟩, 3, 5, 1⟩ = .ok v ∧
      v.path = .segments (front ++ plainName :: back) ∧
      t.renderUrl ⟨⟨"..é", by decide⟩, 3, 5, 1⟩ =
        .ok { v with path := .segments (front ++ "..%C3%A9".toList :: back) } := by
  obtain ⟨w, hw, hhttp⟩ : ∃ w, Url.ofChars (ofRaw versioned).probe = .ok w ∧
      (w.scheme = ['h', 't', 't', 'p'] ∨ w.scheme = ['h', 't', 't', 'p', 's']) := by
    rw [probe_versioned]
    exact ⟨_, rfl, .inr rfl⟩
  obtain ⟨v, hv⟩ : ∃ v, (ofRaw versioned).renderUrl ⟨⟨"layer", by decide⟩, 3, 5, 1⟩ = .ok v := by
    rw [renderUrl, renderChars_versioned]
    exact ⟨_, rfl⟩
  have hparse := parse_eq_ok_iff.mpr ⟨rfl, w, hw⟩
  have hdots : ∀ segment ∈ Url.writtenSegments
      ((ofRaw versioned).renderChars ⟨⟨"layer", by decide⟩, 3, 5, 1⟩),
      Url.isDotSegment segment = false := by
    rw [renderChars_versioned]
    decide
  have hplain : "layer".toList = plainName := by decide
  have hencode : Url.encode Url.pathSet "..é".toList = "..%C3%A9".toList := by decide
  obtain ⟨front, back, hpath, hall⟩ := layer_in_segment (r := ⟨⟨"layer", by decide⟩, 3, 5, 1⟩)
    hparse hw hhttp layerIsSegment_versioned hplain hv hdots
  obtain ⟨-, hlayer⟩ := hall ⟨"..é", by decide⟩ (by decide) (by decide)
  exact ⟨_, v, front, back, hparse, hv, hpath, hencode ▸ hlayer⟩

/-- The name of a layer may be a dot segment.  Then the URL has neither that segment nor the one
in front of it. -/
theorem dots_leave_segment :
    ∃ t w left right after v u, parse versioned = .ok t ∧ Url.ofChars t.probe = .ok w ∧
      w.scheme = "https".toList ∧ LayerIsSegment versioned.toList left right after ∧
      (∀ segment ∈ Url.writtenSegments (t.renderChars ⟨⟨"layer", by decide⟩, 3, 5, 1⟩),
        Url.isDotSegment segment = false) ∧
      t.renderUrl ⟨⟨"layer", by decide⟩, 3, 5, 1⟩ = .ok v ∧
      v.path = .segments ["v1".toList, "layer".toList, "3".toList] ∧
      t.renderUrl ⟨⟨"..", by decide⟩, 3, 5, 1⟩ = .ok u ∧
      u.path = .segments ["3".toList] := by
  obtain ⟨w, hw, hscheme⟩ : ∃ w, Url.ofChars (ofRaw versioned).probe = .ok w ∧
      w.scheme = "https".toList := by
    rw [probe_versioned]
    exact ⟨_, rfl, rfl⟩
  have hdots : (ofRaw versioned).renderChars ⟨⟨"..", by decide⟩, 3, 5, 1⟩ =
      "https://[::1]/v1/../3?q=5".toList := by
    cbv
  obtain ⟨v, hv, hvpath⟩ : ∃ v, Url.ofChars "https://[::1]/v1/layer/3?q=5".toList = .ok v ∧
      v.path = .segments ["v1".toList, "layer".toList, "3".toList] :=
    ⟨_, rfl, by decide⟩
  obtain ⟨u, hu, hupath⟩ : ∃ u, Url.ofChars "https://[::1]/v1/../3?q=5".toList = .ok u ∧
      u.path = .segments ["3".toList] :=
    ⟨_, rfl, by decide⟩
  refine ⟨ofRaw versioned, w, _, _, _, v, u, parse_eq_ok_iff.mpr ⟨rfl, w, hw⟩, hw, hscheme,
    layerIsSegment_versioned, ?_, ?_, hvpath, ?_, hupath⟩
  · rw [renderChars_versioned]
    decide
  · rw [renderUrl, renderChars_versioned]
    exact hv
  · rw [renderUrl, hdots]
    exact hu

end UrlTemplate

end TileFetch
