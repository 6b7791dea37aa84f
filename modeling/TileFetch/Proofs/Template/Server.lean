import TileFetch.Proofs.Template.Rendering
import TileFetch.Proofs.Url.Origin

/-!
# The server of a template

If the text of a template in front of its first gap goes beyond the authority, no request can
change the server: whatever fills the gaps, the address of the tile is a URL with the scheme,
the credentials, the host and the port of the URL that was checked when the template was made.
-/

namespace TileFetch.UrlTemplate

open Template (Piece IsName expand expand_cons)
open Url (HasAuthority SameOrigin isAuthorityEnd isIgnored)

def leading : List Char → List Char
  | [] => []
  | c :: cs =>
      if gapNames.any fun name ↦ (Piece.placeholder name).source.isPrefixOf (c :: cs) then []
      else c :: leading cs

/-- A text that begins with `http://` or `https://`, has no tabs or line ends, and goes beyond
an authority that has a character. -/
def NamesServer (text : List Char) : Prop :=
  (∀ c ∈ text, isIgnored c = false) ∧
    ∃ scheme before c after d tail,
      (scheme = ['h', 't', 't', 'p'] ∨ scheme = ['h', 't', 't', 'p', 's']) ∧
        text = scheme ++ ':' :: '/' :: '/' :: (before ++ c :: after) ++ d :: tail ∧
        (c ≠ '/' ∧ c ≠ '\\') ∧ (d = '/' ∨ d = '?' ∨ d = '#')

variable {z x y layerName cs : List Char}

/-- What is in front of the first gap stays as it is. -/
theorem expand_eq_leading_append (z x y layerName cs : List Char) :
    expand (gapValue? z x y layerName) cs =
      leading cs ++ expand (gapValue? z x y layerName) (cs.drop (leading cs).length) := by
  induction cs with
  | nil => simp [leading]
  | cons c cs ih =>
      by_cases hgap : gapNames.any fun name ↦
          (Piece.placeholder name).source.isPrefixOf (c :: cs)
      · simp [leading, hgap]
      · have hnone : ∀ name rest, IsName name →
            c :: cs = (Piece.placeholder name).source ++ rest →
              gapValue? z x y layerName name = none := by
          intro name rest _ heq
          by_contra hvalue
          apply hgap
          rw [List.any_eq_true]
          refine ⟨name, mem_gapNames hvalue, ?_⟩
          rw [heq, List.isPrefixOf_iff_prefix]
          exact List.prefix_append _ _
        rw [expand_cons hnone]
        simp [leading, hgap, ← ih]

/-- What such a text says: an authority, and a scheme that has one. -/
theorem NamesServer.exists_address {text : List Char} (h : NamesServer text) :
    ∃ address d tail left right, text = address ++ d :: tail ∧
      isAuthorityEnd .special d = true ∧ HasAuthority address left right ∧
      ∀ scheme, Url.schemeOf? (Url.clean (left.dropWhile Url.isMargin)) = some scheme →
        Url.SchemeKind.of scheme = .special := by
  obtain ⟨hcounts, scheme, before, c, after, d, tail, hscheme, rfl, ⟨hslash, hbackslash⟩, hend⟩ := h
  refine ⟨_, d, tail, scheme, '/' :: '/' :: (before ++ c :: after), rfl, ?_, ⟨rfl, ?_, c, ?_⟩, ?_⟩
  · rcases hend with rfl | rfl | rfl <;> rfl
  · rcases hscheme with rfl | rfl <;> decide
  · refine ⟨by simp, ?_, hcounts c (by simp)⟩
    simp [Url.isSlash, hslash, hbackslash]
  · intro name hname
    have hsame : name = scheme := by
      rcases hscheme with rfl | rfl <;> exact (Option.some.inj hname).symm
    rw [hsame]
    rcases hscheme with rfl | rfl <;> rfl

/-- Whatever fills its gaps, the address of a tile stays on the server of the template. -/
theorem server_fixed {raw : String} {t : UrlTemplate} (ht : parse raw = .ok t)
    (hserver : NamesServer (leading raw.toList)) (r : TileRequest) :
    ∃ u v, t.renderUrl r = .ok u ∧ Url.ofChars t.probe = .ok v ∧ SameOrigin u v := by
  obtain ⟨rfl, v, hv⟩ := parse_eq_ok_iff.mp ht
  obtain ⟨address, d, tail, left, right, htext, hd, hauthority, hspecial⟩ :=
    hserver.exists_address
  -- Both addresses begin with the text in front of the first gap.
  have hfill : ∀ z x y layerName, ∃ rest, (ofRaw raw).fill z x y layerName =
      address ++ d :: rest := by
    intro z x y layerName
    rw [fill_ofRaw, expand_eq_leading_append, htext, List.append_assoc, List.cons_append]
    exact ⟨_, rfl⟩
  obtain ⟨rest, hprobe⟩ : ∃ rest, (ofRaw raw).probe = address ++ d :: rest := hfill ..
  obtain ⟨rest', hrender⟩ : ∃ rest', (ofRaw raw).renderChars r = address ++ d :: rest' :=
    hfill ..
  rw [hprobe] at hv
  have hkind : Url.SchemeKind.of v.scheme = .special :=
    hspecial _ (hauthority.schemeOf_eq hd hv)
  obtain ⟨o, ho⟩ := hauthority.exists_origin hd hv hkind
  refine ⟨Url.readTail o (Url.afterAuthority (address ++ d :: rest')), v, ?_, ?_, ?_⟩
  · rw [renderUrl, hrender]
    exact ho rest'
  · rw [hprobe]
    exact hv
  · obtain rfl := Except.ok.inj ((ho rest).symm.trans hv)
    exact (Url.sameOrigin_readTail o _).trans (Url.sameOrigin_readTail o _).symm

/-- A template with credentials and a port, and a layer whose name looks like an authority. -/
theorem server_fixed_login :
    ∃ t, parse "https://me:key@[2001:db8::7]:8443/{layer}/{z}?q={}" = .ok t ∧
      ∃ u v, t.renderUrl ⟨⟨"a:b@[::1]", by decide⟩, 3, 5, 1⟩ = .ok u ∧
        Url.ofChars t.probe = .ok v ∧ SameOrigin u v := by
  have hprobe : (ofRaw "https://me:key@[2001:db8::7]:8443/{layer}/{z}?q={}").probe =
      "https://me:key@[2001:db8::7]:8443/layer/0?q={}".toList := by
    cbv
  obtain ⟨v, hv⟩ : ∃ v, Url.ofChars "https://me:key@[2001:db8::7]:8443/layer/0?q={}".toList =
      .ok v := ⟨_, rfl⟩
  have hleading : leading "https://me:key@[2001:db8::7]:8443/{layer}/{z}?q={}".toList =
      "https://me:key@[2001:db8::7]:8443/".toList := by
    cbv
  have hserver : NamesServer (leading
      "https://me:key@[2001:db8::7]:8443/{layer}/{z}?q={}".toList) := by
    rw [hleading]
    exact ⟨by simp [isIgnored], "https".toList, "me:key@".toList, '[',
      "2001:db8::7]:8443".toList, '/', [], .inr rfl, by decide, by decide, by decide⟩
  have hparse : parse "https://me:key@[2001:db8::7]:8443/{layer}/{z}?q={}" = .ok _ :=
    parse_eq_ok_iff.mpr ⟨rfl, v, hprobe ▸ hv⟩
  exact ⟨_, hparse, server_fixed hparse hserver _⟩

end TileFetch.UrlTemplate
