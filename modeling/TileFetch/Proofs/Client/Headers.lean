import Mathlib
import TileFetch.Client.Settings

/-!
# Headers with one name

Where both sides have headers of one name, those of the side that wins are sent and those of the
other side are not; every other header is sent as it is: `merged_by_name`.
-/

namespace TileFetch.Client

def named (name : String) (headers : List Header) : List Header :=
  headers.filter fun h ↦ sameName name h.1

namespace Settings

def winner (s : Settings) (extra : List Header) : List Header :=
  match s.headerPolicy with
  | .providerOverrides => extra
  | .configOverrides => s.headers.entries

def loser (s : Settings) (extra : List Header) : List Header :=
  match s.headerPolicy with
  | .providerOverrides => s.headers.entries
  | .configOverrides => extra

end Settings

variable {kept others : List Header}

theorem sameName_iff {a b : String} :
    sameName a b = true ↔ a.toList.map Text.lowerAscii = b.toList.map Text.lowerAscii :=
  decide_eq_true_iff

theorem sameName_self (a : String) : sameName a a = true :=
  sameName_iff.mpr rfl

theorem sameName_comm (a b : String) : sameName a b = sameName b a := by
  rw [Bool.eq_iff_iff, sameName_iff, sameName_iff, eq_comm]

theorem sameName_congr {a b : String} (h : sameName a b = true) (c : String) :
    sameName a c = sameName b c := by
  rw [Bool.eq_iff_iff, sameName_iff, sameName_iff, sameName_iff.mp h]

theorem named_eq_nil_iff {name : String} {headers : List Header} :
    named name headers = [] ↔ ∀ h ∈ headers, sameName name h.1 = false := by
  simp [named, List.filter_eq_nil_iff]

theorem named_congr {a b : String} (h : sameName a b = true) (headers : List Header) :
    named a headers = named b headers :=
  List.filter_congr fun header _ ↦ sameName_congr h header.1

theorem named_self_ne_nil {h : Header} {headers : List Header} (hmem : h ∈ headers) :
    named h.1 headers ≠ [] := fun hnil ↦ by
  have hsame := named_eq_nil_iff.mp hnil h hmem
  simp [sameName_self] at hsame

theorem named_append (name : String) (hs ks : List Header) :
    named name (hs ++ ks) = named name hs ++ named name ks :=
  List.filter_append ..

theorem withoutNamesOf_eq (kept others : List Header) :
    Settings.withoutNamesOf kept others = others.filter fun h ↦ (named h.1 kept).isEmpty := by
  refine List.filter_congr fun h _ ↦ ?_
  rw [Bool.eq_iff_iff, List.isEmpty_iff, named_eq_nil_iff]
  simp [sameName_comm]

theorem mergeHeaders_eq (s : Settings) (extra : List Header) :
    s.mergeHeaders extra =
      Settings.withoutNamesOf (s.winner extra) (s.loser extra) ++ s.winner extra := by
  cases hpolicy : s.headerPolicy <;>
    simp [Settings.mergeHeaders, Settings.winner, Settings.loser, hpolicy]

/-! ## What is left of the losing side -/

theorem named_withoutNamesOf_of_nil {name : String} (h : named name kept = []) :
    named name (Settings.withoutNamesOf kept others) = named name others := by
  rw [withoutNamesOf_eq, named, List.filter_filter]
  refine List.filter_congr fun header _ ↦ ?_
  cases hsame : sameName name header.1 with
  | false => rfl
  | true => simp [← named_congr hsame, h]

theorem named_withoutNamesOf_of_ne_nil {name : String} (h : named name kept ≠ []) :
    named name (Settings.withoutNamesOf kept others) = [] := by
  refine named_eq_nil_iff.mpr fun header hmem ↦ ?_
  rw [withoutNamesOf_eq, List.mem_filter, List.isEmpty_iff] at hmem
  by_contra hsame
  rw [Bool.not_eq_false] at hsame
  exact h (named_congr hsame kept ▸ hmem.2)

theorem withoutNamesOf_eq_nil (h : ∀ header ∈ others, named header.1 kept ≠ []) :
    Settings.withoutNamesOf kept others = [] := by
  simpa [withoutNamesOf_eq, List.filter_eq_nil_iff] using h

theorem withoutNamesOf_merged (kept others : List Header) :
    Settings.withoutNamesOf (Settings.withoutNamesOf kept others ++ kept) others = [] := by
  apply withoutNamesOf_eq_nil
  intro h hmem
  rw [named_append]
  by_cases hkept : named h.1 kept = []
  · rw [named_withoutNamesOf_of_nil hkept]
    simp [named_self_ne_nil hmem]
  · simp [hkept]

theorem withoutNamesOf_append_self (kept others : List Header) :
    Settings.withoutNamesOf kept (Settings.withoutNamesOf kept others ++ kept) =
      Settings.withoutNamesOf kept others := by
  have hself : Settings.withoutNamesOf kept kept = [] :=
    withoutNamesOf_eq_nil fun _ ↦ named_self_ne_nil
  rw [withoutNamesOf_eq] at hself ⊢
  rw [List.filter_append, hself, List.append_nil, withoutNamesOf_eq, List.filter_filter]
  simp only [Bool.and_self]

theorem mergeHeaders_idem (s : Settings) (extra : List Header) :
    s.mergeHeaders (s.mergeHeaders extra) = s.mergeHeaders extra := by
  cases hpolicy : s.headerPolicy with
  | providerOverrides => simp [Settings.mergeHeaders, hpolicy, withoutNamesOf_merged]
  | configOverrides => simp [Settings.mergeHeaders, hpolicy, withoutNamesOf_append_self]

/-- The headers of a name are those of the side that wins if it has any, else those of the other
side.  What is left of the side that loses stands in front of all that the other side has, each in
its own order, and merging once more changes nothing. -/
theorem merged_by_name (s : Settings) (extra : List Header) :
    (∀ name, named name (s.mergeHeaders extra) =
        if named name (s.winner extra) = [] then named name (s.loser extra)
        else named name (s.winner extra)) ∧
      s.mergeHeaders extra =
        ((s.loser extra).filter fun h ↦ (named h.1 (s.winner extra)).isEmpty) ++
          s.winner extra ∧
      s.mergeHeaders (s.mergeHeaders extra) = s.mergeHeaders extra := by
  refine ⟨fun name ↦ ?_, ?_, mergeHeaders_idem s extra⟩
  · rw [mergeHeaders_eq, named_append]
    split_ifs with hwinner
    · rw [named_withoutNamesOf_of_nil hwinner, hwinner, List.append_nil]
    · rw [named_withoutNamesOf_of_ne_nil hwinner, List.nil_append]
  · rw [mergeHeaders_eq, withoutNamesOf_eq]

example : ((Settings.default.addHeader ("authorization", "Bearer static")).addHeader
    ("X-Trace", "on")).mergeHeaders [("Authorization", "Bearer abc")] =
      [("X-Trace", "on"), ("Authorization", "Bearer abc")] := by
  cbv

end TileFetch.Client
