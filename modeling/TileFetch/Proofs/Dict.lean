import Mathlib
import TileFetch.Dict

/-!
# Entries of dictionaries

The keys of a dictionary differ.  A dictionary is made of its own entries, so that it does not
matter how often entries are put in order: `Dict.ofPairs_entries`.
-/

namespace TileFetch

variable {α : Type} {key : String} {a : α} {entries : List (String × α)}

theorem findEntry_eq_none_iff : findEntry key entries = none ↔ key ∉ entries.map (·.1) := by
  induction entries with
  | nil => simp [findEntry]
  | cons head rest ih =>
      obtain ⟨k, v⟩ := head
      simp only [findEntry, List.map_cons, List.mem_cons, not_or]
      split_ifs with hkey
      · simp [hkey]
      · simp [ih, hkey]

/-! ## Entries in order -/

theorem Ordered.nodup (h : Ordered entries) : (entries.map (·.1)).Nodup := by
  rw [List.Nodup, List.pairwise_map]
  exact h.imp fun hlt ↦ String.ne_of_lt hlt

theorem putEntry_of_forall_lt (h : ∀ e ∈ entries, e.1 < key) :
    putEntry key a entries = entries ++ [(key, a)] := by
  induction entries with
  | nil => rfl
  | cons head rest ih =>
      obtain ⟨k, v⟩ := head
      obtain ⟨hlt, hrest⟩ := List.forall_mem_cons.mp h
      have hnot : ¬ key < k := String.lt_asymm hlt
      have hne : key ≠ k := (String.ne_of_lt hlt).symm
      rw [putEntry, if_neg hnot, if_neg hne, ih hrest, List.cons_append]

namespace Dict

theorem entries_ofPairs (pairs : List (String × α)) :
    (ofPairs pairs).entries = pairs.foldl (fun es p ↦ putEntry p.1 p.2 es) [] := by
  induction pairs using List.reverseRecOn with
  | nil => rfl
  | append_singleton pairs p ih =>
      rw [List.foldl_append, ← ih, ofPairs, List.foldl_append]
      rfl

theorem ext_entries {d e : Dict α} (h : d.entries = e.entries) : d = e := by
  cases d
  cases e
  cases h
  rfl

theorem foldl_putEntry_of_ordered (h : Ordered entries) :
    entries.foldl (fun es p ↦ putEntry p.1 p.2 es) [] = entries := by
  induction entries using List.reverseRecOn with
  | nil => rfl
  | append_singleton entries p ih =>
      obtain ⟨hbefore, -, hlast⟩ := List.pairwise_append.mp h
      rw [List.foldl_append, ih hbefore]
      exact putEntry_of_forall_lt fun e he ↦ hlast e he p List.mem_cons_self

theorem ofPairs_entries (d : Dict α) : ofPairs d.entries = d :=
  ext_entries ((entries_ofPairs _).trans (foldl_putEntry_of_ordered d.ordered))

end Dict

end TileFetch
