/-!
# Dictionaries

Finite maps from texts, kept as a list of entries whose keys increase strictly.
The order is the one of code points, which is also the order of UTF-8 bytes.
Because the order is part of the type, two dictionaries with the same entries
are equal.
-/

namespace TileFetch

def Ordered {α : Type} (entries : List (String × α)) : Prop :=
  entries.Pairwise fun a b ↦ a.1 < b.1

/-- Puts `value` under `key`, in place of what was there. -/
def putEntry {α : Type} (key : String) (value : α) :
    List (String × α) → List (String × α)
  | [] => [(key, value)]
  | (k, v) :: rest =>
      if key < k then (key, value) :: (k, v) :: rest
      else if key = k then (key, value) :: rest
      else (k, v) :: putEntry key value rest

def findEntry {α : Type} (key : String) : List (String × α) → Option α
  | [] => none
  | (k, v) :: rest => if key = k then some v else findEntry key rest

theorem mem_putEntry {α : Type} {key : String} {value : α} {e : String × α}
    {entries : List (String × α)} (h : e ∈ putEntry key value entries) :
    e = (key, value) ∨ e ∈ entries := by
  induction entries with
  | nil => simpa [putEntry] using h
  | cons head rest ih =>
      obtain ⟨k, v⟩ := head
      simp only [putEntry] at h
      split at h
      · simpa using h
      · split at h
        · rcases List.mem_cons.mp h with rfl | h
          · exact .inl rfl
          · exact .inr (List.mem_cons_of_mem _ h)
        · rcases List.mem_cons.mp h with rfl | h
          · exact .inr List.mem_cons_self
          · exact (ih h).imp_right (List.mem_cons_of_mem _)

theorem ordered_putEntry {α : Type} (key : String) (value : α)
    {entries : List (String × α)} (h : Ordered entries) :
    Ordered (putEntry key value entries) := by
  induction entries with
  | nil => simp [putEntry, Ordered]
  | cons head rest ih =>
      obtain ⟨k, v⟩ := head
      have hk := List.pairwise_cons.mp h
      simp only [putEntry]
      split
      · rename_i hlt
        refine List.pairwise_cons.mpr ⟨?_, h⟩
        intro e he
        rcases List.mem_cons.mp he with rfl | he
        · exact hlt
        · exact String.lt_trans hlt (hk.1 e he)
      · split
        · rename_i heq
          subst heq
          exact List.pairwise_cons.mpr ⟨hk.1, hk.2⟩
        · rename_i hlt hne
          refine List.pairwise_cons.mpr ⟨?_, ih hk.2⟩
          intro e he
          rcases mem_putEntry he with rfl | he
          · refine Decidable.byContradiction fun hnot ↦ hne ?_
            exact String.le_antisymm (String.not_lt.mp hnot) (String.not_lt.mp hlt)
          · exact hk.1 e he

/-- A finite map from texts to values. -/
structure Dict (α : Type) where
  entries : List (String × α)
  ordered : Ordered entries

namespace Dict

def empty {α : Type} : Dict α :=
  ⟨[], List.Pairwise.nil⟩

instance {α : Type} : Inhabited (Dict α) :=
  ⟨empty⟩

instance {α : Type} [DecidableEq α] : DecidableEq (Dict α) := fun a b ↦
  if h : a.entries = b.entries then
    isTrue (by cases a; cases b; cases h; rfl)
  else isFalse fun e ↦ h (congrArg entries e)

def insert {α : Type} (d : Dict α) (key : String) (value : α) : Dict α :=
  ⟨putEntry key value d.entries, ordered_putEntry key value d.ordered⟩

def get? {α : Type} (d : Dict α) (key : String) : Option α :=
  findEntry key d.entries

/-- The dictionary of a list of pairs; of two pairs with one key the later wins. -/
def ofPairs {α : Type} (pairs : List (String × α)) : Dict α :=
  pairs.foldl (fun d p ↦ d.insert p.1 p.2) empty

def isEmpty {α : Type} (d : Dict α) : Bool :=
  d.entries.isEmpty

end Dict

end TileFetch
