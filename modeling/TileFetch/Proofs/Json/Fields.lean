import TileFetch.Proofs.Json.Records

/-!
# Fields by their names

What a record says about one field is what stands under its name: nothing, or one tree.  An object
names its members itself; in a list the fields stand in their order, and the last ones may be left
out.  A draft gathers a field step by step, and `exists_fills_iff` says what has been gathered at
the end.
-/

namespace TileFetch.Json

variable {α : Type} {M : Tree → α → Prop} {name : String} {fields : List (String × Tree)}
  {tree : Tree} {trees : List Tree}

/-- The fields of a tree.  The texts that keys spell are the names; the items of a list have the
given names. -/
def Tree.HasFields (names : List String) (tree : Tree) (fields : List (String × Tree)) : Prop :=
  (∃ members, tree = .object members ∧ Named members fields) ∨
    ∃ items, tree = .list items ∧ items.length ≤ names.length ∧ fields = names.zip items

def occurrences (name : String) (fields : List (String × Tree)) : List Tree :=
  (fields.filter (·.1 = name)).map (·.2)

/-- The value of a field that occurs once at most and may be `null`. -/
def IsField (M : Tree → α → Prop) (name : String) (fields : List (String × Tree))
    (value : Option α) : Prop :=
  occurrences name fields = [] ∧ value = none ∨
    ∃ tree, occurrences name fields = [tree] ∧ tree.IsOption M value

@[simp] theorem occurrences_nil : occurrences name [] = [] :=
  rfl

theorem occurrences_cons {key : String} : occurrences name ((key, tree) :: fields) =
    if key = name then tree :: occurrences name fields else occurrences name fields := by
  unfold occurrences
  by_cases hkey : key = name <;> simp [hkey]

/-! ## Fields that are gathered -/

/-- How the value of a field in a draft changes with the trees that stand under its name: it is
set once at most. -/
def Fills (M : Tree → α → Prop) : List Tree → Option (Option α) → Option (Option α) → Prop
  | [], before, after => after = before
  | tree :: trees, before, after =>
      before = none ∧ ∃ value, tree.IsOption M value ∧ Fills M trees (some value) after

variable {value : Option α} {before after : Option (Option α)}

@[simp] theorem fills_nil : Fills M [] before after ↔ after = before :=
  Iff.rfl

theorem fills_some_iff : Fills M trees (some value) after ↔ trees = [] ∧ after = some value := by
  cases trees <;> simp [Fills]

theorem fills_cons_iff : Fills M (tree :: trees) before after ↔
    before = none ∧ ∃ value, tree.IsOption M value ∧ trees = [] ∧ after = some value := by
  simp only [Fills, fills_some_iff]

theorem exists_fills_iff : (∃ after, Fills M (occurrences name fields) none after ∧
    after.getD none = value) ↔ IsField M name fields value := by
  cases hoccurs : occurrences name fields with
  | nil => simp [IsField, hoccurs, eq_comm]
  | cons tree trees =>
      simp only [fills_cons_iff, IsField, hoccurs]
      constructor
      · rintro ⟨_, ⟨-, o, ho, rfl, rfl⟩, rfl⟩
        exact .inr ⟨tree, rfl, ho⟩
      · rintro (⟨h, -⟩ | ⟨tree', h, ho⟩)
        · simp at h
        · obtain ⟨rfl, rfl⟩ := List.cons.inj h
          exact ⟨some value, ⟨trivial, value, ho, rfl, rfl⟩, rfl⟩

def Sets {σ : Type} (M : Tree → α → Prop) (put : σ → Option (Option α) → σ) (tree : Tree)
    (f : σ → σ) : Prop :=
  ∃ value, tree.IsOption M value ∧ f = fun draft ↦ put draft (some value)

theorem reflects_of_sets {σ : Type} {depth : Nat} {d : Decoder α}
    (hd : d.Reflects depth M) (hnull : ∀ a, ¬ M .null a) (get : σ → Option (Option α))
    (put : σ → Option (Option α) → σ) (omissible : Bool) :
    (Field.of name get put omissible (.option d)).decoder.Reflects depth (Sets M put) :=
  (Decoder.reflects_option hd hnull).map fun value draft ↦ put draft (some value)

namespace Shape

variable {σ β : Type} {shape : Shape σ β} {P : Field σ → Tree → (σ → σ) → Prop} {field : Field σ}
  {rest : List (Field σ)} {key : String} {draft result : σ}

theorem gathers_nil_iff : shape.Gathers P [] draft result ↔ result = draft := by
  constructor
  · rintro ⟨⟩
    rfl
  · rintro rfl
    exact .nil

theorem gathers_cons_of_none (h : shape.field? key = none) :
    shape.Gathers P ((key, tree) :: fields) draft result ↔ shape.Gathers P fields draft result := by
  constructor
  · intro hgathers
    cases hgathers with
    | ignored _ hgathers => exact hgathers
    | field hfield => simp [h] at hfield
  · exact .ignored h

section

variable {get : σ → Option (Option α)} {put : σ → Option (Option α) → σ} {omissible : Bool}
  {d : Decoder (Option α)}

/-- A field is set by the first member of its name, and there must not be another. -/
theorem gathers_cons_of_sets (h : shape.field? name = some (.of name get put omissible d))
    (hP : ∀ f, P (.of name get put omissible d) tree f ↔ Sets M put tree f) :
    shape.Gathers P ((name, tree) :: fields) draft result ↔
      get draft = none ∧ ∃ value, tree.IsOption M value ∧
        shape.Gathers P fields (put draft (some value)) result := by
  constructor
  · intro hgathers
    cases hgathers with
    | ignored hfield => simp [h] at hfield
    | field hfield hseen hput hgathers =>
        obtain rfl := Option.some_inj.mp (hfield.symm.trans h)
        obtain ⟨value, hvalue, rfl⟩ := (hP _).mp hput
        exact ⟨by simpa [Field.of] using hseen, value, hvalue, hgathers⟩
  · rintro ⟨hnone, value, hvalue, hgathers⟩
    exact .field h (by simp [Field.of, hnone]) ((hP _).mpr ⟨value, hvalue, rfl⟩) hgathers

theorem gathersRow_item_of_sets
    (hP : ∀ f, P (.of name get put omissible d) tree f ↔ Sets M put tree f) :
    GathersRow P (.of name get put omissible d :: rest) (tree :: trees) draft result ↔
      ∃ value, tree.IsOption M value ∧ GathersRow P rest trees (put draft (some value)) result := by
  constructor
  · intro h
    cases h with
    | item hput hrow =>
        obtain ⟨value, hvalue, rfl⟩ := (hP _).mp hput
        exact ⟨value, hvalue, hrow⟩
  · rintro ⟨value, hvalue, hrow⟩
    exact .item ((hP _).mpr ⟨value, hvalue, rfl⟩) hrow

end

theorem gathersRow_nil_iff :
    GathersRow P [] trees draft result ↔ trees = [] ∧ result = draft := by
  constructor
  · rintro ⟨⟩
    exact ⟨rfl, rfl⟩
  · rintro ⟨rfl, rfl⟩
    exact .nil

theorem gathersRow_omitted_iff : GathersRow P (field :: rest) [] draft result ↔
    field.omissible = true ∧ GathersRow P rest [] draft result := by
  constructor
  · intro h
    cases h with
    | omitted homissible hrow => exact ⟨homissible, hrow⟩
  · rintro ⟨homissible, hrow⟩
    exact .omitted homissible hrow

end Shape

end TileFetch.Json
