import TileFetch.Messages
import TileFetch.Proofs.Template.Expansion

/-!
# The messages of keys

A message is made from the first template that there is: the one that was set for the key, or the
built-in one.  What happens to a template is said by `Expands`, where the value of a placeholder is
the text of the first argument with its name.  `renders_iff` says that messages are made in this way
and in no other.
-/

namespace TileFetch.Messages

open Template (Expands expands_iff)

variable {m : Messages} {key out : String} {args : List (String × String)} {name text : List Char}

def FirstNamed (args : List (String × String)) (name text : List Char) : Prop :=
  ∃ before arg after, args = before ++ arg :: after ∧ arg.1.toList = name ∧ arg.2.toList = text ∧
    ∀ other ∈ before, other.1.toList ≠ name

/-- The message of a key.  A template that was set comes before a built-in one, and a key without
either stands for itself. -/
inductive Renders (m : Messages) (key : String) (args : List (String × String)) :
    String → Prop where
  | own {template out : String} (h : m.templates.get? key = some template)
      (hout : Expands (argument? args) template.toList out.toList) : Renders m key args out
  | builtIn {template out : String} (hown : m.templates.get? key = none)
      (h : Messages.builtIn.get? key = some template)
      (hout : Expands (argument? args) template.toList out.toList) : Renders m key args out
  | key (hown : m.templates.get? key = none) (h : Messages.builtIn.get? key = none) :
      Renders m key args key

theorem argument?_eq_some_iff : argument? args name = some text ↔ FirstNamed args name text := by
  simp only [argument?, Option.map_eq_some_iff, List.find?_eq_some_iff_append, FirstNamed]
  constructor
  · rintro ⟨arg, ⟨hname, before, after, rfl, hbefore⟩, htext⟩
    exact ⟨before, arg, after, rfl, by simpa using hname, htext, by simpa using hbefore⟩
  · rintro ⟨before, arg, after, rfl, hname, htext, hbefore⟩
    exact ⟨arg, ⟨by simpa using hname, before, after, rfl, by simpa using hbefore⟩, htext⟩

theorem expands_string_iff {value? : List Char → Option (List Char)} {cs : List Char} :
    Expands value? cs out.toList ↔ out = String.ofList (Template.expand value? cs) := by
  rw [expands_iff]
  constructor
  · intro h
    rw [← h, String.ofList_toList]
  · rintro rfl
    exact String.toList_ofList

theorem render_of_template {template : String} (h : m.template? key = some template) :
    m.render key args = String.ofList (Template.expand (argument? args) template.toList) := by
  simp [render, h]

theorem renders_iff : m.Renders key args out ↔ out = m.render key args := by
  constructor
  · intro h
    cases h with
    | @own template _ h hout =>
        have htemplate : m.template? key = some template := by simp [template?, h]
        rw [render_of_template htemplate]
        exact expands_string_iff.mp hout
    | @builtIn template _ hown h hout =>
        have htemplate : m.template? key = some template := by simp [template?, hown, h]
        rw [render_of_template htemplate]
        exact expands_string_iff.mp hout
    | key hown h => simp [render, template?, hown, h]
  · rintro rfl
    cases hown : m.templates.get? key with
    | some template =>
        have htemplate : m.template? key = some template := by simp [template?, hown]
        exact .own hown (expands_string_iff.mpr (render_of_template htemplate))
    | none =>
        cases h : builtIn.get? key with
        | some template =>
            have htemplate : m.template? key = some template := by simp [template?, hown, h]
            exact .builtIn hown h (expands_string_iff.mpr (render_of_template htemplate))
        | none =>
            have hkey : m.render key args = key := by simp [render, template?, hown, h]
            rw [hkey]
            exact .key hown h

/-- A message is the template of its key, read once from left to right: the placeholders that the
arguments name are replaced by the text of the first argument of that name, and all else stays.
What has been put in is not read again. -/
theorem rendered_once (m : Messages) (key : String) (args : List (String × String)) :
    (∀ out, m.Renders key args out ↔ out = m.render key args) ∧
      ∀ name text, argument? args name = some text ↔ FirstNamed args name text :=
  ⟨fun _ ↦ renders_iff, fun _ _ ↦ argument?_eq_some_iff⟩

/-- The text of an argument may look like a placeholder, also together with what surrounds it. -/
example :
    (default.set "greeting" "\x7ba\x7d\x7bb\x7d \x7b\x7d \x7b\x7ba\x7d\x7d \x7bc").render "greeting"
        [("a", "\x7bb\x7d"), ("b", "c\x7d"), ("a", "other")] =
      "\x7bb\x7dc\x7d \x7b\x7d \x7b\x7bb\x7d\x7d \x7bc" := by
  decide +kernel

end TileFetch.Messages
