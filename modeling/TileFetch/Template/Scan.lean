/-!
# Pieces of a template

A placeholder is an opening brace, a name without braces that is not empty, and a closing
brace.  All other characters of a template stand for themselves.
-/

namespace TileFetch.Template

inductive Piece where
  | text (cs : List Char)
  | placeholder (name : List Char)
  deriving DecidableEq

def openBrace : Char := '\x7b'

def closeBrace : Char := '\x7d'

def isBrace (c : Char) : Bool :=
  c = openBrace || c = closeBrace

def Piece.source : Piece → List Char
  | text cs => cs
  | placeholder name => openBrace :: name ++ [closeBrace]

def textPieces (cs : List Char) : List Piece :=
  if cs.isEmpty then [] else [.text cs]

/-- The name of a placeholder whose opening brace is behind, and what follows it. -/
def splitName (cs : List Char) : Option (List Char × List Char) :=
  match cs.takeWhile (!isBrace ·), cs.dropWhile (!isBrace ·) with
  | c :: name, d :: rest => if d = closeBrace then some (c :: name, rest) else none
  | _, _ => none

theorem length_dropWhile_le {α : Type} (p : α → Bool) (l : List α) :
    (l.dropWhile p).length ≤ l.length :=
  (List.dropWhile_sublist p).length_le

theorem length_of_splitName {cs name rest : List Char}
    (h : splitName cs = some (name, rest)) : rest.length < cs.length := by
  unfold splitName at h
  split at h
  · rename_i d rest' _ hd
    split at h
    · injection h with h
      injection h with _ h
      subst h
      have := length_dropWhile_le (!isBrace ·) cs
      rw [hd] at this
      simp only [List.length_cons] at this
      omega
    · contradiction
  · contradiction

set_option linter.unusedVariables false in
def scan (cs : List Char) : List Piece :=
  match h : cs.dropWhile (· ≠ openBrace) with
  | [] => textPieces cs
  | brace :: inner =>
      let before := cs.takeWhile (· ≠ openBrace)
      match hn : splitName inner with
      | some (name, rest) => textPieces before ++ .placeholder name :: scan rest
      | none => .text (before ++ [brace]) :: scan inner
termination_by cs.length
decreasing_by
  all_goals
    have hle := length_dropWhile_le (· ≠ openBrace) cs
    rw [h] at hle
    simp only [List.length_cons] at hle
  · have := length_of_splitName hn
    omega
  · omega

/-- A template with the placeholders that have a value replaced by it.  Values are not
scanned again. -/
def expand (value? : List Char → Option (List Char)) (cs : List Char) : List Char :=
  (scan cs).flatMap fun
    | .text t => t
    | .placeholder name => (value? name).getD (Piece.placeholder name).source

end TileFetch.Template
