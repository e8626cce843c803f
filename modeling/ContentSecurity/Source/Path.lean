/-!
# Paths in components

A path is a way through a tree: slashes separate the names, an empty name and a
single dot stay where they are, and two dots go back by one.  Nothing is looked
up; a path only has to fall into a root and what may follow one.
-/

namespace ContentSecurity
namespace Source

/-- One step of a path. -/
inductive PathComponent where
  /-- The root of the tree. -/
  | root
  /-- The place where a relative path begins. -/
  | current
  /-- One step back. -/
  | parent
  /-- One step to a name. -/
  | named
      (name : List Char)
deriving DecidableEq, Repr

/-- The step that a piece between two slashes stands for, if it stands for one. -/
def pathComponent? : List Char → Option PathComponent
  | [] => none
  | ['.'] => none
  | ['.', '.'] => some .parent
  | name => some (.named name)

/--
The steps of a path.  A slash at the beginning stands for the root, and a single
dot counts only at the beginning of a path without a root.
-/
def pathComponents : List Char → List PathComponent
  | '/' :: rest => .root :: (rest.splitOn '/').filterMap pathComponent?
  | path =>
      let start := if path.takeWhile (· != '/') = ['.'] then [PathComponent.current] else []
      start ++ (path.splitOn '/').filterMap pathComponent?

/-- A path without a null character that consists of a root and steps behind it. -/
def isDecomposable
    (path : List Char) :
    Bool :=
  !path.contains '\x00' &&
    match pathComponents path with
    | .root :: steps => steps.all (· != .root)
    | _ => false

/-- No piece between two slashes stands for the root. -/
theorem pathComponent?_ne_root
    (piece : List Char) :
    pathComponent? piece ≠ some .root := by
  unfold pathComponent?
  split <;> simp

/-- Behind a slash everything falls into steps. -/
theorem isDecomposable_of_slash
    (rest : List Char)
    (hnull : '\x00' ∉ rest) :
    isDecomposable ('/' :: rest) = true := by
  have hsteps :
      ∀ step ∈ (rest.splitOn '/').filterMap pathComponent?, step ≠ PathComponent.root := by
    intro step hstep
    obtain ⟨piece, -, hpiece⟩ := List.mem_filterMap.mp hstep
    rintro rfl
    exact pathComponent?_ne_root piece hpiece
  have hall :
      ((rest.splitOn '/').filterMap pathComponent?).all (· != PathComponent.root) = true := by
    rw [List.all_eq_true]
    intro step hstep
    simpa using hsteps step hstep
  simp only [isDecomposable, pathComponents, hall]
  simpa using hnull

end Source
end ContentSecurity
