/-
Module: MailTemplate.Proofs.Confinement
Purpose: The name of a component leads to a file below the components directory or nowhere.
Main exports: PathPart, Path.components, staysBelow_iff, componentFile?_eq_none_iff,
  Path.components_join, loader_confined
-/
import MailTemplate.Files.Walk
import MailTemplate.Proofs.Loading

/-!
A system that takes paths apart sees *components*: the root, a dot at the very beginning, steps up,
and names.  Whether a name is refused is decided on its components, yet the file is looked for at
the name as it is written, with an extension behind it.  Both see the same pieces but for the last,
and the last with its extension is always a name.

A name that is not refused is loaded by reading that one path, and its path, seen from the
directory, has the components of the directory and behind them names alone.
-/

namespace MailTemplate

/-! ### Components -/

/-- A component of a path. -/
inductive PathPart where
  | root
  | current
  | up
  | name (t : Text)
deriving Repr, DecidableEq

/-- Whether a component is a name. -/
def PathPart.isName : PathPart → Bool
  | .name _ => true
  | _ => false

namespace Path

/-- The component that a piece of a path is. -/
def part (piece : Text) : PathPart :=
  if piece = up then .up else .name piece

/-- The component in front of all pieces that say something. -/
def beginning (path : Path) : List PathPart :=
  if isAbsolute path then [.root]
  else if (pieces path).head? = some ['.'] then [.current]
  else []

/-- The components of a path.  A dot is one at the very beginning and passed over elsewhere. -/
def components (path : Path) : List PathPart :=
  beginning path ++ (names path).map part

theorem beginning_eq_nil_iff {path : Path} :
    beginning path = [] ↔ isAbsolute path = false ∧ (pieces path).head? ≠ some ['.'] := by
  rw [beginning]
  split <;> simp_all

theorem isName_of_mem_beginning {path : Path} {part : PathPart} (inside : part ∈ beginning path) :
    part.isName = false := by
  rw [beginning] at inside
  split at inside
  · rw [List.mem_singleton.1 inside]
    rfl
  · split at inside
    · rw [List.mem_singleton.1 inside]
      rfl
    · exact absurd inside (by simp)

end Path

/-! ### Names that stay below -/

/-- A name stays below if its components are the names that it leads through. -/
theorem components_of_staysBelow {name : Text} (below : staysBelow name = true) :
    Path.components name = (Path.names name).map .name := by
  obtain ⟨relative, first, up⟩ := staysBelow_iff_pieces.1 below
  rw [Path.components, Path.beginning_eq_nil_iff.2 ⟨relative, first⟩, List.nil_append]
  refine List.map_congr_left fun piece inside => ?_
  rw [Path.part, if_neg]
  rintro rfl
  exact up (Path.up_mem_names_iff.1 inside)

theorem staysBelow_iff {name : Text} :
    staysBelow name = true ↔ ∀ part ∈ Path.components name, part.isName = true := by
  constructor
  · intro below part inside
    rw [components_of_staysBelow below] at inside
    obtain ⟨piece, _, rfl⟩ := List.mem_map.1 inside
    rfl
  · intro all
    have first : Path.beginning name = [] := by
      refine List.eq_nil_iff_forall_not_mem.2 fun part inside => ?_
      have own := all part (List.mem_append_left _ inside)
      exact absurd (own.symm.trans (Path.isName_of_mem_beginning inside)) (by simp)
    obtain ⟨relative, dot⟩ := Path.beginning_eq_nil_iff.1 first
    refine staysBelow_iff_pieces.2 ⟨relative, dot, fun up => ?_⟩
    have listed := List.mem_map_of_mem (f := Path.part) (Path.up_mem_names_iff.2 up)
    exact absurd (all _ (List.mem_append_right _ listed)) (by decide)

/-- Refused are the empty name, those with the character that ends paths, and those with a component
that is no name. -/
theorem componentFile?_eq_none_iff {name : Text} : componentFile? name = none ↔
    name = [] ∨ '\x00' ∈ name ∨ ∃ part ∈ Path.components name, part.isName = false := by
  have stays : staysBelow name = false ↔
      ∃ part ∈ Path.components name, part.isName = false := by
    rw [← Bool.not_eq_true, staysBelow_iff]
    simp
  rw [← stays, componentFile?]
  split <;> simp_all [or_assoc]

namespace Path

/-- The components of a path that is seen from a base are those of the base and of the path. -/
theorem components_join (base : Path) {path : Path} (below : staysBelow path = true) :
    components (join base path) = components base ++ components path := by
  obtain ⟨relative, first, _⟩ := staysBelow_iff_pieces.1 below
  have own : beginning path = [] := beginning_eq_nil_iff.2 ⟨relative, first⟩
  by_cases empty : base = []
  · subst empty
    rw [join_nil relative]
    rfl
  · have same : beginning (join base path) = beginning base := by
      obtain ⟨front, begins, whole⟩ := exists_join empty relative
      have head : (pieces (join base path)).head? = (pieces base).head? := by
        rw [whole, pieces_slash, List.head?_append_of_ne_nil _ (pieces_ne_nil front)]
        rcases begins with rfl | rfl
        · rfl
        · rw [pieces_slash, List.head?_append_of_ne_nil _ (pieces_ne_nil front)]
      rw [beginning, beginning, isAbsolute_join empty relative, head]
    rw [components, components, components, same, own, names_join empty relative]
    simp

end Path

/-- A component's name is refused, whatever is in the file system, or its path has names for
components and nothing else.  Refused are the empty name, a name with the character that ends paths,
and a name with a component that is none.  Of any other, the names in its path lead to its file from
the components directory: they stand behind the components of any root that the path is joined to,
and loading the component is reading the text at that one path. -/
theorem loader_confined [DirectoryWalk] (name : Text) :
    ((name = [] ∨ '\x00' ∈ name ∨ ∃ part ∈ Path.components name, part.isName = false) ∧
      componentFile? name = none ∧ ∀ markups : Markups, markups.loader name = none) ∨
    ∃ names : List Text, names ≠ [] ∧ componentFile? name = some names ∧
      Path.components (componentPath name) = names.map .name ∧
      ∀ (tree : FileTree) (root : Path),
        Path.components (Path.join root (componentPath name)) =
          Path.components root ++ names.map .name ∧
        Markups.loader ((readMarkups root : StateM FileTree _).run tree).1 name =
          (tree.readText (Path.join root (componentPath name))).toOption := by
  cases file : componentFile? name with
  | none =>
      refine .inl ⟨componentFile?_eq_none_iff.1 file, rfl, fun markups => ?_⟩
      rw [Markups.loader, file]
      exact ite_self none
  | some names =>
      obtain ⟨_, _, below, rfl⟩ := componentFile?_eq_some_iff.1 file
      have own := staysBelow_componentPath below
      refine .inr ⟨_, names_componentPath_ne_nil name, rfl, components_of_staysBelow own,
        fun tree root => ⟨?_, ?_⟩⟩
      · rw [Path.components_join root own, components_of_staysBelow own]
      · exact loader_eq_readText file

/-- A components directory with a component in a directory of its own, and a file beside it. -/
def buttonTree : FileTree :=
  ⟨.directory [("parts".toList, .directory
      [("buttons".toList, .directory [("go.html".toList, .file (some "<b>Go</b>".toList))])]),
    ("secret.html".toList, .file (some "?".toList))], []⟩

/-- The component is loaded, and the name of the file beside the directory is refused. -/
theorem loader_confined_button :
    Markups.loader ((readMarkups "parts".toList : StateM FileTree _).run buttonTree).1
        "buttons/go".toList = some "<b>Go</b>".toList ∧
      ∀ markups : Markups, markups.loader "../secret".toList = none := by
  constructor
  · rcases loader_confined "buttons/go".toList with ⟨_, refused, _⟩ | ⟨names, _, _, _, read⟩
    · exact absurd refused (by decide)
    · exact (read buttonTree "parts".toList).2.trans (by decide +kernel)
  · rcases loader_confined "../secret".toList with ⟨_, _, refused⟩ | ⟨names, _, accepted, _⟩
    · exact refused
    · exact absurd (accepted.symm.trans (by decide : _ = none)) (by simp)

/-- A slash at the end of a name leaves the extension alone in the name of the file. -/
example : componentFile? "a/./b/".toList = some ["a".toList, "b".toList, ".html".toList] := by
  decide

end MailTemplate
