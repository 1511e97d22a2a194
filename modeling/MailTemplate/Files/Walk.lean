/-
Module: MailTemplate.Files.Walk
Purpose: A walk through directories, entry by entry.
Main exports: FileNode.survey
-/
import MailTemplate.Files.Tree

/-!
The walk goes into each entry in turn, in the order in which the entries stand.  Of several gaps it tells
about the first.
-/

namespace MailTemplate

namespace FileNode

mutual

/-- What is found at a path and below it. -/
def survey (path : Path) : FileNode → Survey
  | .file _ => ⟨[[]], none⟩
  | .directory entries =>
      if Path.isTooLong path then ⟨[], some (path, .nameTooLong)⟩ else surveyOf path entries

/-- What is found below the entries of a directory. -/
def surveyOf (path : Path) : List (Text × FileNode) → Survey
  | [] => .empty
  | (name, node) :: entries => ((survey (Path.join path name) node).under name).and (surveyOf path entries)

end

mutual

theorem mem_survey_files_iff {path : Path} {node : FileNode} {file : List Text} :
    file ∈ (survey path node).files ↔ node.Reached path file := by
  cases node with
  | file text =>
      rw [survey, List.mem_singleton]
      constructor
      · rintro rfl
        exact .here text
      · rintro ⟨⟩
        rfl
  | directory entries =>
      rw [survey]
      split
      · rename_i long
        refine ⟨fun inside => absurd inside (by simp), ?_⟩
        rintro ⟨⟩
        simp_all
      · rename_i short
        rw [mem_surveyOf_files_iff]
        constructor
        · rintro ⟨name, inner, names, rfl, entry, rest⟩
          exact .inside (by simpa using short) entry rest
        · rintro (_ | ⟨_, entry, rest⟩)
          exact ⟨_, _, _, rfl, entry, rest⟩

theorem mem_surveyOf_files_iff {path : Path} {entries : List (Text × FileNode)}
    {file : List Text} : file ∈ (surveyOf path entries).files ↔ ∃ name inner names,
      file = name :: names ∧ (name, inner) ∈ entries ∧
        inner.Reached (Path.join path name) names := by
  cases entries with
  | nil => simp [surveyOf, Survey.empty]
  | cons entry entries =>
      obtain ⟨name, node⟩ := entry
      rw [surveyOf, Survey.and, List.mem_append, mem_surveyOf_files_iff, Survey.under, List.mem_map]
      constructor
      · rintro (⟨names, inside, rfl⟩ | ⟨other, inner, names, rfl, later, rest⟩)
        · exact ⟨name, node, names, rfl, List.mem_cons_self, mem_survey_files_iff.1 inside⟩
        · exact ⟨other, inner, names, rfl, List.mem_cons_of_mem _ later, rest⟩
      · rintro ⟨other, inner, names, rfl, here, rest⟩
        rcases List.mem_cons.1 here with same | later
        · obtain ⟨rfl, rfl⟩ := Prod.mk.inj same
          exact .inl ⟨names, mem_survey_files_iff.2 rest, rfl⟩
        · exact .inr ⟨other, inner, names, rfl, later, rest⟩

end

mutual

theorem survey_gap_eq_none_iff {path : Path} {node : FileNode} :
    (survey path node).gap = none ↔ node.IsReadable path := by
  cases node with
  | file text => simpa [survey] using IsReadable.file text
  | directory entries =>
      rw [survey]
      split
      · rename_i long
        refine ⟨fun gap => absurd gap (by simp), ?_⟩
        rintro ⟨⟩
        simp_all
      · rename_i short
        rw [surveyOf_gap_eq_none_iff]
        constructor
        · intro each
          exact .directory (by simpa using short) each
        · rintro (_ | ⟨_, each⟩)
          exact each

theorem surveyOf_gap_eq_none_iff {path : Path} {entries : List (Text × FileNode)} :
    (surveyOf path entries).gap = none ↔
      ∀ entry ∈ entries, entry.2.IsReadable (Path.join path entry.1) := by
  cases entries with
  | nil => simp [surveyOf, Survey.empty]
  | cons entry entries =>
      obtain ⟨name, node⟩ := entry
      rw [surveyOf, Survey.and, Option.or_eq_none_iff, surveyOf_gap_eq_none_iff, Survey.under,
        survey_gap_eq_none_iff, List.forall_mem_cons]

end

end FileNode

instance : DirectoryWalk where
  survey := FileNode.survey
  mem_files_iff := FileNode.mem_survey_files_iff
  gap_eq_none_iff := FileNode.survey_gap_eq_none_iff

end MailTemplate
