/-
Module: MailTemplate.Proofs.Inventory
Purpose: The catalog of a components directory has the names that can be loaded from it.
Main exports: splitExtension?_eq_some_iff, componentName?_eq_some_iff, FileNode.HoldsMarkup,
  FileNode.HoldsDotted, contains_catalogOf_iff, isSome_loader_iff, catalog_matches_loader
-/
import MailTemplate.Files.Walk
import MailTemplate.Proofs.Loading

/-!
The catalog goes from files to names: it takes the extension off and leaves out what is no name.  The
loader goes from names to files: it puts the extension on and refuses what is no name.  On the names
whose pieces are all names the two are inverse to each other.

They differ where a file has nothing but a dot or two in front of its extension.  Of such a file
only the directory is left in its name, so that the catalog has a component under the directory's
name, and the loader looks for it in a file beside the directory.
-/

namespace MailTemplate

/-! ### Extensions -/

/-- A name falls into a stem and an extension at its last dot. -/
theorem splitExtension?_eq_some_iff {name stem extension : Text} :
    splitExtension? name = some (stem, extension) ↔
      name = stem ++ '.' :: extension ∧ stem ≠ [] ∧ '.' ∉ extension ∧ name ≠ Path.up := by
  constructor
  · intro split
    unfold splitExtension? at split
    split at split
    · rename_i behind front reversed
      obtain ⟨whole, clear⟩ := Text.splitFirst_eq_some_iff.1 reversed
      have whole : name = front.reverse ++ '.' :: behind.reverse := by
        rw [← List.reverse_reverse name, whole]
        simp
      split at split
      · exact absurd split (by simp)
      · rename_i proper
        obtain ⟨rfl, rfl⟩ := Prod.mk.inj (Option.some.inj split)
        rw [Bool.or_eq_true, not_or] at proper
        exact ⟨whole, by simpa using proper.1, by simpa using clear, by simpa using proper.2⟩
    · exact absurd split (by simp)
  · rintro ⟨rfl, nonempty, clear, other⟩
    have reversed : Text.splitFirst '.' (stem ++ '.' :: extension).reverse =
        some (extension.reverse, stem.reverse) :=
      Text.splitFirst_eq_some_iff.2 ⟨by simp, by simpa using clear⟩
    simp only [splitExtension?, reversed]
    simp [nonempty, other]

/-! ### Files with markup -/

/-- A name with the extension of markup has it and the name as its stem, unless the name is
empty. -/
theorem splitExtension?_componentPath {stem : Text} (nonempty : stem ≠ []) :
    splitExtension? (componentPath stem) = some (stem, markupExtension) := by
  refine splitExtension?_eq_some_iff.2 ⟨rfl, nonempty, by decide, fun same => ?_⟩
  have size := congrArg List.length same
  simp [componentPath, markupExtension, Path.up] at size

theorem fileExtension?_eq_some_iff {last : Text} :
    fileExtension? last = some markupExtension ↔ ∃ stem, stem ≠ [] ∧ last = componentPath stem := by
  constructor
  · intro found
    obtain ⟨⟨stem, extension⟩, split, rfl⟩ := Option.map_eq_some_iff.1 found
    obtain ⟨whole, nonempty, _, _⟩ := splitExtension?_eq_some_iff.1 split
    exact ⟨stem, nonempty, whole⟩
  · rintro ⟨stem, nonempty, rfl⟩
    rw [fileExtension?, splitExtension?_componentPath nonempty]
    rfl

/-- The stems that are no names. -/
def dottedStems : List Text :=
  [['.'], Path.up]

/-- A stem is a name unless it is a dot or two. -/
theorem mem_dottedStems_of_not_name {stem : Text} (nonempty : stem ≠ [])
    (other : Path.isNamePiece stem = false) : stem ∈ dottedStems := by
  by_contra absent
  simp [dottedStems] at absent
  simp [Path.isNamePiece, Path.isIdle, nonempty, absent] at other

/-- A file with markup has the name that its names and its stem make up, as far as they are
names. -/
theorem componentName?_markup (folders : List Text) {stem : Text} (nonempty : stem ≠ []) :
    componentName? (folders ++ [componentPath stem]) =
      if ((folders ++ [stem]).filter Path.isNamePiece).isEmpty then none
      else some (Text.join ['/'] ((folders ++ [stem]).filter Path.isNamePiece)) := by
  have split := splitExtension?_componentPath nonempty
  simp only [componentName?, List.getLast?_concat, fileExtension?, fileStem, split, Option.map_some,
    List.dropLast_concat, bne_self_eq_false, Bool.false_eq_true, if_false]
  rfl

/-- The catalog has a file under a name if the loader looks there for the name, or if the file has a
dotted stem in the directory of the name. -/
theorem componentName?_eq_some_iff {file : List Text} {name : Text}
    (proper : ∀ piece ∈ file, FileTree.isFileName piece = true) :
    componentName? file = some name ↔ Path.isCanonical name = true ∧
      (file = Path.pieces (componentPath name) ∨
        ∃ stem ∈ dottedStems, file = Path.pieces name ++ [componentPath stem]) := by
  constructor
  · intro read
    obtain ⟨folders, last, rfl⟩ : ∃ folders last, file = folders ++ [last] := by
      cases ends : file.getLast? with
      | none => simp [componentName?, ends] at read
      | some last => exact ⟨_, last, (List.getLast?_eq_some_iff.1 ends).choose_spec⟩
    obtain ⟨stem, nonempty, rfl⟩ : ∃ stem, stem ≠ [] ∧ last = componentPath stem := by
      refine fileExtension?_eq_some_iff.1 ?_
      by_contra other
      simp [componentName?, other] at read
    have named (piece : Text) (inside : piece ∈ folders) : Path.isNamePiece piece = true ∧
        '/' ∉ piece ∧ '\x00' ∉ piece := by
      obtain ⟨own, slash, nul, _⟩ :=
        FileTree.isFileName_iff.1 (proper piece (List.mem_append_left _ inside))
      exact ⟨own, slash, nul⟩
    have kept : folders.filter Path.isNamePiece = folders :=
      List.filter_eq_self.2 fun piece inside => (named piece inside).1
    rw [componentName?_markup folders nonempty, List.filter_append, kept] at read
    -- Without its extension the file name may be dots alone, and then joining drops it.
    cases own : Path.isNamePiece stem with
    | true =>
        obtain rfl : Text.join ['/'] (folders ++ [stem]) = name := by simpa [own] using read
        obtain ⟨_, slash, nul, _⟩ := FileTree.isFileName_iff.1 (proper (componentPath stem) (by simp))
        have all (piece : Text) (inside : piece ∈ folders ++ [stem]) :
            Path.isNamePiece piece = true ∧ '/' ∉ piece ∧ '\x00' ∉ piece := by
          rcases List.mem_append.1 inside with early | last
          · exact named piece early
          · rw [List.mem_singleton.1 last]
            exact ⟨own, fun inside => slash (List.mem_append_left _ inside),
              fun inside => nul (List.mem_append_left _ inside)⟩
        obtain ⟨pieces, canonical⟩ := Path.pieces_join_names (by simp) all
        exact ⟨canonical, .inl (pieces_componentPath pieces).symm⟩
    | false =>
        have foldered : folders ≠ [] := by
          rintro rfl
          simp [own] at read
        obtain rfl : Text.join ['/'] folders = name := by simpa [own, foldered] using read
        obtain ⟨pieces, canonical⟩ := Path.pieces_join_names foldered named
        exact ⟨canonical, .inr ⟨stem, mem_dottedStems_of_not_name nonempty own, by rw [pieces]⟩⟩
  · rintro ⟨canonical, found⟩
    have all := Path.filter_pieces_of_isCanonical canonical
    rcases found with rfl | ⟨stem, dotted, rfl⟩
    · obtain ⟨folders, stem, split⟩ := Path.exists_stem name
      have nonempty : stem ≠ [] := by
        rintro rfl
        have own := (Path.isCanonical_iff.1 canonical).2 [] (by simp [split])
        exact absurd own (by decide)
      rw [pieces_componentPath split, componentName?_markup folders nonempty, ← split, all,
        Path.join_pieces, if_neg (by simp [Path.pieces_ne_nil])]
    · have nameless : Path.isNamePiece stem = false ∧ stem ≠ [] := by
        have each : ∀ stem ∈ dottedStems, Path.isNamePiece stem = false ∧ stem ≠ [] := by decide
        exact each stem dotted
      rw [componentName?_markup _ nameless.2, List.filter_append, all]
      simp [nameless.1, Path.pieces_ne_nil, Path.join_pieces]

/-! ### Reading the directory -/

section Walks

variable [DirectoryWalk] {tree : FileTree} {root : Path}

theorem scanComponents_run {entries : List (Text × FileNode)}
    (found : tree.node? root = some (.directory entries))
    (readable : (tree.survey root).gap = none) :
    (scanComponents root : StateM FileTree _).run tree =
      (.ok (catalogOf (tree.survey root).files), tree) := by
  rw [scanComponents, run_bind_of_run (run_isDirectory tree root), found]
  change (survey root >>= _ : StateM FileTree _).run tree = _
  rw [run_bind_of_run (run_survey tree root), readable]
  rfl

/-! ### The catalog and the loader -/

namespace FileNode

/-- Below a directory stands the file that the loader looks for under a name. -/
def HoldsMarkup (node : FileNode) (name : Path) : Prop :=
  ∃ text, node.find? (Path.pieces (componentPath name)) = some (.file text)

/-- Below a directory, under a name, stands a file with markup that has a dotted stem. -/
def HoldsDotted (node : FileNode) (name : Path) : Prop :=
  ∃ stem ∈ dottedStems, ∃ text,
    node.find? (Path.pieces name ++ [componentPath stem]) = some (.file text)

end FileNode

section Matching

variable {entries : List (Text × FileNode)} (found : tree.node? root = some (.directory entries))
    (proper : (FileNode.directory entries).IsProper) (readable : (tree.survey root).gap = none)

include found proper readable

/-- A readable directory lists the files that names lead to. -/
theorem mem_survey_iff {file : List Text} : file ∈ (tree.survey root).files ↔
    ∃ text, (FileNode.directory entries).find? file = some (.file text) := by
  rw [FileTree.survey_of_node? found] at readable ⊢
  exact FileNode.mem_survey_iff proper readable

omit [DirectoryWalk] readable in
/-- Reading the file of a canonical name finds the text that stands there in the tree. -/
theorem readText_componentPath {name : Text} (canonical : Path.isCanonical name = true) :
    (tree.readText (Path.join root (componentPath name))).toOption =
      if Path.isTooLong (Path.join root (componentPath name)) then none
      else
        match (FileNode.directory entries).find? (Path.pieces (componentPath name)) with
        | some (.file text) => text
        | _ => none := by
  have own := isCanonical_componentPath canonical
  have names := Path.names_of_isCanonical own
  have below : Path.up ∉ Path.names (componentPath name) := names ▸ (Path.ne_of_isCanonical own).2.2
  have read := FileTree.readText_below found proper (Path.isAbsolute_of_isCanonical own)
    (Path.isCanonical_iff.1 own).1 below (Path.meansDirectory_of_isCanonical own)
  rw [names] at read
  exact read

/-- A name is in the catalog for its own file or for one with a dotted stem. -/
theorem contains_catalogOf_iff {name : Text} :
    (catalogOf (tree.survey root).files).contains name = true ↔ Path.isCanonical name = true ∧
      ((FileNode.directory entries).HoldsMarkup name ∨
        (FileNode.directory entries).HoldsDotted name) := by
  rw [catalogOf, Names.contains_ofList_iff, List.mem_filterMap]
  constructor
  · rintro ⟨file, inside, read⟩
    obtain ⟨text, stands⟩ := (mem_survey_iff found proper readable).1 inside
    obtain ⟨canonical, own | ⟨stem, dotted, rfl⟩⟩ :=
      (componentName?_eq_some_iff (proper.isFileName_of_find? stands)).1 read
    · exact ⟨canonical, .inl ⟨text, own ▸ stands⟩⟩
    · exact ⟨canonical, .inr ⟨stem, dotted, text, stands⟩⟩
  · rintro ⟨canonical, ⟨text, stands⟩ | ⟨stem, dotted, text, stands⟩⟩
    · have own := proper.isFileName_of_find? stands
      exact ⟨_, (mem_survey_iff found proper readable).2 ⟨text, stands⟩,
        (componentName?_eq_some_iff own).2 ⟨canonical, .inl rfl⟩⟩
    · have own := proper.isFileName_of_find? stands
      exact ⟨_, (mem_survey_iff found proper readable).2 ⟨text, stands⟩,
        (componentName?_eq_some_iff own).2 ⟨canonical, .inr ⟨stem, dotted, rfl⟩⟩⟩

omit readable in
/-- Where all markup is text, a name can be loaded if its file stands there and its path is not too
long. -/
theorem isSome_loader_iff
    (textual : ∀ file text, (FileNode.directory entries).find? file = some (.file text) →
      holdsMarkup file = true → text.isSome = true)
    {name : Text} (canonical : Path.isCanonical name = true) :
    (Markups.loader ((readMarkups root : StateM FileTree _).run tree).1 name).isSome = true ↔
      (FileNode.directory entries).HoldsMarkup name ∧
        Path.isTooLong (Path.join root (componentPath name)) = false := by
  rw [loader_eq_readText (componentFile?_of_isCanonical canonical),
    readText_componentPath found proper canonical]
  cases Path.isTooLong (Path.join root (componentPath name)) with
  | true => simp
  | false =>
      constructor
      · intro loaded
        simp only [Bool.false_eq_true, if_false] at loaded
        split at loaded
        · rename_i text stands
          exact ⟨⟨text, stands⟩, rfl⟩
        · exact absurd loaded (by simp)
      · rintro ⟨⟨text, stands⟩, _⟩
        simp only [Bool.false_eq_true, if_false, stands]
        obtain ⟨folders, stem, split⟩ := Path.exists_stem name
        have markup := holdsMarkup_concat folders stem
        rw [← pieces_componentPath split] at markup
        exact textual _ text stands markup

end Matching

/-- The catalog of a readable components directory, in which all markup is text, has canonical names
alone.  It has those that can be loaded and no others but two kinds: the names of directories with a
file that has a dotted stem, and names whose file stands there with a path that is too long. -/
theorem catalog_matches_loader {tree : FileTree} {root : Path} {entries : List (Text × FileNode)}
    (found : tree.node? root = some (.directory entries))
    (proper : (FileNode.directory entries).IsProper) (readable : (tree.survey root).gap = none)
    (textual : ∀ file text, (FileNode.directory entries).find? file = some (.file text) →
      holdsMarkup file = true → text.isSome = true) :
    ∃ catalog markups, (scanComponents root : StateM FileTree _).run tree = (.ok catalog, tree) ∧
      (readMarkups root : StateM FileTree _).run tree = (markups, tree) ∧
      (∀ name, catalog.contains name = true → Path.isCanonical name = true) ∧
      ∀ name, Path.isCanonical name = true →
        (catalog.contains name = true ↔ (markups.loader name).isSome = true ∨
          (FileNode.directory entries).HoldsDotted name ∨
          (FileNode.directory entries).HoldsMarkup name ∧
            Path.isTooLong (Path.join root (componentPath name)) = true) := by
  have nonempty := (FileTree.of_fault?_eq_none (FileTree.of_node? found).1).2.1
  refine ⟨_, _, scanComponents_run found readable, readMarkups_run nonempty tree,
    fun name cataloged => ((contains_catalogOf_iff found proper readable).1 cataloged).1,
    fun name canonical => ?_⟩
  have loads := isSome_loader_iff found proper textual canonical
  rw [readMarkups_run nonempty] at loads
  rw [contains_catalogOf_iff found proper readable, loads]
  cases Path.isTooLong (Path.join root (componentPath name)) <;> simp [canonical, or_comm]

end Walks

/-- A components directory with two components, one of them in a directory where a file with a dotted
stem is, too. -/
def partials : List (Text × FileNode) :=
  [("card.html".toList, .file (some "<p>Card</p>".toList)),
    ("buttons".toList, .directory
      [("primary.html".toList, .file (some "<b>Go</b>".toList)),
        ("..html".toList, .file (some "?".toList))])]

/-- A file system with the components directory below its root. -/
def partialsTree : FileTree :=
  ⟨.directory [("partials".toList, .directory partials)], []⟩

theorem isProper_partials : (FileNode.directory partials).IsProper := by
  refine .directory (by decide) (by decide) fun entry inside => ?_
  rcases List.mem_pair.1 inside with rfl | rfl
  · exact .file _
  · refine .directory (by decide) (by decide) fun entry inside => ?_
    rcases List.mem_pair.1 inside with rfl | rfl <;> exact .file _

theorem isSome_of_find?_partials {file : List Text} {text : Option Text}
    (stands : (FileNode.directory partials).find? file = some (.file text)) : text.isSome = true := by
  have readable : (FileNode.survey "partials".toList (.directory partials)).gap = none := rfl
  have listed := (FileNode.mem_survey_iff isProper_partials readable).2 ⟨text, stands⟩
  have all : ∀ file ∈ (FileNode.survey "partials".toList (.directory partials)).files,
      (match (FileNode.directory partials).find? file with
        | some (.file text) => text.isSome
        | _ => false) = true := by decide +kernel
  have own := all file listed
  rwa [stands] at own

/-- The button can be loaded and is in the catalog. -/
theorem catalog_matches_loader_partials :
    (partialsTree.node? "partials".toList = some (.directory partials) ∧
      (FileNode.directory partials).IsProper ∧
      (partialsTree.survey "partials".toList).gap = none ∧
      ∀ file text, (FileNode.directory partials).find? file = some (.file text) →
        holdsMarkup file = true → text.isSome = true) ∧
    ∃ catalog markups,
      (scanComponents "partials".toList : StateM FileTree _).run partialsTree =
        (.ok catalog, partialsTree) ∧
      (readMarkups "partials".toList : StateM FileTree _).run partialsTree =
        (markups, partialsTree) ∧
      markups.loader "buttons/primary".toList = some "<b>Go</b>".toList ∧
      catalog.contains "buttons/primary".toList = true := by
  have found : partialsTree.node? "partials".toList = some (.directory partials) := rfl
  have readable : (partialsTree.survey "partials".toList).gap = none := rfl
  have textual (file : List Text) (text : Option Text)
      (stands : (FileNode.directory partials).find? file = some (.file text))
      (_ : holdsMarkup file = true) : text.isSome = true :=
    isSome_of_find?_partials stands
  refine ⟨⟨found, isProper_partials, readable, textual⟩, ?_⟩
  obtain ⟨catalog, markups, scanned, read, _, same⟩ :=
    catalog_matches_loader found isProper_partials readable textual
  obtain rfl : _ = markups := congrArg Prod.fst read
  have loaded : Markups.loader ((readMarkups "partials".toList : StateM FileTree _).run
      partialsTree).1 "buttons/primary".toList = some "<b>Go</b>".toList := rfl
  exact ⟨catalog, _, scanned, rfl, loaded, (same _ (by decide)).2 (.inl (by rw [loaded]; rfl))⟩

/-- The directory of the button is in the catalog, too, but no component of its name can be loaded. -/
theorem buttons_cataloged_not_loaded :
    ((scanComponents "partials".toList : StateM FileTree _).run partialsTree).1.toOption.map
        (fun catalog => catalog.contains "buttons".toList) = some true ∧
      Path.isCanonical "buttons".toList = true ∧
      Markups.loader ((readMarkups "partials".toList : StateM FileTree _).run partialsTree).1
        "buttons".toList = none := by
  refine ⟨?_, ?_, ?_⟩ <;> decide +kernel

end MailTemplate
