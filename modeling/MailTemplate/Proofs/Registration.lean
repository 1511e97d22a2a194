/-
Module: MailTemplate.Proofs.Registration
Purpose: The engines of a registry after any history of registrations and loads.
Main exports: Engine.IsSound, Engine.flaw?_eq_none_iff, FileTree.Defines,
  FileTree.engineAt?_eq_some_iff, FileTree.DefinesIn, Registry.loadDirectory_run, Registry.Lists,
  RegistryAction, RegistryAction.perform_run, Registry.Lists.after, Registry.history_reflected
-/
import MailTemplate.Engine.Registry
import MailTemplate.Proofs.FileTree
import MailTemplate.Proofs.Placeholder
import MailTemplate.Toml.Document

/-!
A registry changes by registering dialects, one at a time or the engines that a directory defines,
and by the bound for loops.  Whatever the files are at the time, a directory is loaded as the list
of the engines that its definitions give, in ascending order of their paths; files that define none
are passed over.

So every history is a row of dialects registered one after another.  What the registry has under an
extension is the last of the row with that extension: registering keeps this for the row with one
dialect more, hence every action keeps it, and a history by induction on its actions.
-/

namespace MailTemplate

/-! ### Definitions -/

namespace Engine

/-- An engine without a flaw: its name and its extension are not blank, and its patterns have a
place for the key. -/
structure IsSound (engine : Engine) : Prop where
  name : Text.trim engine.name ≠ []
  extension : Text.trim engine.extension ≠ []
  variablePattern : keyMark <:+: engine.variablePattern
  indexedPattern : ∀ pattern ∈ engine.indexedPattern, keyMark <:+: pattern

/-- A pattern has a place for the key where the mark for it stands. -/
theorem occurs_keyMarks_iff (t : Text) : keyMarks.occurs t = true ↔ keyMark <:+: t := by
  induction t with
  | nil => decide
  | cons c t ih =>
      have here : (keyMarks.read (c :: t)).isSome = true ↔ keyMark <+: c :: t := by
        rw [read_keyMarks, Option.isSome_map, ← Text.startsWith_iff, Text.startsWith]
      rw [Pattern.occurs_cons, Bool.or_eq_true, here, ih, List.infix_cons_iff]

/-- The checks of a definition find no flaw in a sound engine, and in no other. -/
theorem flaw?_eq_none_iff {engine : Engine} : engine.flaw? = none ↔ engine.IsSound := by
  have clear (condition : Bool) (flaw : EngineFlaw) (rest : Option EngineFlaw) :
      (if condition = true then some flaw else rest) = none ↔ condition = false ∧ rest = none := by
    cases condition <;> simp
  have patterns : (engine.indexedPattern.any fun pattern => !keyMarks.occurs pattern) = false ↔
      ∀ pattern ∈ engine.indexedPattern, keyMark <:+: pattern := by
    cases engine.indexedPattern <;> simp [occurs_keyMarks_iff]
  rw [flaw?, clear, clear, clear, clear, patterns, Bool.not_eq_false', occurs_keyMarks_iff,
    List.isEmpty_eq_false_iff, List.isEmpty_eq_false_iff]
  constructor
  · rintro ⟨name, extension, variablePattern, indexedPattern, _⟩
    exact ⟨name, extension, variablePattern, indexedPattern⟩
  · rintro ⟨name, extension, variablePattern, indexedPattern⟩
    exact ⟨name, extension, variablePattern, indexedPattern, rfl⟩

/-- A document gives an engine if it has the fields of one without a flaw. -/
theorem toOption_ofDocument_eq_some_iff [Toml.Reader] {document : Text} {engine : Engine} :
    (ofDocument document).toOption = some engine ↔
      ∃ fields, Toml.read? document = some fields ∧ ofFields? fields = some engine ∧
        engine.IsSound := by
  have given : (Toml.read? document).bind ofFields? = some engine ↔
      ∃ fields, Toml.read? document = some fields ∧ ofFields? fields = some engine :=
    Option.bind_eq_some_iff
  have checked : (ofDocument document).toOption = some engine ↔
      (Toml.read? document).bind ofFields? = some engine ∧ engine.flaw? = none := by
    rw [ofDocument]
    cases (Toml.read? document).bind ofFields? with
    | none => simp [Except.toOption]
    | some other =>
        dsimp only
        cases flaw : other.flaw? with
        | none => exact ⟨fun same => ⟨same, Option.some.inj same ▸ flaw⟩, And.left⟩
        | some found =>
            refine ⟨fun same => absurd same (by simp [Except.toOption]), fun ⟨same, clear⟩ => ?_⟩
            rw [← Option.some.inj same, flaw] at clear
            exact absurd clear (by simp)
  rw [checked, given, flaw?_eq_none_iff]
  constructor
  · rintro ⟨⟨fields, read, gives⟩, sound⟩
    exact ⟨fields, read, gives, sound⟩
  · rintro ⟨fields, read, gives, sound⟩
    exact ⟨⟨fields, read, gives⟩, sound⟩

end Engine

section Reading

variable [Toml.Reader]

namespace FileTree

variable (tree : FileTree)

/-- A file defines an engine: its text is a document with the fields of an engine without a flaw. -/
def Defines (path : Path) (engine : Engine) : Prop :=
  ∃ document fields, tree.readText path = .ok document ∧ Toml.read? document = some fields ∧
    Engine.ofFields? fields = some engine ∧ engine.IsSound

/-- The engine that a file defines, if it does. -/
def engineAt? (path : Path) : Option Engine :=
  (tree.readText path).toOption.bind fun document => (Engine.ofDocument document).toOption

/-- What a file defines is what it is read as. -/
theorem engineAt?_eq_some_iff {path : Path} {engine : Engine} :
    tree.engineAt? path = some engine ↔ tree.Defines path engine := by
  rw [engineAt?, Defines]
  cases tree.readText path with
  | error e => simp [Except.toOption]
  | ok document =>
      rw [Except.toOption, Option.bind_some, Engine.toOption_ofDocument_eq_some_iff]
      simp

/-- A file of a directory, by its name. -/
def HasFile (directory : Path) (name : Text) : Prop :=
  ∃ entries text, tree.node? directory = some (.directory entries) ∧ (name, .file text) ∈ entries

/-- The engines that a directory defines: those of its files with the extension of definitions, in
ascending order of the names, in which alone the paths differ. -/
def DefinesIn (directory : Path) (engines : List Engine) : Prop :=
  ∃ names : List Text, (names.Pairwise fun a b => a.precedes b = true) ∧
    (∀ name, name ∈ names ↔
      tree.HasFile directory name ∧ fileExtension? name = some definitionExtension) ∧
    engines = names.filterMap fun name => tree.engineAt? (Path.join directory name)

/-- The engines that a directory defines, as they are loaded. -/
def enginesIn (directory : Path) : List Engine :=
  (definitionNames (tree.filesIn directory)).filterMap fun name =>
    tree.engineAt? (Path.join directory name)

omit [Toml.Reader] in
/-- Listed of a directory are the names of its files. -/
theorem mem_filesIn_iff {directory : Path} {name : Text} :
    name ∈ tree.filesIn directory ↔ tree.HasFile directory name := by
  rw [filesIn, HasFile]
  cases tree.node? directory with
  | none => simp
  | some node =>
      cases node with
      | file text => simp [FileNode.entries]
      | directory entries =>
          simp only [FileNode.entries, List.mem_map, List.mem_filter, Option.some.injEq,
            FileNode.directory.injEq]
          constructor
          · rintro ⟨⟨name, node⟩, ⟨inside, kind⟩, rfl⟩
            cases node with
            | file text => exact ⟨entries, text, rfl, inside⟩
            | directory others => exact absurd kind (by simp [FileNode.kind])
          · rintro ⟨_, text, rfl, inside⟩
            exact ⟨(name, .file text), ⟨inside, rfl⟩, rfl⟩

/-- The engines of a directory come in the order of the paths they are defined at. -/
theorem definesIn_enginesIn (directory : Path) :
    tree.DefinesIn directory (tree.enginesIn directory) := by
  refine ⟨_, ?_, fun name => ?_, rfl⟩
  · exact (Table.keys_ascending _).filter _
  · rw [definitionNames, List.mem_filter, Table.mem_keys_iff, ← mem_filesIn_iff, beq_iff_eq]
    exact and_congr_left fun _ => Names.contains_ofList_iff _ name

/-- Where there is no directory, no engines are defined. -/
theorem enginesIn_eq_nil {directory : Path}
    (missing : ∀ entries, tree.node? directory ≠ some (.directory entries)) :
    tree.enginesIn directory = [] := by
  have empty : tree.filesIn directory = [] := List.eq_nil_iff_forall_not_mem.2 fun name inside => by
    obtain ⟨entries, _, here, _⟩ := tree.mem_filesIn_iff.1 inside
    exact missing entries here
  rw [enginesIn, empty]
  rfl

end FileTree

/-! ### Loading -/

/-- Dialects registered one after another. -/
def Registry.registerAll (registry : Registry) (dialects : List Dialect) : Registry :=
  dialects.foldl register registry

/-- Loading a single file gives the engine that it defines, and changes nothing. -/
theorem loadEngine_run (tree : FileTree) (path : Path) :
    ∃ answer, (loadEngine path : StateM FileTree _).run tree = (answer, tree) ∧
      answer.toOption = tree.engineAt? path := by
  rw [loadEngine, run_bind_of_run (run_readText tree path), FileTree.engineAt?]
  cases tree.readText path with
  | error e => exact ⟨_, rfl, rfl⟩
  | ok document =>
      rw [Except.toOption, Option.bind_some]
      dsimp only
      cases Engine.ofDocument document <;> exact ⟨_, rfl, rfl⟩

/-- Files that define no engine are passed over; the others are registered one after another. -/
theorem Registry.loadFiles_run (tree : FileTree) (paths : List Path) (registry : Registry) :
    (registry.loadFiles paths : StateM FileTree _).run tree =
      ((registry.registerAll ((paths.filterMap tree.engineAt?).map Engine.dialect),
        (paths.filterMap tree.engineAt?).length), tree) := by
  induction paths generalizing registry with
  | nil => rfl
  | cons path paths ih =>
      obtain ⟨answer, ran, same⟩ := loadEngine_run tree path
      rw [loadFiles, run_bind_of_run ran, List.filterMap_cons, ← same]
      cases answer with
      | error fault => exact ih registry
      | ok engine =>
          rw [run_bind_of_run (ih _)]
          rfl

/-- Loading a directory registers the engines that it defines and counts them. -/
theorem Registry.loadDirectory_run (tree : FileTree) (directory : Path) (registry : Registry) :
    (registry.loadDirectory directory : StateM FileTree _).run tree =
      ((registry.registerAll ((tree.enginesIn directory).map Engine.dialect),
        (tree.enginesIn directory).length), tree) := by
  have listed : (filesIn directory : StateM FileTree _).run tree =
      (tree.filesIn directory, tree) := rfl
  rw [loadDirectory, run_bind_of_run listed, loadFiles_run, List.filterMap_map]
  rfl

end Reading

/-! ### What a registry has -/

namespace Registry

variable {registry : Registry} {registered : List Dialect}

/-- Of dialects registered one after another, a registry has under each extension the last one. -/
def Lists (registry : Registry) (registered : List Dialect) : Prop :=
  ∀ extension, registry.get? extension =
    registered.reverse.find? fun dialect => dialect.extension == extension

/-- The dialect registered last is the one under its extension. -/
theorem Lists.register (lists : registry.Lists registered) (dialect : Dialect) :
    (registry.register dialect).Lists (registered ++ [dialect]) := by
  intro extension
  rw [List.reverse_append, List.reverse_singleton, List.singleton_append, List.find?_cons]
  by_cases same : dialect.extension = extension
  · subst same
    simp [get?, Registry.register]
  · have other : (dialect.extension == extension) = false := by simpa using same
    rw [other, ← lists extension]
    exact Table.get?_insert_of_ne registry.engines dialect (Ne.symm same)

/-- By this step, dialects may be registered one after another. -/
theorem Lists.registerAll (lists : registry.Lists registered) (dialects : List Dialect) :
    (registry.registerAll dialects).Lists (registered ++ dialects) := by
  induction dialects generalizing registry registered with
  | nil => rwa [List.append_nil]
  | cons dialect dialects ih =>
      rw [← List.singleton_append, ← List.append_assoc]
      exact ih (lists.register dialect)

/-- Nothing is under an extension that no dialect was registered under. -/
theorem Lists.get?_eq_none_iff (lists : registry.Lists registered) (extension : Text) :
    registry.get? extension = none ↔ ∀ dialect ∈ registered, dialect.extension ≠ extension := by
  rw [lists extension, List.find?_eq_none]
  simp

/-- Converting fails for the extensions that no dialect was registered under, and for no others. -/
theorem Lists.convert_iff (lists : registry.Lists registered) (content extension : Text) :
    registry.convert content extension = .error (.unknownEngine extension) ↔
      ∀ dialect ∈ registered, dialect.extension ≠ extension := by
  rw [← lists.get?_eq_none_iff, convert]
  cases registry.get? extension <;> simp

end Registry

/-! ### Histories -/

/-- What can be done with a registry. -/
inductive RegistryAction where
  | register (dialect : Dialect)
  | loadDirectory (directory : Path)
  | loadFile (path : Path)
  | limit (iterations : Nat)

section Histories

variable [Toml.Reader]

namespace RegistryAction

/-- The registry after an action.  A single file is read for what it defines alone. -/
def perform {m : Type → Type} [Monad m] [FileAccess m] (registry : Registry) :
    RegistryAction → m Registry
  | .register dialect => return registry.register dialect
  | .loadDirectory directory => return (← registry.loadDirectory directory).1
  | .loadFile path => do
      let _ ← loadEngine path
      return registry
  | .limit iterations => return { registry with iterations }

/-- The dialects that an action registers, one after another. -/
def dialects (tree : FileTree) : RegistryAction → List Dialect
  | .register dialect => [dialect]
  | .loadDirectory directory => (tree.enginesIn directory).map Engine.dialect
  | .loadFile _ => []
  | .limit _ => []

/-- An action leaves the files as they are, and what a registry has is told by one longer row. -/
theorem perform_run (tree : FileTree) {registry : Registry} {registered : List Dialect}
    (lists : registry.Lists registered) (action : RegistryAction) :
    ∃ next, (action.perform registry : StateM FileTree _).run tree = (next, tree) ∧
      next.Lists (registered ++ action.dialects tree) := by
  cases action with
  | register dialect => exact ⟨_, rfl, lists.register dialect⟩
  | loadDirectory directory =>
      refine ⟨registry.registerAll ((tree.enginesIn directory).map Engine.dialect), ?_,
        lists.registerAll _⟩
      rw [perform, run_bind_of_run (Registry.loadDirectory_run tree directory registry)]
      rfl
  | loadFile path =>
      obtain ⟨answer, ran, _⟩ := loadEngine_run tree path
      refine ⟨registry, ?_, by rwa [dialects, List.append_nil]⟩
      rw [perform, run_bind_of_run ran]
      rfl
  | limit iterations => exact ⟨_, rfl, by rwa [dialects, List.append_nil]⟩

end RegistryAction

namespace Registry

/-- The registry after a history: actions, each with the files as they are when it is performed. -/
def after (registry : Registry) (history : List (FileTree × RegistryAction)) : Registry :=
  history.foldl (fun registry step =>
    ((step.2.perform registry : StateM FileTree _).run step.1).1) registry

/-- The dialects that a history registers, one after another. -/
def dialectsOf (history : List (FileTree × RegistryAction)) : List Dialect :=
  history.flatMap fun step => step.2.dialects step.1

/-- By the steps of its actions, a history makes the row longer by all that it registers. -/
theorem Lists.after {registry : Registry} {registered : List Dialect}
    (lists : registry.Lists registered) (history : List (FileTree × RegistryAction)) :
    (registry.after history).Lists (registered ++ dialectsOf history) := by
  induction history generalizing registry registered with
  | nil => rwa [dialectsOf, List.flatMap_nil, List.append_nil]
  | cons step history ih =>
      obtain ⟨next, ran, longer⟩ := step.2.perform_run step.1 lists
      have first : registry.after (step :: history) = next.after history := by
        rw [Registry.after, List.foldl_cons, ran, Registry.after]
      rw [first, dialectsOf, List.flatMap_cons, ← List.append_assoc]
      exact ih longer

/-- The dialects that a registry begins with. -/
def initial (withBuiltin : Bool) : List Dialect :=
  if withBuiltin then Engine.builtin.map Engine.dialect else []

/-- The registry that a history begins with: the one without engines, or the one with those that are
always there. -/
def start (withBuiltin : Bool) : Registry :=
  if withBuiltin then builtin else empty

omit [Toml.Reader] in
/-- Built-in dialects are registered like others. -/
theorem lists_start (withBuiltin : Bool) : (start withBuiltin).Lists (initial withBuiltin) := by
  have first : empty.Lists [] := fun _ => rfl
  cases withBuiltin with
  | false => exact first
  | true => exact first.registerAll (Engine.builtin.map Engine.dialect)

omit [Toml.Reader] in
/-- A registry lists its extensions in the order of its table. -/
theorem available_ascending (registry : Registry) :
    (registry.available.map Prod.fst).Pairwise fun a b => a.precedes b = true := by
  rw [available, List.map_map]
  exact registry.engines.keys_ascending

omit [Toml.Reader] in
/-- What a registry lists is what it finds. -/
theorem mem_available_iff (registry : Registry) {extension name : Text} :
    (extension, name) ∈ registry.available ↔
      ∃ dialect, registry.get? extension = some dialect ∧ dialect.name = name := by
  rw [available, List.mem_map]
  constructor
  · rintro ⟨⟨other, dialect⟩, inside, same⟩
    obtain ⟨rfl, rfl⟩ := Prod.mk.inj same
    exact ⟨dialect, lookup_of_nodup registry.engines.nodup_keys inside, rfl⟩
  · rintro ⟨dialect, found, rfl⟩
    exact ⟨(extension, dialect), mem_of_lookup found, rfl⟩

/-- After every history a registry lists its extensions in ascending order, each with the name of
the dialect there; this is the last one that was registered under the extension; and converting
fails for the extensions under which none was.  What a history registers are the dialects that it
names and the engines that directories define; loading a directory counts them, and where there is
no directory nothing is registered. -/
theorem history_reflected (withBuiltin : Bool) (history : List (FileTree × RegistryAction)) :
    let registry := (start withBuiltin).after history
    let registered := initial withBuiltin ++ dialectsOf history
    ((registry.available.map Prod.fst).Pairwise fun a b => a.precedes b = true) ∧
      (∀ extension name, (extension, name) ∈ registry.available ↔
        ∃ dialect, registry.get? extension = some dialect ∧ dialect.name = name) ∧
      registry.Lists registered ∧
      (∀ content extension,
        registry.convert content extension = .error (.unknownEngine extension) ↔
          ∀ dialect ∈ registered, dialect.extension ≠ extension) ∧
      (∀ (tree : FileTree) directory, ∃ engines, tree.DefinesIn directory engines ∧
        (RegistryAction.loadDirectory directory).dialects tree = engines.map Engine.dialect ∧
        (registry.loadDirectory directory : StateM FileTree _).run tree =
          ((registry.registerAll (engines.map Engine.dialect), engines.length), tree)) ∧
      (∀ (tree : FileTree) directory,
        (∃ entries, tree.node? directory = some (.directory entries)) ∨
          (registry.loadDirectory directory : StateM FileTree _).run tree =
            ((registry, 0), tree)) ∧
      (∀ (tree : FileTree) path, ∃ answer,
        (loadEngine path : StateM FileTree _).run tree = (answer, tree) ∧
          answer.toOption = tree.engineAt? path) ∧
      ∀ (tree : FileTree) path engine,
        tree.engineAt? path = some engine ↔ tree.Defines path engine := by
  intro registry registered
  have lists : registry.Lists registered := (lists_start withBuiltin).after history
  refine ⟨registry.available_ascending, fun _ _ => registry.mem_available_iff, lists,
    lists.convert_iff, fun tree directory => ?loaded, fun tree directory => ?missing,
    loadEngine_run, fun tree _ _ => tree.engineAt?_eq_some_iff⟩
  case loaded =>
    exact ⟨_, tree.definesIn_enginesIn directory, rfl, loadDirectory_run tree directory registry⟩
  case missing =>
    refine or_iff_not_imp_left.2 fun missing => ?_
    rw [loadDirectory_run, tree.enginesIn_eq_nil (not_exists.1 missing)]
    rfl

end Registry

end Histories

/-- A directory with an engine definition, one without a pattern, and a file that is none. -/
def definitionsTree : FileTree :=
  ⟨.directory [("engines".toList, .directory
    [("stars.toml".toList, .file (some
        "name = \"Stars\"\nextension = \"star\"\nvariable = \"*\x7bkey\x7d*\"\n".toList)),
      ("bare.toml".toList, .file (some "name = \"Bare\"\nextension = \"star\"\n".toList)),
      ("notes.txt".toList, .file (some "name = \"Notes\"\n".toList))])], []⟩

/-- Built-in engines, those of the directory, and the bare definition by itself. -/
def starHistory : List (FileTree × RegistryAction) :=
  [(definitionsTree, .register Engine.liquid), (definitionsTree, .loadDirectory "engines".toList),
    (definitionsTree, .loadFile "engines/bare.toml".toList)]

/-- Only the definition with a pattern is registered. -/
theorem history_reflected_stars :
    (((Registry.start false).after starHistory).get? "star".toList).map Dialect.name =
        some "Stars".toList ∧
      ((Registry.start false).after starHistory).convert [] "toml".toList =
        .error (.unknownEngine "toml".toList) := by
  obtain ⟨_, _, lists, unknown, _⟩ := Registry.history_reflected false starHistory
  constructor
  · rw [lists]
    decide +kernel
  · refine (unknown [] "toml".toList).2 ?_
    have extensions : ∀ extension ∈ (Registry.initial false ++
        Registry.dialectsOf starHistory).map Dialect.extension, extension ≠ "toml".toList := by
      decide +kernel
    exact fun dialect inside => extensions _ (List.mem_map_of_mem inside)

end MailTemplate
