/-
Module: MailTemplate.Proofs.Delivery
Purpose: What a command that renders or converts leaves behind in the files.
Main exports: ReadsOnly, FileTree.answer, FileTree.opened, FileTree.rendered, FileTree.converted,
  Delivery, deliver_run, renderFile_run, convertFile_run, commands_deliver
-/
import MailTemplate.Command.Perform
import MailTemplate.Data.Supply
import MailTemplate.Files.Walk
import MailTemplate.Proofs.Loading
import MailTemplate.Proofs.Registration
import MailTemplate.Proofs.Writing
import MailTemplate.Toml.Document

/-!
A command that renders or converts a template first reads: the configuration, the template, the
engines if it converts, and the components.  Reading is composed of steps that each leave every tree
as it is, so all questions are asked of the tree that the command was given, also where the result
is written over one of the files that were read.

Writing comes last and only with a result.  So a command ends in one of four ways: it fails and has
changed nothing, it prints its result and has changed nothing, it writes its result, or it cannot
write it.
-/

namespace MailTemplate

/-! ### Programs that only read -/

/-- A program that only reads leaves every tree as it is. -/
def ReadsOnly {α : Type} (program : StateM FileTree α) : Prop :=
  ∀ tree, (program.run tree).2 = tree

/-- What a program finds in a tree. -/
def FileTree.answer {α : Type} (tree : FileTree) (program : StateM FileTree α) : α :=
  (program.run tree).1

namespace ReadsOnly

variable {α β : Type} {program : StateM FileTree α}

/-- What a program that only reads answers, and the tree it was given. -/
theorem run (reads : ReadsOnly program) (tree : FileTree) :
    program.run tree = (tree.answer program, tree) :=
  Prod.ext rfl (reads tree)

/-- A program whose runs are known to end with the tree they began with only reads. -/
theorem of_run {answer : FileTree → α} (ran : ∀ tree, program.run tree = (answer tree, tree)) :
    ReadsOnly program := fun tree => by
  rw [ran tree]

theorem pure (a : α) : ReadsOnly (Pure.pure a) := fun _ => rfl

/-- Reading goes on with what has been read. -/
theorem bind {next : α → StateM FileTree β} (first : ReadsOnly program)
    (second : ∀ a, ReadsOnly (next a)) : ReadsOnly (program >>= next) := fun tree => by
  rw [run_bind_of_run (first.run tree)]
  exact second _ tree

theorem readText (path : Path) : ReadsOnly (MailTemplate.readText path) := fun _ => rfl

theorem kind? (path : Path) : ReadsOnly (MailTemplate.kind? path) := fun _ => rfl

theorem currentDirectory : ReadsOnly MailTemplate.currentDirectory := fun _ => rfl

/-- Neither the walk through the components nor what cannot be read on it changes a file. -/
theorem readMarkups [DirectoryWalk] (root : Path) : ReadsOnly (MailTemplate.readMarkups root) :=
  of_run fun tree => readMarkups_run_surveyed tree root

/-- Definitions that are skipped change no file either. -/
theorem loadDirectory [Toml.Reader] (registry : Registry) (directory : Path) :
    ReadsOnly (registry.loadDirectory directory) :=
  of_run fun tree => registry.loadDirectory_run tree directory

/-- Where no configuration is given, its path is told by the current directory alone. -/
theorem configurationPath (config : Option Path) :
    ReadsOnly (MailTemplate.configurationPath config) := by
  cases config with
  | some path => exact .pure path
  | none => exact currentDirectory.bind fun _ => .pure _

/-- A configuration is read whole or not at all, and whatever it says nothing is written. -/
theorem loadConfiguration [Toml.Reader] (path : Path) :
    ReadsOnly (MailTemplate.loadConfiguration path) := by
  refine (kind? path).bind fun standing => ?_
  cases standing with
  | none => exact .pure _
  | some _ =>
      refine (readText path).bind fun read => ?_
      cases read with
      | error e => exact .pure _
      | ok document =>
          dsimp only
          cases Configuration.ofDocument ((Path.parent? path).getD []) document <;> exact .pure _

theorem templateText (path : Path) : ReadsOnly (MailTemplate.templateText path) := by
  refine (readText path).bind fun read => ?_
  cases read <;> exact .pure _

section Preview

variable {σ : Type} (preview : Preview σ)

/-- Looking for a template in two places takes two questions at most, each of which only reads. -/
theorem locateTemplate (template : Path) : ReadsOnly (preview.locateTemplate template) := by
  rw [Preview.locateTemplate]
  split
  · exact .pure _
  · refine (kind? template).bind fun standing => ?_
    cases standing with
    | some _ => exact .pure _
    | none =>
        dsimp only
        cases preview.configuration.mailsDirectory? with
        | none => exact .pure _
        | some directory =>
            refine (kind? (Path.join directory template)).bind fun candidate => ?_
            split <;> exact .pure _

/-- The components that rendering puts in are read before it begins. -/
theorem assembly [DirectoryWalk] : ReadsOnly preview.assembly :=
  (readMarkups _).bind fun _ => .pure _

/-- Engines are built in or read from a directory. -/
theorem engines [Toml.Reader] : ReadsOnly preview.engines := by
  rw [Preview.engines]
  dsimp only
  cases preview.configuration.enginesDirectory? with
  | none => exact .pure _
  | some directory => exact (loadDirectory _ directory).bind fun _ => .pure _

variable [Chance σ]

/-- A preview is made of the configuration and of data given by hand. -/
theorem load [Toml.Reader] (config : Option Path) (data : List (Text × Text)) :
    ReadsOnly (Preview.load (σ := σ) config data) := by
  refine (configurationPath config).bind fun path => (loadConfiguration path).bind fun read => ?_
  cases read <;> exact .pure _

/-- Rendering reads components, and what it makes of them stays in memory. -/
theorem render [DirectoryWalk] (t : Text) (supply : σ) : ReadsOnly (preview.render t supply) :=
  (assembly preview).bind fun _ => .pure _

/-- Converting reads engines first, and components only if there is an engine for the extension. -/
theorem convert [DirectoryWalk] [Toml.Reader] (t extension : Text) (supply : σ) :
    ReadsOnly (preview.convert t extension supply) := by
  refine (engines preview).bind fun registry => ?_
  cases registry.get? extension with
  | none => exact .pure _
  | some _ => exact (assembly preview).bind fun _ => .pure _

end Preview

end ReadsOnly

/-! ### Results -/

section Results

variable {σ : Type} [Chance σ] [Toml.Reader] (tree : FileTree) (supply : σ) (template : Path)

/-- The preview of a configuration file, and the text of the template where it is looked for. -/
def FileTree.opened (config : Option Path) (data : List (Text × Text)) :
    Except Failure (Preview σ × Text) := do
  let preview ← tree.answer (Preview.load config data)
  let t ← tree.answer (templateText (tree.answer (preview.locateTemplate template)))
  return (preview, t)

variable [DirectoryWalk]

/-- The template in a file rendered. -/
def FileTree.rendered (config : Option Path) (data : List (Text × Text)) : Except Failure Text := do
  let (preview, t) ← tree.opened (σ := σ) template config data
  return (tree.answer (preview.render t supply)).1

/-- The template in a file converted for the engine under an extension. -/
def FileTree.converted (engine : Text) (config : Option Path) : Except Failure Text := do
  let (preview, t) ← tree.opened (σ := σ) template config []
  (tree.answer (preview.convert t engine supply)).mapError .engine

/-- Converting fails if no engine has the extension, and for no other reason. -/
theorem answer_convert_eq_error_iff (preview : Preview σ) (t engine : Text) (fault : Fault) :
    tree.answer (preview.convert t engine supply) = .error fault ↔
      (tree.answer preview.engines).get? engine = none ∧ fault = .unknownEngine engine := by
  rw [FileTree.answer, Preview.convert, run_bind_of_run ((ReadsOnly.engines preview).run tree)]
  cases found : (tree.answer preview.engines).get? engine with
  | none =>
      dsimp only
      constructor
      · intro failed
        exact ⟨rfl, (Except.error.inj failed).symm⟩
      · rintro ⟨_, rfl⟩
        rfl
  | some descriptor =>
      dsimp only
      rw [run_bind_of_run ((ReadsOnly.assembly preview).run tree)]
      refine ⟨fun failed => ?_, fun ⟨missing, _⟩ => absurd missing (by simp)⟩
      change (tree.answer preview.engines).convert _ engine = .error fault at failed
      rw [Registry.convert, found] at failed
      exact absurd failed (by simp)

end Results

/-! ### Delivering -/

/-- How a command ends that delivers a result: what it answers, and what it leaves of a tree. -/
inductive Delivery (tree : FileTree) (output : Option Path) :
    Except Failure Text → Except Failure Text × FileTree → Prop
  /-- Without a result nothing has changed. -/
  | failed (failure : Failure) : Delivery tree output (.error failure) (.error failure, tree)
  /-- A result for nowhere is printed. -/
  | printed (t : Text) (nowhere : output = none) :
      Delivery tree output (.ok t) (.ok (t ++ ['\n']), tree)
  | saved (t : Text) {path : Path} {after : FileTree} (somewhere : output = some path)
      (only : tree.OnlyWrote path t after) : Delivery tree output (.ok t) (.ok [], after)
  | unsaved (t : Text) {path : Path} {after : FileTree} (e : FileError)
      (somewhere : output = some path) (only : tree.OnlyMade path.LiesIn after)
      (refused : after.Refuses path t e) : Delivery tree output (.ok t) (.error (.file e), after)

section Steps

variable {α β : Type} {tree after : FileTree} {first : ExceptT Failure (StateM FileTree) α}

/-- Running one operation behind another that may fail. -/
theorem run_bind_of_answer {answer : Except Failure α} :
    first.run.run tree = (answer, after) →
      ∀ next : α → ExceptT Failure (StateM FileTree) β, (first >>= next).run.run tree =
        match answer with
        | .ok a => (next a).run.run after
        | .error failure => (.error failure, after) := by
  intro ran next
  rw [ExceptT.run_bind, run_bind_of_run ran]
  cases answer <;> rfl

/-- A program that only reads runs behind others as it does alone: it cannot fail. -/
theorem run_lift {program : StateM FileTree α} (reads : ReadsOnly program) (tree : FileTree) :
    (ExceptT.lift program : ExceptT Failure (StateM FileTree) α).run.run tree =
      (.ok (tree.answer program), tree) := by
  change (program >>= fun a => Pure.pure (Except.ok a)).run tree = _
  rw [run_bind_of_run (reads.run tree)]
  rfl

end Steps

/-- A result is printed or written as it is, and only writing it can fail. -/
theorem deliver_run (tree : FileTree) (output : Option Path) (t : Text) :
    Delivery tree output (.ok t)
      ((deliver output t : ExceptT Failure (StateM FileTree) Text).run.run tree) := by
  cases output with
  | none => exact .printed t rfl
  | some path =>
      obtain ⟨answer, after, ran, only⟩ := writeThrough_run tree path t
      have saved : (ExceptT.mk (saveText path t) : ExceptT Failure (StateM FileTree) Unit).run.run
          tree = (answer.mapError .file, after) := by
        rw [ExceptT.run_mk, saveText, run_bind_of_run ran]
        cases answer <;> rfl
      rw [deliver, run_bind_of_answer saved]
      cases answer with
      | error e => exact .unsaved t e rfl only.1 only.2
      | ok _ => exact .saved t rfl only

section Commands

variable {σ : Type} [Chance σ] [Toml.Reader] (tree : FileTree) (supply : σ) (template : Path)

/-- Opening a template is reading: the preview and the text come from the tree that is there. -/
theorem openTemplate_run (config : Option Path) (data : List (Text × Text)) :
    (openTemplate (σ := σ) config data template : ExceptT Failure (StateM FileTree) _).run.run
      tree = (tree.opened template config data, tree) := by
  have loaded : (ExceptT.mk (Preview.load config data) :
      ExceptT Failure (StateM FileTree) (Preview σ)).run.run tree =
        (tree.answer (Preview.load config data), tree) :=
    (ReadsOnly.load config data).run tree
  rw [openTemplate, run_bind_of_answer loaded, FileTree.opened]
  cases tree.answer (Preview.load (σ := σ) config data) with
  | error failure => rfl
  | ok preview =>
      dsimp only
      rw [run_bind_of_answer (run_lift (.locateTemplate preview template) tree)]
      have read (path : Path) : (ExceptT.mk (templateText path) :
          ExceptT Failure (StateM FileTree) Text).run.run tree =
            (tree.answer (templateText path), tree) :=
        (ReadsOnly.templateText path).run tree
      dsimp only
      rw [run_bind_of_answer (read _)]
      dsimp only [bind, Except.bind]
      cases tree.answer (templateText (tree.answer (preview.locateTemplate template))) <;> rfl

variable [DirectoryWalk]

/-- A command that renders delivers what rendering the template of the tree gives. -/
theorem renderFile_run (config : Option Path) (data : List (Text × Text)) (output : Option Path) :
    Delivery tree output (tree.rendered supply template config data)
      ((renderFile supply template config data output :
        ExceptT Failure (StateM FileTree) Text).run.run tree) := by
  rw [renderFile, run_bind_of_answer (openTemplate_run tree template config data),
    FileTree.rendered]
  cases tree.opened (σ := σ) template config data with
  | error failure => exact .failed failure
  | ok opened =>
      obtain ⟨preview, t⟩ := opened
      dsimp only
      rw [run_bind_of_answer (run_lift (.render preview t supply) tree)]
      exact deliver_run tree output _

/-- A command that converts delivers what converting the template of the tree gives. -/
theorem convertFile_run (engine : Text) (config output : Option Path) :
    Delivery tree output (tree.converted supply template engine config)
      ((convertFile supply template engine config output :
        ExceptT Failure (StateM FileTree) Text).run.run tree) := by
  rw [convertFile, run_bind_of_answer (openTemplate_run tree template config []),
    FileTree.converted]
  cases tree.opened (σ := σ) template config [] with
  | error failure => exact .failed failure
  | ok opened =>
      obtain ⟨preview, t⟩ := opened
      dsimp only
      rw [run_bind_of_answer (run_lift (.convert preview t engine supply) tree)]
      dsimp only [bind, Except.bind]
      cases tree.answer (preview.convert t engine supply) with
      | error fault => exact .failed (.engine fault)
      | ok converted => exact deliver_run tree output converted

/-- A command that renders or converts a template ends in one of four ways, whatever the files are
and wherever its output goes.  Without a result, because there is no configuration, no template or
no engine, nothing has changed.  A result for no file has changed nothing.  A result is written by
changing the file that the output path leads to and directories that the path lies in, where nothing
stood before; or the files as they are left refuse it, and no more than such directories was made.
The result is what rendering or converting makes of the template in the files as they were; and
converting fails for an extension without engine alone. -/
theorem commands_deliver (config : Option Path) (data : List (Text × Text)) (engine : Text)
    (output : Option Path) :
    Delivery tree output (tree.rendered supply template config data)
      ((renderFile supply template config data output :
        ExceptT Failure (StateM FileTree) Text).run.run tree) ∧
    Delivery tree output (tree.converted supply template engine config)
      ((convertFile supply template engine config output :
        ExceptT Failure (StateM FileTree) Text).run.run tree) ∧
    ∀ (preview : Preview σ) (t : Text) (fault : Fault),
      tree.answer (preview.convert t engine supply) = .error fault ↔
        (tree.answer preview.engines).get? engine = none ∧ fault = .unknownEngine engine :=
  ⟨renderFile_run tree supply template config data output,
    convertFile_run tree supply template engine config output,
    fun preview t fault => answer_convert_eq_error_iff tree supply preview t engine fault⟩

end Commands

/-- A letter with a component, and the configuration that says where components are. -/
def letterTree : FileTree :=
  ⟨.directory
    [("email-preview.toml".toList, .file (some "[paths]\ncomponents = \"parts\"\n".toList)),
      ("letter.html".toList, .file (some ("Dear ".toList ++
        Document.raw [.directive "name".toList, .text ", ".toList,
          .directive "include 'end'".toList]))),
      ("parts".toList, .directory [("end.html".toList, .file (some "yours".toList))])], []⟩

/-- What a command that renders the letter to a file answers, and what it leaves. -/
def letterEnding : Except Failure Text × FileTree :=
  (renderFile (Supply.ofSeed 1) "letter.html".toList none [("name".toList, "Ann".toList)]
    (some "out/letter.txt".toList) : ExceptT Failure (StateM FileTree) Text).run.run letterTree

/-- The letter is written where nothing was before. -/
theorem commands_deliver_letter :
    letterEnding.1 = .ok [] ∧ letterTree.OnlyWrote "out/letter.txt".toList
      "Dear Ann, yours".toList letterEnding.2 := by
  have rendered : letterTree.rendered (Supply.ofSeed 1) "letter.html".toList none
      [("name".toList, "Ann".toList)] = .ok "Dear Ann, yours".toList := by decide +kernel
  have answered : letterEnding.1 = .ok [] := by decide +kernel
  have delivery : Delivery letterTree (some "out/letter.txt".toList)
      (.ok "Dear Ann, yours".toList) letterEnding :=
    rendered ▸ (commands_deliver letterTree (Supply.ofSeed 1) "letter.html".toList none
      [("name".toList, "Ann".toList)] [] (some "out/letter.txt".toList)).1
  refine ⟨answered, ?_⟩
  generalize letterEnding = ending at answered delivery ⊢
  cases delivery with
  | printed t nowhere => exact absurd nowhere (by simp)
  | saved t somewhere only =>
      obtain rfl := Option.some.inj somewhere
      exact only
  | unsaved t e somewhere only refused => exact absurd answered (by simp)

end MailTemplate
