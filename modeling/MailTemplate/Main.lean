/-
Module: MailTemplate.Main
Purpose: The program: commands on the files of the machine.
Main exports: main
-/
import MailTemplate.Command.Run
import MailTemplate.Data.Supply

/-!
The program reads its arguments, runs the command on the machine's files and ends with its exit code.  Text
is coloured on a terminal, unless the environment says otherwise.
-/

namespace MailTemplate

namespace Machine

/-- The error of the library that an error of the machine is. -/
def fileError : IO.Error → FileError
  | .noFileOrDirectory .. => .notFound
  | .alreadyExists .. => .alreadyExists
  | .inappropriateType _ code details =>
      if code == 20 then .notDirectory
      else if code == 21 then .isDirectory
      else .other details.toList code.toNat
  | .permissionDenied _ code details => .other details.toList code.toNat
  | .invalidArgument _ code details =>
      if code == 36 then .nameTooLong else .other details.toList code.toNat
  | error => .other error.toString.toList 0

/-- The outcome of an action that may fail. -/
def attempt {α : Type} (path : Path) (action : IO α) : IO (Except FileError α) := do
  if path.contains '\x00' then return .error .nulCharacter
  if path.isEmpty then return .error .notFound
  try
    return .ok (← action)
  catch error => return .error (fileError error)

/-- What a path leads to. -/
def kind? (path : Path) : IO (Option FileKind) := do
  match ← attempt path (System.mkFilePath [String.ofList path]).metadata with
  | .error _ => return none
  | .ok metadata => return some (if metadata.type == .dir then .directory else .file)

/-- The text of a file. -/
def readText (path : Path) : IO (Except FileError Text) := do
  match ← attempt path (IO.FS.readBinFile (System.mkFilePath [String.ofList path])) with
  | .error e => return .error e
  | .ok bytes =>
      match String.fromUTF8? bytes with
      | some t => return .ok t.toList
      | none => return .error .notText

/-- The names in a directory. -/
def namesIn (path : Path) : IO (Except FileError (List Text)) := do
  match ← attempt path (System.mkFilePath [String.ofList path]).readDir with
  | .error e => return .error e
  | .ok entries => return .ok (entries.toList.map fun entry => entry.fileName.toList)

/-- The names of the files in a directory. -/
def filesIn (path : Path) : IO (List Text) := do
  match ← namesIn path with
  | .error _ => return []
  | .ok names => names.filterM fun name => do return (← kind? (Path.join path name)) == some .file

/-- What is found below a directory. -/
partial def survey (path : Path) : IO Survey := do
  match ← namesIn path with
  | .error e => return ⟨[], some (path, e)⟩
  | .ok names =>
      let mut found := Survey.empty
      for name in names do
        let inner := Path.join path name
        match ← kind? inner with
        | some .file => found := found.and ⟨[[name]], none⟩
        | some .directory => found := found.and ((← survey inner).under name)
        | none => pure ()
      return found

instance : FileAccess IO where
  currentDirectory := do return (← IO.currentDir).toString.toList
  kind? := kind?
  readText := readText
  filesIn := filesIn
  makeDirectory path := attempt path (IO.FS.createDir (System.mkFilePath [String.ofList path]))
  writeText path t := attempt path (IO.FS.writeFile (System.mkFilePath [String.ofList path]) (String.ofList t))

instance : FileSurvey IO where
  survey := survey

/-- A setting of the environment: set and not zero, set to zero, or not set. -/
def setting? (name : String) : IO (Option Bool) := do
  return (← IO.getEnv name).map fun value => value != "0"

/-- Whether text is to be coloured. -/
def usesColor : IO Bool := do
  if (← setting? "CLICOLOR_FORCE") == some true then return true
  if (← setting? "NO_COLOR").isSome then return false
  return (← setting? "CLICOLOR").getD true && (← (← IO.getStdout).isTty)

/-- A supply that no earlier run had. -/
def freshSupply : IO Supply := do
  let bytes ← IO.getRandomBytes 8
  return Supply.ofSeed (bytes.toList.foldl (fun seed byte => seed * 256 + byte.toUInt64) 0)

end Machine

end MailTemplate

/-- Runs the program. -/
def main (arguments : List String) : IO UInt32 := do
  let color ← MailTemplate.Machine.usesColor
  let supply ← MailTemplate.Machine.freshSupply
  let outcome : MailTemplate.Outcome ← MailTemplate.runArguments color supply (arguments.map String.toList)
  (← IO.getStdout).putStr (String.ofList outcome.out)
  (← IO.getStderr).putStr (String.ofList outcome.err)
  return outcome.code.toUInt32
