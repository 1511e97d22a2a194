/-
Module: MailTemplate.Component.Name
Purpose: The names of components and the files that they stand for.
Main exports: componentPath, componentFile?, componentName?
-/
import MailTemplate.Files.Path

/-!
A component `a/b` is kept in the file `b.html` in the directory `a` of the components directory.  A name
that could lead out of that directory is refused before any file is looked for: one that begins at the
root or with a dot, or goes up anywhere.
-/

namespace MailTemplate

/-- The extension of files with markup. -/
def markupExtension : Text := "html".toList

/-- Whether a name stays below the directory it is seen from. -/
def staysBelow (name : Text) : Bool :=
  !Path.isAbsolute name && (Path.pieces name).head? != some ['.'] && !(Path.pieces name).contains Path.up

/-- The path from the components directory to the file of a component. -/
def componentPath (name : Text) : Path :=
  name ++ '.' :: markupExtension

/-- The names that lead from the components directory to the file of a component. -/
def componentFile? (name : Text) : Option (List Text) :=
  if name.isEmpty || name.contains '\x00' || !staysBelow name then none
  else some (Path.names (componentPath name))

/-- The component that a file holds, by the names that lead to it from the components directory. -/
def componentName? (file : List Text) : Option Text :=
  match file.getLast? with
  | none => none
  | some last =>
      if fileExtension? last != some markupExtension then none
      else
        let names := (file.dropLast ++ [fileStem last]).filter fun name => !Path.isIdle name && name != Path.up
        if names.isEmpty then none else some (Text.join ['/'] names)

end MailTemplate
