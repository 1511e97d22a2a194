/-
Module: MailTemplate.Validation.Check
Purpose: Validating a template against the variables and components that are known.
Main exports: Scope, Note, variableNotes, referenceNotes, wordNotes, braceNotes, lineNotes, validate
-/
import MailTemplate.Loop.Span
import MailTemplate.Table
import MailTemplate.Validation.Reading

/-!
Validation goes through a template line by line.  What it says about a line depends on nothing but the line
and whether a loop covers it: first what its print directives name, then which markup it refers to, then
whether its directives are known and its braces match.

A carriage return at the end of a line does not belong to it.
-/

namespace MailTemplate

/-- What a template may name. -/
structure Scope where
  data : Names
  components : Names
deriving Repr, DecidableEq

/-- A finding in a line: the number of characters in front of it and the text that it is about. -/
structure Note where
  finding : Finding
  column : Nat
  code : Text
deriving Repr, Inhabited, DecidableEq

/-- The issue that a finding in a line is. -/
def Note.issue (line : Nat) (note : Note) : Issue :=
  ⟨note.finding.severity, note.finding.message, line, note.column, note.code⟩

namespace Validation

/-! ### Variables -/

/-- The words with which a directive of the structural grammar begins. -/
def exemptBeginnings : List Text :=
  ["component ", "layout ", "loop ", "include ", "/layout", "/loop"].map String.toList

/-- Whether a directive prints nothing, as far as validation sees. -/
def isExempt (body : Text) : Bool :=
  exemptBeginnings.any (Text.startsWith · body) || body == "content".toList

/-- The placeholders for the number of a loop's copy. -/
def indexWords : List Text :=
  ["_index", "_index1"].map String.toList

/-- Whether a text is a decimal number, with or without a fraction. -/
def isNumber (t : Text) : Bool :=
  match Text.takeRun isDecimalDigit t with
  | ([], _) => false
  | (_, []) => true
  | (_, point :: fraction) => point == '.' && !fraction.isEmpty && fraction.all isDecimalDigit

/-- Whether what follows the comma of a print directive can be printed. -/
def isPrintable (scope : Scope) (value : Text) : Bool :=
  value.isEmpty || (unquoted? value).isSome || isNumber value || scope.data.contains value

/-- What is found about a key. -/
def keyFindings (scope : Scope) (key : Text) : List Finding :=
  if scope.data.contains key then [] else [.undefinedVariable key]

/-- What is found about a directive, by its body without surrounding blanks. -/
def printFindings (scope : Scope) (inLoop : Bool) (body : Text) : List Finding :=
  if isExempt body then []
  else if indexWords.contains body then if inLoop then [] else [.indexOutsideLoop body]
  else
    match splitTopLevelComma? body with
    | some (_, after) =>
        let value := Text.trim after
        if isPrintable scope value then [] else [.undefinedValue value]
    | none =>
        match Text.splitFirst '|' body with
        | some (key, method) => .ignoredMethod (Text.trim method) :: keyFindings scope (Text.trim key)
        | none => keyFindings scope body

/-- What is found about the print directives of a line. -/
def variableNotes (scope : Scope) (inLoop : Bool) (line : Text) : List Note :=
  (printed.hitsAt line).flatMap fun (column, hit) =>
    (printFindings scope inLoop hit.value).map fun finding =>
      ⟨finding, column, Directive.opening ++ hit.value ++ Directive.closing⟩

/-! ### References -/

/-- What is found about the names that directives of a line refer to. -/
def nameNotes (scope : Scope) (pattern : Pattern (ReferenceKind × Text)) (line : Text) : List Note :=
  (pattern.hitsAt line).filterMap fun (column, hit) =>
    if scope.components.contains hit.value.2 then none
    else some ⟨.missingMarkup hit.value.1 hit.value.2, column, hit.raw⟩

/-- What is found about the arguments of component directives. -/
def argumentNotes (line : Text) : List Note :=
  (componentWithArgument.hitsAt line).filterMap fun (column, hit) =>
    if isQuotedName hit.value || isBareName hit.value then none
    else some ⟨.malformedComponent, column, hit.raw⟩

/-- What is found about the references of a line. -/
def referenceNotes (scope : Scope) (line : Text) : List Note :=
  nameNotes scope components line ++ argumentNotes line ++ nameNotes scope references line

/-! ### Directives -/

/-- The words that have a meaning of their own at the beginning of a directive. -/
def knownWords : List Text :=
  ["component", "layout", "loop", "include", "content", "_index", "_index1"].map String.toList

/-- What is found about the words that begin the directives of a line.  A directive with a comma may begin
with any word. -/
def wordNotes (scope : Scope) (line : Text) : List Note :=
  (leadingWord.hitsAt line).filterMap fun (column, hit) =>
    let directive := throughClosing (line.drop column)
    if directive.contains ',' || knownWords.contains hit.value || scope.data.contains hit.value then none
    else some ⟨.unknownDirective hit.value, column, directive⟩

/-- What is found about the braces of a line. -/
def braceNotes (line : Text) : List Note :=
  let opening := (openings.hits line).length
  let closing := (closings.hits line).length
  if opening == closing then []
  else
    let mismatch : Note := ⟨.mismatchedBraces opening closing, 0, Text.trim line⟩
    match lastOpening? line with
    | some (column, rest) =>
        if rest.contains '}' then [mismatch] else [⟨.incompleteDirective, column, rest⟩]
    | none => [mismatch]

/-! ### Lines -/

/-- A line without the carriage return at its end. -/
def withoutReturn (line : Text) : Text :=
  if line.getLast? == some '\r' then line.dropLast else line

/-- What is found about a line. -/
def lineNotes (scope : Scope) (inLoop : Bool) (line : Text) : List Note :=
  variableNotes scope inLoop line ++ referenceNotes scope line ++ wordNotes scope line ++ braceNotes line

end Validation

/-- The issues of a template, line by line. -/
def validate (scope : Scope) (content : Text) : List Issue :=
  let spans := loopSpans content
  ((Text.lines content).zipIdx 1).flatMap fun (line, number) =>
    let inLoop := (spanOfLine? spans number).isSome
    (Validation.lineNotes scope inLoop (Validation.withoutReturn line)).map (Note.issue number)

end MailTemplate
