/-
Module: MailTemplate.Validation.Finding
Purpose: What validation finds, how serious it is and how it is said.
Main exports: Severity, ReferenceKind, Finding, Issue, Verdict, verdict
-/
import MailTemplate.Directive.Extent
import MailTemplate.Text.Numeral

/-!
A finding says what is wrong; an issue says so in words and at a place.  What would make a rendered mail
wrong is an error, what may be meant that way is a warning.
-/

namespace MailTemplate

/-- How serious an issue is. -/
inductive Severity where
  | error
  | warning
deriving Repr, Inhabited, DecidableEq

/-- The directives that refer to markup by its name. -/
inductive ReferenceKind where
  | component
  | layout
  | include
deriving Repr, Inhabited, DecidableEq

/-- The word for what a directive refers to, at the beginning of a sentence. -/
def ReferenceKind.title : ReferenceKind → Text
  | .component => "Component".toList
  | .layout => "Layout".toList
  | .include => "Include".toList

/-- What can be wrong in a template. -/
inductive Finding where
  /-- An index placeholder on a line that no loop covers. -/
  | indexOutsideLoop (placeholder : Text)
  /-- A default value that is no literal, no number and no variable. -/
  | undefinedValue (value : Text)
  /-- A method behind a bar. -/
  | ignoredMethod (method : Text)
  /-- A printed key that is no variable. -/
  | undefinedVariable (key : Text)
  /-- A reference to markup that does not exist. -/
  | missingMarkup (kind : ReferenceKind) (name : Text)
  /-- A component directive whose argument is no name. -/
  | malformedComponent
  /-- A directive that begins with a word of no meaning. -/
  | unknownDirective (word : Text)
  /-- An opening that is the last thing on its line. -/
  | incompleteDirective
  /-- A line with unlike numbers of opening and closing braces. -/
  | mismatchedBraces (opening closing : Nat)
deriving Repr, Inhabited, DecidableEq

namespace Finding

/-- How serious a finding is. -/
def severity : Finding → Severity
  | .undefinedValue _ => .warning
  | .ignoredMethod _ => .warning
  | .undefinedVariable _ => .warning
  | .unknownDirective _ => .warning
  | _ => .error

/-- A text in single quote marks. -/
def quoted (t : Text) : Text :=
  '\'' :: t ++ ['\'']

/-- What is said about a finding. -/
def message : Finding → Text
  | .indexOutsideLoop placeholder =>
      quoted placeholder ++ " can only be used inside ".toList ++
        Directive.opening ++ "loop".toList ++ Directive.closing ++ " blocks".toList
  | .undefinedValue value => "Value ".toList ++ quoted value ++ " is not defined in custom data".toList
  | .ignoredMethod method => "Deprecated pipe syntax: method ".toList ++ quoted method ++ " is ignored".toList
  | .undefinedVariable key => "Variable ".toList ++ quoted key ++ " is not defined in custom data".toList
  | .missingMarkup kind name => kind.title ++ ' ' :: quoted name ++ " does not exist".toList
  | .malformedComponent =>
      "Malformed component directive: component name must be quoted or a valid identifier".toList
  | .unknownDirective word => "Unknown directive or variable ".toList ++ quoted word
  | .incompleteDirective => "Incomplete directive: missing closing braces".toList
  | .mismatchedBraces opening closing =>
      "Mismatched braces: ".toList ++ Text.ofNat opening ++ " opening, ".toList ++ Text.ofNat closing ++
        " closing".toList

end Finding

/-- Something said about a place in a template: its line, counted from one, the number of characters in
front of it on the line, and the text that stands there. -/
structure Issue where
  severity : Severity
  message : Text
  line : Nat
  column : Nat
  code : Text
deriving Repr, Inhabited, DecidableEq

/-- What a list of issues amounts to. -/
inductive Verdict where
  | success
  | warning
  | error
deriving Repr, Inhabited, DecidableEq

/-- The number of issues of a severity. -/
def countIssues (severity : Severity) (issues : List Issue) : Nat :=
  issues.countP fun issue => issue.severity == severity

/-- The worst of the issues decides. -/
def verdict (issues : List Issue) : Verdict :=
  if issues.any fun issue => issue.severity == .error then .error
  else if issues.isEmpty then .success
  else .warning

end MailTemplate
