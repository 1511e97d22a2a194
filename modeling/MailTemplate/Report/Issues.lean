/-
Module: MailTemplate.Report.Issues
Purpose: Reports of a validation, for people and for programs.
Main exports: ReportFormat, ReportFormat.parse?, reportIssues
-/
import MailTemplate.Report.Json
import MailTemplate.Report.Paint
import MailTemplate.Validation.Finding

/-!
The pretty report says first how the template fares, then lists the issues with their places and the text
they are about, then counts them.  A template without issues gets no list.  The JSON report holds the same
without the counts, and is never coloured.
-/

namespace MailTemplate

/-- How a report is written. -/
inductive ReportFormat where
  | pretty
  | json
deriving Repr, Inhabited, DecidableEq

/-- The format of a name. -/
def ReportFormat.parse? (name : Text) : Option ReportFormat :=
  if name = "pretty".toList then some .pretty
  else if name = "json".toList then some .json
  else none

/-- The word for a severity. -/
def Severity.word : Severity → Text
  | .error => "error".toList
  | .warning => "warning".toList

/-- The word for a verdict. -/
def Verdict.word : Verdict → Text
  | .success => "success".toList
  | .warning => "warning".toList
  | .error => "error".toList

namespace Report

/-- An issue as a structured value. -/
def ofIssue (issue : Issue) : JsonValue :=
  .object
    [("type".toList, .string issue.severity.word), ("message".toList, .string issue.message),
     ("line".toList, .number issue.line), ("column".toList, .number issue.column),
     ("code".toList, .string issue.code)]

/-- Issues with their verdict as a structured value. -/
def ofIssues (issues : List Issue) : JsonValue :=
  .object
    [("status".toList, .string (verdict issues).word), ("issues".toList, .array (issues.map ofIssue))]

/-- The sentence that says how a template fares. -/
def headline (painter : Painter) : Verdict → Text
  | .success => painter.paint [.bold, .green] "✓ Template is VALID".toList
  | .warning => painter.paint [.bold, .yellow] "⚠ Template is valid with warnings".toList
  | .error => painter.paint [.bold, .red] "✗ Template validation FAILED".toList

/-- The mark in front of an issue. -/
def mark (painter : Painter) : Severity → Text
  | .error => painter.paint [.red] ['✗']
  | .warning => painter.paint [.yellow] ['⚠']

/-- The lines about an issue. -/
def issueLines (painter : Painter) (issue : Issue) : Text :=
  let place := Text.ofNat issue.line ++ ':' :: Text.ofNat issue.column
  let first :=
    [' ', ' '] ++ mark painter issue.severity ++ ' ' :: painter.paint [.dimmed] place ++ [':', ' '] ++
      issue.message ++ ['\n']
  if issue.code.isEmpty then first
  else first ++ List.replicate 6 ' ' ++ painter.paint [.dimmed] issue.code ++ ['\n']

/-- The sentence that counts the issues. -/
def tally (painter : Painter) (issues : List Issue) : Text :=
  painter.paint [.bold, .red] (Text.ofNat (countIssues .error issues)) ++ " error(s), ".toList ++
    painter.paint [.bold, .yellow] (Text.ofNat (countIssues .warning issues)) ++ " warning(s)\n".toList

/-- The report for people. -/
def pretty (painter : Painter) (name : Text) (issues : List Issue) : Text :=
  let opening :=
    '\n' :: painter.paint [.bold] "Validating template:".toList ++ ' ' :: painter.paint [.brightCyan] name ++
      "\n\n".toList ++ headline painter (verdict issues) ++ ['\n']
  if issues.isEmpty then opening
  else opening ++ '\n' :: issues.flatMap (issueLines painter) ++ '\n' :: tally painter issues

end Report

/-- The report on a template of a name. -/
def reportIssues (painter : Painter) (format : ReportFormat) (name : Text) (issues : List Issue) : Text :=
  match format with
  | .pretty => Report.pretty painter name issues
  | .json => (Report.ofIssues issues).pretty

end MailTemplate
