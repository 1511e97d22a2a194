/-
Module: MailTemplate.Proofs.LineEnding
Purpose: Validation does not see how the lines of a template end.
Main exports: Validation.rows, Text.withReturns, Pattern.Shallow.bounded,
  Validation.loopSpans_congr, Validation.validate_congr, Validation.validate_withReturns
-/
import MailTemplate.Proofs.Frame
import MailTemplate.Proofs.LoopLines

/-!
The checks of a line see it without the carriage return at its end.  The lines that a loop covers
are found on lines that still have it: there it makes no difference, because a carriage return is no
brace and a tag ends in one.

So templates with the same *rows*, which are the lines without their returns, have the same issues,
whether their lines end in a line feed or in a carriage return and a line feed.
-/

namespace MailTemplate

/-! ### Tags at the end of a line -/

namespace Pattern

variable {α : Type} {p : Pattern α}

/-- The tags of a shallow pattern end in a brace and are read alone. -/
theorem Shallow.bounded (hp : p.Shallow) : p.Bounded := by
  refine bounded_of_alone fun read => ⟨?_, hp.read_raw_append read⟩
  obtain ⟨body, _, raw⟩ := hp.directive read
  exact ⟨Directive.opening ++ body ++ ['}'], by simp [raw, Segment.raw, Directive.closing]⟩

/-- Text without braces at the end has no part in any hit. -/
theorem Bounded.hits_append (hp : p.Bounded) {v : Text} (clear : v.isBraceFree = true) (u : Text) :
    p.hits (u ++ v) = p.hits u := by
  rw [hits, hp.scan_append clear, List.filterMap_append, List.filterMap_map]
  simp [hits]

end Pattern

namespace Validation

/-- The lines of a template as they are checked. -/
def rows (content : Text) : List Text :=
  (Text.lines content).map withoutReturn

/-- A return at the end of a row is taken off. -/
theorem withoutReturn_concat (row : Text) : withoutReturn (row ++ ['\r']) = row := by
  simp [withoutReturn]

/-- A row that ends otherwise stays as it is. -/
theorem withoutReturn_of_getLast? {row : Text} (other : row.getLast? ≠ some '\r') :
    withoutReturn row = row := by
  simp [withoutReturn, other]

/-- A row without returns stays as it is. -/
theorem withoutReturn_of_not_mem {row : Text} (plain : '\r' ∉ row) : withoutReturn row = row :=
  withoutReturn_of_getLast? fun last => plain (List.mem_of_getLast? last)

/-- The return at the end of a line makes no difference to the loop tags on it. -/
theorem hits_withoutReturn (line : Text) :
    CountedTag.pattern.hits (withoutReturn line) = CountedTag.pattern.hits line := by
  rw [withoutReturn]
  split
  · rename_i last
    obtain ⟨row, rfl⟩ := List.getLast?_eq_some_iff.1 (beq_iff_eq.1 last)
    rw [List.dropLast_concat, CountedTag.shallow.bounded.hits_append (by decide) row]
  · rfl

/-! ### Templates with the same rows -/

/-- The tags of a text are those of its rows. -/
theorem countedTags_eq (content : Text) :
    countedTags content = ((rows content).zipIdx 1).flatMap fun (row, number) =>
      (CountedTag.pattern.hits row).map fun hit => (number, hit.value) := by
  rw [rows, List.zipIdx_map, List.flatMap_map, countedTags]
  refine List.flatMap_congr fun entry _ => ?_
  simp [hits_withoutReturn]

/-- Validation goes through the rows, each with its number. -/
theorem validate_eq (scope : Scope) (content : Text) :
    validate scope content = ((rows content).zipIdx 1).flatMap fun (row, number) =>
      (lineNotes scope (spanOfLine? (loopSpans content) number).isSome row).map
        (Note.issue number) := by
  rw [rows, List.zipIdx_map, List.flatMap_map]
  rfl

/-- The lines that loops cover are the same in templates with the same rows. -/
theorem loopSpans_congr {content other : Text} (same : rows content = rows other) :
    loopSpans content = loopSpans other := by
  rw [loopSpans, loopSpans, countedTags_eq, countedTags_eq, same]

/-- Templates with the same rows have the same issues. -/
theorem validate_congr (scope : Scope) {content other : Text} (same : rows content = rows other) :
    validate scope content = validate scope other := by
  rw [validate_eq, validate_eq, loopSpans_congr same, same]

end Validation

/-! ### Line feeds with returns -/

/-- A text with a carriage return in front of each line feed. -/
def Text.withReturns (t : Text) : Text :=
  t.flatMap fun c => if c = '\n' then ['\r', '\n'] else [c]

namespace Text

/-- Returns are put into two texts apart. -/
theorem withReturns_append (s t : Text) : withReturns (s ++ t) = withReturns s ++ withReturns t :=
  List.flatMap_append

/-- No return is put where there is no newline. -/
theorem withReturns_of_not_mem {t : Text} (plain : '\n' ∉ t) : withReturns t = t := by
  have each : ∀ c ∈ t, (if c = '\n' then ['\r', '\n'] else [c]) = [c] := by
    intro c inside
    rw [if_neg]
    rintro rfl
    exact plain inside
  rw [withReturns, List.flatMap_congr each, List.flatMap_singleton']

/-- A line that ends in a line feed ends in a return and a line feed. -/
theorem withReturns_line {first : Text} (plain : '\n' ∉ first) (rest : Text) :
    withReturns (first ++ '\n' :: rest) = (first ++ ['\r']) ++ '\n' :: withReturns rest := by
  rw [withReturns_append, withReturns_of_not_mem plain, List.append_assoc]
  rfl

end Text

/-- A text without returns has the rows that it has when its lines end in them. -/
theorem Validation.rows_withReturns {content : Text} (plain : '\r' ∉ content) :
    rows content.withReturns = rows content := by
  induction length : content.length using Nat.strongRecOn generalizing content with
  | ind n ih =>
      rcases Text.lines_cases content with single | ⟨first, rest, single, rfl⟩
      · rw [Text.withReturns_of_not_mem single]
      · simp only [List.mem_append, List.mem_cons, not_or] at plain
        have shorter : rest.length < n := by
          rw [← length, List.length_append, List.length_cons]
          omega
        have longer : '\n' ∉ first ++ ['\r'] := by simpa using single
        have later := ih rest.length shorter plain.2.2 rfl
        simp only [rows] at later ⊢
        rw [Text.withReturns_line single, Text.lines_line longer, Text.lines_line single,
          List.map_cons, List.map_cons, later, withoutReturn_concat,
          withoutReturn_of_not_mem plain.1]

/-- A template without carriage returns has the same issues, with the same lines, columns, messages
and texts, and so the same verdict, when its lines end in a carriage return and a line feed. -/
theorem Validation.validate_withReturns (scope : Scope) {content : Text}
    (plain : '\r' ∉ content) :
    validate scope content.withReturns = validate scope content ∧
      verdict (validate scope content.withReturns) = verdict (validate scope content) := by
  have same := validate_congr scope (rows_withReturns plain)
  exact ⟨same, by rw [same]⟩

/-- A roll call with a loop, a placeholder behind it, and a directive that is not closed. -/
def rollCall : Text :=
  Document.raw [.directive "loop 2".toList, .text "\nguest ".toList, .directive "_index1".toList,
    .text ", ".toList, .directive "name".toList, .text "\n".toList, .directive "/loop".toList,
    .text "\nall ".toList, .directive "_index".toList, .text "\nfrom ".toList] ++
      Directive.opening ++ "host".toList

/-- The roll call has five issues, and has them with other line ends. -/
theorem validate_withReturns_rollCall :
    '\r' ∉ rollCall ∧ rollCall.withReturns.count '\r' = 4 ∧
    (validate ⟨.ofList [], .ofList []⟩ rollCall).map (fun issue => (issue.line, issue.column)) =
      [(2, 19), (2, 19), (4, 4), (5, 5), (5, 5)] ∧
    validate ⟨.ofList [], .ofList []⟩ rollCall.withReturns =
      validate ⟨.ofList [], .ofList []⟩ rollCall ∧
    verdict (validate ⟨.ofList [], .ofList []⟩ rollCall.withReturns) =
      verdict (validate ⟨.ofList [], .ofList []⟩ rollCall) := by
  have plain : '\r' ∉ rollCall := by decide +kernel
  refine ⟨plain, by decide +kernel, by decide +kernel, ?_⟩
  exact Validation.validate_withReturns _ plain

end MailTemplate
