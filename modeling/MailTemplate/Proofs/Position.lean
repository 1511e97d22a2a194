/-
Module: MailTemplate.Proofs.Position
Purpose: The places that validation reports are places of the template.
Main exports: Text.StandsAt, Target, Finding.target, Target.IsAt, Finding.target_eq_of_message,
  Validation.lastOpening?_eq_some, Validation.isAt_of_mem_lineNotes, validate_positions
-/
import MailTemplate.Proofs.Undefined

/-!
An issue gives a line, a column and a text.  What the three say about the template depends on the
kind of the finding, its *target*: the line as a whole, a print directive without the blanks around
its body, a tag as it stands, or the last opening braces of the line.

An issue does not hold its finding, but its message tells the target.
-/

namespace MailTemplate

/-- A text stands behind so many characters of another. -/
def Text.StandsAt (part row : Text) (column : Nat) : Prop :=
  part <+: row.drop column

/-- What a finding points at. -/
inductive Target where
  /-- The line as a whole. -/
  | line
  /-- A print directive, shown without the blanks around its body. -/
  | printed
  /-- A tag or the beginning of one, shown as it stands. -/
  | tag
  /-- The last opening braces, shown with the rest of the line. -/
  | lastOpening
deriving Repr, DecidableEq

/-- What a finding points at, by its kind. -/
def Finding.target : Finding → Target
  | .indexOutsideLoop _ => .printed
  | .undefinedValue _ => .printed
  | .ignoredMethod _ => .printed
  | .undefinedVariable _ => .printed
  | .missingMarkup _ _ => .tag
  | .malformedComponent => .tag
  | .unknownDirective _ => .tag
  | .incompleteDirective => .lastOpening
  | .mismatchedBraces _ _ => .line

/-- A column and a text are those of a target on a line. -/
def Target.IsAt (row : Text) (column : Nat) (code : Text) : Target → Prop
  | .line => column = 0 ∧ code = Text.trim row
  | .printed => ∃ lead body trail, lead.isPadding = true ∧ trail.isPadding = true ∧
      code = Directive.opening ++ (body ++ Directive.closing) ∧
      (Directive.opening ++ (lead ++ (body ++ (trail ++ Directive.closing)))).StandsAt row column
  | .tag => Directive.opening <+: code ∧ code.StandsAt row column
  | .lastOpening => Directive.opening <+: code ∧ code = row.drop column ∧ '}' ∉ code ∧
      ∀ later, column < later → ¬ Directive.opening.StandsAt row later

/-- At every target but the line as a whole there are opening braces. -/
theorem Target.IsAt.standsAt_opening {target : Target} {row code : Text} {column : Nat}
    (here : target.IsAt row column code) (part : target ≠ .line) :
    Directive.opening.StandsAt row column := by
  cases target with
  | line => exact absurd rfl part
  | printed =>
      obtain ⟨_, _, _, _, _, _, stands⟩ := here
      exact (List.prefix_append ..).trans stands
  | tag => exact here.1.trans here.2
  | lastOpening =>
      obtain ⟨opens, rfl, _⟩ := here
      exact opens

/-! ### What a message is about -/

namespace Finding

/-- The target of the findings with a message, which its first letters tell. -/
def targetOf : Text → Target
  | 'M' :: 'i' :: _ => .line
  | 'I' :: 'n' :: 'c' :: 'o' :: _ => .lastOpening
  | '\'' :: _ => .printed
  | 'V' :: _ => .printed
  | 'D' :: _ => .printed
  | _ => .tag

/-- The target of a finding is told by its message. -/
theorem target_eq (finding : Finding) : finding.target = targetOf finding.message := by
  cases finding with
  | missingMarkup kind name => cases kind <;> rfl
  | _ => rfl

/-- Findings with the same message have the same target. -/
theorem target_eq_of_message {finding other : Finding} (same : finding.message = other.message) :
    finding.target = other.target := by
  rw [target_eq, target_eq, same]

end Finding

/-! ### Where hits stand -/

/-- A hit stands where it is said to stand. -/
theorem Pattern.standsAt_of_mem_hitsAt {α : Type} {p : Pattern α} {row : Text} {column : Nat}
    {hit : Hit α} (inside : (column, hit) ∈ p.hitsAt row) : hit.raw.StandsAt row column := by
  obtain ⟨rest, read⟩ := read_of_mem_hitsAt inside
  exact ⟨rest, p.raw_append read⟩

/-- A hit of a pattern whose tags begin with braces is a tag where it stands. -/
theorem Pattern.Bracketed.isAt_of_mem_hitsAt {α : Type} {p : Pattern α} (hp : p.Bracketed)
    {row : Text} {column : Nat} {hit : Hit α} (inside : (column, hit) ∈ p.hitsAt row) :
    Target.tag.IsAt row column hit.raw := by
  obtain ⟨rest, read⟩ := read_of_mem_hitsAt inside
  obtain ⟨inner, raw⟩ := hp _ _ _ read
  exact ⟨⟨inner, raw.symm⟩, standsAt_of_mem_hitsAt inside⟩

/-- The first hit was read where it stands. -/
theorem Pattern.read_of_findOnto {α : Type} {p : Pattern α} {seen t before after : Text}
    {hit : Hit α} (found : p.findOnto seen t = some (before, hit, after)) :
    p.read (hit.raw ++ after) = some (hit, after) := by
  induction t generalizing seen with
  | nil => simp [findOnto] at found
  | cons c t ih =>
      rw [findOnto] at found
      split at found
      · rename_i other rest here
        simp only [Option.some.injEq, Prod.mk.injEq] at found
        obtain ⟨_, rfl, rfl⟩ := found
        rwa [p.raw_append here]
      · exact ih found

namespace Validation

/-! ### Braces -/

/-- A search for the last opening braces ends with those it began with, if there are none in the
text, or with the last in the text. -/
theorem lastOpeningOnto_eq_some {found : Option (Nat × Text)} {start column : Nat} {t code : Text}
    (last : lastOpeningOnto found start t = some (column, code)) :
    (found = some (column, code) ∧ ∀ place, ¬ Directive.opening.StandsAt t place) ∨
      ∃ place, column = start + place ∧ code = t.drop place ∧ Directive.opening <+: code ∧
        ∀ later, place < later → ¬ Directive.opening.StandsAt t later := by
  induction t generalizing found start with
  | nil =>
      refine .inl ⟨last, fun place stands => ?_⟩
      simp [Text.StandsAt, Directive.opening] at stands
  | cons c t ih =>
      rw [lastOpeningOnto] at last
      rcases ih last with ⟨same, unopened⟩ | ⟨place, rfl, rfl, opens, others⟩
      · by_cases here : Text.startsWith Directive.opening (c :: t) = true
        · rw [if_pos here] at same
          obtain ⟨rfl, rfl⟩ := Prod.mk.inj (Option.some.inj same)
          refine .inr ⟨0, rfl, rfl, Text.startsWith_iff.1 here, fun later behind => ?_⟩
          obtain ⟨place, rfl⟩ := Nat.exists_eq_add_of_lt behind
          simpa [Text.StandsAt] using unopened place
        · rw [if_neg here] at same
          refine .inl ⟨same, fun place => ?_⟩
          cases place with
          | zero => exact fun stands => here (Text.startsWith_iff.2 stands)
          | succ place => exact unopened place
      · refine .inr ⟨place + 1, by omega, rfl, opens, fun later behind => ?_⟩
        cases later with
        | zero => omega
        | succ later => exact others later (by omega)

/-- The last opening braces of a line. -/
theorem lastOpening?_eq_some {row code : Text} {column : Nat}
    (last : lastOpening? row = some (column, code)) :
    Directive.opening <+: code ∧ code = row.drop column ∧
      ∀ later, column < later → ¬ Directive.opening.StandsAt row later := by
  rcases lastOpeningOnto_eq_some last with ⟨other, _⟩ | ⟨place, rfl, code, opens, others⟩
  · exact absurd other (by simp)
  · rw [Nat.zero_add]
    exact ⟨opens, code, others⟩

/-- What goes up to the first closing begins the text. -/
theorem throughClosing_begins (t : Text) : throughClosing t <+: t := by
  rw [throughClosing]
  split
  · rename_i before hit after found
    exact ⟨after, closings.find?_append found⟩
  · exact List.prefix_rfl

/-- A closing is read as it is written. -/
theorem raw_of_read_closings {t rest : Text} {hit : Hit Unit}
    (read : closings.read t = some (hit, rest)) : hit.raw = Directive.closing := by
  obtain ⟨pieces, taken, rfl⟩ := Shape.take?_of_read read
  have accepts := Shape.accepts_of_take? taken
  simp only [List.forall₂_cons_left_iff, List.forall₂_nil_left_iff] at accepts
  obtain ⟨_, _, rfl, rfl, rfl⟩ := accepts
  exact List.flatten_singleton

/-- What is cut behind the first closing braces begins with the opening braces of the text. -/
theorem opening_prefix_throughClosing {t : Text} (opens : Directive.opening <+: t) :
    Directive.opening <+: throughClosing t := by
  rcases List.prefix_or_prefix_of_prefix opens (throughClosing_begins t) with whole | short
  · exact whole
  · rw [throughClosing] at short ⊢
    split at short
    · rename_i before hit after found
      -- The closing braces are no part of the opening ones.
      rw [raw_of_read_closings (Pattern.read_of_findOnto found)] at short
      exact absurd (short.subset (List.mem_append_right before List.mem_cons_self)) (by decide)
    · exact opens

/-! ### What is found stands where it is said to stand -/

variable {scope : Scope} {row : Text} {note : Note}

/-- The body of a print directive stands between blanks. -/
theorem isAt_of_printed {column : Nat} {hit : Hit Text}
    (inside : (column, hit) ∈ printed.hitsAt row) :
    Target.printed.IsAt row column (Directive.opening ++ hit.value ++ Directive.closing) := by
  obtain ⟨rest, read⟩ := Pattern.read_of_mem_hitsAt inside
  obtain ⟨body, closed, raw, value⟩ := shallow_printed.body_of_read read
  have nonempty : body ≠ [] := by
    rintro rfl
    exact absurd value (by simp [(by decide : printed.valueOf? [] = none)])
  have trimmed := Option.some.inj ((valueOf?_printed closed nonempty).symm.trans value)
  rw [← trimmed]
  obtain ⟨trail, blank, same⟩ := Text.trim_append_padding_eq body
  refine ⟨body.takeWhile isBlank, Text.trim body, trail, Text.isPadding_takeWhile body, blank,
    List.append_assoc .., ?_⟩
  have stands := Pattern.standsAt_of_mem_hitsAt inside
  have whole : body.takeWhile isBlank ++ (Text.trim body ++ trail) = body := by
    rw [same, Text.takeWhile_append_trimStart]
  rw [raw, Segment.raw, ← whole] at stands
  simpa only [List.append_assoc] using stands

/-- Findings about what is printed are placed at it. -/
theorem target_of_printFindings {inLoop : Bool} {body : Text} {finding : Finding}
    (found : finding ∈ printFindings scope inLoop body) : finding.target = .printed := by
  have key {key : Text} (found : finding ∈ keyFindings scope key) : finding.target = .printed := by
    rw [keyFindings] at found
    split at found <;> simp_all [Finding.target]
  rw [printFindings] at found
  split at found
  · simp at found
  split at found
  · split at found <;> simp_all [Finding.target]
  split at found
  · dsimp only at found
    split at found <;> simp_all [Finding.target]
  · split at found
    · rcases List.mem_cons.1 found with rfl | later
      · rfl
      · exact key later
    · exact key found

/-- Notes about variables are placed at their targets. -/
theorem isAt_of_mem_variableNotes {inLoop : Bool} (noted : note ∈ variableNotes scope inLoop row) :
    note.finding.target.IsAt row note.column note.code := by
  obtain ⟨column, hit, inside, finding, found, rfl⟩ := mem_variableNotes_iff.1 noted
  rw [target_of_printFindings found]
  exact isAt_of_printed inside

/-- Notes about names are placed at their targets. -/
theorem isAt_of_mem_nameNotes {pattern : Pattern (ReferenceKind × Text)}
    (bracketed : pattern.Bracketed) (noted : note ∈ nameNotes scope pattern row) :
    note.finding.target.IsAt row note.column note.code := by
  obtain ⟨⟨column, hit⟩, inside, made⟩ := List.mem_filterMap.1 noted
  dsimp only at made
  split at made
  · exact absurd made (by simp)
  · obtain rfl := Option.some.inj made
    exact bracketed.isAt_of_mem_hitsAt inside

/-- Notes about arguments are placed at their targets. -/
theorem isAt_of_mem_argumentNotes (noted : note ∈ argumentNotes row) :
    note.finding.target.IsAt row note.column note.code := by
  obtain ⟨⟨column, hit⟩, inside, made⟩ := List.mem_filterMap.1 noted
  dsimp only at made
  split at made
  · exact absurd made (by simp)
  · obtain rfl := Option.some.inj made
    exact shallow_componentWithArgument.bracketed.isAt_of_mem_hitsAt inside

/-- Notes about words are placed at their targets. -/
theorem isAt_of_mem_wordNotes (noted : note ∈ wordNotes scope row) :
    note.finding.target.IsAt row note.column note.code := by
  obtain ⟨⟨column, hit⟩, inside, made⟩ := List.mem_filterMap.1 noted
  dsimp only at made
  split at made
  · exact absurd made (by simp)
  · obtain rfl := Option.some.inj made
    have bracketed : leadingWord.Bracketed := Shape.bracketed_pattern
    have opens := (bracketed.isAt_of_mem_hitsAt inside).standsAt_opening (by simp)
    exact ⟨opening_prefix_throughClosing opens, throughClosing_begins _⟩

/-- Notes about braces are placed at their targets. -/
theorem isAt_of_mem_braceNotes (noted : note ∈ braceNotes row) :
    note.finding.target.IsAt row note.column note.code := by
  have mismatch {opening closing : Nat}
      (own : note ∈ [(⟨.mismatchedBraces opening closing, 0, Text.trim row⟩ : Note)]) :
      note.finding.target.IsAt row note.column note.code := by
    obtain rfl := List.mem_singleton.1 own
    exact ⟨rfl, rfl⟩
  rw [braceNotes] at noted
  dsimp only at noted
  split at noted
  · simp at noted
  split at noted
  · rename_i column code last
    split at noted
    · exact mismatch noted
    · rename_i unclosed
      obtain rfl := List.mem_singleton.1 noted
      obtain ⟨opens, behind, others⟩ := lastOpening?_eq_some last
      exact ⟨opens, behind, by simpa using unclosed, others⟩
  · exact mismatch noted

/-- What is found about a line is found where the finding points at. -/
theorem isAt_of_mem_lineNotes {inLoop : Bool} (noted : note ∈ lineNotes scope inLoop row) :
    note.finding.target.IsAt row note.column note.code := by
  simp only [lineNotes, referenceNotes, List.mem_append] at noted
  rcases noted with ((printed | (component | argument) | reference) | word) | brace
  · exact isAt_of_mem_variableNotes printed
  · exact isAt_of_mem_nameNotes shallow_components.bracketed component
  · exact isAt_of_mem_argumentNotes argument
  · exact isAt_of_mem_nameNotes shallow_references.bracketed reference
  · exact isAt_of_mem_wordNotes word
  · exact isAt_of_mem_braceNotes brace

end Validation

/-! ### The issues of a template -/

/-- An issue is what is found about a numbered line. -/
theorem mem_validate_iff {scope : Scope} {content : Text} {issue : Issue} :
    issue ∈ validate scope content ↔ ∃ line number, (line, number) ∈ (Text.lines content).zipIdx 1 ∧
      ∃ note ∈ Validation.lineNotes scope (spanOfLine? (loopSpans content) number).isSome
        (Validation.withoutReturn line), note.issue number = issue := by
  simp only [validate, List.mem_flatMap, List.mem_map, Prod.exists]

/-- Issues are told line by line. -/
theorem pairwise_validate (scope : Scope) (content : Text) :
    (validate scope content).Pairwise fun issue later => issue.line ≤ later.line := by
  refine Text.pairwise_flatMap_lines fun entry issue inside => ?_
  obtain ⟨_, _, rfl⟩ := List.mem_map.1 inside
  rfl

/-- Every place that validation reports is one of the template.  The issues go down its lines, and
each is at a line of it.  By its message an issue is about the line as a whole, or about braces that
stand behind as many characters of the line as it says, where what it shows stands as well: as it is
shown, or with blanks around the body of a print directive. -/
theorem validate_positions (scope : Scope) (content : Text) :
    (validate scope content).Pairwise (fun issue later => issue.line ≤ later.line) ∧
    ∀ issue ∈ validate scope content,
      1 ≤ issue.line ∧ issue.line ≤ (Text.lines content).length ∧
      (∃ finding : Finding, issue.message = finding.message) ∧
      ∃ line, (Text.lines content)[issue.line - 1]? = some line ∧
        ∀ finding : Finding, issue.message = finding.message →
          finding.target.IsAt (Validation.withoutReturn line) issue.column issue.code ∧
          (finding.target ≠ .line →
            Directive.opening.StandsAt (Validation.withoutReturn line) issue.column) := by
  refine ⟨pairwise_validate scope content, fun issue reported => ?_⟩
  obtain ⟨line, number, listed, note, noted, rfl⟩ := mem_validate_iff.1 reported
  obtain ⟨first, here⟩ := List.mk_mem_zipIdx_iff_le_and_getElem?_sub.1 listed
  have last : number - 1 < (Text.lines content).length := (List.getElem?_eq_some_iff.1 here).1
  have own := Validation.isAt_of_mem_lineNotes noted
  refine ⟨first, ?_, ⟨note.finding, rfl⟩, line, here, fun finding same => ?_⟩
  · change number ≤ _
    omega
  · rw [← Finding.target_eq_of_message same]
    exact ⟨own, own.standsAt_opening⟩

end MailTemplate
