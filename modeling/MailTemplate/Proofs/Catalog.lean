/-
Module: MailTemplate.Proofs.Catalog
Purpose: What a template without errors asks for when it is rendered.
Main exports: Validation.IsClean, Validation.IsClean.known_of_includes,
  Validation.IsClean.known_of_component, Validation.IsClean.known_of_layouts, Text.lineStart,
  Reference.hitsAt_or_quoted, Validation.references_known
-/
import MailTemplate.Proofs.Mention

/-!
If validation finds no error in a template, then rendering finds all the markup that the template
asks for under names that validation can read.  For components that is all but the names with blanks
or closing braces, since validation rejects an argument that is no well-formed name.  And where
validation reads a component in quote marks, rendering puts the component, unless the directive is
part of a longer quoted name.
-/

namespace MailTemplate

/-! ### Lines without their returns -/

namespace Validation

theorem withoutReturn_closing (front right : Text) :
    withoutReturn (front ++ '}' :: right) = front ++ '}' :: withoutReturn right := by
  cases right with
  | nil => simp [withoutReturn]
  | cons c right =>
      have last : (front ++ '}' :: c :: right).getLast? = (c :: right).getLast? := by
        rw [List.getLast?_append_of_ne_nil _ (by simp)]
        rfl
      rw [withoutReturn, withoutReturn, last]
      split
      · rw [List.dropLast_append_of_ne_nil (by simp)]
        rfl
      · rfl

theorem exists_return (line : Text) : ∃ behind, line = withoutReturn line ++ behind := by
  rw [withoutReturn]
  split
  · rename_i last
    obtain ⟨front, rfl⟩ := List.getLast?_eq_some_iff.1 (beq_iff_eq.1 last)
    exact ⟨['\r'], by simp⟩
  · exact ⟨[], by simp⟩

/-! ### Names in a template without errors -/

/-- Validation finds no error. -/
def IsClean (scope : Scope) (content : Text) : Prop :=
  ∀ issue ∈ validate scope content, issue.severity ≠ .error

instance (scope : Scope) (content : Text) : Decidable (IsClean scope content) :=
  inferInstanceAs (Decidable (∀ issue ∈ validate scope content, issue.severity ≠ .error))

variable {scope : Scope} {content : Text}

/-- What is found about a line is reported. -/
theorem IsClean.severity_ne (clean : IsClean scope content) {line : Text}
    (here : line ∈ Text.lines content) (note : Note)
    (noted : ∀ inLoop, note ∈ lineNotes scope inLoop (withoutReturn line)) :
    note.finding.severity ≠ .error := by
  obtain ⟨index, inside⟩ := List.mem_iff_getElem?.1 here
  have listed : (line, 1 + index) ∈ (Text.lines content).zipIdx 1 :=
    List.mk_add_mem_zipIdx_iff_getElem?.2 inside
  exact clean (note.issue (1 + index)) (List.mem_flatMap.2 ⟨_, listed,
    List.mem_map_of_mem (noted _)⟩)

/-- A directive without a line feed stands on a line behind the end of the text in front of it, and
keeps its place there when the return at the end of the line is dropped. -/
theorem exists_numbered_line {before after body : Text}
    (whole : content = before ++ ((Segment.directive body).raw ++ after)) (onLine : '\n' ∉ body) :
    ∃ line start left right, (line, 1 + before.count '\n') ∈ (Text.lines content).zipIdx 1 ∧
      withoutReturn line = left ++ ((Segment.directive body).raw ++ right) ∧
      before = start ++ left ∧ (Text.lines before).getLast? = some left := by
  have single : '\n' ∉ (Segment.directive body).raw := by
    simp [Segment.raw, Directive.opening, Directive.closing, onLine]
  obtain ⟨above, left, right, below, start, _, lines, ahead, _, early, _, number⟩ :=
    Text.lines_around before single after
  rw [← whole] at lines
  refine ⟨left ++ ((Segment.directive body).raw ++ right), start, left, withoutReturn right, ?_, ?_,
    early, by rw [ahead, List.getLast?_concat]⟩
  · rw [List.mk_add_mem_zipIdx_iff_getElem?, lines, ← number]
    simp
  · have closing (right : Text) : left ++ ((Segment.directive body).raw ++ right) =
        (left ++ (Directive.opening ++ (body ++ ['}']))) ++ '}' :: right := by
      simp [Segment.raw, Directive.closing]
    rw [closing, withoutReturn_closing, ← closing]

theorem exists_line {before after body : Text}
    (whole : content = before ++ ((Segment.directive body).raw ++ after)) (onLine : '\n' ∉ body) :
    ∃ line ∈ Text.lines content, ∃ left right,
      withoutReturn line = left ++ ((Segment.directive body).raw ++ right) := by
  obtain ⟨line, _, left, right, listed, cut, _, _⟩ := exists_numbered_line whole onLine
  exact ⟨line, List.fst_mem_of_mem_zipIdx listed, left, right, cut⟩

/-- A mention on a line of a template without errors has a known name. -/
theorem IsClean.known_of_read (clean : IsClean scope content)
    {p : Pattern (ReferenceKind × Text)} (separate : p.Separate)
    (listed : ∀ line, nameNotes scope p line ⊆ referenceNotes scope line)
    {before after body : Text} {value : ReferenceKind × Text}
    (whole : content = before ++ ((Segment.directive body).raw ++ after)) (onLine : '\n' ∉ body)
    (read : ∀ rest, p.read ((Segment.directive body).raw ++ rest) =
      some (⟨(Segment.directive body).raw, value⟩, rest)) :
    scope.components.contains value.2 = true := by
  obtain ⟨line, here, left, right, cut⟩ := exists_line whole onLine
  have place : p.Cuts left ((Segment.directive body).raw ++ right) := separate (read right)
  obtain ⟨first, scan, _⟩ := place.scan_of_read (read right)
  have hit := Pattern.mem_hitsAt_iff.2 ⟨first, _, scan, rfl⟩
  by_contra unknown
  refine clean.severity_ne here ⟨.missingMarkup value.1 value.2, (first.flatMap Token.raw).length,
    (Segment.directive body).raw⟩ (fun inLoop => ?_) rfl
  rw [cut]
  have noted := listed _ (List.mem_filterMap.2 ⟨_, hit, if_neg unknown⟩)
  simp only [lineNotes, List.mem_append]
  exact .inl (.inl (.inr noted))

/-- A quoted name that validation reads on its line is known. -/
theorem IsClean.known_of_quoted (clean : IsClean scope content)
    {p : Pattern (ReferenceKind × Text)} (separate : p.Separate)
    (listed : ∀ line, nameNotes scope p line ⊆ referenceNotes scope line) {w : String}
    (n : QuotedName w) {kind : ReferenceKind}
    (read : ∀ rest, p.read ((Segment.directive n.body).raw ++ rest) =
      some (⟨(Segment.directive n.body).raw, (kind, n.name)⟩, rest)) {before after : Text}
    (whole : content = before ++ ((Segment.directive n.body).raw ++ after))
    (onLine : '\n' ∉ (Segment.directive n.body).raw) : scope.components.contains n.name = true :=
  clean.known_of_read separate listed whole (fun feed => onLine (by simp [Segment.raw, feed])) read

theorem nameNotes_components (scope : Scope) (line : Text) :
    nameNotes scope components line ⊆ referenceNotes scope line := fun _ noted =>
  List.mem_append_left _ (List.mem_append_left _ noted)

theorem nameNotes_references (scope : Scope) (line : Text) :
    nameNotes scope references line ⊆ referenceNotes scope line := fun _ noted =>
  List.mem_append_right _ noted

/-- The names of the components that rendering asks for are known. -/
theorem IsClean.known_of_includes (clean : IsClean scope content) {hit : Hit Text}
    (found : hit ∈ Reference.includes.hits content) (onLine : '\n' ∉ hit.raw)
    (valid : IsName hit.value) : scope.components.contains hit.value = true := by
  obtain ⟨first, last, scan⟩ := Pattern.mem_hits_iff.1 found
  have whole := Pattern.eq_append_of_scan scan
  rw [List.flatMap_cons] at whole
  rcases Pattern.read_orElse (Pattern.read_of_scan scan) with included | component
  · obtain ⟨n, rfl⟩ := QuotedName.of_named included
    have read (rest : Text) : references.read ((Segment.directive n.body).raw ++ rest) =
        some (⟨(Segment.directive n.body).raw, (.include, n.name)⟩, rest) :=
      Pattern.orElse_of_some (read_mention n (by decide) (by decide) valid rest)
    exact clean.known_of_quoted separate_references (nameNotes_references scope) n read whole onLine
  · obtain ⟨n, rfl⟩ := QuotedName.of_named component
    have read (rest : Text) : components.read ((Segment.directive n.body).raw ++ rest) =
        some (⟨(Segment.directive n.body).raw, (.component, n.name)⟩, rest) :=
      read_mention n (by decide) (by decide) valid rest
    exact clean.known_of_quoted separate_components (nameNotes_components scope) n read whole onLine

/-- The arguments of components on a line of a template without errors are well-formed. -/
theorem IsClean.wellFormed (clean : IsClean scope content) {line : Text}
    (here : line ∈ Text.lines content) {hit : Hit Text} {first last : List (Token Text)}
    (scan : componentWithArgument.scan (withoutReturn line) = first ++ .hit hit :: last) :
    (isQuotedName hit.value || isBareName hit.value) = true := by
  have inside := Pattern.mem_hitsAt_iff.2 ⟨first, last, scan, rfl⟩
  by_contra malformed
  refine clean.severity_ne here ⟨.malformedComponent, (first.flatMap Token.raw).length, hit.raw⟩
    (fun inLoop => ?_) rfl
  have noted : _ ∈ argumentNotes (withoutReturn line) :=
    List.mem_filterMap.2 ⟨_, inside, if_neg malformed⟩
  simp only [lineNotes, referenceNotes, List.mem_append]
  exact .inl (.inl (.inr (.inl (.inr noted))))

/-- A component in a template without errors has a name, and no quote marks in it. -/
theorem IsClean.quoted_of_component (clean : IsClean scope content) (n : QuotedName "component")
    (closed : '}' ∉ n.body) {before after : Text}
    (whole : content = before ++ ((Segment.directive n.body).raw ++ after))
    (onLine : '\n' ∉ n.body) :
    n.name ≠ [] ∧ n.name.isUnquoted = true := by
  obtain ⟨line, here, left, right, cut⟩ := exists_line whole onLine
  rcases componentWithArgument.cuts_or_overlap left ((Segment.directive n.body).raw ++ right) with
    place | ⟨⟨o⟩⟩
  · obtain ⟨first, scan, _⟩ := place.scan_of_read (read_componentWithArgument n closed right)
    rw [← cut] at scan
    have formed := clean.wellFormed here scan
    exact quoted_of_wellFormed n [] formed
  · -- A longer component reaches into the directive, and its argument has quote marks inside.
    obtain ⟨lead, _, _, raw⟩ := shallow_componentWithArgument.lead_of_overlap closed o
    obtain ⟨front, value⟩ := argument_of_lead n (Pattern.read_of_scan o.scan) raw
    have scan := o.scan
    rw [← cut] at scan
    have formed := clean.wellFormed here scan
    rw [value] at formed
    exact quoted_of_wellFormed n front formed

/-- The names of components that rendering asks for are known, also those that validation cannot
read, unless they have blanks or closing braces. -/
theorem IsClean.known_of_component (clean : IsClean scope content) {hit : Hit Text} {rest : Text}
    (found : hit ∈ Reference.includes.hits content)
    (component : (Reference.named "component").read hit.raw = some (hit, rest))
    (onLine : '\n' ∉ hit.raw) (solid : hit.value.isSolidText = true) (closed : '}' ∉ hit.value) :
    scope.components.contains hit.value = true := by
  obtain ⟨first, last, scan⟩ := Pattern.mem_hits_iff.1 found
  have whole := Pattern.eq_append_of_scan scan
  rw [List.flatMap_cons] at whole
  obtain ⟨n, rfl⟩ := QuotedName.of_named component
  have feed : '\n' ∉ n.body := fun feed => onLine (by simp [Segment.raw, feed])
  have clear : '}' ∉ n.body := n.not_mem_body (by decide) (by decide) (by decide) closed
  obtain ⟨nonempty, unquoted⟩ := clean.quoted_of_component n clear whole feed
  have valid : IsName n.name := by
    refine ⟨nonempty, fun c inside => ?_⟩
    have quote := Text.isUnquoted_iff.1 unquoted c inside
    have blank := Text.isSolidText_iff.1 solid c inside
    have brace : c ≠ '}' := fun same => closed (same ▸ inside)
    simp [isNameCharacter, quote, blank, brace]
  exact clean.known_of_includes found onLine valid

/-- The names of the layouts that rendering asks for are known. -/
theorem IsClean.known_of_layouts (clean : IsClean scope content) {hit : Hit (Text × Text)}
    (found : hit ∈ Reference.layouts.hits content) {tag : Hit Text} {rest : Text}
    (opens : (Reference.named "layout").read hit.raw = some (tag, rest)) (onLine : '\n' ∉ tag.raw)
    (valid : IsName hit.value.1) : scope.components.contains hit.value.1 = true := by
  obtain ⟨first, last, scan⟩ := Pattern.mem_hits_iff.1 found
  have whole := Pattern.eq_append_of_scan scan
  rw [List.flatMap_cons] at whole
  obtain ⟨opening, _, behind, read, raw, name⟩ :=
    Pattern.opener_of_block (Pattern.read_of_scan scan)
  obtain ⟨n, rfl⟩ := QuotedName.of_named read
  rw [raw, n.read_named (by decide) (by decide)] at opens
  obtain ⟨rfl, _⟩ := Prod.mk.inj (Option.some.inj opens)
  rw [name] at valid ⊢
  have mention (rest : Text) : references.read ((Segment.directive n.body).raw ++ rest) =
      some (⟨(Segment.directive n.body).raw, (.layout, n.name)⟩, rest) := by
    rw [references, Pattern.orElse_of_none
      (read_mention_of_ne n (by decide) (by decide) (by decide) (by decide) rest)]
    exact read_mention n (by decide) (by decide) valid rest
  have around : content = first.flatMap Token.raw ++
      ((Segment.directive n.body).raw ++ (behind ++ last.flatMap Token.raw)) := by
    rw [whole, ← List.append_assoc (Segment.directive n.body).raw, ← raw]
    rfl
  exact clean.known_of_quoted separate_references (nameNotes_references scope) n mention around
    onLine

end Validation

/-! ### Places in a text -/

/-- The number of characters in front of a line, the lines counted from one. -/
def Text.lineStart (t : Text) (number : Nat) : Nat :=
  (((lines t).take (number - 1)).flatMap fun line => line ++ ['\n']).length

/-- Rows that are joined, around one of them. -/
theorem Text.around_row (sep : Char) {rows : List Text} {index : Nat} {row : Text}
    (inside : rows[index]? = some row) :
    ∃ after, List.intercalate [sep] rows =
      ((rows.take index).flatMap fun row => row ++ [sep]) ++ (row ++ after) := by
  induction rows generalizing index with
  | nil => simp at inside
  | cons first rows ih =>
      cases index with
      | zero =>
          obtain rfl : first = row := by simpa using inside
          cases rows with
          | nil => exact ⟨[], by simp⟩
          | cons next rows =>
              rw [List.intercalate_cons_cons, List.append_assoc]
              exact ⟨_, rfl⟩
      | succ index =>
          have later : rows[index]? = some row := by simpa using inside
          obtain ⟨after, joined⟩ := ih later
          have others : rows ≠ [] := by
            rintro rfl
            simp at later
          refine ⟨after, ?_⟩
          rw [List.intercalate_cons_of_ne_nil others, joined]
          simp

theorem Text.around_line {t line : Text} {number : Nat}
    (here : (line, number) ∈ (lines t).zipIdx 1) :
    ∃ before after, t = before ++ (line ++ after) ∧ before.length = lineStart t number := by
  have inside := (List.mk_mem_zipIdx_iff_le_and_getElem?_sub.1 here).2
  obtain ⟨after, joined⟩ := around_row '\n' inside
  have whole : List.intercalate ['\n'] (lines t) = t := by
    rw [lines_eq, List.intercalate_splitOn]
  rw [whole] at joined
  exact ⟨_, after, joined, rfl⟩

namespace Reference

/-- Where a component is named in quote marks, rendering finds the directive, or a longer quoted
name with the directive in it. -/
theorem hitsAt_or_quoted (u more : Text) {n : QuotedName "component"}
    (valid : Validation.IsName n.name) :
    (u.length, ⟨(Segment.directive n.body).raw, n.name⟩) ∈
        includes.hitsAt (u ++ ((Segment.directive n.body).raw ++ more)) ∨
      ∃ start other,
        (start, other) ∈ includes.hitsAt (u ++ ((Segment.directive n.body).raw ++ more)) ∧
        start < u.length ∧
        u.length + (Segment.directive n.body).raw.length < start + other.raw.length ∧
        (Segment.directive n.body).raw <:+: other.value := by
  have read : includes.read ((Segment.directive n.body).raw ++ more) =
      some (⟨(Segment.directive n.body).raw, n.name⟩, more) := by
    rw [includes, Pattern.orElse_of_none
      (n.read_named_of_ne (by decide) (by decide) (by decide) (by decide) more)]
    exact n.read_named (by decide) (by decide) more
  rcases includes.cuts_or_overlap u ((Segment.directive n.body).raw ++ more) with cut | ⟨⟨o⟩⟩
  · obtain ⟨first, scan, raw⟩ := cut.scan_of_read read
    exact .inl (Pattern.mem_hitsAt_iff.2 ⟨first, _, scan, by rw [raw]⟩)
  -- The hit across the place is quoted too, and its name holds the whole directive.
  · right
    have within {w : String} (clear : '{' ∉ w.toList) (outer : QuotedName w)
        (hit : o.hit = ⟨(Segment.directive outer.body).raw, outer.name⟩) :
        (o.first.flatMap Token.raw).length < u.length ∧
          u.length + (Segment.directive n.body).raw.length <
            (o.first.flatMap Token.raw).length + o.hit.raw.length ∧
          (Segment.directive n.body).raw <:+: o.hit.value := by
      have raw := o.raw
      have begins := List.length_pos_iff.2 o.begins
      have front := congrArg List.length o.front
      have length := congrArg List.length raw
      rw [List.length_append] at front length
      rw [hit] at raw ⊢
      obtain ⟨inside, shorter⟩ :=
        outer.within_name n clear (by decide) valid raw o.begins o.ends o.back
      rw [hit] at length
      exact ⟨by omega, by omega, inside⟩
    refine ⟨_, o.hit, Pattern.mem_hitsAt_iff.2 ⟨o.first, _, o.scan, rfl⟩, ?_⟩
    rcases Pattern.read_orElse (Pattern.read_of_scan o.scan) with included | component
    · obtain ⟨outer, hit⟩ := QuotedName.of_named included
      exact within (by decide) outer hit
    · obtain ⟨outer, hit⟩ := QuotedName.of_named component
      exact within (by decide) outer hit

end Reference

/-- A component that validation reads in quote marks is one that rendering finds in the same place
and under the same name, unless the directive stands in a longer quoted name that rendering
finds. -/
theorem Validation.hitsAt_includes {content line : Text} {number column : Nat}
    {hit : Hit (ReferenceKind × Text)} (here : (line, number) ∈ (Text.lines content).zipIdx 1)
    (accepted : (column, hit) ∈ components.hitsAt (withoutReturn line))
    (quoted : hit.raw.any isQuote = true) :
    (Text.lineStart content number + column, ⟨hit.raw, hit.value.2⟩) ∈
        Reference.includes.hitsAt content ∨
      ∃ start other, (start, other) ∈ Reference.includes.hitsAt content ∧
        start < Text.lineStart content number + column ∧
        Text.lineStart content number + column + hit.raw.length < start + other.raw.length ∧
        hit.raw <:+: other.value := by
  obtain ⟨before, after, whole, start⟩ := Text.around_line here
  obtain ⟨behind, cut⟩ := exists_return line
  obtain ⟨first, last, scan, width⟩ := Pattern.mem_hitsAt_iff.1 accepted
  have text := Pattern.eq_append_of_scan scan
  rw [List.flatMap_cons] at text
  obtain ⟨n, valid, rfl⟩ : ∃ n : QuotedName "component", IsName n.name ∧
      hit = ⟨(Segment.directive n.body).raw, (.component, n.name)⟩ := by
    rcases of_mention (Pattern.read_of_scan scan) with marked | ⟨m, valid, rfl⟩
    · exact marked
    · have unquoted := isUnquoted_of_isName m (by decide) valid
      obtain ⟨c, inside, isMark⟩ := List.any_eq_true.1 quoted
      exact absurd inside (Text.not_mem_of_isUnquoted unquoted isMark)
  have parts : content = (before ++ first.flatMap Token.raw) ++ ((Segment.directive n.body).raw ++
      (last.flatMap Token.raw ++ (behind ++ after))) := by
    rw [whole, cut, text]
    simp [Token.raw]
  have place : (before ++ first.flatMap Token.raw).length =
      Text.lineStart content number + column := by
    rw [List.length_append, start, width]
  have found := Reference.hitsAt_or_quoted (before ++ first.flatMap Token.raw)
    (last.flatMap Token.raw ++ (behind ++ after)) valid
  rw [← parts, place] at found
  exact found

/-! ### A template without errors -/

/-- Validation and rendering see the same references.  If validation finds no error, all names that
rendering asks for are known, those of markup to include and of layouts, as long as the tag is on
one line and validation can read the name; for components, as long as the name has no blanks and no
closing braces.  And a component that validation reads in quote marks is one that rendering finds,
unless the directive stands in a longer quoted name. -/
theorem Validation.references_known {scope : Scope} {content : Text}
    (clean : IsClean scope content) :
    (∀ hit ∈ Reference.includes.hits content, '\n' ∉ hit.raw → IsName hit.value →
      scope.components.contains hit.value = true) ∧
    (∀ hit ∈ Reference.includes.hits content, ∀ rest,
      (Reference.named "component").read hit.raw = some (hit, rest) → '\n' ∉ hit.raw →
        hit.value.isSolidText = true → '}' ∉ hit.value →
          scope.components.contains hit.value = true) ∧
    (∀ hit ∈ Reference.layouts.hits content, ∀ tag rest,
      (Reference.named "layout").read hit.raw = some (tag, rest) → '\n' ∉ tag.raw →
        IsName hit.value.1 → scope.components.contains hit.value.1 = true) ∧
    ∀ line number, (line, number) ∈ (Text.lines content).zipIdx 1 →
      ∀ column hit, (column, hit) ∈ components.hitsAt (withoutReturn line) →
        hit.raw.any isQuote = true →
          (Text.lineStart content number + column, ⟨hit.raw, hit.value.2⟩) ∈
            Reference.includes.hitsAt content ∨
          ∃ start other, (start, other) ∈ Reference.includes.hitsAt content ∧
            start < Text.lineStart content number + column ∧
            Text.lineStart content number + column + hit.raw.length < start + other.raw.length ∧
            hit.raw <:+: other.value :=
  ⟨fun _ found onLine valid => clean.known_of_includes found onLine valid,
    fun _ found _ component onLine solid closed =>
      clean.known_of_component found component onLine solid closed,
    fun _ found _ _ opens onLine valid => clean.known_of_layouts found opens onLine valid,
    fun _ _ here _ _ accepted quoted => hitsAt_includes here accepted quoted⟩

/-- The second line of an invitation. -/
def invitationLine : Text :=
  Document.raw [.text "Dear ".toList, .directive "include \"greeting\"".toList, .text ", ".toList,
    .directive "component 'badge'".toList]

/-- An invitation with a layout around two references on its second line. -/
def invitation : Text :=
  Document.raw [.directive "layout 'page'".toList, .text ('\n' :: invitationLine),
    .text "\n".toList, .directive "/layout".toList]

/-- The markup that the invitation refers to. -/
def invitationScope : Scope :=
  ⟨.ofList [], .ofList ["page".toList, "greeting".toList, "badge".toList]⟩

/-- The references of the invitation. -/
theorem references_known_invitation :
    Validation.IsClean invitationScope invitation ∧
    invitationScope.components.contains "greeting".toList = true ∧
    invitationScope.components.contains "badge".toList = true ∧
    invitationScope.components.contains "page".toList = true ∧
    ((18 + 29, ⟨(Segment.directive "component 'badge'".toList).raw, "badge".toList⟩) ∈
        Reference.includes.hitsAt invitation ∨
      ∃ start other, (start, other) ∈ Reference.includes.hitsAt invitation ∧ start < 18 + 29 ∧
        18 + 29 + 21 < start + other.raw.length ∧
        (Segment.directive "component 'badge'".toList).raw <:+: other.value) := by
  have clean : Validation.IsClean invitationScope invitation := by decide +kernel
  have valid {name : Text} (nonempty : name ≠ [])
      (all : name.all Validation.isNameCharacter = true) : Validation.IsName name :=
    ⟨nonempty, List.all_eq_true.1 all⟩
  obtain ⟨included, named, laid, component⟩ := Validation.references_known clean
  refine ⟨clean, ?_, ?_, ?_, ?_⟩
  · exact included ⟨(Segment.directive "include \"greeting\"".toList).raw, "greeting".toList⟩
      (by decide +kernel) (by decide) (valid (by decide) (by decide))
  · exact named ⟨(Segment.directive "component 'badge'".toList).raw, "badge".toList⟩
      (by decide +kernel) [] (by decide +kernel) (by decide) (by decide) (by decide)
  · have opens : (Reference.named "layout").read invitation =
        some (⟨(Segment.directive "layout 'page'".toList).raw, "page".toList⟩,
          '\n' :: (invitationLine ++ '\n' :: (Segment.directive "/layout".toList).raw)) := by
      decide +kernel
    exact laid ⟨invitation, "page".toList, '\n' :: (invitationLine ++ ['\n'])⟩ (by decide +kernel)
      _ _ opens (by decide) (valid (by decide) (by decide))
  · have start : Text.lineStart invitation 2 = 18 := by decide +kernel
    have found := component invitationLine 2 (by decide +kernel) 29
      ⟨(Segment.directive "component 'badge'".toList).raw, (.component, "badge".toList)⟩
      (by decide +kernel) (by decide)
    rw [start] at found
    exact found

/-- A component named without quote marks. -/
def bareComponent : Text :=
  (Segment.directive "component badge".toList).raw

/-- A name with a blank. -/
def blankName : Text :=
  (Segment.directive "include 'a b'".toList).raw

/-- A tag over two lines, with as many opening as closing braces on each. -/
def brokenTag : Text :=
  Document.raw [.text (Directive.closing ++ [' ']), .directive "include\n'x'".toList,
    .text (' ' :: Directive.opening)]

/-- A name with a whole directive in it. -/
def nestedName : Text :=
  (Segment.directive ("include '".toList ++ (Segment.directive "component \"badge\"".toList).raw ++
    ['\''])).raw

/-- Validation finds nothing wrong with any of these.  But rendering leaves the component without
quote marks in place, it asks for the name with the blank and the name in the broken tag, which
nobody knows, and of the last it reads the longer name and not the component that validation
accepts. -/
theorem not_same_references :
    (Validation.IsClean ⟨.ofList [], .ofList ["badge".toList]⟩ bareComponent ∧
      Validation.components.hitsAt bareComponent =
        [(0, ⟨bareComponent, (.component, "badge".toList)⟩)] ∧
      Reference.includes.hitsAt bareComponent = []) ∧
    (Validation.IsClean ⟨.ofList [], .ofList []⟩ blankName ∧
      Reference.includes.hitsAt blankName = [(0, ⟨blankName, "a b".toList⟩)]) ∧
    (Validation.IsClean ⟨.ofList [], .ofList []⟩ brokenTag ∧
      Reference.includes.hitsAt brokenTag =
        [(3, ⟨(Segment.directive "include\n'x'".toList).raw, "x".toList⟩)]) ∧
    (Validation.IsClean ⟨.ofList [], .ofList ["badge".toList]⟩ nestedName ∧
      Validation.components.hitsAt nestedName =
        [(11, ⟨(Segment.directive "component \"badge\"".toList).raw,
          (.component, "badge".toList)⟩)] ∧
      Reference.includes.hitsAt nestedName =
        [(0, ⟨nestedName, (Segment.directive "component \"badge\"".toList).raw⟩)]) := by
  refine ⟨?_, ?_, ?_, ?_⟩ <;> decide +kernel

end MailTemplate
