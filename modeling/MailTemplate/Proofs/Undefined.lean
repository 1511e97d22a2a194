/-
Module: MailTemplate.Proofs.Undefined
Purpose: Validation and printing agree on the directives that print a key without a value.
Main exports: Directive.key?, Directive.lookups, Resolver.print_congr, Directive.isSpaced,
  Validation.ReportsUndefined, Validation.reportsUndefined_iff_of_scan,
  Validation.undefined_reported_iff
-/
import MailTemplate.Data.Supply
import MailTemplate.Proofs.Catalog
import MailTemplate.Proofs.KeyedExtent
import MailTemplate.Proofs.LoopLines

/-!
A directive that prints a value looks up one key, or none if it prints a literal.  Validation warns
where that key is unknown, except that it lets a default pass that is empty or a number.

Validation has a test of its own for the directives that print nothing.  It asks for a space behind
the words `loop`, `layout`, `include` and `component`, where printing takes any blank: of a
directive with a tab there, validation says that it is no variable, though printing leaves it in
place.  That is the only difference.
-/

namespace MailTemplate

/-! ### The keys that printing looks up -/

namespace Directive

/-- The key that a directive looks up when it is printed. -/
def key? (body : Text) : Option Text :=
  if isSilent body then none
  else
    match clause (Text.trim body) with
    | .literal _ => none
    | .variable key => some key

/-- The key that is looked up where a directive begins. -/
def Extent.key? : Extent → Option Text
  | .closed body => Directive.key? body
  | .unclosed => none

/-- The keys that printing a text looks up, each with the number of characters in front of its
directive. -/
def lookups (t : Text) : List (Nat × Text) :=
  (extent.hitsAt t).filterMap fun (position, hit) => hit.value.key?.map fun key => (position, key)

/-- A key is looked up where a directive with it stands. -/
theorem mem_lookups_iff {t key : Text} {position : Nat} :
    (position, key) ∈ lookups t ↔
      ∃ hit, (position, hit) ∈ extent.hitsAt t ∧ hit.value.key? = some key := by
  rw [lookups, List.mem_filterMap]
  constructor
  · rintro ⟨⟨place, hit⟩, here, made⟩
    obtain ⟨found, looked, same⟩ := Option.map_eq_some_iff.1 made
    obtain ⟨rfl, rfl⟩ := Prod.mk.inj same
    exact ⟨hit, here, looked⟩
  · rintro ⟨hit, here, looked⟩
    exact ⟨(position, hit), here, Option.map_eq_some_iff.2 ⟨key, looked, rfl⟩⟩

/-- A directive has a key if it prints and its clause is a variable. -/
theorem key?_eq_some_iff {body key : Text} :
    key? body = some key ↔ isSilent body = false ∧ clause (Text.trim body) = .variable key := by
  unfold key?
  split
  · rename_i silent
    simp [silent]
  · rename_i speaks
    cases clause (Text.trim body) <;> simp [speaks]

/-- The key that is looked up at a directive is that of its body. -/
theorem mem_lookups_of_scan {content body key : Text} {first last : List (Token Extent)}
    (scan : extent.scan content = first ++ .hit ⟨(Segment.directive body).raw, .closed body⟩ :: last) :
    ((first.flatMap Token.raw).length, key) ∈ lookups content ↔ key? body = some key := by
  have only (hit : Hit Extent) : ((first.flatMap Token.raw).length, hit) ∈ extent.hitsAt content ↔
      hit = ⟨(Segment.directive body).raw, .closed body⟩ := by
    rw [Pattern.eq_append_of_scan scan]
    exact (Pattern.cuts_of_scan scan).mem_hitsAt_iff (Pattern.read_of_scan scan)
  rw [mem_lookups_iff]
  constructor
  · rintro ⟨hit, here, looked⟩
    obtain rfl := (only hit).1 here
    exact looked
  · intro looked
    exact ⟨_, (only _).2 rfl, looked⟩

end Directive

/-- The extents in a tidy document are its directives. -/
theorem Document.scan_directive {before after : Document} {body : Text}
    (tidy : ∀ segment ∈ before ++ .directive body :: after, segment.isTidy = true) :
    Directive.extent.scan (raw (before ++ .directive body :: after)) =
      Directive.extent.scan before.raw ++
        .hit ⟨(Segment.directive body).raw, .closed body⟩ :: Directive.extent.scan after.raw := by
  have whole (other : Text) (here : Segment.directive other ∈ before ++ .directive body :: after) :
      Directive.extent.ReadsWhole other ∧ Directive.extent.valueOf? other = some (.closed other) := by
    have both := tidy _ here
    rw [Segment.isTidy, Bool.and_eq_true] at both
    exact Directive.readsWhole_extent both.1 both.2
  have reads : ∀ segment ∈ before ++ .directive body :: after, Directive.extent.Reads segment := by
    intro segment here
    refine Directive.bracketed_extent.reads (Segment.isFlat_of_isTidy (tidy segment here)) ?_
    rintro other rfl
    exact (whole other here).1
  have value : Directive.extent.valueOn? (.directive body) = some (.closed body) :=
    (whole body (by simp)).2
  have own := Pattern.tokensOf_of_some value
  rw [Pattern.scan_reads reads, List.flatMap_append, List.flatMap_cons, own,
    Pattern.scan_reads fun segment here => reads segment (List.mem_append_left _ here),
    Pattern.scan_reads fun segment here =>
      reads segment (List.mem_append_right _ (List.mem_cons_of_mem _ here))]
  rfl

namespace Resolver

variable {σ : Type} [Chance σ]

/-- Where a key is looked up, its value is printed, or the directive if it has none. -/
theorem printExtent_of_key? {hit : Hit Directive.Extent} {key : Text}
    (looked : hit.value.key? = some key) (resolver : Resolver σ) (s : σ) :
    resolver.printExtent hit s =
      match resolver.resolve key s with
      | (.ok value, s) => (value, s)
      | (.error _, s) => (hit.raw, s) := by
  obtain ⟨raw, extent⟩ := hit
  cases extent with
  | unclosed => simp [Directive.Extent.key?] at looked
  | closed body =>
      obtain ⟨speaks, clause⟩ := Directive.key?_eq_some_iff.1 looked
      simp only [printExtent, speaks, clause]
      rfl

/-- Where no key is looked up, what is printed depends neither on the values nor on the state. -/
theorem printExtent_of_key?_eq_none {hit : Hit Directive.Extent} (keyless : hit.value.key? = none)
    (resolver other : Resolver σ) (s : σ) :
    resolver.printExtent hit s = other.printExtent hit s := by
  obtain ⟨raw, extent⟩ := hit
  cases extent with
  | unclosed => rfl
  | closed body =>
      simp only [Directive.Extent.key?, Directive.key?] at keyless
      simp only [printExtent]
      split at keyless
      · rename_i silent
        simp only [silent, if_true]
      · cases clause : Directive.clause (Text.trim body) with
        | literal t => rfl
        | «variable» key => simp [clause] at keyless

/-- What a text prints depends on nothing but the values of the keys that it looks up. -/
theorem print_congr {resolver other : Resolver σ} {t : Text}
    (same : ∀ position key, (position, key) ∈ Directive.lookups t →
      ∀ s, resolver.resolve key s = other.resolve key s) (s : σ) :
    resolver.print t s = other.print t s := by
  refine Pattern.replaceWith_congr (fun hit inside s => ?_) s
  cases looked : hit.value.key? with
  | none => exact printExtent_of_key?_eq_none looked resolver other s
  | some key =>
      obtain ⟨first, last, scan⟩ := Pattern.mem_hits_iff.1 inside
      have listed := Directive.mem_lookups_iff.2
        ⟨hit, Pattern.mem_hitsAt_iff.2 ⟨first, last, scan, rfl⟩, looked⟩
      rw [printExtent_of_key? looked, printExtent_of_key? looked, same _ key listed]

end Resolver

/-! ### Directives that print nothing -/

namespace Directive

/-- Whether no other blank than a space stands behind a word of the grammar with which a directive
begins. -/
def isSpaced (body : Text) : Bool :=
  argumentWords.all fun word =>
    match Text.dropPrefix? word (Text.trim body) with
    | some (c :: _) => !isBlank c || c == ' '
    | _ => true

/-- In a body with plain spacing, the gap behind a known word is a space. -/
theorem eq_space_of_isSpaced {body word rest : Text} {gap : Char} (spaced : isSpaced body = true)
    (known : word ∈ argumentWords) (begins : Text.trim body = word ++ gap :: rest)
    (blank : isBlank gap = true) : gap = ' ' := by
  have own := List.all_eq_true.1 spaced word known
  rw [begins, Text.dropPrefix?_append] at own
  simpa [blank] using own

/-- A directive with a word of the grammar and a space prints nothing. -/
theorem isSilent_of_space {body word rest : Text} (known : word ∈ argumentWords)
    (begins : Text.trim body = word ++ ' ' :: rest) : isSilent body = true := by
  have silent : isSilent (Text.trim body) = true := by
    have start : Text.trimStart (Text.trim body) = word ++ ' ' :: rest := by
      rw [Text.trimStart_trim, begins]
    by_cases padding : rest.isPadding = true
    · -- Behind the word there would be padding alone, which trimming takes away.
      have gap : Text.isPadding (' ' :: rest) = true := by
        rw [Text.isPadding, List.all_cons, Bool.and_eq_true]
        exact ⟨by decide, padding⟩
      have trimmed := Text.trim_padded (rfl : Text.isPadding [] = true) gap word
      rw [List.nil_append, ← begins, Text.trim_trim, begins,
        Text.trim_of_solid (solid_argumentWords known)] at trimmed
      simp at trimmed
    · obtain ⟨c, inside, solid⟩ : ∃ c ∈ rest, isBlank c = false := by
        simpa [Text.isPadding] using padding
      exact isSilent_of_argument known start (by decide) inside solid
  rwa [isSilent, Text.trim_trim, ← isSilent] at silent

end Directive

namespace Validation

/-- What validation takes for a directive that prints nothing is one. -/
theorem isSilent_of_isExempt {body : Text} (exempt : isExempt (Text.trim body) = true) :
    Directive.isSilent body = true := by
  have forms : ∀ beginning ∈ exemptBeginnings, beginning ∈ Directive.closerWords ∨
      ∃ word ∈ Directive.argumentWords, beginning = word ++ [' '] := by decide
  rw [isExempt, Bool.or_eq_true, List.any_eq_true] at exempt
  rcases exempt with ⟨beginning, known, begins⟩ | content
  · rcases forms beginning known with closer | ⟨word, grammar, rfl⟩
    · have begun : Directive.closerWords.any (Text.startsWith · (Text.trim body)) = true :=
        List.any_eq_true.2 ⟨beginning, closer, begins⟩
      simp [Directive.isSilent, begun]
    · obtain ⟨rest, dropped⟩ := Option.isSome_iff_exists.1 begins
      have whole := Text.eq_append_of_dropPrefix? dropped
      rw [List.append_assoc] at whole
      exact Directive.isSilent_of_space grammar whole
  · rw [beq_iff_eq] at content
    refine Directive.isSilent_of_loneWord ?_
    rw [content]
    decide

/-- The words of the index print nothing. -/
theorem isSilent_of_indexWord {body : Text} (known : Text.trim body ∈ indexWords) :
    Directive.isSilent body = true := by
  have lone : ∀ word ∈ indexWords, word ∈ Directive.loneWords := by decide
  exact Directive.isSilent_of_loneWord (lone _ known)

/-- A directive that prints nothing is taken for one, or is a placeholder, if only spaces stand
behind the words of the grammar. -/
theorem isExempt_or_indexWord {body : Text} (silent : Directive.isSilent body = true)
    (spaced : Directive.isSpaced body = true) :
    isExempt (Text.trim body) = true ∨ Text.trim body ∈ indexWords := by
  simp only [Directive.isSilent, Bool.or_eq_true, List.contains_iff_mem] at silent
  rcases silent with (lone | closer) | argument
  · have words : ∀ word ∈ Directive.loneWords, word = "content".toList ∨ word ∈ indexWords := by
      decide
    rcases words _ lone with content | index
    · left
      simp [isExempt, content]
    · exact .inr index
  · left
    have words : ∀ word ∈ Directive.closerWords, word ∈ exemptBeginnings := by decide
    obtain ⟨word, known, begins⟩ := List.any_eq_true.1 closer
    rw [isExempt, Bool.or_eq_true, List.any_eq_true]
    exact .inl ⟨word, words word known, begins⟩
  · left
    cases split : Text.splitFirstBlank (Text.trim body) with
    | none => simp [split] at argument
    | some found =>
        obtain ⟨word, rest⟩ := found
        have known : word ∈ Directive.argumentWords := by
          rw [split, Bool.and_eq_true] at argument
          simpa using argument.1
        obtain ⟨⟨gap, blank, whole⟩, _⟩ := Text.splitFirstBlank_eq_some split
        obtain rfl := Directive.eq_space_of_isSpaced spaced known whole blank
        have words : ∀ word ∈ Directive.argumentWords, word ++ [' '] ∈ exemptBeginnings := by decide
        rw [isExempt, Bool.or_eq_true, List.any_eq_true]
        refine .inl ⟨word ++ [' '], words word known, ?_⟩
        have dropped := Text.dropPrefix?_append (word ++ [' ']) rest
        rw [List.append_assoc, List.singleton_append, ← whole] at dropped
        rw [Text.startsWith, dropped]
        rfl

end Validation

/-! ### Findings and their messages -/

namespace Finding

/-- Whether a finding says that a variable or a value is not defined. -/
def isUndefined : Finding → Bool
  | .undefinedValue _ => true
  | .undefinedVariable _ => true
  | _ => false

/-- That a key is undefined is about what is printed. -/
theorem isAboutPrint_of_isUndefined {finding : Finding} (own : finding.isUndefined = true) :
    finding.isAboutPrint = true := by
  cases finding <;> simp_all [isUndefined, isAboutPrint]

/-- That a key is undefined is a warning. -/
theorem severity_of_isUndefined {finding : Finding} (own : finding.isUndefined = true) :
    finding.severity = .warning := by
  cases finding <;> simp_all [isUndefined, severity]

/-- Such a message begins with a letter with which no other begins. -/
theorem isUndefined_of_head? {finding : Finding} (first : finding.message.head? = some 'V') :
    finding.isUndefined = true := by
  unfold message at first
  cases finding with
  | undefinedVariable key => rfl
  | undefinedValue key => rfl
  | missingMarkup kind name =>
      have other : ∀ kind : ReferenceKind, kind.title.head? ≠ some 'V' ∧ kind.title ≠ [] := by
        rintro ⟨⟩ <;> decide
      obtain ⟨letter, title, same⟩ := List.exists_cons_of_ne_nil (other kind).2
      exact absurd (by simpa [same] using first) (other kind).1
  | _ => simp [quoted] at first

/-- A finding with such a message is about an undefined key. -/
theorem isUndefined_of_message {finding : Finding} {key : Text}
    (same : finding.message = (undefinedVariable key).message ∨
      finding.message = (undefinedValue key).message) : finding.isUndefined = true := by
  have ofVariable : "Variable ".toList.head? = some 'V' := by decide
  have ofValue : "Value ".toList.head? = some 'V' := by decide
  apply isUndefined_of_head?
  rcases same with same | same
  · rw [same]
    unfold message
    simp only [List.head?_append, ofVariable, Option.some_or]
  · rw [same]
    unfold message
    simp only [List.head?_append, ofValue, Option.some_or]

end Finding

namespace Validation

/-! ### What is found about one directive -/

/-- Whether a directive has a default that is empty or a number, which validation lets pass. -/
def isPlainDefault (body key : Text) : Bool :=
  (splitTopLevelComma? (Text.trim body)).isSome && (key.isEmpty || isNumber key)

/-- A key is said to be undefined if the data do not contain it. -/
theorem undefined_mem_keyFindings_iff {scope : Scope} {key : Text} :
    (∃ finding ∈ keyFindings scope key, finding.isUndefined = true) ↔
      scope.data.contains key = false := by
  rw [keyFindings]
  split <;> simp_all [Finding.isUndefined]

/-- A value is not printable if it is neither quoted, nor known, nor a number, nor empty. -/
theorem isPrintable_eq_false_iff {scope : Scope} {value : Text} :
    isPrintable scope value = false ↔ unquoted? value = none ∧ scope.data.contains value = false ∧
      (value.isEmpty || isNumber value) = false := by
  rw [isPrintable]
  cases unquoted? value <;> simp [and_comm]

/-- Of the directives that are neither exempt nor placeholders, validation finds those undefined
that print an unknown key. -/
theorem undefined_mem_printFindings_iff {scope : Scope} {inLoop : Bool} {body : Text} :
    (∃ finding ∈ printFindings scope inLoop (Text.trim body), finding.isUndefined = true) ↔
      isExempt (Text.trim body) = false ∧ Text.trim body ∉ indexWords ∧
        ∃ key, Directive.clause (Text.trim body) = .variable key ∧
          scope.data.contains key = false ∧ isPlainDefault body key = false := by
  rw [printFindings]
  by_cases exempt : isExempt (Text.trim body) = true
  · simp [exempt]
  by_cases index : Text.trim body ∈ indexWords
  · have listed : indexWords.contains (Text.trim body) = true := by simpa using index
    rw [if_neg exempt, if_pos listed]
    cases inLoop <;> simp [index, Finding.isUndefined]
  have unlisted : ¬ indexWords.contains (Text.trim body) = true := by simpa using index
  rw [if_neg exempt, if_neg unlisted]
  simp only [exempt, index, not_false_eq_true, true_and, Directive.clause, isPlainDefault]
  cases splitTopLevelComma? (Text.trim body) with
  | some found =>
      dsimp only
      generalize Text.trim found.2 = value
      have defaults := @isPrintable_eq_false_iff scope value
      by_cases printable : isPrintable scope value = true
      · rw [if_pos printable]
        cases literal : unquoted? value <;> simp_all
      · rw [if_neg printable]
        cases literal : unquoted? value <;> simp_all [Finding.isUndefined]
  | none =>
      cases Text.splitFirst '|' (Text.trim body) with
      | some found =>
          have own : (Finding.ignoredMethod (Text.trim found.2)).isUndefined = false := rfl
          simpa [own] using undefined_mem_keyFindings_iff
      | none => simpa using undefined_mem_keyFindings_iff

/-! ### What is reported about one directive -/

/-- Validation warns of something undefined where the text behind `before` begins: on the line that
`before` ends with, and behind as many characters of it. -/
def ReportsUndefined (scope : Scope) (content before : Text) : Prop :=
  ∃ issue ∈ validate scope content, issue.severity = .warning ∧
    issue.line = 1 + before.count '\n' ∧
    (Text.lines before).getLast?.map List.length = some issue.column ∧
    ∃ key, issue.message = (Finding.undefinedVariable key).message ∨
      issue.message = (Finding.undefinedValue key).message

/-- What is printed holds no braces but its own. -/
theorem shallow_printed : printed.Shallow :=
  Shape.shallow_pattern [.atLeastOne (· != '}')] (by decide)

/-- What is printed is the body without blanks around it. -/
theorem valueOf?_printed {body : Text} (closed : '}' ∉ body) (nonempty : body ≠ []) :
    printed.valueOf? body = some (Text.trim body) := by
  have all : Shape.takeAll? [.atLeastOne (· != '}')] body = some [body] := by
    have run : Text.takeRun (· != '}') body = (body, []) :=
      Text.takeRun_of_all (Text.bne_of_not_mem closed)
    rw [Shape.takeAll?_eq_some_iff]
    cases body with
    | nil => exact absurd rfl nonempty
    | cons c body => simp [Shape.take?, Part.take?, run]
  have inside := Shape.staysInside
    (by decide : [Part.atLeastOne (· != '}')].all Part.avoidsClosing = true) body
  have value : printed.valueOf? body = (Shape.takeAll? [.atLeastOne (· != '}')] body).map _ :=
    (Shape.readsWhole_pattern _ inside closed).2
  rw [value, all]
  rfl

/-- What is reported about a directive is what is found about its body. -/
theorem reportsUndefined_iff_of_scan {scope : Scope} {content body : Text}
    {first last : List (Token Directive.Extent)}
    (scan : Directive.extent.scan content =
      first ++ .hit ⟨(Segment.directive body).raw, .closed body⟩ :: last)
    (closed : '}' ∉ body) (nonempty : body ≠ []) (onLine : '\n' ∉ body) :
    ReportsUndefined scope content (first.flatMap Token.raw) ↔
      isExempt (Text.trim body) = false ∧ Text.trim body ∉ indexWords ∧
        ∃ key, Directive.clause (Text.trim body) = .variable key ∧
          scope.data.contains key = false ∧ isPlainDefault body key = false := by
  have whole : content = first.flatMap Token.raw ++
      ((Segment.directive body).raw ++ last.flatMap Token.raw) := Pattern.eq_append_of_scan scan
  obtain ⟨line, start, left, right, listed, cut, front, ends⟩ := exists_numbered_line whole onLine
  have place : printed.Cuts left ((Segment.directive body).raw ++ right) :=
    shallow_printed.cuts_directive scan front closed
  have here (hit : Hit Text) : (left.length, hit) ∈ printed.hitsAt (withoutReturn line) ↔
      hit = ⟨(Segment.directive body).raw, Text.trim body⟩ := by
    have read := shallow_printed.read_of_valueOf? closed (valueOf?_printed closed nonempty) right
    rw [cut]
    exact place.mem_hitsAt_iff read
  constructor
  · rintro ⟨issue, reported, _, number, column, key, message⟩
    obtain ⟨⟨text, row⟩, other, inside⟩ := List.mem_flatMap.1 reported
    obtain ⟨note, noted, rfl⟩ := List.mem_map.1 inside
    obtain rfl : row = 1 + (first.flatMap Token.raw).count '\n' := number
    -- The row is known by its number.
    obtain rfl : line = text := by
      have one := (List.mk_mem_zipIdx_iff_le_and_getElem?_sub.1 listed).2
      have two := (List.mk_mem_zipIdx_iff_le_and_getElem?_sub.1 other).2
      exact Option.some.inj (one.symm.trans two)
    have undefined : note.finding.isUndefined = true := Finding.isUndefined_of_message message
    obtain ⟨_, hit, found, finding, among, rfl⟩ := mem_variableNotes_iff.1
      (mem_variableNotes_of_isAboutPrint noted (Finding.isAboutPrint_of_isUndefined undefined))
    rw [ends] at column
    obtain rfl := Option.some.inj column
    obtain rfl := (here hit).1 found
    exact undefined_mem_printFindings_iff.1 ⟨finding, among, undefined⟩
  · intro unknown
    obtain ⟨finding, among, undefined⟩ := undefined_mem_printFindings_iff.2 unknown
    have printed := mem_variableNotes_iff.2 ⟨left.length, _, (here _).2 rfl, finding, among, rfl⟩
    have noted : _ ∈ lineNotes scope (spanOfLine? (loopSpans content)
        (1 + (first.flatMap Token.raw).count '\n')).isSome (withoutReturn line) :=
      List.mem_append_left _ (List.mem_append_left _ (List.mem_append_left _ printed))
    refine ⟨Note.issue _ _, List.mem_flatMap.2 ⟨_, listed, List.mem_map_of_mem noted⟩,
      Finding.severity_of_isUndefined undefined, rfl, by rw [ends]; rfl, ?_⟩
    cases finding with
    | undefinedVariable key => exact ⟨key, .inl rfl⟩
    | undefinedValue key => exact ⟨key, .inr rfl⟩
    | _ => exact absurd undefined (by simp [Finding.isUndefined])

/-- Validation warns of something undefined at a directive where printing looks up a key that the
resolver does not have, unless the key stands for a default that is empty or a number.  And if only
spaces stand behind the words of the grammar it warns nowhere else, in particular not at a directive
that prints nothing. -/
theorem undefined_reported_iff {σ : Type} (resolver : Resolver σ) (components : Names)
    {before after : Document} {body : Text}
    (tidy : ∀ segment ∈ before ++ .directive body :: after, segment.isTidy = true)
    (nonempty : body ≠ []) (onLine : '\n' ∉ body) :
    ((∃ key, (before.raw.length, key) ∈
          Directive.lookups (Document.raw (before ++ .directive body :: after)) ∧
        resolver.contains key = false ∧ isPlainDefault body key = false) →
      ReportsUndefined ⟨resolver.names, components⟩
        (Document.raw (before ++ .directive body :: after)) before.raw) ∧
    (Directive.isSpaced body = true →
      ReportsUndefined ⟨resolver.names, components⟩
          (Document.raw (before ++ .directive body :: after)) before.raw →
        Directive.isSilent body = false ∧
        ∃ key, (before.raw.length, key) ∈
            Directive.lookups (Document.raw (before ++ .directive body :: after)) ∧
          resolver.contains key = false ∧ isPlainDefault body key = false) := by
  have scan := Document.scan_directive tidy
  have closed : '}' ∉ body := by
    have own := tidy (.directive body) (by simp)
    exact Text.not_mem_of_isBraceFree (Segment.isFlat_of_isTidy own)
  have reported (scope : Scope) := @reportsUndefined_iff_of_scan scope _ _ _ _ scan closed nonempty
    onLine
  have looked (key : Text) := @Directive.mem_lookups_of_scan _ _ key _ _ scan
  simp only [Pattern.scan_flatMap_raw] at reported looked
  simp only [looked, reported, Directive.key?_eq_some_iff, Resolver.contains_names]
  constructor
  · rintro ⟨key, ⟨speaks, clause⟩, unknown, plain⟩
    refine ⟨?_, ?_, key, clause, unknown, plain⟩
    · by_contra exempt
      rw [isSilent_of_isExempt (by simpa using exempt)] at speaks
      exact absurd speaks (by simp)
    · intro index
      rw [isSilent_of_indexWord index] at speaks
      exact absurd speaks (by simp)
  · rintro spaced ⟨speaks, other, key, clause, unknown, plain⟩
    have speaks : Directive.isSilent body = false := by
      by_contra silent
      rcases isExempt_or_indexWord (by simpa using silent) spaced with exempt | index
      · rw [exempt] at speaks
        exact absurd speaks (by simp)
      · exact other index
    exact ⟨speaks, key, ⟨speaks, clause⟩, unknown, plain⟩

end Validation

/-- A bill with two keys that are not known, a default that is a number, and a component. -/
def bill : Document :=
  [.text "Dear ".toList, .directive "name".toList, .text ",\nyou owe ".toList,
    .directive "sum, total".toList, .text " or ".toList, .directive "rest, 0".toList,
    .text " to ".toList, .directive "shop|upper".toList, .directive "component 'logo'".toList]

/-- What is known about the bill. -/
def billResolver : Resolver Supply :=
  ⟨Table.empty, .ofList [("name".toList, .literal "Ann".toList)]⟩

/-- The sum on the bill, and the component behind it. -/
theorem undefined_reported_bill :
    ((23, "total".toList) ∈ Directive.lookups bill.raw ∧
      billResolver.contains "total".toList = false ∧
      Validation.ReportsUndefined ⟨billResolver.names, .ofList []⟩ bill.raw
        (Document.raw (bill.take 3))) ∧
    Directive.isSilent "component 'logo'".toList = true ∧
      ¬ Validation.ReportsUndefined ⟨billResolver.names, .ofList []⟩ bill.raw
        (Document.raw (bill.take 8)) := by
  have tidy : ∀ segment ∈ bill, segment.isTidy = true := by decide
  have looked : (23, "total".toList) ∈ Directive.lookups bill.raw := by decide +kernel
  have unknown : billResolver.contains "total".toList = false := by decide +kernel
  have silent : Directive.isSilent "component 'logo'".toList = true := by decide
  have sum : bill = bill.take 3 ++ .directive "sum, total".toList :: bill.drop 4 := rfl
  have logo : bill = bill.take 8 ++ .directive "component 'logo'".toList :: bill.drop 9 := rfl
  refine ⟨⟨looked, unknown, ?_⟩, silent, fun reported => ?_⟩
  · rw [sum] at tidy
    refine (Validation.undefined_reported_iff billResolver (.ofList []) tidy (by decide)
      (by decide)).1 ⟨_, looked, unknown, by decide⟩
  · rw [logo] at tidy
    have speaks := ((Validation.undefined_reported_iff billResolver (.ofList []) tidy (by decide)
      (by decide)).2 (by decide) reported).1
    exact absurd (silent.symm.trans speaks) (by simp)

/-- A component with a tab behind the word. -/
def tabbedComponent : Text :=
  "component\t\"card\"".toList

/-- The component prints nothing and exists, and validation says that it is no variable. -/
theorem reported_tabbedComponent :
    Directive.isSilent tabbedComponent = true ∧
    Directive.lookups (Segment.directive tabbedComponent).raw = [] ∧
    validate ⟨.ofList [], .ofList ["card".toList]⟩ (Segment.directive tabbedComponent).raw =
      [⟨.warning, (Finding.undefinedVariable tabbedComponent).message, 1, 0,
        (Segment.directive tabbedComponent).raw⟩] := by
  refine ⟨?_, ?_, ?_⟩ <;> decide +kernel

end MailTemplate
