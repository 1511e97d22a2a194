/-
Module: MailTemplate.Proofs.FanOut
Purpose: How many placeholders a keyed directive becomes, and where they stand.
Main exports: placeholderNumbers, placeholderRows, Document.fannedOut, convertText_fannedOut,
  keyedDirectives, convertText_around, Assembly.keyed_kept_iff
-/
import MailTemplate.Proofs.Outline
import MailTemplate.Proofs.Placement

/-!
A keyed directive becomes one placeholder on a line that no loop covers.  Of the loops that cover a
line the one that begins first decides: the directive becomes a placeholder for each of its
iterations, up to a bound.  All but the first stand on lines of their own, indented to the column
that the directive has in its line as it was written, whatever the directives in front of it became.

Where the bound is positive, a directive is lost only in a loop of no iterations.  Unfolding refuses
such a loop and leaves it as it is written, but conversion takes its number at face value.
-/

namespace MailTemplate

/-! ### The placeholders of a keyed directive -/

/-- The numbers that the placeholders for a key get: those of the iterations of the loop around its
line, up to a limit, and none outside loops. -/
def placeholderNumbers (limit : Nat) : Option LoopSpan → List (Option Nat)
  | none => [none]
  | some span => (List.range (min limit span.count)).map fun index => some (index + 1)

/-- Placeholders for a key, each but the first on a line of its own, indented to a column. -/
def placeholderRows (dialect : Dialect) (key : Text) (column : Nat) (numbers : List (Option Nat)) :
    Text :=
  Text.join ('\n' :: List.replicate column ' ') (numbers.map (dialect.placeholder key))

theorem convertDirective_eq (dialect : Dialect) (limit : Nat) (enclosing : Option LoopSpan)
    (column : Nat) (key : Text) :
    convertDirective dialect limit enclosing column key =
      placeholderRows dialect key column (placeholderNumbers limit enclosing) := by
  cases enclosing with
  | none => exact (Text.join_singleton _ _).symm
  | some span =>
      rw [convertDirective, fanOut, placeholderRows, placeholderNumbers, List.map_map,
        Nat.min_comm]
      rfl

/-- There are no placeholders only in a loop of no iterations. -/
theorem placeholderNumbers_eq_nil_iff {limit : Nat} (positive : 1 ≤ limit)
    {enclosing : Option LoopSpan} :
    placeholderNumbers limit enclosing = [] ↔ ∃ span, enclosing = some span ∧ span.count = 0 := by
  cases enclosing with
  | none => simp [placeholderNumbers]
  | some span =>
      rw [placeholderNumbers, List.map_eq_nil_iff, List.range_eq_nil]
      simp only [Option.some.injEq, exists_eq_left']
      omega

/-! ### Flat documents -/

/-- The key of a keyed directive: what stands in front of its first comma, if anything does, without
the blanks around it. -/
def Segment.keyed? : Segment → Option Text
  | .text _ => none
  | .directive body =>
      match Text.splitFirst ',' body with
      | none => none
      | some ([], _) => none
      | some (key, _) => some (Text.trim key)

namespace KeyedTag

theorem valueOf?_cons_comma {body : Text} (closed : '}' ∉ ',' :: body) :
    pattern.valueOf? (',' :: body) = none := by
  have run : Text.takeRun (fun c => c != ',' && c != '}') (',' :: body) = ([], ',' :: body) := rfl
  have first : Part.take? (.atLeastOne fun c => c != ',' && c != '}') (',' :: body) = none := by
    simp only [Part.take?, run]
  have unread : innerShape.takeAll? (',' :: body) = none := by
    simp only [innerShape, Shape.takeAll?, Shape.take?, first]
  rw [(readsWhole_eq closed).2, unread]
  rfl

/-- What conversion reads from a flat segment is its key. -/
theorem valueOn?_eq {segment : Segment} (flat : segment.isFlat = true) :
    pattern.valueOn? segment = segment.keyed? := by
  cases segment with
  | text t => rfl
  | directive body =>
      have closed : '}' ∉ body := Text.not_mem_of_isBraceFree flat
      change pattern.valueOf? body = _
      rw [Segment.keyed?]
      cases split : Text.splitFirst ',' body with
      | none =>
          refine valueOf?_of_not_mem (fun comma => ?_) closed
          obtain ⟨before, after, rfl, clear⟩ := List.eq_append_cons_of_mem comma
          rw [Text.splitFirst_eq_some_iff.2 ⟨rfl, clear⟩] at split
          exact absurd split (by simp)
      | some parts =>
          obtain ⟨key, rest⟩ := parts
          obtain ⟨rfl, plain⟩ := Text.splitFirst_eq_some_iff.1 split
          cases key with
          | nil => exact valueOf?_cons_comma closed
          | cons c key => exact valueOf?_comma (List.cons_ne_nil c key) plain closed

end KeyedTag

section Documents

variable (dialect : Dialect) (limit : Nat) (spans : List LoopSpan)

/-- What a segment becomes that begins at a place: a keyed directive its placeholders, numbered by
the first loop that covers the line, and any other segment itself. -/
def Segment.fannedOut (place : Place) (segment : Segment) : Text :=
  match segment.keyed? with
  | none => segment.raw
  | some key =>
      placeholderRows dialect key place.column
        (placeholderNumbers limit (spans.find? (·.covers place.line)))

/-- What a document becomes that begins at a place.  Places are those of the document as it is
written. -/
def Document.fannedOut : Place → Document → Text
  | _, [] => []
  | place, segment :: doc =>
      segment.fannedOut dialect limit spans place ++ fannedOut (place.behind segment.raw) doc

variable {dialect limit spans}

/-- A keyed directive by itself on its line. -/
theorem convertRow_hit {t : Text} {hit : Hit Text} (scan : KeyedTag.pattern.scan t = [.hit hit])
    (enclosing : Option LoopSpan) (column : Nat) :
    convertRow dialect limit enclosing column t =
      placeholderRows dialect hit.value column (placeholderNumbers limit enclosing) := by
  rw [convertRow, Pattern.replaceAt, scan, Pattern.locate, Pattern.locate, List.flatMap_singleton]
  exact convertDirective_eq dialect limit enclosing column hit.value

theorem Segment.convertAt_raw {segment : Segment} (flat : segment.isFlat = true)
    (linear : ∀ body, segment = .directive body → '\n' ∉ body) (place : Place) :
    convertAt dialect limit spans place segment.raw =
      segment.fannedOut dialect limit spans place := by
  cases segment with
  | text t =>
      have unkeyed : (Segment.text t).IsUnkeyed := flat
      exact unkeyed.convertAt spans place
  | directive body =>
      have single : '\n' ∉ (Segment.directive body).raw := by
        simp [Segment.raw, Directive.opening, Directive.closing, linear body rfl]
      have scan := (KeyedTag.reads flat).scan_eq
      rw [convertAt_of_not_mem single, fannedOut]
      cases key : (Segment.directive body).keyed? with
      | none =>
          rw [← KeyedTag.valueOn?_eq flat] at key
          rw [Pattern.tokensOf_of_none key] at scan
          have unread : KeyedTag.pattern.hits (Segment.directive body).raw = [] := by
            rw [Pattern.hits, scan, List.filterMap_map]
            simp
          exact Pattern.replaceAt_of_hits_eq_nil unread _
      | some key =>
          rw [← KeyedTag.valueOn?_eq flat] at key
          rw [Pattern.tokensOf_of_some key] at scan
          exact convertRow_hit scan _ _

/-- No keyed directive reaches from a flat segment into what follows. -/
theorem Segment.splits_of_isFlat {segment : Segment} (flat : segment.isFlat = true)
    {front row : Text} (cut : segment.raw = front ++ row) : KeyedTag.pattern.Splits row := by
  cases segment with
  | text t =>
      obtain rfl : t = front ++ row := cut
      have clear : '{' ∉ row := fun inside =>
        (Text.isBraceFree_iff.1 flat).1 (List.mem_append_right front inside)
      exact KeyedTag.bracketed.splits clear
  | directive body => exact KeyedTag.shallow.splits_directive cut

theorem Document.convertAt_raw {doc : Document} (flat : ∀ segment ∈ doc, segment.isFlat = true)
    (linear : doc.IsLinear) (place : Place) :
    convertAt dialect limit spans place doc.raw = doc.fannedOut dialect limit spans place := by
  induction doc generalizing place with
  | nil => rfl
  | cons segment doc ih =>
      have own := flat segment List.mem_cons_self
      have single : ∀ body, segment = .directive body → '\n' ∉ body := by
        rintro body rfl
        exact linear body List.mem_cons_self
      have rest := ih (fun other inside => flat other (List.mem_cons_of_mem segment inside))
        (fun body inside => linear body (List.mem_cons_of_mem segment inside))
      rw [Document.raw_cons, convertAt_append fun _ _ => Segment.splits_of_isFlat own, rest,
        Segment.convertAt_raw own single, fannedOut]

/-- Conversion of a document of texts and directives, with no braces but those around the directives
and no directive on two lines: all texts and the directives without a key stay as they are, in
order.  A keyed directive on a line that loops cover becomes as many placeholders as the first of
them has iterations, up to the limit, with their numbers, one a line, indented to the column of the
directive in its line as it was written.  A keyed directive on any other line becomes one
placeholder without a number. -/
theorem convertText_fannedOut (dialect : Dialect) (limit : Nat) {doc : Document}
    (flat : ∀ segment ∈ doc, segment.isFlat = true) (linear : doc.IsLinear) :
    convertText dialect limit doc.raw =
      doc.fannedOut dialect limit (loopSpans doc.raw) .start := by
  rw [convertText_eq_convertAt, Document.convertAt_raw flat linear]

end Documents

/-- A table with a loop in a loop and a loop on a line with a directive that is in none. -/
def dishTable : Document :=
  [.directive "loop 2".toList, .text "\né".toList, .directive "dish, 'soup'".toList,
    .text " für ".toList, .directive "price , 0".toList, .text "\n".toList,
    .directive "loop 3".toList, .directive "note, ''".toList, .directive "/loop".toList,
    .text "\n".toList, .directive "/loop".toList, .text "\n".toList,
    .directive "total, 0".toList, .directive "today".toList]

/-- The second directive of the second line is indented to where it was written. -/
theorem convertText_fannedOut_dishTable :
    (∀ segment ∈ dishTable, segment.isFlat = true) ∧ dishTable.IsLinear ∧
    loopSpans dishTable.raw = [⟨1, 4, 2⟩, ⟨3, 3, 3⟩] ∧
    convertText Engine.liquid 10 dishTable.raw =
      dishTable.fannedOut Engine.liquid 10 (loopSpans dishTable.raw) .start := by
  have flat : ∀ segment ∈ dishTable, segment.isFlat = true := by decide
  have linear : dishTable.IsLinear := by
    intro body inside
    simp only [dishTable, List.mem_cons, Segment.directive.injEq, reduceCtorEq, false_or,
      List.not_mem_nil, or_false] at inside
    rcases inside with rfl | rfl | rfl | rfl | rfl | rfl | rfl | rfl | rfl <;> decide
  exact ⟨flat, linear, by decide +kernel, convertText_fannedOut Engine.liquid 10 flat linear⟩

/-- What the lines of the table become. -/
example : Text.lines (dishTable.fannedOut Engine.liquid 10 [⟨1, 4, 2⟩, ⟨3, 3, 3⟩] .start) =
    ["\x7b\x7bloop 2\x7d\x7d".toList, "é\x7b\x7b dish_1 \x7d\x7d".toList,
      " \x7b\x7b dish_2 \x7d\x7d für \x7b\x7b price_1 \x7d\x7d".toList,
      List.replicate 22 ' ' ++ "\x7b\x7b price_2 \x7d\x7d".toList,
      "\x7b\x7bloop 3\x7d\x7d\x7b\x7b note_1 \x7d\x7d".toList,
      List.replicate 10 ' ' ++ "\x7b\x7b note_2 \x7d\x7d\x7b\x7b/loop\x7d\x7d".toList,
      "\x7b\x7b/loop\x7d\x7d".toList,
      "\x7b\x7b total \x7d\x7d\x7b\x7btoday\x7d\x7d".toList] := by
  decide +kernel

/-! ### Keyed directives in any text -/

/-- The keyed directives that conversion finds in a text, line by line, with their places. -/
def keyedDirectives (content : Text) : List (Place × Hit Text) :=
  ((Text.lines content).zipIdx 1).flatMap fun (line, number) =>
    (KeyedTag.pattern.hitsAt line).map fun (column, hit) => (⟨number, column⟩, hit)

section Rows

variable {dialect : Dialect} {limit : Nat} {spans : List LoopSpan} {content : Text} {place : Place}
  {hit : Hit Text}

/-- A keyed directive stands at its place, and no other reaches into it. -/
theorem exists_of_mem_keyedDirectives (inside : (place, hit) ∈ keyedDirectives content) :
    ∃ above left right below, Text.lines content = above ++ (left ++ (hit.raw ++ right)) :: below ∧
      place = ⟨1 + above.length, left.length⟩ ∧
      KeyedTag.pattern.Cuts left (hit.raw ++ right) ∧
      KeyedTag.pattern.read (hit.raw ++ right) = some (hit, right) := by
  obtain ⟨⟨line, number⟩, numbered, own⟩ := List.mem_flatMap.1 inside
  obtain ⟨⟨column, found⟩, here, same⟩ := List.mem_map.1 own
  obtain ⟨rfl, rfl⟩ := Prod.mk.inj same
  obtain ⟨first, last, scan, rfl⟩ := Pattern.mem_hitsAt_iff.1 here
  obtain ⟨least, numbered⟩ := List.mk_mem_zipIdx_iff_le_and_getElem?_sub.1 numbered
  obtain ⟨within, rfl⟩ := List.getElem?_eq_some_iff.1 numbered
  refine ⟨(Text.lines content).take (number - 1), first.flatMap Token.raw,
    last.flatMap Token.raw, (Text.lines content).drop (number - 1 + 1), ?_, ?_,
    Pattern.cuts_of_scan scan, Pattern.read_of_scan scan⟩
  · have whole := Pattern.eq_append_of_scan scan
    rw [List.flatMap_cons] at whole
    conv => lhs; rw [← List.take_append_drop (number - 1) (Text.lines content),
      List.drop_eq_getElem_cons within, whole]
    rfl
  · simp only [List.length_take, Place.mk.injEq, and_true]
    omega

/-- Conversion puts the placeholders of a keyed directive in its place and treats what stands around
it by itself. -/
theorem convertText_around (inside : (place, hit) ∈ keyedDirectives content) :
    ∃ before after, content = before ++ (hit.raw ++ after) ∧ Place.start.behind before = place ∧
      convertText dialect limit content =
        convertAt dialect limit (loopSpans content) .start before ++
          (placeholderRows dialect hit.value place.column
              (placeholderNumbers limit (spanOfLine? (loopSpans content) place.line)) ++
            convertAt dialect limit (loopSpans content) (place.behind hit.raw) after) := by
  obtain ⟨above, left, right, below, lines, rfl, cut, read⟩ :=
    exists_of_mem_keyedDirectives inside
  obtain ⟨before, rest, rfl, ahead, behind⟩ := Text.exists_cut lines
  obtain ⟨own, after, rfl, here, later⟩ := @Text.exists_cut _ _ _ [] _ behind
  obtain ⟨plain, rfl⟩ := Text.eq_of_lines_singleton here
  have start : Place.start.behind before = ⟨1 + above.length, left.length⟩ :=
    Place.behind_lines ahead 1
  have alone : KeyedTag.pattern.scan hit.raw = [.hit hit] := by
    have first := KeyedTag.shallow.read_raw_append read []
    rw [List.append_nil] at first
    exact Pattern.scan_of_read first
  have behindHit : KeyedTag.pattern.scan (hit.raw ++ right) =
      KeyedTag.pattern.scan hit.raw ++ KeyedTag.pattern.scan right := by
    rw [alone, Pattern.scan_of_read read, List.singleton_append]
  refine ⟨before, after, rfl, start, ?_⟩
  rw [convertText_eq_convertAt, convertAt_cut ahead behind (KeyedTag.shallow.scan_of_cuts cut),
    @convertAt_cut _ _ _ _ _ _ _ [] _ here later behindHit, start, convertAt_of_not_mem plain,
    convertRow_hit alone]

/-- Of what preparation makes of a template, conversion loses a keyed directive just if the first of
the loops that cover its line has no iterations.  Any other becomes at least one placeholder for its
key, in its place between what stands around it, which is treated by itself. -/
theorem Assembly.keyed_kept_iff {σ : Type} [Chance σ] (p : Assembly σ)
    (positive : 1 ≤ p.limits.loopIterations) (dialect : Dialect) {template prepared : Text} {s : σ}
    (preparation : (p.process .conversion template s).1 = prepared)
    (inside : (place, hit) ∈ keyedDirectives prepared) :
    ∃ before after numbers, prepared = before ++ (hit.raw ++ after) ∧
      Place.start.behind before = place ∧
      convertText dialect p.limits.loopIterations prepared =
        convertAt dialect p.limits.loopIterations (loopSpans prepared) .start before ++
          (placeholderRows dialect hit.value place.column numbers ++
            convertAt dialect p.limits.loopIterations (loopSpans prepared)
              (place.behind hit.raw) after) ∧
      (numbers = [] ↔
        ∃ span, spanOfLine? (loopSpans prepared) place.line = some span ∧ span.count = 0) := by
  subst preparation
  obtain ⟨before, after, whole, start, converted⟩ := convertText_around inside
  exact ⟨before, after, _, whole, start, converted, placeholderNumbers_eq_nil_iff positive⟩

end Rows

/-- A name in a loop. -/
def loopedName (count : Text) : Text :=
  Document.raw [.directive ("loop ".toList ++ count), .text "\n".toList,
    .directive "name, 'guest'".toList, .text "\n".toList, .directive "/loop".toList]

/-- The name as conversion finds it. -/
def nameHit : Hit Text :=
  ⟨(Segment.directive "name, 'guest'".toList).raw, "name".toList⟩

/-- An assembly in which no loop has more than two iterations. -/
def frugalAssembly : Assembly Supply :=
  { plainAssembly with limits := { loopIterations := 2 } }

/-- A loop that asks for too many iterations is left as it is written, and keeps the name in it. -/
theorem keyed_kept_iff_loopedName :
    (⟨2, 0⟩, nameHit) ∈ keyedDirectives (loopedName "3".toList) ∧
    ∃ before after numbers, loopedName "3".toList = before ++ (nameHit.raw ++ after) ∧
      Place.start.behind before = ⟨2, 0⟩ ∧
      convertText starEngine 2 (loopedName "3".toList) =
        convertAt starEngine 2 (loopSpans (loopedName "3".toList)) .start before ++
          (placeholderRows starEngine nameHit.value 0 numbers ++
            convertAt starEngine 2 (loopSpans (loopedName "3".toList))
              (Place.behind ⟨2, 0⟩ nameHit.raw) after) ∧
      (numbers = [] ↔ ∃ span,
        spanOfLine? (loopSpans (loopedName "3".toList)) 2 = some span ∧ span.count = 0) := by
  have preparation :
      (frugalAssembly.process .conversion (loopedName "3".toList) (Supply.ofSeed 1)).1 =
        loopedName "3".toList := by decide +kernel
  have inside : (⟨2, 0⟩, nameHit) ∈ keyedDirectives (loopedName "3".toList) := by decide +kernel
  exact ⟨inside, frugalAssembly.keyed_kept_iff (by decide) starEngine preparation inside⟩

/-- A loop of no iterations is left as it is written, and rendering prints the name in it.
Conversion takes its number at face value, and no placeholder for the name is left. -/
theorem keyed_lost_loopedName :
    (plainAssembly.process .conversion (loopedName "0".toList) (Supply.ofSeed 1)).1 =
      loopedName "0".toList ∧
    (⟨2, 0⟩, nameHit) ∈ keyedDirectives (loopedName "0".toList) ∧
    (plainAssembly.process .render (loopedName "0".toList) (Supply.ofSeed 1)).1 =
      "\x7b\x7bloop 0\x7d\x7d\nguest\n\x7b\x7b/loop\x7d\x7d".toList ∧
    1 ≤ plainAssembly.limits.loopIterations ∧
    convertText starEngine plainAssembly.limits.loopIterations (loopedName "0".toList) =
      "\x7b\x7bloop 0\x7d\x7d\n\n\x7b\x7b/loop\x7d\x7d".toList ∧
    ∀ number, ¬ starEngine.placeholder nameHit.value number <:+:
      convertText starEngine plainAssembly.limits.loopIterations (loopedName "0".toList) := by
  have converted : convertText starEngine plainAssembly.limits.loopIterations
      (loopedName "0".toList) =
        "\x7b\x7bloop 0\x7d\x7d\n\n\x7b\x7b/loop\x7d\x7d".toList := by decide +kernel
  refine ⟨by decide +kernel, by decide +kernel, by decide +kernel, by decide, converted, ?_⟩
  intro number inside
  have star : '*' ∈ starEngine.placeholder nameHit.value number := by
    refine List.mem_of_head? ?_
    cases number <;> rfl
  have left := inside.subset star
  rw [converted] at left
  exact absurd left (by decide)

end MailTemplate
