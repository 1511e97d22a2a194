/-
Module: MailTemplate.Proofs.KeyedExtent
Purpose: Where conversion and printing agree on how far a keyed directive reaches.
Main exports: Segment.scan_of_segments, Directive.closing_mem_of_opening,
  Pattern.Shallow.cuts_directive, convertLines, convertText_keyed
-/
import MailTemplate.Proofs.Conversion
import MailTemplate.Proofs.Occurrence
import MailTemplate.Proofs.Segmentation

/-!
Printing finds the end of a directive with a reader that knows literals and nested braces, and the
end of its key with one that knows brackets as well.  Conversion knows neither: its keyed directives
end at the first closing braces and their keys at the first comma.

The two agree on a directive without a closing brace inside and without a comma in its key.  What
stands in front of the directive makes no difference: every opening of braces there is closed before
the directive begins, so that no keyed directive of conversion can reach into it.
-/

namespace MailTemplate

/-! ### Segments and extents -/

/-- A directive among the segments of a text is a hit of the extents. -/
theorem Segment.scan_of_segments {content body : Text} {before after : Document}
    (same : segments content = before ++ .directive body :: after) :
    ∃ first last, Directive.extent.scan content =
        first ++ .hit ⟨(directive body).raw, .closed body⟩ :: last ∧
      first.flatMap Token.raw = Document.raw before ∧
      last.flatMap Token.raw = Document.raw after := by
  obtain ⟨segmented, raw⟩ := segmented_segments content
  obtain ⟨first, scan, front⟩ := segmented.scan_directive same
  rw [raw] at scan
  exact ⟨first, _, scan, front, Pattern.scan_flatMap_raw _ _⟩

namespace Directive

/-- An extent that leaves some text behind it ends in a closing brace. -/
theorem closing_of_extent {t rest : Text} {hit : Hit Extent}
    (read : extent.read t = some (hit, rest)) (more : rest ≠ []) :
    ∃ front, hit.raw = front ++ ['}'] := by
  simp only [extent] at read
  split at read
  · exact absurd read (by simp)
  · split at read
    · rename_i body after _
      obtain ⟨same, _⟩ := Prod.mk.inj (Option.some.inj read)
      exact ⟨opening ++ body ++ ['}'], by rw [← same]; simp [closing]⟩
    · exact absurd (Prod.mk.inj (Option.some.inj read)).2.symm more

/-- Whatever begins with two braces in front of a directive is closed before the directive. -/
theorem closing_mem_of_opening {content a b inner : Text} {first last : List (Token Extent)}
    {hit : Hit Extent} (scan : extent.scan content = first ++ .hit hit :: last)
    (cut : first.flatMap Token.raw = a ++ b) (inside : b ≠ [])
    (opened : b ++ hit.raw = opening ++ inner) : '}' ∈ b := by
  have shape : b ++ (Token.hit hit :: last).flatMap Token.raw =
      opening ++ (inner ++ last.flatMap Token.raw) := by
    rw [List.flatMap_cons, ← List.append_assoc, ← List.append_assoc, ← opened]
    rfl
  obtain ⟨found, read⟩ := exists_read_opening (inner ++ last.flatMap Token.raw)
  rw [← shape] at read
  obtain ⟨other, x, y, behind, among, raw, reaches, rfl⟩ :=
    Pattern.exists_hit_of_read scan cut inside read
  have solid := extent.raw_ne_nil (Pattern.read_of_scan scan)
  obtain ⟨front, back, rfl⟩ := List.append_of_mem among
  rw [List.append_assoc, List.cons_append] at scan
  have more : (back ++ .hit hit :: last).flatMap Token.raw ≠ [] := by
    rw [List.flatMap_append, List.flatMap_cons]
    intro empty
    exact solid (List.append_eq_nil_iff.1 (List.append_eq_nil_iff.1 empty).2).1
  obtain ⟨start, ends⟩ := closing_of_extent (Pattern.read_of_scan scan) more
  have last : y.getLast? = some '}' := by
    rw [← List.getLast?_append_of_ne_nil x reaches, ← raw, ends, List.getLast?_concat]
  exact List.mem_append_left behind (List.mem_of_getLast? last)

end Directive

/-! ### A directive and what stands in front of it -/

/-- No tag of a shallow pattern reaches from what precedes a directive into it. -/
theorem Pattern.Shallow.cuts_directive {α : Type} {p : Pattern α} (hp : p.Shallow)
    {content body start left right : Text} {first last : List (Token Directive.Extent)}
    (scan : Directive.extent.scan content =
      first ++ .hit ⟨(Segment.directive body).raw, .closed body⟩ :: last)
    (before : first.flatMap Token.raw = start ++ left) (closed : '}' ∉ body) :
    p.Cuts left ((Segment.directive body).raw ++ right) := by
  rcases p.cuts_or_overlap left ((Segment.directive body).raw ++ right) with
    cut | ⟨⟨overlap⟩⟩
  · exact cut
  · obtain ⟨outer, clear, _, _, _, reaches⟩ := hp.outer_of_overlap closed overlap
    have opened : overlap.inFirst ++ (Segment.directive body).raw =
        Directive.opening ++ (outer ++ Directive.closing) := by
      change _ ++ (Directive.opening ++ body ++ Directive.closing) = _
      rw [← List.append_assoc, ← reaches, List.append_assoc]
    rw [overlap.front, ← List.append_assoc] at before
    have inside := Directive.closing_mem_of_opening scan before overlap.begins opened
    have front : '}' ∈ Directive.opening ++ outer := by
      rw [reaches]
      exact List.mem_append_left _ inside
    exact absurd front (by simpa [Directive.opening] using clear)

namespace KeyedTag

theorem shallow : KeyedTag.pattern.Shallow :=
  Shape.shallow_pattern innerShape (by decide)

/-- No keyed directive of conversion reaches from what precedes a directive into it. -/
theorem cuts_directive {content body start left right : Text}
    {first last : List (Token Directive.Extent)}
    (scan : Directive.extent.scan content =
      first ++ .hit ⟨(Segment.directive body).raw, .closed body⟩ :: last)
    (before : first.flatMap Token.raw = start ++ left) (closed : '}' ∉ body) :
    pattern.Cuts left ((Segment.directive body).raw ++ right) :=
  shallow.cuts_directive scan before closed

end KeyedTag

/-! ### Conversion around a directive -/

/-- The lines of a text, the first of which has a number, converted. -/
def convertLines (dialect : Dialect) (limit : Nat) (spans : List LoopSpan) (number : Nat) (t : Text) :
    Text :=
  Text.join ['\n'] (((Text.lines t).zipIdx number).map fun (line, number) =>
    convertLine dialect limit (spanOfLine? spans number) line)

theorem convertText_eq (dialect : Dialect) (limit : Nat) (content : Text) :
    convertText dialect limit content = convertLines dialect limit (loopSpans content) 1 content :=
  rfl

/-- If one line is converted in two parts around a text, then so is the whole. -/
theorem convertLines_around {dialect : Dialect} {limit number : Nat} {spans : List LoopSpan}
    {t u v whole left right middle : Text} {above below : List Text}
    (lines : Text.lines t = above ++ whole :: below) (ahead : Text.lines u = above ++ [left])
    (behind : Text.lines v = right :: below)
    (parts : convertLine dialect limit (spanOfLine? spans (number + above.length)) whole =
      convertLine dialect limit (spanOfLine? spans (number + above.length)) left ++ middle ++
        convertLine dialect limit (spanOfLine? spans (number + above.length)) right) :
    convertLines dialect limit spans number t =
      convertLines dialect limit spans number u ++ middle ++
        convertLines dialect limit spans (number + above.length) v := by
  simp only [convertLines, lines, ahead, behind, List.zipIdx_append, List.zipIdx_cons,
    List.zipIdx_nil, List.map_append, List.map_cons, List.map_nil, parts]
  have last (front : List Text) (a : Text) :
      Text.join ['\n'] (front ++ [a ++ middle]) = Text.join ['\n'] (front ++ [a]) ++ middle := by
    rw [Text.join_append]
    simp [Text.join]
  rw [Text.join_append, last]

/-- A line that no loop covers is converted in two parts around a keyed directive. -/
theorem convertLine_keyed {dialect : Dialect} {limit : Nat} {left right body key : Text}
    (cut : KeyedTag.pattern.Cuts left ((Segment.directive body).raw ++ right)) (closed : '}' ∉ body)
    (keyed : KeyedTag.pattern.valueOf? body = some key) :
    convertLine dialect limit none (left ++ ((Segment.directive body).raw ++ right)) =
      convertLine dialect limit none left ++ dialect.placeholder key none ++
        convertLine dialect limit none right := by
  have read := KeyedTag.shallow.read_of_valueOf? closed keyed right
  unfold convertLine
  simp only [convertDirective]
  rw [Pattern.replaceAt_eq_replace, Pattern.replaceAt_eq_replace, Pattern.replaceAt_eq_replace]
  unfold Pattern.replace
  rw [KeyedTag.shallow.scan_of_cuts cut, Pattern.scan_of_read read, List.flatMap_append,
    List.flatMap_cons, List.append_assoc]

/-- Conversion puts the dialect's placeholder for the key in the place of a keyed directive, from its
opening to its closing braces, and treats what stands around the directive as if it stood alone: if
the directive is on one line, no loop covers the line, no closing brace stands in the directive and
no comma in its key. -/
theorem convertText_keyed {content body key clause : Text} {before after : Document}
    (segmented : segments content = before ++ .directive body :: after)
    (split : splitTopLevelComma? body = some (key, clause)) (named : Text.trim key ≠ [])
    (onLine : '\n' ∉ body)
    (uncovered : spanOfLine? (loopSpans content) (1 + before.raw.count '\n') = none)
    (closed : '}' ∉ body) (plain : ',' ∉ key) (dialect : Dialect) (limit : Nat) :
    convertText dialect limit content =
      convertLines dialect limit (loopSpans content) 1 before.raw ++
        dialect.placeholder (Text.trim key) none ++
        convertLines dialect limit (loopSpans content) (1 + before.raw.count '\n') after.raw := by
  obtain ⟨first, last, scan, front, back⟩ := Segment.scan_of_segments segmented
  have whole := Pattern.eq_append_of_scan scan
  rw [List.flatMap_cons, front, back] at whole
  have single : '\n' ∉ (Segment.directive body).raw := by
    simp [Segment.raw, Directive.opening, Directive.closing, onLine]
  -- Conversion goes line by line, so only the line of the directive is looked into.
  obtain ⟨above, left, right, below, start, rest, lines, ahead, behind, early, _, number⟩ :=
    Text.lines_around before.raw single after.raw
  have cut : KeyedTag.pattern.Cuts left ((Segment.directive body).raw ++ right) :=
    KeyedTag.cuts_directive scan (front.trans early) closed
  have whole : content = before.raw ++ ((Segment.directive body).raw ++ after.raw) := whole
  have keyed : KeyedTag.pattern.valueOf? body = some (Text.trim key) := by
    have nonempty : key ≠ [] := by
      rintro rfl
      exact named rfl
    have same := splitTopLevelComma?_append split
    rw [← same] at closed ⊢
    exact KeyedTag.valueOf?_comma nonempty plain closed
  have parts : convertLine dialect limit (spanOfLine? (loopSpans content) (1 + above.length))
      (left ++ ((Segment.directive body).raw ++ right)) =
      convertLine dialect limit (spanOfLine? (loopSpans content) (1 + above.length)) left ++
        dialect.placeholder (Text.trim key) none ++
        convertLine dialect limit (spanOfLine? (loopSpans content) (1 + above.length)) right := by
    rw [number, uncovered]
    exact convertLine_keyed cut closed keyed
  rw [← whole] at lines
  have around := convertLines_around lines ahead behind parts
  rw [number] at around
  rw [convertText_eq, around]

/-- A greeting with two keyed directives on one line, the first with an opening brace in its
default. -/
def greeting : Document :=
  [.text "Dear ".toList, .directive "name, 'guest'".toList, .text ",\nyou owe ".toList,
    .directive "sum, '\x7b0'".toList, .text " from ".toList, .directive "day, 'now'".toList]

/-- The sum in the greeting. -/
theorem convertText_greeting :
    segments greeting.raw = greeting ∧
    convertText Engine.liquid 10 greeting.raw =
      convertLines Engine.liquid 10 [] 1 (Document.raw (greeting.take 3)) ++
        Engine.liquid.placeholder "sum".toList none ++
        convertLines Engine.liquid 10 [] 2 (Document.raw (greeting.drop 4)) := by
  have segmented : segments greeting.raw =
      greeting.take 3 ++ .directive "sum, '\x7b0'".toList :: greeting.drop 4 := by decide +kernel
  have spans : loopSpans greeting.raw = [] := by decide +kernel
  have split : splitTopLevelComma? "sum, '\x7b0'".toList =
      some ("sum".toList, " '\x7b0'".toList) := by decide +kernel
  have converted := convertText_keyed segmented split (by decide) (by decide)
    (by rw [spans]; rfl) (by decide) (by decide) Engine.liquid 10
  rw [spans] at converted
  exact ⟨by decide +kernel, converted⟩

/-- An engine that marks variables with stars and bars. -/
def starEngine : Engine where
  name := "stars".toList
  extension := "html".toList
  variablePattern := "*|".toList ++ Engine.keyMark ++ "|*".toList
  indexedPattern := none

/-- Directives with braces in their defaults and one with a comma in its key. -/
def oddDirectives : List Text :=
  ["price, '\x7b\"min\": 1\x7d'".toList, "note, 'use \x7d\x7d carefully'".toList,
    "pick(a, b), 'c'".toList]

/-- Each of these is one directive with a key, by itself on its line, and conversion puts the
placeholder for the key in the place of none: the first stays, of the second a part stays, and of
the key of the third only a part is taken. -/
theorem convertText_oddDirectives :
    (∀ body ∈ oddDirectives, segments (Segment.directive body).raw = [.directive body] ∧
      loopSpans (Segment.directive body).raw = [] ∧ '\n' ∉ body) ∧
    oddDirectives.map (fun body => (splitTopLevelComma? body).map Prod.fst) =
      [some "price".toList, some "note".toList, some "pick(a, b)".toList] ∧
    oddDirectives.map (fun body => convertText starEngine 10 (Segment.directive body).raw) =
      [(Segment.directive "price, '\x7b\"min\": 1\x7d'".toList).raw,
        "*|note|* carefully'\x7d\x7d".toList, "*|pick(a|*".toList] := by
  refine ⟨?_, by decide +kernel, by decide +kernel⟩
  decide +kernel

end MailTemplate
