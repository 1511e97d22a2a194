/-
Module: MailTemplate.Proofs.Stacked
Purpose: The loop lines and the issues of two texts that stand one under the other.
Main exports: CountedTag.ClosesAll, CountedTag.OpensAll, OpenedLoop.readAll_append_base,
  loopSpans_stacked, validate_stacked
-/
import MailTemplate.Proofs.LoopLines
import Mathlib.Data.List.Induction
import Mathlib.Data.List.Infix

/-!
Validation reads lines one by one and asks of the text around a line only whether a loop covers it.
So the issues of two texts, one under the other, are those of the first and then those of the
second, if no loop goes from the first into the second.

Loops are matched by a stack.  What is read of the second text leaves alone what the first has put
there in two cases: all of it is closed, or the second text never closes more than it has opened.
-/

namespace MailTemplate

/-! ### Openers and closers in balance -/

namespace CountedTag

/-- Whether a tag opens a loop. -/
def isOpener : CountedTag → Bool
  | .opener _ => true
  | .closer => false

/-- The number of tags that open a loop. -/
def openers (tags : List CountedTag) : Nat :=
  tags.countP isOpener

/-- The number of tags that close a loop. -/
def closers (tags : List CountedTag) : Nat :=
  tags.countP fun tag => !tag.isOpener

@[simp] theorem openers_append (first second : List CountedTag) :
    openers (first ++ second) = openers first + openers second :=
  List.countP_append

@[simp] theorem closers_append (first second : List CountedTag) :
    closers (first ++ second) = closers first + closers second :=
  List.countP_append

@[simp] theorem openers_opener (count : Nat) : openers [.opener count] = 1 := rfl

@[simp] theorem closers_opener (count : Nat) : closers [.opener count] = 0 := rfl

@[simp] theorem openers_closer : openers [.closer] = 0 := rfl

@[simp] theorem closers_closer : closers [.closer] = 1 := rfl

/-- Every opener has a closer behind it: from no place on are there more openers than closers. -/
def ClosesAll (tags : List CountedTag) : Prop :=
  ∀ back, back <:+ tags → openers back ≤ closers back

/-- Every closer has an opener in front of it: up to no place are there more closers than
openers. -/
def OpensAll (tags : List CountedTag) : Prop :=
  ∀ front, front <+: tags → closers front ≤ openers front

instance (tags : List CountedTag) : Decidable (ClosesAll tags) :=
  decidable_of_iff (∀ back ∈ tags.tails, openers back ≤ closers back)
    (forall_congr' fun back => imp_congr_left (List.mem_tails back tags))

instance (tags : List CountedTag) : Decidable (OpensAll tags) :=
  decidable_of_iff (∀ front ∈ tags.inits, closers front ≤ openers front)
    (forall_congr' fun front => imp_congr_left (List.mem_inits front tags))

end CountedTag

namespace OpenedLoop

open CountedTag

/-- The number of loops that no closer has been read for. -/
def stillOpen (loops : List OpenedLoop) : Nat :=
  loops.countP fun loop => loop.endLine.isNone

theorem stillOpen_readTag_opener (line count : Nat) (loops : List OpenedLoop) :
    stillOpen (readTag line loops (.opener count)) = stillOpen loops + 1 := by
  simp [stillOpen, readTag]

/-- A closer closes one loop, if one is open. -/
theorem stillOpen_closeLast (line : Nat) (loops : List OpenedLoop) :
    stillOpen (closeLast line loops) = stillOpen loops - 1 := by
  induction loops with
  | nil => rfl
  | cons loop loops ih =>
      rw [closeLast]
      cases last : loop.endLine with
      | none => simp [stillOpen, last]
      | some endLine => simpa [stillOpen, last] using ih

/-- Loops below others are left alone by a closer if one of those is open, or none of themselves. -/
theorem closeLast_append_base (line : Nat) {top base : List OpenedLoop}
    (apart : stillOpen base = 0 ∨ 0 < stillOpen top) :
    closeLast line (top ++ base) = closeLast line top ++ base := by
  induction top with
  | nil =>
      rcases apart with shut | absurdly
      · have all : ∀ loop ∈ base, loop.endLine ≠ none := by
          simpa [stillOpen, List.countP_eq_zero] using shut
        have whole := closeLast_append all line []
        rw [List.append_nil] at whole
        simpa [closeLast] using whole
      · exact absurd absurdly (by simp [stillOpen])
  | cons loop top ih =>
      rw [List.cons_append, closeLast, closeLast]
      cases last : loop.endLine with
      | none => rfl
      | some endLine =>
          have below : stillOpen base = 0 ∨ 0 < stillOpen top :=
            apart.imp_right fun positive => by simpa [stillOpen, last] using positive
          rw [List.cons_append, ih below]

/-- Tags leave the loops below a stack alone if none of these is open, or if the tags never close
more loops than the stack and they themselves have opened. -/
theorem readAll_append_base {top base : List OpenedLoop} {tags : List (Nat × CountedTag)}
    (apart : stillOpen base = 0 ∨
      ∀ front, front <+: tags.map Prod.snd → closers front ≤ openers front + stillOpen top) :
    readAll (top ++ base) tags = readAll top tags ++ base := by
  induction tags generalizing top with
  | nil => rfl
  | cons entry tags ih =>
      obtain ⟨line, tag⟩ := entry
      have ahead (front : List CountedTag) (begins : front <+: tags.map Prod.snd) :
          [tag] ++ front <+: ((line, tag) :: tags).map Prod.snd :=
        List.cons_prefix_cons.2 ⟨rfl, begins⟩
      -- A closer meets an open loop of `top` first, and if there is none, no open one in `base`.
      have step : readTag line (top ++ base) tag = readTag line top tag ++ base := by
        cases tag with
        | opener count => rfl
        | closer =>
            refine closeLast_append_base line (apart.imp_right fun bounded => ?_)
            have first := bounded _ (ahead [] List.nil_prefix)
            rw [List.append_nil, closers_closer, openers_closer] at first
            omega
      have rest : readAll (readTag line top tag ++ base) tags =
          readAll (readTag line top tag) tags ++ base := by
        refine ih (apart.imp_right fun bounded front begins => ?_)
        have own := bounded _ (ahead front begins)
        rw [closers_append, openers_append] at own
        cases tag with
        | opener count =>
            rw [stillOpen_readTag_opener]
            simp only [closers_opener, openers_opener] at own
            omega
        | closer =>
            rw [readTag, stillOpen_closeLast]
            simp only [closers_closer, openers_closer] at own
            omega
      calc readAll (top ++ base) ((line, tag) :: tags)
          = readAll (readTag line (top ++ base) tag) tags := rfl
        _ = readAll (readTag line top tag) tags ++ base := by rw [step, rest]
        _ = readAll top ((line, tag) :: tags) ++ base := rfl

/-- Where the openers outnumber the closers nowhere by more than `slack`, from any place on, no more
loops than that are left open. -/
theorem stillOpen_readAll {tags : List (Nat × CountedTag)} {slack : Nat}
    (bounded : ∀ back, back <:+ tags.map Prod.snd → openers back ≤ closers back + slack) :
    stillOpen (readAll [] tags) ≤ slack := by
  -- The induction takes tags off the end, where a closer makes room for one more opener.
  induction tags using List.reverseRecOn generalizing slack with
  | nil => exact Nat.zero_le _
  | append_singleton tags entry ih =>
      obtain ⟨line, tag⟩ := entry
      have behind (back : List CountedTag) (ends : back <:+ tags.map Prod.snd) :
          openers (back ++ [tag]) ≤ closers (back ++ [tag]) + slack := by
        refine bounded _ ?_
        rw [List.map_append]
        exact (List.suffix_append_inj_of_length_eq rfl).2 ⟨ends, rfl⟩
      rw [readAll_append]
      change stillOpen (readTag line (readAll [] tags) tag) ≤ slack
      cases tag with
      | opener count =>
          have one := behind [] List.nil_suffix
          rw [List.nil_append, openers_opener, closers_opener] at one
          have fewer : stillOpen (readAll [] tags) ≤ slack - 1 := by
            refine ih fun back ends => ?_
            have own := behind back ends
            rw [openers_append, closers_append, openers_opener, closers_opener] at own
            omega
          rw [stillOpen_readTag_opener]
          omega
      | closer =>
          have more : stillOpen (readAll [] tags) ≤ slack + 1 := by
            refine ih fun back ends => ?_
            have own := behind back ends
            rw [openers_append, closers_append, openers_closer, closers_closer] at own
            omega
          rw [readTag, stillOpen_closeLast]
          omega

/-! ### Loops further down -/

/-- A loop with its lines numbered in another way. -/
def renumber (f : Nat → Nat) (loop : OpenedLoop) : OpenedLoop :=
  { loop with startLine := f loop.startLine, endLine := loop.endLine.map f }

theorem closeLast_renumber (f : Nat → Nat) (line : Nat) (loops : List OpenedLoop) :
    closeLast (f line) (loops.map (renumber f)) = (closeLast line loops).map (renumber f) := by
  induction loops with
  | nil => rfl
  | cons loop loops ih =>
      rw [List.map_cons, closeLast, closeLast]
      cases last : loop.endLine with
      | none => simp [renumber, last]
      | some endLine => simp [renumber, last, ih]

/-- Tags are read alike however their lines are numbered. -/
theorem readAll_renumber (f : Nat → Nat) (loops : List OpenedLoop)
    (tags : List (Nat × CountedTag)) :
    readAll (loops.map (renumber f)) (tags.map fun entry => (f entry.1, entry.2)) =
      (readAll loops tags).map (renumber f) := by
  induction tags generalizing loops with
  | nil => rfl
  | cons entry tags ih =>
      obtain ⟨line, tag⟩ := entry
      have step : readTag (f line) (loops.map (renumber f)) tag =
          (readTag line loops tag).map (renumber f) := by
        cases tag with
        | opener count => rfl
        | closer => exact closeLast_renumber f line loops
      calc readAll (loops.map (renumber f))
            (((line, tag) :: tags).map fun entry => (f entry.1, entry.2))
          = readAll (readTag (f line) (loops.map (renumber f)) tag)
              (tags.map fun entry => (f entry.1, entry.2)) := rfl
        _ = (readAll (readTag line loops tag) tags).map (renumber f) := by rw [step, ih]

/-- A loop `lines` lines further down. -/
def moved (lines : Nat) (loop : OpenedLoop) : OpenedLoop :=
  { loop with startLine := loop.startLine + lines, endLine := loop.endLine.map (· + lines) }

theorem readAll_moved (lines : Nat) (loops : List OpenedLoop) (tags : List (Nat × CountedTag)) :
    readAll (loops.map (moved lines)) (tags.map fun entry => (entry.1 + lines, entry.2)) =
      (readAll loops tags).map (moved lines) :=
  readAll_renumber (· + lines) loops tags

/-- The lines of the loops that are read are lines of the tags. -/
theorem forall_readAll {P : Nat → Prop} {tags : List (Nat × CountedTag)}
    (each : ∀ entry ∈ tags, P entry.1) :
    ∀ loop ∈ readAll [] tags, P loop.startLine ∧ ∀ line ∈ loop.endLine, P line := by
  have closing (line : Nat) (here : P line) (loops : List OpenedLoop)
      (all : ∀ loop ∈ loops, P loop.startLine ∧ ∀ line ∈ loop.endLine, P line) :
      ∀ loop ∈ closeLast line loops, P loop.startLine ∧ ∀ line ∈ loop.endLine, P line := by
    induction loops with
    | nil => simp [closeLast]
    | cons first loops ih =>
        have own := all first List.mem_cons_self
        have others := fun loop inside => all loop (List.mem_cons_of_mem first inside)
        intro loop inside
        rw [closeLast] at inside
        split at inside
        · rcases List.mem_cons.1 inside with rfl | later
          · exact ⟨own.1, by simpa using here⟩
          · exact others loop later
        · rcases List.mem_cons.1 inside with rfl | later
          · exact own
          · exact ih others loop later
  induction tags using List.reverseRecOn with
  | nil => simp [readAll]
  | append_singleton tags entry ih =>
      have before := ih fun other inside => each other (List.mem_append_left _ inside)
      have here := each entry (by simp)
      obtain ⟨line, tag⟩ := entry
      rw [readAll_append]
      cases tag with
      | opener count =>
          intro loop inside
          rcases List.mem_cons.1 inside with rfl | earlier
          · exact ⟨here, by simp⟩
          · exact before loop earlier
      | closer => exact closing line here _ before

end OpenedLoop

/-- A span `lines` lines further down. -/
def LoopSpan.moved (lines : Nat) (span : LoopSpan) : LoopSpan :=
  ⟨span.startLine + lines, span.endLine + lines, span.count⟩

theorem OpenedLoop.span?_moved (lines : Nat) (loop : OpenedLoop) :
    (loop.moved lines).span? = loop.span?.map (LoopSpan.moved lines) := by
  cases last : loop.endLine <;> simp [span?, moved, LoopSpan.moved, last]

/-! ### The lines of two texts -/

/-- The lines of two texts, one under the other, with their numbers. -/
theorem Text.zipIdx_lines_stacked (a b : Text) :
    (lines (a ++ '\n' :: b)).zipIdx 1 = (lines a).zipIdx 1 ++
      ((lines b).zipIdx 1).map fun entry => (entry.1, entry.2 + (lines a).length) := by
  rw [lines, splitOn_append, List.zipIdx_append, Nat.add_comm 1,
    ← List.map_snd_add_zipIdx_eq_zipIdx]
  rfl

/-- The tags of two texts, one under the other, are those of the first and then those of the
second. -/
theorem countedTags_stacked (a b : Text) :
    countedTags (a ++ '\n' :: b) = countedTags a ++
      (countedTags b).map fun entry => (entry.1 + (Text.lines a).length, entry.2) := by
  rw [countedTags, Text.zipIdx_lines_stacked, List.flatMap_append, List.flatMap_map]
  simp only [countedTags, List.map_flatMap, List.map_map]
  rfl

theorem line_of_mem_countedTags {content : Text} {entry : Nat × CountedTag}
    (inside : entry ∈ countedTags content) :
    1 ≤ entry.1 ∧ entry.1 ≤ (Text.lines content).length := by
  obtain ⟨⟨line, number⟩, numbered, own⟩ := List.mem_flatMap.1 inside
  obtain ⟨hit, _, rfl⟩ := List.mem_map.1 own
  have first := List.le_snd_of_mem_zipIdx numbered
  have last := List.snd_lt_add_of_mem_zipIdx numbered
  exact ⟨first, by omega⟩

/-- Spans lie in their text. -/
theorem line_of_mem_loopSpans {content : Text} {span : LoopSpan}
    (inside : span ∈ loopSpans content) :
    1 ≤ span.startLine ∧ span.endLine ≤ (Text.lines content).length := by
  rw [OpenedLoop.loopSpans_eq, List.mem_filterMap] at inside
  obtain ⟨loop, read, own⟩ := inside
  obtain ⟨endLine, last, rfl⟩ := Option.map_eq_some_iff.1 own
  let P := fun line => 1 ≤ line ∧ line ≤ (Text.lines content).length
  have each : ∀ entry ∈ countedTags content, P entry.1 := fun _ => line_of_mem_countedTags
  obtain ⟨starts, ends⟩ := OpenedLoop.forall_readAll each loop (List.mem_reverse.1 read)
  exact ⟨starts.1, (ends endLine last).2⟩

theorem LoopSpan.covers_iff {span : LoopSpan} {line : Nat} :
    span.covers line = true ↔ span.startLine ≤ line ∧ line ≤ span.endLine := by
  rw [covers, Bool.and_eq_true, decide_eq_true_eq, decide_eq_true_eq]

/-! ### No loop from one text into the other -/

/-- No loop goes from a text into the one under it: every opener with a count in the first is
closed there, or every closer in the second closes an opener with a count there. -/
def LoopsApart (a b : Text) : Prop :=
  CountedTag.ClosesAll ((countedTags a).map Prod.snd) ∨
    CountedTag.OpensAll ((countedTags b).map Prod.snd)

instance (a b : Text) : Decidable (LoopsApart a b) :=
  inferInstanceAs (Decidable (_ ∨ _))

/-- The loops of two texts, one under the other, are those of the first and then those of the
second. -/
theorem loopSpans_stacked {a b : Text} (apart : LoopsApart a b) :
    loopSpans (a ++ '\n' :: b) =
      loopSpans a ++ (loopSpans b).map (LoopSpan.moved (Text.lines a).length) := by
  let further := (countedTags b).map fun entry => (entry.1 + (Text.lines a).length, entry.2)
  have tags : further.map Prod.snd = (countedTags b).map Prod.snd := by
    rw [List.map_map]
    rfl
  have below : OpenedLoop.readAll (OpenedLoop.readAll [] (countedTags a)) further =
      OpenedLoop.readAll [] further ++ OpenedLoop.readAll [] (countedTags a) := by
    have base : OpenedLoop.stillOpen (OpenedLoop.readAll [] (countedTags a)) = 0 ∨
        ∀ front, front <+: further.map Prod.snd →
          CountedTag.closers front ≤ CountedTag.openers front + OpenedLoop.stillOpen [] := by
      rw [tags]
      exact apart.imp (fun closed => Nat.le_zero.1 (OpenedLoop.stillOpen_readAll closed)) id
    exact OpenedLoop.readAll_append_base base
  have moved : OpenedLoop.readAll [] further =
      (OpenedLoop.readAll [] (countedTags b)).map (OpenedLoop.moved (Text.lines a).length) :=
    OpenedLoop.readAll_moved _ [] _
  rw [OpenedLoop.loopSpans_eq, countedTags_stacked, OpenedLoop.readAll_append, below, moved,
    List.reverse_append, List.filterMap_append, ← List.map_reverse, List.filterMap_map,
    OpenedLoop.loopSpans_eq, OpenedLoop.loopSpans_eq, List.map_filterMap]
  simp only [Function.comp_def, OpenedLoop.span?_moved]

/-- A line of the first text is covered if a loop of the first text covers it. -/
theorem isSome_spanOfLine?_above {a b : Text} (apart : LoopsApart a b) {line : Nat}
    (above : line ≤ (Text.lines a).length) :
    (spanOfLine? (loopSpans (a ++ '\n' :: b)) line).isSome =
      (spanOfLine? (loopSpans a) line).isSome := by
  have below : (spanOfLine? ((loopSpans b).map (.moved (Text.lines a).length)) line).isSome =
      false := by
    rw [Bool.eq_false_iff, spanOfLine?, ne_eq, List.find?_isSome]
    rintro ⟨_, moved, covers⟩
    obtain ⟨span, inside, rfl⟩ := List.mem_map.1 moved
    have starts := (line_of_mem_loopSpans inside).1
    have reaches := (LoopSpan.covers_iff.1 covers).1
    simp only [LoopSpan.moved] at reaches
    omega
  rw [spanOfLine?] at below
  rw [loopSpans_stacked apart, spanOfLine?, List.find?_append, Option.isSome_or, below,
    Bool.or_false, spanOfLine?]

/-- A line of the second text is covered if a loop of the second text covers it. -/
theorem isSome_spanOfLine?_below {a b : Text} (apart : LoopsApart a b) {line : Nat}
    (first : 1 ≤ line) :
    (spanOfLine? (loopSpans (a ++ '\n' :: b)) (line + (Text.lines a).length)).isSome =
      (spanOfLine? (loopSpans b) line).isSome := by
  have above : (spanOfLine? (loopSpans a) (line + (Text.lines a).length)).isSome = false := by
    rw [Bool.eq_false_iff, spanOfLine?, ne_eq, List.find?_isSome]
    rintro ⟨span, inside, covers⟩
    have ends := (line_of_mem_loopSpans inside).2
    have reaches := (LoopSpan.covers_iff.1 covers).2
    omega
  have same (span : LoopSpan) : (span.moved (Text.lines a).length).covers
      (line + (Text.lines a).length) = span.covers line := by
    simp [LoopSpan.covers, LoopSpan.moved]
  rw [spanOfLine?] at above
  rw [loopSpans_stacked apart, spanOfLine?, List.find?_append, Option.isSome_or, above,
    Bool.false_or, List.find?_map, Option.isSome_map, spanOfLine?]
  simp only [Function.comp_def, same]

/-! ### The issues of two texts -/

/-- An issue `lines` lines further down. -/
def Issue.moved (lines : Nat) (issue : Issue) : Issue :=
  { issue with line := issue.line + lines }

/-- How bad a verdict is. -/
def Verdict.rank : Verdict → Nat
  | .success => 0
  | .warning => 1
  | .error => 2

/-- The verdict on issues of two texts is the worse of the two. -/
theorem rank_verdict_append (first second : List Issue) :
    (verdict (first ++ second)).rank = max (verdict first).rank (verdict second).rank := by
  have empty : (first ++ second).isEmpty = (first.isEmpty && second.isEmpty) := by
    cases first <;> rfl
  simp only [verdict, List.any_append, empty]
  cases first.any fun issue => issue.severity == .error <;>
    cases second.any fun issue => issue.severity == .error <;>
    cases first.isEmpty <;> cases second.isEmpty <;> rfl

/-- Where issues stand does not matter for the verdict. -/
theorem verdict_moved (lines : Nat) (issues : List Issue) :
    verdict (issues.map (Issue.moved lines)) = verdict issues := by
  simp [verdict, Issue.moved, List.any_map, Function.comp_def]

/-- The issues of two texts, one under the other, with no loop from the first into the second: those
of the first, and then those of the second with their lines counted on.  The verdict is the worse of
the two. -/
theorem validate_stacked (scope : Scope) {a b : Text} (apart : LoopsApart a b) :
    validate scope (a ++ '\n' :: b) =
        validate scope a ++ (validate scope b).map (Issue.moved (Text.lines a).length) ∧
      (verdict (validate scope (a ++ '\n' :: b))).rank =
        max (verdict (validate scope a)).rank (verdict (validate scope b)).rank := by
  have issues : validate scope (a ++ '\n' :: b) =
      validate scope a ++ (validate scope b).map (Issue.moved (Text.lines a).length) := by
    simp only [validate]
    rw [Text.zipIdx_lines_stacked, List.flatMap_append, List.flatMap_map, List.map_flatMap]
    refine congrArg₂ _ (List.flatMap_congr fun entry inside => ?_)
      (List.flatMap_congr fun entry inside => ?_)
    · have above := List.snd_lt_add_of_mem_zipIdx inside
      rw [isSome_spanOfLine?_above apart (by omega)]
    · have first := List.le_snd_of_mem_zipIdx inside
      simp only [isSome_spanOfLine?_below apart first, List.map_map]
      rfl
  refine ⟨issues, ?_⟩
  rw [issues, rank_verdict_append, verdict_moved]

/-- A greeting with a loop that is never closed. -/
def openGreeting : Text :=
  "{{loop 2}}\nDear {{name}}, {{_index1}}".toList

/-- A list with a placeholder in front of it, and a loop in it. -/
def roomTable : Text :=
  "{{_index}}\n{{loop 3}}{{room}} {{_index1}}{{/loop}}".toList

/-- The variables that the two know. -/
def greetingScope : Scope := ⟨.ofList ["name".toList], .ofList []⟩

/-- The loop of the greeting does not reach the list. -/
theorem validate_stacked_greeting :
    LoopsApart openGreeting roomTable ∧ (Text.lines openGreeting).length = 2 ∧
    (validate greetingScope (openGreeting ++ '\n' :: roomTable) =
        validate greetingScope openGreeting ++ (validate greetingScope roomTable).map
          (Issue.moved (Text.lines openGreeting).length) ∧
      (verdict (validate greetingScope (openGreeting ++ '\n' :: roomTable))).rank =
        max (verdict (validate greetingScope openGreeting)).rank
          (verdict (validate greetingScope roomTable)).rank) ∧
    (validate greetingScope (openGreeting ++ '\n' :: roomTable)).map (fun issue =>
      (issue.severity, issue.line)) = [(.error, 2), (.error, 3), (.warning, 4), (.warning, 4)] := by
  have apart : LoopsApart openGreeting roomTable := by decide +kernel
  exact ⟨apart, by decide +kernel, validate_stacked greetingScope apart, by decide +kernel⟩

end MailTemplate
