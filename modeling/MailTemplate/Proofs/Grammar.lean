/-
Module: MailTemplate.Proofs.Grammar
Purpose: How the structural grammar reads the body of a directive.
Main exports: quoteBehind, Directive.closesQuotes, Directive.headWord_of_isSilent,
  Directive.isSilent_of_wordPattern, LoopTag.body_of_valueOf?, Reference.readsWhole_named,
  Reference.isSilent_of_named
-/
import MailTemplate.Proofs.HeadWord
import MailTemplate.Proofs.Tag
import MailTemplate.Printing
import MailTemplate.Reference
import MailTemplate.Loop.Expansion

/-!
Every structural tag begins with a word of the structural grammar, and with two exceptions every
directive that is such a tag prints nothing.  A loop opener without an argument is one exception: it
opens a loop and prints the variable `loop`.  The other are the beginnings of keyed directives.

The name of a reference stands in quote marks, and the name is read up to the closing quote mark
whatever stands between.  So a reference is read within its directive if the literals in the
directive are closed there; in a directive that prints a value no reference begins.
-/

namespace MailTemplate

/-! ### Literals -/

/-- The quote mark of the literal that is open behind a text, if any. -/
def quoteBehind (quote : Option Char) (previous : Char) : Text → Option Char
  | [] => quote
  | c :: rest => quoteBehind (quoteAfter quote previous c) c rest

/-- Whether a text has no quote marks. -/
def Text.isUnquoted (t : Text) : Bool :=
  t.all fun c => !isQuote c

/-- An unquoted text holds no quote mark. -/
theorem Text.isUnquoted_iff {t : Text} : t.isUnquoted = true ↔ ∀ c ∈ t, isQuote c = false := by
  simp [isUnquoted, List.all_eq_true]

/-- Neither of the two quote marks is in an unquoted text. -/
theorem Text.not_mem_of_isUnquoted {t : Text} (plain : t.isUnquoted = true) {c : Char}
    (mark : isQuote c = true) : c ∉ t := by
  intro inside
  rw [isUnquoted_iff.1 plain c inside] at mark
  exact absurd mark (by simp)

/-- Whether every literal in the body of a directive is closed. -/
def Directive.closesQuotes (body : Text) : Bool :=
  quoteBehind none '{' body == none

/-- There are two quote marks. -/
theorem isQuote_iff {c : Char} : isQuote c = true ↔ c = '"' ∨ c = '\'' := by
  simp [isQuote]

/-- A quote mark is no blank. -/
theorem isBlank_of_isQuote {c : Char} (mark : isQuote c = true) : isBlank c = false := by
  rcases isQuote_iff.1 mark with rfl | rfl <;> decide

/-- A blank is no quote mark. -/
theorem isQuote_of_isBlank {c : Char} (blank : isBlank c = true) : isQuote c = false := by
  by_contra quote
  rcases isQuote_iff.1 (by simpa using quote) with rfl | rfl
  · exact absurd blank (by decide)
  · exact absurd blank (by decide)

/-- Padding is unquoted. -/
theorem Text.isUnquoted_of_isPadding {t : Text} (blank : t.isPadding = true) :
    t.isUnquoted = true := by
  rw [isUnquoted_iff]
  intro c inside
  exact isQuote_of_isBlank (isPadding_iff.1 blank c inside)

/-- A literal stays open over characters that are not its quote mark. -/
theorem quoteBehind_open {q : Char} {t : Text} (absent : q ∉ t) (previous : Char) :
    quoteBehind (some q) previous t = some q := by
  induction t generalizing previous with
  | nil => rfl
  | cons c t ih =>
      rw [List.mem_cons, not_or] at absent
      have other : (c == q) = false := by simpa using Ne.symm absent.1
      rw [quoteBehind, quoteAfter]
      simp only [other, Bool.false_and]
      exact ih absent.2 c

/-- Whether a literal is open depends on what has been read so far, and on the character before. -/
theorem quoteBehind_append (quote : Option Char) (previous : Char) (s t : Text) :
    quoteBehind quote previous (s ++ t) =
      quoteBehind (quoteBehind quote previous s) (s.getLastD previous) t := by
  induction s generalizing quote previous with
  | nil => rfl
  | cons c s ih => rw [List.cons_append, quoteBehind, ih, quoteBehind, List.getLastD_cons]

/-- Only quote marks open literals. -/
theorem isQuote_of_quoteBehind {quote : Option Char} (mark : ∀ q ∈ quote, isQuote q = true)
    (previous : Char) (t : Text) : ∀ q ∈ quoteBehind quote previous t, isQuote q = true := by
  induction t generalizing quote previous with
  | nil => exact mark
  | cons c t ih =>
      refine ih (fun q here => ?_) c
      cases quote with
      | none =>
          simp only [quoteAfter] at here
          split at here
          · rename_i opens
            rw [Bool.and_eq_true] at opens
            rw [← Option.some.inj here]
            exact opens.1
          · exact absurd here (by simp)
      | some mark' =>
          simp only [quoteAfter] at here
          split at here
          · exact absurd here (by simp)
          · exact mark q here

/-- Characters that are no quote marks open and close nothing. -/
theorem quoteBehind_unquoted {quote : Option Char} (mark : ∀ q ∈ quote, isQuote q = true) {t : Text}
    (unquoted : t.isUnquoted = true) (previous : Char) : quoteBehind quote previous t = quote := by
  induction t generalizing previous with
  | nil => rfl
  | cons c t ih =>
      rw [Text.isUnquoted, List.all_cons, Bool.and_eq_true] at unquoted
      have plain : isQuote c = false := by simpa using unquoted.1
      have here : quoteAfter quote previous c = quote := by
        cases quote with
        | none => simp [quoteAfter, plain]
        | some q =>
            have other : c ≠ q := by
              rintro rfl
              rw [mark c rfl] at plain
              exact absurd plain (by simp)
            simp [quoteAfter, other]
      rw [quoteBehind, here, ih unquoted.2]

/-- Of the character in front of a text only matters whether it is a backslash. -/
theorem quoteBehind_previous {previous other : Char} (one : previous ≠ '\\') (two : other ≠ '\\')
    (quote : Option Char) (t : Text) :
    quoteBehind quote previous t = quoteBehind quote other t := by
  cases t with
  | nil => rfl
  | cons c t => simp [quoteBehind, quoteAfter, one, two]

/-- Without quote marks there is no literal to be closed. -/
theorem Directive.closesQuotes_of_isUnquoted {body : Text} (unquoted : body.isUnquoted = true) :
    closesQuotes body = true := by
  rw [closesQuotes, quoteBehind_unquoted (by simp) unquoted]
  rfl

namespace Directive

/-! ### Silent directives -/

/-- The words that take an argument hold no blanks. -/
theorem solid_argumentWords {w : Text} (known : w ∈ argumentWords) : w.isSolidText = true := by
  have all : ∀ w ∈ argumentWords, w.isSolidText = true := by decide
  exact all w known

/-- Nor do those that stand alone. -/
theorem solid_loneWords {w : Text} (known : w ∈ loneWords) : w.isSolidText = true := by
  have all : ∀ w ∈ loneWords, w.isSolidText = true := by decide
  exact all w known

/-- A directive with a word of the grammar and an argument prints nothing. -/
theorem isSilent_of_argument {body word rest : Text} {gap c : Char} (known : word ∈ argumentWords)
    (start : Text.trimStart body = word ++ gap :: rest) (blank : isBlank gap = true)
    (inside : c ∈ rest) (solid : isBlank c = false) : isSilent body = true := by
  obtain ⟨pad, padding, same⟩ := Text.trimEnd_append_padding_eq rest
  have kept : c ∈ Text.trimEnd rest := by
    rw [← same, List.mem_append] at inside
    rcases inside with early | late
    · exact early
    · rw [Text.isPadding_iff.1 padding c late] at solid
      exact absurd solid (by simp)
  have trimmed : Text.trim body = word ++ gap :: Text.trimEnd rest := by
    rw [Text.trim, start, ← List.singleton_append, ← List.append_assoc,
      Text.trimEnd_append (List.ne_nil_of_mem kept)]
    simp
  have split : Text.splitFirstBlank (Text.trim body) = some (word, Text.trimEnd rest) := by
    have run : Text.takeRun (fun c => !isBlank c) (Text.trim body) =
        (word, gap :: Text.trimEnd rest) := by
      have solidWord : ∀ c ∈ word, (!isBlank c) = true := by
        simpa using Text.isSolidText_iff.1 (solid_argumentWords known)
      rw [trimmed, Text.takeRun, List.takeWhile_append_of_pos solidWord,
        List.dropWhile_append_of_pos solidWord]
      simp [blank]
    rw [Text.splitFirstBlank, run]
  have argument : (Text.trim (Text.trimEnd rest)).isEmpty = false := by
    rw [List.isEmpty_eq_false_iff]
    intro empty
    have all : (Text.trimEnd rest).isPadding = true := by
      obtain ⟨pad, padding, whole⟩ := Text.trim_append_padding_eq (Text.trimEnd rest)
      rw [empty, List.nil_append] at whole
      rw [← Text.takeWhile_append_trimStart (Text.trimEnd rest), ← whole, Text.isPadding,
        List.all_append, Bool.and_eq_true]
      exact ⟨Text.isPadding_takeWhile _, padding⟩
    rw [Text.isPadding_iff.1 all c kept] at solid
    exact absurd solid (by simp)
  have listed : argumentWords.contains word = true := by simpa using known
  unfold isSilent
  simp only [split, listed, argument]
  simp

/-- A directive that is a word alone prints nothing. -/
theorem isSilent_of_loneWord {body : Text} (known : Text.trim body ∈ loneWords) :
    isSilent body = true := by
  have listed : loneWords.contains (Text.trim body) = true := by simpa using known
  unfold isSilent
  simp only [listed]
  simp

/-- Nor does a closer. -/
theorem isSilent_of_closerWord {body : Text} (known : Text.trim body ∈ closerWords) :
    isSilent body = true := by
  have begins : closerWords.any (Text.startsWith · (Text.trim body)) = true := by
    rw [List.any_eq_true]
    have here := Text.dropPrefix?_append (Text.trim body) []
    rw [List.append_nil] at here
    exact ⟨Text.trim body, known, by rw [Text.startsWith, here]; rfl⟩
  unfold isSilent
  simp only [begins]
  simp

/-- A directive that prints nothing begins with a word of the grammar or with a slash. -/
theorem headWord_of_isSilent {body : Text} (silent : isSilent body = true) :
    Text.headWord body ∈ loneWords ++ argumentWords ∨ (Text.headWord body).head? = some '/' := by
  rw [Text.headWord_eq_takeWhile]
  simp only [isSilent, Bool.or_eq_true] at silent
  rcases silent with (lone | closer) | argument
  · left
    have known : Text.trim body ∈ loneWords := by simpa using lone
    have whole : (Text.trim body).takeWhile (fun c => !isBlank c) = Text.trim body := by
      rw [List.takeWhile_eq_self_iff]
      simpa using Text.isSolidText_iff.1 (solid_loneWords known)
    rw [whole]
    exact List.mem_append_left _ known
  · right
    rw [List.any_eq_true] at closer
    obtain ⟨word, known, begins⟩ := closer
    obtain ⟨rest, dropped⟩ := Option.isSome_iff_exists.1 begins
    rw [Text.eq_append_of_dropPrefix? dropped]
    have slash : ∀ w ∈ closerWords, w.head? = some '/' := by decide
    obtain ⟨tail, rfl⟩ := List.head?_eq_some_iff.1 (slash word known)
    have solid : isBlank '/' = false := by decide
    simp [solid]
  · left
    cases split : Text.splitFirstBlank (Text.trim body) with
    | none => simp [split] at argument
    | some found =>
        obtain ⟨word, rest⟩ := found
        rw [split, Bool.and_eq_true] at argument
        have known : word ∈ argumentWords := by simpa using argument.1
        rw [(Text.splitFirstBlank_eq_some split).2]
        exact List.mem_append_right _ known

end Directive

/-! ### What the parts of a tag say about its body -/

namespace Shape

/-- A shape with a word at its head takes blanks, the word, and goes on behind it. -/
theorem take?_keyword {w : String} {shape : Shape} {t rest : Text} {pieces : List Text}
    (taken : take? (.blanks :: .keyword w :: shape) t = some (pieces, rest)) :
    ∃ middle others, Text.trimStart t = w.toList ++ middle ∧
      shape.take? middle = some (others, rest) ∧
      pieces = t.takeWhile isBlank :: w.toList :: others := by
  obtain ⟨pad, behind, others, first, second, rfl⟩ := take?_cons taken
  obtain ⟨word, middle, last, third, fourth, rfl⟩ := take?_cons second
  simp only [Part.blanks, Part.take?, Text.takeRun, Option.some.injEq, Prod.mk.injEq] at first
  simp only [Part.keyword, Part.take?, Option.map_eq_some_iff, Prod.mk.injEq] at third
  obtain ⟨after, dropped, rfl, rfl⟩ := third
  obtain ⟨rfl, rfl⟩ := first
  exact ⟨after, last, Text.eq_append_of_dropPrefix? dropped, fourth, rfl⟩

/-- A gap takes all the blanks at the head, and there is one at least. -/
theorem take?_gap {shape : Shape} {t rest : Text} {pieces : List Text}
    (taken : take? (.gap :: shape) t = some (pieces, rest)) :
    ∃ (gap : Text) (others : List Text), gap ≠ [] ∧ gap.isPadding = true ∧
      t = gap ++ Text.trimStart t ∧ shape.take? (Text.trimStart t) = some (others, rest) ∧
      pieces = gap :: others := by
  obtain ⟨gap, behind, others, first, second, rfl⟩ := take?_cons taken
  simp only [Part.gap, Part.take?] at first
  split at first
  · exact absurd first (by simp)
  · rename_i other
    simp only [Text.takeRun, Option.some.injEq, Prod.mk.injEq] at first other
    obtain ⟨rfl, rfl⟩ := first
    refine ⟨t.takeWhile isBlank, others, ?_, Text.isPadding_takeWhile t, ?_, second, rfl⟩
    · intro empty
      exact other _ ⟨empty, rfl⟩
    · exact (Text.takeWhile_append_trimStart t).symm

/-- A directive that is a word alone is, trimmed, that word. -/
theorem trim_of_word {w : String} (solid : Text.isSolidText w.toList = true) {body : Text}
    {pieces : List Text} (all : takeAll? [.blanks, .keyword w, .blanks] body = some pieces) :
    Text.trim body = w.toList := by
  obtain ⟨middle, others, start, taken, _⟩ := take?_keyword (takeAll?_eq_some_iff.1 all)
  have blank : middle.isPadding = true := by
    simp only [take?, Part.blanks, Part.take?, Text.takeRun, Option.some.injEq,
      Prod.mk.injEq] at taken
    exact Text.isPadding_of_trimStart taken.2
  rw [← Text.takeWhile_append_trimStart body, start, ← List.append_assoc,
    Text.trim_padded (Text.isPadding_takeWhile body) blank, Text.trim_of_solid solid]

/-- What a shape with a word and a gap takes begins with these. -/
theorem trimStart_of_argument {w : String} {shape : Shape} {body rest : Text} {pieces : List Text}
    (taken : take? (.blanks :: .keyword w :: .gap :: shape) body = some (pieces, rest)) :
    ∃ (gap middle : Text) (others : List Text), gap ≠ [] ∧ gap.isPadding = true ∧
      Text.trimStart body = w.toList ++ (gap ++ middle) ∧ shape.take? middle = some (others, rest) ∧
        pieces = body.takeWhile isBlank :: w.toList :: gap :: others := by
  obtain ⟨middle, others, start, behind, rfl⟩ := take?_keyword taken
  obtain ⟨gap, last, nonempty, blank, same, left, rfl⟩ := take?_gap behind
  exact ⟨gap, Text.trimStart middle, last, nonempty, blank, by rw [← same]; exact start, left, rfl⟩

end Shape

/-! ### Tags of loops -/

/-- Loop tags stand between double braces. -/
theorem LoopTag.bracketed : LoopTag.pattern.Bracketed :=
  Shape.bracketed_pattern.orElse Shape.bracketed_pattern

/-- A loop tag is a directive as a whole. -/
theorem LoopTag.readsWhole {body : Text} (closed : '}' ∉ body) :
    LoopTag.pattern.ReadsWhole body :=
  (Directive.readsWhole_argumentTag (by decide) closed).1.orElse
    (Directive.readsWhole_wordPattern _ (by decide) closed).1

/-- An opener has something behind the word, a closer is the word alone. -/
theorem LoopTag.valueOf?_eq {body : Text} (closed : '}' ∉ body) :
    LoopTag.pattern.valueOf? body =
      ((Shape.takeAll? [.blanks, .keyword "loop", .gap, .bodyRun] body).map fun pieces =>
        LoopTag.opener
          (Text.trim ((Directive.opening :: (pieces ++ [Directive.closing])).getD 4 []))).or
      ((Shape.takeAll? [.blanks, .keyword "/loop", .blanks] body).map fun _ => LoopTag.closer) := by
  rw [LoopTag.pattern, Pattern.valueOf?_orElse,
    (Directive.readsWhole_argumentTag (by decide) closed).2,
    (Directive.readsWhole_wordPattern _ (by decide) closed).2]

/-- Whatever stands behind the word `loop` and a blank is what the opener asks for. -/
theorem LoopTag.valueOf?_argument {body rest : Text} {gap : Char} (closed : '}' ∉ body)
    (blank : isBlank gap = true) (start : Text.trimStart body = "loop".toList ++ gap :: rest) :
    LoopTag.pattern.valueOf? body = some (.opener (Text.trim rest)) := by
  have clear : '}' ∉ Text.trimStart rest := by
    intro inside
    have behind : '}' ∈ Text.trimStart body := by
      rw [start]
      exact List.mem_append_right _ (List.mem_cons_of_mem _ (List.dropWhile_subset _ inside))
    exact closed (List.dropWhile_subset _ behind)
  have second : (Part.keyword "loop").take? (Text.trimStart body) =
      some ("loop".toList, gap :: rest) := by
    rw [start]
    exact Part.take?_word_append "loop".toList (gap :: rest)
  have third : Part.gap.take? (gap :: rest) =
      some (gap :: rest.takeWhile isBlank, Text.trimStart rest) := by
    simp [Part.gap, Part.take?, Text.takeRun, blank, Text.trimStart]
  have taken : Shape.takeAll? [.blanks, .keyword "loop", .gap, .bodyRun] body =
      some [body.takeWhile isBlank, "loop".toList, gap :: rest.takeWhile isBlank,
        Text.trimStart rest] := by
    have first : Part.blanks.take? body = some (body.takeWhile isBlank, Text.trimStart body) := rfl
    rw [Shape.takeAll?_eq_some_iff]
    simp only [Shape.take?, first, second, third, Part.take?_bodyRun clear]
  rw [LoopTag.valueOf?_eq closed, taken]
  exact congrArg (fun t => some (LoopTag.opener t)) (Text.trim_trimStart rest)

/-- A directive that is a loop tag begins with `loop` and a blank, or is the word `/loop`. -/
theorem LoopTag.body_of_valueOf? {body : Text} (flat : body.isBraceFree = true) {tag : LoopTag}
    (read : LoopTag.pattern.valueOf? body = some tag) :
    (∃ argument gap rest, tag = .opener argument ∧ isBlank gap = true ∧
      Text.trimStart body = "loop".toList ++ gap :: rest) ∨
    (tag = .closer ∧ Text.trim body = "/loop".toList) := by
  have closed := Text.not_mem_of_isBraceFree flat
  rw [LoopTag.valueOf?_eq closed, Option.or_eq_some_iff] at read
  rcases read with opener | ⟨_, closer⟩
  · left
    obtain ⟨pieces, all, rfl⟩ := Option.map_eq_some_iff.1 opener
    obtain ⟨gap, middle, _, nonempty, blank, start, _⟩ :=
      Shape.trimStart_of_argument (Shape.takeAll?_eq_some_iff.1 all)
    obtain ⟨c, gap, rfl⟩ := List.exists_cons_of_ne_nil nonempty
    exact ⟨_, c, gap ++ middle, rfl, Text.isPadding_iff.1 blank c List.mem_cons_self, start⟩
  · right
    obtain ⟨pieces, all, rfl⟩ := Option.map_eq_some_iff.1 closer
    exact ⟨rfl, Shape.trim_of_word (by decide) all⟩

/-- The first word of a loop tag is `loop` or `/loop`. -/
theorem LoopTag.headWord_of_valueOf? {body : Text} (flat : body.isBraceFree = true) {tag : LoopTag}
    (read : LoopTag.pattern.valueOf? body = some tag) :
    Text.headWord body = "loop".toList ∨ Text.headWord body = "/loop".toList := by
  rcases LoopTag.body_of_valueOf? flat read with ⟨_, gap, rest, _, blank, start⟩ | ⟨_, whole⟩
  · exact .inl (Text.headWord_eq (by decide) blank start)
  · right
    rw [Text.headWord_eq_takeWhile, whole]
    decide

/-! ### Words alone between braces -/

/-- A word of the grammar alone between braces prints nothing. -/
theorem Directive.isSilent_of_wordPattern {α : Type} {w : String} {value tag : α} {body : Text}
    (known : w.toList ∈ loneWords ++ closerWords) (flat : body.isBraceFree = true)
    (read : (wordPattern w value).valueOf? body = some tag) : isSilent body = true := by
  have words : ∀ w ∈ loneWords ++ closerWords, w.isSolidText = true ∧ '}' ∉ w := by decide
  have avoids : (Part.keyword w).avoidsClosing = true := by
    simpa [Part.keyword, Part.avoidsClosing] using (words _ known).2
  rw [(readsWhole_wordPattern _ avoids (Text.not_mem_of_isBraceFree flat)).2] at read
  obtain ⟨pieces, all, _⟩ := Option.map_eq_some_iff.1 read
  have whole := Shape.trim_of_word (words _ known).1 all
  rcases List.mem_append.1 known with lone | closer
  · exact isSilent_of_loneWord (whole ▸ lone)
  · exact isSilent_of_closerWord (whole ▸ closer)

/-- Index tags stand between double braces. -/
theorem IndexTag.bracketed : IndexTag.pattern.Bracketed :=
  Shape.bracketed_pattern.orElse Shape.bracketed_pattern

/-- A placeholder is a directive as a whole. -/
theorem IndexTag.readsWhole {body : Text} (closed : '}' ∉ body) :
    IndexTag.pattern.ReadsWhole body :=
  (Directive.readsWhole_wordPattern _ (by decide) closed).1.orElse
    (Directive.readsWhole_wordPattern _ (by decide) closed).1

/-- Placeholders are not printed. -/
theorem IndexTag.isSilent_of_valueOf? {body : Text} (flat : body.isBraceFree = true)
    {tag : IndexTag} (read : IndexTag.pattern.valueOf? body = some tag) :
    Directive.isSilent body = true := by
  rw [IndexTag.pattern, Pattern.valueOf?_orElse, Option.or_eq_some_iff] at read
  rcases read with fromZero | ⟨_, fromOne⟩
  · exact Directive.isSilent_of_wordPattern (by decide) flat fromZero
  · exact Directive.isSilent_of_wordPattern (by decide) flat fromOne

/-- A directive that prints a value is no placeholder. -/
theorem IndexTag.valueOf?_eq_none {body : Text} (flat : body.isBraceFree = true)
    (speaks : Directive.isSilent body = false) : IndexTag.pattern.valueOf? body = none := by
  cases read : IndexTag.pattern.valueOf? body with
  | none => rfl
  | some tag =>
      rw [IndexTag.isSilent_of_valueOf? flat read] at speaks
      exact absurd speaks (by simp)

/-- The first word of a placeholder is `_index` or `_index1`. -/
theorem IndexTag.headWord_of_valueOf? {body : Text} (flat : body.isBraceFree = true)
    {tag : IndexTag} (read : IndexTag.pattern.valueOf? body = some tag) :
    Text.headWord body = "_index".toList ∨ Text.headWord body = "_index1".toList := by
  have closed := Text.not_mem_of_isBraceFree flat
  rw [IndexTag.pattern, Pattern.valueOf?_orElse,
    (Directive.readsWhole_wordPattern _ (by decide) closed).2,
    (Directive.readsWhole_wordPattern _ (by decide) closed).2, Option.or_eq_some_iff] at read
  rcases read with first | ⟨_, second⟩
  · obtain ⟨_, all, _⟩ := Option.map_eq_some_iff.1 first
    rw [Text.headWord_eq_takeWhile, Shape.trim_of_word (by decide) all]
    decide
  · obtain ⟨_, all, _⟩ := Option.map_eq_some_iff.1 second
    rw [Text.headWord_eq_takeWhile, Shape.trim_of_word (by decide) all]
    decide

/-- A placeholder is no loop tag. -/
theorem IndexTag.loopTag_eq_none {body : Text} (flat : body.isBraceFree = true) {tag : IndexTag}
    (read : IndexTag.pattern.valueOf? body = some tag) : LoopTag.pattern.valueOf? body = none := by
  have word := IndexTag.headWord_of_valueOf? flat read
  cases loop : LoopTag.pattern.valueOf? body with
  | none => rfl
  | some found =>
      rcases LoopTag.headWord_of_valueOf? flat loop with other | other <;>
      · rw [other] at word
        exact absurd word (by decide)

/-- The place for content is a directive as a whole. -/
theorem Reference.readsWhole_content {body : Text} (closed : '}' ∉ body) :
    Reference.content.ReadsWhole body :=
  (Directive.readsWhole_wordPattern _ (by decide) closed).1

/-- So is the closer of a layout. -/
theorem Reference.readsWhole_layoutCloser {body : Text} (closed : '}' ∉ body) :
    Reference.layoutCloser.ReadsWhole body :=
  (Directive.readsWhole_wordPattern _ (by decide) closed).1

/-! ### References -/

namespace Reference

/-- The parts of a reference in front of its name. -/
def beforeName (w : String) (quote : Char) : Shape :=
  [.blanks, .keyword w, .gap, .word [quote]]

/-- The parts of a reference from its name on. -/
def fromName (quote : Char) : Shape :=
  [.many (· != quote), .word [quote], .blanks]

/-- In front of a name stand the word, a gap and a quote mark. -/
theorem body_of_beforeName {w : String} {quote : Char} {body rest : Text} {pieces : List Text}
    (taken : (beforeName w quote).take? body = some (pieces, rest)) :
    ∃ gap : Text, gap ≠ [] ∧ gap.isPadding = true ∧
      Text.trimStart body = w.toList ++ (gap ++ quote :: rest) := by
  obtain ⟨gap, middle, others, nonempty, blank, start, left, _⟩ := Shape.trimStart_of_argument taken
  simp only [Shape.take?, Part.take?] at left
  cases dropped : Text.dropPrefix? [quote] middle with
  | none => simp [dropped] at left
  | some after =>
      rw [dropped] at left
      simp only [Option.map_some, Option.some.injEq, Prod.mk.injEq] at left
      rw [Text.eq_append_of_dropPrefix? dropped, left.2] at start
      exact ⟨gap, nonempty, blank, start⟩

/-- A directive in which a reference begins prints nothing. -/
theorem isSilent_of_beforeName {w : String} {quote : Char} {body rest : Text} {pieces : List Text}
    (known : w.toList ∈ Directive.argumentWords) (mark : isQuote quote = true)
    (taken : (beforeName w quote).take? body = some (pieces, rest)) :
    Directive.isSilent body = true := by
  obtain ⟨gap, nonempty, blank, start⟩ := body_of_beforeName taken
  obtain ⟨c, gap, rfl⟩ := List.exists_cons_of_ne_nil nonempty
  have solid : isBlank quote = false := by
    by_contra padding
    rw [isQuote_of_isBlank (by simpa using padding)] at mark
    exact absurd mark (by simp)
  exact Directive.isSilent_of_argument known start (Text.isPadding_iff.1 blank c List.mem_cons_self)
    (List.mem_append_right gap List.mem_cons_self) solid

/-- If its literals are closed, a directive in which a reference begins holds the end of the
name. -/
theorem mem_of_beforeName {w : String} {quote : Char} {body rest : Text} {pieces : List Text}
    (plain : Text.isUnquoted w.toList = true) (mark : isQuote quote = true)
    (taken : (beforeName w quote).take? body = some (pieces, rest))
    (closed : Directive.closesQuotes body = true) : quote ∈ rest := by
  obtain ⟨gap, nonempty, blank, start⟩ := body_of_beforeName taken
  have front : Text.isUnquoted (body.takeWhile isBlank ++ w.toList ++ gap) = true := by
    rw [Text.isUnquoted, List.all_append, List.all_append, Bool.and_eq_true, Bool.and_eq_true]
    exact ⟨⟨Text.isUnquoted_of_isPadding (Text.isPadding_takeWhile body), plain⟩,
      Text.isUnquoted_of_isPadding blank⟩
  have whole : body = body.takeWhile isBlank ++ w.toList ++ gap ++ quote :: rest := by
    conv => lhs; rw [← Text.takeWhile_append_trimStart body, start]
    simp
  -- The character in front of the quote mark is a blank, so the mark counts as one.
  have last : isBlank ((body.takeWhile isBlank ++ w.toList ++ gap).getLastD '{') = true := by
    rw [List.getLastD_eq_getLast?, List.getLast?_append, List.getLast?_eq_some_getLast nonempty]
    exact Text.isPadding_iff.1 blank _ (List.getLast_mem nonempty)
  have unescaped : (body.takeWhile isBlank ++ w.toList ++ gap).getLastD '{' ≠ '\\' := by
    intro slash
    rw [slash] at last
    exact absurd last (by decide)
  by_contra absent
  rw [Directive.closesQuotes, whole, quoteBehind_append, quoteBehind_unquoted (by simp) front,
    quoteBehind, quoteAfter] at closed
  simp only [mark, bne_iff_ne, ne_eq, unescaped, not_false_eq_true, Bool.true_and,
    if_true] at closed
  rw [quoteBehind_open absent] at closed
  exact absurd closed (by simp)

/-- A name that ends inside its directive is not read beyond it. -/
theorem staysInside_fromName {quote : Char} {rest : Text} (inside : quote ∈ rest) :
    (fromName quote).StaysInside rest := by
  obtain ⟨name, after, rfl, absent⟩ := List.eq_append_cons_of_mem inside
  have each : ∀ c ∈ name, (c != quote) = true := by
    intro c here
    rw [bne_iff_ne]
    intro same
    exact absent (same ▸ here)
  intro behind
  have run (behind : Text) :
      Part.take? (.many (· != quote)) (name ++ quote :: behind) = some (name, quote :: behind) :=
    Part.take?_many each (by simp) behind
  have marked (t : Text) : Part.take? (.word [quote]) (quote :: t) = some ([quote], t) :=
    Part.take?_word_append [quote] t
  have blanks := Part.take?_append_closing Part.avoidsClosing_blanks after behind
  rw [List.append_assoc, List.cons_append, fromName]
  simp only [Shape.take?, run, marked, blanks]
  cases Part.blanks.take? after <;> rfl

/-- The pattern of a reference with its name in one kind of quote marks. -/
theorem readsWhole_namedTag {w : String} {quote : Char} {body : Text}
    (known : w.toList ∈ Directive.argumentWords) (mark : isQuote quote = true)
    (flat : body.isBraceFree = true)
    (closed : Directive.isSilent body = true → Directive.closesQuotes body = true) :
    ((namedTag w quote).pattern (fun pieces => pieces.getD 5 [])
        (Shape.isSolid_opens _)).ReadsWhole body ∧
      ((namedTag w quote).pattern (fun pieces => pieces.getD 5 [])
          (Shape.isSolid_opens _)).valueOf? body =
        (Shape.takeAll? (beforeName w quote ++ fromName quote) body).map fun pieces =>
          (Directive.opening :: (pieces ++ [Directive.closing])).getD 5 [] := by
  have words : ∀ w ∈ Directive.argumentWords, Text.isUnquoted w = true ∧ '}' ∉ w := by decide
  have other : quote ≠ '}' := by
    rintro rfl
    exact absurd mark (by decide)
  have word : (Part.keyword w).avoidsClosing = true := by
    simpa [Part.keyword, Part.avoidsClosing] using (words _ known).2
  have opener : (Part.word [quote]).avoidsClosing = true := by
    simpa [Part.avoidsClosing] using Ne.symm other
  have avoids : (beforeName w quote).all Part.avoidsClosing = true := by
    simp [beforeName, word, opener]
  refine Shape.readsWhole_pattern (beforeName w quote ++ fromName quote) ?_
    (Text.not_mem_of_isBraceFree flat)
  refine (Shape.staysInside avoids body).append fun pieces rest taken => ?_
  exact staysInside_fromName (mem_of_beforeName (words _ known).1 mark taken
    (closed (isSilent_of_beforeName known mark taken)))

/-- Directives with a name stand between double braces. -/
theorem bracketed_named (w : String) : (named w).Bracketed :=
  Shape.bracketed_pattern.orElse Shape.bracketed_pattern

/-- Includes and components stand between double braces. -/
theorem bracketed_includes : includes.Bracketed :=
  (bracketed_named "include").orElse (bracketed_named "component")

/-- A reference is a directive as a whole, as long as literals are closed in it. -/
theorem readsWhole_named {w : String} {body : Text} (known : w.toList ∈ Directive.argumentWords)
    (flat : body.isBraceFree = true)
    (closed : Directive.isSilent body = true → Directive.closesQuotes body = true) :
    (named w).ReadsWhole body :=
  (readsWhole_namedTag known (by decide) flat closed).1.orElse
    (readsWhole_namedTag known (by decide) flat closed).1

/-- A directive that is a reference begins like one, and holds the name. -/
theorem begins_of_named {w : String} {body name : Text} (known : w.toList ∈ Directive.argumentWords)
    (flat : body.isBraceFree = true)
    (closed : Directive.isSilent body = true → Directive.closesQuotes body = true)
    (read : (named w).valueOf? body = some name) :
    (∃ quote pieces rest, isQuote quote = true ∧
        (beforeName w quote).take? body = some (pieces, rest)) ∧
      name ⊆ body := by
  have one {quote : Char} (mark : isQuote quote = true)
      (found : (Shape.takeAll? (beforeName w quote ++ fromName quote) body).map (fun pieces =>
          (Directive.opening :: (pieces ++ [Directive.closing])).getD 5 []) = some name) :
      (∃ quote pieces rest, isQuote quote = true ∧
        (beforeName w quote).take? body = some (pieces, rest)) ∧ name ⊆ body := by
    obtain ⟨pieces, all, value⟩ := Option.map_eq_some_iff.1 found
    have taken := Shape.takeAll?_eq_some_iff.1 all
    have whole := Shape.take?_flatten taken
    have size := Shape.length_take? taken
    rw [List.append_nil] at whole
    rw [Shape.take?_append] at taken
    obtain ⟨first, before, _⟩ := Option.bind_eq_some_iff.1 taken
    refine ⟨⟨quote, first.1, first.2, mark, before⟩, ?_⟩
    have here : 4 < pieces.length := by
      rw [size]
      simp [beforeName, fromName]
    have inside : name ∈ pieces := by
      rw [← value, List.getD_cons_succ, List.getD_eq_getElem?_getD, List.getElem?_append_left here,
        List.getElem?_eq_getElem here]
      exact List.getElem_mem here
    rw [← whole]
    intro c within
    exact List.mem_flatten.2 ⟨name, inside, within⟩
  rw [named, Pattern.valueOf?_orElse, (readsWhole_namedTag known (by decide) flat closed).2,
    (readsWhole_namedTag known (by decide) flat closed).2, Option.or_eq_some_iff] at read
  rcases read with double | ⟨_, single⟩
  · exact one (by decide) double
  · exact one (by decide) single

/-- A directive that is a reference prints nothing. -/
theorem isSilent_of_named {w : String} {body name : Text}
    (known : w.toList ∈ Directive.argumentWords) (flat : body.isBraceFree = true)
    (closed : Directive.isSilent body = true → Directive.closesQuotes body = true)
    (read : (named w).valueOf? body = some name) : Directive.isSilent body = true := by
  obtain ⟨⟨quote, pieces, rest, mark, before⟩, _⟩ := begins_of_named known flat closed read
  exact isSilent_of_beforeName known mark before

/-- The first word of a reference is its own. -/
theorem headWord_of_named {w : String} {body name : Text}
    (known : w.toList ∈ Directive.argumentWords) (flat : body.isBraceFree = true)
    (closed : Directive.isSilent body = true → Directive.closesQuotes body = true)
    (read : (named w).valueOf? body = some name) : Text.headWord body = w.toList := by
  obtain ⟨⟨quote, pieces, rest, _, before⟩, _⟩ := begins_of_named known flat closed read
  obtain ⟨gap, nonempty, blank, start⟩ := body_of_beforeName before
  obtain ⟨c, gap, rfl⟩ := List.exists_cons_of_ne_nil nonempty
  exact Text.headWord_eq (Directive.solid_argumentWords known)
    (Text.isPadding_iff.1 blank c List.mem_cons_self) start

/-- Both words for components name them by whole directives. -/
theorem readsWhole_includes {body : Text} (flat : body.isBraceFree = true)
    (closed : Directive.isSilent body = true → Directive.closesQuotes body = true) :
    includes.ReadsWhole body :=
  (readsWhole_named (by decide) flat closed).orElse (readsWhole_named (by decide) flat closed)

/-- The name of a component is written in the directive. -/
theorem subset_of_includes {body name : Text} (flat : body.isBraceFree = true)
    (closed : Directive.isSilent body = true → Directive.closesQuotes body = true)
    (read : includes.valueOf? body = some name) : name ⊆ body := by
  rw [includes, Pattern.valueOf?_orElse, Option.or_eq_some_iff] at read
  rcases read with first | ⟨_, second⟩
  · exact (begins_of_named (by decide) flat closed first).2
  · exact (begins_of_named (by decide) flat closed second).2

end Reference

end MailTemplate
