/-
Module: MailTemplate.Proofs.Mention
Purpose: Names of markup in a template, as validation reads them and as rendering does.
Main exports: QuotedName, QuotedName.read_named, QuotedName.of_named, Validation.IsName,
  Validation.of_mention, Validation.separate_components, Validation.separate_references,
  QuotedName.within_name, Validation.read_componentWithArgument, Validation.quoted_of_wellFormed
-/
import Mathlib.Data.List.Forall2
import MailTemplate.Proofs.Grammar
import MailTemplate.Proofs.Occurrence
import MailTemplate.Reference
import MailTemplate.Validation.Check

/-!
Rendering asks for a name in quote marks, whatever characters it has and however the directive is
broken over lines.  Validation looks at single lines and takes names without quote marks as well,
but none with blanks, quote marks or closing braces.

On a directive of both kinds they agree.  Validation never misses it, because its tags cannot begin
inside one another: behind a name there is only padding, and a directive needs a word and a name.
Rendering misses it only inside a longer name, one with a whole directive between its quote marks.
-/

namespace MailTemplate

/-! ### Directives with a quoted name -/

/-- How a word and a name in quote marks are written between braces. -/
structure QuotedName (w : String) where
  lead : Text
  gap : Text
  mark : Char
  name : Text
  trail : Text
  lead_blank : lead.isPadding = true
  gap_blank : gap.isPadding = true
  gap_ne_nil : gap ≠ []
  isQuote_mark : isQuote mark = true
  unmarked : mark ∉ name
  trail_blank : trail.isPadding = true

namespace QuotedName

variable {w : String}

/-- The body of the directive. -/
def body (n : QuotedName w) : Text :=
  n.lead ++ (w.toList ++ (n.gap ++ n.mark :: (n.name ++ n.mark :: n.trail)))

/-- The parts of a directive with a quoted name; `part` takes the name. -/
def shape (w : String) (mark : Char) (part : Part) : Shape :=
  [.opens, .blanks, .keyword w, .gap, .word [mark], part, .word [mark], .blanks, .closes]

/-- A quote mark is no blank. -/
theorem isBlank_mark (n : QuotedName w) : isBlank n.mark = false :=
  isBlank_of_isQuote n.isQuote_mark

/-- A shape that begins with the word and a gap takes these and goes on at the quote mark. -/
theorem take?_head (n : QuotedName w) (solid : Text.isSolidText w.toList = true)
    (nonempty : w.toList ≠ []) (shape : Shape) (rest : Text) :
    Shape.take? (.opens :: .blanks :: .keyword w :: .gap :: shape)
        ((Segment.directive n.body).raw ++ rest) =
      (shape.take? (n.mark :: (n.name ++ n.mark :: (n.trail ++ '}' :: '}' :: rest)))).map
        fun taken => (Directive.opening :: n.lead :: w.toList :: n.gap :: taken.1, taken.2) := by
  obtain ⟨c, word, same⟩ := List.exists_cons_of_ne_nil nonempty
  have letter : isBlank c = false :=
    Text.isSolidText_iff.1 solid c (same ▸ List.mem_cons_self)
  have lead (t : Text) : Part.blanks.take? (n.lead ++ (w.toList ++ t)) =
      some (n.lead, w.toList ++ t) := by
    rw [same]
    exact Part.take?_many (Text.isPadding_iff.1 n.lead_blank) letter (word ++ t)
  have keyword (t : Text) : (Part.keyword w).take? (w.toList ++ t) = some (w.toList, t) :=
    Part.take?_word_append w.toList t
  have gap (t : Text) : Part.gap.take? (n.gap ++ n.mark :: t) = some (n.gap, n.mark :: t) :=
    Part.take?_atLeastOne n.gap_ne_nil (Text.isPadding_iff.1 n.gap_blank) n.isBlank_mark t
  have whole : (Segment.directive n.body).raw ++ rest = '{' :: '{' :: (n.lead ++ (w.toList ++
      (n.gap ++ n.mark :: (n.name ++ n.mark :: (n.trail ++ '}' :: '}' :: rest))))) := by
    rw [Segment.raw_directive_append]
    simp [body]
  rw [whole]
  simp only [Shape.take?, Part.take?_opens, lead, keyword, gap]
  cases shape.take? (n.mark :: (n.name ++ n.mark :: (n.trail ++ '}' :: '}' :: rest))) <;> rfl

/-- A shape with quote marks of the name's kind and a part that takes the name reads the
directive. -/
theorem take?_shape (n : QuotedName w) (solid : Text.isSolidText w.toList = true)
    (nonempty : w.toList ≠ []) {part : Part}
    (named : ∀ rest, part.take? (n.name ++ n.mark :: rest) = some (n.name, n.mark :: rest))
    (rest : Text) :
    (shape w n.mark part).take? ((Segment.directive n.body).raw ++ rest) =
      some ([Directive.opening, n.lead, w.toList, n.gap, [n.mark], n.name, [n.mark], n.trail,
        Directive.closing], rest) := by
  have mark (t : Text) : Part.take? (.word [n.mark]) (n.mark :: t) = some ([n.mark], t) :=
    Part.take?_word_append [n.mark] t
  have trail : Part.blanks.take? (n.trail ++ '}' :: '}' :: rest) =
      some (n.trail, '}' :: '}' :: rest) :=
    Part.take?_many (Text.isPadding_iff.1 n.trail_blank) (by decide) ('}' :: rest)
  have closed : Part.closes.take? ('}' :: '}' :: rest) = some (Directive.closing, rest) := rfl
  rw [shape, n.take?_head solid nonempty]
  simp only [Shape.take?, mark, named, trail, closed]
  rfl

/-- A shape with quote marks of the other kind does not. -/
theorem take?_shape_of_ne (n : QuotedName w) (solid : Text.isSolidText w.toList = true)
    (nonempty : w.toList ≠ []) {mark : Char} (other : mark ≠ n.mark) (part : Part) (rest : Text) :
    (shape w mark part).take? ((Segment.directive n.body).raw ++ rest) = none := by
  have unread (t : Text) : Part.take? (.word [mark]) (n.mark :: t) = none := by
    simp [Part.take?, Text.dropPrefix?, other]
  rw [shape, n.take?_head solid nonempty]
  simp only [Shape.take?, unread]
  rfl

/-- A shape for another word does not read the directive. -/
theorem take?_of_ne (n : QuotedName w) (solid : Text.isSolidText w.toList = true)
    (nonempty : w.toList ≠ []) {v : String} (nonemptyV : v.toList ≠ [])
    (other : v.toList.head? ≠ w.toList.head?) (shape : Shape) (rest : Text) :
    Shape.take? (.opens :: .blanks :: .keyword v :: shape)
      ((Segment.directive n.body).raw ++ rest) = none := by
  obtain ⟨c, word, own⟩ := List.exists_cons_of_ne_nil nonempty
  obtain ⟨d, first, their⟩ := List.exists_cons_of_ne_nil nonemptyV
  have letter : isBlank c = false := Text.isSolidText_iff.1 solid c (own ▸ List.mem_cons_self)
  have apart : d ≠ c := by
    rintro rfl
    exact other (by rw [own, their]; rfl)
  have lead (t : Text) : Part.blanks.take? (n.lead ++ c :: t) = some (n.lead, c :: t) :=
    Part.take?_many (Text.isPadding_iff.1 n.lead_blank) letter t
  have keyword (t : Text) : (Part.keyword v).take? (c :: t) = none := by
    simp [Part.keyword, Part.take?, their, Text.dropPrefix?, apart]
  rw [Segment.raw_directive_append, body, own]
  simp only [List.append_assoc, List.cons_append, Shape.take?, Part.take?_opens, lead, keyword]

/-- What a shape reads is a directive with a quoted name. -/
theorem of_take? {mark : Char} {part : Part} {t rest : Text} {pieces : List Text}
    (isMark : isQuote mark = true) (unmarked : ∀ name, part.Accepts name → mark ∉ name)
    (taken : (shape w mark part).take? t = some (pieces, rest)) :
    ∃ n : QuotedName w, n.mark = mark ∧ part.Accepts n.name ∧ pieces = [Directive.opening, n.lead,
      w.toList, n.gap, [mark], n.name, [mark], n.trail, Directive.closing] := by
  have accepts := Shape.accepts_of_take? taken
  simp only [shape, List.forall₂_cons_left_iff, List.forall₂_nil_left_iff] at accepts
  obtain ⟨_, _, rfl, ⟨lead, _, leadBlank, ⟨_, _, rfl, ⟨gap, _, ⟨gapSome, gapBlank⟩, ⟨_, _, rfl,
    ⟨name, _, own, ⟨_, _, rfl, ⟨trail, _, trailBlank, ⟨_, _, rfl, rfl, rfl⟩, rfl⟩, rfl⟩, rfl⟩, rfl⟩,
    rfl⟩, rfl⟩, rfl⟩, rfl⟩ := accepts
  exact ⟨⟨lead, gap, mark, name, trail, Text.isPadding_iff.2 leadBlank,
    Text.isPadding_iff.2 gapBlank, gapSome, isMark, unmarked name own,
    Text.isPadding_iff.2 trailBlank⟩, rfl, own, rfl⟩

/-- The pieces of a directive spell it. -/
theorem flatten_pieces (n : QuotedName w) :
    [Directive.opening, n.lead, w.toList, n.gap, [n.mark], n.name, [n.mark], n.trail,
      Directive.closing].flatten = (Segment.directive n.body).raw := by
  simp [Segment.raw, body]

/-- Rendering reads a directive with a quoted name. -/
theorem read_named (n : QuotedName w) (solid : Text.isSolidText w.toList = true)
    (nonempty : w.toList ≠ []) (rest : Text) :
    (Reference.named w).read ((Segment.directive n.body).raw ++ rest) =
      some (⟨(Segment.directive n.body).raw, n.name⟩, rest) := by
  have named (rest : Text) :
      (Part.many (· != n.mark)).take? (n.name ++ n.mark :: rest) = some (n.name, n.mark :: rest) :=
    Part.take?_many (Text.bne_of_not_mem n.unmarked) (by simp) rest
  have own := n.take?_shape solid nonempty named rest
  have tag (mark : Char) : Reference.namedTag w mark = shape w mark (.many (· != mark)) := rfl
  simp only [Reference.named, Pattern.orElse, Shape.pattern, tag]
  rcases isQuote_iff.1 n.isQuote_mark with double | single
  · rw [← double, own]
    simp only [flatten_pieces]
    rfl
  · have other : '"' ≠ n.mark := by rw [single]; decide
    rw [n.take?_shape_of_ne solid nonempty other, ← single, own]
    simp only [flatten_pieces]
    rfl

/-- Rendering looks for another word. -/
theorem read_named_of_ne (n : QuotedName w) (solid : Text.isSolidText w.toList = true)
    (nonempty : w.toList ≠ []) {v : String} (nonemptyV : v.toList ≠ [])
    (other : v.toList.head? ≠ w.toList.head?) (rest : Text) :
    (Reference.named v).read ((Segment.directive n.body).raw ++ rest) = none := by
  simp only [Reference.named, Reference.namedTag, Pattern.orElse, Shape.pattern,
    n.take?_of_ne solid nonempty nonemptyV other]

/-- What rendering reads is a directive with a quoted name. -/
theorem of_named {t rest : Text} {hit : Hit Text}
    (read : (Reference.named w).read t = some (hit, rest)) :
    ∃ n : QuotedName w, hit = ⟨(Segment.directive n.body).raw, n.name⟩ := by
  have tagged {mark : Char} (isMark : isQuote mark = true) {pieces : List Text}
      (taken : (shape w mark (.many (· != mark))).take? t = some (pieces, rest)) :
      ∃ n : QuotedName w, (⟨pieces.flatten, pieces.getD 5 []⟩ : Hit Text) =
        ⟨(Segment.directive n.body).raw, n.name⟩ := by
    have unmarked (name : Text) (own : (Part.many (· != mark)).Accepts name) : mark ∉ name :=
      own.not_mem (by simp [Part.avoids])
    obtain ⟨n, rfl, _, rfl⟩ := of_take? isMark unmarked taken
    exact ⟨n, by rw [flatten_pieces]; rfl⟩
  rcases Pattern.read_orElse read with double | single
  · obtain ⟨pieces, taken, rfl⟩ := Shape.take?_of_read double
    exact tagged (by decide) taken
  · obtain ⟨pieces, taken, rfl⟩ := Shape.take?_of_read single
    exact tagged (by decide) taken

end QuotedName

/-! ### Names as validation reads them -/

/-- How a word and an argument without blanks are written between braces. -/
structure SolidArgument (w : String) where
  lead : Text
  gap : Text
  argument : Text
  trail : Text
  lead_blank : lead.isPadding = true
  gap_blank : gap.isPadding = true
  gap_ne_nil : gap ≠ []
  argument_ne_nil : argument ≠ []
  argument_solid : argument.isSolidText = true
  trail_blank : trail.isPadding = true

/-- The body of the directive. -/
def SolidArgument.body {w : String} (m : SolidArgument w) : Text :=
  m.lead ++ (w.toList ++ (m.gap ++ (m.argument ++ m.trail)))

namespace Validation

/-- A name that validation can read: not empty, and without blanks, quote marks and closing
braces. -/
def IsName (name : Text) : Prop :=
  name ≠ [] ∧ ∀ c ∈ name, isNameCharacter c = true

/-- Names hold no blanks. -/
theorem isSolidText_of_isName {name : Text} (valid : IsName name) : name.isSolidText = true := by
  rw [Text.isSolidText_iff]
  intro c inside
  have own := valid.2 c inside
  simp only [isNameCharacter, Bool.and_eq_true, Bool.not_eq_true'] at own
  exact own.1.2

variable {kind : ReferenceKind} {w : String}

/-- Mentions hold no braces but their own. -/
theorem shallow_mention (kind : ReferenceKind) (avoids : (Part.keyword w).avoidsClosing = true) :
    (mention kind w).Shallow := by
  refine ((Shape.shallow_pattern [.blanks, .keyword w, .gap, .word ['"'],
    .atLeastOne isNameCharacter, .word ['"'], .blanks] ?_).orElse
    (Shape.shallow_pattern [.blanks, .keyword w, .gap, .word ['\''],
      .atLeastOne isNameCharacter, .word ['\''], .blanks] ?_)).orElse
    (Shape.shallow_pattern [.blanks, .keyword w, .gap, .atLeastOne isNameCharacter, .blanks] ?_) <;>
  · simp only [List.all_cons, List.all_nil, avoids]
    decide

/-- A directive with a quoted name that validation can read is a mention. -/
theorem read_mention (n : QuotedName w) (solid : Text.isSolidText w.toList = true)
    (nonempty : w.toList ≠ []) (valid : IsName n.name) (rest : Text) :
    (mention kind w).read ((Segment.directive n.body).raw ++ rest) =
      some (⟨(Segment.directive n.body).raw, (kind, n.name)⟩, rest) := by
  have stop : isNameCharacter n.mark = false := by simp [isNameCharacter, n.isQuote_mark]
  have named (rest : Text) : (Part.atLeastOne isNameCharacter).take? (n.name ++ n.mark :: rest) =
      some (n.name, n.mark :: rest) :=
    Part.take?_atLeastOne valid.1 valid.2 stop rest
  have own := n.take?_shape solid nonempty named rest
  have tag (mark : Char) :
      quotedMention w mark = QuotedName.shape w mark (.atLeastOne isNameCharacter) := rfl
  simp only [mention, Pattern.orElse, Shape.pattern, tag]
  rcases isQuote_iff.1 n.isQuote_mark with double | single
  · rw [← double, own]
    simp only [QuotedName.flatten_pieces]
    rfl
  · have other : '"' ≠ n.mark := by rw [single]; decide
    rw [n.take?_shape_of_ne solid nonempty other, ← single, own]
    simp only [QuotedName.flatten_pieces]
    rfl

/-- Validation looks for another word. -/
theorem read_mention_of_ne (n : QuotedName w) (solid : Text.isSolidText w.toList = true)
    (nonempty : w.toList ≠ []) {v : String} (nonemptyV : v.toList ≠ [])
    (other : v.toList.head? ≠ w.toList.head?) (rest : Text) :
    (mention kind v).read ((Segment.directive n.body).raw ++ rest) = none := by
  simp only [mention, quotedMention, bareMention, Pattern.orElse, Shape.pattern,
    n.take?_of_ne solid nonempty nonemptyV other]

/-- What validation reads as a mention has a name in quote marks or one without. -/
theorem of_mention {t rest : Text} {hit : Hit (ReferenceKind × Text)}
    (read : (mention kind w).read t = some (hit, rest)) :
    (∃ n : QuotedName w, IsName n.name ∧ hit = ⟨(Segment.directive n.body).raw, (kind, n.name)⟩) ∨
    ∃ m : SolidArgument w, IsName m.argument ∧
      hit = ⟨(Segment.directive m.body).raw, (kind, m.argument)⟩ := by
  have quoted {mark : Char} (isMark : isQuote mark = true) {pieces : List Text}
      (taken : (quotedMention w mark).take? t = some (pieces, rest)) :
      ∃ n : QuotedName w, IsName n.name ∧
        (⟨pieces.flatten, (kind, pieces.getD 5 [])⟩ : Hit (ReferenceKind × Text)) =
          ⟨(Segment.directive n.body).raw, (kind, n.name)⟩ := by
    have unmarked (name : Text) (own : (Part.atLeastOne isNameCharacter).Accepts name) :
        mark ∉ name := own.not_mem (by simp [Part.avoids, isNameCharacter, isMark])
    obtain ⟨n, rfl, valid, rfl⟩ := QuotedName.of_take? isMark unmarked taken
    exact ⟨n, valid, by rw [QuotedName.flatten_pieces]; rfl⟩
  rcases Pattern.read_orElse read with marked | bare
  · left
    rcases Pattern.read_orElse marked with double | single
    · obtain ⟨pieces, taken, rfl⟩ := Shape.take?_of_read double
      exact quoted (by decide) taken
    · obtain ⟨pieces, taken, rfl⟩ := Shape.take?_of_read single
      exact quoted (by decide) taken
  · right
    obtain ⟨pieces, taken, rfl⟩ := Shape.take?_of_read bare
    have accepts := Shape.accepts_of_take? taken
    simp only [bareMention, List.forall₂_cons_left_iff, List.forall₂_nil_left_iff] at accepts
    obtain ⟨_, _, rfl, ⟨lead, _, leadBlank, ⟨_, _, rfl, ⟨gap, _, ⟨gapSome, gapBlank⟩, ⟨name, _,
      own, ⟨trail, _, trailBlank, ⟨_, _, rfl, rfl, rfl⟩, rfl⟩, rfl⟩, rfl⟩, rfl⟩, rfl⟩, rfl⟩ :=
      accepts
    refine ⟨⟨lead, gap, name, trail, Text.isPadding_iff.2 leadBlank, Text.isPadding_iff.2 gapBlank,
      gapSome, own.1, isSolidText_of_isName own, Text.isPadding_iff.2 trailBlank⟩, own, ?_⟩
    simp [Segment.raw, SolidArgument.body]

/-- A mention without quote marks around its name has none at all. -/
theorem isUnquoted_of_isName (m : SolidArgument w) (plain : Text.isUnquoted w.toList = true)
    (valid : IsName m.argument) : (Segment.directive m.body).raw.isUnquoted = true := by
  have lead := Text.isUnquoted_of_isPadding m.lead_blank
  have gap := Text.isUnquoted_of_isPadding m.gap_blank
  have trail := Text.isUnquoted_of_isPadding m.trail_blank
  have name : m.argument.isUnquoted = true := by
    rw [Text.isUnquoted_iff]
    intro c inside
    have own := valid.2 c inside
    simp only [isNameCharacter, Bool.and_eq_true, Bool.not_eq_true'] at own
    exact own.1.1
  have braces : Directive.opening.isUnquoted = true ∧ Directive.closing.isUnquoted = true := by
    decide
  simp only [Text.isUnquoted, Segment.raw, SolidArgument.body, List.all_append,
    Bool.and_eq_true] at plain lead gap trail name braces ⊢
  exact ⟨⟨braces.1, lead, plain, gap, name, trail⟩, braces.2⟩

/-- A mention is a word and an argument without blanks. -/
theorem argument_of_mention {t rest : Text} {hit : Hit (ReferenceKind × Text)}
    (read : (mention kind w).read t = some (hit, rest)) :
    ∃ m : SolidArgument w, hit.raw = (Segment.directive m.body).raw := by
  rcases of_mention read with ⟨n, valid, rfl⟩ | ⟨m, _, rfl⟩
  · have solid : Text.isSolidText (n.mark :: (n.name ++ [n.mark])) = true := by
      rw [Text.isSolidText_iff]
      intro c inside
      simp only [List.mem_cons, List.mem_append, List.not_mem_nil, or_false] at inside
      rcases inside with rfl | own | rfl
      · exact n.isBlank_mark
      · exact Text.isSolidText_iff.1 (isSolidText_of_isName valid) c own
      · exact n.isBlank_mark
    refine ⟨⟨n.lead, n.gap, n.mark :: (n.name ++ [n.mark]), n.trail, n.lead_blank, n.gap_blank,
      n.gap_ne_nil, by simp, solid, n.trail_blank⟩, ?_⟩
    simp [QuotedName.body, SolidArgument.body]
  · exact ⟨m, rfl⟩

end Validation

/-- What stands behind a text without a character holds all of the text from that character on. -/
theorem Text.split_behind {c : Char} {s t front back : Text} (clear : c ∉ s)
    (same : s ++ t = front ++ c :: back) : ∃ more, front = s ++ more ∧ t = more ++ c :: back := by
  rcases List.append_eq_append_iff.1 same with ⟨more, rfl, behind⟩ | ⟨more, rfl, behind⟩
  · exact ⟨more, rfl, behind⟩
  · cases more with
    | nil => exact ⟨[], by simp, behind.symm⟩
    | cons d more =>
        obtain ⟨rfl, _⟩ := List.cons.inj behind
        exact absurd (by simp) clear

/-- What stands in front of a text without a character holds all of the text up to it. -/
theorem Text.split_front {c : Char} {s t front back : Text} (clear : c ∉ t)
    (same : s ++ t = front ++ c :: back) : ∃ more, s = front ++ c :: more ∧ back = more ++ t := by
  rcases List.append_eq_append_iff.1 same with ⟨more, rfl, behind⟩ | ⟨more, rfl, behind⟩
  · exact absurd (behind ▸ by simp) clear
  · cases more with
    | nil =>
        rw [List.nil_append] at behind
        exact absurd (behind ▸ by simp) clear
    | cons d more =>
        obtain ⟨rfl, rfl⟩ := List.cons.inj behind
        exact ⟨more, rfl, rfl⟩

namespace SolidArgument

/-- Trimmed, a mention begins with its word and ends with its argument. -/
theorem trim_body {w : String} (m : SolidArgument w) (solid : Text.isSolidText w.toList = true)
    (nonempty : w.toList ≠ []) :
    Text.trim m.body = w.toList ++ (m.gap ++ m.argument) := by
  obtain ⟨c, word, first⟩ := List.exists_cons_of_ne_nil nonempty
  obtain ⟨last, behind⟩ := Option.isSome_iff_exists.1 (List.getLast?_isSome.2 m.argument_ne_nil)
  have parts : m.body = m.lead ++ (w.toList ++ (m.gap ++ m.argument)) ++ m.trail := by
    simp [body]
  have ends : (w.toList ++ (m.gap ++ m.argument)).getLast? = some last := by
    rw [← List.append_assoc, List.getLast?_append_of_ne_nil _ m.argument_ne_nil, behind]
  rw [parts, Text.trim_padded m.lead_blank m.trail_blank]
  refine Text.trim_eq_self (by rw [first]; rfl) ends ?_ ?_
  · exact Text.isSolidText_iff.1 solid c (first ▸ List.mem_cons_self)
  · exact Text.isSolidText_iff.1 m.argument_solid last (List.mem_of_getLast? behind)

/-- No directive with a word and an argument begins inside another. -/
theorem body_ne {v w : String} (outer : SolidArgument v) (inner : SolidArgument w)
    (clear : '{' ∉ v.toList) (solid : Text.isSolidText w.toList = true) (nonempty : w.toList ≠ [])
    (lead : Text) : outer.body ≠ lead ++ '{' :: inner.body := by
  intro same
  have brace {t : Text} (blank : t.isPadding = true) : '{' ∉ t :=
    Text.not_mem_of_isPadding blank (by decide)
  obtain ⟨_, _, first⟩ := Text.split_behind (brace outer.lead_blank) same
  obtain ⟨_, _, second⟩ := Text.split_behind clear first
  obtain ⟨_, _, third⟩ := Text.split_behind (brace outer.gap_blank) second
  obtain ⟨more, argument, inside⟩ := Text.split_front (brace outer.trail_blank) third
  -- Behind the brace, the outer argument has no blank, but the inner gap must be there.
  have unbroken : Text.isSolidText more = true := by
    rw [Text.isSolidText_iff]
    intro c own
    exact Text.isSolidText_iff.1 outer.argument_solid c (argument ▸ by simp [own])
  have trimmed : Text.trim inner.body = more := by
    have empty : Text.isPadding [] = true := rfl
    have padded := Text.trim_padded empty outer.trail_blank more
    rw [List.nil_append] at padded
    rw [inside, padded, Text.trim_of_solid unbroken]
  rw [inner.trim_body solid nonempty] at trimmed
  obtain ⟨c, gap, blank⟩ := List.exists_cons_of_ne_nil inner.gap_ne_nil
  have within : c ∈ inner.gap := blank ▸ List.mem_cons_self
  have isBlank := Text.isPadding_iff.1 inner.gap_blank c within
  have other := Text.isSolidText_iff.1 unbroken c (trimmed ▸ by simp [within])
  exact absurd (isBlank.symm.trans other) (by simp)

end SolidArgument

namespace Validation

/-- Patterns that read mentions are separate. -/
theorem separate_of_mention {p : Pattern (ReferenceKind × Text)} (hp : p.Shallow)
    (words : List String)
    (plain : ∀ w ∈ words, '{' ∉ w.toList ∧ Text.isSolidText w.toList = true ∧ w.toList ≠ [])
    (reads : ∀ {t rest hit}, p.read t = some (hit, rest) →
      ∃ w ∈ words, ∃ m : SolidArgument w, hit.raw = (Segment.directive m.body).raw) :
    p.Separate := by
  have argument {body : Text} (closed : '}' ∉ body) (found : (p.valueOf? body).isSome = true) :
      ∃ w ∈ words, ∃ m : SolidArgument w, body = m.body := by
    obtain ⟨value, found⟩ := Option.isSome_iff_exists.1 found
    obtain ⟨w, known, m, same⟩ := reads (hp.read_of_valueOf? closed found [])
    refine ⟨w, known, m, ?_⟩
    simpa [Segment.raw] using same
  apply hp.separate
  intro lead inner closed found
  have clear : '}' ∉ inner := fun own => closed (by simp [own])
  obtain ⟨w, known, m, rfl⟩ := argument clear found
  cases outer : p.valueOf? (lead ++ '{' :: m.body) with
  | none => rfl
  | some value =>
      obtain ⟨v, other, n, same⟩ := argument closed (by rw [outer]; rfl)
      obtain ⟨_, solid, nonempty⟩ := plain w known
      exact absurd same.symm (n.body_ne m (plain v other).1 solid nonempty lead)

/-- Components hold no braces but their own. -/
theorem shallow_components : components.Shallow :=
  shallow_mention .component (by decide)

/-- Includes and layouts hold no braces but their own. -/
theorem shallow_references : references.Shallow :=
  (shallow_mention .include (by decide)).orElse (shallow_mention .layout (by decide))

/-- A component is hit wherever it stands. -/
theorem separate_components : components.Separate := by
  apply separate_of_mention shallow_components ["component"] (by decide)
  intro t rest hit read
  exact ⟨_, by simp, argument_of_mention read⟩

/-- An include or a layout is hit wherever it stands. -/
theorem separate_references : references.Separate := by
  apply separate_of_mention shallow_references ["include", "layout"] (by decide)
  intro t rest hit read
  rcases Pattern.read_orElse read with first | second
  · exact ⟨_, by simp, argument_of_mention first⟩
  · exact ⟨_, by simp, argument_of_mention second⟩

end Validation

/-! ### A directive inside a quoted name -/

namespace QuotedName

variable {v w : String}

/-- What stands in front of the name. -/
def front (n : QuotedName w) : Text :=
  n.lead ++ (w.toList ++ (n.gap ++ [n.mark]))

/-- A body is what stands in front of the name, the name, its second mark, and blanks. -/
theorem body_eq (n : QuotedName w) : n.body = n.front ++ (n.name ++ n.mark :: n.trail) := by
  simp [body, front]

/-- In front of a name there are the word, blanks and a mark alone. -/
theorem not_mem_front (n : QuotedName w) {c : Char} (clear : c ∉ w.toList)
    (solid : isBlank c = false) (other : isQuote c = false) : c ∉ n.front := by
  intro inside
  simp only [front, List.mem_append, List.mem_singleton] at inside
  rcases inside with own | own | own | rfl
  · exact Text.not_mem_of_isPadding n.lead_blank solid own
  · exact clear own
  · exact Text.not_mem_of_isPadding n.gap_blank solid own
  · exact absurd n.isQuote_mark (by simp [other])

/-- In a body there are the word, blanks, marks and the name alone. -/
theorem not_mem_body (n : QuotedName w) {c : Char} (clear : c ∉ w.toList)
    (solid : isBlank c = false) (other : isQuote c = false) (name : c ∉ n.name) : c ∉ n.body := by
  intro inside
  simp only [body_eq, List.mem_append, List.mem_cons] at inside
  rcases inside with own | own | rfl | own
  · exact n.not_mem_front clear solid other own
  · exact name own
  · exact absurd n.isQuote_mark (by simp [other])
  · exact Text.not_mem_of_isPadding n.trail_blank solid own

/-- A brace in the directive behind the opening ones stands in the name. -/
theorem name_of_brace (n : QuotedName w) (clear : '{' ∉ w.toList) {before behind : Text}
    (same : n.body ++ Directive.closing = before ++ '{' :: behind) :
    ∃ rest, (∃ start, n.name = start ++ '{' :: rest) ∧
      behind = rest ++ n.mark :: (n.trail ++ Directive.closing) := by
  rw [body_eq, List.append_assoc, List.append_assoc, List.cons_append] at same
  obtain ⟨start, _, inside⟩ :=
    Text.split_behind (n.not_mem_front clear (by decide) (by decide)) same
  have ends : '{' ∉ n.mark :: (n.trail ++ Directive.closing) := by
    intro own
    simp only [List.mem_cons, List.mem_append] at own
    rcases own with mark | blank | closing
    · exact absurd n.isQuote_mark (by rw [← mark]; decide)
    · exact Text.not_mem_of_isPadding n.trail_blank (by decide) blank
    · exact absurd closing (by decide)
  obtain ⟨rest, name, behind⟩ := Text.split_front ends inside
  exact ⟨rest, ⟨start, name⟩, behind⟩

/-- The quote marks of a directive with a name for validation are those around the name. -/
theorem eq_mark_of_mem (n : QuotedName w) (plain : Text.isUnquoted w.toList = true)
    (valid : Validation.IsName n.name) {c : Char} (isMark : isQuote c = true)
    (inside : c ∈ (Segment.directive n.body).raw) : c = n.mark := by
  have solid : isBlank c = false := isBlank_of_isQuote isMark
  simp only [Segment.raw, body, List.mem_append, List.mem_cons] at inside
  rcases inside with (first | lead | word | gap | rfl | name | rfl | trail) | last
  · exact absurd first (Text.not_mem_of_isUnquoted (by decide) isMark)
  · exact absurd lead (Text.not_mem_of_isPadding n.lead_blank solid)
  · exact absurd word (Text.not_mem_of_isUnquoted plain isMark)
  · exact absurd gap (Text.not_mem_of_isPadding n.gap_blank solid)
  · rfl
  · have own := valid.2 c name
    simp [Validation.isNameCharacter, isMark] at own
  · rfl
  · exact absurd trail (Text.not_mem_of_isPadding n.trail_blank solid)
  · exact absurd last (Text.not_mem_of_isUnquoted (by decide) isMark)

/-- The first quote mark of a directive with a name for validation is followed by the name. -/
theorem not_padding_behind_mark (n : QuotedName w) (plain : Text.isUnquoted w.toList = true)
    (valid : Validation.IsName n.name) {mark : Char} (isMark : isQuote mark = true)
    {before behind trail more after : Text} (unmarked : mark ∉ before)
    (same : (Segment.directive n.body).raw = before ++ mark :: behind)
    (blank : trail.isPadding = true)
    (next : trail ++ Directive.closing ++ after = behind ++ more) : False := by
  obtain rfl : mark = n.mark := n.eq_mark_of_mem plain valid isMark (same ▸ by simp)
  have unmarkedHere : n.mark ∉ Directive.opening ++ (n.lead ++ (w.toList ++ n.gap)) := by
    intro own
    simp only [List.mem_append] at own
    rcases own with own | own | own | own
    · exact Text.not_mem_of_isUnquoted (by decide) isMark own
    · exact Text.not_mem_of_isPadding n.lead_blank n.isBlank_mark own
    · exact Text.not_mem_of_isUnquoted plain isMark own
    · exact Text.not_mem_of_isPadding n.gap_blank n.isBlank_mark own
  have parts : (Directive.opening ++ (n.lead ++ (w.toList ++ n.gap))) ++
      n.mark :: (n.name ++ n.mark :: (n.trail ++ Directive.closing)) =
        before ++ n.mark :: behind := by
    rw [← same]
    simp [Segment.raw, body]
  obtain ⟨_, rfl⟩ := Text.append_stop_inj unmarkedHere unmarked parts
  obtain ⟨c, name, first⟩ := List.exists_cons_of_ne_nil valid.1
  have own := valid.2 c (first ▸ List.mem_cons_self)
  simp only [Validation.isNameCharacter, Bool.and_eq_true, Bool.not_eq_true', bne_iff_ne] at own
  rw [first] at next
  cases trail with
  | nil => exact own.2 (List.cons.inj next).1.symm
  | cons d trail =>
      obtain ⟨rfl, _⟩ := List.cons.inj next
      have padding := Text.isPadding_iff.1 blank d List.mem_cons_self
      exact absurd (padding.symm.trans own.1.2) (by simp)

/-- A directive that begins inside another, behind its braces, stands in the name of the other. -/
theorem within_name (outer : QuotedName v) (n : QuotedName w) (clear : '{' ∉ v.toList)
    (plain : Text.isUnquoted w.toList = true) (valid : Validation.IsName n.name)
    {before inside after more : Text}
    (raw : (Segment.directive outer.body).raw = before ++ inside) (begins : before ≠ [])
    (ends : inside ≠ []) (same : (Segment.directive n.body).raw ++ more = inside ++ after) :
    (Segment.directive n.body).raw <:+: outer.name ∧
      (Segment.directive n.body).raw.length < inside.length := by
  obtain ⟨c, back, rfl⟩ := List.exists_cons_of_ne_nil ends
  rw [Segment.raw_directive_append] at same
  obtain ⟨rfl, reached⟩ := List.cons.inj same
  obtain ⟨d, front, rfl⟩ := List.exists_cons_of_ne_nil begins
  have raw : '{' :: (outer.body ++ Directive.closing) = front ++ '{' :: back :=
    (List.cons.inj raw).2
  cases front with
  | nil =>
      -- Behind its opening braces, the outer directive goes on with no brace.
      obtain rfl : outer.body ++ Directive.closing = back := (List.cons.inj raw).2
      have next : outer.front ++ ((outer.name ++ outer.mark :: outer.trail) ++
          (Directive.closing ++ after)) = [] ++ '{' :: (n.body ++ '}' :: '}' :: more) := by
        rw [List.nil_append, reached, body_eq]
        simp
      obtain ⟨_, empty, _⟩ :=
        Text.split_behind (outer.not_mem_front clear (by decide) (by decide)) next
      exact absurd (List.append_eq_nil_iff.1 empty.symm).1 (by simp [QuotedName.front])
  | cons e front =>
      obtain ⟨rest, ⟨start, name⟩, behind⟩ := outer.name_of_brace clear (List.cons.inj raw).2
      have marked : outer.mark ∉ '{' :: rest := fun own => outer.unmarked (name ▸ by simp [own])
      have whole : (Segment.directive n.body).raw ++ more =
          ('{' :: rest) ++ outer.mark :: (outer.trail ++ Directive.closing ++ after) := by
        rw [Segment.raw_directive_append, reached, behind]
        simp
      have reaches {left : Text} (same : '{' :: rest = (Segment.directive n.body).raw ++ left) :
          (Segment.directive n.body).raw <:+: outer.name ∧
            (Segment.directive n.body).raw.length < ('{' :: back).length := by
        refine ⟨⟨start, left, ?_⟩, ?_⟩
        · rw [name, same]
          simp
        · have length := congrArg List.length same
          rw [List.length_append] at length
          simp only [behind, List.length_cons, List.length_append] at length ⊢
          omega
      rcases List.append_eq_append_iff.1 whole with ⟨left, same, _⟩ | ⟨left, same, tail⟩
      · exact reaches same
      · cases left with
        | nil =>
            have same : '{' :: rest = (Segment.directive n.body).raw ++ [] := by
              simpa using same.symm
            exact reaches same
        | cons f left =>
            -- The mark that ends the outer name would open the inner one, with a blank or a
            -- brace next.
            obtain ⟨rfl, next⟩ := List.cons.inj tail
            exact (n.not_padding_behind_mark plain valid outer.isQuote_mark marked same
              outer.trail_blank next).elim

end QuotedName

/-! ### Arguments of components -/

/-- Behind whatever else, a quoted name ends a trimmed text. -/
theorem QuotedName.trim_append {w : String} (n : QuotedName w) (front : Text) :
    Text.trim (front ++ n.mark :: (n.name ++ n.mark :: n.trail)) =
      Text.trimStart front ++ n.mark :: (n.name ++ [n.mark]) := by
  have parts : front ++ n.mark :: (n.name ++ n.mark :: n.trail) =
      [] ++ (front ++ n.mark :: (n.name ++ [n.mark])) ++ n.trail := by simp
  have ends : Text.trimStart front ++ n.mark :: (n.name ++ [n.mark]) =
      (Text.trimStart front ++ n.mark :: n.name) ++ [n.mark] := by simp
  rw [parts, Text.trim_padded (rfl : Text.isPadding [] = true) n.trail_blank, Text.trim,
    Text.trimStart_append_cons n.isBlank_mark, ends, Text.trimEnd_concat n.isBlank_mark]

namespace Validation

/-- A quoted name is told by its ends and by what is between them. -/
theorem isQuotedName_cons (first last : Char) (inside : Text) :
    isQuotedName (first :: (inside ++ [last])) =
      (isQuote first && isQuote last && !inside.isEmpty && inside.isUnquoted) := by
  have reversed : (inside ++ [last]).reverse = last :: inside.reverse := by simp
  simp only [isQuotedName, reversed, Text.isUnquoted, List.all_reverse, List.isEmpty_reverse]

/-- A bare name holds no quote mark. -/
theorem isBareName_of_mem {t : Text} {mark : Char} (isMark : isQuote mark = true)
    (inside : mark ∈ t) : isBareName t = false := by
  have other : (mark.isAlphanum || mark == '_' || mark == '-') = false := by
    rcases isQuote_iff.1 isMark with rfl | rfl <;> decide
  rw [isBareName, List.all_eq_false.2 ⟨mark, inside, by simp [other]⟩, Bool.and_false]

/-- A name that validation calls well-formed and that ends in a quoted one is the quoted one: not
empty, and without quote marks inside. -/
theorem quoted_of_wellFormed {w : String} (n : QuotedName w) (front : Text)
    (formed : (isQuotedName (front ++ n.mark :: (n.name ++ [n.mark])) ||
      isBareName (front ++ n.mark :: (n.name ++ [n.mark]))) = true) :
    n.name ≠ [] ∧ n.name.isUnquoted = true := by
  rw [isBareName_of_mem n.isQuote_mark (by simp), Bool.or_false] at formed
  cases front with
  | nil =>
      rw [List.nil_append, isQuotedName_cons, Bool.and_eq_true, Bool.and_eq_true] at formed
      exact ⟨by simpa using formed.1.2, formed.2⟩
  | cons c front =>
      have parts : c :: front ++ n.mark :: (n.name ++ [n.mark]) =
          c :: ((front ++ n.mark :: n.name) ++ [n.mark]) := by simp
      rw [parts, isQuotedName_cons, Bool.and_eq_true] at formed
      exact absurd (by simp) (Text.not_mem_of_isUnquoted formed.2 n.isQuote_mark)

/-- Components with arguments hold no braces but their own. -/
theorem shallow_componentWithArgument : componentWithArgument.Shallow :=
  Shape.shallow_pattern [.blanks, .keyword "component", .gap, .bodyRun] (by decide)

/-- The argument of a component with a quoted name is the name with its quote marks. -/
theorem read_componentWithArgument (n : QuotedName "component") (closed : '}' ∉ n.body)
    (rest : Text) :
    componentWithArgument.read ((Segment.directive n.body).raw ++ rest) =
      some (⟨(Segment.directive n.body).raw, n.mark :: (n.name ++ [n.mark])⟩, rest) := by
  have clear : ∀ c ∈ n.mark :: (n.name ++ n.mark :: n.trail), (c != '}') = true :=
    Text.bne_of_not_mem fun inside => closed (by simp [QuotedName.body, inside])
  have run := Part.take?_many clear (by decide : ('}' != '}') = false) ('}' :: rest)
  rw [List.cons_append, List.append_assoc, List.cons_append] at run
  have closes : Part.closes.take? ('}' :: '}' :: rest) = some (Directive.closing, rest) := rfl
  have ends : Shape.take? [.bodyRun, .closes]
      (n.mark :: (n.name ++ n.mark :: (n.trail ++ '}' :: '}' :: rest))) =
        some ([n.mark :: (n.name ++ n.mark :: n.trail), Directive.closing], rest) := by
    simp only [Shape.take?, Part.bodyRun, run, closes]
  have taken : (Directive.argumentTag "component").take? ((Segment.directive n.body).raw ++ rest) =
      some ([Directive.opening, n.lead, "component".toList, n.gap,
        n.mark :: (n.name ++ n.mark :: n.trail), Directive.closing], rest) := by
    rw [Directive.argumentTag, n.take?_head (by decide) (by decide), ends]
    rfl
  have raw : [Directive.opening, n.lead, "component".toList, n.gap,
      n.mark :: (n.name ++ n.mark :: n.trail), Directive.closing].flatten =
        (Segment.directive n.body).raw := by
    simp [Segment.raw, QuotedName.body]
  have trimmed : Text.trim (n.mark :: (n.name ++ n.mark :: n.trail)) =
      n.mark :: (n.name ++ [n.mark]) := n.trim_append []
  simp only [componentWithArgument, Shape.pattern, taken]
  rw [raw, ← trimmed]
  rfl

/-- If the body of a component directive ends in an opening brace and the body of a component with a
quoted name, then its argument ends in the name. -/
theorem argument_of_lead {t rest lead : Text} {hit : Hit Text} (n : QuotedName "component")
    (read : componentWithArgument.read t = some (hit, rest))
    (raw : hit.raw = (Segment.directive (lead ++ '{' :: n.body)).raw) :
    ∃ front, hit.value = front ++ n.mark :: (n.name ++ [n.mark]) := by
  obtain ⟨pieces, taken, rfl⟩ := Shape.take?_of_read read
  have accepts := Shape.accepts_of_take? taken
  simp only [Directive.argumentTag, List.forall₂_cons_left_iff, List.forall₂_nil_left_iff]
    at accepts
  obtain ⟨_, _, rfl, ⟨pad, _, padBlank, ⟨_, _, rfl, ⟨gap, _, ⟨_, gapBlank⟩, ⟨run, _, _, ⟨_, _, rfl,
    rfl, rfl⟩, rfl⟩, rfl⟩, rfl⟩, rfl⟩, rfl⟩ := accepts
  have brace {t : Text} (blank : t.isPadding = true) : '{' ∉ t :=
    Text.not_mem_of_isPadding blank (by decide)
  have whole : pad ++ ("component".toList ++ (gap ++ run)) ++ Directive.closing =
      (lead ++ '{' :: n.body) ++ Directive.closing := by
    simpa [Segment.raw] using raw
  replace whole := List.append_cancel_right whole
  obtain ⟨_, _, first⟩ := Text.split_behind (brace (Text.isPadding_iff.2 padBlank)) whole
  obtain ⟨_, _, second⟩ := Text.split_behind (by decide) first
  obtain ⟨more, _, third⟩ := Text.split_behind (brace (Text.isPadding_iff.2 gapBlank)) second
  have ends : run = (more ++ '{' :: (n.lead ++ ("component".toList ++ n.gap))) ++
      n.mark :: (n.name ++ n.mark :: n.trail) := by
    rw [third]
    simp [QuotedName.body]
  exact ⟨_, (congrArg Text.trim ends).trans (n.trim_append _)⟩

end Validation

end MailTemplate
