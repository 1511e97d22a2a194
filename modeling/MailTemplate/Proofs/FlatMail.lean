/-
Module: MailTemplate.Proofs.FlatMail
Purpose: Mails in which every directive is written on one level, and what the passes make of such
  directives.
Main exports: Text.isIdentifier, IsClause, FlatTag, FlatSegment, IsFlatMail, Preparable,
  FlatSegment.preparable, Preparable.keepsTags, Preparable.printed_copy
-/
import MailTemplate.Proofs.Keyed
import MailTemplate.Proofs.Settled

/-!
A mail is flat if its directives hold no braces and are print directives, placeholders, content
marks, loop tags or references, written without blanks but for the padding inside the braces and
behind the comma.

What the passes need to know about such directives is less than how they are written: a directive is
either keyed, or holds no comma, so that copying leaves it alone or makes it a number.  These are
the *preparable* segments.
-/

namespace MailTemplate

/-! ### Texts that can stand in quote marks -/

/-- Whether a character is no brace, quote mark or backslash. -/
def isQuotableCharacter (c : Char) : Bool :=
  c != '{' && c != '}' && !isQuote c && c != '\\'

/-- Whether a text holds no braces, quote marks or backslashes. -/
def Text.isQuotable (t : Text) : Bool :=
  t.all isQuotableCharacter

namespace Text

@[simp] theorem isQuotable_append (s t : Text) :
    isQuotable (s ++ t) = (isQuotable s && isQuotable t) :=
  List.all_append

@[simp] theorem isQuotable_cons (c : Char) (t : Text) :
    isQuotable (c :: t) = (isQuotableCharacter c && isQuotable t) := rfl

theorem isQuotable_iff {t : Text} : t.isQuotable = true ↔ ∀ c ∈ t, isQuotableCharacter c = true :=
  List.all_eq_true

/-- A text that may stand in a literal holds no brace, so it ends no directive. -/
theorem isBraceFree_of_isQuotable {t : Text} (quotable : t.isQuotable = true) :
    t.isBraceFree = true := by
  rw [isQuotable_iff] at quotable
  rw [isBraceFree_iff]
  exact ⟨fun inside => absurd (quotable _ inside) (by decide),
    fun inside => absurd (quotable _ inside) (by decide)⟩

/-- It holds no quote mark either, so the literal around it ends where it should. -/
theorem isUnquoted_of_isQuotable {t : Text} (quotable : t.isQuotable = true) :
    t.isUnquoted = true := by
  rw [isUnquoted_iff]
  intro c inside
  have all := isQuotable_iff.1 quotable c inside
  simp only [isQuotableCharacter, Bool.and_eq_true] at all
  simpa using all.1.2

theorem not_mem_of_isQuotable {t : Text} (quotable : t.isQuotable = true) {c : Char}
    (odd : isQuotableCharacter c = false) : c ∉ t := by
  intro inside
  rw [isQuotable_iff.1 quotable c inside] at odd
  exact absurd odd (by simp)

/-- Blanks may stand in a literal. -/
theorem isQuotable_of_isPadding {t : Text} (blank : t.isPadding = true) : t.isQuotable = true := by
  rw [isQuotable_iff]
  intro c inside
  have here := isPadding_iff.1 blank c inside
  by_contra odd
  have other {d : Char} (solid : isBlank d = false) : c ≠ d := by
    rintro rfl
    rw [here] at solid
    exact absurd solid (by simp)
  simp [isQuotableCharacter, isQuote_of_isBlank here, other (d := '{') (by decide),
    other (d := '}') (by decide), other (d := '\\') (by decide)] at odd

/-- So may the characters of a name. -/
theorem isQuotable_of_isVariableName {t : Text} (name : t.isVariableName = true) :
    t.isQuotable = true := by
  rw [isQuotable_iff]
  intro c inside
  by_contra odd
  have other {d : Char} (out : isVariableCharacter d = false) : c ≠ d := by
    rintro rfl
    exact not_mem_of_isVariableName name out inside
  simp [isQuotableCharacter, isUnquoted_iff.1 (isUnquoted_of_isVariableName name) c inside,
    other (d := '{') (by decide), other (d := '}') (by decide),
    other (d := '\\') (by decide)] at odd

end Text

/-- A literal between texts without quote marks is closed. -/
theorem Directive.closesQuotes_literal {front t back : Text} {quote : Char}
    (mark : isQuote quote = true) (plain : front.isQuotable = true) (inner : t.isQuotable = true)
    (unquoted : back.isUnquoted = true) :
    closesQuotes (front ++ quote :: (t ++ quote :: back)) = true := by
  have last {s : Text} (quotable : s.isQuotable = true) {c : Char} (solid : c ≠ '\\') :
      s.getLastD c ≠ '\\' := by
    intro slash
    rw [List.getLastD_eq_getLast?] at slash
    cases ends : s.getLast? with
    | none =>
        rw [ends] at slash
        exact solid slash
    | some d =>
        rw [ends] at slash
        exact Text.not_mem_of_isQuotable quotable (c := '\\') (by decide)
          (slash ▸ List.mem_of_getLast? ends)
  have other : quote ≠ '\\' := by
    rintro rfl
    exact absurd mark (by decide)
  have absent : quote ∉ t := by
    intro inside
    rw [Text.isUnquoted_iff.1 (Text.isUnquoted_of_isQuotable inner) quote inside] at mark
    exact absurd mark (by simp)
  have outside : ∀ q ∈ (none : Option Char), isQuote q = true := by simp
  have opens : quoteAfter none (front.getLastD '{') quote = some quote := by
    simp [quoteAfter, mark, last plain (by decide : '{' ≠ '\\'), -List.getLastD_eq_getLast?]
  have closes : quoteAfter (some quote) (t.getLastD quote) quote = none := by
    simp [quoteAfter, last inner other, -List.getLastD_eq_getLast?]
  rw [closesQuotes, quoteBehind_append,
    quoteBehind_unquoted outside (Text.isUnquoted_of_isQuotable plain), quoteBehind, opens,
    quoteBehind_append, quoteBehind_open absent, quoteBehind, closes,
    quoteBehind_unquoted outside unquoted]
  rfl

/-! ### Flat mails -/

/-- Whether a text is an identifier: letters, digits and underscores, the first no digit. -/
def Text.isIdentifier : Text → Bool
  | [] => false
  | c :: rest => (c.isAlpha || c == '_') && rest.all fun c => c.isAlphanum || c == '_'

/-- What stands behind the comma of a print directive: an identifier, a number or any other text
without quote marks, or a quoted literal. -/
inductive IsClause : Text → Prop where
  | bare {t : Text} (flat : t.isBraceFree = true) (unquoted : t.isUnquoted = true) : IsClause t
  | literal {quote : Char} {t : Text} (mark : isQuote quote = true) (inner : t.isQuotable = true) :
      IsClause (quote :: (t ++ [quote]))

/-- The directives of a flat mail, without their braces and the padding inside these. -/
inductive FlatTag : Text → Prop where
  /-- The name of a variable. -/
  | «variable» {name : Text} (identifier : name.isIdentifier = true)
      (free : name ∉ Directive.argumentWords) : FlatTag name
  /-- A key, perhaps with a plus sign, a comma and a clause. -/
  | keyed {name pad clause : Text} (plus : Bool) (identifier : name.isIdentifier = true)
      (blank : pad.isPadding = true) (valid : IsClause clause) :
      FlatTag (Directive.keyed [] name plus (pad ++ clause))
  /-- The old form of a name and a method. -/
  | piped {name method : Text} (identifier : name.isIdentifier = true)
      (flat : method.isBraceFree = true) (unquoted : method.isUnquoted = true)
      (plain : ',' ∉ method) : FlatTag (name ++ '|' :: method)
  /-- A placeholder, a content mark or the end of a loop. -/
  | word {w : Text} (known : w ∈ ["_index", "_index1", "content", "/loop"].map String.toList) :
      FlatTag w
  /-- The beginning of a loop, with any argument. -/
  | loop {gap argument : Text} (nonempty : gap ≠ []) (blank : gap.isPadding = true)
      (flat : argument.isBraceFree = true) (unquoted : argument.isUnquoted = true)
      (plain : ',' ∉ argument) (solid : argument.isPadding = false) :
      FlatTag ("loop".toList ++ (gap ++ argument))
  /-- A component, by its name. -/
  | reference {keyword gap name : Text} {quote : Char}
      (known : keyword ∈ ["include", "component"].map String.toList) (nonempty : gap ≠ [])
      (blank : gap.isPadding = true) (mark : isQuote quote = true) (inner : name.isQuotable = true)
      (plain : ',' ∉ name) : FlatTag (keyword ++ (gap ++ quote :: (name ++ [quote])))

/-- The segments of a flat mail. -/
inductive FlatSegment : Segment → Prop where
  | text {t : Text} (flat : t.isBraceFree = true) : FlatSegment (.text t)
  | directive {before tag after : Text} (front : before.isPadding = true) (valid : FlatTag tag)
      (back : after.isPadding = true) : FlatSegment (.directive (before ++ tag ++ after))

/-- Whether a text is a flat mail. -/
def IsFlatMail (t : Text) : Prop :=
  ∃ doc : Document, t = doc.raw ∧ ∀ segment ∈ doc, FlatSegment segment

/-! ### Preparable segments -/

/-- Segments that copying leaves alone, makes a number, or numbers the key of. -/
inductive Preparable : Segment → Prop where
  | text {t : Text} (flat : t.isBraceFree = true) : Preparable (.text t)
  /-- Without a comma there is no key.  A loop tag prints nothing. -/
  | bare {body : Text} (tidy : (Segment.directive body).isTidy = true) (plain : ',' ∉ body)
      (layout : (Segment.directive body).role.layout = none)
      (loops : Directive.isSilent body = false → LoopTag.pattern.valueOf? body = none) :
      Preparable (.directive body)
  | keyed {before name rest : Text} {plus : Bool} (blank : before.isPadding = true)
      (named : name.isVariableName = true)
      (tidy : (Segment.directive (Directive.keyed before name plus rest)).isTidy = true) :
      Preparable (.directive (Directive.keyed before name plus rest))

namespace Preparable

theorem isTidy {segment : Segment} (preparable : Preparable segment) : segment.isTidy = true := by
  cases preparable with
  | text flat => exact flat
  | bare tidy _ _ _ => exact tidy
  | keyed _ _ tidy => exact tidy

/-- A tidy directive holds no braces inside its own. -/
theorem flat_of_isTidy {body : Text} (tidy : (Segment.directive body).isTidy = true) :
    body.isBraceFree = true :=
  Segment.isFlat_of_isTidy tidy

theorem layout {segment : Segment} (preparable : Preparable segment) :
    segment.role.layout = none := by
  cases preparable with
  | text _ => rfl
  | bare _ _ layout _ => exact layout
  | keyed blank named tidy => rw [Segment.role_keyed blank named (flat_of_isTidy tidy)]

/-- A preparable directive prints nothing or has no role. -/
theorem role_of_not_silent {body : Text} (preparable : Preparable (.directive body))
    (speaks : Directive.isSilent body = false) : (Segment.directive body).role = {} := by
  generalize here : Segment.directive body = segment at preparable
  cases preparable with
  | text _ => exact absurd here (by simp)
  | bare tidy _ _ loops =>
      rw [Segment.directive.injEq] at here
      subst here
      exact Segment.role_of_not_silent (flat_of_isTidy tidy) speaks (loops speaks)
  | keyed blank named tidy => exact Segment.role_keyed blank named (flat_of_isTidy tidy)

/-- A copy of a preparable segment is the segment itself, or has no role. -/
theorem copy_cases {segment : Segment} (preparable : Preparable segment) (index : Nat) :
    Preparable (segment.copy index) ∧
      (segment.copy index = segment ∨
        (segment.copy index).role = {} ∧ segment.loopTag? = none) := by
  cases preparable with
  | text flat => exact ⟨.text flat, .inl rfl⟩
  | @bare body tidy plain layout loops =>
      cases read : IndexTag.pattern.valueOf? body with
      | some tag =>
          have other : (Segment.directive body).loopTag? = none :=
            IndexTag.loopTag_eq_none (flat_of_isTidy tidy) read
          rw [Segment.copy_of_placeholder read]
          exact ⟨.text (Text.isBraceFree_ofNat _), .inr ⟨rfl, other⟩⟩
      | none =>
          rw [Segment.copy_of_not_placeholder read, IndexedKey.renumber_of_not_mem plain]
          exact ⟨.bare tidy plain layout loops, .inl rfl⟩
  | @keyed before name rest plus blank named tidy =>
      have flat := flat_of_isTidy tidy
      have copied := Segment.isTidy_copy tidy index
      have other := congrArg Role.loop (Segment.role_keyed blank named flat)
      rw [Segment.copy_keyed blank named flat] at copied ⊢
      cases plus with
      | true =>
          have number := Text.isVariableName_numbered named (index + 1)
          exact ⟨.keyed rfl number copied,
            .inr ⟨Segment.role_keyed rfl number (flat_of_isTidy copied), other⟩⟩
      | false => exact ⟨.keyed blank named copied, .inl rfl⟩

/-- Copies of a segment that can be prepared can be prepared as well. -/
theorem copy {segment : Segment} (preparable : Preparable segment) (index : Nat) :
    Preparable (segment.copy index) :=
  (preparable.copy_cases index).1

/-- Copying touches neither loop tags nor what is no placeholder. -/
theorem keepsTags : KeepsTags Preparable where
  copy := fun preparable index => preparable.copy index
  idle := by
    intro segment preparable idle index
    rcases (preparable.copy_cases index).2 with same | ⟨role, _⟩
    · rw [same, idle]
    · exact congrArg Role.loop role
  tag := by
    intro segment preparable tag index
    rcases (preparable.copy_cases index).2 with same | ⟨_, idle⟩
    · exact same
    · exact absurd idle tag

/-- What a directive prints, its copies print. -/
theorem printed_copy {σ : Type} (resolver : Resolver σ) {body : Text}
    (preparable : Preparable (.directive body)) (speaks : Directive.isSilent body = false)
    (index : Nat) :
    resolver.printed ((Segment.directive body).copy index) =
      resolver.printed (.directive body) := by
  generalize here : Segment.directive body = segment at preparable
  cases preparable with
  | text _ => exact absurd here (by simp)
  | @bare body' tidy plain _ _ =>
      rw [Segment.directive.injEq] at here
      subst here
      have other := IndexTag.valueOf?_eq_none (flat_of_isTidy tidy) speaks
      rw [Segment.copy_of_not_placeholder other, IndexedKey.renumber_of_not_mem plain]
  | @keyed before name rest plus blank named tidy =>
      have number := Text.isVariableName_numbered named (index + 1)
      rw [Segment.copy_keyed blank named (flat_of_isTidy tidy)]
      cases plus with
      | false => rfl
      | true =>
          rw [if_pos rfl,
            Resolver.printed_of_not_silent (Directive.not_silent_keyed blank named true),
            Resolver.printed_of_not_silent (Directive.not_silent_keyed rfl number false),
            Directive.clause_keyed blank named, Directive.clause_keyed rfl number]

end Preparable

/-! ### The segments of flat mails are preparable -/

theorem Text.isVariableName_of_isIdentifier {t : Text} (identifier : t.isIdentifier = true) :
    t.isVariableName = true := by
  cases t with
  | nil => exact absurd identifier (by decide)
  | cons c rest =>
      rw [isIdentifier, Bool.and_eq_true, Bool.or_eq_true, List.all_eq_true] at identifier
      rw [isVariableName, Bool.and_eq_true, List.all_eq_true]
      refine ⟨rfl, fun d inside => ?_⟩
      rcases List.mem_cons.1 inside with rfl | inside
      · rcases identifier.1 with letter | underscore
        · exact isVariableCharacter_of_isAlphanum (by simp [Char.isAlphanum, letter])
        · rw [beq_iff_eq.1 underscore]
          decide
      · have usual := identifier.2 d inside
        simp only [Bool.or_eq_true] at usual
        rcases usual with usual | underscore
        · exact isVariableCharacter_of_isAlphanum usual
        · rw [beq_iff_eq.1 underscore]
          decide

/-- Blanks in front make no difference to the first word. -/
theorem Text.headWord_padding_append {pad : Text} (blank : pad.isPadding = true) (t : Text) :
    headWord (pad ++ t) = headWord t := by
  rw [headWord, headWord, trimStart_padding_append blank]

/-- A tidy directive without a comma is preparable if its first word begins no layout and no loop
that prints. -/
theorem Preparable.of_headWord {body : Text} (flat : body.isBraceFree = true)
    (closed : Directive.closesQuotes body = true) (plain : ',' ∉ body)
    (layout : Text.headWord body ≠ "layout".toList)
    (loops : Directive.isSilent body = true ∨
      Text.headWord body ≠ "loop".toList ∧ Text.headWord body ≠ "/loop".toList) :
    Preparable (.directive body) := by
  have tidy : (Segment.directive body).isTidy = true := by
    rw [Segment.isTidy, flat, closed]
    rfl
  refine .bare tidy plain ?_ fun speaks => ?_
  · cases read : (Reference.named "layout").valueOf? body with
    | none => exact read
    | some name =>
        have word := Reference.headWord_of_named (by decide) flat (fun _ => closed) read
        exact absurd word layout
  · rcases loops with silent | other
    · rw [silent] at speaks
      exact absurd speaks (by simp)
    · cases read : LoopTag.pattern.valueOf? body with
      | none => rfl
      | some tag =>
          rcases LoopTag.headWord_of_valueOf? flat read with same | same
          · exact absurd same other.1
          · exact absurd same other.2

namespace FlatTag

variable {before after : Text} (front : before.isPadding = true) (back : after.isPadding = true)

include front back

/-- A name alone is printed, unless it is one of the words that take an argument. -/
theorem preparable_variable {name : Text} (identifier : name.isIdentifier = true)
    (free : name ∉ Directive.argumentWords) :
    Preparable (.directive (before ++ name ++ after)) := by
  have named := Text.isVariableName_of_isIdentifier identifier
  have solid := Text.isSolidText_of_isVariableName named
  have quotable : Text.isQuotable (before ++ name ++ after) = true := by
    simp [Text.isQuotable_of_isPadding front, Text.isQuotable_of_isPadding back,
      Text.isQuotable_of_isVariableName named]
  have comma : ',' ∉ before ++ name ++ after := by
    simp [Text.not_mem_of_isPadding front, Text.not_mem_of_isPadding back,
      Text.not_mem_of_isVariableName named, show isBlank ',' = false by decide,
      show isVariableCharacter ',' = false by decide]
  have word : Text.headWord (before ++ name ++ after) = name := by
    rw [List.append_assoc, Text.headWord_padding_append front]
    apply Text.headWord_eq_of_padding solid back
    exact Text.trimStart_word_append solid (Text.ne_nil_of_isVariableName named) after
  refine .of_headWord (Text.isBraceFree_of_isQuotable quotable)
    (Directive.closesQuotes_of_isUnquoted (Text.isUnquoted_of_isQuotable quotable)) comma ?_
    (.inr ⟨?_, ?_⟩)
  · rintro same
    exact free (word ▸ same ▸ by decide)
  · rintro same
    exact free (word ▸ same ▸ by decide)
  · rintro same
    have slash : '/' ∈ name := by
      rw [← word, same]
      decide
    exact Text.not_mem_of_isVariableName named (by decide) slash

/-- A keyed directive is printed after its loop has given it a number, if there is one. -/
theorem preparable_keyed {name pad clause : Text} (plus : Bool)
    (identifier : name.isIdentifier = true) (blank : pad.isPadding = true)
    (valid : IsClause clause) :
    Preparable (.directive (before ++ Directive.keyed [] name plus (pad ++ clause) ++ after)) := by
  have named := Text.isVariableName_of_isIdentifier identifier
  have whole : before ++ Directive.keyed [] name plus (pad ++ clause) ++ after =
      Directive.keyed before name plus (pad ++ clause ++ after) := by
    simp [Directive.keyed]
  have key : Text.isQuotable (before ++ (name ++ (if plus then ['+'] else []) ++ ',' :: pad)) =
      true := by
    have sign : Text.isQuotable (if plus then ['+'] else []) = true := by cases plus <;> decide
    have comma : isQuotableCharacter ',' = true := by decide
    simp only [Text.isQuotable_append, Text.isQuotable_cons, Text.isQuotable_of_isPadding front,
      Text.isQuotable_of_isPadding blank, Text.isQuotable_of_isVariableName named, sign, comma,
      Bool.and_self]
  have regroup : Directive.keyed before name plus (pad ++ clause ++ after) =
      before ++ (name ++ (if plus then ['+'] else []) ++ ',' :: pad) ++ (clause ++ after) := by
    simp [Directive.keyed]
  have tail := Text.isQuotable_of_isPadding back
  rw [whole]
  apply Preparable.keyed front named
  generalize before ++ (name ++ (if plus then ['+'] else []) ++ ',' :: pad) = label at key regroup
  rw [Segment.isTidy, regroup, Bool.and_eq_true, Text.isBraceFree_append, Text.isBraceFree_append,
    Text.isBraceFree_of_isQuotable key, Text.isBraceFree_of_isQuotable tail]
  cases valid with
  | bare flat unquoted =>
      refine ⟨by simp [flat], Directive.closesQuotes_of_isUnquoted ?_⟩
      rw [Text.isUnquoted, List.all_append, List.all_append, Bool.and_eq_true, Bool.and_eq_true]
      exact ⟨Text.isUnquoted_of_isQuotable key, unquoted, Text.isUnquoted_of_isQuotable tail⟩
  | @literal quote t mark inner =>
      have closed := Directive.closesQuotes_literal mark key inner
        (Text.isUnquoted_of_isQuotable tail)
      refine ⟨?_, by simpa using closed⟩
      have flat := Text.isBraceFree_of_isQuotable inner
      rcases isQuote_iff.1 mark with rfl | rfl <;> simp [flat]

/-- What stands behind a bar is ignored, so it may be any text without quote marks and commas. -/
theorem preparable_piped {name method : Text} (identifier : name.isIdentifier = true)
    (flat : method.isBraceFree = true) (unquoted : method.isUnquoted = true)
    (plain : ',' ∉ method) :
    Preparable (.directive (before ++ (name ++ '|' :: method) ++ after)) := by
  have named := Text.isVariableName_of_isIdentifier identifier
  have bar : '|' ∈ Text.headWord (before ++ (name ++ '|' :: method) ++ after) := by
    have solid : Text.isSolidText (name ++ ['|']) = true := by
      rw [Text.isSolidText, List.all_append, Bool.and_eq_true]
      exact ⟨Text.isSolidText_of_isVariableName named, by decide⟩
    have start : Text.trimStart (name ++ '|' :: method ++ after) =
        name ++ ['|'] ++ (method ++ after) := by
      have whole := Text.trimStart_word_append solid (by simp) (method ++ after)
      simpa using whole
    rw [List.append_assoc, Text.headWord_padding_append front, Text.headWord_eq_append solid start]
    simp
  have other {w : Text} (without : '|' ∉ w) :
      Text.headWord (before ++ (name ++ '|' :: method) ++ after) ≠ w :=
    fun same => without (same ▸ bar)
  have head := Text.isQuotable_of_isPadding front
  have tail := Text.isQuotable_of_isPadding back
  have key := Text.isQuotable_of_isVariableName named
  refine .of_headWord ?_ (Directive.closesQuotes_of_isUnquoted ?_) ?_ (other (by decide))
    (.inr ⟨other (by decide), other (by decide)⟩)
  · simp [Text.isBraceFree_of_isQuotable head, Text.isBraceFree_of_isQuotable tail,
      Text.isBraceFree_of_isQuotable key, flat]
  · simp only [Text.isUnquoted, List.all_append, List.all_cons, Bool.and_eq_true]
    exact ⟨⟨Text.isUnquoted_of_isQuotable head, Text.isUnquoted_of_isQuotable key, by decide,
      unquoted⟩, Text.isUnquoted_of_isQuotable tail⟩
  · simp [Text.not_mem_of_isPadding front, Text.not_mem_of_isPadding back,
      Text.not_mem_of_isVariableName named, plain, show isBlank ',' = false by decide,
      show isVariableCharacter ',' = false by decide]

/-- Placeholders and closers stand alone in their braces. -/
theorem preparable_word {w : Text}
    (known : w ∈ ["_index", "_index1", "content", "/loop"].map String.toList) :
    Preparable (.directive (before ++ w ++ after)) := by
  have words : ∀ w : Text, w ∈ ["_index", "_index1", "content", "/loop"].map String.toList →
      w.isSolidText = true ∧ w.isQuotable = true ∧ ',' ∉ w ∧ w ≠ "layout".toList ∧
        w ∈ Directive.loneWords ++ Directive.closerWords := by decide
  obtain ⟨solid, quotable, comma, other, grammar⟩ := words w known
  have all : Text.isQuotable (before ++ w ++ after) = true := by
    simp [Text.isQuotable_of_isPadding front, Text.isQuotable_of_isPadding back, quotable]
  have trimmed : Text.trim (before ++ w ++ after) = w := by
    rw [Text.trim_padded front back, Text.trim_of_solid solid]
  have silent : Directive.isSilent (before ++ w ++ after) = true := by
    rcases List.mem_append.1 grammar with lone | closer
    · exact Directive.isSilent_of_loneWord (trimmed.symm ▸ lone)
    · exact Directive.isSilent_of_closerWord (trimmed.symm ▸ closer)
  refine .of_headWord (Text.isBraceFree_of_isQuotable all)
    (Directive.closesQuotes_of_isUnquoted (Text.isUnquoted_of_isQuotable all)) ?_ ?_ (.inl silent)
  · simp [Text.not_mem_of_isPadding front, Text.not_mem_of_isPadding back, comma,
      show isBlank ',' = false by decide]
  · have whole : w.takeWhile (fun c => !isBlank c) = w := by
      rw [List.takeWhile_eq_self_iff]
      simpa [Text.isSolidText_iff] using solid
    rw [Text.headWord_eq_takeWhile, trimmed, whole]
    exact other

/-- A word of the grammar, a gap and an argument are preparable. -/
theorem preparable_argument {word gap argument : Text}
    (known : word ∈ ["loop", "include", "component"].map String.toList) (nonempty : gap ≠ [])
    (blank : gap.isPadding = true) (solid : argument.isPadding = false) (plain : ',' ∉ argument)
    (flat : argument.isBraceFree = true)
    (closed : Directive.closesQuotes (before ++ (word ++ (gap ++ argument)) ++ after) = true) :
    Preparable (.directive (before ++ (word ++ (gap ++ argument)) ++ after)) := by
  have words : ∀ w : Text, w ∈ ["loop", "include", "component"].map String.toList →
      w.isSolidText = true ∧ w.isQuotable = true ∧ ',' ∉ w ∧ w ≠ "layout".toList ∧ w ≠ [] ∧
        w ∈ Directive.argumentWords := by decide
  obtain ⟨solidWord, quotable, comma, other, someWord, grammar⟩ := words word known
  obtain ⟨c, gap, rfl⟩ := List.exists_cons_of_ne_nil nonempty
  have blankFirst := Text.isPadding_iff.1 blank c List.mem_cons_self
  have start : Text.trimStart (before ++ (word ++ (c :: gap ++ argument)) ++ after) =
      word ++ c :: (gap ++ argument ++ after) := by
    rw [List.append_assoc, Text.trimStart_padding_append front, List.append_assoc,
      Text.trimStart_word_append solidWord someWord]
    simp
  obtain ⟨d, inside, letter⟩ : ∃ d ∈ argument, isBlank d = false := by
    simpa [Text.isPadding] using solid
  have silent := Directive.isSilent_of_argument grammar start blankFirst
    (List.mem_append_left after (List.mem_append_right gap inside)) letter
  refine .of_headWord ?_ closed ?_ ?_ (.inl silent)
  · simp only [Text.isBraceFree_append, Bool.and_eq_true]
    exact ⟨⟨Text.isBraceFree_of_isQuotable (Text.isQuotable_of_isPadding front),
      Text.isBraceFree_of_isQuotable quotable,
      Text.isBraceFree_of_isQuotable (Text.isQuotable_of_isPadding blank), flat⟩,
      Text.isBraceFree_of_isQuotable (Text.isQuotable_of_isPadding back)⟩
  · have clear : ',' ∉ c :: gap := Text.not_mem_of_isPadding blank (by decide)
    simp only [List.mem_append, not_or]
    exact ⟨⟨Text.not_mem_of_isPadding front (by decide), comma, clear, plain⟩,
      Text.not_mem_of_isPadding back (by decide)⟩
  · rw [Text.headWord_eq solidWord blankFirst start]
    exact other

/-- Every shape of a flat tag can be prepared, with blanks around it. -/
theorem preparable {tag : Text} (valid : FlatTag tag) :
    Preparable (.directive (before ++ tag ++ after)) := by
  have head := Text.isQuotable_of_isPadding front
  have tail := Text.isUnquoted_of_isQuotable (Text.isQuotable_of_isPadding back)
  cases valid with
  | «variable» identifier free => exact preparable_variable front back identifier free
  | keyed plus identifier blank valid =>
      exact preparable_keyed front back plus identifier blank valid
  | piped identifier flat unquoted plain =>
      exact preparable_piped front back identifier flat unquoted plain
  | word known => exact preparable_word front back known
  | @loop gap argument nonempty blank flat unquoted plain solid =>
      refine preparable_argument front back (by decide) nonempty blank solid plain flat
        (Directive.closesQuotes_of_isUnquoted ?_)
      simp only [Text.isUnquoted, List.all_append, Bool.and_eq_true]
      exact ⟨⟨Text.isUnquoted_of_isQuotable head, by decide,
        Text.isUnquoted_of_isQuotable (Text.isQuotable_of_isPadding blank), unquoted⟩, tail⟩
  | @reference keyword gap name quote known nonempty blank mark inner plain =>
      have words : ∀ w : Text, w ∈ ["include", "component"].map String.toList →
          w.isQuotable = true ∧ w ∈ ["loop", "include", "component"].map String.toList := by decide
      have lead : Text.isQuotable (before ++ (keyword ++ gap)) = true := by
        simp [head, (words keyword known).1, Text.isQuotable_of_isPadding blank]
      have closed := Directive.closesQuotes_literal mark lead inner tail
      refine preparable_argument front back (words keyword known).2 nonempty blank ?_ ?_ ?_
        (by simpa using closed)
      · rcases isQuote_iff.1 mark with rfl | rfl <;> rfl
      · rcases isQuote_iff.1 mark with rfl | rfl <;> simp [plain]
      · rcases isQuote_iff.1 mark with rfl | rfl <;> simp [Text.isBraceFree_of_isQuotable inner]

end FlatTag

theorem FlatSegment.preparable {segment : Segment} (flat : FlatSegment segment) :
    Preparable segment := by
  cases flat with
  | text flat => exact .text flat
  | directive front valid back => exact valid.preparable front back

end MailTemplate
