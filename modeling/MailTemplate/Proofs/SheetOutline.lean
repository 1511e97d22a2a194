/-
Module: MailTemplate.Proofs.SheetOutline
Purpose: Style sheets as trees of rules and at-rules, and the rules that are read off them.
Main exports: SheetOutline, SheetOutline.exposed, AtRule.blockRestOnto_raw, SheetOutline.erase_raw,
  SheetOutline.rulesOf_residue, SheetOutline.sheetRules_raw
-/
import Mathlib.Data.List.Chain
import MailTemplate.Proofs.Cascade

/-!
An outline is a style sheet as a tree: a row of rules and at-rules, where the block of an at-rule is
such a row again.  The reader of style sheets knows nothing of trees.  It takes out at-rules whose
blocks nest no deeper than a rule in a block, and then looks for selectors and a block of
declarations wherever they stand.

So an at-rule that nests deeper is not taken out, only what can be taken out inside it.  `exposed`
lists the rules that are left to be read: those outside all at-rules, and those in at-rules that
nest too deep.
-/

namespace MailTemplate

/-- A style sheet as a row of rules and at-rules; the blocks of at-rules are such rows. -/
inductive SheetOutline where
  | nil
  | blank (pad : Text) (rest : SheetOutline)
  | rule (selectors declarations : Text) (rest : SheetOutline)
  /-- An at-rule that a semicolon ends. -/
  | statement (prelude : Text) (rest : SheetOutline)
  /-- An at-rule with a block. -/
  | block (prelude : Text) (inner rest : SheetOutline)
deriving Repr, DecidableEq

/-- No slash stands in front of a star. -/
def Text.HasNoComment (t : Text) : Prop :=
  t.IsChain fun c d => ¬ (c = '/' ∧ d = '*')

instance (t : Text) : Decidable t.HasNoComment :=
  inferInstanceAs (Decidable (t.IsChain _))

/-- What may be written in a rule: no braces, at signs or comments. -/
def Text.IsRuleText (t : Text) : Prop :=
  (∀ c ∈ t, StyleRule.isPlain c = true) ∧ '@' ∉ t ∧ t.HasNoComment

instance (t : Text) : Decidable t.IsRuleText :=
  have : Decidable (∀ c ∈ t, StyleRule.isPlain c = true) := List.decidableBAll _ t
  inferInstanceAs (Decidable (_ ∧ _ ∧ _))

/-- What may be written as a prelude: no braces, semicolons or comments, not even in quotes. -/
def Text.IsPreludeText (t : Text) : Prop :=
  t ≠ [] ∧ (∀ c ∈ t, AtRule.isPrelude c = true) ∧ t.HasNoComment

instance (t : Text) : Decidable t.IsPreludeText :=
  have : Decidable (∀ c ∈ t, AtRule.isPrelude c = true) := List.decidableBAll _ t
  inferInstanceAs (Decidable (_ ∧ _ ∧ _))

namespace SheetOutline

/-- A style sheet as it is written. -/
def raw : SheetOutline → Text
  | .nil => []
  | .blank pad rest => pad ++ rest.raw
  | .rule selectors declarations rest => selectors ++ '{' :: (declarations ++ '}' :: rest.raw)
  | .statement prelude rest => '@' :: (prelude ++ ';' :: rest.raw)
  | .block prelude inner rest => '@' :: (prelude ++ '{' :: (inner.raw ++ '}' :: rest.raw))

/-- A statement ends with its semicolon, and what comes behind follows. -/
theorem raw_statement_append (prelude : Text) (rest : SheetOutline) (t : Text) :
    (statement prelude rest).raw ++ t = '@' :: prelude ++ [';'] ++ (rest.raw ++ t) := by
  simp [raw]

/-- A block holds its inner sheet between its braces, and what comes behind follows. -/
theorem raw_block_append (prelude : Text) (inner rest : SheetOutline) (t : Text) :
    (block prelude inner rest).raw ++ t =
      '@' :: prelude ++ '{' :: (inner.raw ++ '}' :: (rest.raw ++ t)) := by
  simp [raw]

/-- How deep the braces of a row are nested. -/
def height : SheetOutline → Nat
  | .nil => 0
  | .blank _ rest => rest.height
  | .rule _ _ rest => max 1 rest.height
  | .statement _ rest => rest.height
  | .block _ inner rest => max (inner.height + 1) rest.height

/-- What the parts of a style sheet may hold. -/
def IsWellFormed : SheetOutline → Prop
  | .nil => True
  | .blank pad rest => pad.isPadding = true ∧ rest.IsWellFormed
  | .rule selectors declarations rest =>
      selectors.IsRuleText ∧ declarations.IsRuleText ∧ rest.IsWellFormed
  | .statement prelude rest => prelude.IsPreludeText ∧ rest.IsWellFormed
  | .block prelude inner rest => prelude.IsPreludeText ∧ inner.IsWellFormed ∧ rest.IsWellFormed

instance : (sheet : SheetOutline) → Decidable sheet.IsWellFormed
  | .nil => .isTrue trivial
  | .blank _ rest | .rule _ _ rest | .statement _ rest =>
      have := instDecidableIsWellFormed rest
      inferInstanceAs (Decidable (_ ∧ _))
  | .block _ inner rest =>
      have := instDecidableIsWellFormed inner
      have := instDecidableIsWellFormed rest
      inferInstanceAs (Decidable (_ ∧ _ ∧ _))

/-- The rules that stand outside all at-rules, by their selectors and declarations. -/
def rules : SheetOutline → List (Text × Text)
  | .nil => []
  | .blank _ rest => rest.rules
  | .rule selectors declarations rest => (selectors, declarations) :: rest.rules
  | .statement _ rest => rest.rules
  | .block _ _ rest => rest.rules

/-- The rules that stand in no at-rule with at most two levels of braces. -/
def exposed : SheetOutline → List (Text × Text)
  | .nil => []
  | .blank _ rest => rest.exposed
  | .rule selectors declarations rest => (selectors, declarations) :: rest.exposed
  | .statement _ rest => rest.exposed
  | .block _ inner rest => (if inner.height ≤ 1 then [] else inner.exposed) ++ rest.exposed

/-- What is left of a style sheet when at-rules are taken out. -/
def residue : SheetOutline → Text
  | .nil => []
  | .blank pad rest => pad ++ rest.residue
  | .rule selectors declarations rest => selectors ++ '{' :: (declarations ++ '}' :: rest.residue)
  | .statement _ rest => rest.residue
  | .block prelude inner rest =>
      if inner.height ≤ 1 then rest.residue
      else '@' :: (prelude ++ '{' :: (inner.residue ++ '}' :: rest.residue))

end SheetOutline

/-! ### Comments -/

namespace Text

/-- A comment begins with a slash alone. -/
theorem hasNoComment_cons {c : Char} (other : c ≠ '/') {t : Text} (clear : t.HasNoComment) :
    HasNoComment (c :: t) :=
  List.isChain_cons.2 ⟨fun _ _ both => other both.1, clear⟩

/-- No comment arises at a seam that ends in neither a slash nor a star. -/
theorem hasNoComment_append_cons {s t : Text} {c : Char} (slash : c ≠ '/') (star : c ≠ '*')
    (first : s.HasNoComment) (second : t.HasNoComment) : HasNoComment (s ++ c :: t) := by
  refine List.isChain_append.2 ⟨first, hasNoComment_cons slash second, ?_⟩
  intro _ _ d head both
  exact star (both.2 ▸ Option.some.inj head)

/-- Padding begins no comment. -/
theorem hasNoComment_padding_append {pad t : Text} (blank : pad.isPadding = true)
    (clear : t.HasNoComment) : HasNoComment (pad ++ t) := by
  induction pad with
  | nil => exact clear
  | cons c pad ih =>
      rw [isPadding, List.all_cons, Bool.and_eq_true] at blank
      have other : c ≠ '/' := by
        rintro rfl
        exact absurd blank.1 (by decide)
      exact hasNoComment_cons other (ih blank.2)

end Text

namespace StyleSheet

/-- Where there is no comment, none is read. -/
theorem read_comment_eq_none {t : Text} (clear : t.HasNoComment) : comment.read t = none := by
  have head : Text.dropPrefix? ['/', '*'] t = none := by
    match t with
    | [] | [_] => simp [Text.dropPrefix?]
    | c :: d :: t =>
        have apart := (List.isChain_cons_cons.1 clear).1
        simp only [Text.dropPrefix?]
        split
        · split
          · exact absurd ⟨Eq.symm ‹_›, Eq.symm ‹_›⟩ apart
          · rfl
        · rfl
  simp only [comment, Pattern.block, Shape.pattern, Shape.take?, Part.take?, head, Option.map_none]

/-- A text without comments is left as it is. -/
theorem erase_comment {t : Text} (clear : t.HasNoComment) : comment.erase t = t := by
  induction t with
  | nil => rfl
  | cons c t ih =>
      rw [Pattern.erase_of_not_read (read_comment_eq_none clear),
        ih (List.isChain_cons.1 clear).2]

end StyleSheet

namespace SheetOutline

/-- No comment arises where the parts of a sheet meet. -/
theorem hasNoComment_raw {sheet : SheetOutline} (valid : sheet.IsWellFormed) :
    sheet.raw.HasNoComment := by
  induction sheet with
  | nil => exact .nil
  | blank pad rest ih => exact Text.hasNoComment_padding_append valid.1 (ih valid.2)
  | rule selectors declarations rest ih =>
      exact Text.hasNoComment_append_cons (by decide) (by decide) valid.1.2.2
        (Text.hasNoComment_append_cons (by decide) (by decide) valid.2.1.2.2 (ih valid.2.2))
  | statement prelude rest ih =>
      exact Text.hasNoComment_cons (by decide) (Text.hasNoComment_append_cons (by decide)
        (by decide) valid.1.2.2 (ih valid.2))
  | block prelude inner rest ihInner ihRest =>
      exact Text.hasNoComment_cons (by decide) (Text.hasNoComment_append_cons (by decide)
        (by decide) valid.1.2.2 (Text.hasNoComment_append_cons (by decide) (by decide)
          (ihInner valid.2.1) (ihRest valid.2.2)))

end SheetOutline

/-! ### Blocks of at-rules -/

namespace AtRule

/-- Plain characters are taken one after another, inside of a rule and outside. -/
theorem blockRestOnto_plain {s : Text} (plain : ∀ c ∈ s, StyleRule.isPlain c = true) (taken : Text)
    (inner : Bool) (t : Text) :
    blockRestOnto taken inner (s ++ t) = blockRestOnto (s.reverse ++ taken) inner t := by
  induction s generalizing taken with
  | nil => rfl
  | cons c s ih =>
      have own := plain c List.mem_cons_self
      simp only [StyleRule.isPlain, Bool.and_eq_true, bne_iff_ne] at own
      rw [List.cons_append, blockRestOnto]
      simp only [beq_iff_eq, own, if_false]
      rw [ih fun d inside => plain d (List.mem_cons_of_mem c inside)]
      simp

/-- Outside of a rule, an opening brace begins one. -/
theorem blockRestOnto_opening (taken t : Text) :
    blockRestOnto taken false ('{' :: t) = blockRestOnto ('{' :: taken) true t := rfl

/-- Inside of a rule, a closing brace ends it. -/
theorem blockRestOnto_closing (taken t : Text) :
    blockRestOnto taken true ('}' :: t) = blockRestOnto ('}' :: taken) false t := rfl

/-- The characters of a prelude are plain. -/
theorem isPlain_of_isPrelude {c : Char} (own : isPrelude c = true) :
    StyleRule.isPlain c = true := by
  simp only [isPrelude, Bool.and_eq_true] at own
  simp only [StyleRule.isPlain, Bool.and_eq_true]
  exact own.1

/-- Blanks are plain. -/
theorem isPlain_of_isPadding {pad : Text} (blank : pad.isPadding = true) :
    ∀ c ∈ pad, StyleRule.isPlain c = true := by
  intro c inside
  have own := Text.isPadding_iff.1 blank c inside
  have one : c ≠ '{' := by
    rintro rfl
    exact absurd own (by decide)
  have two : c ≠ '}' := by
    rintro rfl
    exact absurd own (by decide)
  simp [StyleRule.isPlain, one, two]

/-- The head of an at-rule is plain. -/
theorem isPlain_head {prelude : Text} (valid : prelude.IsPreludeText) :
    ∀ c ∈ '@' :: prelude, StyleRule.isPlain c = true :=
  List.forall_mem_cons.2 ⟨rfl, fun c inside => isPlain_of_isPrelude (valid.2.1 c inside)⟩

/-- A row whose braces are nested no deeper than is left open to it is read to its end. -/
theorem blockRestOnto_raw {sheet : SheetOutline} (valid : sheet.IsWellFormed) (inner : Bool)
    (low : sheet.height ≤ if inner then 0 else 1) (taken t : Text) :
    blockRestOnto taken inner (sheet.raw ++ t) =
      blockRestOnto (sheet.raw.reverse ++ taken) inner t := by
  induction sheet generalizing inner taken t with
  | nil => rfl
  | blank pad rest ih =>
      rw [SheetOutline.raw, List.append_assoc, blockRestOnto_plain (isPlain_of_isPadding valid.1),
        ih valid.2 _ low]
      simp
  | rule selectors declarations rest ih =>
      have bounds := Nat.max_le.1 low
      cases inner with
      | true => exact absurd bounds.1 (by simp)
      | false =>
          simp only [SheetOutline.raw, List.append_assoc, List.cons_append]
          rw [blockRestOnto_plain valid.1.1, blockRestOnto_opening,
            blockRestOnto_plain valid.2.1.1, blockRestOnto_closing, ih valid.2.2 _ bounds.2]
          simp
  | statement prelude rest ih =>
      have plain : ∀ c ∈ '@' :: prelude ++ [';'], StyleRule.isPlain c = true :=
        List.forall_mem_append.2 ⟨isPlain_head valid.1, List.forall_mem_singleton.2 rfl⟩
      rw [SheetOutline.raw_statement_append, blockRestOnto_plain plain, ih valid.2 _ low]
      simp [SheetOutline.raw]
  | block prelude body rest ihBody ihRest =>
      have bounds := Nat.max_le.1 low
      cases inner with
      | true => exact absurd bounds.1 (by simp)
      | false =>
          have flat : body.height ≤ 0 := by simpa using bounds.1
          rw [SheetOutline.raw_block_append, blockRestOnto_plain (isPlain_head valid.1),
            blockRestOnto_opening,
            ihBody valid.2.1 true flat, blockRestOnto_closing, ihRest valid.2.2 _ bounds.2]
          simp [SheetOutline.raw]

/-- In a row whose braces are nested deeper the reader meets one brace too many. -/
theorem blockRestOnto_eq_none {sheet : SheetOutline} (valid : sheet.IsWellFormed) (inner : Bool)
    (high : (if inner then 0 else 1) < sheet.height) (taken t : Text) :
    blockRestOnto taken inner (sheet.raw ++ t) = none := by
  induction sheet generalizing inner taken t with
  | nil => exact absurd high (by simp [SheetOutline.height])
  | blank pad rest ih =>
      rw [SheetOutline.raw, List.append_assoc, blockRestOnto_plain (isPlain_of_isPadding valid.1),
        ih valid.2 _ high]
  | rule selectors declarations rest ih =>
      simp only [SheetOutline.raw, List.append_assoc, List.cons_append]
      rw [blockRestOnto_plain valid.1.1]
      cases inner with
      | true => rfl
      | false =>
          have bound : 1 < max 1 rest.height := high
          have behind : 1 < rest.height := by omega
          rw [blockRestOnto_opening, blockRestOnto_plain valid.2.1.1, blockRestOnto_closing,
            ih valid.2.2 false behind]
  | statement prelude rest ih =>
      have plain : ∀ c ∈ '@' :: prelude ++ [';'], StyleRule.isPlain c = true :=
        List.forall_mem_append.2 ⟨isPlain_head valid.1, List.forall_mem_singleton.2 rfl⟩
      rw [SheetOutline.raw_statement_append, blockRestOnto_plain plain, ih valid.2 _ high]
  | block prelude body rest ihBody ihRest =>
      rw [SheetOutline.raw_block_append, blockRestOnto_plain (isPlain_head valid.1)]
      cases inner with
      | true => rfl
      | false =>
          rw [blockRestOnto_opening]
          by_cases flat : body.height ≤ 0
          · have bound : 1 < max (body.height + 1) rest.height := high
            have behind : 1 < rest.height := by omega
            rw [blockRestOnto_raw valid.2.1 true flat, blockRestOnto_closing,
              ihRest valid.2.2 false behind]
          · exact ihBody valid.2.1 true (Nat.lt_of_not_le flat) _ _

/-! ### Taking at-rules out -/

/-- An at-rule begins with its sign. -/
theorem read_cons {c : Char} (other : c ≠ '@') (t : Text) : pattern.read (c :: t) = none := by
  simp [pattern, Pattern.followedBy, head, Shape.pattern, Shape.take?, Part.take?,
    Text.dropPrefix?, Ne.symm other]

/-- What the prelude of an at-rule is followed by decides whether it is one. -/
theorem read_prelude {prelude : Text} (nonempty : prelude ≠ [])
    (all : ∀ c ∈ prelude, isPrelude c = true) {stop : Char} (ends : isPrelude stop = false)
    (t : Text) :
    pattern.read ('@' :: (prelude ++ stop :: t)) = (tail.read (stop :: t)).map fun found =>
      (⟨'@' :: prelude ++ found.1.raw, ((), ())⟩, found.2) := by
  have run := Part.take?_atLeastOne nonempty all ends t
  have begins : head.read ('@' :: (prelude ++ stop :: t)) =
      some (⟨'@' :: prelude, ()⟩, stop :: t) := by
    have sign : Part.take? (.word ['@']) ('@' :: (prelude ++ stop :: t)) =
        some (['@'], prelude ++ stop :: t) := Part.take?_word_append ['@'] _
    simp [head, Shape.pattern, Shape.take?, sign, run]
  simp only [pattern, Pattern.followedBy, begins]
  cases tail.read (stop :: t) <;> rfl

/-- A text without that sign is kept. -/
theorem erase_append {s : Text} (clear : '@' ∉ s) (t : Text) :
    pattern.erase (s ++ t) = s ++ pattern.erase t := by
  induction s with
  | nil => rfl
  | cons c s ih =>
      rw [List.mem_cons, not_or] at clear
      rw [List.cons_append, Pattern.erase_of_not_read (read_cons (Ne.symm clear.1) _), ih clear.2]
      rfl

/-- Behind a prelude and an opening brace, the rest of the block is read. -/
theorem tail_read_opening (t : Text) :
    tail.read ('{' :: t) = (blockRestOnto [] false t).map fun found =>
      (⟨'{' :: found.1, ()⟩, found.2) := by
  rfl

/-- A prelude stays as it is if what stands behind it is no block, and so does any part at its end:
an at sign inside a prelude is read with the same block. -/
theorem erase_prelude {prelude : Text} (all : ∀ c ∈ prelude, isPrelude c = true) {t : Text}
    (nested : blockRestOnto [] false t = none) :
    pattern.erase (prelude ++ '{' :: t) = prelude ++ '{' :: pattern.erase t := by
  induction prelude with
  | nil => exact Pattern.erase_of_not_read (read_cons (by decide) t)
  | cons c prelude ih =>
      have behind := fun d inside => all d (List.mem_cons_of_mem c inside)
      have unread : pattern.read (c :: (prelude ++ '{' :: t)) = none := by
        by_cases sign : c = '@'
        · subst sign
          cases prelude with
          | nil => simp [pattern, Pattern.followedBy, head, Shape.pattern, Shape.take?, Part.take?,
              Text.dropPrefix?, Text.takeRun, isPrelude]
          | cons d prelude =>
              rw [read_prelude (by simp) behind (by decide), tail_read_opening, nested]
              rfl
        · exact read_cons sign _
      rw [List.cons_append, Pattern.erase_of_not_read unread, ih behind]
      rfl

/-- Taking at-rules out leaves the rules, and the at-rules whose blocks nest too deep. -/
theorem erase_raw {sheet : SheetOutline} (valid : sheet.IsWellFormed) (t : Text) :
    pattern.erase (sheet.raw ++ t) = sheet.residue ++ pattern.erase t := by
  induction sheet generalizing t with
  | nil => rfl
  | blank pad rest ih =>
      have clear : '@' ∉ pad := Text.not_mem_of_isPadding valid.1 (by decide)
      rw [SheetOutline.raw, SheetOutline.residue, List.append_assoc, erase_append clear,
        ih valid.2, List.append_assoc]
  | rule selectors declarations rest ih =>
      have clear : '@' ∉ selectors ++ '{' :: (declarations ++ ['}']) := by
        simp [valid.1.2.1, valid.2.1.2.1]
      have whole : (SheetOutline.rule selectors declarations rest).raw ++ t =
          selectors ++ '{' :: (declarations ++ ['}']) ++ (rest.raw ++ t) := by
        simp [SheetOutline.raw]
      rw [whole, erase_append clear, ih valid.2.2]
      simp [SheetOutline.residue]
  | statement prelude rest ih =>
      have read := read_prelude valid.1.1 valid.1.2.1 (by decide : isPrelude ';' = false)
        (rest.raw ++ t)
      have whole : (SheetOutline.statement prelude rest).raw ++ t =
          '@' :: (prelude ++ ';' :: (rest.raw ++ t)) := by
        simp [SheetOutline.raw]
      rw [whole, Pattern.erase_of_read (read.trans rfl), ih valid.2]
      rfl
  | block prelude body rest ihBody ihRest =>
      rw [SheetOutline.raw_block_append, SheetOutline.residue]
      split
      · rename_i low
        -- The closing brace of the block ends the at-rule.
        have ends : blockRestOnto [] false (body.raw ++ '}' :: (rest.raw ++ t)) =
            some (body.raw ++ ['}'], rest.raw ++ t) := by
          rw [blockRestOnto_raw valid.2.1 false low]
          simp [blockRestOnto]
        have read := read_prelude valid.1.1 valid.1.2.1 (by decide : isPrelude '{' = false)
          (body.raw ++ '}' :: (rest.raw ++ t))
        rw [tail_read_opening, ends] at read
        rw [List.cons_append, Pattern.erase_of_read read, ihRest valid.2.2]
      · rename_i high
        have nested : blockRestOnto [] false (body.raw ++ '}' :: (rest.raw ++ t)) = none :=
          blockRestOnto_eq_none valid.2.1 false (Nat.lt_of_not_le high) _ _
        have all : ∀ c ∈ '@' :: prelude, isPrelude c = true :=
          List.forall_mem_cons.2 ⟨rfl, valid.1.2.1⟩
        rw [erase_prelude all nested, ihBody valid.2.1,
          Pattern.erase_of_not_read (read_cons (by decide) _), ihRest valid.2.2]
        simp

end AtRule

/-! ### Reading rules -/

namespace StyleRule

/-- The rules read off a text without comments and at-rules. -/
def rulesOf (t : Text) : List StyleRule :=
  (pattern.hits t).flatMap fun hit => expand hit.value.1 hit.value.2

/-- A character at which no rule is read says nothing. -/
theorem rulesOf_of_not_read {c : Char} {t : Text} (unread : pattern.read (c :: t) = none) :
    rulesOf (c :: t) = rulesOf t := by
  rw [rulesOf, Pattern.hits_of_not_read unread, rulesOf]

/-- A rule that is read stands in front of those behind it. -/
theorem rulesOf_of_read {t rest : Text} {hit : Hit (Text × Text)}
    (read : pattern.read t = some (hit, rest)) :
    rulesOf t = expand hit.value.1 hit.value.2 ++ rulesOf rest := by
  rw [rulesOf, Pattern.hits_of_read read, List.flatMap_cons, rulesOf]

/-- Selectors, braces and what is between them make a rule. -/
theorem read_rule {selectors declarations : Text} (nonempty : selectors ≠ [])
    (first : ∀ c ∈ selectors, isPlain c = true) (second : ∀ c ∈ declarations, isPlain c = true)
    (t : Text) :
    ∃ raw, pattern.read (selectors ++ '{' :: (declarations ++ '}' :: t)) =
      some (⟨raw, (selectors, declarations)⟩, t) := by
  have written : IsWritten
      ⟨selectors ++ '{' :: (declarations ++ ['}']), (selectors, declarations)⟩ :=
    ⟨rfl, nonempty, fun c inside => isPlain_iff.1 (first c inside),
      fun c inside => isPlain_iff.1 (second c inside)⟩
  exact ⟨_, by simpa using read_of_isWritten written t⟩

/-- A run without braces begins no rule where no opening brace ends it. -/
theorem read_plain {s t : Text} (plain : ∀ c ∈ s, isPlain c = true)
    (stop : ∀ c ∈ t.head?, c = '}') : pattern.read (s ++ t) = none := by
  have run := Text.takeRun_append_head plain fun c first => by rw [stop c first]; rfl
  have ends : Text.dropPrefix? ['{'] t = none := by
    cases t with
    | nil => rfl
    | cons c t =>
        rw [stop c rfl]
        rfl
  cases s with
  | nil =>
      rw [List.nil_append] at run ⊢
      simp [pattern, shape, Shape.pattern, Shape.take?, Part.take?, run]
  | cons c s =>
      rw [List.cons_append] at run ⊢
      simp [pattern, shape, Shape.pattern, Shape.take?, Part.take?, run, ends]

/-- Selectors begin no rule if the first brace behind their opening one opens again. -/
theorem read_nested {s a t : Text} (first : ∀ c ∈ s, isPlain c = true)
    (second : ∀ c ∈ a, isPlain c = true) :
    pattern.read (s ++ '{' :: (a ++ '{' :: t)) = none := by
  have begins := Text.takeRun_eq first (by decide : isPlain '{' = false) (a ++ '{' :: t)
  have inside := Text.takeRun_eq second (by decide : isPlain '{' = false) t
  cases s with
  | nil =>
      rw [List.nil_append] at begins ⊢
      simp [pattern, shape, Shape.pattern, Shape.take?, Part.take?, begins]
  | cons c s =>
      rw [List.cons_append] at begins ⊢
      simp [pattern, shape, Shape.pattern, Shape.take?, Part.take?, begins, inside,
        Text.dropPrefix?]

/-- Nothing is read off a run without braces in front of a closing brace or the end. -/
theorem rulesOf_plain {s t : Text} (plain : ∀ c ∈ s, isPlain c = true)
    (stop : ∀ c ∈ t.head?, c = '}') : rulesOf (s ++ t) = rulesOf t := by
  induction s with
  | nil => rfl
  | cons c s ih =>
      have unread : pattern.read (c :: (s ++ t)) = none := read_plain plain stop
      rw [List.cons_append, rulesOf_of_not_read unread]
      exact ih fun d inside => plain d (List.mem_cons_of_mem c inside)

/-- A closing brace by itself begins no rule. -/
theorem rulesOf_closing (t : Text) : rulesOf ('}' :: t) = rulesOf t :=
  rulesOf_of_not_read (read_plain (s := []) (by simp) (by simp))

/-- Of two braces that open, the text in front of the first is no selector. -/
theorem rulesOf_nested {s a t : Text} (first : ∀ c ∈ s, isPlain c = true)
    (second : ∀ c ∈ a, isPlain c = true) :
    rulesOf (s ++ '{' :: (a ++ '{' :: t)) = rulesOf (a ++ '{' :: t) := by
  induction s with
  | nil => exact rulesOf_of_not_read (read_nested first second)
  | cons c s ih =>
      have unread : pattern.read (c :: (s ++ '{' :: (a ++ '{' :: t))) = none :=
        read_nested first second
      rw [List.cons_append, rulesOf_of_not_read unread]
      exact ih fun d inside => first d (List.mem_cons_of_mem c inside)

/-! ### Selectors and declarations around blanks -/

/-- Without selectors there are no rules. -/
theorem expand_nil (declarations : Text) : expand [] declarations = [] := by
  have absent : (Text.splitOn ',' []).filterMap (fun t => Selector.parse? (Text.trim t)) = [] := rfl
  simp [expand, absent]

/-- Blanks in front of selectors belong to none. -/
theorem expand_padding_append {pad : Text} (blank : pad.isPadding = true)
    (selectors declarations : Text) :
    expand (pad ++ selectors) declarations = expand selectors declarations := by
  have clear : ',' ∉ pad := Text.not_mem_of_isPadding blank (by decide)
  have trimmed (t : Text) : Text.trim (pad ++ t) = Text.trim t := by
    rw [Text.trim, Text.trimStart_padding_append blank, Text.trim]
  have same : (Text.splitOn ',' (pad ++ selectors)).map Text.trim =
      (Text.splitOn ',' selectors).map Text.trim := by
    rw [Text.splitOn_clear_append clear]
    cases Text.splitOn ',' selectors with
    | nil => rfl
    | cons piece pieces => simp [trimmed]
  have pieces (t : Text) : (Text.splitOn ',' t).filterMap (fun t => Selector.parse? (Text.trim t)) =
      ((Text.splitOn ',' t).map Text.trim).filterMap Selector.parse? := by
    rw [List.filterMap_map]
    rfl
  rw [expand, expand, pieces, pieces, same]

/-- Blank declarations make no rule. -/
theorem expand_padding {pad : Text} (blank : pad.isPadding = true) (selectors : Text) :
    expand selectors pad = [] := by
  have clear : ';' ∉ pad := Text.not_mem_of_isPadding blank (by decide)
  have empty : Text.trim pad = [] := by
    rw [Text.trim, Text.trimStart_of_padding blank]
    rfl
  have nothing : tidyDeclarations pad = [] := by
    simp [tidyDeclarations, Text.splitOn_of_not_mem clear, empty, Text.join]
  rw [expand, nothing]
  rfl

/-- A rule is read off with any blanks in front of it. -/
theorem rulesOf_rule {pad selectors declarations : Text} (blank : pad.isPadding = true)
    (first : ∀ c ∈ selectors, isPlain c = true) (second : ∀ c ∈ declarations, isPlain c = true)
    (t : Text) :
    rulesOf (pad ++ (selectors ++ '{' :: (declarations ++ '}' :: t))) =
      expand selectors declarations ++ rulesOf t := by
  have plain : ∀ c ∈ pad ++ selectors, isPlain c = true :=
    List.forall_mem_append.2 ⟨AtRule.isPlain_of_isPadding blank, first⟩
  rw [← List.append_assoc, ← expand_padding_append blank]
  by_cases empty : pad ++ selectors = []
  · have opening : pattern.read ('{' :: (declarations ++ '}' :: t)) = none := by
      simp [pattern, shape, Shape.pattern, Shape.take?, Part.take?, Text.takeRun, isPlain]
    rw [empty, expand_nil, List.nil_append, List.nil_append, rulesOf_of_not_read opening,
      rulesOf_plain second (by simp), rulesOf_closing]
  · obtain ⟨raw, read⟩ := read_rule empty plain second t
    rw [rulesOf_of_read read]

end StyleRule

namespace SheetOutline

open StyleRule (rulesOf expand isPlain)

/-- The rules that pairs of selectors and declarations make. -/
def expandAll (rules : List (Text × Text)) : List StyleRule :=
  rules.flatMap fun rule => expand rule.1 rule.2

/-- What is left of a row is blank, or its first brace opens. -/
theorem residue_cases {sheet : SheetOutline} (valid : sheet.IsWellFormed) :
    sheet.residue.isPadding = true ∨
      ∃ a b, sheet.residue = a ++ '{' :: b ∧ ∀ c ∈ a, isPlain c = true := by
  induction sheet with
  | nil => exact .inl rfl
  | blank pad rest ih =>
      rcases ih valid.2 with blank | ⟨a, b, same, plain⟩
      · refine .inl ?_
        rw [residue, Text.isPadding, List.all_append, Bool.and_eq_true]
        exact ⟨valid.1, blank⟩
      · exact .inr ⟨pad ++ a, b, by rw [residue, same, List.append_assoc],
          List.forall_mem_append.2 ⟨AtRule.isPlain_of_isPadding valid.1, plain⟩⟩
  | rule selectors declarations rest _ => exact .inr ⟨selectors, _, rfl, valid.1.1⟩
  | statement prelude rest ih => exact ih valid.2
  | block prelude body rest _ ih =>
      rw [residue]
      split
      · exact ih valid.2.2
      · exact .inr ⟨'@' :: prelude, _, rfl, AtRule.isPlain_head valid.1⟩

/-- The head of an at-rule adds no rule to those read off what is left of its block. -/
theorem rulesOf_opened {sheet : SheetOutline} (valid : sheet.IsWellFormed) {head : Text}
    (nonempty : head ≠ []) (plain : ∀ c ∈ head, isPlain c = true) (t : Text) :
    rulesOf (head ++ '{' :: (sheet.residue ++ '}' :: t)) =
      rulesOf (sheet.residue ++ '}' :: t) := by
  rcases residue_cases valid with empty | ⟨a, b, same, flat⟩
  · -- An at-rule with nothing left in its block is read as a rule without declarations.
    have clear := AtRule.isPlain_of_isPadding empty
    obtain ⟨raw, read⟩ := StyleRule.read_rule nonempty plain clear t
    rw [StyleRule.rulesOf_of_read read, StyleRule.expand_padding empty,
      StyleRule.rulesOf_plain clear (by simp), StyleRule.rulesOf_closing]
    rfl
  · have inner : sheet.residue ++ '}' :: t = a ++ '{' :: (b ++ '}' :: t) := by
      rw [same, List.append_assoc, List.cons_append]
    rw [inner]
    exact StyleRule.rulesOf_nested plain flat

/-- The rules read off what is left of a row are the exposed ones. -/
theorem rulesOf_residue {sheet : SheetOutline} (valid : sheet.IsWellFormed) {pad t : Text}
    (blank : pad.isPadding = true) (stop : ∀ c ∈ t.head?, c = '}') :
    rulesOf (pad ++ (sheet.residue ++ t)) = expandAll sheet.exposed ++ rulesOf t := by
  -- Blanks gather in front of the next rule, so the induction carries them along.
  have nothing : Text.isPadding [] = true := rfl
  induction sheet generalizing pad t with
  | nil => exact StyleRule.rulesOf_plain (AtRule.isPlain_of_isPadding blank) stop
  | blank gap rest ih =>
      have both : (pad ++ gap).isPadding = true := by
        rw [Text.isPadding, List.all_append, Bool.and_eq_true]
        exact ⟨blank, valid.1⟩
      rw [residue, List.append_assoc, ← List.append_assoc, ih valid.2 both stop]
      rfl
  | rule selectors declarations rest ih =>
      have behind := ih valid.2.2 nothing stop
      rw [List.nil_append] at behind
      simp only [residue, List.append_assoc, List.cons_append]
      rw [StyleRule.rulesOf_rule blank valid.1.1 valid.2.1.1, behind, exposed]
      simp [expandAll]
  | statement prelude rest ih => exact ih valid.2 blank stop
  | block prelude body rest ihBody ihRest =>
      rw [residue, exposed]
      split
      · exact ihRest valid.2.2 blank stop
      · have behind := ihRest valid.2.2 nothing stop
        rw [List.nil_append] at behind
        have inside := ihBody valid.2.1 nothing (t := '}' :: (rest.residue ++ t)) (by simp)
        rw [List.nil_append, StyleRule.rulesOf_closing, behind] at inside
        have plain : ∀ c ∈ pad ++ '@' :: prelude, isPlain c = true :=
          List.forall_mem_append.2 ⟨AtRule.isPlain_of_isPadding blank, AtRule.isPlain_head valid.1⟩
        have whole :
            pad ++ ('@' :: (prelude ++ '{' :: (body.residue ++ '}' :: rest.residue)) ++ t) =
              pad ++ '@' :: prelude ++ '{' :: (body.residue ++ '}' :: (rest.residue ++ t)) := by
          simp
        rw [whole, rulesOf_opened valid.2.1 (by simp) plain, inside]
        simp [expandAll]

/-- The rules read off a style sheet are the exposed ones. -/
theorem sheetRules_raw {sheet : SheetOutline} (valid : sheet.IsWellFormed) :
    sheetRules sheet.raw = expandAll sheet.exposed := by
  have erased : AtRule.pattern.erase sheet.raw = sheet.residue := by
    have all := AtRule.erase_raw valid []
    rw [List.append_nil] at all
    exact all.trans (List.append_nil _)
  have read := rulesOf_residue valid (rfl : Text.isPadding [] = true) (t := []) (by simp)
  rw [List.nil_append, List.append_nil] at read
  rw [sheetRules, StyleSheet.erase_comment (hasNoComment_raw valid), erased]
  exact read.trans (List.append_nil _)

/-! ### Rules alone -/

/-- A style sheet of nothing but rules. -/
def ofRules (rules : List (Text × Text)) : SheetOutline :=
  rules.foldr (fun rule rest => .rule rule.1 rule.2 rest) .nil

/-- A sheet of rules alone exposes all of them. -/
theorem exposed_ofRules (rules : List (Text × Text)) : (ofRules rules).exposed = rules := by
  induction rules with
  | nil => rfl
  | cons rule rules ih => exact congrArg (rule :: ·) ih

/-- A sheet of rules with sound texts is well-formed. -/
theorem isWellFormed_ofRules {rules : List (Text × Text)}
    (each : ∀ rule ∈ rules, rule.1.IsRuleText ∧ rule.2.IsRuleText) :
    (ofRules rules).IsWellFormed := by
  induction rules with
  | nil => trivial
  | cons rule rules ih =>
      have own := each rule List.mem_cons_self
      exact ⟨own.1, own.2, ih fun other inside => each other (List.mem_cons_of_mem _ inside)⟩

/-- The texts that a well-formed sheet exposes are sound. -/
theorem isRuleText_of_mem_exposed {sheet : SheetOutline} (valid : sheet.IsWellFormed) :
    ∀ rule ∈ sheet.exposed, rule.1.IsRuleText ∧ rule.2.IsRuleText := by
  induction sheet with
  | nil => simp [exposed]
  | blank pad rest ih => exact ih valid.2
  | rule selectors declarations rest ih =>
      exact List.forall_mem_cons.2 ⟨⟨valid.1, valid.2.1⟩, ih valid.2.2⟩
  | statement prelude rest ih => exact ih valid.2
  | block prelude body rest ihBody ihRest =>
      refine List.forall_mem_append.2 ⟨?_, ihRest valid.2.2⟩
      split
      · simp
      · exact ihBody valid.2.1

/-- Where braces are nested no deeper than a rule in an at-rule, no rule in an at-rule is
exposed. -/
theorem exposed_of_height {sheet : SheetOutline} (low : sheet.height ≤ 2) :
    sheet.exposed = sheet.rules := by
  induction sheet with
  | nil => rfl
  | blank pad rest ih => exact ih low
  | rule selectors declarations rest ih =>
      exact congrArg ((selectors, declarations) :: ·) (ih (Nat.max_le.1 low).2)
  | statement prelude rest ih => exact ih low
  | block prelude body rest _ ihRest =>
      have bounds := Nat.max_le.1 low
      have shallow : body.height ≤ 1 := by omega
      rw [exposed, if_pos shallow, List.nil_append, ihRest bounds.2]
      rfl

/-- A style sheet has the rules of its exposed rules alone, each with its selectors in order.  If
its braces are nested at most twice, these are the rules outside its at-rules. -/
theorem sheetRules_exposed {sheet : SheetOutline} (valid : sheet.IsWellFormed) :
    sheetRules sheet.raw = expandAll sheet.exposed ∧
      sheetRules sheet.raw = sheetRules (ofRules sheet.exposed).raw ∧
      (sheet.height ≤ 2 → sheetRules sheet.raw = sheetRules (ofRules sheet.rules).raw) := by
  have alone : sheetRules (ofRules sheet.exposed).raw = expandAll sheet.exposed := by
    rw [sheetRules_raw (isWellFormed_ofRules (isRuleText_of_mem_exposed valid)), exposed_ofRules]
  refine ⟨sheetRules_raw valid, (sheetRules_raw valid).trans alone.symm, fun low => ?_⟩
  rw [← exposed_of_height low, alone, sheetRules_raw valid]

/-- A style sheet for two widths. -/
def letterSheet : SheetOutline :=
  .statement "import url(\"base.css\")".toList <|
    .rule " p, .note ".toList " color: red; ".toList <|
    .block "media (max-width: 600px) ".toList
      (.rule " p ".toList "color: blue".toList <| .statement "charset 'x@y'".toList <|
        .rule " #top ".toList "margin: 0".toList <| .blank " ".toList .nil) <|
    .rule "\nh1 ".toList "margin: 0".toList .nil

/-- Nothing of the narrow width is read. -/
theorem sheetRules_exposed_letter :
    letterSheet.IsWellFormed ∧ letterSheet.height ≤ 2 ∧
    (sheetRules letterSheet.raw = expandAll letterSheet.exposed ∧
      sheetRules letterSheet.raw = sheetRules (ofRules letterSheet.exposed).raw ∧
      sheetRules letterSheet.raw = sheetRules (ofRules letterSheet.rules).raw) ∧
    sheetRules letterSheet.raw = [⟨.element "p".toList, "color: red".toList⟩,
      ⟨.className "note".toList, "color: red".toList⟩,
      ⟨.element "h1".toList, "margin: 0".toList⟩] := by
  have valid : letterSheet.IsWellFormed := by decide +kernel
  have low : letterSheet.height ≤ 2 := by decide +kernel
  obtain ⟨all, exposed, alone⟩ := sheetRules_exposed valid
  exact ⟨valid, low, ⟨all, exposed, alone low⟩, by decide +kernel⟩

/-- A rule next to a media query in a block. -/
def nestedSheet : SheetOutline :=
  .block "supports (gap: 0) ".toList
    (.block "media print ".toList (.rule "p".toList "color: red".toList .nil) <|
      .rule "p".toList "color: blue".toList .nil) <|
  .rule "b".toList "margin: 0".toList .nil

/-- A semicolon in a literal. -/
def quotedSheet : SheetOutline :=
  .statement "import url(\"a;b\")".toList <| .rule "b".toList "margin: 0".toList .nil

/-- A rule in an at-rule that nests too deep is read, and one behind a semicolon in a literal is
not. -/
theorem sheetRules_nested :
    nestedSheet.IsWellFormed ∧
    sheetRules nestedSheet.raw = [⟨.element "p".toList, "color: blue".toList⟩,
      ⟨.element "b".toList, "margin: 0".toList⟩] ∧
    sheetRules (ofRules nestedSheet.rules).raw = [⟨.element "b".toList, "margin: 0".toList⟩] ∧
    sheetRules quotedSheet.raw = [] ∧
    sheetRules (ofRules quotedSheet.rules).raw = [⟨.element "b".toList, "margin: 0".toList⟩] := by
  refine ⟨?_, ?_, ?_, ?_, ?_⟩ <;> decide +kernel

end SheetOutline

end MailTemplate
