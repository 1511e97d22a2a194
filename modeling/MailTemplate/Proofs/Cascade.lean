/-
Module: MailTemplate.Proofs.Cascade
Purpose: Which rules reach a tag, in which order, and how the tag is written with them.
Main exports: InCascade, inCascade_cascade, Selector.parse?_eq_some_iff,
  StyleRule.isWritten_of_mem_hits, mem_styleRules_iff, OpenTag.Closes, Restyled, restyled_restyle,
  hoistStyles_cascade
-/
import Mathlib.Data.List.Pairwise
import MailTemplate.Proofs.HeadWord
import MailTemplate.Proofs.Lines
import MailTemplate.Proofs.Markup

/-!
The order in which rules apply to a tag is said here without the computation: the rules that select
the tag, each as often as it is there, no rule behind one that binds more strongly, and rules that
bind alike in the order of the document.  There is only one such list.

Hoisting takes out scripts, then style blocks, and then edits tags, and keeps everything else.
-/

namespace MailTemplate

/-! ### The order of rules -/

/-- The rules that select a tag in the order in which they apply. -/
structure InCascade (rules : List StyleRule) (tag : OpenTag) (applied : List StyleRule) : Prop where
  /-- Each rule that selects the tag is there once, and no other. -/
  perm : applied.Perm (rules.filter fun rule => rule.selector.selects tag)
  /-- What binds more strongly comes later. -/
  ordered : applied.Pairwise fun first second => first.selector.rank ≤ second.selector.rank
  /-- Rules that bind alike are in the order of the document. -/
  stable : ∀ rank, (applied.filter fun rule => rule.selector.rank == rank) =
    (rules.filter fun rule => rule.selector.selects tag).filter fun rule =>
      rule.selector.rank == rank

/-- There are three ranks. -/
theorem Selector.rank_le (selector : Selector) : selector.rank ≤ 2 := by
  cases selector <;> simp [rank]

/-- Rules of one rank, among rules of one rank. -/
theorem filter_rank_filter_rank (rules : List StyleRule) (own other : Nat) :
    ((rules.filter fun rule => rule.selector.rank == own).filter fun rule =>
      rule.selector.rank == other) =
      if own = other then rules.filter fun rule => rule.selector.rank == own else [] := by
  rw [List.filter_filter]
  split
  · rename_i same
    simp [same]
  · rename_i different
    rw [List.filter_eq_nil_iff]
    intro rule _ both
    simp only [Bool.and_eq_true, beq_iff_eq] at both
    exact different (both.2.symm.trans both.1)

/-- The rules of one rank stay in their order. -/
theorem stable_cascade (rules : List StyleRule) (tag : OpenTag) (rank : Nat) :
    ((cascade rules tag).filter fun rule => rule.selector.rank == rank) =
      (rules.filter fun rule => rule.selector.selects tag).filter fun rule =>
        rule.selector.rank == rank := by
  simp only [cascade, List.flatMap_cons, List.flatMap_nil, List.append_nil, List.filter_append,
    filter_rank_filter_rank]
  match rank with
  | 0 | 1 | 2 => simp
  | rank + 3 =>
      have absent : ((rules.filter fun rule => rule.selector.selects tag).filter fun rule =>
          rule.selector.rank == rank + 3) = [] := by
        rw [List.filter_eq_nil_iff]
        intro rule _ same
        have bound := rule.selector.rank_le
        rw [beq_iff_eq] at same
        omega
      simp [absent]

/-- The cascade is what a cascade has to be. -/
theorem inCascade_cascade (rules : List StyleRule) (tag : OpenTag) :
    InCascade rules tag (cascade rules tag) where
  perm := by
    -- Rules of one rank are as many on both sides, so each single rule is.
    rw [List.perm_iff_count]
    intro rule
    let own := fun other : StyleRule => other.selector.rank == rule.selector.rank
    have rank : own rule = true := beq_self_eq_true _
    have same := congrArg (List.count rule) (stable_cascade rules tag rule.selector.rank)
    rwa [List.count_filter (p := own) rank, List.count_filter (p := own) rank] at same
  ordered := by
    rw [cascade, List.pairwise_flatMap]
    constructor
    · intro rank _
      refine List.pairwise_of_forall_mem_list fun first one second two => ?_
      have first := (List.mem_filter.1 one).2
      have second := (List.mem_filter.1 two).2
      rw [beq_iff_eq] at first second
      omega
    · have ascending : [0, 1, 2].Pairwise (· < ·) := by decide
      refine ascending.imp fun less first one second two => ?_
      have first := (List.mem_filter.1 one).2
      have second := (List.mem_filter.1 two).2
      rw [beq_iff_eq] at first second
      omega
  stable := stable_cascade rules tag

/-! ### Declarations -/

/-- Tidy declarations hold no double quote marks. -/
theorem quote_not_mem_tidyDeclarations (block : Text) : '"' ∉ tidyDeclarations block := by
  intro inside
  rcases mem_of_mem_intercalate inside with between | ⟨piece, among, own⟩
  · exact absurd between (by decide)
  · obtain ⟨declaration, _, rfl⟩ := List.mem_map.1 among
    obtain ⟨c, _, same⟩ := List.mem_map.1 own
    rw [singleQuoted] at same
    split at same
    · exact absurd same (by decide)
    · rename_i other
      exact other (beq_iff_eq.2 same)

/-! ### The rules of style blocks -/

namespace Selector

/-- How a selector is spelled: a letter with more letters and digits, or a dot or a number sign with
a name of letters, digits, hyphens and underscores. -/
inductive Spells : Selector → Text → Prop
  | element {first : Char} {rest : Text} (letter : first.isAlpha = true)
      (others : ∀ c ∈ rest, c.isAlphanum = true) :
      Spells (.element (Text.lowerAscii (first :: rest))) (first :: rest)
  | className {name : Text} (nonempty : name ≠ []) (all : ∀ c ∈ name, isNameCharacter c = true) :
      Spells (.className name) ('.' :: name)
  | identifier {name : Text} (nonempty : name ≠ []) (all : ∀ c ∈ name, isNameCharacter c = true) :
      Spells (.identifier name) ('#' :: name)

/-- A name is a row of name characters. -/
theorem name?_eq_some_iff {t name : Text} :
    name? t = some name ↔ t = name ∧ name ≠ [] ∧ ∀ c ∈ name, isNameCharacter c = true := by
  rw [name?]
  constructor
  · intro found
    split at found
    · rename_i named
      obtain rfl := Option.some.inj found
      simpa using named
    · exact absurd found (by simp)
  · rintro ⟨rfl, nonempty, all⟩
    simpa [nonempty] using all

/-- A selector is parsed from what spells it. -/
theorem parse?_eq_some_iff {t : Text} {selector : Selector} :
    parse? t = some selector ↔ selector.Spells t := by
  constructor
  · intro parsed
    match t with
    | [] => exact absurd parsed (by simp [parse?])
    | c :: rest =>
        rw [parse?] at parsed
        split at parsed
        · rename_i dot
          obtain ⟨name, named, rfl⟩ := Option.map_eq_some_iff.1 parsed
          obtain ⟨rfl, nonempty, all⟩ := name?_eq_some_iff.1 named
          exact beq_iff_eq.1 dot ▸ .className nonempty all
        · split at parsed
          · rename_i sign
            obtain ⟨name, named, rfl⟩ := Option.map_eq_some_iff.1 parsed
            obtain ⟨rfl, nonempty, all⟩ := name?_eq_some_iff.1 named
            exact beq_iff_eq.1 sign ▸ .identifier nonempty all
          · split at parsed
            · rename_i word
              rw [Bool.and_eq_true, List.all_eq_true] at word
              exact Option.some.inj parsed ▸ .element word.1 word.2
            · exact absurd parsed (by simp)
  · rintro (⟨letter, others⟩ | ⟨nonempty, all⟩ | ⟨nonempty, all⟩)
    · rename_i first rest
      have dot : first ≠ '.' := by rintro rfl; exact absurd letter (by decide)
      have sign : first ≠ '#' := by rintro rfl; exact absurd letter (by decide)
      simp only [parse?, dot, sign, letter, beq_iff_eq, if_false]
      simpa using others
    · simp [parse?, name?_eq_some_iff.2 ⟨rfl, nonempty, all⟩]
    · simp [parse?, name?_eq_some_iff.2 ⟨rfl, nonempty, all⟩]

end Selector

namespace StyleRule

/-- How a rule is written: selectors and a block of declarations between braces, with no brace in
either. -/
structure IsWritten (hit : Hit (Text × Text)) : Prop where
  raw : hit.raw = hit.value.1 ++ '{' :: (hit.value.2 ++ ['}'])
  nonempty : hit.value.1 ≠ []
  selectors : ∀ c ∈ hit.value.1, c ≠ '{' ∧ c ≠ '}'
  block : ∀ c ∈ hit.value.2, c ≠ '{' ∧ c ≠ '}'

/-- Plain characters are those that are no braces. -/
theorem isPlain_iff {c : Char} : isPlain c = true ↔ c ≠ '{' ∧ c ≠ '}' := by
  simp [isPlain]

/-- What is read as a rule is written as one. -/
theorem isWritten_of_read {t rest : Text} {hit : Hit (Text × Text)}
    (read : pattern.read t = some (hit, rest)) : IsWritten hit := by
  obtain ⟨pieces, whole, rfl⟩ := Shape.take?_of_read read
  obtain ⟨selectors, _, _, begins, behindSelectors, rfl⟩ := Shape.take?_cons whole
  obtain ⟨_, _, rfl, behindOpening, rfl⟩ := Shape.take?_word_cons behindSelectors
  obtain ⟨block, _, _, inner, behindBlock, rfl⟩ := Shape.take?_cons behindOpening
  obtain ⟨_, _, rfl, nothing, rfl⟩ := Shape.take?_word_cons behindBlock
  obtain ⟨rfl, rfl⟩ := Prod.mk.inj (Option.some.inj nothing)
  have first : selectors ≠ [] ∧ ∀ c ∈ selectors, isPlain c = true := Part.accepts_of_take? begins
  have second : ∀ c ∈ block, isPlain c = true := Part.accepts_of_take? inner
  exact ⟨by simp, first.1, fun c inside => isPlain_iff.1 (first.2 c inside),
    fun c inside => isPlain_iff.1 (second c inside)⟩

/-- A rule is read wherever it is written. -/
theorem read_of_isWritten {hit : Hit (Text × Text)} (written : IsWritten hit) (rest : Text) :
    pattern.read (hit.raw ++ rest) = some (hit, rest) := by
  obtain ⟨raw, selectors, block⟩ := hit
  obtain ⟨whole, nonempty, first, second⟩ := written
  dsimp only at whole nonempty first second ⊢
  subst whole
  have begins := Part.take?_atLeastOne nonempty (fun c inside => isPlain_iff.2 (first c inside))
    (by decide : isPlain '{' = false) (block ++ '}' :: rest)
  have inner := Part.take?_many (fun c inside => isPlain_iff.2 (second c inside))
    (by decide : isPlain '}' = false) rest
  have opening : Part.take? (.word ['{']) ('{' :: (block ++ '}' :: rest)) =
      some (['{'], block ++ '}' :: rest) := Part.take?_word_append ['{'] _
  have closing : Part.take? (.word ['}']) ('}' :: rest) = some (['}'], rest) :=
    Part.take?_word_append ['}'] rest
  simp [pattern, shape, Shape.pattern, Shape.take?, begins, opening, inner, closing]

/-- What is hit is written as a rule is. -/
theorem isWritten_of_mem_hits {t : Text} {hit : Hit (Text × Text)} (inside : hit ∈ pattern.hits t) :
    IsWritten hit := by
  obtain ⟨first, last, scan⟩ := Pattern.mem_hits_iff.1 inside
  exact isWritten_of_read (Pattern.read_of_scan scan)

end StyleRule

/-- A rule of the style blocks stands in one of them, when comments and then at-rules are taken out:
one of the selectors between the commas in front of its braces spells what it selects, and between
them are its declarations. -/
theorem mem_styleRules_iff {html : Text} {rule : StyleRule} :
    rule ∈ styleRules html ↔ ∃ block ∈ styleBlock.hits html, ∃ written ∈
      StyleRule.pattern.hits (AtRule.pattern.erase (StyleSheet.comment.erase block.value.2)),
      (∃ selector ∈ Text.splitOn ',' written.value.1, rule.selector.Spells (Text.trim selector)) ∧
        rule.declarations = tidyDeclarations written.value.2 ∧ rule.declarations ≠ [] := by
  have made (selectors block : Text) : rule ∈ StyleRule.expand selectors block ↔
      (∃ selector ∈ Text.splitOn ',' selectors, rule.selector.Spells (Text.trim selector)) ∧
        rule.declarations = tidyDeclarations block ∧ rule.declarations ≠ [] := by
    rw [StyleRule.expand]
    constructor
    · intro inside
      split at inside
      · exact absurd inside (by simp)
      · rename_i nonempty
        obtain ⟨selector, spelled, rfl⟩ := List.mem_map.1 inside
        obtain ⟨word, among, parsed⟩ := List.mem_filterMap.1 spelled
        exact ⟨⟨word, among, Selector.parse?_eq_some_iff.1 parsed⟩, rfl, by simpa using nonempty⟩
    · rintro ⟨⟨word, among, spelled⟩, own, nonempty⟩
      rw [own] at nonempty
      rw [if_neg (by simpa using nonempty)]
      exact List.mem_map.2 ⟨rule.selector,
        List.mem_filterMap.2 ⟨word, among, Selector.parse?_eq_some_iff.2 spelled⟩,
        by rw [← own]⟩
  simp only [styleRules, sheetRules, List.mem_flatMap, made]

/-- The rules of style blocks have declarations, with no double quote marks in them. -/
theorem declarations_of_mem_styleRules {html : Text} {rule : StyleRule}
    (inside : rule ∈ styleRules html) : rule.declarations ≠ [] ∧ '"' ∉ rule.declarations := by
  obtain ⟨_, _, _, _, _, tidy, nonempty⟩ := mem_styleRules_iff.1 inside
  exact ⟨nonempty, tidy ▸ quote_not_mem_tidyDeclarations _⟩

/-! ### Tags with a style -/

/-- A text trimmed at its end has no blanks there. -/
theorem Text.trimEnd_trimEnd (t : Text) : trimEnd (trimEnd t) = trimEnd t := by
  obtain ⟨pad, blank, whole⟩ := trimEnd_append_padding_eq t
  rw [← trimEnd_append_padding blank (trimEnd t), whole]

/-- Attributes up to what ends their tag, and what ends it behind a style: only blanks behind them
and a bracket, or a slash with blanks around it and a bracket. -/
inductive OpenTag.Closes (attributes : Text) : Text → Text → Prop
  | plain {others gap : Text} (blank : gap.isPadding = true) (slash : others.getLast? ≠ some '/')
      (tight : Text.trimEnd others = others) (whole : attributes = others ++ gap) :
      Closes attributes others ['>']
  | slashed {others space gap : Text} (front : space.isPadding = true)
      (back : gap.isPadding = true) (tight : Text.trimEnd others = others)
      (whole : attributes = others ++ (space ++ '/' :: gap)) :
      Closes attributes others [' ', '/', '>']

/-- A tag is written with a style at its end, behind what is left of its attributes. -/
theorem OpenTag.styled_eq (tag : OpenTag) (style : Text) :
    ∃ others closer, Closes ((Attribute.pattern "style").erase tag.attributes) others closer ∧
      tag.styled style =
        '<' :: tag.name ++ others ++ " style=\"".toList ++ style ++ '"' :: closer := by
  obtain ⟨gap, blank, whole⟩ :=
    Text.trimEnd_append_padding_eq ((Attribute.pattern "style").erase tag.attributes)
  rw [styled]
  by_cases slash : (Text.trimEnd ((Attribute.pattern "style").erase tag.attributes)).getLast? =
      some '/'
  · obtain ⟨front, ends⟩ := List.getLast?_eq_some_iff.1 slash
    obtain ⟨space, between, inner⟩ := Text.trimEnd_append_padding_eq front
    refine ⟨Text.trimEnd front, [' ', '/', '>'], .slashed between blank (Text.trimEnd_trimEnd _) ?_,
      ?_⟩
    · rw [← whole, ends]
      simp only [List.append_assoc, List.singleton_append]
      rw [← List.append_assoc, inner]
    · simp [ends]
  · refine ⟨_, _, .plain blank slash (Text.trimEnd_trimEnd _) whole.symm, ?_⟩
    simp [slash]

/-- How a tag may be written when rules have been applied: as it was, if none selects it, and
otherwise with a style. -/
inductive Restyled (rules : List StyleRule) (hit : Hit OpenTag) : Text → Prop
  | unselected (untouched : ∀ rule ∈ rules, rule.selector.selects hit.value = false) :
      Restyled rules hit hit.raw
  | selected {applied : List StyleRule} {style others closer : Text}
      (chosen : ∃ rule ∈ rules, rule.selector.selects hit.value = true)
      (order : InCascade rules hit.value applied)
      (declarations : style = Text.join declarationSeparator (applied.map (·.declarations) ++
        if ownDeclarations hit.value = [] then [] else [ownDeclarations hit.value]))
      (quotable : '"' ∉ style)
      (ends : OpenTag.Closes ((Attribute.pattern "style").erase hit.value.attributes)
        others closer) :
      Restyled rules hit
        ('<' :: hit.value.name ++ others ++ " style=\"".toList ++ style ++ '"' :: closer)

/-- What a style holds stands in the declarations of a rule or in those of the tag. -/
theorem mem_of_mem_declarations {applied : List StyleRule} {own : Text} {c : Char}
    (inside : c ∈ Text.join declarationSeparator
      (applied.map (·.declarations) ++ if own = [] then [] else [own])) :
    c ∈ declarationSeparator ∨ (∃ rule ∈ applied, c ∈ rule.declarations) ∨ c ∈ own := by
  refine (mem_of_mem_intercalate inside).imp_right fun ⟨declarations, row, here⟩ => ?_
  rcases List.mem_append.1 row with ruled | tagged
  · obtain ⟨rule, among, rfl⟩ := List.mem_map.1 ruled
    exact .inl ⟨rule, among, here⟩
  · split at tagged
    · exact absurd tagged List.not_mem_nil
    · exact .inr (List.mem_singleton.1 tagged ▸ here)

/-- A tag that is restyled is one with the declarations of its cascade. -/
theorem restyled_restyle {rules : List StyleRule}
    (each : ∀ rule ∈ rules, rule.declarations ≠ [] ∧ '"' ∉ rule.declarations) (hit : Hit OpenTag) :
    Restyled rules hit (restyle rules hit) := by
  have order := inCascade_cascade rules hit.value
  have among {rule : StyleRule} : rule ∈ cascade rules hit.value ↔
      rule ∈ rules ∧ rule.selector.selects hit.value = true :=
    order.perm.mem_iff.trans List.mem_filter
  rw [restyle]
  split
  · rename_i empty
    refine .unselected fun rule inside => ?_
    rw [Bool.eq_false_iff]
    intro selects
    have applied := among.2 ⟨inside, selects⟩
    rw [empty] at applied
    exact absurd applied (by simp)
  · rename_i nonempty
    obtain ⟨rule, applied⟩ := List.exists_mem_of_ne_nil _ nonempty
    have kept : (((cascade rules hit.value).map (·.declarations) ++
        [ownDeclarations hit.value]).filter fun t => !t.isEmpty) =
          (cascade rules hit.value).map (·.declarations) ++
            if ownDeclarations hit.value = [] then [] else [ownDeclarations hit.value] := by
      rw [List.filter_append, List.filter_eq_self.2]
      · cases ownDeclarations hit.value <;> rfl
      · intro declarations inside
        obtain ⟨other, applied, rfl⟩ := List.mem_map.1 inside
        simpa using (each other (among.1 applied).1).1
    dsimp only
    rw [kept]
    obtain ⟨others, closer, ends, written⟩ := hit.value.styled_eq (Text.join declarationSeparator
      ((cascade rules hit.value).map (·.declarations) ++
        if ownDeclarations hit.value = [] then [] else [ownDeclarations hit.value]))
    rw [written]
    refine .selected ⟨rule, among.1 applied⟩ order rfl ?_ ends
    intro inside
    rcases mem_of_mem_declarations inside with between | ⟨other, applied, here⟩ | own
    · exact absurd between (by decide)
    · exact (each other (among.1 applied).1).2 here
    · exact quote_not_mem_tidyDeclarations _ own

/-! ### The whole text -/

/-- Without rules there is nothing to apply, so the tags of a text may be edited in any case. -/
theorem hoistStyles_eq (html : Text) :
    hoistStyles html = OpenTag.pattern.replace (restyle (styleRules (scriptBlock.erase html)))
      (styleBlock.erase (scriptBlock.erase html)) := by
  rw [hoistStyles]
  split
  · rename_i ruleless
    rw [ruleless]
    exact (Pattern.replace_self (fun _ => rfl) _).symm
  · rfl

/-- Hoisting takes out the scripts and then the style blocks, and writes the rules of these into the
tags that they select; everything else is kept. -/
theorem hoistStyles_cascade (html : Text) :
    ∃ scriptless unstyled,
      scriptBlock.Removed html scriptless ∧ styleBlock.Removed scriptless unstyled ∧
      OpenTag.pattern.Rewritten (Restyled (styleRules scriptless)) unstyled (hoistStyles html) := by
  refine ⟨scriptBlock.erase html, styleBlock.erase (scriptBlock.erase html),
    Pattern.removed_erase _ _, Pattern.removed_erase _ _, ?_⟩
  rw [hoistStyles_eq]
  exact Pattern.rewritten_replace fun hit _ =>
    restyled_restyle (fun _ => declarations_of_mem_styleRules) hit

/-- A link with three rules for it, and declarations of its own. -/
example : hoistStyles ("<style>#x { top: 1 }".toList ++ ".y { top: 2 } a { top: 3 }".toList ++
    "</style><a id=\"x\" class=\"y\"".toList ++ " style=\"top: 0;\">link</a>".toList) =
      "<a id=\"x\" class=\"y\"".toList ++ " style=\"top: 3; top: 2; ".toList ++
        "top: 1; top: 0\">link</a>".toList := by
  decide +kernel

end MailTemplate
