/-
Module: MailTemplate.Style.AtRule
Purpose: The parts of a style sheet that are dropped before its rules are read: comments and at-rules.
Main exports: StyleSheet.comment, AtRule.block, AtRule.pattern
-/
import MailTemplate.Text.Pattern

/-!
An at-rule is an at sign and a prelude, ended by a semicolon or by a block in braces.  The block may hold
further blocks, as a media query holds rules, but these may hold none; an at-rule that nests deeper is not
recognised as one, and neither is one that never ends.
-/

namespace MailTemplate

namespace StyleSheet

/-- A comment, up to the first closing mark. -/
def comment : Pattern (Unit × Text) :=
  (Shape.pattern [.word ['/', '*']] (fun _ => ()) rfl).block
    (Shape.pattern [.word ['*', '/']] (fun _ => ()) rfl)

end StyleSheet

namespace AtRule

/-- Reads up to and including the brace that closes a block, behind the reversed `taken`; `inner` tells
whether a block inside it is open. -/
def blockRestOnto (taken : Text) (inner : Bool) : Text → Option (Text × Text)
  | [] => none
  | c :: rest =>
      if c == '{' then
        if inner then none else blockRestOnto (c :: taken) true rest
      else if c == '}' then
        if inner then blockRestOnto (c :: taken) false rest else some ((c :: taken).reverse, rest)
      else blockRestOnto (c :: taken) inner rest

theorem blockRestOnto_append {taken t inside rest : Text} {inner : Bool}
    (h : blockRestOnto taken inner t = some (inside, rest)) : inside ++ rest = taken.reverse ++ t := by
  induction t generalizing taken inner with
  | nil => simp [blockRestOnto] at h
  | cons c t ih =>
      simp only [blockRestOnto] at h
      split at h
      · split at h
        · exact absurd h (by simp)
        · simpa using ih h
      · split at h
        · split at h
          · simpa using ih h
          · simp only [Option.some.injEq, Prod.mk.injEq] at h
            rw [← h.1, ← h.2]
            simp
        · simpa using ih h

/-- A block in braces in which further blocks stand side by side. -/
def block : Pattern Unit where
  read t :=
    match t with
    | [] => none
    | c :: rest =>
        if c == '{' then (blockRestOnto [] false rest).map fun (inside, rest) => (⟨c :: inside, ()⟩, rest)
        else none
  raw_append {t hit rest} h := by
    split at h
    · exact absurd h (by simp)
    · split at h
      · obtain ⟨⟨inside, after⟩, found, same⟩ := Option.map_eq_some_iff.1 h
        simp only [Prod.mk.injEq] at same
        rw [← same.1, ← same.2]
        simpa using blockRestOnto_append found
      · exact absurd h (by simp)
  raw_ne_nil {t hit rest} h := by
    split at h
    · exact absurd h (by simp)
    · split at h
      · obtain ⟨⟨inside, after⟩, found, same⟩ := Option.map_eq_some_iff.1 h
        simp only [Prod.mk.injEq] at same
        simp [← same.1]
      · exact absurd h (by simp)

/-- Whether a character may stand in a prelude. -/
def isPrelude (c : Char) : Bool :=
  c != '{' && c != '}' && c != ';'

/-- An at sign and a prelude. -/
def head : Pattern Unit :=
  Shape.pattern [.word ['@'], .atLeastOne isPrelude] (fun _ => ()) rfl

/-- What ends an at-rule. -/
def tail : Pattern Unit :=
  (Shape.pattern [.word [';']] (fun _ => ()) rfl).orElse block

/-- At-rules. -/
def pattern : Pattern (Unit × Unit) :=
  head.followedBy tail

end AtRule

end MailTemplate
