/-
Module: MailTemplate.Directive.Extent
Purpose: Where a directive ends, and the cut of a text into directives and the text between them.
Main exports: quoteAfter, Directive.closing?, Directive.extent, Segment, segments, splitTopLevelComma?,
  unquoted?, Directive.endOffset?, topLevelCommaOffset?
-/
import MailTemplate.Text.Pattern

/-!
A directive is what stands between two opening and two closing braces.  Its body may itself hold braces:
quoted literals are skipped, and an opened brace is closed before the directive can end, so the directive
`{{price, '{"min": 1}'}}` ends at its last two braces.  A quote mark or a brace counts as itself only
where it is not inside a literal, and a quote mark behind a backslash neither opens nor closes one.

An opening that never closes takes all the text that follows it: no directive is looked for inside.
-/

namespace MailTemplate

/-- Whether a character is a single or a double quote mark. -/
def isQuote (c : Char) : Bool :=
  c == '"' || c == '\''

/-- The quote mark of the literal that is open behind `c`, if any.  `quote` is the one open before it and
`previous` the character before it. -/
def quoteAfter (quote : Option Char) (previous c : Char) : Option Char :=
  match quote with
  | some q => if c == q && previous != '\\' then none else some q
  | none => if isQuote c && previous != '\\' then some c else none

namespace Directive

/-- Two opening braces. -/
def opening : Text := ['{', '{']

/-- Two closing braces. -/
def closing : Text := ['}', '}']

/-- Reads up to the closing braces: the body, behind the reversed `taken`, and what follows the braces.
`depth` braces are open and `quote` is the quote mark of an open literal. -/
def closingOnto (taken : Text) (previous : Char) (quote : Option Char) (depth : Nat) :
    Text → Option (Text × Text)
  | [] => none
  | c :: rest =>
      let quoteNext := quoteAfter quote previous c
      if quote.isSome || quoteNext.isSome then closingOnto (c :: taken) c quoteNext depth rest
      else if c == '{' then closingOnto (c :: taken) c none (depth + 1) rest
      else if c == '}' then
        if depth == 0 then
          match rest with
          | '}' :: after => some (taken.reverse, after)
          | _ => closingOnto (c :: taken) c none 0 rest
        else closingOnto (c :: taken) c none (depth - 1) rest
      else closingOnto (c :: taken) c none depth rest

/-- The body of a directive that was opened just before this text, and what follows the directive. -/
def closing? (previous : Char) (t : Text) : Option (Text × Text) :=
  closingOnto [] previous none 0 t

theorem closingOnto_append {taken t body after : Text} {previous : Char} {quote : Option Char}
    {depth : Nat} (h : closingOnto taken previous quote depth t = some (body, after)) :
    body ++ closing ++ after = taken.reverse ++ t := by
  induction t generalizing taken previous quote depth with
  | nil => simp [closingOnto] at h
  | cons c rest ih =>
      simp only [closingOnto] at h
      split at h
      · simpa using ih h
      · split at h
        · simpa using ih h
        · split at h
          · rename_i brace
            simp only [beq_iff_eq] at brace
            split at h
            · split at h
              · simp only [Option.some.injEq, Prod.mk.injEq] at h
                obtain ⟨rfl, rfl⟩ := h
                simp [closing, brace]
              · simpa using ih h
            · simpa using ih h
          · simpa using ih h

theorem closing?_append {t body after : Text} {previous : Char}
    (h : closing? previous t = some (body, after)) : body ++ closing ++ after = t := by
  simpa using closingOnto_append h

/-- How far a directive reaches: to its closing braces, or to the end of the text. -/
inductive Extent where
  | closed (body : Text)
  | unclosed
deriving Repr, Inhabited, DecidableEq

/-- The pattern of an opened directive.  One that never closes is hit with all the text behind it. -/
def extent : Pattern Extent where
  read t :=
    match Text.dropPrefix? opening t with
    | none => none
    | some rest =>
        match closing? '{' rest with
        | some (body, after) => some (⟨opening ++ body ++ closing, .closed body⟩, after)
        | none => some (⟨opening ++ rest, .unclosed⟩, [])
  raw_append {t hit rest} h := by
    split at h
    · exact absurd h (by simp)
    · rename_i inner opened
      rw [Text.eq_append_of_dropPrefix? opened]
      split at h
      · rename_i body after closed
        simp only [Option.some.injEq, Prod.mk.injEq] at h
        rw [← h.1, ← h.2, ← closing?_append closed]
        simp
      · simp only [Option.some.injEq, Prod.mk.injEq] at h
        rw [← h.1, ← h.2, List.append_nil]
  raw_ne_nil {t hit rest} h := by
    split at h
    · exact absurd h (by simp)
    · split at h <;>
      · simp only [Option.some.injEq, Prod.mk.injEq] at h
        rw [← h.1]
        simp [opening]

end Directive

/-- A piece of a text. -/
inductive Segment where
  /-- Text between directives, or an opening that never closes with all that follows it. -/
  | text (t : Text)
  /-- A directive, by what stands between its braces. -/
  | directive (body : Text)
deriving Repr, Inhabited, DecidableEq

namespace Segment

/-- The characters of a segment. -/
def raw : Segment → Text
  | .text t => t
  | .directive body => Directive.opening ++ body ++ Directive.closing

/-- A text segment, unless it would be empty. -/
def ofText : Text → List Segment
  | [] => []
  | t => [.text t]

/-- Joins neighbouring plain tokens into text segments; `plain` holds, reversed, those read last. -/
def ofTokens (plain : Text) : List (Token Directive.Extent) → List Segment
  | [] => ofText plain.reverse
  | .plain c :: tokens => ofTokens (c :: plain) tokens
  | .hit ⟨_, .closed body⟩ :: tokens => ofText plain.reverse ++ .directive body :: ofTokens [] tokens
  | .hit ⟨raw, .unclosed⟩ :: tokens => ofText plain.reverse ++ .text raw :: ofTokens [] tokens

end Segment

/-- The directives of a text and the text between them. -/
def segments (t : Text) : List Segment :=
  Segment.ofTokens [] (Directive.extent.scan t)

/-! ### Inside a directive -/

/-- Cuts at the first comma outside brackets and literals; `taken` holds, reversed, what precedes. -/
def splitTopLevelCommaOnto (taken : Text) (previous : Char) (quote : Option Char) (depth : Nat) :
    Text → Option (Text × Text)
  | [] => none
  | c :: rest =>
      let quoteNext := quoteAfter quote previous c
      if quote.isSome || quoteNext.isSome then splitTopLevelCommaOnto (c :: taken) c quoteNext depth rest
      else if c == '{' || c == '[' || c == '(' then
        splitTopLevelCommaOnto (c :: taken) c none (depth + 1) rest
      else if c == '}' || c == ']' || c == ')' then
        splitTopLevelCommaOnto (c :: taken) c none (depth - 1) rest
      else if c == ',' && depth == 0 then some (taken.reverse, rest)
      else splitTopLevelCommaOnto (c :: taken) c none depth rest

/-- What stands before and after the first comma that is in no bracket, brace, parenthesis or literal.
A closing bracket that closes nothing is passed over. -/
def splitTopLevelComma? (body : Text) : Option (Text × Text) :=
  splitTopLevelCommaOnto [] ' ' none 0 body

/-- The text inside one pair of equal quote marks around it. -/
def unquoted? : Text → Option Text
  | [] => none
  | c :: rest => if isQuote c && rest.getLast? == some c then some rest.dropLast else none

/-! ### The same in bytes -/

/-- The characters of a text that begin before the byte offset `limit`, and the others. -/
def Text.splitAtByte (limit : Nat) (t : Text) : Text × Text :=
  go limit [] t
where
  go (left : Nat) (taken : Text) : Text → Text × Text
    | [] => (taken.reverse, [])
    | c :: rest => if left == 0 then (taken.reverse, c :: rest) else go (left - c.utf8Size) (c :: taken) rest

/-- The byte offset of the braces that close the directive opened at the byte offset `start`. -/
def Directive.endOffset? (t : Text) (start : Nat) : Option Nat :=
  let (before, rest) := Text.splitAtByte (start + 2) t
  (Directive.closing? (before.getLastD '{') rest).map fun (body, _) =>
    Text.byteLength before + Text.byteLength body

/-- The byte offset of the first comma outside brackets and literals. -/
def topLevelCommaOffset? (body : Text) : Option Nat :=
  (splitTopLevelComma? body).map fun (before, _) => Text.byteLength before

end MailTemplate
