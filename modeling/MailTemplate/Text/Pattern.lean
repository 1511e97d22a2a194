/-
Module: MailTemplate.Text.Pattern
Purpose: Patterns: readers of tags at the head of a text, and the scan of a text for them.
Main exports: Hit, Pattern, Shape.pattern, Pattern.orElse, Pattern.followedBy, Pattern.block,
  Pattern.find?, Pattern.scan, Pattern.replace, Pattern.erase, Pattern.replaceAt, Pattern.replaceWith,
  Pattern.hits, Pattern.hitsAt, Pattern.occurs
-/
import MailTemplate.Text.Shape

/-!
A *pattern* reads a tag off the head of a text, or finds that none stands there.  It gives a *hit*: the
characters that the tag is written with and the value they stand for.  Two laws come with every pattern:
the hit's characters and the rest make up the text that was read, and a hit is never empty.

A scan goes through a text from left to right.  Where a tag stands, it takes the tag and goes on behind
it; elsewhere it takes one character.  So hits never overlap, and of two tags that overlap in the text the
one that begins first is hit.  `replace` puts a text in the place of each hit, `replaceAt` one that may
depend on the hit's column, `replaceWith` does so while it threads a state through the hits, and `hitsAt`
lists the hits with their columns.
-/

namespace MailTemplate

/-- A tag found in a text: the characters it is written with and what they stand for. -/
structure Hit (α : Type) where
  raw : Text
  value : α
deriving Repr, Inhabited, DecidableEq

/-- A reader of tags at the head of a text. -/
structure Pattern (α : Type) where
  read : Text → Option (Hit α × Text)
  raw_append : ∀ {t : Text} {hit : Hit α} {rest : Text},
    read t = some (hit, rest) → hit.raw ++ rest = t
  raw_ne_nil : ∀ {t : Text} {hit : Hit α} {rest : Text},
    read t = some (hit, rest) → hit.raw ≠ []

/-- One step of a scan: a character that begins no tag, or a tag. -/
inductive Token (α : Type) where
  | plain (c : Char)
  | hit (h : Hit α)
deriving Repr, Inhabited, DecidableEq

namespace Token

/-- The characters that a token was read from. -/
def raw {α : Type} : Token α → Text
  | .plain c => [c]
  | .hit h => h.raw

end Token

/-- The pattern of a solid shape; `value` makes the tag's value from the pieces of its parts. -/
def Shape.pattern {α : Type} (shape : Shape) (value : List Text → α) (solid : shape.isSolid = true) :
    Pattern α where
  read t :=
    match shape.take? t with
    | none => none
    | some (pieces, rest) => some (⟨pieces.flatten, value pieces⟩, rest)
  raw_append {t hit rest} h := by
    split at h
    · exact absurd h (by simp)
    · rename_i pieces after found
      simp only [Option.some.injEq, Prod.mk.injEq] at h
      rw [← h.1, ← h.2]
      exact Shape.take?_flatten found
  raw_ne_nil {t hit rest} h := by
    split at h
    · exact absurd h (by simp)
    · rename_i pieces after found
      simp only [Option.some.injEq, Prod.mk.injEq] at h
      rw [← h.1]
      exact Shape.take?_ne_nil found solid

namespace Pattern

variable {α β σ : Type}

/-- Reads the first pattern, or where it does not stand the second. -/
def orElse (p q : Pattern α) : Pattern α where
  read t :=
    match p.read t with
    | some found => some found
    | none => q.read t
  raw_append {t hit rest} h := by
    split at h
    · rename_i found first
      simp only [Option.some.injEq] at h
      exact p.raw_append (h ▸ first)
    · exact q.raw_append h
  raw_ne_nil {t hit rest} h := by
    split at h
    · rename_i found first
      simp only [Option.some.injEq] at h
      exact p.raw_ne_nil (h ▸ first)
    · exact q.raw_ne_nil h

/-- Two tags in a row as one. -/
def followedBy (p : Pattern α) (q : Pattern β) : Pattern (α × β) where
  read t :=
    match p.read t with
    | none => none
    | some (first, middle) =>
        match q.read middle with
        | none => none
        | some (second, rest) => some (⟨first.raw ++ second.raw, (first.value, second.value)⟩, rest)
  raw_append {t hit rest} h := by
    split at h
    · exact absurd h (by simp)
    · rename_i first middle one
      split at h
      · exact absurd h (by simp)
      · rename_i second after two
        simp only [Option.some.injEq, Prod.mk.injEq] at h
        rw [← h.1, ← h.2, ← p.raw_append one, ← q.raw_append two, List.append_assoc]
  raw_ne_nil {t hit rest} h := by
    split at h
    · exact absurd h (by simp)
    · rename_i first middle one
      split at h
      · exact absurd h (by simp)
      · simp only [Option.some.injEq, Prod.mk.injEq] at h
        rw [← h.1]
        simp [p.raw_ne_nil one]

/-! ### Finding the first hit -/

/-- The first hit in a text, with `before` in front of what precedes it, reversed. -/
def findOnto (p : Pattern α) (before : Text) : Text → Option (Text × Hit α × Text)
  | [] => none
  | c :: rest =>
      match p.read (c :: rest) with
      | some (hit, after) => some (before.reverse, hit, after)
      | none => findOnto p (c :: before) rest

/-- The first hit in a text: what precedes it, the hit, and what follows it. -/
def find? (p : Pattern α) (t : Text) : Option (Text × Hit α × Text) :=
  p.findOnto [] t

/-- Whether a text holds a hit. -/
def occurs (p : Pattern α) (t : Text) : Bool :=
  (p.find? t).isSome

theorem findOnto_append {p : Pattern α} {seen t before after : Text} {hit : Hit α}
    (h : p.findOnto seen t = some (before, hit, after)) :
    before ++ hit.raw ++ after = seen.reverse ++ t := by
  induction t generalizing seen with
  | nil => simp [findOnto] at h
  | cons c rest ih =>
      rw [findOnto] at h
      split at h
      · rename_i found after' here
        simp only [Option.some.injEq, Prod.mk.injEq] at h
        obtain ⟨rfl, rfl, rfl⟩ := h
        rw [List.append_assoc, p.raw_append here]
      · rw [ih h]
        simp

theorem find?_append {p : Pattern α} {t before after : Text} {hit : Hit α}
    (h : p.find? t = some (before, hit, after)) : before ++ hit.raw ++ after = t := by
  simpa using findOnto_append h

/-- What stands between an opener and the first closer behind it, the three as one tag. -/
def block (opener : Pattern α) (closer : Pattern β) : Pattern (α × Text) where
  read t :=
    match opener.read t with
    | none => none
    | some (opening, rest) =>
        match closer.find? rest with
        | none => none
        | some (body, closing, after) =>
            some (⟨opening.raw ++ body ++ closing.raw, (opening.value, body)⟩, after)
  raw_append {t hit rest} h := by
    split at h
    · exact absurd h (by simp)
    · rename_i opening middle first
      split at h
      · exact absurd h (by simp)
      · rename_i body closing after second
        simp only [Option.some.injEq, Prod.mk.injEq] at h
        rw [← h.1, ← h.2, ← opener.raw_append first, ← closer.find?_append second]
        simp
  raw_ne_nil {t hit rest} h := by
    split at h
    · exact absurd h (by simp)
    · rename_i opening middle first
      split at h
      · exact absurd h (by simp)
      · simp only [Option.some.injEq, Prod.mk.injEq] at h
        rw [← h.1]
        simp [opener.raw_ne_nil first]

/-! ### The scan -/

/-- The tokens of a text, behind the reversed `seen`, after `skip` characters that a hit has taken. -/
def scanOnto (p : Pattern α) (seen : List (Token α)) : Nat → Text → List (Token α)
  | _, [] => seen.reverse
  | skip + 1, _ :: rest => scanOnto p seen skip rest
  | 0, c :: rest =>
      match p.read (c :: rest) with
      | some (hit, _) => scanOnto p (.hit hit :: seen) (hit.raw.length - 1) rest
      | none => scanOnto p (.plain c :: seen) 0 rest

/-- The tokens of a text. -/
def scan (p : Pattern α) (t : Text) : List (Token α) :=
  p.scanOnto [] 0 t

/-- The tags in a text, in order. -/
def hits (p : Pattern α) (t : Text) : List (Hit α) :=
  (p.scan t).filterMap fun
    | .plain _ => none
    | .hit h => some h

/-- The tokens with the columns they begin at, the first standing at `column`. -/
def locate (column : Nat) : List (Token α) → List (Nat × Token α)
  | [] => []
  | token :: tokens => (column, token) :: locate (column + token.raw.length) tokens

/-- The tags in a text with the number of characters that precede them. -/
def hitsAt (p : Pattern α) (t : Text) : List (Nat × Hit α) :=
  (locate 0 (p.scan t)).filterMap fun
    | (_, .plain _) => none
    | (column, .hit h) => some (column, h)

/-- The text with `f` of each tag in its place. -/
def replace (p : Pattern α) (f : Hit α → Text) (t : Text) : Text :=
  (p.scan t).flatMap fun
    | .plain c => [c]
    | .hit h => f h

/-- The text without its tags. -/
def erase (p : Pattern α) (t : Text) : Text :=
  p.replace (fun _ => []) t

/-- The text with `f` of each tag and its column in its place. -/
def replaceAt (p : Pattern α) (f : Nat → Hit α → Text) (t : Text) : Text :=
  (locate 0 (p.scan t)).flatMap fun
    | (_, .plain c) => [c]
    | (column, .hit h) => f column h

/-- The tokens' text with `f` of each tag in its place, behind the reversed `out`; `f` may read and
change a state. -/
def replaceOnto (f : Hit α → σ → Text × σ) (out : Text) : List (Token α) → σ → Text × σ
  | [], s => (out.reverse, s)
  | .plain c :: tokens, s => replaceOnto f (c :: out) tokens s
  | .hit h :: tokens, s =>
      let (text, s) := f h s
      replaceOnto f (text.reverseAux out) tokens s

/-- The text with `f` of each tag in its place, the state passing through the tags from left to right. -/
def replaceWith (p : Pattern α) (f : Hit α → σ → Text × σ) (t : Text) (s : σ) : Text × σ :=
  replaceOnto f [] (p.scan t) s

/-! ### How a scan proceeds -/

theorem scanOnto_eq (p : Pattern α) (seen : List (Token α)) (skip : Nat) (t : Text) :
    p.scanOnto seen skip t = seen.reverse ++ p.scanOnto [] skip t := by
  induction t generalizing seen skip with
  | nil => simp [scanOnto]
  | cons c rest ih =>
      cases skip with
      | succ skip => simp only [scanOnto]; exact ih seen skip
      | zero =>
          simp only [scanOnto]
          split
          · rw [ih (.hit _ :: seen), ih [.hit _]]
            simp
          · rw [ih (.plain c :: seen), ih [.plain c]]
            simp

theorem scanOnto_skip (p : Pattern α) (seen : List (Token α)) (taken t : Text) :
    p.scanOnto seen taken.length (taken ++ t) = p.scanOnto seen 0 t := by
  induction taken with
  | nil => rfl
  | cons c taken ih => simpa [scanOnto] using ih

theorem scan_nil (p : Pattern α) : p.scan [] = [] := rfl

/-- Where a tag stands, the scan takes it and goes on behind it. -/
theorem scan_of_read {p : Pattern α} {t rest : Text} {hit : Hit α}
    (h : p.read t = some (hit, rest)) : p.scan t = .hit hit :: p.scan rest := by
  have whole := p.raw_append h
  cases raw : hit.raw with
  | nil => exact absurd raw (p.raw_ne_nil h)
  | cons c taken =>
      rw [raw, List.cons_append] at whole
      subst whole
      simp only [scan, scanOnto, h, raw, List.length_cons, Nat.add_one_sub_one]
      rw [scanOnto_skip, scanOnto_eq]
      simp

/-- Where no tag stands, the scan takes one character. -/
theorem scan_of_not_read {p : Pattern α} {c : Char} {t : Text} (h : p.read (c :: t) = none) :
    p.scan (c :: t) = .plain c :: p.scan t := by
  simp only [scan, scanOnto, h]
  rw [scanOnto_eq]
  simp

/-- What holds of the empty text, and of a text if it holds of the rest behind its first token,
holds of every text. -/
theorem scan_induction (p : Pattern α) {motive : Text → Prop} (nil : motive [])
    (plain : ∀ c t, p.read (c :: t) = none → motive t → motive (c :: t))
    (hit : ∀ t found rest, p.read t = some (found, rest) → motive rest → motive t) (t : Text) :
    motive t := by
  induction length : t.length using Nat.strongRecOn generalizing t with
  | ind n ih =>
      cases t with
      | nil => exact nil
      | cons c t =>
          cases read : p.read (c :: t) with
          | none =>
              have shorter : t.length < n := by
                rw [← length, List.length_cons]
                omega
              exact plain c t read (ih t.length shorter t rfl)
          | some found =>
              have shorter : found.2.length < n := by
                have sum := congrArg List.length (p.raw_append read)
                have solid := List.length_pos_iff.2 (p.raw_ne_nil read)
                rw [List.length_append, length] at sum
                omega
              exact hit (c :: t) found.1 found.2 read (ih found.2.length shorter found.2 rfl)

/-- A scan loses nothing: the tokens' characters are the text. -/
theorem scan_flatMap_raw (p : Pattern α) (t : Text) : (p.scan t).flatMap Token.raw = t := by
  induction t using p.scan_induction with
  | nil => rfl
  | plain c t unread ih =>
      rw [scan_of_not_read unread, List.flatMap_cons, ih]
      rfl
  | hit t found rest read ih =>
      rw [scan_of_read read, List.flatMap_cons, ih]
      exact p.raw_append read

theorem replaceOnto_eq (f : Hit α → σ → Text × σ) (out : Text) (tokens : List (Token α)) (s : σ) :
    replaceOnto f out tokens s =
      (out.reverse ++ (replaceOnto f [] tokens s).1, (replaceOnto f [] tokens s).2) := by
  induction tokens generalizing out s with
  | nil => simp [replaceOnto]
  | cons token tokens ih =>
      cases token with
      | plain c =>
          simp only [replaceOnto]
          rw [ih (c :: out), ih [c]]
          simp
      | hit h =>
          simp only [replaceOnto]
          rw [ih ((f h s).1.reverseAux out), ih ((f h s).1.reverseAux [])]
          simp [List.reverseAux_eq]

end Pattern

end MailTemplate
