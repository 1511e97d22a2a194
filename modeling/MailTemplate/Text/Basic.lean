/-
Module: MailTemplate.Text.Basic
Purpose: Texts as lists of characters, their size in bytes, lines, joining and splitting.
Main exports: Text, Text.byteLength, Text.splitOn, Text.lines, Text.join, Text.splitFirst,
  Text.dropPrefix?, Text.takeRun, Text.precedes, Text.Ranges.contains
-/

/-!
A template, a name, a value and a markup are all *texts*: lists of characters.  Everything that reads
a text takes characters off its head, so definitions recurse on the list and a proof follows them by
induction.  Positions are counted in characters; where an answer speaks of bytes, `byteLength` of the
part before the position gives the number.
-/

namespace MailTemplate

/-- A sequence of characters: a template, a component's markup, a variable's name or its value. -/
abbrev Text := List Char

namespace Text

/-- The number of bytes a text takes in UTF-8. -/
def byteLength (t : Text) : Nat :=
  t.foldl (fun n c => n + c.utf8Size) 0

/-- Cuts a text at every `sep`; `piece` holds, reversed, what was read since the last cut. -/
def splitOnto (sep : Char) (piece : Text) : Text → List Text
  | [] => [piece.reverse]
  | c :: rest =>
      if c = sep then piece.reverse :: splitOnto sep [] rest
      else splitOnto sep (c :: piece) rest

/-- The pieces between the occurrences of `sep`, always at least one. -/
def splitOn (sep : Char) (t : Text) : List Text :=
  splitOnto sep [] t

/-- The lines of a text, without their line feeds.  A carriage return stays with its line. -/
def lines (t : Text) : List Text :=
  splitOn '\n' t

/-- The pieces in a row with `sep` between neighbours. -/
def join (sep : Text) (pieces : List Text) : Text :=
  List.intercalate sep pieces

/-- The longest initial run of characters in a class, and what follows it. -/
def takeRun (p : Char → Bool) (t : Text) : Text × Text :=
  (t.takeWhile p, t.dropWhile p)

/-- What stands before and after the first `sep`, if there is one. -/
def splitFirst (sep : Char) (t : Text) : Option (Text × Text) :=
  match takeRun (· != sep) t with
  | (_, []) => none
  | (before, _ :: after) => some (before, after)

/-- What follows `word` at the head of a text, if it stands there. -/
def dropPrefix? : Text → Text → Option Text
  | [], t => some t
  | _ :: _, [] => none
  | w :: word, c :: t => if w = c then dropPrefix? word t else none

/-- Whether a text begins with `word`. -/
def startsWith (word t : Text) : Bool :=
  (dropPrefix? word t).isSome

/-- Whether a text comes before another: the first difference decides by code point, and a text comes
before those that it begins. -/
def precedes : Text → Text → Bool
  | _, [] => false
  | [], _ :: _ => true
  | c :: s, d :: t => if c = d then precedes s t else c.toNat < d.toNat

/-- Closed ranges of code points, as the tables of character classes list them. -/
abbrev Ranges := List (Nat × Nat)

/-- Whether a character's code point lies in one of the ranges. -/
def Ranges.contains (ranges : Ranges) (c : Char) : Bool :=
  ranges.any fun r => r.1 ≤ c.toNat && c.toNat ≤ r.2

/-! ### Nothing is lost -/

theorem takeRun_append (p : Char → Bool) (t : Text) : (takeRun p t).1 ++ (takeRun p t).2 = t :=
  List.takeWhile_append_dropWhile

theorem takeRun_all {p : Char → Bool} {t : Text} {c : Char} (h : c ∈ (takeRun p t).1) :
    p c = true := by
  have all : (t.takeWhile p).all p = true := List.all_takeWhile
  exact List.all_eq_true.1 all c h

theorem eq_append_of_dropPrefix? {word t rest : Text} (h : dropPrefix? word t = some rest) :
    t = word ++ rest := by
  induction word generalizing t with
  | nil => simpa [dropPrefix?] using h
  | cons w word ih =>
      cases t with
      | nil => simp [dropPrefix?] at h
      | cons c t =>
          by_cases hc : w = c
          · rw [dropPrefix?, if_pos hc] at h
            rw [ih h, hc, List.cons_append]
          · rw [dropPrefix?, if_neg hc] at h
            exact absurd h (by simp)

theorem dropPrefix?_append (word rest : Text) : dropPrefix? word (word ++ rest) = some rest := by
  induction word with
  | nil => rfl
  | cons w word ih => simp [dropPrefix?, ih]

/-! ### Bytes add up -/

theorem byteLength_cons (c : Char) (t : Text) : byteLength (c :: t) = c.utf8Size + byteLength t := by
  have shift (n : Nat) :
      t.foldl (fun n c => n + c.utf8Size) n = n + t.foldl (fun n c => n + c.utf8Size) 0 := by
    induction t generalizing n with
    | nil => simp
    | cons d t ih => rw [List.foldl_cons, List.foldl_cons, ih, ih (0 + d.utf8Size)]; omega
  rw [byteLength, List.foldl_cons, shift, Nat.zero_add, byteLength]

theorem byteLength_append (s t : Text) : byteLength (s ++ t) = byteLength s + byteLength t := by
  induction s with
  | nil => simp [byteLength]
  | cons c s ih => rw [List.cons_append, byteLength_cons, byteLength_cons, ih, Nat.add_assoc]

/-! ### Texts are in one order -/

theorem precedes_trans {s t u : Text} (st : s.precedes t = true) (tu : t.precedes u = true) :
    s.precedes u = true := by
  induction s generalizing t u with
  | nil =>
      cases t <;> cases u <;> simp [precedes] at st tu ⊢
  | cons c s ih =>
      cases t with
      | nil => simp [precedes] at st
      | cons d t =>
          cases u with
          | nil => simp [precedes] at tu
          | cons e u =>
              rw [precedes] at st tu ⊢
              by_cases cd : c = d
              · subst cd
                rw [if_pos rfl] at st
                by_cases ce : c = e
                · rw [if_pos ce] at tu ⊢
                  exact ih st tu
                · rwa [if_neg ce] at tu ⊢
              · rw [if_neg cd, decide_eq_true_eq] at st
                by_cases de : d = e
                · subst de
                  rwa [if_neg cd, decide_eq_true_eq]
                · rw [if_neg de, decide_eq_true_eq] at tu
                  have ce : c ≠ e := fun same => by subst same; omega
                  rw [if_neg ce, decide_eq_true_eq]
                  omega

theorem precedes_irrefl (t : Text) : t.precedes t = false := by
  induction t with
  | nil => rfl
  | cons c t ih => rw [precedes, if_pos rfl, ih]

theorem precedes_of_ne {s t : Text} (different : s ≠ t) (st : ¬ s.precedes t = true) :
    t.precedes s = true := by
  induction s generalizing t with
  | nil => cases t <;> simp [precedes] at different st
  | cons c s ih =>
      cases t with
      | nil => rfl
      | cons d t =>
          rw [precedes] at st ⊢
          by_cases cd : c = d
          · subst cd
            rw [if_pos rfl] at st ⊢
            exact ih (fun same => different (by rw [same])) st
          · rw [if_neg cd, decide_eq_true_eq] at st
            rw [if_neg (Ne.symm cd), decide_eq_true_eq]
            have apart : c.toNat ≠ d.toNat := fun same => cd (Char.ext (UInt32.toNat_inj.1 same))
            omega

end Text

end MailTemplate
