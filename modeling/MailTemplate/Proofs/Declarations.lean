/-
Module: MailTemplate.Proofs.Declarations
Purpose: When the common form of a block of declarations keeps each declaration whole.
Main exports: Enclosure, outerDeclarations, outerDeclarations_join, wholeDeclarations, EvenlySpaced,
  join_cleanPieces, evenlySpaced_join, tidyDeclarations_whole
-/
import MailTemplate.Proofs.Cascade

/-!
A semicolon inside a quoted literal or inside parentheses belongs to the declaration it stands in.
The common form of a block knows neither: it cuts at every semicolon, trims the pieces and joins
them again.  So it puts one space behind each semicolon and takes out what other blanks there are,
inside a declaration as well as between two.

It therefore keeps those declarations whole in which the semicolons are spaced in this way already,
and no others.  The proof compares two cuts of one block: at all semicolons, and at the outer ones.
-/

namespace MailTemplate

/-! ### Declarations with semicolons inside -/

/-- What is open at a place of a block: a literal, by its quote mark, and a number of parentheses.
Inside a literal a backslash takes away the meaning of the character behind it. -/
structure Enclosure where
  quote : Option Char
  escaped : Bool
  depth : Nat
deriving Repr, Inhabited, DecidableEq

namespace Enclosure

/-- Nothing is open. -/
def outside : Enclosure := ⟨none, false, 0⟩

/-- What is open behind a character.  A parenthesis that closes nothing is passed over. -/
def step (enclosure : Enclosure) (c : Char) : Enclosure :=
  match enclosure.quote with
  | some q =>
      if enclosure.escaped then { enclosure with escaped := false }
      else if c == '\\' then { enclosure with escaped := true }
      else if c == q then { enclosure with quote := none }
      else enclosure
  | none =>
      if isQuote c then { enclosure with quote := some c }
      else if c == '(' then { enclosure with depth := enclosure.depth + 1 }
      else if c == ')' then { enclosure with depth := enclosure.depth - 1 }
      else enclosure

/-- What is open behind a text. -/
def behind (enclosure : Enclosure) (t : Text) : Enclosure :=
  t.foldl step enclosure

end Enclosure

/-- Cuts at the semicolons where nothing is open; `piece` holds, reversed, what was read since the
last cut. -/
def outerPiecesOnto (piece : Text) (enclosure : Enclosure) : Text → List Text
  | [] => [piece.reverse]
  | c :: rest =>
      if c = ';' ∧ enclosure = .outside then piece.reverse :: outerPiecesOnto [] enclosure rest
      else outerPiecesOnto (c :: piece) (enclosure.step c) rest

/-- The declarations of a block: the pieces between the semicolons that stand neither in a literal
nor in parentheses. -/
def outerDeclarations (block : Text) : List Text :=
  outerPiecesOnto [] .outside block

/-- A text that closes what it opens and has no semicolon but in literals and parentheses. -/
structure IsDeclaration (t : Text) : Prop where
  inside : ∀ front back, t = front ++ ';' :: back → Enclosure.outside.behind front ≠ .outside
  closed : Enclosure.outside.behind t = .outside

/-- There is always a piece, be it an empty one. -/
theorem outerPiecesOnto_ne_nil (piece : Text) (enclosure : Enclosure) (t : Text) :
    outerPiecesOnto piece enclosure t ≠ [] := by
  induction t generalizing piece enclosure with
  | nil => simp [outerPiecesOnto]
  | cons c t ih =>
      rw [outerPiecesOnto]
      split
      · exact List.cons_ne_nil _ _
      · exact ih _ _

/-- The pieces with semicolons between them are the text. -/
theorem join_outerPiecesOnto (piece : Text) (enclosure : Enclosure) (t : Text) :
    Text.join [';'] (outerPiecesOnto piece enclosure t) = piece.reverse ++ t := by
  induction t generalizing piece enclosure with
  | nil => simp [outerPiecesOnto, Text.join]
  | cons c t ih =>
      rw [outerPiecesOnto]
      split
      · rename_i here
        rw [Text.join_cons _ _ (outerPiecesOnto_ne_nil _ _ _), ih, here.1]
        rfl
      · rw [ih]
        simp

/-- The declarations make up the block. -/
theorem join_outerDeclarations (block : Text) :
    Text.join [';'] (outerDeclarations block) = block :=
  join_outerPiecesOnto [] .outside block

/-- Behind one whole piece that is closed, a semicolon begins the next. -/
theorem outerPiecesOnto_append {piece t : Text} {enclosure : Enclosure}
    (whole : outerPiecesOnto piece enclosure t = [piece.reverse ++ t])
    (closed : enclosure.behind t = .outside) (rest : Text) :
    outerPiecesOnto piece enclosure (t ++ ';' :: rest) =
      (piece.reverse ++ t) :: outerDeclarations rest := by
  induction t generalizing piece enclosure with
  | nil =>
      obtain rfl : enclosure = .outside := closed
      simp [outerPiecesOnto, outerDeclarations]
  | cons c t ih =>
      rw [outerPiecesOnto] at whole
      rw [List.cons_append, outerPiecesOnto]
      split at whole
      · exact absurd (List.cons.inj whole).2 (outerPiecesOnto_ne_nil _ _ _)
      · rename_i inside
        have longer : piece.reverse ++ c :: t = (c :: piece).reverse ++ t := by simp
        rw [if_neg inside, longer]
        exact ih (whole.trans (by rw [longer])) closed

/-- A text with a semicolon where nothing is open is cut there, and only such a text is cut. -/
theorem outerPiecesOnto_eq_singleton_iff {piece t : Text} {enclosure : Enclosure} :
    outerPiecesOnto piece enclosure t = [piece.reverse ++ t] ↔
      ∀ front back, t = front ++ ';' :: back → enclosure.behind front ≠ .outside := by
  induction t generalizing piece enclosure with
  | nil => simp [outerPiecesOnto]
  | cons c t ih =>
      rw [outerPiecesOnto]
      split
      · rename_i here
        refine ⟨fun same => absurd (List.cons.inj same).2 (outerPiecesOnto_ne_nil _ _ _), ?_⟩
        exact fun clear => absurd here.2 (clear [] t (by rw [here.1]; rfl))
      · rename_i inside
        have longer : piece.reverse ++ c :: t = (c :: piece).reverse ++ t := by simp
        rw [longer, ih]
        constructor
        · rintro clear front back same
          cases front with
          | nil => exact fun outside => inside ⟨(List.cons.inj same).1, outside⟩
          | cons d front =>
              obtain ⟨rfl, rfl⟩ := List.cons.inj same
              exact clear front back rfl
        · rintro clear front back rfl
          exact clear (c :: front) back rfl

/-- A declaration is one piece that is closed where it ends. -/
theorem isDeclaration_iff {t : Text} :
    IsDeclaration t ↔ outerDeclarations t = [t] ∧ Enclosure.outside.behind t = .outside := by
  have single : outerDeclarations t = [t] ↔
      ∀ front back, t = front ++ ';' :: back → Enclosure.outside.behind front ≠ .outside :=
    outerPiecesOnto_eq_singleton_iff
  exact ⟨fun own => ⟨single.2 own.inside, own.closed⟩, fun own => ⟨single.1 own.1, own.2⟩⟩

instance (t : Text) : Decidable (IsDeclaration t) :=
  decidable_of_iff _ isDeclaration_iff.symm

/-- Declarations with semicolons between them are the declarations of their block. -/
theorem outerDeclarations_join {declarations : List Text} (nonempty : declarations ≠ [])
    (each : ∀ t ∈ declarations, IsDeclaration t) :
    outerDeclarations (Text.join [';'] declarations) = declarations := by
  induction declarations with
  | nil => exact absurd rfl nonempty
  | cons first others ih =>
      rw [List.forall_mem_cons, isDeclaration_iff] at each
      by_cases last : others = []
      · rw [last, Text.join_singleton]
        exact each.1.1
      · rw [Text.join_cons _ _ last, outerDeclarations]
        exact (outerPiecesOnto_append each.1.1 each.1.2 _).trans
          (congrArg (first :: ·) (ih last each.2))

/-- The declarations of a block without the blanks around them, and without those that are empty
then. -/
def properDeclarations (block : Text) : List Text :=
  ((outerDeclarations block).map Text.trim).filter fun t => !t.isEmpty

/-- The declarations of a block as they are written into a tag: each whole, but without blanks
around it and with single quote marks for double ones. -/
def wholeDeclarations (block : Text) : Text :=
  Text.join declarationSeparator ((properDeclarations block).map fun t => t.map singleQuoted)

/-! ### Texts without blanks at their ends -/

/-- A text that is not empty and has no blank at either end. -/
structure Text.IsTrimmed (t : Text) : Prop where
  head : ∃ c ∈ t.head?, isBlank c = false
  last : ∃ c ∈ t.getLast?, isBlank c = false

namespace Text

/-- Trimming changes nothing of a trimmed text. -/
theorem IsTrimmed.trim_eq {t : Text} (trimmed : t.IsTrimmed) : trim t = t := by
  obtain ⟨first, front, solidFirst⟩ := trimmed.head
  obtain ⟨last, back, solidLast⟩ := trimmed.last
  exact trim_eq_self front back solidFirst solidLast

instance (t : Text) : Decidable t.IsTrimmed :=
  have : Decidable (∃ c ∈ t.head?, isBlank c = false) := Option.decidableExistsMem _
  have : Decidable (∃ c ∈ t.getLast?, isBlank c = false) := Option.decidableExistsMem _
  decidable_of_iff (_ ∧ _)
    ⟨fun ends => ⟨ends.1, ends.2⟩, fun trimmed => ⟨trimmed.head, trimmed.last⟩⟩

/-- A trimmed text has a first character. -/
theorem IsTrimmed.ne_nil {t : Text} (trimmed : t.IsTrimmed) : t ≠ [] := by
  rintro rfl
  obtain ⟨_, blank, _⟩ := trimmed.head
  exact absurd blank (by simp)

/-- What trimming leaves is trimmed, if it is anything. -/
theorem isTrimmed_trim {t : Text} (nonempty : trim t ≠ []) : (trim t).IsTrimmed := by
  constructor
  · have start := trimStart_trim t
    rw [trimStart] at start
    have first := List.head?_dropWhile_not isBlank (trim t)
    rw [start] at first
    cases whole : trim t with
    | nil => exact absurd whole nonempty
    | cons c rest => exact ⟨c, rfl, by simpa [whole] using first⟩
  · have ends : (trim t).reverse.dropWhile isBlank = (trim t).reverse := by
      have same := congrArg List.reverse (trimEnd_trimEnd (trimStart t))
      rwa [← trim, trimEnd, List.reverse_reverse] at same
    have first := List.head?_dropWhile_not isBlank (trim t).reverse
    rw [ends] at first
    cases whole : (trim t).reverse with
    | nil => exact absurd (List.reverse_eq_nil_iff.1 whole) nonempty
    | cons c rest =>
        refine ⟨c, ?_, by simpa [whole] using first⟩
        rw [← List.head?_reverse, whole]
        rfl

end Text

/-! ### The pieces between all semicolons -/

/-- The pieces of a text between its semicolons, without blanks around them, none empty. -/
def cleanPieces (t : Text) : List Text :=
  ((Text.splitOn ';' t).map Text.trim).filter fun piece => !piece.isEmpty

/-- Tidying joins the clean pieces, with single quote marks in them. -/
theorem tidyDeclarations_eq (block : Text) :
    tidyDeclarations block =
      Text.join declarationSeparator ((cleanPieces block).map fun t => t.map singleQuoted) :=
  rfl

/-- A semicolon parts the pieces on both sides of it. -/
theorem cleanPieces_semicolon (s t : Text) :
    cleanPieces (s ++ ';' :: t) = cleanPieces s ++ cleanPieces t := by
  rw [cleanPieces, Text.splitOn_append, List.map_append, List.filter_append]
  rfl

/-- Texts that are joined with semicolons have the pieces of each. -/
theorem cleanPieces_join {texts : List Text} (nonempty : texts ≠ []) :
    cleanPieces (Text.join [';'] texts) = texts.flatMap cleanPieces := by
  induction texts with
  | nil => exact absurd rfl nonempty
  | cons first others ih =>
      by_cases last : others = []
      · rw [last, Text.join_singleton, List.flatMap_singleton]
      · rw [Text.join_cons _ _ last]
        exact (cleanPieces_semicolon first _).trans
          (congrArg (cleanPieces first ++ ·) (ih last))

/-- A text without semicolons is one piece. -/
theorem cleanPieces_of_not_mem {t : Text} (single : ';' ∉ t) (trimmed : t.IsTrimmed) :
    cleanPieces t = [t] := by
  rw [cleanPieces, Text.splitOn_of_not_mem single, List.map_singleton, trimmed.trim_eq]
  simp [trimmed.ne_nil]

/-- Padding in front adds no piece and changes none. -/
theorem cleanPieces_padding_append {pad : Text} (blank : pad.isPadding = true) (t : Text) :
    cleanPieces (pad ++ t) = cleanPieces t := by
  have clear : ';' ∉ pad := Text.not_mem_of_isPadding blank (by decide)
  rw [cleanPieces, cleanPieces, Text.splitOn_clear_append clear]
  cases Text.splitOn ';' t with
  | nil => rfl
  | cons piece pieces =>
      have same : Text.trim (pad ++ piece) = Text.trim piece := by
        have padded := Text.trim_padded blank (rfl : Text.isPadding [] = true) piece
        rwa [List.append_nil] at padded
      rw [List.modifyHead_cons, List.map_cons, List.map_cons, same]

/-- Padding behind adds no piece and changes none. -/
theorem cleanPieces_append_padding {pad : Text} (blank : pad.isPadding = true) (t : Text) :
    cleanPieces (t ++ pad) = cleanPieces t := by
  -- By the number of semicolons: the padding belongs to what stands behind the last one.
  induction length : t.length using Nat.strongRecOn generalizing t with
  | ind n ih =>
      by_cases inside : ';' ∈ t
      · obtain ⟨first, rest, rfl, _⟩ := List.eq_append_cons_of_mem inside
        have shorter : rest.length < n := by
          rw [← length]
          simp
          omega
        rw [List.append_assoc, List.cons_append, cleanPieces_semicolon, cleanPieces_semicolon,
          ih rest.length shorter rest rfl]
      · have clear : ';' ∉ t ++ pad := by
          rw [List.mem_append, not_or]
          exact ⟨inside, Text.not_mem_of_isPadding blank (by decide)⟩
        have same : Text.trim (t ++ pad) = Text.trim t :=
          Text.trim_padded (rfl : Text.isPadding [] = true) blank t
        rw [cleanPieces, cleanPieces, Text.splitOn_of_not_mem clear,
          Text.splitOn_of_not_mem inside, List.map_singleton, same, List.map_singleton]

/-- Blanks around a text make no difference to its pieces. -/
theorem cleanPieces_trim (t : Text) : cleanPieces (Text.trim t) = cleanPieces t := by
  obtain ⟨pad, blank, same⟩ := Text.trim_append_padding_eq t
  have whole : t.takeWhile isBlank ++ (Text.trim t ++ pad) = t := by
    rw [same, Text.takeWhile_append_trimStart]
  conv_rhs => rw [← whole]
  rw [cleanPieces_padding_append (Text.isPadding_takeWhile t), cleanPieces_append_padding blank]

/-- Clean pieces are trimmed and hold no semicolon. -/
theorem of_mem_cleanPieces {t piece : Text} (inside : piece ∈ cleanPieces t) :
    piece.IsTrimmed ∧ ';' ∉ piece := by
  obtain ⟨among, nonempty⟩ := List.mem_filter.1 inside
  obtain ⟨written, split, rfl⟩ := List.mem_map.1 among
  refine ⟨Text.isTrimmed_trim (by simpa using nonempty), fun semicolon => ?_⟩
  exact Text.not_mem_of_mem_splitOn split (Text.trim_subset written semicolon)

/-! ### Semicolons with one space behind them -/

/-- Whether a character is neither a blank nor a semicolon. -/
def isWording (c : Char) : Bool :=
  !isBlank c && c != ';'

/-- A text in which each semicolon stands as between two declarations: something else than a blank
or a semicolon stands right in front of it, and behind it a space and then such a character. -/
def EvenlySpaced (t : Text) : Prop :=
  ∀ front back, t = front ++ ';' :: back →
    (∃ c ∈ front.getLast?, isWording c = true) ∧
      ∃ c rest, back = ' ' :: c :: rest ∧ isWording c = true

/-- What is neither a blank nor a semicolon. -/
theorem isWording_iff {c : Char} : isWording c = true ↔ isBlank c = false ∧ c ≠ ';' := by
  simp [isWording]

/-- What stands behind a blank is spaced evenly if the whole is. -/
theorem EvenlySpaced.behind {s t : Text} {c : Char} (even : EvenlySpaced (s ++ c :: t))
    (blank : isBlank c = true) : EvenlySpaced t := by
  rintro front back rfl
  obtain ⟨⟨d, last, wording⟩, next⟩ := even (s ++ c :: front) back (by simp)
  refine ⟨?_, next⟩
  cases front with
  | nil =>
      rw [List.getLast?_concat] at last
      obtain rfl := Option.some.inj last
      rw [isWording_iff, blank] at wording
      exact absurd wording.1 (by simp)
  | cons e front =>
      rw [List.getLast?_append_of_ne_nil _ (by simp), List.getLast?_cons_cons] at last
      exact ⟨d, last, wording⟩

/-- What stands in front of a semicolon is spaced evenly if the whole is. -/
theorem EvenlySpaced.before {s t : Text} (even : EvenlySpaced (s ++ ';' :: t)) :
    EvenlySpaced s := by
  rintro front back rfl
  obtain ⟨last, c, rest, next, wording⟩ := even front (back ++ ';' :: t) (by simp)
  refine ⟨last, ?_⟩
  match back with
  | [] => exact absurd (List.cons.inj next).1 (by decide)
  | [d] =>
      obtain ⟨rfl, behind⟩ := List.cons.inj next
      obtain ⟨rfl, _⟩ := List.cons.inj behind
      exact absurd wording (by decide)
  | d :: e :: back =>
      obtain ⟨rfl, behind⟩ := List.cons.inj next
      obtain ⟨rfl, _⟩ := List.cons.inj behind
      exact ⟨e, back, rfl, wording⟩

/-- Texts that are joined as declarations are spaced evenly if the result is. -/
theorem evenlySpaced_of_join {texts : List Text}
    (even : EvenlySpaced (Text.join declarationSeparator texts)) :
    ∀ t ∈ texts, EvenlySpaced t := by
  induction texts with
  | nil => exact fun _ inside => absurd inside List.not_mem_nil
  | cons first others ih =>
      by_cases last : others = []
      · rw [last, Text.join_singleton] at even
        rw [last]
        exact List.forall_mem_singleton.2 even
      · rw [Text.join_cons _ _ last] at even
        have later : EvenlySpaced (Text.join declarationSeparator others) :=
          EvenlySpaced.behind (s := first ++ [';']) (c := ' ')
            (by simpa [declarationSeparator] using even) (by decide)
        exact List.forall_mem_cons.2 ⟨EvenlySpaced.before even, ih later⟩

/-- A semicolon of two texts joined as declarations stands between them, or in the second if the
first has none. -/
theorem semicolon_of_join {first t front back : Text} (single : ';' ∉ first)
    (same : first ++ (declarationSeparator ++ t) = front ++ ';' :: back) :
    front = first ∧ back = ' ' :: t ∨
      ∃ more, front = first ++ (declarationSeparator ++ more) ∧ t = more ++ ';' :: back := by
  have same : first ++ ';' :: ' ' :: t = front ++ ';' :: back := same
  by_cases inside : ';' ∈ front
  · obtain ⟨start, others, rfl, clear⟩ := List.eq_append_cons_of_mem inside
    rw [List.append_assoc, List.cons_append] at same
    obtain ⟨rfl, behind⟩ := Text.append_stop_inj single clear same
    cases others with
    | nil => exact absurd (List.cons.inj behind).1 (by decide)
    | cons d more =>
        obtain ⟨rfl, rfl⟩ := List.cons.inj behind
        exact .inr ⟨more, rfl, rfl⟩
  · obtain ⟨rfl, rfl⟩ := Text.append_stop_inj single inside same
    exact .inl ⟨rfl, rfl⟩

/-- A text without semicolons may be put in front. -/
theorem EvenlySpaced.cons {first t : Text} (even : EvenlySpaced t) (trimmed : first.IsTrimmed)
    (single : ';' ∉ first) (head : ∃ c ∈ t.head?, isWording c = true) :
    EvenlySpaced (first ++ (declarationSeparator ++ t)) := by
  intro front back same
  rcases semicolon_of_join single same with ⟨rfl, rfl⟩ | ⟨more, rfl, rfl⟩
  · obtain ⟨c, last, solid⟩ := trimmed.last
    obtain ⟨d, next, wording⟩ := head
    obtain ⟨rest, rfl⟩ := List.head?_eq_some_iff.1 next
    have other : c ≠ ';' := fun same => single (same ▸ List.mem_of_getLast? last)
    exact ⟨⟨c, last, isWording_iff.2 ⟨solid, other⟩⟩, d, rest, rfl, wording⟩
  · obtain ⟨⟨c, last, wording⟩, next⟩ := even more back rfl
    have nonempty : more ≠ [] := by
      rintro rfl
      exact absurd last (by simp)
    refine ⟨⟨c, ?_, wording⟩, next⟩
    rwa [List.getLast?_append_of_ne_nil _ (by simp [declarationSeparator]),
      List.getLast?_append_of_ne_nil _ nonempty]

/-- Texts without semicolons that are joined as declarations are spaced evenly. -/
theorem evenlySpaced_join {texts : List Text} (each : ∀ t ∈ texts, t.IsTrimmed ∧ ';' ∉ t) :
    EvenlySpaced (Text.join declarationSeparator texts) := by
  induction texts with
  | nil => exact fun front back same => absurd same (by simp [Text.join])
  | cons first others ih =>
      obtain ⟨⟨trimmed, single⟩, later⟩ := List.forall_mem_cons.1 each
      cases others with
      | nil =>
          rw [Text.join_singleton]
          rintro front back rfl
          exact absurd (by simp) single
      | cons second others =>
          rw [Text.join_cons _ _ (List.cons_ne_nil _ _)]
          refine (ih later).cons trimmed single ?_
          obtain ⟨⟨⟨c, head, solid⟩, _⟩, clear⟩ := later second List.mem_cons_self
          obtain ⟨rest, rfl⟩ := List.head?_eq_some_iff.1 head
          have other : c ≠ ';' := fun same => clear (same ▸ List.mem_cons_self)
          refine ⟨c, ?_, isWording_iff.2 ⟨solid, other⟩⟩
          cases others with
          | nil => rfl
          | cons third others => rw [Text.join_cons _ _ (List.cons_ne_nil _ _)]; rfl

/-- A text that is spaced evenly is made up of its pieces. -/
theorem join_cleanPieces {t : Text} (trimmed : t.IsTrimmed) (even : EvenlySpaced t) :
    Text.join declarationSeparator (cleanPieces t) = t := by
  -- By the number of semicolons: what stands behind the first one is a text of the same kind.
  induction length : t.length using Nat.strongRecOn generalizing t with
  | ind n ih =>
      by_cases inside : ';' ∈ t
      · obtain ⟨first, back, rfl, single⟩ := List.eq_append_cons_of_mem inside
        obtain ⟨⟨c, last, wording⟩, d, rest, rfl, next⟩ := even first back rfl
        have front : Text.IsTrimmed first := by
          obtain ⟨e, head, solid⟩ := trimmed.head
          rw [List.head?_append_of_ne_nil _ (by rintro rfl; exact absurd last (by simp))] at head
          exact ⟨⟨e, head, solid⟩, c, last, (isWording_iff.1 wording).1⟩
        have behind : Text.IsTrimmed (d :: rest) := by
          obtain ⟨e, ends, solid⟩ := trimmed.last
          rw [List.getLast?_append_of_ne_nil _ (by simp), List.getLast?_cons_cons,
            List.getLast?_cons_cons] at ends
          exact ⟨⟨d, rfl, (isWording_iff.1 next).1⟩, e, ends, solid⟩
        have later : EvenlySpaced (d :: rest) :=
          EvenlySpaced.behind (s := first ++ [';']) (c := ' ') (by simpa using even) (by decide)
        have shorter : (d :: rest).length < n := by
          rw [← length]
          simp
          omega
        have joined := ih _ shorter behind later rfl
        have pieces : cleanPieces (' ' :: d :: rest) = cleanPieces (d :: rest) :=
          cleanPieces_padding_append (by decide : Text.isPadding [' '] = true) _
        have nonempty : cleanPieces (d :: rest) ≠ [] := by
          intro empty
          rw [empty] at joined
          exact absurd joined (by simp [Text.join])
        rw [cleanPieces_semicolon, cleanPieces_of_not_mem single front, pieces,
          List.singleton_append, Text.join_cons _ _ nonempty, joined]
        rfl
      · rw [cleanPieces_of_not_mem inside trimmed, Text.join_singleton]

/-- A trimmed text with even spaces has a piece. -/
theorem cleanPieces_ne_nil {t : Text} (trimmed : t.IsTrimmed) (even : EvenlySpaced t) :
    cleanPieces t ≠ [] := by
  intro empty
  have joined := join_cleanPieces trimmed even
  rw [empty] at joined
  exact trimmed.ne_nil joined.symm

/-- Pieces that are joined have even spaces between them. -/
theorem evenlySpaced_join_cleanPieces (t : Text) :
    EvenlySpaced (Text.join declarationSeparator (cleanPieces t)) :=
  evenlySpaced_join fun _ inside => of_mem_cleanPieces inside

/-- The spacing is even just if cutting and joining change nothing. -/
theorem evenlySpaced_iff {t : Text} (trimmed : t.IsTrimmed) :
    EvenlySpaced t ↔ Text.join declarationSeparator (cleanPieces t) = t :=
  ⟨join_cleanPieces trimmed, fun same => same ▸ evenlySpaced_join_cleanPieces t⟩

/-- Texts that are spaced evenly are made up of their pieces. -/
theorem join_flatMap_cleanPieces {texts : List Text}
    (each : ∀ t ∈ texts, t.IsTrimmed ∧ EvenlySpaced t) :
    Text.join declarationSeparator (texts.flatMap cleanPieces) =
      Text.join declarationSeparator texts := by
  induction texts with
  | nil => rfl
  | cons first others ih =>
      obtain ⟨⟨trimmed, even⟩, later⟩ := List.forall_mem_cons.1 each
      have own := join_cleanPieces trimmed even
      cases others with
      | nil => rw [List.flatMap_singleton, own, Text.join_singleton]
      | cons second others =>
          have next := later second List.mem_cons_self
          have nonempty : (second :: others).flatMap cleanPieces ≠ [] := by
            rw [List.flatMap_cons]
            exact List.append_ne_nil_of_left_ne_nil (cleanPieces_ne_nil next.1 next.2) _
          rw [List.flatMap_cons, Text.join_rows _ (cleanPieces_ne_nil trimmed even) nonempty, own,
            ih later, Text.join_cons _ _ (List.cons_ne_nil _ _)]

/-! ### Quote marks -/

/-- Quote marks are wording, whichever they are. -/
theorem isWording_singleQuoted (c : Char) : isWording (singleQuoted c) = isWording c := by
  rw [singleQuoted]
  split
  · rename_i double
    rw [beq_iff_eq.1 double]
    decide
  · rfl

/-- Nothing but a quote mark becomes another character. -/
theorem singleQuoted_eq_iff {c d : Char} (noMark : isQuote d = false) :
    singleQuoted c = d ↔ c = d := by
  simp only [isQuote, Bool.or_eq_false_iff, beq_eq_false_iff_ne] at noMark
  rw [singleQuoted]
  split
  · rename_i double
    rw [beq_iff_eq.1 double]
    exact ⟨fun same => absurd same.symm noMark.2, fun same => absurd same.symm noMark.1⟩
  · rfl

/-- Which quote marks are written makes no difference to the spacing. -/
theorem evenlySpaced_singleQuoted_iff {t : Text} :
    EvenlySpaced (t.map singleQuoted) ↔ EvenlySpaced t := by
  constructor
  · rintro even front back rfl
    have marked : (front ++ ';' :: back).map singleQuoted =
        front.map singleQuoted ++ ';' :: back.map singleQuoted := by
      rw [List.map_append, List.map_cons]
      rfl
    obtain ⟨⟨c, last, wording⟩, d, rest, next, behind⟩ := even _ _ marked
    rw [List.getLast?_map] at last
    obtain ⟨c, own, rfl⟩ := Option.map_eq_some_iff.1 last
    obtain ⟨space, others, rfl, same, next⟩ := List.map_eq_cons_iff.1 next
    obtain ⟨d, others, rfl, rfl, rfl⟩ := List.map_eq_cons_iff.1 next
    rw [singleQuoted_eq_iff (by decide)] at same
    rw [isWording_singleQuoted] at wording behind
    exact ⟨⟨c, own, wording⟩, d, others, by rw [same], behind⟩
  · rintro even front back marked
    obtain ⟨front, others, rfl, rfl, next⟩ := List.map_eq_append_iff.1 marked
    obtain ⟨c, back, rfl, same, rfl⟩ := List.map_eq_cons_iff.1 next
    rw [singleQuoted_eq_iff (by decide)] at same
    subst same
    obtain ⟨⟨c, last, wording⟩, d, rest, rfl, behind⟩ := even front back rfl
    refine ⟨⟨singleQuoted c, ?_, by rwa [isWording_singleQuoted]⟩,
      singleQuoted d, rest.map singleQuoted, rfl, by rwa [isWording_singleQuoted]⟩
    rw [List.getLast?_map, Option.mem_def.1 last]
    rfl

/-- The separator holds no quote mark. -/
theorem join_singleQuoted (texts : List Text) :
    Text.join declarationSeparator (texts.map fun t => t.map singleQuoted) =
      (Text.join declarationSeparator texts).map singleQuoted := by
  induction texts with
  | nil => rfl
  | cons first others ih =>
      cases others with
      | nil => rw [List.map_singleton, Text.join_singleton, Text.join_singleton]
      | cons second others =>
          rw [List.map_cons, Text.join_cons _ _ (by simp), ih,
            Text.join_cons _ _ (List.cons_ne_nil _ _), List.map_append, List.map_append]
          rfl

/-! ### The main theorem -/

/-- Proper declarations are trimmed. -/
theorem isTrimmed_of_mem_properDeclarations {block t : Text}
    (inside : t ∈ properDeclarations block) : t.IsTrimmed := by
  obtain ⟨among, nonempty⟩ := List.mem_filter.1 inside
  obtain ⟨written, _, rfl⟩ := List.mem_map.1 among
  exact Text.isTrimmed_trim (by simpa using nonempty)

/-- Blanks around texts make no difference to their pieces, and empty texts have none. -/
theorem flatMap_cleanPieces_eq (texts : List Text) :
    texts.flatMap cleanPieces =
      ((texts.map Text.trim).filter fun t => !t.isEmpty).flatMap cleanPieces := by
  induction texts with
  | nil => rfl
  | cons first others ih =>
      rw [List.flatMap_cons, List.map_cons, ← cleanPieces_trim, ih]
      by_cases empty : Text.trim first = []
      · rw [empty, List.filter_cons_of_neg (by simp)]
        rfl
      · rw [List.filter_cons_of_pos (by simpa using empty), List.flatMap_cons]

/-- A block is cut into the pieces of its declarations. -/
theorem cleanPieces_block (block : Text) :
    cleanPieces block = (properDeclarations block).flatMap cleanPieces := by
  have cut := cleanPieces_join (outerPiecesOnto_ne_nil [] .outside block)
  rw [← outerDeclarations, join_outerDeclarations] at cut
  exact cut.trans (flatMap_cleanPieces_eq _)

/-- Whole declarations are joined and then have their quote marks changed. -/
theorem wholeDeclarations_eq (block : Text) :
    wholeDeclarations block =
      (Text.join declarationSeparator (properDeclarations block)).map singleQuoted :=
  join_singleQuoted _

/-- The common form keeps the declarations whole just if each of them is spaced evenly. -/
theorem tidyDeclarations_eq_wholeDeclarations_iff (block : Text) :
    tidyDeclarations block = wholeDeclarations block ↔
      ∀ declaration ∈ outerDeclarations block, EvenlySpaced (Text.trim declaration) := by
  have proper : (∀ declaration ∈ outerDeclarations block, EvenlySpaced (Text.trim declaration)) ↔
      ∀ t ∈ properDeclarations block, EvenlySpaced t := by
    constructor
    · intro even t inside
      obtain ⟨among, _⟩ := List.mem_filter.1 inside
      obtain ⟨declaration, written, rfl⟩ := List.mem_map.1 among
      exact even declaration written
    · intro even declaration inside
      by_cases empty : Text.trim declaration = []
      · rw [empty]
        exact fun front back same => absurd same (by simp)
      · exact even _ (List.mem_filter.2 ⟨List.mem_map_of_mem inside, by simpa using empty⟩)
  rw [proper, tidyDeclarations_eq, join_singleQuoted, wholeDeclarations_eq]
  constructor
  · intro same
    have even := evenlySpaced_join_cleanPieces block
    rw [← evenlySpaced_singleQuoted_iff, same, evenlySpaced_singleQuoted_iff] at even
    exact evenlySpaced_of_join even
  · intro even
    rw [cleanPieces_block, join_flatMap_cleanPieces fun t inside =>
      ⟨isTrimmed_of_mem_properDeclarations inside, even t inside⟩]

/-- A row of declarations with semicolons between them comes through whole just if no semicolon
inside one of them is spaced otherwise than the semicolons between two are.  Then it does so in each
rule made of it and in each tag that has it as its style. -/
theorem tidyDeclarations_whole (declarations : List Text) (nonempty : declarations ≠ [])
    (each : ∀ t ∈ declarations, IsDeclaration t) :
    outerDeclarations (Text.join [';'] declarations) = declarations ∧
      (tidyDeclarations (Text.join [';'] declarations) =
          wholeDeclarations (Text.join [';'] declarations) ↔
        ∀ t ∈ declarations, EvenlySpaced (Text.trim t)) ∧
      ((∀ t ∈ declarations, EvenlySpaced (Text.trim t)) →
        (∀ selectors, ∀ rule ∈ StyleRule.expand selectors (Text.join [';'] declarations),
          rule.declarations = wholeDeclarations (Text.join [';'] declarations)) ∧
        ∀ tag : OpenTag, tag.attribute? "style" = some (Text.join [';'] declarations) →
          ownDeclarations tag = wholeDeclarations (Text.join [';'] declarations)) := by
  have cut := outerDeclarations_join nonempty each
  have iff := tidyDeclarations_eq_wholeDeclarations_iff (Text.join [';'] declarations)
  rw [cut] at iff
  refine ⟨cut, iff, fun even => ⟨fun selectors rule inside => ?_, fun tag own => ?_⟩⟩
  · rw [StyleRule.expand] at inside
    split at inside
    · exact absurd inside List.not_mem_nil
    · obtain ⟨selector, _, rfl⟩ := List.mem_map.1 inside
      exact iff.2 even
  · rw [ownDeclarations, own]
    exact iff.2 even

/-- Declarations with semicolons inside that come through whole. -/
def quotedDeclarations : List Text :=
  ["content: \"a; b\"".toList, " src: url(data:font/woff; base64,AA) ".toList]

/-- Semicolons inside of declarations stay, where one space follows. -/
theorem tidyDeclarations_whole_quoted :
    (∀ t ∈ quotedDeclarations, IsDeclaration t) ∧
      (∀ t ∈ quotedDeclarations, EvenlySpaced (Text.trim t)) ∧
      tidyDeclarations (Text.join [';'] quotedDeclarations) =
        "content: 'a; b'; src: url(data:font/woff; base64,AA)".toList := by
  have each : ∀ t ∈ quotedDeclarations, IsDeclaration t := by decide +kernel
  have even : ∀ t ∈ quotedDeclarations, EvenlySpaced (Text.trim t) := by
    have joined : ∀ t ∈ quotedDeclarations, (Text.trim t).IsTrimmed ∧
        Text.join declarationSeparator (cleanPieces (Text.trim t)) = Text.trim t := by
      decide +kernel
    exact fun t inside => (evenlySpaced_iff (joined t inside).1).2 (joined t inside).2
  refine ⟨each, even, ?_⟩
  rw [(tidyDeclarations_whole quotedDeclarations (by decide) each).2.1.2 even]
  decide +kernel

/-- A space is put into a data address, behind the semicolon in it. -/
theorem tidyDeclarations_dataAddress :
    IsDeclaration "background: url(data:image/png;base64,AA)".toList ∧
      wholeDeclarations "background: url(data:image/png;base64,AA)".toList =
        "background: url(data:image/png;base64,AA)".toList ∧
      tidyDeclarations "background: url(data:image/png;base64,AA)".toList =
        "background: url(data:image/png; base64,AA)".toList ∧
      hoistStyles
          "<style>p \x7b background: url(data:image/png;base64,AA) \x7d</style><p>x</p>".toList =
        "<p style=\"background: url(data:image/png; base64,AA)\">x</p>".toList := by
  decide +kernel

end MailTemplate
