/-
Module: MailTemplate.Proofs.Frame
Purpose: Text without braces around a template is a frame: no pass reaches into it.
Main exports: Pattern.Bounded, Pattern.Bounded.scan_frame, Expansion.Behind, unfoldLoops_frame,
  Resolver.print_frame, Assembly.run_frame, Assembly.process_frame
-/
import MailTemplate.Data.Supply
import MailTemplate.Proofs.Closing
import MailTemplate.Proofs.Occurrence
import MailTemplate.Proofs.Passes
import MailTemplate.Proofs.Printed
import MailTemplate.Proofs.Unfolding

/-!
A template may end in the middle of anything: a directive, a literal, a name, a loop or a layout.
Text behind it can only be drawn in by what would have been completed there, and all that passes
look for is completed by a closing brace.  So text without braces stays what it is on either side,
and changes nothing of what happens between.

`Bounded` says that of a pattern: text without braces at the end makes no tag and changes none.
-/

namespace MailTemplate

namespace Shape

/-- What the shape of a whole directive takes ends in a closing brace, and is taken again with
anything behind it. -/
theorem read_alone {α : Type} (shape : Shape) {value : List Text → α}
    {solid : isSolid (.opens :: (shape ++ [.closes])) = true} {t rest : Text} {hit : Hit α}
    (read : (Shape.pattern (.opens :: (shape ++ [.closes])) value solid).read t =
      some (hit, rest)) :
    (∃ front, hit.raw = front ++ ['}']) ∧ ∀ other,
      (Shape.pattern (.opens :: (shape ++ [.closes])) value solid).read (hit.raw ++ other) =
        some (hit, other) := by
  obtain ⟨pieces, taken, rfl⟩ := take?_of_read read
  obtain ⟨inner, found, rfl⟩ := take?_directive_eq_some taken
  constructor
  · exact ⟨Directive.opening ++ inner.flatten ++ ['}'], by simp [Directive.closing]⟩
  · intro other
    have again := take?_sameHead found (by rfl : (Directive.closing ++ other).head? = _)
    have closed : Part.closes.take? (Directive.closing ++ other) =
        some (Directive.closing, other) := Part.take?_word_append Directive.closing other
    have text : (Directive.opening :: (inner ++ [Directive.closing])).flatten ++ other =
        Directive.opening ++ (inner.flatten ++ (Directive.closing ++ other)) := by
      simp
    have whole : take? (.opens :: (shape ++ [.closes]))
        (Directive.opening ++ (inner.flatten ++ (Directive.closing ++ other))) =
          some (Directive.opening :: (inner ++ [Directive.closing]), other) := by
      rw [take?, Part.opens, Part.take?_word_append]
      simp only [take?_append, again, Option.bind_some, take?, closed, Option.map_some]
    simp only [pattern, text, whole]

end Shape

/-! ### Patterns that text without braces does not change -/

namespace Pattern

variable {α β σ : Type}

/-- Text without braces at the end neither makes a tag nor changes one. -/
def Bounded (p : Pattern α) : Prop :=
  ∀ s : Text, s.isBraceFree = true → ∀ t,
    p.read (t ++ s) = (p.read t).map fun found => (found.1, found.2 ++ s)

/-- A pattern is bounded if its tags end in closing braces and are read alone. -/
theorem bounded_of_alone {p : Pattern α}
    (alone : ∀ {t rest : Text} {hit : Hit α}, p.read t = some (hit, rest) →
      (∃ front, hit.raw = front ++ ['}']) ∧
        ∀ other, p.read (hit.raw ++ other) = some (hit, other)) :
    p.Bounded := by
  intro s flat t
  cases single : p.read t with
  | some found =>
      obtain ⟨hit, rest⟩ := found
      rw [← p.raw_append single, List.append_assoc, (alone single).2]
      rfl
  | none =>
      cases both : p.read (t ++ s) with
      | none => rfl
      | some found =>
          obtain ⟨hit, rest⟩ := found
          obtain ⟨⟨front, ends⟩, again⟩ := alone both
          have whole := p.raw_append both
          rw [ends] at whole
          obtain ⟨left, rfl, _⟩ :=
            Text.eq_append_of_clear (Text.not_mem_of_isBraceFree flat) whole
          rw [← ends, again left] at single
          exact absurd single (by simp)

namespace Bounded

variable {p : Pattern α} {q : Pattern β}

/-- A choice of two bounded patterns is bounded. -/
theorem orElse {q : Pattern α} (hp : p.Bounded) (hq : q.Bounded) : (p.orElse q).Bounded := by
  intro s flat t
  simp only [Pattern.orElse]
  rw [hp _ flat, hq _ flat]
  cases p.read t <;> rfl

/-- No tag stands in a text without braces. -/
theorem read_eq_none (hp : p.Bounded) {s : Text} (flat : s.isBraceFree = true) :
    p.read s = none := by
  have nothing : p.read [] = none := by
    cases read : p.read [] with
    | none => rfl
    | some found =>
        have whole := p.raw_append read
        exact absurd (List.append_eq_nil_iff.1 whole).1 (p.raw_ne_nil read)
  have extended := hp _ flat []
  rwa [nothing, List.nil_append] at extended

/-- A bounded pattern finds nothing in a text without braces. -/
theorem scan_eq (hp : p.Bounded) {s : Text} (flat : s.isBraceFree = true) :
    p.scan s = s.map .plain := by
  induction s with
  | nil => rfl
  | cons c s ih =>
      rw [Pattern.scan_of_not_read (hp.read_eq_none flat), List.map_cons]
      rw [Text.isBraceFree_cons, Bool.and_eq_true] at flat
      rw [ih flat.2]

/-- Text without braces at the end makes no difference to where the first tag is found. -/
theorem findOnto_append (hp : p.Bounded) {s : Text} (flat : s.isBraceFree = true)
    (seen t : Text) : p.findOnto seen (t ++ s) =
      (p.findOnto seen t).map fun found => (found.1, found.2.1, found.2.2 ++ s) := by
  induction t generalizing seen with
  | nil => exact Pattern.findOnto_of_plain (hp.scan_eq flat)
  | cons c t ih =>
      rw [List.cons_append, findOnto, ← List.cons_append, hp _ flat, findOnto]
      cases p.read (c :: t) with
      | none => exact ih (c :: seen)
      | some found => rfl

/-- A block ends with its closer, so what follows makes no difference to it. -/
theorem block (hp : p.Bounded) (hq : q.Bounded) : (p.block q).Bounded := by
  intro s flat t
  simp only [Pattern.block, find?]
  rw [hp _ flat]
  cases p.read t with
  | none => rfl
  | some opened =>
      obtain ⟨opening, rest⟩ := opened
      simp only [Option.map_some]
      rw [hq.findOnto_append flat]
      cases q.findOnto [] rest <;> rfl

/-- No tag reaches into a tail without braces, or begins there. -/
theorem scan_append (hp : p.Bounded) {s : Text} (flat : s.isBraceFree = true) (t : Text) :
    p.scan (t ++ s) = p.scan t ++ s.map .plain := by
  induction t using p.scan_induction with
  | nil => exact hp.scan_eq flat
  | plain c t unread ih =>
      have extended : p.read (c :: (t ++ s)) = none := by
        rw [← List.cons_append, hp _ flat, unread]
        rfl
      rw [List.cons_append, Pattern.scan_of_not_read extended, Pattern.scan_of_not_read unread, ih]
      rfl
  | hit t found rest read ih =>
      have extended : p.read (t ++ s) = some (found, rest ++ s) := by
        rw [hp _ flat, read]
        rfl
      rw [Pattern.scan_of_read extended, Pattern.scan_of_read read, ih]
      rfl

/-- A frame without braces is read character by character, and what it surrounds as without it. -/
theorem scan_frame (hp : p.Bounded) (opened : p.Bracketed) {lead tail : Text}
    (first : lead.isBraceFree = true) (last : tail.isBraceFree = true) (t : Text) :
    p.scan (lead ++ t ++ tail) = lead.map .plain ++ p.scan t ++ tail.map .plain := by
  rw [hp.scan_append last, opened.scan_append (Text.isBraceFree_iff.1 first).1]

/-- A replacement leaves a frame without braces as it is, and what it frames becomes what it does
alone. -/
theorem replaceWith_frame (hp : p.Bounded) (opened : p.Bracketed) {lead tail : Text}
    (first : lead.isBraceFree = true) (last : tail.isBraceFree = true)
    (f : Hit α → σ → Text × σ) (t : Text) (s : σ) :
    p.replaceWith f (lead ++ t ++ tail) s =
      (lead ++ (p.replaceWith f t s).1 ++ tail, (p.replaceWith f t s).2) := by
  simp only [replaceWith, hp.scan_frame opened first last, replaceOnto_append, replaceOnto_plain]

end Bounded

end Pattern

namespace Directive

theorem bounded_wordPattern {α : Type} (w : String) (value : α) : (wordPattern w value).Bounded :=
  Pattern.bounded_of_alone (Shape.read_alone [.blanks, .keyword w, .blanks])

end Directive

namespace Reference

/-- A name in quote marks ends with its braces, in either kind of marks. -/
theorem bounded_named (w : String) : (named w).Bounded := by
  have one (quote : Char) : ((namedTag w quote).pattern (fun pieces => pieces.getD 5 [])
      (Shape.isSolid_opens _)).Bounded :=
    Pattern.bounded_of_alone (Shape.read_alone [.blanks, .keyword w, .gap, .word [quote],
      .many (· != quote), .word [quote], .blanks])
  exact (one '"').orElse (one '\'')

theorem bounded_includes : includes.Bounded :=
  (bounded_named "include").orElse (bounded_named "component")

/-- A layout block ends with the first closer. -/
theorem bounded_layouts : layouts.Bounded :=
  (bounded_named "layout").block (Directive.bounded_wordPattern "/layout" ())

end Reference

/-- An opener takes anything up to its braces, but nothing behind them. -/
theorem LoopTag.bounded : LoopTag.pattern.Bounded := by
  have opener : ((Directive.argumentTag "loop").pattern
      (fun pieces => LoopTag.opener (Text.trim (pieces.getD 4 [])))
      (Shape.isSolid_opens _)).Bounded :=
    Pattern.bounded_of_alone (Shape.read_alone [.blanks, .keyword "loop", .gap, .bodyRun])
  exact opener.orElse (Directive.bounded_wordPattern "/loop" LoopTag.closer)

/-! ### Loops behind a frame -/

namespace Expansion

/-- The output of the first expansion has the text in front of it in the second, where the outermost
output is kept. -/
inductive Behind (lead : Text) : Expansion → Expansion → Prop
  | outermost (out : Text) : Behind lead ⟨out, []⟩ ⟨out ++ lead.reverse, []⟩
  | inside (out raw argument : Text) {before before' : Text} {blocks blocks' : List OpenBlock}
      (outer : Behind lead ⟨before, blocks⟩ ⟨before', blocks'⟩) :
      Behind lead ⟨out, ⟨before, raw, argument⟩ :: blocks⟩
        ⟨out, ⟨before', raw, argument⟩ :: blocks'⟩

namespace Behind

variable {lead : Text} {first second : Expansion}

/-- What is put out later stands behind the same lead. -/
theorem emit (behind : Behind lead first second) (t : Text) :
    Behind lead (first.emit t) (second.emit t) := by
  cases behind with
  | outermost out =>
      simp only [Expansion.emit, List.reverseAux_eq]
      rw [← List.append_assoc]
      exact .outermost _
  | inside out raw argument outer => exact .inside _ raw argument outer

/-- Reading a token keeps the text in front. -/
theorem readToken (behind : Behind lead first second) (limit : Nat) (token : Token LoopTag) :
    Behind lead (first.readToken limit token) (second.readToken limit token) := by
  cases token with
  | plain c => exact behind.emit [c]
  | hit found =>
      obtain ⟨raw, tag⟩ := found
      cases tag with
      | opener argument => exact .inside [] raw argument behind
      | closer =>
          cases behind with
          | outermost out => exact (Behind.outermost out).emit raw
          | inside out opener argument outer => exact outer.emit _

/-- Tokens are read behind a lead as they are read without it. -/
theorem foldl_readToken (behind : Behind lead first second) (limit : Nat)
    (tokens : List (Token LoopTag)) :
    Behind lead (tokens.foldl (Expansion.readToken limit) first)
      (tokens.foldl (Expansion.readToken limit) second) := by
  induction tokens generalizing first second with
  | nil => exact behind
  | cons token tokens ih => exact ih (behind.readToken limit token)

/-- At the end the lead stands in front of everything. -/
theorem finish_eq (behind : Behind lead first second) : second.finish = lead ++ first.finish := by
  induction behind with
  | outermost out => simp [finish]
  | inside out raw argument _ ih =>
      rw [finish_cons, finish_cons, ih]
      simp only [List.append_assoc]

end Behind

end Expansion

/-- Loops are unfolded inside a frame as they are alone. -/
theorem unfoldLoops_frame {lead tail : Text} (first : lead.isBraceFree = true)
    (last : tail.isBraceFree = true) (limit : Nat) (t : Text) :
    unfoldLoops limit (lead ++ t ++ tail) = lead ++ unfoldLoops limit t ++ tail := by
  have start : Expansion.Behind lead ⟨[], []⟩ (Expansion.emit lead ⟨[], []⟩) := by
    have outermost : Expansion.Behind lead ⟨[], []⟩ ⟨[] ++ lead.reverse, []⟩ := .outermost []
    simpa [Expansion.emit, List.reverseAux_eq] using outermost
  rw [unfoldLoops, LoopTag.bounded.scan_frame LoopTag.bracketed first last, List.foldl_append,
    List.foldl_append, Expansion.foldl_plain, Expansion.foldl_plain, Expansion.finish_emit,
    (start.foldl_readToken limit _).finish_eq, unfoldLoops]

/-! ### Printing in a frame -/

theorem Text.dropPrefix?_append_clear {word s : Text} (clear : ∀ c ∈ word, c ∉ s) (t : Text) :
    dropPrefix? word (t ++ s) = (dropPrefix? word t).map (· ++ s) := by
  induction word generalizing t with
  | nil => rfl
  | cons w word ih =>
      cases t with
      | nil =>
          cases s with
          | nil => rfl
          | cons c s =>
              have other : w ≠ c := by
                rintro rfl
                exact clear w List.mem_cons_self List.mem_cons_self
              simp [dropPrefix?, other]
      | cons c t =>
          simp only [List.cons_append, dropPrefix?]
          split
          · exact ih (fun c inside => clear c (List.mem_cons_of_mem _ inside)) t
          · rfl

namespace Directive

/-- A directive with text without braces behind it: an opening that never closes takes the text. -/
def extendedBy (tail : Text) (found : Hit Extent × Text) : Hit Extent × Text :=
  match found.1.value with
  | .closed _ => (found.1, found.2 ++ tail)
  | .unclosed => (⟨found.1.raw ++ tail, .unclosed⟩, found.2)

/-- A directive that closes ends where it did; one that never closes takes the tail with it. -/
theorem read_extent_append {tail : Text} (last : tail.isBraceFree = true) (t : Text) :
    extent.read (t ++ tail) = (extent.read t).map (extendedBy tail) := by
  obtain ⟨opens, closes⟩ := Text.isBraceFree_iff.1 last
  have clear : ∀ c ∈ opening, c ∉ tail := by
    intro c inside
    obtain rfl : c = '{' := by simpa [opening] using inside
    exact opens
  simp only [extent]
  rw [Text.dropPrefix?_append_clear clear]
  cases Text.dropPrefix? opening t with
  | none => rfl
  | some rest =>
      simp only [Option.map_some]
      rw [closing?_append_clear closes]
      cases closing? '{' rest with
      | none => simp [extendedBy]
      | some found => simp [extendedBy]

/-- Nothing follows an opening that never closes. -/
theorem rest_of_unclosed {t raw rest : Text}
    (read : extent.read t = some (⟨raw, .unclosed⟩, rest)) : rest = [] := by
  simp only [extent] at read
  split at read
  · exact absurd read (by simp)
  · split at read
    · simp at read
    · exact (Prod.mk.inj (Option.some.inj read)).2.symm

end Directive

namespace Resolver

variable {σ : Type} [Chance σ]

/-- An opening that never closes takes the text behind it and is printed with it, as it is. -/
theorem print_append {tail : Text} (last : tail.isBraceFree = true) (resolver : Resolver σ)
    (t : Text) (s : σ) : resolver.print (t ++ tail) s =
      ((resolver.print t s).1 ++ tail, (resolver.print t s).2) := by
  simp only [print]
  induction t using Directive.extent.scan_induction generalizing s with
  | nil =>
      rw [List.nil_append, Pattern.replaceWith,
        Directive.bracketed_extent.scan_eq (Text.isBraceFree_iff.1 last).1,
        Pattern.replaceOnto_plain]
      rfl
  | plain c t unread ih =>
      have extended : Directive.extent.read (c :: (t ++ tail)) = none := by
        rw [← List.cons_append, Directive.read_extent_append last, unread]
        rfl
      rw [List.cons_append, Pattern.replaceWith_of_not_read extended,
        Pattern.replaceWith_of_not_read unread, ih]
      rfl
  | hit t found rest read ih =>
      have extended := Directive.read_extent_append last t
      rw [read, Option.map_some] at extended
      obtain ⟨raw, value⟩ := found
      cases value with
      | closed body =>
          rw [Pattern.replaceWith_of_read extended, Pattern.replaceWith_of_read read, ih]
          simp only [List.append_assoc]
      | unclosed =>
          obtain rfl := Directive.rest_of_unclosed read
          rw [Pattern.replaceWith_of_read extended, Pattern.replaceWith_of_read read]
          simp only [printExtent, Pattern.replaceWith, Pattern.scan_nil,
            Pattern.replaceOnto, List.reverse_nil, List.append_nil]

/-- A frame is printed as it is, also around a directive that never closes. -/
theorem print_frame {lead tail : Text} (first : lead.isBraceFree = true)
    (last : tail.isBraceFree = true) (resolver : Resolver σ) (t : Text) (s : σ) :
    resolver.print (lead ++ t ++ tail) s =
      (lead ++ (resolver.print t s).1 ++ tail, (resolver.print t s).2) := by
  have plain := Directive.bracketed_extent.scan_append (Text.isBraceFree_iff.1 first).1 t
  rw [print_append last, print, Pattern.replaceWith_of_plain plain]
  rfl

end Resolver

/-! ### A run in a frame -/

namespace Assembly

variable {σ : Type} {lead tail : Text} (first : lead.isBraceFree = true)
  (last : tail.isBraceFree = true)

include first last

/-- References are expanded inside a frame as they are alone, with the same run behind them. -/
theorem placed_frame (p : Assembly σ) (room : Nat)
    (deeper : List Text → Text → Run σ → Text × Run σ) (chain : List Text) (t : Text)
    (run : Run σ) :
    p.placed room deeper chain (lead ++ t ++ tail) run =
      (lead ++ (p.placed room deeper chain t run).1 ++ tail,
        (p.placed room deeper chain t run).2) := by
  simp only [placed, fillLayouts, placeIncludes]
  rw [Reference.bounded_layouts.replaceWith_frame Reference.bracketed_layouts first last]
  simp only
  rw [Reference.bounded_includes.replaceWith_frame Reference.bracketed_includes first last]

variable [Chance σ]

/-- Loops and printing leave the frame of a text alone. -/
theorem finishText_frame (p : Assembly σ) (mode : Mode) (t : Text) (run : Run σ) :
    p.finishText mode (lead ++ t ++ tail) run =
      (lead ++ (p.finishText mode t run).1 ++ tail, (p.finishText mode t run).2) := by
  cases mode with
  | render => simp only [finishText, Resolver.print_frame first last]
  | conversion => rfl

/-- By its passes, a text is processed inside a frame as it is alone. -/
theorem passes_frame (p : Assembly σ) (mode : Mode) (room : Nat)
    (deeper : List Text → Text → Run σ → Text × Run σ) (chain : List Text) (t : Text)
    (run : Run σ) :
    p.passes mode room deeper chain (lead ++ t ++ tail) run =
      (lead ++ (p.passes mode room deeper chain t run).1 ++ tail,
        (p.passes mode room deeper chain t run).2) := by
  rw [passes_eq, passes_eq, placed_frame first last, unfoldLoops_frame first last,
    finishText_frame first last]

/-- Each nested run has no frame of its own, so only the outermost passes see it. -/
theorem processBehind_frame (p : Assembly σ) (mode : Mode) (room : Nat) (chain : List Text)
    (t : Text) (run : Run σ) :
    p.processBehind mode room chain (lead ++ t ++ tail) run =
      (lead ++ (p.processBehind mode room chain t run).1 ++ tail,
        (p.processBehind mode room chain t run).2) := by
  -- The markup behind a reference is processed by the same function on both sides.
  cases room with
  | zero => rw [processBehind, processBehind, passes_frame first last]
  | succ room => rw [processBehind, processBehind, passes_frame first last]

/-- Without inlining, a whole run keeps the frame of its template. -/
theorem run_frame (p : Assembly σ) (inlining : p.inliner = id) (mode : Mode) (t : Text) (s : σ) :
    p.run mode (lead ++ t ++ tail) s =
      (lead ++ (p.run mode t s).1 ++ tail, (p.run mode t s).2) := by
  simp only [run, inlining, id, processBehind_frame first last]

omit first last

theorem processBehind_nil (p : Assembly σ) (mode : Mode) (room : Nat) (chain : List Text)
    (run : Run σ) : p.processBehind mode room chain [] run = ([], run) := by
  cases room <;> cases mode <;> rfl

/-- Text without braces around a template stands around its result, and no value depends on it.  A
template without braces is its own result. -/
theorem process_frame (p : Assembly σ) (inlining : p.inliner = id) (mode : Mode)
    {lead tail : Text} (first : lead.isBraceFree = true) (last : tail.isBraceFree = true) (t : Text)
    (s : σ) :
    p.process mode (lead ++ t ++ tail) s =
        (lead ++ (p.process mode t s).1 ++ tail, (p.process mode t s).2) ∧
      p.process mode lead s = (lead, s) := by
  have framed (tail t : Text) (last : tail.isBraceFree = true) :
      p.process mode (lead ++ t ++ tail) s =
        (lead ++ (p.process mode t s).1 ++ tail, (p.process mode t s).2) := by
    simp only [process, run_frame first last p inlining]
  refine ⟨framed tail t last, ?_⟩
  -- Brace-free text by itself is a frame around nothing.
  have empty : p.process mode [] s = ([], s) := by
    simp only [process, run, processBehind_nil, inlining, id, Run.start]
  have alone := framed [] [] rfl
  rwa [empty, List.append_nil, List.append_nil] at alone

end Assembly

/-- An assembly with one component, which numbers the seats. -/
def seatAssembly : Assembly Supply where
  loader name := if name = "card".toList then some (Segment.directive "seat".toList).raw else none
  resolver := ⟨Table.empty, Table.ofList
    [("seat".toList, .generated (Generator.counting 0 "S".toList))]⟩
  limits := {}
  inliner := id

/-- A template that ends in the middle of a literal, with a loop and a layout left open. -/
def openEnded : Text :=
  Document.raw [.directive "include 'card'".toList, .directive "loop 2".toList,
    .directive "layout 'frame'".toList] ++ Directive.opening ++ "note, 'never".toList

theorem process_frame_openEnded :
    seatAssembly.process .render
        ("Dear guest, ".toList ++ openEnded ++ " closed' /loop /layout".toList) (Supply.ofSeed 1) =
      ("Dear guest, ".toList ++ "S1".toList ++ openEnded.drop 18 ++
        " closed' /loop /layout".toList, ⟨1, [1]⟩) := by
  have alone : seatAssembly.process .render openEnded (Supply.ofSeed 1) =
      ("S1".toList ++ openEnded.drop 18, ⟨1, [1]⟩) := by decide +kernel
  have lead : Text.isBraceFree "Dear guest, ".toList = true := by decide
  have tail : Text.isBraceFree " closed' /loop /layout".toList = true := by decide
  rw [(Assembly.process_frame seatAssembly rfl .render lead tail openEnded _).1, alone]
  rfl

end MailTemplate
