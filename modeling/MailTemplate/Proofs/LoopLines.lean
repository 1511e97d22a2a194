/-
Module: MailTemplate.Proofs.LoopLines
Purpose: The lines that a loop covers, and the blocks that unfolding copies.
Main exports: LoopTag.Balanced, LoopBlock, LoopBlock.foldl_readToken, LoopBlock.exists_of_closer,
  LoopBlock.IsCounted, LoopBlock.mem_loopSpans, LoopBlock.indices_covered
-/
import MailTemplate.Proofs.Conversion
import MailTemplate.Proofs.Occurrence
import MailTemplate.Validation.Check

/-!
Loops are matched twice.  Unfolding goes through the text and matches a closer with the opener read
last, whatever the opener asks for.  Validation and conversion go through the lines and match the
closer with the last opener that is written with a row of digits.

The two agree on a block if all openers from its own to its closer are written in digits.  An opener
of another kind inside the block takes a closer from unfolding that the lines give to the opener
around it, so that the lines of the block end too early.
-/

namespace MailTemplate

/-! ### Rows of digits -/

/-- No blank is a digit. -/
theorem isDecimalDigit_of_isBlank {c : Char} (blank : isBlank c = true) :
    isDecimalDigit c = false := by
  have ascii : Text.Ranges.contains [(48, 57)] c = false :=
    Text.Ranges.contains_eq_false (by decide) blank
  have others : Text.decimalDigitRanges.contains c = false :=
    Text.Ranges.contains_eq_false (by decide +kernel) blank
  have digit : c.isDigit = false := by
    rw [Bool.eq_false_iff]
    intro digit
    simp only [Char.isDigit, Bool.and_eq_true, decide_eq_true_eq, UInt32.le_iff_toNat_le,
      ge_iff_le] at digit
    change 48 ≤ c.toNat ∧ c.toNat ≤ 57 at digit
    simp [Text.Ranges.contains, digit] at ascii
  simp [isDecimalDigit, digit, others]

/-- Whether a text is a row of digits. -/
def Text.isCount (t : Text) : Bool :=
  !t.isEmpty && t.all isDecimalDigit

/-! ### Tags with a count among loop tags -/

namespace LoopTag

/-- Loop tags hold no braces but their own. -/
theorem shallow : LoopTag.pattern.Shallow :=
  (Shape.shallow_pattern [.blanks, .keyword "loop", .gap, .bodyRun] (by decide)).orElse
    (Shape.shallow_pattern [.blanks, .keyword "/loop", .blanks] (by decide))

/-- Behind the word and the blanks of an opener stands the argument, up to the padding at its
end. -/
theorem body_of_opener {body argument : Text} (closed : '}' ∉ body)
    (found : pattern.valueOf? body = some (.opener argument)) :
    ∃ front pad, Shape.take? [.blanks, .keyword "loop", .gap] body = some (front, argument ++ pad) ∧
      pad.isPadding = true := by
  rw [valueOf?_eq closed, Option.or_eq_some_iff] at found
  rcases found with opens | ⟨_, closes⟩
  · obtain ⟨pieces, all, value⟩ := Option.map_eq_some_iff.1 opens
    have taken := Shape.takeAll?_eq_some_iff.1 all
    obtain ⟨⟨front, argument'⟩, begins, rest⟩ := Option.bind_eq_some_iff.1
      ((Shape.take?_append [.blanks, .keyword "loop", .gap] [.bodyRun] body).symm.trans taken)
    obtain ⟨⟨last, left⟩, ends, same⟩ := Option.map_eq_some_iff.1 rest
    obtain ⟨rfl, rfl⟩ := Prod.mk.inj same
    obtain ⟨a, b, c, rfl⟩ := List.length_eq_three.1 (Shape.length_take? begins)
    obtain ⟨run, rfl⟩ := List.length_eq_one_iff.1 (Shape.length_take? ends)
    obtain rfl : run = argument' := by simpa using Shape.take?_flatten ends
    -- The gap takes all blanks, so the argument does not begin with one.
    obtain ⟨middle, _, _, gap, _⟩ := Shape.take?_keyword begins
    obtain ⟨_, _, _, _, _, nothing, _⟩ := Shape.take?_gap gap
    obtain rfl : Text.trimStart middle = run := (Prod.mk.inj (Option.some.inj nothing)).2
    obtain ⟨pad, blank, whole⟩ := Text.trim_append_padding_eq middle
    obtain rfl : Text.trim middle = argument := by
      rw [← Text.trim_trimStart]
      exact LoopTag.opener.inj value
    exact ⟨[a, b, c], pad, by rw [whole]; exact begins, blank⟩
  · exact absurd closes (by simp)

/-- What a loop tag counts as for the lines, if its argument is a count. -/
def counted : LoopTag → CountedTag
  | .opener argument => .opener (CountedTag.count argument)
  | .closer => .closer

/-- Whether a tag is no opener, or one with a row of digits. -/
def isCounted : LoopTag → Bool
  | .opener argument => argument.isCount
  | .closer => true

end LoopTag

namespace Token

/-- A token of unfolding as it counts for the lines. -/
def counted : Token LoopTag → Token CountedTag
  | .plain c => .plain c
  | .hit h => .hit ⟨h.raw, h.value.counted⟩

/-- Whether a token is no opener, or one with a row of digits. -/
def isCounted : Token LoopTag → Bool
  | .plain _ => true
  | .hit h => h.value.isCounted

@[simp] theorem raw_counted (token : Token LoopTag) : token.counted.raw = token.raw := by
  cases token <;> rfl

end Token

namespace CountedTag

/-- Counted tags hold no braces but their own. -/
theorem shallow : CountedTag.pattern.Shallow :=
  (Shape.shallow_pattern innerShape (by decide)).orElse
    (Shape.shallow_pattern [.blanks, .keyword "/loop", .blanks] (by decide))

/-- A body is that of a counted tag if it has the shape of an opener or that of a closer. -/
theorem valueOf?_eq {body : Text} (closed : '}' ∉ body) :
    pattern.valueOf? body = ((innerShape.takeAll? body).map fun pieces =>
        opener (count ((Directive.opening :: (pieces ++ [Directive.closing])).getD 4 []))).or
      ((Shape.takeAll? [.blanks, .keyword "/loop", .blanks] body).map fun _ => closer) := by
  rw [pattern, Pattern.valueOf?_orElse, (readsWhole_opener closed).2,
    (Directive.readsWhole_wordPattern _ (by decide) closed).2]

/-- No tag can begin inside a tag with a count. -/
theorem not_mem_of_valueOf? {body : Text} {tag : CountedTag} (closed : '}' ∉ body)
    (found : pattern.valueOf? body = some tag) : '{' ∉ body := by
  rw [valueOf?_eq closed, Option.or_eq_some_iff] at found
  rcases found with opens | ⟨_, closes⟩
  · obtain ⟨pieces, all, _⟩ := Option.map_eq_some_iff.1 opens
    exact Shape.not_mem_of_takeAll? (by decide) all
  · obtain ⟨pieces, all, _⟩ := Option.map_eq_some_iff.1 closes
    exact Shape.not_mem_of_takeAll? (by decide) all

/-- A counted tag is hit wherever it stands. -/
theorem separate : CountedTag.pattern.Separate :=
  shallow.separate fun {lead inner} closed _ => by
    cases found : pattern.valueOf? (lead ++ '{' :: inner) with
    | none => rfl
    | some tag => exact absurd (by simp) (not_mem_of_valueOf? closed found)

/-- A loop tag that is no opener, or one with a row of digits, counts for the lines. -/
theorem valueOf?_of_isCounted {body : Text} {tag : LoopTag} (closed : '}' ∉ body)
    (found : LoopTag.pattern.valueOf? body = some tag) (counts : tag.isCounted = true) :
    pattern.valueOf? body = some tag.counted := by
  cases tag with
  | opener argument =>
      rw [LoopTag.isCounted, Text.isCount, Bool.and_eq_true, List.all_eq_true] at counts
      have nonempty : argument ≠ [] := by simpa using counts.1
      obtain ⟨front, pad, begins, blank⟩ := LoopTag.body_of_opener closed found
      have run := Text.takeRun_append_head counts.2 fun c first =>
        isDecimalDigit_of_isBlank (Text.isPadding_iff.1 blank c (List.mem_of_mem_head? first))
      have digits : Part.take? (.atLeastOne isDecimalDigit) (argument ++ pad) =
          some (argument, pad) := by
        rw [Part.take?, run]
        cases argument with
        | nil => exact absurd rfl nonempty
        | cons c argument => rfl
      have padding : Part.blanks.take? pad = some (pad, []) := by
        rw [Part.blanks, Part.take?, Text.takeRun_of_all (Text.isPadding_iff.1 blank)]
      have ends : Shape.take? [.atLeastOne isDecimalDigit, .blanks] (argument ++ pad) =
          some ([argument, pad], []) := by
        simp only [Shape.take?, digits, padding]
      have taken : innerShape.take? body = some (front ++ [argument, pad], []) := by
        have joined := Shape.take?_append [.blanks, .keyword "loop", .gap]
          [.atLeastOne isDecimalDigit, .blanks] body
        rw [begins, Option.bind_some, ends] at joined
        exact joined
      obtain ⟨a, b, c, rfl⟩ := List.length_eq_three.1 (Shape.length_take? begins)
      rw [valueOf?_eq closed, Shape.takeAll?_eq_some_iff.2 taken]
      rfl
  | closer =>
      rw [LoopTag.valueOf?_eq closed, Option.or_eq_some_iff] at found
      rcases found with opens | ⟨other, closes⟩
      · obtain ⟨_, _, value⟩ := Option.map_eq_some_iff.1 opens
        exact absurd value (by simp)
      · obtain ⟨pieces, all, _⟩ := Option.map_eq_some_iff.1 closes
        rw [valueOf?_eq closed, takeAll?_eq_none closed (Option.map_eq_none_iff.1 other), all]
        rfl

/-- A loop tag that counts is read as the counted tag it is. -/
theorem read_of_isCounted {t rest : Text} {hit : Hit LoopTag}
    (read : LoopTag.pattern.read t = some (hit, rest)) (counts : hit.value.isCounted = true) :
    pattern.read t = some (⟨hit.raw, hit.value.counted⟩, rest) := by
  obtain ⟨body, closed, raw, found⟩ := LoopTag.shallow.body_of_read read
  rw [← LoopTag.pattern.raw_append read, raw]
  exact shallow.read_of_valueOf? closed (valueOf?_of_isCounted closed found counts) rest

/-- Where no loop tag is read, no counted tag is. -/
theorem read_eq_none {t : Text} (read : LoopTag.pattern.read t = none) :
    pattern.read t = none := by
  cases found : pattern.read t with
  | none => rfl
  | some entry =>
      obtain ⟨hit, rest⟩ := entry
      obtain ⟨body, closed, raw, counts⟩ := shallow.body_of_read found
      cases tag : LoopTag.pattern.valueOf? body with
      | none => exact absurd counts (by rw [valueOf?_eq_none closed tag]; simp)
      | some value =>
          have here := LoopTag.shallow.read_of_valueOf? closed tag rest
          rw [← raw, pattern.raw_append found, read] at here
          exact absurd here (by simp)

/-- Where loop tags stand on one line, tags with a count do. -/
theorem linear {t : Text} (linear : LoopTag.pattern.Linear t) : pattern.Linear t := by
  intro hit inside
  obtain ⟨first, last, scan⟩ := Pattern.mem_hits_iff.1 inside
  have read := Pattern.read_of_scan scan
  obtain ⟨body, closed, raw, counts⟩ := shallow.body_of_read read
  have whole := Pattern.eq_append_of_scan scan
  rw [List.flatMap_cons] at whole
  -- The tag is a loop tag where it stands, so it is hit, or lies at the end of a hit.
  obtain ⟨tag, found⟩ : ∃ tag, LoopTag.pattern.valueOf? body = some tag := by
    cases found : LoopTag.pattern.valueOf? body with
    | none => exact absurd counts (by rw [valueOf?_eq_none closed found]; simp)
    | some tag => exact ⟨tag, rfl⟩
  have here := LoopTag.shallow.read_of_valueOf? closed found (last.flatMap Token.raw)
  have whole : t = first.flatMap Token.raw ++
      ((Segment.directive body).raw ++ last.flatMap Token.raw) := by
    rw [whole, ← raw]
    rfl
  rw [whole] at linear
  rcases LoopTag.pattern.cuts_or_overlap (first.flatMap Token.raw)
      ((Segment.directive body).raw ++ last.flatMap Token.raw) with cut | ⟨⟨overlap⟩⟩
  · obtain ⟨front, found, _⟩ := cut.scan_of_read here
    rw [raw]
    exact linear _ (Pattern.mem_hits_iff.2 ⟨front, _, found⟩)
  · have plain := linear _ (Pattern.mem_hits_iff.2 ⟨overlap.first, _, overlap.scan⟩)
    obtain ⟨outer, _, _, same, _, reaches⟩ := LoopTag.shallow.outer_of_overlap closed overlap
    rw [same] at plain
    intro feed
    have own : '\n' ∈ Directive.opening ++ body := by
      simpa [raw, Segment.raw, Directive.opening, Directive.closing] using feed
    have inside : '\n' ∈ Directive.opening ++ outer := by
      rw [reaches]
      exact List.mem_append_right _ own
    exact plain (List.mem_append_left _ inside)

end CountedTag

/-! ### Blocks -/

/-- Tokens in which every opener has its closer. -/
inductive LoopTag.Balanced : List (Token LoopTag) → Prop
  | nil : Balanced []
  | plain (c : Char) {rest : List (Token LoopTag)} (behind : Balanced rest) :
      Balanced (.plain c :: rest)
  | block {opener argument closer : Text} {inner rest : List (Token LoopTag)}
      (inside : Balanced inner) (behind : Balanced rest) :
      Balanced (.hit ⟨opener, .opener argument⟩ :: (inner ++ .hit ⟨closer, .closer⟩ :: rest))

/-- Two rows in balance are in balance one behind the other. -/
theorem LoopTag.Balanced.append {first second : List (Token LoopTag)} (one : Balanced first)
    (two : Balanced second) : Balanced (first ++ second) := by
  induction one with
  | nil => exact two
  | plain c _ ih => exact .plain c ih
  | block inside _ _ ih =>
      rw [List.cons_append, List.append_assoc, List.cons_append]
      exact .block inside ih

/-- A row without tags is in balance. -/
theorem LoopTag.balanced_plain (t : Text) : Balanced (t.map .plain) := by
  induction t with
  | nil => exact .nil
  | cons c t ih => exact .plain c ih

/-- The tokens from an opener on are those of its block and the rest. -/
theorem LoopTag.block_append (opener argument closer : Text)
    (inner rest : List (Token LoopTag)) :
    Token.hit ⟨opener, LoopTag.opener argument⟩ :: (inner ++ .hit ⟨closer, .closer⟩ :: rest) =
      (.hit ⟨opener, .opener argument⟩ :: (inner ++ [.hit ⟨closer, .closer⟩])) ++ rest := by
  simp

/-- An opener in a text with the closer that matches it. -/
structure LoopBlock (content : Text) where
  before : List (Token LoopTag)
  opener : Text
  argument : Text
  body : List (Token LoopTag)
  closer : Text
  after : List (Token LoopTag)
  scan : LoopTag.pattern.scan content =
    before ++ .hit ⟨opener, .opener argument⟩ :: (body ++ .hit ⟨closer, .closer⟩ :: after)
  balanced : LoopTag.Balanced body

namespace Expansion

/-- Texts are emitted one behind the other. -/
theorem emit_emit (first second : Text) (expansion : Expansion) :
    (expansion.emit first).emit second = expansion.emit (first ++ second) := by
  simp [emit, List.reverseAux_eq]

/-- What reading a block does to an expansion is known from what reading its body does. -/
theorem foldl_block {limit : Nat} {inner : List (Token LoopTag)} {text : Text}
    (body : ∀ expansion, inner.foldl (readToken limit) expansion = expansion.emit text)
    (opener argument closer : Text) (expansion : Expansion) :
    (Token.hit ⟨opener, .opener argument⟩ :: (inner ++ [.hit ⟨closer, .closer⟩])).foldl
        (readToken limit) expansion =
      expansion.emit (replacement limit ⟨[], opener, argument⟩ text closer) := by
  rw [List.foldl_cons, List.foldl_append, readToken, body]
  simp only [List.foldl_cons, List.foldl_nil, readToken, emit, List.reverseAux_eq, List.append_nil,
    List.reverse_reverse]
  rfl

/-- Balanced tokens leave the open blocks alone and add a text to the output. -/
theorem exists_emit {tokens : List (Token LoopTag)} (balanced : LoopTag.Balanced tokens)
    (limit : Nat) :
    ∃ text, ∀ expansion, tokens.foldl (readToken limit) expansion = expansion.emit text := by
  induction balanced with
  | nil => exact ⟨[], fun _ => rfl⟩
  | plain c _ ih =>
      obtain ⟨text, rest⟩ := ih
      refine ⟨[c] ++ text, fun expansion => ?_⟩
      rw [List.foldl_cons, rest, ← emit_emit]
      rfl
  | @block opener argument closer inner rest _ _ ihInner ihRest =>
      obtain ⟨inside, body⟩ := ihInner
      obtain ⟨text, behind⟩ := ihRest
      refine ⟨replacement limit ⟨[], opener, argument⟩ inside closer ++ text, fun expansion => ?_⟩
      rw [LoopTag.block_append, List.foldl_append, foldl_block body, behind, emit_emit]

end Expansion

namespace LoopBlock

variable {content : Text} (block : LoopBlock content)

/-- The text between the tags of a block. -/
def bodyText : Text := block.body.flatMap Token.raw

/-- The tokens of a block, from its opener to its closer. -/
def tokens : List (Token LoopTag) :=
  .hit ⟨block.opener, .opener block.argument⟩ :: (block.body ++ [.hit ⟨block.closer, .closer⟩])

/-- The text of a body is read by itself as it is inside the block. -/
theorem scan_bodyText : LoopTag.pattern.scan block.bodyText = block.body := by
  have scan := block.scan
  rw [← List.singleton_append, ← List.append_assoc] at scan
  exact LoopTag.shallow.scan_first (Pattern.scan_of_scan_append scan)

/-- A block is unfolded into what replaces it, wherever it stands. -/
theorem foldl_readToken (limit : Nat) (expansion : Expansion) :
    block.tokens.foldl (Expansion.readToken limit) expansion =
      expansion.emit (Expansion.replacement limit ⟨[], block.opener, block.argument⟩
        (unfoldLoops limit block.bodyText) block.closer) := by
  obtain ⟨text, body⟩ := Expansion.exists_emit block.balanced limit
  have unfolded : unfoldLoops limit block.bodyText = text := by
    rw [unfoldLoops, scan_bodyText, body]
    simp [Expansion.emit, Expansion.finish, List.reverseAux_eq]
  rw [tokens, Expansion.foldl_block body, unfolded]

end LoopBlock

/-- Tokens with the openers in them that are still open, innermost first. -/
inductive LoopTag.Opened : List (Token LoopTag) → List OpenBlock → Prop
  | outside (tokens : List (Token LoopTag)) : Opened tokens []
  | opener {tokens : List (Token LoopTag)} {blocks : List OpenBlock} {before raw argument : Text}
      {body : List (Token LoopTag)} (around : Opened tokens blocks) (inside : Balanced body) :
      Opened (tokens ++ .hit ⟨raw, .opener argument⟩ :: body) (⟨before, raw, argument⟩ :: blocks)

namespace LoopTag.Opened

/-- A body in balance leaves the same blocks open. -/
theorem append {tokens body : List (Token LoopTag)} {blocks : List OpenBlock}
    (opened : Opened tokens blocks) (balanced : Balanced body) :
    Opened (tokens ++ body) blocks := by
  cases opened with
  | outside => exact .outside _
  | opener around inside =>
      rw [List.append_assoc, List.cons_append]
      exact .opener around (inside.append balanced)

/-- What one token preserves. -/
theorem readToken {tokens : List (Token LoopTag)} {expansion : Expansion}
    (opened : Opened tokens expansion.blocks) (limit : Nat) (token : Token LoopTag) :
    Opened (tokens ++ [token]) (expansion.readToken limit token).blocks := by
  match token with
  | .plain c => exact opened.append (.plain c .nil)
  | .hit ⟨raw, .opener argument⟩ => exact .opener opened .nil
  | .hit ⟨raw, .closer⟩ =>
      obtain ⟨out, blocks⟩ := expansion
      cases opened with
      | outside => exact .outside _
      | opener around inside =>
          rw [List.append_assoc, List.cons_append]
          exact around.append (.block inside .nil)

/-- Reading tokens one by one keeps track of the blocks they leave open. -/
theorem foldl_readToken {before : List (Token LoopTag)} {expansion : Expansion}
    (opened : Opened before expansion.blocks) (limit : Nat) (tokens : List (Token LoopTag)) :
    Opened (before ++ tokens) (tokens.foldl (Expansion.readToken limit) expansion).blocks := by
  induction tokens generalizing before expansion with
  | nil => simpa using opened
  | cons token tokens ih => simpa using ih (opened.readToken limit token)

end LoopTag.Opened

/-- Wherever unfolding closes an opener, it has read a block. -/
theorem LoopBlock.exists_of_closer {content closer : Text} {limit : Nat}
    {first last : List (Token LoopTag)} {opened : OpenBlock} {blocks : List OpenBlock}
    (scan : LoopTag.pattern.scan content = first ++ .hit ⟨closer, .closer⟩ :: last)
    (stack : (first.foldl (Expansion.readToken limit) ⟨[], []⟩).blocks = opened :: blocks) :
    ∃ block : LoopBlock content, block.opener = opened.raw ∧ block.argument = opened.argument ∧
      block.closer = closer ∧ block.after = last := by
  have start : LoopTag.Opened [] (⟨[], []⟩ : Expansion).blocks := .outside []
  have invariant := start.foldl_readToken limit first
  rw [stack, List.nil_append] at invariant
  cases invariant with
  | @opener tokens _ before raw argument body _ inside =>
      rw [List.append_assoc, List.cons_append] at scan
      exact ⟨⟨tokens, raw, argument, body, closer, last, scan, inside⟩, rfl, rfl, rfl, rfl⟩

/-! ### The lines of a block -/

namespace OpenedLoop

/-- Reads tags, each with its line. -/
def readAll (loops : List OpenedLoop) (tags : List (Nat × CountedTag)) : List OpenedLoop :=
  tags.foldl (fun loops entry => readTag entry.1 loops entry.2) loops

/-- The spans are those of the loops that the tags close. -/
theorem loopSpans_eq (content : Text) :
    loopSpans content = (readAll [] (countedTags content)).reverse.filterMap span? := rfl

/-- Tags behind others are read on top of what these leave. -/
theorem readAll_append (loops : List OpenedLoop) (first second : List (Nat × CountedTag)) :
    readAll loops (first ++ second) = readAll (readAll loops first) second :=
  List.foldl_append

/-- A closer passes over the loops that are closed. -/
theorem closeLast_append {closed : List OpenedLoop} (all : ∀ loop ∈ closed, loop.endLine ≠ none)
    (line : Nat) (loops : List OpenedLoop) :
    closeLast line (closed ++ loops) = closed ++ closeLast line loops := by
  induction closed with
  | nil => rfl
  | cons loop closed ih =>
      have shut := all loop List.mem_cons_self
      rw [List.cons_append, closeLast]
      split
      · exact absurd ‹_› shut
      · rw [ih fun other inside => all other (List.mem_cons_of_mem _ inside), List.cons_append]

/-- What one tag preserves: a loop that is closed stays as it is. -/
theorem mem_readTag {loop : OpenedLoop} (shut : loop.endLine ≠ none) {loops : List OpenedLoop}
    (inside : loop ∈ loops) (line : Nat) (tag : CountedTag) : loop ∈ readTag line loops tag := by
  cases tag with
  | opener count => exact List.mem_cons_of_mem _ inside
  | closer =>
      rw [readTag]
      induction loops with
      | nil => exact absurd inside (by simp)
      | cons first loops ih =>
          rw [closeLast]
          split
          · rcases List.mem_cons.1 inside with rfl | later
            · exact absurd ‹_› shut
            · exact List.mem_cons_of_mem _ later
          · rcases List.mem_cons.1 inside with rfl | later
            · exact List.mem_cons_self
            · exact List.mem_cons_of_mem _ (ih later)

/-- A loop that is closed stays as it is. -/
theorem mem_readAll {loop : OpenedLoop} (shut : loop.endLine ≠ none) {loops : List OpenedLoop}
    (inside : loop ∈ loops) (tags : List (Nat × CountedTag)) : loop ∈ readAll loops tags := by
  induction tags generalizing loops with
  | nil => exact inside
  | cons tag tags ih => exact ih (mem_readTag shut inside tag.1 tag.2)

end OpenedLoop

/-- Where only counts open loops, lines and unfolding read the same tokens. -/
theorem CountedTag.scan_eq {t : Text} {tokens last : List (Token LoopTag)}
    (scan : LoopTag.pattern.scan t = tokens ++ last)
    (counts : ∀ token ∈ tokens, token.isCounted = true) :
    pattern.scan t = tokens.map Token.counted ++ pattern.scan (last.flatMap Token.raw) := by
  induction tokens generalizing t with
  | nil =>
      rw [List.nil_append] at scan
      rw [← scan, Pattern.scan_flatMap_raw]
      rfl
  | cons token tokens ih =>
      have later := fun other inside => counts other (List.mem_cons_of_mem token inside)
      cases token with
      | plain c =>
          obtain ⟨rest, rfl, unread, behind⟩ := Pattern.read_of_scan_plain scan
          rw [Pattern.scan_of_not_read (read_eq_none unread), ih behind later]
          rfl
      | hit hit =>
          obtain ⟨rest, read, behind⟩ := Pattern.read_of_scan_hit scan
          have counted := read_of_isCounted read (counts _ List.mem_cons_self)
          rw [Pattern.scan_of_read counted, ih behind later]
          rfl

namespace OpenedLoop

/-- Reading a loop is known from what reading its body does: it closes all that it opens. -/
theorem readAll_block {inner : List (Token LoopTag)}
    (body : ∀ line loops, ∃ closed, (∀ loop ∈ closed, loop.endLine ≠ none) ∧
      readAll loops (Pattern.numbered line (inner.map Token.counted)) = closed ++ loops)
    (opener argument closer : Text) (line : Nat) (loops : List OpenedLoop) :
    ∃ closed, (∀ loop ∈ closed, loop.endLine ≠ none) ∧
      readAll loops (Pattern.numbered line
          ((Token.hit ⟨opener, .opener argument⟩ :: (inner ++ [.hit ⟨closer, .closer⟩])).map
            Token.counted)) =
        closed ++ ⟨line, CountedTag.count argument,
          some (line + (opener ++ inner.flatMap Token.raw).count '\n')⟩ :: loops := by
  obtain ⟨closed, shut, read⟩ := body (line + opener.count '\n')
    (⟨line, CountedTag.count argument, none⟩ :: loops)
  refine ⟨closed, shut, ?_⟩
  have raws : (inner.map Token.counted).flatMap Token.raw = inner.flatMap Token.raw := by
    rw [List.flatMap_map]
    exact List.flatMap_congr fun token _ => token.raw_counted
  rw [List.map_cons, List.map_append]
  change readAll (⟨line, CountedTag.count argument, none⟩ :: loops)
    (Pattern.numbered (line + opener.count '\n') _) = _
  rw [Pattern.numbered_append, readAll_append, read, raws]
  change closeLast _ (closed ++ _) = _
  rw [closeLast_append shut, List.count_append, Nat.add_assoc]
  rfl

/-- Reading balanced tokens closes all that it opens. -/
theorem readAll_balanced {tokens : List (Token LoopTag)} (balanced : LoopTag.Balanced tokens)
    (line : Nat) (loops : List OpenedLoop) :
    ∃ closed, (∀ loop ∈ closed, loop.endLine ≠ none) ∧
      readAll loops (Pattern.numbered line (tokens.map Token.counted)) = closed ++ loops := by
  induction balanced generalizing line loops with
  | nil => exact ⟨[], by simp, rfl⟩
  | plain c _ ih => exact ih _ loops
  | @block opener argument closer inner rest _ _ ihInner ihRest =>
      obtain ⟨first, shutFirst, readFirst⟩ :=
        readAll_block ihInner opener argument closer line loops
      rw [LoopTag.block_append, List.map_append, Pattern.numbered_append]
      obtain ⟨second, shutSecond, readSecond⟩ := ihRest _ (first ++ ⟨line,
        CountedTag.count argument, some (line + (opener ++ inner.flatMap Token.raw).count '\n')⟩ ::
          loops)
      refine ⟨second ++ (first ++ [⟨line, CountedTag.count argument,
        some (line + (opener ++ inner.flatMap Token.raw).count '\n')⟩]), ?_, ?_⟩
      · intro loop inside
        rw [List.mem_append, List.mem_append, List.mem_singleton] at inside
        rcases inside with late | early | rfl
        · exact shutSecond loop late
        · exact shutFirst loop early
        · simp
      · rw [readAll_append, readFirst, readSecond]
        simp

end OpenedLoop

namespace LoopBlock

variable {content : Text} (block : LoopBlock content)

/-- All openers of a block, from its own on, are written in digits. -/
def IsCounted : Prop :=
  ∀ token ∈ block.tokens, token.isCounted = true

instance : Decidable block.IsCounted :=
  inferInstanceAs (Decidable (∀ token ∈ block.tokens, token.isCounted = true))

/-- The number of the line on which the first part of a block's body ends. -/
def lineBehind (inside : Text) : Nat :=
  1 + (block.before.flatMap Token.raw).count '\n' + (block.opener ++ inside).count '\n'

/-- The lines of a block are those from its opener to its closer. -/
theorem mem_loopSpans (linear : LoopTag.pattern.Linear content) (counts : block.IsCounted) :
    ⟨1 + (block.before.flatMap Token.raw).count '\n', block.lineBehind block.bodyText,
      CountedTag.count block.argument⟩ ∈ loopSpans content := by
  have scan : LoopTag.pattern.scan content = block.before ++ (block.tokens ++ block.after) := by
    rw [block.scan, LoopTag.block_append, tokens]
  have own := CountedTag.scan_eq (Pattern.scan_of_scan_append scan) counts
  have whole := Pattern.eq_append_of_scan scan
  generalize (block.tokens ++ block.after).flatMap Token.raw = rest at own whole
  obtain ⟨_, read, _⟩ := Pattern.read_of_scan_hit own
  obtain ⟨first, cut, raw⟩ : CountedTag.pattern.Cuts (block.before.flatMap Token.raw) rest :=
    CountedTag.separate read
  rw [← whole, own] at cut
  have tags : countedTags content = Pattern.numbered 1 (CountedTag.pattern.scan content) :=
    CountedTag.shallow.hits_lines (CountedTag.linear linear) 1
  rw [cut, Pattern.numbered_append, Pattern.numbered_append, raw] at tags
  obtain ⟨closed, _, loops⟩ := OpenedLoop.readAll_block
    (OpenedLoop.readAll_balanced block.balanced) block.opener block.argument block.closer
    (1 + (block.before.flatMap Token.raw).count '\n') (OpenedLoop.readAll []
      (Pattern.numbered 1 first))
  rw [OpenedLoop.loopSpans_eq, tags, OpenedLoop.readAll_append, OpenedLoop.readAll_append,
    tokens, loops, List.mem_filterMap]
  refine ⟨_, List.mem_reverse.2 (OpenedLoop.mem_readAll (by simp) (List.mem_append_right _
    List.mem_cons_self) _), rfl⟩

/-- Every line of a block is covered by a loop. -/
theorem covers_lineBehind (linear : LoopTag.pattern.Linear content) (counts : block.IsCounted)
    {inside behind : Text} (place : block.bodyText = inside ++ behind) :
    ∃ span ∈ loopSpans content, span.covers (block.lineBehind inside) = true := by
  refine ⟨_, block.mem_loopSpans linear counts, ?_⟩
  simp only [LoopSpan.covers, lineBehind, place, List.count_append, Bool.and_eq_true,
    decide_eq_true_eq]
  omega

end LoopBlock

/-! ### Placeholders in a block -/

/-- The message about an index begins with a quote mark. -/
theorem Finding.head?_message (placeholder : Text) :
    (indexOutsideLoop placeholder).message.head? = some '\'' := by
  have quote : (quoted placeholder).head? = some '\'' := rfl
  unfold message
  simp only [List.head?_append, quote, Option.some_or]

/-- A message that speaks of a placeholder outside loops is that of such a finding. -/
theorem Finding.eq_of_message {finding : Finding} {placeholder : Text}
    (same : finding.message = (indexOutsideLoop placeholder).message) :
    ∃ other, finding = indexOutsideLoop other := by
  have first := congrArg List.head? same
  rw [head?_message] at first
  unfold message at first
  cases finding with
  | indexOutsideLoop other => exact ⟨other, rfl⟩
  | missingMarkup kind name =>
      obtain ⟨letter, title, other⟩ : ∃ letter, kind.title.head? = some letter ∧ letter ≠ '\'' := by
        cases kind with
        | component => exact ⟨'C', by decide, by decide⟩
        | layout => exact ⟨'L', by decide, by decide⟩
        | _ => exact ⟨'I', by decide, by decide⟩
      simp only [List.head?_append, title, Option.some_or] at first
      exact absurd (Option.some.inj first) other
  | _ => simp [quoted] at first

/-- Whether a finding is about a print directive or a placeholder. -/
def Finding.isAboutPrint : Finding → Bool
  | .indexOutsideLoop _ => true
  | .undefinedValue _ => true
  | .ignoredMethod _ => true
  | .undefinedVariable _ => true
  | _ => false

namespace Validation

/-- Inside a loop nothing printed is said to be outside of one. -/
theorem finding_ne_of_print {scope : Scope} {body : Text} {finding : Finding}
    (inside : finding ∈ printFindings scope true body) (placeholder : Text) :
    finding ≠ .indexOutsideLoop placeholder := by
  rintro rfl
  rw [printFindings] at inside
  split at inside
  · simp at inside
  split at inside
  · simp at inside
  split at inside
  · dsimp only at inside
    split at inside <;> simp at inside
  · split at inside
    · rw [keyFindings] at inside
      split at inside <;> simp at inside
    · rw [keyFindings] at inside
      split at inside <;> simp at inside

/-- Names are said to be missing and no more. -/
theorem finding_of_nameNotes {scope : Scope} {pattern : Pattern (ReferenceKind × Text)}
    {line : Text} {note : Note} (inside : note ∈ nameNotes scope pattern line) :
    ∃ kind name, note.finding = .missingMarkup kind name := by
  obtain ⟨⟨column, hit⟩, _, made⟩ := List.mem_filterMap.1 inside
  dsimp only at made
  split at made
  · exact absurd made (by simp)
  · exact ⟨hit.value.1, hit.value.2, by rw [← Option.some.inj made]⟩

/-- What is found about a print directive on a line is found by its body. -/
theorem mem_variableNotes_iff {scope : Scope} {inLoop : Bool} {line : Text} {note : Note} :
    note ∈ variableNotes scope inLoop line ↔ ∃ column hit, (column, hit) ∈ printed.hitsAt line ∧
      ∃ finding ∈ printFindings scope inLoop hit.value,
        note = ⟨finding, column, Directive.opening ++ hit.value ++ Directive.closing⟩ := by
  rw [variableNotes, List.mem_flatMap]
  constructor
  · rintro ⟨⟨column, hit⟩, here, made⟩
    obtain ⟨finding, found, rfl⟩ := List.mem_map.1 made
    exact ⟨column, hit, here, finding, found, rfl⟩
  · rintro ⟨column, hit, here, finding, found, rfl⟩
    exact ⟨(column, hit), here, List.mem_map_of_mem found⟩

/-- Among all that is found about a line, such findings are about print directives. -/
theorem mem_variableNotes_of_isAboutPrint {scope : Scope} {inLoop : Bool} {line : Text}
    {note : Note} (inside : note ∈ lineNotes scope inLoop line)
    (own : note.finding.isAboutPrint = true) : note ∈ variableNotes scope inLoop line := by
  simp only [lineNotes, referenceNotes, List.mem_append] at inside
  rcases inside with ((printed | (component | argument) | reference) | word) | brace
  · exact printed
  · obtain ⟨kind, name, other⟩ := finding_of_nameNotes component
    rw [other] at own
    exact absurd own (by simp [Finding.isAboutPrint])
  · obtain ⟨⟨column, hit⟩, _, made⟩ := List.mem_filterMap.1 argument
    dsimp only at made
    split at made
    · exact absurd made (by simp)
    · rw [← Option.some.inj made] at own
      exact absurd own (by simp [Finding.isAboutPrint])
  · obtain ⟨kind, name, other⟩ := finding_of_nameNotes reference
    rw [other] at own
    exact absurd own (by simp [Finding.isAboutPrint])
  · obtain ⟨⟨column, hit⟩, _, made⟩ := List.mem_filterMap.1 word
    dsimp only at made
    split at made
    · exact absurd made (by simp)
    · rw [← Option.some.inj made] at own
      exact absurd own (by simp [Finding.isAboutPrint])
  · rw [braceNotes] at brace
    dsimp only at brace
    split at brace
    · simp at brace
    split at brace
    · split at brace <;>
      · rw [List.mem_singleton.1 brace] at own
        exact absurd own (by simp [Finding.isAboutPrint])
    · rw [List.mem_singleton.1 brace] at own
      exact absurd own (by simp [Finding.isAboutPrint])

/-- In a loop, no placeholder is found outside loops. -/
theorem finding_ne_of_inLoop {scope : Scope} {line : Text} {note : Note}
    (inside : note ∈ lineNotes scope true line) (placeholder : Text) :
    note.finding ≠ .indexOutsideLoop placeholder := by
  intro same
  have own : note.finding.isAboutPrint = true := by rw [same]; rfl
  obtain ⟨_, _, _, finding, here, rfl⟩ :=
    mem_variableNotes_iff.1 (mem_variableNotes_of_isAboutPrint inside own)
  exact finding_ne_of_print here placeholder same

end Validation

/-- Validation reports no placeholder outside loops on a line that a loop covers. -/
theorem validate_covered {scope : Scope} {content : Text} {line : Nat}
    (covered : ∃ span ∈ loopSpans content, span.covers line = true) {issue : Issue}
    (reported : issue ∈ validate scope content) (here : issue.line = line) (placeholder : Text) :
    issue.message ≠ (Finding.indexOutsideLoop placeholder).message := by
  intro same
  obtain ⟨⟨text, number⟩, _, inside⟩ := List.mem_flatMap.1 reported
  obtain ⟨note, noted, rfl⟩ := List.mem_map.1 inside
  obtain rfl : number = line := here
  have within : (spanOfLine? (loopSpans content) number).isSome = true :=
    List.find?_isSome.2 covered
  rw [within] at noted
  obtain ⟨other, finding⟩ := Finding.eq_of_message same
  exact Validation.finding_ne_of_inLoop noted other finding

/-- In a block that is unfolded, all openers written in digits and each loop tag on one line, no
placeholder is reported to stand outside loops: the lines of a loop cover every place in the
block's body. -/
theorem LoopBlock.indices_covered {content : Text} (block : LoopBlock content) {limit count : Nat}
    (unrolled : copyCount? limit block.argument = some count)
    (linear : LoopTag.pattern.Linear content) (counts : block.IsCounted) {inside behind : Text}
    (place : block.bodyText = inside ++ behind) (scope : Scope) :
    (∀ expansion, block.tokens.foldl (Expansion.readToken limit) expansion =
      expansion.emit (loopCopies count (unfoldLoops limit block.bodyText))) ∧
    (∃ span ∈ loopSpans content, span.covers (block.lineBehind inside) = true) ∧
    ∀ issue ∈ validate scope content, issue.line = block.lineBehind inside →
      ∀ placeholder, issue.message ≠ (Finding.indexOutsideLoop placeholder).message := by
  have covered := block.covers_lineBehind linear counts place
  refine ⟨fun expansion => ?_, covered, fun issue reported here placeholder =>
    validate_covered covered reported here placeholder⟩
  rw [block.foldl_readToken, Expansion.replacement, unrolled]

/-- A list of rooms in which each room has two beds. -/
def roomList : Text :=
  Document.raw [.directive "loop 3".toList, .text "\nRoom ".toList, .directive "_index1".toList,
    .text ": ".toList, .directive "loop 2".toList, .text "bed ".toList, .directive "/loop".toList,
    .text "\n".toList, .directive "/loop".toList]

/-- The block of rooms. -/
def roomBlock : LoopBlock roomList where
  before := []
  opener := (Segment.directive "loop 3".toList).raw
  argument := "3".toList
  body := (Document.raw [.text "\nRoom ".toList, .directive "_index1".toList,
      .text ": ".toList]).map .plain ++
    (.hit ⟨(Segment.directive "loop 2".toList).raw, .opener "2".toList⟩ ::
      ("bed ".toList.map .plain ++
        .hit ⟨(Segment.directive "/loop".toList).raw, .closer⟩ :: "\n".toList.map .plain))
  closer := (Segment.directive "/loop".toList).raw
  after := []
  scan := by decide +kernel
  balanced := (LoopTag.balanced_plain _).append
    (.block (LoopTag.balanced_plain _) (LoopTag.balanced_plain _))

/-- The number of a room, on the second line. -/
theorem indices_covered_roomList :
    roomBlock.lineBehind "\nRoom ".toList = 2 ∧
    (∀ expansion, roomBlock.tokens.foldl (Expansion.readToken 10) expansion =
      expansion.emit (loopCopies 3 (unfoldLoops 10 roomBlock.bodyText))) ∧
    (∃ span ∈ loopSpans roomList, span.covers (roomBlock.lineBehind "\nRoom ".toList) = true) ∧
    ∀ issue ∈ validate ⟨.ofList [], .ofList []⟩ roomList,
      issue.line = roomBlock.lineBehind "\nRoom ".toList →
        ∀ placeholder, issue.message ≠ (Finding.indexOutsideLoop placeholder).message := by
  have linear : LoopTag.pattern.Linear roomList := by decide +kernel
  have counts : roomBlock.IsCounted := by decide +kernel
  have place : roomBlock.bodyText = "\nRoom ".toList ++ roomBlock.bodyText.drop 6 := by
    decide +kernel
  exact ⟨by decide +kernel, roomBlock.indices_covered (by decide +kernel) linear counts
    place ⟨.ofList [], .ofList []⟩⟩

/-- A loop around one that asks for no number. -/
def guestList : Text :=
  Document.raw [.directive "loop 2".toList, .text "\n".toList, .directive "loop many".toList,
    .text "\n".toList, .directive "/loop".toList, .text "\n".toList, .directive "_index".toList,
    .text "\n".toList, .directive "/loop".toList]

/-- The lines of a loop end too early if a loop in it is not written in digits: a placeholder that
is filled in is reported to stand outside loops. -/
theorem indexOutsideLoop_guestList :
    LoopTag.pattern.Linear guestList ∧
    unfoldLoops 10 guestList = Document.raw [.text "\n".toList, .directive "loop many".toList,
      .text "\n".toList, .directive "/loop".toList, .text "\n0\n\n".toList,
      .directive "loop many".toList, .text "\n".toList, .directive "/loop".toList,
      .text "\n1\n".toList] ∧
    loopSpans guestList = [⟨1, 3, 2⟩] ∧
    validate ⟨.ofList [], .ofList []⟩ guestList =
      [⟨.error, (Finding.indexOutsideLoop "_index".toList).message, 4, 0,
        (Segment.directive "_index".toList).raw⟩] := by
  refine ⟨?_, ?_, ?_, ?_⟩ <;> decide +kernel

end MailTemplate
