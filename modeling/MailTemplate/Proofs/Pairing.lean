/-
Module: MailTemplate.Proofs.Pairing
Purpose: The spans of loops are those of the tags that a bracket matcher pairs.
Main exports: CountedTag.opensAll_or_stray, TagPair, TagPair.apart_or_inside,
  OpenedLoop.exists_pair, exists_pairs, CountedTag.Spells, CountedTag.IsWritten,
  CountedTag.mem_hitsAt_iff, TagPlace, exists_places, loopSpans_pairing
-/
import MailTemplate.Proofs.Stacked
import Mathlib.Data.List.Nodup
import Mathlib.Data.Set.List

/-!
Tags are read with a stack: a closer closes the loop that was opened last.  What comes of it can be
said without one.  An opener and a closer make up a pair if the tags between them are in balance and
no earlier closer is like that.

Between the tags of a pair no closer is without its opener.  So two pairs never cross, and of the
pairs that cover a line the one that opens first is inside none of the others.

The tags are those that are written on a row, wherever on it that is.  A tag holds no braces but its
own, so none begins inside another, and a scan passes over none.
-/

namespace MailTemplate

/-! ### The first closer without an opener -/

namespace CountedTag

/-- Whether tags open as many loops as they close. -/
def InBalance (tags : List (Nat × CountedTag)) : Prop :=
  openers (tags.map Prod.snd) = closers (tags.map Prod.snd)

/-- Either every closer has an opener in front of it, or what stands in front of the first that has
none is in balance. -/
theorem opensAll_or_stray (tags : List (Nat × CountedTag)) :
    OpensAll (tags.map Prod.snd) ∨ ∃ inner line after, tags = inner ++ (line, .closer) :: after ∧
      InBalance inner ∧ OpensAll (inner.map Prod.snd) := by
  induction tags using List.reverseRecOn with
  | nil => exact .inl fun front begins => by rw [List.prefix_nil.1 begins]; exact Nat.le_refl _
  | append_singleton tags entry ih =>
      rcases ih with opens | ⟨inner, line, after, rfl, balanced, opens⟩
      · obtain ⟨line, tag⟩ := entry
        have own := opens _ List.prefix_rfl
        have longer (bound : closers [tag] ≤ openers [tag] + (openers (tags.map Prod.snd) -
            closers (tags.map Prod.snd))) :
            OpensAll ((tags ++ [(line, tag)]).map Prod.snd) := by
          intro front begins
          rw [List.map_append, List.map_singleton, List.prefix_concat_iff] at begins
          rcases begins with rfl | shorter
          · simp only [closers_append, openers_append]
            omega
          · exact opens front shorter
        cases tag with
        | opener count => exact .inl (longer (by simp))
        | closer =>
            by_cases balanced : InBalance tags
            · exact .inr ⟨tags, line, [], rfl, balanced, opens⟩
            · refine .inl (longer ?_)
              rw [InBalance] at balanced
              rw [closers_closer, openers_closer]
              omega
      · exact .inr ⟨inner, line, after ++ [entry], by simp, balanced, opens⟩

/-- Where every closer has its opener, no closer stands behind tags in balance. -/
theorem OpensAll.not_inBalance {tags front back : List (Nat × CountedTag)} {line : Nat}
    (opens : OpensAll (tags.map Prod.snd)) (cut : tags = front ++ (line, .closer) :: back) :
    ¬ InBalance front := by
  intro balanced
  have own := opens (front.map Prod.snd ++ [.closer]) (by simp [cut])
  rw [openers_append, closers_append, ← balanced, openers_closer, closers_closer] at own
  omega

end CountedTag

/-! ### Pairs -/

/-- An opener among tags with the first closer behind it up to which openers and closers are in
balance. -/
structure TagPair (tags : List (Nat × CountedTag)) where
  before : List (Nat × CountedTag)
  startLine : Nat
  count : Nat
  inner : List (Nat × CountedTag)
  endLine : Nat
  after : List (Nat × CountedTag)
  whole : tags = before ++ (startLine, .opener count) :: (inner ++ (endLine, .closer) :: after)
  balanced : CountedTag.InBalance inner
  first : ∀ front line back, inner = front ++ (line, .closer) :: back → ¬ CountedTag.InBalance front

namespace TagPair

open CountedTag

variable {tags : List (Nat × CountedTag)}

/-- The number of tags in front of the opener. -/
def opener (pair : TagPair tags) : Nat :=
  pair.before.length

/-- The number of tags in front of the closer. -/
def closer (pair : TagPair tags) : Nat :=
  pair.before.length + 1 + pair.inner.length

/-- The lines from the opener to the closer. -/
def span (pair : TagPair tags) : LoopSpan :=
  ⟨pair.startLine, pair.endLine, pair.count⟩

/-- The loop of a pair, by the positions of its tags. -/
def loop (pair : TagPair tags) : OpenedLoop :=
  ⟨pair.opener, pair.count, some pair.closer⟩

/-- Whether a pair stands between the tags of another. -/
def IsInside (pair other : TagPair tags) : Prop :=
  other.opener < pair.opener ∧ pair.closer < other.closer

/-- The opener of a pair stands at its position among the tags. -/
theorem getElem?_opener (pair : TagPair tags) :
    tags[pair.opener]? = some (pair.startLine, .opener pair.count) := by
  exact (congrArg (·[pair.opener]?) pair.whole).trans (by simp [opener])

/-- The closer of a pair stands at its position among the tags. -/
theorem getElem?_closer (pair : TagPair tags) :
    tags[pair.closer]? = some (pair.endLine, .closer) := by
  exact (congrArg (·[pair.closer]?) pair.whole).trans
    (by simp [closer, Nat.add_assoc, Nat.add_comm 1 pair.inner.length])

/-- A pair opens before it closes. -/
theorem opener_lt_closer (pair : TagPair tags) : pair.opener < pair.closer := by
  simp only [opener, closer]
  omega

/-- An opener is no closer, of whatever pair. -/
theorem opener_ne_closer (pair other : TagPair tags) : pair.opener ≠ other.closer := by
  intro same
  have tag := pair.getElem?_opener
  rw [same, other.getElem?_closer] at tag
  simp at tag

/-- Between the tags of a pair every closer has its opener. -/
theorem opensAll_inner (pair : TagPair tags) : OpensAll (pair.inner.map Prod.snd) := by
  rcases opensAll_or_stray pair.inner with opens | ⟨front, line, back, whole, balanced, _⟩
  · exact opens
  · exact absurd balanced (pair.first front line back whole)

/-- What is in balance reaches no further than to the first closer that is like that. -/
theorem length_le_of_first {inner other behind after : List (Nat × CountedTag)} {line : Nat}
    (same : inner ++ (line, .closer) :: after = other ++ behind) (balanced : InBalance inner)
    (first : ∀ front line back, other = front ++ (line, .closer) :: back → ¬ InBalance front) :
    other.length ≤ inner.length := by
  rcases List.append_eq_append_iff.1 same with ⟨more, longer, rest⟩ | ⟨more, shorter, _⟩
  · cases more with
    | nil => simp [longer]
    | cons entry more =>
        obtain ⟨rfl, _⟩ := List.cons.inj rest
        exact absurd balanced (first inner line more longer)
  · simp [shorter]

/-- An opener is in one pair at most. -/
theorem eq_of_opener {pair other : TagPair tags} (same : pair.opener = other.opener) :
    pair = other := by
  obtain ⟨before, startLine, count, inner, endLine, after, whole, balanced, first⟩ := pair
  obtain ⟨before', startLine', count', inner', endLine', after', whole', balanced', first'⟩ := other
  obtain ⟨rfl, behind⟩ := List.append_inj (whole.symm.trans whole') same
  obtain ⟨head, rest⟩ := List.cons.inj behind
  have length : inner.length = inner'.length :=
    Nat.le_antisymm (length_le_of_first rest.symm balanced' first)
      (length_le_of_first rest balanced first')
  obtain ⟨rfl, last⟩ := List.append_inj rest length
  obtain ⟨tail, rfl⟩ := List.cons.inj last
  obtain ⟨rfl, tag⟩ := Prod.mk.inj head
  obtain rfl := CountedTag.opener.inj tag
  obtain ⟨rfl, _⟩ := Prod.mk.inj tail
  rfl

/-- Of two pairs the one that opens first closes before the other opens, or after it closes. -/
theorem apart_or_inside {pair other : TagPair tags} (earlier : pair.opener < other.opener) :
    pair.closer < other.opener ∨ other.IsInside pair := by
  obtain ⟨front, ahead, rest⟩ : ∃ front,
      other.before = pair.before ++ (pair.startLine, .opener pair.count) :: front ∧
      pair.inner ++ (pair.endLine, .closer) :: pair.after =
        front ++ (other.startLine, .opener other.count) ::
          (other.inner ++ (other.endLine, .closer) :: other.after) := by
    rcases List.append_eq_append_iff.1 (pair.whole.symm.trans other.whole) with
      ⟨more, longer, rest⟩ | ⟨more, longer, _⟩
    · cases more with
      | nil =>
          rw [List.append_nil] at longer
          exact absurd earlier (by simp [opener, longer])
      | cons head front =>
          obtain ⟨rfl, inside⟩ := List.cons.inj rest
          exact ⟨front, longer, inside⟩
    · exact absurd earlier (by simp [opener, longer])
  rcases List.append_eq_append_iff.1 rest with ⟨more, longer, rest⟩ | ⟨more, within, rest⟩
  · cases more with
    | nil => exact absurd (List.cons.inj rest).1 (by simp)
    | cons head more =>
        left
        simp only [opener, closer, ahead, longer, List.length_append, List.length_cons]
        omega
  · cases more with
    | nil => exact absurd (List.cons.inj rest).1 (by simp)
    | cons head back =>
        obtain ⟨rfl, inside⟩ := List.cons.inj rest
        right
        -- The rest of the first pair's inner part closes more than it opens.
        have stray : ¬ back <+: other.inner := by
          intro begins
          have own := pair.balanced
          have lead := pair.opensAll_inner (front.map Prod.snd) (by simp [within])
          have tail := other.opensAll_inner (back.map Prod.snd) (begins.map Prod.snd)
          rw [InBalance, within, ← List.singleton_append] at own
          simp only [List.map_append, List.map_singleton, openers_append, closers_append,
            openers_opener, closers_opener] at own
          omega
        refine ⟨earlier, ?_⟩
        rcases List.append_eq_append_iff.1 inside with ⟨more, longer, _⟩ | ⟨more, shorter, _⟩
        · cases more with
          | nil => exact absurd (by rw [longer, List.append_nil]) stray
          | cons head more =>
              simp only [closer, ahead, within, longer, List.length_append, List.length_cons]
              omega
        · exact absurd ⟨more, shorter.symm⟩ stray

/-- A closer is in one pair at most. -/
theorem eq_of_closer {pair other : TagPair tags} (same : pair.closer = other.closer) :
    pair = other := by
  rcases Nat.lt_trichotomy pair.opener other.opener with earlier | opens | later
  · have forward := other.opener_lt_closer
    rcases apart_or_inside earlier with apart | ⟨_, inside⟩ <;> omega
  · exact eq_of_opener opens
  · have forward := pair.opener_lt_closer
    rcases apart_or_inside later with apart | ⟨_, inside⟩ <;> omega

/-- Two pairs share no tag and do not cross. -/
theorem disjoint_or_inside {pair other : TagPair tags} (apart : pair ≠ other) :
    (pair.opener ≠ other.opener ∧ pair.opener ≠ other.closer ∧ pair.closer ≠ other.closer) ∧
      (pair.closer < other.opener ∨ other.closer < pair.opener ∨
        pair.IsInside other ∨ other.IsInside pair) := by
  refine ⟨⟨fun same => apart (eq_of_opener same), pair.opener_ne_closer other,
    fun same => apart (eq_of_closer same)⟩, ?_⟩
  rcases Nat.lt_trichotomy pair.opener other.opener with earlier | same | later
  · rcases apart_or_inside earlier with before | inside
    · exact .inl before
    · exact .inr (.inr (.inr inside))
  · exact absurd (eq_of_opener same) apart
  · rcases apart_or_inside later with before | inside
    · exact .inr (.inl before)
    · exact .inr (.inr (.inl inside))

end TagPair

/-! ### Reading pairs -/

/-- Tags with the numbers of their positions for lines. -/
def CountedTag.positions : Nat → List (Nat × CountedTag) → List (Nat × CountedTag)
  | _, [] => []
  | start, entry :: tags => (start, entry.2) :: positions (start + 1) tags

namespace CountedTag

/-- Positions go on behind the tags in front. -/
theorem positions_append (start : Nat) (front back : List (Nat × CountedTag)) :
    positions start (front ++ back) =
      positions start front ++ positions (start + front.length) back := by
  induction front generalizing start with
  | nil => rfl
  | cons entry front ih =>
      rw [List.cons_append, positions, ih, positions, List.cons_append, List.length_cons,
        Nat.add_assoc, Nat.add_comm 1]

@[simp] theorem map_snd_positions (start : Nat) (tags : List (Nat × CountedTag)) :
    (positions start tags).map Prod.snd = tags.map Prod.snd := by
  induction tags generalizing start with
  | nil => rfl
  | cons entry tags ih => rw [positions, List.map_cons, ih, List.map_cons]

/-- Positions are counted one by one. -/
theorem map_fst_positions (start : Nat) (tags : List (Nat × CountedTag)) :
    (positions start tags).map Prod.fst = List.range' start tags.length := by
  induction tags generalizing start with
  | nil => rfl
  | cons entry tags ih => rw [positions, List.map_cons, ih, List.length_cons, List.range'_succ]

/-- The line of a tag, by its position. -/
def lineAt (tags : List (Nat × CountedTag)) (position : Nat) : Nat :=
  (tags[position]?.map Prod.fst).getD 0

/-- A tag is at the position behind all tags in front of it. -/
theorem mem_positions_iff {start position : Nat} {tags : List (Nat × CountedTag)}
    {tag : CountedTag} : (position, tag) ∈ positions start tags ↔
      ∃ front line back, tags = front ++ (line, tag) :: back ∧ position = start + front.length := by
  induction tags generalizing start with
  | nil => simp [positions]
  | cons entry tags ih =>
      rw [positions, List.mem_cons, ih]
      constructor
      · rintro (here | ⟨front, line, back, rfl, rfl⟩)
        · obtain ⟨rfl, rfl⟩ := Prod.mk.inj here
          exact ⟨[], entry.1, tags, rfl, rfl⟩
        · exact ⟨entry :: front, line, back, rfl, by rw [List.length_cons]; omega⟩
      · rintro ⟨front, line, back, whole, rfl⟩
        cases front with
        | nil =>
            obtain ⟨rfl, rfl⟩ := List.cons.inj whole
            exact .inl rfl
        | cons first front =>
            obtain ⟨rfl, rfl⟩ := List.cons.inj whole
            exact .inr ⟨front, line, back, rfl, by rw [List.length_cons]; omega⟩

/-- Positions tell the lines. -/
theorem map_lineAt_positions (tags : List (Nat × CountedTag)) :
    (positions 0 tags).map (fun entry => (lineAt tags entry.1, entry.2)) = tags := by
  have behind (front back : List (Nat × CountedTag)) : (positions front.length back).map
      (fun entry => (lineAt (front ++ back) entry.1, entry.2)) = back := by
    induction back generalizing front with
    | nil => rfl
    | cons entry back ih =>
        have rest := ih (front ++ [entry])
        rw [List.length_append, List.length_singleton, List.append_assoc,
          List.singleton_append] at rest
        have here : lineAt (front ++ entry :: back) front.length = entry.1 := by simp [lineAt]
        rw [positions, List.map_cons, rest, here]
  exact behind [] tags

end CountedTag

namespace OpenedLoop

open CountedTag

/-- The opener of a loop. -/
def openerTag (loop : OpenedLoop) : Nat × CountedTag :=
  (loop.startLine, .opener loop.count)

/-- Closing a loop leaves the openers as they are. -/
theorem openerTag_closeLast (line : Nat) (loops : List OpenedLoop) :
    (closeLast line loops).map openerTag = loops.map openerTag := by
  induction loops with
  | nil => rfl
  | cons loop loops ih =>
      rw [closeLast]
      split
      · rfl
      · rw [List.map_cons, ih, List.map_cons]

/-- The loops that are read begin with openers among the tags, in their order. -/
theorem openerTag_readAll (tags : List (Nat × CountedTag)) :
    ((readAll [] tags).reverse.map openerTag).Sublist tags := by
  induction tags using List.reverseRecOn with
  | nil => exact List.Sublist.refl []
  | append_singleton tags entry ih =>
      obtain ⟨line, tag⟩ := entry
      rw [readAll_append]
      change ((readTag line (readAll [] tags) tag).reverse.map openerTag).Sublist _
      cases tag with
      | opener count =>
          rw [readTag, List.reverse_cons, List.map_append]
          exact ih.append (List.Sublist.refl _)
      | closer =>
          rw [readTag, List.map_reverse, openerTag_closeLast, ← List.map_reverse]
          exact ih.trans (List.sublist_append_left tags _)

/-- The loops that are read stand in the order of their openers. -/
theorem pairwise_readAll_positions (tags : List (Nat × CountedTag)) :
    (readAll [] (positions 0 tags)).reverse.Pairwise
      fun loop later => loop.startLine < later.startLine := by
  have starts := (openerTag_readAll (positions 0 tags)).map Prod.fst
  rw [map_fst_positions, List.map_map] at starts
  exact List.pairwise_map.1 ((List.pairwise_lt_range' 1).sublist starts)

/-- A loop is known by its position. -/
theorem eq_of_startLine {tags : List (Nat × CountedTag)} {loop other : OpenedLoop}
    (inside : loop ∈ readAll [] (positions 0 tags)) (among : other ∈ readAll [] (positions 0 tags))
    (same : loop.startLine = other.startLine) : loop = other := by
  have starts : ((readAll [] (positions 0 tags)).reverse.map startLine).Nodup :=
    List.pairwise_map.2 ((pairwise_readAll_positions tags).imp Nat.ne_of_lt)
  exact List.inj_on_of_nodup_map starts (List.mem_reverse.2 inside) (List.mem_reverse.2 among) same

/-- Where the tags behind an opener never close more than they have opened, the loop stays open. -/
theorem mem_of_opensAll {before rest : List (Nat × CountedTag)} {line count : Nat}
    (opens : OpensAll (rest.map Prod.snd)) :
    ⟨before.length, count, none⟩ ∈
      readAll [] (positions 0 (before ++ (line, .opener count) :: rest)) := by
  rw [positions_append, readAll_append, positions, Nat.zero_add]
  change _ ∈ readAll ([] ++ ⟨before.length, count, none⟩ :: readAll [] (positions 0 before))
    (positions (before.length + 1) rest)
  rw [readAll_append_base]
  · exact List.mem_append_right _ List.mem_cons_self
  · rw [map_snd_positions]
    exact .inr opens

/-- The positions of the tags of a pair among those of the other tags. -/
theorem positions_pair {tags : List (Nat × CountedTag)} (pair : TagPair tags) :
    positions 0 tags = positions 0 pair.before ++ (pair.opener, .opener pair.count) ::
      (positions (pair.opener + 1) pair.inner ++
        (pair.closer, .closer) :: positions (pair.closer + 1) pair.after) := by
  refine (congrArg (positions 0) pair.whole).trans ?_
  rw [positions_append, positions, positions_append, positions, Nat.zero_add]
  rfl

/-- The loops between the tags of a pair are closed there. -/
theorem shut_inner {tags : List (Nat × CountedTag)} (pair : TagPair tags) (start : Nat) :
    ∀ loop ∈ readAll [] (positions start pair.inner), loop.endLine ≠ none := by
  have allShut : stillOpen (readAll [] (positions start pair.inner)) = 0 := by
    refine Nat.le_zero.1 (stillOpen_readAll ?_)
    rw [map_snd_positions]
    rintro back ⟨front, whole⟩
    have lead := pair.opensAll_inner front (whole ▸ List.prefix_append front back)
    have own := pair.balanced
    rw [InBalance, ← whole, openers_append, closers_append] at own
    omega
  simpa [stillOpen, List.countP_eq_zero] using allShut

/-- The opener of a pair is closed by its closer. -/
theorem mem_of_pair {tags : List (Nat × CountedTag)} (pair : TagPair tags) :
    pair.loop ∈ readAll [] (positions 0 tags) := by
  have inner (base : List OpenedLoop) :
      readAll base (positions (pair.opener + 1) pair.inner) =
        readAll [] (positions (pair.opener + 1) pair.inner) ++ base := by
    refine @readAll_append_base [] base _ (.inr ?_)
    rw [map_snd_positions]
    exact pair.opensAll_inner
  rw [positions_pair pair, readAll_append]
  change _ ∈ readAll (⟨pair.opener, pair.count, none⟩ :: readAll [] (positions 0 pair.before)) _
  rw [readAll_append, inner]
  change _ ∈ readAll (closeLast pair.closer (_ ++ _)) (positions (pair.closer + 1) pair.after)
  rw [closeLast_append (shut_inner pair _)]
  exact mem_readAll (by simp) (List.mem_append_right _ List.mem_cons_self) _

/-- Every loop that is read stays open or is that of a pair. -/
theorem exists_pair {tags : List (Nat × CountedTag)} {loop : OpenedLoop}
    (inside : loop ∈ readAll [] (positions 0 tags)) :
    loop.endLine = none ∨ ∃ pair : TagPair tags, pair.loop = loop := by
  have opens : (loop.startLine, .opener loop.count) ∈ positions 0 tags :=
    (openerTag_readAll _).subset (List.mem_map_of_mem (List.mem_reverse.2 inside))
  obtain ⟨before, line, rest, whole, start⟩ := mem_positions_iff.1 opens
  rw [Nat.zero_add] at start
  rcases opensAll_or_stray rest with all | ⟨inner, endLine, after, rfl, balanced, innerOpens⟩
  · left
    subst whole
    rw [eq_of_startLine inside (mem_of_opensAll all) start]
  · right
    let pair : TagPair tags := ⟨before, line, loop.count, inner, endLine, after, whole, balanced,
      fun _ _ _ => innerOpens.not_inBalance⟩
    exact ⟨pair, eq_of_startLine (mem_of_pair pair) inside start.symm⟩

end OpenedLoop

/-! ### The spans of a text -/

/-- With lines for positions, the loop of a pair has its span. -/
theorem TagPair.span?_loop {tags : List (Nat × CountedTag)} (pair : TagPair tags) :
    (pair.loop.renumber (CountedTag.lineAt tags)).span? = some pair.span := by
  simp [loop, OpenedLoop.renumber, OpenedLoop.span?, CountedTag.lineAt, pair.getElem?_opener,
    pair.getElem?_closer, span]

/-- The pairs among the tags of a text, in the order of their openers, give its spans. -/
theorem exists_pairs (content : Text) : ∃ pairs : List (TagPair (countedTags content)),
    pairs.map TagPair.span = loopSpans content ∧
    pairs.Pairwise (fun pair later => pair.opener < later.opener) ∧ ∀ pair, pair ∈ pairs := by
  let line := CountedTag.lineAt (countedTags content)
  let loops := (OpenedLoop.readAll [] (CountedTag.positions 0 (countedTags content))).reverse
  have spans : loopSpans content = loops.filterMap fun loop => (loop.renumber line).span? := by
    have read := OpenedLoop.readAll_renumber line []
      (CountedTag.positions 0 (countedTags content))
    rw [CountedTag.map_lineAt_positions, List.map_nil] at read
    rw [OpenedLoop.loopSpans_eq, read, ← List.map_reverse, List.filterMap_map]
    rfl
  obtain ⟨pairs, same⟩ : ∃ pairs : List (TagPair (countedTags content)),
      pairs.map TagPair.loop = loops.filter (·.endLine.isSome) := by
    refine (Set.ext_iff.1 (Set.range_list_map TagPair.loop) _).2 fun loop among => ?_
    obtain ⟨inside, shut⟩ := List.mem_filter.1 among
    rcases OpenedLoop.exists_pair (List.mem_reverse.1 inside) with stays | found
    · exact absurd shut (by simp [stays])
    · exact found
  refine ⟨pairs, ?_, ?_, fun pair => ?_⟩
  · have shut : loops.filterMap (fun loop => (loop.renumber line).span?) =
        (loops.filter (·.endLine.isSome)).filterMap fun loop => (loop.renumber line).span? := by
      rw [List.filterMap_filter]
      refine List.filterMap_congr fun loop _ => ?_
      cases last : loop.endLine <;> simp [OpenedLoop.renumber, OpenedLoop.span?, last]
    rw [spans, shut, ← same, List.filterMap_map]
    simp only [Function.comp_def, line, TagPair.span?_loop, List.filterMap_eq_map']
  · have order := (OpenedLoop.pairwise_readAll_positions (countedTags content)).filter
      (·.endLine.isSome)
    rw [← same, List.pairwise_map] at order
    exact order
  · have inside : pair.loop ∈ pairs.map TagPair.loop := by
      rw [same]
      exact List.mem_filter.2 ⟨List.mem_reverse.2 (OpenedLoop.mem_of_pair pair), rfl⟩
    obtain ⟨other, among, alike⟩ := List.mem_map.1 inside
    exact TagPair.eq_of_opener (congrArg OpenedLoop.startLine alike) ▸ among

/-- Tags stand in the order of their lines. -/
theorem pairwise_countedTags (content : Text) :
    (countedTags content).Pairwise fun entry later => entry.1 ≤ later.1 := by
  refine Text.pairwise_flatMap_lines fun entry tag inside => ?_
  obtain ⟨_, _, rfl⟩ := List.mem_map.1 inside
  rfl

/-- A pair goes down the lines of its text. -/
theorem TagPair.lines_le {content : Text} (pair : TagPair (countedTags content)) :
    1 ≤ pair.startLine ∧ pair.startLine ≤ pair.endLine ∧
      pair.endLine ≤ (Text.lines content).length := by
  obtain ⟨opens, first⟩ := List.getElem?_eq_some_iff.1 pair.getElem?_opener
  obtain ⟨closes, last⟩ := List.getElem?_eq_some_iff.1 pair.getElem?_closer
  have down := List.pairwise_iff_getElem.1 (pairwise_countedTags content) _ _ opens closes
    pair.opener_lt_closer
  rw [first, last] at down
  exact ⟨(line_of_mem_countedTags (List.mem_of_getElem? pair.getElem?_opener)).1, down,
    (line_of_mem_countedTags (List.mem_of_getElem? pair.getElem?_closer)).2⟩

/-- The span that decides for a line is that of a pair that is inside no other that covers it. -/
theorem spanOfLine?_eq_some {content : Text} {line : Nat} {span : LoopSpan}
    (found : spanOfLine? (loopSpans content) line = some span) :
    ∃ pair : TagPair (countedTags content), pair.span = span ∧ span.covers line = true ∧
      ∀ other : TagPair (countedTags content), other.span.covers line = true →
        ¬ pair.IsInside other := by
  obtain ⟨pairs, spans, order, all⟩ := exists_pairs content
  rw [spanOfLine?, ← spans, List.find?_map, Option.map_eq_some_iff] at found
  obtain ⟨pair, found, rfl⟩ := found
  obtain ⟨covers, before, after, rfl, uncovered⟩ := List.find?_eq_some_iff_append.1 found
  refine ⟨pair, rfl, covers, fun other covered inside => ?_⟩
  obtain ⟨_, behind, _⟩ := List.pairwise_append.1 order
  rcases List.mem_append.1 (all other) with earlier | own
  · exact absurd covered (by simpa using uncovered other earlier)
  · rcases List.mem_cons.1 own with rfl | later
    · exact Nat.lt_irrefl _ inside.1
    · exact Nat.lt_asymm inside.1 (List.rel_of_pairwise_cons behind later)

/-- No span decides for a line just if no pair covers it. -/
theorem spanOfLine?_eq_none_iff {content : Text} {line : Nat} :
    spanOfLine? (loopSpans content) line = none ↔
      ∀ pair : TagPair (countedTags content), pair.span.covers line = false := by
  obtain ⟨pairs, spans, _, all⟩ := exists_pairs content
  rw [spanOfLine?, ← spans, List.find?_eq_none, List.forall_mem_map]
  simp only [Bool.not_eq_true]
  exact ⟨fun uncovered pair => uncovered pair (all pair), fun uncovered pair _ => uncovered pair⟩

/-! ### The tags of a text -/

namespace CountedTag

/-- Whether a tag is the word `loop`, a gap and a row of digits, with blanks around them, and a
count is what the digits stand for, or the largest if they stand for none. -/
def Spells (raw : Text) (count : Nat) : Prop :=
  ∃ lead gap digits pad : Text,
    raw = (Segment.directive (lead ++ "loop".toList ++ gap ++ digits ++ pad)).raw ∧
      lead.isPadding = true ∧ gap ≠ [] ∧ gap.isPadding = true ∧ digits.isCount = true ∧
      pad.isPadding = true ∧ count = (Text.readCount? digits).getD countLimit

/-- How a tag is written: an opener with its count, or the word `/loop` with blanks around it. -/
inductive IsWritten : Hit CountedTag → Prop
  | opener {raw : Text} {count : Nat} (spells : Spells raw count) : IsWritten ⟨raw, .opener count⟩
  | closer {lead pad : Text} (blank : lead.isPadding = true) (filled : pad.isPadding = true) :
      IsWritten ⟨(Segment.directive (lead ++ "/loop".toList ++ pad)).raw, .closer⟩

/-- The body of a counted tag is made up of the parts of its shape. -/
theorem isWritten_of_valueOf? {body : Text} {tag : CountedTag} (closed : '}' ∉ body)
    (found : pattern.valueOf? body = some tag) :
    IsWritten ⟨(Segment.directive body).raw, tag⟩ := by
  rw [valueOf?_eq closed, Option.or_eq_some_iff] at found
  rcases found with opens | ⟨_, closes⟩
  · obtain ⟨pieces, all, rfl⟩ := Option.map_eq_some_iff.1 opens
    have whole := Shape.take?_flatten (Shape.takeAll?_eq_some_iff.1 all)
    have first := Shape.accepts_of_take? (Shape.takeAll?_eq_some_iff.1 all)
    obtain ⟨lead, _, blank, second, rfl⟩ := List.forall₂_cons_left_iff.1 first
    obtain ⟨_, _, rfl, third, rfl⟩ := List.forall₂_cons_left_iff.1 second
    obtain ⟨gap, _, apart, fourth, rfl⟩ := List.forall₂_cons_left_iff.1 third
    obtain ⟨digits, _, digit, last, rfl⟩ := List.forall₂_cons_left_iff.1 fourth
    obtain ⟨pad, _, filled, ends, rfl⟩ := List.forall₂_cons_left_iff.1 last
    obtain rfl := List.forall₂_nil_left_iff.1 ends
    have counts : digits.isCount = true := by
      rw [Text.isCount, Bool.and_eq_true, List.all_eq_true]
      exact ⟨by simpa using digit.1, digit.2⟩
    refine .opener ⟨lead, gap, digits, pad, ?_, Text.isPadding_iff.2 blank, apart.1,
      Text.isPadding_iff.2 apart.2, counts, Text.isPadding_iff.2 filled, rfl⟩
    rw [← whole]
    simp
  · obtain ⟨pieces, all, rfl⟩ := Option.map_eq_some_iff.1 closes
    have whole := Shape.take?_flatten (Shape.takeAll?_eq_some_iff.1 all)
    have first := Shape.accepts_of_take? (Shape.takeAll?_eq_some_iff.1 all)
    obtain ⟨lead, _, blank, second, rfl⟩ := List.forall₂_cons_left_iff.1 first
    obtain ⟨_, _, rfl, last, rfl⟩ := List.forall₂_cons_left_iff.1 second
    obtain ⟨pad, _, filled, ends, rfl⟩ := List.forall₂_cons_left_iff.1 last
    obtain rfl := List.forall₂_nil_left_iff.1 ends
    obtain rfl : lead ++ "/loop".toList ++ pad = body := by
      rw [← whole]
      simp
    exact .closer (Text.isPadding_iff.2 blank) (Text.isPadding_iff.2 filled)

/-- What is hit is written as a counted tag is. -/
theorem isWritten_of_mem_hits {row : Text} {hit : Hit CountedTag}
    (inside : hit ∈ pattern.hits row) : IsWritten hit := by
  obtain ⟨first, last, scan⟩ := Pattern.mem_hits_iff.1 inside
  obtain ⟨body, closed, raw, found⟩ := shallow.body_of_read (Pattern.read_of_scan scan)
  have written := isWritten_of_valueOf? closed found
  rwa [← raw] at written

/-- The count of an opener is the one that it is written with. -/
theorem spells_of_opener {row : Text} {hit : Hit CountedTag} {count : Nat}
    (inside : hit ∈ pattern.hits row) (opens : hit.value = .opener count) :
    Spells hit.raw count := by
  cases isWritten_of_mem_hits inside with
  | opener spells => exact opener.inj opens ▸ spells
  | closer blank filled => exact absurd opens (by simp)

/-- An opener is read with the count that its digits stand for. -/
theorem valueOf?_opener {lead gap digits pad : Text} (blank : lead.isPadding = true)
    (apart : gap ≠ []) (between : gap.isPadding = true) (counts : digits.isCount = true)
    (filled : pad.isPadding = true) (closed : '}' ∉ lead ++ "loop".toList ++ gap ++ digits ++ pad) :
    pattern.valueOf? (lead ++ "loop".toList ++ gap ++ digits ++ pad) =
      some (opener (count digits)) := by
  obtain ⟨c, others, rfl⟩ := List.exists_cons_of_ne_nil apart
  rw [Text.isPadding_iff, List.forall_mem_cons, ← Text.isPadding_iff] at between
  have start : Text.trimStart (lead ++ "loop".toList ++ c :: others ++ digits ++ pad) =
      "loop".toList ++ c :: (others ++ digits ++ pad) := by
    simp only [List.append_assoc, List.cons_append]
    rw [Text.trimStart_padding_append blank]
    exact Text.trimStart_cons (by decide) _
  have solid : digits.isSolidText = true := by
    rw [Text.isCount, Bool.and_eq_true, List.all_eq_true] at counts
    refine Text.isSolidText_iff.2 fun d inside => ?_
    by_contra other
    have digit := counts.2 d inside
    rw [isDecimalDigit_of_isBlank (by simpa using other)] at digit
    exact absurd digit (by simp)
  have found := LoopTag.valueOf?_argument closed between.1 start
  rw [Text.trim_padded between.2 filled, Text.trim_of_solid solid] at found
  exact valueOf?_of_isCounted closed found counts

/-- The word `/loop` is read as a closer. -/
theorem valueOf?_closer {lead pad : Text} (blank : lead.isPadding = true)
    (filled : pad.isPadding = true) (closed : '}' ∉ lead ++ "/loop".toList ++ pad) :
    pattern.valueOf? (lead ++ "/loop".toList ++ pad) = some closer := by
  have first : Part.blanks.take? (lead ++ ("/loop".toList ++ pad)) =
      some (lead, "/loop".toList ++ pad) :=
    Part.take?_many (Text.isPadding_iff.1 blank) (by decide) _
  have other : (Part.keyword "loop").take? ("/loop".toList ++ pad) = none := rfl
  have second : (Part.keyword "/loop").take? ("/loop".toList ++ pad) =
      some ("/loop".toList, pad) := Part.take?_word_append _ pad
  have third : Part.blanks.take? pad = some (pad, []) := by
    rw [Part.blanks, Part.take?, Text.takeRun_of_all (Text.isPadding_iff.1 filled)]
  have unopened : innerShape.takeAll? (lead ++ "/loop".toList ++ pad) = none := by
    rw [List.append_assoc, Shape.takeAll?]
    simp only [innerShape, Shape.take?, first, other]
  have taken : Shape.takeAll? [.blanks, .keyword "/loop", .blanks]
      (lead ++ "/loop".toList ++ pad) = some [lead, "/loop".toList, pad] := by
    rw [List.append_assoc, Shape.takeAll?_eq_some_iff]
    simp only [Shape.take?, first, second, third]
  rw [valueOf?_eq closed, unopened, taken]
  rfl

/-- A counted tag is read wherever it is written. -/
theorem read_of_isWritten {hit : Hit CountedTag} (written : IsWritten hit) (rest : Text) :
    pattern.read (hit.raw ++ rest) = some (hit, rest) := by
  have brace {t : Text} (blank : t.isPadding = true) : '}' ∉ t :=
    Text.not_mem_of_isPadding blank (by decide)
  cases written with
  | opener spells =>
      obtain ⟨lead, gap, digits, pad, rfl, blank, apart, between, counts, filled, rfl⟩ := spells
      have digit : '}' ∉ digits := by
        intro inside
        rw [Text.isCount, Bool.and_eq_true, List.all_eq_true] at counts
        exact absurd (counts.2 _ inside) (by decide)
      have closed : '}' ∉ lead ++ "loop".toList ++ gap ++ digits ++ pad := by
        simp [brace blank, brace between, brace filled, digit]
      exact shallow.read_of_valueOf? closed
        (valueOf?_opener blank apart between counts filled closed) rest
  | @closer lead pad blank filled =>
      have closed : '}' ∉ lead ++ "/loop".toList ++ pad := by
        simp [brace blank, brace filled]
      exact shallow.read_of_valueOf? closed (valueOf?_closer blank filled closed) rest

/-- The hits on a row are the tags written there, each at the column it stands at. -/
theorem mem_hitsAt_iff {row : Text} {column : Nat} {hit : Hit CountedTag} :
    (column, hit) ∈ pattern.hitsAt row ↔ IsWritten hit ∧ hit.raw <+: row.drop column := by
  constructor
  · intro inside
    obtain ⟨rest, read⟩ := Pattern.read_of_mem_hitsAt inside
    exact ⟨isWritten_of_mem_hits (Pattern.mem_hits_of_mem_hitsAt inside), rest,
      pattern.raw_append read⟩
  · rintro ⟨written, rest, whole⟩
    have read := read_of_isWritten written rest
    have width : (row.take column).length = column := by
      refine List.length_take_of_le (Nat.le_of_not_lt fun beyond => ?_)
      rw [List.drop_of_length_le (Nat.le_of_lt beyond)] at whole
      exact pattern.raw_ne_nil read (List.append_eq_nil_iff.1 whole).1
    have here := ((separate read).mem_hitsAt_iff (u := row.take column) read).2 (rfl : hit = hit)
    rwa [width, whole, List.take_append_drop] at here

end CountedTag

/-- A tag at a place of a text: its row, counted from one, and what precedes it there. -/
structure TagPlace where
  line : Nat
  column : Nat
  hit : Hit CountedTag

/-- Whether a tag is written at a place of a text. -/
def TagPlace.IsIn (place : TagPlace) (content : Text) : Prop :=
  CountedTag.IsWritten place.hit ∧ ∃ row, (row, place.line) ∈ (Text.lines content).zipIdx 1 ∧
    place.hit.raw <+: row.drop place.column

/-- Whether a place is on an earlier row than another, or ends in front of it on the same row. -/
def TagPlace.IsBefore (place later : TagPlace) : Prop :=
  place.line < later.line ∨
    place.line = later.line ∧ place.column + place.hit.raw.length ≤ later.column

/-- The counted tags of a text are those written in it, row by row and from left to right. -/
theorem exists_places (content : Text) : ∃ places : List TagPlace,
    countedTags content = places.map (fun place => (place.line, place.hit.value)) ∧
      places.Pairwise TagPlace.IsBefore ∧ ∀ place, place ∈ places ↔ place.IsIn content := by
  refine ⟨((Text.lines content).zipIdx 1).flatMap fun entry =>
    (CountedTag.pattern.hitsAt entry.1).map fun found => ⟨entry.2, found.1, found.2⟩, ?_, ?_, ?_⟩
  · simp only [countedTags, Pattern.hits_eq_map_hitsAt, List.map_flatMap, List.map_map]
    rfl
  · rw [List.pairwise_flatMap]
    constructor
    · rintro ⟨row, line⟩ _
      rw [List.pairwise_map]
      exact (Pattern.pairwise_hitsAt _ row).imp fun before => .inr ⟨rfl, before⟩
    · refine (Text.pairwise_zipIdx_lines content).imp fun before place inside later behind => ?_
      obtain ⟨_, _, rfl⟩ := List.mem_map.1 inside
      obtain ⟨_, _, rfl⟩ := List.mem_map.1 behind
      exact .inl before
  · rintro ⟨line, column, hit⟩
    simp only [TagPlace.IsIn, List.mem_flatMap, List.mem_map, Prod.exists]
    constructor
    · rintro ⟨row, _, listed, _, _, inside, same⟩
      obtain ⟨rfl, rfl, rfl⟩ := TagPlace.mk.inj same
      obtain ⟨written, stands⟩ := CountedTag.mem_hitsAt_iff.1 inside
      exact ⟨written, row, listed, stands⟩
    · rintro ⟨written, row, listed, stands⟩
      exact ⟨row, line, listed, column, hit, CountedTag.mem_hitsAt_iff.2 ⟨written, stands⟩, rfl⟩

/-! ### The spans of a text -/

/-- The spans of a text are the pairs among its tags: each opener with the first closer behind it up
to which openers and closers are in balance, in the order of the openers.  No two pairs share a tag
or cross, each goes down the lines of the text, and its count is the one in its opener.  The span
that decides for a line is that of a pair that is inside no other pair that covers the line, and
there is one unless no pair covers the line. -/
theorem loopSpans_pairing (content : Text) :
    (∃ pairs : List (TagPair (countedTags content)),
      pairs.map TagPair.span = loopSpans content ∧
      pairs.Pairwise (fun pair later => pair.opener < later.opener) ∧ ∀ pair, pair ∈ pairs) ∧
    (∀ pair other : TagPair (countedTags content), pair ≠ other →
      (pair.opener ≠ other.opener ∧ pair.opener ≠ other.closer ∧ pair.closer ≠ other.closer) ∧
      (pair.closer < other.opener ∨ other.closer < pair.opener ∨
        pair.IsInside other ∨ other.IsInside pair)) ∧
    (∀ pair : TagPair (countedTags content), 1 ≤ pair.startLine ∧ pair.startLine ≤ pair.endLine ∧
      pair.endLine ≤ (Text.lines content).length) ∧
    (∀ row, ∀ hit ∈ CountedTag.pattern.hits row, ∀ count, hit.value = .opener count →
      CountedTag.Spells hit.raw count) ∧
    ∀ line, (spanOfLine? (loopSpans content) line = none ↔
        ∀ pair : TagPair (countedTags content), pair.span.covers line = false) ∧
      ∀ span, spanOfLine? (loopSpans content) line = some span →
        ∃ pair : TagPair (countedTags content), pair.span = span ∧ span.covers line = true ∧
          ∀ other : TagPair (countedTags content), other.span.covers line = true →
            ¬ pair.IsInside other := by
  exact ⟨exists_pairs content, fun _ _ => TagPair.disjoint_or_inside, TagPair.lines_le,
    fun _ _ inside _ => CountedTag.spells_of_opener inside,
    fun _ => ⟨spanOfLine?_eq_none_iff, fun _ => spanOfLine?_eq_some⟩⟩

/-- A closer too many, an opener too many, and a count that is too large. -/
example : loopSpans (Document.raw [.directive "/loop".toList, .directive "loop 2".toList,
      .text "\n".toList, .directive "loop 3".toList, .directive "/loop".toList, .text "\n".toList,
      .directive "loop 99999999999999999999".toList, .directive "/loop".toList]) =
    [⟨2, 2, 3⟩, ⟨3, 3, countLimit⟩] := by
  decide +kernel

end MailTemplate
