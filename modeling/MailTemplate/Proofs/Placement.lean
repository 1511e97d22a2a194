/-
Module: MailTemplate.Proofs.Placement
Purpose: Conversion goes segment by segment, each at its line and column, and leaves most of them.
Main exports: Place, convertAt, convertSegments, convertText_segments, Segment.IsUnkeyed,
  Segment.isUnkeyed_of_comma, convertText_unkeyed
-/
import MailTemplate.Proofs.KeyedExtent

/-!
Conversion cuts a text into lines and looks for keyed directives on each, so it knows nothing of
segments.  Yet no keyed directive reaches across the end of a segment: behind a directive stand two
closing braces, which a keyed directive has only at its own end, and the text between directives
opens none.  So each segment is converted by itself.  What it becomes depends on the segments in
front of it only through its place: the line tells which loop covers it, and the column how far the
placeholders of a loop are indented.

A segment without keyed directives stays as it is, and these are few: a directive needs a comma to
hold one, and a text between directives holds none.
-/

namespace MailTemplate

/-! ### Places -/

/-- A place in a text: the number of its line, and how many characters precede it there. -/
structure Place where
  line : Nat
  column : Nat
deriving Repr, Inhabited, DecidableEq

namespace Place

/-- Where a text begins. -/
def start : Place := ⟨1, 0⟩

/-- The place behind a character. -/
def step (place : Place) (c : Char) : Place :=
  if c = '\n' then ⟨place.line + 1, 0⟩ else ⟨place.line, place.column + 1⟩

/-- The place behind a text that begins at a place. -/
def behind (place : Place) (t : Text) : Place :=
  t.foldl step place

@[simp] theorem behind_nil (place : Place) : place.behind [] = place := rfl

/-- A place is moved along two texts one after the other. -/
theorem behind_append (place : Place) (s t : Text) :
    place.behind (s ++ t) = (place.behind s).behind t :=
  List.foldl_append

/-- On one line, a place moves by columns. -/
theorem behind_of_not_mem {t : Text} (plain : '\n' ∉ t) (place : Place) :
    place.behind t = ⟨place.line, place.column + t.length⟩ := by
  induction t generalizing place with
  | nil => rfl
  | cons c t ih =>
      rw [List.mem_cons, not_or] at plain
      rw [behind, List.foldl_cons, step, if_neg (Ne.symm plain.1), ← behind, ih plain.2]
      simp only [List.length_cons]
      congr 1
      omega

/-- What precedes a line feed makes no difference to the place behind it but by its line. -/
theorem behind_line {first : Text} (plain : '\n' ∉ first) (rest : Text) (place : Place) :
    place.behind (first ++ '\n' :: rest) = behind ⟨place.line + 1, 0⟩ rest := by
  rw [behind_append, behind_of_not_mem plain]
  rfl

/-- The place behind a text, by its lines. -/
theorem behind_lines {t last : Text} {above : List Text}
    (lines : Text.lines t = above ++ [last]) (number : Nat) :
    behind ⟨number, 0⟩ t = ⟨number + above.length, last.length⟩ := by
  induction above generalizing t number with
  | nil =>
      obtain ⟨plain, rfl⟩ := Text.eq_of_lines_singleton lines
      rw [behind_of_not_mem plain, Nat.zero_add]
      rfl
  | cons first above ih =>
      obtain ⟨rest, plain, rfl, others⟩ := Text.eq_of_lines_cons lines (by simp)
      rw [behind_line plain, ih others, List.length_cons, Nat.add_right_comm, Nat.add_assoc]

end Place

/-! ### Tags and the columns they stand in -/

namespace Pattern

variable {α : Type} {p : Pattern α}

/-- Tokens behind others are located from the column where these end. -/
theorem locate_append (column : Nat) (first last : List (Token α)) :
    locate column (first ++ last) =
      locate column first ++ locate (column + (first.flatMap Token.raw).length) last := by
  induction first generalizing column with
  | nil => rfl
  | cons token first ih => simp [locate, ih, Nat.add_assoc]

/-- On a row that is moved, all tokens are moved alike. -/
theorem locate_add (columns column : Nat) (row : List (Token α)) :
    locate (columns + column) row =
      (locate column row).map fun entry => (columns + entry.1, entry.2) := by
  induction row generalizing column with
  | nil => rfl
  | cons token row ih => rw [locate, locate, List.map_cons, ← ih, Nat.add_assoc]

/-- Behind a part that is scanned by itself, columns are counted from where the part begins. -/
theorem replaceAt_append {first rest : Text}
    (cut : p.scan (first ++ rest) = p.scan first ++ p.scan rest) (f : Nat → Hit α → Text) :
    p.replaceAt f (first ++ rest) =
      p.replaceAt f first ++ p.replaceAt (fun column => f (first.length + column)) rest := by
  rw [replaceAt, replaceAt, replaceAt, cut, locate_append, List.flatMap_append,
    scan_flatMap_raw, Nat.add_comm, locate_add, List.flatMap_map]
  congr 1
  refine List.flatMap_congr fun entry _ => ?_
  rcases entry with ⟨column, c | hit⟩ <;> rfl

/-- A scan without hits passes over the characters one by one. -/
theorem scan_of_hits_eq_nil {t : Text} (empty : p.hits t = []) : p.scan t = t.map .plain := by
  induction t using p.scan_induction with
  | nil => rfl
  | plain c t unread ih =>
      rw [hits_of_not_read unread] at empty
      rw [scan_of_not_read unread, ih empty, List.map_cons]
  | hit t found rest read _ =>
      rw [hits_of_read read] at empty
      exact absurd empty (List.cons_ne_nil _ _)

/-- Where no tag stands, nothing is replaced. -/
theorem replaceAt_of_hits_eq_nil {t : Text} (empty : p.hits t = []) (f : Nat → Hit α → Text) :
    p.replaceAt f t = t := by
  rw [replaceAt, scan_of_hits_eq_nil empty]
  generalize 0 = column
  clear empty
  induction t generalizing column with
  | nil => rfl
  | cons c t ih =>
      rw [List.map_cons, locate, List.flatMap_cons, ih]
      rfl

end Pattern

/-! ### Conversion from a place on -/

section Conversion

variable (dialect : Dialect) (limit : Nat)

/-- A row of text that begins in a column of its line, with its keyed directives converted. -/
def convertRow (enclosing : Option LoopSpan) (column : Nat) (row : Text) : Text :=
  KeyedTag.pattern.replaceAt
    (fun offset hit => convertDirective dialect limit enclosing (column + offset) hit.value) row

variable (spans : List LoopSpan)

/-- Rows of text converted, the first from a place on and each other from the start of its line. -/
def convertRows : Place → List Text → List Text
  | _, [] => []
  | place, row :: rows =>
      convertRow dialect limit (spanOfLine? spans place.line) place.column row ::
        convertRows ⟨place.line + 1, 0⟩ rows

/-- A text that begins at a place, with its keyed directives converted. -/
def convertAt (place : Place) (t : Text) : Text :=
  Text.join ['\n'] (convertRows dialect limit spans place (Text.lines t))

/-- The segments of a document converted one by one, the first of which begins at a place. -/
def convertSegments : Place → Document → Text
  | _, [] => []
  | place, segment :: doc =>
      convertAt dialect limit spans place segment.raw ++
        convertSegments (place.behind segment.raw) doc

variable {dialect limit spans}

/-- Segments behind others are converted from the place where these end. -/
theorem convertSegments_append (place : Place) (first last : Document) :
    convertSegments dialect limit spans place (first ++ last) =
      convertSegments dialect limit spans place first ++
        convertSegments dialect limit spans (place.behind first.raw) last := by
  induction first generalizing place with
  | nil => rfl
  | cons segment first ih =>
      rw [List.cons_append, convertSegments, ih, convertSegments, Document.raw_cons,
        Place.behind_append, List.append_assoc]

/-- Rows are converted one by one, each with the span that covers its number. -/
theorem convertRows_lines (number : Nat) (rows : List Text) :
    convertRows dialect limit spans ⟨number, 0⟩ rows = (rows.zipIdx number).map fun (row, number) =>
      convertLine dialect limit (spanOfLine? spans number) row := by
  induction rows generalizing number with
  | nil => rfl
  | cons row rows ih =>
      rw [convertRows, ih, List.zipIdx_cons, List.map_cons]
      simp only [convertRow, convertLine, Nat.zero_add]

/-- A text is converted from its start on. -/
theorem convertText_eq_convertAt (content : Text) :
    convertText dialect limit content =
      convertAt dialect limit (loopSpans content) .start content := by
  rw [convertAt, Place.start, convertRows_lines]
  rfl

/-- A text with a line feed is converted up to it and behind it. -/
theorem convertAt_line {first : Text} (plain : '\n' ∉ first) (rest : Text) (place : Place) :
    convertAt dialect limit spans place (first ++ '\n' :: rest) =
      convertRow dialect limit (spanOfLine? spans place.line) place.column first ++
        '\n' :: convertAt dialect limit spans ⟨place.line + 1, 0⟩ rest := by
  rw [convertAt, convertAt, Text.lines_line plain, convertRows]
  cases rows : Text.lines rest with
  | nil => exact absurd rows (Text.lines_ne_nil rest)
  | cons row rows =>
      rw [convertRows, Text.join_cons _ _ (List.cons_ne_nil _ _)]
      rfl

/-- A text on one line is converted as a part of its row. -/
theorem convertAt_of_not_mem {row : Text} (plain : '\n' ∉ row) (place : Place) :
    convertAt dialect limit spans place row =
      convertRow dialect limit (spanOfLine? spans place.line) place.column row := by
  rw [convertAt, Text.lines_of_not_mem plain, convertRows, convertRows, Text.join_singleton]

/-- Where a row is cut, both parts are converted apart. -/
theorem convertRow_append {left right : Text}
    (cut : KeyedTag.pattern.scan (left ++ right) =
      KeyedTag.pattern.scan left ++ KeyedTag.pattern.scan right)
    (enclosing : Option LoopSpan) (column : Nat) :
    convertRow dialect limit enclosing column (left ++ right) =
      convertRow dialect limit enclosing column left ++
        convertRow dialect limit enclosing (column + left.length) right := by
  rw [convertRow, Pattern.replaceAt_append cut]
  simp only [convertRow, Nat.add_assoc]

/-- A text is converted in two parts if no keyed directive lies across the cut. -/
theorem convertAt_cut {u v left right : Text} {above below : List Text}
    (ahead : Text.lines u = above ++ [left]) (behind : Text.lines v = right :: below)
    (cut : KeyedTag.pattern.scan (left ++ right) =
      KeyedTag.pattern.scan left ++ KeyedTag.pattern.scan right) (place : Place) :
    convertAt dialect limit spans place (u ++ v) =
      convertAt dialect limit spans place u ++ convertAt dialect limit spans (place.behind u) v := by
  induction above generalizing u place with
  | nil =>
      obtain ⟨plain, rfl⟩ := Text.eq_of_lines_singleton ahead
      rw [convertAt_of_not_mem plain, convertAt, convertAt, Text.lines_append plain, behind,
        Place.behind_of_not_mem plain]
      simp only [List.modifyHead_cons, convertRows, convertRow_append cut]
      simpa [Text.join] using Text.join_append ['\n'] [] _ _ _
  | cons first above ih =>
      obtain ⟨rest, plain, rfl, others⟩ := Text.eq_of_lines_cons ahead (by simp)
      rw [List.append_assoc, List.cons_append, convertAt_line plain, ih others,
        convertAt_line plain, Place.behind_line plain]
      simp only [List.append_assoc, List.cons_append]

/-- A text is converted by itself, whatever follows it, if no keyed directive leaves it. -/
theorem convertAt_append {s : Text}
    (splits : ∀ front row, s = front ++ row → KeyedTag.pattern.Splits row) (t : Text)
    (place : Place) :
    convertAt dialect limit spans place (s ++ t) =
      convertAt dialect limit spans place s ++ convertAt dialect limit spans (place.behind s) t := by
  obtain ⟨above, left, right, below, start, rest, _, ahead, behind, early, _, _⟩ :=
    @Text.lines_around s [] List.not_mem_nil t
  exact convertAt_cut ahead behind (splits start left early right) place

/-- Lines without keyed directives stay as they are. -/
theorem convertAt_of_unkeyed {t : Text}
    (unkeyed : ∀ line ∈ Text.lines t, KeyedTag.pattern.hits line = []) (place : Place) :
    convertAt dialect limit spans place t = t := by
  have rows (place : Place) (rows : List Text)
      (unkeyed : ∀ row ∈ rows, KeyedTag.pattern.hits row = []) :
      convertRows dialect limit spans place rows = rows := by
    induction rows generalizing place with
    | nil => rfl
    | cons row rows ih =>
        rw [List.forall_mem_cons] at unkeyed
        rw [convertRows, ih _ unkeyed.2, convertRow, Pattern.replaceAt_of_hits_eq_nil unkeyed.1]
  rw [convertAt, rows place _ unkeyed, Text.join, Text.lines_eq, List.intercalate_splitOn]

end Conversion

/-! ### No keyed directive leaves a segment -/

/-- A tag of a shallow pattern that begins in a directive ends there: behind a closing brace of the
directive it could only have another one. -/
theorem Pattern.Shallow.splits_directive {α : Type} {p : Pattern α} (hp : p.Shallow)
    {body front row : Text} (cut : (Segment.directive body).raw = front ++ row) :
    p.Splits row := by
  intro rest
  refine hp.scan_of_cuts ?_
  rcases p.cuts_or_overlap row rest with whole | ⟨⟨overlap⟩⟩
  · exact whole
  obtain ⟨outer, clear, raw⟩ := hp.directive (Pattern.read_of_scan overlap.scan)
  have opened : '}' ∉ Directive.opening ++ outer := by simpa [Directive.opening] using clear
  have halves : Directive.opening ++ outer ++ Directive.closing =
      overlap.inFirst ++ overlap.inSecond := raw.symm.trans overlap.raw
  -- What the tag takes of the directive stands at the end of it.
  obtain ⟨before, ends⟩ : ∃ before, (Segment.directive body).raw = before ++ overlap.inFirst := by
    refine ⟨front ++ overlap.first.flatMap Token.raw, ?_⟩
    rw [cut, List.append_assoc]
    exact congrArg (front ++ ·) overlap.front
  have shape : (Segment.directive body).raw = Directive.opening ++ body ++ ['}'] ++ ['}'] := by
    simp [Segment.raw, Directive.closing]
  have last : overlap.inFirst.getLast? = some '}' := by
    rw [← List.getLast?_append_of_ne_nil before overlap.begins, ← ends, shape,
      List.getLast?_concat]
  have closed : '}' ∈ overlap.inFirst := List.mem_of_getLast? last
  rcases List.append_eq_append_iff.1 halves with ⟨more, first, second⟩ | ⟨more, whole, _⟩
  · cases more with
    | nil =>
        rw [first, List.append_nil] at closed
        exact absurd closed opened
    | cons c more =>
        cases more with
        | nil =>
            obtain ⟨rfl, _⟩ := List.cons.inj second
            rw [shape, first, ← List.append_assoc, ← List.append_assoc] at ends
            have inner := (List.append_inj' ends rfl).1
            have inside : '}' ∈ Directive.opening ++ outer := by
              refine List.mem_of_getLast? (l := Directive.opening ++ outer) ?_
              rw [← List.getLast?_append_of_ne_nil before (by simp [Directive.opening]),
                ← List.append_assoc, ← inner, List.getLast?_concat]
            exact absurd inside opened
        | cons d more =>
            have nothing : overlap.inSecond = [] := by
              have sum := congrArg List.length second
              simp only [Directive.closing, List.length_cons, List.length_append,
                List.length_nil] at sum
              exact List.length_eq_zero_iff.1 (by omega)
            exact absurd nothing overlap.ends
  · exact absurd (whole ▸ List.mem_append_left more closed) opened

/-- A text without opening braces is left by no tag, unless a brace at its end is one of two. -/
theorem Pattern.Bracketed.splits_clear {α : Type} {p : Pattern α} (hp : p.Bracketed)
    {t front row : Text} (clear : ¬ Directive.opening <:+: t) (last : t.getLast? ≠ some '{')
    (cut : t = front ++ row) : p.Splits row := by
  have own : ¬ Directive.opening <:+: row := fun inside =>
    clear (inside.trans (cut ▸ (List.suffix_append front row).isInfix))
  have plain (rest : Text) : p.scan (row ++ rest) = row.map .plain ++ p.scan rest := by
    refine hp.scan_clear own fun brace => absurd ?_ last
    rw [cut]
    exact List.mem_getLast?_append_of_mem_getLast? brace
  intro rest
  have alone := plain []
  rw [List.append_nil, scan_nil, List.append_nil] at alone
  rw [plain, alone]

namespace KeyedTag

/-- Text that no opening stands in has no keyed directives. -/
theorem hits_eq_nil_of_clear {t : Text} (clear : ¬ Directive.opening <:+: t) :
    KeyedTag.pattern.hits t = [] := by
  have scan : KeyedTag.pattern.scan (t ++ []) = t.map .plain ++ KeyedTag.pattern.scan [] :=
    bracketed.scan_clear clear (by simp)
  rw [List.append_nil, Pattern.scan_nil, List.append_nil] at scan
  rw [Pattern.hits, scan, List.filterMap_map]
  simp

end KeyedTag

/-! ### Conversion of the segments -/

section Segments

variable {dialect : Dialect} {limit : Nat}

/-- The characters of a row of segments are converted segment by segment. -/
theorem Segmented.convertAt_raw {doc : Document} (segmented : Segmented doc)
    (spans : List LoopSpan) (place : Place) :
    convertAt dialect limit spans place doc.raw =
      convertSegments dialect limit spans place doc := by
  induction segmented generalizing place with
  | nil => rfl
  | unclosed => simp [convertSegments]
  | @directive body doc _ _ ih =>
      rw [Document.raw_cons, convertAt_append fun _ _ => KeyedTag.shallow.splits_directive, ih,
        convertSegments]
  | @text t doc _ clear seam _ ih =>
      rw [Document.raw_cons, convertSegments, ← ih]
      rcases Document.raw_seam seam with empty | ⟨_, last⟩
      · rw [empty, List.append_nil]
        exact (List.append_nil _).symm
      · exact convertAt_append (fun _ _ => KeyedTag.bracketed.splits_clear clear last) _ _

/-- A text is converted segment by segment, each from its place on. -/
theorem convertText_segments (content : Text) :
    convertText dialect limit content =
      convertSegments dialect limit (loopSpans content) .start (segments content) := by
  obtain ⟨segmented, raw⟩ := segmented_segments content
  rw [convertText_eq_convertAt, ← segmented.convertAt_raw, raw]

/-- Whether a segment holds no keyed directive of conversion: it is a text without braces, or a
directive on none of whose lines one stands. -/
def Segment.IsUnkeyed : Segment → Prop
  | .text t => t.isBraceFree = true
  | .directive body =>
      ∀ line ∈ Text.lines (directive body).raw, KeyedTag.pattern.hits line = []

namespace Segment

/-- A keyed directive has a comma. -/
theorem isUnkeyed_of_comma {body : Text} (plain : ',' ∉ body) : (directive body).IsUnkeyed := by
  intro line among
  rw [List.eq_nil_iff_forall_not_mem]
  intro hit inside
  obtain ⟨first, last, scan⟩ := Pattern.mem_hits_iff.1 inside
  obtain ⟨inner, closed, raw, keyed⟩ := KeyedTag.shallow.body_of_read (Pattern.read_of_scan scan)
  have comma : ',' ∈ inner := by
    by_contra none
    rw [KeyedTag.valueOf?_of_not_mem none closed] at keyed
    exact absurd keyed (by simp)
  have written : ',' ∈ (directive body).raw := by
    refine Text.subset_of_mem_splitOn among ?_
    have whole := Pattern.eq_append_of_scan scan
    rw [whole, List.flatMap_cons, Token.raw, raw]
    exact List.mem_append_right _ (List.mem_append_left _ (inner_subset (directive inner) comma))
  simp [Segment.raw, Directive.opening, Directive.closing, plain] at written

/-- Conversion leaves such a segment as it is. -/
theorem IsUnkeyed.convertAt {segment : Segment} (unkeyed : segment.IsUnkeyed)
    (spans : List LoopSpan) (place : Place) :
    convertAt dialect limit spans place segment.raw = segment.raw := by
  refine convertAt_of_unkeyed (fun line among => ?_) place
  cases segment with
  | text t =>
      refine KeyedTag.hits_eq_nil_of_clear fun opened => ?_
      have brace : '{' ∈ line := opened.subset (by simp [Directive.opening])
      exact (Text.isBraceFree_iff.1 unkeyed).1 (Text.subset_of_mem_splitOn among brace)
  | directive body => exact unkeyed line among

end Segment

/-- Conversion leaves each segment without keyed directives as it is, at its place between what the
segments in front of it and those behind it become: a text without braces, and a directive, of the
structural grammar or not, on none of whose lines a keyed directive stands. -/
theorem convertText_unkeyed {content : Text} {before after : Document} {segment : Segment}
    (cut : segments content = before ++ segment :: after) (unkeyed : segment.IsUnkeyed)
    (dialect : Dialect) (limit : Nat) :
    convertText dialect limit content =
      convertSegments dialect limit (loopSpans content) .start before ++ segment.raw ++
        convertSegments dialect limit (loopSpans content)
          (Place.start.behind (before.raw ++ segment.raw)) after := by
  rw [convertText_segments, cut, convertSegments_append, convertSegments, unkeyed.convertAt,
    Place.behind_append, List.append_assoc]

end Segments

/-- A loop with a reference, a keyed directive and the number of the copy on its second line. -/
def seatRow : Document :=
  [.directive "loop 2".toList, .text "\nat ".toList, .directive "include 'seat'".toList,
    .text ": ".toList, .directive "name, 'guest'".toList, .directive "_index1".toList,
    .directive "/loop".toList]

/-- The reference stays, and the keyed directive behind it keeps its column. -/
theorem convertText_unkeyed_seatRow :
    segments seatRow.raw = seatRow ∧ Directive.isSilent "include 'seat'".toList = true ∧
      convertText Engine.liquid 10 seatRow.raw =
        "\x7b\x7bloop 2\x7d\x7d\nat ".toList ++ "\x7b\x7binclude 'seat'\x7d\x7d".toList ++
          convertSegments Engine.liquid 10 [⟨1, 2, 2⟩] ⟨2, 21⟩ (seatRow.drop 3) := by
  have cut : segments seatRow.raw =
      seatRow.take 2 ++ .directive "include 'seat'".toList :: seatRow.drop 3 := by decide +kernel
  have spans : loopSpans seatRow.raw = [⟨1, 2, 2⟩] := by decide +kernel
  have kept := convertText_unkeyed cut (Segment.isUnkeyed_of_comma (by decide)) Engine.liquid 10
  have front : convertSegments Engine.liquid 10 [⟨1, 2, 2⟩] .start (seatRow.take 2) =
      "\x7b\x7bloop 2\x7d\x7d\nat ".toList := by decide +kernel
  rw [spans, front] at kept
  exact ⟨by decide +kernel, by decide, kept⟩

/-- A reference is taken for a keyed directive if a comma stands in its name. -/
theorem convertText_commaReference :
    segments (Segment.directive "include 'terms, short'".toList).raw =
        [.directive "include 'terms, short'".toList] ∧
      Directive.isSilent "include 'terms, short'".toList = true ∧
      convertText starEngine 10 (Segment.directive "include 'terms, short'".toList).raw =
        "*|include 'terms|*".toList := by
  decide +kernel

end MailTemplate
