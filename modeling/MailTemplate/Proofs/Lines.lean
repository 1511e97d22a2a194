/-
Module: MailTemplate.Proofs.Lines
Purpose: The lines of a text and of a document.
Main exports: Text.lines_eq, Text.lines_line, Text.lines_around, Segment.spelled, Document.lines,
  Document.lines_raw, Document.join_lines, Document.of_mem_lines
-/
import MailTemplate.Proofs.Document

/-!
Conversion works line by line.  If no directive of a document contains a line feed, the lines of the
document's text are the texts of its lines: the document is cut where a text in it has a line feed.

Spelled out, each text of a document is a row of texts of one character each, so that a document is
cut between two of its segments.
-/

namespace MailTemplate

/-! ### Lines of a text -/

namespace Text

/-- What is gathered so far stands at the head of the first piece. -/
theorem splitOnto_eq (sep : Char) (piece t : Text) :
    splitOnto sep piece t = (List.splitOn sep t).modifyHead (piece.reverse ++ ·) := by
  induction t generalizing piece with
  | nil => simp [splitOnto]
  | cons c t ih =>
      rw [splitOnto, List.splitOn_cons_eq_if_modifyHead]
      by_cases same : c = sep
      · rw [if_pos same, if_pos (by simpa using same), ih]
        cases List.splitOn sep t <;> simp
      · rw [if_neg same, if_neg (by simpa using same), ih]
        cases List.splitOn sep t <;> simp

/-- Texts are split as other lists are. -/
theorem splitOn_eq (sep : Char) (t : Text) : splitOn sep t = List.splitOn sep t := by
  rw [splitOn, splitOnto_eq]
  cases List.splitOn sep t <;> simp

/-- A separator splits a text into the pieces on both sides of it. -/
theorem splitOn_append (sep : Char) (s t : Text) :
    splitOn sep (s ++ sep :: t) = splitOn sep s ++ splitOn sep t := by
  simp only [splitOn_eq]
  exact List.splitOn_append_cons_self s t

/-- Text without separators at the head belongs to the first piece. -/
theorem splitOn_clear_append {sep : Char} {s : Text} (clear : sep ∉ s) (t : Text) :
    splitOn sep (s ++ t) = (splitOn sep t).modifyHead (s ++ ·) := by
  rw [splitOn_eq, splitOn_eq]
  induction s with
  | nil => cases pieces : List.splitOn sep t <;> simp [pieces]
  | cons c s ih =>
      rw [List.mem_cons, not_or] at clear
      have other : ¬ (c == sep) = true := by simpa using Ne.symm clear.1
      rw [List.cons_append, List.splitOn_cons_eq_if_modifyHead, if_neg other, ih clear.2]
      cases List.splitOn sep t <;> rfl

/-- A text without separators is one piece. -/
theorem splitOn_of_not_mem {sep : Char} {t : Text} (clear : sep ∉ t) : splitOn sep t = [t] := by
  have empty : splitOn sep [] = [[]] := rfl
  simpa [empty] using splitOn_clear_append clear []

/-- The pieces between separators hold none. -/
theorem not_mem_of_mem_splitOn {sep : Char} {t piece : Text} (inside : piece ∈ splitOn sep t) :
    sep ∉ piece := by
  rw [splitOn_eq] at inside
  induction t generalizing piece with
  | nil => simp_all
  | cons c t ih =>
      rw [List.splitOn_cons_eq_if_modifyHead] at inside
      split at inside
      · rcases List.mem_cons.1 inside with rfl | later
        · simp
        · exact ih later
      · rename_i other
        cases rows : List.splitOn sep t with
        | nil => exact absurd rows (List.splitOn_ne_nil sep t)
        | cons row rows =>
            rw [rows] at inside ih
            rcases List.mem_cons.1 inside with rfl | later
            · have same : sep ≠ c := fun same => other (by simp [same])
              simp [same, ih List.mem_cons_self]
            · exact ih (List.mem_cons_of_mem _ later)

theorem join_singleton (sep t : Text) : join sep [t] = t :=
  List.intercalate_singleton

/-- A text in front of others is joined to them with one separator. -/
theorem join_cons (sep t : Text) {others : List Text} (nonempty : others ≠ []) :
    join sep (t :: others) = t ++ (sep ++ join sep others) := by
  rw [join, List.intercalate_cons_of_ne_nil nonempty, List.append_assoc, ← join]

/-- Two rows are joined with one separator between them. -/
theorem join_rows (sep : Text) {front back : List Text} (nonempty : front ≠ []) (more : back ≠ []) :
    join sep (front ++ back) = join sep front ++ (sep ++ join sep back) := by
  induction front with
  | nil => exact absurd rfl nonempty
  | cons first others ih =>
      by_cases last : others = []
      · rw [last, List.singleton_append, join_cons _ _ more, join_singleton]
      · have rest : others ++ back ≠ [] := List.append_ne_nil_of_left_ne_nil last _
        rw [List.cons_append, join_cons _ _ rest, ih last, join_cons _ _ last]
        simp only [List.append_assoc]

/-- A text among others may be cut without a separator. -/
theorem join_append (sep : Text) (front : List Text) (a b : Text) (back : List Text) :
    join sep (front ++ (a ++ b) :: back) = join sep (front ++ [a]) ++ join sep (b :: back) := by
  unfold join
  induction front with
  | nil =>
      cases back with
      | nil => simp
      | cons next back => simp [List.intercalate_cons_cons]
  | cons first front ih =>
      rw [List.cons_append, List.cons_append, List.intercalate_cons_of_ne_nil (by simp),
        List.intercalate_cons_of_ne_nil (by simp), ih]
      simp

/-- Lines are what newlines split a text into. -/
theorem lines_eq (t : Text) : lines t = List.splitOn '\n' t :=
  splitOn_eq '\n' t

/-- A text without newline makes the first line longer. -/
theorem lines_append {s : Text} (plain : '\n' ∉ s) (t : Text) :
    lines (s ++ t) = (lines t).modifyHead (s ++ ·) :=
  splitOn_clear_append plain t

/-- A newline begins a line and leaves an empty one in front. -/
theorem lines_newline (t : Text) : lines ('\n' :: t) = [] :: lines t := by
  rw [lines_eq, lines_eq, List.splitOn_cons_eq_if_modifyHead, if_pos (by decide)]

/-- A text without line feeds is one line. -/
theorem lines_of_not_mem {t : Text} (plain : '\n' ∉ t) : lines t = [t] :=
  splitOn_of_not_mem plain

/-- What stands in front of the first newline is the first line. -/
theorem lines_line {first : Text} (plain : '\n' ∉ first) (rest : Text) :
    lines (first ++ '\n' :: rest) = first :: lines rest := by
  rw [lines_append plain, lines_newline, List.modifyHead_cons, List.append_nil]

/-- A text is one line, or has a first line that a line feed ends. -/
theorem lines_cases (t : Text) :
    '\n' ∉ t ∨ ∃ first rest, '\n' ∉ first ∧ t = first ++ '\n' :: rest := by
  by_cases feed : '\n' ∈ t
  · obtain ⟨first, rest, rfl, plain⟩ := List.eq_append_cons_of_mem feed
    exact .inr ⟨first, rest, plain, rfl⟩
  · exact .inl feed

/-- Every text has a line, be it an empty one. -/
theorem lines_ne_nil (t : Text) : lines t ≠ [] := by
  rw [lines_eq]
  exact List.splitOn_ne_nil '\n' t

/-- A text with a single line is that line. -/
theorem eq_of_lines_singleton {t row : Text} (single : lines t = [row]) : '\n' ∉ t ∧ t = row := by
  rcases lines_cases t with plain | ⟨first, rest, plain, rfl⟩
  · rw [lines_of_not_mem plain] at single
    exact ⟨plain, (List.cons.inj single).1⟩
  · rw [lines_line plain] at single
    exact absurd (List.cons.inj single).2 (lines_ne_nil rest)

/-- A text with more lines than one is the first and, behind a line feed, the others. -/
theorem eq_of_lines_cons {t row : Text} {rows : List Text} (all : lines t = row :: rows)
    (more : rows ≠ []) : ∃ rest, '\n' ∉ row ∧ t = row ++ '\n' :: rest ∧ lines rest = rows := by
  rcases lines_cases t with plain | ⟨first, rest, plain, rfl⟩
  · rw [lines_of_not_mem plain] at all
    exact absurd (List.cons.inj all).2.symm more
  · rw [lines_line plain] at all
    obtain ⟨rfl, others⟩ := List.cons.inj all
    exact ⟨rest, plain, rfl, others⟩

/-- A text is cut where one of its lines is cut. -/
theorem exists_cut {t left right : Text} {above below : List Text}
    (all : lines t = above ++ (left ++ right) :: below) :
    ∃ u v, t = u ++ v ∧ lines u = above ++ [left] ∧ lines v = right :: below := by
  induction above generalizing t with
  | nil =>
      cases below with
      | nil =>
          obtain ⟨plain, rfl⟩ := eq_of_lines_singleton all
          rw [List.mem_append, not_or] at plain
          exact ⟨left, right, rfl, lines_of_not_mem plain.1, lines_of_not_mem plain.2⟩
      | cons next below =>
          obtain ⟨rest, plain, rfl, others⟩ := eq_of_lines_cons all (by simp)
          rw [List.mem_append, not_or] at plain
          refine ⟨left, right ++ '\n' :: rest, by simp, lines_of_not_mem plain.1, ?_⟩
          rw [lines_line plain.2, others]
  | cons first above ih =>
      obtain ⟨rest, plain, rfl, others⟩ := eq_of_lines_cons all (by simp)
      obtain ⟨u, v, rfl, ahead, behind⟩ := ih others
      refine ⟨first ++ '\n' :: u, v, by simp, ?_, behind⟩
      rw [lines_line plain, ahead, List.cons_append]

/-- The line around a part of a text that is on one line: what stands in front of the part on that
line and what stands behind it, and the lines before and after. -/
theorem lines_around (before : Text) {part : Text} (plain : '\n' ∉ part) (after : Text) :
    ∃ front left right back start rest,
      lines (before ++ (part ++ after)) = front ++ (left ++ (part ++ right)) :: back ∧
      lines before = front ++ [left] ∧ lines after = right :: back ∧
      before = start ++ left ∧ after = right ++ rest ∧ front.length = before.count '\n' := by
  -- One line is taken off `before` at a time; only its last one runs on into the part.
  induction length : before.length using Nat.strongRecOn generalizing before with
  | ind n ih =>
      rcases lines_cases before with single | ⟨first, others, single, rfl⟩
      · have unbroken : before.count '\n' = 0 := List.count_eq_zero.2 single
        have joined : '\n' ∉ before ++ part := by
          rw [List.mem_append, not_or]
          exact ⟨single, plain⟩
        rcases lines_cases after with last | ⟨right, rest, last, rfl⟩
        · refine ⟨[], before, after, [], [], [], ?_, ?_, ?_, rfl, by simp, unbroken.symm⟩
          · have all : '\n' ∉ before ++ (part ++ after) := by
              rw [← List.append_assoc, List.mem_append, not_or]
              exact ⟨joined, last⟩
            rw [lines_of_not_mem all]
            rfl
          · exact lines_of_not_mem single
          · exact lines_of_not_mem last
        · refine ⟨[], before, right, lines rest, [], '\n' :: rest, ?_, ?_, ?_, rfl, rfl,
            unbroken.symm⟩
          · have all : '\n' ∉ before ++ (part ++ right) := by
              rw [← List.append_assoc, List.mem_append, not_or]
              exact ⟨joined, last⟩
            have whole : before ++ (part ++ (right ++ '\n' :: rest)) =
                before ++ (part ++ right) ++ '\n' :: rest := by simp
            rw [whole, lines_line all]
            rfl
          · exact lines_of_not_mem single
          · exact lines_line last rest
      · have shorter : others.length < n := by
          rw [← length]
          simp
          omega
        obtain ⟨front, left, right, back, start, rest, whole, ahead, behind, rfl, rfl, number⟩ :=
          ih others.length shorter others rfl
        refine ⟨first :: front, left, right, back, first ++ '\n' :: start, rest, ?_, ?_, behind,
          by simp, rfl, ?_⟩
        · rw [List.append_assoc, List.cons_append, lines_line single, whole]
          rfl
        · rw [lines_line single, ahead]
          rfl
        · have unbroken : first.count '\n' = 0 := List.count_eq_zero.2 single
          simp [unbroken, number]

/-- Lines are numbered downwards. -/
theorem pairwise_zipIdx_lines (t : Text) :
    ((lines t).zipIdx 1).Pairwise fun row below => row.2 < below.2 := by
  rw [← List.pairwise_map, List.zipIdx_map_snd]
  exact List.pairwise_lt_range' 1

/-- What is found line by line stands in the order of the lines that it is found on. -/
theorem pairwise_flatMap_lines {α : Type} {t : Text} {found : Text × Nat → List α} {line : α → Nat}
    (own : ∀ entry, ∀ a ∈ found entry, line a = entry.2) :
    (((lines t).zipIdx 1).flatMap found).Pairwise fun a later => line a ≤ line later := by
  rw [List.pairwise_flatMap]
  constructor
  · intro entry _
    refine List.pairwise_of_forall_mem_list fun a first b second => ?_
    exact Nat.le_of_eq ((own entry a first).trans (own entry b second).symm)
  · refine (pairwise_zipIdx_lines t).imp fun {row below} before a inside b behind => ?_
    rw [own row a inside, own below b behind]
    exact Nat.le_of_lt before

end Text

/-! ### Rows with separators -/

/-- Each row is a part of all rows with separators. -/
theorem subset_intercalate {α : Type} {sep row : List α} {rows : List (List α)}
    (inside : row ∈ rows) : row ⊆ sep.intercalate rows := by
  induction rows with
  | nil => exact absurd inside (by simp)
  | cons first rows ih =>
      cases rows with
      | nil =>
          obtain rfl := List.mem_singleton.1 inside
          simp
      | cons next rows =>
          rw [List.intercalate_cons_cons]
          rcases List.mem_cons.1 inside with rfl | later
          · intro x here
            exact List.mem_append_left _ (List.mem_append_left _ here)
          · intro x here
            exact List.mem_append_right _ (ih later here)

/-- What is among rows with separators is in a separator or in a row. -/
theorem mem_of_mem_intercalate {α : Type} {sep : List α} {rows : List (List α)} {x : α}
    (inside : x ∈ sep.intercalate rows) : x ∈ sep ∨ ∃ row ∈ rows, x ∈ row := by
  induction rows with
  | nil => exact absurd inside (by simp)
  | cons first rows ih =>
      cases rows with
      | nil => exact .inr ⟨first, List.mem_cons_self, by simpa using inside⟩
      | cons next rows =>
          rw [List.intercalate_cons_cons, List.mem_append, List.mem_append] at inside
          rcases inside with (own | between) | later
          · exact .inr ⟨first, List.mem_cons_self, own⟩
          · exact .inl between
          · rcases ih later with between | ⟨row, among, here⟩
            · exact .inl between
            · exact .inr ⟨row, List.mem_cons_of_mem _ among, here⟩

/-- Pieces hold characters of their text alone. -/
theorem Text.subset_of_mem_splitOn {sep : Char} {t piece : Text} (inside : piece ∈ splitOn sep t) :
    piece ⊆ t := by
  have whole : [sep].intercalate (splitOn sep t) = t := by
    rw [splitOn_eq]
    exact List.intercalate_splitOn sep
  intro c own
  rw [← whole]
  exact subset_intercalate inside own

/-! ### Lines of a document -/

/-- A segment with a text of its own for each character of a text. -/
def Segment.spelled : Segment → Document
  | .text t => t.map fun c => .text [c]
  | .directive body => [.directive body]

namespace Document

/-- A document with its texts spelled out. -/
def spelled (doc : Document) : Document :=
  doc.flatMap Segment.spelled

/-- The lines of a document. -/
def lines (doc : Document) : List Document :=
  doc.spelled.splitOn (.text ['\n'])

/-- What treats a text as its characters one by one treats a document alike when it is spelled
out. -/
theorem flatMap_spelled {f : Segment → Text} (texts : ∀ t, f (.text t) = t) (doc : Document) :
    doc.spelled.flatMap f = doc.flatMap f := by
  rw [spelled, List.flatMap_assoc]
  refine List.flatMap_congr fun segment _ => ?_
  cases segment with
  | text t => simp [Segment.spelled, List.flatMap_map, texts]
  | directive body => simp [Segment.spelled]

/-- A document has no line feeds in its directives. -/
def IsLinear (doc : Document) : Prop :=
  ∀ body, .directive body ∈ doc → '\n' ∉ body

/-- Where directives hold no newline, the lines of a document spell those of its text. -/
theorem lines_raw {doc : Document} (linear : doc.IsLinear) :
    Text.lines doc.raw = doc.lines.map raw := by
  have cut (row : Document)
      (plain : ∀ segment ∈ row, segment = .text ['\n'] ∨ '\n' ∉ segment.raw) :
      Text.lines (raw row) = (row.splitOn (.text ['\n'])).map raw := by
    induction row with
    | nil => rfl
    | cons segment row ih =>
        have rest := ih fun other here => plain other (List.mem_cons_of_mem _ here)
        rw [List.splitOn_cons_eq_if_modifyHead, raw_cons]
        rcases plain segment List.mem_cons_self with rfl | absent
        · rw [if_pos (by simp), List.map_cons, ← rest]
          exact Text.lines_newline (raw row)
        · have other : ¬ (segment == .text ['\n']) = true := by
            rw [beq_iff_eq]
            rintro rfl
            exact absent (by simp)
          rw [if_neg other, Text.lines_append absent, rest]
          cases row.splitOn (.text ['\n']) <;> simp
  have same : doc.raw = doc.spelled.raw := (flatMap_spelled (fun _ => rfl) doc).symm
  rw [same, cut, lines]
  intro segment here
  obtain ⟨original, inside, spelled⟩ := List.mem_flatMap.1 here
  cases original with
  | text t =>
      obtain ⟨c, _, rfl⟩ := List.mem_map.1 spelled
      by_cases newline : c = '\n'
      · exact .inl (by rw [newline])
      · exact .inr (by simpa using Ne.symm newline)
  | directive body =>
      obtain rfl := List.mem_singleton.1 spelled
      have absent := linear body inside
      exact .inr (by simp [Segment.raw, Directive.opening, Directive.closing, absent])

/-- Lines hold segments of the document as it is spelled line by line. -/
theorem mem_spelled_of_mem_lines {doc row : Document} (here : row ∈ doc.lines) {segment : Segment}
    (inside : segment ∈ row) : segment ∈ doc.spelled := by
  have whole : List.intercalate [.text ['\n']] doc.lines = doc.spelled := List.intercalate_splitOn _
  exact whole ▸ subset_intercalate here inside

/-- Spelled out, a document has texts of one character each, and its directives. -/
theorem of_mem_spelled {doc : Document} {segment : Segment} (inside : segment ∈ doc.spelled) :
    (∃ t c, .text t ∈ doc ∧ c ∈ t ∧ segment = .text [c]) ∨
      ∃ body, .directive body ∈ doc ∧ segment = .directive body := by
  obtain ⟨original, own, same⟩ := List.mem_flatMap.1 inside
  cases original with
  | text t =>
      obtain ⟨c, among, rfl⟩ := List.mem_map.1 same
      exact .inl ⟨t, c, own, among, rfl⟩
  | directive body =>
      obtain rfl := List.mem_singleton.1 same
      exact .inr ⟨body, own, rfl⟩

/-- The segments of a line are characters of texts of the document and directives of it. -/
theorem of_mem_lines {doc line : Document} (here : line ∈ doc.lines) {segment : Segment}
    (inside : segment ∈ line) :
    segment ∈ doc ∨ ∃ t c, .text t ∈ doc ∧ c ∈ t ∧ segment = .text [c] := by
  rcases of_mem_spelled (mem_spelled_of_mem_lines here inside) with
    ⟨t, c, own, among, rfl⟩ | ⟨body, own, rfl⟩
  · exact .inr ⟨t, c, own, among, rfl⟩
  · exact .inl own

end Document

end MailTemplate
