/-
Module: MailTemplate.Proofs.Document
Purpose: Flat documents: rows of texts and directives that hold no braces, and how patterns read
  them.
Main exports: Text.isBraceFree, Document, Document.raw, Segment.isFlat, Pattern.StaysInside,
  Pattern.valueOf?, Pattern.ReadsWhole, Pattern.scan_document, Pattern.replace_reads
-/
import Mathlib.Data.List.Basic
import MailTemplate.Proofs.Scan

/-!
A document is a row of segments.  It is flat if the only braces in it are the two pairs around each
directive.  A pattern that, on a directive, looks at nothing behind it scans a flat document segment
by segment: `Pattern.scan_document`.

`valueOf?` is what a pattern reads from a directive as a whole, by the directive's body.
-/

namespace MailTemplate

/-! ### Texts without braces -/

/-- Whether a text has no braces. -/
def Text.isBraceFree (t : Text) : Bool :=
  t.all fun c => c != '{' && c != '}'

namespace Text

theorem isBraceFree_iff {t : Text} : t.isBraceFree = true ↔ '{' ∉ t ∧ '}' ∉ t := by
  simp only [isBraceFree, List.all_eq_true, Bool.and_eq_true, bne_iff_ne]
  constructor
  · intro all
    exact ⟨fun inside => (all _ inside).1 rfl, fun inside => (all _ inside).2 rfl⟩
  · intro clear c inside
    exact ⟨fun same => clear.1 (same ▸ inside), fun same => clear.2 (same ▸ inside)⟩

theorem not_mem_of_isBraceFree {t : Text} (flat : t.isBraceFree = true) : '}' ∉ t :=
  (isBraceFree_iff.1 flat).2

@[simp] theorem isBraceFree_nil : isBraceFree [] = true := rfl

@[simp] theorem isBraceFree_cons (c : Char) (t : Text) :
    isBraceFree (c :: t) = ((c != '{' && c != '}') && isBraceFree t) := rfl

@[simp] theorem isBraceFree_append (s t : Text) :
    isBraceFree (s ++ t) = (isBraceFree s && isBraceFree t) :=
  List.all_append

/-- Whatever is picked from a text without braces has none. -/
theorem isBraceFree_of_subset {s t : Text} (subset : s ⊆ t) (flat : t.isBraceFree = true) :
    s.isBraceFree = true := by
  rw [isBraceFree_iff] at flat ⊢
  exact ⟨fun inside => flat.1 (subset inside), fun inside => flat.2 (subset inside)⟩

end Text

/-! ### Documents -/

/-- Texts and directives in a row. -/
abbrev Document := List Segment

/-- The characters of a document. -/
def Document.raw (doc : Document) : Text :=
  doc.flatMap Segment.raw

namespace Document

@[simp] theorem raw_nil : raw [] = [] := rfl

@[simp] theorem raw_cons (segment : Segment) (doc : Document) :
    raw (segment :: doc) = segment.raw ++ raw doc :=
  List.flatMap_cons

@[simp] theorem raw_append (first second : Document) :
    raw (first ++ second) = raw first ++ raw second :=
  List.flatMap_append

end Document

namespace Segment

/-- The characters of a segment but for the braces around a directive. -/
def inner : Segment → Text
  | .text t => t
  | .directive body => body

/-- Whether a segment has no braces but those around a directive. -/
def isFlat (segment : Segment) : Bool :=
  segment.inner.isBraceFree

@[simp] theorem isFlat_text (t : Text) : (text t).isFlat = t.isBraceFree := rfl

@[simp] theorem isFlat_directive (body : Text) : (directive body).isFlat = body.isBraceFree := rfl

/-- What stands in a segment is written in it. -/
theorem inner_subset (segment : Segment) : segment.inner ⊆ segment.raw := by
  cases segment <;> simp [inner, raw]

@[simp] theorem raw_text (t : Text) : (text t).raw = t := rfl

theorem raw_directive_append (body rest : Text) :
    (directive body).raw ++ rest = '{' :: '{' :: (body ++ '}' :: '}' :: rest) := by
  simp [raw, Directive.opening, Directive.closing]

end Segment

/-! ### Patterns on a directive -/

namespace Pattern

variable {α : Type}

/-- On a directive, a pattern looks at nothing behind it. -/
def StaysInside (p : Pattern α) (body : Text) : Prop :=
  ∀ rest, p.read ((Segment.directive body).raw ++ rest) =
    (p.read (Segment.directive body).raw).map fun found => (found.1, found.2 ++ rest)

/-- What a pattern reads from a directive. -/
def valueOf? (p : Pattern α) (body : Text) : Option α :=
  (p.read (Segment.directive body).raw).map fun found => found.1.value

/-- On a directive, a pattern reads all of it or nothing. -/
def ReadsWhole (p : Pattern α) (body : Text) : Prop :=
  ∀ rest, p.read ((Segment.directive body).raw ++ rest) =
    (p.valueOf? body).map fun value => (⟨(Segment.directive body).raw, value⟩, rest)

theorem ReadsWhole.read_eq {p : Pattern α} {body : Text} (whole : p.ReadsWhole body) :
    p.read (Segment.directive body).raw =
      (p.valueOf? body).map fun value => (⟨(Segment.directive body).raw, value⟩, []) := by
  simpa using whole []

/-- Who reads a directive whole looks at nothing behind it. -/
theorem ReadsWhole.staysInside {p : Pattern α} {body : Text} (whole : p.ReadsWhole body) :
    p.StaysInside body := by
  intro rest
  rw [whole rest, whole.read_eq, Option.map_map]
  rfl

/-- A pattern reads whole directives if what it reads from one, whatever follows, is given by a
function of the body. -/
theorem readsWhole_of_read {p : Pattern α} {body : Text} {value? : Option α}
    (read : ∀ rest, p.read ((Segment.directive body).raw ++ rest) =
      value?.map fun value => (⟨(Segment.directive body).raw, value⟩, rest)) :
    p.ReadsWhole body ∧ p.valueOf? body = value? := by
  have here : p.valueOf? body = value? := by
    rw [valueOf?, ← List.append_nil (Segment.directive body).raw, read, Option.map_map]
    exact Option.map_id'
  exact ⟨fun rest => by rw [here, read], here⟩

/-- Of two patterns the first decides. -/
theorem valueOf?_orElse (p q : Pattern α) (body : Text) :
    (p.orElse q).valueOf? body = (p.valueOf? body).or (q.valueOf? body) := by
  simp only [valueOf?, orElse]
  cases p.read (Segment.directive body).raw <;> rfl

/-- A choice of two patterns that read directives whole reads them whole. -/
theorem ReadsWhole.orElse {p q : Pattern α} {body : Text} (hp : p.ReadsWhole body)
    (hq : q.ReadsWhole body) : (p.orElse q).ReadsWhole body := by
  intro rest
  rw [valueOf?_orElse]
  simp only [Pattern.orElse]
  rw [hp rest, hq rest]
  cases p.valueOf? body <;> rfl

/-! ### Scans of flat segments -/

/-- Behind a tag at the head of a directive no braces open. -/
theorem mem_of_read_directive {p : Pattern α} (hp : p.Bracketed) {body rest : Text} {hit : Hit α}
    (flat : body.isBraceFree = true)
    (read : p.read (Segment.directive body).raw = some (hit, rest)) : '{' ∉ rest := by
  obtain ⟨inner, opened⟩ := hp _ _ _ read
  have whole := p.raw_append read
  rw [opened, Segment.raw, List.append_assoc, List.append_assoc] at whole
  have same : inner ++ rest = body ++ Directive.closing := List.append_cancel_left whole
  intro inside
  have inside : '{' ∈ body ++ Directive.closing := same ▸ List.mem_append_right inner inside
  rcases List.mem_append.1 inside with early | late
  · exact (Text.isBraceFree_iff.1 flat).1 early
  · simp [Directive.closing] at late

/-- The only tag in a directive is the one at its head. -/
theorem scan_directive_of_some {p : Pattern α} (hp : p.Bracketed) {body rest : Text} {hit : Hit α}
    (flat : body.isBraceFree = true)
    (read : p.read (Segment.directive body).raw = some (hit, rest)) :
    p.scan (Segment.directive body).raw = .hit hit :: rest.map .plain := by
  rw [scan_of_read read, hp.scan_eq (mem_of_read_directive hp flat read)]

/-- A directive that holds no tag at its beginning holds none at all. -/
theorem scan_directive_append_of_none {p : Pattern α} (hp : p.Bracketed) {body rest : Text}
    (flat : body.isBraceFree = true) (read : p.read ((Segment.directive body).raw ++ rest) = none) :
    p.scan ((Segment.directive body).raw ++ rest) =
      (Segment.directive body).raw.map .plain ++ p.scan rest := by
  have flat := (Text.isBraceFree_iff.1 flat).1
  have clear : '{' ∉ body ++ Directive.closing := by simp [flat, Directive.closing]
  have second : p.read ('{' :: (body ++ Directive.closing ++ rest)) = none := by
    refine hp.read_eq_none fun other same => ?_
    -- The character behind the second brace is none of the braces that a tag would need.
    have same : body ++ Directive.closing ++ rest = '{' :: other := (List.cons.inj same).2
    have inside : '{' ∈ body ++ Directive.closing := by
      cases body with
      | nil => simp [Directive.closing] at same
      | cons c body =>
          have head : c = '{' := (List.cons.inj same).1
          simp [head]
    exact clear inside
  have shape : (Segment.directive body).raw ++ rest =
      '{' :: '{' :: (body ++ Directive.closing ++ rest) := by
    simp [Segment.raw, Directive.opening]
  rw [shape] at read ⊢
  rw [scan_of_not_read read, scan_of_not_read second, hp.scan_append clear]
  simp [Segment.raw, Directive.opening]

/-- A directive without a tag at its head holds none. -/
theorem scan_directive_of_none {p : Pattern α} (hp : p.Bracketed) {body : Text}
    (flat : body.isBraceFree = true) (read : p.read (Segment.directive body).raw = none) :
    p.scan (Segment.directive body).raw = (Segment.directive body).raw.map .plain := by
  have scan := @scan_directive_append_of_none α p hp body [] flat
  simp only [List.append_nil, scan_nil] at scan
  exact scan read

/-- A scan can be cut behind a directive that no tag reaches out of. -/
theorem StaysInside.splits {p : Pattern α} (hp : p.Bracketed) {body : Text}
    (inside : p.StaysInside body) (flat : body.isBraceFree = true) :
    p.Splits (Segment.directive body).raw := by
  intro rest
  have extended := inside rest
  cases read : p.read (Segment.directive body).raw with
  | none =>
      rw [read] at extended
      rw [scan_directive_append_of_none hp flat extended, scan_directive_of_none hp flat read]
  | some found =>
      obtain ⟨hit, after⟩ := found
      rw [read] at extended
      rw [scan_of_read extended, scan_directive_of_some hp flat read,
        hp.scan_append (mem_of_read_directive hp flat read), List.cons_append]

/-- A flat document is scanned segment by segment. -/
theorem scan_document {p : Pattern α} (hp : p.Bracketed) {doc : Document}
    (flat : ∀ segment ∈ doc, segment.isFlat = true)
    (inside : ∀ body, .directive body ∈ doc → p.StaysInside body) :
    p.scan doc.raw = doc.flatMap fun segment => p.scan segment.raw := by
  refine scan_flatMap fun segment here => ?_
  cases segment with
  | text t => exact hp.splits (Text.isBraceFree_iff.1 (flat _ here)).1
  | directive body => exact (inside body here).splits hp (flat _ here)

/-! ### Segments read as a whole -/

/-- What a pattern reads from a segment. -/
def valueOn? (p : Pattern α) : Segment → Option α
  | .text _ => none
  | .directive body => p.valueOf? body

@[simp] theorem valueOn?_text (p : Pattern α) (t : Text) : p.valueOn? (.text t) = none := rfl

/-- The tokens of a segment that is a tag as a whole or holds none. -/
def tokensOf (p : Pattern α) (segment : Segment) : List (Token α) :=
  match p.valueOn? segment with
  | some value => [.hit ⟨segment.raw, value⟩]
  | none => segment.raw.map .plain

/-- A scan reads a segment as a whole, whatever follows. -/
def Reads (p : Pattern α) (segment : Segment) : Prop :=
  ∀ rest, p.scan (segment.raw ++ rest) = p.tokensOf segment ++ p.scan rest

/-- A segment that is a tag is one token. -/
theorem tokensOf_of_some {p : Pattern α} {segment : Segment} {value : α}
    (found : p.valueOn? segment = some value) :
    p.tokensOf segment = [.hit ⟨segment.raw, value⟩] := by
  simp only [tokensOf, found]

/-- A segment that is no tag is read a character at a time. -/
theorem tokensOf_of_none {p : Pattern α} {segment : Segment} (absent : p.valueOn? segment = none) :
    p.tokensOf segment = segment.raw.map .plain := by
  simp only [tokensOf, absent]

/-- Texts hold no tags of patterns that begin with braces, so only directives matter. -/
theorem Bracketed.reads {p : Pattern α} (hp : p.Bracketed) {segment : Segment}
    (flat : segment.isFlat = true) (whole : ∀ body, segment = .directive body → p.ReadsWhole body) :
    p.Reads segment := by
  intro rest
  cases segment with
  | text t => exact hp.scan_append (Text.isBraceFree_iff.1 flat).1 rest
  | directive body =>
      have clear : body.isBraceFree = true := flat
      have read : p.read ((Segment.directive body).raw ++ rest) = (p.valueOn? (.directive body)).map
          fun value => (⟨(Segment.directive body).raw, value⟩, rest) := whole body rfl rest
      cases value : p.valueOn? (.directive body) with
      | none =>
          rw [value] at read
          rw [tokensOf_of_none value, scan_directive_append_of_none hp clear read]
      | some found =>
          rw [value] at read
          rw [tokensOf_of_some value, scan_of_read read]
          rfl

theorem Reads.scan_eq {p : Pattern α} {segment : Segment} (reads : p.Reads segment) :
    p.scan segment.raw = p.tokensOf segment := by
  simpa [scan_nil] using reads []

/-- A scan can be cut behind a segment that is read. -/
theorem Reads.splits {p : Pattern α} {segment : Segment} (reads : p.Reads segment) :
    p.Splits segment.raw := by
  intro rest
  rw [reads rest, reads.scan_eq]

/-- A document whose segments are tags as a whole or hold none is scanned segment by segment. -/
theorem scan_reads {p : Pattern α} {doc : Document} (reads : ∀ segment ∈ doc, p.Reads segment) :
    p.scan doc.raw = doc.flatMap p.tokensOf := by
  rw [Document.raw, scan_flatMap fun segment here => (reads segment here).splits]
  exact List.flatMap_congr fun segment here => (reads segment here).scan_eq

/-- What stands in the place of a segment that is a tag as a whole or holds none. -/
def replaceIn (p : Pattern α) (f : Hit α → Text) (segment : Segment) : Text :=
  match p.valueOn? segment with
  | some value => f ⟨segment.raw, value⟩
  | none => segment.raw

/-- Tags that are segments are replaced segment by segment. -/
theorem replace_reads {p : Pattern α} {doc : Document} (reads : ∀ segment ∈ doc, p.Reads segment)
    (f : Hit α → Text) : p.replace f doc.raw = doc.flatMap (p.replaceIn f) := by
  rw [replace, scan_reads reads, List.flatMap_assoc]
  refine List.flatMap_congr fun segment _ => ?_
  cases value : p.valueOn? segment with
  | none => simp only [tokensOf, replaceIn, value, List.flatMap_map, List.flatMap_singleton']
  | some found => simp only [tokensOf, replaceIn, value, List.flatMap_singleton]

/-- A hit is one of the segments. -/
theorem exists_of_mem_hits {p : Pattern α} {doc : Document}
    (reads : ∀ segment ∈ doc, p.Reads segment) {hit : Hit α} (inside : hit ∈ p.hits doc.raw) :
    ∃ segment ∈ doc, p.valueOn? segment = some hit.value := by
  rw [hits, scan_reads reads, List.mem_filterMap] at inside
  obtain ⟨token, among, same⟩ := inside
  obtain ⟨segment, here, own⟩ := List.mem_flatMap.1 among
  refine ⟨segment, here, ?_⟩
  cases value : p.valueOn? segment with
  | none =>
      rw [tokensOf_of_none value] at own
      obtain ⟨c, _, rfl⟩ := List.mem_map.1 own
      exact absurd same (by simp)
  | some found =>
      rw [tokensOf_of_some value, List.mem_singleton] at own
      subst own
      rw [← Option.some.inj same]

end Pattern

end MailTemplate
