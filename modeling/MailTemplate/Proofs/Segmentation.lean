/-
Module: MailTemplate.Proofs.Segmentation
Purpose: Segments are the only cut of a text into directives that end where they are closed and the
  text between them.
Main exports: Directive.IsDelimited, Segmented, segmented_segments, segments_eq_iff,
  segments_partition
-/
import Mathlib.Data.List.Infix
import MailTemplate.Proofs.Printed

/-!
Where a directive ends depends neither on what stands in front of it nor on what follows it, so a
directive can be taken out of one text and put into another.

`Segmented` lists the rows of segments that texts are cut into.  The cut of a text is such a row,
and such a row is the cut of its characters.
-/

namespace MailTemplate

/-! ### Directives by themselves -/

namespace Directive

/-- Whether a directive ends at its last two braces. -/
def IsDelimited (body : Text) : Prop :=
  endOffset? (Segment.directive body).raw 0 = some (Text.byteLength (opening ++ body))

instance (body : Text) : Decidable (IsDelimited body) :=
  inferInstanceAs (Decidable (_ = _))

/-- A body is delimited if the first closing behind it is its own. -/
theorem isDelimited_iff {body : Text} :
    IsDelimited body ↔ closing? '{' (body ++ closing) = some (body, []) := by
  have offset := endOffset?_opened [] (body ++ closing)
  rw [List.nil_append, ← List.append_assoc] at offset
  rw [IsDelimited, Segment.raw]
  change endOffset? _ (Text.byteLength []) = _ ↔ _
  rw [offset]
  constructor
  · intro ends
    obtain ⟨⟨found, after⟩, closed, size⟩ := Option.map_eq_some_iff.1 ends
    rw [Text.byteLength_append opening] at size
    have whole := closing?_append closed
    rw [List.append_assoc] at whole
    obtain rfl := Text.append_inj_of_byteLength whole (Nat.add_left_cancel size)
    have nothing : after = [] := by
      simpa using whole
    rw [closed, nothing]
  · intro closed
    rw [closed, Option.map_some, Text.byteLength_append opening]

end Directive

/-! ### Segments, piece by piece -/

namespace Segment

/-- Plain characters gather in front of the next directive. -/
theorem ofTokens_plain (plain t : Text) (tokens : List (Token Directive.Extent)) :
    ofTokens plain (t.map .plain ++ tokens) = ofTokens (t.reverse ++ plain) tokens := by
  induction t generalizing plain with
  | nil => rfl
  | cons c t ih =>
      rw [List.map_cons, List.cons_append, ofTokens, ih, List.reverse_cons, List.append_assoc]
      rfl

/-- What has gathered comes before a directive, and gathering begins anew behind it. -/
theorem ofTokens_hit (plain : Text) (hit : Hit Directive.Extent)
    (tokens : List (Token Directive.Extent)) :
    ofTokens plain (.hit hit :: tokens) =
      ofText plain.reverse ++ ofTokens [] (.hit hit :: tokens) := by
  obtain ⟨raw, extent⟩ := hit
  cases extent <;> rfl

end Segment

/-- A directive is read up to its end. -/
theorem Directive.read_closed {t body after : Text} (closed : closing? '{' t = some (body, after)) :
    extent.read (opening ++ t) = some (⟨(Segment.directive body).raw, .closed body⟩, after) := by
  simp only [extent, Text.dropPrefix?_append, closed]
  rfl

/-- An opening that never closes is read up to the end of the text. -/
theorem Directive.read_unclosed {t : Text} (unclosed : closing? '{' t = none) :
    extent.read (opening ++ t) = some (⟨opening ++ t, .unclosed⟩, []) := by
  simp only [extent, Text.dropPrefix?_append, unclosed]

/-- A directive is a segment by itself, and the text behind it is cut as if it stood alone. -/
theorem segments_directive {t body after : Text}
    (closed : Directive.closing? '{' t = some (body, after)) :
    segments (Directive.opening ++ t) = .directive body :: segments after := by
  rw [segments, Pattern.scan_of_read (Directive.read_closed closed)]
  rfl

/-- An opening that never closes takes all the text behind it. -/
theorem segments_unclosed {t : Text} (unclosed : Directive.closing? '{' t = none) :
    segments (Directive.opening ++ t) = [.text (Directive.opening ++ t)] := by
  rw [segments, Pattern.scan_of_read (Directive.read_unclosed unclosed)]
  rfl

/-- A text without two opening braces is read character by character. -/
theorem Pattern.Bracketed.scan_clear {α : Type} {p : Pattern α} (hp : p.Bracketed) {t rest : Text}
    (clear : ¬ Directive.opening <:+: t) (seam : t.getLast? = some '{' → rest.head? ≠ some '{') :
    p.scan (t ++ rest) = t.map .plain ++ p.scan rest := by
  induction t with
  | nil => rfl
  | cons c t ih =>
      have absent : p.read (c :: (t ++ rest)) = none := by
        refine hp.read_eq_none fun other same => ?_
        obtain ⟨rfl, behind⟩ := List.cons.inj same
        cases t with
        | nil => exact seam rfl (by rw [List.nil_append] at behind; rw [behind]; rfl)
        | cons d t =>
            obtain ⟨rfl, _⟩ := List.cons.inj behind
            exact clear ⟨[], t, rfl⟩
      have later : t.getLast? = some '{' → rest.head? ≠ some '{' := by
        intro last
        exact seam (by rw [List.getLast?_cons, last]; rfl)
      rw [List.cons_append, scan_of_not_read absent,
        ih (fun inside => clear (List.infix_cons inside)) later]
      rfl

/-- Text in front of an opening or of the end is passed over. -/
theorem Directive.scan_text {t rest : Text} (clear : ¬ opening <:+: t)
    (seam : rest = [] ∨ opening <+: rest ∧ t.getLast? ≠ some '{') :
    extent.scan (t ++ rest) = t.map .plain ++ extent.scan rest := by
  refine bracketed_extent.scan_clear clear fun last => ?_
  rcases seam with rfl | ⟨_, other⟩
  · simp
  · exact absurd last other

/-- Text in front of an opening or of the end is a segment by itself. -/
theorem segments_text {t rest : Text} (nonempty : t ≠ []) (clear : ¬ Directive.opening <:+: t)
    (seam : rest = [] ∨ Directive.opening <+: rest ∧ t.getLast? ≠ some '{') :
    segments (t ++ rest) = .text t :: segments rest := by
  have own : Segment.ofText t = [.text t] := by
    cases t with
    | nil => exact absurd rfl nonempty
    | cons c t => rfl
  rw [segments, Directive.scan_text clear seam, Segment.ofTokens_plain, List.append_nil]
  rcases seam with rfl | ⟨⟨more, rfl⟩, _⟩
  · rw [Pattern.scan_nil, Segment.ofTokens, List.reverse_reverse, own]
    rfl
  · obtain ⟨⟨hit, after⟩, read⟩ := Directive.exists_read_opening more
    rw [segments, Pattern.scan_of_read read, Segment.ofTokens_hit, List.reverse_reverse, own]
    rfl

/-- A text has no two opening braces, or a first pair of them. -/
theorem Text.opening_cases (t : Text) :
    ¬ Directive.opening <:+: t ∨ ∃ before rest, t = before ++ (Directive.opening ++ rest) ∧
      ¬ Directive.opening <:+: before ∧ before.getLast? ≠ some '{' := by
  induction t with
  | nil => exact .inl (by decide)
  | cons c t ih =>
      by_cases here : Directive.opening <+: c :: t
      · obtain ⟨rest, same⟩ := here
        exact .inr ⟨[], rest, same.symm, by decide, by simp⟩
      · rcases ih with clear | ⟨before, rest, rfl, clear, last⟩
        · exact .inl fun inside => (List.infix_cons_iff.1 inside).elim here clear
        · refine .inr ⟨c :: before, rest, rfl, fun inside => ?_, ?_⟩
          · rcases List.infix_cons_iff.1 inside with head | tail
            · exact here (head.trans (List.prefix_append (c :: before) _))
            · exact clear tail
          · cases before with
            | nil =>
                intro same
                obtain rfl : c = '{' := by simpa using same
                exact here ⟨'{' :: rest, rfl⟩
            | cons d before => rwa [List.getLast?_cons_cons]

/-! ### The rows of segments that texts are cut into -/

/-- Directives that end where they are closed, and text between them; at the end there may be an
opening that never closes. -/
inductive Segmented : Document → Prop
  | nil : Segmented []
  | unclosed {t : Text} (endless : Directive.closing? '{' t = none) :
      Segmented [.text (Directive.opening ++ t)]
  | directive {body : Text} {doc : Document} (delimited : Directive.IsDelimited body)
      (later : Segmented doc) : Segmented (.directive body :: doc)
  | text {t : Text} {doc : Document} (nonempty : t ≠ []) (clear : ¬ Directive.opening <:+: t)
      (seam : ∀ next ∈ doc.head?, Directive.opening <+: next.raw ∧ t.getLast? ≠ some '{')
      (later : Segmented doc) : Segmented (.text t :: doc)

/-- What stands behind a text in such a row is nothing or begins with an opening. -/
theorem Document.raw_seam {t : Text} {doc : Document}
    (seam : ∀ next ∈ doc.head?, Directive.opening <+: next.raw ∧ t.getLast? ≠ some '{') :
    doc.raw = [] ∨ Directive.opening <+: doc.raw ∧ t.getLast? ≠ some '{' := by
  cases doc with
  | nil => exact .inl rfl
  | cons next doc =>
      obtain ⟨opened, last⟩ := seam next rfl
      exact .inr ⟨opened.trans (List.prefix_append next.raw _), last⟩

/-- A delimited body is read whole, whatever comes behind. -/
theorem Directive.read_delimited {body : Text} (delimited : IsDelimited body) (rest : Text) :
    extent.read ((Segment.directive body).raw ++ rest) =
      some (⟨(Segment.directive body).raw, .closed body⟩, rest) := by
  have closed := closing?_body (isDelimited_iff.1 delimited) rest
  rw [Segment.raw, List.append_assoc, List.append_assoc, ← List.append_assoc body,
    read_closed closed]
  rfl

/-- Such a row is the cut of its characters. -/
theorem Segmented.segments_raw {doc : Document} (segmented : Segmented doc) :
    segments doc.raw = doc := by
  induction segmented with
  | nil => rfl
  | @unclosed t endless =>
      rw [Document.raw_cons, Document.raw_nil, List.append_nil]
      exact segments_unclosed endless
  | @directive body doc delimited _ ih =>
      rw [Document.raw_cons, segments,
        Pattern.scan_of_read (Directive.read_delimited delimited doc.raw)]
      exact congrArg (Segment.directive body :: ·) ih
  | @text t doc nonempty clear seam _ ih =>
      rw [Document.raw_cons, Segment.raw_text,
        segments_text nonempty clear (Document.raw_seam seam), ih]

/-- A directive of such a row is a hit where it stands in the row's characters. -/
theorem Segmented.scan_directive {doc before after : Document} {body : Text}
    (segmented : Segmented doc) (cut : doc = before ++ .directive body :: after) :
    ∃ first, Directive.extent.scan doc.raw =
        first ++ .hit ⟨(Segment.directive body).raw, .closed body⟩ ::
          Directive.extent.scan after.raw ∧
      first.flatMap Token.raw = before.raw := by
  induction segmented generalizing before with
  | nil => simp at cut
  | unclosed => cases before <;> simp at cut
  | @directive other doc delimited _ ih =>
      have scan := Pattern.scan_of_read (Directive.read_delimited delimited doc.raw)
      rw [Document.raw_cons, scan]
      cases before with
      | nil =>
          obtain ⟨same, rfl⟩ := List.cons.inj cut
          obtain rfl := Segment.directive.inj same
          exact ⟨[], rfl, rfl⟩
      | cons segment before =>
          obtain ⟨rfl, rest⟩ := List.cons.inj cut
          obtain ⟨first, later, front⟩ := ih rest
          refine ⟨.hit ⟨(Segment.directive other).raw, .closed other⟩ :: first, ?_, ?_⟩
          · rw [later]
            rfl
          · rw [List.flatMap_cons, front, Document.raw_cons]
            rfl
  | @text t doc _ clear seam _ ih =>
      rw [Document.raw_cons, Segment.raw_text, Directive.scan_text clear (Document.raw_seam seam)]
      cases before with
      | nil => simp at cut
      | cons segment before =>
          obtain ⟨rfl, rest⟩ := List.cons.inj cut
          obtain ⟨first, later, front⟩ := ih rest
          refine ⟨t.map .plain ++ first, by rw [later, List.append_assoc], ?_⟩
          have plain : (t.map Token.plain).flatMap (Token.raw (α := Directive.Extent)) = t := by
            rw [List.flatMap_map]
            exact List.flatMap_singleton' t
          rw [List.flatMap_append, front, plain, Document.raw_cons, Segment.raw_text]

/-- An opening begins a segment: a directive, or all the text if it never closes. -/
theorem Segmented.exists_opened (t : Text) : ∃ next behind,
    segments (Directive.opening ++ t) = next :: segments behind ∧
      next.raw ++ behind = Directive.opening ++ t ∧ Directive.opening <+: next.raw ∧
        (Segmented (segments behind) → Segmented (next :: segments behind)) := by
  cases closed : Directive.closing? '{' t with
  | none =>
      exact ⟨.text (Directive.opening ++ t), [], segments_unclosed closed, List.append_nil _,
        List.prefix_append _ _, fun _ => .unclosed closed⟩
  | some found =>
      obtain ⟨body, after⟩ := found
      have delimited : Directive.IsDelimited body := by
        have alone := Directive.closing?_body closed []
        rw [List.append_nil] at alone
        exact Directive.isDelimited_iff.2 alone
      refine ⟨.directive body, after, segments_directive closed, ?_, ?_, .directive delimited⟩
      · rw [← Directive.closing?_append closed, Segment.raw]
        simp only [List.append_assoc]
      · rw [Segment.raw, List.append_assoc]
        exact List.prefix_append _ _

/-- A text is cut into such a row, and its characters are the text. -/
theorem segmented_segments (t : Text) :
    Segmented (segments t) ∧ Document.raw (segments t) = t := by
  -- Each step takes the text up to an opening and the segment that begins there.
  induction length : t.length using Nat.strongRecOn generalizing t with
  | ind n ih =>
      rcases Text.opening_cases t with clear | ⟨before, rest, rfl, clear, last⟩
      · cases t with
        | nil => exact ⟨.nil, rfl⟩
        | cons c t =>
            have alone : segments (c :: t) = [.text (c :: t)] := by
              have whole := segments_text (List.cons_ne_nil c t) clear (.inl rfl)
              rwa [List.append_nil] at whole
            rw [alone]
            exact ⟨.text (List.cons_ne_nil c t) clear (by simp) .nil, by simp⟩
      · obtain ⟨next, behind, cut, raw, opened, extend⟩ := Segmented.exists_opened rest
        have shorter : behind.length < n := by
          have sum := congrArg List.length raw
          have two : 2 ≤ next.raw.length := opened.length_le
          rw [List.length_append] at sum length
          omega
        obtain ⟨later, raw_later⟩ := ih behind.length shorter behind rfl
        cases before with
        | nil =>
            rw [List.nil_append, cut, Document.raw_cons, raw_later]
            exact ⟨extend later, raw⟩
        | cons c before =>
            rw [segments_text (List.cons_ne_nil c before) clear
              (.inr ⟨List.prefix_append _ _, last⟩), cut]
            refine ⟨.text (List.cons_ne_nil c before) clear (fun other here => ?_) (extend later),
              ?_⟩
            · obtain rfl := Option.some.inj here
              exact ⟨opened, last⟩
            · rw [Document.raw_cons, Document.raw_cons, raw_later, raw, Segment.raw_text]

/-- The cut of a text is the one row of this form with the characters of the text. -/
theorem segments_eq_iff {t : Text} {doc : Document} :
    segments t = doc ↔ Segmented doc ∧ doc.raw = t := by
  constructor
  · rintro rfl
    exact segmented_segments t
  · rintro ⟨segmented, rfl⟩
    exact segmented.segments_raw

/-! ### What a text is cut into -/

/-- Whether a text begins with two opening braces that are never closed. -/
def Text.IsUnclosed (t : Text) : Prop :=
  Directive.opening <+: t ∧ Directive.endOffset? t 0 = none

/-- An opening without a closing behind it is an unclosed text. -/
theorem Text.isUnclosed_opening {t : Text} (endless : Directive.closing? '{' t = none) :
    IsUnclosed (Directive.opening ++ t) := by
  refine ⟨List.prefix_append _ _, ?_⟩
  have offset := Directive.endOffset?_opened [] t
  rw [endless] at offset
  exact offset

/-- A document made of the pieces of a text. -/
structure Document.Partitions (doc : Document) (t : Text) : Prop where
  /-- The pieces in a row are the text. -/
  raw_eq : doc.raw = t
  nonempty : ∀ segment ∈ doc, segment.raw ≠ []
  /-- Pieces begin and end at characters of the text. -/
  boundary : ∀ before after, doc = before ++ after →
    Text.splitAtByte (Text.byteLength before.raw) t = (before.raw, after.raw)
  /-- Directives end at their last two braces, and are directives by themselves. -/
  delimited : ∀ body, .directive body ∈ doc →
    Directive.IsDelimited body ∧ segments (Segment.directive body).raw = [.directive body]
  /-- In the whole text, a directive ends where it ends by itself. -/
  ends : ∀ (before after : Document) (body : Text), doc = before ++ .directive body :: after →
    Directive.endOffset? t (Text.byteLength before.raw) =
      some (Text.byteLength (before.raw ++ Directive.opening ++ body))
  /-- Two opening braces in a text are its beginning, and it is the last piece. -/
  unclosed : ∀ before tail after, doc = before ++ .text tail :: after →
    Directive.opening <:+: tail → after = [] ∧ Text.IsUnclosed tail
  /-- A text behind a text is an opening that never closes, and the last piece. -/
  neighbours : ∀ before first second after, doc = before ++ .text first :: .text second :: after →
    after = [] ∧ Text.IsUnclosed second

namespace Segmented

variable {doc : Document}

/-- No segment is empty. -/
theorem raw_ne_nil (segmented : Segmented doc) {segment : Segment} (inside : segment ∈ doc) :
    segment.raw ≠ [] := by
  induction segmented with
  | nil => simp at inside
  | unclosed => simp_all [Directive.opening]
  | directive _ _ ih =>
      rcases List.mem_cons.1 inside with rfl | later
      · simp [Segment.raw, Directive.opening]
      · exact ih later
  | text nonempty _ _ _ ih =>
      rcases List.mem_cons.1 inside with rfl | later
      · exact nonempty
      · exact ih later

/-- The bodies of directives are delimited. -/
theorem isDelimited (segmented : Segmented doc) {body : Text} (inside : .directive body ∈ doc) :
    Directive.IsDelimited body := by
  induction segmented with
  | nil => simp at inside
  | unclosed => simp at inside
  | directive delimited _ ih =>
      rcases List.mem_cons.1 inside with same | later
      · rwa [Segment.directive.inj same]
      · exact ih later
  | text _ _ _ _ ih => exact ih (by simpa using inside)

/-- The offset of a directive leads to the end of its body. -/
theorem endOffset?_eq (segmented : Segmented doc) {before after : Document} {body : Text}
    (cut : doc = before ++ .directive body :: after) :
    Directive.endOffset? doc.raw (Text.byteLength before.raw) =
      some (Text.byteLength (before.raw ++ Directive.opening ++ body)) := by
  have inside : .directive body ∈ doc := by
    rw [cut]
    exact List.mem_append_right before List.mem_cons_self
  have delimited := Directive.isDelimited_iff.1 (segmented.isDelimited inside)
  have whole : doc.raw =
      before.raw ++ Directive.opening ++ (body ++ Directive.closing ++ after.raw) := by
    rw [cut, Document.raw_append, Document.raw_cons, Segment.raw]
    simp only [List.append_assoc]
  rw [whole, Directive.endOffset?_opened, Directive.closing?_body delimited, Option.map_some,
    Text.byteLength_append (before.raw ++ Directive.opening)]

/-- A text with an opening in it is the last one, and is not closed. -/
theorem unclosed_of_opening (segmented : Segmented doc) {before after : Document} {tail : Text}
    (cut : doc = before ++ .text tail :: after) (opened : Directive.opening <:+: tail) :
    after = [] ∧ Text.IsUnclosed tail := by
  induction segmented generalizing before with
  | nil => simp at cut
  | unclosed endless =>
      cases before with
      | nil =>
          obtain ⟨same, rfl⟩ := List.cons.inj cut
          obtain rfl := Segment.text.inj same
          exact ⟨rfl, Text.isUnclosed_opening endless⟩
      | cons first before => simp at cut
  | directive _ _ ih =>
      cases before with
      | nil => simp at cut
      | cons first before => exact ih (List.cons.inj cut).2
  | text _ clear _ _ ih =>
      cases before with
      | nil =>
          obtain rfl := Segment.text.inj (List.cons.inj cut).1
          exact absurd opened clear
      | cons first before => exact ih (List.cons.inj cut).2

/-- A text behind a text begins with an opening. -/
theorem opening_of_neighbour (segmented : Segmented doc) {before after : Document}
    {first second : Text} (cut : doc = before ++ .text first :: .text second :: after) :
    Directive.opening <+: second := by
  induction segmented generalizing before with
  | nil => simp at cut
  | unclosed => cases before <;> simp at cut
  | directive _ _ ih =>
      cases before with
      | nil => simp at cut
      | cons _ before => exact ih (List.cons.inj cut).2
  | text _ _ seam _ ih =>
      cases before with
      | nil =>
          obtain ⟨_, rfl⟩ := List.cons.inj cut
          exact (seam _ rfl).1
      | cons _ before => exact ih (List.cons.inj cut).2

/-- Segments that are cut from a text partition it. -/
theorem partitions (segmented : Segmented doc) : doc.Partitions doc.raw where
  raw_eq := rfl
  nonempty segment inside := segmented.raw_ne_nil inside
  boundary before after cut := by rw [cut, Document.raw_append, Text.splitAtByte_append]
  delimited body inside := by
    have delimited := segmented.isDelimited inside
    have alone := (Segmented.directive delimited .nil).segments_raw
    rw [Document.raw_cons, Document.raw_nil, List.append_nil] at alone
    exact ⟨delimited, alone⟩
  ends before after body cut := segmented.endOffset?_eq cut
  unclosed before tail after cut opened := segmented.unclosed_of_opening cut opened
  neighbours before first second after cut := by
    have opened := segmented.opening_of_neighbour cut
    rw [← List.singleton_append, ← List.append_assoc] at cut
    exact segmented.unclosed_of_opening cut opened.isInfix

end Segmented

/-! ### What is cut into its pieces -/

/-- Whether a segment is text without two opening braces, or a directive that ends at its last two
braces. -/
def Segment.IsProper : Segment → Prop
  | .text t => t ≠ [] ∧ ¬ Directive.opening <:+: t
  | .directive body => Directive.IsDelimited body

instance : (segment : Segment) → Decidable segment.IsProper
  | .text _ => inferInstanceAs (Decidable (_ ∧ _))
  | .directive body => inferInstanceAs (Decidable (Directive.IsDelimited body))

/-- Whether a segment can stand in front of another: a text stands in front of no text, and in front
of a directive it does not end in an opening brace. -/
def Segment.MayPrecede : Segment → Segment → Prop
  | .text _, .text _ => False
  | .text t, .directive _ => t.getLast? ≠ some '{'
  | .directive _, _ => True

instance : (first second : Segment) → Decidable (first.MayPrecede second)
  | .text _, .text _ => inferInstanceAs (Decidable False)
  | .text _, .directive _ => inferInstanceAs (Decidable (_ ≠ _))
  | .directive _, _ => inferInstanceAs (Decidable True)

/-- Proper segments, each of which can stand in front of the next, are what their characters are cut
into. -/
theorem segmented_of_proper {doc : Document} (proper : ∀ segment ∈ doc, segment.IsProper)
    (neighbours : doc.IsChain Segment.MayPrecede) : Segmented doc := by
  induction doc with
  | nil => exact .nil
  | cons segment doc ih =>
      have own := proper segment List.mem_cons_self
      have later := ih (fun other inside => proper other (List.mem_cons_of_mem _ inside))
        (List.IsChain.of_cons neighbours)
      cases segment with
      | directive body => exact .directive own later
      | text t =>
          refine .text own.1 own.2 (fun next here => ?_) later
          cases doc with
          | nil => simp at here
          | cons other doc =>
              obtain rfl := Option.some.inj here
              have seam := (List.isChain_cons_cons.1 neighbours).1
              cases other with
              | text u => exact seam.elim
              | directive body =>
                  refine ⟨?_, seam⟩
                  rw [Segment.raw, List.append_assoc]
                  exact List.prefix_append _ _

/-- The cut of a text is a partition of it into directives and text, and every row of directives and
text of that kind is the cut of its characters. -/
theorem segments_partition :
    (∀ t : Text, Document.Partitions (segments t) t) ∧
      ∀ doc : Document, (∀ segment ∈ doc, segment.IsProper) → doc.IsChain Segment.MayPrecede →
        segments doc.raw = doc := by
  constructor
  · intro t
    obtain ⟨segmented, raw⟩ := segmented_segments t
    have cut := segmented.partitions
    rwa [raw] at cut
  · intro doc proper neighbours
    exact (segmented_of_proper proper neighbours).segments_raw

/-- A price list with a literal that holds braces, an escaped quote mark, and stray braces. -/
def priceList : Document :=
  [.text "Menu \x7ba\x7d: ".toList, .directive "price, '\x7b\"min\": 1\x7d'".toList,
    .directive "note, 'it\\'s \x7d\x7d full'".toList, .text "\x7d or \x7b".toList]

/-- The segments of a price list, put together, are cut apart again. -/
theorem segments_priceList :
    (∀ segment ∈ priceList, segment.IsProper) ∧ priceList.IsChain Segment.MayPrecede ∧
      segments priceList.raw = priceList := by
  have proper : ∀ segment ∈ priceList, segment.IsProper := by decide
  have neighbours : priceList.IsChain Segment.MayPrecede := by decide
  exact ⟨proper, neighbours, segments_partition.2 priceList proper neighbours⟩

end MailTemplate
