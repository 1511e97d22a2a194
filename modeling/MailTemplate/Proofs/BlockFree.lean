/-
Module: MailTemplate.Proofs.BlockFree
Purpose: When hoisting leaves no script and no style block behind.
Main exports: OpenTag.KeepsName, MarkupBlock.occurs_of_edited, StyleRule.Fits,
  OpenTag.keepsName_of_restyled, hoistStyles_blockFree
-/
import MailTemplate.Proofs.Angular
import MailTemplate.Proofs.Cascade
import MailTemplate.Proofs.Provenance

/-!
Writing a style into a tag makes no other tag unless the declarations hold a bracket, and leaves the
tag's name alone unless something runs into it when a style attribute behind it is taken out.  So
nothing but the blocks that stood inside tags can come back as a block.
-/

namespace MailTemplate

/-! ### Editing tags -/

namespace OpenTag

/-- An edited tag that has kept its name and has no bracket but its first that opens. -/
def KeepsName (hit : Hit OpenTag) (edit : Text) : Prop :=
  ∃ more, edit = '<' :: (hit.value.name ++ more) ∧ '<' ∉ more ∧ more ≠ [] ∧
    ∀ c ∈ more.head?, isWordCharacter c = false

/-- A text and the same with its tags edited, each keeping its name. -/
abbrev Edited : Text → Text → Prop :=
  pattern.Rewritten KeepsName

/-- What an edited text begins with up to the next bracket that opens, it began with before. -/
theorem kept_append {s t new : Text} (clear : '<' ∉ s) (edited : Edited t (s ++ new)) :
    ∃ rest, t = s ++ rest ∧ Edited rest new := by
  induction s generalizing t with
  | nil => exact ⟨t, rfl, edited⟩
  | cons c s ih =>
      rw [List.mem_cons, not_or] at clear
      generalize whole : c :: s ++ new = result at edited
      cases edited with
      | nil => exact absurd whole (by simp)
      | kept unread behind =>
          obtain ⟨rfl, rfl⟩ := List.cons.inj whole
          obtain ⟨rest, rfl, same⟩ := ih clear.2 behind
          exact ⟨rest, rfl, same⟩
      | edited read own behind =>
          obtain ⟨more, rfl, _⟩ := own
          exact absurd (List.cons.inj whole).1.symm clear.1

theorem head?_of_edited {t new : Text} (edited : Edited t new) : t.head? = new.head? := by
  cases edited with
  | nil => rfl
  | kept unread behind => rfl
  | edited read own behind =>
      obtain ⟨more, rfl, _⟩ := own
      rw [← pattern.raw_append read, (isWritten_of_read read).raw]
      rfl

/-- In an edited tag only the tag itself begins. -/
theorem occurs_edit {β : Type} {q : Pattern β} (opens : q.Opens) {hit : Hit OpenTag}
    (written : IsWritten hit) {edit : Text} (keeps : KeepsName hit edit) (new : Text) :
    q.occurs (edit ++ new) = ((q.read (edit ++ new)).isSome || q.occurs new) := by
  obtain ⟨more, rfl, clear, _⟩ := keeps
  have inside : '<' ∉ hit.value.name ++ more := by
    rw [List.mem_append, not_or]
    exact ⟨fun bracket => absurd (written.name _ bracket) (by decide), clear⟩
  rw [List.cons_append, Pattern.occurs_cons, opens.occurs_append_clear inside]

end OpenTag

namespace MarkupBlock

variable {name : String} (letters : (name.toList.all fun l => (foldLetter l).isAlphanum) = true)

include letters

/-- An edited tag closes no block. -/
theorem occurs_closer_of_edit {hit : Hit OpenTag} (written : OpenTag.IsWritten hit)
    {edit new : Text} (keeps : OpenTag.KeepsName hit edit)
    (here : (closer name).occurs (edit ++ new) = true) : (closer name).occurs new = true := by
  rw [OpenTag.occurs_edit (angular_closer letters).opens written keeps, Bool.or_eq_true] at here
  refine here.resolve_left fun head => ?_
  obtain ⟨more, rfl, _⟩ := keeps
  obtain ⟨first, front, letter⟩ := written.name_head
  obtain ⟨found, read⟩ := Option.isSome_iff_exists.1 head
  obtain ⟨word, pad, _, _, whole, _⟩ := closer_read_iff.1 read
  have tag : hit.value.name ++ (more ++ new) = '/' :: (word ++ (pad ++ '>' :: found.2)) := by
    simpa using whole
  have same := congrArg List.head? tag
  rw [List.head?_append, Option.mem_def.1 front] at same
  obtain rfl : first = '/' := Option.some.inj same
  exact absurd letter (by decide)

/-- Edits that keep the names of tags bring no tag about that closes a block. -/
theorem occurs_closer_of_edited {t new : Text} (edited : OpenTag.Edited t new)
    (here : (closer name).occurs new = true) : (closer name).occurs t = true := by
  induction edited with
  | nil => exact here
  | @kept c t new unread behind ih =>
      rw [Pattern.occurs_cons, Bool.or_eq_true] at here ⊢
      refine here.imp (fun head => ?_) ih
      obtain ⟨found, read⟩ := Option.isSome_iff_exists.1 head
      obtain ⟨word, pad, spelled, blank, whole, _⟩ := closer_read_iff.1 read
      obtain ⟨rfl, tag⟩ := List.cons.inj whole
      -- The tag has no bracket but its first that opens, so all of it has been kept.
      have clear : '<' ∉ '/' :: (word ++ (pad ++ ['>'])) := by
        have blanks : '<' ∉ pad := Text.not_mem_of_isPadding blank (by decide)
        simp [(spelled.not_mem letters).1, blanks]
      have split : new = '/' :: (word ++ (pad ++ ['>'])) ++ found.2 := by simp [tag]
      rw [split] at behind
      obtain ⟨rest, rfl, _⟩ := OpenTag.kept_append clear behind
      have kept : (closer name).read ('<' :: ('/' :: (word ++ (pad ++ ['>'])) ++ rest)) =
          some (⟨'<' :: '/' :: (word ++ (pad ++ ['>'])), ()⟩, rest) :=
        closer_read_iff.2 ⟨word, pad, spelled, blank, by simp, rfl⟩
      rw [kept]
      rfl
  | @edited t rest edit new hit read own behind ih =>
      rw [← OpenTag.pattern.raw_append read]
      exact Pattern.occurs_append
        (ih (occurs_closer_of_edit letters (OpenTag.isWritten_of_read read) own here)) _

theorem EndsIn.of_edited {t new : Text} (edited : OpenTag.Edited t new)
    (here : EndsIn name new) : EndsIn name t := by
  induction edited with
  | nil => exact here
  | @kept c t new unread behind ih =>
      obtain ⟨front, rest, whole, closes⟩ := here
      cases front with
      | nil =>
          obtain ⟨rfl, rfl⟩ := List.cons.inj whole
          exact ⟨[], t, rfl, occurs_closer_of_edited letters behind closes⟩
      | cons d front =>
          obtain ⟨rfl, rfl⟩ := List.cons.inj whole
          exact (ih ⟨front, rest, rfl, closes⟩).append [c]
  | @edited t rest edit new hit read own behind _ =>
      have written := OpenTag.isWritten_of_read read
      have closes := occurs_closer_of_edit letters written own here.occurs
      refine ⟨'<' :: (hit.value.name ++ hit.value.attributes), rest, ?_,
        occurs_closer_of_edited letters behind closes⟩
      rw [← OpenTag.pattern.raw_append read, written.raw]
      simp

/-- Where an edited tag begins a block, the tag did so before it was edited. -/
theorem isSome_read_of_edit {hit : Hit OpenTag} (written : OpenTag.IsWritten hit) {edit : Text}
    (keeps : OpenTag.KeepsName hit edit) {rest new : Text}
    (edited : OpenTag.Edited rest new)
    (head : ((MarkupBlock.pattern name).read (edit ++ new)).isSome = true) :
    ((MarkupBlock.pattern name).read (hit.raw ++ rest)).isSome = true := by
  obtain ⟨word, after, spelled, whole, boundary, ends⟩ := isSome_read_iff.1 head
  have closes : (closer name).occurs rest = true := by
    have ends := ends.append ('<' :: word)
    rw [List.cons_append, ← whole] at ends
    exact occurs_closer_of_edited letters edited
      (occurs_closer_of_edit letters written keeps ends.occurs)
  obtain ⟨more, rfl, -, solid, stop⟩ := keeps
  -- Both names are the first run of word characters.
  have named : Text.takeRun isWordCharacter (hit.value.name ++ (more ++ new)) =
      (hit.value.name, more ++ new) := by
    refine Text.takeRun_append_head
      (fun c inside => isWordCharacter_of_isAlphanum (written.name c inside)) ?_
    rwa [List.head?_append_of_ne_nil _ solid]
  have spelt : Text.takeRun isWordCharacter (word ++ after) = (word, after) :=
    Text.takeRun_append_head (spelled.isWordCharacter letters) boundary
  have tag : hit.value.name ++ (more ++ new) = word ++ after := by simpa using whole
  rw [tag, spelt] at named
  obtain ⟨rfl, -⟩ := Prod.mk.inj named
  have bracket : isWordCharacter '>' = false := by decide
  refine isSome_read_iff.2 ⟨hit.value.name, hit.value.attributes ++ '>' :: rest, spelled, ?_,
    Text.head?_append_stop written.boundary bracket rest, hit.value.attributes, rest, rfl, closes⟩
  simp [written.raw]

/-- Edits that keep the names of tags bring no block about. -/
theorem occurs_of_edited {t new : Text} (edited : OpenTag.Edited t new)
    (here : (MarkupBlock.pattern name).occurs new = true) :
    (MarkupBlock.pattern name).occurs t = true := by
  induction edited with
  | nil => exact here
  | @kept c t new unread behind ih =>
      rw [Pattern.occurs_cons, Bool.or_eq_true] at here ⊢
      refine here.imp (fun head => ?_) ih
      obtain ⟨word, after, spelled, whole, boundary, ends⟩ := isSome_read_iff.1 head
      obtain ⟨rfl, rfl⟩ := List.cons.inj whole
      obtain ⟨before, rfl, edited⟩ := OpenTag.kept_append (spelled.not_mem letters).1 behind
      rw [← OpenTag.head?_of_edited edited] at boundary
      exact isSome_read_iff.2 ⟨word, before, spelled, rfl, boundary, ends.of_edited letters edited⟩
  | @edited t rest edit new hit read own behind ih =>
      have written := OpenTag.isWritten_of_read read
      rw [← OpenTag.pattern.raw_append read]
      rw [OpenTag.occurs_edit (opens_pattern letters) written own, Bool.or_eq_true] at here
      rcases here with head | later
      · exact Pattern.occurs_of_read (isSome_read_of_edit letters written own behind head)
      · exact Pattern.occurs_append (ih later) _

end MarkupBlock

/-! ### Writing styles -/

/-- Declarations are written with the characters they have, and three more. -/
theorem tidyDeclarations_subset (block : Text) :
    tidyDeclarations block ⊆ block ++ [';', ' ', '\''] := by
  intro c inside
  rw [List.mem_append]
  rcases mem_of_mem_intercalate inside with between | ⟨piece, among, own⟩
  · exact .inr (List.mem_cons.2 <| (List.mem_cons.1 between).imp_right fun blank =>
      List.mem_cons.2 (.inl (List.mem_singleton.1 blank)))
  · obtain ⟨declaration, kept, rfl⟩ := List.mem_map.1 among
    obtain ⟨written, split, rfl⟩ := List.mem_map.1 (List.mem_filter.1 kept).1
    obtain ⟨d, here, rfl⟩ := List.mem_map.1 own
    rw [singleQuoted]
    split
    · exact .inr (by simp)
    · exact .inl (Text.subset_of_mem_splitOn split (Text.trim_subset written here))

/-- The value of an attribute is written among the attributes. -/
theorem OpenTag.attribute_subset (tag : OpenTag) (name : String) :
    (tag.attribute? name).getD [] ⊆ tag.attributes := by
  have quotes : (Attribute.pattern name).Quotes id :=
    Shape.quotes_pattern.orElse Shape.quotes_pattern
  rw [attribute?]
  cases found : (Attribute.pattern name).find? tag.attributes with
  | none => simp
  | some first =>
      obtain ⟨before, hit, after⟩ := first
      exact quotes.subset_of_findOnto found

/-- A bracket among the declarations of a tag stands among its attributes. -/
theorem OpenTag.bracket_mem_attributes {tag : OpenTag} (inside : '<' ∈ ownDeclarations tag) :
    '<' ∈ tag.attributes := by
  rcases List.mem_append.1 (tidyDeclarations_subset _ inside) with value | mark
  · exact tag.attribute_subset "style" value
  · exact absurd mark (by decide)

theorem OpenTag.Closes.exists_append {attributes others closer : Text}
    (closes : Closes attributes others closer) :
    '<' ∉ closer ∧ ∃ gap, attributes = others ++ gap := by
  cases closes with
  | plain _ _ _ whole => exact ⟨by decide, _, whole⟩
  | slashed _ _ _ whole => exact ⟨by decide, _, whole⟩

/-- A rule can be written into a tag without making another tag of it. -/
structure StyleRule.Fits (rule : StyleRule) (tag : OpenTag) : Prop where
  /-- The declarations open no tag. -/
  clear : '<' ∉ rule.declarations
  /-- The name of the tag does not run on when its style is taken out. -/
  boundary : ∀ c ∈ ((Attribute.pattern "style").erase tag.attributes).head?,
    isWordCharacter c = false

instance (rule : StyleRule) (tag : OpenTag) : Decidable (rule.Fits tag) :=
  have : Decidable (∀ c ∈ ((Attribute.pattern "style").erase tag.attributes).head?,
      isWordCharacter c = false) := Option.decidableForallMem _
  decidable_of_iff (_ ∧ _) ⟨fun both => ⟨both.1, both.2⟩, fun fits => ⟨fits.clear, fits.boundary⟩⟩

theorem OpenTag.keepsName_of_restyled {rules : List StyleRule} {hit : Hit OpenTag}
    (written : IsWritten hit)
    (fits : ∀ rule ∈ rules, rule.selector.selects hit.value = true → rule.Fits hit.value)
    {edit : Text} (restyled : Restyled rules hit edit) : KeepsName hit edit := by
  have attributes : '<' ∉ hit.value.attributes := fun inside => (written.attributes _ inside).1 rfl
  cases restyled with
  | unselected untouched =>
      refine ⟨hit.value.attributes ++ ['>'], written.raw, ?_, by simp,
        Text.head?_append_stop written.boundary (by decide) []⟩
      simpa using attributes
  | @selected applied style others closer chosen order declarations quotable ends =>
      obtain ⟨closing, gap, whole⟩ := ends.exists_append
      have selected : ∀ rule ∈ applied, rule.Fits hit.value := fun rule inside =>
        (List.mem_filter.1 (order.perm.mem_iff.1 inside)).elim (fits rule)
      have front : '<' ∉ others := by
        intro inside
        refine attributes ((Attribute.pattern "style").erase_subset _ ?_)
        rw [whole]
        exact List.mem_append_left _ inside
      -- Taking the old style out moves other text up to the name, which must not make it longer.
      have head : ∀ c ∈ others.head?, isWordCharacter c = false := by
        obtain ⟨rule, inside, selects⟩ := chosen
        have boundary := (fits rule inside selects).boundary
        rw [whole] at boundary
        cases others with
        | nil => simp
        | cons c others => exact boundary
      have styles : '<' ∉ style := by
        rw [declarations]
        intro inside
        rcases mem_of_mem_declarations inside with between | ⟨rule, among, here⟩ | own
        · exact absurd between (by decide)
        · exact (selected rule among).clear here
        · exact attributes (bracket_mem_attributes own)
      refine ⟨others ++ " style=\"".toList ++ style ++ '"' :: closer, by simp, ?_, by simp, ?_⟩
      · have fixed : '<' ∉ " style=\"".toList := by decide
        have quote : '<' ∉ '"' :: closer := by simpa using closing
        simp only [List.mem_append, not_or]
        exact ⟨⟨⟨front, fixed⟩, styles⟩, quote⟩
      · rw [List.append_assoc, List.append_assoc]
        exact Text.head?_append_stop head (by decide) _

/-- Where no script and no style block stands inside a tag, and every rule that selects a tag can be
written into it, hoisting leaves no script block behind and no style block. -/
theorem hoistStyles_blockFree {html : Text} (scripts : scriptBlock.StandsOutside html)
    (styles : styleBlock.StandsOutside (scriptBlock.erase html))
    (fits : ∀ hit ∈ OpenTag.pattern.hits (styleBlock.erase (scriptBlock.erase html)),
      ∀ rule ∈ styleRules (scriptBlock.erase html),
        rule.selector.selects hit.value = true → rule.Fits hit.value) :
    scriptBlock.occurs (hoistStyles html) = false ∧
      styleBlock.occurs (hoistStyles html) = false := by
  have script : ("script".toList.all fun l => (foldLetter l).isAlphanum) = true := by decide
  have style : ("style".toList.all fun l => (foldLetter l).isAlphanum) = true := by decide
  -- The scripts are gone when the style blocks are taken out, and none comes about by that.
  have scriptless : scriptBlock.occurs (scriptBlock.erase html) = false :=
    (MarkupBlock.seenThrough_pattern script _).occurs_erase scripts
  have styleless : styleBlock.occurs (styleBlock.erase (scriptBlock.erase html)) = false :=
    (MarkupBlock.seenThrough_pattern style _).occurs_erase styles
  have edited : OpenTag.Edited (styleBlock.erase (scriptBlock.erase html)) (hoistStyles html) := by
    rw [hoistStyles_eq]
    refine Pattern.rewritten_replace fun hit inside => ?_
    exact OpenTag.keepsName_of_restyled (OpenTag.isWritten_of_mem_hits inside) (fits hit inside)
      (restyled_restyle (fun _ => declarations_of_mem_styleRules) hit)
  constructor
  · rw [Bool.eq_false_iff] at scriptless ⊢
    intro left
    exact scriptless ((MarkupBlock.seenThrough_pattern script _).occurs_of_erase styles
      (MarkupBlock.occurs_of_edited script edited left))
  · rw [Bool.eq_false_iff] at styleless ⊢
    intro left
    exact styleless (MarkupBlock.occurs_of_edited style edited left)

/-- A letter with a script, a style block and two tags that its rules select. -/
def trackedLetter : Text :=
  "<script>a<b()</script>".toList ++ "<style>p { color: red }".toList ++ "</style>".toList ++
    "<p style='margin: 0' >Dear ".toList ++ "<b>Ann</b></p>".toList ++ "<SCRIPT></script >".toList

theorem hoistStyles_blockFree_trackedLetter :
    scriptBlock.occurs trackedLetter = true ∧
      styleBlock.occurs (scriptBlock.erase trackedLetter) = true ∧
      scriptBlock.occurs (hoistStyles trackedLetter) = false ∧
        styleBlock.occurs (hoistStyles trackedLetter) = false :=
  ⟨by decide +kernel, by decide +kernel,
    hoistStyles_blockFree (by decide +kernel) (by decide +kernel) (by decide +kernel)⟩

/-- A block that stands inside a tag leaves a tag behind, of a script or of a style block. -/
theorem hoistStyles_joins_tags :
    hoistStyles "<scr<script></script>ipt>a</script>".toList = "<script>a</script>".toList ∧
      hoistStyles "<sty<style></style>le>a</style>".toList = "<style>a</style>".toList ∧
      scriptBlock.occurs "<script>a</script>".toList = true ∧
      styleBlock.occurs "<style>a</style>".toList = true := by
  decide +kernel

end MailTemplate
