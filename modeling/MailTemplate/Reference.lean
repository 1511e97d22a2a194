/-
Module: MailTemplate.Reference
Purpose: Directives that name a piece of markup outside the template: includes, components and layouts.
Main exports: Reference.includes, Reference.layouts, Reference.content, fillLayout
-/
import MailTemplate.Directive.Tag

/-!
An include or component directive names a component by a quoted name.  A layout block names a layout and
encloses the text that the layout shows wherever it says `content`; it ends at the first closing layout
tag behind its opener.
-/

namespace MailTemplate

namespace Reference

/-- A keyword and a name in quote marks. -/
def namedTag (w : String) (quote : Char) : Shape :=
  [.opens, .blanks, .keyword w, .gap, .word [quote], .many (· != quote), .word [quote], .blanks, .closes]

/-- A keyword and a name in quote marks of either kind; the value is the name. -/
def named (w : String) : Pattern Text :=
  ((namedTag w '"').pattern (fun pieces => pieces.getD 5 []) (Shape.isSolid_opens _)).orElse
    ((namedTag w '\'').pattern (fun pieces => pieces.getD 5 []) (Shape.isSolid_opens _))

/-- Directives that stand for a component, by the component's name. -/
def includes : Pattern Text :=
  (named "include").orElse (named "component")

/-- The tag that closes a layout block. -/
def layoutCloser : Pattern Unit :=
  Directive.wordPattern "/layout" ()

/-- Layout blocks, by the layout's name and the text they enclose. -/
def layouts : Pattern (Text × Text) :=
  (named "layout").block layoutCloser

/-- The mark in a layout where the enclosed text goes. -/
def content : Pattern Unit :=
  Directive.wordPattern "content" ()

end Reference

/-- A layout with a text in the place of its content marks. -/
def fillLayout (body layout : Text) : Text :=
  Reference.content.replace (fun _ => body) layout

end MailTemplate
