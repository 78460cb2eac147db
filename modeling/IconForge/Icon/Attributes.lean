import IconForge.Markup.Document
import IconForge.Text.Classes

/-!
# What an icon says about itself

Size, view box and title of an icon, read from the root of its document.
-/

namespace IconForge

open IconForge.Markup IconForge.Text

/-- The size of icons that give none. -/
structure SizeDefaults where
  width : String := "24px"
  height : String := "24px"
  deriving DecidableEq, Repr

/-- The attributes of an icon that its name and its component depend on. -/
structure IconAttributes where
  width : String
  height : String
  viewBox : Option String
  /-- The title without its blanks, if anything is left of it. -/
  title : Option String
  deriving DecidableEq, Repr

/-- A title without its blanks, unless that leaves nothing. -/
def condensedTitle? (s : String) : Option String :=
  let title := withoutBlanks s
  if title.isEmpty then none else some title

/-- The attributes of the icon in a document. A title attribute comes before a title element, but
only if it says something. -/
def IconAttributes.ofDocument (doc : Document) (defaults : SizeDefaults) : IconAttributes where
  width := (doc.attribute? "width").getD defaults.width
  height := (doc.attribute? "height").getD defaults.height
  viewBox := doc.attribute? "viewBox"
  title :=
    ((doc.attribute? "title").bind condensedTitle?).or
      ((doc.childElement? "title").bind fun node => condensedTitle? node.text)

end IconForge
