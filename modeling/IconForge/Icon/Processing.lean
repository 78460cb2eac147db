import IconForge.Component.Module
import IconForge.Icon.Registry
import IconForge.Store.Basic

/-!
# What becomes of an icon

An icon is read, gets a name and is rendered; or it fails, for its file cannot be read, it is no
document or it gets no name. An icon that fails takes no name, so that the others get the names they
would get without it. At some texts the program breaks off.
-/

namespace IconForge

open IconForge.Markup

structure Options where
  sizes : SizeDefaults := {}
  naming : NamingPolicy := {}
  format : OutputFormat := .jsx
  outputFileName : String := format.defaultFileName
  /-- Patterns for the names of files to leave out. -/
  exclude : List String := []
  deriving DecidableEq, Repr

inductive IconError where
  | unreadable (error : FileError)
  | malformed (error : DocumentError)
  | unnamed (error : NamingError)
  deriving DecidableEq, Repr

def IconError.message : IconError → String
  | unreadable error => error.message
  | malformed error => error.message
  | unnamed error => error.message

/-! ## Processing -/

/-- The document of an icon, or why it has none, for its content, or why that cannot be read. -/
def readIcon : Except FileError String → Except Crash (Except IconError Document)
  | .error e => .ok (.error (.unreadable e))
  | .ok content =>
    match Document.read content with
    | .ok doc => .ok (.ok doc)
    | .error (.malformed e) => .ok (.error (.malformed e))
    | .error (.crashed crash) => .error crash

/-- The component of an icon with this document, for a file name with this stem. -/
def renderIcon (options : Options) (registry : Registry) (stem : String) :
    Except IconError Document → Except IconError Component × Registry
  | .error e => (.error e, registry)
  | .ok doc =>
    let attrs := IconAttributes.ofDocument doc options.sizes
    match registry.synthesize attrs.title stem options.naming with
    | (.error e, registry) => (.error (.unnamed e), registry)
    | (.ok id, registry) => (.ok (Component.render id attrs doc.inner options.format), registry)

/-- The component of an icon, for its content, or why that cannot be read. -/
def processContent (options : Options) (registry : Registry) (stem : String)
    (given : Except FileError String) : Except Crash (Except IconError Component × Registry) :=
  (readIcon given).map (renderIcon options registry stem)

/-- The component of the icon with this content. -/
def processSource (options : Options) (registry : Registry) (stem content : String) :
    Except Crash (Except IconError Component × Registry) :=
  processContent options registry stem (.ok content)

end IconForge
