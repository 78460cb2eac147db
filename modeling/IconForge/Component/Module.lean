import IconForge.Component.Basic

/-!
# Modules

All components of a batch in one text: the declarations of the format, the components in order, and
one statement that exports them. A blank line stands between any two parts.
-/

namespace IconForge.Component

def exportStatement (names : List String) : String :=
  if names.isEmpty then "export \x7b\x7d;"
  else "export \x7b " ++ ", ".intercalate names ++ " \x7d;"

/-- The names of components, each where it first occurs. -/
def exportedNames (components : List Component) : List String :=
  (components.map fun c => c.identifier.text).eraseDups

def declarations (components : List Component) (format : OutputFormat) : String :=
  "\n\n".intercalate (format.prelude?.toList ++ components.map Component.source)

def aggregate (components : List Component) (format : OutputFormat) : String :=
  let body := declarations components format
  (if body.isEmpty then "" else body ++ "\n\n") ++
    exportStatement (exportedNames components) ++ "\n"

end IconForge.Component
