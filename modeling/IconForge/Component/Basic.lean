import IconForge.Component.Literal
import IconForge.Icon.Attributes
import IconForge.Icon.Identifier

/-!
# Components

An icon becomes a function component whose size and colour are parameters. Its markup stands inside
a group that carries the colour, exactly as it was in the document.

```text
function Home({ height = "24px", width = "24px", className, color = "currentColor", ...rest }) {
  return (
    <svg width={width} height={height} viewBox="0 0 24 24" className={className} {...rest}>
      <g fill={color}><path d="..."/></g>
    </svg>
  );
}
```
-/

namespace IconForge

/-- The dialect that components are written in. -/
inductive OutputFormat where
  | jsx
  /-- With types. -/
  | tsx
  deriving DecidableEq, Repr

namespace OutputFormat

/-- The extension of files of a format, which is also the name of the format. -/
def extension : OutputFormat → String
  | jsx => "jsx"
  | tsx => "tsx"

instance : ToString OutputFormat := ⟨extension⟩

def ofName? : String → Option OutputFormat
  | "jsx" => some jsx
  | "tsx" => some tsx
  | _ => none

/-- The name of a generated file that is not given one. -/
def defaultFileName (format : OutputFormat) : String := "icons." ++ format.extension

def prelude? : OutputFormat → Option String
  | jsx => none
  | tsx =>
    some "import type \x7b SVGProps \x7d from \"react\";\n\ntype IconProps = SVGProps<SVGSVGElement>;"

def parameterType : OutputFormat → String
  | jsx => ""
  | tsx => ": IconProps"

end OutputFormat

/-- A component: its name and its source. -/
structure Component where
  identifier : Identifier
  source : String
  deriving DecidableEq

namespace Component

/-- The view box of an icon as an attribute, if it has one. -/
def viewBoxAttribute : Option String → String
  | none => ""
  | some viewBox => " viewBox=\"" ++ attributeText viewBox ++ "\""

/-- The component of an icon with this name, these attributes and this markup. -/
def render (id : Identifier) (attrs : IconAttributes) (inner : String) (format : OutputFormat) :
    Component where
  identifier := id
  source :=
    "function " ++ id.text ++ "(\x7b height = " ++ stringLiteral attrs.height ++
      ", width = " ++ stringLiteral attrs.width ++
      ", className, color = \"currentColor\", ...rest \x7d" ++ format.parameterType ++ ") \x7b\n" ++
      "  return (\n" ++
      "    <svg width=\x7bwidth\x7d height=\x7bheight\x7d" ++ viewBoxAttribute attrs.viewBox ++
      " className=\x7bclassName\x7d \x7b...rest\x7d>\n" ++
      "      <g fill=\x7bcolor\x7d>" ++ inner ++ "</g>\n" ++
      "    </svg>\n" ++
      "  );\n" ++
      "\x7d"

end Component

end IconForge
