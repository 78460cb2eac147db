import IconForge.Component.Basic
import IconForge.Proofs.Component.Literal
import IconForge.Proofs.Identifier

/-!
# A component tells all that it is made of

The source of a component is one text, and everything in it that comes from the icon can be told
from what follows: the name ends before the bracket, a size at the closing quote of its literal, a
view box at the closing quote of its attribute, or where the next attribute begins if there is none.
The markup is what is left before the closing tags. So two components with the same source have the
same name, the same sizes, the same view box and the same markup, and are of the same format.

## Main statements

- `selfDelimiting_name`, `selfDelimiting_viewBox`, `selfDelimiting_parameterType`: where the parts
  end that are no values.
- `source_eq_iff`: what two components with the same source have in common.
-/

namespace IconForge.Component

open IconForge.Text

/-! ## Parts of a source -/

/-- A name ends before the first bracket. -/
theorem selfDelimiting_name : SelfDelimiting fun id : Identifier => id.text ++ "(" := by
  intro id id' s t h
  have front (id : Identifier) (s : String) :
      (id.text ++ "(" ++ s).toList.takeWhile isWordChar = id.text.toList := by
    have word := word_of_isIdentifier id.isIdentifier_text
    have bracket : isWordChar '(' = false := by decide
    simp [List.takeWhile_append_of_pos word, bracket]
  have same : id.text = id'.text := by
    rw [← String.toList_inj, ← front id s, ← front id' t, h]
  obtain rfl := Identifier.text_injective same
  exact ⟨rfl, (String.append_right_inj _).mp h⟩

/-- The type of the parameter is there or not, which is seen at the bracket that follows. -/
theorem selfDelimiting_parameterType :
    SelfDelimiting fun format : OutputFormat => format.parameterType ++ ")" := by
  intro format format' s t h
  cases format <;> cases format'
  · exact ⟨rfl, (String.append_right_inj _).mp h⟩
  · -- a bracket is no colon
    exact absurd (congrArg (fun s => s.toList.head?) h) (by simp [OutputFormat.parameterType])
  · exact absurd (congrArg (fun s => s.toList.head?) h) (by simp [OutputFormat.parameterType])
  · exact ⟨rfl, (String.append_right_inj _).mp h⟩

/-- A view box ends at its quote; and an icon without one has the next attribute in its place, which
begins with another letter. -/
theorem selfDelimiting_viewBox :
    SelfDelimiting fun viewBox => viewBoxAttribute viewBox ++ " className=" := by
  have given (value s : String) : viewBoxAttribute (some value) ++ " className=" ++ s =
      " viewBox=\"" ++ ((attributeText value ++ "\"") ++ (" className=" ++ s)) := by
    simp only [viewBoxAttribute, String.append_assoc]
  have absent (s : String) : viewBoxAttribute none ++ " className=" ++ s = " className=" ++ s := by
    simp [viewBoxAttribute]
  have differ (s t : String) : " className=" ++ s ≠ " viewBox=\"" ++ t := fun h =>
    absurd (congrArg (fun s => s.toList.tail.head?) h) (by simp)
  intro viewBox viewBox' s t h
  cases viewBox with
  | none =>
    cases viewBox' with
    | none => exact ⟨rfl, (String.append_right_inj _).mp h⟩
    | some w =>
      rw [absent, given] at h
      exact absurd h (differ _ _)
  | some v =>
    cases viewBox' with
    | none =>
      rw [absent, given] at h
      exact absurd h.symm (differ _ _)
    | some w =>
      rw [given, given, String.append_right_inj] at h
      obtain ⟨rfl, rest⟩ := selfDelimiting_attributeText v w _ _ h
      exact ⟨rfl, (String.append_right_inj _).mp rest⟩

/-! ## Sources -/

/-- A source as a row of parts, each with what comes after it. -/
theorem source_eq (id : Identifier) (attrs : IconAttributes) (inner : String)
    (format : OutputFormat) :
    (render id attrs inner format).source =
      "function " ++ ((id.text ++ "(") ++ ("\x7b height = " ++ (stringLiteral attrs.height ++
        (", width = " ++ (stringLiteral attrs.width ++
          (", className, color = \"currentColor\", ...rest \x7d" ++
            ((format.parameterType ++ ")") ++ (" \x7b\n" ++ "  return (\n" ++
              "    <svg width=\x7bwidth\x7d height=\x7bheight\x7d" ++
              ((viewBoxAttribute attrs.viewBox ++ " className=") ++
                ("\x7bclassName\x7d \x7b...rest\x7d>\n" ++ "      <g fill=\x7bcolor\x7d>" ++
                  (inner ++ ("</g>\n" ++ "    </svg>\n" ++ "  );\n" ++ "\x7d")))))))))))) := by
  -- three of the texts in a source are cut where a part ends
  have name : "(\x7b height = " = "(" ++ "\x7b height = " := rfl
  have type : ") \x7b\n" = ")" ++ " \x7b\n" := rfl
  have viewBox : " className=\x7bclassName\x7d \x7b...rest\x7d>\n" =
    " className=" ++ "\x7bclassName\x7d \x7b...rest\x7d>\n" := rfl
  rw [render, name, type, viewBox]
  simp only [String.append_assoc]

/-- Two components have the same source if and only if they have the same name, the same height, the
same width, the same view box, the same markup and the same format. A view box that is empty is not
the same as none. -/
theorem source_eq_iff (id id' : Identifier) (attrs attrs' : IconAttributes)
    (inner inner' : String) (format format' : OutputFormat) :
    (render id attrs inner format).source = (render id' attrs' inner' format').source ↔
      id = id' ∧ attrs.height = attrs'.height ∧ attrs.width = attrs'.width ∧
        attrs.viewBox = attrs'.viewBox ∧ inner = inner' ∧ format = format' := by
  rw [source_eq, source_eq]
  constructor
  · intro h
    -- the parts are taken off the front one by one
    rw [String.append_right_inj] at h
    obtain ⟨name, h⟩ := selfDelimiting_name _ _ _ _ h
    rw [String.append_right_inj] at h
    obtain ⟨height, h⟩ := selfDelimiting_stringLiteral _ _ _ _ h
    rw [String.append_right_inj] at h
    obtain ⟨width, h⟩ := selfDelimiting_stringLiteral _ _ _ _ h
    rw [String.append_right_inj] at h
    obtain ⟨format, h⟩ := selfDelimiting_parameterType _ _ _ _ h
    rw [String.append_right_inj] at h
    obtain ⟨viewBox, h⟩ := selfDelimiting_viewBox _ _ _ _ h
    rw [String.append_right_inj] at h
    exact ⟨name, height, width, viewBox, (String.append_left_inj _).mp h, format⟩
  · rintro ⟨rfl, height, width, viewBox, rfl, rfl⟩
    rw [height, width, viewBox]

end IconForge.Component
