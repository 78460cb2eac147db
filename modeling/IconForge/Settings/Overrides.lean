import IconForge.Settings.Basic

/-!
# Overriding settings

A command line overrides settings one by one. Only exclude patterns do not take the place of others;
they come in addition, after those that are there.
-/

namespace IconForge

/-- Settings given besides those of a file. -/
structure Overrides where
  src : Option Path := none
  out : Option Path := none
  width : Option String := none
  height : Option String := none
  suffix : Option String := none
  format : Option OutputFormat := none
  outputFileName : Option String := none
  useFileNames : Option Bool := none
  exclude : List String := []
  strict : Option Bool := none
  deriving DecidableEq, Repr

namespace Settings

def override (s : Settings) (o : Overrides) : Settings where
  project :=
    { src := o.src.getD s.project.src
      out := o.out.getD s.project.out }
  generate :=
    { defaultWidth := o.width.getD s.generate.defaultWidth
      defaultHeight := o.height.getD s.generate.defaultHeight
      format := o.format.getD s.generate.format
      outputFileName := o.outputFileName.or s.generate.outputFileName
      identifierSuffix := o.suffix.getD s.generate.identifierSuffix
      useFileNames := o.useFileNames.getD s.generate.useFileNames
      exclude := s.generate.exclude ++ o.exclude
      strict := o.strict.getD s.generate.strict }

end Settings

end IconForge
