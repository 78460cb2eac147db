import IconForge.Proofs.Batch
import IconForge.Proofs.Component.Exports
import IconForge.Proofs.Discovery
import IconForge.Proofs.Generation.Course
import IconForge.Proofs.Occurrences
import IconForge.Store.Memory

/-!
# What a run accounts for

A run that is not stopped reports every entry of the directory once: first the entries left out,
then the icons, both in the order of the listing. Its module holds one component for each icon that
was generated, in the same order, and no two of them share a name, so that its last line exports
them all; and it holds nothing else.

## Main statements

- `Component.aggregate_of_nodup`: the module of components with pairwise different names.
- `Generation.run_ok`: what a run that is not stopped has done.
- `Generation.report_accounts_for_listing`: report and module against the listing.
-/

namespace IconForge

open IconForge.Markup

/-! ## Modules of components with different names -/

namespace Component

variable {components : List Component}

/-- Names that are pairwise different are all exported. -/
theorem exportedNames_of_nodup (h : (components.map Component.identifier).Nodup) :
    exportedNames components = components.map fun c => c.identifier.text := by
  apply eraseDups_of_nodup
  rw [← Function.comp_def Identifier.text Component.identifier, ← List.map_map]
  exact h.map Identifier.text_injective

/-- The component of an icon has a source that is not empty. -/
theorem source_render_ne_empty (id : Identifier) (attrs : IconAttributes) (inner : String)
    (format : OutputFormat) : (render id attrs inner format).source ≠ "" := by
  simp [render]

/-- A module is the declarations of its format, if there are any, and the sources of its components
in order, each with a blank line after it, and then one line, which exports the names of the
components, if they are pairwise different. -/
theorem aggregate_of_nodup (filled : ∀ c ∈ components, c.source ≠ "")
    (different : (components.map Component.identifier).Nodup) (format : OutputFormat) :
    ∃ line, aggregate components format =
        String.join ((format.prelude?.toList ++ components.map Component.source).map
          (· ++ "\n\n")) ++ line ++ "\n" ∧
      '\n' ∉ line.toList ∧
      exported? line = some (components.map fun c => c.identifier.text) := by
  refine ⟨exportStatement (exportedNames components), aggregate_eq filled format,
    newline_not_mem_exportStatement (isName_exportedNames components), ?_⟩
  rw [exported?_exportStatement (isName_exportedNames components),
    exportedNames_of_nodup different]

end Component

namespace Generation

variable {σ : Type} [FileStore σ] {g : Generation} {input output : Path} {clock : Clock} {store : σ}

/-! ## Runs that are not stopped -/

/-- A run that is not stopped has listed the directory and worked on all of its icons, and its
outcome is read off the batch of that listing. -/
theorem run_ok {outcome : Outcome} (h : (g.run input output clock store).result = .ok outcome) :
    ∃ excludes names, compileExcludes g.options.exclude = .ok excludes ∧
      FileStore.listFiles store input = .ok names ∧
      let b := g.batchOf store (discover input names excludes)
      b.crash = none ∧ ∃ nanoseconds, outcome =
        ⟨b.report nanoseconds, b.artifact g.options.format, g.outputPath output, !g.dryRun⟩ := by
  obtain ⟨b, batched, ⟨whole, -⟩, rfl⟩ := result_eq_ok_iff.mp h
  obtain ⟨-, excludes, names, compiled, listed, rfl⟩ := batch_eq_ok_iff.mp batched
  exact ⟨excludes, names, compiled, listed, whole, _, rfl⟩

/-- The batch of a divided listing has a result for each icon in it, if the program does not break
off. -/
theorem sources_batchOf {d : Discovery} (whole : (g.batchOf store d).crash = none) :
    (g.batchOf store d).results.map Prod.fst = d.sources := by
  rw [batchOf, Batch.ofContents, map_fst_processAll, map_fst_readAll whole, List.map_map]
  exact List.map_id _

/-- A component of a batch is the rendering of the document that the file of its icon holds. -/
theorem exists_of_mem_results {d : Discovery} {source : Source} {c : Component}
    (done : (source, .ok c) ∈ (g.batchOf store d).results) :
    ∃ text doc, FileStore.readText store source.path = .ok text ∧ Document.read text = .ok doc ∧
      c = Component.render c.identifier (IconAttributes.ofDocument doc g.options.sizes) doc.inner
        g.options.format ∧ source ∈ d.sources := by
  obtain ⟨doc, reading, rendered⟩ := mem_processAll_ok done
  obtain ⟨given, isGiven, read⟩ := exists_of_mem_readAll reading
  obtain ⟨text, rfl, isDocument⟩ := readIcon_eq_ok_iff.mp read
  obtain ⟨source', mem, eq⟩ := List.mem_map.mp isGiven
  obtain ⟨rfl, readable⟩ := Prod.mk.inj eq
  exact ⟨text, doc, readable, isDocument, rendered, mem⟩

/-! ## Report and module against the listing -/

/-- An entry of the report becomes a component: the rendering, under the name that the report gives,
of the document that its file holds. -/
def Becomes (g : Generation) (input : Path) (store : σ) (f : FileResult) (c : Component) : Prop :=
  f.status = .generated c.identifier ∧
    ∃ text doc, FileStore.readText store (input.join ⟨f.fileName⟩) = .ok text ∧
      Document.read text = .ok doc ∧
      c = Component.render c.identifier (IconAttributes.ofDocument doc g.options.sizes) doc.inner
        g.options.format

/-- An entry is reported as left out, for the reason that speaks against it, or as worked on. -/
def ReportedAs (excludes : List Glob.Pattern) (f : FileResult) : Prop :=
  match skipReason? excludes f.fileName with
  | some reason => f.status = .skipped reason.message
  | none => f.status.isSkipped = false

/-- The report and the module of an outcome account for a listing: every entry is reported once,
those left out before the icons, both in the order of the listing. The module is the sources of the
components of the generated entries, one for each and in their order, after the declarations of the
format, and one line that exports just the names in the report. These are pairwise different, so
that none is left out of the line. -/
structure AccountsFor (g : Generation) (input : Path) (store : σ) (excludes : List Glob.Pattern)
    (names : List String) (components : List Component) (outcome : Outcome) : Prop where
  compiled : compileExcludes g.options.exclude = .ok excludes
  listed : FileStore.listFiles store input = .ok names
  order : outcome.report.files.map FileResult.fileName =
    names.filter (fun name => (skipReason? excludes name).isSome) ++
      names.filter (fun name => (skipReason? excludes name).isNone)
  once : (outcome.report.files.map FileResult.fileName).Perm names
  reasons : ∀ f ∈ outcome.report.files, ReportedAs excludes f
  counts : outcome.report.processed + outcome.report.failed + outcome.report.skipped =
    names.length
  become : List.Forall₂ (g.Becomes input store)
    (outcome.report.files.filter fun f => f.status.isGenerated) components
  named : outcome.report.identifiers = components.map Component.identifier
  different : outcome.report.identifiers.Nodup
  exported : Component.exportedNames components = outcome.report.identifiers.map Identifier.text
  artifact : ∃ line, outcome.artifact =
      String.join ((g.options.format.prelude?.toList ++ components.map Component.source).map
        (· ++ "\n\n")) ++ line ++ "\n" ∧
    '\n' ∉ line.toList ∧
    Component.exported? line = some (outcome.report.identifiers.map Identifier.text)

/-- A run that is not stopped accounts for the listing of its directory. -/
theorem report_accounts_for_listing {outcome : Outcome}
    (h : (g.run input output clock store).result = .ok outcome) :
    ∃ excludes names components, g.AccountsFor input store excludes names components outcome := by
  obtain ⟨excludes, names, compiled, listed, whole, ns, rfl⟩ := run_ok h
  set d := discover input names excludes with hd
  set b := g.batchOf store d
  have nodup : (b.components.map Component.identifier).Nodup := Batch.nodup_components ..
  -- every source has one result, at its own place
  have sources : b.results.map Prod.fst = d.sources := sources_batchOf whole
  have order : (b.report ns).files.map FileResult.fileName =
      names.filter (fun name => (skipReason? excludes name).isSome) ++
        names.filter (fun name => (skipReason? excludes name).isNone) := by
    rw [← (map_fileName_discover input names excludes).1,
      ← (map_fileName_discover input names excludes).2, ← hd, ← sources]
    simp [Batch.report, reportOf, b, batchOf, Batch.ofContents, Function.comp_def]
  have once : ((b.report ns).files.map FileResult.fileName).Perm names := by
    rw [order]
    simpa [Option.not_isSome] using
      List.filter_append_perm (fun name => (skipReason? excludes name).isSome) names
  have become : List.Forall₂ (g.Becomes input store)
      ((b.report ns).files.filter fun f => f.status.isGenerated) b.components := by
    refine (b.generated_components ns).imp ?_
    rintro f c ⟨status, source, done, named⟩
    obtain ⟨text, doc, readable, read, rendered, mem⟩ := exists_of_mem_results done
    refine ⟨status, text, doc, ?_, read, rendered⟩
    rw [named, ← (mem_sources mem).2, readable]
  have filled : ∀ c ∈ b.components, c.source ≠ "" := by
    intro c mem
    obtain ⟨⟨source, result⟩, done, made⟩ := List.mem_filterMap.mp mem
    obtain rfl : result = .ok c := by cases result <;> simp_all [Except.toOption]
    obtain ⟨text, doc, -, -, rendered, -⟩ := exists_of_mem_results done
    rw [rendered]
    exact Component.source_render_ne_empty _ _ _ _
  have texts : (b.report ns).identifiers.map Identifier.text =
      b.components.map fun c => c.identifier.text := by
    rw [b.identifiers_report, List.map_map]
    rfl
  refine ⟨excludes, names, b.components, compiled, listed, order, once, ?reasons, ?counts, become,
    b.identifiers_report ns, ?different, ?exported, ?artifact⟩
  case reasons =>
    intro f mem
    rcases List.mem_append.mp mem with mem | mem
    · obtain ⟨entry, left, rfl⟩ := List.mem_map.mp mem
      have left : entry ∈ d.skipped := left
      simp [ReportedAs, mem_skipped left]
    · obtain ⟨⟨source, result⟩, done, rfl⟩ := List.mem_map.mp mem
      have kept : source ∈ d.sources := sources ▸ List.mem_map_of_mem done
      rw [ReportedAs, (mem_sources kept).1]
      cases result <;> rfl
  case counts =>
    rw [Report.processed_add_failed_add_skipped, ← once.length_eq, List.length_map]
  case different =>
    rw [b.identifiers_report]
    exact nodup
  case exported => rw [Component.exportedNames_of_nodup nodup, texts]
  case artifact =>
    rw [texts]
    exact Component.aggregate_of_nodup filled nodup g.options.format

/-- A directory with two icons, a file of another kind and a file that holds no icon:
the module in full, and what it accounts for. -/
theorem report_accounts_for_mixed_listing :
    let store : MemoryStore := {
      files := [([.name "in", .name "a.svg"], "<svg title=\"Home\"/>"),
        ([.name "in", .name "notes.txt"], "x"), ([.name "in", .name "page.svg"], "<html/>"),
        ([.name "in", .name "z.svg"], "<svg title=\"Bell\"><path/></svg>")]
      directories := [[.name "in"]] }
    let component (name inner : String) : String :=
      "function " ++ name ++ "(\x7b height = \"24px\", width = \"24px\", className, " ++
        "color = \"currentColor\", ...rest \x7d) \x7b\n  return (\n" ++
        "    <svg width=\x7bwidth\x7d height=\x7bheight\x7d className=\x7bclassName\x7d " ++
        "\x7b...rest\x7d>\n      <g fill=\x7bcolor\x7d>" ++ inner ++ "</g>\n    </svg>\n  );\n\x7d"
    let clock : Clock := fun _ => 0
    ∃ outcome, (({} : Generation).run ⟨"in"⟩ ⟨"out"⟩ clock store).result = .ok outcome ∧
      outcome.report.files.map FileResult.fileName = ["notes.txt", "a.svg", "page.svg", "z.svg"] ∧
      outcome.report.identifiers.map Identifier.text = ["Home", "Bell"] ∧
      outcome.artifact = component "Home" "" ++ "\n\n" ++ component "Bell" "<path/>" ++
        "\n\nexport \x7b Home, Bell \x7d;\n" ∧
      ∃ excludes names components,
        AccountsFor {} ⟨"in"⟩ store excludes names components outcome := by
  intro store component clock
  have runs : ((({} : Generation).run ⟨"in"⟩ ⟨"out"⟩ clock store).result.toOption.map fun o =>
      (o.report.files.map FileResult.fileName, o.report.identifiers.map Identifier.text,
        o.artifact)) =
      some (["notes.txt", "a.svg", "page.svg", "z.svg"], ["Home", "Bell"],
        component "Home" "" ++ "\n\n" ++ component "Bell" "<path/>" ++
          "\n\nexport \x7b Home, Bell \x7d;\n") := by
    decide +kernel
  cases result : (({} : Generation).run ⟨"in"⟩ ⟨"out"⟩ clock store).result with
  | error e => simp [result, Except.toOption] at runs
  | ok outcome =>
    rw [result] at runs
    simp only [Except.toOption, Option.map_some, Option.some.injEq, Prod.mk.injEq] at runs
    obtain ⟨files, identifiers, artifact⟩ := runs
    exact ⟨outcome, rfl, files, identifiers, artifact, report_accounts_for_listing result⟩

end Generation

end IconForge
