import BuildLayout.Text.Json
import BuildLayout.Variant.Resolver

/-! # Reports

    A report gathers what users want to know about one variant: its names and the places of
    what is built from it. -/

namespace BuildLayout

/-- The names and places of one variant. -/
structure Report where
  fullName : String
  baseName : String
  dirName : String
  outputFileName : String
  packages : Location
  /-- Absent for a component without a manifest. -/
  manifests : Option Location
  buildConfigSources : Location
  coverageReports : Location
  deriving DecidableEq, Repr

/-- The report on a variant of a project with the given start of package file names. -/
def Resolver.report (r : Resolver) (archives : String) : Except VariantError Report := do
  let sources ← r.tree.buildConfigSources
  let coverage ← r.tree.coverageReports
  return {
    fullName := r.variantName
    baseName := r.variantBaseName
    dirName := r.dirName
    outputFileName := r.outputFileName archives r.variantBaseName
    packages := r.packages
    manifests := r.manifests.toOption.map Directory.location
    buildConfigSources := sources.location
    coverageReports := coverage.location }

/-- The lines of a report; the one on manifests is left out where there are none. -/
def Report.lines (r : Report) : List String :=
  [r.fullName,
   "  base name:      " ++ r.baseName,
   "  directory:      " ++ r.dirName,
   "  output file:    " ++ r.outputFileName,
   "  apk location:   " ++ r.packages.text] ++
  (r.manifests.map fun l => "  manifests:      " ++ l.text).toList ++
  ["  build config:   " ++ r.buildConfigSources.text,
   "  coverage:       " ++ r.coverageReports.text]

/-- The report as data. -/
def Report.json (r : Report) : Text.JsonValue :=
  .object [("full_name", .text r.fullName), ("base_name", .text r.baseName),
    ("dir_name", .text r.dirName), ("output_file_name", .text r.outputFileName),
    ("apk_location", .text r.packages.text),
    ("manifest_output_directory", (r.manifests.map fun l => .text l.text).getD .null),
    ("build_config_source_output_dir", .text r.buildConfigSources.text),
    ("coverage_report_dir", .text r.coverageReports.text)]

end BuildLayout
