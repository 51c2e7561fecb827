import ReadLater.Config.Basic
import ReadLater.Json.Members
import ReadLater.Toml.Document

/-!
# Configuration files

A configuration is a TOML document. Unknown keys are passed over, and a file that cannot be
understood throughout stands for the default configuration.
-/

namespace ReadLater

namespace GeneralConfig

def ofJson? (json : Json) : Option GeneralConfig := do
  let [logLevel, cacheDir] ← json.fields? ["log_level", "cache_dir"] | none
  return {
    logLevel := ← Json.given? Json.text? "warn" logLevel
    cacheDir := ← Json.given? (Json.orNull? Json.text?) none cacheDir }

end GeneralConfig

namespace SearchConfig

def ofJson? (json : Json) : Option SearchConfig := do
  let [defaultPageSize, maxPageSize, defaultSort, sortOrder, weekStartsOn] ←
    json.fields? ["default_page_size", "max_page_size", "default_sort", "sort_order",
      "week_starts_on"] | none
  let default : SearchConfig := {}
  return {
    defaultPageSize := ← Json.given? Json.size? default.defaultPageSize defaultPageSize
    maxPageSize := ← Json.given? Json.size? default.maxPageSize maxPageSize
    defaultSort := ← Json.given? Json.text? default.defaultSort defaultSort
    sortOrder := ← Json.given? Json.text? default.sortOrder sortOrder
    weekStartsOn := ← Json.given? Json.text? default.weekStartsOn weekStartsOn }

end SearchConfig

namespace Config

/-- A list without its elements after the first `n`. -/
def shortened (n : Nat) : Json → Json
  | .array elements => .array (elements.take n)
  | json => json

/-- The tables of a configuration may also be given as lists of their values. -/
def ofJson? (json : Json) : Option Config := do
  let [general, search] ← json.fields? ["general", "search"] | none
  return {
    general := ← Json.given? (fun j => GeneralConfig.ofJson? (shortened 2 j)) {} general
    search := ← Json.given? (fun j => SearchConfig.ofJson? (shortened 5 j)) {} search }

/-- The configuration in a file with a text. -/
def ofFile (text : String) : Config :=
  match Toml.parse text with
  | none => {}
  | some entries => (ofJson? (Json.object (Toml.entriesJson entries))).getD {}

end Config

end ReadLater
