import VersionedApi.Description.Discovery
import VersionedApi.Description.Loading
import VersionedApi.Settings
import VersionedApi.StaticRoutes
import VersionedApi.Version.Build

/-!
# Generation of a model

The versions found at a location are built one by one, each on its own, and merged in ascending order.
All versions are built before the first failure among them ends the run.

Main definitions: `SourceAccess.buildVersions` and `SourceAccess.buildApi`.
-/

namespace VersionedApi.SourceAccess

variable {m : Type → Type} [Monad m]

/-- The note of a description that was loaded. -/
def loadedNote (name : String) (version : Nat) (format : String) : Diagnostic :=
  .debug s!"Loaded {name} as v{version} (OpenAPI {format})"

/-- Loads a description and builds its version. -/
def buildVersion (sources : SourceAccess m) (reserved : List String) (source : VersionSource) :
    Stage m Version := do
  let name := source.path.name
  let root ← Stage.ofExcept (← Stage.perform (sources.load source.version source.path.text))
  let format ← Stage.ofExcept (root.formatVersion (some name))
  Stage.note (loadedNote name source.version format)
  Stage.about name (Stage.ofLogged (Version.build root source.version name (some name) reserved))

/-- Builds the versions found at a location, oldest first. The first one that fails ends the stage. -/
def buildVersions (sources : SourceAccess m) (location : String) (settings : Settings) :
    Stage m (List Version) := do
  let found ← VersionSource.discover sources.files location
  Stage.note (.progress s!"Building {found.length} version(s) from {location}")
  let reserved := Identifier.keywords ++ settings.reservedWords
  let outcomes ← found.mapM fun source => Stage.attempt (sources.buildVersion reserved source)
  Stage.ofExcept (outcomes.mapM id)

/-- The note of a model that was built. -/
def modelNote (api : Api) : Diagnostic :=
  .debug (s!"Model: {api.definitions.length} definitions, {api.operations.length} operations, " ++
    s!"{api.routes.length} routes")

/-- The model of the versions found at a location, with the static routes. -/
def buildApi (sources : SourceAccess m) (location : String) (settings : Settings) : Stage m Api := do
  let versions ← sources.buildVersions location settings
  let statics ← Stage.ofExcept (StaticRoutes.ofVersions versions settings.docsPath)
  let api ← Stage.ofLogged (Api.ofVersions versions (some statics))
  Stage.note (modelNote api)
  return api

end VersionedApi.SourceAccess
