import VersionedApi.Merge
import VersionedApi.Files.Path

/-!
# Static routes

Beside the interface, each version serves its own description document at `/vN/openapi.yaml` and the
shared viewer at `/vN/docs`. The viewer loads the document next to it, so every redirect to it is
relative. Without a prefix, the viewer shows the document of the newest version.
-/

namespace VersionedApi

namespace StaticRoutes

/-- The name of the asset that holds the viewer. -/
def viewerAsset : String := "DOCS_HTML"

/-- The file of the viewer. -/
def viewerFile : String := "docs.html"

/-- A route that reads a static definition. -/
def reading (path definition : String) : StaticBinding :=
  ⟨.get, path, definition⟩

/-- The definitions that all versions share. -/
def sharedDefinitions (docsPath : String) : List Definition :=
  [⟨viewerAsset, .staticAsset (joinTexts docsPath viewerFile)⟩,
    ⟨"docs", .staticHtml viewerAsset⟩,
    ⟨"to_docs", .redirect "docs"⟩]

/-- The name of the asset that holds the document of a version. -/
def documentAsset (v : Version) : String :=
  s!"DOCS_OPENAPI_V{v.number}"

/-- The definitions of one version. -/
def versionDefinitions (docsPath : String) (v : Version) : List Definition :=
  [⟨documentAsset v, .staticAsset (joinTexts docsPath v.specFile)⟩,
    ⟨s!"openapi_{v.label}", .staticText (documentAsset v)⟩,
    ⟨s!"to_{v.label}_docs", .redirect s!"{v.label}/docs"⟩]

/-- The routes without a prefix. -/
def sharedRoutes (latest : Version) : List StaticBinding :=
  [reading "/" "to_docs", reading "/docs" "docs",
    reading "/openapi.yaml" s!"openapi_{latest.label}"]

/-- The routes of one version. -/
def versionRoutes (v : Version) : List StaticBinding :=
  let path := "/" ++ v.label
  [reading path s!"to_{v.label}_docs", reading (path ++ "/") "to_docs",
    reading (path ++ "/docs") "docs", reading (path ++ "/openapi.yaml") s!"openapi_{v.label}"]

/-- The static definitions and routes of versions in any order. -/
def ofVersions (versions : List Version) (docsPath : String) : Except Failure StaticRoutes :=
  let sorted := Version.sorted versions
  match sorted.getLast? with
  | none => .error (.misuse .noVersions)
  | some latest =>
      .ok ⟨sharedDefinitions docsPath ++ sorted.flatMap (versionDefinitions docsPath),
        sharedRoutes latest ++ sorted.flatMap versionRoutes⟩

end StaticRoutes

end VersionedApi
