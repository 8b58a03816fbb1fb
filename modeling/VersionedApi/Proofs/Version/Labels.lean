import VersionedApi.StaticRoutes
import VersionedApi.Proofs.Identifier.Forms
import Mathlib

/-!
# Labels in paths

The label of a version is the first segment of every path under its prefix, provided that what follows
starts with a slash or is empty. Labels of different numbers differ, so such paths of different versions
differ as well; the static routes of a list of versions are all of this form.

Main results:

- `Version.label_inj`: the number of a version is read off its label;
- `Route.firstSegment_prefixed`: the first segment under a prefix;
- `StaticRoutes.nodup_paths`: no static route is served at the path of another one.
-/

namespace VersionedApi

/-! ## Labels -/

namespace Version

/-- Labels of different versions differ. -/
theorem label_inj {v w : Version} : v.label = w.label ↔ v.number = w.number := by
  constructor
  · intro h
    have hrepr : "v" ++ v.number.repr = "v" ++ w.number.repr := h
    exact Int.repr_injective ((String.append_right_inj "v").mp hrepr)
  · intro h
    simp [label, h]

/-- The text of a number holds no slash. -/
theorem slash_notMem_repr (n : Int) : '/' ∉ n.repr.toList := by
  intro hmem
  rcases Identifier.isDigit_or_sign_of_mem_repr hmem with hdigit | hsign
  · cases hdigit
  · cases hsign

/-- A label is the letter of versions with a text that holds no slash. -/
theorem toList_label (v : Version) : v.label.toList = 'v' :: v.number.repr.toList := by
  have hlabel : v.label = "v" ++ v.number.repr := rfl
  rw [hlabel, String.toList_append]
  rfl

/-- A label holds no slash. -/
theorem slash_notMem_label (v : Version) : '/' ∉ v.label.toList := by
  rw [toList_label, List.mem_cons, not_or]
  exact ⟨by decide, slash_notMem_repr v.number⟩

end Version

/-! ## First segments -/

namespace Route

/-- What stands between the slash in front of a path and the next one. -/
def firstSegment (path : String) : List Char :=
  (path.toList.drop 1).takeWhile fun c => c != '/'

/-- Whether a path is empty or starts with a slash. -/
def isRooted (path : String) : Bool :=
  path.toList.head?.all fun c => c == '/'

/-- The first segment under the prefix of a version is its label. -/
theorem firstSegment_prefixed (v : Version) {path : String} (h : isRooted path = true) :
    firstSegment ("/" ++ v.label ++ path) = v.label.toList := by
  have hlabel : ∀ c ∈ v.label.toList, (c != '/') = true := by
    intro c hc
    exact bne_iff_ne.mpr fun heq => v.slash_notMem_label (heq ▸ hc)
  have hpath : path.toList.takeWhile (fun c => c != '/') = [] := by
    unfold isRooted at h
    cases hchars : path.toList with
    | nil => rfl
    | cons c rest => simp_all
  have hchars : ("/" ++ v.label ++ path).toList.drop 1 = v.label.toList ++ path.toList := by
    simp
  rw [firstSegment, hchars, List.takeWhile_append_of_pos hlabel, hpath, List.append_nil]

/-- Under the prefixes of versions, rooted paths are equal only for one number. -/
theorem number_eq_of_prefixed_eq {v w : Version} {path other : String}
    (hpath : isRooted path = true) (hother : isRooted other = true)
    (h : "/" ++ v.label ++ path = "/" ++ w.label ++ other) : v.number = w.number := by
  have hsegment := congrArg firstSegment h
  rw [firstSegment_prefixed v hpath, firstSegment_prefixed w hother] at hsegment
  exact Version.label_inj.mp (String.toList_inj.mp hsegment)

end Route

/-! ## Static routes -/

namespace StaticRoutes

/-- The static definitions and routes of versions in ascending order. -/
def ofAscending (versions : List Version) (latest : Version) (docsPath : String) : StaticRoutes :=
  ⟨sharedDefinitions docsPath ++ versions.flatMap (versionDefinitions docsPath),
    sharedRoutes latest ++ versions.flatMap versionRoutes⟩

/-- Versions that ascend already are served in their own order. -/
theorem ofVersions_of_ascending {versions : List Version} {latest : Version}
    (h : versions.Pairwise fun v w => v.number ≤ w.number)
    (hlast : versions.getLast? = some latest) (docsPath : String) :
    ofVersions versions docsPath = .ok (ofAscending versions latest docsPath) := by
  have hsorted : Version.sorted versions = versions :=
    List.mergeSort_of_pairwise (h.imp fun hle => decide_eq_true hle)
  simp [ofVersions, hsorted, hlast, ofAscending]

/-- What static routes of a version add to its prefix. -/
def suffixes : List String :=
  ["", "/", "/docs", "/openapi.yaml"]

/-- The paths of the static routes without prefix. -/
theorem map_path_sharedRoutes (latest : Version) :
    (sharedRoutes latest).map (·.path) = ["/", "/docs", "/openapi.yaml"] :=
  rfl

/-- The paths of the static routes of a version. -/
theorem map_path_versionRoutes (v : Version) :
    (versionRoutes v).map (·.path) = suffixes.map fun suffix => "/" ++ v.label ++ suffix := by
  simp [versionRoutes, suffixes, reading]

/-- Static definitions and routes are shared ones, with the routes of the latest version, and those of each
version. -/
theorem ofVersions_eq_ok {versions : List Version} {docsPath : String} {s : StaticRoutes}
    (h : ofVersions versions docsPath = .ok s) :
    ∃ latest ∈ Version.sorted versions, s =
      ⟨sharedDefinitions docsPath ++ (Version.sorted versions).flatMap (versionDefinitions docsPath),
        sharedRoutes latest ++ (Version.sorted versions).flatMap versionRoutes⟩ := by
  unfold ofVersions at h
  dsimp only at h
  split at h <;> rename_i hlast
  · cases h
  · exact ⟨_, List.mem_of_getLast? hlast, (Except.ok.inj h).symm⟩

/-- No static route is served at the path of another one. -/
theorem nodup_paths {versions : List Version} {docsPath : String} {s : StaticRoutes}
    (h : ofVersions versions docsPath = .ok s)
    (hnumbers : versions.Pairwise fun v w => v.number ≠ w.number) :
    (s.routes.map (·.path)).Nodup := by
  have hrooted : ∀ suffix ∈ suffixes, Route.isRooted suffix = true := by decide
  have hsorted : (Version.sorted versions).Pairwise fun v w => v.number ≠ w.number :=
    ((Version.sorted_perm versions).pairwise_iff fun {v w} hne => hne.symm).mpr hnumbers
  rcases ofVersions_eq_ok h with ⟨latest, -, rfl⟩
  rw [List.map_append, List.map_flatMap, List.nodup_append']
  refine ⟨?_, ?_, ?_⟩
  · rw [map_path_sharedRoutes]
    decide
  · rw [List.nodup_flatMap]
    refine ⟨?_, ?_⟩
    · intro v _
      rw [map_path_versionRoutes]
      have hdistinct : suffixes.Nodup := by decide
      exact hdistinct.map fun a b hab => (String.append_right_inj _).mp hab
    · refine hsorted.imp fun {v w} hne => ?_
      intro path hv hw
      simp only [map_path_versionRoutes] at hv hw
      rcases List.mem_map.mp hv with ⟨suffix, hsuffix, rfl⟩
      rcases List.mem_map.mp hw with ⟨other, hother, heq⟩
      exact hne (Route.number_eq_of_prefixed_eq (hrooted suffix hsuffix) (hrooted other hother)
        heq.symm)
  · intro path hshared hversion
    rcases List.mem_flatMap.mp hversion with ⟨v, -, hv⟩
    rw [map_path_versionRoutes] at hv
    rcases List.mem_map.mp hv with ⟨suffix, hsuffix, rfl⟩
    have hsegment := congrArg List.head? (Route.firstSegment_prefixed v (hrooted suffix hsuffix))
    rw [Version.toList_label] at hsegment
    have hother : ∀ path ∈ (sharedRoutes latest).map (·.path),
        (Route.firstSegment path).head? ≠ some 'v' := by
      rw [map_path_sharedRoutes]
      decide
    exact hother _ hshared hsegment

end StaticRoutes
end VersionedApi
