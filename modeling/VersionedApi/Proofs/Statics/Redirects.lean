import VersionedApi.Proofs.Merge.Statics
import VersionedApi.Proofs.Statics.Url

/-!
# Redirects to the viewer

The static routes of versions lead every visitor to a viewer that stands next to the document it shows.
Redirects are relative, so one and the same redirect serves several routes.

Main results:

- `Url.resolve_beside` and `Url.resolve_at_label`: where the targets of redirects lead;
- `StaticRoutes.ServesPage` and `StaticRoutes.ServesText`: what a path is bound to;
- `StaticRoutes.assetsFirst_ofAscending`: pages and texts come behind their assets;
- `StaticRoutes.redirects_of_ofVersions`: where redirects lead, and what is shown there.
-/

namespace VersionedApi

/-! ## References under labels -/

namespace Version

/-- A written number consists of digits, apart from its sign. -/
theorem mem_repr {n : Int} {c : Char} (h : c ∈ n.repr.toList) : c = '-' ∨ c.isDigit = true := by
  have hdigits : ∀ k : Nat, c ∈ Nat.toDigits 10 k → c.isDigit = true := fun k hc =>
    Nat.isDigit_of_mem_toDigits (by decide) (by decide) hc
  rw [Int.repr_eq_if] at h
  split at h
  · exact .inr (hdigits n.toNat (by simpa using h))
  · have hchars : c = '-' ∨ c ∈ Nat.toDigits 10 (-n).toNat := by simpa using h
    exact hchars.imp_right (hdigits _)

/-- A label is a name in paths. -/
theorem isName_label (v : Version) : Url.isName v.label.toList = true := by
  have hchars : ∀ c ∈ v.label.toList, (!Url.delimiters.contains c) = true := by
    have hdelimiters : ∀ c ∈ Url.delimiters, c ≠ 'v' ∧ c ≠ '-' ∧ c.isDigit = false := by
      intro c hc
      simp only [Url.delimiters, List.mem_cons, List.not_mem_nil, or_false] at hc
      rcases hc with rfl | rfl | rfl | rfl <;> decide
    intro c hc
    rw [Bool.not_eq_true', List.contains_eq_mem, decide_eq_false_iff_not]
    intro hmem
    rcases hdelimiters c hmem with ⟨hv, hsign, hdigit⟩
    rw [toList_label, List.mem_cons] at hc
    rcases hc with rfl | hc
    · exact hv rfl
    · rcases mem_repr hc with rfl | hc
      · exact hsign rfl
      · rw [hdigit] at hc
        cases hc
  have hdots : Url.isDots v.label.toList = false := by
    rw [toList_label]
    simp [Url.isDots]
  rw [Url.isName, List.all_eq_true.mpr hchars, hdots]
  rfl

end Version

namespace Url

/-- The same address at another path. -/
def atPath (base : Url) (path : String) : Url :=
  { base with path := path, query := none, fragment := none }

/-- Whether a path consists of names. -/
def HasNames (path : String) : Prop :=
  ∃ segments, (∀ s ∈ segments, isName s = true) ∧ path = String.ofList (slashed segments)

theorem hasNames_empty : HasNames "" :=
  ⟨[], by simp, rfl⟩

/-- The path of a label consists of it. -/
theorem ofList_slashed_label (v : Version) : String.ofList (slashed [v.label.toList]) = "/" ++ v.label := by
  rw [← String.toList_inj]
  simp [slashed]

theorem hasNames_label (v : Version) : HasNames ("/" ++ v.label) :=
  ⟨[v.label.toList], by simp [v.isName_label], (ofList_slashed_label v).symm⟩

/-- A name leads next to the page that it stands on. -/
theorem resolve_beside {base : Url} {above last name : String} (habove : HasNames above)
    (hlast : '/' ∉ last.toList) (hne : name.toList ≠ []) (hname : isName name.toList = true)
    (hbase : base.path = above ++ "/" ++ last) :
    base.resolve (ofText name) = base.atPath (above ++ "/" ++ name) := by
  rcases habove with ⟨segments, hsegments, rfl⟩
  have hpath : ∀ text : String, String.ofList (slashed segments) ++ "/" ++ text =
      String.ofList (slashed (segments ++ [text.toList])) := by
    intro text
    rw [← String.toList_inj]
    simp [slashed]
  have hresolved := resolve_of_names (hbase.trans (hpath last)) hlast hne hsegments
    (List.forall_mem_singleton.mpr hname)
  rw [hpath name, atPath, ← hresolved]
  simp [slashed]

/-- A label with a name behind it leads below the label, on the page of the label itself. -/
theorem resolve_at_label {base : Url} {v : Version} {name : String} (hname : isName name.toList = true)
    (hbase : base.path = "/" ++ v.label) :
    base.resolve (ofText (v.label ++ "/" ++ name)) = base.atPath ("/" ++ v.label ++ "/" ++ name) := by
  have hbelow : String.ofList (v.label.toList ++ slashed [name.toList]) = v.label ++ "/" ++ name := by
    rw [← String.toList_inj]
    simp [slashed]
  have hpath : String.ofList (slashed ([] ++ v.label.toList :: [name.toList])) =
      "/" ++ v.label ++ "/" ++ name := by
    rw [← String.toList_inj]
    simp [slashed]
  have hne : v.label.toList ≠ [] := by
    rw [Version.toList_label]
    exact List.cons_ne_nil _ _
  have hresolved := resolve_of_names (hbase.trans (ofList_slashed_label v).symm)
    v.slash_notMem_label hne (List.forall_mem_nil _)
    (List.forall_mem_cons.mpr ⟨v.isName_label, List.forall_mem_singleton.mpr hname⟩)
  rw [atPath, ← hbelow, hresolved, hpath]

end Url

/-! ## Static routes -/

namespace StaticRoutes

variable {versions : List Version} {docsPath : String} {s : StaticRoutes}

/-- A page is served at a path: the file of an asset, as a web page. -/
def ServesPage (s : StaticRoutes) (path file : String) : Prop :=
  ∃ definition asset, reading path definition ∈ s.routes ∧
    ⟨definition, .staticHtml asset⟩ ∈ s.definitions ∧ ⟨asset, .staticAsset file⟩ ∈ s.definitions

/-- A text is served at a path: the file of an asset, as it is. -/
def ServesText (s : StaticRoutes) (path file : String) : Prop :=
  ∃ definition asset, reading path definition ∈ s.routes ∧
    ⟨definition, .staticText asset⟩ ∈ s.definitions ∧ ⟨asset, .staticAsset file⟩ ∈ s.definitions

/-- Definitions of pages and texts name an asset that is listed before them. -/
def AssetsFirst (definitions : List Definition) : Prop :=
  ∀ before d behind, definitions = before ++ d :: behind →
    ∀ asset, d.content = .staticText asset ∨ d.content = .staticHtml asset →
      ∃ file, ⟨asset, .staticAsset file⟩ ∈ before

theorem assetsFirst_append {xs ys : List Definition} (hx : AssetsFirst xs) (hy : AssetsFirst ys) :
    AssetsFirst (xs ++ ys) := by
  intro before d behind heq asset hasset
  rcases List.append_eq_append_iff.mp heq with ⟨more, rfl, hmore⟩ | ⟨more, rfl, hmore⟩
  · rcases hy more d behind hmore asset hasset with ⟨file, hfile⟩
    exact ⟨file, List.mem_append_right _ hfile⟩
  · cases more with
    | nil =>
        rcases hy [] d behind (by simpa using hmore.symm) asset hasset with ⟨file, hfile⟩
        cases hfile
    | cons first more =>
        rw [List.cons_append, List.cons.injEq] at hmore
        rcases hmore with ⟨rfl, -⟩
        exact hx before d more rfl asset hasset

/-- An asset, a definition that names it, and a redirect. -/
theorem assetsFirst_block {asset file name other target : String} {served : Content}
    (hserved : served = .staticText asset ∨ served = .staticHtml asset) :
    AssetsFirst [⟨asset, .staticAsset file⟩, ⟨name, served⟩, ⟨other, .redirect target⟩] := by
  intro before d behind heq named hnamed
  match before with
  | [] =>
      cases heq
      simp at hnamed
  | [first] =>
      cases heq
      have hsame : named = asset := by
        rcases hserved with rfl | rfl <;> simpa [eq_comm] using hnamed
      exact ⟨file, hsame ▸ List.mem_singleton_self _⟩
  | [first, second] =>
      cases heq
      simp at hnamed
  | _ :: _ :: _ :: _ =>
      have hlength := congrArg List.length heq
      simp only [List.length_cons, List.length_nil, List.length_append] at hlength
      omega

/-- Pages and texts come behind their assets. -/
theorem assetsFirst_ofAscending (versions : List Version) (latest : Version) (docsPath : String) :
    AssetsFirst (ofAscending versions latest docsPath).definitions := by
  refine assetsFirst_append (assetsFirst_block (.inr rfl)) ?_
  induction versions with
  | nil =>
      intro before d behind heq
      simp at heq
  | cons v rest ih => exact assetsFirst_append (assetsFirst_block (.inl rfl)) ih

/-! ## Where redirects lead -/

/-- A redirect at a path leads to a viewer that stands next to the document of a version, wherever the
paths are served. -/
structure LeadsToViewer (s : StaticRoutes) (docsPath path target : String) (v : Version)
    (above : String) : Prop where
  start : path = above ∨ path = above ++ "/"
  page : s.ServesPage (above ++ "/docs") (joinTexts docsPath viewerFile)
  document : s.ServesText (above ++ "/openapi.yaml") (joinTexts docsPath v.specFile)
  viewer : ∀ base : Url, base.path = path →
    base.resolve (.ofText target) = base.atPath (above ++ "/docs")
  beside : ∀ base : Url, base.path = path →
    (base.resolve (.ofText target)).resolve (.ofText "openapi.yaml") =
      base.atPath (above ++ "/openapi.yaml")

/-- The document stands next to the viewer. -/
theorem resolve_document {base : Url} {above : String} (habove : Url.HasNames above) :
    (base.atPath (above ++ "/docs")).resolve (.ofText "openapi.yaml") =
      base.atPath (above ++ "/openapi.yaml") := by
  have hviewer : (base.atPath (above ++ "/docs")).path = above ++ "/" ++ "docs" := by
    rw [String.append_assoc]
    rfl
  have hdocument : above ++ "/openapi.yaml" = above ++ "/" ++ "openapi.yaml" := by
    rw [String.append_assoc]
    rfl
  rw [hdocument]
  exact Url.resolve_beside habove (by decide) (by decide) (by decide) hviewer

/-- A redirect leads to a viewer if its target does, wherever the paths are served. -/
theorem leadsToViewer_of_target {path target above : String} {v : Version} (habove : Url.HasNames above)
    (hstart : path = above ∨ path = above ++ "/")
    (hpage : s.ServesPage (above ++ "/docs") (joinTexts docsPath viewerFile))
    (hdocument : s.ServesText (above ++ "/openapi.yaml") (joinTexts docsPath v.specFile))
    (htarget : ∀ base : Url, base.path = path →
      base.resolve (.ofText target) = base.atPath (above ++ "/docs")) :
    s.LeadsToViewer docsPath path target v above where
  start := hstart
  page := hpage
  document := hdocument
  viewer := htarget
  beside base hbase := by rw [htarget base hbase, resolve_document habove]

section Ascending

variable {latest v : Version}

/-- The document of a version is served below its label. -/
theorem servesText_of_mem (hv : v ∈ versions) :
    (ofAscending versions latest docsPath).ServesText ("/" ++ v.label ++ "/openapi.yaml")
      (joinTexts docsPath v.specFile) := by
  have hroutes : ∀ r ∈ versionRoutes v, r ∈ (ofAscending versions latest docsPath).routes := fun r hr =>
    List.mem_append_right _ (List.mem_flatMap.mpr ⟨v, hv, hr⟩)
  have hdefinitions : ∀ d ∈ versionDefinitions docsPath v,
      d ∈ (ofAscending versions latest docsPath).definitions := fun d hd =>
    List.mem_append_right _ (List.mem_flatMap.mpr ⟨v, hv, hd⟩)
  refine ⟨s!"openapi_{v.label}", documentAsset v, hroutes _ ?_, hdefinitions _ ?_, hdefinitions _ ?_⟩
  all_goals simp [versionRoutes, versionDefinitions]

/-- The viewer is served below the label of a version. -/
theorem servesPage_of_mem (hv : v ∈ versions) :
    (ofAscending versions latest docsPath).ServesPage ("/" ++ v.label ++ "/docs")
      (joinTexts docsPath viewerFile) := by
  refine ⟨"docs", viewerAsset, ?_, ?_, ?_⟩
  · exact List.mem_append_right _ (List.mem_flatMap.mpr ⟨v, hv, by simp [versionRoutes]⟩)
  · exact List.mem_append_left _ (by simp [sharedDefinitions])
  · exact List.mem_append_left _ (by simp [sharedDefinitions])

/-- Without a prefix, the viewer is served next to the document of the newest version. -/
theorem serves_latest (hlatest : latest ∈ versions) :
    (ofAscending versions latest docsPath).ServesPage "/docs" (joinTexts docsPath viewerFile) ∧
      (ofAscending versions latest docsPath).ServesText "/openapi.yaml"
        (joinTexts docsPath latest.specFile) := by
  have hshared : ∀ d ∈ sharedDefinitions docsPath,
      d ∈ (ofAscending versions latest docsPath).definitions := fun d hd => List.mem_append_left _ hd
  have hown : ∀ d ∈ versionDefinitions docsPath latest,
      d ∈ (ofAscending versions latest docsPath).definitions := fun d hd =>
    List.mem_append_right _ (List.mem_flatMap.mpr ⟨latest, hlatest, hd⟩)
  refine ⟨⟨"docs", viewerAsset, ?_, hshared _ ?_, hshared _ ?_⟩,
    s!"openapi_{latest.label}", documentAsset latest, ?_, hown _ ?_, hown _ ?_⟩
  · exact List.mem_append_left _ (by simp [sharedRoutes])
  · simp [sharedDefinitions]
  · simp [sharedDefinitions]
  · exact List.mem_append_left _ (by simp [sharedRoutes])
  · simp [versionDefinitions]
  · simp [versionDefinitions]

/-- Every route is bound to one of the definitions: to a redirect only at the root, at a label, or behind
the slash of one. -/
theorem bound_of_mem {r : StaticBinding} (hlatest : latest ∈ versions)
    (hr : r ∈ (ofAscending versions latest docsPath).routes) :
    ∃ content, ⟨r.definition, content⟩ ∈ (ofAscending versions latest docsPath).definitions ∧
      ∀ target, content = .redirect target →
        (r.path = "/" ∧ target = "docs") ∨ ∃ v ∈ versions,
          (r.path = "/" ++ v.label ++ "/" ∧ target = "docs") ∨
          (r.path = "/" ++ v.label ∧ target = v.label ++ "/" ++ "docs") := by
  have hshared : ∀ d ∈ sharedDefinitions docsPath,
      d ∈ (ofAscending versions latest docsPath).definitions := fun d hd => List.mem_append_left _ hd
  have hown : ∀ v ∈ versions, ∀ d ∈ versionDefinitions docsPath v,
      d ∈ (ofAscending versions latest docsPath).definitions := fun v hv d hd =>
    List.mem_append_right _ (List.mem_flatMap.mpr ⟨v, hv, hd⟩)
  have htoDocs : (⟨"to_docs", .redirect "docs"⟩ : Definition) ∈
      (ofAscending versions latest docsPath).definitions := hshared _ (by simp [sharedDefinitions])
  have hdocs : (⟨"docs", .staticHtml viewerAsset⟩ : Definition) ∈
      (ofAscending versions latest docsPath).definitions := hshared _ (by simp [sharedDefinitions])
  have htext : ∀ v ∈ versions, (⟨s!"openapi_{v.label}", .staticText (documentAsset v)⟩ : Definition) ∈
      (ofAscending versions latest docsPath).definitions := fun v hv =>
    hown v hv _ (by simp [versionDefinitions])
  rcases List.mem_append.mp hr with hr | hr
  · simp only [sharedRoutes, List.mem_cons, List.not_mem_nil, or_false] at hr
    rcases hr with rfl | rfl | rfl
    · refine ⟨_, htoDocs, fun target htarget => .inl ⟨rfl, ?_⟩⟩
      cases htarget
      rfl
    · exact ⟨_, hdocs, fun target htarget => by cases htarget⟩
    · exact ⟨_, htext latest hlatest, fun target htarget => by cases htarget⟩
  · rcases List.mem_flatMap.mp hr with ⟨v, hv, hr⟩
    simp only [versionRoutes, List.mem_cons, List.not_mem_nil, or_false] at hr
    rcases hr with rfl | rfl | rfl | rfl
    · refine ⟨.redirect s!"{v.label}/docs", hown v hv _ (by simp [versionDefinitions, reading]), ?_⟩
      intro target htarget
      refine .inr ⟨v, hv, .inr ⟨rfl, ?_⟩⟩
      cases htarget
      rw [String.append_assoc]
      rfl
    · refine ⟨_, htoDocs, fun target htarget => .inr ⟨v, hv, .inl ⟨rfl, ?_⟩⟩⟩
      cases htarget
      rfl
    · exact ⟨_, hdocs, fun target htarget => by cases htarget⟩
    · exact ⟨_, htext v hv, fun target htarget => by cases htarget⟩

end Ascending

/-- The static definitions and routes are those of the sorted versions, the last of which is the newest. -/
theorem exists_latest (hversions : versions ≠ []) (docsPath : String) :
    ∃ latest ∈ versions, (∀ w ∈ versions, w.number ≤ latest.number) ∧
      ofVersions versions docsPath = .ok (ofAscending (Version.sorted versions) latest docsPath) := by
  have hmem : ∀ v, v ∈ Version.sorted versions ↔ v ∈ versions := fun v =>
    (Version.sorted_perm versions).mem_iff
  cases hlast : (Version.sorted versions).getLast? with
  | none =>
      have hempty : Version.sorted versions = [] := List.getLast?_eq_none_iff.mp hlast
      exact absurd (List.nil_perm.mp (hempty ▸ Version.sorted_perm versions)) hversions
  | some latest =>
      refine ⟨latest, (hmem latest).mp (List.mem_of_getLast? hlast), fun w hw => ?_, ?_⟩
      · rcases List.getLast?_eq_some_iff.mp hlast with ⟨before, hbefore⟩
        have hascending := Version.pairwise_sorted versions
        rw [hbefore, List.pairwise_append] at hascending
        have hw := (hmem w).mpr hw
        rw [hbefore, List.mem_append, List.mem_singleton] at hw
        rcases hw with hw | rfl
        · exact hascending.2.2 w hw latest (List.mem_singleton_self _)
        · exact Int.le_refl _
      · simp [ofVersions, hlast, ofAscending]

/-- The static routes of versions with different numbers are served at different paths and bound to
definitions with different names; pages and texts come behind their assets. Every redirect leads to a
viewer: below the label of a version, next to the document of that version, or without a prefix, next to
the document of the newest version. -/
theorem redirects_of_ofVersions (hversions : versions ≠ [])
    (hnumbers : versions.Pairwise fun v w => v.number ≠ w.number) (docsPath : String) :
    ∃ s, ofVersions versions docsPath = .ok s ∧
      (s.definitions.map (·.name)).Nodup ∧ (s.routes.map (·.path)).Nodup ∧
      (∀ r ∈ s.routes, r.definition ∈ s.definitions.map (·.name)) ∧ AssetsFirst s.definitions ∧
      ∀ r ∈ s.routes, ∀ target, ⟨r.definition, .redirect target⟩ ∈ s.definitions →
        ∃ v ∈ versions, ∃ above,
          (above = "/" ++ v.label ∨ above = "" ∧ ∀ w ∈ versions, w.number ≤ v.number) ∧
          s.LeadsToViewer docsPath r.path target v above := by
  rcases exists_latest hversions docsPath with ⟨latest, hlatest, hnewest, hok⟩
  have hmem : ∀ v, v ∈ Version.sorted versions ↔ v ∈ versions := fun v =>
    (Version.sorted_perm versions).mem_iff
  have hsorted := (hmem latest).mpr hlatest
  have hnames := nodup_names hok hnumbers
  refine ⟨_, hok, hnames, nodup_paths hok hnumbers, fun r hr => ?_, assetsFirst_ofAscending _ _ _,
    fun r hr target hredirect => ?_⟩
  · rcases bound_of_mem hsorted hr with ⟨content, hcontent, -⟩
    exact List.mem_map_of_mem hcontent
  · rcases bound_of_mem hsorted hr with ⟨content, hcontent, hcases⟩
    have hsame := List.inj_on_of_nodup_map hnames hcontent hredirect rfl
    injection hsame with _ hsame
    rcases hcases target hsame with ⟨hpath, rfl⟩ | ⟨v, hv, ⟨hpath, rfl⟩ | ⟨hpath, rfl⟩⟩
    · rcases serves_latest hsorted with ⟨hpage, hdocument⟩
      refine ⟨latest, hlatest, "", .inr ⟨rfl, hnewest⟩,
        leadsToViewer_of_target Url.hasNames_empty (.inr hpath) hpage hdocument fun base hbase => ?_⟩
      have hroot : base.path = "" ++ "/" ++ "" := hbase.trans hpath
      exact Url.resolve_beside Url.hasNames_empty (by decide) (by decide) (by decide) hroot
    · refine ⟨v, (hmem v).mp hv, "/" ++ v.label, .inl rfl,
        leadsToViewer_of_target (Url.hasNames_label v) (.inr hpath) (servesPage_of_mem hv)
          (servesText_of_mem hv) fun base hbase => ?_⟩
      have hslash : base.path = "/" ++ v.label ++ "/" ++ "" := by rw [hbase, hpath, String.append_empty]
      rw [Url.resolve_beside (Url.hasNames_label v) (by decide) (by decide) (by decide) hslash,
        String.append_assoc]
      rfl
    · refine ⟨v, (hmem v).mp hv, "/" ++ v.label, .inl rfl,
        leadsToViewer_of_target (Url.hasNames_label v) (.inl hpath) (servesPage_of_mem hv)
          (servesText_of_mem hv) fun base hbase => ?_⟩
      rw [Url.resolve_at_label (by decide) (hbase.trans hpath), String.append_assoc]
      rfl

/-- A version without routes, served under its number. -/
def servedVersion (number : Int) : Version :=
  ⟨number, s!"api_v{number}.yaml", s!"api_v{number}.yaml", [], []⟩

/-- With the newer version in front, the redirect at the label of the other one leads next to the document
of that one; without a prefix, the newer document is shown. -/
theorem redirects_of_servedVersions :
    ∃ s, ofVersions [servedVersion 10, servedVersion 2] "static" = .ok s ∧
      (∃ above, s.LeadsToViewer "static" "/v2" "v2/docs" (servedVersion 2) above) ∧
      ∃ above, s.LeadsToViewer "static" "/" "docs" (servedVersion 10) above := by
  have hsorted : Version.sorted [servedVersion 10, servedVersion 2] = [servedVersion 2, servedVersion 10] := by
    simp [Version.sorted, servedVersion, List.mergeSort, List.MergeSort.Internal.splitInTwo]
  have hserved : ofVersions [servedVersion 10, servedVersion 2] "static" =
      .ok (ofAscending [servedVersion 2, servedVersion 10] (servedVersion 10) "static") := by
    simp [ofVersions, hsorted, ofAscending]
  have hnumbers : [servedVersion 10, servedVersion 2].Pairwise fun v w => v.number ≠ w.number := by decide
  have hlabels : "/" ++ (servedVersion 2).label = "/v2" ∧ "/" ++ (servedVersion 10).label = "/v10" := by
    decide
  have htarget : (servedVersion 2).label ++ "/docs" = "v2/docs" := by decide
  rcases redirects_of_ofVersions (List.cons_ne_nil _ _) hnumbers "static" with
    ⟨s, hs, -, -, -, -, hredirects⟩
  cases hserved.symm.trans hs
  refine ⟨_, hserved, ?_, ?_⟩
  · have hroute : reading ("/" ++ (servedVersion 2).label) s!"to_{(servedVersion 2).label}_docs" ∈
        versionRoutes (servedVersion 2) := List.mem_cons_self
    have hdefinition : ⟨s!"to_{(servedVersion 2).label}_docs",
        .redirect s!"{(servedVersion 2).label}/docs"⟩ ∈ versionDefinitions "static" (servedVersion 2) := by
      simp [versionDefinitions]
    rcases hredirects _ (List.mem_append_right _ (List.mem_append_left _ hroute)) _
      (List.mem_append_right _ (List.mem_append_left _ hdefinition)) with ⟨v, hv, above, habove, hleads⟩
    have hstart : above = "/v2" ∨ "/v2" = above ++ "/" := by
      rw [← hlabels.1]
      exact hleads.start.imp_left Eq.symm
    simp only [List.mem_cons, List.not_mem_nil, or_false] at hv
    rcases hv with rfl | rfl
    · rw [hlabels.2] at habove
      rcases habove with rfl | ⟨rfl, -⟩ <;> simp at hstart
    · rw [← hlabels.1, ← htarget]
      exact ⟨above, hleads⟩
  · rcases hredirects (reading "/" "to_docs") List.mem_cons_self "docs"
      (List.mem_append_left _ (by simp [sharedDefinitions, reading])) with ⟨v, hv, above, habove, hleads⟩
    have hstart : above = "/" ∨ "/" = above ++ "/" := hleads.start.imp_left Eq.symm
    simp only [List.mem_cons, List.not_mem_nil, or_false] at hv
    rcases hv with rfl | rfl
    · exact ⟨above, hleads⟩
    · rw [hlabels.1] at habove
      rcases habove with rfl | ⟨rfl, hnewest⟩
      · simp at hstart
      · exact absurd (hnewest (servedVersion 10) (by simp)) (by decide)

end StaticRoutes
end VersionedApi
