import VersionedApi.Inspection
import VersionedApi.Proofs.Inspection.Cells

/-!
# Tables that are read back

A plain table is read back by splitting it into lines and each line at its tabs. It gives back its header and
its rows exactly if no cell has a tab or a line feed. In the tables of a model most cells never have any: they
are put together of names and fixed words. The others are those with paths and ids of operations, with their
documentation, and with the paths of assets and the discriminators of unions.

Main definitions: `Table.rowsOf` and `Table.ReadBack`; `Api.Named`, models whose names fit into cells.

Main results:

- `Table.readBack_plain_iff`: when a plain table is read back;
- `Content.fits_description_iff`, `Operation.fits_row_iff` and `Api.fits_routeRow_iff`: when the rows of a
  model fit;
- `Api.Named.readBack_routeTable_iff`, `Api.Named.readBack_definitionTable_iff` and
  `Api.Named.readBack_operationTable_iff`: the three tables of a model.
-/

namespace VersionedApi

/-! ## Reading tables back -/

namespace Table

/-- The cells of the rows in a text: the text is split into lines, and each line at its tabs. -/
def rowsOf (text : String) : List (List String) :=
  (text.toList.splitOn '\n').dropLast.map fun line => (line.splitOn '\t').map String.ofList

/-- What a list is split into has no separator, and nothing that is not in the list. -/
theorem of_mem_splitOn {a c : Char} {s piece : List Char} (hpiece : piece ∈ s.splitOn a) (hc : c ∈ piece) :
    c ≠ a ∧ c ∈ s := by
  induction s generalizing piece with
  | nil =>
      rw [List.splitOn_nil, List.mem_singleton] at hpiece
      rw [hpiece] at hc
      cases hc
  | cons d rest ih =>
      rw [List.splitOn_cons_eq_if_modifyHead] at hpiece
      split at hpiece
      · rcases List.mem_cons.mp hpiece with rfl | hpiece
        · cases hc
        · exact (ih hpiece hc).imp_right (List.mem_cons_of_mem d)
      next hne =>
        cases hpieces : rest.splitOn a with
        | nil => exact absurd hpieces (List.splitOn_ne_nil a rest)
        | cons first others =>
            rw [hpieces, List.modifyHead_cons] at hpiece
            rw [hpieces] at ih
            rcases List.mem_cons.mp hpiece with rfl | hpiece
            · rcases List.mem_cons.mp hc with rfl | hc
              · exact ⟨by simpa using hne, List.mem_cons_self⟩
              · exact (ih List.mem_cons_self hc).imp_right (List.mem_cons_of_mem d)
            · exact (ih (List.mem_cons_of_mem first hpiece) hc).imp_right (List.mem_cons_of_mem d)

/-- What is read fits into cells. -/
theorem fits_of_mem_rowsOf {text : String} {row : List String} (hrow : row ∈ rowsOf text) {cell : String}
    (hcell : cell ∈ row) : Fits cell := by
  obtain ⟨line, hline, rfl⟩ := List.mem_map.mp hrow
  obtain ⟨piece, hpiece, rfl⟩ := List.mem_map.mp hcell
  refine fits_ofList.mpr fun c hc => ?_
  obtain ⟨htab, hmem⟩ := of_mem_splitOn hpiece hc
  have hfeed := (of_mem_splitOn (List.mem_of_mem_dropLast hline) hmem).1
  simp [isSeparator, htab, hfeed]

/-- A line ends at its line feed. -/
theorem splitOn_line {line : List Char} (h : '\n' ∉ line) (rest : List Char) :
    (line ++ '\n' :: rest).splitOn '\n' = line :: rest.splitOn '\n' := by
  induction line with
  | nil => rw [List.nil_append, List.splitOn_cons_eq_if_modifyHead, if_pos BEq.rfl]
  | cons c line ih =>
      obtain ⟨hc, hline⟩ := not_or.mp (mt List.mem_cons.mpr h)
      rw [List.cons_append, List.splitOn_cons_eq_if_modifyHead, if_neg (by simpa using Ne.symm hc), ih hline,
        List.modifyHead_cons]

/-- The characters of the cells of a row, with tabs between. -/
def lineChars (row : List String) : List Char :=
  ['\t'].intercalate (row.map String.toList)

theorem toList_line (row : List String) : (line row).toList = lineChars row ++ ['\n'] := by
  rw [line, String.toList_append, String.toList_intercalate]
  rfl

/-- Cells without line feeds stand in one line. -/
theorem notMem_lineChars {row : List String} (h : ∀ cell ∈ row, Fits cell) : '\n' ∉ lineChars row := by
  have hcell {cell : String} (hfits : Fits cell) : '\n' ∉ cell.toList := fun hmem =>
    Bool.noConfusion (hfits '\n' hmem)
  induction row with
  | nil => exact List.not_mem_nil
  | cons cell rest ih =>
      obtain ⟨hfirst, hrest⟩ := List.forall_mem_cons.mp h
      cases rest with
      | nil => simpa [lineChars] using hcell hfirst
      | cons next others =>
          rw [lineChars, List.map_cons, List.map_cons, List.intercalate_cons_cons, List.mem_append, List.mem_append]
          rintro ((hmem | hmem) | hmem)
          · exact hcell hfirst hmem
          · exact absurd (List.mem_singleton.mp hmem) (by decide)
          · exact ih hrest hmem

/-- Cells without tabs are told apart by the tabs between them. -/
theorem splitOn_lineChars {row : List String} (hne : row ≠ []) (h : ∀ cell ∈ row, Fits cell) :
    ((lineChars row).splitOn '\t').map String.ofList = row := by
  have hcells : ∀ piece ∈ row.map String.toList, '\t' ∉ piece := by
    intro piece hpiece hmem
    obtain ⟨cell, hcell, rfl⟩ := List.mem_map.mp hpiece
    cases h cell hcell '\t' hmem
  rw [lineChars, List.splitOn_intercalate '\t' hcells (by simpa using hne), List.map_map]
  simp

/-- Lines that have no line feeds of their own are told apart by those behind them. -/
theorem splitOn_lines {lines : List (List Char)} (h : ∀ line ∈ lines, '\n' ∉ line) :
    (lines.flatMap (· ++ ['\n'])).splitOn '\n' = lines ++ [[]] := by
  induction lines with
  | nil => rfl
  | cons line rest ih =>
      obtain ⟨hline, hrest⟩ := List.forall_mem_cons.mp h
      rw [List.flatMap_cons, List.append_assoc, List.singleton_append, splitOn_line hline, ih hrest]
      rfl

/-- Cells that fit are read back, in rows that have any. -/
theorem rowsOf_join {rows : List (List String)} (hne : ∀ row ∈ rows, row ≠ [])
    (h : ∀ row ∈ rows, ∀ cell ∈ row, Fits cell) : rowsOf (String.join (rows.map line)) = rows := by
  have hlines : ∀ chars ∈ rows.map lineChars, '\n' ∉ chars := by
    intro chars hchars
    obtain ⟨row, hrow, rfl⟩ := List.mem_map.mp hchars
    exact notMem_lineChars (h row hrow)
  have htext : (String.join (rows.map line)).toList = (rows.map lineChars).flatMap (· ++ ['\n']) := by
    rw [String.toList_join, List.flatMap_map, List.flatMap_map]
    exact List.flatMap_congr fun row _ => toList_line row
  rw [rowsOf, htext, splitOn_lines hlines, List.dropLast_concat, List.map_map]
  exact (List.map_congr_left fun row hrow => splitOn_lineChars (hne row hrow) (h row hrow)).trans (List.map_id _)

/-- Rows that have cells are read back exactly if all cells fit. -/
theorem rowsOf_join_iff {rows : List (List String)} (hne : ∀ row ∈ rows, row ≠ []) :
    rowsOf (String.join (rows.map line)) = rows ↔ ∀ row ∈ rows, ∀ cell ∈ row, Fits cell := by
  constructor
  · intro h row hrow cell hcell
    rw [← h] at hrow
    exact fits_of_mem_rowsOf hrow hcell
  · exact rowsOf_join hne

/-- A text gives back a table: its header and its rows, and nothing else. -/
def ReadBack (t : Table) (text : String) : Prop :=
  rowsOf text = t.headers :: t.rows

instance (t : Table) (text : String) : Decidable (t.ReadBack text) :=
  inferInstanceAs (Decidable (rowsOf text = t.headers :: t.rows))

/-- A plain table whose header fits gives itself back exactly if all its rows fit. -/
theorem readBack_plain_iff {headers : List String} {rows : List (List String)}
    (hheaders : headers ≠ [] ∧ ∀ cell ∈ headers, Fits cell) (hne : ∀ row ∈ rows, row ≠ []) :
    ReadBack ⟨headers, rows⟩ (plain ⟨headers, rows⟩) ↔ ∀ row ∈ rows, ∀ cell ∈ row, Fits cell := by
  rw [ReadBack, plain, rowsOf_join_iff (List.forall_mem_cons.mpr ⟨hheaders.1, hne⟩), List.forall_mem_cons,
    and_iff_right hheaders.2]

/-- A cell with a tab is read back as two. -/
example : ¬ReadBack ⟨["Name"], [["a\tb"]]⟩ (plain ⟨["Name"], [["a\tb"]]⟩) := by
  decide +kernel

end Table

/-! ## Rows of models -/

namespace Content

/-- The names in the description of a content: identifiers, definitions and targets. -/
def namesShown : Content → List String
  | .staticAsset _ => []
  | .staticText asset => [asset]
  | .staticHtml asset => [asset]
  | .redirect target => [target]
  | .record _ properties => properties.flatMap fun p => p.identifier :: p.typeRef.names
  | .enumeration _ variants _ => variants.map (·.identifier)
  | .errorSet _ variants => variants.map (·.identifier)
  | .defaultValue valueType _ _ => valueType.names

/-- The text in the description of a content that may be any text, if there is one: the path of an asset or
the discriminator of a union. -/
def textShown? : Content → Option String
  | .staticAsset path => some path
  | .enumeration _ _ discriminator => discriminator
  | _ => none

/-- A description fits if its names do, unless the text in it does not. -/
theorem fits_description_iff {c : Content} (h : ∀ name ∈ c.namesShown, Fits name) :
    Fits c.description ↔ ∀ text ∈ c.textShown?, Fits text := by
  have hcomma : Fits ", " := by decide
  have hlisted {parts : List String} (hparts : ∀ s ∈ parts, Fits s) : Fits (", ".intercalate parts) :=
    fits_intercalate hcomma hparts
  have hnone : ∀ text ∈ (none : Option String), Fits text := nofun
  cases c with
  | staticAsset path => exact ⟨fun hpath text htext => Option.some.inj htext ▸ hpath, fun hpath => hpath path rfl⟩
  | staticText asset => exact iff_of_true (h asset (List.mem_singleton_self _)) hnone
  | staticHtml asset => exact iff_of_true (h asset (List.mem_singleton_self _)) hnone
  | redirect target =>
      exact iff_of_true (fits_append.mpr ⟨by decide, h target (List.mem_singleton_self _)⟩) hnone
  | record doc properties =>
      refine iff_of_true (hlisted fun s hs => ?_) hnone
      obtain ⟨p, hp, rfl⟩ := List.mem_map.mp hs
      obtain ⟨hidentifier, htype⟩ := List.forall_mem_cons.mp (List.forall_mem_flatMap.mp h p hp)
      exact fits_append.mpr ⟨fits_append.mpr ⟨hidentifier, by decide⟩, TypeRef.fits_text htype⟩
  | enumeration doc variants discriminator =>
      have hnames := hlisted h
      cases discriminator with
      | none => exact iff_of_true hnames hnone
      | some tag =>
          have htag : (∀ text ∈ some tag, Fits text) ↔ Fits tag := by simp
          simp only [description, textShown?, htag]
          split
          next hempty =>
            rw [String.isEmpty_iff.mp hempty]
            exact iff_of_true hnames (by decide)
          next =>
            rw [fits_append, fits_append, fits_append]
            exact ⟨fun hall => hall.1.2, fun hfits => ⟨⟨⟨hnames, by decide⟩, hfits⟩, by decide⟩⟩
  | errorSet doc variants =>
      refine iff_of_true (hlisted fun s hs => ?_) hnone
      obtain ⟨v, hv, rfl⟩ := List.mem_map.mp hs
      have hstatus : Fits s!" ({v.status})" :=
        fits_append.mpr ⟨fits_append.mpr ⟨by decide, fits_toString_int v.status⟩, by decide⟩
      exact fits_append.mpr ⟨h _ (List.mem_map_of_mem hv), hstatus⟩
  | defaultValue valueType literal isPresent =>
      exact iff_of_true (fits_append.mpr ⟨fits_append.mpr ⟨TypeRef.fits_text h, by decide⟩,
        Value.fits_quoted literal⟩) hnone

end Content

namespace Operation

/-- The names in the row of an operation: those of its parameters and of its types. -/
def namesShown (o : Operation) : List String :=
  o.pathParams.toList ++ o.queryParams.toList ++ o.body.toList.flatMap (·.typeRef.names) ++ o.result.names

theorem fits_nameOrDash {name : Option String} (h : ∀ s ∈ name, Fits s) : Fits (nameOrDash name) := by
  cases name with
  | none => decide
  | some s => exact Value.fits_ite (by decide) (h s rfl)

theorem fits_bodyDescription {o : Operation} (h : ∀ b ∈ o.body, ∀ name ∈ b.typeRef.names, Fits name) :
    Fits o.bodyDescription := by
  unfold bodyDescription
  split
  next b hb => exact fits_append.mpr ⟨TypeRef.fits_text (h b hb), Value.fits_ite (by decide) (by decide)⟩
  next => decide

/-- The row of an operation whose names fit does so too, unless its id or its documentation does not. -/
theorem fits_row_iff {o : Operation} (h : ∀ name ∈ o.namesShown, Fits name) :
    (∀ cell ∈ o.row, Fits cell) ↔ Fits o.id ∧ Fits (o.doc.getD "") := by
  simp only [namesShown, List.forall_mem_append, List.forall_mem_flatMap, Option.mem_toList] at h
  obtain ⟨⟨⟨hpath, hquery⟩, hbody⟩, hresult⟩ := h
  simp only [row, List.forall_mem_cons]
  constructor
  · rintro ⟨hid, -, -, -, -, hdoc, -⟩
    exact ⟨hid, hdoc⟩
  · rintro ⟨hid, hdoc⟩
    exact ⟨hid, fits_nameOrDash hpath, fits_nameOrDash hquery, fits_bodyDescription hbody,
      TypeRef.fits_text hresult, hdoc, List.forall_mem_nil _⟩

end Operation

namespace Api

/-- All names that the tables of a model show fit into cells. -/
structure Named (api : Api) : Prop where
  keys : ∀ entry ∈ api.definitions, Fits entry.1
  definitions : ∀ entry ∈ api.definitions, ∀ name ∈ entry.2.content.namesShown, Fits name
  operations : ∀ entry ∈ api.operations, ∀ name ∈ entry.2.namesShown, Fits name
  staticRoutes : ∀ b ∈ api.staticRoutes, Fits b.path ∧ Fits b.definition

variable {api : Api}

theorem fits_upperName (m : Method) : Fits m.upperName := by
  cases m <;> decide

theorem fits_tag (c : Content) : Fits c.tag := by
  cases c <;> rw [Content.tag] <;> decide

/-- The row of a route fits unless its path or its operation does not. -/
theorem fits_routeRow_iff (r : RouteBinding) :
    (∀ cell ∈ routeRow r, Fits cell) ↔ Fits r.path ∧ Fits r.operationId := by
  simp only [routeRow, List.forall_mem_cons, List.not_mem_nil, IsEmpty.forall_iff, implies_true]
  simp [fits_upperName r.method, (by decide : Fits "operation")]

/-- The row of a static route fits. -/
theorem Named.fits_staticRow (h : api.Named) {b : StaticBinding} (hb : b ∈ api.staticRoutes) :
    ∀ cell ∈ api.staticRow b, Fits cell := by
  obtain ⟨hpath, hdefinition⟩ := h.staticRoutes b hb
  have htag : Fits (((api.definitions.lookup b.definition).map fun d => d.content.tag).getD "") := by
    cases api.definitions.lookup b.definition with
    | none => exact (by decide : Fits "")
    | some d => exact fits_tag d.content
  simp only [staticRow, List.forall_mem_cons]
  exact ⟨fits_upperName b.method, hpath, htag, hdefinition, List.forall_mem_nil _⟩

/-- The table of the routes gives itself back unless a path or an operation does not fit. -/
theorem Named.readBack_routeTable_iff (h : api.Named) (withStatic : Bool) :
    (api.routeTable withStatic).ReadBack (api.routeTable withStatic).plain ↔
      ∀ r ∈ api.routes, Fits r.path ∧ Fits r.operationId := by
  have hstatic : ∀ row ∈ (if withStatic then api.staticRoutes.map api.staticRow else []),
      row ≠ [] ∧ ∀ cell ∈ row, Fits cell := by
    cases withStatic with
    | false => exact List.forall_mem_nil _
    | true => exact List.forall_mem_map.mpr fun b hb => ⟨List.cons_ne_nil _ _, h.fits_staticRow hb⟩
  rw [routeTable, Table.readBack_plain_iff (by decide), List.forall_mem_append, List.forall_mem_map]
  · rw [and_iff_left fun row hrow => (hstatic row hrow).2]
    exact forall₂_congr fun r _ => fits_routeRow_iff r
  · exact List.forall_mem_append.mpr
      ⟨List.forall_mem_map.mpr fun r _ => List.cons_ne_nil _ _, fun row hrow => (hstatic row hrow).1⟩

/-- The table of the definitions gives itself back unless a text in it does not fit. -/
theorem Named.readBack_definitionTable_iff (h : api.Named) (kind : Option String) :
    (api.definitionTable kind).ReadBack (api.definitionTable kind).plain ↔
      ∀ entry ∈ api.definitions, (∀ tag ∈ kind, entry.2.content.tag = tag) →
        ∀ text ∈ entry.2.content.textShown?, Fits text := by
  have hrow : ∀ entry ∈ api.definitions, (∀ cell ∈ definitionRow entry.1 entry.2, Fits cell) ↔
      ∀ text ∈ entry.2.content.textShown?, Fits text := by
    intro entry hentry
    rw [← Content.fits_description_iff (h.definitions entry hentry)]
    simp only [definitionRow, List.forall_mem_cons]
    exact ⟨fun hall => hall.2.2.1, fun hfits =>
      ⟨h.keys entry hentry, fits_tag _, hfits, List.forall_mem_nil _⟩⟩
  rw [definitionTable, Table.readBack_plain_iff (by decide)]
  · simp only [List.forall_mem_map, List.mem_filter, and_imp]
    refine forall₂_congr fun entry hentry => imp_congr ?_ (hrow entry hentry)
    cases kind <;> simp
  · exact List.forall_mem_map.mpr fun entry _ => List.cons_ne_nil _ _

/-- The table of the operations gives itself back unless an id or a documentation does not fit. -/
theorem Named.readBack_operationTable_iff (h : api.Named) :
    api.operationTable.ReadBack api.operationTable.plain ↔
      ∀ entry ∈ api.operations, Fits entry.2.id ∧ Fits (entry.2.doc.getD "") := by
  rw [operationTable, Table.readBack_plain_iff (by decide), List.forall_mem_map]
  · exact forall₂_congr fun entry hentry => Operation.fits_row_iff (h.operations entry hentry)
  · exact List.forall_mem_map.mpr fun entry _ => List.cons_ne_nil _ _

end Api

end VersionedApi
