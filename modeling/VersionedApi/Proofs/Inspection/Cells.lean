import VersionedApi.Model.TypeRef
import VersionedApi.Value.Text
import VersionedApi.Proofs.Identifier.Forms
import VersionedApi.Proofs.Number.Rendering
import VersionedApi.Proofs.References.Grounded

/-!
# Texts that fit into cells

The cells of a plain table stand between tabs, and its rows end with line feeds, so a text fits into a cell if
it has neither. Identifiers fit, and types do whose names fit. The quoted text of a value fits whatever texts
the value holds, since these are escaped.

Main definition: `Fits`.

Main results:

- `TypeRef.fits_text`: types;
- `Value.fits_quoted`: quoted texts of values.
-/

namespace VersionedApi

/-- Whether a character ends a cell or a row. -/
def isSeparator (c : Char) : Bool :=
  c == '\t' || c == '\n'

/-- A text has neither tabs nor line feeds. -/
def Fits (s : String) : Prop :=
  ∀ c ∈ s.toList, isSeparator c = false

instance (s : String) : Decidable (Fits s) :=
  List.decidableBAll (fun c => isSeparator c = false) s.toList

/-! ## Parts of texts -/

theorem fits_append {s t : String} : Fits (s ++ t) ↔ Fits s ∧ Fits t := by
  rw [Fits, String.toList_append, List.forall_mem_append]
  rfl

theorem fits_ofList {s : List Char} : Fits (String.ofList s) ↔ ∀ c ∈ s, isSeparator c = false := by
  rw [Fits, String.toList_ofList]

/-- Texts that fit may be joined by one that fits. -/
theorem fits_intercalate {separator : String} (hseparator : Fits separator) {parts : List String}
    (h : ∀ s ∈ parts, Fits s) : Fits (separator.intercalate parts) := by
  induction parts with
  | nil => simp [Fits]
  | cons s rest ih =>
      obtain ⟨hs, hrest⟩ := List.forall_mem_cons.mp h
      cases rest with
      | nil => simpa using hs
      | cons next others =>
          rw [String.intercalate_cons_cons, fits_append, fits_append]
          exact ⟨⟨hs, hseparator⟩, ih hrest⟩

theorem Identifier.fits_of_isIdentifier {s : String} (h : isIdentifier s = true) : Fits s := by
  intro c hc
  have hword := List.all_eq_true.mp (Bool.and_eq_true_iff.mp h).2 c hc
  cases hseparator : isSeparator c with
  | false => rfl
  | true =>
      rcases Bool.or_eq_true_iff.mp hseparator with hchar | hchar <;> rw [eq_of_beq hchar] at hword <;>
        cases hword

/-! ## Numbers -/

theorem isSeparator_of_isDigit {c : Char} (h : c.isDigit = true) : isSeparator c = false :=
  Bool.or_eq_false_iff.mpr
    ⟨beq_false_of_ne (bne_iff_ne.mp (ne_of_isDigit h rfl)), beq_false_of_ne (bne_iff_ne.mp (ne_of_isDigit h rfl))⟩

theorem fits_toString_nat (n : Nat) : Fits (toString n) := by
  rw [Nat.toString_eq_ofList_toDigits, fits_ofList]
  exact fun c hc => isSeparator_of_isDigit (FloatLayout.isDigit_of_mem_toDigits c hc)

theorem fits_toString_int (n : Int) : Fits (toString n) := by
  intro c hc
  rcases Identifier.isDigit_or_sign_of_mem_repr hc with hdigit | rfl
  · exact isSeparator_of_isDigit hdigit
  · decide

/-- The digits of a number in hexadecimal fit. -/
theorem isSeparator_of_mem_toDigits (n : Nat) : ∀ c ∈ Nat.toDigits 16 n, isSeparator c = false := by
  have hdigit : ∀ k < 16, isSeparator (Nat.digitChar k) = false := by decide
  induction n using Nat.strongRecOn with
  | ind n ih =>
      rw [Nat.toDigits_eq_if (by decide)]
      intro c hc
      split at hc
      next hlt =>
        rw [List.mem_singleton.mp hc]
        exact hdigit n hlt
      next hge =>
        rcases List.mem_append.mp hc with hc | hc
        · exact ih (n / 16) (by omega) c hc
        · rw [List.mem_singleton.mp hc]
          exact hdigit _ (Nat.mod_lt _ (by decide))

/-- The text of a number has digits, a point, an exponent and signs. -/
theorem FloatLayout.fits_render (x : Binary64) : Fits (Value.floatLayout.render x) := by
  have hbody {text : List Char} (h : IsBody text) : ∀ c ∈ text, isSeparator c = false := by
    obtain ⟨front, back, rfl, -, hfront, hback⟩ := h
    refine List.forall_mem_append.mpr ⟨fun c hc => ?_, ?_⟩
    · rcases hfront c hc with hdigit | rfl
      · exact isSeparator_of_isDigit hdigit
      · rfl
    · rcases hback with ⟨rfl, -⟩ | ⟨sign, exponent, rfl, hsign, -, hexponent⟩
      · exact List.forall_mem_nil _
      · refine List.forall_mem_cons.mpr ⟨rfl, List.forall_mem_cons.mpr ⟨?_, fun c hc => ?_⟩⟩
        · rcases hsign with rfl | rfl <;> rfl
        · exact isSeparator_of_isDigit (hexponent c hc)
  cases x with
  | nan mark => exact (by decide : Fits "nan")
  | infinite negative => cases negative <;> decide
  | finite negative m e =>
      rw [render_finite, fits_append, fits_ofList]
      exact ⟨by cases negative <;> decide, hbody (isBody_body rfl m e)⟩

/-! ## Types -/

namespace TypeRef

/-- The text of a type of a kind fits if the texts of its parts do. -/
theorem fits_textOf (kind : TypeKind) {scalar name : Option String} {inner : String}
    (hscalar : ∀ s ∈ scalar, Fits s) (hname : ∀ n ∈ name, Fits n) (hinner : Fits inner) :
    Fits (textOf kind scalar name inner) := by
  have hgetD {part : Option String} (h : ∀ s ∈ part, Fits s) {missing : String} (hmissing : Fits missing) :
      Fits (part.getD missing) := by
    cases part with
    | none => exact hmissing
    | some s => exact h s rfl
  cases kind with
  | scalar => exact hgetD hscalar (by decide)
  | named => exact hgetD hname (by decide)
  | any => exact (by decide : Fits "any")
  | empty => exact (by decide : Fits "empty")
  | fallible =>
      simp only [textOf, fits_append]
      exact ⟨⟨⟨⟨by decide, hinner⟩, by decide⟩, hgetD hname (by decide)⟩, by decide⟩
  | _ =>
      simp only [textOf, fits_append]
      exact ⟨⟨by decide, hinner⟩, by decide⟩

/-- The text of a type fits if all names in it do. -/
theorem fits_text {t : TypeRef} (h : ∀ name ∈ t.names, Fits name) : Fits t.text := by
  have hscalar (s : Scalar) : Fits s.name := by cases s <;> decide
  have hempty : Fits "" := by decide
  have hnone : ∀ s ∈ (none : Option String), Fits s := nofun
  have hscalars (s : Option Scalar) : ∀ text ∈ s.map Scalar.name, Fits text := by
    cases s with
    | none => exact hnone
    | some s => exact fun text htext => Option.some.inj htext ▸ hscalar s
  induction t with
  | scalar s => exact fits_textOf .scalar (hscalars (some s)) hnone hempty
  | sequence inner ih => exact fits_textOf .sequence hnone hnone (ih h)
  | map inner ih => exact fits_textOf .map hnone hnone (ih h)
  | optional inner ih => exact fits_textOf .optional hnone hnone (ih h)
  | named name => exact fits_textOf .named hnone (fun n hn => h n (by simpa [names] using hn.symm)) hempty
  | any => exact fits_textOf .any hnone hnone hempty
  | empty => exact fits_textOf .empty hnone hnone hempty
  | fallible success errorSet ih =>
      obtain ⟨herror, hsuccess⟩ := List.forall_mem_cons.mp h
      exact fits_textOf .fallible hnone (fun n hn => Option.some.inj hn ▸ herror) (ih hsuccess)
  | loose kind s name => exact fits_textOf kind (hscalars s) (fun n hn => h n (by simpa [names] using hn)) (by decide)
  | looseOver kind s name inner ih =>
      obtain ⟨hname, hinner⟩ := List.forall_mem_append.mp h
      exact fits_textOf kind (hscalars s) (fun n hn => hname n (by simpa using hn)) (ih hinner)

end TypeRef

/-! ## Quoted values -/

namespace Text

/-- The escape of a number has a mark and digits. -/
theorem isSeparator_marked {mark : Char} (hmark : isSeparator mark = false) (width n : Nat) :
    ∀ c ∈ '\\' :: mark :: hexPadded width n, isSeparator c = false := by
  refine List.forall_mem_cons.mpr ⟨rfl, List.forall_mem_cons.mpr ⟨hmark, ?_⟩⟩
  refine List.forall_mem_append.mpr ⟨fun c hc => ?_, isSeparator_of_mem_toDigits n⟩
  rw [List.eq_of_mem_replicate hc]
  rfl

theorem isSeparator_codeEscape (c : Char) : ∀ d ∈ codeEscape c, isSeparator d = false := by
  unfold codeEscape
  dsimp only
  split
  · exact isSeparator_marked rfl 2 _
  · split
    · exact isSeparator_marked rfl 4 _
    · exact isSeparator_marked rfl 8 _

/-- A character is escaped by letters and digits if it is a separator. -/
theorem isSeparator_escaped {quote c : Char} (hquote : isSeparator quote = false) {printable : Prop}
    [Decidable printable] {escape : List Char} (hescape : ∀ d ∈ escape, isSeparator d = false) :
    ∀ d ∈ (if c == quote || c == '\\' then ['\\', c]
      else if c == '\n' then ['\\', 'n']
      else if c == '\r' then ['\\', 'r']
      else if c == '\t' then ['\\', 't']
      else if printable then [c]
      else escape), isSeparator d = false := by
  have hpair {d : Char} (hd : isSeparator d = false) : ∀ e ∈ ['\\', d], isSeparator e = false :=
    List.forall_mem_cons.mpr ⟨rfl, List.forall_mem_singleton.mpr hd⟩
  split
  next h =>
    rcases Bool.or_eq_true_iff.mp h with h | h <;> rw [eq_of_beq h]
    · exact hpair hquote
    · exact hpair rfl
  next =>
    split
    · exact hpair rfl
    next hfeed =>
      split
      · exact hpair rfl
      split
      · exact hpair rfl
      next htab =>
        split
        · exact List.forall_mem_singleton.mpr (by simp [isSeparator, hfeed, htab])
        · exact hescape

theorem isSeparator_quotedChar {quote : Char} (hquote : isSeparator quote = false) (c : Char) :
    ∀ d ∈ quotedChar quote c, isSeparator d = false :=
  isSeparator_escaped hquote (isSeparator_codeEscape c)

theorem isSeparator_quotedByte {quote : Char} (hquote : isSeparator quote = false) (b : UInt8) :
    ∀ d ∈ quotedByte quote b, isSeparator d = false :=
  isSeparator_escaped hquote (isSeparator_marked rfl 2 b.toNat)

theorem isSeparator_quoteFor (s : List Char) : isSeparator (quoteFor s) = false := by
  unfold quoteFor
  split <;> rfl

/-- A text in quotes fits. -/
theorem fits_quoted (s : String) : Fits (quoted s) := by
  have hquote := isSeparator_quoteFor s.toList
  refine fits_ofList.mpr (List.forall_mem_cons.mpr ⟨hquote, List.forall_mem_append.mpr ⟨?_, ?_⟩⟩)
  · exact List.forall_mem_flatMap.mpr fun c _ => isSeparator_quotedChar hquote c
  · exact List.forall_mem_singleton.mpr hquote

/-- A byte text in quotes fits. -/
theorem fits_quotedBytes (bytes : List UInt8) : Fits (quotedBytes bytes) := by
  have hquote := isSeparator_quoteFor (bytes.map fun b => Char.ofNat b.toNat)
  refine fits_ofList.mpr (List.forall_mem_cons.mpr ⟨rfl, List.forall_mem_cons.mpr
    ⟨hquote, List.forall_mem_append.mpr ⟨?_, List.forall_mem_singleton.mpr hquote⟩⟩⟩)
  exact List.forall_mem_flatMap.mpr fun b _ => isSeparator_quotedByte hquote b

end Text

namespace Value

theorem fits_ite {c : Prop} [Decidable c] {s t : String} (hs : Fits s) (ht : Fits t) :
    Fits (if c then s else t) := by
  split
  · exact hs
  · exact ht

/-- Items between brackets fit if they do. -/
theorem fits_bracketed {opening closing : String} (hopening : Fits opening) (hclosing : Fits closing)
    {items : List String} (h : ∀ s ∈ items, Fits s) :
    Fits (opening ++ ", ".intercalate items ++ closing) :=
  fits_append.mpr ⟨fits_append.mpr ⟨hopening, fits_intercalate (by decide) h⟩, hclosing⟩

/-- Numbers between commas fit. -/
theorem fits_numbers (numbers : List Nat) : ∀ s ∈ numbers.map toString, Fits s := by
  intro s hs
  obtain ⟨n, -, rfl⟩ := List.mem_map.mp hs
  exact fits_toString_nat n

theorem fits_quotedDate (d : Date) : Fits s!"datetime.date({d.year}, {d.month}, {d.day})" := by
  simp only [fits_append]
  exact ⟨⟨⟨⟨⟨⟨by decide, fits_toString_nat _⟩, by decide⟩, fits_toString_nat _⟩, by decide⟩,
    fits_toString_nat _⟩, by decide⟩

theorem fits_quotedOffset (minutes : Int) : Fits (quotedOffset minutes) := by
  have hpart {c : Prop} [Decidable c] {name : String} (hname : Fits name) (n : Int) :
      ∀ s ∈ if c then [] else [name ++ toString n], Fits s := by
    split
    · exact List.forall_mem_nil _
    · exact List.forall_mem_singleton.mpr (fits_append.mpr ⟨hname, fits_toString_int n⟩)
  refine fits_ite (by decide) (fits_append.mpr ⟨fits_append.mpr ⟨by decide, ?_⟩, by decide⟩)
  refine fits_append.mpr ⟨fits_append.mpr ⟨by decide, fits_ite (by decide) (fits_intercalate (by decide) ?_)⟩,
    by decide⟩
  exact List.forall_mem_append.mpr ⟨hpart (by decide) _, hpart (by decide) _⟩

theorem fits_quotedDateTime (t : DateTime) : Fits (quotedDateTime t) := by
  refine fits_bracketed (by decide) (by decide) (List.forall_mem_append.mpr ⟨fits_numbers _, ?_⟩)
  cases t.offset with
  | none => exact List.forall_mem_nil _
  | some minutes =>
      exact List.forall_mem_singleton.mpr (fits_append.mpr ⟨by decide, fits_quotedOffset minutes⟩)

mutual

/-- The quoted text of a value fits, inside whatever collections. -/
theorem fits_quotedWithin (around : List Mark) : ∀ v : Value, Fits (quotedWithin around v)
  | .null => (by decide : Fits "None")
  | .bool _ => fits_ite (by decide) (by decide)
  | .int n => fits_toString_int n
  | .float x => FloatLayout.fits_render x
  | .text s => Text.fits_quoted s
  | .list _ items => fits_ite (by decide) (fits_bracketed (by decide) (by decide) (fits_quotedItems _ items))
  | .map _ entries =>
      fits_ite (by decide) (fits_bracketed (by decide) (by decide) (fits_quotedEntries _ entries))
  | .pair _ first second =>
      fits_ite (by decide) (fits_append.mpr ⟨fits_append.mpr ⟨fits_append.mpr ⟨fits_append.mpr
        ⟨by decide, fits_quotedWithin _ first⟩, by decide⟩, fits_quotedWithin _ second⟩, by decide⟩)
  | .date d => fits_quotedDate d
  | .dateTime t => fits_quotedDateTime t
  | .bytes content => Text.fits_quotedBytes content
  | .set members => fits_ite (by decide) (fits_bracketed (by decide) (by decide) (fits_quotedItems _ members))

/-- The quoted texts of items fit. -/
theorem fits_quotedItems (around : List Mark) : ∀ items : List Value, ∀ s ∈ quotedItems around items, Fits s
  | [] => List.forall_mem_nil _
  | v :: rest => List.forall_mem_cons.mpr ⟨fits_quotedWithin around v, fits_quotedItems around rest⟩

/-- The quoted texts of entries fit. -/
theorem fits_quotedEntries (around : List Mark) :
    ∀ entries : List (Value × Value), ∀ s ∈ quotedEntries around entries, Fits s
  | [] => List.forall_mem_nil _
  | (k, v) :: rest => List.forall_mem_cons.mpr
      ⟨fits_append.mpr ⟨fits_append.mpr ⟨fits_quotedWithin around k, by decide⟩, fits_quotedWithin around v⟩,
        fits_quotedEntries around rest⟩

end

/-- The quoted text of a value fits. -/
theorem fits_quoted (v : Value) : Fits v.quoted :=
  fits_quotedWithin [] v

end Value

end VersionedApi
