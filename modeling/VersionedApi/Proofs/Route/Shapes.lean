import VersionedApi.Merge
import Mathlib.Data.List.DropRight

/-!
# Shapes of path templates

A path template is a sequence of pieces: texts without braces, and parameters with names between braces. Its
parts are the texts, joined where they meet, and the parameters without their names. The shape of a template
spells out its parts without the slashes at the end, and no others, so templates are in one slot of a method
exactly if they have the same parts but for those slashes.

Main definitions: `Route.Piece`, `Route.parts` and `Route.trimmed`.

Main results:

- `Route.shapeChars_shapeChars`: a shape is its own shape, whatever the path holds;
- `Route.eraseNames_written`: erasing names from a template leaves its parts;
- `Route.written_inj`: parts can be read off what they spell;
- `Route.shape_of_templates`: when templates have the same shape.
-/

namespace VersionedApi
namespace Route

/-! ## Names of parameters -/

/-- What follows a parameter does not depend on the characters of its name. -/
theorem afterName?_append {name : List Char} (h : ∀ c ∈ name, isNameChar c = true) (rest : List Char) :
    afterName? (name ++ rest) = afterName? rest := by
  rw [afterName?, afterName?, List.dropWhile_append_of_pos h]

theorem afterName?_cons_of_isNameChar {c : Char} (h : isNameChar c = true) (rest : List Char) :
    afterName? (c :: rest) = afterName? rest :=
  afterName?_append (by simpa using h : ∀ d ∈ [c], isNameChar d = true) rest

/-- A text goes on with a character of a name, or its parameter ends, or a slash says that there is none. -/
theorem afterName?_cons (c : Char) (rest : List Char) :
    isNameChar c = true ∧ afterName? (c :: rest) = afterName? rest ∨
      c = '}' ∧ afterName? (c :: rest) = some rest ∨ c = '/' ∧ afterName? (c :: rest) = none := by
  by_cases hclose : c = '}'
  · exact .inr (.inl ⟨hclose, by rw [hclose]; rfl⟩)
  · by_cases hslash : c = '/'
    · exact .inr (.inr ⟨hslash, by rw [hslash]; rfl⟩)
    · have hname : isNameChar c = true := by simp [isNameChar, hclose, hslash]
      exact .inl ⟨hname, afterName?_cons_of_isNameChar hname rest⟩

/-- A parameter that ends in a text ends there however the text goes on. -/
theorem afterName?_append_of_eq_some {path after : List Char} (h : afterName? path = some after)
    (rest : List Char) : afterName? (path ++ rest) = some (after ++ rest) := by
  unfold afterName? at h ⊢
  split at h
  next more heq =>
    cases h
    rw [List.dropWhile_append, heq]
    rfl
  next => cases h

theorem eraseNames_cons_of_ne {c : Char} (hc : c ≠ '{') (rest : List Char) :
    eraseNames (c :: rest) = c :: eraseNames rest := by
  rw [eraseNames, if_neg hc]

theorem eraseNames_of_afterName? {rest after : List Char} (h : afterName? rest = some after) :
    eraseNames ('{' :: rest) = '{' :: '}' :: eraseNames after := by
  rw [eraseNames, if_pos rfl]
  split
  next heq =>
    cases h.symm.trans heq
    rfl
  next heq => cases h.symm.trans heq

theorem eraseNames_of_afterName?_eq_none {rest : List Char} (h : afterName? rest = none) :
    eraseNames ('{' :: rest) = '{' :: eraseNames rest := by
  rw [eraseNames, if_pos rfl]
  split
  next heq => cases h.symm.trans heq
  next => rfl

/-- A brace that no parameter starts with does not start with one when the names behind it are erased. -/
theorem afterName?_eraseNames {path : List Char} (h : afterName? path = none) :
    afterName? (eraseNames path) = none := by
  fun_induction eraseNames path with
  | case1 => rfl
  | case2 rest after hafter ih =>
      have hname := afterName?_cons_of_isNameChar (by decide : isNameChar '{' = true) rest
      cases hafter.symm.trans (hname.symm.trans h)
  | case3 rest hnone ih =>
      exact (afterName?_cons_of_isNameChar (by decide) _).trans (ih hnone)
  | case4 c rest hc ih =>
      rcases afterName?_cons c rest with ⟨hname, hrest⟩ | ⟨-, hrest⟩ | ⟨rfl, -⟩
      · exact (afterName?_cons_of_isNameChar hname _).trans (ih (hrest ▸ h))
      · cases h.symm.trans hrest
      · rfl

/-! ## Erased texts -/

/-- A text without names: every opening brace is closed at once, or starts no parameter. -/
inductive Erased : List Char → Prop
  | nil : Erased []
  | parameter {rest : List Char} (h : Erased rest) : Erased ('{' :: '}' :: rest)
  | brace {rest : List Char} (hnone : afterName? rest = none) (h : Erased rest) : Erased ('{' :: rest)
  | other {c : Char} {rest : List Char} (hc : c ≠ '{') (h : Erased rest) : Erased (c :: rest)

theorem erased_eraseNames (path : List Char) : Erased (eraseNames path) := by
  fun_induction eraseNames path with
  | case1 => exact .nil
  | case2 rest after hafter ih => exact .parameter ih
  | case3 rest hnone ih => exact .brace (afterName?_eraseNames hnone) ih
  | case4 c rest hc ih => exact .other hc ih

namespace Erased

/-- There are no names to erase. -/
theorem eraseNames_eq {path : List Char} (h : Erased path) : eraseNames path = path := by
  induction h with
  | nil => exact eraseNames.eq_def []
  | parameter _ ih => rw [eraseNames_of_afterName? rfl, ih]
  | brace hnone _ ih => rw [eraseNames_of_afterName?_eq_none hnone, ih]
  | other hc _ ih => rw [eraseNames_cons_of_ne hc, ih]

/-- Without the slashes at its end, a text without names is one. -/
theorem of_append {front slashes : List Char} (h : Erased (front ++ slashes))
    (hslashes : ∀ c ∈ slashes, c = '/') : Erased front := by
  generalize hpath : front ++ slashes = path at h
  induction h generalizing front with
  | nil => exact (List.append_eq_nil_iff.mp hpath).1 ▸ .nil
  | @parameter rest _ ih =>
      rcases front with - | ⟨c, - | ⟨d, front⟩⟩
      · exact .nil
      · simp only [List.cons_append, List.nil_append, List.cons.injEq] at hpath
        exact absurd (hslashes '}' (hpath.2 ▸ List.mem_cons_self)) (by decide)
      · simp only [List.cons_append, List.cons.injEq] at hpath
        obtain ⟨rfl, rfl, hrest⟩ := hpath
        exact .parameter (ih hrest)
  | @brace rest hnone _ ih =>
      cases front with
      | nil => exact .nil
      | cons c front =>
          simp only [List.cons_append, List.cons.injEq] at hpath
          obtain ⟨rfl, hrest⟩ := hpath
          rw [← hrest] at hnone
          refine .brace ?_ (ih hrest)
          cases hfront : afterName? front with
          | none => rfl
          | some after => cases (afterName?_append_of_eq_some hfront slashes).symm.trans hnone
  | other hc _ ih =>
      cases front with
      | nil => exact .nil
      | cons c front =>
          obtain ⟨rfl, rfl⟩ := List.cons.inj hpath
          exact .other hc (ih rfl)

end Erased

/-! ## Slashes at the end -/

theorem trimSlashes_trimSlashes (s : List Char) : trimSlashes (trimSlashes s) = trimSlashes s :=
  List.rdropWhile_idempotent (fun c => c == '/') s

/-- What is trimmed goes on with the slashes that were dropped. -/
theorem exists_slashes (s : List Char) :
    ∃ slashes, trimSlashes s ++ slashes = s ∧ ∀ c ∈ slashes, c = '/' :=
  ⟨s.rtakeWhile (· == '/'), List.rdropWhile_append_rtakeWhile,
    fun _ hc => by simpa using List.mem_rtakeWhile_imp hc⟩

/-- Slashes are trimmed from the last of two texts, and from the first one if nothing is left of the last. -/
theorem trimSlashes_append (s t : List Char) :
    trimSlashes (s ++ t) = if trimSlashes t = [] then trimSlashes s else s ++ trimSlashes t := by
  simp only [trimSlashes, List.reverse_append, List.dropWhile_append, List.reverse_eq_nil_iff,
    List.isEmpty_iff]
  split <;> simp

theorem trimSlashes_ne_slash (s : List Char) : trimSlashes s ≠ ['/'] := by
  intro h
  have htrimmed := trimSlashes_trimSlashes s
  rw [h] at htrimmed
  exact absurd htrimmed (by decide)

/-- The shape of a path is what is left of it without names and slashes at the end, or the root if that is
nothing. -/
theorem shapeChars_eq (path : List Char) : shapeChars path =
    if trimSlashes (eraseNames path) = [] then ['/'] else trimSlashes (eraseNames path) := by
  have hshort : ∀ s : List Char, (if (if s.length > 1 then trimSlashes s else s).isEmpty then ['/']
      else if s.length > 1 then trimSlashes s else s) =
      if trimSlashes s = [] then ['/'] else trimSlashes s := by
    intro s
    match s with
    | [] => rfl
    | [c] => by_cases hc : c = '/' <;> simp [trimSlashes, hc]
    | _ :: _ :: _ => simp
  exact hshort (eraseNames path)

/-- Paths have the same shape exactly if the same is left of them. -/
theorem shapeChars_inj (path other : List Char) : shapeChars path = shapeChars other ↔
    trimSlashes (eraseNames path) = trimSlashes (eraseNames other) := by
  rw [shapeChars_eq, shapeChars_eq]
  split <;> split <;> rename_i hpath hother
  · simp [hpath, hother]
  · rw [hpath]
    exact ⟨fun h => absurd h.symm (trimSlashes_ne_slash _), fun h => absurd h.symm hother⟩
  · rw [hother]
    exact ⟨fun h => absurd h (trimSlashes_ne_slash _), fun h => absurd h hpath⟩
  · rfl

/-- A shape is its own shape. -/
theorem shapeChars_shapeChars (path : List Char) : shapeChars (shapeChars path) = shapeChars path := by
  have herased : eraseNames (trimSlashes (eraseNames path)) = trimSlashes (eraseNames path) := by
    obtain ⟨slashes, happend, hslashes⟩ := exists_slashes (eraseNames path)
    have hfront : Erased (trimSlashes (eraseNames path) ++ slashes) := by
      rw [happend]
      exact erased_eraseNames path
    exact (hfront.of_append hslashes).eraseNames_eq
  rw [shapeChars_eq path]
  split
  · rw [shapeChars_eq, (Erased.other (by decide) .nil : Erased ['/']).eraseNames_eq]
    rfl
  · rw [shapeChars_eq, herased, trimSlashes_trimSlashes]
    rename_i hleft
    rw [if_neg hleft]

/-! ## Templates -/

/-- A piece of a path template: a text without braces, or a parameter whose name has neither braces nor
slashes. -/
inductive Piece where
  | text (chars : List Char) (plain : ∀ c ∈ chars, c ≠ '{' ∧ c ≠ '}')
  | parameter (name : List Char) (plain : ∀ c ∈ name, c ≠ '{' ∧ c ≠ '}' ∧ c ≠ '/')

/-- What a piece spells. -/
def Piece.written : Piece → List Char
  | .text chars _ => chars
  | .parameter name _ => '{' :: (name ++ ['}'])

/-- The path that pieces spell. -/
def template (pieces : List Piece) : String :=
  String.ofList (pieces.flatMap Piece.written)

/-- A part of a template: a text, or a parameter without its name. -/
inductive Part where
  | text (chars : List Char)
  | parameter
deriving DecidableEq, Repr

/-- What a part spells. -/
def Part.written : Part → List Char
  | .text chars => chars
  | .parameter => ['{', '}']

/-- Puts a text in front of parts. It joins the text that stands there already, and no text is no part. -/
def withText (chars : List Char) : List Part → List Part
  | .text next :: rest => .text (chars ++ next) :: rest
  | rest => if chars = [] then rest else .text chars :: rest

/-- The parts of a template. -/
def parts : List Piece → List Part
  | [] => []
  | .text chars _ :: rest => withText chars (parts rest)
  | .parameter _ _ :: rest => .parameter :: parts rest

/-- Drops the slashes at the end of parts, and a text that consists of them. -/
def trimmed : List Part → List Part
  | [] => []
  | .parameter :: rest => .parameter :: trimmed rest
  | .text chars :: rest =>
      match trimmed rest with
      | [] => if trimSlashes chars = [] then [] else [.text (trimSlashes chars)]
      | more => .text chars :: more

/-- Parts of which no text is empty, has an opening brace or meets another text. -/
def Joined : List Part → Prop
  | [] => True
  | .parameter :: rest => Joined rest
  | .text chars :: rest =>
      chars ≠ [] ∧ '{' ∉ chars ∧ (rest = [] ∨ ∃ more, rest = .parameter :: more) ∧ Joined rest

theorem withText_nil (chars : List Char) :
    withText chars [] = if chars = [] then [] else [.text chars] :=
  rfl

theorem withText_parameter (chars : List Char) (rest : List Part) : withText chars (.parameter :: rest) =
    if chars = [] then .parameter :: rest else .text chars :: .parameter :: rest :=
  rfl

theorem written_withText (chars : List Char) (ps : List Part) :
    (withText chars ps).flatMap Part.written = chars ++ ps.flatMap Part.written := by
  unfold withText
  split
  · simp [Part.written]
  · split
    next hnone => simp [hnone]
    next => simp [Part.written]

theorem Joined.withText {chars : List Char} (hchars : '{' ∉ chars) {ps : List Part} (h : Joined ps) :
    Joined (withText chars ps) := by
  match ps, h with
  | [], _ =>
      rw [Route.withText_nil]
      split
      next => trivial
      next hne => exact ⟨hne, hchars, .inl rfl, trivial⟩
  | .parameter :: rest, h =>
      rw [Route.withText_parameter]
      split
      next => exact h
      next hne => exact ⟨hne, hchars, .inr ⟨rest, rfl⟩, h⟩
  | .text next :: rest, ⟨hne, hnext, hrest⟩ =>
      exact ⟨by simp [hne], by simp [hchars, hnext], hrest⟩

/-- The parts of a template are joined. -/
theorem joined_parts (pieces : List Piece) : Joined (parts pieces) := by
  induction pieces with
  | nil => trivial
  | cons piece rest ih =>
      cases piece with
      | text chars plain => exact ih.withText fun hmem => (plain _ hmem).1 rfl
      | parameter name plain => exact ih

theorem eraseNames_append {chars : List Char} (h : '{' ∉ chars) (rest : List Char) :
    eraseNames (chars ++ rest) = chars ++ eraseNames rest := by
  induction chars with
  | nil => rfl
  | cons c more ih =>
      obtain ⟨hc, hmore⟩ := not_or.mp (List.mem_cons.not.mp h)
      rw [List.cons_append, eraseNames_cons_of_ne (Ne.symm hc), ih hmore, List.cons_append]

/-- Erasing the names from a template leaves what its parts spell. -/
theorem eraseNames_written (pieces : List Piece) :
    eraseNames (pieces.flatMap Piece.written) = (parts pieces).flatMap Part.written := by
  induction pieces with
  | nil => exact eraseNames.eq_def []
  | cons piece rest ih =>
      cases piece with
      | text chars plain =>
          rw [List.flatMap_cons, Piece.written, eraseNames_append fun hmem => (plain _ hmem).1 rfl, ih,
            parts, written_withText]
      | parameter name plain =>
          have hname : ∀ c ∈ name, isNameChar c = true := fun c hc => by
            simpa [isNameChar] using (plain c hc).2
          have hafter : afterName? (name ++ ['}'] ++ rest.flatMap Piece.written) =
              some (rest.flatMap Piece.written) := by
            rw [List.append_assoc, afterName?_append hname]
            rfl
          rw [List.flatMap_cons, Piece.written, List.cons_append, eraseNames_of_afterName? hafter, ih]
          rfl

/-- A text meets no other text when slashes are dropped behind it. -/
theorem trimmed_cases {rest : List Part} (h : rest = [] ∨ ∃ more, rest = .parameter :: more) :
    trimmed rest = [] ∨ ∃ more, trimmed rest = .parameter :: more := by
  rcases h with rfl | ⟨more, rfl⟩
  · exact .inl rfl
  · exact .inr ⟨trimmed more, rfl⟩

theorem Joined.trimmed {ps : List Part} (h : Joined ps) : Joined (trimmed ps) := by
  induction ps with
  | nil => trivial
  | cons p rest ih =>
      cases p with
      | parameter => exact ih h
      | text chars =>
          obtain ⟨hne, hchars, hnext, hrest⟩ := h
          rcases trimmed_cases hnext with hnone | ⟨more, hmore⟩
          · simp only [Route.trimmed, hnone]
            split
            next => trivial
            next hleft =>
              obtain ⟨slashes, happend, -⟩ := exists_slashes chars
              refine ⟨hleft, fun hmem => hchars ?_, .inl rfl, trivial⟩
              rw [← happend]
              exact List.mem_append_left _ hmem
          · have hjoined := ih hrest
            rw [hmore] at hjoined
            simp only [Route.trimmed, hmore]
            exact ⟨hne, hchars, .inr ⟨more, rfl⟩, hjoined⟩

/-- Parts spell something. -/
theorem Joined.written_ne_nil {p : Part} {rest : List Part} (h : Joined (p :: rest)) :
    (p :: rest).flatMap Part.written ≠ [] := by
  cases p with
  | parameter => simp [Part.written]
  | text chars => simp [Part.written, h.1]

/-- Dropping the slashes at the end of what parts spell drops them from the parts. -/
theorem trimSlashes_written {ps : List Part} (h : Joined ps) :
    trimSlashes (ps.flatMap Part.written) = (trimmed ps).flatMap Part.written := by
  induction ps with
  | nil => rfl
  | cons p rest ih =>
      rw [List.flatMap_cons, trimSlashes_append]
      cases p with
      | parameter =>
          rw [ih h, trimmed, List.flatMap_cons]
          split
          next hnone =>
            rw [hnone]
            rfl
          next => rfl
      | text chars =>
          have hrest : Joined rest := h.2.2.2
          have hleft := hrest.trimmed
          rw [ih hrest, trimmed]
          cases hmore : trimmed rest with
          | nil =>
              simp only [List.flatMap_nil, if_true]
              split <;> simp_all [Part.written]
          | cons q more =>
              rw [hmore] at hleft
              rw [if_neg hleft.written_ne_nil]
              rfl

/-- A text can be read off what it spells with the parts behind it, which start with a parameter. -/
theorem takeWhile_written {chars : List Char} (hchars : '{' ∉ chars) {rest : List Part}
    (hrest : rest = [] ∨ ∃ more, rest = .parameter :: more) :
    (chars ++ rest.flatMap Part.written).takeWhile (· != '{') = chars := by
  have hall : ∀ c ∈ chars, (c != '{') = true := fun c hc => by simpa using ne_of_mem_of_not_mem hc hchars
  rw [List.takeWhile_append_of_pos hall]
  rcases hrest with rfl | ⟨more, rfl⟩ <;> simp [Part.written]

/-- Parts can be read off what they spell. -/
theorem written_inj {ps qs : List Part} (hps : Joined ps) (hqs : Joined qs) :
    ps.flatMap Part.written = qs.flatMap Part.written ↔ ps = qs := by
  refine ⟨fun h => ?_, congrArg _⟩
  induction ps generalizing qs with
  | nil =>
      cases qs with
      | nil => rfl
      | cons q qs => exact absurd h.symm hqs.written_ne_nil
  | cons p ps ih =>
      cases qs with
      | nil => exact absurd h hps.written_ne_nil
      | cons q qs =>
          rw [List.flatMap_cons, List.flatMap_cons] at h
          have hbrace : ∀ {chars : List Char} {rest more : List Char}, chars ≠ [] → '{' ∉ chars →
              Part.parameter.written ++ rest ≠ chars ++ more := by
            intro chars rest more hne hchars heq
            obtain ⟨c, others, rfl⟩ := List.exists_cons_of_ne_nil hne
            exact hchars ((List.cons.inj heq).1 ▸ List.mem_cons_self)
          cases p with
          | parameter =>
              cases q with
              | parameter => rw [ih hps (show Joined qs from hqs) (List.append_cancel_left h)]
              | text chars => exact absurd h (hbrace hqs.1 hqs.2.1)
          | text chars =>
              cases q with
              | parameter => exact absurd h.symm (hbrace hps.1 hps.2.1)
              | text others =>
                  have hsame : chars = others := by
                    rw [← takeWhile_written hps.2.1 hps.2.2.1, ← takeWhile_written hqs.2.1 hqs.2.2.1]
                    exact congrArg _ h
                  rw [hsame] at h ⊢
                  rw [ih hps.2.2.2 hqs.2.2.2 (List.append_cancel_left h)]

/-- Templates have the same shape exactly if they have the same parts but for slashes at the end. -/
theorem shape_template_inj (pieces others : List Piece) :
    shape (template pieces) = shape (template others) ↔ trimmed (parts pieces) = trimmed (parts others) := by
  have hjoined := joined_parts pieces
  have hjoined' := joined_parts others
  rw [shape, shape, template, template, String.ofList_inj, String.toList_ofList, String.toList_ofList,
    shapeChars_inj, eraseNames_written, eraseNames_written, trimSlashes_written hjoined,
    trimSlashes_written hjoined', written_inj hjoined.trimmed hjoined'.trimmed]

/-- A shape is its own shape, for every path. Templates have the same shape exactly if they have the same
parts but for slashes at the end, and two routes at templates are in one slot exactly if besides they have the
same method. -/
theorem shape_of_templates :
    (∀ path : String, shape (shape path) = shape path) ∧
    ∀ pieces others : List Piece,
      (shape (template pieces) = shape (template others) ↔
        trimmed (parts pieces) = trimmed (parts others)) ∧
      ∀ r s : VersionRoute,
        Merger.slotOf { r with path := template pieces } = Merger.slotOf { s with path := template others } ↔
          r.method = s.method ∧ trimmed (parts pieces) = trimmed (parts others) := by
  refine ⟨fun path => ?_, fun pieces others => ⟨shape_template_inj pieces others, fun r s => ?_⟩⟩
  · rw [shape, shape, String.toList_ofList, shapeChars_shapeChars]
  · rw [Merger.slotOf, Merger.slotOf, Slot.mk.injEq, shape_template_inj]

/-- A root, with slashes or without, has no parts. -/
example : trimmed (parts [.text ['/', '/'] (by simp)]) = trimmed (parts []) ∧ shape "//" = "/" ∧
    shape "" = "/" := by
  decide +kernel

end Route
end VersionedApi
