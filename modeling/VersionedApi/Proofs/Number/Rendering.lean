import VersionedApi.Proofs.Number.Shortest
import Mathlib.Data.List.TakeWhile
import Mathlib.Data.Rat.Cast.Order

/-!
# Texts of numbers

The text of a number spells the shortest digits of the number, with a point or an exponent, behind a sign.
What it spells reads back as the number, so no two numbers have one text.

Main definitions:

- `decimalValue`: the number that digits with a point and an exponent spell.

Main results:

- `FloatLayout.decimalValue_body`: the text of a number spells its shortest digits;
- `FloatLayout.render_inj`: numbers with one text are equal.
-/

namespace VersionedApi

/-! ## What digits spell -/

/-- The number that digits spell, some of which may stand behind a point. -/
def pointValue (text : List Char) : ℚ :=
  let fraction := (text.dropWhile (· != '.')).tail
  Nat.ofDigitChars 10 (text.takeWhile (· != '.') ++ fraction) 0 * 10 ^ (-fraction.length : Int)

/-- The exponent that a sign and digits spell. -/
def exponentValue : List Char → Int
  | '-' :: rest => -(Nat.ofDigitChars 10 rest 0 : Int)
  | rest => Nat.ofDigitChars 10 rest.tail 0

/-- The number that digits with a point and an exponent spell. -/
def decimalValue (text : List Char) : ℚ :=
  pointValue (text.takeWhile (· != 'e')) * 10 ^ exponentValue (text.dropWhile (· != 'e')).tail

section

variable {digits fraction : List Char}

/-- Digits are neither points nor letters. -/
theorem ne_of_isDigit {c d : Char} (hc : c.isDigit = true) (hd : d.isDigit = false) : (c != d) = true := by
  rw [bne_iff_ne]
  rintro rfl
  rw [hc] at hd
  cases hd

theorem pointValue_append (hdigits : ∀ c ∈ digits, c.isDigit = true) :
    pointValue (digits ++ '.' :: fraction) =
      Nat.ofDigitChars 10 (digits ++ fraction) 0 * 10 ^ (-fraction.length : Int) := by
  have hpoint : ∀ c ∈ digits, (c != '.') = true := fun c hc => ne_of_isDigit (hdigits c hc) (by decide)
  simp only [pointValue, List.takeWhile_append_of_pos hpoint, List.dropWhile_append_of_pos hpoint]
  simp

theorem pointValue_of_isDigit (hdigits : ∀ c ∈ digits, c.isDigit = true) :
    pointValue digits = Nat.ofDigitChars 10 digits 0 := by
  have hpoint : ∀ c ∈ digits, (c != '.') = true := fun c hc => ne_of_isDigit (hdigits c hc) (by decide)
  simp [pointValue, List.takeWhile_eq_self_iff.mpr hpoint, List.dropWhile_eq_nil_iff.mpr hpoint]

/-- Without an exponent the digits spell the number. -/
theorem decimalValue_of_noExponent {text : List Char} (htext : ∀ c ∈ text, (c != 'e') = true) :
    decimalValue text = pointValue text := by
  simp [decimalValue, List.takeWhile_eq_self_iff.mpr htext, List.dropWhile_eq_nil_iff.mpr htext, exponentValue]

theorem decimalValue_append {text exponent : List Char} (htext : ∀ c ∈ text, (c != 'e') = true) :
    decimalValue (text ++ 'e' :: exponent) = pointValue text * 10 ^ exponentValue exponent := by
  simp only [decimalValue, List.takeWhile_append_of_pos htext, List.dropWhile_append_of_pos htext]
  simp

end

namespace FloatLayout

variable {digits : List Char} {n : Nat}

/-- A padded number spells the number. -/
theorem ofDigitChars_padded (width n : Nat) : Nat.ofDigitChars 10 (padded width n).toList 0 = n := by
  rw [padded, String.toList_append, String.toList_ofList, Nat.ofDigitChars_append, Nat.ofDigitChars_replicate_zero]
  simp

theorem isDigit_of_mem_zeros {k : Nat} {c : Char} (h : c ∈ List.replicate k '0') : c.isDigit = true := by
  rw [List.eq_of_mem_replicate h]
  decide

/-- Zeros behind digits multiply by a power of ten. -/
theorem ofDigitChars_append_zeros (digits : List Char) (k : Nat) :
    Nat.ofDigitChars 10 (digits ++ List.replicate k '0') 0 = Nat.ofDigitChars 10 digits 0 * 10 ^ k := by
  rw [Nat.ofDigitChars_append, Nat.ofDigitChars_replicate_zero, Nat.mul_comm]

/-- Digits and points have no exponent. -/
theorem ne_exponent {c : Char} (hc : c.isDigit = true ∨ c = '.') : (c != 'e') = true := by
  rcases hc with hc | rfl
  · exact ne_of_isDigit hc (by decide)
  · decide

/-- Positional notation has digits in front of a point and behind it, that spell the number. -/
theorem positional_parts (hdigits : ∀ c ∈ digits, c.isDigit = true) (hne : digits ≠ [])
    (hn : Nat.ofDigitChars 10 digits 0 = n) (exponent : Int) :
    ∃ front back, positional digits exponent = front ++ '.' :: back ∧
      front.head?.any Char.isDigit = true ∧ (∀ c ∈ front ++ back, c.isDigit = true) ∧
      (Nat.ofDigitChars 10 (front ++ back) 0 * 10 ^ (-back.length : Int) : ℚ) = n * 10 ^ exponent := by
  obtain ⟨first, rest, rfl⟩ := List.exists_cons_of_ne_nil hne
  have hfirst := hdigits first List.mem_cons_self
  unfold positional
  dsimp only
  split
  next h =>
    -- A point and a zero stand behind the digits and the zeros of the exponent.
    obtain ⟨k, rfl⟩ := Int.eq_ofNat_of_zero_le h
    have hzeros : first :: rest ++ List.replicate k '0' ++ ['0'] =
        first :: rest ++ List.replicate (k + 1) '0' := by
      rw [List.append_assoc, ← List.replicate_succ']
    refine ⟨first :: rest ++ List.replicate k '0', ['0'], rfl, by simp [hfirst], ?_, ?_⟩ <;> rw [hzeros]
    · intro c hc
      exact (List.mem_append.mp hc).elim (hdigits c) isDigit_of_mem_zeros
    · rw [ofDigitChars_append_zeros, hn]
      push_cast
      rw [pow_succ, List.length_singleton, Nat.cast_one, zpow_neg_one, zpow_natCast]
      ring
  next h =>
    split
    next hpoint =>
      -- The point stands between digits.
      obtain ⟨k, hk⟩ := Int.eq_ofNat_of_zero_le hpoint.le
      have hlength : -(((first :: rest).drop k).length : Int) = exponent := by
        rw [List.length_drop]
        omega
      have hhead : ((first :: rest).take k).head? = some first := by
        rw [List.head?_take, if_neg (by omega), List.head?_cons]
      rw [hk, Int.toNat_natCast]
      refine ⟨_, _, rfl, by rw [hhead]; exact hfirst, ?_, ?_⟩ <;> rw [List.take_append_drop]
      · exact hdigits
      · rw [hn, hlength]
    next hpoint =>
      -- Zeros stand between the point and the digits.
      obtain ⟨k, hk⟩ := Int.eq_ofNat_of_zero_le (show 0 ≤ -(((first :: rest).length : Int) + exponent) by omega)
      have hlength : -((List.replicate k '0' ++ first :: rest).length : Int) = exponent := by
        rw [List.length_append, List.length_replicate]
        omega
      have hzeros : ['0'] ++ (List.replicate k '0' ++ first :: rest) =
          List.replicate (k + 1) '0' ++ first :: rest :=
        rfl
      rw [hk, Int.toNat_natCast]
      refine ⟨['0'], List.replicate k '0' ++ first :: rest, rfl, rfl, ?_, ?_⟩ <;> rw [hzeros]
      · intro c hc
        exact (List.mem_append.mp hc).elim isDigit_of_mem_zeros (hdigits c)
      · rw [hlength, Nat.ofDigitChars_append, Nat.ofDigitChars_replicate_zero, Nat.mul_zero, hn]

/-- Positional notation spells the number. -/
theorem decimalValue_positional (hdigits : ∀ c ∈ digits, c.isDigit = true) (hne : digits ≠ [])
    (hn : Nat.ofDigitChars 10 digits 0 = n) (exponent : Int) :
    decimalValue (positional digits exponent) = n * 10 ^ exponent := by
  obtain ⟨front, back, htext, -, hall, hvalue⟩ := positional_parts hdigits hne hn exponent
  rw [htext, decimalValue_of_noExponent, pointValue_append fun c hc => hall c (List.mem_append_left _ hc), hvalue]
  intro c hc
  refine ne_exponent ?_
  rcases List.mem_append.mp hc with hc | hc
  · exact .inl (hall c (List.mem_append_left _ hc))
  · exact (List.mem_cons.mp hc).symm.imp_left fun hc => hall c (List.mem_append_right _ hc)

/-- A sign and a padded number spell an exponent. -/
theorem exponentValue_sign (width : Nat) (lead : Int) :
    exponentValue ((if lead < 0 then '-' else '+') :: (padded width lead.natAbs).toList) = lead := by
  split
  next h =>
    rw [exponentValue, ofDigitChars_padded]
    omega
  next h =>
    rw [exponentValue, List.tail_cons, ofDigitChars_padded]
    · omega
    · simp

/-- Exponent notation has digits in front of the exponent, with a point behind the first one if there are
others. -/
theorem scientific_parts {layout : FloatLayout} (hlayout : layout.pointBeforeExponent = false)
    (hdigits : ∀ c ∈ digits, c.isDigit = true) (hne : digits ≠ []) (hn : Nat.ofDigitChars 10 digits 0 = n) :
    ∃ front, front.head?.any Char.isDigit = true ∧ (∀ c ∈ front, c.isDigit = true ∨ c = '.') ∧
      pointValue front = n * 10 ^ (1 - digits.length : Int) ∧
      ∀ lead, layout.scientific digits lead = front ++ 'e' ::
        (if lead < 0 then '-' else '+') :: (padded layout.exponentWidth lead.natAbs).toList := by
  obtain ⟨first, fraction, rfl⟩ := List.exists_cons_of_ne_nil hne
  have hfirst : ∀ c ∈ [first], c.isDigit = true := fun c hc =>
    hdigits c (List.mem_singleton.mp hc ▸ List.mem_cons_self)
  have hhead : first.isDigit = true := hdigits first List.mem_cons_self
  cases fraction with
  | nil =>
      refine ⟨[first], hhead, fun c hc => .inl (hfirst c hc), ?_, fun lead => ?_⟩
      · rw [pointValue_of_isDigit hfirst, hn]
        simp
      · simp [scientific, hlayout]
  | cons second rest =>
      refine ⟨[first] ++ '.' :: second :: rest, hhead, fun c hc => ?_, ?_, fun lead => ?_⟩
      · rcases List.mem_append.mp hc with hc | hc
        · exact .inl (hfirst c hc)
        · exact (List.mem_cons.mp hc).symm.imp_left fun hc => hdigits c (List.mem_cons_of_mem _ hc)
      · have hlength : (1 - (first :: second :: rest).length : Int) = -(second :: rest).length := by
          rw [List.length_cons, Int.natCast_add]
          omega
        rw [pointValue_append hfirst, List.singleton_append, hn, hlength]
      · simp [scientific]

/-- Exponent notation spells the number. -/
theorem decimalValue_scientific {layout : FloatLayout} (hlayout : layout.pointBeforeExponent = false)
    (hdigits : ∀ c ∈ digits, c.isDigit = true) (hne : digits ≠ [])
    (hn : Nat.ofDigitChars 10 digits 0 = n) (exponent : Int) :
    decimalValue (layout.scientific digits (digits.length + exponent - 1)) = n * 10 ^ exponent := by
  obtain ⟨front, -, hfront, hvalue, htext⟩ := scientific_parts hlayout hdigits hne hn
  rw [htext, decimalValue_append fun c hc => ne_exponent (hfront c hc), hvalue, exponentValue_sign, mul_assoc,
    ← zpow_add₀ (by norm_num)]
  congr 2
  ring

/-! ## Shape -/

/-- The text of a number without its sign: digits with a point, or digits that may have a point and an exponent
behind them. -/
def IsBody (text : List Char) : Prop :=
  ∃ front back, text = front ++ back ∧ front.head?.any Char.isDigit = true ∧
    (∀ c ∈ front, c.isDigit = true ∨ c = '.') ∧
    (back = [] ∧ '.' ∈ front ∨ ∃ sign exponent, back = 'e' :: sign :: exponent ∧ (sign = '-' ∨ sign = '+') ∧
      exponent ≠ [] ∧ ∀ c ∈ exponent, c.isDigit = true)

theorem isBody_positional (hdigits : ∀ c ∈ digits, c.isDigit = true) (hne : digits ≠ []) (exponent : Int) :
    IsBody (positional digits exponent) := by
  obtain ⟨front, back, htext, hhead, hall, -⟩ := positional_parts hdigits hne rfl exponent
  refine ⟨front ++ '.' :: back, [], by rw [htext, List.append_nil], ?_, fun c hc => ?_, .inl ⟨rfl, by simp⟩⟩
  · cases front with
    | nil => cases hhead
    | cons => exact hhead
  · rcases List.mem_append.mp hc with hc | hc
    · exact .inl (hall c (List.mem_append_left _ hc))
    · exact (List.mem_cons.mp hc).symm.imp_left fun hc => hall c (List.mem_append_right _ hc)

theorem isBody_scientific {layout : FloatLayout} (hlayout : layout.pointBeforeExponent = false)
    (hdigits : ∀ c ∈ digits, c.isDigit = true) (hne : digits ≠ []) (lead : Int) :
    IsBody (layout.scientific digits lead) := by
  obtain ⟨front, hhead, hfront, -, htext⟩ := scientific_parts hlayout hdigits hne rfl
  have hpadded : (padded layout.exponentWidth lead.natAbs).toList ≠ [] ∧
      ∀ c ∈ (padded layout.exponentWidth lead.natAbs).toList, c.isDigit = true := by
    rw [padded, String.toList_append, String.toList_ofList]
    constructor
    · simp
    · intro c hc
      rcases List.mem_append.mp hc with hc | hc
      · exact isDigit_of_mem_zeros hc
      · exact Nat.isDigit_of_mem_toDigits (b := 10) (by decide) (by decide) (by simpa using hc)
  have hsign : (if lead < 0 then '-' else '+') = '-' ∨ (if lead < 0 then '-' else '+') = '+' := by
    split
    · exact .inl rfl
    · exact .inr rfl
  exact ⟨front, _, htext lead, hhead, hfront, .inr ⟨_, _, rfl, hsign, hpadded⟩⟩

/-! ## Texts of numbers -/

/-- The text of a finite number without its sign. -/
def body (layout : FloatLayout) (mantissa : Nat) (exponent : Int) : List Char :=
  if mantissa = 0 then ['0', '.', '0']
  else
    let (n, e) := Shortest.digits mantissa exponent
    let digits := Nat.toDigits 10 n
    let lead : Int := (digits.length : Int) + e - 1
    if layout.positionalFrom ≤ lead && lead < layout.positionalBelow then positional digits e
    else layout.scientific digits lead

theorem render_finite (layout : FloatLayout) (negative : Bool) (mantissa : Nat) (exponent : Int) :
    layout.render (.finite negative mantissa exponent) =
      (if negative then "-" else "") ++ String.ofList (layout.body mantissa exponent) :=
  rfl

variable {layout : FloatLayout} {mantissa : Nat} {exponent : Int}

theorem isDigit_of_mem_toDigits {k : Nat} : ∀ c ∈ Nat.toDigits 10 k, c.isDigit = true :=
  fun _ hc => Nat.isDigit_of_mem_toDigits (by decide) (by decide) hc

theorem toDigits_ne_nil (k : Nat) : Nat.toDigits 10 k ≠ [] :=
  List.ne_nil_of_length_pos Nat.length_toDigits_pos

theorem isBody_body (hlayout : layout.pointBeforeExponent = false) (mantissa : Nat) (exponent : Int) :
    IsBody (layout.body mantissa exponent) := by
  unfold body
  split
  · have hfront : ∀ c ∈ ['0', '.', '0'], c.isDigit = true ∨ c = '.' :=
      List.forall_mem_cons.mpr ⟨.inl rfl, List.forall_mem_cons.mpr ⟨.inr rfl, List.forall_mem_singleton.mpr (.inl rfl)⟩⟩
    exact ⟨_, [], (List.append_nil _).symm, rfl, hfront, .inl ⟨rfl, by simp⟩⟩
  · dsimp only
    split
    · exact isBody_positional isDigit_of_mem_toDigits (toDigits_ne_nil _) _
    · exact isBody_scientific hlayout isDigit_of_mem_toDigits (toDigits_ne_nil _) _

/-- The text of a number spells its shortest digits. -/
theorem decimalValue_body (hlayout : layout.pointBeforeExponent = false) (hmantissa : mantissa ≠ 0) :
    decimalValue (layout.body mantissa exponent) =
      (Shortest.digits mantissa exponent).1 * 10 ^ (Shortest.digits mantissa exponent).2 := by
  have hdigits := Nat.ofDigitChars_toDigits (b := 10) (n := (Shortest.digits mantissa exponent).1)
    (by decide) (by decide)
  unfold body
  rw [if_neg hmantissa]
  dsimp only
  split
  · exact decimalValue_positional isDigit_of_mem_toDigits (toDigits_ne_nil _) hdigits _
  · exact decimalValue_scientific hlayout isDigit_of_mem_toDigits (toDigits_ne_nil _) hdigits _

/-- The text of zero spells zero. -/
theorem decimalValue_body_zero : decimalValue (layout.body 0 exponent) = 0 := by
  have hdigits : ∀ c ∈ ['0'], c.isDigit = true := List.forall_mem_singleton.mpr rfl
  have htext : layout.body 0 exponent = ['0'] ++ '.' :: ['0'] := rfl
  rw [htext, decimalValue_of_noExponent (List.all_eq_true.mp rfl), pointValue_append hdigits]
  simp [Nat.ofDigitChars]

/-- What the text of a number spells reads back as the number. -/
theorem rounds_body (hlayout : layout.pointBeforeExponent = false)
    (hform : Binary64.WellFormedParts mantissa exponent) (hmantissa : mantissa ≠ 0) :
    Shortest.Rounds mantissa exponent (decimalValue (layout.body mantissa exponent)) := by
  rw [decimalValue_body hlayout hmantissa]
  exact Shortest.rounds_digits hform (Nat.pos_of_ne_zero hmantissa)

/-- Numbers whose texts agree but for their signs have one magnitude. -/
theorem body_inj (hlayout : layout.pointBeforeExponent = false) {m n : Nat} {e f : Int}
    (hm : Binary64.WellFormedParts m e) (hn : Binary64.WellFormedParts n f)
    (h : layout.body m e = layout.body n f) : m = n ∧ e = f := by
  have hzero : ∀ {m : Nat} {e : Int}, Binary64.WellFormedParts m e →
      (m = 0 ↔ decimalValue (layout.body m e) = 0) := by
    intro m e hm
    constructor
    · rintro rfl
      exact decimalValue_body_zero
    · intro hvalue
      by_contra hne
      exact ((rounds_body hlayout hm hne).pos (Nat.pos_of_ne_zero hne)).ne' hvalue
  by_cases hm0 : m = 0
  · have hn0 : n = 0 := (hzero hn).mpr (h ▸ (hzero hm).mp hm0)
    -- Zero is kept at the least exponent.
    have hexponent : ∀ {k : Nat} {e : Int}, Binary64.WellFormedParts k e → k = 0 →
        e = Binary64.leastExponent := by
      intro k e hk hk0
      rcases hk.normal with hnormal | hleast
      · omega
      · exact hleast
    exact ⟨hm0.trans hn0.symm, (hexponent hm hm0).trans (hexponent hn hn0).symm⟩
  · have hn0 : n ≠ 0 := fun hn0 => hm0 ((hzero hm).mpr (h ▸ (hzero hn).mp hn0))
    exact Shortest.eq_of_rounds hm hn (rounds_body hlayout hm hm0) (h ▸ rounds_body hlayout hn hn0)

/-- The text of a number without its sign starts with a digit. -/
theorem IsBody.head?_any {text : List Char} (h : IsBody text) : text.head?.any Char.isDigit = true := by
  obtain ⟨front, back, rfl, hhead, -⟩ := h
  cases front with
  | nil => cases hhead
  | cons c rest => exact hhead

/-- A sign in front of a text that does not start with one can be told from it. -/
theorem sign_append_inj {a b : Bool} {s t : String} (hs : s.toList.head? ≠ some '-')
    (ht : t.toList.head? ≠ some '-')
    (h : (if a then "-" else "") ++ s = (if b then "-" else "") ++ t) : a = b ∧ s = t := by
  have hchars := congrArg String.toList h
  rw [String.toList_append, String.toList_append] at hchars
  cases a <;> cases b
  · exact ⟨rfl, String.toList_inj.mp hchars⟩
  · have hhead := congrArg List.head? hchars
    exact absurd hhead hs
  · have hhead := congrArg List.head? hchars
    exact absurd hhead.symm ht
  · exact ⟨rfl, String.toList_inj.mp (List.append_cancel_left hchars)⟩

/-- The text of a number is that of its magnitude, or the word for infinity, behind a sign. -/
theorem render_cases (layout : FloatLayout) (hlayout : layout.pointBeforeExponent = false) {x : Binary64}
    (hx : ∀ mark, x ≠ .nan mark) : ∃ (negative : Bool) (text : List Char),
      (layout.render x).toList = (if negative then ['-'] else []) ++ text ∧
        (text = layout.infinity.toList ∨ IsBody text) := by
  cases x with
  | nan mark => exact absurd rfl (hx mark)
  | infinite negative => exact ⟨negative, _, by cases negative <;> simp [render], .inl rfl⟩
  | finite negative m e =>
      refine ⟨negative, _, ?_, .inr (isBody_body hlayout m e)⟩
      rw [render_finite]
      cases negative <;> simp

/-- The text of a number starts with a sign, a digit or the word for infinity. -/
theorem head?_render (hlayout : layout.pointBeforeExponent = false) {x : Binary64}
    (hx : ∀ mark, x ≠ .nan mark) {c : Char} (hc : (layout.render x).toList.head? = some c) :
    c.isDigit = true ∨ c = '-' ∨ layout.infinity.toList.head? = some c := by
  obtain ⟨negative, text, htext, hcases⟩ := render_cases layout hlayout hx
  rw [htext] at hc
  cases negative with
  | true => exact .inr (.inl (Option.some.inj hc).symm)
  | false =>
      rcases hcases with rfl | hbody
      · exact .inr (.inr hc)
      · have hdigit := hbody.head?_any
        rw [show text.head? = some c from hc] at hdigit
        exact .inl hdigit

/-- The text of a number has a point, an exponent or a word, so it is not that of an integer. -/
theorem exists_mark_render (layout : FloatLayout) (hlayout : layout.pointBeforeExponent = false)
    (hinfinity : layout.infinity.toList.any (fun c => !c.isDigit && c != '-') = true) {x : Binary64}
    (hx : ∀ mark, x ≠ .nan mark) : ∃ c ∈ (layout.render x).toList, c.isDigit = false ∧ c ≠ '-' := by
  obtain ⟨negative, text, htext, hcases⟩ := render_cases layout hlayout hx
  suffices ∃ c ∈ text, c.isDigit = false ∧ c ≠ '-' by
    obtain ⟨c, hc, hmark⟩ := this
    exact ⟨c, htext ▸ List.mem_append_right _ hc, hmark⟩
  rcases hcases with rfl | ⟨front, back, rfl, -, -, ⟨-, hpoint⟩ | ⟨sign, exponent, rfl, -⟩⟩
  · obtain ⟨c, hc, hmark⟩ := List.any_eq_true.mp hinfinity
    exact ⟨c, hc, by simpa using hmark⟩
  · exact ⟨'.', List.mem_append_left _ hpoint, by decide, by decide⟩
  · exact ⟨'e', List.mem_append_right _ List.mem_cons_self, by decide, by decide⟩

/-- Numbers with one text are equal. -/
theorem render_inj (hlayout : layout.pointBeforeExponent = false)
    (hinfinity : layout.infinity.toList.head?.any (fun c => !c.isDigit && c != '-') = true) {x y : Binary64}
    (hx : x.WellFormed) (hy : y.WellFormed) (hxnan : ∀ mark, x ≠ .nan mark) (hynan : ∀ mark, y ≠ .nan mark)
    (h : layout.render x = layout.render y) : x = y := by
  have hhead : ∀ m e, (String.ofList (layout.body m e)).toList.head? ≠ some '-' := by
    intro m e heq
    have hdigit := (isBody_body hlayout m e).head?_any
    rw [String.toList_ofList] at heq
    rw [heq] at hdigit
    cases hdigit
  have hword : layout.infinity.toList.head? ≠ some '-' := by
    intro heq
    rw [heq] at hinfinity
    cases hinfinity
  have hdiffer : ∀ m e, String.ofList (layout.body m e) ≠ layout.infinity := by
    intro m e heq
    have hdigit := (isBody_body hlayout m e).head?_any
    rw [← heq, String.toList_ofList] at hinfinity
    cases hfirst : (layout.body m e).head? with
    | none => rw [hfirst] at hdigit; cases hdigit
    | some c =>
        rw [hfirst] at hdigit hinfinity
        simp only [Option.any_some, Bool.and_eq_true, Bool.not_eq_true'] at hdigit hinfinity
        rw [hdigit] at hinfinity
        cases hinfinity.1
  cases x with
  | nan mark => exact absurd rfl (hxnan mark)
  | infinite a =>
      cases y with
      | nan mark => exact absurd rfl (hynan mark)
      | infinite b => rw [(sign_append_inj hword hword h).1]
      | finite b n f => exact absurd (sign_append_inj hword (hhead n f) h).2.symm (hdiffer n f)
  | finite a m e =>
      cases y with
      | nan mark => exact absurd rfl (hynan mark)
      | infinite b => exact absurd (sign_append_inj (hhead m e) hword h).2 (hdiffer m e)
      | finite b n f =>
          obtain ⟨rfl, hbody⟩ := sign_append_inj (hhead m e) (hhead n f) h
          obtain ⟨rfl, rfl⟩ := body_inj hlayout hx hy (String.ofList_injective hbody)
          rfl

end FloatLayout
end VersionedApi
