import VersionedApi.Model.Method
import VersionedApi.Proofs.Identifier.Forms

/-!
# Operation ids made of paths

An operation that declares no id is named by its method and its path, both in the snake form. The method
always stays a word of its own, in front of the words of the path. So two operations are called alike exactly
if they have the same method and paths of the same snake form, which paths of different shapes may have.

Main definitions: `Identifier.lowerWords`, the words that the snake form of a label joins.

Main results:

- `Identifier.lowerWords_method`: the words of a method with a path;
- `Identifier.operationId_eq_iff`: when two operations are called alike.
-/

namespace VersionedApi
namespace Identifier

/-! ## Words of labels -/

/-- The words of a label in small letters, which its snake form joins by underscores. -/
def lowerWords (label : List Char) : List (List Char) :=
  (words ((tokens label).flatMap capitalized)).map fun word => word.map Char.toLower

/-- The underscore that guards letters and digits is dropped with all that is neither. -/
theorem filter_guarded {name : List Char} (h : ∀ c ∈ name, c.isAlphanum = true) :
    (guarded name).filter Char.isAlphanum = name := by
  have hself := List.filter_eq_self.mpr h
  rw [guarded_eq]
  split
  · rw [List.filter_cons_of_neg (by decide), hself]
  · exact hself

theorem snakeChars_eq (label : List Char) :
    snakeChars label = guarded (['_'].intercalate (lowerWords label)) := by
  unfold snakeChars lowerWords camelChars
  rw [filter_guarded fun c hc => isAlphanum_of_mem_joined hc]

/-- No word is empty. -/
theorem ne_nil_of_mem_words {run word : List Char} (h : word ∈ words run) : word ≠ [] := by
  fun_induction words run with
  | case1 => cases h
  | case2 c => simp [List.mem_singleton.mp h]
  | case3 a b rest hend ih =>
      rcases List.mem_cons.mp h with rfl | h
      · simp
      · exact ih h
  | case4 a b rest hend hnone ih => simp [List.mem_singleton.mp h]
  | case5 a b rest hend first others hfound ih =>
      rcases List.mem_cons.mp h with rfl | h
      · simp
      · exact ih (hfound ▸ List.mem_cons_of_mem _ h)

/-- A word of a label is not empty, and consists of letters and digits. -/
theorem lowerWord_spec {label word : List Char} (h : word ∈ lowerWords label) :
    word ≠ [] ∧ ∀ c ∈ word, c.isAlphanum = true := by
  obtain ⟨found, hfound, rfl⟩ := List.mem_map.mp h
  refine ⟨by simpa using ne_nil_of_mem_words hfound, fun c hc => ?_⟩
  obtain ⟨d, hd, rfl⟩ := List.mem_map.mp hc
  exact isAlphanum_toLower (isAlphanum_of_mem_joined (subset_of_mem_words hfound hd))

/-! ## Joined words -/

/-- Words that are joined start with the first one. -/
theorem intercalate_cons (word : List Char) (others : List (List Char)) :
    ['_'].intercalate (word :: others) =
      word ++ if others = [] then [] else '_' :: ['_'].intercalate others := by
  cases others with
  | nil => simp
  | cons next rest => simp [List.intercalate_cons_cons]

/-- Nothing is joined to nothing only if there are no words. -/
theorem intercalate_eq_nil_iff {parts : List (List Char)} (h : ∀ word ∈ parts, word ≠ []) :
    ['_'].intercalate parts = [] ↔ parts = [] := by
  cases parts with
  | nil => simp
  | cons word others => simp [intercalate_cons, h word List.mem_cons_self]

/-- What stands in front of an underscore can be read off. -/
theorem append_inj_of_underscore {front front' back back' : List Char} (hfront : '_' ∉ front)
    (hfront' : '_' ∉ front') (hback : ∀ c, back.head? = some c → c = '_')
    (hback' : ∀ c, back'.head? = some c → c = '_') :
    front ++ back = front' ++ back' ↔ front = front' ∧ back = back' := by
  have htake : ∀ {front back : List Char}, '_' ∉ front → (∀ c, back.head? = some c → c = '_') →
      (front ++ back).takeWhile (fun c => c != '_') = front := by
    intro front back hfront hback
    rw [List.takeWhile_append_of_pos fun c hc => by simpa using ne_of_mem_of_not_mem hc hfront]
    cases back with
    | nil => simp
    | cons c rest => simp [hback c rfl]
  constructor
  · intro h
    have heq : front = front' := by rw [← htake hfront hback, h, htake hfront' hback']
    exact ⟨heq, List.append_cancel_left (heq ▸ h)⟩
  · rintro ⟨rfl, rfl⟩
    rfl

/-- The first of several words can be read off what they are joined to, and what the others are joined to. -/
theorem intercalate_cons_inj {word word' : List Char} {others others' : List (List Char)}
    (hword : '_' ∉ word) (hword' : '_' ∉ word') (hothers : ∀ w ∈ others, w ≠ [])
    (hothers' : ∀ w ∈ others', w ≠ []) :
    ['_'].intercalate (word :: others) = ['_'].intercalate (word' :: others') ↔
      word = word' ∧ ['_'].intercalate others = ['_'].intercalate others' := by
  have hhead : ∀ (others : List (List Char)) c,
      (if others = [] then [] else '_' :: ['_'].intercalate others).head? = some c → c = '_' := by
    intro others c h
    split at h
    · cases h
    · exact (Option.some.inj h).symm
  rw [intercalate_cons, intercalate_cons, append_inj_of_underscore hword hword' (hhead _) (hhead _)]
  refine and_congr_right fun _ => ?_
  simp only [← intercalate_eq_nil_iff hothers, ← intercalate_eq_nil_iff hothers']
  generalize ['_'].intercalate others = joined
  generalize ['_'].intercalate others' = joined'
  cases joined <;> cases joined' <;> simp

/-- What is guarded can be read off, since it does not start with an underscore itself. -/
theorem guarded_inj {name name' : List Char} (h : name.head? ≠ some '_') (h' : name'.head? ≠ some '_') :
    guarded name = guarded name' ↔ name = name' := by
  refine ⟨fun heq => ?_, congrArg guarded⟩
  rw [guarded_eq, guarded_eq] at heq
  split at heq <;> split at heq
  · exact List.cons.inj heq |>.2
  · exact absurd (congrArg List.head? heq).symm h'
  · exact absurd (congrArg List.head? heq) h
  · exact heq

/-! ## Words of methods and paths -/

/-- What holds of the small letters among the first characters holds of all small letters. -/
theorem forall_isLower {p : Char → Prop} (h : ∀ n < 123, (Char.ofNat n).isLower = true → p (Char.ofNat n))
    {c : Char} (hc : c.isLower = true) : p c := by
  have halnum : c.isAlphanum = true := by
    show (c.isUpper || c.isLower || c.isDigit) = true
    simp [hc]
  exact forall_isAlphanum (p := fun c => c.isLower = true → p c) (fun n hn _ => h n hn) halnum hc

/-- A small letter is no digit and no capital, and becomes a capital that becomes the letter again. -/
theorem isLower_spec {c : Char} (h : c.isLower = true) : c.isAlphanum = true ∧ c.isDigit = false ∧
    c.isUpper = false ∧ c.toLower = c ∧ c.toUpper.toLower = c ∧ c.toUpper.isUpper = true ∧
    c.toUpper.isLower = false ∧ c.toUpper.isDigit = false ∧ c ≠ '_' :=
  forall_isLower (p := fun c => c.isAlphanum = true ∧ c.isDigit = false ∧ c.isUpper = false ∧
    c.toLower = c ∧ c.toUpper.toLower = c ∧ c.toUpper.isUpper = true ∧ c.toUpper.isLower = false ∧
    c.toUpper.isDigit = false ∧ c ≠ '_') (by decide) h

/-- Letters and digits in front of a space are a token. -/
theorem tokens_append_space {front : List Char} (hne : front ≠ [])
    (h : ∀ c ∈ front, c.isAlphanum = true) (rest : List Char) :
    tokens (front ++ ' ' :: rest) = front :: tokens rest := by
  have hspace : tokens (' ' :: rest) = tokens rest := (tokens.eq_def _).trans (if_neg (by decide))
  induction front with
  | nil => exact absurd rfl hne
  | cons c others ih =>
      obtain ⟨hc, hothers⟩ := List.forall_mem_cons.mp h
      cases others with
      | nil => rw [List.cons_append, List.nil_append, tokens, if_pos hc, if_neg (by decide), hspace]
      | cons d more =>
          have hd := (List.forall_mem_cons.mp hothers).1
          have hrest := ih (by simp) hothers
          rw [List.cons_append, List.cons_append, tokens, if_pos hc, if_pos hd]
          rw [List.cons_append] at hrest
          rw [hrest]

/-- Small letters are a word in front of a capital or a digit. -/
theorem words_append_of_isLower {front run : List Char} (hne : front ≠ [])
    (h : ∀ c ∈ front, c.isLower = true)
    (hrun : ∀ c, run.head? = some c → c.isUpper = true ∨ c.isDigit = true) :
    words (front ++ run) = front :: words run := by
  induction front with
  | nil => exact absurd rfl hne
  | cons a others ih =>
      obtain ⟨ha, hothers⟩ := List.forall_mem_cons.mp h
      obtain ⟨-, hdigit, -⟩ := isLower_spec ha
      cases others with
      | nil =>
          cases run with
          | nil => rfl
          | cons b rest =>
              have hend : wordEnds a b rest = true := by
                rcases hrun b rfl with hb | hb <;> simp [wordEnds, hdigit, ha, hb]
              rw [List.cons_append, List.nil_append, words, if_pos hend]
      | cons b rest =>
          obtain ⟨-, hdigit', hupper', -⟩ := isLower_spec (List.forall_mem_cons.mp hothers).1
          have hgoes : wordEnds a b (rest ++ run) = false := by
            simp [wordEnds, hdigit, hdigit', ha, hupper']
          have hrest := ih (by simp) hothers
          rw [List.cons_append] at hrest
          rw [List.cons_append, List.cons_append, words, if_neg (by simp [hgoes]), hrest]

/-- The name of a method consists of several small letters. -/
theorem name_spec (m : Method) : ∃ c d rest, m.name.toList = c :: d :: rest ∧
    ∀ c ∈ m.name.toList, c.isLower = true := by
  cases m <;> exact ⟨_, _, _, rfl, List.all_eq_true.mp (by decide)⟩

/-- A method is a word of its own in front of the words of a path. -/
theorem lowerWords_method (m : Method) (path : List Char) :
    lowerWords (m.name.toList ++ ' ' :: path) = m.name.toList :: lowerWords path := by
  obtain ⟨c, d, rest, hname, hlower⟩ := name_spec m
  rw [hname] at hlower ⊢
  obtain ⟨hc, hothers⟩ := List.forall_mem_cons.mp hlower
  obtain ⟨-, -, -, -, hback, hupper, hlower', hdigit, -⟩ := isLower_spec hc
  obtain ⟨-, hdigit', hupper', -⟩ := isLower_spec (List.forall_mem_cons.mp hothers).1
  have htokens := tokens_append_space (List.cons_ne_nil c (d :: rest))
    (fun c hmem => (isLower_spec (hlower c hmem)).1) path
  -- The first letter has become a capital, and the word goes on behind it.
  have hgoes : wordEnds c.toUpper d (rest ++ (tokens path).flatMap capitalized) = false := by
    simp [wordEnds, hdigit, hdigit', hlower', hupper']
  have hwords := words_append_of_isLower (List.cons_ne_nil d rest) hothers
    fun _ => @head?_joined path _
  rw [List.cons_append] at hwords
  have hsame : (d :: rest).map Char.toLower = d :: rest :=
    List.map_congr_left (fun c hmem => (isLower_spec (hothers c hmem)).2.2.2.1) |>.trans (List.map_id _)
  rw [lowerWords, htokens, List.flatMap_cons, capitalized, List.cons_append, List.cons_append, words,
    if_neg (by simp [hgoes]), hwords]
  dsimp only
  rw [List.map_cons, List.map_cons, hback, hsame, lowerWords]

/-- The id of an operation joins the method and the words of the path. -/
theorem toList_operationId (m : Method) (path : String) :
    (operationId m.name path).toList = ['_'].intercalate (m.name.toList :: lowerWords path.toList) := by
  obtain ⟨c, d, rest, hname, hlower⟩ := name_spec m
  have hlabel : (m.name ++ " " ++ path).toList = m.name.toList ++ ' ' :: path.toList := by simp
  rw [operationId, snake, String.toList_ofList, hlabel, snakeChars_eq, lowerWords_method, guarded_eq,
    intercalate_cons, hname]
  have hc := (isLower_spec (hlower c (by simp [hname]))).2.1
  simp [hc]

/-- Joined words of a label do not start with an underscore. -/
theorem head?_joinedWords (label : List Char) : (['_'].intercalate (lowerWords label)).head? ≠ some '_' := by
  cases hwords : lowerWords label with
  | nil => simp
  | cons word others =>
      obtain ⟨hne, halnum⟩ := lowerWord_spec (hwords ▸ List.mem_cons_self)
      obtain ⟨c, rest, rfl⟩ := List.exists_cons_of_ne_nil hne
      have hc := halnum c List.mem_cons_self
      rw [intercalate_cons, List.cons_append, List.head?_cons]
      rintro ⟨⟩
      exact absurd hc (by decide)

/-- Two operations without ids are called alike exactly if they have the same method and paths of the same
snake form. -/
theorem operationId_eq_iff (m m' : Method) (path path' : String) :
    operationId m.name path = operationId m'.name path' ↔ m = m' ∧ snake path = snake path' := by
  have hword : ∀ m : Method, '_' ∉ m.name.toList := by
    intro m
    cases m <;> decide
  have hne : ∀ {label : List Char}, ∀ w ∈ lowerWords label, w ≠ [] := fun w hw => (lowerWord_spec hw).1
  have hname : m.name.toList = m'.name.toList ↔ m = m' := by
    rw [String.toList_inj]
    exact ⟨fun h => Option.some.inj (by rw [← Method.ofName?_name m, h, Method.ofName?_name]), congrArg _⟩
  rw [← String.toList_inj, toList_operationId, toList_operationId, intercalate_cons_inj (hword m) (hword m')
    hne hne, hname, snake, snake, String.ofList_inj, snakeChars_eq, snakeChars_eq,
    guarded_inj (head?_joinedWords _) (head?_joinedWords _)]

end Identifier
end VersionedApi
