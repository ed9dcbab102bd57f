import StockVerification.Foundation.Text

/-!
# Stripped texts in one letter case

No letter is made of a space character or becomes one, so stripping and a mapping to one letter case
can change places, and all of them leave their own results alone.
-/
namespace StockVerification.Foundation.Text

/-- A character stays as it is, or is made into letters that stay and are no spaces. -/
def Settles (map : Char → List Char) : Prop :=
  ∀ c, map c = [c] ∨ isSpace c = false ∧ map c ≠ [] ∧ ∀ d ∈ map c, map d = [d] ∧ isSpace d = false

section

variable {map : Char → List Char}

theorem Settles.space (settles : Settles map) {c : Char} (space : isSpace c = true) : map c = [c] := by
  rcases settles c with same | ⟨letter, _⟩
  · exact same
  · rw [space] at letter
    cases letter

theorem Settles.letter (settles : Settles map) {c : Char} (letter : isSpace c = false) :
    map c ≠ [] ∧ ∀ d ∈ map c, isSpace d = false := by
  rcases settles c with same | ⟨_, filled, made⟩
  · rw [same]
    constructor
    · exact List.cons_ne_nil _ _
    · intro d member
      rw [List.mem_singleton.mp member]
      exact letter
  · exact ⟨filled, fun d member => (made d member).2⟩

theorem Settles.fixed (settles : Settles map) (c : Char) : ∀ d ∈ map c, map d = [d] := by
  rcases settles c with same | ⟨_, _, made⟩
  · rw [same]
    intro d member
    rw [List.mem_singleton.mp member]
    exact same
  · exact fun d member => (made d member).1

/-- A mapping that keeps spaces and makes letters of letters leaves as many spaces at the front. -/
theorem dropWhile_flatMap (space : ∀ c, isSpace c = true → map c = [c])
    (letter : ∀ c, isSpace c = false → map c ≠ [] ∧ ∀ d ∈ map c, isSpace d = false)
    (cs : List Char) : (cs.flatMap map).dropWhile isSpace = (cs.dropWhile isSpace).flatMap map := by
  induction cs with
  | nil => rfl
  | cons c rest ih =>
    cases kind : isSpace c with
    | true =>
      rw [List.flatMap_cons, space c kind, List.singleton_append, List.dropWhile_cons_of_pos kind,
        List.dropWhile_cons_of_pos kind, ih]
    | false =>
      rw [List.dropWhile_cons_of_neg (by simp [kind]), List.flatMap_cons]
      obtain ⟨filled, letters⟩ := letter c kind
      cases made : map c with
      | nil => exact absurd made filled
      | cons d others =>
        have first : isSpace d = false := letters d (by simp [made])
        rw [List.cons_append, List.dropWhile_cons_of_neg (by simp [first])]

theorem Settles.stripList (settles : Settles map) (cs : List Char) :
    Text.stripList (cs.flatMap map) = (Text.stripList cs).flatMap map := by
  have front := dropWhile_flatMap (fun c => settles.space (c := c)) fun c => settles.letter (c := c)
  have back := @dropWhile_flatMap (List.reverse ∘ map)
    (fun c space => by rw [Function.comp_apply, settles.space space, List.reverse_singleton])
    fun c letter => by
      obtain ⟨filled, letters⟩ := settles.letter letter
      exact ⟨by simpa using filled, by simpa using letters⟩
  rw [Text.stripList, Text.stripList, front, List.reverse_flatMap, back, List.reverse_flatMap]
  congr 1
  funext c
  exact List.reverse_reverse _

theorem Settles.flatMap_flatMap (settles : Settles map) (cs : List Char) :
    (cs.flatMap map).flatMap map = cs.flatMap map := by
  induction cs with
  | nil => rfl
  | cons c rest ih =>
    have made : ∀ ds : List Char, (∀ d ∈ ds, map d = [d]) → ds.flatMap map = ds := by
      intro ds each
      induction ds with
      | nil => rfl
      | cons d others step =>
        rw [List.flatMap_cons, each d (List.mem_cons_self ..),
          step fun e member => each e (List.mem_cons_of_mem _ member)]
        rfl
    rw [List.flatMap_cons, List.flatMap_append, made _ (settles.fixed c), ih]

end

theorem letter_not_space {n : ℕ} (low : 0x41 ≤ n) (high : n ≤ 0x7a) : spaces.contains n = false := by
  rw [List.contains_eq_mem, decide_eq_false_iff_not]
  simp only [spaces, List.mem_cons, List.not_mem_nil, or_false]
  omega

theorem upperChar_settles : Settles upperChar := by
  intro c
  have letters : ∀ n < 26, upperChar (Char.ofNat (0x41 + n)) = [Char.ofNat (0x41 + n)] ∧
      isSpace (Char.ofNat (0x41 + n)) = false := by
    decide
  by_cases same : upperChar c = [c]
  · exact Or.inl same
  · right
    unfold upperChar at same ⊢
    split
    · next small =>
      refine ⟨letter_not_space (by omega) small.2, List.cons_ne_nil _ _, ?_⟩
      intro d member
      have place : c.toNat - 0x20 = 0x41 + (c.toNat - 0x61) := by omega
      rw [List.mem_singleton.mp member, place]
      exact letters (c.toNat - 0x61) (by omega)
    · next large =>
      rw [if_neg large] at same
      split at same
      all_goals try exact absurd rfl same
      all_goals
        next code =>
          simp only [isSpace, code, List.forall_mem_cons, List.not_mem_nil, false_implies, implies_true]
          decide

theorem lowerChar_settles : Settles lowerChar := by
  intro c
  have letters : ∀ n < 26, lowerChar (Char.ofNat (0x61 + n)) = [Char.ofNat (0x61 + n)] ∧
      isSpace (Char.ofNat (0x61 + n)) = false := by
    decide
  by_cases same : lowerChar c = [c]
  · exact Or.inl same
  · right
    unfold lowerChar at same ⊢
    split
    · next large =>
      refine ⟨letter_not_space large.1 (by omega), List.cons_ne_nil _ _, ?_⟩
      intro d member
      have place : c.toNat + 0x20 = 0x61 + (c.toNat - 0x41) := by omega
      rw [List.mem_singleton.mp member, place]
      exact letters (c.toNat - 0x41) (by omega)
    · next small =>
      rw [if_neg small] at same
      split at same
      all_goals try exact absurd rfl same
      all_goals
        next code =>
          simp only [isSpace, code, List.forall_mem_cons, List.not_mem_nil, false_implies, implies_true]
          decide

variable (s : String)

theorem strip_upper : strip (upper s) = upper (strip s) := by
  rw [strip, upper, strip, upper, String.toList_ofList, String.toList_ofList, Settles.stripList upperChar_settles]

theorem strip_lower : strip (lower s) = lower (strip s) := by
  rw [strip, lower, strip, lower, String.toList_ofList, String.toList_ofList, Settles.stripList lowerChar_settles]

theorem upper_upper : upper (upper s) = upper s := by
  rw [upper, upper, String.toList_ofList, Settles.flatMap_flatMap upperChar_settles]

theorem lower_lower : lower (lower s) = lower s := by
  rw [lower, lower, String.toList_ofList, Settles.flatMap_flatMap lowerChar_settles]

theorem Settles.ne_nil (settles : Settles map) {cs : List Char} (filled : cs ≠ []) : cs.flatMap map ≠ [] := by
  intro blank
  cases cs with
  | nil => exact filled rfl
  | cons c rest =>
    rw [List.flatMap_cons, List.append_eq_nil_iff] at blank
    rcases settles c with same | ⟨_, made, _⟩
    · rw [same] at blank
      cases blank.1
    · exact made blank.1

theorem ofList_ne_empty {cs : List Char} (filled : cs ≠ []) : String.ofList cs ≠ "" := by
  intro blank
  rw [← String.toList_ofList (l := cs), blank] at filled
  exact filled rfl

theorem upper_ne_empty {s : String} (filled : s ≠ "") : upper s ≠ "" :=
  ofList_ne_empty (Settles.ne_nil upperChar_settles fun none_ => filled (String.toList_inj.mp none_))

theorem lower_ne_empty {s : String} (filled : s ≠ "") : lower s ≠ "" :=
  ofList_ne_empty (Settles.ne_nil lowerChar_settles fun none_ => filled (String.toList_inj.mp none_))

end StockVerification.Foundation.Text
