import StockVerification.PieceSubstitutions

/-!
# Queries that pass the read-only guard

What is left of a query is collapsed, trimmed and upper-cased before the keywords are searched in
it. A keyword that is a word of the query is still there, with the edges it had.
-/
namespace StockVerification

open Foundation Foundation.Text

variable {letter : Char → Bool} {a b s t u w : List Char} {c : Char}

theorem dropWhile_append_stop (stop : ∀ c, s.head? = some c → p c = false) :
    (a ++ s).dropWhile p = a.dropWhile p ++ s := by
  induction a with
  | nil =>
    cases s with
    | nil => rfl
    | cons c s => exact List.dropWhile_cons_of_neg (by simp [stop c rfl])
  | cons c a ih =>
    by_cases dropped : p c = true
    · rw [List.cons_append, List.dropWhile_cons_of_pos dropped, List.dropWhile_cons_of_pos dropped, ih]
    · rw [List.cons_append, List.dropWhile_cons_of_neg dropped, List.dropWhile_cons_of_neg dropped, List.cons_append]

theorem collapse_space (space : isSpace c = true) (s : List Char) :
    collapse (c :: s) = ' ' :: collapse (s.dropWhile isSpace) := by
  have run : spaceRun (c :: s) = some (s.dropWhile isSpace) := by rw [spaceRun, if_pos space]
  exact substitute_match spaceRun_shrinks run

theorem collapse_other (other : isSpace c = false) (s : List Char) :
    collapse (c :: s) = c :: collapse s := substitute_copy spaceRun_shrinks (spaceRun_none other)

/-- By the number of characters: a run of space is left in one step. -/
theorem collapse_append (stop : ∀ c, s.head? = some c → isSpace c = false) :
    collapse (a ++ s) = collapse a ++ collapse s := by
  induction length : a.length using Nat.strongRecOn generalizing a with
  | ind n ih =>
    cases a with
    | nil => rfl
    | cons c a =>
      rw [List.length_cons] at length
      rw [List.cons_append]
      cases space : isSpace c with
      | true =>
        have shorter := (List.dropWhile_suffix (l := a) isSpace).length_le
        rw [collapse_space space, collapse_space space, dropWhile_append_stop stop,
          ih _ (by omega) rfl, List.cons_append]
      | false =>
        rw [collapse_other space, collapse_other space, ih _ (by omega) rfl, List.cons_append]

theorem collapse_word (word : ∀ c ∈ w, isSpace c = false) : collapse (w ++ s) = w ++ collapse s :=
  substitute_append spaceRun_shrinks (.of_heads fun c member _ => spaceRun_none (word c member))

theorem collapse_spaces (spaces : ∀ c ∈ a, isSpace c = true) : ∀ c ∈ collapse a, isSpace c = true := by
  cases a with
  | nil =>
    nofun
  | cons d a =>
    have dropped : a.dropWhile isSpace = [] :=
      List.dropWhile_eq_nil_iff.mpr fun c member => spaces c (List.mem_cons_of_mem _ member)
    rw [collapse_space (spaces d List.mem_cons_self), dropped]
    intro c member
    rw [List.mem_singleton.mp member]
    decide

theorem collapse_getLast (last : a.getLast? = some c) (boundary : Boundary letter c) :
    ∃ d, (collapse a).getLast? = some d ∧ Boundary letter d := by
  induction length : a.length using Nat.strongRecOn generalizing a with
  | ind n ih =>
    have behind : ∀ {d : Char} {s : List Char}, (∃ e, (collapse s).getLast? = some e ∧ Boundary letter e) →
        ∃ e, (d :: collapse s).getLast? = some e ∧ Boundary letter e := by
      intro d s ⟨e, final, ends⟩
      refine ⟨e, ?_, ends⟩
      rw [List.getLast?_cons, final]
      rfl
    cases a with
    | nil => cases last
    | cons d a =>
      rw [List.length_cons] at length
      cases space : isSpace d with
      | true =>
        rw [collapse_space space]
        by_cases empty : a.dropWhile isSpace = []
        · rw [empty]
          exact ⟨' ', rfl, .of_kept (by decide) rfl⟩
        · have suffix := List.dropWhile_suffix (l := a) isSpace
          have shorter := suffix.length_le
          obtain ⟨front, text⟩ := suffix
          apply behind
          refine ih _ (by omega) ?_ rfl
          rw [← text, ← List.cons_append, List.getLast?_append_of_ne_nil _ empty] at last
          exact last
      | false =>
        rw [collapse_other space]
        cases a with
        | nil =>
          rw [List.getLast?_singleton, Option.some.injEq] at last
          subst last
          exact ⟨d, rfl, boundary⟩
        | cons e a =>
          rw [List.getLast?_cons_cons] at last
          exact behind (ih _ (by omega) last rfl)

theorem collapse_head (first : (collapse s).head? = some c)
    (opens : ∀ d, s.head? = some d → Boundary letter d) : Boundary letter c := by
  obtain before | instead := substitute_head spaceRun_shrinks (List.cons_ne_nil ' ' []) first
  · exact opens c before
  · cases instead
    exact .of_kept (by decide) rfl

theorem rdropWhile_append_stop (stop : ∀ c, s.getLast? = some c → p c = false) :
    (s ++ t).rdropWhile p = s ++ t.rdropWhile p := by
  have ends : ∀ c, s.reverse.head? = some c → p c = false := by
    intro c same
    rw [List.head?_reverse] at same
    exact stop c same
  rw [List.rdropWhile, List.rdropWhile, List.reverse_append, dropWhile_append_stop ends,
    List.reverse_append, List.reverse_reverse]

variable {y x : List Char}

theorem normalizeQuery_around (filled : w ≠ []) (word : ∀ c ∈ w, isSpace c = false) :
    normalizeQuery (x ++ (w ++ y)) = ((collapse x).dropWhile isSpace).flatMap upperCase ++
      (w.flatMap upperCase ++ ((collapse y).rdropWhile isSpace).flatMap upperCase) := by
  have front : ∀ s c, (w ++ s).head? = some c → isSpace c = false := by
    intro s c first
    rw [List.head?_append_of_ne_nil _ filled] at first
    exact word c (List.mem_of_mem_head? first)
  have back : ∀ s c, (s ++ w).getLast? = some c → isSpace c = false := by
    intro s c last
    rw [List.getLast?_append_of_ne_nil _ filled] at last
    exact word c (List.mem_of_mem_getLast? last)
  have trimmed : ∀ cs : List Char, stripList cs = (cs.dropWhile isSpace).rdropWhile isSpace := fun _ => rfl
  rw [normalizeQuery, collapse_append (front y), collapse_word word, trimmed, dropWhile_append_stop (front _), ←
    List.append_assoc, rdropWhile_append_stop (back _), List.append_assoc, List.flatMap_append, List.flatMap_append]

/-- The word is searched from left to right; what stands before it does not belong to a word. -/
theorem searchWord_found {token : List Char} {before : Option Char} (filled : token ≠ [])
    (starts : ∀ c, x = [] → before = some c → wordChar letter c = false)
    (last : ∀ c, x.getLast? = some c → wordChar letter c = false)
    (next : ∀ c, y.head? = some c → wordChar letter c = false) :
    searchWord letter token before (x ++ (token ++ y)) = true := by
  induction x generalizing before with
  | nil =>
    cases text : token with
    | nil => exact absurd text filled
    | cons d rest =>
      rw [List.nil_append, List.cons_append, searchWord, ← List.cons_append, ← text, List.drop_left]
      have left : before.any (wordChar letter) = false := by
        cases before with
        | none => rfl
        | some c => exact starts c rfl rfl
      have right : y.head?.any (wordChar letter) = false := by
        cases first : y.head? with
        | none => rfl
        | some c => exact next c first
      have found : token.isPrefixOf (token ++ y) = true := List.isPrefixOf_iff_prefix.mpr (List.prefix_append _ _)
      rw [left, right, found]
      rfl
  | cons c x ih =>
    have later : searchWord letter token (some c) (x ++ (token ++ y)) = true := by
      apply ih
      · intro d empty same
        cases same
        exact last c (by rw [empty]; rfl)
      · intro d final
        apply last d
        rw [List.getLast?_cons, final]
        rfl
    rw [List.cons_append, searchWord, later, Bool.or_true]

theorem upperCase_ne_nil (c : Char) : upperCase c ≠ [] := by
  rw [upperCase, upperChar]
  split_ifs
  · simp
  · simp
  · split <;> simp

theorem upper_getLast (last : s.getLast? = some c) (boundary : Boundary letter c) {d : Char}
    (upper : (s.flatMap upperCase).getLast? = some d) : wordChar letter d = false := by
  obtain ⟨front, text⟩ := List.getLast?_eq_some_iff.mp last
  rw [text, List.flatMap_append, List.flatMap_singleton, List.getLast?_append_of_ne_nil _ (upperCase_ne_nil c)] at upper
  exact boundary.upper d (List.mem_of_mem_getLast? upper)

theorem upper_head {rest : List Char} (boundary : Boundary letter c) {d : Char}
    (upper : ((c :: rest).flatMap upperCase).head? = some d) : wordChar letter d = false := by
  rw [List.flatMap_cons, List.head?_append_of_ne_nil _ (upperCase_ne_nil c)] at upper
  exact boundary.upper d (List.mem_of_mem_head? upper)

variable {d : Char}

theorem trimmed_head {rest : List Char} (kept : (collapse y).rdropWhile isSpace = d :: rest)
    (opens : ∀ c, y.head? = some c → Boundary letter c) : Boundary letter d := by
  obtain ⟨back, text⟩ := List.rdropWhile_prefix isSpace (collapse y)
  rw [kept] at text
  exact collapse_head (by rw [← text]; rfl) opens

variable {token : String}

/-- A disallowed word is found when what stands around it does not belong to words. -/
theorem containsDisallowedToken_found (upper : w.flatMap upperCase = token.toList) (filled : w ≠ [])
    (named : token.toList ≠ []) (word : ∀ c ∈ w, isSpace c = false)
    (before : ∀ c, x.getLast? = some c → Boundary letter c) (after : ∀ c, y.head? = some c → Boundary letter c) :
    containsDisallowedToken letter (normalizeQuery (x ++ (w ++ y))) token = true := by
  rw [normalizeQuery_around filled word, containsDisallowedToken, upper]
  apply searchWord_found named
  · nofun
  · intro c last
    cases kept : (collapse x).dropWhile isSpace with
    | nil =>
      rw [kept] at last
      cases last
    | cons d rest =>
      have filled_x : x ≠ [] := by
        intro empty
        rw [empty] at kept
        cases kept
      obtain ⟨e, final, boundary⟩ := collapse_getLast (List.getLast?_eq_some_getLast filled_x)
        (before _ (List.getLast?_eq_some_getLast filled_x))
      obtain ⟨front, text⟩ := List.dropWhile_suffix (l := collapse x) isSpace
      rw [kept] at text
      rw [← text, List.getLast?_append_of_ne_nil _ (List.cons_ne_nil d rest)] at final
      rw [kept] at last
      exact upper_getLast final boundary last
  · intro c first
    cases kept : (collapse y).rdropWhile isSpace with
    | nil =>
      rw [kept] at first
      cases first
    | cons d rest =>
      rw [kept] at first
      exact upper_head (trimmed_head kept after) first

theorem wordChar_of_stop (stop : identChar letter c = false) : wordChar letter c = false := by
  rw [identChar, Bool.or_eq_false_iff, Bool.or_eq_false_iff, Bool.or_eq_false_iff] at stop
  exact stop.1.1.1

theorem letter_of_stop {p : SqlPiece} (stop : p.letter (identChar letter) = none) :
    p.letter (wordChar letter) = none := by
  cases p with
  | char c =>
    have outside : identChar letter c = false := by simpa [SqlPiece.letter] using stop
    simp [SqlPiece.letter, wordChar_of_stop outside]
  | _ => rfl

theorem wordChar_spaced (c : Char) (space : isSpace c = true) : wordChar letter c = false := by
  have outside : ∀ n ∈ spaces, ¬(0x30 ≤ n ∧ n ≤ 0x39) ∧ ¬(0x41 ≤ n ∧ n ≤ 0x5a) ∧ n ≠ 0x5f ∧ ¬(0x61 ≤ n ∧ n ≤ 0x7a) := by
    decide
  have member : c.toNat ∈ spaces := List.contains_iff_mem.mp space
  obtain ⟨digit, upper, mark, lower⟩ := outside _ member
  have notMark : c ≠ '_' := by
    intro same
    rw [same] at mark
    exact mark rfl
  simp only [wordChar, notMark, space, decide_false, Bool.not_true, Bool.and_false, Bool.false_and,
    Bool.or_false, Bool.or_eq_false_iff, Bool.and_eq_false_iff, decide_eq_false_iff_not]
  omega

theorem identChar_spaced (c : Char) (space : isSpace c = true) : identChar letter c = false := by
  have marks : c ≠ '@' ∧ c ≠ '#' ∧ c ≠ '$' := by
    refine ⟨?_, ?_, ?_⟩ <;>
    · intro same
      rw [same] at space
      cases space
  rw [identChar, wordChar_spaced c space]
  simp [marks]

theorem identChar_plain (inside : identChar letter c = true) :
    c ≠ '/' ∧ c ≠ '-' ∧ c ≠ quoteMark ∧ c ≠ doubleMark ∧ c ≠ '[' ∧ c ≠ ';' := by
  refine ⟨?_, ?_, ?_, ?_, ?_, ?_⟩ <;>
  · intro same
    rw [same] at inside
    cases inside

theorem Foundation.AllPieces.closed (more : u ≠ []) {pieces : List SqlPiece}
    (formed : AllFormed u pieces) : ∀ p ∈ pieces, p.Closed := by
  induction pieces with
  | nil => simp
  | cons p rest ih =>
    obtain ⟨here, later⟩ := formed
    intro q member
    obtain same | left := List.mem_cons.mp member
    · subst same
      have filled : sqlText rest ++ u ≠ [] := by simp [more]
      match q with
      | .char _ | .enclosed _ _ | .line _ | .block _ => trivial
      | .unclosed none _ => exact absurd here.1 filled
      | .unclosed (some _) _ => exact absurd here filled
    · exact ih later q left

/-- What follows a word, before any substitution. -/
theorem stops_boundary {pieces : List SqlPiece} (stops : StopsWord (identChar letter) pieces)
    (edge : ∀ d, (sqlText pieces).head? = some d → keepsEdge letter d = true)
    (first : (sqlText pieces).head? = some c) : Boundary letter c := by
  have mark : ∀ {d : Char}, upperCase d = [d] → wordChar letter d = false → some d = some c → Boundary letter c := by
    intro d kept outside same
    cases same
    exact .of_kept kept outside
  match pieces with
  | [] => cases first
  | .char d :: rest =>
    have stop := letter_of_stop (stops _ _ rfl)
    have outside : wordChar letter d = false := by simpa [SqlPiece.letter] using stop
    cases first
    exact .of_keepsEdge (edge _ rfl) outside
  | .enclosed .literal _ :: _ | .unclosed (some .literal) _ :: _ => exact mark (d := quoteMark) (by decide) rfl first
  | .enclosed .quoted _ :: _ | .unclosed (some .quoted) _ :: _ => exact mark (d := doubleMark) (by decide) rfl first
  | .enclosed .bracketed _ :: _ | .unclosed (some .bracketed) _ :: _ => exact mark (d := '[') (by decide) rfl first
  | .line _ :: _ => exact mark (d := '-') (by decide) rfl first
  | .block _ :: _ | .unclosed none _ :: _ => exact mark (d := '/') (by decide) rfl first

theorem sqlText_chars (w : List Char) : sqlText (w.map SqlPiece.char) = w := by
  induction w with
  | nil => rfl
  | cons c w ih => rw [List.map_cons, sqlText_cons, ih, SqlPiece.text, List.singleton_append]

/-- The edge after a word. -/
theorem edge_after {rest : List SqlPiece} (filled : w ≠ []) (letters : ∀ c ∈ w, identChar letter c = true)
    (apart : AllPieces (SqlPiece.Apart letter) [] (w.map SqlPiece.char ++ rest)) :
    ∀ d, (sqlText rest).head? = some d → keepsEdge letter d = true := by
  intro d first
  obtain ⟨front, last, rfl⟩ := (List.eq_nil_or_concat w).resolve_left filled
  rw [List.concat_eq_append, List.map_append, List.append_assoc] at apart
  have follows : AllPieces (SqlPiece.Apart letter) [] (.char last :: rest) := apart.split.2
  have edge := follows.1
  rw [List.append_nil] at edge
  exact (edge d first).1 (letters last (by simp))

def asciiUpper (c : Char) : Char := if 0x61 ≤ c.toNat ∧ c.toNat ≤ 0x7a then Char.ofNat (c.toNat - 0x20) else c

theorem upperCase_ascii (ascii : c.toNat < 128) : upperCase c = [asciiUpper c] := by
  rw [upperCase, if_neg (by omega), upperChar, asciiUpper]
  by_cases small : 0x61 ≤ c.toNat ∧ c.toNat ≤ 0x7a
  · rw [if_pos small, if_pos small]
  · rw [if_neg small, if_neg small]
    split
    all_goals first | omega | rfl

/-- The keyword that a word is. -/
def keyword (w : List Char) : List Char := w.map asciiUpper

theorem keyword_upper (ascii : ∀ c ∈ w, c.toNat < 128) : w.flatMap upperCase = keyword w := by
  induction w with
  | nil => rfl
  | cons c w ih =>
    rw [List.flatMap_cons, upperCase_ascii (ascii c List.mem_cons_self),
      ih fun d member => ascii d (List.mem_cons_of_mem _ member)]
    rfl

theorem asciiUpper_small (small : (asciiUpper c).toNat < 128) : c.toNat < 128 := by
  by_cases lower : 0x61 ≤ c.toNat ∧ c.toNat ≤ 0x7a
  · omega
  · rwa [asciiUpper, if_neg lower] at small

def disallowedTokens : List String := disallowedBatchTokens ++ disallowedSqlKeywords ++ disallowedSelectKeywords

structure ReadOnlyTokens (tokens : List SqlToken) : Prop where
  starts : ∃ w, tokens.head? = some (.word w) ∧ (keyword w = "SELECT".toList ∨ keyword w = "WITH".toList)
  single : .symbol ';' ∉ tokens
  harmless : ∀ w, .word w ∈ tokens → ∀ token ∈ disallowedTokens, keyword w ≠ token.toList

theorem assertNoDisallowedTokens_ok {normalized : List Char} {tokens : List String} {message : String}
    (accepted : assertNoDisallowedTokens letter normalized tokens message = .ok ()) :
    ∀ token ∈ tokens, containsDisallowedToken letter normalized token = false := by
  rw [assertNoDisallowedTokens] at accepted
  by_cases found : tokens.any (containsDisallowedToken letter normalized) = true
  · rw [if_pos found] at accepted
    cases accepted
  · intro token member
    rw [Bool.not_eq_true, List.any_eq_false] at found
    exact Bool.eq_false_iff.mpr (found token member)

theorem checks_ok {x y : Except ErpQueryError Unit} (passed : (x >>= fun _ => y) = .ok ()) : x = .ok () ∧ y = .ok () := by
  cases x with
  | error e => cases passed
  | ok u => exact ⟨rfl, passed⟩

/-- What an accepted query passed. -/
theorem assertReadOnlyQuery_ok {query : String} (accepted : assertReadOnlyQuery letter query = .ok ()) :
    let sanitized := stripSqlCommentsAndLiterals query.toList
    let normalized := normalizeQuery sanitized
    ("SELECT ".toList <+: normalized ∨ "WITH ".toList <+: normalized) ∧ ';' ∉ sanitized ∧
      ∀ token ∈ disallowedTokens,
        containsDisallowedToken letter normalized token = false := by
  intro sanitized normalized
  by_cases empty : query = ""
  · rw [assertReadOnlyQuery, if_pos empty] at accepted
    cases accepted
  · by_cases blank : normalized = []
    · rw [assertReadOnlyQuery, if_neg empty, if_pos blank] at accepted
      cases accepted
    · rw [assertReadOnlyQuery, if_neg empty, if_neg blank] at accepted
      obtain ⟨started, accepted⟩ := checks_ok accepted
      obtain ⟨single, accepted⟩ := checks_ok accepted
      obtain ⟨batch, accepted⟩ := checks_ok accepted
      obtain ⟨keywords, select⟩ := checks_ok accepted
      refine ⟨?_, ?_, ?_⟩
      · rw [assertSelectOnlyPrefix] at started
        by_cases prefixed : ("SELECT ".toList.isPrefixOf normalized || "WITH ".toList.isPrefixOf normalized) = true
        · rwa [Bool.or_eq_true, List.isPrefixOf_iff_prefix, List.isPrefixOf_iff_prefix] at prefixed
        · rw [if_neg prefixed] at started
          cases started
      · intro member
        rw [assertNoMultiStatement, if_pos (List.contains_iff_mem.mpr member)] at single
        cases single
      · intro token member
        rw [disallowedTokens, List.mem_append, List.mem_append] at member
        obtain (first | second) | third := member
        · exact assertNoDisallowedTokens_ok batch token first
        · exact assertNoDisallowedTokens_ok keywords token second
        · exact assertNoDisallowedTokens_ok select token third

theorem normalizeQuery_lead (spaces : ∀ c ∈ s, isSpace c = true) (filled : w ≠ []) (word : ∀ c ∈ w, isSpace c = false) :
    normalizeQuery (s ++ (w ++ y)) = w.flatMap upperCase ++ ((collapse y).rdropWhile isSpace).flatMap upperCase := by
  have dropped : (collapse s).dropWhile isSpace = [] :=
    List.dropWhile_eq_nil_iff.mpr (collapse_spaces spaces)
  rw [normalizeQuery_around filled word, dropped]
  rfl

variable {T : List Char}

/-- A word and a space at the start of a text that starts with a word. -/
theorem prefix_word {V : List Char} {rest : List Char} (plain : ' ' ∉ V)
    (starts : T ++ [' '] <+: V ++ d :: rest) : d ∈ T ∨ (T = V ∧ d = ' ') := by
  induction V generalizing T with
  | nil =>
    cases T with
    | nil =>
      obtain ⟨more, text⟩ := starts
      exact .inr ⟨rfl, (List.cons.inj text).1.symm⟩
    | cons t T =>
      obtain ⟨more, text⟩ := starts
      exact .inl (List.mem_cons.mpr (.inl (List.cons.inj text).1.symm))
  | cons v V ih =>
    rw [List.mem_cons, not_or] at plain
    cases T with
    | nil =>
      obtain ⟨more, text⟩ := starts
      exact absurd (List.cons.inj text).1 plain.1
    | cons t T =>
      rw [List.cons_append, List.cons_append, List.cons_prefix_cons] at starts
      obtain inside | ⟨same, space⟩ := ih plain.2 starts.2
      · exact .inl (List.mem_cons_of_mem _ inside)
      · exact .inr ⟨by rw [starts.1, same], space⟩

theorem inert_letters (letters : ∀ c ∈ w, identChar letter c = true) : Inert w := by
  constructor
  intro c member
  obtain ⟨slash, dash, single, double, bracket, _⟩ := identChar_plain (letters c member)
  exact ⟨slash, dash, single, double, bracket⟩

theorem letters_spaceless (letters : ∀ c ∈ w, identChar letter c = true) : ∀ c ∈ w, isSpace c = false := by
  intro c member
  cases space : isSpace c with
  | false => rfl
  | true =>
    have inside := letters c member
    rw [identChar_spaced c space] at inside
    cases inside

/-- A semicolon outside of everything is still there after all substitutions. -/
theorem single_of_accepted (apart : AllPieces (SqlPiece.Apart letter) [] (scanSql s))
    (none : ';' ∉ stripSqlCommentsAndLiterals s) :
    .symbol ';' ∉ sqlTokens (identChar letter) s := by
  intro member
  obtain ⟨a, b, pieces, _⟩ := symbol_split member
  have formed := scanSql_formed s
  have text := sqlText_scanSql s
  rw [pieces] at formed text apart
  have before := formed.split.1
  have beforeApart := apart.split.1
  rw [sqlText_cons, List.append_nil] at before beforeApart
  rw [sqlText_append, sqlText_cons] at text
  have closed := before.closed (by simp [SqlPiece.text])
  have inert : Inert [';'] := by
    constructor
    intro c symbol
    rw [List.mem_singleton] at symbol
    subst symbol
    decide
  obtain ⟨out, shown, _⟩ := @strip_around letter [';'] (sqlText b) inert a (by simp) (by decide)
    ⟨before, beforeApart, closed⟩
  apply none
  rw [← text]
  exact shown ▸ (by simp : ';' ∈ out ++ ([';'] ++ stripSqlCommentsAndLiterals (sqlText b)))

/-- A disallowed word outside of everything is found by the search. -/
theorem harmless_of_accepted (apart : AllPieces (SqlPiece.Apart letter) [] (scanSql s))
    (ascii : ∀ c ∈ token.toList, c.toNat < 128)
    (filled : token.toList ≠ []) (last : token.toList.getLast? ≠ some 'N')
    (absent : containsDisallowedToken letter (normalizeQuery (stripSqlCommentsAndLiterals s)) token = false)
    (member : .word w ∈ sqlTokens (identChar letter) s) : keyword w ≠ token.toList := by
  intro same
  have formed := scanSql_formed s
  have text := sqlText_scanSql s
  obtain ⟨wordFilled, place⟩ := word_split member
  obtain ⟨a, b, pieces, letters, stops, before⟩ : ∃ a b, scanSql s = a ++ (w.map SqlPiece.char ++ b) ∧
      (∀ c ∈ w, identChar letter c = true) ∧ StopsWord (identChar letter) b ∧
      ∀ p, a.getLast? = some p → p.letter (identChar letter) = none := by
    obtain ⟨v, b, word, pieces, letters, stops⟩ | ⟨a, p, b, pieces, stop, letters, stops⟩ := place
    · rw [List.nil_append] at word
      subst word
      exact ⟨[], b, by rw [pieces, List.nil_append], letters, stops, by simp⟩
    · refine ⟨a ++ [p], b, by rw [pieces, List.append_assoc]; rfl, letters, stops, ?_⟩
      intro q final
      rw [List.getLast?_concat, Option.some.injEq] at final
      rwa [← final]
  rw [pieces] at formed text apart
  have earlier := formed.split.1
  obtain ⟨earlierApart, laterApart⟩ := apart.split
  rw [sqlText_append, sqlText_chars, List.append_nil] at earlier earlierApart
  rw [sqlText_append, sqlText_append, sqlText_chars] at text
  have closed := earlier.closed (by simp [wordFilled])
  have ends : w.getLast? ≠ some 'N' := by
    intro final
    apply last
    rw [← same, keyword, List.getLast?_map, final]
    rfl
  have small : ∀ c ∈ w, c.toNat < 128 := by
    intro c inside
    apply asciiUpper_small
    apply ascii
    rw [← same]
    exact List.mem_map_of_mem inside
  obtain ⟨out, shown, boundary⟩ := @strip_around letter w (sqlText b)
    (inert_letters letters) a wordFilled ends ⟨earlier, earlierApart, closed⟩
  have upper : w.flatMap upperCase = token.toList := by rw [keyword_upper small, same]
  have after : ∀ c, (stripSqlCommentsAndLiterals (sqlText b)).head? = some c → Boundary letter c := fun c first =>
    strip_opens (fun d start => stops_boundary stops (edge_after wordFilled letters laterApart) start) first
  have follows : w.head?.any (identChar letter) = true := by
    cases w with
    | nil => exact absurd rfl wordFilled
    | cons c w => exact letters c List.mem_cons_self
  have found : containsDisallowedToken letter (normalizeQuery (stripSqlCommentsAndLiterals s)) token = true := by
    rw [← text, shown]
    apply containsDisallowedToken_found upper wordFilled filled (letters_spaceless letters) _ after
    intro c final
    cases front : a.getLast? with
    | none =>
      rw [List.getLast?_eq_none_iff.mp front, sqlText_nil, List.nil_append,
        strip_word (inert_letters letters) ends] at shown
      rw [List.self_eq_append_left.mp shown] at final
      cases final
    | some p =>
      obtain ⟨d, outer, own⟩ := boundary p front (letter_of_stop (before p front)) follows
      rw [outer, Option.some.injEq] at final
      rwa [← final]
  rw [absent] at found
  cases found

theorem upper_spaceless (word : ∀ c ∈ w, isSpace c = false) : ' ' ∉ w.flatMap upperCase := by
  intro member
  obtain ⟨c, inside, space⟩ := List.mem_flatMap.mp member
  have ascii : c.toNat < 128 := by
    by_contra large
    rw [upperCase] at space
    split_ifs at space
    · revert space
      decide
    · rw [upperChar, if_neg (by omega)] at space
      split at space
      all_goals first
        | (revert space; decide)
        | (rw [List.mem_singleton] at space; rw [← space] at large; exact large (by decide))
  have plain := word c inside
  rw [upperCase_ascii ascii, List.mem_singleton, asciiUpper] at space
  by_cases lower : 0x61 ≤ c.toNat ∧ c.toNat ≤ 0x7a
  · have capitals : ∀ k < 26, Char.ofNat (0x41 + k) ≠ ' ' := by decide
    have shifted : c.toNat - 0x20 = 0x41 + (c.toNat - 0x61) := by omega
    rw [if_pos lower, shifted] at space
    exact capitals _ (by omega) space.symm
  · rw [if_neg lower] at space
    rw [← space] at plain
    cases plain

theorem afterPair_none {x y : Char} (apart : holdsPair x y s = false) : afterPair x y s = none := by
  induction s with
  | nil => rfl
  | cons c s ih =>
    cases s with
    | nil => rfl
    | cons d rest =>
      rw [holdsPair, Bool.or_eq_false_iff] at apart
      have stays : ¬(c = x ∧ d = y) := by simpa using apart.1
      rw [afterPair, if_neg stays]
      exact ih apart.2

/-- The first token is not a word that only upper-casing makes a keyword. -/
def StartsPlain (letter : Char → Bool) : Option SqlToken → Prop
  | some (.word w) => w.flatMap upperCase ∈ ["SELECT".toList, "WITH".toList] → ∀ c ∈ w, c.toNat < 128
  | some (.symbol c) => keepsEdge letter c = true
  | _ => True

instance (letter : Char → Bool) : DecidablePred (StartsPlain letter)
  | some (.word w) =>
    have := List.decidableBAll (fun c : Char => c.toNat < 128) w
    inferInstanceAs (Decidable (w.flatMap upperCase ∈ _ → ∀ c ∈ w, _))
  | some (.symbol c) => inferInstanceAs (Decidable (keepsEdge letter c = true))
  | none | some (.enclosed _ _) | some (.unclosed _ _) => inferInstanceAs (Decidable True)

/-- No match of a substitution starts inside of a literal, a name or a comment, and upper-casing
neither hides the edge of a word nor makes the first keyword. -/
structure Unmisread (letter : Char → Bool) (query : List Char) : Prop where
  apart : AllPieces (SqlPiece.Apart letter) [] (scanSql query)
  start : StartsPlain letter (sqlTokens (identChar letter) query).head?

instance (letter : Char → Bool) : DecidablePred (Unmisread letter) := fun query =>
  decidable_of_iff (AllPieces (SqlPiece.Apart letter) [] (scanSql query) ∧ _)
    ⟨fun both => ⟨both.1, both.2⟩, fun unmisread => ⟨unmisread.apart, unmisread.start⟩⟩

/-- A first token that is no word. -/
theorem opening_symbol {p : SqlPiece} {next : List Char} (formed : p.Formed next) (apart : p.Apart letter next)
    (filled : p.tokens ≠ []) (stop : p.letter (identChar letter) = none) (edge : StartsPlain letter p.tokens.head?) :
    ∃ c t, p.text ++ next = c :: t ∧ blockComment (c :: t) = none ∧ (c = '-' → t.head? ≠ some '-') ∧ c ≠ 'N' ∧
      isSpace c = false ∧ Boundary letter c := by
  have opening : ∀ {d : Delimiter} {t : List Char}, blockComment (d.opening :: t) = none ∧
      (d.opening = '-' → t.head? ≠ some '-') ∧ d.opening ≠ 'N' ∧ isSpace d.opening = false ∧
      Boundary letter d.opening := by
    intro d t
    have plain : d.opening ≠ '/' ∧ d.opening ≠ '-' ∧ d.opening ≠ 'N' ∧ isSpace d.opening = false := by
      cases d <;> decide
    refine ⟨blockComment_none fun same => absurd same plain.1, fun same => absurd same plain.2.1,
      plain.2.2.1, plain.2.2.2, ?_⟩
    cases d with
    | literal | quoted | bracketed => exact .of_kept (by decide) rfl
  match p with
  | .char c =>
    have outside := letter_of_stop stop
    have notWord : wordChar letter c = false := by simpa [SqlPiece.letter] using outside
    have notSpace : isSpace c = false := by
      cases space : isSpace c with
      | false => rfl
      | true => simp [SqlPiece.tokens, space] at filled
    have notLetter : c ≠ 'N' := by
      intro same
      rw [same] at notWord
      cases notWord
    rw [SqlPiece.tokens, notSpace] at edge
    exact ⟨c, next, rfl, blockComment_none formed.2.2, formed.2.1, notLetter, notSpace, .of_keepsEdge edge notWord⟩
  | .enclosed d body | .unclosed (some d) body => exact ⟨_, _, rfl, opening⟩
  | .unclosed none body =>
    have nothing : blockComment ('/' :: '*' :: (body ++ next)) = none := by
      rw [blockComment, if_pos ⟨rfl, rfl⟩, formed.1, List.append_nil, afterPair_none apart]
    exact ⟨'/', '*' :: (body ++ next), rfl, nothing,
      fun same => absurd same (by decide), by decide, by decide, .of_kept (by decide) rfl⟩
  | .line _ | .block _ => exact absurd rfl filled

section Starts

variable {lead left : List SqlPiece} {p : SqlPiece}

/-- After a word that starts the text stands its space, or a character that the searched word does
not end in. -/
theorem prefix_ends {V : List Char} (letters : ∀ c ∈ T, wordChar letter c = true ∧ c ≠ 'N')
    (plain : ' ' ∉ V) (starts : T ++ [' '] <+: V ++ d :: t)
    (kind : d = 'N' ∨ wordChar letter d = false) : T = V ∧ d = ' ' := by
  obtain inside | same := prefix_word plain starts
  · obtain ⟨word, other⟩ := letters d inside
    obtain national | outside := kind
    · exact absurd national other
    · rw [outside] at word
      cases word
  · exact same

variable (blank : ∀ q ∈ lead, q.tokens = []) (formed : AllFormed [] (lead ++ p :: left))
  (apart : AllPieces (SqlPiece.Apart letter) [] (lead ++ p :: left))
include blank formed apart

section Words

variable {b : List SqlPiece} (inside : ∀ c ∈ w, identChar letter c = true) (wordFilled : w ≠ [])
  (word : p :: left = w.map SqlPiece.char ++ b)
include inside wordFilled word

theorem strip_start : ∃ spaces,
    stripSqlCommentsAndLiterals (sqlText (lead ++ p :: left)) = spaces ++ stripSqlCommentsAndLiterals (w ++ sqlText b) ∧
      ∀ c ∈ spaces, isSpace c = true := by
  have early := formed.split.1
  have leadApart := apart.split.1
  rw [List.append_nil] at early leadApart
  have text : sqlText (p :: left) = w ++ sqlText b := by rw [word, sqlText_append, sqlText_chars]
  have breaks : (sqlText (p :: left)).head? ≠ some '\n' := by
    rw [text, List.head?_append_of_ne_nil _ wordFilled]
    intro first
    have plain := letters_spaceless inside '\n' (List.mem_of_mem_head? first)
    cases plain
  obtain ⟨spaces, shown, all⟩ := strip_lead blank early leadApart breaks
  exact ⟨spaces, by rw [sqlText_append, shown, text], all⟩

variable (letters : ∀ c ∈ T, wordChar letter c = true ∧ c ≠ 'N')
include letters

/-- A word that ends in the mark of a literal is no start. -/
theorem not_starts_national (ends : w.getLast? = some 'N') :
    ¬ T ++ [' '] <+: normalizeQuery (stripSqlCommentsAndLiterals (sqlText (lead ++ p :: left))) := by
  intro starts
  obtain ⟨spaces, shown, all⟩ := strip_start blank formed apart inside wordFilled word
  obtain ⟨v, rfl⟩ := List.getLast?_eq_some_iff.mp ends
  have inner : ∀ e ∈ v, identChar letter e = true := fun e member => inside e (List.mem_append_left _ member)
  obtain ⟨d, t, stripped, kind⟩ := @strip_national (sqlText b) v (inert_letters inner)
  have fixed : upperCase d = [d] ∧ isSpace d = false := by
    obtain same | same := kind <;>
    · rw [same]
      decide
  have whole : v ++ d :: t = (v ++ [d]) ++ t := by rw [List.append_assoc, List.singleton_append]
  have plain : ∀ e ∈ v ++ [d], isSpace e = false := by
    intro e member
    obtain before | last := List.mem_append.mp member
    · exact letters_spaceless inner e before
    · rw [List.mem_singleton.mp last]
      exact fixed.2
  rw [shown, List.append_assoc, List.singleton_append, stripped, whole, normalizeQuery_lead all (by simp) plain,
    List.flatMap_append, List.flatMap_singleton, fixed.1, List.append_assoc, List.singleton_append] at starts
  have quoted : d = 'N' ∨ wordChar letter d = false := by
    refine kind.imp id fun same => ?_
    rw [same]
    rfl
  obtain ⟨_, space⟩ := prefix_ends letters (upper_spaceless (letters_spaceless inner)) starts quoted
  rw [space] at fixed
  cases fixed.2

/-- Any other word is the start of the normalized text. -/
theorem starts_word (stops : StopsWord (identChar letter) b) (ends : w.getLast? ≠ some 'N')
    (starts : T ++ [' '] <+: normalizeQuery (stripSqlCommentsAndLiterals (sqlText (lead ++ p :: left)))) :
    w.flatMap upperCase = T := by
  obtain ⟨spaces, shown, all⟩ := strip_start blank formed apart inside wordFilled word
  have spaceless := letters_spaceless inside
  have plain := upper_spaceless spaceless
  rw [shown, strip_word (inert_letters inside) ends, normalizeQuery_lead all wordFilled spaceless] at starts
  cases kept : (collapse (stripSqlCommentsAndLiterals (sqlText b))).rdropWhile isSpace with
  | nil =>
    rw [kept, List.flatMap_nil, List.append_nil] at starts
    exact absurd (starts.subset (List.mem_append_right _ (List.mem_singleton.mpr rfl))) plain
  | cons d more =>
    have laterApart := apart.split.2
    rw [word] at laterApart
    have boundary := trimmed_head kept fun e first => strip_opens
      (fun f start => stops_boundary stops (edge_after wordFilled inside laterApart) start) first
    obtain ⟨f, upper, cased⟩ := List.exists_cons_of_ne_nil (upperCase_ne_nil d)
    rw [kept, List.flatMap_cons, cased, List.cons_append] at starts
    exact (prefix_ends letters plain starts (.inr (boundary.upper f (by simp [cased])))).1.symm

end Words

/-- A query that starts with a symbol, a literal or a name does not pass. -/
theorem not_starts_symbol (letters : ∀ c ∈ T, wordChar letter c = true ∧ c ≠ 'N') (filled : p.tokens ≠ [])
    (stop : p.letter (identChar letter) = none) (edge : StartsPlain letter p.tokens.head?) :
    ¬ T ++ [' '] <+: normalizeQuery (stripSqlCommentsAndLiterals (sqlText (lead ++ p :: left))) := by
  intro starts
  have early := formed.split.1
  obtain ⟨leadApart, here, _⟩ := apart.split
  rw [List.append_nil] at early leadApart here
  have own : p.Formed (sqlText left) := by
    have first := formed.split.2.1
    rwa [List.append_nil] at first
  obtain ⟨c, t, start, block, dash, other, notSpace, boundary⟩ := opening_symbol own here filled stop edge
  have breaks : (sqlText (p :: left)).head? ≠ some '\n' := by
    rw [sqlText_cons, start, List.head?_cons, ne_eq, Option.some.injEq]
    intro same
    rw [same] at notSpace
    cases notSpace
  obtain ⟨spaces, shown, all⟩ := strip_lead blank early leadApart breaks
  obtain ⟨u, kept⟩ := strip_symbol block dash other
  obtain ⟨d, upper, cased⟩ := List.exists_cons_of_ne_nil (upperCase_ne_nil c)
  have single : c :: u = [c] ++ u := rfl
  rw [sqlText_append, shown, sqlText_cons, start, kept, single,
    normalizeQuery_lead all (by simp) (by simpa using notSpace), List.flatMap_singleton, cased, List.cons_append] at starts
  have outside := boundary.upper d (by simp [cased])
  obtain ⟨_, space⟩ := prefix_ends letters List.not_mem_nil starts (.inr outside)
  -- only a space becomes one
  have spaceless := @upper_spaceless [c] (by simpa using notSpace)
  rw [List.flatMap_singleton, cased, space] at spaceless
  simp at spaceless

end Starts

/-- The start of the normalized text is the first token. -/
theorem starts_of_accepted (unmisread : Unmisread letter s) (keyed : T ∈ ["SELECT".toList, "WITH".toList])
    (letters : ∀ c ∈ T, wordChar letter c = true ∧ c ≠ 'N')
    (starts : T ++ [' '] <+: normalizeQuery (stripSqlCommentsAndLiterals s)) :
    ∃ w, (sqlTokens (identChar letter) s).head? = some (.word w) ∧ keyword w = T := by
  obtain ⟨apart, start⟩ := unmisread
  have formed := scanSql_formed s
  obtain ⟨lead, rest, pieces, blank, first⟩ := lead_split (scanSql s)
  rw [← sqlText_scanSql s] at starts
  rw [sqlTokens] at start ⊢
  rw [pieces] at formed apart starts start ⊢
  rw [sqlTokensFrom_lead identChar_spaced blank] at start ⊢
  cases rest with
  | nil =>
    rw [List.append_nil] at formed apart starts
    obtain ⟨spaces, shown, all⟩ := strip_lead blank formed apart (by simp)
    have stripped : stripSqlCommentsAndLiterals [] = [] := rfl
    rw [stripped, List.append_nil, List.append_nil] at shown
    have nothing : normalizeQuery spaces = [] := by
      rw [normalizeQuery, stripList, List.dropWhile_eq_nil_iff.mpr (collapse_spaces all)]
      rfl
    rw [shown, nothing, List.prefix_nil] at starts
    simp at starts
  | cons p left =>
    have filled := first p left rfl
    cases letter_of : p.letter (identChar letter) with
    | none =>
      rw [sqlTokensFrom_stop letter_of, flushWord, List.nil_append, List.head?_append_of_ne_nil _ filled] at start
      exact absurd starts (not_starts_symbol blank formed apart letters filled letter_of start)
    | some c =>
      obtain ⟨w, b, word, head, inside, stops, token⟩ := first_word letter_of
      have wordFilled : w ≠ [] := by
        intro empty
        rw [empty] at head
        cases head
      refine ⟨w, token, ?_⟩
      by_cases ends : w.getLast? = some 'N'
      · exact absurd starts (not_starts_national blank formed apart inside wordFilled word letters ends)
      · have same := starts_word blank formed apart inside wordFilled word letters stops ends starts
        rw [token] at start
        rw [← same, keyword_upper (start (same ▸ keyed))]

/-- Their marks are completed by no later text. -/
def readingQueries : List String :=
  ["SELECT '/*' FROM T", "SELECT \"it's\" FROM T", "SELECT N'a/*' + '\n' FROM [T\"] -- it's",
    "/* é */ WITH é AS (SELECT [a]]'b] FROM T) SELECT é.* FROM é"]

/-- One query for each mark that a body may hold. -/
def unguardedQueries : List String :=
  ["SELECT '/*'; DELETE FROM T --*/'", "SELECT 'a--'; DELETE FROM T",
    "SELECT 1 AS \"it's\"; DELETE FROM T WHERE A = 'x'", "SELECT 1 AS [it's]; DELETE FROM T WHERE A = 'x'",
    "SELECT 1 AS [a\"b]; DELETE FROM T WHERE A = \"x\"", "SELECT 1 --/*\n; DELETE FROM T --*/",
    "SELECT 1 /* /* */ ' */ */; DELETE FROM T WHERE A = 'x'"]

end StockVerification
