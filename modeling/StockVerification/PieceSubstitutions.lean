import StockVerification.ReadOnlyGuard

/-!
# The substitutions of the read-only guard on the pieces of a query

A substitution takes whole pieces where it finds no match that starts inside a piece, with the text
after the piece as it is by then. A delimited identifier with doubled brackets is read as several,
but never beyond its end.
-/
namespace StockVerification

open Foundation Foundation.Text

variable {matcher : List Char → Option (List Char)} {a s after : List Char} {x y mark : Char}

/-- The end of a delimited text is where it was closed. -/
theorem afterMark_doubled {body : List Char} (doubled : Doubled mark body)
    (ends : after.head? ≠ some mark) : afterMark mark (body ++ mark :: after) = some after := by
  induction doubled with
  | nil =>
    rw [List.nil_append]
    cases after with
    | nil => rw [afterMark, if_pos rfl]
    | cons d rest =>
      have other : d ≠ mark := by simpa using ends
      rw [afterMark, if_neg (by simp), if_neg other]
  | single other rest ih =>
    rename_i c body
    cases text : body ++ mark :: after with
    | nil => simp at text
    | cons d left => rw [List.cons_append, text, afterMark, if_pos other, ← text, ih]
  | pair rest ih =>
    rw [List.cons_append, List.cons_append, afterMark, if_neg (by simp), if_pos rfl, ih, Option.some_or]

theorem afterPair_append (different : x ≠ y) {body : List Char} (apart : holdsPair x y body = false) :
    afterPair x y (body ++ x :: y :: after) = some after := by
  induction body with
  | nil => rw [List.nil_append, afterPair, if_pos ⟨rfl, rfl⟩]
  | cons c body ih =>
    rw [holdsPair_cons, Bool.or_eq_false_iff] at apart
    cases body with
    | nil =>
      rw [List.cons_append, List.nil_append, afterPair, if_neg fun both => different both.2]
      exact ih rfl
    | cons d rest =>
      have stays : ¬(c = x ∧ d = y) := by simpa using apart.1
      rw [List.cons_append, List.cons_append, afterPair, if_neg stays]
      exact ih apart.2

section

variable {body : List Char}

theorem blockComment_block (apart : holdsPair '*' '/' body = false) :
    blockComment ((SqlPiece.block body).text ++ after) = some after := by
  have text : (SqlPiece.block body).text ++ after = '/' :: '*' :: (body ++ '*' :: '/' :: after) := by
    simp [SqlPiece.text]
  rw [text, blockComment, if_pos ⟨rfl, rfl⟩, afterPair_append (by decide) apart]

theorem lineComment_line (single : '\n' ∉ body) (ends : after = [] ∨ after.head? = some '\n') :
    lineComment ((SqlPiece.line body).text ++ after) = some after := by
  have inside : ∀ c ∈ body, decide (c ≠ '\n') = true := by
    intro c member
    rw [decide_eq_true_eq]
    exact fun same => single (same ▸ member)
  rw [SqlPiece.text, List.cons_append, List.cons_append, lineComment, if_pos ⟨rfl, rfl⟩,
    List.dropWhile_append_of_pos inside]
  cases after with
  | nil => rfl
  | cons c rest =>
    have first : c = '\n' := by simpa using ends
    rw [List.dropWhile_cons_of_neg (by simp [first])]

theorem singleQuoted_literal (doubled : Doubled quoteMark body) (ends : after.head? ≠ some quoteMark) :
    singleQuoted ((SqlPiece.enclosed .literal body).text ++ after) = some after := by
  have text : (SqlPiece.enclosed .literal body).text ++ after = quoteMark :: (body ++ quoteMark :: after) := by
    simp [SqlPiece.text, Delimiter.opening, Delimiter.closing]
  rw [text, singleQuoted, if_neg fun national => absurd national.1 (by decide), if_pos rfl,
    afterMark_doubled doubled ends]

theorem doubleQuoted_quoted (doubled : Doubled doubleMark body) (ends : after.head? ≠ some doubleMark) :
    doubleQuoted ((SqlPiece.enclosed .quoted body).text ++ after) = some after := by
  have text : (SqlPiece.enclosed .quoted body).text ++ after = doubleMark :: (body ++ doubleMark :: after) := by
    simp [SqlPiece.text, Delimiter.opening, Delimiter.closing]
  rw [text, doubleQuoted, if_pos rfl, afterMark_doubled doubled ends]

end

/-- The characters of a Transact-SQL word. -/
def identChar (letter : Char → Bool) (c : Char) : Bool := wordChar letter c || c = '@' || c = '#' || c = '$'

/-- Upper-casing makes no character of a word of one outside of words. -/
def keepsEdge (letter : Char → Bool) (c : Char) : Bool :=
  wordChar letter c || (upperCase c).all fun u => !wordChar letter u

/-- No match of a substitution starts inside the piece, except for the one of its kind. The edge of
a word is one after upper-casing. -/
def Foundation.SqlPiece.Apart (letter : Char → Bool) (next : List Char) : SqlPiece → Prop
  | char c => ∀ d ∈ next.head?, (identChar letter c = true → keepsEdge letter d = true) ∧
      (identChar letter d = true → keepsEdge letter c = true)
  | enclosed d body =>
    Unmatched blockComment (enclosed d body).text next ∧
      Unmatched lineComment (enclosed d body).text (withoutBlocks next) ∧
      (d ≠ .literal → Unmatched singleQuoted (enclosed d body).text (withoutComments next)) ∧
      (d = .bracketed → Unmatched doubleQuoted (enclosed d body).text (withoutLiterals next))
  | line body => Unmatched blockComment (line body).text next
  | block body | unclosed none body => holdsPair '*' '/' body = false
  | unclosed (some _) _ => True

instance (letter : Char → Bool) (next : List Char) : DecidablePred (SqlPiece.Apart letter next)
  | .char _ => Option.decidableForallMem next.head?
  | .enclosed _ _ => inferInstanceAs (Decidable (_ ∧ _ ∧ _ ∧ _))
  | .line _ => inferInstanceAs (Decidable (Unmatched _ _ _))
  | .block _ | .unclosed none _ => inferInstanceAs (Decidable (_ = false))
  | .unclosed (some _) _ => inferInstanceAs (Decidable True)

def Foundation.SqlPiece.Closed : SqlPiece → Prop
  | unclosed _ _ => False
  | _ => True

/-- A piece after the first so many substitutions. -/
def Foundation.SqlPiece.shown (stage : Nat) : SqlPiece → List Char
  | block body => if 1 ≤ stage then [' '] else (block body).text
  | line body => if 2 ≤ stage then [' '] else (line body).text
  | enclosed .literal body => if 3 ≤ stage then [quoteMark, quoteMark] else (enclosed .literal body).text
  | enclosed .quoted body => if 4 ≤ stage then [doubleMark, doubleMark] else (enclosed .quoted body).text
  | p => p.text

/-- The third substitution takes an N before a literal with it. -/
def nationalMark : SqlPiece → List SqlPiece → Bool
  | .char c, .enclosed .literal _ :: _ => c = 'N'
  | _, _ => false

def shownText (stage : Nat) : List SqlPiece → List Char
  | [] => []
  | p :: rest => (if 3 ≤ stage ∧ nationalMark p rest then [] else p.shown stage) ++ shownText stage rest

variable {p : SqlPiece} {stage : Nat} {c : Char}

theorem shownText_kept {rest : List SqlPiece} (kept : ¬(3 ≤ stage ∧ nationalMark p rest = true)) :
    shownText stage (p :: rest) = p.shown stage ++ shownText stage rest := by
  rw [shownText, if_neg kept]

theorem shownText_dropped {rest : List SqlPiece} (dropped : 3 ≤ stage ∧ nationalMark p rest = true) :
    shownText stage (p :: rest) = shownText stage rest := by
  rw [shownText, if_pos dropped, List.nil_append]

theorem nationalMark_split {rest : List SqlPiece} (national : nationalMark p rest = true) :
    p = .char 'N' ∧ ∃ body left, rest = .enclosed .literal body :: left := by
  unfold nationalMark at national
  split at national
  · rename_i c body left
    exact ⟨by rw [of_decide_eq_true national], body, left, rfl⟩
  · cases national

theorem Foundation.SqlPiece.shown_zero (p : SqlPiece) : p.shown 0 = p.text := by
  match p with
  | .char _ | .line _ | .block _ | .unclosed _ _ => rfl
  | .enclosed .literal _ | .enclosed .quoted _ | .enclosed .bracketed _ => rfl

theorem shownText_zero (pieces : List SqlPiece) : shownText 0 pieces = sqlText pieces := by
  induction pieces with
  | nil => rfl
  | cons p rest ih => rw [shownText_kept (by omega), ih, p.shown_zero, sqlText_cons]

/-- How the text of a piece starts after some substitutions. -/
theorem Foundation.SqlPiece.shown_head (stage : Nat) (p : SqlPiece) (s t : List Char) :
    (p.shown stage ++ s).head? = (p.text ++ t).head? ∨ ((p.shown stage ++ s).head? = some ' ' ∧
        ((p.text ++ t).head? = some '/' ∨ (p.text ++ t).head? = some '-')) := by
  match p with
  | .char _ | .unclosed (some _) _ | .unclosed none _ | .enclosed .bracketed _ => exact .inl rfl
  | .enclosed .literal _ | .enclosed .quoted _ =>
    rw [shown]
    split <;> exact .inl rfl
  | .line _ =>
    rw [shown]
    split
    · exact .inr ⟨rfl, .inr rfl⟩
    · exact .inl rfl
  | .block _ =>
    rw [shown]
    split
    · exact .inr ⟨rfl, .inl rfl⟩
    · exact .inl rfl

/-- How a text starts after some substitutions. -/
theorem shownText_head (stage : Nat) (pieces : List SqlPiece) (u : List Char) :
    (shownText stage pieces ++ u).head? = (sqlText pieces ++ u).head? ∨
      ((shownText stage pieces ++ u).head? = some ' ' ∧
        ((sqlText pieces ++ u).head? = some '/' ∨ (sqlText pieces ++ u).head? = some '-')) ∨
      (3 ≤ stage ∧ (shownText stage pieces ++ u).head? = some quoteMark) := by
  cases pieces with
  | nil => exact .inl rfl
  | cons p rest =>
    rw [sqlText_cons, List.append_assoc]
    by_cases national : 3 ≤ stage ∧ nationalMark p rest = true
    · obtain ⟨_, body, left, text⟩ := nationalMark_split national.2
      rw [shownText_dropped national, text, shownText_kept (by simp [nationalMark]), SqlPiece.shown, if_pos national.1]
      exact .inr (.inr ⟨national.1, rfl⟩)
    · rw [shownText_kept national, List.append_assoc]
      obtain same | blank := p.shown_head stage (shownText stage rest ++ u) (sqlText rest ++ u)
      · exact .inl same
      · exact .inr (.inl blank)

theorem shownText_next {pieces : List SqlPiece} {u : List Char} (apart : (sqlText pieces ++ u).head? ≠ some c)
    (filled : c ≠ ' ') (early : stage < 3 ∨ c ≠ quoteMark) : (shownText stage pieces ++ u).head? ≠ some c := by
  obtain same | blank | late := shownText_head stage pieces u
  · rwa [same]
  · rw [blank.1, ne_eq, Option.some.injEq]
    exact filled.symm
  · rw [late.2, ne_eq, Option.some.injEq]
    obtain small | other := early
    · omega
    · exact other.symm

theorem opening_ne (opens : Delimiter.opened c = none) (d : Delimiter) : c ≠ d.opening := by
  intro same
  rw [same] at opens
  cases d <;> cases opens

/-- What one substitution does at a piece: nothing, or it takes the whole piece. -/
def Passes (matcher : List Char → Option (List Char)) (replacement : List Char) (stage : Nat)
    (p : SqlPiece) (next : List Char) : Prop :=
  (Unmatched matcher (p.shown stage) next ∧ p.shown (stage + 1) = p.shown stage) ∨
    (matcher (p.shown stage ++ next) = some next ∧ p.shown (stage + 1) = replacement)

/-- What it does at every piece it does to the whole text, when it takes no character of another
piece. -/
theorem shownText_pass {replacement : List Char} (shrinks : Shrinks matcher) (other : stage ≠ 2)
    {u : List Char} {pieces : List SqlPiece}
    (steps : ∀ p rest, p :: rest <:+ pieces → Passes matcher replacement stage p (shownText stage rest ++ u)) :
    substitute matcher replacement (shownText stage pieces ++ u) =
      shownText (stage + 1) pieces ++ substitute matcher replacement u := by
  induction pieces with
  | nil => rfl
  | cons p rest ih =>
    have tails := ih fun q left suffix => steps q left (suffix.trans (List.suffix_cons p rest))
    by_cases national : 3 ≤ stage ∧ nationalMark p rest = true
    · rw [shownText_dropped national, shownText_dropped ⟨by omega, national.2⟩, tails]
    · have still : ¬(3 ≤ stage + 1 ∧ nationalMark p rest = true) := fun both => national ⟨by omega, both.2⟩
      rw [shownText_kept national, shownText_kept still, List.append_assoc, List.append_assoc]
      obtain ⟨unmatched, same⟩ | ⟨found, same⟩ := steps p rest List.suffix_rfl
      · rw [substitute_append shrinks unmatched, tails, same]
      · rw [substitute_match shrinks found, tails, same]

theorem Foundation.Unmatched.single {next : List Char} (nothing : matcher (c :: next) = none) :
    Unmatched matcher [c] next := ⟨nothing, trivial⟩

/-- The pieces in front of a text are formed and closed, and apart from each other. -/
structure Readable (letter : Char → Bool) (u : List Char) (pieces : List SqlPiece) : Prop where
  formed : AllFormed u pieces
  apart : AllPieces (SqlPiece.Apart letter) u pieces
  closed : ∀ p ∈ pieces, p.Closed

section

variable {letter : Char → Bool} {u : List Char} {pieces rest : List SqlPiece}

theorem Readable.suffix (readable : Readable letter u pieces) (suffix : rest <:+ pieces) : Readable letter u rest where
  formed := readable.formed.suffix suffix
  apart := readable.apart.suffix suffix
  closed p member := readable.closed p (suffix.subset member)

theorem Readable.tail (readable : Readable letter u (p :: rest)) : Readable letter u rest :=
  readable.suffix (List.suffix_cons p rest)

theorem blockComment_passes (readable : Readable letter u (p :: rest)) :
    Passes blockComment [' '] 0 p (shownText 0 rest ++ u) := by
  obtain ⟨⟨formed, _⟩, ⟨apart, _⟩, closed⟩ := readable
  rw [shownText_zero]
  match p with
  | .char c => exact .inl ⟨.single (blockComment_none formed.2.2), rfl⟩
  | .enclosed .literal body | .enclosed .quoted body | .enclosed .bracketed body => exact .inl ⟨apart.1, rfl⟩
  | .line body => exact .inl ⟨apart, rfl⟩
  | .block body => exact .inr ⟨blockComment_block apart, rfl⟩
  | .unclosed _ _ => exact (closed _ List.mem_cons_self).elim

theorem withoutBlocks_pieces (readable : Readable letter u pieces) :
    withoutBlocks (sqlText pieces ++ u) = shownText 1 pieces ++ withoutBlocks u := by
  rw [withoutBlocks, ← shownText_zero, shownText_pass blockComment_shrinks (by decide), withoutBlocks]
  exact fun p rest suffix => blockComment_passes (readable.suffix suffix)

section

variable (lines : AllFormed (withoutBlocks u) pieces)
include lines

theorem lineComment_passes (readable : Readable letter u pieces) (suffix : p :: rest <:+ pieces) :
    Passes lineComment [' '] 1 p (shownText 1 rest ++ withoutBlocks u) := by
  have later := withoutBlocks_pieces (readable.suffix suffix).tail
  obtain ⟨_, ⟨apart, _⟩, closed⟩ := readable.suffix suffix
  obtain ⟨formed, _⟩ := lines.suffix suffix
  match p with
  | .char c =>
    have next := fun dash => shownText_next (formed.2.1 dash) (by decide) (.inl (show 1 < 3 by decide))
    exact .inl ⟨.single (lineComment_none next), rfl⟩
  | .enclosed .literal body | .enclosed .quoted body | .enclosed .bracketed body =>
    exact .inl ⟨later ▸ apart.2.1, rfl⟩
  | .line body =>
    refine .inr ⟨lineComment_line formed.1 ?_, rfl⟩
    obtain same | blank | late := shownText_head 1 rest (withoutBlocks u)
    · obtain empty | ends := formed.2
      · rw [empty, List.head?_nil, List.head?_eq_none_iff] at same
        exact .inl same
      · exact .inr (same.trans ends)
    · obtain empty | ends := formed.2
      · rw [empty] at blank
        simp at blank
      · rw [ends] at blank
        simp at blank
    · omega
  | .block body => exact .inl ⟨.single (lineComment_none fun dash => absurd dash (by decide)), rfl⟩
  | .unclosed _ _ => exact (closed _ List.mem_cons_self).elim

theorem withoutComments_pieces (readable : Readable letter u pieces) :
    withoutComments (sqlText pieces ++ u) = shownText 2 pieces ++ withoutComments u := by
  rw [withoutComments, withoutBlocks_pieces readable, shownText_pass lineComment_shrinks (by decide), withoutComments]
  exact fun p rest suffix => lineComment_passes lines readable suffix

end

theorem singleQuoted_heads {next : List Char} (other : quoteMark ∉ a)
    (ends : a.getLast? = some 'N' → next.head? ≠ some quoteMark) : Unmatched singleQuoted a next := by
  induction a with
  | nil => trivial
  | cons c rest ih =>
    rw [List.mem_cons, not_or] at other
    constructor
    · apply singleQuoted_none fun same => other.1 same.symm
      intro national
      cases rest with
      | nil => exact ends (by rw [national]; rfl)
      | cons d rest =>
        intro same
        have first : d = quoteMark := Option.some.inj same
        exact other.2 (first ▸ List.mem_cons_self)
    · apply ih other.2
      intro last
      apply ends
      cases rest with
      | nil => cases last
      | cons d rest => rw [List.getLast?_cons_cons, last]

section

variable (plain : u.head? ≠ some quoteMark)
include plain

theorem starts_literal {pieces : List SqlPiece} (formed : AllFormed u pieces) (closed : ∀ p ∈ pieces, p.Closed)
    (next : (sqlText pieces ++ u).head? = some quoteMark) : ∃ body left, pieces = .enclosed .literal body :: left := by
  match pieces with
  | [] => exact absurd next plain
  | .char c :: left => exact absurd (Option.some.inj next) (opening_ne formed.1.1 .literal)
  | .enclosed .literal body :: left => exact ⟨body, left, rfl⟩
  | .enclosed .quoted body :: left => exact absurd (Option.some.inj next) (show doubleMark ≠ quoteMark by decide)
  | .enclosed .bracketed body :: left => exact absurd (Option.some.inj next) (show '[' ≠ quoteMark by decide)
  | .line body :: left => exact absurd (Option.some.inj next) (show '-' ≠ quoteMark by decide)
  | .block body :: left => exact absurd (Option.some.inj next) (show '/' ≠ quoteMark by decide)
  | .unclosed d body :: left => exact (closed _ List.mem_cons_self).elim

end

section

variable (lines : AllFormed (withoutBlocks u) pieces) (literals : AllFormed (withoutComments u) pieces)
include lines literals

theorem singleQuoted_passes (plain : (withoutComments u).head? ≠ some quoteMark) (readable : Readable letter u pieces)
    (suffix : p :: rest <:+ pieces) (kept : nationalMark p rest = false) :
    Passes singleQuoted [quoteMark, quoteMark] 2 p (shownText 2 rest ++ withoutComments u) := by
  have tail := (readable.suffix suffix).tail
  have later := withoutComments_pieces (lines.suffix suffix).2 tail
  obtain ⟨_, ⟨apart, _⟩, closed⟩ := readable.suffix suffix
  obtain ⟨formed, following⟩ := literals.suffix suffix
  match p with
  | .char c =>
    refine .inl ⟨.single (singleQuoted_none (opening_ne formed.1 .literal) fun national => ?_), rfl⟩
    refine shownText_next (fun next => ?_) (by decide) (.inl (by decide))
    obtain ⟨body, left, text⟩ := starts_literal plain following tail.closed next
    rw [text, national] at kept
    cases kept
  | .enclosed .literal body =>
    exact .inr ⟨singleQuoted_literal formed.1 (shownText_next formed.2 (by decide) (.inl (by decide))), rfl⟩
  | .enclosed .quoted body | .enclosed .bracketed body => exact .inl ⟨later ▸ apart.2.2.1 (by decide), rfl⟩
  | .line body | .block body =>
    exact .inl ⟨.single (singleQuoted_none (by decide) fun national => absurd national (by decide)), rfl⟩
  | .unclosed _ _ => exact (closed _ List.mem_cons_self).elim

/-- The third substitution takes the mark of a literal with it. -/
theorem withoutLiterals_pieces (plain : (withoutComments u).head? ≠ some quoteMark)
    (readable : Readable letter u pieces) :
    withoutLiterals (sqlText pieces ++ u) = shownText 3 pieces ++ withoutLiterals u := by
  rw [withoutLiterals, withoutComments_pieces lines readable, withoutLiterals]
  induction pieces with
  | nil => rfl
  | cons p rest ih =>
    have tails := ih lines.2 literals.2 readable.tail
    rw [shownText_kept (by omega), List.append_assoc]
    by_cases national : nationalMark p rest = true
    · obtain ⟨sign, body, left, text⟩ := nationalMark_split national
      rw [shownText_dropped ⟨by omega, national⟩, ← tails, sign, text, shownText_kept (by omega), List.append_assoc]
      rw [text] at literals
      -- the literal matches with the mark and without it
      have ends : (shownText 2 left ++ withoutComments u).head? ≠ some quoteMark :=
        shownText_next literals.2.1.2 (by decide) (.inl (by decide))
      have found := singleQuoted_literal literals.2.1.1 ends
      have marked : singleQuoted
          ('N' :: ((SqlPiece.enclosed .literal body).text ++ (shownText 2 left ++ withoutComments u))) =
            some (shownText 2 left ++ withoutComments u) := by
        rw [← found, singleQuoted, if_pos ⟨rfl, rfl⟩]
        rfl
      exact (substitute_match singleQuoted_shrinks marked).trans (substitute_match singleQuoted_shrinks found).symm
    · have kept : ¬(3 ≤ 3 ∧ nationalMark p rest = true) := fun both => national both.2
      rw [shownText_kept kept, List.append_assoc]
      obtain ⟨unmatched, same⟩ | ⟨found, same⟩ := singleQuoted_passes lines literals plain readable List.suffix_rfl
        (Bool.eq_false_iff.mpr national)
      · rw [substitute_append singleQuoted_shrinks unmatched, tails, same]
      · rw [substitute_match singleQuoted_shrinks found, tails, same]

theorem withoutQuoted_pieces (plain : (withoutComments u).head? ≠ some quoteMark)
    (quoted : AllFormed (withoutLiterals u) pieces) (readable : Readable letter u pieces) :
    withoutQuoted (sqlText pieces ++ u) = shownText 4 pieces ++ withoutQuoted u := by
  rw [withoutQuoted, withoutLiterals_pieces lines literals plain readable,
    shownText_pass doubleQuoted_shrinks (by decide), withoutQuoted]
  intro p rest suffix
  have later := withoutLiterals_pieces (lines.suffix suffix).2 (literals.suffix suffix).2 plain
    (readable.suffix suffix).tail
  obtain ⟨_, ⟨apart, _⟩, closed⟩ := readable.suffix suffix
  obtain ⟨formed, _⟩ := quoted.suffix suffix
  match p with
  | .char c => exact .inl ⟨.single (doubleQuoted_none (opening_ne formed.1 .quoted)), rfl⟩
  | .enclosed .literal body =>
    exact .inl ⟨⟨doubleQuoted_none (by decide), .single (doubleQuoted_none (by decide))⟩, rfl⟩
  | .enclosed .quoted body =>
    exact .inr ⟨doubleQuoted_quoted formed.1 (shownText_next formed.2 (by decide) (.inr (by decide))), rfl⟩
  | .enclosed .bracketed body => exact .inl ⟨later ▸ apart.2.2.2 rfl, rfl⟩
  | .line body | .block body => exact .inl ⟨.single (doubleQuoted_none (by decide)), rfl⟩
  | .unclosed _ _ => exact (closed _ List.mem_cons_self).elim

end

end

theorem doubled_split (doubled : Doubled mark s) :
    mark ∉ s ∨ ∃ a b, s = a ++ mark :: mark :: b ∧ mark ∉ a ∧ Doubled mark b := by
  induction doubled with
  | nil => simp
  | single other rest ih =>
    rename_i c s
    obtain outside | ⟨a, b, text, before, doubled⟩ := ih
    · apply Or.inl
      rw [List.mem_cons, not_or]
      exact ⟨fun same => other same.symm, outside⟩
    · refine .inr ⟨c :: a, b, by rw [text, List.cons_append], ?_, doubled⟩
      rw [List.mem_cons, not_or]
      exact ⟨fun same => other same.symm, before⟩
  | pair rest ih =>
    rename_i s
    exact .inr ⟨[], s, rfl, by simp, rest⟩

theorem bracketedName_found (outside : ']' ∉ a) : bracketedName ('[' :: (a ++ ']' :: after)) = some after := by
  have inside : ∀ c ∈ a, decide (c ≠ ']') = true := by
    intro c member
    rw [decide_eq_true_eq]
    exact fun same => outside (same ▸ member)
  rw [bracketedName, if_pos rfl, List.dropWhile_append_of_pos inside, List.dropWhile_cons_of_neg (by simp)]

/-- A name with doubled brackets is read as several, but never beyond its end. -/
theorem bracketedName_doubled {n : Nat} {body : List Char} (short : body.length ≤ n) (doubled : Doubled ']' body) :
    ∃ t, substitute bracketedName ['[', ']'] (body ++ ']' :: after) =
      t ++ ']' :: substitute bracketedName ['[', ']'] after := by
  have bracket : ∀ s : List Char, substitute bracketedName ['[', ']'] (']' :: s) =
      ']' :: substitute bracketedName ['[', ']'] s :=
    fun s => substitute_copy bracketedName_shrinks (bracketedName_none (by decide))
  induction n generalizing body with
  | zero =>
    have empty : body = [] := List.length_eq_zero_iff.mp (Nat.le_zero.mp short)
    rw [empty, List.nil_append, bracket]
    exact ⟨[], rfl⟩
  | succ n ih =>
    cases doubled with
    | nil =>
      rw [List.nil_append, bracket]
      exact ⟨[], rfl⟩
    | @single c rest other doubled =>
      rw [List.length_cons] at short
      by_cases opens : c = '['
      · subst opens
        obtain outside | ⟨a, b, text, before, left⟩ := doubled_split doubled
        · refine ⟨['['], ?_⟩
          rw [List.cons_append, substitute_match bracketedName_shrinks (bracketedName_found outside)]
          rfl
        · have lengths := congrArg List.length text
          rw [List.length_append, List.length_cons, List.length_cons] at lengths
          have found : bracketedName ('[' :: (rest ++ ']' :: after)) = some (']' :: (b ++ ']' :: after)) := by
            rw [text, List.append_assoc]
            exact bracketedName_found before
          have shorter : b.length ≤ n := by omega
          obtain ⟨t, shown⟩ := ih shorter left
          refine ⟨'[' :: ']' :: ']' :: t, ?_⟩
          rw [List.cons_append, substitute_match bracketedName_shrinks found, bracket, shown]
          rfl
      · obtain ⟨t, shown⟩ := ih (by omega) doubled
        refine ⟨c :: t, ?_⟩
        rw [List.cons_append, substitute_copy bracketedName_shrinks (bracketedName_none opens), shown, List.cons_append]
    | @pair rest doubled =>
      rw [List.length_cons, List.length_cons] at short
      obtain ⟨t, shown⟩ := ih (by omega) doubled
      refine ⟨']' :: ']' :: t, ?_⟩
      rw [List.cons_append, List.cons_append, bracket, bracket, shown]
      rfl

section

variable {letter : Char → Bool}

/-- A character that is not of a word, and none of a word after upper-casing. -/
structure Boundary (letter : Char → Bool) (c : Char) : Prop where
  outside : wordChar letter c = false
  upper : ∀ u ∈ upperCase c, wordChar letter u = false

theorem Boundary.of_keepsEdge (kept : keepsEdge letter c = true)
    (outside : wordChar letter c = false) : Boundary letter c := by
  refine ⟨outside, fun u member => ?_⟩
  rw [keepsEdge, outside, Bool.false_or, List.all_eq_true] at kept
  simpa using kept u member

/-- A character that upper-casing leaves. -/
theorem Boundary.of_kept (kept : upperCase c = [c]) (outside : wordChar letter c = false) : Boundary letter c := by
  refine ⟨outside, fun u member => ?_⟩
  rw [kept] at member
  rwa [List.mem_singleton.mp member]

/-- What remains of a piece after all substitutions; a word may follow it. -/
theorem shown_names {v u : List Char} (next : List Char) (formed : p.Formed v)
    (apart : p.Apart letter u) (closed : p.Closed) :
    ∃ out, substitute bracketedName ['[', ']'] (p.shown 4 ++ next) = out ++ substitute bracketedName ['[', ']'] next ∧
      (p.letter (wordChar letter) = none → u.head?.any (identChar letter) = true →
        ∃ c, out.getLast? = some c ∧ Boundary letter c) := by
  have copied : ∀ a : List Char, '[' ∉ a → substitute bracketedName ['[', ']'] (a ++ next) =
      a ++ substitute bracketedName ['[', ']'] next := fun a other =>
    substitute_append bracketedName_shrinks (.of_heads fun c member _ =>
      bracketedName_none fun same => other (same ▸ member))
  match p with
  | .char c =>
    refine ⟨[c], copied [c] ?_, fun stop follows => ?_⟩
    · exact fun member => opening_ne formed.1 .bracketed (List.mem_singleton.mp member).symm
    · have outside : wordChar letter c = false := by simpa [SqlPiece.letter] using stop
      obtain ⟨d, first, word⟩ := (Option.any_eq_true _ _).mp follows
      exact ⟨c, rfl, .of_keepsEdge ((apart d first).2 word) outside⟩
  | .enclosed .literal body =>
    exact ⟨[quoteMark, quoteMark], copied [quoteMark, quoteMark] (by decide),
      fun _ _ => ⟨quoteMark, rfl, .of_kept (by decide) rfl⟩⟩
  | .enclosed .quoted body =>
    exact ⟨[doubleMark, doubleMark], copied [doubleMark, doubleMark] (by decide),
      fun _ _ => ⟨doubleMark, rfl, .of_kept (by decide) rfl⟩⟩
  | .enclosed .bracketed body =>
    have doubled : Doubled ']' ('[' :: body) := .single (by decide) formed.1
    obtain ⟨t, shown⟩ := @bracketedName_doubled next _ _ (Nat.le_refl _) doubled
    refine ⟨t ++ [']'], ?_, fun _ _ => ⟨']', List.getLast?_concat, .of_kept (by decide) rfl⟩⟩
    rw [List.append_assoc]
    have text : (SqlPiece.enclosed .bracketed body).shown 4 ++ next = '[' :: body ++ ']' :: next := by
      simp [SqlPiece.shown, SqlPiece.text, Delimiter.opening, Delimiter.closing]
    rw [text]
    exact shown
  | .line body | .block body =>
    exact ⟨[' '], copied [' '] (by decide), fun _ _ => ⟨' ', rfl, .of_kept (by decide) rfl⟩⟩
  | .unclosed _ _ => exact closed.elim

variable {u : List Char}

/-- The last substitution. -/
theorem shownText_names {v : List Char} {pieces : List SqlPiece} (readable : Readable letter v pieces) :
    ∃ out, substitute bracketedName ['[', ']'] (shownText 4 pieces ++ u) =
        out ++ substitute bracketedName ['[', ']'] u ∧
      ∀ p, pieces.getLast? = some p → p.letter (wordChar letter) = none → v.head?.any (identChar letter) = true →
        ∃ c, out.getLast? = some c ∧ Boundary letter c := by
  induction pieces with
  | nil => exact ⟨[], rfl, by simp⟩
  | cons p rest ih =>
    obtain ⟨tails, shown, last⟩ := ih readable.tail
    have lastRest : ∀ q, rest ≠ [] → (p :: rest).getLast? = some q → rest.getLast? = some q := by
      intro q filled same
      cases rest with
      | nil => exact absurd rfl filled
      | cons d rest => rwa [List.getLast?_cons_cons] at same
    by_cases national : 3 ≤ 4 ∧ nationalMark p rest = true
    · refine ⟨tails, by rw [shownText_dropped national, shown], fun q same => last q (lastRest q ?_ same)⟩
      obtain ⟨_, body, left, text⟩ := nationalMark_split national.2
      simp [text]
    · obtain ⟨⟨here, _⟩, ⟨own, _⟩, closed⟩ := readable
      obtain ⟨out, first, ends⟩ := shown_names (shownText 4 rest ++ u) here own (closed p List.mem_cons_self)
      refine ⟨out ++ tails, ?_, ?_⟩
      · rw [shownText_kept national, List.append_assoc, first, shown, List.append_assoc]
      · intro q same stop follows
        cases rest with
        | nil =>
          rw [List.getLast?_singleton, Option.some.injEq] at same
          subst same
          obtain ⟨c, final, boundary⟩ := ends stop follows
          have empty : tails = [] := List.self_eq_append_left.mp shown
          exact ⟨c, by rw [empty, List.append_nil, final], boundary⟩
        | cons d rest =>
          obtain ⟨c, final, boundary⟩ := last q (lastRest q (by simp) same) stop follows
          refine ⟨c, ?_, boundary⟩
          rw [List.getLast?_append, final, Option.some_or]

/-- Characters that start no match, an N before a literal apart. -/
structure Inert (w : List Char) : Prop where
  plain : ∀ c ∈ w, c ≠ '/' ∧ c ≠ '-' ∧ c ≠ quoteMark ∧ c ≠ doubleMark ∧ c ≠ '['

section

variable {w b : List Char} (inert : Inert w)
include inert

theorem Inert.withoutBlocks : withoutBlocks (w ++ b) = w ++ withoutBlocks b :=
  substitute_append blockComment_shrinks (.of_heads fun c member _ =>
    blockComment_none fun same => absurd same (inert.plain c member).1)

theorem Inert.withoutComments : withoutComments (w ++ b) = w ++ withoutComments b := by
  rw [StockVerification.withoutComments, inert.withoutBlocks]
  exact substitute_append lineComment_shrinks (.of_heads fun c member _ =>
    lineComment_none fun same => absurd same (inert.plain c member).2.1)

theorem Inert.singleQuoted (ends : w.getLast? = some 'N' → b.head? ≠ some quoteMark) : Unmatched singleQuoted w b :=
  singleQuoted_heads (fun member => (inert.plain _ member).2.2.1 rfl) ends

theorem Inert.doubleQuoted : Unmatched doubleQuoted w b :=
  .of_heads fun c member _ => doubleQuoted_none (inert.plain c member).2.2.2.1

theorem Inert.bracketedName : Unmatched bracketedName w b :=
  .of_heads fun c member _ => bracketedName_none (inert.plain c member).2.2.2.2

theorem Inert.withoutLiterals (ends : w.getLast? ≠ some 'N') : withoutLiterals (w ++ b) = w ++ withoutLiterals b := by
  rw [StockVerification.withoutLiterals, inert.withoutComments]
  exact substitute_append singleQuoted_shrinks (inert.singleQuoted fun last => absurd last ends)

theorem Inert.withoutQuoted (ends : w.getLast? ≠ some 'N') : withoutQuoted (w ++ b) = w ++ withoutQuoted b := by
  rw [StockVerification.withoutQuoted, inert.withoutLiterals ends]
  exact substitute_append doubleQuoted_shrinks inert.doubleQuoted

theorem strip_word (ends : w.getLast? ≠ some 'N') :
    stripSqlCommentsAndLiterals (w ++ b) = w ++ stripSqlCommentsAndLiterals b := by
  rw [stripSqlCommentsAndLiterals, inert.withoutQuoted ends]
  exact substitute_append bracketedName_shrinks inert.bracketedName

/-- Around a word that no match touches, the text before and the text after it are sanitized on
their own. -/
theorem strip_around {a : List SqlPiece} (filled : w ≠ []) (ends : w.getLast? ≠ some 'N')
    (readable : Readable letter (w ++ b) a) :
    ∃ out, stripSqlCommentsAndLiterals (sqlText a ++ (w ++ b)) = out ++ (w ++ stripSqlCommentsAndLiterals b) ∧
      ∀ p, a.getLast? = some p → p.letter (wordChar letter) = none → w.head?.any (identChar letter) = true →
        ∃ c, out.getLast? = some c ∧ Boundary letter c := by
  have stays : ∀ s, AllFormed (w ++ s) a := by
    intro s
    apply readable.formed.of_head
    rw [List.head?_append_of_ne_nil _ filled, List.head?_append_of_ne_nil _ filled]
  have first : (w ++ withoutComments b).head? ≠ some quoteMark := by
    intro same
    rw [List.head?_append_of_ne_nil _ filled] at same
    exact (inert.plain _ (List.mem_of_mem_head? same)).2.2.1 rfl
  have blocks := inert.withoutBlocks (b := b)
  have comments := inert.withoutComments (b := b)
  obtain ⟨out, shown, last⟩ := shownText_names (u := w ++ withoutQuoted b) readable
  rw [List.head?_append_of_ne_nil _ filled] at last
  refine ⟨out, ?_, last⟩
  rw [stripSqlCommentsAndLiterals, withoutQuoted_pieces (blocks ▸ stays _) (comments ▸ stays _) (comments ▸ first)
    (inert.withoutLiterals ends ▸ stays _) readable, inert.withoutQuoted ends, shown,
    substitute_append bracketedName_shrinks inert.bracketedName, stripSqlCommentsAndLiterals]

end

section

variable {w b t : List Char}

theorem substitute_first {matcher : List Char → Option (List Char)} {r : Char} (more : List Char)
    (shrinks : Shrinks matcher) (apart : c ≠ r → matcher (c :: s) = none) :
    ∃ t, substitute matcher (r :: more) (c :: s) = c :: t := by
  cases found : matcher (c :: s) with
  | some after =>
    have same : c = r := by
      apply Decidable.byContradiction
      intro other
      rw [apart other] at found
      cases found
    rw [substitute_match shrinks found, same]
    exact ⟨_, rfl⟩
  | none => exact ⟨_, substitute_copy shrinks found⟩

/-- The end of a word may be taken along with a literal. -/
theorem strip_national {v : List Char} (inert : Inert v) :
    ∃ d t, stripSqlCommentsAndLiterals (v ++ 'N' :: b) = v ++ d :: t ∧ (d = 'N' ∨ d = quoteMark) := by
  have sign : Inert ['N'] := by
    constructor
    intro c member
    rw [List.mem_singleton.mp member]
    decide
  have sign_plain : ('N' :: withoutComments b).head? ≠ some quoteMark := fun same =>
    absurd (Option.some.inj same) (by decide)
  have shown := inert.withoutComments (b := 'N' :: b)
  have follows : withoutComments ('N' :: b) = 'N' :: withoutComments b := sign.withoutComments
  obtain ⟨d, s, literals, mark⟩ : ∃ d s, substitute singleQuoted [quoteMark, quoteMark]
      ('N' :: withoutComments b) = d :: s ∧ (d = 'N' ∨ d = quoteMark) := by
    cases found : singleQuoted ('N' :: withoutComments b) with
    | some after => exact ⟨quoteMark, _, substitute_match singleQuoted_shrinks found, .inr rfl⟩
    | none => exact ⟨'N', _, substitute_copy singleQuoted_shrinks found, .inl rfl⟩
  have plain : d ≠ doubleMark ∧ d ≠ '[' := by
    obtain rfl | rfl := mark <;> decide
  rw [stripSqlCommentsAndLiterals, withoutQuoted, withoutLiterals, shown, follows,
    substitute_append singleQuoted_shrinks (inert.singleQuoted fun _ => sign_plain), literals,
    substitute_append doubleQuoted_shrinks inert.doubleQuoted,
    substitute_copy doubleQuoted_shrinks (doubleQuoted_none plain.1),
    substitute_append bracketedName_shrinks inert.bracketedName,
    substitute_copy bracketedName_shrinks (bracketedName_none plain.2)]
  exact ⟨d, _, rfl, mark⟩

/-- A character that opens nothing, or whose own replacement starts with it. -/
theorem strip_symbol (block : blockComment (c :: t) = none) (dash : c = '-' → t.head? ≠ some '-')
    (other : c ≠ 'N') : ∃ s, stripSqlCommentsAndLiterals (c :: t) = c :: s := by
  have blocks : withoutBlocks (c :: t) = c :: withoutBlocks t := substitute_copy blockComment_shrinks block
  have line : lineComment (c :: withoutBlocks t) = none := by
    apply lineComment_none
    intro here next
    obtain before | instead := substitute_head blockComment_shrinks (by simp) next
    · exact dash here before
    · cases instead
  have comments : withoutComments (c :: t) = c :: withoutComments t := by
    rw [withoutComments, blocks]
    exact substitute_copy lineComment_shrinks line
  obtain ⟨t3, third⟩ := substitute_first (s := withoutComments t) [quoteMark] singleQuoted_shrinks
    fun mark => singleQuoted_none (c := c) mark fun national => absurd national other
  obtain ⟨t4, fourth⟩ := substitute_first (s := t3) [doubleMark] doubleQuoted_shrinks
    (doubleQuoted_none (c := c))
  obtain ⟨t5, fifth⟩ := substitute_first (s := t4) [']'] bracketedName_shrinks (bracketedName_none (c := c))
  exact ⟨t5, by rw [stripSqlCommentsAndLiterals, withoutQuoted, withoutLiterals, comments, third, fourth, fifth]⟩

theorem strip_opens (opens : ∀ c, b.head? = some c → Boundary letter c)
    (first : (stripSqlCommentsAndLiterals b).head? = some c) : Boundary letter c := by
  have step : ∀ {matcher : List Char → Option (List Char)} {s : List Char} (r : Char) (more : List Char),
      Shrinks matcher → Boundary letter r → (∀ d, s.head? = some d → Boundary letter d) →
      ∀ d, (substitute matcher (r :: more) s).head? = some d → Boundary letter d := by
    intro matcher s r more shrinks own given d start
    obtain before | instead := substitute_head shrinks (List.cons_ne_nil r more) start
    · exact given d before
    · rw [List.head?_cons, Option.some.injEq] at instead
      rwa [← instead]
  have blocks := step ' ' [] blockComment_shrinks (.of_kept (by decide) rfl) opens
  have lines := step ' ' [] lineComment_shrinks (.of_kept (by decide) rfl) blocks
  have literals := step quoteMark [quoteMark] singleQuoted_shrinks (.of_kept (by decide) rfl) lines
  have doubles := step doubleMark [doubleMark] doubleQuoted_shrinks (.of_kept (by decide) rfl) literals
  exact step '[' [']'] bracketedName_shrinks (.of_kept (by decide) rfl) doubles c first

/-- Space and comments do not look at what follows them, except for a line comment. -/
theorem Foundation.AllPieces.lead {pieces : List SqlPiece} (formed : AllFormed u pieces) (breaks : u.head? ≠ some '\n')
    (empty : u = [] → t = []) (blank : ∀ p ∈ pieces, p.tokens = []) : AllFormed t pieces := by
  induction pieces with
  | nil => trivial
  | cons p rest ih =>
    obtain ⟨here, later⟩ := formed
    refine ⟨?_, ih later fun q member => blank q (List.mem_cons_of_mem _ member)⟩
    have own := blank p List.mem_cons_self
    match p with
    | .char c =>
      by_cases space : isSpace c = true
      · refine ⟨here.1, ?_, ?_⟩ <;>
        · intro same
          rw [same] at space
          cases space
      · simp [SqlPiece.tokens, space] at own
    | .line body =>
      refine ⟨here.1, ?_⟩
      cases rest with
      | nil => exact here.2.imp empty fun ends => absurd ends breaks
      | cons q rest =>
        have filled : sqlText (q :: rest) ≠ [] := by
          have positive := q.text_length
          intro nothing
          have lengths := congrArg List.length nothing
          rw [sqlText_cons, List.length_append, List.length_nil] at lengths
          omega
        obtain nothing | ends := here.2
        · exact absurd (List.append_eq_nil_iff.mp nothing).1 filled
        · rw [List.head?_append_of_ne_nil _ filled] at ends ⊢
          exact .inr ends
    | .block body => exact here
    | .enclosed _ _ | .unclosed _ _ => simp [SqlPiece.tokens] at own

/-- Space and comments become space. -/
theorem strip_lead {u : List Char} {lead : List SqlPiece} (blank : ∀ p ∈ lead, p.tokens = [])
    (formed : AllFormed u lead) (apart : AllPieces (SqlPiece.Apart letter) u lead) (breaks : u.head? ≠ some '\n') :
    ∃ s, stripSqlCommentsAndLiterals (sqlText lead ++ u) = s ++ stripSqlCommentsAndLiterals u ∧
      ∀ c ∈ s, isSpace c = true := by
  have closed : ∀ p ∈ lead, p.Closed := by
    intro p member
    have own := blank p member
    cases p with
    | unclosed d body => simp [SqlPiece.tokens] at own
    | _ => trivial
  have readable : Readable letter u lead := ⟨formed, apart, closed⟩
  have spaces : ∀ c ∈ shownText 2 lead, isSpace c = true := by
    clear formed closed apart readable
    induction lead with
    | nil => simp [shownText]
    | cons p rest ih =>
      have own := blank p List.mem_cons_self
      rw [shownText_kept (by omega)]
      intro c member
      obtain here | later := List.mem_append.mp member
      · cases p with
        | char d =>
          rw [List.mem_singleton.mp here]
          by_cases space : isSpace d = true
          · exact space
          · simp [SqlPiece.tokens, space] at own
        | line | block =>
          rw [List.mem_singleton.mp here]
          decide
        | enclosed | unclosed => simp [SqlPiece.tokens] at own
      · exact ih (fun q inner => blank q (List.mem_cons_of_mem _ inner)) c later
  have unlike : ∀ {c d : Char}, isSpace d = false → c ∈ shownText 2 lead → c ≠ d := by
    intro c d plain member same
    rw [← same, spaces c member] at plain
    cases plain
  have inert : Inert (shownText 2 lead) := by
    constructor
    intro c member
    exact ⟨unlike (by decide) member, unlike (by decide) member, unlike (by decide) member,
      unlike (by decide) member, unlike (by decide) member⟩
  have ends : (shownText 2 lead).getLast? = some 'N' → False := fun last =>
    unlike (by decide) (List.mem_of_mem_getLast? last) rfl
  have lines : AllFormed (withoutBlocks u) lead := formed.lead breaks (fun none => by rw [none]; rfl) blank
  refine ⟨shownText 2 lead, ?_, spaces⟩
  rw [stripSqlCommentsAndLiterals, withoutQuoted, withoutLiterals, withoutComments_pieces lines readable,
    substitute_append singleQuoted_shrinks (inert.singleQuoted fun last => (ends last).elim),
    substitute_append doubleQuoted_shrinks inert.doubleQuoted,
    substitute_append bracketedName_shrinks inert.bracketedName]
  rfl

end

end

end StockVerification
