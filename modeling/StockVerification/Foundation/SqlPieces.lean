import StockVerification.Foundation.Text

/-!
# The pieces of a Transact-SQL text

A text is read from the left. Outside literals, delimited identifiers and comments each character is
a piece of its own. A closing mark is doubled to stand for itself, a line comment ends before the
line break, and block comments nest. What is not closed runs to the end of the text.
-/
namespace StockVerification.Foundation

open Text

def quoteMark : Char := Char.ofNat 0x27

def doubleMark : Char := Char.ofNat 0x22

inductive Delimiter where
  | literal
  | quoted
  | bracketed
  deriving DecidableEq

namespace Delimiter

def opening : Delimiter → Char
  | literal => quoteMark
  | quoted => doubleMark
  | bracketed => '['

def closing : Delimiter → Char
  | literal => quoteMark
  | quoted => doubleMark
  | bracketed => ']'

def opened (c : Char) : Option Delimiter :=
  if c = quoteMark then some literal
  else if c = doubleMark then some quoted
  else if c = '[' then some bracketed
  else none

end Delimiter

/-- `unclosed none` is a block comment. -/
inductive SqlPiece where
  | char (c : Char)
  | enclosed (d : Delimiter) (body : List Char)
  | line (body : List Char)
  | block (body : List Char)
  | unclosed (d : Option Delimiter) (body : List Char)
  deriving DecidableEq

def SqlPiece.text : SqlPiece → List Char
  | char c => [c]
  | enclosed d body => d.opening :: (body ++ [d.closing])
  | line body => '-' :: '-' :: body
  | block body => '/' :: '*' :: (body ++ ['*', '/'])
  | unclosed (some d) body => d.opening :: body
  | unclosed none body => '/' :: '*' :: body

def sqlText (pieces : List SqlPiece) : List Char := pieces.flatMap SqlPiece.text

/-- Up to the first closing mark that is not doubled, and what follows it. -/
def closeMark (mark : Char) : List Char → Option (List Char × List Char)
  | [] => none
  | [c] => if c = mark then some ([], []) else none
  | c :: d :: rest =>
    if c ≠ mark then (closeMark mark (d :: rest)).map fun found => (c :: found.1, found.2)
    else if d = mark then (closeMark mark rest).map fun found => (c :: d :: found.1, found.2)
    else some ([], d :: rest)

/-- With the number of comments opened inside. -/
def closeBlock : Nat → List Char → Option (List Char × List Char)
  | depth, c :: d :: rest =>
    if c = '*' ∧ d = '/' then
      match depth with
      | 0 => some ([], rest)
      | depth + 1 => (closeBlock depth rest).map fun found => (c :: d :: found.1, found.2)
    else if c = '/' ∧ d = '*' then (closeBlock (depth + 1) rest).map fun found => (c :: d :: found.1, found.2)
    else (closeBlock depth (d :: rest)).map fun found => (c :: found.1, found.2)
  | _, _ => none

/-- The piece that starts with a character, and what follows the piece. -/
def nextPiece (c : Char) (rest : List Char) : SqlPiece × List Char :=
  match Delimiter.opened c with
  | some d =>
    match closeMark d.closing rest with
    | some (body, after) => (.enclosed d body, after)
    | none => (.unclosed (some d) rest, [])
  | none =>
    if c = '-' ∧ rest.head? = some '-' then
      (.line (rest.tail.takeWhile (· ≠ '\n')), rest.tail.dropWhile (· ≠ '\n'))
    else if c = '/' ∧ rest.head? = some '*' then
      match closeBlock 0 rest.tail with
      | some (body, after) => (.block body, after)
      | none => (.unclosed none rest.tail, [])
    else (.char c, rest)

/-- With as many rounds as given. -/
def scanSqlIn : Nat → List Char → List SqlPiece
  | 0, _ => []
  | _ + 1, [] => []
  | rounds + 1, c :: rest => (nextPiece c rest).1 :: scanSqlIn rounds (nextPiece c rest).2

/-- Every piece has a character. -/
def scanSql (s : List Char) : List SqlPiece := scanSqlIn s.length s

inductive SqlToken where
  | word (letters : List Char)
  | symbol (c : Char)
  | enclosed (d : Delimiter) (body : List Char)
  | unclosed (d : Option Delimiter) (body : List Char)
  deriving DecidableEq

def flushWord : List Char → List SqlToken
  | [] => []
  | letters => [.word letters]

/-- A word goes on with an identifier character. -/
def SqlPiece.letter (ident : Char → Bool) : SqlPiece → Option Char
  | char c => if ident c then some c else none
  | _ => none

/-- Space and comments are between the tokens. -/
def SqlPiece.tokens : SqlPiece → List SqlToken
  | char c => if isSpace c then [] else [.symbol c]
  | enclosed d body => [.enclosed d body]
  | line _ | block _ => []
  | unclosed d body => [.unclosed d body]

/-- Words are the longest runs of identifier characters. -/
def sqlTokensFrom (ident : Char → Bool) : List Char → List SqlPiece → List SqlToken
  | run, [] => flushWord run
  | run, p :: rest =>
    match p.letter ident with
    | some c => sqlTokensFrom ident (run ++ [c]) rest
    | none => flushWord run ++ p.tokens ++ sqlTokensFrom ident [] rest

def sqlTokens (ident : Char → Bool) (s : List Char) : List SqlToken := sqlTokensFrom ident [] (scanSql s)

/-- Two characters one right after the other. -/
def holdsPair (x y : Char) : List Char → Bool
  | c :: d :: rest => (c = x && d = y) || holdsPair x y (d :: rest)
  | _ => false

/-- Every mark is followed by a second one. -/
inductive Doubled (mark : Char) : List Char → Prop
  | nil : Doubled mark []
  | single {c : Char} {rest : List Char} : c ≠ mark → Doubled mark rest → Doubled mark (c :: rest)
  | pair {rest : List Char} : Doubled mark rest → Doubled mark (mark :: mark :: rest)

/-- What the piece says of itself and of the text after it. -/
def SqlPiece.Formed (next : List Char) : SqlPiece → Prop
  | char c => Delimiter.opened c = none ∧ (c = '-' → next.head? ≠ some '-') ∧ (c = '/' → next.head? ≠ some '*')
  | enclosed d body => Doubled d.closing body ∧ next.head? ≠ some d.closing
  | line body => '\n' ∉ body ∧ (next = [] ∨ next.head? = some '\n')
  | block body => holdsPair '/' '*' body = false → holdsPair '*' '/' body = false
  | unclosed none body => next = [] ∧ (holdsPair '/' '*' body = false → holdsPair '*' '/' body = false)
  | unclosed (some _) _ => next = []

/-- Every piece has a property of it and of the text after it, with the text that follows the
last. -/
def AllPieces (P : List Char → SqlPiece → Prop) (after : List Char) : List SqlPiece → Prop
  | [] => True
  | p :: rest => P (sqlText rest ++ after) p ∧ AllPieces P after rest

instance AllPieces.decidable (P : List Char → SqlPiece → Prop) [∀ next, DecidablePred (P next)] (after : List Char) :
    DecidablePred (AllPieces P after)
  | [] => inferInstanceAs (Decidable True)
  | p :: rest =>
    have := AllPieces.decidable P after rest
    inferInstanceAs (Decidable (P (sqlText rest ++ after) p ∧ AllPieces P after rest))

abbrev AllFormed : List Char → List SqlPiece → Prop := AllPieces SqlPiece.Formed

@[simp] theorem sqlText_nil : sqlText [] = [] := rfl

@[simp] theorem sqlText_cons (p : SqlPiece) (rest : List SqlPiece) : sqlText (p :: rest) = p.text ++ sqlText rest := rfl

@[simp] theorem sqlText_append (a b : List SqlPiece) : sqlText (a ++ b) = sqlText a ++ sqlText b := List.flatMap_append

theorem holdsPair_cons (x y c : Char) (s : List Char) :
    holdsPair x y (c :: s) = ((decide (c = x) && decide (s.head? = some y)) || holdsPair x y s) := by
  cases s with
  | nil => simp [holdsPair]
  | cons d rest => simp [holdsPair]

variable {c : Char}

theorem Delimiter.opened_opening {d : Delimiter} (opens : opened c = some d) : c = d.opening := by
  unfold opened at opens
  by_cases single : c = quoteMark
  · rw [if_pos single] at opens
    cases opens
    exact single
  · rw [if_neg single] at opens
    by_cases double : c = doubleMark
    · rw [if_pos double] at opens
      cases opens
      exact double
    · rw [if_neg double] at opens
      by_cases bracket : c = '['
      · rw [if_pos bracket] at opens
        cases opens
        exact bracket
      · rw [if_neg bracket] at opens
        cases opens

variable {s after body : List Char}

theorem closeMark_some {mark : Char} (found : closeMark mark s = some (body, after)) :
    s = body ++ mark :: after ∧ Doubled mark body ∧ after.head? ≠ some mark := by
  induction s using closeMark.induct mark generalizing body after with
  | case1 => cases found
  | case2 =>
    rw [closeMark, if_pos rfl] at found
    cases found
    exact ⟨rfl, .nil, by simp⟩
  | case3 c other =>
    rw [closeMark, if_neg other] at found
    cases found
  | case4 c d rest other ih =>
    rw [closeMark, if_pos other] at found
    obtain ⟨⟨inner, left⟩, later, ⟨⟩⟩ := Option.map_eq_some_iff.mp found
    obtain ⟨text, doubled, ends⟩ := ih later
    exact ⟨by rw [text, List.cons_append], .single other doubled, ends⟩
  | case5 c rest here ih =>
    have mark_here : c = mark := Decidable.not_not.mp here
    rw [closeMark, if_neg here, if_pos rfl] at found
    obtain ⟨⟨inner, left⟩, later, ⟨⟩⟩ := Option.map_eq_some_iff.mp found
    obtain ⟨text, doubled, ends⟩ := ih later
    have pairs : Doubled mark (c :: mark :: inner) := by
      rw [mark_here]
      exact .pair doubled
    exact ⟨by rw [text]; rfl, pairs, ends⟩
  | case6 c d rest here other =>
    have mark_here : c = mark := Decidable.not_not.mp here
    rw [closeMark, if_neg here, if_neg other] at found
    cases found
    exact ⟨by rw [mark_here, List.nil_append], .nil, by simpa using other⟩

variable {depth : Nat}

theorem closeBlock_inside {d : Char} {rest : List Char} (stays : ¬(c = '*' ∧ d = '/')) (inside : ¬(c = '/' ∧ d = '*')) :
    closeBlock depth (c :: d :: rest) = (closeBlock depth (d :: rest)).map fun found => (c :: found.1, found.2) := by
  cases depth with
  | zero | succ depth => rw [closeBlock, if_neg stays, if_neg inside]

theorem closeBlock_opens {d : Char} {rest : List Char} (stays : ¬(c = '*' ∧ d = '/')) (opens : c = '/' ∧ d = '*') :
    closeBlock depth (c :: d :: rest) =
      (closeBlock (depth + 1) rest).map fun found => (c :: d :: found.1, found.2) := by
  cases depth with
  | zero | succ depth => rw [closeBlock, if_neg stays, if_pos opens]

theorem closeBlock_text (found : closeBlock depth s = some (body, after)) :
    s = body ++ '*' :: '/' :: after := by
  induction depth, s using closeBlock.induct generalizing body after with
  | case1 c d rest ends =>
    rw [closeBlock, if_pos ends] at found
    cases found
    rw [ends.1, ends.2, List.nil_append]
  | case2 c d rest ends depth ih =>
    rw [closeBlock, if_pos ends] at found
    obtain ⟨⟨inner, left⟩, later, ⟨⟩⟩ := Option.map_eq_some_iff.mp found
    rw [ih later, List.cons_append, List.cons_append]
  | case3 depth c d rest stays opens ih =>
    rw [closeBlock_opens stays opens] at found
    obtain ⟨⟨inner, left⟩, later, ⟨⟩⟩ := Option.map_eq_some_iff.mp found
    rw [ih later, List.cons_append, List.cons_append]
  | case4 depth c d rest stays inside ih =>
    rw [closeBlock_inside stays inside] at found
    obtain ⟨⟨inner, left⟩, later, ⟨⟩⟩ := Option.map_eq_some_iff.mp found
    rw [ih later, List.cons_append]
  | case5 depth s short =>
    rw [closeBlock] at found
    · cases found
    · exact short

/-- Without a comment inside, a block comment ends at the first end mark. -/
theorem closeBlock_some (found : closeBlock 0 s = some (body, after))
    (flat : holdsPair '/' '*' body = false) : holdsPair '*' '/' body = false := by
  induction s generalizing body with
  | nil => cases found
  | cons c s ih =>
    cases s with
    | nil => cases found
    | cons d rest =>
      by_cases ends : c = '*' ∧ d = '/'
      · rw [closeBlock, if_pos ends] at found
        cases found
        rfl
      · by_cases opens : c = '/' ∧ d = '*'
        · rw [closeBlock_opens ends opens] at found
          obtain ⟨⟨inner, left⟩, later, ⟨⟩⟩ := Option.map_eq_some_iff.mp found
          simp [holdsPair, opens] at flat
        · rw [closeBlock_inside ends opens] at found
          obtain ⟨⟨inner, left⟩, later, ⟨⟩⟩ := Option.map_eq_some_iff.mp found
          have text := closeBlock_text later
          rw [holdsPair_cons, Bool.or_eq_false_iff] at flat
          rw [holdsPair_cons, ih later flat.2, Bool.or_false, Bool.and_eq_false_iff,
            decide_eq_false_iff_not, decide_eq_false_iff_not]
          by_cases star : c = '*'
          · apply Or.inr
            intro slash
            cases inner with
            | nil => cases slash
            | cons e inner =>
              rw [List.cons_append, List.cons.injEq] at text
              rw [List.head?_cons, Option.some.injEq] at slash
              exact ends ⟨star, text.1.trans slash⟩
          · exact .inl star

theorem closeBlock_none (found : closeBlock 0 s = none) (flat : holdsPair '/' '*' s = false) :
    holdsPair '*' '/' s = false := by
  induction s with
  | nil => rfl
  | cons c s ih =>
    cases s with
    | nil => rfl
    | cons d rest =>
      by_cases ends : c = '*' ∧ d = '/'
      · rw [closeBlock, if_pos ends] at found
        cases found
      · by_cases opens : c = '/' ∧ d = '*'
        · simp [holdsPair, opens] at flat
        · rw [closeBlock_inside ends opens, Option.map_eq_none_iff] at found
          rw [holdsPair, Bool.or_eq_false_iff] at flat
          rw [holdsPair, ih found flat.2, Bool.or_false]
          simpa using ends

/-- The break that ends a line comment is left. -/
theorem line_split (s : List Char) : let body := s.takeWhile (· ≠ '\n')
    let after := s.dropWhile (· ≠ '\n')
    s = body ++ after ∧ '\n' ∉ body ∧ (after = [] ∨ after.head? = some '\n') := by
  intro body after
  refine ⟨List.takeWhile_append_dropWhile.symm, fun inside => ?_, ?_⟩
  · have kept := List.mem_takeWhile_imp inside
    simp at kept
  · cases stop : after with
    | nil => exact .inl rfl
    | cons c rest =>
      have filled : after ≠ [] := by simp [stop]
      have ends := List.head_dropWhile_not (· ≠ '\n') filled
      have first : after.head filled = c := by simp [stop]
      rw [first] at ends
      exact .inr (by simpa using ends)

theorem nextPiece_spec (c : Char) (rest : List Char) : c :: rest = (nextPiece c rest).1.text ++ (nextPiece c rest).2 ∧
      (nextPiece c rest).1.Formed (nextPiece c rest).2 := by
  cases opens : Delimiter.opened c with
  | some d =>
    have mark := Delimiter.opened_opening opens
    cases found : closeMark d.closing rest with
    | none =>
      have piece : nextPiece c rest = (.unclosed (some d) rest, []) := by simp [nextPiece, opens, found]
      rw [piece]
      exact ⟨by simp [SqlPiece.text, mark], rfl⟩
    | some closed =>
      obtain ⟨body, after⟩ := closed
      obtain ⟨text, doubled, ends⟩ := closeMark_some found
      have piece : nextPiece c rest = (.enclosed d body, after) := by simp [nextPiece, opens, found]
      rw [piece]
      exact ⟨by simp [SqlPiece.text, mark, text], doubled, ends⟩
  | none =>
    by_cases line : c = '-' ∧ rest.head? = some '-'
    · obtain ⟨text, single, ends⟩ := line_split rest.tail
      have second : rest = '-' :: rest.tail := (List.cons_head?_tail line.2).symm
      have piece : nextPiece c rest = (.line (rest.tail.takeWhile (· ≠ '\n')), rest.tail.dropWhile (· ≠ '\n')) := by
        simp only [nextPiece, opens, if_pos line]
      rw [piece]
      refine ⟨?_, single, ends⟩
      rw [SqlPiece.text, List.cons_append, List.cons_append, ← text, ← second, line.1]
    · by_cases block : c = '/' ∧ rest.head? = some '*'
      · have second : rest = '*' :: rest.tail := (List.cons_head?_tail block.2).symm
        cases found : closeBlock 0 rest.tail with
        | none =>
          have piece : nextPiece c rest = (.unclosed none rest.tail, []) := by
            simp only [nextPiece, opens, if_neg line, if_pos block, found]
          rw [piece]
          refine ⟨?_, rfl, closeBlock_none found⟩
          rw [SqlPiece.text, List.append_nil, ← second, block.1]
        | some closed =>
          have piece : nextPiece c rest = (.block closed.1, closed.2) := by
            simp only [nextPiece, opens, if_neg line, if_pos block, found]
          rw [piece]
          refine ⟨?_, closeBlock_some found⟩
          have text := closeBlock_text found
          rw [SqlPiece.text, List.cons_append, List.cons_append, List.append_assoc,
            List.cons_append, List.cons_append, List.nil_append, ← text, ← second, block.1]
      · have piece : nextPiece c rest = (.char c, rest) := by
          simp only [nextPiece, opens, if_neg line, if_neg block]
        rw [piece]
        exact ⟨rfl, opens, fun dash next => line ⟨dash, next⟩, fun slash next => block ⟨slash, next⟩⟩

theorem SqlPiece.text_length (p : SqlPiece) : 0 < p.text.length := by
  cases p with
  | unclosed d body => cases d <;> simp [text]
  | _ => simp [text]

theorem scanSqlIn_spec {rounds : Nat} (enough : s.length ≤ rounds) :
    sqlText (scanSqlIn rounds s) = s ∧ AllFormed [] (scanSqlIn rounds s) := by
  induction rounds generalizing s with
  | zero =>
    have empty : s = [] := List.length_eq_zero_iff.mp (Nat.le_zero.mp enough)
    subst empty
    exact ⟨rfl, trivial⟩
  | succ rounds ih =>
    cases s with
    | nil => exact ⟨rfl, trivial⟩
    | cons c rest =>
      obtain ⟨text, formed⟩ := nextPiece_spec c rest
      have lengths := congrArg List.length text
      have positive := (nextPiece c rest).1.text_length
      rw [List.length_cons] at enough
      rw [List.length_cons, List.length_append] at lengths
      obtain ⟨texts, all⟩ := ih (s := (nextPiece c rest).2) (by omega)
      constructor
      · rw [scanSqlIn, sqlText_cons, texts, ← text]
      · rw [scanSqlIn]
        refine ⟨?_, all⟩
        rwa [texts, List.append_nil]

theorem sqlText_scanSql (s : List Char) : sqlText (scanSql s) = s := (scanSqlIn_spec (Nat.le_refl _)).1

theorem scanSql_formed (s : List Char) : AllFormed [] (scanSql s) := (scanSqlIn_spec (Nat.le_refl _)).2

theorem AllPieces.split {P : List Char → SqlPiece → Prop} {a b : List SqlPiece} (all : AllPieces P after (a ++ b)) :
    AllPieces P (sqlText b ++ after) a ∧ AllPieces P after b := by
  induction a with
  | nil => exact ⟨trivial, all⟩
  | cons p rest ih =>
    rw [List.cons_append] at all
    obtain ⟨here, later⟩ := all
    rw [sqlText_append, List.append_assoc] at here
    exact ⟨⟨here, (ih later).1⟩, (ih later).2⟩

theorem AllPieces.suffix {P : List Char → SqlPiece → Prop} {a b : List SqlPiece}
    (all : AllPieces P after b) (suffix : a <:+ b) : AllPieces P after a := by
  obtain ⟨front, rfl⟩ := suffix
  exact all.split.2

variable {pieces : List SqlPiece}

section Tokens

variable {ident : Char → Bool} {p : SqlPiece} {rest : List SqlPiece} {run : List Char}

theorem sqlTokensFrom_letter (letter : p.letter ident = some c) :
    sqlTokensFrom ident run (p :: rest) = sqlTokensFrom ident (run ++ [c]) rest := by
  rw [sqlTokensFrom, letter]

theorem sqlTokensFrom_stop (stop : p.letter ident = none) :
    sqlTokensFrom ident run (p :: rest) = flushWord run ++ p.tokens ++ sqlTokensFrom ident [] rest := by
  rw [sqlTokensFrom, stop]

theorem SqlPiece.letter_some (letter : p.letter ident = some c) : p = .char c ∧ ident c = true := by
  cases p with
  | char d =>
    rw [SqlPiece.letter] at letter
    by_cases inside : ident d = true
    · rw [if_pos inside, Option.some.injEq] at letter
      subst letter
      exact ⟨rfl, inside⟩
    · rw [if_neg inside] at letter
      cases letter
  | _ => cases letter

theorem mem_flushWord {t : SqlToken} (member : t ∈ flushWord run) : t = .word run ∧ run ≠ [] := by
  cases run with
  | nil => cases member
  | cons c run => exact ⟨List.mem_singleton.mp member, by simp⟩

theorem SqlPiece.word_notMem_tokens (p : SqlPiece) (w : List Char) : .word w ∉ p.tokens := by
  cases p with
  | char c =>
    rw [tokens]
    by_cases space : isSpace c = true
    · simp [space]
    · simp [space]
  | _ => simp [tokens]

/-- The piece right after a word does not go on with it. -/
def StopsWord (ident : Char → Bool) (pieces : List SqlPiece) : Prop :=
  ∀ p rest, pieces = p :: rest → p.letter ident = none

/-- A word is a run of characters, either right at the start or after a piece that does not belong
to it. -/
theorem word_split {w : List Char} (member : .word w ∈ sqlTokensFrom ident run pieces) :
    w ≠ [] ∧
      ((∃ v b, w = run ++ v ∧ pieces = v.map SqlPiece.char ++ b ∧ (∀ c ∈ v, ident c = true) ∧ StopsWord ident b) ∨
        (∃ a p b, pieces = a ++ p :: (w.map SqlPiece.char ++ b) ∧ p.letter ident = none ∧
          (∀ c ∈ w, ident c = true) ∧ StopsWord ident b)) := by
  induction pieces generalizing run with
  | nil =>
    obtain ⟨⟨⟩, filled⟩ := mem_flushWord member
    exact ⟨filled, .inl ⟨[], [], by simp, rfl, by simp, by simp [StopsWord]⟩⟩
  | cons p rest ih =>
    cases letter : p.letter ident with
    | some c =>
      rw [sqlTokensFrom_letter letter] at member
      obtain ⟨piece, inside⟩ := SqlPiece.letter_some letter
      obtain ⟨filled, first | later⟩ := ih member
      · obtain ⟨v, b, word, text, letters, stops⟩ := first
        refine ⟨filled, .inl ⟨c :: v, b, by rw [word, List.append_assoc]; rfl, ?_, ?_, stops⟩⟩
        · rw [text, piece]
          rfl
        · simpa [inside] using letters
      · obtain ⟨a, q, b, text, others⟩ := later
        exact ⟨filled, .inr ⟨p :: a, q, b, by rw [text, List.cons_append], others⟩⟩
    | none =>
      rw [sqlTokensFrom_stop letter, List.append_assoc, List.mem_append, List.mem_append] at member
      obtain flushed | own | later := member
      · obtain ⟨⟨⟩, filled⟩ := mem_flushWord flushed
        refine ⟨filled, .inl ⟨[], p :: rest, by simp, rfl, by simp, ?_⟩⟩
        intro q left same
        cases same
        exact letter
      · exact absurd own (p.word_notMem_tokens w)
      · obtain ⟨filled, first | inner⟩ := ih later
        · obtain ⟨v, b, word, text, letters, stops⟩ := first
          rw [List.nil_append] at word
          subst word
          exact ⟨filled, .inr ⟨[], p, b, by rw [text, List.nil_append], letter, letters, stops⟩⟩
        · obtain ⟨a, q, b, text, others⟩ := inner
          exact ⟨filled, .inr ⟨p :: a, q, b, by rw [text, List.cons_append], others⟩⟩

theorem symbol_split (member : .symbol c ∈ sqlTokensFrom ident run pieces) :
    ∃ a b, pieces = a ++ .char c :: b ∧ ident c = false := by
  induction pieces generalizing run with
  | nil => cases (mem_flushWord member).1
  | cons p rest ih =>
    have later : (∃ a b, rest = a ++ .char c :: b ∧ ident c = false) →
        ∃ a b, p :: rest = a ++ .char c :: b ∧ ident c = false := by
      intro ⟨a, b, text, outside⟩
      exact ⟨p :: a, b, by rw [text, List.cons_append], outside⟩
    cases letter : p.letter ident with
    | some d =>
      rw [sqlTokensFrom_letter letter] at member
      exact later (ih member)
    | none =>
      rw [sqlTokensFrom_stop letter, List.append_assoc, List.mem_append, List.mem_append] at member
      obtain flushed | own | inner := member
      · cases (mem_flushWord flushed).1
      · cases p with
        | char d =>
          rw [SqlPiece.tokens] at own
          by_cases space : isSpace d = true
          · simp [space] at own
          · rw [if_neg space, List.mem_singleton, SqlToken.symbol.injEq] at own
            subst own
            refine ⟨[], rest, rfl, ?_⟩
            simpa [SqlPiece.letter] using letter
        | _ => simp [SqlPiece.tokens] at own
      · exact later (ih inner)

theorem first_word_run (filled : run ≠ []) (pieces : List SqlPiece) :
    ∃ v b, pieces = v.map SqlPiece.char ++ b ∧ (∀ c ∈ v, ident c = true) ∧ StopsWord ident b ∧
      (sqlTokensFrom ident run pieces).head? = some (.word (run ++ v)) := by
  have flushed : ∀ {r : List Char} (more : List SqlToken), r ≠ [] → (flushWord r ++ more).head? = some (.word r) := by
    intro r more full
    cases r with
    | nil => exact absurd rfl full
    | cons c r => rfl
  induction pieces generalizing run with
  | nil =>
    have head := flushed [] filled
    rw [List.append_nil] at head
    exact ⟨[], [], rfl, by simp, by simp [StopsWord], by rw [sqlTokensFrom, List.append_nil, head]⟩
  | cons p rest ih =>
    cases letter : p.letter ident with
    | some c =>
      obtain ⟨piece, inside⟩ := SqlPiece.letter_some letter
      have more : run ++ [c] ≠ [] := by simp
      obtain ⟨v, b, text, letters, stops, head⟩ := ih more
      refine ⟨c :: v, b, by rw [text, piece]; rfl, by simpa [inside] using letters, stops, ?_⟩
      rw [sqlTokensFrom_letter letter, head, List.append_assoc]
      rfl
    | none =>
      refine ⟨[], p :: rest, rfl, by simp, ?_, ?_⟩
      · intro q left same
        cases same
        exact letter
      · rw [sqlTokensFrom_stop letter, List.append_assoc, flushed _ filled, List.append_nil]

theorem first_word (letter : p.letter ident = some c) :
    ∃ w b, p :: rest = w.map SqlPiece.char ++ b ∧ w.head? = some c ∧ (∀ c ∈ w, ident c = true) ∧
      StopsWord ident b ∧ (sqlTokensFrom ident [] (p :: rest)).head? = some (.word w) := by
  obtain ⟨piece, inside⟩ := SqlPiece.letter_some letter
  obtain ⟨v, b, text, letters, stops, head⟩ := @first_word_run ident [c] (by simp) rest
  refine ⟨c :: v, b, by rw [text, piece]; rfl, rfl, by simpa [inside] using letters, stops, ?_⟩
  rw [sqlTokensFrom_letter letter]
  exact head

theorem SqlPiece.letter_of_blank (spaced : ∀ c, isSpace c = true → ident c = false)
    (blank : p.tokens = []) : p.letter ident = none := by
  cases p with
  | char c =>
    by_cases space : isSpace c = true
    · rw [letter, spaced c space]
      rfl
    · simp [tokens, space] at blank
  | _ => rfl

/-- Space and comments before the first token. -/
theorem sqlTokensFrom_lead (spaced : ∀ c, isSpace c = true → ident c = false) {lead : List SqlPiece}
    (blank : ∀ p ∈ lead, p.tokens = []) (rest : List SqlPiece) :
    sqlTokensFrom ident [] (lead ++ rest) = sqlTokensFrom ident [] rest := by
  induction lead with
  | nil => rfl
  | cons p lead ih =>
    have here := blank p List.mem_cons_self
    rw [List.cons_append, sqlTokensFrom_stop (SqlPiece.letter_of_blank spaced here), here,
      ih fun q member => blank q (List.mem_cons_of_mem _ member)]
    rfl

theorem lead_split (pieces : List SqlPiece) : ∃ lead rest, pieces = lead ++ rest ∧ (∀ p ∈ lead, p.tokens = []) ∧
      ∀ p left, rest = p :: left → p.tokens ≠ [] := by
  induction pieces with
  | nil => exact ⟨[], [], rfl, by simp, by simp⟩
  | cons p rest ih =>
    by_cases blank : p.tokens = []
    · obtain ⟨lead, left, text, blanks, first⟩ := ih
      exact ⟨p :: lead, left, by rw [text, List.cons_append], by simpa [blank] using blanks, first⟩
    · refine ⟨[], p :: rest, rfl, by simp, ?_⟩
      intro q left same
      cases same
      exact blank

end Tokens

/-- Only the first character after the last piece counts. -/
theorem AllPieces.of_head {t u : List Char} (same : t.head? = u.head?)
    (formed : AllFormed t pieces) : AllFormed u pieces := by
  induction pieces with
  | nil => trivial
  | cons p rest ih =>
    obtain ⟨here, later⟩ := formed
    have next : (sqlText rest ++ t).head? = (sqlText rest ++ u).head? := by
      rw [List.head?_append, List.head?_append, same]
    have empty : sqlText rest ++ t = [] → sqlText rest ++ u = [] := by
      intro nothing
      rw [nothing, List.head?_nil] at next
      exact List.head?_eq_none_iff.mp next.symm
    refine ⟨?_, ih later⟩
    cases p with
    | char c => exact ⟨here.1, next ▸ here.2.1, next ▸ here.2.2⟩
    | enclosed d body => exact ⟨here.1, next ▸ here.2⟩
    | line body => exact ⟨here.1, here.2.imp empty fun ends => next ▸ ends⟩
    | block body => exact here
    | unclosed d body =>
      cases d with
      | none => exact ⟨empty here.1, here.2⟩
      | some d => exact empty here

end StockVerification.Foundation
