import StockVerification.Foundation.SqlPieces
import StockVerification.Foundation.Substitution

/-!
# The read-only guard of the ERP connector

Source: backend/sql_server_connector.py:67-82 and 276-336.

Every statement for the ERP database passes `_assert_read_only_query`, which replaces comments,
literals and delimited identifiers by five substitutions, one after another, and looks for keywords
in what is left. A regular expression is a function from a text to what follows its match at the
start of the text. `letter` answers which characters outside ASCII belong to words.
-/
namespace StockVerification

open Foundation Foundation.Text

inductive ErpQueryError where
  | databaseQuery (message : String)
  | readOnlyViolation (message : String)
  deriving DecidableEq

def disallowedSqlKeywords : List String :=
  ["INSERT", "UPDATE", "DELETE", "MERGE", "DROP", "ALTER", "TRUNCATE", "CREATE", "EXEC", "EXECUTE", "GRANT", "REVOKE"]

def disallowedSelectKeywords : List String := ["INTO"]

def disallowedBatchTokens : List String := ["GO"]

/-- Up to and with the first such pair. -/
def afterPair (x y : Char) : List Char → Option (List Char)
  | c :: d :: rest => if c = x ∧ d = y then some rest else afterPair x y (d :: rest)
  | _ => none

/-- `/\*.*?\*/` with DOTALL. -/
def blockComment : List Char → Option (List Char)
  | c :: d :: rest => if c = '/' ∧ d = '*' then afterPair '*' '/' rest else none
  | _ => none

/-- `--.*?$` with MULTILINE. -/
def lineComment : List Char → Option (List Char)
  | c :: d :: rest => if c = '-' ∧ d = '-' then some (rest.dropWhile (· ≠ '\n')) else none
  | _ => none

/-- `(?:''|[^'])*'`, and the same with another mark: a doubled mark is given up when no end is found
after it. -/
def afterMark (mark : Char) : List Char → Option (List Char)
  | [] => none
  | [c] => if c = mark then some [] else none
  | c :: d :: rest =>
    if c ≠ mark then afterMark mark (d :: rest)
    else if d = mark then (afterMark mark rest).or (some (d :: rest))
    else some (d :: rest)

/-- `N?'(?:''|[^'])*'`. -/
def singleQuoted : List Char → Option (List Char)
  | [] => none
  | c :: rest =>
    if c = 'N' ∧ rest.head? = some quoteMark then afterMark quoteMark rest.tail
    else if c = quoteMark then afterMark quoteMark rest
    else none

/-- `"(?:""|[^"])*"`. -/
def doubleQuoted : List Char → Option (List Char)
  | [] => none
  | c :: rest => if c = doubleMark then afterMark doubleMark rest else none

/-- `\[[^\]]*\]`. -/
def bracketedName : List Char → Option (List Char)
  | [] => none
  | c :: rest =>
    if c = '[' then
      match rest.dropWhile (· ≠ ']') with
      | [] => none
      | _ :: after => some after
    else none

def withoutBlocks (query : List Char) : List Char := substitute blockComment [' '] query

def withoutComments (query : List Char) : List Char := substitute lineComment [' '] (withoutBlocks query)

def withoutLiterals (query : List Char) : List Char :=
  substitute singleQuoted [quoteMark, quoteMark] (withoutComments query)

def withoutQuoted (query : List Char) : List Char :=
  substitute doubleQuoted [doubleMark, doubleMark] (withoutLiterals query)

/-- The five substitutions, one after another. -/
def stripSqlCommentsAndLiterals (query : List Char) : List Char :=
  substitute bracketedName ['[', ']'] (withoutQuoted query)

/-- `\s+`. -/
def spaceRun : List Char → Option (List Char)
  | [] => none
  | c :: rest => if isSpace c then some (rest.dropWhile isSpace) else none

def collapse (s : List Char) : List Char := substitute spaceRun [' '] s

/-- One more character that is not of a word becomes one that is. -/
def upperCase (c : Char) : List Char := if c.toNat = 0x345 then [Char.ofNat 0x399] else upperChar c

def normalizeQuery (sanitized : List Char) : List Char :=
  (stripList (collapse sanitized)).flatMap upperCase

section Guard

variable (letter : Char → Bool)

/-- `\w`. -/
def wordChar (c : Char) : Bool :=
  (0x30 ≤ c.toNat && c.toNat ≤ 0x39) || (0x41 ≤ c.toNat && c.toNat ≤ 0x5a) || c = '_' ||
    (0x61 ≤ c.toNat && c.toNat ≤ 0x7a) || (128 ≤ c.toNat && !isSpace c && letter c)

/-- `\b` before and after the token, at this place or a later one. -/
def searchWord (token : List Char) : Option Char → List Char → Bool
  | before, [] => token.isEmpty && !before.any (wordChar letter)
  | before, c :: rest =>
    (!before.any (wordChar letter) && token.isPrefixOf (c :: rest) &&
      !((c :: rest).drop token.length).head?.any (wordChar letter)) || searchWord token (some c) rest

def containsDisallowedToken (normalized : List Char) (token : String) : Bool :=
  searchWord letter token.toList none normalized

def assertSelectOnlyPrefix (normalized : List Char) : Except ErpQueryError Unit :=
  if "SELECT ".toList.isPrefixOf normalized || "WITH ".toList.isPrefixOf normalized then .ok ()
  else .error (.readOnlyViolation "ERP read-only violation: non-SELECT query blocked")

def assertNoMultiStatement (sanitized : List Char) : Except ErpQueryError Unit :=
  if sanitized.contains ';' then .error (.readOnlyViolation "ERP read-only violation: multi-statement query blocked")
  else .ok ()

def assertNoDisallowedTokens (normalized : List Char) (tokens : List String) (message : String) :
    Except ErpQueryError Unit :=
  if tokens.any (containsDisallowedToken letter normalized) then .error (.readOnlyViolation message) else .ok ()

def assertReadOnlyQuery (query : String) : Except ErpQueryError Unit :=
  if query = "" then .error (.databaseQuery "SQL query is empty or invalid")
  else
    let sanitized := stripSqlCommentsAndLiterals query.toList
    let normalized := normalizeQuery sanitized
    if normalized = [] then .error (.databaseQuery "SQL query is empty after normalization")
    else do
      assertSelectOnlyPrefix normalized
      assertNoMultiStatement sanitized
      assertNoDisallowedTokens letter normalized disallowedBatchTokens
        "ERP read-only violation: batch separator blocked"
      assertNoDisallowedTokens letter normalized disallowedSqlKeywords
        "ERP read-only violation: write keyword blocked"
      assertNoDisallowedTokens letter normalized disallowedSelectKeywords
        "ERP read-only violation: SELECT INTO blocked"

end Guard

variable {after s : List Char} {x y : Char}

theorem afterPair_length (found : afterPair x y s = some after) : after.length < s.length := by
  induction s with
  | nil => cases found
  | cons c s ih =>
    cases s with
    | nil => cases found
    | cons d rest =>
      rw [afterPair] at found
      by_cases here : c = x ∧ d = y
      · rw [if_pos here, Option.some.injEq] at found
        subst found
        simp only [List.length_cons]
        omega
      · rw [if_neg here] at found
        exact Nat.lt_succ_of_lt (ih found)

variable {mark : Char}

theorem afterMark_length (found : afterMark mark s = some after) : after.length < s.length := by
  induction s using afterMark.induct mark generalizing after with
  | case1 => cases found
  | case2 =>
    rw [afterMark, if_pos rfl] at found
    cases found
    simp
  | case3 c other =>
    rw [afterMark, if_neg other] at found
    cases found
  | case4 c d rest other ih =>
    rw [afterMark, if_pos other] at found
    exact Nat.lt_succ_of_lt (ih found)
  | case5 c rest here ih =>
    rw [afterMark, if_neg here, if_pos rfl] at found
    cases later : afterMark mark rest with
    | none =>
      rw [later] at found
      cases found
      simp
    | some left =>
      rw [later, Option.some_or, Option.some.injEq] at found
      subst found
      have shorter := ih later
      simp only [List.length_cons]
      omega
  | case6 c d rest here other =>
    rw [afterMark, if_neg here, if_neg other] at found
    cases found
    simp

theorem blockComment_shrinks : Shrinks blockComment := by
  intro s after found
  match s with
  | [] | [_] => cases found
  | c :: d :: rest =>
    rw [blockComment] at found
    by_cases opens : c = '/' ∧ d = '*'
    · rw [if_pos opens] at found
      have shorter := afterPair_length found
      simp only [List.length_cons]
      omega
    · rw [if_neg opens] at found
      cases found

theorem lineComment_shrinks : Shrinks lineComment := by
  intro s after found
  match s with
  | [] | [_] => cases found
  | c :: d :: rest =>
    rw [lineComment] at found
    by_cases opens : c = '-' ∧ d = '-'
    · rw [if_pos opens, Option.some.injEq] at found
      subst found
      have shorter := (List.dropWhile_suffix (l := rest) (· ≠ '\n')).length_le
      simp only [List.length_cons]
      omega
    · rw [if_neg opens] at found
      cases found

theorem singleQuoted_shrinks : Shrinks singleQuoted := by
  intro s after found
  cases s with
  | nil => cases found
  | cons c rest =>
    rw [singleQuoted] at found
    by_cases national : c = 'N' ∧ rest.head? = some quoteMark
    · rw [if_pos national] at found
      have shorter := afterMark_length found
      rw [List.length_tail] at shorter
      rw [List.length_cons]
      omega
    · rw [if_neg national] at found
      by_cases single : c = quoteMark
      · rw [if_pos single] at found
        exact Nat.lt_succ_of_lt (afterMark_length found)
      · rw [if_neg single] at found
        cases found

theorem doubleQuoted_shrinks : Shrinks doubleQuoted := by
  intro s after found
  cases s with
  | nil => cases found
  | cons c rest =>
    rw [doubleQuoted] at found
    by_cases double : c = doubleMark
    · rw [if_pos double] at found
      exact Nat.lt_succ_of_lt (afterMark_length found)
    · rw [if_neg double] at found
      cases found

theorem bracketedName_shrinks : Shrinks bracketedName := by
  intro s after found
  cases s with
  | nil => cases found
  | cons c rest =>
    rw [bracketedName] at found
    by_cases bracket : c = '['
    · rw [if_pos bracket] at found
      have shorter := (List.dropWhile_suffix (l := rest) (· ≠ ']')).length_le
      cases stop : rest.dropWhile (· ≠ ']') with
      | nil =>
        rw [stop] at found
        cases found
      | cons d left =>
        rw [stop] at found shorter
        cases found
        simp only [List.length_cons] at shorter ⊢
        omega
    · rw [if_neg bracket] at found
      cases found

theorem spaceRun_shrinks : Shrinks spaceRun := by
  intro s after found
  cases s with
  | nil => cases found
  | cons c rest =>
    rw [spaceRun] at found
    by_cases space : isSpace c = true
    · rw [if_pos space, Option.some.injEq] at found
      subst found
      exact Nat.lt_succ_of_le (List.dropWhile_suffix isSpace).length_le
    · rw [if_neg space] at found
      cases found

section

variable {c : Char}

theorem blockComment_none (apart : c = '/' → s.head? ≠ some '*') : blockComment (c :: s) = none := by
  cases s with
  | nil => rfl
  | cons d rest =>
    rw [blockComment, if_neg]
    intro ⟨slash, star⟩
    exact apart slash (by rw [star, List.head?_cons])

theorem lineComment_none (apart : c = '-' → s.head? ≠ some '-') : lineComment (c :: s) = none := by
  cases s with
  | nil => rfl
  | cons d rest =>
    rw [lineComment, if_neg]
    intro ⟨dash, next⟩
    exact apart dash (by rw [next, List.head?_cons])

theorem singleQuoted_none (other : c ≠ quoteMark) (plain : c = 'N' → s.head? ≠ some quoteMark) :
    singleQuoted (c :: s) = none := by
  rw [singleQuoted, if_neg fun national => plain national.1 national.2, if_neg other]

theorem doubleQuoted_none (other : c ≠ doubleMark) : doubleQuoted (c :: s) = none := by
  rw [doubleQuoted, if_neg other]

theorem bracketedName_none (other : c ≠ '[') : bracketedName (c :: s) = none := by
  rw [bracketedName, if_neg other]

theorem spaceRun_none (other : isSpace c = false) : spaceRun (c :: s) = none := by
  rw [spaceRun, other]
  rfl

end

end StockVerification
