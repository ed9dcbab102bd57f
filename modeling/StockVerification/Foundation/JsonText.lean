import Mathlib.Data.List.Basic
import Mathlib.Data.Nat.Notation

/-!
# Values as JSON texts

The text that the standard encoder makes of a value, with sorted keys and every character outside
printable ASCII escaped. A quoted text can be told apart from what follows it, so texts that are
built from quoted parts determine these parts.
-/
namespace StockVerification.Foundation

/-- A value for the encoder. A float stands as its shortest text, and what the encoder refuses is
one value. -/
inductive Json where
  | null
  | bool (b : Bool)
  | int (n : Int)
  | float (text : String)
  | str (s : String)
  | arr (items : List Json)
  | obj (entries : List (String × Json))
  | refused

namespace Json

def quotationMark : Char := Char.ofNat 0x22

def backslash : Char := Char.ofNat 0x5c

/-- Characters that have an escape of one letter. -/
def shortEscapes : List (Nat × Char) :=
  [(0x22, quotationMark), (0x5c, backslash), (0x8, 'b'), (0xc, 'f'), (0xa, 'n'), (0xd, 'r'), (0x9, 't')]

/-- Four hexadecimal digits. -/
def hex4 (n : Nat) : List Char :=
  [Nat.digitChar (n / 4096 % 16), Nat.digitChar (n / 256 % 16), Nat.digitChar (n / 16 % 16), Nat.digitChar (n % 16)]

def escapeUnit (n : Nat) : List Char := backslash :: 'u' :: hex4 n

/-- The escape of a character; one beyond the basic plane takes two units. -/
def escapeChar (c : Char) : List Char :=
  match shortEscapes.lookup c.toNat with
  | some letter => [backslash, letter]
  | none =>
    if 0x20 ≤ c.toNat ∧ c.toNat ≤ 0x7e then [c]
    else if c.toNat < 0x10000 then escapeUnit c.toNat
    else escapeUnit (0xd800 + (c.toNat - 0x10000) / 1024) ++ escapeUnit (0xdc00 + (c.toNat - 0x10000) % 1024)

def quoted (s : String) : List Char := quotationMark :: (s.toList.flatMap escapeChar ++ [quotationMark])

/-- An entry among others in the order of the keys. -/
def insertEntry (entry : String × List Char) : List (String × List Char) → List (String × List Char)
  | [] => [entry]
  | first :: rest => if entry.1 ≤ first.1 then entry :: first :: rest else first :: insertEntry entry rest

def sortEntries (entries : List (String × List Char)) : List (String × List Char) := entries.foldr insertEntry []

def commaSeparated (texts : List (List Char)) : List Char := (texts.intersperse [',', ' ']).flatten

def dumpsObject (entries : List (String × List Char)) : List Char :=
  '{' :: commaSeparated ((sortEntries entries).map fun entry => quoted entry.1 ++ ':' :: ' ' :: entry.2) ++ ['}']

mutual

/-- `json.dumps` with sorted keys, none where it raises. -/
def dumps : Json → Option (List Char)
  | null => some "null".toList
  | bool b => some (if b then "true" else "false").toList
  | int n => some (toString n).toList
  | float text => some text.toList
  | str s => some (quoted s)
  | arr items => (dumpsItems items).map fun texts => '[' :: commaSeparated texts ++ [']']
  | obj entries => (dumpsEntries entries).map dumpsObject
  | refused => none

def dumpsItems : List Json → Option (List (List Char))
  | [] => some []
  | item :: rest => (dumps item).bind fun text => (dumpsItems rest).map (text :: ·)

def dumpsEntries : List (String × Json) → Option (List (String × List Char))
  | [] => some []
  | entry :: rest => (dumps entry.2).bind fun text => (dumpsEntries rest).map ((entry.1, text) :: ·)

end

def hexValue (c : Char) : Nat := ((List.range 16).find? fun n => Nat.digitChar n = c).getD 0

def readHex4 : List Char → Nat × List Char
  | a :: b :: c :: d :: rest => (hexValue a * 4096 + hexValue b * 256 + hexValue c * 16 + hexValue d, rest)
  | rest => (0, rest)

/-- The code point of the first character and the rest. -/
def unescape : List Char → Option (Nat × List Char)
  | [] => none
  | first :: rest =>
    if first = backslash then
      match rest with
      | [] => none
      | letter :: rest =>
        match shortEscapes.find? fun escape => escape.2 = letter with
        | some escape => some (escape.1, rest)
        | none =>
          let unit := readHex4 rest
          if 0xd800 ≤ unit.1 ∧ unit.1 < 0xdc00 then
            let low := readHex4 (unit.2.drop 2)
            some (0x10000 + (unit.1 - 0xd800) * 1024 + (low.1 - 0xdc00), low.2)
          else some unit
    else some (first.toNat, rest)

variable (n : Nat)

theorem hexValue_digitChar (digit : n < 16) : hexValue (Nat.digitChar n) = n := by
  revert n
  decide

theorem readHex4_hex4 (unit : n < 0x10000) (rest : List Char) : readHex4 (hex4 n ++ rest) = (n, rest) := by
  simp only [hex4, List.cons_append, List.nil_append, readHex4]
  rw [hexValue_digitChar _ (by omega), hexValue_digitChar _ (by omega), hexValue_digitChar _ (by omega),
    hexValue_digitChar _ (by omega)]
  congr 1
  omega

theorem shortEscapes_read : ∀ escape ∈ shortEscapes,
    (shortEscapes.find? fun other => other.2 = escape.2) = some escape := by
  decide

theorem unescape_unit (unit : n < 0x10000) (basic : ¬(0xd800 ≤ n ∧ n < 0xdc00)) (rest : List Char) :
    unescape (escapeUnit n ++ rest) = some (n, rest) := by
  have letter : (shortEscapes.find? fun escape => escape.2 = 'u') = none := by decide
  simp only [escapeUnit, List.cons_append, unescape, if_true, letter, readHex4_hex4 n unit, if_neg basic]

theorem unescape_pair (high low : Nat) (isHigh : 0xd800 ≤ high ∧ high < 0xdc00) (isLow : low < 0x10000)
    (rest : List Char) : unescape (escapeUnit high ++ escapeUnit low ++ rest) =
      some (0x10000 + (high - 0xd800) * 1024 + (low - 0xdc00), rest) := by
  have letter : (shortEscapes.find? fun escape => escape.2 = 'u') = none := by decide
  simp only [escapeUnit, List.cons_append, List.append_assoc, unescape, if_true, letter,
    readHex4_hex4 high (by omega), if_pos isHigh, List.drop_succ_cons, List.drop_zero, readHex4_hex4 low isLow]

/-- The escape of a character reads back as its code point. -/
theorem unescape_escapeChar (c : Char) (rest : List Char) : unescape (escapeChar c ++ rest) = some (c.toNat, rest) := by
  have valid : c.toNat < 0xd800 ∨ 0xdfff < c.toNat ∧ c.toNat < 0x110000 := c.valid
  unfold escapeChar
  split
  · next letter short =>
    obtain ⟨front, back, split, _⟩ := List.lookup_eq_some_iff.mp short
    have listed : (c.toNat, letter) ∈ shortEscapes := by
      rw [split]
      simp
    have back := shortEscapes_read _ listed
    simp only [List.cons_append, List.nil_append, unescape, if_true, back]
  · next long =>
    split
    · have other : c ≠ backslash := by
        rintro rfl
        revert long
        decide
      simp only [List.cons_append, List.nil_append, unescape, if_neg other]
    · split
      · next basic => exact unescape_unit c.toNat basic (by omega) rest
      · next astral =>
        have code : 0x10000 + (0xd800 + (c.toNat - 0x10000) / 1024 - 0xd800) * 1024 +
            (0xdc00 + (c.toNat - 0x10000) % 1024 - 0xdc00) = c.toNat := by
          omega
        rw [unescape_pair _ _ (by omega) (by omega), code]

variable {x y : List Char}

theorem escapeChar_append {c d : Char} (same : escapeChar c ++ x = escapeChar d ++ y) :
    c = d ∧ x = y := by
  have read := congrArg unescape same
  rw [unescape_escapeChar, unescape_escapeChar, Option.some.injEq, Prod.mk.injEq] at read
  exact ⟨Char.toNat_inj.mp read.1, read.2⟩

theorem escapeChar_head (c : Char) (x y : List Char) : escapeChar c ++ x ≠ quotationMark :: y := by
  intro same
  have read := congrArg unescape same
  have other : quotationMark ≠ backslash := by decide
  rw [unescape_escapeChar] at read
  simp only [unescape, if_neg other, Option.some.injEq, Prod.mk.injEq] at read
  have isMark : c = quotationMark := Char.toNat_inj.mp read.1
  subst isMark
  have made : escapeChar quotationMark = [backslash, quotationMark] := by decide
  rw [made] at same
  exact absurd (List.head_eq_of_cons_eq same) (by decide)

/-- A quoted text ends where its second mark stands. -/
theorem quoted_append {s t : String} (same : quoted s ++ x = quoted t ++ y) : s = t ∧ x = y := by
  have body : ∀ (cs ds : List Char), cs.flatMap escapeChar ++ quotationMark :: x =
      ds.flatMap escapeChar ++ quotationMark :: y → cs = ds ∧ x = y := by
    intro cs
    induction cs with
    | nil =>
      intro ds equal
      cases ds with
      | nil => exact ⟨rfl, List.tail_eq_of_cons_eq equal⟩
      | cons d rest =>
        rw [List.flatMap_cons, List.append_assoc] at equal
        exact absurd equal.symm (escapeChar_head d _ _)
    | cons c front ih =>
      intro ds equal
      cases ds with
      | nil =>
        rw [List.flatMap_cons, List.append_assoc] at equal
        exact absurd equal (escapeChar_head c _ _)
      | cons d rest =>
        rw [List.flatMap_cons, List.flatMap_cons, List.append_assoc, List.append_assoc] at equal
        obtain ⟨rfl, later⟩ := escapeChar_append equal
        obtain ⟨rfl, ends⟩ := ih rest later
        exact ⟨rfl, ends⟩
  have inner : s.toList.flatMap escapeChar ++ [quotationMark] ++ x =
      t.toList.flatMap escapeChar ++ [quotationMark] ++ y :=
    List.tail_eq_of_cons_eq same
  rw [List.append_assoc, List.append_assoc] at inner
  obtain ⟨chars, ends⟩ := body s.toList t.toList inner
  exact ⟨String.toList_inj.mp chars, ends⟩

def ofText : Option String → Json
  | none => null
  | some s => str s

def scalarText : Option String → List Char
  | none => "null".toList
  | some s => quoted s

theorem dumps_ofText (text : Option String) : (ofText text).dumps = some (scalarText text) := by
  cases text with
  | none => rfl
  | some s => rfl

/-- So do null and a quoted text. -/
theorem scalarText_append {s t : Option String} (same : scalarText s ++ x = scalarText t ++ y) :
    s = t ∧ x = y := by
  have mark : ∀ (text : String) (a b : List Char), "null".toList ++ a ≠ quoted text ++ b := by
    intro text a b equal
    exact absurd (List.head_eq_of_cons_eq equal) (by decide)
  cases s with
  | none =>
    cases t with
    | none => exact ⟨rfl, List.append_cancel_left same⟩
    | some text => exact absurd same (mark text x y)
  | some text =>
    cases t with
    | none => exact absurd same.symm (mark text y x)
    | some other =>
      obtain ⟨rfl, ends⟩ := quoted_append same
      exact ⟨rfl, ends⟩

theorem commaSeparated_singleton (text : List Char) : commaSeparated [text] = text := by
  simp [commaSeparated]

theorem commaSeparated_cons (text next : List Char) (rest : List (List Char)) :
    commaSeparated (text :: next :: rest) = text ++ ',' :: ' ' :: commaSeparated (next :: rest) := by
  simp [commaSeparated, List.intersperse]

/-- The texts of the entries, in the order given. -/
def fieldTexts (fields : List (String × Option String)) : List Char :=
  commaSeparated (fields.map fun field => quoted field.1 ++ ':' :: ' ' :: scalarText field.2)

/-- Under the same keys, equal texts have equal values. -/
theorem fieldTexts_append {fields others : List (String × Option String)}
    (keys : fields.map Prod.fst = others.map Prod.fst)
    (same : fieldTexts fields ++ x = fieldTexts others ++ y) : fields = others := by
  induction fields generalizing others with
  | nil =>
    cases others with
    | nil => rfl
    | cons other rest => simp at keys
  | cons field rest ih =>
    cases others with
    | nil => simp at keys
    | cons other others =>
      obtain ⟨key, value⟩ := field
      obtain ⟨otherKey, otherValue⟩ := other
      simp only [List.map_cons, List.cons.injEq] at keys
      obtain ⟨rfl, keys⟩ := keys
      -- The value is a text of its own, whatever follows it.
      have first : ∀ {u v : List Char}, (quoted key ++ ':' :: ' ' :: scalarText value) ++ u =
          (quoted key ++ ':' :: ' ' :: scalarText otherValue) ++ v → value = otherValue ∧ u = v := by
        intro u v equal
        rw [List.append_assoc, List.append_assoc] at equal
        have values := List.append_cancel_left equal
        simp only [List.cons_append, List.cons.injEq, true_and] at values
        exact scalarText_append values
      cases rest with
      | nil =>
        cases others with
        | nil =>
          simp only [fieldTexts, List.map_cons, List.map_nil, commaSeparated_singleton] at same
          rw [(first same).1]
        | cons other others => simp at keys
      | cons next rest =>
        cases others with
        | nil => simp at keys
        | cons other others =>
          simp only [fieldTexts, List.map_cons, commaSeparated_cons] at same
          rw [List.append_assoc _ _ x, List.append_assoc _ _ y] at same
          obtain ⟨values, ends⟩ := first same
          simp only [List.cons_append, List.cons.injEq, true_and] at ends
          rw [values, ih keys ends]

end Json

end StockVerification.Foundation
