import Mathlib

/-!
# Text and numbers as the source language treats them

`strip`, `upper` and `lower` follow the language's string methods. The space
characters are its full list. Case mapping is exact on every text whose image is
compared with an ASCII constant: the letters outside ASCII that map into ASCII
are listed, and all other characters are left as they are.
-/
namespace StockVerification.Foundation

namespace Text

/-- Code points removed by `strip`. -/
def spaces : List Nat :=
  [0x9, 0xa, 0xb, 0xc, 0xd, 0x1c, 0x1d, 0x1e, 0x1f, 0x20, 0x85, 0xa0, 0x1680, 0x2000, 0x2001,
    0x2002, 0x2003, 0x2004, 0x2005, 0x2006, 0x2007, 0x2008, 0x2009, 0x200a, 0x2028, 0x2029,
    0x202f, 0x205f, 0x3000]

def isSpace (c : Char) : Bool := spaces.contains c.toNat

def stripList (cs : List Char) : List Char :=
  ((cs.dropWhile isSpace).reverse.dropWhile isSpace).reverse

def strip (s : String) : String := String.ofList (stripList s.toList)

/-- Stripping twice is stripping once. -/
theorem strip_strip (s : String) : strip (strip s) = strip s := by
  have trimmed : ∀ cs : List Char, stripList cs = (cs.dropWhile isSpace).rdropWhile isSpace := fun _ => rfl
  have front : ∀ cs : List Char, ((cs.dropWhile isSpace).rdropWhile isSpace).dropWhile isSpace =
      (cs.dropWhile isSpace).rdropWhile isSpace := by
    intro cs
    rw [List.dropWhile_eq_self_iff]
    intro filled
    have shorter := List.rdropWhile_prefix isSpace (cs.dropWhile isSpace)
    rw [shorter.getElem filled]
    exact List.dropWhile_eq_self_iff.mp (List.dropWhile_idempotent isSpace cs) _
  rw [strip, strip, String.toList_ofList, trimmed, trimmed, front, List.rdropWhile_idempotent]

/-- Full upper-case mapping, restricted to what can produce an ASCII letter. -/
def upperChar (c : Char) : List Char :=
  if 0x61 ≤ c.toNat ∧ c.toNat ≤ 0x7a then [Char.ofNat (c.toNat - 0x20)]
  else match c.toNat with
    | 0xdf => ['S', 'S']
    | 0x131 => ['I']
    | 0x149 => [Char.ofNat 0x2bc, 'N']
    | 0x17f => ['S']
    | 0x1f0 => ['J', Char.ofNat 0x30c]
    | 0x1e96 => ['H', Char.ofNat 0x331]
    | 0x1e97 => ['T', Char.ofNat 0x308]
    | 0x1e98 => ['W', Char.ofNat 0x30a]
    | 0x1e99 => ['Y', Char.ofNat 0x30a]
    | 0x1e9a => ['A', Char.ofNat 0x2be]
    | 0xfb00 => ['F', 'F']
    | 0xfb01 => ['F', 'I']
    | 0xfb02 => ['F', 'L']
    | 0xfb03 => ['F', 'F', 'I']
    | 0xfb04 => ['F', 'F', 'L']
    | 0xfb05 => ['S', 'T']
    | 0xfb06 => ['S', 'T']
    | _ => [c]

/-- Lower-case mapping; two letters outside ASCII map into it. -/
def lowerChar (c : Char) : List Char :=
  if 0x41 ≤ c.toNat ∧ c.toNat ≤ 0x5a then [Char.ofNat (c.toNat + 0x20)]
  else match c.toNat with
    | 0x130 => ['i', Char.ofNat 0x307]
    | 0x212a => ['k']
    | _ => [c]

def upper (s : String) : String := String.ofList (s.toList.flatMap upperChar)

def lower (s : String) : String := String.ofList (s.toList.flatMap lowerChar)

def digit (c : Char) : Option Nat :=
  if 0x30 ≤ c.toNat ∧ c.toNat ≤ 0x39 then some (c.toNat - 0x30) else none

/-- A non-empty run of digits, with its length. -/
def digits (cs : List Char) : Option (Nat × Nat) :=
  match cs with
  | [] => none
  | _ => (cs.foldlM (fun acc c => (digit c).map (fun d => 10 * acc + d)) 0).map (·, cs.length)

def magnitude (cs : List Char) : Option ℚ :=
  match cs.span (· != '.') with
  | (whole, []) => (digits whole).map fun w => w.1
  | ([], _ :: rest) => (digits rest).map fun f => f.1 / 10 ^ f.2
  | (whole, _ :: []) => (digits whole).map fun w => w.1
  | (whole, _ :: rest) => do
      let w ← digits whole
      let f ← digits rest
      pure (w.1 + f.1 / 10 ^ f.2)

/-- Plain decimal notation with an optional sign. The language also reads exponents, digits in
groups, digits outside ASCII, infinities and not-a-number: what is proved of a number read from a
text is restricted to documents that hold none of these. -/
def number (s : String) : Option ℚ :=
  match stripList s.toList with
  | '-' :: rest => (magnitude rest).map Neg.neg
  | '+' :: rest => magnitude rest
  | cs => magnitude cs

/-- A text that reads as an integer, with the same restriction. -/
def integer (s : String) : Option Int :=
  match stripList s.toList with
  | '-' :: rest => (digits rest).map fun w => -(w.1 : Int)
  | '+' :: rest => (digits rest).map fun w => (w.1 : Int)
  | cs => (digits cs).map fun w => (w.1 : Int)

end Text

/-- Conversion to an integer drops the fraction towards zero. -/
def truncate (q : ℚ) : Int := if 0 ≤ q then ⌊q⌋ else ⌈q⌉

theorem truncate_eq_self {q : ℚ} {n : Int} (same : q = n) : truncate q = n := by
  rw [same, truncate]
  split
  · exact Int.floor_intCast n
  · exact Int.ceil_intCast n

/-- Nearest integer, a tie going to the even neighbour. -/
def roundHalfEven (q : ℚ) : Int :=
  let low := ⌊q⌋
  if q - low < 1 / 2 then low
  else if 1 / 2 < q - low then low + 1
  else if low % 2 = 0 then low else low + 1

/-- Rounding to a number of decimal places. -/
def roundPlaces (places : Nat) (q : ℚ) : ℚ := roundHalfEven (q * 10 ^ places) / 10 ^ places

@[simp] theorem roundHalfEven_intCast (n : Int) : roundHalfEven n = n := by
  simp [roundHalfEven]

theorem roundPlaces_eq_self {places : Nat} {q : ℚ} {n : Int} (exact : q * 10 ^ places = n) :
    roundPlaces places q = q := by
  have power : (10 : ℚ) ^ places ≠ 0 := by positivity
  rw [roundPlaces, exact, roundHalfEven_intCast, ← exact, mul_div_assoc, div_self power, mul_one]

end StockVerification.Foundation
