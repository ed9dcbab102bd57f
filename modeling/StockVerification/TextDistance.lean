import StockVerification.Foundation.EditDistance

/-!
# The distance between two texts

Source: frontend/src/utils/algorithms.ts:17-50.

A text is the list of its characters, which the language takes to be code units. The matrix has a
row for every prefix of `b` and a column for every prefix of `a`, and its cells are overwritten in
place.
-/
namespace StockVerification

open Foundation EditDistance

namespace DistanceMatrix

/-- `matrix`. -/
abbrev Cells (rows columns : ℕ) := Vector (Vector ℕ columns) rows

variable {rows columns : ℕ}

/-- `Array(rows).fill(null).map(() => Array(columns).fill(0))`. -/
def blank (rows columns : ℕ) : Cells rows columns := Vector.replicate rows (Vector.replicate columns 0)

/-- `matrix[i]![j]!`. -/
def read (matrix : Cells rows columns) (i j : ℕ) : ℕ := (matrix[i]?.bind fun row => row[j]?).getD 0

/-- `matrix[i]![j] = value`. -/
def write (matrix : Cells rows columns) (i j value : ℕ) : Cells rows columns :=
  if row : i < rows then matrix.set i (matrix[i].setIfInBounds j value) else matrix

variable {α : Type} [DecidableEq α] (a b : List α)

/-- Increment along the first column of each row. -/
def firstColumn (matrix : Cells rows columns) : Cells rows columns :=
  (List.range' 0 (b.length + 1)).foldl (fun matrix i => write matrix i 0 i) matrix

/-- Increment each column in the first row. -/
def firstRow (matrix : Cells rows columns) : Cells rows columns :=
  (List.range' 0 (a.length + 1)).foldl (fun matrix j => write matrix 0 j j) matrix

/-- The body of the inner loop. -/
def fillCell (i : ℕ) (matrix : Cells rows columns) (j : ℕ) : Cells rows columns :=
  if b[i - 1]? = a[j - 1]? then write matrix i j (read matrix (i - 1) (j - 1))
  else
    write matrix i j
      (min (read matrix (i - 1) (j - 1) + 1) (min (read matrix i (j - 1) + 1) (read matrix (i - 1) j + 1)))

/-- The inner loop. -/
def fillRow (matrix : Cells rows columns) (i : ℕ) : Cells rows columns :=
  (List.range' 1 a.length).foldl (fillCell a b i) matrix

/-- The outer loop. -/
def fillMatrix (matrix : Cells rows columns) : Cells rows columns := (List.range' 1 b.length).foldl (fillRow a b) matrix

end DistanceMatrix

open DistanceMatrix in
/-- `levenshteinDistance`. -/
def matrixDistance {α : Type} [DecidableEq α] (a b : List α) : ℕ :=
  let matrix := firstRow a (firstColumn b (blank (b.length + 1) (a.length + 1)))
  read (fillMatrix a b matrix) b.length a.length

namespace DistanceMatrix

variable {rows columns i j : ℕ}

theorem read_write {matrix : Cells rows columns} (row : i < rows) (column : j < columns) (value k l : ℕ) :
    read (write matrix i j value) k l = if k = i ∧ l = j then value else read matrix k l := by
  unfold read write
  rw [dif_pos row, Vector.getElem?_set]
  by_cases same : i = k
  · subst same
    rw [if_pos rfl, Option.bind_some, Vector.getElem?_setIfInBounds, Vector.getElem?_eq_getElem row, Option.bind_some]
    by_cases here : j = l
    · subst here
      simp [column]
    · simp [here, Ne.symm here]
  · rw [if_neg same, if_neg fun both => same both.1.symm]

theorem foldl_range'_keeps {σ : Type} (f : σ → ℕ → σ) (start n : ℕ) (Holds : ℕ → σ → Prop) {s : σ}
    (first : Holds start s) (keeps : ∀ k s, start ≤ k → k < start + n → Holds k s → Holds (k + 1) (f s k)) :
    Holds (start + n) ((List.range' start n).foldl f s) := by
  induction n with
  | zero => exact first
  | succ n ih =>
    rw [List.range'_concat, List.foldl_concat, Nat.one_mul]
    have before := ih fun k s low high => keeps k s low (by omega)
    exact keeps (start + n) _ (by omega) (by omega) before

variable {α : Type} [DecidableEq α] {a b : List α}

/-- The distance of two prefixes, which grow at their ends. -/
def prefixDistance (a b : List α) (i j : ℕ) : ℕ := distance (a.take j).reverse (b.take i).reverse

theorem prefixDistance_row (inside : j ≤ a.length) : prefixDistance a b 0 j = j := by
  simp [prefixDistance, inside]

theorem prefixDistance_column (inside : i ≤ b.length) : prefixDistance a b i 0 = i := by
  simp [prefixDistance, inside]

theorem prefixDistance_step (row : i < b.length) (column : j < a.length) : prefixDistance a b (i + 1) (j + 1) =
      if b[i]? = a[j]? then prefixDistance a b i j
      else min (prefixDistance a b i j + 1)
        (min (prefixDistance a b (i + 1) j + 1) (prefixDistance a b i (j + 1) + 1)) := by
  have grown {xs : List α} {k : ℕ} (inside : k < xs.length) : (xs.take (k + 1)).reverse = xs[k] :: (xs.take k).reverse := by
    rw [List.take_add_one, List.getElem?_eq_getElem inside, Option.toList_some, List.reverse_append]
    rfl
  unfold prefixDistance
  rw [grown row, grown column]
  by_cases same : b[i] = a[j]
  · have equal : b[i]? = a[j]? := by rw [List.getElem?_eq_getElem row, List.getElem?_eq_getElem column, same]
    rw [if_pos equal, same, distance_cons_same]
  · have different : b[i]? ≠ a[j]? := by
      rw [List.getElem?_eq_getElem row, List.getElem?_eq_getElem column, Ne, Option.some.injEq]
      exact same
    rw [if_neg different, distance_cons_other (Ne.symm same)]

/-- The cells that are known hold the distances of their prefixes. -/
def Filled (a b : List α) (Known : ℕ → ℕ → Prop) (matrix : Cells (b.length + 1) (a.length + 1)) : Prop :=
  ∀ i j, i ≤ b.length → j ≤ a.length → Known i j → read matrix i j = prefixDistance a b i j

variable {matrix : Cells (b.length + 1) (a.length + 1)}

theorem Filled.write {Known : ℕ → ℕ → Prop} (filled : Filled a b Known matrix) (row : i ≤ b.length)
    (column : j ≤ a.length) :
    Filled a b (fun k l => Known k l ∨ k = i ∧ l = j) (write matrix i j (prefixDistance a b i j)) := by
  intro k l low left known
  rw [read_write (by omega) (by omega)]
  by_cases here : k = i ∧ l = j
  · rw [if_pos here, here.1, here.2]
  · rw [if_neg here]
    exact filled k l low left (known.resolve_right here)

theorem Filled.mono {Known Other : ℕ → ℕ → Prop} (filled : Filled a b Known matrix)
    (fewer : ∀ i j, i ≤ b.length → j ≤ a.length → Other i j → Known i j) : Filled a b Other matrix := by
  intro i j low left known
  exact filled i j low left (fewer i j low left known)

/-- The first row and the first column, after both loops. -/
theorem borders_filled (matrix : Cells (b.length + 1) (a.length + 1)) :
    Filled a b (fun i j => i = 0 ∨ j = 0) (firstRow a (firstColumn b matrix)) := by
  have column := foldl_range'_keeps (fun matrix i => write matrix i 0 i) 0 (b.length + 1)
    (fun k matrix => Filled a b (fun i j => j = 0 ∧ i < k) matrix) (s := matrix)
    (fun i j _ _ known => absurd known.2 (Nat.not_lt_zero i)) (by
      intro k matrix _ inside filled
      have written := filled.write (i := k) (j := 0) (by omega) (Nat.zero_le _)
      rw [prefixDistance_column (by omega)] at written
      exact written.mono fun i j _ _ known => by omega)
  have row := foldl_range'_keeps (fun matrix j => write matrix 0 j j) 0 (a.length + 1)
    (fun k matrix => Filled a b (fun i j => j = 0 ∧ i < b.length + 1 ∨ i = 0 ∧ j < k) matrix)
    (column.mono fun i j _ _ known => by omega) (by
      intro k matrix _ inside filled
      have written := filled.write (i := 0) (j := k) (Nat.zero_le _) (by omega)
      rw [prefixDistance_row (by omega)] at written
      exact written.mono fun i j _ _ known => by omega)
  exact row.mono fun i j low left known => by omega

theorem fillCell_write (row : i < b.length) (column : j < a.length)
    (filled : Filled a b (fun k l => l = 0 ∨ k < i + 1 ∨ k = i + 1 ∧ l < j + 1) matrix) :
    fillCell a b (i + 1) matrix (j + 1) = write matrix (i + 1) (j + 1) (prefixDistance a b (i + 1) (j + 1)) := by
  have diagonal := filled i j (by omega) (by omega) (by omega)
  have left := filled (i + 1) j (by omega) (by omega) (by omega)
  have above := filled i (j + 1) (by omega) (by omega) (by omega)
  rw [fillCell, prefixDistance_step row column]
  simp only [Nat.add_sub_cancel, diagonal, left, above]
  split
  · rfl
  · rfl

theorem fillRow_filled (row : i < b.length) (filled : Filled a b (fun k l => l = 0 ∨ k < i + 1) matrix) :
    Filled a b (fun k l => l = 0 ∨ k < i + 2) (fillRow a b matrix (i + 1)) := by
  have loop := foldl_range'_keeps (fillCell a b (i + 1)) 1 a.length
    (fun n matrix => Filled a b (fun k l => l = 0 ∨ k < i + 1 ∨ k = i + 1 ∧ l < n) matrix)
    (filled.mono fun k l _ _ known => by omega) (by
      intro n matrix first inside filled
      obtain ⟨j, rfl⟩ := Nat.exists_eq_add_of_le' first
      rw [fillCell_write row (by omega) filled]
      exact (filled.write (by omega) (by omega)).mono fun k l _ _ known => by omega)
  exact loop.mono fun k l _ inside known => by omega

theorem fillMatrix_filled (filled : Filled a b (fun i j => i = 0 ∨ j = 0) matrix) :
    Filled a b (fun _ _ => True) (fillMatrix a b matrix) := by
  have loop := foldl_range'_keeps (fillRow a b) 1 b.length
    (fun n matrix => Filled a b (fun k l => l = 0 ∨ k < n) matrix) (filled.mono fun k l _ _ known => by omega) (by
      intro n matrix first inside filled
      obtain ⟨i, rfl⟩ := Nat.exists_eq_add_of_le' first
      exact fillRow_filled (by omega) filled)
  exact loop.mono fun k l inside _ _ => by omega

end DistanceMatrix

open DistanceMatrix in
theorem matrixDistance_eq {α : Type} [DecidableEq α] (a b : List α) :
    matrixDistance a b = distance a.reverse b.reverse := by
  have last := fillMatrix_filled (borders_filled (blank (b.length + 1) (a.length + 1))) b.length a.length
    (Nat.le_refl _) (Nat.le_refl _) trivial
  rw [matrixDistance, last, prefixDistance, List.take_length, List.take_length]

/-- The result is the least number of insertions, deletions and substitutions of one character. -/
theorem matrixDistance_least {α : Type} [DecidableEq α] (a b : List α) :
    IsLeast {n | Script n a b} (matrixDistance a b) := by
  have least := distance_least a.reverse b.reverse
  rw [← matrixDistance_eq] at least
  simpa only [script_reverse_iff] using least

end StockVerification
