import Mathlib.Data.List.Induction
import Mathlib.Data.List.Pairwise
import StockVerification.Foundation.KeyedLists

/-!
# The best row of each key

A row takes the place of the one under its key only if it comes before it.
-/
namespace StockVerification.Foundation

namespace Table

variable {ρ κ : Type} [DecidableEq κ] (key : ρ → κ) (cmp : ρ → ρ → Ordering)

def improve (rows : List ρ) (row : ρ) : List ρ :=
  match find key rows (key row) with
  | none => upsert key row rows
  | some old => if cmp row old = .lt then upsert key row rows else rows

structure Best (seen rows : List ρ) : Prop where
  distinct : (rows.map key).Nodup
  least : ∀ best ∈ rows, best ∈ seen ∧ ∀ row ∈ seen, key row = key best → (cmp best row).isLE
  covers : ∀ row ∈ seen, ∃ best ∈ rows, key best = key row

/-- Two rows with one key do not tie. -/
def Untied (a b : ρ) : Prop := key a = key b → cmp a b ≠ .eq

variable {key cmp} {seen rows : List ρ}

/-- The rows with the key of a chosen one. -/
theorem Best.single (best : Best key cmp seen rows) {row : ρ} (member : row ∈ rows) :
    rows.filter (key · = key row) = [row] := by
  rw [← List.perm_singleton, List.perm_ext_iff_of_nodup (best.distinct.of_map.filter _) (List.nodup_singleton row)]
  intro other
  rw [List.mem_filter, decide_eq_true_eq, List.mem_singleton]
  constructor
  · exact fun ⟨inside, same⟩ => List.inj_on_of_nodup_map best.distinct inside member same
  · rintro rfl
    exact ⟨member, rfl⟩

variable [Std.TransCmp cmp]

instance : Std.Symm (Untied key cmp) := ⟨fun _ _ apart same tied => apart same.symm (Std.OrientedCmp.eq_comm.mp tied)⟩

theorem Best.upsert (best : Best key cmp seen rows) {row : ρ}
    (least : ∀ other ∈ seen, key other = key row → (cmp row other).isLE) :
    Best key cmp (seen ++ [row]) (Table.upsert key row rows) where
  distinct := nodup_upsert best.distinct
  least := by
    intro chosen member
    have found := find_of_mem (nodup_upsert best.distinct) member
    rw [find_upsert] at found
    split at found
    · rw [← Option.some.inj found]
      refine ⟨List.mem_append_right _ List.mem_cons_self, List.forall_mem_append.mpr ⟨least, ?_⟩⟩
      exact List.forall_mem_singleton.mpr fun _ => Ordering.isLE_of_eq_eq Std.ReflCmp.compare_self
    · next apart =>
      obtain ⟨inside, before⟩ := best.least chosen (mem_of_find found).1
      refine ⟨List.mem_append_left _ inside, List.forall_mem_append.mpr ⟨before, ?_⟩⟩
      exact List.forall_mem_singleton.mpr fun same => absurd same apart
  covers := by
    intro other member
    have stands : find key (Table.upsert key row rows) (key other) ≠ none := by
      rw [find_upsert]
      split
      · exact Option.some_ne_none row
      · next apart =>
        have known := (List.mem_append.mp member).resolve_right fun new => apart (by rw [List.mem_singleton.mp new])
        rw [Ne, find_eq_none, not_not]
        obtain ⟨chosen, inside, named⟩ := best.covers other known
        exact named ▸ List.mem_map_of_mem inside
    obtain ⟨chosen, found⟩ := Option.ne_none_iff_exists'.mp stands
    exact ⟨chosen, mem_of_find found⟩

theorem Best.step (best : Best key cmp seen rows) (row : ρ) : Best key cmp (seen ++ [row]) (improve key cmp rows row) := by
  rw [improve]
  split
  · next unknown =>
    refine best.upsert fun other member same => ?_
    obtain ⟨chosen, inside, named⟩ := best.covers other member
    exact absurd (named.trans same ▸ List.mem_map_of_mem inside) (find_eq_none.mp unknown)
  · next old found =>
    obtain ⟨member, named⟩ := mem_of_find found
    obtain ⟨inside, least⟩ := best.least old member
    split
    · next better =>
      refine best.upsert fun other known same => ?_
      exact Std.TransCmp.isLE_trans (Ordering.isLE_of_eq_lt better) (least other known (same.trans named.symm))
    · next worse =>
      refine ⟨best.distinct, fun chosen stands => ?_, List.forall_mem_append.mpr ⟨best.covers, ?_⟩⟩
      · obtain ⟨isSeen, before⟩ := best.least chosen stands
        refine ⟨List.mem_append_left _ isSeen, List.forall_mem_append.mpr ⟨before, ?_⟩⟩
        refine List.forall_mem_singleton.mpr fun same => ?_
        rw [List.inj_on_of_nodup_map best.distinct stands member (same.symm.trans named.symm)]
        exact Std.OrientedCmp.isLE_of_isGE (Ordering.isGE_iff_ne_lt.mpr worse)
      · exact List.forall_mem_singleton.mpr ⟨old, member, named⟩

theorem best_improved (cmp : ρ → ρ → Ordering) [Std.TransCmp cmp] (rows : List ρ) :
    Best key cmp rows (rows.foldl (improve key cmp) []) := by
  induction rows using List.reverseRecOn with
  | nil => exact ⟨List.nodup_nil, by simp, by simp⟩
  | append_singleton seen row ih =>
    rw [List.foldl_append]
    exact ih.step row

omit [DecidableEq κ] in
/-- Without ties the best rows do not depend on the order. -/
theorem Best.perm {others more : List ρ} (best : Best key cmp seen rows) (again : Best key cmp others more)
    (same : seen.Perm others) (untied : seen.Pairwise (Untied key cmp)) : rows.Perm more := by
  have within {seen others rows more : List ρ} (best : Best key cmp seen rows) (again : Best key cmp others more)
      (same : seen.Perm others) (untied : seen.Pairwise (Untied key cmp)) {row : ρ} (member : row ∈ rows) :
      row ∈ more := by
    obtain ⟨inside, least⟩ := best.least row member
    obtain ⟨chosen, stands, named⟩ := again.covers row (same.mem_iff.mp inside)
    obtain ⟨outside, leastAgain⟩ := again.least chosen stands
    have isSeen := same.mem_iff.mpr outside
    by_cases equal : row = chosen
    · rwa [equal]
    · have tie := Std.OrientedCmp.isLE_antisymm (least chosen isSeen named)
        (leastAgain row (same.mem_iff.mp inside) named.symm)
      exact absurd tie (untied.forall inside isSeen equal named.symm)
  refine (List.perm_ext_iff_of_nodup best.distinct.of_map again.distinct.of_map).mpr fun row => ⟨?_, ?_⟩
  · exact within best again same untied
  · exact within again best same.symm ((same.pairwise_iff fun {_ _} => Std.Symm.symm _ _).mp untied)

end Table

end StockVerification.Foundation
