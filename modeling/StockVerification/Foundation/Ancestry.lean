import Mathlib.Data.Set.Basic
import Mathlib.Data.List.Nodup

/-!
# Ancestry

An element of a relation with at most one parent each has one list of ancestors at most, the oldest
first, and none of them comes twice. The list is finite, so that no element is its own ancestor.
-/
namespace StockVerification.Foundation

variable {α : Type} {parent : α → α → Prop}

/-- The ancestors of an element, the oldest first. -/
inductive Ancestry (parent : α → α → Prop) : α → List α → Prop where
  | root {a : α} (orphan : ∀ p, ¬ parent a p) : Ancestry parent a []
  | child {a p : α} {ancestors : List α} (step : parent a p) (line : Ancestry parent p ancestors) :
      Ancestry parent a (ancestors ++ [p])

variable {a : α}

theorem Ancestry.unique (functional : ∀ a p q, parent a p → parent a q → p = q) {ps qs : List α}
    (left : Ancestry parent a ps) (right : Ancestry parent a qs) : ps = qs := by
  induction left generalizing qs with
  | root orphan =>
    cases right with
    | root _ => rfl
    | child step _ => exact absurd step (orphan _)
  | child step _ ih =>
    cases right with
    | root orphan => exact absurd step (orphan _)
    | child other line =>
      cases functional _ _ _ step other
      rw [ih line]

variable {ancestors : List α}

/-- An ancestor has its own ancestors, fewer than those it is among. -/
theorem Ancestry.of_mem {p : α} (line : Ancestry parent a ancestors) (member : p ∈ ancestors) :
    ∃ older, Ancestry parent p older ∧ older.length < ancestors.length := by
  induction line with
  | root _ => cases member
  | @child _ next ancestors _ line ih =>
    rw [List.length_append, List.length_singleton]
    rcases List.mem_append.mp member with older | last
    · obtain ⟨own, isOwn, fewer⟩ := ih older
      exact ⟨own, isOwn, by omega⟩
    · rw [List.mem_singleton.mp last]
      exact ⟨ancestors, line, by omega⟩

theorem Ancestry.nodup (functional : ∀ a p q, parent a p → parent a q → p = q)
    (line : Ancestry parent a ancestors) : ancestors.Nodup := by
  induction line with
  | root _ => exact List.nodup_nil
  | @child _ next ancestors _ line ih =>
    rw [List.nodup_append]
    refine ⟨ih, List.nodup_singleton _, ?_⟩
    intro p older q last same
    -- the parent would be among its own ancestors
    rw [same, List.mem_singleton.mp last] at older
    obtain ⟨own, isOwn, fewer⟩ := line.of_mem older
    rw [Ancestry.unique functional isOwn line] at fewer
    omega

/-- Ancestors stay within a set that contains the parents of its elements. -/
theorem Ancestry.within (domain : Set α) (closed : ∀ a ∈ domain, ∀ p, parent a p → p ∈ domain)
    (line : Ancestry parent a ancestors) (inside : a ∈ domain) : ∀ p ∈ ancestors, p ∈ domain := by
  induction line with
  | root _ =>
    nofun
  | child step _ ih =>
    intro p member
    have above := closed _ inside _ step
    rcases List.mem_append.mp member with older | last
    · exact ih above p older
    · rw [List.mem_singleton.mp last]
      exact above

theorem Ancestry.congr {other : α → α → Prop} (domain : Set α) (closed : ∀ a ∈ domain, ∀ p, parent a p → p ∈ domain)
    (same : ∀ a ∈ domain, ∀ p, parent a p ↔ other a p)
    (line : Ancestry parent a ancestors) (inside : a ∈ domain) : Ancestry other a ancestors := by
  induction line with
  | root orphan => exact .root fun p step => orphan p ((same _ inside p).mpr step)
  | child step _ ih => exact .child ((same _ inside _).mp step) (ih (closed _ inside _ step))

end StockVerification.Foundation
