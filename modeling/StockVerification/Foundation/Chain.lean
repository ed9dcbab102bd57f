import Mathlib.Logic.Relation
import Mathlib.Data.Set.Finite.Lemmas

/-!
# Chains

A relation whose every element has at most one successor, and along which a rank
grows, splits its domain into chains: it has no cycle, and the elements connected
to a given one have exactly one last element among them.
-/
namespace StockVerification.Foundation

open Relation

variable {α : Type} {next : α → α → Prop} {rank : α → Int}

/-- The chain of an element: everything connected to it. -/
def InChain (next : α → α → Prop) : α → α → Prop := EqvGen next

/-- Nothing follows. -/
def IsLast (next : α → α → Prop) (a : α) : Prop := ∀ b, ¬ next a b

variable {a b : α}

theorem rank_lt_of_transGen (grows : ∀ a b, next a b → rank a < rank b)
    (path : TransGen next a b) : rank a < rank b := by
  induction path with
  | single step => exact grows _ _ step
  | tail _ step ih => exact lt_trans ih (grows _ _ step)

theorem acyclic_of_rank (grows : ∀ a b, next a b → rank a < rank b) (a : α) : ¬ TransGen next a a := by
  intro cycle
  exact lt_irrefl _ (rank_lt_of_transGen grows cycle)

/-- Where all successors lie in a finite set, every element leads to a last one. -/
theorem exists_last {domain : Set α} (finite : domain.Finite) (grows : ∀ a b, next a b → rank a < rank b)
    (inside : ∀ a b, next a b → b ∈ domain) (a : α) : ∃ b, ReflTransGen next a b ∧ IsLast next b := by
  -- of the elements reached from `a`, one of greatest rank
  have reachedFinite : {b | ReflTransGen next a b}.Finite := by
    refine (finite.union (Set.finite_singleton a)).subset ?_
    intro b reached
    rcases reached.cases_tail with rfl | ⟨c, _, step⟩
    · exact .inr rfl
    · exact .inl (inside c b step)
  obtain ⟨b, reached, greatest⟩ := Set.exists_max_image _ rank reachedFinite ⟨a, .refl⟩
  refine ⟨b, reached, ?_⟩
  intro c step
  have bound : rank c ≤ rank b := greatest c (reached.tail step)
  have growth := grows b c step
  omega

/-- With at most one successor each, connected elements lead to a common one. -/
theorem join_of_inChain (unique : ∀ a b c, next a b → next a c → b = c)
    (connected : InChain next a b) : Join (ReflTransGen next) a b := by
  have confluent : ∀ a b c, next a b → next a c → ∃ d, ReflGen next b d ∧ ReflTransGen next c d := by
    intro a b c first second
    obtain rfl := unique a b c first second
    exact ⟨b, .refl, .refl⟩
  have equivalence := equivalence_join_reflTransGen confluent
  rw [← equivalence.eqvGen_iff]
  refine EqvGen.mono ?_ _ _ connected
  intro c d step
  exact ⟨d, .single step, .refl⟩

theorem eq_of_isLast (last : IsLast next a) (path : ReflTransGen next a b) : a = b := by
  rcases path.cases_head with same | ⟨c, step, _⟩
  · exact same
  · exact absurd step (last c)

theorem last_unique (unique : ∀ a b c, next a b → next a c → b = c) {c : α} (firstIn : InChain next a b)
    (firstLast : IsLast next b) (secondIn : InChain next a c) (secondLast : IsLast next c) : b = c := by
  have connected : InChain next b c := .trans _ _ _ (.symm _ _ firstIn) secondIn
  obtain ⟨d, fromFirst, fromSecond⟩ := join_of_inChain unique connected
  rw [eq_of_isLast firstLast fromFirst, eq_of_isLast secondLast fromSecond]

theorem inChain_of_reflTransGen (path : ReflTransGen next a b) : InChain next a b := by
  induction path with
  | refl => exact .refl _
  | tail _ step ih => exact .trans _ _ _ ih (.rel _ _ step)

theorem existsUnique_last {domain : Set α} (finite : domain.Finite) (grows : ∀ a b, next a b → rank a < rank b)
    (inside : ∀ a b, next a b → b ∈ domain) (unique : ∀ a b c, next a b → next a c → b = c)
    (a : α) : ∃! b, InChain next a b ∧ IsLast next b := by
  obtain ⟨b, path, last⟩ := exists_last finite grows inside a
  refine ⟨b, ⟨inChain_of_reflTransGen path, last⟩, ?_⟩
  rintro c ⟨connected, lastC⟩
  exact last_unique unique connected lastC (inChain_of_reflTransGen path) last

end StockVerification.Foundation
