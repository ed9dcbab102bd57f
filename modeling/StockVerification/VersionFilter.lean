import StockVerification.Lifecycle

/-!
# The version filter of the optimistic update

Source: backend/services/concurrency.py:12-25 and
backend/services/session_lifecycle_service.py:116-141.

A session is read, its version is coerced to an integer, and the update looks for that integer.
Absent versions and whole numbers come back to the document they were read from; what the coercion
repairs does not.
-/
namespace StockVerification

open Foundation

/-- The stored versions that the filter built from their coercion matches: none, a whole number from
zero on, and a list that holds a zero. -/
def CoercesBack : Option Value → Prop
  | none => True
  | some (.num q) => ∃ n : Nat, q = n
  | some (.list items) => .num 0 ∈ items
  | some _ => False

theorem toNat_truncate_iff (q : ℚ) : q = ((truncate q).toNat : ℚ) ↔ ∃ n : Nat, q = n := by
  constructor
  · intro same
    exact ⟨_, same⟩
  · rintro ⟨n, rfl⟩
    have whole : truncate (n : ℚ) = (n : Int) := truncate_eq_self (by simp)
    rw [whole, Int.toNat_natCast]

theorem buildVersionFilter_zero (d : Doc) :
    (buildVersionFilter 0).holds d = (Filter.fieldIs d "version" (.num 0) || !d.has "version") := rfl

theorem buildVersionFilter_succ (n : Nat) (d : Doc) :
    (buildVersionFilter ((n + 1 : Nat) : Int)).holds d = Filter.fieldIs d "version" (.num (n + 1 : Nat)) := by
  have positive : ¬ ((n + 1 : Nat) : Int) ≤ 0 := by omega
  rw [buildVersionFilter, if_neg positive]
  rfl

theorem buildVersionFilter_stored {d : Doc} {v : Value} (stored : d "version" = some v) (n : Nat) :
    (buildVersionFilter (n : Int)).holds d = Filter.fieldIs d "version" (.num n) := by
  cases n with
  | zero =>
    have present : d.has "version" = true := by simp [Doc.has, stored]
    rw [Nat.cast_zero, buildVersionFilter_zero, present]
    simp
  | succ n => exact buildVersionFilter_succ n d

theorem version_filter_holds_iff (session : Doc) :
    (buildVersionFilter (coerceVersion (session.get "version"))).holds session = true ↔
      CoercesBack (session "version") := by
  cases stored : session "version" with
  | none =>
    have read : coerceVersion (session.get "version") = 0 := by
      rw [Doc.get, stored]
      rfl
    have absent : session.has "version" = false := by simp [Doc.has, stored]
    rw [read, Nat.cast_zero, buildVersionFilter_zero, absent]
    simp [CoercesBack]
  | some v =>
    have read : session.get "version" = v := by simp [Doc.get, stored]
    rw [read, buildVersionFilter_stored stored, Filter.fieldIs, stored]
    cases v with
    | num q =>
      have coerced : coerceVersion (.num q) = (truncate q).toNat := rfl
      rw [coerced]
      simp only [CoercesBack, beq_iff_eq, Value.num.injEq]
      exact toNat_truncate_iff q
    | list items =>
      have coerced : coerceVersion (.list items) = 0 := rfl
      rw [coerced]
      simp only [CoercesBack, List.any_eq_true, Bool.or_eq_true, beq_iff_eq, Nat.cast_zero]
      constructor
      · rintro (absurd | ⟨item, member, zero⟩)
        · cases absurd
        · cases item with
          | num q =>
            cases zero
            exact member
          | _ => cases zero
      · intro member
        exact .inr ⟨.num 0, member, rfl⟩
    | _ => simp [CoercesBack]

/-- The filter of `_update_session_with_occ` for the version that was read. -/
def occFilter (sessionId : String) (session : Doc) : Filter :=
  .both (sessionLookup sessionId) (buildVersionFilter (coerceVersion (session.get "version")))

theorem updateSessionWithOcc_filter (sessionId : String) (session fields : Doc) (s : Store) :
    updateSessionWithOcc sessionId fields (coerceVersion (session.get "version")) s = (do
      let (answer, sessions) ← liftFault (Collection.updateOne sessionIndexes (occFilter sessionId session)
        { set := fields, inc := [("version", 1)] } s.sessions)
      require answer.isSome (.concurrency ("CRITICAL: Session version mismatch for " ++ sessionId ++
        " (expected " ++ toString (coerceVersion (session.get "version") : Int) ++ ")"))
      pure { s with sessions := sessions }) := rfl

/-- The session a lookup finds is the one the update finds, exactly if its version comes back from
the coercion. -/
theorem occ_filter_finds_iff (s : Store) (sessionId : String) {session : Doc}
    (found : s.findSession sessionId = some session) :
    s.sessions.find? (occFilter sessionId session).holds = some session ↔ CoercesBack (session "version") := by
  rw [← version_filter_holds_iff]
  have looked : (sessionLookup sessionId).holds session = true := by
    have first := List.find?_some found
    exact first
  constructor
  · intro same
    have holds := List.find?_some same
    simp only [occFilter, Filter.holds, Bool.and_eq_true] at holds
    exact holds.2
  · intro version
    unfold Store.findSession at found
    generalize s.sessions = sessions at found
    induction sessions with
    | nil => cases found
    | cons first rest ih =>
      rw [List.find?_cons] at found ⊢
      cases lookup : (sessionLookup sessionId).holds first with
      | true =>
        rw [lookup] at found
        cases found
        have holds : (occFilter sessionId session).holds session = true := by
          simp only [occFilter, Filter.holds, Bool.and_eq_true]
          exact ⟨looked, version⟩
        rw [holds]
      | false =>
        rw [lookup] at found
        have skipped : (occFilter sessionId session).holds first = false := by
          simp only [occFilter, Filter.holds, lookup, Bool.false_and]
        rw [skipped]
        exact ih found

def legacySession : Doc := Doc.ofList [("id", .str "S1"), ("status", .str "ACTIVE"), ("version", .null)]

def legacyStore : Store where
  sessions := [legacySession]

/-- The session whose version is null is read and coerced to zero, and no update finds it. -/
theorem null_version_locked_out :
    legacyStore.findSession "S1" = some legacySession ∧ coerceVersion (legacySession.get "version") = 0 ∧
      (updateSessionWithOcc "S1" Doc.empty (coerceVersion (legacySession.get "version")) legacyStore).isOk = false ∧
      ¬∀ (s : Store) (sessionId : String) (session : Doc), s.findSession sessionId = some session →
        s.sessions.find? (occFilter sessionId session).holds = some session := by
  refine ⟨rfl, rfl, rfl, ?_⟩
  intro always
  have lost : legacyStore.sessions.find? (occFilter "S1" legacySession).holds = none := rfl
  have kept := always legacyStore "S1" legacySession rfl
  rw [lost] at kept
  cases kept

theorem occ_filter_finds_null :
    legacyStore.sessions.find? (occFilter "S1" legacySession).holds = some legacySession ↔
      CoercesBack (legacySession "version") :=
  occ_filter_finds_iff legacyStore "S1" rfl

end StockVerification
