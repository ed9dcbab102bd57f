import StockVerification.UnknownItems
import StockVerification.VersionFilter

/-!
# Which report an update of an unknown item finds

Source: backend/services/unknown_item_service.py:33-38, 116-140, 224-350, 425-493 and
backend/services/concurrency.py:12-25.

An update looks for the id of a report and for the version that was read. The two filters are merged
by their keys. For an id in the form of an object id and for a version of zero both are an `$or`,
and the id is lost.
-/
namespace StockVerification

open Foundation Foundation.Action

/-- The stored versions that a filter for `expected` tells apart as the coercion does. -/
def VersionTold (expected : Nat) : Option Value → Prop
  | none => True
  | some (.num q) => (∃ n : Nat, q = n) ∨ coerceVersion (.num q) ≠ expected
  | some (.list items) => .num expected ∈ items ↔ expected = 0
  | some other => coerceVersion other ≠ expected

theorem coerceVersion_natCast (n : Nat) : coerceVersion (.num n) = n := by
  have coerced : coerceVersion (.num n) = (truncate (n : ℚ)).toNat := rfl
  have whole : truncate (n : ℚ) = (n : Int) := truncate_eq_self (by simp)
  rw [coerced, whole, Int.toNat_natCast]

theorem atom_toValue_num {item : Atom} {q : ℚ} : item.toValue = .num q ↔ item = .num q := by
  cases item with
  | num p => simp [Atom.toValue]
  | _ => simp [Atom.toValue]

theorem versionTold_iff (expected : Nat) (doc : Doc) : VersionTold expected (doc "version") ↔
    ((buildVersionFilter (expected : Int)).holds doc = true ↔ coerceVersion (doc.get "version") = expected) := by
  cases stored : doc "version" with
  | none =>
    have absent : doc.has "version" = false := by simp [Doc.has, stored]
    have read : coerceVersion (doc.get "version") = 0 := by
      rw [Doc.get, stored]
      rfl
    rw [read]
    cases expected with
    | zero =>
      rw [Nat.cast_zero, buildVersionFilter_zero, absent]
      simp [VersionTold]
    | succ n =>
      rw [buildVersionFilter_succ, Filter.fieldIs, stored]
      simp [VersionTold]
  | some v =>
    have read : doc.get "version" = v := Doc.get_of_some stored
    rw [read, buildVersionFilter_stored stored, Filter.fieldIs, stored]
    cases v with
    | num q =>
      simp only [VersionTold, beq_iff_eq, Value.num.injEq]
      constructor
      · rintro (⟨n, rfl⟩ | other)
        · rw [coerceVersion_natCast, Nat.cast_inj]
        · constructor
          · rintro rfl
            exact coerceVersion_natCast expected
          · intro same
            exact absurd same other
      · intro told
        by_cases same : coerceVersion (.num q) = expected
        · exact .inl ⟨expected, told.mpr same⟩
        · exact .inr same
    | list items =>
      have coerced : coerceVersion (.list items) = 0 := rfl
      have inside : ((Value.num expected == .list items) || items.any fun item => item.toValue == .num expected) = true ↔
          .num (expected : ℚ) ∈ items := by
        simp only [Bool.or_eq_true, beq_iff_eq, List.any_eq_true, atom_toValue_num]
        constructor
        · rintro (absurd_ | ⟨item, member, rfl⟩)
          · cases absurd_
          · exact member
        · intro member
          exact .inr ⟨_, member, rfl⟩
      rw [coerced]
      dsimp only [VersionTold]
      rw [inside, eq_comm (a := 0)]
    | _ => simp [VersionTold]

/-- The id or the `_id` of the report is the given one. -/
def NamesReport (itemId : String) (doc : Doc) : Prop :=
  Filter.fieldIs doc "id" (.str itemId) = true ∨
    isObjectIdText itemId = true ∧ Filter.fieldIs doc "_id" (.oid (Text.lower itemId)) = true

instance (itemId : String) (doc : Doc) : Decidable (NamesReport itemId doc) := inferInstanceAs (Decidable (_ ∨ _))

theorem resolveUnknownFilter_holds (itemId : String) (doc : Doc) :
    (resolveUnknownFilter itemId).holds doc = true ↔ NamesReport itemId doc := by
  unfold resolveUnknownFilter NamesReport
  split
  · next shaped => simp [Filter.holds, shaped]
  · next plain => simp [Filter.holds, plain]

/-- The id in the filter of the update: a mapping takes it from the report it has read. -/
def UnknownCall.writtenId (call : UnknownCall) (existing : Doc) : String :=
  match call.op with
  | .resolve _ _ | .createManualSku _ _ => unknownItemId existing
  | .dismiss _ | .escalate _ | .attach _ _ _ _ => call.itemId

def UnknownCall.writtenFilter (call : UnknownCall) (existing : Doc) : Filter :=
  versionedUnknownFilter (call.writtenId existing) (coerceVersion (existing.get "version"))

/-- Among these reports the update finds those that the call names and that have the version that
was read. -/
structure FindsNamed (items : List Doc) (call : UnknownCall) (existing : Doc) : Prop where
  named : ∀ doc ∈ items, (call.writtenFilter existing).holds doc = true → NamesReport call.itemId doc
  current : ∀ doc ∈ items, NamesReport call.itemId doc → ((call.writtenFilter existing).holds doc = true ↔
    coerceVersion (doc.get "version") = coerceVersion (existing.get "version"))

/-- What a report must be like for the update. Without the id in the filter, another report must
have another version, and a named one a version that the filter tells. With it, the id in the filter
must be one of the same report, unless the version keeps the two apart. -/
def ReportTold (call : UnknownCall) (existing doc : Doc) : Prop :=
  let expected := coerceVersion (existing.get "version")
  let written := call.writtenId existing
  if isObjectIdText written = true ∧ expected = 0 then
    (NamesReport call.itemId doc → VersionTold expected (doc "version")) ∧
      (¬ NamesReport call.itemId doc → (buildVersionFilter (expected : Int)).holds doc = false)
  else
    (NamesReport call.itemId doc → NamesReport written doc ∧ VersionTold expected (doc "version") ∨
      ¬ NamesReport written doc ∧ coerceVersion (doc.get "version") ≠ expected) ∧
      (¬ NamesReport call.itemId doc → NamesReport written doc → (buildVersionFilter (expected : Int)).holds doc = false)

theorem versionedUnknownFilter_holds (itemId : String) (expected : Nat) (doc : Doc) :
    (versionedUnknownFilter itemId expected).holds doc = true ↔
      ((isObjectIdText itemId = true ∧ expected = 0) ∨ NamesReport itemId doc) ∧
        (buildVersionFilter (expected : Int)).holds doc = true := by
  unfold versionedUnknownFilter
  split
  · next lost =>
    simp only [Bool.and_eq_true, beq_iff_eq] at lost
    simp [lost]
  · next kept =>
    simp only [Bool.and_eq_true, beq_iff_eq] at kept
    simp only [Filter.holds, Bool.and_eq_true, resolveUnknownFilter_holds, kept, false_or]

/-- A report is told exactly if the filter of the update finds it where it should. -/
theorem reportTold_iff (call : UnknownCall) (existing doc : Doc) : ReportTold call existing doc ↔
    ((call.writtenFilter existing).holds doc = true → NamesReport call.itemId doc) ∧
    (NamesReport call.itemId doc → ((call.writtenFilter existing).holds doc = true ↔
      coerceVersion (doc.get "version") = coerceVersion (existing.get "version"))) := by
  unfold ReportTold UnknownCall.writtenFilter
  rw [versionedUnknownFilter_holds]
  dsimp only
  generalize coerceVersion (existing.get "version") = expected
  generalize call.writtenId existing = written
  rw [versionTold_iff]
  by_cases lost : isObjectIdText written = true ∧ expected = 0
  · have open_ : (isObjectIdText written = true ∧ expected = 0 ∨ NamesReport written doc) ↔ True :=
      iff_true_intro (.inl lost)
    rw [if_pos lost, open_, true_and, ← Bool.not_eq_true]
    constructor
    · rintro ⟨own, other⟩
      exact ⟨fun found => by_contra fun unnamed => other unnamed found, own⟩
    · rintro ⟨only_, own⟩
      exact ⟨own, fun unnamed found => unnamed (only_ found)⟩
  · rw [if_neg lost, or_iff_right lost, ← Bool.not_eq_true]
    constructor
    · rintro ⟨own, other⟩
      refine ⟨fun ⟨byId, found⟩ => by_contra fun unnamed => other unnamed byId found, fun named => ?_⟩
      rcases own named with ⟨byId, version⟩ | ⟨elsewhere, differs⟩
      · rw [and_iff_right byId]
        exact version
      · exact ⟨fun both => absurd both.1 elsewhere, fun same => absurd same differs⟩
    · rintro ⟨only_, own⟩
      refine ⟨fun named => ?_, fun unnamed byId found => unnamed (only_ ⟨byId, found⟩)⟩
      have version := own named
      by_cases byId : NamesReport written doc
      · rw [and_iff_right byId] at version
        exact .inl ⟨byId, version⟩
      · exact .inr ⟨byId, fun same => byId (version.mpr same).1⟩

/-- The update finds what it should exactly if every report is told. -/
theorem finds_named_iff (items : List Doc) (call : UnknownCall) (existing : Doc) :
    FindsNamed items call existing ↔ ∀ doc ∈ items, ReportTold call existing doc := by
  constructor
  · intro finds doc member
    exact (reportTold_iff call existing doc).mpr ⟨finds.named doc member, finds.current doc member⟩
  · intro all
    have each := fun doc member => (reportTold_iff call existing doc).mp (all doc member)
    exact ⟨fun doc member => (each doc member).1, fun doc member => (each doc member).2⟩

/-- Two reports that nobody has changed yet, from a time without versions. -/
def legacyReports : Store where
  unknownItems :=
    [Doc.ofList [("_id", .oid "64b000000000000000000001"), ("id", .str "u1"), ("status", .str "OPEN")],
      Doc.ofList [("_id", .oid "64b000000000000000000002"), ("id", .str "u2"), ("status", .str "OPEN")]]

def escalateSecond : UnknownCall where
  env := sampleEnv
  itemId := "64b000000000000000000002"
  actorId := "sudha"
  op := .escalate none

/-- The escalation of the second report escalates the first, and succeeds. -/
theorem other_report_escalated :
    ¬ (∀ (items : List Doc) (call : UnknownCall) (existing : Doc), FindsNamed items call existing) ∧
    ((escalateForReview sampleEnv "64b000000000000000000002" "sudha" none).final legacyReports).unknownItems.map
        (fun item => (item.get "id", item.get "status")) =
      [(.str "u1", .str "ESCALATED"), (.str "u2", .str "OPEN")] ∧
    (escalateForReview sampleEnv "64b000000000000000000002" "sudha" none).succeeds legacyReports = true := by
  refine ⟨?_, by decide +kernel, by decide +kernel⟩
  intro always
  have finds := always legacyReports.unknownItems escalateSecond legacyReports.unknownItems[1]
  have named := finds.named legacyReports.unknownItems[0] List.mem_cons_self (by decide +kernel)
  exact absurd named (by decide +kernel)

end StockVerification
