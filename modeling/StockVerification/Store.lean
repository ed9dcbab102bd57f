import StockVerification.Canonical
import StockVerification.Foundation.UnitOfWork

/-!
# The store and its surroundings

One list per collection that a modelled function reads or writes. Write-only
collections (governance audit, event log, validation log, item projections) are
left out. Source for the unique indexes: backend/db/indexes.py.

One assumption about the database driver runs through the development: a database object can be
tested for truth (`if db`, `db or get_db()`), and a client or database resolves a collection's name
as an attribute (`client.count_lines`, repositories/base.py:38-46). With a driver that raises there,
the modelled functions raise too.
-/
namespace StockVerification

open Foundation

/-- A document of `sync_conflicts`; its two versions of the entity nest deeper than
a `Doc` does. -/
structure SyncConflictRow where
  id : String
  entityType : String
  entityId : String
  localData : List (String × Value)
  serverData : List (String × Value)
  status : String := "pending"
  resolution : String := ""
  resolvedBy : String := ""

structure Store where
  sessions : List Doc := []
  verificationSessions : List Doc := []
  countLines : List Doc := []
  unknownItems : List Doc := []
  recountRequests : List Doc := []
  sessionDashboard : List Doc := []
  erpItems : List Doc := []
  sessionSnapshots : List Doc := []
  stockSnapshots : List Doc := []
  varianceThresholdConfigs : List Doc := []
  serialRegistry : List Doc := []
  itemSerials : List Doc := []
  idempotencyOperations : List Doc := []
  syncConflicts : List SyncConflictRow := []

/-- Every way a request is refused; the texts are the source's. -/
inductive Error where
  | http (status : Nat) (detail : String)
  | governance (message : String)
  | concurrency (message : String)
  | value (message : String)
  | database (fault : WriteFault)
  deriving DecidableEq, Repr

/-- The fields `_build_semantic_hash` fingerprints
(backend/services/count_lines/validation.py:65-86). -/
structure SemanticPayload where
  sessionId : String
  itemId : String
  locationId : String
  floorNo : String
  rackNo : String
  barcode : String
  countedQty : ℚ
  version : Int
  deriving DecidableEq

/-- What a request takes from its surroundings: the clock, the configuration, the
hash function, the next object id and line id, what the flag resolver answers (a
pin, or the text of its refusal) and whether the lock service grants the locks. -/
structure Env where
  now : Int
  deployment : Deployment
  strictValidation : Bool := false
  digest : SemanticPayload → String
  freshOid : String
  freshId : String
  logicPin : Except String (String × String) := .ok ("v1", "global")
  locksGranted : Bool := true

/-- The surroundings of the concrete runs: a replica set, and a fingerprint that
keeps the place, the quantity and the version apart. -/
def sampleEnv : Env where
  now := 1000
  deployment := .transactional
  digest p := p.sessionId ++ "|" ++ p.itemId ++ "|" ++ p.floorNo ++ "|" ++ p.rackNo ++ "|" ++
    toString p.countedQty.num ++ "|" ++ toString p.version
  freshOid := "0123456789abcdef01234567"
  freshId := "line-new"

abbrev Request := Action Store Error

/-- Unique indexes of `count_lines`. -/
def countLineIndexes : List UniqueIndex :=
  [{ field := "_id" }, { field := "idempotency_key" }, { field := "semantic_hash" }]

/-- Unique indexes of `sessions`. -/
def sessionIndexes : List UniqueIndex :=
  [{ field := "_id" }, { field := "session_id", sparse := false }, { field := "id" }]

/-- Unique indexes of `verification_sessions`. -/
def mirrorIndexes : List UniqueIndex :=
  [{ field := "_id" }, { field := "session_id", sparse := false }]

/-- Unique indexes of `erp_items`. -/
def erpItemIndexes : List UniqueIndex := [{ field := "_id" }, { field := "item_code", sparse := false }]

/-- Unique indexes of `idempotency_operations`. -/
def operationIndexes : List UniqueIndex :=
  [{ field := "_id" }, { field := "operation_id", sparse := false }]

/-- Unique indexes of `recount_requests`. -/
def recountIndexes : List UniqueIndex :=
  [{ field := "_id" }, { field := "id", sparse := false }]

def liftFault {α : Type} : Except WriteFault α → Except Error α
  | .ok a => .ok a
  | .error fault => .error (.database fault)

def require (condition : Bool) (error : Error) : Except Error Unit :=
  if condition then .ok () else .error error

@[simp] theorem require_ok {condition : Bool} {error : Error} {u : Unit} :
    require condition error = .ok u ↔ condition = true := by
  cases condition <;> simp [require]

variable {α : Type}

@[simp] theorem liftFault_ok {x : Except WriteFault α} {a : α} : liftFault x = .ok a ↔ x = .ok a := by
  cases x <;> simp [liftFault]

variable {ε : Type}

theorem bind_success {β : Type} {step : Except ε α} {next : α → Except ε β} {value : β} :
    (step >>= next) = .ok value ↔ ∃ x, step = .ok x ∧ next x = .ok value := by
  cases step with
  | error e | ok x => simp [bind, Except.bind]

theorem pure_success {a b : α} : (pure a : Except ε α) = .ok b ↔ a = b := by
  simp [pure, Except.pure]

theorem map_success {β : Type} {x : Except ε α} {f : α → β} {b : β} :
    x.map f = .ok b ↔ ∃ a, x = .ok a ∧ f a = b := by
  cases x <;> simp [Except.map]

def Store.findSession (s : Store) (sessionId : String) : Option Doc :=
  s.sessions.find? (sessionLookup sessionId).holds

/-- The lines a filter on the session id selects, in natural order. -/
def Store.sessionLines (s : Store) (sessionId : String) : List Doc :=
  s.countLines.filter (Filter.eq "session_id" (.str sessionId)).holds

def Store.withLines (s : Store) (lines : List Doc) : Store := { s with countLines := lines }

end StockVerification
