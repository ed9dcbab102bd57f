import StockVerification.Foundation.Interleaving
import StockVerification.RouteEffects

/-!
# Concurrent creations

Source: backend/api/count_lines_routes.py:538-870 and
backend/services/locking/mongo_service.py:44-113.

A creation takes a lock on the item and its place, looks for an active line of that place,
and inserts the new one. Its calls of the database interleave with those of other
creations, and locks expire.

In a transaction the inserted line is never committed, so there a creation leaves the lines
as they are; outside one every write is stored at once. What follows the persistence of the
line touches sessions only and is one call here.
-/
namespace StockVerification

open Foundation Foundation.Action

/-- A document of `locks`. It stays until it is released or swept, also when its time has
passed. -/
structure Lock where
  key : String
  owner : String
  expired : Bool := false

/-- The inserting half of `acquire_lock`; `none` where the key exists. -/
def insertLock (key owner : String) (locks : List Lock) : Option (List Lock) :=
  if locks.any (·.key == key) then none else some (locks ++ [{ key := key, owner := owner }])

/-- The other half: a lock of the same owner is granted again, and an expired one is deleted
first. -/
def inspectLock (key owner : String) (locks : List Lock) : Bool × List Lock :=
  match locks.find? (·.key == key) with
  | none => (false, locks)
  | some lock => (lock.owner == owner, if lock.expired then locks.eraseP (·.key == key) else locks)

def releaseLock (key owner : String) (locks : List Lock) : List Lock :=
  locks.eraseP fun lock => lock.key == key && lock.owner == owner

def expireLock (key : String) (locks : List Lock) : List Lock :=
  locks.map fun lock => if lock.key = key then { lock with expired := true } else lock

def sweepLocks (locks : List Lock) : List Lock := locks.filter fun lock => !lock.expired

namespace CountLineCreate

/-- `_build_count_line_lock_keys`: the ids before the numbers. -/
def lockKey (line : CountLineCreate) : String :=
  line.sessionId ++ ":" ++ line.itemCode ++ ":" ++
    (orText line.floorId (orText line.floorNo (some ""))).getD "" ++ ":" ++
    (orText line.rackId (orText line.rackNo (some ""))).getD ""

/-- The key shared by the variants of a product. -/
def variantKey (line : CountLineCreate) (erpItem : Doc) : Option String :=
  if (erpItem.get "item_id").truthy then
    some ("session:" ++ line.sessionId ++ ":product:" ++ (erpItem.get "item_id").text)
  else none

end CountLineCreate

structure LockSetup where
  lockService : Bool := true
  variantService : Bool := true

structure Creation where
  env : Env
  user : User
  body : CountLineCreate

def Creation.line (r : Creation) : CountLineCreate := r.body.normalizeLocationContext

structure HeldLocks where
  place : Bool
  variant : Option String

/-- A governed write of the persistence, and the one that follows it. -/
structure Persisting where
  admission : Admission
  held : HeldLocks
  document : Doc
  op : WriteOp
  rest : Option WriteOp

/-- What a creation in flight does next. -/
inductive CreationCall where
  | load
  | pin (session : Doc)
  | accept (session : Doc)
  | lockVariant (a : Admission) (key : String)
  | inspectVariant (a : Admission) (key : String)
  | lockPlace (a : Admission) (variant : Option String)
  | inspectPlace (a : Admission) (variant : Option String)
  | lookup (a : Admission) (held : HeldLocks)
  | prepare (w : Persisting)
  | execute (w : Persisting) (p : Prepared)
  | settle (w : Persisting) (p : Prepared) (result : WriteResult)
  | releasePlace (held : HeldLocks) (stored : Bool)
  | releaseVariant (key : String) (stored : Bool)
  | finish

structure CountingState where
  store : Store
  locks : List Lock := []

/-- After the locks are released the refreshes run, unless the creation failed. -/
def afterRelease (stored : Bool) : Option CreationCall := if stored then some .finish else none

/-- `finally`: the locks that were taken are released. -/
def releaseCall (held : HeldLocks) (stored : Bool) : Option CreationCall :=
  if held.place then some (.releasePlace held stored)
  else match held.variant with
    | some key => some (.releaseVariant key stored)
    | none => afterRelease stored

/-- The first lock to ask for. Without a lock service there is none. -/
def lockCall (setup : LockSetup) (r : Creation) (a : Admission) : CreationCall :=
  if !setup.lockService then .lookup a { place := false, variant := none }
  else match (if setup.variantService then r.line.variantKey a.erpItem else none) with
    | some key => .lockVariant a key
    | none => .lockPlace a none

/-- The two writes of `_persist_count_line_document`. -/
def persistWrites (r : Creation) (a : Admission) (held : HeldLocks) (document : Doc)
    (target : Option Doc) : Persisting where
  admission := a
  held := held
  document := document
  op := .insertOne document
  rest := target.map fun old => .updateOne (.eq "_id" (old.get "_id"))
    (.ofSet (supersededFields r.env r.user.username document))

/-- The answer of a call that may refuse: its next call, or the end. -/
def goOn {α : Type} (s : CountingState) (answer : Except Error α) (next : α → CreationCall) :
    CountingState × Option CreationCall :=
  match answer with
  | .ok a => (s, some (next a))
  | .error _ => (s, none)

/-- One call of a creation and what follows it. -/
def resumeCreation (setup : LockSetup) (s : CountingState) (r : Creation) :
    CreationCall → CountingState × Option CreationCall
  | .load => goOn s (getMutableSession r.line.sessionId s.store) .pin
  | .pin session =>
    match enforceSessionLogic r.env session s.store with
    | .ok _ t => ({ s with store := t }, some (.accept session))
    | .error _ t => ({ s with store := t }, none)
  | .accept session =>
    match ensureSessionAcceptsCounts session, findIdempotentCountLine s.store r.line with
    | .ok _, none => goOn s (assessCountLine r.line session s.store) (lockCall setup r)
    | _, _ => (s, none)
  | .lockVariant a key =>
    match insertLock key r.user.username s.locks with
    | some locks => ({ s with locks := locks }, some (.lockPlace a (some key)))
    | none => (s, some (.inspectVariant a key))
  | .inspectVariant a key =>
    ({ s with locks := (inspectLock key r.user.username s.locks).2 },
      if (inspectLock key r.user.username s.locks).1 then some (.lockPlace a (some key)) else none)
  | .lockPlace a variant =>
    match insertLock r.line.lockKey r.user.username s.locks with
    | some locks => ({ s with locks := locks }, some (.lookup a ⟨true, variant⟩))
    | none => (s, some (.inspectPlace a variant))
  | .inspectPlace a variant =>
    ({ s with locks := (inspectLock r.line.lockKey r.user.username s.locks).2 },
      if (inspectLock r.line.lockKey r.user.username s.locks).1 then some (.lookup a ⟨true, variant⟩)
      else none)
  | .lookup a held =>
    match resolveRecountTarget r.line s.store with
    | .error _ => (s, releaseCall held false)
    | .ok target =>
      match buildCountLineDocument r.env r.user r.line a target with
      | .error _ => (s, releaseCall held false)
      | .ok document =>
        -- the writes of a transaction go to its own copy and are dropped with it
        if r.env.deployment = .transactional then
          (s, releaseCall held ((persistCountLineBlock r.env s.store r.user.username a.session document
            target).succeeds s.store))
        else (s, some (.prepare (persistWrites r a held document target)))
  | .prepare w =>
    match prepareWrite r.env (persistContext r.user.username w.admission.session) w.op s.store with
    | .ok p => (s, some (.execute w p))
    | .error _ => (s, releaseCall w.held false)
  | .execute w p =>
    match executeCountLineOperation r.env p.op s.store with
    | .ok (result, t) => ({ s with store := t }, some (.settle w p result))
    | .error _ => (s, releaseCall w.held false)
  | .settle w p result =>
    let ctx := persistContext r.user.username w.admission.session
    let settled : Request Unit := do
      reads (runPostWriteValidation r.env s.store ctx p.op result)
      syncProjections r.env ctx p.versions
    let next := match w.rest, settled.succeeds s.store with
      | some op, true => some (.prepare { w with op := op, rest := none })
      | _, stored => releaseCall w.held stored
    ({ s with store := settled.final s.store }, next)
  | .releasePlace held stored =>
    ({ s with locks := releaseLock r.line.lockKey r.user.username s.locks },
      releaseCall { held with place := false } stored)
  | .releaseVariant key stored =>
    ({ s with locks := releaseLock key r.user.username s.locks }, afterRelease stored)
  | .finish =>
    let refreshed : Request Unit := do
      let _ ← attempt (recomputeSessionTotals r.env r.line.sessionId)
      let _ ← attempt (maybeUpdateSessionBarcode r.env r.line)
      pure ()
    ({ s with store := refreshed.final s.store }, none)

inductive CountingTask where
  | create (r : Creation) (call : CreationCall)
  | expire (key : String)
  | sweep

inductive CountingRequest where
  | create (r : Creation)
  | expire (key : String)
  | sweep

def startCounting (_ : CountingState) : CountingRequest → Option CountingTask
  | .create r => some (.create r .load)
  | .expire key => some (.expire key)
  | .sweep => some .sweep

def resumeCounting (setup : LockSetup) (s : CountingState) : CountingTask → CountingState × Option CountingTask
  | .create r call =>
    ((resumeCreation setup s r call).1, (resumeCreation setup s r call).2.map (.create r))
  | .expire key => ({ s with locks := expireLock key s.locks }, none)
  | .sweep => ({ s with locks := sweepLocks s.locks }, none)

abbrev Counting := Concurrent CountingState CountingTask

def Counting.step (setup : LockSetup) : Counting → Move CountingRequest → Counting :=
  Concurrent.step startCounting (resumeCounting setup)

end StockVerification
