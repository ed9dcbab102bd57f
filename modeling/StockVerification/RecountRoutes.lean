import StockVerification.CountLineRoutes

/-!
# Completing a recount

Source: backend/api/recount_api.py:321-515.

The notification that follows is not modelled; the two fields of the request it
reads are.
-/
namespace StockVerification

open Foundation Foundation.Action

/-- The role as the recount and sync routes read it. -/
def User.hasAuthority (user : User) : Bool :=
  let role := Text.lower (Text.strip user.role)
  role == "supervisor" || role == "admin"

/-- How the route answers an error. -/
def recountError : Error → Error
  | .http status detail => .http status detail
  | .governance message => .http 409 message
  | .concurrency message => .http 500 message
  | .value message => .http 500 message
  | .database _ => .http 500 "database error"

def findRecountOr404 (recountId : String) (s : Store) : Except Error Doc :=
  match s.findRecount recountId with
  | some recount => .ok recount
  | none => .error (.http 404 "Recount request not found")

/-- `document[key]`. -/
def requiredField (d : Doc) (field : String) : Except Error Value :=
  match d field with
  | some v => .ok v
  | none => .error (.value ("KeyError: " ++ field))

/-- Who may complete a recount. -/
def assertMayComplete (user : User) (username : String) (recount : Doc) : Except Error Unit := do
  let assignedTo := Text.strip (recount.get "assigned_to").textOrEmpty
  let createdBy := Text.strip (recount.get "created_by").textOrEmpty
  require (user.hasAuthority || assignedTo == "" || assignedTo == username)
    (.http 403 "Only assigned staff can complete recount")
  require (user.hasAuthority || assignedTo != "" || createdBy == "" || createdBy == username)
    (.http 403 "Not authorized to complete this recount")

/-- The place of the recounted line, with its fallbacks. -/
structure RecountPlace where
  locationId : String
  floorId : String
  rackId : String

def recountPlace (existing session : Doc) : Except Error RecountPlace := do
  let place : RecountPlace :=
    { locationId := Text.strip ((existing.get "location_id").orElse
        ((session.get "location_id").orElse (session.get "warehouse"))).textOrEmpty
      floorId := Text.strip ((existing.get "floor_id").orElse
        ((existing.get "floor_no").orElse (session.get "floor_id"))).textOrEmpty
      rackId := Text.strip ((existing.get "rack_id").orElse
        ((existing.get "rack_no").orElse (session.get "rack_no"))).textOrEmpty }
  require (place.locationId != "" && place.floorId != "" && place.rackId != "")
    (.http 400 "CRITICAL: Recount requires location_id, floor_id and rack_id context")
  pure place

/-- The successor of the recounted line: a copy with its object id removed. The
copy keeps the idempotency key and the fingerprint of the line it replaces. -/
def recountedLine (env : Env) (username originalCounter : String) (resultQty : ℚ) (existing : Doc)
    (place : RecountPlace) : Except Error Doc := do
  let version ← intOrError (existing.get "version") 1
  let iteration ← intOrError (existing.get "recount_iteration") 0
  let previous := ((existing.get "id").orElse (existing.get "_id")).text
  let copied := ((existing.erase "_id").setDefault "floor_no" (.str place.floorId)).setDefault
    "rack_no" (.str place.rackId)
  pure (copied.setAll [("id", .str env.freshId), ("counted_qty", .num resultQty),
    ("status", .str "pending"), ("approval_status", .str "PENDING"), ("verified", .bool false),
    ("verified_by", .null), ("verified_at", .null), ("rejected_by", .null), ("rejected_at", .null),
    ("recount_requested_at", .null), ("recount_requested_by", .null),
    ("recount_completed_at", .date env.now), ("recount_completed_by", .str username),
    ("updated_at", .date env.now), ("updated_by", .str username),
    ("location_id", .str place.locationId), ("floor_id", .str place.floorId),
    ("rack_id", .str place.rackId), ("version", .num (version + 1 : Int)),
    ("previous_version_id", .str previous),
    ("recount_of_id", (existing.get "recount_of_id").orElse ((existing.get "id").orElse (.str previous))),
    ("recount_iteration", .num (iteration + 1 : Int)),
    ("blind_recount_completed_by_distinct_user", .bool (originalCounter != username)),
    ("dual_verification_required", .bool true)])

/-- The fields a completion writes on the request. -/
def completionFields (env : Env) (username : String) (notes : Option String)
    (resultQty : Option ℚ) : List (String × Value) :=
  [("updated_at", .date env.now), ("completed_at", .date env.now), ("completed_by", .str username)] ++
  (match notes with
    | some text => if text = "" then [] else [("completion_notes", .str text)]
    | none => []) ++
  (match resultQty with
    | some qty => [("result_qty", .num qty)]
    | none => [])

def sessionContext (username : String) (session : Doc) : WriteContext :=
  { session := some session, username := username }

/-- The block of a completion with a quantity: successor, supersede mark, request. -/
def completeRecountBlock (env : Env) (committed : Store) (user : User) (recountId : String)
    (notes : Option String) (resultQty : ℚ) : Request Doc := do
  let username := Text.strip user.username
  let recount ← reads (findRecountOr404 recountId)
  let lineId ← reads fun _ => requiredField recount "count_line_id"
  let existing ← reads fun s => match s.countLines.find? (Filter.eq "id" lineId).holds with
    | some line => .ok line
    | none => .error (.http 404 "Count line for recount not found")
  let originalCounter := Text.strip ((recount.get "original_counter").orElse
    ((existing.get "counted_by").orElse (existing.get "created_by"))).textOrEmpty
  reads fun _ => require (!((recount.get "blind_recount_required").truthy && !user.hasAuthority &&
      originalCounter != "" && originalCounter == username))
    (.http 403 "Blind recount requires a different staff user than the original count")
  let session ← reads (ensureSessionActive
    ((existing.get "session_id").orElse (recount.get "session_id")).textOrEmpty)
  let place ← reads fun _ => recountPlace existing session
  let successor ← reads fun _ => recountedLine env username originalCounter resultQty existing place
  let ctx := sessionContext username session
  let _ ← processWriteCore env committed { ctx with skipSessionTotalsUpdate := true } (.insertOne successor)
  let _ ← processWriteCore env committed ctx
    (.updateOne (.eq "_id" (existing.get "_id")) (.ofSet (supersededFields env username successor)))
  let _ ← transitionRecountRequestCore env recountId "completed"
    (completionFields env username notes (some resultQty))
  pure recount

/-- The change itself. Without a quantity the lifecycle service commits its own unit
of work; with one the unit of work of the route is left without a commit. -/
def settleRecount (env : Env) (user : User) (recountId : String) (notes : Option String)
    (recount : Doc) : Option ℚ → Request (Answer Doc)
  | none => do
    let _ ← transitionRecountRequest env recountId "completed"
      (completionFields env (Text.strip user.username) notes none)
    pure { body := recount }
  | some qty => do
    let (reread, exit) ← UnitOfWork.runObserved env.deployment (UnitOfWork.write
      (withStore fun s => completeRecountBlock env s user recountId notes qty))
    pure { body := reread, units := [exit] }

/-- `complete_recount_request`. -/
def completeRecount (env : Env) (user : User) (recountId : String) (notes : Option String)
    (resultQty : Option ℚ) : Request (Answer Unit) :=
  mapError recountError do
    let recount ← reads (findRecountOr404 recountId)
    reads fun _ => assertMayComplete user (Text.strip user.username) recount
    let settled ← settleRecount env user recountId notes recount resultQty
    reads fun _ => do
      let _ ← requiredField settled.body "created_by"
      let _ ← requiredField settled.body "item_name"
      pure ()
    pure { body := (), units := settled.units }

end StockVerification
