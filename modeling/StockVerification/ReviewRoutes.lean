import StockVerification.RecountRoutes

/-!
# Reviewing and deleting a line

Source: backend/api/count_lines_routes.py:142-146, 1292-1416, 1572-1790, 2164-2252.

Activity log, notifications and broadcasts are left out. The bulk routes hand the
write core a `bulk_write`, which it does not support, and so never write.
-/
namespace StockVerification

open Foundation Foundation.Action

/-- What a supervisor decides on a line. -/
inductive ReviewDecision where
  | verify
  | unverify
  | approve (notes : Option String)
  | reject (notes assignTo : Option String)

namespace ReviewDecision

/-- The text of the refusal to other roles. -/
def refusal : ReviewDecision → String
  | .verify => "Supervisor access required"
  | .unverify => "Supervisor access required"
  | .approve _ => "Insufficient permissions"
  | .reject .. => "Insufficient permissions"

/-- Only lines with a variance are verified. -/
def admits (line : Doc) : ReviewDecision → Except Error Unit
  | .verify => require (countLineRequiresSupervisorReview line)
      (.http 409 "Only variance items require supervisor verification")
  | _ => .ok ()

def ownerOf (line : Doc) : Value := (line.get "counted_by").orElse (line.get "created_by")

/-- The fields a decision sets. A rejection leaves the approver's name in place. -/
def fields (env : Env) (user : User) (line : Doc) : ReviewDecision → List (String × Value)
  | .verify => [("verified", .bool true), ("verified_by", .str user.username),
      ("verified_at", .date env.now)]
  | .unverify => [("verified", .bool false), ("verified_by", .null), ("verified_at", .null)]
  | .approve notes => [("status", .str "approved"), ("approval_status", .str "APPROVED"),
      ("approved_by", .str user.username), ("approved_at", .date env.now),
      ("approval_note", optionalText notes), ("rejection_reason", .null), ("assigned_to", .null)]
  | .reject notes assignTo => [("status", .str "rejected"), ("approval_status", .str "REJECTED"),
      ("rejected_by", .str user.username), ("rejected_at", .date env.now),
      ("verified", .bool false), ("verified_by", .null), ("verified_at", .null),
      ("rejection_reason", (optionalText notes).orElse (.str "Supervisor requested recount")),
      ("recount_requested_at", .date env.now), ("recount_requested_by", .str user.username),
      ("assigned_to", (optionalText assignTo).orElse (ownerOf line))]

/-- `modified_count` for the first two decisions, `matched_count` for the others. -/
def acknowledged (names : List String) (result : WriteResult) : ReviewDecision → Bool
  | .verify => changed
  | .unverify => changed
  | .approve _ => result.matched != 0
  | .reject .. => result.matched != 0
where
  changed : Bool := names.any fun name =>
    (result.before.getD Doc.empty) name != (result.after.getD Doc.empty) name

/-- How the route answers an error that is not an HTTP one. -/
def answerError (error : Error) : ReviewDecision → Error
  | .approve _ => internalError "Failed to approve count line" error
  | .reject .. => internalError "Failed to reject count line" error
  | _ => error
where
  internalError (detail : String) : Error → Error
    | .http status text => .http status text
    | _ => .http 500 detail

end ReviewDecision

/-- The context of a review: the line's own session, in any open state. -/
def reviewContext (line : Doc) : WriteContext :=
  { sessionId := .str (line.get "session_id").textOrEmpty, governanceMode := .mutableSession }

/-- The line of a review or a deletion, once every guard let it pass. -/
def openLineForReview (env : Env) (lineId : String) : Request Doc := do
  let line ← reads fun s => match findCountLine s lineId with
    | some line => .ok line
    | none => .error (.http 404 "Count line not found")
  let _ ← reads (ensureCountLineMutable line)
  enforceLogicFromLine env line
  pure line

/-- `verify_stock`, `unverify_stock`, `approve_count_line` and `reject_count_line`. -/
def reviewCountLine (env : Env) (user : User) (lineId : String) (decision : ReviewDecision) :
    Request Unit :=
  mapError (fun error => decision.answerError error) do
    reads fun _ => require user.isPrivileged (.http 403 decision.refusal)
    let line ← openLineForReview env lineId
    reads fun _ => decision.admits line
    let fields := decision.fields env user line
    let result ← processWrite env (reviewContext line)
      (.updateOne (.eq "_id" (line.get "_id")) (.ofSet (Doc.ofList fields)))
    reads fun _ => require (decision.acknowledged ("semantic_hash" :: fields.map Prod.fst) result)
      (.http 404 "Count line not found")
    recomputeSessionTotals env (line.get "session_id").textOrEmpty

def deleteCountLine (env : Env) (user : User) (lineId : String) : Request Unit :=
  mapError (ReviewDecision.answerError.internalError "Failed to delete count line") do
    reads fun _ => require user.isPrivileged (.http 403 "Insufficient permissions")
    let line ← openLineForReview env lineId
    let result ← processWrite env (reviewContext line) (.deleteOne (.eq "_id" (line.get "_id")))
    reads fun _ => require (result.matched != 0) (.http 404 "Count line not found")
    let _ ← attempt (recomputeSessionTotals env (line.get "session_id").textOrEmpty)
    pure ()

end StockVerification
