import StockVerification.CountLineRoutes

/-!
# Reviews on the client and on the server

Source: frontend/src/core/reducers/countLineReviewProjectionReducer.ts:5-123,
frontend/src/services/control-plane/countLineReviewControlPlane.ts:53-137 and 266-318,
backend/services/count_lines/write_core.py:589-679.

The client folds its review events into a snapshot of nullable fields and lays it on the row it
was given, where a null shows the row's own value. The server writes each transition into the
row, nulls included. The two sides are compared with the same user and the same clock.
-/
namespace StockVerification

open Foundation

/-- What a supervisor may command on a line. -/
inductive ReviewCommand where
  | approve (notes : Option String)
  | reject (notes : Option String)
  | verify
  | unverify
  | assignRecount (notes : Option String) (assignTo : String)

structure IssuedReview where
  command : ReviewCommand
  username : String
  at_ : Int

inductive ReviewEventBody where
  | approved (notes : Option String)
  | rejected (notes assignTo : Option String)
  | verified
  | unverified

/-- A review event; the actor and the time stand under the names of its type in the payload. -/
structure CountLineReviewEvent where
  lineId : String
  sessionId : Option String
  actor : String
  at_ : Int
  syncStatus : String := "pending"
  body : ReviewEventBody

structure ProjectedCountLineReviewSnapshot where
  lineId : String
  sessionId : Option String
  status : Option String := none
  approvalStatus : Option String := none
  approvedBy : Option String := none
  approvedAt : Option Int := none
  approvalNote : Option String := none
  rejectedBy : Option String := none
  rejectedAt : Option Int := none
  rejectionReason : Option String := none
  assignedTo : Option String := none
  verified : Option Bool := none
  verifiedBy : Option String := none
  verifiedAt : Option Int := none
  blindRecountRequired : Bool := false
  dualVerificationRequired : Bool := false
  originalCountHidden : Bool := false
  updatedAt : Int
  syncStatus : String := "pending"

def buildEmptySnapshot (event : CountLineReviewEvent) : ProjectedCountLineReviewSnapshot where
  lineId := event.lineId
  sessionId := event.sessionId
  updatedAt := event.at_

def applyCountLineReviewEventToSnapshot (event : CountLineReviewEvent)
    (previous : Option ProjectedCountLineReviewSnapshot) : ProjectedCountLineReviewSnapshot :=
  let base := previous.getD (buildEmptySnapshot event)
  match event.body with
  | .approved notes =>
    { base with
      sessionId := event.sessionId.or base.sessionId
      status := some "approved"
      approvalStatus := some "APPROVED"
      approvedBy := some event.actor
      approvedAt := some event.at_
      approvalNote := notes
      rejectedBy := none
      rejectedAt := none
      rejectionReason := none
      assignedTo := none
      updatedAt := event.at_
      syncStatus := event.syncStatus }
  | .rejected notes assignTo =>
    { base with
      sessionId := event.sessionId.or base.sessionId
      status := some "rejected"
      approvalStatus := some "REJECTED"
      rejectedBy := some event.actor
      rejectedAt := some event.at_
      rejectionReason := some (notes.getD "Supervisor requested recount")
      assignedTo := assignTo.or base.assignedTo
      verified := some false
      verifiedBy := none
      verifiedAt := none
      blindRecountRequired := true
      dualVerificationRequired := true
      originalCountHidden := true
      updatedAt := event.at_
      syncStatus := event.syncStatus }
  | .verified =>
    { base with
      sessionId := event.sessionId.or base.sessionId
      verified := some true
      verifiedBy := some event.actor
      verifiedAt := some event.at_
      updatedAt := event.at_
      syncStatus := event.syncStatus }
  | .unverified =>
    { base with
      sessionId := event.sessionId.or base.sessionId
      verified := some false
      verifiedBy := none
      verifiedAt := none
      updatedAt := event.at_
      syncStatus := event.syncStatus }

/-- The fields of a row that a snapshot may stand in for, null where it does not. -/
def ProjectedCountLineReviewSnapshot.fields (projected : ProjectedCountLineReviewSnapshot) :
    List (String × Option Value) :=
  [("status", projected.status.map .str), ("approval_status", projected.approvalStatus.map .str),
    ("approved_by", projected.approvedBy.map .str), ("approved_at", projected.approvedAt.map .date),
    ("approval_note", projected.approvalNote.map .str), ("rejected_by", projected.rejectedBy.map .str),
    ("rejected_at", projected.rejectedAt.map .date), ("rejection_reason", projected.rejectionReason.map .str),
    ("assigned_to", projected.assignedTo.map .str), ("verified", projected.verified.map .bool),
    ("verified_by", projected.verifiedBy.map .str), ("verified_at", projected.verifiedAt.map .date)]

/-- `overlayCountLineReviewState`, for one row and its projection. -/
def overlayCountLineReviewState (row : Doc) (projected : Option ProjectedCountLineReviewSnapshot) : Doc :=
  match projected with
  | none => row
  | some projected =>
    row.setAll ((projected.fields.map fun entry => (entry.1, entry.2.getD (row.get entry.1))) ++
      [("blind_recount_required", .bool (projected.blindRecountRequired || (row.get "blind_recount_required").truthy)),
        ("dual_verification_required",
          .bool (projected.dualVerificationRequired || (row.get "dual_verification_required").truthy)),
        ("original_count_hidden", .bool (projected.originalCountHidden || (row.get "original_count_hidden").truthy)),
        ("_sync_status", .str projected.syncStatus), ("_review_projection", .bool true)])

/-- `getCurrentActor`. -/
def clientActor (username : String) : String := if username = "" then "offline_user" else username

/-- The event a command records: `buildApproveEvent`, `buildRejectEvent`, `buildVerifyEvent` and
`buildUnverifyEvent`. A recount is assigned by a rejection that names somebody. -/
def buildReviewEvent (lineId : String) (sessionId : Option String) (issued : IssuedReview) : CountLineReviewEvent where
  lineId := lineId
  sessionId := sessionId
  actor := clientActor issued.username
  at_ := issued.at_
  body := match issued.command with
    | .approve notes => .approved notes
    | .reject notes => .rejected notes none
    | .verify => .verified
    | .unverify => .unverified
    | .assignRecount notes assignTo => .rejected notes (some assignTo)

/-- The snapshot of a line after its events. -/
def projectedReview (lineId : String) (sessionId : Option String) (commands : List IssuedReview) :
    Option ProjectedCountLineReviewSnapshot :=
  commands.foldl (fun previous issued =>
    some (applyCountLineReviewEventToSnapshot (buildReviewEvent lineId sessionId issued) previous)) none

def ReviewCommand.transition : ReviewCommand → StateTransition
  | .approve _ => .approve
  | .reject _ => .reject
  | .verify => .verify
  | .unverify => .unverify
  | .assignRecount .. => .reject

/-- The context of a command; its flags stand at their defaults. -/
def IssuedReview.context (issued : IssuedReview) : WriteContext :=
  let ctx : WriteContext := { username := issued.username, transition := some issued.command.transition }
  match issued.command with
  | .approve notes => { ctx with approvalNote := optionalText notes }
  | .reject notes => { ctx with rejectionReason := optionalText notes }
  | .assignRecount notes assignTo =>
    { ctx with rejectionReason := optionalText notes, assignedTo := .str assignTo }
  | _ => ctx

/-- What the transition of a command sets, at the command's time. -/
def transitionEntries (env : Env) (issued : IssuedReview) : List (String × Value) :=
  stateTransitionFields { env with now := issued.at_ } issued.context issued.command.transition

def reviewedRow (env : Env) (row : Doc) (commands : List IssuedReview) : Doc :=
  commands.foldl (fun row issued => row.setAll (transitionEntries env issued)) row

def reviewFieldNames : List String :=
  ["status", "approval_status", "approved_by", "approved_at", "approval_note", "rejected_by",
    "rejected_at", "rejection_reason", "assigned_to", "verified", "verified_by", "verified_at"]

/-- The client shows of the row what the server makes of it. -/
def ReviewAgrees (env : Env) (lineId : String) (sessionId : Option String) (row : Doc)
    (commands : List IssuedReview) : Prop :=
  ∀ name ∈ reviewFieldNames,
    (overlayCountLineReviewState row (projectedReview lineId sessionId commands)).get name =
      (reviewedRow env row commands).get name

/-- What an event does to the fields of a snapshot. A rejection that names nobody leaves the
assignment alone. -/
def clientEntries (issued : IssuedReview) : List (String × Option Value) :=
  let actor := some (Value.str (clientActor issued.username))
  let time := some (Value.date issued.at_)
  match issued.command with
  | .approve notes =>
    [("status", some (.str "approved")), ("approval_status", some (.str "APPROVED")), ("approved_by", actor),
      ("approved_at", time), ("approval_note", notes.map .str), ("rejected_by", none), ("rejected_at", none),
      ("rejection_reason", none), ("assigned_to", none)]
  | .reject notes =>
    [("status", some (.str "rejected")), ("approval_status", some (.str "REJECTED")), ("rejected_by", actor),
      ("rejected_at", time), ("rejection_reason", some (.str (notes.getD "Supervisor requested recount"))),
      ("verified", some (.bool false)), ("verified_by", none), ("verified_at", none)]
  | .verify => [("verified", some (.bool true)), ("verified_by", actor), ("verified_at", time)]
  | .unverify => [("verified", some (.bool false)), ("verified_by", none), ("verified_at", none)]
  | .assignRecount notes assignTo =>
    [("status", some (.str "rejected")), ("approval_status", some (.str "REJECTED")), ("rejected_by", actor),
      ("rejected_at", time), ("rejection_reason", some (.str (notes.getD "Supervisor requested recount"))),
      ("assigned_to", some (.str assignTo)), ("verified", some (.bool false)), ("verified_by", none),
      ("verified_at", none)]

def ProjectedCountLineReviewSnapshot.value (projected : Option ProjectedCountLineReviewSnapshot)
    (name : String) : Option Value :=
  projected.bind fun snapshot => (snapshot.fields.lookup name).join

variable {issued : IssuedReview} {name : String}

theorem value_apply {lineId : String} {sessionId : Option String}
    {previous : Option ProjectedCountLineReviewSnapshot} (member : name ∈ reviewFieldNames) :
    ProjectedCountLineReviewSnapshot.value
        (some (applyCountLineReviewEventToSnapshot (buildReviewEvent lineId sessionId issued) previous)) name =
      ((clientEntries issued).lookup name).getD (ProjectedCountLineReviewSnapshot.value previous name) := by
  rcases issued with ⟨command, username, at_⟩
  simp only [reviewFieldNames, List.mem_cons, List.not_mem_nil, or_false] at member
  rcases member with rfl | rfl | rfl | rfl | rfl | rfl | rfl | rfl | rfl | rfl | rfl | rfl
  all_goals
    cases previous
    all_goals
      cases command
      all_goals rfl

theorem overlay_get {row : Doc} {projected : Option ProjectedCountLineReviewSnapshot}
    (member : name ∈ reviewFieldNames) :
    (overlayCountLineReviewState row projected).get name =
      (ProjectedCountLineReviewSnapshot.value projected name).getD (row.get name) := by
  cases projected with
  | none => rfl
  | some snapshot =>
    simp only [reviewFieldNames, List.mem_cons, List.not_mem_nil, or_false] at member
    rcases member with rfl | rfl | rfl | rfl | rfl | rfl | rfl | rfl | rfl | rfl | rfl | rfl
    all_goals rfl

theorem shown_get (lineId : String) (sessionId : Option String) (row : Doc)
    (commands : List IssuedReview) (member : name ∈ reviewFieldNames) :
    (overlayCountLineReviewState row (projectedReview lineId sessionId commands)).get name =
      ((commands.reverse.findSome? fun issued => (clientEntries issued).lookup name).join).getD (row.get name) := by
  rw [overlay_get member]
  congr 1
  induction commands using List.reverseRecOn with
  | nil => rfl
  | append_singleton before issued ih =>
    rw [projectedReview, List.foldl_append, List.foldl_cons, List.foldl_nil, value_apply member,
      List.reverse_append, List.reverse_singleton, List.singleton_append, List.findSome?_cons]
    cases (clientEntries issued).lookup name with
    | some written => rfl
    | none => exact ih

theorem reviewedRow_get (env : Env) (row : Doc) (commands : List IssuedReview) (name : String) :
    (reviewedRow env row commands).get name =
      (commands.reverse.findSome? fun issued => (transitionEntries env issued).lookup name).getD (row.get name) := by
  induction commands using List.reverseRecOn with
  | nil => rfl
  | append_singleton before issued ih =>
    rw [reviewedRow, List.foldl_append, List.foldl_cons, List.foldl_nil, List.reverse_append,
      List.reverse_singleton, List.singleton_append, List.findSome?_cons, Doc.get, Doc.setAll, Doc.update_apply]
    change (((transitionEntries env issued).lookup name).or _).getD _ = _
    cases (transitionEntries env issued).lookup name with
    | some written => rfl
    | none => exact ih

namespace ReviewCommand

def isDecision : ReviewCommand → Bool
  | .approve _ | .reject _ | .assignRecount .. => true
  | _ => false

def isApproval : ReviewCommand → Bool
  | .approve _ => true
  | _ => false

/-- The commands whose event writes the assignment. -/
def assigns : ReviewCommand → Bool
  | .approve _ | .assignRecount .. => true
  | _ => false

/-- The commands that write the verification. -/
def isCheck : ReviewCommand → Bool
  | .approve _ => false
  | _ => true

theorem isDecision_of_isApproval (command : ReviewCommand) (approves : command.isApproval = true) :
    command.isDecision = true := by
  cases command with
  | approve notes => rfl
  | _ => cases approves

theorem isDecision_of_assigns (command : ReviewCommand) (assigning : command.assigns = true) :
    command.isDecision = true := by
  cases command with
  | approve notes => rfl
  | assignRecount notes assignTo => rfl
  | _ => cases assigning

end ReviewCommand

def lastReview (kind : ReviewCommand → Bool) (commands : List IssuedReview) : Option IssuedReview :=
  commands.reverse.find? fun issued => kind issued.command

variable {kind : ReviewCommand → Bool}

theorem findSome_lastReview {β : Type} {writes : IssuedReview → Option β}
    (each : ∀ issued, (writes issued).isSome = kind issued.command) (commands : List IssuedReview) :
    commands.reverse.findSome? writes = (lastReview kind commands).bind writes := by
  unfold lastReview
  induction commands.reverse with
  | nil => rfl
  | cons issued rest ih =>
    rw [List.findSome?_cons, List.find?_cons, ← each]
    cases written : writes issued with
    | some value => exact written.symm
    | none => exact ih

variable {commands : List IssuedReview}

theorem lastReview_none :
    lastReview kind commands = none ↔ ∀ issued ∈ commands, kind issued.command = false := by
  simp only [lastReview, List.find?_eq_none, List.mem_reverse, Bool.not_eq_true]

section

variable {narrow : ReviewCommand → Bool}
  (within : ∀ command, narrow command = true → kind command = true)
include within

theorem lastReview_none_narrow (absent : lastReview kind commands = none) : lastReview narrow commands = none := by
  rw [lastReview_none] at absent ⊢
  intro issued member
  cases of : narrow issued.command with
  | false => rfl
  | true =>
    have not := absent issued member
    rw [within _ of] at not
    cases not

theorem lastReview_narrow (last : lastReview kind commands = some issued)
    (named : narrow issued.command = true) : lastReview narrow commands = some issued := by
  obtain ⟨_, newer, older, split, others⟩ := List.find?_eq_some_iff_append.mp last
  apply List.find?_eq_some_iff_append.mpr
  refine ⟨named, newer, older, split, ?_⟩
  intro other member
  have not := others other member
  cases of : narrow other.command with
  | false => rfl
  | true =>
    rw [within _ of] at not
    cases not

end

theorem lastReview_kind (last : lastReview kind commands = some issued) :
    kind issued.command = true :=
  (List.find?_eq_some_iff_append.mp last).1

def plainText (text : String) : Prop := Text.strip text = text ∧ text ≠ ""

instance (text : String) : Decidable (plainText text) := inferInstanceAs (Decidable (_ ∧ _))

theorem normalizeReason_plain {text : String} : normalizeReason (.str text) = .str text ↔ plainText text := by
  change (if Text.strip text = "" then Value.null else .str (Text.strip text)) = _ ↔ _ ∧ _
  by_cases blank : Text.strip text = ""
  · rw [if_pos blank]
    constructor
    · nofun
    · intro plain
      exact absurd (plain.1.symm.trans blank) plain.2
  · rw [if_neg blank, Value.str.injEq]
    constructor
    · intro same
      refine ⟨same, ?_⟩
      intro empty
      rw [same] at blank
      exact blank empty
    · exact fun plain => plain.1

theorem clientActor_plain : clientActor issued.username = actorOf issued.context ↔ plainText issued.username := by
  have named : issued.context.username = issued.username := by
    rcases issued with ⟨command, username, at_⟩
    cases command
    all_goals rfl
  unfold clientActor actorOf plainText
  rw [named]
  generalize issued.username = name
  by_cases empty : name = ""
  · subst empty
    decide
  · rw [if_neg empty]
    by_cases blank : Text.strip name = ""
    · rw [if_pos blank]
      constructor
      · rintro rfl
        revert blank
        decide
      · intro plain
        exact absurd (plain.1.symm.trans blank) empty
    · rw [if_neg blank]
      exact ⟨fun same => ⟨same.symm, empty⟩, fun plain => plain.1.symm⟩

section Fields

variable (env : Env) (lineId : String) (sessionId : Option String) (row : Doc) (commands : List IssuedReview)

/-- The two sides agree on a field. -/
def AgreesOn (name : String) : Prop :=
  (overlayCountLineReviewState row (projectedReview lineId sessionId commands)).get name =
    (reviewedRow env row commands).get name

/-- The two sides agree on a field that both wrote for the last time with this command. -/
def IssuedReview.Shows (issued : IssuedReview) (name : String) : Prop :=
  (((clientEntries issued).lookup name).join).getD (row.get name) =
    ((transitionEntries env issued).lookup name).getD (row.get name)

variable {env lineId sessionId row commands}

theorem shown_last (member : name ∈ reviewFieldNames)
    (each : ∀ issued, ((clientEntries issued).lookup name).isSome = kind issued.command) :
    (overlayCountLineReviewState row (projectedReview lineId sessionId commands)).get name =
      ((lastReview kind commands).bind fun issued => ((clientEntries issued).lookup name).join).getD
        (row.get name) := by
  rw [shown_get lineId sessionId row commands member, findSome_lastReview each]
  cases lastReview kind commands with
  | none => rfl
  | some issued => rfl

theorem reviewed_last (each : ∀ issued, ((transitionEntries env issued).lookup name).isSome = kind issued.command) :
    (reviewedRow env row commands).get name =
      ((lastReview kind commands).bind fun issued => (transitionEntries env issued).lookup name).getD
        (row.get name) := by
  rw [reviewedRow_get, findSome_lastReview each]

theorem transition_decides (member : name ∈ ["status", "approval_status", "approved_by", "approved_at", "approval_note",
      "rejected_by", "rejected_at", "rejection_reason", "assigned_to"]) (issued : IssuedReview) :
    ((transitionEntries env issued).lookup name).isSome = issued.command.isDecision := by
  rcases issued with ⟨command, username, at_⟩
  simp only [List.mem_cons, List.not_mem_nil, or_false] at member
  rcases member with rfl | rfl | rfl | rfl | rfl | rfl | rfl | rfl | rfl
  all_goals
    cases command
    all_goals rfl

theorem client_decides (member : name ∈ ["status", "approval_status", "rejected_by", "rejected_at", "rejection_reason"])
    (issued : IssuedReview) : ((clientEntries issued).lookup name).isSome = issued.command.isDecision := by
  rcases issued with ⟨command, username, at_⟩
  simp only [List.mem_cons, List.not_mem_nil, or_false] at member
  rcases member with rfl | rfl | rfl | rfl | rfl
  all_goals
    cases command
    all_goals rfl

theorem client_approves (member : name ∈ ["approved_by", "approved_at", "approval_note"]) (issued : IssuedReview) :
    ((clientEntries issued).lookup name).isSome = issued.command.isApproval := by
  rcases issued with ⟨command, username, at_⟩
  rcases mem_three.mp member with rfl | rfl | rfl
  all_goals
    cases command
    all_goals rfl

theorem client_assigns (issued : IssuedReview) :
    ((clientEntries issued).lookup "assigned_to").isSome = issued.command.assigns := by
  rcases issued with ⟨command, username, at_⟩
  cases command
  all_goals rfl

theorem client_checks (member : name ∈ ["verified", "verified_by", "verified_at"])
    (issued : IssuedReview) : ((clientEntries issued).lookup name).isSome = issued.command.isCheck ∧
      ((transitionEntries env issued).lookup name).isSome = issued.command.isCheck := by
  rcases issued with ⟨command, username, at_⟩
  rcases mem_three.mp member with rfl | rfl | rfl
  all_goals
    cases command
    all_goals exact ⟨rfl, rfl⟩

section

variable {other : ReviewCommand → Bool} (member : name ∈ reviewFieldNames)
  (client : ∀ issued, ((clientEntries issued).lookup name).isSome = other issued.command)
  (server : ∀ issued, ((transitionEntries env issued).lookup name).isSome = kind issued.command)
include member client server

theorem agreesOn_last (here : lastReview other commands = some issued) (last : lastReview kind commands = some issued) :
    AgreesOn env lineId sessionId row commands name ↔ issued.Shows env row name := by
  rw [AgreesOn, shown_last member client, reviewed_last server, here, last]
  rfl

theorem agreesOn_untouched (here : lastReview other commands = none)
    (last : lastReview kind commands = none) : AgreesOn env lineId sessionId row commands name := by
  rw [AgreesOn, shown_last member client, reviewed_last server, here, last]
  rfl

end

end Fields

def approvalNames : List String := ["approved_by", "approved_at", "approval_note"]

def rejectionNames : List String := ["rejected_by", "rejected_at", "rejection_reason"]

def verificationNames : List String := ["verified_by", "verified_at"]

def RowBlank (row : Doc) (names : List String) : Prop := ∀ name ∈ names, row.get name = .null

/-- What a note of an approval may be: a plain text, or nothing where the row has none either. -/
def NoteShows (row : Doc) : Option String → Prop
  | some note => plainText note
  | none => row.get "approval_note" = .null

/-- The last decision is shown as it was taken. -/
def DecisionShows (row : Doc) (commands : List IssuedReview) (issued : IssuedReview) : Prop :=
  match issued.command with
  | .approve notes =>
    plainText issued.username ∧ NoteShows row notes ∧ RowBlank row rejectionNames ∧ RowBlank row ["assigned_to"]
  | .reject notes =>
    plainText issued.username ∧ (∃ note, notes = some note ∧ plainText note) ∧
      (∀ other ∈ commands, other.command.assigns = false) ∧ RowBlank row approvalNames ∧ RowBlank row ["assigned_to"]
  | .assignRecount notes assignTo =>
    plainText issued.username ∧ (∃ note, notes = some note ∧ plainText note) ∧
      (∀ other ∈ commands, other.command.isApproval = false) ∧ RowBlank row approvalNames ∧ plainText assignTo
  | _ => True

/-- The last verification, or its withdrawal, is shown. -/
def CheckShows (row : Doc) (issued : IssuedReview) : Prop :=
  match issued.command with
  | .verify => plainText issued.username
  | _ => RowBlank row verificationNames

/-- Nothing older shows through what was cleared, and every text is stored as it was typed. -/
def ReviewShows (row : Doc) (commands : List IssuedReview) : Prop :=
  (∀ issued ∈ lastReview ReviewCommand.isDecision commands, DecisionShows row commands issued) ∧
    ∀ issued ∈ lastReview ReviewCommand.isCheck commands, CheckShows row issued

variable {notes : Option String}

theorem rejectionReason_plain : Value.str (notes.getD "Supervisor requested recount") =
        normalizeReason ((optionalText notes).orElse (Value.null.orElse .null)) ↔
      ∃ note, notes = some note ∧ plainText note := by
  cases notes with
  | none =>
    constructor
    · nofun
    · rintro ⟨_, absent, _⟩
      cases absent
  | some note =>
    by_cases empty : note = ""
    · subst empty
      constructor
      · nofun
      · rintro ⟨_, same, plain⟩
        cases same
        exact absurd rfl plain.2
    · have kept : (optionalText (some note)).orElse (Value.null.orElse .null) = .str note := by
        rw [Value.orElse, optionalText, Value.truthy_str, if_pos (bne_iff_ne.mpr empty)]
      rw [kept, Option.getD_some, eq_comm, normalizeReason_plain]
      constructor
      · intro plain
        exact ⟨note, rfl, plain⟩
      · rintro ⟨_, same, plain⟩
        cases same
        exact plain

theorem noteShows_iff {row : Doc} :
    (notes.map Value.str).getD (row.get "approval_note") = normalizeReason (optionalText notes) ↔
      NoteShows row notes := by
  cases notes with
  | none => exact Iff.rfl
  | some note =>
    change Value.str note = normalizeReason (.str note) ↔ plainText note
    rw [eq_comm, normalizeReason_plain]

section Groups

variable {env : Env} {lineId : String} {sessionId : Option String} {row : Doc}

theorem agreesOn_status (member : name ∈ ["status", "approval_status"]) :
    AgreesOn env lineId sessionId row commands name := by
  have shown : name ∈ reviewFieldNames := List.mem_append_left _ member
  have client : ∀ issued, ((clientEntries issued).lookup name).isSome = issued.command.isDecision :=
    client_decides (List.mem_append_left _ member)
  have server : ∀ issued, ((transitionEntries env issued).lookup name).isSome = issued.command.isDecision :=
    transition_decides (List.mem_append_left _ member)
  cases last : lastReview ReviewCommand.isDecision commands with
  | none => exact agreesOn_untouched shown client server last last
  | some issued =>
    rw [agreesOn_last shown client server last last]
    have decides := lastReview_kind last
    rcases issued with ⟨command, username, at_⟩
    rcases List.mem_pair.mp member with rfl | rfl
    all_goals
      cases command
      all_goals rfl

section

variable (last : lastReview ReviewCommand.isDecision commands = some issued)
include last

/-- The rejection, where the last decision is this one. -/
theorem agreesOn_rejection :
    (∀ name ∈ rejectionNames, AgreesOn env lineId sessionId row commands name) ↔
      match issued.command with
      | .approve _ => RowBlank row rejectionNames
      | .reject notes | .assignRecount notes _ =>
        plainText issued.username ∧ ∃ note, notes = some note ∧ plainText note
      | _ => True := by
  have each : ∀ name ∈ rejectionNames,
      (AgreesOn env lineId sessionId row commands name ↔ issued.Shows env row name) := by
    intro name member
    rcases mem_three.mp member with rfl | rfl | rfl
    all_goals exact agreesOn_last (by decide) (client_decides (by decide)) (transition_decides (by decide)) last last
  rw [forall₂_congr each]
  have decides := lastReview_kind last
  have actor := @clientActor_plain issued
  rcases issued with ⟨command, username, at_⟩
  simp only [rejectionNames, List.forall_mem_cons, List.not_mem_nil, false_imp_iff, implies_true, and_true]
  cases command with
  | approve notes =>
    change _ ↔ RowBlank row ["rejected_by", "rejected_at", "rejection_reason"]
    rw [RowBlank, List.forall_mem_cons, List.forall_mem_cons, List.forall_mem_singleton]
    exact Iff.rfl
  | reject notes | assignRecount notes assignTo =>
    change Value.str _ = .str _ ∧ Value.date at_ = .date at_ ∧ Value.str _ = normalizeReason _ ↔
      plainText username ∧ ∃ note, notes = some note ∧ plainText note
    rw [Value.str.injEq, ← rejectionReason_plain, ← actor]
    exact ⟨fun all => ⟨all.1, all.2.2⟩, fun all => ⟨all.1, rfl, all.2⟩⟩
  | verify => cases decides
  | unverify => cases decides

/-- The approval, where the last decision approves. -/
theorem agreesOn_approved
    (approves : issued.command = .approve notes) :
    (∀ name ∈ approvalNames, AgreesOn env lineId sessionId row commands name) ↔
      plainText issued.username ∧ NoteShows row notes := by
  have here : lastReview ReviewCommand.isApproval commands = some issued := by
    apply lastReview_narrow ReviewCommand.isDecision_of_isApproval last
    rw [approves]
    rfl
  have each : ∀ name ∈ approvalNames,
      (AgreesOn env lineId sessionId row commands name ↔ issued.Shows env row name) := by
    intro name member
    rcases mem_three.mp member with rfl | rfl | rfl
    all_goals exact agreesOn_last (by decide) (client_approves (by decide)) (transition_decides (by decide)) here last
  rw [forall₂_congr each]
  have actor := @clientActor_plain issued
  rcases issued with ⟨command, username, at_⟩
  cases approves
  simp only [approvalNames, List.forall_mem_cons, List.not_mem_nil, false_imp_iff, implies_true, and_true]
  change Value.str _ = .str _ ∧ Value.date at_ = .date at_ ∧
    (notes.map Value.str).getD _ = normalizeReason (optionalText notes) ↔ _
  rw [Value.str.injEq, actor, noteShows_iff]
  exact ⟨fun all => ⟨all.1, all.2.2⟩, fun all => ⟨all.1, rfl, all.2⟩⟩

/-- The approval, where the last decision rejects: the server has cleared it, and the client shows
the last one it knows of. -/
theorem agreesOn_unapproved
    (rejects : issued.command.isApproval = false) :
    (∀ name ∈ approvalNames, AgreesOn env lineId sessionId row commands name) ↔
      (∀ other ∈ commands, other.command.isApproval = false) ∧ RowBlank row approvalNames := by
  have cleared : ∀ name ∈ approvalNames, (reviewedRow env row commands).get name = .null := by
    have decides := lastReview_kind last
    intro name member
    rcases issued with ⟨command, username, at_⟩
    rcases mem_three.mp member with rfl | rfl | rfl
    all_goals
      rw [reviewed_last (transition_decides (by decide)), last]
      cases command with
      | approve notes => cases rejects
      | reject notes => rfl
      | verify => cases decides
      | unverify => cases decides
      | assignRecount notes assignTo => rfl
  have shown : ∀ name ∈ approvalNames, (AgreesOn env lineId sessionId row commands name ↔
        ((lastReview ReviewCommand.isApproval commands).bind fun issued =>
          ((clientEntries issued).lookup name).join).getD (row.get name) = .null) := by
    intro name member
    rw [AgreesOn, cleared name member]
    rcases mem_three.mp member with rfl | rfl | rfl
    all_goals rw [shown_last (by decide) (client_approves (by decide))]
  rw [forall₂_congr shown, ← lastReview_none]
  cases older : lastReview ReviewCommand.isApproval commands with
  | none => exact ⟨fun blank => ⟨rfl, blank⟩, fun both => both.2⟩
  | some approval =>
    -- The approver's name stays on the client's screen.
    have approves := lastReview_kind older
    rcases approval with ⟨command, username, at_⟩
    constructor
    · intro all
      have name := all "approved_by" (by decide)
      cases command with
      | approve notes => cases name
      | _ => cases approves
    · rintro ⟨absent, _⟩
      cases absent

/-- The assignment. -/
theorem agreesOn_assignment
    (unapproved : issued.command.isApproval = false → ∀ other ∈ commands, other.command.isApproval = false) :
    AgreesOn env lineId sessionId row commands "assigned_to" ↔
      match issued.command with
      | .assignRecount _ assignTo => plainText assignTo
      | .reject _ => (∀ other ∈ commands, other.command.assigns = false) ∧ RowBlank row ["assigned_to"]
      | _ => RowBlank row ["assigned_to"] := by
  have decides := lastReview_kind last
  have narrow := lastReview_narrow ReviewCommand.isDecision_of_assigns last
  have server := @transition_decides "assigned_to" env (by decide)
  rcases issued with ⟨command, username, at_⟩
  cases command with
  | approve notes =>
    rw [agreesOn_last (by decide) client_assigns server (narrow rfl) last]
    change _ ↔ RowBlank row ["assigned_to"]
    rw [RowBlank, List.forall_mem_singleton]
    exact Iff.rfl
  | reject notes =>
    change _ ↔ _ ∧ RowBlank row ["assigned_to"]
    rw [AgreesOn, shown_last (by decide) client_assigns, reviewed_last server, last, ← lastReview_none, RowBlank,
      List.forall_mem_singleton]
    cases older : lastReview ReviewCommand.assigns commands with
    | none => exact ⟨fun blank => ⟨rfl, blank⟩, fun both => both.2⟩
    | some assignment =>
      have assigning := lastReview_kind older
      have member : assignment ∈ commands := by
        obtain ⟨_, newer, older, split, _⟩ := List.find?_eq_some_iff_append.mp older
        rw [← List.mem_reverse, split]
        exact List.mem_append_right _ (List.mem_cons_self ..)
      have plain := unapproved rfl assignment member
      rcases assignment with ⟨command, username, at_⟩
      constructor
      · intro same
        cases command with
        | approve notes => cases plain
        | assignRecount notes assignTo => cases same
        | _ => cases assigning
      · rintro ⟨absent, _⟩
        cases absent
  | verify => cases decides
  | unverify => cases decides
  | assignRecount notes assignTo =>
    rw [agreesOn_last (by decide) client_assigns server (narrow rfl) last]
    change Value.str assignTo = normalizeReason (.str assignTo) ↔ plainText assignTo
    rw [eq_comm, normalizeReason_plain]

end

/-- Where nobody decided, nothing of a decision differs. -/
theorem agreesOn_undecided (undecided : lastReview ReviewCommand.isDecision commands = none)
    (member : name ∈ approvalNames ++ rejectionNames ++ ["assigned_to"]) :
    AgreesOn env lineId sessionId row commands name := by
  have approvals := lastReview_none_narrow ReviewCommand.isDecision_of_isApproval undecided
  have assignments := lastReview_none_narrow ReviewCommand.isDecision_of_assigns undecided
  rcases List.mem_append.mp member with others | assignment
  · rcases List.mem_append.mp others with approval | rejection
    · apply agreesOn_untouched (List.mem_append_left _ (List.mem_append_right ["status", "approval_status"] approval))
        (client_approves approval) _ approvals undecided
      apply transition_decides
      exact List.mem_append_left _ (List.mem_append_right ["status", "approval_status"] approval)
    · rcases mem_three.mp rejection with rfl | rfl | rfl
      all_goals
        exact agreesOn_untouched (by decide) (client_decides (by decide)) (transition_decides (by decide)) undecided
          undecided
  · cases List.mem_singleton.mp assignment
    exact agreesOn_untouched (by decide) client_assigns (transition_decides (by decide)) assignments undecided

/-- The decision as a whole. -/
theorem agreesOn_decision :
    (∀ name ∈ approvalNames ++ rejectionNames ++ ["assigned_to"], AgreesOn env lineId sessionId row commands name) ↔
      ∀ issued ∈ lastReview ReviewCommand.isDecision commands, DecisionShows row commands issued := by
  cases last : lastReview ReviewCommand.isDecision commands with
  | none =>
    constructor
    · nofun
    · intro _ name member
      exact agreesOn_undecided last member
  | some issued =>
    have rejection := @agreesOn_rejection issued commands env lineId sessionId row last
    have assignment := @agreesOn_assignment issued commands env lineId sessionId row last
    simp only [List.forall_mem_append, List.forall_mem_singleton, Option.mem_some_iff, forall_eq', rejection]
    have decides := lastReview_kind last
    rcases issued with ⟨command, username, at_⟩
    cases command with
    | approve notes =>
      have assigned := assignment (fun approves => nomatch approves)
      rw [agreesOn_approved last rfl, assigned]
      exact ⟨fun all => ⟨all.1.1.1, all.1.1.2, all.1.2, all.2⟩, fun all => ⟨⟨⟨all.1, all.2.1⟩, all.2.2.1⟩, all.2.2.2⟩⟩
    | reject notes =>
      rw [agreesOn_unapproved last rfl]
      constructor
      · rintro ⟨⟨⟨unapproved, blank⟩, named, noted⟩, assigned⟩
        obtain ⟨unassigned, free⟩ := (assignment fun _ => unapproved).mp assigned
        exact ⟨named, noted, unassigned, blank, free⟩
      · rintro ⟨named, noted, unassigned, blank, free⟩
        have unapproved : ∀ other ∈ commands, other.command.isApproval = false := by
          intro other member
          have not := unassigned other member
          cases of : other.command with
          | approve notes =>
            rw [of] at not
            cases not
          | _ => rfl
        exact ⟨⟨⟨unapproved, blank⟩, named, noted⟩, (assignment fun _ => unapproved).mpr ⟨unassigned, free⟩⟩
    | verify => cases decides
    | unverify => cases decides
    | assignRecount notes assignTo =>
      rw [agreesOn_unapproved last rfl]
      constructor
      · rintro ⟨⟨⟨unapproved, blank⟩, named, noted⟩, assigned⟩
        exact ⟨named, noted, unapproved, blank, (assignment fun _ => unapproved).mp assigned⟩
      · rintro ⟨named, noted, unapproved, blank, plain⟩
        exact ⟨⟨⟨unapproved, blank⟩, named, noted⟩, (assignment fun _ => unapproved).mpr plain⟩

/-- The verification as a whole. -/
theorem agreesOn_verification :
    (∀ name ∈ "verified" :: verificationNames, AgreesOn env lineId sessionId row commands name) ↔
      ∀ issued ∈ lastReview ReviewCommand.isCheck commands, CheckShows row issued := by
  cases last : lastReview ReviewCommand.isCheck commands with
  | none =>
    constructor
    · nofun
    · intro _ name member
      exact agreesOn_untouched (List.mem_append_right ["status", "approval_status", "approved_by", "approved_at",
        "approval_note", "rejected_by", "rejected_at", "rejection_reason", "assigned_to"] member)
        (fun issued => (@client_checks name env member issued).1) (fun issued => (client_checks member issued).2)
        last last
  | some issued =>
    have each : ∀ name ∈ "verified" :: verificationNames,
        (AgreesOn env lineId sessionId row commands name ↔ issued.Shows env row name) := by
      intro name member
      exact agreesOn_last (List.mem_append_right ["status", "approval_status", "approved_by", "approved_at",
        "approval_note", "rejected_by", "rejected_at", "rejection_reason", "assigned_to"] member)
        (fun issued => (@client_checks name env member issued).1) (fun issued => (client_checks member issued).2)
        last last
    rw [forall₂_congr each]
    simp only [Option.mem_some_iff, forall_eq', verificationNames, List.forall_mem_cons,
      List.not_mem_nil, false_imp_iff, implies_true, and_true]
    have checks := lastReview_kind last
    have actor := @clientActor_plain issued
    rcases issued with ⟨command, username, at_⟩
    have cleared : (True ∧ row.get "verified_by" = .null ∧ row.get "verified_at" = .null) ↔
        RowBlank row ["verified_by", "verified_at"] := by
      rw [true_and, RowBlank, List.forall_mem_cons, List.forall_mem_singleton]
    cases command with
    | approve notes => cases checks
    | verify =>
      change Value.bool true = .bool true ∧ Value.str _ = .str _ ∧ Value.date at_ = .date at_ ↔ plainText username
      rw [Value.str.injEq, ← actor]
      exact ⟨fun all => all.2.1, fun same => ⟨rfl, same, rfl⟩⟩
    | reject notes | unverify =>
        exact ⟨fun all => cleared.mp ⟨trivial, all.2⟩, fun blank => ⟨rfl, (cleared.mpr blank).2⟩⟩
    | assignRecount notes assignTo =>
      exact ⟨fun all => cleared.mp ⟨trivial, all.2⟩, fun blank => ⟨rfl, (cleared.mpr blank).2⟩⟩

end Groups

/-- The client shows what the server has exactly if nothing older shows through what the last
commands cleared and their texts are plain. -/
theorem review_agrees_iff (env : Env) (lineId : String) (sessionId : Option String) (row : Doc)
    (commands : List IssuedReview) : ReviewAgrees env lineId sessionId row commands ↔ ReviewShows row commands := by
  have split : reviewFieldNames = ["status", "approval_status"] ++
      ((approvalNames ++ rejectionNames ++ ["assigned_to"]) ++ ("verified" :: verificationNames)) := rfl
  change (∀ name ∈ reviewFieldNames, AgreesOn env lineId sessionId row commands name) ↔ _
  rw [split, List.forall_mem_append, List.forall_mem_append, agreesOn_decision, agreesOn_verification]
  constructor
  · intro all
    exact all.2
  · intro shows
    exact ⟨fun name member => agreesOn_status member, shows⟩

def approvedThenRejected : List IssuedReview :=
  [⟨.approve (some "checked"), "sudha", 10⟩, ⟨.reject (some "count again"), "sudha", 20⟩]

/-- After the rejection the client still shows the approver, whom the server has cleared. -/
theorem review_disagrees :
    ¬ (∀ (env : Env) (lineId : String) (sessionId : Option String) (row : Doc) (commands : List IssuedReview),
      ReviewAgrees env lineId sessionId row commands) ∧
    (overlayCountLineReviewState Doc.empty (projectedReview "l1" none approvedThenRejected)).get "approved_by" =
      .str "sudha" ∧
    (reviewedRow sampleEnv Doc.empty approvedThenRejected).get "approved_by" = .null := by
  refine ⟨?_, rfl, rfl⟩
  intro all
  have same := all sampleEnv "l1" none Doc.empty approvedThenRejected "approved_by" (by decide)
  cases same

end StockVerification
