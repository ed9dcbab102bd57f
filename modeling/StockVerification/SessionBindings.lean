import StockVerification.LocalSessions

/-!
# How long a session stays bound to its server session

The binding stands in the snapshot of the local session. Every event and every mark keeps it, and a
rebuild starts from no snapshots, so it loses the bindings of all sessions at once.
-/
namespace StockVerification

open Foundation

/-- The calls on the local session tables. -/
inductive SessionOp where
  | record (event : SessionEvent)
  | synced (eventId : String)
  | retry (eventId errorMessage : String)
  | failed (eventId errorMessage : String)
  | bind (localSessionId : String) (server : ServerSession) (now : String)
  | rebuild

section bindings

variable (upper : String → String) (iso : Int → String)

def SessionDb.step (db : SessionDb) : SessionOp → SessionDb
  | .record event => recordSessionEvent upper iso event db
  | .synced eventId => markSessionEventSynced eventId db
  | .retry eventId errorMessage => markSessionEventRetry eventId errorMessage db
  | .failed eventId errorMessage => markSessionEventFailed eventId errorMessage db
  | .bind localSessionId server now => bindServerSessionId upper localSessionId server now db
  | .rebuild => rebuildSessionProjections upper iso db

variable {upper iso} {session server : String} {db : SessionDb}

/-- A change of the snapshots that keeps which session each of them binds to which. -/
structure SameBinding (old new : ProjectedSessionSnapshot) : Prop where
  localId : new.localSessionId = old.localSessionId
  serverId : new.serverSessionId = old.serverSessionId

theorem SameBinding.serverIdOf {old new : ProjectedSessionSnapshot} (same : SameBinding old new)
    (id : String) : serverIdOf new id = serverIdOf old id := by
  rw [StockVerification.serverIdOf, StockVerification.serverIdOf, same.localId, same.serverId]

theorem applySessionEvent_binding (upper : String → String) (iso : Int → String) (event : SessionEvent)
    (old : ProjectedSessionSnapshot) (named : old.localSessionId = event.aggregateId) :
    SameBinding old (applySessionEventToSnapshot upper iso event (some old)) := by
  unfold applySessionEventToSnapshot
  split
  · exact ⟨named.symm, rfl⟩
  all_goals exact ⟨rfl, rfl⟩

theorem applySessionEvent_unbound (upper : String → String) (iso : Int → String) (event : SessionEvent) :
    (applySessionEventToSnapshot upper iso event none).localSessionId = event.aggregateId ∧
      (applySessionEventToSnapshot upper iso event none).serverSessionId = none := by
  unfold applySessionEventToSnapshot
  split
  all_goals exact ⟨rfl, rfl⟩

/-- Every snapshot that the id of a session names gives its session of the server, and there is one
unless the id itself serves. -/
structure BoundTo (session server : String) (db : SessionDb) : Prop where
  rows : ∀ snapshot ∈ db.snapshots, snapshot.localSessionId = session ∨
    snapshot.serverSessionId = some session → serverIdOf snapshot session = some server
  present : session ∈ db.snapshots.map (·.localSessionId) ∨ server = session ∧ isOfflineId session = false

section

variable (bound : BoundTo session server db)
include bound

theorem BoundTo.resolves : resolveServerSessionId db session = some server := by
  unfold resolveServerSessionId getSnapshotByAnyId
  split
  · next missing =>
    rw [List.head?_eq_none_iff] at missing
    have nobody := (List.mergeSort_perm (db.snapshots.filter fun snapshot =>
      snapshot.localSessionId = session ∨ snapshot.serverSessionId = some session)
      fun a b => decide (b.updatedAt ≤ a.updatedAt))
    rw [missing] at nobody
    have empty := List.filter_eq_nil_iff.mp nobody.symm.eq_nil
    rcases bound.present with stands | ⟨same, online⟩
    · obtain ⟨snapshot, member, named⟩ := List.mem_map.mp stands
      exact absurd (by simp [named]) (empty snapshot member)
    · rw [online, same]
      rfl
  · next snapshot found =>
    have member := List.mem_of_head? found
    rw [List.mem_mergeSort, List.mem_filter, decide_eq_true_eq] at member
    exact bound.rows snapshot member.1 member.2

/-- A snapshot that binds as the one it replaces. -/
theorem BoundTo.put {snapshot : ProjectedSessionSnapshot} (more : List String)
    (gives : snapshot.localSessionId = session ∨ snapshot.serverSessionId = some session →
      serverIdOf snapshot session = some server) :
    BoundTo session server (upsertSessionSnapshot snapshot { db with eventApplied := more }) := by
  constructor
  · intro row member named
    rcases List.mem_append.mp member with older | newer
    · exact bound.rows row (List.mem_of_mem_filter older) named
    · rw [List.mem_singleton] at newer
      subst newer
      exact gives named
  · rcases bound.present with stands | serves
    · left
      obtain ⟨row, member, named⟩ := List.mem_map.mp stands
      by_cases replaced : row.localSessionId = snapshot.localSessionId
      · apply List.mem_map.mpr
        exact ⟨snapshot, List.mem_append_right _ (List.mem_singleton.mpr rfl), replaced.symm.trans named⟩
      · apply List.mem_map.mpr
        exact ⟨row, List.mem_append_left _ (List.mem_filter.mpr ⟨member, by simpa using replaced⟩), named⟩
    · exact .inr serves

theorem BoundTo.of_snapshots {t : SessionDb} (f : ProjectedSessionSnapshot → ProjectedSessionSnapshot)
    (same : ∀ old, SameBinding old (f old)) (mapped : t.snapshots = db.snapshots.map f) : BoundTo session server t := by
  constructor
  · intro row member named
    rw [mapped] at member
    obtain ⟨old, stood, rfl⟩ := List.mem_map.mp member
    rw [(same old).serverIdOf]
    rw [(same old).localId, (same old).serverId] at named
    exact bound.rows old stood named
  · rcases bound.present with stands | serves
    · left
      obtain ⟨old, member, rfl⟩ := List.mem_map.mp stands
      rw [mapped]
      exact List.mem_map.mpr ⟨f old, List.mem_map_of_mem member, (same old).localId⟩
    · exact .inr serves

theorem BoundTo.unchanged {t : SessionDb}
    (snapshots : t.snapshots = db.snapshots) : BoundTo session server t :=
  bound.of_snapshots id (fun _ => ⟨rfl, rfl⟩) (by rw [snapshots, List.map_id])

theorem BoundTo.applySessionEvent (event : SessionEvent) :
    BoundTo session server (applySessionEvent upper iso event db) := by
  unfold StockVerification.applySessionEvent
  split
  · exact bound
  · apply bound.put
    intro named
    cases found : snapshotByLocalId db event.aggregateId with
    | some old =>
      obtain ⟨member, local_⟩ := Table.mem_of_find found
      have same := applySessionEvent_binding upper iso event old local_
      rw [found, same.localId, same.serverId] at named
      rw [same.serverIdOf]
      exact bound.rows old member named
    | none =>
      obtain ⟨localId, unbound⟩ := applySessionEvent_unbound upper iso event
      rw [found, localId, unbound] at named
      rcases named with mine | other
      · -- the session has no snapshot, so its own id serves
        have missing := Table.find_eq_none.mp found
        rcases bound.present with stands | ⟨serves, online⟩
        · rw [mine] at missing
          exact absurd stands missing
        · rw [serverIdOf, unbound, localId, mine, online, serves]
          rfl
      · cases other

theorem BoundTo.record (event : SessionEvent) :
    BoundTo session server (recordSessionEvent upper iso event db) := by
  unfold recordSessionEvent
  split
  · exact bound
  · apply BoundTo.applySessionEvent
    exact bound.unchanged rfl

theorem BoundTo.refresh (id : String) :
    BoundTo session server (refreshSnapshotSyncStatus id db) := by
  unfold refreshSnapshotSyncStatus
  dsimp only
  split
  · exact bound
  · apply bound.of_snapshots _ _ rfl
    intro old
    split
    · exact ⟨rfl, rfl⟩
    · exact ⟨rfl, rfl⟩

theorem BoundTo.refreshOf (eventId : String) :
    BoundTo session server (refreshSessionOf eventId db) := by
  unfold refreshSessionOf
  split
  · exact bound
  · split
    · exact bound
    · exact bound.refresh _

end

theorem firstFilled_one {text : String} (filled : text ≠ "") : firstFilled [some text] = some text := by
  simp [firstFilled, Option.filter, filled]

theorem firstFilled_filled {texts : List (Option String)} {text : String}
    (found : firstFilled texts = some text) : text ≠ "" := by
  obtain ⟨option, _, kept⟩ := List.exists_of_findSome?_eq_some found
  have filled := (Option.filter_eq_some_iff.mp kept).2
  simpa using filled

/-- An answer names the server session again, or no session; an answer for another session does not
name this one. -/
def AnswerKeeps (session server bindsTo : String) (answer : ServerSession) : Prop :=
  if bindsTo = session then answer.boundId = none ∨ answer.boundId = some server
  else answer.boundId = some session → server = session

theorem BoundTo.bind {answer : ServerSession} {other now : String}
    (bound : BoundTo session server db) (keeps : AnswerKeeps session server other answer) :
    BoundTo session server (bindServerSessionId upper other answer now db) := by
  unfold bindServerSessionId
  split
  · exact bound
  · next old found =>
    obtain ⟨member, local_⟩ := Table.mem_of_find found
    apply bound.put db.eventApplied
    intro named
    change old.localSessionId = session ∨ answer.boundId.or old.serverSessionId = some session at named
    change (firstFilled [answer.boundId.or old.serverSessionId]).or _ = some server
    have before := bound.rows old member
    unfold AnswerKeeps at keeps
    cases answered : answer.boundId with
    | none =>
      rw [answered, Option.none_or] at named
      exact before named
    | some id =>
      have filled : id ≠ "" := firstFilled_filled answered
      rw [answered, Option.some_or] at named
      rw [answered] at keeps
      rw [Option.some_or, firstFilled_one filled, Option.some_or]
      by_cases mine : other = session
      · rw [if_pos mine] at keeps
        rcases keeps with missing | again
        · cases missing
        · exact again
      · rw [if_neg mine] at keeps
        rcases named with localId | serverId
        · exact absurd (local_.symm.trans localId) mine
        · rw [serverId, keeps serverId]

theorem rebuild_unbound {snapshot : ProjectedSessionSnapshot}
    (member : snapshot ∈ (rebuildSessionProjections upper iso db).snapshots) : snapshot.serverSessionId = none := by
  have replay : ∀ (events : List SessionEvent) (s : SessionDb), (∀ row ∈ s.snapshots, row.serverSessionId = none) →
      ∀ row ∈ (events.foldl (fun db event => applySessionEvent upper iso event db) s).snapshots,
        row.serverSessionId = none := by
    intro events
    induction events with
    | nil =>
      intro s unbound
      exact unbound
    | cons event rest ih =>
      intro s unbound
      apply ih
      intro row stands
      change row ∈ (applySessionEvent upper iso event s).snapshots at stands
      unfold applySessionEvent at stands
      split at stands
      · exact unbound row stands
      · rcases List.mem_append.mp stands with older | newer
        · exact unbound row (List.mem_of_mem_filter older)
        · rw [List.mem_singleton] at newer
          subst newer
          cases found : snapshotByLocalId s event.aggregateId with
          | none => exact (applySessionEvent_unbound upper iso event).2
          | some old =>
            obtain ⟨stood, local_⟩ := Table.mem_of_find found
            rw [(applySessionEvent_binding upper iso event old local_).serverId]
            exact unbound old stood
  apply replay _ _ _ _ member
  intro row none
  cases none

theorem BoundTo.rebuilt (online : isOfflineId session = false) :
    BoundTo session session (rebuildSessionProjections upper iso db) := by
  constructor
  · intro snapshot member named
    have unbound := rebuild_unbound member
    rcases named with localId | serverId
    · rw [serverIdOf, unbound, localId, online]
      rfl
    · rw [unbound] at serverId
      cases serverId
  · exact .inr ⟨rfl, online⟩

/-- A step after the binding that does not undo it. -/
def KeepsBinding (session server : String) : SessionOp → Prop
  | .bind other answer _ => AnswerKeeps session server other answer
  | .rebuild => server = session ∧ isOfflineId session = false
  | _ => True

theorem BoundTo.step {op : SessionOp} (bound : BoundTo session server db)
    (keeps : KeepsBinding session server op) : BoundTo session server (db.step upper iso op) := by
  cases op with
  | record event => exact bound.record event
  | synced eventId | retry eventId errorMessage =>
    apply BoundTo.refreshOf
    exact bound.unchanged rfl
  | failed eventId errorMessage => exact bound.unchanged rfl
  | bind other answer now => exact bound.bind keeps
  | rebuild =>
    obtain ⟨rfl, online⟩ := keeps
    exact BoundTo.rebuilt online

/-- No other local session is bound to the id of this one, unless that is its server session. -/
def NamedAlone (session server : String) (db : SessionDb) : Prop :=
  ∀ snapshot ∈ db.snapshots, snapshot.localSessionId ≠ session →
    snapshot.serverSessionId = some session → server = session

theorem BoundTo.bound {answer : ServerSession} {now : String} (stands : (snapshotByLocalId db session).isSome)
    (named : answer.boundId = some server) (alone : NamedAlone session server db) :
    BoundTo session server (bindServerSessionId upper session answer now db) := by
  obtain ⟨old, found⟩ := Option.isSome_iff_exists.mp stands
  obtain ⟨member, local_⟩ := Table.mem_of_find found
  have filled : server ≠ "" := firstFilled_filled named
  rw [bindServerSessionId, found]
  constructor
  · intro row written keyed
    rcases List.mem_append.mp written with older | newer
    · rw [List.mem_filter, decide_eq_true_eq] at older
      have other : row.localSessionId ≠ session := by
        intro same
        exact older.2 (same.trans local_.symm)
      rcases keyed with same | serverId
      · exact absurd same other
      · have same := alone row older.1 other serverId
        rw [same] at filled ⊢
        rw [serverIdOf, serverId, firstFilled_one filled]
        rfl
    · rw [List.mem_singleton] at newer
      subst newer
      change (firstFilled [answer.boundId.or old.serverSessionId]).or _ = some server
      rw [named, Option.some_or, firstFilled_one filled]
      rfl
  · left
    apply List.mem_map.mpr
    exact ⟨boundSnapshot upper answer now old, List.mem_append_right _ (List.mem_singleton.mpr rfl), local_⟩

/-- A binding stays through every run whose rebuilds leave it and whose answers do not bind the
session anew or another session to its id. -/
theorem binding_permanent (upper : String → String) (iso : Int → String) (session server now : String)
    (answer : ServerSession) (db last : SessionDb) (stands : (snapshotByLocalId db session).isSome)
    (named : answer.boundId = some server) (alone : NamedAlone session server db)
    (run : Reaches (SessionDb.step upper iso) (fun _ op => KeepsBinding session server op)
      (db.step upper iso (.bind session answer now)) last) :
    resolveServerSessionId last session = some server := by
  have bound := run.invariant (P := BoundTo session server) (BoundTo.bound stands named alone)
    fun _ _ before keeps => before.step keeps
  exact bound.resolves

end bindings

def startEvent (id session : String) : SessionEvent where
  id := id
  aggregateId := session
  payload := .started "W" "STANDARD" none none none "u" "U" "OPEN" "t"
  idempotencyKey := id
  ts := 0

def startedSession : SessionDb := SessionDb.step id (fun _ => "t") {} (.record (startEvent "a" "offline_1"))

def serverAnswer : ServerSession := { id := some "srv" }

/-- Another session's rejected event, and the rebuild that follows it. -/
def otherRejected : List SessionOp :=
  [.record (startEvent "b" "offline_2"), .failed "b" "rejected", .rebuild]

theorem binding_lost :
    (¬ ∀ (session server now : String) (answer : ServerSession) (db last : SessionDb),
        Reaches (SessionDb.step id fun _ => "t") (fun _ _ => True) {} db →
        (snapshotByLocalId db session).isSome → answer.boundId = some server →
        Reaches (SessionDb.step id fun _ => "t") (fun _ _ => True)
          (db.step id (fun _ => "t") (.bind session answer now)) last →
        resolveServerSessionId last session = some server) ∧
      resolveServerSessionId (startedSession.step id (fun _ => "t") (.bind "offline_1" serverAnswer "t")) "offline_1" =
        some "srv" ∧
      resolveServerSessionId
        (otherRejected.foldl (SessionDb.step id fun _ => "t")
          (startedSession.step id (fun _ => "t") (.bind "offline_1" serverAnswer "t"))) "offline_1" = none := by
  have lost : resolveServerSessionId
      (otherRejected.foldl (SessionDb.step id fun _ => "t")
        (startedSession.step id (fun _ => "t") (.bind "offline_1" serverAnswer "t"))) "offline_1" = none := by
    decide +kernel
  refine ⟨?_, by decide +kernel, lost⟩
  intro all
  have kept := all "offline_1" "srv" "t" serverAnswer startedSession _ (.next _ .start trivial) (by decide +kernel)
    (by decide +kernel) (Reaches.foldl fun _ (op : SessionOp) (_ : op ∈ otherRejected) => trivial)
  rw [lost] at kept
  cases kept

theorem binding_permanent_sample :
    resolveServerSessionId
      ([SessionOp.record (startEvent "b" "offline_2"), .bind "offline_2" { id := some "other" } "t",
          .failed "b" "rejected", .synced "a"].foldl
        (SessionDb.step id fun _ => "t") (startedSession.step id (fun _ => "t") (.bind "offline_1" serverAnswer "t")))
      "offline_1" = some "srv" := by
  apply binding_permanent id (fun _ => "t") "offline_1" "srv" "t" serverAnswer startedSession
  · decide +kernel
  · decide +kernel
  · intro snapshot member other bound
    have only : snapshot ∈ startedSession.snapshots := member
    have unbound : ∀ row ∈ startedSession.snapshots, row.serverSessionId = none := by decide +kernel
    rw [unbound snapshot only] at bound
    cases bound
  · apply Reaches.foldl
    intro _ op member
    rcases mem_four.mp member with rfl | rfl | rfl | rfl
    · trivial
    · change AnswerKeeps _ _ _ _
      unfold AnswerKeeps
      decide +kernel
    · trivial
    · trivial

end StockVerification
