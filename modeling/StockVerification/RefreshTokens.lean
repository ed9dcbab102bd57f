import StockVerification.Foundation.Interleaving
import StockVerification.Foundation.Records

/-!
# Refresh tokens

Source: backend/services/refresh_token.py:97-281, and the logout of
backend/api/auth_routes.py:1371-1410.

Logins, refreshes and revocations of one user's tokens interleave. Between them the records may be
cleaned up by other users' logins, or deleted by a password reset. Times are in milliseconds, as the
database keeps them.
-/
namespace StockVerification

open Foundation

/-- What the service takes from its surroundings: the tokens in the order they are made, the hash
they are stored under, which tokens decode at a time, and for how long a login lasts. -/
structure RefreshSource where
  createRefreshToken : Nat → String
  fresh : Function.Injective createRefreshToken
  hashToken : String → String
  collisionFree : Function.Injective hashToken
  decodes : Int → String → Bool
  expireDays : Int

/-- A document of `refresh_tokens` of the user, without the stamps and the device. Older ones hold
the token itself. -/
structure RefreshRecord where
  id : Nat
  tokenHash : Option String
  token : Option String := none
  expiresAt : Int
  revoked : Bool := false
  graceUntil : Option Int := none

/-- The records, the clock, how many tokens were made and how many records were inserted. The tokens
that were ever stored are kept with the latest first, and so are the exchanges, each with the token
that was given and the one that came for it. -/
structure RefreshState where
  clock : Int
  drawn : Nat := 0
  inserted : Nat := 0
  records : List RefreshRecord := []
  issued : List String := []
  exchanges : List (String × String) := []

/-- A token that is given for a new one, and how many exchanges were made when it was verified. -/
structure Rotation where
  token : String
  seen : Nat

inductive RefreshRequest where
  | login
  | refresh (token : String)
  | logout (token : String)
  | revoke (token : String)
  | revokeAll (graceSeconds : Int)
  | deleteAll
  | cleanUp
  | setClock (time : Int)

inductive RefreshTask where
  | find (token : String) (isLogout : Bool)
  | migrate (id : Nat) (isLogout : Bool) (rotation : Rotation)
  | storeRevoke (rotation : Option Rotation)
  | insert (token : String) (expiresAt : Int) (rotation : Option Rotation) (revokedAt : Nat)
  | cleanUp (rotation : Option Rotation)
  | revoke (token : String)
  | revokeAll (graceSeconds : Int)
  | deleteAll
  | setClock (time : Int)

def startRefresh (_ : RefreshState) : RefreshRequest → Option RefreshTask
  | .login => some (.storeRevoke none)
  | .refresh token => some (.find token false)
  | .logout token => some (.find token true)
  | .revoke token => some (.revoke token)
  | .revokeAll graceSeconds => some (.revokeAll graceSeconds)
  | .deleteAll => some .deleteAll
  | .cleanUp => some (.cleanUp none)
  | .setClock time => some (.setClock time)

namespace RefreshRecord

def active (clock : Int) (record : RefreshRecord) : Bool := !record.revoked && decide (clock < record.expiresAt)

/-- The filter of `_cleanup_expired_tokens`. -/
def stale (clock : Int) (record : RefreshRecord) : Bool :=
  record.graceUntil.all (· ≤ clock) && (decide (record.expiresAt < clock) || record.revoked)

/-- One record of `revoke_all_user_tokens`. -/
def revokeAll (clock graceSeconds : Int) (record : RefreshRecord) : RefreshRecord :=
  if record.revoked then record
  else { record with
    revoked := true
    graceUntil := if 0 < graceSeconds then some (clock + graceSeconds * 1000) else record.graceUntil }

end RefreshRecord

/-- `revoke_all_user_tokens`. -/
def RefreshState.revokeAll (s : RefreshState) (graceSeconds : Int) : RefreshState :=
  { s with records := s.records.map (RefreshRecord.revokeAll s.clock graceSeconds) }

/-- `_cleanup_expired_tokens`. -/
def RefreshState.cleanUp (s : RefreshState) : RefreshState :=
  { s with records := s.records.filter fun record => !record.stale s.clock }

section

variable (source : RefreshSource)

def RefreshRecord.isOf (token : String) (record : RefreshRecord) : Bool :=
  record.tokenHash == some (source.hashToken token) || record.token == some token

/-- The lookup of `verify_refresh_token`. -/
def RefreshState.verify (s : RefreshState) (token : String) : Option RefreshRecord :=
  if source.decodes s.clock token then
    s.records.find? fun record => record.isOf source token && record.active s.clock
  else none

/-- The migration of a record that holds the token itself. It is left out when the index refuses
it. -/
def RefreshState.migrate (s : RefreshState) (id : Nat) (token : String) : RefreshState :=
  if s.records.any (·.tokenHash == some (source.hashToken token)) then s
  else { s with
    records := updateFirst (·.id == id)
      (fun record => { record with tokenHash := some (source.hashToken token), token := none }) s.records }

/-- `revoke_token`. -/
def RefreshState.revoke (s : RefreshState) (token : String) : RefreshState :=
  { s with
    records := updateFirst (RefreshRecord.isOf source token)
      (fun record => { record with revoked := true }) s.records }

/-- The insertion of `_store_refresh_token`, where the index on the hash refuses a second one. -/
def RefreshState.insert (s : RefreshState) (token : String) (expiresAt : Int)
    (rotation : Option Rotation) : Option RefreshState :=
  if s.records.any (·.tokenHash == some (source.hashToken token)) then none
  else some { s with
    inserted := s.inserted + 1
    records := s.records ++ [{ id := s.inserted, tokenHash := some (source.hashToken token), expiresAt := expiresAt }]
    issued := token :: s.issued
    exchanges := match rotation with
      | some given => (given.token, token) :: s.exchanges
      | none => s.exchanges }

def afterVerify (isLogout : Bool) (rotation : Rotation) : RefreshTask :=
  if isLogout then .revoke rotation.token else .storeRevoke (some rotation)

def dayMilliseconds : Int := 24 * 60 * 60 * 1000

/-- `refresh_token_expiry`, which logins take from the settings instead. -/
def refreshDays (rotation : Option Rotation) : Int := if rotation.isSome then 30 else source.expireDays

/-- One call goes on. -/
def resumeRefresh (s : RefreshState) : RefreshTask → RefreshState × Option RefreshTask
  | .find token isLogout =>
    match s.verify source token with
    | none => (s, none)
    | some record =>
      (s, some (if record.token = some token ∧ record.tokenHash = none then
          .migrate record.id isLogout { token := token, seen := s.exchanges.length }
        else afterVerify isLogout { token := token, seen := s.exchanges.length }))
  | .migrate id isLogout rotation => (s.migrate source id rotation.token, some (afterVerify isLogout rotation))
  | .storeRevoke rotation =>
    ({ s.revokeAll 10 with drawn := s.drawn + 1 },
      some (.insert (source.createRefreshToken s.drawn) (s.clock + refreshDays source rotation * dayMilliseconds)
        rotation s.inserted))
  | .insert token expiresAt rotation _ =>
    match s.insert source token expiresAt rotation with
    | none => (s, none)
    | some after => (after, some (.cleanUp rotation))
  | .cleanUp rotation => (s.cleanUp, rotation.map fun given => .revoke given.token)
  | .revoke token => (s.revoke source token, none)
  | .revokeAll graceSeconds => (s.revokeAll graceSeconds, none)
  | .deleteAll => ({ s with records := [] }, none)
  | .setClock time => ({ s with clock := time }, none)

abbrev RefreshCalls := Concurrent RefreshState RefreshTask

abbrev RefreshCalls.step : RefreshCalls → Move RefreshRequest → RefreshCalls :=
  Concurrent.step startRefresh (resumeRefresh source)

end

/-- No token is exchanged twice, and one token at most is unrevoked and unexpired. -/
structure RotatesLinearly (s : RefreshState) : Prop where
  exchanged : (s.exchanges.map (·.1)).Nodup
  active : s.records.countP (RefreshRecord.active s.clock) ≤ 1

def RefreshState.exchangesSince (s : RefreshState) (seen : Nat) : List (String × String) :=
  s.exchanges.take (s.exchanges.length - seen)

/-- A token is inserted only when no other was since the user's tokens were revoked for it, and only
when the token that is given for it was not exchanged by another call since it was verified. -/
def rotationUndisturbed (c : RefreshCalls) : Move RefreshRequest → Bool
  | .resume slot =>
    match c.task slot with
    | some (.insert _ _ rotation revokedAt) =>
      c.store.inserted == revokedAt &&
        rotation.all fun given => (c.store.exchangesSince given.seen).all (·.1 != given.token)
    | _ => true
  | _ => true

variable {task : RefreshTask}

section

variable {source : RefreshSource}

/-- A record after writes that revoke it or migrate it. -/
structure RefreshRecord.Fades (source : RefreshSource) (before after : RefreshRecord) : Prop where
  id : after.id = before.id
  isOf : ∀ token, after.isOf source token = before.isOf source token
  revoked : before.revoked = true → after.revoked = true

theorem RefreshRecord.Fades.refl (record : RefreshRecord) : record.Fades source record :=
  ⟨rfl, fun _ => rfl, fun revoked => revoked⟩

/-- Some records are deleted, and the others revoked or migrated. -/
def RecordsFade (source : RefreshSource) (before after : List RefreshRecord) : Prop :=
  ∃ kept, kept.Sublist before ∧ List.Forall₂ (RefreshRecord.Fades source) kept after

theorem RecordsFade.refl (records : List RefreshRecord) : RecordsFade source records records :=
  ⟨records, List.Sublist.refl _, List.forall₂_same.mpr fun r _ => RefreshRecord.Fades.refl r⟩

section

variable {before after : List RefreshRecord} (fade : RecordsFade source before after)
include fade

theorem RecordsFade.mem {record : RefreshRecord} (member : record ∈ after) :
    ∃ old ∈ before, old.Fades source record := by
  obtain ⟨kept, sub, related⟩ := fade
  suffices found : ∃ old ∈ kept, old.Fades source record by
    obtain ⟨old, isKept, fades⟩ := found
    exact ⟨old, sub.mem isKept, fades⟩
  clear sub
  induction related with
  | nil => cases member
  | cons fades _ ih =>
    rcases List.mem_cons.mp member with isFirst | later
    · rw [isFirst]
      exact ⟨_, by simp, fades⟩
    · obtain ⟨old, isKept, its⟩ := ih later
      exact ⟨old, by simp [isKept], its⟩

theorem RecordsFade.ids (distinct : (before.map (·.id)).Nodup) : (after.map (·.id)).Nodup := by
  obtain ⟨kept, sub, related⟩ := fade
  have same : after.map (·.id) = kept.map (·.id) := by
    clear sub
    induction related with
    | nil => rfl
    | cons fades _ ih => rw [List.map_cons, List.map_cons, fades.id, ih]
  rw [same]
  exact distinct.sublist (sub.map _)

theorem RecordsFade.countP : after.countP (!·.revoked) ≤ before.countP (!·.revoked) := by
  obtain ⟨kept, sub, related⟩ := fade
  apply le_trans ?_ sub.countP_le
  clear sub
  induction related with
  | nil => exact le_refl _
  | cons fades _ ih =>
    rename_i old new _ _ _
    rw [List.countP_cons, List.countP_cons]
    cases revoked : old.revoked with
    | true => rw [fades.revoked revoked]; simpa using ih
    | false =>
      have most : (if (!new.revoked) = true then 1 else 0) ≤ 1 := by split <;> omega
      simp only [Bool.not_false, if_true]
      omega

end

/-- What is known of the records, the issued tokens and the exchanges. -/
structure RefreshKept (source : RefreshSource) (s : RefreshState) : Prop where
  known : ∀ record ∈ s.records, ∀ token, record.isOf source token = true → token ∈ s.issued
  sole : ∀ record ∈ s.records, ∀ a b, record.isOf source a = true → record.isOf source b = true → a = b
  unmade : ∀ n, s.drawn ≤ n → source.createRefreshToken n ∉ s.issued
  numbered : ∀ record ∈ s.records, record.id < s.inserted
  ids : (s.records.map (·.id)).Nodup
  given : ∀ exchange ∈ s.exchanges, exchange.1 ∈ s.issued
  once : (s.exchanges.map (·.1)).Nodup
  spent : ∀ exchange ∈ s.exchanges, ∀ record ∈ s.records, record.isOf source exchange.1 = true → record.revoked = true
  single : s.records.countP (!·.revoked) ≤ 1

/-- A verified token is an issued one, and was not exchanged when it was verified. -/
structure Rotation.Fits (s : RefreshState) (rotation : Rotation) : Prop where
  issued : rotation.token ∈ s.issued
  seen : rotation.seen ≤ s.exchanges.length
  unspent : rotation.token ∉ (s.exchanges.drop (s.exchanges.length - rotation.seen)).map (·.1)

def RefreshTask.Fits (source : RefreshSource) (s : RefreshState) : RefreshTask → Prop
  | .migrate id _ rotation => rotation.Fits s ∧ id < s.inserted ∧
      ∀ record ∈ s.records, record.id = id → record.isOf source rotation.token = true
  | .storeRevoke rotation => ∀ given, rotation = some given → given.Fits s
  | .insert token _ rotation revokedAt => (∃ n < s.drawn, token = source.createRefreshToken n) ∧
      token ∉ s.issued ∧ (∀ given, rotation = some given → given.Fits s) ∧
      (s.inserted = revokedAt → ∀ record ∈ s.records, record.revoked = true) ∧ revokedAt ≤ s.inserted
  | _ => True

def RefreshTask.Inserts (token : String) : RefreshTask → Prop
  | .insert other _ _ _ => other = token
  | _ => False

structure RefreshSound (source : RefreshSource) (c : RefreshCalls) : Prop where
  sound : Concurrent.Sound (RefreshKept source) (RefreshTask.Fits source) c
  single : ∀ token, Concurrent.Exclusive (RefreshTask.Inserts token) c.task

/-- A step that inserts nothing. -/
structure RefreshState.Rests (source : RefreshSource) (s after : RefreshState) : Prop where
  records : RecordsFade source s.records after.records
  drawn : s.drawn ≤ after.drawn
  inserted : after.inserted = s.inserted
  issued : after.issued = s.issued
  exchanges : after.exchanges = s.exchanges

theorem RefreshState.Rests.refl (s : RefreshState) : s.Rests source s :=
  ⟨RecordsFade.refl _, le_refl _, rfl, rfl, rfl⟩

variable {s after : RefreshState}

theorem RefreshKept.rests (kept : RefreshKept source s) (rests : s.Rests source after) : RefreshKept source after := by
  constructor
  · intro record member token isOf
    obtain ⟨old, isOld, fades⟩ := rests.records.mem member
    rw [fades.isOf] at isOf
    rw [rests.issued]
    exact kept.known old isOld token isOf
  · intro record member a b isA isB
    obtain ⟨old, isOld, fades⟩ := rests.records.mem member
    rw [fades.isOf] at isA isB
    exact kept.sole old isOld a b isA isB
  · intro n made
    rw [rests.issued]
    exact kept.unmade n (le_trans rests.drawn made)
  · intro record member
    obtain ⟨old, isOld, fades⟩ := rests.records.mem member
    rw [fades.id, rests.inserted]
    exact kept.numbered old isOld
  · exact rests.records.ids kept.ids
  · rw [rests.exchanges, rests.issued]
    exact kept.given
  · rw [rests.exchanges]
    exact kept.once
  · intro exchange isExchange record member isOf
    rw [rests.exchanges] at isExchange
    obtain ⟨old, isOld, fades⟩ := rests.records.mem member
    rw [fades.isOf] at isOf
    exact fades.revoked (kept.spent exchange isExchange old isOld isOf)
  · exact le_trans rests.records.countP kept.single

variable {rotation : Rotation}

theorem Rotation.Fits.rests (fits : rotation.Fits s) (rests : s.Rests source after) : rotation.Fits after := by
  constructor
  · rw [rests.issued]
    exact fits.issued
  · rw [rests.exchanges]
    exact fits.seen
  · rw [rests.exchanges]
    exact fits.unspent

theorem RefreshTask.Fits.rests (fits : task.Fits source s) (rests : s.Rests source after) :
    task.Fits source after := by
  cases task with
  | migrate id isLogout rotation =>
    obtain ⟨verified, less, isOf⟩ := fits
    refine ⟨verified.rests rests, ?_, ?_⟩
    · rw [rests.inserted]
      exact less
    · intro record member same
      obtain ⟨old, isOld, fades⟩ := rests.records.mem member
      rw [fades.isOf]
      exact isOf old isOld (by rw [← fades.id, same])
  | storeRevoke rotation => exact fun given same => (fits given same).rests rests
  | insert token expiresAt rotation revokedAt =>
    obtain ⟨⟨n, less, made⟩, new, verified, revoked, before⟩ := fits
    refine ⟨⟨n, lt_of_lt_of_le less rests.drawn, made⟩, ?_, ?_, ?_, ?_⟩
    · rw [rests.issued]
      exact new
    · exact fun given same => (verified given same).rests rests
    · intro same record member
      rw [rests.inserted] at same
      obtain ⟨old, isOld, fades⟩ := rests.records.mem member
      exact fades.revoked (revoked same old isOld)
    · rw [rests.inserted]
      exact before
  | _ => trivial

theorem RefreshState.rests_of_forall₂ (records : List.Forall₂ (RefreshRecord.Fades source) s.records after.records)
    (drawn : s.drawn ≤ after.drawn) (inserted : after.inserted = s.inserted) (issued : after.issued = s.issued)
    (exchanges : after.exchanges = s.exchanges) : s.Rests source after :=
  ⟨⟨s.records, List.Sublist.refl _, records⟩, drawn, inserted, issued, exchanges⟩

variable (clock graceSeconds : Int)

theorem RefreshRecord.fades_revokeAll (record : RefreshRecord) :
    record.Fades source (record.revokeAll clock graceSeconds) := by
  unfold RefreshRecord.revokeAll
  split
  · exact RefreshRecord.Fades.refl record
  · exact ⟨rfl, fun _ => rfl, fun _ => rfl⟩

theorem forall₂_revokeAll (records : List RefreshRecord) :
    List.Forall₂ (RefreshRecord.Fades source) records (records.map (RefreshRecord.revokeAll clock graceSeconds)) := by
  rw [List.forall₂_map_right_iff, List.forall₂_same]
  exact fun record _ => record.fades_revokeAll clock graceSeconds

theorem revokeAll_revoked (records : List RefreshRecord) :
    ∀ record ∈ records.map (RefreshRecord.revokeAll clock graceSeconds), record.revoked = true := by
  intro record member
  obtain ⟨old, _, rfl⟩ := List.mem_map.mp member
  unfold RefreshRecord.revokeAll
  split
  · next revoked => exact revoked
  · rfl

theorem RefreshState.rests_revoke (s : RefreshState) (token : String) : s.Rests source (s.revoke source token) := by
  refine RefreshState.rests_of_forall₂ ?_ (le_refl _) rfl rfl rfl
  exact forall₂_updateFirst RefreshRecord.Fades.refl fun record _ _ => ⟨rfl, fun _ => rfl, fun _ => rfl⟩

variable {token : String}

/-- The migrated record is still the one of its token. -/
theorem RefreshKept.rests_migrate (kept : RefreshKept source s) {id : Nat}
    (isOf : ∀ record ∈ s.records, record.id = id → record.isOf source token = true) :
    s.Rests source (s.migrate source id token) := by
  unfold RefreshState.migrate
  split
  · exact RefreshState.Rests.refl s
  · refine RefreshState.rests_of_forall₂ ?_ (le_refl _) rfl rfl rfl
    apply forall₂_updateFirst RefreshRecord.Fades.refl
    intro record member selected
    have its := isOf record member (beq_iff_eq.mp selected)
    refine ⟨rfl, fun other => ?_, fun revoked => revoked⟩
    rw [Bool.eq_iff_iff]
    constructor
    · intro after
      have hashed : source.hashToken token = source.hashToken other := by
        simpa [RefreshRecord.isOf] using after
      rw [← source.collisionFree hashed]
      exact its
    · intro before
      rw [kept.sole record member other token before its]
      simp [RefreshRecord.isOf]

/-- A token that was verified has not been exchanged. -/
theorem RefreshKept.verified (kept : RefreshKept source s) {record : RefreshRecord}
    (found : s.verify source token = some record) :
    record ∈ s.records ∧ record.isOf source token = true ∧
      Rotation.Fits s { token := token, seen := s.exchanges.length } := by
  unfold RefreshState.verify at found
  split at found
  · have member := List.mem_of_find?_eq_some found
    have meets := List.find?_some found
    simp only [RefreshRecord.active, Bool.and_eq_true, Bool.not_eq_true'] at meets
    refine ⟨member, meets.1, kept.known record member token meets.1, le_refl _, ?_⟩
    rw [Nat.sub_self, List.drop_zero]
    intro spent
    obtain ⟨exchange, isExchange, same⟩ := List.mem_map.mp spent
    have revoked := kept.spent exchange isExchange record member (by rw [same]; exact meets.1)
    rw [meets.2.1] at revoked
    cases revoked
  · cases found

theorem Rotation.Fits.insert (fits : rotation.Fits s) (issued : after.issued = token :: s.issued)
    (exchanges : after.exchanges = s.exchanges ∨ ∃ exchange, after.exchanges = exchange :: s.exchanges) :
    rotation.Fits after := by
  have seen := fits.seen
  rcases exchanges with same | ⟨exchange, grown⟩
  · constructor
    · simp [issued, fits.issued]
    · rw [same]
      exact fits.seen
    · rw [same]
      exact fits.unspent
  · constructor
    · simp [issued, fits.issued]
    · rw [grown, List.length_cons]
      omega
    · have drop : s.exchanges.length + 1 - rotation.seen = s.exchanges.length - rotation.seen + 1 := by omega
      rw [grown, List.length_cons, drop, List.drop_succ_cons]
      exact fits.unspent

theorem Rotation.Fits.unexchanged (fits : rotation.Fits s)
    (since : (s.exchangesSince rotation.seen).all (·.1 != rotation.token) = true) :
    rotation.token ∉ s.exchanges.map (·.1) := by
  intro member
  rw [← List.take_append_drop (s.exchanges.length - rotation.seen) s.exchanges, List.map_append,
    List.mem_append] at member
  rcases member with new | old
  · obtain ⟨exchange, isNew, same⟩ := List.mem_map.mp new
    have different := List.all_eq_true.mp since exchange isNew
    rw [bne_iff_ne] at different
    exact different same
  · exact fits.unspent old

section

variable {expiresAt : Int} {rotation : Option Rotation}

theorem RefreshState.insert_eq (done : s.insert source token expiresAt rotation = some after) :
    after.drawn = s.drawn ∧ after.inserted = s.inserted + 1 ∧ after.issued = token :: s.issued ∧
      after.records = s.records ++
        [{ id := s.inserted, tokenHash := some (source.hashToken token), expiresAt := expiresAt }] ∧
      (rotation = none ∧ after.exchanges = s.exchanges ∨
        ∃ given, rotation = some given ∧ after.exchanges = (given.token, token) :: s.exchanges) := by
  unfold RefreshState.insert at done
  split at done
  · cases done
  · cases done
    refine ⟨rfl, rfl, rfl, rfl, ?_⟩
    cases rotation with
    | none => exact Or.inl ⟨rfl, rfl⟩
    | some given => exact Or.inr ⟨given, rfl, rfl⟩

theorem isOf_new {other : String} {id : Nat} (isOf : RefreshRecord.isOf source other
    { id := id, tokenHash := some (source.hashToken token), expiresAt := expiresAt } = true) : other = token := by
  have hashed : source.hashToken token = source.hashToken other := by simpa [RefreshRecord.isOf] using isOf
  exact (source.collisionFree hashed).symm

/-- An insertion that is not disturbed finds every record revoked, and the given token not
exchanged. -/
theorem RefreshKept.insert (kept : RefreshKept source s) (done : s.insert source token expiresAt rotation = some after)
    (new : token ∉ s.issued) (made : ∃ n < s.drawn, token = source.createRefreshToken n)
    (revoked : ∀ record ∈ s.records, record.revoked = true)
    (verified : ∀ given, rotation = some given → given.Fits s ∧ given.token ∉ s.exchanges.map (·.1)) :
    RefreshKept source after := by
  obtain ⟨drawn, inserted, issued, records, exchanges⟩ := RefreshState.insert_eq done
  -- The exchanged tokens are issued, also the one that is given now.
  have isIssued : ∀ exchange ∈ after.exchanges, exchange.1 ∈ s.issued := by
    rcases exchanges with ⟨_, same⟩ | ⟨given, isGiven, grown⟩
    · rw [same]
      exact kept.given
    · rw [grown]
      intro exchange member
      rcases List.mem_cons.mp member with isNew | old
      · rw [isNew]
        exact (verified given isGiven).1.issued
      · exact kept.given exchange old
  constructor
  · intro record member other isOf
    rw [records] at member
    rw [issued]
    rcases List.mem_append.mp member with old | isNew
    · simp [kept.known record old other isOf]
    · rw [List.mem_singleton.mp isNew] at isOf
      simp [isOf_new isOf]
  · intro record member a b isA isB
    rw [records] at member
    rcases List.mem_append.mp member with old | isNew
    · exact kept.sole record old a b isA isB
    · rw [List.mem_singleton.mp isNew] at isA isB
      rw [isOf_new isA, isOf_new isB]
  · intro n later
    rw [drawn] at later
    rw [issued, List.mem_cons, not_or]
    refine ⟨fun same => ?_, kept.unmade n later⟩
    obtain ⟨m, less, isMade⟩ := made
    rw [isMade] at same
    have equal := source.fresh same
    omega
  · intro record member
    rw [records] at member
    rw [inserted]
    rcases List.mem_append.mp member with old | isNew
    · have less := kept.numbered record old
      omega
    · rw [List.mem_singleton.mp isNew]
      exact Nat.lt_succ_self _
  · rw [records, List.map_append, List.map_singleton]
    apply List.nodup_append.mpr
    refine ⟨kept.ids, List.nodup_singleton _, ?_⟩
    intro id old other isNew same
    obtain ⟨record, member, isId⟩ := List.mem_map.mp old
    have less := kept.numbered record member
    rw [List.mem_singleton.mp isNew] at same
    dsimp only at same
    omega
  · intro exchange member
    rw [issued]
    simp [isIssued exchange member]
  · rcases exchanges with ⟨_, same⟩ | ⟨given, isGiven, grown⟩
    · rw [same]
      exact kept.once
    · rw [grown]
      exact List.nodup_cons.mpr ⟨(verified given isGiven).2, kept.once⟩
  · intro exchange isExchange record member isOf
    rw [records] at member
    rcases List.mem_append.mp member with old | isNew
    · exact revoked record old
    · rw [List.mem_singleton.mp isNew] at isOf
      have was := isIssued exchange isExchange
      rw [isOf_new isOf] at was
      exact absurd was new
  · have none_ : s.records.countP (!·.revoked) = 0 := by
      rw [List.countP_eq_zero]
      intro record member
      simp [revoked record member]
    rw [records, List.countP_append, none_]
    simp

/-- What a call waits to do when another call inserts another token. -/
theorem RefreshTask.Fits.insert (fits : task.Fits source s)
    (done : s.insert source token expiresAt rotation = some after) (others : ¬ task.Inserts token) :
    task.Fits source after := by
  obtain ⟨drawn, inserted, issued, records, exchanges⟩ := RefreshState.insert_eq done
  have grown : after.exchanges = s.exchanges ∨ ∃ exchange, after.exchanges = exchange :: s.exchanges := by
    rcases exchanges with ⟨_, same⟩ | ⟨given, _, more⟩
    · exact Or.inl same
    · exact Or.inr ⟨_, more⟩
  cases task with
  | migrate id isLogout waiting =>
    obtain ⟨verified, less, isOf⟩ := fits
    refine ⟨verified.insert issued grown, by omega, ?_⟩
    intro record member same
    rw [records] at member
    rcases List.mem_append.mp member with old | isNew
    · exact isOf record old same
    · rw [List.mem_singleton.mp isNew] at same
      dsimp only at same
      omega
  | storeRevoke waiting => exact fun given same => (fits given same).insert issued grown
  | insert other time waiting revokedAt =>
    obtain ⟨made, new, verified, _, before⟩ := fits
    refine ⟨?_, ?_, fun given same => (verified given same).insert issued grown, fun same => ?_, by omega⟩
    · rw [drawn]
      exact made
    · rw [issued, List.mem_cons, not_or]
      exact ⟨others, new⟩
    · omega
  | _ => trivial

end

end

section

variable {source : RefreshSource}

structure RefreshGoesOn (source : RefreshSource) (c : RefreshCalls) (slot : Nat)
    (after : RefreshState × Option RefreshTask) : Prop where
  kept : RefreshKept source after.1
  own : ∀ next, after.2 = some next → next.Fits source after.1
  others : ∀ other u, other ≠ slot → c.task other = some u → u.Fits source c.store → u.Fits source after.1
  drew : ∀ next token, after.2 = some next → next.Inserts token → token = source.createRefreshToken c.store.drawn

variable {c : RefreshCalls}

theorem RefreshGoesOn.rests (kept : RefreshKept source c.store) (slot : Nat) {after : RefreshState}
    {next : Option RefreshTask} (rests : c.store.Rests source after)
    (own : ∀ task, next = some task → task.Fits source after ∧ ∀ token, ¬ task.Inserts token) :
    RefreshGoesOn source c slot (after, next) where
  kept := kept.rests rests
  own task goesOn := (own task goesOn).1
  others _ _ _ _ fits := fits.rests rests
  drew task token goesOn inserts := absurd inserts ((own task goesOn).2 token)

theorem afterVerify_fits {s : RefreshState} {rotation : Rotation} (fits : rotation.Fits s) (isLogout : Bool) :
    (afterVerify isLogout rotation).Fits source s ∧ ∀ token, ¬ (afterVerify isLogout rotation).Inserts token := by
  unfold afterVerify
  cases isLogout with
  | true => exact ⟨trivial, fun _ => id⟩
  | false =>
    refine ⟨?_, fun _ => id⟩
    intro given same
    cases same
    exact fits

/-- A call that is not disturbed goes on. -/
theorem RefreshSound.resumed (sound : RefreshSound source c) {slot : Nat}
    (quiet : rotationUndisturbed c (.resume slot) = true) (held : c.task slot = some task) :
    RefreshGoesOn source c slot (resumeRefresh source c.store task) := by
  have kept := sound.sound.store
  have fits := sound.sound.tasks slot task held
  cases task with
  | find token isLogout =>
    rw [resumeRefresh]
    cases found : c.store.verify source token with
    | none => exact RefreshGoesOn.rests kept slot (RefreshState.Rests.refl _) nofun
    | some record =>
      obtain ⟨member, isOf, verified⟩ := kept.verified found
      apply RefreshGoesOn.rests kept slot (RefreshState.Rests.refl _)
      intro task goesOn
      split at goesOn
      · cases goesOn
        refine ⟨⟨verified, kept.numbered record member, ?_⟩, fun _ => id⟩
        intro other isOther same
        rw [List.inj_on_of_nodup_map kept.ids isOther member same]
        exact isOf
      · cases goesOn
        exact afterVerify_fits verified isLogout
  | migrate id isLogout rotation =>
    obtain ⟨verified, _, isOf⟩ := fits
    have rests := kept.rests_migrate isOf
    apply RefreshGoesOn.rests kept slot rests
    intro task goesOn
    cases goesOn
    exact afterVerify_fits (verified.rests rests) isLogout
  | storeRevoke rotation =>
    have rests : c.store.Rests source { c.store.revokeAll 10 with drawn := c.store.drawn + 1 } :=
      RefreshState.rests_of_forall₂ (forall₂_revokeAll _ _ _) (Nat.le_succ _) rfl rfl rfl
    constructor
    · exact kept.rests rests
    · intro next goesOn
      cases goesOn
      refine ⟨⟨c.store.drawn, Nat.lt_succ_self _, rfl⟩, kept.unmade _ (le_refl _), ?_, ?_, le_refl _⟩
      · exact fun given same => (fits given same).rests rests
      · exact fun _ => revokeAll_revoked _ _ _
    · exact fun _ _ _ _ its => its.rests rests
    · intro next token goesOn inserts
      cases goesOn
      exact inserts.symm
  | insert token expiresAt rotation revokedAt =>
    obtain ⟨made, new, verified, revoked, _⟩ := fits
    simp only [rotationUndisturbed, held, Bool.and_eq_true, beq_iff_eq] at quiet
    obtain ⟨same, since⟩ := quiet
    rw [resumeRefresh]
    cases done : c.store.insert source token expiresAt rotation with
    | none => exact RefreshGoesOn.rests kept slot (RefreshState.Rests.refl _) nofun
    | some after =>
      constructor
      · apply kept.insert done new made (revoked same)
        intro given isGiven
        rw [isGiven] at since
        exact ⟨verified given isGiven, (verified given isGiven).unexchanged since⟩
      · intro next goesOn
        cases goesOn
        trivial
      · intro other u different before its
        apply its.insert done
        intro inserts
        exact different (sound.single token other slot u _ before held inserts rfl)
      · intro next other goesOn inserts
        cases goesOn
        cases inserts
  | cleanUp rotation =>
    have rests : c.store.Rests source c.store.cleanUp :=
      ⟨⟨_, List.filter_sublist, List.forall₂_same.mpr fun r _ => .refl r⟩, le_refl _, rfl, rfl, rfl⟩
    apply RefreshGoesOn.rests kept slot rests
    intro task goesOn
    obtain ⟨given, _, rfl⟩ := Option.map_eq_some_iff.mp goesOn
    exact ⟨trivial, fun _ => id⟩
  | revoke token =>
    exact RefreshGoesOn.rests kept slot (c.store.rests_revoke token) nofun
  | revokeAll graceSeconds =>
    exact RefreshGoesOn.rests kept slot
      (RefreshState.rests_of_forall₂ (forall₂_revokeAll _ _ _) (le_refl _) rfl rfl rfl) nofun
  | deleteAll =>
    have rests : c.store.Rests source { c.store with records := [] } :=
      ⟨⟨[], List.nil_sublist _, List.Forall₂.nil⟩, le_refl _, rfl, rfl, rfl⟩
    exact RefreshGoesOn.rests kept slot rests nofun
  | setClock time =>
    have rests : c.store.Rests source { c.store with clock := time } :=
      ⟨RecordsFade.refl _, le_refl _, rfl, rfl, rfl⟩
    exact RefreshGoesOn.rests kept slot rests nofun

theorem startRefresh_fits {s : RefreshState} {request : RefreshRequest}
    (begun : startRefresh s request = some task) : task.Fits source s ∧ ∀ token, ¬ task.Inserts token := by
  cases request with
  | login =>
    cases begun
    refine ⟨?_, fun _ => id⟩
    nofun
  | _ =>
    cases begun
    exact ⟨trivial, fun _ => id⟩

theorem RefreshSound.step {move : Move RefreshRequest} (sound : RefreshSound source c)
    (quiet : rotationUndisturbed c move = true) : RefreshSound source (RefreshCalls.step source c move) := by
  constructor
  · apply sound.sound.step
    · exact fun slot request task _ begun => (startRefresh_fits begun).1
    · intro slot task isResume held _
      subst isResume
      have on := sound.resumed quiet held
      exact ⟨on.kept, on.own, on.others⟩
  · intro token
    apply (sound.single token).step
    · intro request task begun
      have fits : task.Fits source c.store ∧ ∀ token, ¬ task.Inserts token := startRefresh_fits begun
      exact fits.2 token
    · intro slot task next isResume held goesOn inserts
      subst isResume
      right
      intro other u before waits
      cases u with
      | insert waiting expiresAt rotation revokedAt =>
        -- What waits was made before.
        obtain ⟨⟨n, less, made⟩, _⟩ := sound.sound.tasks other _ before
        change waiting = token at waits
        rw [waits, (sound.resumed quiet held).drew next token goesOn inserts] at made
        have equal := source.fresh made
        omega
      | _ => exact waits

/-- No call is in flight and no exchange was made. Each record is that of one issued token, one at
most is not revoked, and no token that is yet to be made is issued. -/
structure RefreshStart (source : RefreshSource) (c : RefreshCalls) : Prop where
  known : ∀ record ∈ c.store.records, ∀ token, record.isOf source token = true → token ∈ c.store.issued
  sole : ∀ record ∈ c.store.records, ∀ a b, record.isOf source a = true → record.isOf source b = true → a = b
  unmade : ∀ n, c.store.drawn ≤ n → source.createRefreshToken n ∉ c.store.issued
  numbered : ∀ record ∈ c.store.records, record.id < c.store.inserted
  ids : (c.store.records.map (·.id)).Nodup
  single : c.store.records.countP (!·.revoked) ≤ 1
  exchanges : c.store.exchanges = []
  idle : ∀ slot, c.task slot = none

theorem RefreshStart.sound (start : RefreshStart source c) : RefreshSound source c := by
  constructor
  · constructor
    · constructor
      · exact start.known
      · exact start.sole
      · exact start.unmade
      · exact start.numbered
      · exact start.ids
      · simp [start.exchanges]
      · simp [start.exchanges]
      · simp [start.exchanges]
      · exact start.single
    · intro slot task held
      rw [start.idle] at held
      cases held
  · intro token n m t u held
    rw [start.idle] at held
    cases held

/-- In every run whose insertions are not disturbed, tokens rotate linearly. -/
theorem refresh_rotates_linearly {first last : RefreshCalls} (start : RefreshStart source first)
    (run : Reaches (RefreshCalls.step source) (fun c move => rotationUndisturbed c move = true) first last) :
    RotatesLinearly last.store := by
  have sound : RefreshSound source last := run.invariant start.sound fun c move before quiet => before.step quiet
  constructor
  · exact sound.sound.store.once
  · apply le_trans ?_ sound.sound.store.single
    apply List.countP_mono_left
    intro record _ active
    rw [RefreshRecord.active, Bool.and_eq_true] at active
    exact active.1

end

/-- A service whose tokens are numbered. -/
def refreshSource : RefreshSource where
  createRefreshToken n := String.ofList ('t' :: List.replicate n '1')
  fresh n m same := by
    have lengths := congrArg (fun text => text.toList.length) same
    simpa using lengths
  hashToken token := "sha256 " ++ token
  collisionFree a b same := by
    apply String.toList_injective
    have texts := congrArg String.toList same
    simpa using texts
  decodes _ _ := true
  expireDays := 30

def refreshCalls : RefreshCalls where
  store := { clock := 0 }

theorem refreshCalls_start : RefreshStart refreshSource refreshCalls := by
  constructor
  · nofun
  · nofun
  · nofun
  · nofun
  · exact List.nodup_nil
  · exact Nat.zero_le _
  · rfl
  · exact fun _ => rfl

/-- A login, two refreshes, and a third refresh with a token that was given before. -/
def refreshesInTurn : List (Move RefreshRequest) :=
  (.start 0 .login :: List.replicate 3 (.resume 0)) ++ (.start 0 (.refresh "t") :: List.replicate 5 (.resume 0)) ++
    (.start 0 (.refresh "t1") :: List.replicate 5 (.resume 0)) ++ [.start 0 (.refresh "t"), .resume 0]

theorem refresh_rotates_linearly_in_turn :
    RotatesLinearly (refreshesInTurn.foldl (RefreshCalls.step refreshSource) refreshCalls).store ∧
      (refreshesInTurn.foldl (RefreshCalls.step refreshSource) refreshCalls).store.exchanges =
        [("t1", "t11"), ("t", "t1")] := by
  have run : Reaches (RefreshCalls.step refreshSource) (fun c move => rotationUndisturbed c move = true) refreshCalls
      (refreshesInTurn.foldl (RefreshCalls.step refreshSource) refreshCalls) := Reaches.of_admitted (by decide +kernel)
  exact ⟨refresh_rotates_linearly refreshCalls_start run, by decide +kernel⟩

/-- A login, and its token given in two refreshes at once. -/
def refreshesAtOnce : List (Move RefreshRequest) :=
  (.start 0 .login :: List.replicate 3 (.resume 0)) ++
    [.start 1 (.refresh "t"), .start 2 (.refresh "t"), .resume 1, .resume 2, .resume 1, .resume 2] ++
    List.replicate 3 (.resume 1) ++ List.replicate 3 (.resume 2)

/-- One token is exchanged for two, and both are active when all calls have ended. -/
theorem refresh_rotates_twice :
    ¬ (∀ (source : RefreshSource) (first last : RefreshCalls), RefreshStart source first →
      Reaches (RefreshCalls.step source) (fun _ _ => True) first last → (∀ slot, last.task slot = none) →
        RotatesLinearly last.store) ∧
    (refreshesAtOnce.foldl (RefreshCalls.step refreshSource) refreshCalls).store.exchanges =
      [("t", "t11"), ("t", "t1")] ∧
    (refreshesAtOnce.foldl (RefreshCalls.step refreshSource) refreshCalls).store.records.countP
      (RefreshRecord.active 0) = 2 := by
  have twice : (refreshesAtOnce.foldl (RefreshCalls.step refreshSource) refreshCalls).store.exchanges =
      [("t", "t11"), ("t", "t1")] := by decide +kernel
  refine ⟨?_, twice, by decide +kernel⟩
  intro always
  have idle : ∀ slot, (refreshesAtOnce.foldl (RefreshCalls.step refreshSource) refreshCalls).task slot = none := by
    intro slot
    by_cases used : slot < 3
    · have none_ : ∀ n ∈ List.range 3,
          ((refreshesAtOnce.foldl (RefreshCalls.step refreshSource) refreshCalls).task n).isNone = true := by
        decide +kernel
      exact Option.isNone_iff_eq_none.mp (none_ slot (List.mem_range.mpr used))
    · refine Concurrent.foldl_task_other startRefresh (resumeRefresh refreshSource) ?_ refreshCalls
      intro move member
      have most : ∀ move ∈ refreshesAtOnce, move.slot < 3 := by decide
      have less := most move member
      omega
  have linear := always refreshSource refreshCalls _ refreshCalls_start
    (Reaches.foldl fun _ (move : Move RefreshRequest) (_ : move ∈ refreshesAtOnce) => trivial) idle
  have once := linear.exchanged
  rw [twice] at once
  exact absurd once (by decide)

section

variable {source : RefreshSource} {token : String}

/-- Every record of the token is revoked, and the token is not made again. -/
structure RefreshState.Barred (source : RefreshSource) (token : String) (s : RefreshState) : Prop where
  revoked : ∀ record ∈ s.records, record.isOf source token = true → record.revoked = true
  unmade : ∀ n, s.drawn ≤ n → source.createRefreshToken n ≠ token

/-- The next write of the call makes no record one of the token. -/
def RefreshTask.Spares (token : String) : RefreshTask → Prop
  | .migrate _ _ rotation => rotation.token ≠ token
  | .insert other _ _ _ => other ≠ token
  | _ => True

abbrev BarredCalls (source : RefreshSource) (token : String) : RefreshCalls → Prop :=
  Concurrent.Sound (RefreshState.Barred source token) fun _ => RefreshTask.Spares token

variable {s after : RefreshState} (barred : s.Barred source token)
include barred

theorem RefreshState.Barred.refused : s.verify source token = none := by
  unfold RefreshState.verify
  split
  · rw [List.find?_eq_none]
    intro record member
    by_cases isOf : record.isOf source token = true
    · simp [RefreshRecord.active, barred.revoked record member isOf]
    · simp [isOf]
  · rfl

/-- A write leaves records as they are, revokes them or makes them those of other tokens. -/
theorem RefreshState.Barred.written (drawn : s.drawn ≤ after.drawn) (written : ∀ record ∈ after.records,
    record ∈ s.records ∨ record.revoked = true ∨ ¬ record.isOf source token = true) : after.Barred source token := by
  refine ⟨fun record member isOf => ?_, fun n later => barred.unmade n (drawn.trans later)⟩
  rcases written record member with old | revoked | other
  · exact barred.revoked record old isOf
  · exact revoked
  · exact absurd isOf other

theorem RefreshState.Barred.resumed (spares : task.Spares token) :
    (resumeRefresh source s task).1.Barred source token ∧
      ∀ next, (resumeRefresh source s task).2 = some next → next.Spares token := by
  have goesOn (isLogout : Bool) (rotation : Rotation) : (afterVerify isLogout rotation).Spares token := by
    cases isLogout <;> trivial
  cases task with
  | find other isLogout =>
    rw [resumeRefresh]
    split
    · exact ⟨barred, nofun⟩
    · next found =>
      refine ⟨barred, fun next isNext => ?_⟩
      rw [← Option.some.inj isNext]
      split
      · rintro rfl
        rw [barred.refused] at found
        cases found
      · exact goesOn ..
  | migrate id isLogout rotation =>
    refine ⟨?_, fun next isNext => Option.some.inj isNext ▸ goesOn ..⟩
    rw [resumeRefresh, RefreshState.migrate]
    split
    · exact barred
    · refine barred.written (le_refl _) fun record member => ?_
      rcases mem_updateFirst member with old | ⟨_, _, _, rfl⟩
      · exact .inl old
      · simpa [RefreshRecord.isOf, source.collisionFree.eq_iff] using .inr (.inr spares)
  | storeRevoke rotation =>
    refine ⟨barred.written (Nat.le_succ _) fun record member => .inr (.inl (revokeAll_revoked _ _ _ record member)), ?_⟩
    rintro _ ⟨⟩
    exact barred.unmade _ (le_refl _)
  | insert other expiresAt rotation revokedAt =>
    rw [resumeRefresh]
    split
    · exact ⟨barred, nofun⟩
    · next done =>
      obtain ⟨drawn, _, _, records, _⟩ := RefreshState.insert_eq done
      refine ⟨barred.written drawn.ge fun record member => ?_, fun next isNext => Option.some.inj isNext ▸ trivial⟩
      rw [records] at member
      rcases List.mem_append.mp member with old | isNew
      · exact .inl old
      · rw [List.mem_singleton.mp isNew]
        exact .inr (.inr fun isOf => spares (isOf_new isOf).symm)
  | cleanUp rotation =>
    refine ⟨barred.written (le_refl _) fun record member => .inl (List.mem_of_mem_filter member), fun next isNext => ?_⟩
    obtain ⟨_, _, rfl⟩ := Option.map_eq_some_iff.mp isNext
    trivial
  | revoke other =>
    refine ⟨barred.written (le_refl _) fun record member => ?_, nofun⟩
    rcases mem_updateFirst member with old | ⟨_, _, _, rfl⟩
    · exact .inl old
    · exact .inr (.inl rfl)
  | revokeAll graceSeconds =>
    exact ⟨barred.written (le_refl _) fun record member => .inr (.inl (revokeAll_revoked _ _ _ record member)), nofun⟩
  | deleteAll => exact ⟨barred.written (le_refl _) nofun, nofun⟩
  | setClock time => exact ⟨barred.written (le_refl _) fun _ => .inl, nofun⟩

omit barred

/-- A revoked token is refused for ever, whichever calls interleave. -/
theorem revoked_refused {first last : RefreshCalls} (barred : BarredCalls source token first)
    (run : Reaches (RefreshCalls.step source) (fun _ _ => True) first last) : last.store.verify source token = none := by
  have sound : BarredCalls source token last := run.invariant barred fun c move before _ => before.step
    (fun _ request _ _ begun => by cases request <;> cases begun <;> trivial)
    fun _ _ _ _ spares => (before.store.resumed spares).imp_right fun goesOn => ⟨goesOn, fun _ _ _ _ its => its⟩
  exact sound.store.refused

end

def loggedOut : RefreshCalls where
  store := { clock := 0, drawn := 1, inserted := 1, records := [⟨0, some "sha256 t", none, 1, true, none⟩] }

theorem logged_out_refused : (([.start 0 .login, .resume 0, .start 1 (.refresh "t"), .resume 0].foldl
    (RefreshCalls.step refreshSource) loggedOut).store.verify refreshSource "t") = none :=
  revoked_refused ⟨⟨by simp [loggedOut], fun n made same => by
    cases (refreshSource.fresh (same.trans rfl) : n = 0)
    cases made⟩, fun _ _ held => by cases held⟩ (Reaches.foldl fun _ _ _ => trivial)

end StockVerification
