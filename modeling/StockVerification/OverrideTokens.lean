import StockVerification.Foundation.Interleaving
import StockVerification.Foundation.Records

/-!
# Override tokens

Source: backend/services/pin_auth_service.py:18-52 and 188-286.

Calls of `generate_override_token` and `validate_override_token` interleave, for any users and
actions. The clock may be set, and the expiry index removes what has expired, at any time. Times are
in microseconds; a stored date keeps milliseconds.
-/
namespace StockVerification

open Foundation

def overrideRequiredActions : List String :=
  ["approve", "reject", "force_close", "variance_override", "recount_approve", "inventory_adjust"]

/-- What the calls take from their surroundings: the random texts in the order they are drawn, the
secret and the keyed hash. -/
structure TokenSource where
  tokenUrlsafe : Nat → String
  fresh : Function.Injective tokenUrlsafe
  urlsafe : ∀ n, '.' ∉ (tokenUrlsafe n).toList
  secret : Option String
  hmac : String → String → String

/-- A document of `supervisor_override_tokens`, without the stamps. -/
structure OverrideToken where
  token : String
  userId : String
  action : String
  expiresAt : Int
  used : Bool

structure IssuedToken where
  token : String
  userId : String
  action : String
  expiresAt : Int
  deriving DecidableEq

/-- The arguments of a validation that succeeded, and the time it has read. -/
structure AcceptedToken where
  token : String
  userId : String
  action : String
  now : Int
  deriving DecidableEq

inductive TokenError where
  | value (message : String)
  | permission (message : String)
  | runtime (message : String)
  | nonAscii
  | duplicateKey
  deriving DecidableEq

/-- The collection, the clock, how many random texts are drawn, and what the calls have answered,
with the latest first. -/
structure TokenState where
  clock : Int
  drawn : Nat := 0
  tokens : List OverrideToken := []
  issued : List IssuedToken := []
  accepted : List AcceptedToken := []
  refused : List TokenError := []

def milliseconds (time : Int) : Int := time / 1000

inductive TokenRequest where
  | generate (userId : String) (action : String) (pinOk : Bool) (ttlSeconds : Int)
  | validate (token : String) (userId : String) (action : String)
  | setClock (time : Int)
  | expire

inductive TokenTask where
  | generate (userId : String) (action : String) (pinOk : Bool) (ttlSeconds : Int)
  | insert (issued : IssuedToken)
  | validate (token : String) (userId : String) (action : String)
  | consume (attempt : AcceptedToken)
  | diagnose (token : String) (now : Int)
  | setClock (time : Int)
  | expire

def startToken (_ : TokenState) : TokenRequest → Option TokenTask
  | .generate userId action pinOk ttlSeconds => some (.generate userId action pinOk ttlSeconds)
  | .validate token userId action => some (.validate token userId action)
  | .setClock time => some (.setClock time)
  | .expire => some .expire

/-- `token.rsplit(".", 1)`, when it has two parts. -/
def rsplitDot (token : String) : Option (String × String) :=
  let backwards := token.toList.reverse
  match backwards.dropWhile (· != '.') with
  | [] => none
  | _ :: front => some (String.ofList front.reverse, String.ofList (backwards.takeWhile (· != '.')).reverse)

/-- `hmac.compare_digest` of two texts. -/
def compareDigest (a b : String) : Except TokenError Bool :=
  if (a.toList ++ b.toList).all fun c => c.toNat < 128 then .ok (a == b) else .error .nonAscii

def TokenState.refuse (s : TokenState) (error : TokenError) : TokenState := { s with refused := error :: s.refused }

/-- The filter of the update that consumes a token. -/
def OverrideToken.isFor (attempt : AcceptedToken) (stored : OverrideToken) : Bool :=
  stored.token == attempt.token && stored.userId == attempt.userId && stored.action == attempt.action &&
    !stored.used && decide (milliseconds attempt.now < stored.expiresAt)

/-- The index on `expires_at`. -/
def TokenState.expire (s : TokenState) : TokenState :=
  { s with tokens := s.tokens.filter fun stored => milliseconds s.clock < stored.expiresAt }

def insertToken (s : TokenState) (issued : IssuedToken) : TokenState :=
  if s.tokens.any (·.token == issued.token) then s.refuse .duplicateKey
  else { s with
    tokens := s.tokens ++ [{ token := issued.token, userId := issued.userId, action := issued.action
                             expiresAt := milliseconds issued.expiresAt, used := false }]
    issued := issued :: s.issued }

/-- Why a token could not be consumed. -/
def diagnose (s : TokenState) (token : String) (now : Int) : TokenError :=
  match s.tokens.find? (·.token == token) with
  | none => .permission "Override token not found"
  | some existing =>
    if existing.used then .permission "Override token has already been used"
    else if existing.expiresAt * 1000 ≤ now then .permission "Override token has expired"
    else .permission "Override token is invalid for this user or action"

section

variable (source : TokenSource)

def signToken (payload : String) : Except TokenError String :=
  if source.secret.getD "" = "" then .error (.runtime ("OVERRIDE_TOKEN_SECRET environment variable is not set. " ++
    "Refusing to sign override tokens with an insecure default."))
  else .ok (source.hmac (source.secret.getD "") payload)

def sigPayload (rawToken userId action : String) : String := rawToken ++ ":" ++ userId ++ ":" ++ action

def signedToken (rawToken signature : String) : String := rawToken ++ "." ++ signature

/-- The checks of `validate_override_token` before the database is asked. -/
def checkSignature (token userId action : String) : Except TokenError Unit := do
  if token = "" then throw (.permission "Override token is required for privileged action")
  match rsplitDot token with
  | none => throw (.permission "Malformed override token")
  | some (rawToken, providedSig) =>
    let expectedSig ← signToken source (sigPayload rawToken userId action)
    if ← compareDigest providedSig expectedSig then pure ()
    else throw (.permission "Override token signature invalid")

/-- `generate_override_token` up to the insertion. The signature is made after the text is drawn. -/
def generateToken (s : TokenState) (userId action : String) (pinOk : Bool) (ttlSeconds : Int) :
    TokenState × Option TokenTask :=
  if !overrideRequiredActions.contains action then (s.refuse (.value ("Unknown privileged action: " ++ action)), none)
  else if !pinOk then (s.refuse (.permission "PIN verification failed"), none)
  else
    let rawToken := source.tokenUrlsafe s.drawn
    let drawn := { s with drawn := s.drawn + 1 }
    match signToken source (sigPayload rawToken userId action) with
    | .error error => (drawn.refuse error, none)
    | .ok signature =>
      (drawn, some (.insert { token := signedToken rawToken signature, userId := userId, action := action
                              expiresAt := s.clock + ttlSeconds * 1000000 }))

/-- One call goes on. -/
def resumeToken (s : TokenState) : TokenTask → TokenState × Option TokenTask
  | .generate userId action pinOk ttlSeconds => generateToken source s userId action pinOk ttlSeconds
  | .insert issued => (insertToken s issued, none)
  | .validate token userId action =>
    match checkSignature source token userId action with
    | .error error => (s.refuse error, none)
    | .ok _ => (s, some (.consume { token := token, userId := userId, action := action, now := s.clock }))
  | .consume attempt =>
    match s.tokens.find? (OverrideToken.isFor attempt) with
    | some _ =>
      ({ s with tokens := updateFirst (OverrideToken.isFor attempt) (fun stored => { stored with used := true }) s.tokens
                accepted := attempt :: s.accepted }, none)
    | none => (s, some (.diagnose attempt.token attempt.now))
  | .diagnose token now => (s.refuse (diagnose s token now), none)
  | .setClock time => ({ s with clock := time }, none)
  | .expire => (s.expire, none)

abbrev TokenCalls := Concurrent TokenState TokenTask

abbrev TokenCalls.step : TokenCalls → Move TokenRequest → TokenCalls :=
  Concurrent.step startToken (resumeToken source)

end

section

variable {source : TokenSource}

/-- The text of the token that was drawn as the `n`-th. -/
def TokenSource.IsToken (source : TokenSource) (n : Nat) (token : String) : Prop :=
  ∃ signature, token = signedToken (source.tokenUrlsafe n) signature

theorem takeWhile_signedToken {rawToken : String} (urlsafe : '.' ∉ rawToken.toList) (signature : String) :
    (signedToken rawToken signature).toList.takeWhile (· != '.') = rawToken.toList := by
  have plain : ∀ c ∈ rawToken.toList, (c != '.') = true := by
    intro c member
    rw [bne_iff_ne]
    intro isDot
    rw [isDot] at member
    exact urlsafe member
  simp only [signedToken, String.toList_append]
  rw [List.append_assoc, List.takeWhile_append_of_pos plain]
  simp

variable {token : String}

theorem TokenSource.IsToken.same {n m : Nat} (first : source.IsToken n token)
    (second : source.IsToken m token) : n = m := by
  obtain ⟨a, isFirst⟩ := first
  obtain ⟨b, isSecond⟩ := second
  apply source.fresh
  apply String.toList_injective
  rw [← takeWhile_signedToken (source.urlsafe n) a, ← takeWhile_signedToken (source.urlsafe m) b, ← isFirst, isSecond]

structure OverrideToken.Stores (stored : OverrideToken) (issued : IssuedToken) : Prop where
  token : stored.token = issued.token
  userId : stored.userId = issued.userId
  action : stored.action = issued.action
  expiresAt : stored.expiresAt = milliseconds issued.expiresAt

/-- The validation is one of the issued token, for its user and action, and before it expired. -/
structure AcceptedToken.Redeems (accepted : AcceptedToken) (issued : IssuedToken) : Prop where
  token : accepted.token = issued.token
  userId : accepted.userId = issued.userId
  action : accepted.action = issued.action
  intime : accepted.now < issued.expiresAt

structure TokensKept (source : TokenSource) (s : TokenState) : Prop where
  drawn : ∀ issued ∈ s.issued, ∃ n < s.drawn, source.IsToken n issued.token
  distinct : (s.issued.map (·.token)).Nodup
  stored : ∀ stored ∈ s.tokens, ∃ issued ∈ s.issued, stored.Stores issued
  single : (s.tokens.map (·.token)).Nodup
  redeemed : ∀ accepted ∈ s.accepted, ∃ issued ∈ s.issued, accepted.Redeems issued
  once : (s.accepted.map (·.token)).Nodup
  used : ∀ accepted ∈ s.accepted, ∀ stored ∈ s.tokens, stored.token = accepted.token → stored.used = true

/-- A token that waits to be inserted was drawn, and is not issued. -/
def TokenTask.Fits (source : TokenSource) (s : TokenState) : TokenTask → Prop
  | .insert issued => (∃ n < s.drawn, source.IsToken n issued.token) ∧ issued.token ∉ s.issued.map (·.token)
  | _ => True

def TokenTask.Inserts (token : String) : TokenTask → Prop
  | .insert issued => issued.token = token
  | _ => False

structure TokensSound (source : TokenSource) (c : TokenCalls) : Prop where
  sound : Concurrent.Sound (TokensKept source) (TokenTask.Fits source) c
  single : ∀ token, Concurrent.Exclusive (TokenTask.Inserts token) c.task

variable {s : TokenState} {task : TokenTask}

theorem TokenTask.Fits.mono {after : TokenState} (fits : task.Fits source s) (drawn : s.drawn ≤ after.drawn)
    (issued : after.issued = s.issued) : task.Fits source after := by
  cases task with
  | insert token =>
    obtain ⟨⟨n, less, isToken⟩, new⟩ := fits
    constructor
    · exact ⟨n, by omega, isToken⟩
    · rw [issued]
      exact new
  | _ => trivial

section

variable (kept : TokensKept source s)
include kept

theorem TokensKept.refuse (error : TokenError) : TokensKept source (s.refuse error) :=
  { kept with }

theorem TokensKept.setClock (time : Int) : TokensKept source { s with clock := time } :=
  { kept with }

theorem TokensKept.draw : TokensKept source { s with drawn := s.drawn + 1 } := by
  refine { kept with drawn := ?_ }
  intro issued member
  obtain ⟨n, less, isToken⟩ := kept.drawn issued member
  exact ⟨n, Nat.lt_succ_of_lt less, isToken⟩

theorem TokensKept.expire : TokensKept source s.expire := by
  refine { kept with stored := ?_, single := ?_, used := ?_ }
  · intro stored member
    exact kept.stored stored (List.mem_of_mem_filter member)
  · exact kept.single.sublist (List.filter_sublist.map _)
  · intro accepted isAccepted stored member
    exact kept.used accepted isAccepted stored (List.mem_of_mem_filter member)

theorem TokensKept.insert {issued : IssuedToken} (fits : (TokenTask.insert issued).Fits source s) :
    TokensKept source (insertToken s issued) := by
  obtain ⟨drawn, new⟩ := fits
  unfold insertToken
  by_cases present : s.tokens.any (·.token == issued.token) = true
  · rw [if_pos present]
    exact kept.refuse _
  · rw [if_neg present]
    constructor
    · intro other member
      rcases List.mem_cons.mp member with isNew | old
      · rw [isNew]
        exact drawn
      · exact kept.drawn other old
    · exact List.nodup_cons.mpr ⟨new, kept.distinct⟩
    · intro stored member
      rcases List.mem_append.mp member with old | isNew
      · obtain ⟨other, isIssued, stores⟩ := kept.stored stored old
        exact ⟨other, by simp [isIssued], stores⟩
      · rw [List.mem_singleton.mp isNew]
        exact ⟨issued, by simp, rfl, rfl, rfl, rfl⟩
    · rw [List.map_append, List.map_singleton]
      apply List.nodup_append.mpr
      refine ⟨kept.single, List.nodup_singleton _, ?_⟩
      intro token old other isNew same
      obtain ⟨stored, member, named⟩ := List.mem_map.mp old
      rw [List.mem_singleton.mp isNew, ← named] at same
      apply present
      rw [List.any_eq_true]
      exact ⟨stored, member, by simp [same]⟩
    · intro accepted member
      obtain ⟨other, isIssued, redeems⟩ := kept.redeemed accepted member
      exact ⟨other, by simp [isIssued], redeems⟩
    · exact kept.once
    · intro accepted isAccepted stored member same
      rcases List.mem_append.mp member with old | isNew
      · exact kept.used accepted isAccepted stored old same
      · -- An accepted token is issued already, and this one is not.
        obtain ⟨other, isIssued, redeems⟩ := kept.redeemed accepted isAccepted
        rw [List.mem_singleton.mp isNew, redeems.token] at same
        dsimp only at same
        rw [same] at new
        exact absurd (List.mem_map_of_mem isIssued) new

end

theorem OverrideToken.isFor_iff {attempt : AcceptedToken} {stored : OverrideToken} : stored.isFor attempt = true ↔
    stored.token = attempt.token ∧ stored.userId = attempt.userId ∧ stored.action = attempt.action ∧
      stored.used = false ∧ milliseconds attempt.now < stored.expiresAt := by
  simp [OverrideToken.isFor, and_assoc]

theorem TokensKept.consume (kept : TokensKept source s) {attempt : AcceptedToken}
    {found : OverrideToken} (finds : s.tokens.find? (OverrideToken.isFor attempt) = some found) :
    TokensKept source { s with
      tokens := updateFirst (OverrideToken.isFor attempt) (fun stored => { stored with used := true }) s.tokens
      accepted := attempt :: s.accepted } := by
  have isStored := List.mem_of_find?_eq_some finds
  obtain ⟨token, userId, action, unused, intime⟩ := OverrideToken.isFor_iff.mp (List.find?_some finds)
  obtain ⟨issued, isIssued, stores⟩ := kept.stored found isStored
  have redeems : attempt.Redeems issued := by
    refine ⟨?_, ?_, ?_, ?_⟩
    · rw [← token, stores.token]
    · rw [← userId, stores.userId]
    · rw [← action, stores.action]
    · rw [stores.expiresAt, milliseconds, milliseconds] at intime
      omega
  have unknown : attempt.token ∉ s.accepted.map (·.token) := by
    intro member
    obtain ⟨accepted, isAccepted, same⟩ := List.mem_map.mp member
    have spent := kept.used accepted isAccepted found isStored (by rw [token, same])
    rw [unused] at spent
    cases spent
  constructor
  · exact kept.drawn
  · exact kept.distinct
  · intro stored member
    rcases mem_updateFirst member with old | ⟨before, old, _, rfl⟩
    · exact kept.stored stored old
    · obtain ⟨other, isOther, its⟩ := kept.stored before old
      exact ⟨other, isOther, its.token, its.userId, its.action, its.expiresAt⟩
  · have names : (updateFirst (OverrideToken.isFor attempt) (fun stored => { stored with used := true })
        s.tokens).map (·.token) = s.tokens.map (·.token) := map_updateFirst fun _ => rfl
    dsimp only
    rw [names]
    exact kept.single
  · intro accepted member
    rcases List.mem_cons.mp member with isNew | old
    · rw [isNew]
      exact ⟨issued, isIssued, redeems⟩
    · exact kept.redeemed accepted old
  · exact List.nodup_cons.mpr ⟨unknown, kept.once⟩
  · intro accepted isAccepted stored member same
    rcases mem_updateFirst_keyed kept.single finds member with isFound | ⟨old, different⟩
    · rw [isFound]
    · rcases List.mem_cons.mp isAccepted with isNew | before
      · rw [isNew, ← token] at same
        exact absurd same different
      · exact kept.used accepted before stored old same

/-- A call draws the next text, or ends. -/
theorem generateToken_kept (kept : TokensKept source s) (userId action : String) (pinOk : Bool) (ttlSeconds : Int) :
    TokensKept source (generateToken source s userId action pinOk ttlSeconds).1 ∧
      s.drawn ≤ (generateToken source s userId action pinOk ttlSeconds).1.drawn ∧
      (generateToken source s userId action pinOk ttlSeconds).1.issued = s.issued ∧
      ∀ next, (generateToken source s userId action pinOk ttlSeconds).2 = some next →
        ∃ issued, next = .insert issued ∧ source.IsToken s.drawn issued.token ∧
          (generateToken source s userId action pinOk ttlSeconds).1.drawn = s.drawn + 1 := by
  unfold generateToken
  by_cases known : (!overrideRequiredActions.contains action) = true
  · rw [if_pos known]
    exact ⟨kept.refuse _, le_refl _, rfl, nofun⟩
  · rw [if_neg known]
    by_cases refused : (!pinOk) = true
    · rw [if_pos refused]
      exact ⟨kept.refuse _, le_refl _, rfl, nofun⟩
    · rw [if_neg refused]
      dsimp only
      cases signToken source (sigPayload (source.tokenUrlsafe s.drawn) userId action) with
      | error error => exact ⟨kept.draw.refuse _, Nat.le_succ _, rfl, nofun⟩
      | ok signature =>
        refine ⟨kept.draw, Nat.le_succ _, rfl, fun next goesOn => ?_⟩
        cases goesOn
        exact ⟨_, rfl, ⟨signature, rfl⟩, rfl⟩

theorem TokensKept.fresh (kept : TokensKept source s) (isToken : source.IsToken s.drawn token) :
    token ∉ s.issued.map (·.token) := by
  intro member
  obtain ⟨issued, isIssued, same⟩ := List.mem_map.mp member
  obtain ⟨n, less, earlier⟩ := kept.drawn issued isIssued
  rw [same] at earlier
  have equal := earlier.same isToken
  omega

structure TokenGoesOn (source : TokenSource) (c : TokenCalls) (slot : Nat)
    (after : TokenState × Option TokenTask) : Prop where
  kept : TokensKept source after.1
  own : ∀ next, after.2 = some next → next.Fits source after.1
  others : ∀ other u, other ≠ slot → c.task other = some u → u.Fits source c.store → u.Fits source after.1
  drew : ∀ next token, after.2 = some next → next.Inserts token → source.IsToken c.store.drawn token

variable {c : TokenCalls} {slot : Nat}

theorem TokenGoesOn.plain {after : TokenState × Option TokenTask} (kept : TokensKept source after.1)
    (drawn : after.1.drawn = c.store.drawn) (issued : after.1.issued = c.store.issued)
    (inserts : ∀ next token, after.2 = some next → ¬ next.Inserts token) : TokenGoesOn source c slot after where
  kept := kept
  own next goesOn := by
    cases next with
    | insert token => exact absurd rfl (inserts _ token.token goesOn)
    | _ => trivial
  others other u _ _ fits := fits.mono (by omega) issued
  drew next token goesOn kind := absurd kind (inserts next token goesOn)

/-- A call that waits to insert a token inserts that one. -/
theorem TokensSound.insert (kept : TokensSound source c) {issued : IssuedToken}
    (held : c.task slot = some (.insert issued)) : TokenGoesOn source c slot (insertToken c.store issued, none) where
  kept := kept.sound.store.insert (kept.sound.tasks slot _ held)
  own next goesOn := by cases goesOn
  others other u different before fits := by
    cases u with
    | insert waiting =>
      obtain ⟨drawn, new⟩ := fits
      have distinct : waiting.token ≠ issued.token := by
        intro same
        exact different (kept.single issued.token other slot _ _ before held same rfl)
      unfold insertToken
      split
      · exact ⟨drawn, new⟩
      · refine ⟨drawn, ?_⟩
        rw [List.map_cons, List.mem_cons, not_or]
        exact ⟨distinct, new⟩
    | _ => trivial
  drew next token goesOn := by cases goesOn

theorem TokensSound.resumed (kept : TokensSound source c) (held : c.task slot = some task) :
    TokenGoesOn source c slot (resumeToken source c.store task) := by
  have stored := kept.sound.store
  cases task with
  | generate userId action pinOk ttlSeconds =>
    obtain ⟨after, grows, issued, goes⟩ := generateToken_kept stored userId action pinOk ttlSeconds
    constructor
    · exact after
    · intro next goesOn
      obtain ⟨token, rfl, isToken, drawn⟩ := goes next goesOn
      refine ⟨⟨c.store.drawn, ?_, isToken⟩, ?_⟩
      · change c.store.drawn < (generateToken source c.store userId action pinOk ttlSeconds).1.drawn
        omega
      · change token.token ∉ (generateToken source c.store userId action pinOk ttlSeconds).1.issued.map (·.token)
        rw [issued]
        exact stored.fresh isToken
    · exact fun other u _ _ fits => fits.mono grows issued
    · intro next token goesOn inserts
      obtain ⟨new, rfl, isToken, _⟩ := goes next goesOn
      rw [← inserts]
      exact isToken
  | insert issued => exact kept.insert held
  | validate token userId action =>
    rw [resumeToken]
    cases checkSignature source token userId action with
    | error error => exact TokenGoesOn.plain (stored.refuse _) rfl rfl nofun
    | ok _ =>
      apply TokenGoesOn.plain stored rfl rfl
      intro next token goesOn
      cases goesOn
      exact id
  | consume attempt =>
    rw [resumeToken]
    cases finds : c.store.tokens.find? (OverrideToken.isFor attempt) with
    | some found => exact TokenGoesOn.plain (stored.consume finds) rfl rfl nofun
    | none =>
      apply TokenGoesOn.plain stored rfl rfl
      intro next token goesOn
      cases goesOn
      exact id
  | diagnose token now =>
    exact TokenGoesOn.plain (stored.refuse _) rfl rfl nofun
  | setClock time =>
    exact TokenGoesOn.plain (stored.setClock time) rfl rfl nofun
  | expire => exact TokenGoesOn.plain stored.expire rfl rfl nofun

theorem startToken_inserts {request : TokenRequest} (begun : startToken s request = some task) :
    ¬ task.Inserts token := by
  cases request with
  | generate userId action pinOk ttlSeconds | validate token userId action | setClock time | expire =>
      cases begun; exact id

theorem TokensSound.step (kept : TokensSound source c) (move : Move TokenRequest) :
    TokensSound source (TokenCalls.step source c move) := by
  constructor
  · apply kept.sound.step
    · intro slot request task _ begun
      cases task with
      | insert issued => exact absurd rfl (startToken_inserts begun)
      | _ => trivial
    · intro slot task _ held _
      have on := kept.resumed held
      exact ⟨on.kept, on.own, on.others⟩
  · intro token
    apply (kept.single token).step
    · exact fun request task begun => startToken_inserts begun
    · intro slot task next _ held goesOn inserts
      right
      intro other u before waits
      cases u with
      | insert waiting =>
        -- What waits was drawn before.
        obtain ⟨⟨n, less, isToken⟩, _⟩ := kept.sound.tasks other _ before
        change waiting.token = token at waits
        rw [waits] at isToken
        have equal := isToken.same ((kept.resumed held).drew next token goesOn inserts)
        omega
      | _ => exact waits

structure TokenStart (c : TokenCalls) : Prop where
  tokens : c.store.tokens = []
  issued : c.store.issued = []
  accepted : c.store.accepted = []
  idle : ∀ slot, c.task slot = none

theorem TokenStart.sound (start : TokenStart c) : TokensSound source c := by
  constructor
  · constructor
    · constructor
      · simp [start.issued]
      · simp [start.issued]
      · simp [start.tokens]
      · simp [start.tokens]
      · simp [start.accepted]
      · simp [start.accepted]
      · simp [start.accepted]
    · intro slot task held
      rw [start.idle] at held
      cases held
  · intro token n m t u held
    rw [start.idle] at held
    cases held

end

/-- In every run, no two validations succeed with one token, and each that succeeds is for the user
and the action that its token was issued for and has read the clock before it expired. -/
theorem override_tokens_single_use {source : TokenSource} {first last : TokenCalls} (start : TokenStart first)
    (run : Reaches (TokenCalls.step source) (fun _ _ => True) first last) :
    (last.store.issued.map (·.token)).Nodup ∧ (last.store.accepted.map (·.token)).Nodup ∧
      ∀ accepted ∈ last.store.accepted, ∃ issued ∈ last.store.issued, accepted.Redeems issued := by
  have kept : TokensSound source last := run.invariant start.sound fun c move sound _ => sound.step move
  exact ⟨kept.sound.store.distinct, kept.sound.store.once, kept.sound.store.redeemed⟩

/-- A deployment, with the keyed hash of the one text that is signed below. -/
def tokenSource : TokenSource where
  tokenUrlsafe n := String.ofList ("n0Yk3Zq7vLr2Xw9TbGfJ5sPdHcM8eUaQ1oKiVtC4xRA".toList ++ List.replicate n 'A')
  fresh n m same := by
    have lengths := congrArg (fun text => text.toList.length) same
    simpa using lengths
  urlsafe n member := by
    rw [String.toList_ofList, List.mem_append] at member
    rcases member with inText | inRest
    · exact absurd inText (by decide)
    · exact absurd (List.eq_of_mem_replicate inRest) (by decide)
  secret := some "deployment secret"
  hmac _ payload :=
    if payload = "n0Yk3Zq7vLr2Xw9TbGfJ5sPdHcM8eUaQ1oKiVtC4xRA:a:b:approve"
    then "2888a8ea742bf648dd016edcabfb6248c7b4d3ca5e80a3a95940288bc63e3a27"
    else "0000000000000000000000000000000000000000000000000000000000000000"

def tokenCalls : TokenCalls where
  store := { clock := 0 }

theorem tokenCalls_start : TokenStart tokenCalls := ⟨rfl, rfl, rfl, fun _ => rfl⟩

def overrideToken : String :=
  "n0Yk3Zq7vLr2Xw9TbGfJ5sPdHcM8eUaQ1oKiVtC4xRA.2888a8ea742bf648dd016edcabfb6248c7b4d3ca5e80a3a95940288bc63e3a27"

/-- User `a:b` has a token for an approval. It is tried for another reading of the signed text, and
twice at once for what it was issued for. -/
def tokenMoves : List (Move TokenRequest) :=
  [.start 0 (.generate "a:b" "approve" true 300), .resume 0, .resume 0,
    .start 1 (.validate overrideToken "a" "b:approve"), .resume 1, .resume 1, .resume 1,
    .start 2 (.validate overrideToken "a:b" "approve"), .start 3 (.validate overrideToken "a:b" "approve"),
    .resume 2, .resume 3, .resume 2, .resume 3, .resume 3]

theorem override_token_single_use :
    ((tokenMoves.foldl (TokenCalls.step tokenSource) tokenCalls).store.accepted.map (·.token)).Nodup ∧
      (tokenMoves.foldl (TokenCalls.step tokenSource) tokenCalls).store.accepted.length = 1 ∧
      (tokenMoves.foldl (TokenCalls.step tokenSource) tokenCalls).store.refused =
        [.permission "Override token has already been used",
          .permission "Override token is invalid for this user or action"] := by
  have run : Reaches (TokenCalls.step tokenSource) (fun _ _ => True) tokenCalls
      (tokenMoves.foldl (TokenCalls.step tokenSource) tokenCalls) :=
    Reaches.foldl fun _ (move : Move TokenRequest) (_ : move ∈ tokenMoves) => trivial
  exact ⟨(override_tokens_single_use tokenCalls_start run).2.1, by decide +kernel, by decide +kernel⟩

end StockVerification
