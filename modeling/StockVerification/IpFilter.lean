import StockVerification.Foundation.Interleaving
import StockVerification.Foundation.Tables

/-!
# The IP filter

Source: backend/services/enterprise_security.py:58-213 and 244-327.

`check_ip` decides from two sets in memory. A load clears them and fills them again from the
stored lists, address by address; additions and removals write the stored lists first and the
sets after; a login attempt that locks an account may blacklist its address. All of these
interleave. Each check is logged with what the stored lists ask for at that moment.
-/
namespace StockVerification

open Foundation

inductive IPListType where
  | whitelist
  | blacklist
  deriving DecidableEq

structure IpEntry where
  listType : IPListType
  ipAddress : String
  expiresAt : Option Int

def IpEntry.key (entry : IpEntry) : IPListType × String := (entry.listType, entry.ipAddress)

def IpEntry.unexpired (now : Int) (entry : IpEntry) : Bool := entry.expiresAt.all fun expiry => now < expiry

structure Lockout where
  username : String
  attempts : Nat
  lastIp : String
  expiresAt : Option Int

/-- What the service is set up with; times are in milliseconds. -/
structure SecurityConfig where
  maxLoginAttempts : Nat := 5
  lockoutDuration : Int := 30 * 60 * 1000
  enableIpFiltering : Bool := true

/-- A decision of `check_ip`, and what the stored lists asked for. -/
structure IpCheck where
  ipAddress : String
  denied : Bool
  due : Bool
  deriving DecidableEq

/-- The stored collections, the sets in memory, the clock, whether an addition, a removal or a load
is between its first and its last write, and the checks made. -/
structure IpState where
  entries : List IpEntry := []
  lockouts : List Lockout := []
  cache : IPListType → List String := fun _ => []
  cacheLoaded : Bool := false
  clock : Int := 0
  underway : Bool := false
  checks : List IpCheck := []

structure LoginAttempt where
  username : String
  ipAddress : String
  success : Bool
  now : Int

inductive IpRequest where
  | checkIp (ipAddress : String)
  | addToIpList (entry : IpEntry)
  | removeFromIpList (listType : IPListType) (ipAddress : String)
  | loadIpCache
  | recordLoginAttempt (username ipAddress : String) (success : Bool)
  | wait (time : Nat)

/-- The calls of `record_login_attempt`. -/
inductive LoginCall where
  | findLockout
  | clear
  | count
  | lock
  | countLockouts

inductive IpTask where
  | check (ipAddress : String)
  | store (entry : IpEntry)
  | remember (listType : IPListType) (ipAddress : String)
  | delete (listType : IPListType) (ipAddress : String)
  | forget (listType : IPListType) (ipAddress : String)
  | clear
  | read (listType : IPListType) (check : Option String)
  | fill (listType : IPListType) (rest : List String) (check : Option String)
  | login (call : LoginCall) (attempt : LoginAttempt)
  | wait (time : Nat)

def startIp (s : IpState) : IpRequest → Option IpTask
  | .checkIp ipAddress => some (.check ipAddress)
  | .addToIpList entry => some (.store entry)
  | .removeFromIpList listType ipAddress => some (.delete listType ipAddress)
  | .loadIpCache => some .clear
  | .recordLoginAttempt username ipAddress success => some (.login .findLockout ⟨username, ipAddress, success, s.clock⟩)
  | .wait time => some (.wait time)

namespace IpState

/-- What the stored lists ask for: an unexpired blacklist entry for the address, or some unexpired
whitelist entry but none for it. -/
def listsDeny (s : IpState) (ipAddress : String) : Bool :=
  let current := (s.entries.filter (·.unexpired s.clock)).map IpEntry.key
  current.contains (.blacklist, ipAddress) ||
    current.any (fun key => key.1 = .whitelist) && !current.contains (.whitelist, ipAddress)

/-- The decision of `check_ip` from the sets. -/
def cacheDenies (s : IpState) (ipAddress : String) : Bool :=
  (s.cache .blacklist).contains ipAddress ||
    !(s.cache .whitelist).isEmpty && !(s.cache .whitelist).contains ipAddress

def logCheck (s : IpState) (ipAddress : String) (denied : Bool) : IpState :=
  { s with checks := s.checks ++ [⟨ipAddress, denied, s.listsDeny ipAddress⟩] }

/-- The upsert of `add_to_ip_list`. -/
def storeEntry (s : IpState) (entry : IpEntry) : IpState :=
  { s with
    entries := if entry.key ∈ s.entries.map IpEntry.key then
        Table.modify IpEntry.key entry.key (fun _ => entry) s.entries
      else s.entries ++ [entry]
    underway := true }

/-- The `delete_one` of `remove_from_ip_list`. -/
def deleteEntry (s : IpState) (key : IPListType × String) : IpState :=
  { s with entries := s.entries.eraseP fun entry => entry.key = key, underway := true }

def remember (s : IpState) (listType : IPListType) (ipAddress : String) : IpState :=
  { s with cache := Function.update s.cache listType ((s.cache listType).insert ipAddress) }

def forget (s : IpState) (listType : IPListType) (ipAddress : String) : IpState :=
  { s with cache := Function.update s.cache listType ((s.cache listType).filter (· ≠ ipAddress)) }

def clear (s : IpState) : IpState := { s with cache := fun _ => [], underway := true }

/-- The addresses of a stored list, as a cursor over it gives them. -/
def addresses (s : IpState) (listType : IPListType) : List String :=
  (s.entries.filter fun entry => entry.listType = listType).map IpEntry.ipAddress

/-- The lockout after one more failed attempt. -/
def countedAttempt (s : IpState) (attempt : LoginAttempt) : Lockout :=
  match Table.find Lockout.username s.lockouts attempt.username with
  | some lockout => { lockout with attempts := lockout.attempts + 1, lastIp := attempt.ipAddress }
  | none => ⟨attempt.username, 1, attempt.ipAddress, none⟩

end IpState

section

variable (config : SecurityConfig)

/-- One call of `record_login_attempt` and what follows it. -/
def resumeLogin (s : IpState) (attempt : LoginAttempt) : LoginCall → IpState × Option IpTask
  | .findLockout =>
    if s.lockouts.any fun lockout => lockout.username = attempt.username && lockout.expiresAt.any (attempt.now < ·) then
      (s, none)
    else (s, some (.login (if attempt.success then .clear else .count) attempt))
  | .clear => ({ s with lockouts := s.lockouts.filter fun lockout => lockout.username ≠ attempt.username }, none)
  | .count =>
    ({ s with lockouts := Table.put Lockout.username s.lockouts (s.countedAttempt attempt) },
      if config.maxLoginAttempts ≤ (s.countedAttempt attempt).attempts then some (.login .lock attempt) else none)
  | .lock =>
    let locked (lockout : Lockout) : Lockout :=
      { lockout with expiresAt := some (attempt.now + config.lockoutDuration) }
    ({ s with lockouts := Table.modify Lockout.username attempt.username locked s.lockouts },
      some (.login .countLockouts attempt))
  | .countLockouts =>
    if 3 ≤ s.lockouts.countP fun lockout =>
        lockout.lastIp = attempt.ipAddress && lockout.expiresAt.any (attempt.now < ·) then
      (s, some (.store ⟨.blacklist, attempt.ipAddress, some (attempt.now + 24 * 60 * 60 * 1000)⟩))
    else (s, none)

/-- The end of a load, and the check that waits for it. -/
def finishLoad (s : IpState) (check : Option String) : IpState :=
  let loaded := { s with cacheLoaded := true, underway := false }
  match check with
  | some ipAddress => loaded.logCheck ipAddress (loaded.cacheDenies ipAddress)
  | none => loaded

def resumeIp (s : IpState) : IpTask → IpState × Option IpTask
  | .check ipAddress =>
    if !config.enableIpFiltering then (s.logCheck ipAddress false, none)
    else if s.cacheLoaded then (s.logCheck ipAddress (s.cacheDenies ipAddress), none)
    else (s.clear, some (.read .whitelist (some ipAddress)))
  | .store entry => (s.storeEntry entry, some (.remember entry.listType entry.ipAddress))
  | .remember listType ipAddress => ({ s.remember listType ipAddress with underway := false }, none)
  | .delete listType ipAddress => (s.deleteEntry (listType, ipAddress), some (.forget listType ipAddress))
  | .forget listType ipAddress => ({ s.forget listType ipAddress with underway := false }, none)
  | .clear => (s.clear, some (.read .whitelist none))
  | .read listType check => (s, some (.fill listType (s.addresses listType) check))
  | .fill listType (ipAddress :: rest) check => (s.remember listType ipAddress, some (.fill listType rest check))
  | .fill .whitelist [] check => (s, some (.read .blacklist check))
  | .fill .blacklist [] check => (finishLoad s check, none)
  | .login call attempt => resumeLogin config s attempt call
  | .wait time => ({ s with clock := s.clock + time }, none)

abbrev IpCalls := Concurrent IpState IpTask

def IpCalls.step : IpCalls → Move IpRequest → IpCalls := Concurrent.step startIp (resumeIp config)

def IpState.listsCurrent (s : IpState) (ipAddress : String) : Bool :=
  s.entries.all fun entry => entry.unexpired s.clock || entry.key.1 = .blacklist && entry.key.2 != ipAddress

/-- No addition, removal or load begins while another one is under way. A check decides with
filtering enabled, while none is under way but the load that it has begun itself, and with no
expired entry that bears on its address. -/
def ipUndisturbed (c : IpCalls) : Move IpRequest → Bool
  | .resume slot =>
    match c.task slot with
    | some (.check ipAddress) =>
      config.enableIpFiltering && !c.store.underway && (!c.store.cacheLoaded || c.store.listsCurrent ipAddress)
    | some (.store _) | some (.delete _ _) | some .clear => !c.store.underway
    | some (.fill .blacklist [] (some ipAddress)) => c.store.listsCurrent ipAddress
    | _ => true
  | _ => true

end

namespace IpState

def keys (s : IpState) : List (IPListType × String) := s.entries.map IpEntry.key

def AgreesOn (s : IpState) (listType : IPListType) : Prop :=
  ∀ ipAddress, ipAddress ∈ s.cache listType ↔ (listType, ipAddress) ∈ s.keys

variable {s : IpState}

theorem mem_addresses {listType : IPListType} {ipAddress : String} :
    ipAddress ∈ s.addresses listType ↔ (listType, ipAddress) ∈ s.keys := by
  simp only [addresses, keys, List.mem_map, List.mem_filter, decide_eq_true_eq, IpEntry.key, Prod.ext_iff]
  constructor
  · rintro ⟨entry, ⟨member, isList⟩, isAddress⟩
    exact ⟨entry, member, isList, isAddress⟩
  · rintro ⟨entry, member, isList, isAddress⟩
    exact ⟨entry, ⟨member, isList⟩, isAddress⟩

/-- Where the sets hold what is stored and nothing that matters has expired, the decision is the one
that the lists ask for. -/
theorem cacheDenies_eq {ipAddress : String} (agrees : ∀ listType, s.AgreesOn listType)
    (current : s.listsCurrent ipAddress = true) : s.cacheDenies ipAddress = s.listsDeny ipAddress := by
  have bears : ∀ entry ∈ s.entries, entry.key = (.blacklist, ipAddress) ∨ entry.key.1 = .whitelist →
      entry.unexpired s.clock = true := by
    intro entry member matters
    have each := List.all_eq_true.mp current entry member
    rw [Bool.or_eq_true] at each
    rcases each with fresh | apart
    · exact fresh
    · rw [Bool.and_eq_true, decide_eq_true_eq, bne_iff_ne] at apart
      rcases matters with isKey | isWhite
      · rw [isKey] at apart
        exact absurd rfl apart.2
      · rw [apart.1] at isWhite
        cases isWhite
  have kept : ∀ key, key = (IPListType.blacklist, ipAddress) ∨ key.1 = .whitelist →
      (key ∈ (s.entries.filter (·.unexpired s.clock)).map IpEntry.key ↔ key ∈ s.keys) := by
    intro key matters
    simp only [keys, List.mem_map, List.mem_filter]
    constructor
    · rintro ⟨entry, ⟨member, _⟩, isKey⟩
      exact ⟨entry, member, isKey⟩
    · rintro ⟨entry, member, rfl⟩
      exact ⟨entry, ⟨member, bears entry member matters⟩, rfl⟩
  have filled : (s.cache .whitelist).isEmpty = false ↔
      ∃ key ∈ (s.entries.filter (·.unexpired s.clock)).map IpEntry.key, key.1 = .whitelist := by
    rw [List.isEmpty_eq_false_iff_exists_mem]
    constructor
    · rintro ⟨address, member⟩
      exact ⟨(.whitelist, address), (kept _ (.inr rfl)).mpr ((agrees _ address).mp member), rfl⟩
    · rintro ⟨⟨listType, address⟩, member, rfl⟩
      exact ⟨address, (agrees _ address).mpr ((kept _ (.inr rfl)).mp member)⟩
  rw [Bool.eq_iff_iff]
  simp only [cacheDenies, listsDeny, Bool.or_eq_true, Bool.and_eq_true, Bool.not_eq_true',
    List.any_eq_true, decide_eq_true_eq, List.contains_eq_mem, decide_eq_false_iff_not, filled]
  rw [agrees, agrees, kept _ (.inl rfl), kept (.whitelist, ipAddress) (.inr rfl)]

theorem keys_storeEntry (s : IpState) (entry : IpEntry) :
    (s.storeEntry entry).keys = if entry.key ∈ s.keys then s.keys else s.keys ++ [entry.key] := by
  unfold keys storeEntry
  dsimp only
  split
  · rw [Table.modify, List.map_map]
    apply List.map_congr_left
    intro row _
    dsimp only [Function.comp]
    split
    · next named => exact named.symm
    · rfl
  · rw [List.map_append, List.map_singleton]

theorem mem_keys_storeEntry {entry : IpEntry} {key : IPListType × String} :
    key ∈ (s.storeEntry entry).keys ↔ key = entry.key ∨ key ∈ s.keys := by
  rw [keys_storeEntry]
  split
  · next present =>
    constructor
    · exact .inr
    · rintro (rfl | member)
      · exact present
      · exact member
  · rw [List.mem_append, List.mem_singleton, or_comm]

theorem nodup_storeEntry (entry : IpEntry) (distinct : s.keys.Nodup) : (s.storeEntry entry).keys.Nodup := by
  rw [keys_storeEntry]
  split
  · exact distinct
  · next absent =>
    rw [List.nodup_append]
    refine ⟨distinct, List.nodup_singleton _, ?_⟩
    intro key member other isNew same
    rw [same, List.mem_singleton.mp isNew] at member
    exact absent member

theorem keys_deleteEntry (s : IpState) (key : IPListType × String) : (s.deleteEntry key).keys = s.keys.erase key := by
  unfold keys deleteEntry
  dsimp only
  induction s.entries with
  | nil => rfl
  | cons entry rest ih =>
    rw [List.map_cons, List.erase_cons]
    by_cases named : entry.key = key
    · rw [List.eraseP_cons_of_pos (by simpa using named)]
      simp [named]
    · rw [List.eraseP_cons_of_neg (by simpa using named), List.map_cons, ih]
      simp [named]

end IpState

/-- Each address of a list is stored once, the sets of a loaded cache hold the lists unless a change
is under way, and every check so far was what the lists asked for. -/
structure IpFollows (s : IpState) : Prop where
  distinct : s.keys.Nodup
  agrees : s.cacheLoaded = true → s.underway = false → ∀ listType, s.AgreesOn listType
  checked : ∀ check ∈ s.checks, check.denied = check.due

/-- The sets hold the lists, but for one address. -/
def IpState.AgreesBut (s : IpState) (listType : IPListType) (ipAddress : String) : Prop :=
  ∀ other address, (other, address) ≠ (listType, ipAddress) → (address ∈ s.cache other ↔ (other, address) ∈ s.keys)

/-- What a change under way relies on. -/
def IpTask.Fits (s : IpState) : IpTask → Prop
  | .remember listType ipAddress => s.underway = true ∧ (listType, ipAddress) ∈ s.keys ∧
      (s.cacheLoaded = true → s.AgreesBut listType ipAddress)
  | .forget listType ipAddress => s.underway = true ∧ (listType, ipAddress) ∉ s.keys ∧
      (s.cacheLoaded = true → s.AgreesBut listType ipAddress)
  | .read .whitelist _ => s.underway = true ∧ ∀ listType, s.cache listType = []
  | .fill .whitelist rest _ => s.underway = true ∧
      (∀ address, address ∈ s.cache .whitelist ∨ address ∈ rest ↔ (.whitelist, address) ∈ s.keys) ∧
      s.cache .blacklist = []
  | .read .blacklist _ => s.underway = true ∧ s.AgreesOn .whitelist ∧ s.cache .blacklist = []
  | .fill .blacklist rest _ => s.underway = true ∧ s.AgreesOn .whitelist ∧
      ∀ address, address ∈ s.cache .blacklist ∨ address ∈ rest ↔ (.blacklist, address) ∈ s.keys
  | _ => True

/-- Whether a task is between the first and the last write of a change. -/
def IpTask.Changes : IpTask → Prop
  | .remember _ _ | .forget _ _ | .read _ _ | .fill _ _ _ => True
  | _ => False

/-- The lists, the sets and whether a change is under way are the same. -/
structure SameLists (s t : IpState) : Prop where
  entries : t.entries = s.entries
  cache : t.cache = s.cache
  loaded : t.cacheLoaded = s.cacheLoaded
  underway : t.underway = s.underway

variable {s t : IpState}

theorem SameLists.keys (same : SameLists s t) : t.keys = s.keys := by
  rw [IpState.keys, same.entries, IpState.keys]

variable {listType : IPListType}

theorem SameLists.agreesOn (same : SameLists s t) (agrees : s.AgreesOn listType) : t.AgreesOn listType := by
  intro address
  rw [same.cache, same.keys]
  exact agrees address

variable {task : IpTask}

theorem IpTask.Fits.underway (fits : task.Fits s) (changes : task.Changes) : s.underway = true := by
  cases task with
  | remember listType ipAddress => exact fits.1
  | forget listType ipAddress => exact fits.1
  | read listType check | fill listType rest check => cases listType <;> exact fits.1
  | check ipAddress | store entry | delete listType ipAddress | clear | login call attempt | wait time => cases changes

theorem IpTask.Fits.same (fits : task.Fits s) (same : SameLists s t) : task.Fits t := by
  have but : ∀ {listType ipAddress}, (s.cacheLoaded = true → s.AgreesBut listType ipAddress) →
      t.cacheLoaded = true → t.AgreesBut listType ipAddress := by
    intro listType ipAddress agrees loaded other address different
    rw [same.cache, same.keys]
    exact agrees (same.loaded.symm.trans loaded) other address different
  cases task with
  | remember listType ipAddress | forget listType ipAddress =>
    exact ⟨same.underway.trans fits.1, by rw [same.keys]; exact fits.2.1, but fits.2.2⟩
  | read listType check =>
    cases listType with
    | whitelist => exact ⟨same.underway.trans fits.1, by rw [same.cache]; exact fits.2⟩
    | blacklist => exact ⟨same.underway.trans fits.1, same.agreesOn fits.2.1, by rw [same.cache]; exact fits.2.2⟩
  | fill listType rest check =>
    cases listType with
    | whitelist => exact ⟨same.underway.trans fits.1, by rw [same.cache, same.keys]; exact fits.2⟩
    | blacklist =>
      exact ⟨same.underway.trans fits.1, same.agreesOn fits.2.1, by rw [same.cache, same.keys]; exact fits.2.2⟩
  | check ipAddress | store entry | delete listType ipAddress | clear | login call attempt | wait time => trivial

theorem IpFollows.same (follows : IpFollows s) (same : SameLists s t)
    (checked : ∀ check ∈ t.checks, check.denied = check.due) : IpFollows t := by
  refine ⟨by rw [same.keys]; exact follows.distinct, ?_, checked⟩
  intro loaded still listType
  exact same.agreesOn (follows.agrees (same.loaded.symm.trans loaded) (same.underway.symm.trans still) listType)

variable {ipAddress : String}

theorem IpFollows.logCheck (follows : IpFollows s) {denied : Bool}
    (due : denied = s.listsDeny ipAddress) : IpFollows (s.logCheck ipAddress denied) := by
  refine follows.same ⟨rfl, rfl, rfl, rfl⟩ ?_
  intro check member
  rcases List.mem_append.mp member with earlier | isNew
  · exact follows.checked check earlier
  · rw [List.mem_singleton.mp isNew]
    exact due

theorem mem_cache_remember {other : IPListType} {address : String} :
    address ∈ (s.remember listType ipAddress).cache other ↔
      (other = listType ∧ address = ipAddress) ∨ address ∈ s.cache other := by
  unfold IpState.remember
  dsimp only
  by_cases here : other = listType
  · subst here
    rw [Function.update_self, List.mem_insert_iff]
    simp
  · rw [Function.update_of_ne here]
    simp [here]

theorem mem_cache_forget {other : IPListType} {address : String} :
    address ∈ (s.forget listType ipAddress).cache other ↔
      ¬ (other = listType ∧ address = ipAddress) ∧ address ∈ s.cache other := by
  unfold IpState.forget
  dsimp only
  by_cases here : other = listType
  · subst here
    rw [Function.update_self, List.mem_filter]
    simp [and_comm]
  · rw [Function.update_of_ne here]
    simp [here]

/-- What a call may make of the state when it goes on. -/
structure IpGoesOn (s : IpState) (task : IpTask) (after : IpState × Option IpTask) : Prop where
  follows : IpFollows after.1
  own : ∀ next, after.2 = some next → next.Fits after.1
  rests : s.underway = true → ¬ task.Changes → SameLists s after.1
  alone : ∀ next, after.2 = some next → next.Changes → task.Changes ∨ s.underway = false

variable {after : IpState}

theorem IpFollows.begins (follows : IpFollows s) {next : IpTask} (still : s.underway = false)
    (distinct : after.keys.Nodup) (underway : after.underway = true) (checks : after.checks = s.checks)
    (fits : next.Fits after) : IpGoesOn s task (after, some next) := by
  refine ⟨⟨distinct, ?_, by rw [checks]; exact follows.checked⟩, ?_, ?_, fun _ _ _ => .inr still⟩
  · intro _ ended
    rw [underway] at ended
    cases ended
  · intro t goesOn
    cases goesOn
    exact fits
  · intro begun
    rw [still] at begun
    cases begun

theorem IpFollows.rests (follows : IpFollows s) {next : Option IpTask} (same : SameLists s after)
    (checks : after.checks = s.checks) (apart : ∀ t, next = some t → t.Fits after ∧ ¬ t.Changes) :
    IpGoesOn s task (after, next) where
  follows := follows.same same (by rw [checks]; exact follows.checked)
  own t goesOn := (apart t goesOn).1
  rests _ _ := same
  alone t goesOn changes := absurd changes (apart t goesOn).2

theorem IpFollows.changes {next : Option IpTask} (changes : task.Changes) (follows : IpFollows after)
    (own : ∀ t, next = some t → t.Fits after) : IpGoesOn s task (after, next) :=
  ⟨follows, own, fun _ apart => absurd changes apart, fun _ _ _ => .inl changes⟩

section

variable {config : SecurityConfig}

section

variable (follows : IpFollows s)
include follows

theorem IpFollows.clears (check : Option String) (still : s.underway = false) :
    IpGoesOn s task (s.clear, some (.read .whitelist check)) :=
  follows.begins still follows.distinct rfl rfl ⟨rfl, fun _ => rfl⟩

theorem IpFollows.stores (entry : IpEntry) (still : s.underway = false) :
    IpGoesOn s (.store entry) (resumeIp config s (.store entry)) := by
  apply follows.begins still (IpState.nodup_storeEntry entry follows.distinct) rfl rfl
  refine ⟨rfl, IpState.mem_keys_storeEntry.mpr (.inl rfl), ?_⟩
  intro loaded other address different
  have apart : (other, address) ≠ entry.key := different
  rw [IpState.mem_keys_storeEntry, or_iff_right apart]
  exact follows.agrees loaded still other address

theorem IpFollows.deletes (listType : IPListType) (ipAddress : String)
    (still : s.underway = false) :
    IpGoesOn s (.delete listType ipAddress) (resumeIp config s (.delete listType ipAddress)) := by
  have keys := IpState.keys_deleteEntry s (listType, ipAddress)
  apply follows.begins still
  · rw [keys]
    exact follows.distinct.erase _
  · rfl
  · rfl
  · refine ⟨rfl, ?_, ?_⟩
    · rw [keys]
      exact follows.distinct.not_mem_erase
    · intro loaded other address different
      rw [keys, follows.distinct.mem_erase_iff, and_iff_right different]
      exact follows.agrees loaded still other address

theorem IpFollows.remembers
    (fits : (IpTask.remember listType ipAddress).Fits s) :
    IpGoesOn s (.remember listType ipAddress) (resumeIp config s (.remember listType ipAddress)) := by
  obtain ⟨_, stored, agrees⟩ := fits
  refine IpFollows.changes trivial ⟨follows.distinct, ?_, follows.checked⟩ nofun
  intro loaded _ other address
  refine mem_cache_remember.trans ?_
  by_cases here : (other, address) = (listType, ipAddress)
  · cases here
    exact iff_of_true (.inl ⟨rfl, rfl⟩) stored
  · rw [agrees loaded other address here]
    refine or_iff_right fun same => here ?_
    rw [same.1, same.2]

theorem IpFollows.forgets
    (fits : (IpTask.forget listType ipAddress).Fits s) :
    IpGoesOn s (.forget listType ipAddress) (resumeIp config s (.forget listType ipAddress)) := by
  obtain ⟨_, gone, agrees⟩ := fits
  refine IpFollows.changes trivial ⟨follows.distinct, ?_, follows.checked⟩ nofun
  intro loaded _ other address
  refine mem_cache_forget.trans ?_
  by_cases here : (other, address) = (listType, ipAddress)
  · cases here
    exact iff_of_false (fun kept => kept.1 ⟨rfl, rfl⟩) gone
  · rw [agrees loaded other address here]
    refine and_iff_right fun same => here ?_
    rw [same.1, same.2]

/-- The steps of a load after it has cleared the sets. -/
theorem IpFollows.loads {rest : List String} {check : Option String}
    (fits : (IpTask.fill listType rest check).Fits s)
    (current : listType = .blacklist → rest = [] → ∀ ipAddress ∈ check, s.listsCurrent ipAddress = true) :
    IpGoesOn s (.fill listType rest check) (resumeIp config s (.fill listType rest check)) := by
  have underway := fits.underway trivial
  cases rest with
  | cons ipAddress rest =>
    refine IpFollows.changes ?_ ?_ ?_
    · trivial
    · refine ⟨follows.distinct, ?_, follows.checked⟩
      intro _ still
      have begun : s.underway = false := still
      rw [underway] at begun
      cases begun
    · intro next goesOn
      cases listType with
      | whitelist =>
        cases goesOn
        refine ⟨underway, fun address => ?_, fits.2.2⟩
        rw [mem_cache_remember, eq_self, true_and, or_comm (a := address = ipAddress), or_assoc,
          ← List.mem_cons (a := address)]
        exact fits.2.1 address
      | blacklist =>
        cases goesOn
        refine ⟨underway, fits.2.1, fun address => ?_⟩
        rw [mem_cache_remember, eq_self, true_and, or_comm (a := address = ipAddress), or_assoc,
          ← List.mem_cons (a := address)]
        exact fits.2.2 address
  | nil =>
    cases listType with
    | whitelist =>
      refine IpFollows.changes ?_ follows ?_
      · trivial
      intro next goesOn
      cases goesOn
      refine ⟨underway, fun address => ?_, fits.2.2⟩
      rw [← fits.2.1 address]
      simp
    | blacklist =>
      have agrees : ∀ listType, IpState.AgreesOn { s with cacheLoaded := true, underway := false } listType := by
        intro listType
        cases listType with
        | whitelist => exact fits.2.1
        | blacklist =>
          intro address
          have both := fits.2.2 address
          rwa [List.mem_nil_iff, or_false] at both
      have loaded : IpFollows { s with cacheLoaded := true, underway := false } :=
        ⟨follows.distinct, fun _ _ => agrees, follows.checked⟩
      refine IpFollows.changes ?_ ?_ ?_
      · trivial
      · cases check with
        | none => exact loaded
        | some ipAddress => exact loaded.logCheck (IpState.cacheDenies_eq agrees (current rfl rfl ipAddress rfl))
      · intro next ended
        cases ended

theorem IpFollows.logsIn (attempt : LoginAttempt) (call : LoginCall) :
    IpGoesOn s (.login call attempt) (resumeLogin config s attempt call) := by
  cases call with
  | findLockout =>
    simp only [resumeLogin]
    split
    · exact follows.rests ⟨rfl, rfl, rfl, rfl⟩ rfl nofun
    · apply follows.rests ⟨rfl, rfl, rfl, rfl⟩ rfl
      intro t goesOn
      cases goesOn
      exact ⟨trivial, id⟩
  | clear => exact follows.rests ⟨rfl, rfl, rfl, rfl⟩ rfl nofun
  | count =>
    refine follows.rests ?_ ?_ ?_
    · exact ⟨rfl, rfl, rfl, rfl⟩
    · rfl
    intro t goesOn
    split at goesOn
    · cases goesOn
      exact ⟨trivial, id⟩
    · cases goesOn
  | lock =>
    refine follows.rests ?_ ?_ ?_
    · exact ⟨rfl, rfl, rfl, rfl⟩
    · rfl
    intro t goesOn
    cases goesOn
    exact ⟨trivial, id⟩
  | countLockouts =>
    simp only [resumeLogin]
    split
    · apply follows.rests ⟨rfl, rfl, rfl, rfl⟩ rfl
      intro t goesOn
      cases goesOn
      exact ⟨trivial, id⟩
    · exact follows.rests ⟨rfl, rfl, rfl, rfl⟩ rfl nofun

end

end

structure IpSound (c : IpCalls) : Prop where
  sound : Concurrent.Sound IpFollows IpTask.Fits c
  single : Concurrent.Exclusive IpTask.Changes c.task

variable {c : IpCalls}

section

variable {config : SecurityConfig}

theorem IpSound.resumed (kept : IpSound c) {slot : Nat}
    (quiet : ipUndisturbed config c (.resume slot) = true) (held : c.task slot = some task) :
    IpGoesOn c.store task (resumeIp config c.store task) := by
  have follows := kept.sound.store
  have fits := kept.sound.tasks slot task held
  cases task with
  | check ipAddress =>
    simp only [ipUndisturbed, held, Bool.and_eq_true, Bool.not_eq_true', Bool.or_eq_true] at quiet
    obtain ⟨⟨enabled, still⟩, ready⟩ := quiet
    simp only [resumeIp, enabled, Bool.not_true, Bool.false_eq_true, if_false]
    cases loaded : c.store.cacheLoaded with
    | false => exact follows.clears (some ipAddress) still
    | true =>
      have current : c.store.listsCurrent ipAddress = true := by
        rw [loaded] at ready
        rcases ready with absent | current
        · cases absent
        · exact current
      refine ⟨?_, ?_, fun _ _ => ⟨rfl, rfl, rfl, rfl⟩, ?_⟩
      · exact follows.logCheck (IpState.cacheDenies_eq (follows.agrees loaded still) current)
      · intro next ended
        cases ended
      · intro next ended
        cases ended
  | store entry =>
    simp only [ipUndisturbed, held, Bool.not_eq_true'] at quiet
    exact follows.stores entry quiet
  | remember listType ipAddress => exact follows.remembers fits
  | delete listType ipAddress =>
    simp only [ipUndisturbed, held, Bool.not_eq_true'] at quiet
    exact follows.deletes listType ipAddress quiet
  | forget listType ipAddress => exact follows.forgets fits
  | clear =>
    simp only [ipUndisturbed, held, Bool.not_eq_true'] at quiet
    exact follows.clears none quiet
  | read listType check =>
    refine IpFollows.changes ?_ follows ?_
    · trivial
    intro next goesOn
    cases goesOn
    cases listType with
    | whitelist =>
      refine ⟨fits.1, fun address => ?_, fits.2 .blacklist⟩
      rw [fits.2 .whitelist, IpState.mem_addresses]
      simp
    | blacklist =>
      refine ⟨fits.1, fits.2.1, fun address => ?_⟩
      rw [fits.2.2, IpState.mem_addresses]
      simp
  | fill listType rest check =>
    apply follows.loads fits
    intro isBlack isEnd ipAddress waits
    subst isBlack isEnd
    rw [Option.mem_def] at waits
    simpa only [ipUndisturbed, held, waits] using quiet
  | login call attempt => exact follows.logsIn attempt call
  | wait time => exact follows.rests ⟨rfl, rfl, rfl, rfl⟩ rfl nofun

theorem IpSound.step {move : Move IpRequest} (kept : IpSound c)
    (quiet : ipUndisturbed config c move = true) : IpSound (IpCalls.step config c move) := by
  constructor
  · apply kept.sound.step
    · intro slot request t _ begun
      cases request <;> cases begun <;> trivial
    · intro slot task isResume held _
      subst isResume
      have on := kept.resumed quiet held
      refine ⟨on.follows, on.own, fun other u different before fits => ?_⟩
      by_cases changes : u.Changes
      · apply fits.same
        apply on.rests (fits.underway changes)
        intro itself
        exact different (kept.single other slot u task before held changes itself)
      · cases u with
        | remember listType ipAddress | forget listType ipAddress | read listType check
        | fill listType rest check => exact absurd trivial changes
        | check ipAddress | store entry | delete listType ipAddress | clear | login call attempt | wait time => trivial
  · apply kept.single.step
    · intro request t begun changes
      cases request <;> cases begun <;> cases changes
    · intro slot task next isResume held goesOn changes
      subst isResume
      rcases (kept.resumed quiet held).alone next goesOn changes with was | still
      · exact .inl was
      · refine .inr fun other u before itself => ?_
        have underway := (kept.sound.tasks other u before).underway itself
        rw [still] at underway
        cases underway

end

/-- The service has just been made: nothing is loaded, checked or in flight, and each address of a
stored list is stored once. -/
structure IpStart (c : IpCalls) : Prop where
  distinct : c.store.keys.Nodup
  unloaded : c.store.cacheLoaded = false
  unchecked : c.store.checks = []
  idle : ∀ slot, c.task slot = none

theorem IpStart.sound (start : IpStart c) : IpSound c := by
  refine ⟨⟨⟨start.distinct, ?_, ?_⟩, ?_⟩, ?_⟩
  · intro loaded
    rw [start.unloaded] at loaded
    cases loaded
  · intro check member
    rw [start.unchecked] at member
    cases member
  · intro slot task held
    rw [start.idle] at held
    cases held
  · intro n m t u held
    rw [start.idle] at held
    cases held

/-- With filtering enabled, changes that do not overlap and no expired entry where a check is made,
every check denies exactly what the stored lists ask for. -/
theorem ip_filter_follows {config : SecurityConfig} {first last : IpCalls} (start : IpStart first)
    (run : Reaches (IpCalls.step config) (fun c move => ipUndisturbed config c move = true) first last) :
    ∀ check ∈ last.store.checks, check.denied = check.due := by
  have kept : IpSound last := run.invariant start.sound fun c move sound quiet => sound.step quiet
  exact kept.sound.store.checked

def newIpService : IpCalls where
  store := {}

theorem newIpService_start : IpStart newIpService := ⟨List.nodup_nil, rfl, rfl, fun _ => rfl⟩

def ipCall (request : IpRequest) (steps : Nat) : List (Move IpRequest) :=
  .start 0 request :: List.replicate steps (.resume 0)

/-- The address is blacklisted for an hour, checked, taken off the list and checked again; the last
address is denied for want of a whitelist entry. -/
def ipCallsInTurn : List (Move IpRequest) :=
  ipCall (.addToIpList ⟨.blacklist, "10.0.0.1", some 3600000⟩) 2 ++ ipCall (.checkIp "10.0.0.1") 6 ++
    ipCall (.wait 1000) 1 ++ ipCall (.removeFromIpList .blacklist "10.0.0.1") 2 ++ ipCall (.checkIp "10.0.0.1") 1 ++
    ipCall (.addToIpList ⟨.whitelist, "10.0.0.2", none⟩) 2 ++ ipCall (.checkIp "10.0.0.3") 1

theorem ip_filter_follows_in_turn :
    (∀ check ∈ (ipCallsInTurn.foldl (IpCalls.step {}) newIpService).store.checks, check.denied = check.due) ∧
      (ipCallsInTurn.foldl (IpCalls.step {}) newIpService).store.checks.map (·.denied) = [true, false, true] := by
  refine ⟨ip_filter_follows newIpService_start (Reaches.of_admitted ?_), ?_⟩
  · decide +kernel
  · decide +kernel

/-- The entry for an hour is checked two hours later. -/
def ipCheckedLate : List (Move IpRequest) :=
  ipCall (.addToIpList ⟨.blacklist, "10.0.0.1", some 3600000⟩) 2 ++ ipCall (.wait 7200000) 1 ++
    ipCall (.checkIp "10.0.0.1") 6

/-- A check of a blacklisted address falls into a load that has just cleared the sets. -/
def ipCheckedInLoad : List (Move IpRequest) :=
  ipCall (.addToIpList ⟨.blacklist, "10.0.0.1", none⟩) 2 ++ ipCall .loadIpCache 6 ++
    [.start 1 .loadIpCache, .resume 1] ++ ipCall (.checkIp "10.0.0.1") 1

/-- An expired entry still denies, and a load lets a blacklisted address through. -/
theorem ip_filter_strays :
    ¬ (∀ (config : SecurityConfig) (first last : IpCalls), config.enableIpFiltering = true → IpStart first →
      Reaches (IpCalls.step config) (fun _ _ => True) first last →
      ∀ check ∈ last.store.checks, check.denied = check.due) ∧
    (ipCheckedLate.foldl (IpCalls.step {}) newIpService).store.checks = [⟨"10.0.0.1", true, false⟩] ∧
    (ipCheckedInLoad.foldl (IpCalls.step {}) newIpService).store.checks = [⟨"10.0.0.1", false, true⟩] := by
  have late : (ipCheckedLate.foldl (IpCalls.step {}) newIpService).store.checks = [⟨"10.0.0.1", true, false⟩] := by
    decide +kernel
  refine ⟨?_, late, by decide +kernel⟩
  intro always
  have follows := always {} newIpService _ rfl newIpService_start
    (Reaches.foldl fun _ (move : Move IpRequest) (_ : move ∈ ipCheckedLate) => trivial)
  rw [late] at follows
  exact absurd (follows _ (List.mem_singleton.mpr rfl)) (by decide)

end StockVerification
