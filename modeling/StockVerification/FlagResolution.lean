import StockVerification.OfflineQueue

/-!
# Feature flags of a request

Source: backend/services/flag_resolver.py:27-247 and backend/services/feature_flags.py:18-54.

A flag is validated from its stored document. The validated flag keeps the declared fields only, and
the overrides by scope are not one of them. Fields that no resolution reads are left out.
-/
namespace StockVerification

open Foundation

namespace Flags

inductive FeatureState where
  | enabled
  | disabled
  | percentage
  | users
  | roles
  deriving DecidableEq

structure FeatureFlag where
  key : String
  state : FeatureState := .disabled
  percentage : Int := 0
  allowedUsers : List String := []
  allowedRoles : List String := []

/-- `scope_overrides`: values by scope name and identifier; none stands for what is no
dictionary. -/
abbrev ScopeOverrides := List (String × Option (List (String × Value)))

structure FlagDocument where
  fields : Doc
  scopeOverrides : ScopeOverrides := []

structure RequestContext where
  requestId : Value := .null
  sessionId : Value := .null
  userId : Value := .null
  username : Value := .null
  warehouse : Value := .null
  role : Option String := none

inductive StableScope where
  | session
  | user
  | warehouse
  | global
  deriving DecidableEq

/-- What the program takes from elsewhere: the validation of a flag, and the digest in hexadecimal
digits. -/
structure FlagTools where
  validate : Doc → Option FeatureFlag
  sha256 : String → String

def normalizeIdentifier (value : Value) : Option String :=
  if value = .null ∨ Text.strip value.text = "" then none else some (Text.strip value.text)

namespace RequestContext

/-- `_context_value`; the scope of a request is apart from the stable ones. -/
def value (context : RequestContext) : StableScope → Option String
  | .session => normalizeIdentifier context.sessionId
  | .warehouse => normalizeIdentifier context.warehouse
  | .user => normalizeIdentifier (context.userId.orElse context.username)
  | .global => none

def requestValue (context : RequestContext) : Option String := normalizeIdentifier context.requestId

end RequestContext

/-- `_SCOPE_ALIASES`. -/
def scopeAliases : StableScope → List String
  | .session => ["session", "session_id"]
  | .user => ["user", "user_id"]
  | .warehouse => ["warehouse"]
  | .global => []

def requestAliases : List String := ["request", "request_id"]

variable (tools : FlagTools)

def loadFlag (key : String) : Option FlagDocument → Except String (Option FeatureFlag)
  | none => .ok none
  | some document =>
    match tools.validate document.fields with
    | some flag => .ok (some flag)
    | none => .error ("invalid feature flag document for " ++ key)

/-- `getattr(flag, "scope_overrides", None) or {}`: no flag has the attribute. -/
def FeatureFlag.scopeOverrides (_ : FeatureFlag) : ScopeOverrides := []

/-- The override that a map has for an identifier under one of the names. -/
def overrideIn (overrides : ScopeOverrides) (aliases : List String) (identifier : Option String) : Option Bool :=
  identifier.bind fun identifier => aliases.findSome? fun scopeKey =>
    match overrides.lookup scopeKey with
    | some (some scopedValues) => (scopedValues.lookup identifier).map Value.truthy
    | _ => none

def overrideValue (flag : Option FeatureFlag) (aliases : List String) (identifier : Option String) : Option Bool :=
  flag.bind fun flag => overrideIn flag.scopeOverrides aliases identifier

/-- The first of the scopes in their order with an override, and its value. -/
def firstOverride (override : StableScope → Option Bool) : Option (StableScope × Bool) :=
  [StableScope.session, .user, .warehouse].findSome? fun scope => (override scope).map fun value => (scope, value)

/-- `int(digest[:8], 16) % 100`. -/
def bucket (digest : String) : Nat := (digest.toList.take 8).foldl (fun n c => 16 * n + (hexDigit c).getD 0) 0 % 100

def globalFlagValue (context : RequestContext) : Option FeatureFlag → Bool
  | none => false
  | some flag =>
    match flag.state with
    | .disabled => false
    | .enabled => true
    | .users => (context.value .user).any flag.allowedUsers.contains
    | .roles => context.role.any fun role => role != "" && flag.allowedRoles.contains role
    | .percentage =>
      (context.value .user).any fun user =>
      decide ((bucket (tools.sha256 (flag.key ++ ":" ++ user)) : Int) < flag.percentage)

def resolveFlagValue (context : RequestContext) (includeRequestScope : Bool)
    (flag : Option FeatureFlag) : Bool × Option StableScope × Option Bool :=
  let requestOverride := if includeRequestScope then overrideValue flag requestAliases context.requestValue else none
  match firstOverride fun scope => overrideValue flag (scopeAliases scope) (context.value scope) with
  | some (scope, value) => (value, some scope, requestOverride)
  | none =>
    match requestOverride with
    | some value => (value, none, some value)
    | none => (globalFlagValue tools context flag, none, none)

def selectScope (contributing : List (Option StableScope)) : StableScope :=
  ([StableScope.session, .user, .warehouse, .global].find? fun scope => contributing.contains (some scope)).getD .global

/-- `FlagResolution`: only consistent combinations can be built. -/
structure FlagResolution where
  compare : Bool
  shadow : Bool
  enforceWrites : Bool
  scope : StableScope
  shadow_compares : shadow = true → compare = true
  writes_shadow : enforceWrites = true → shadow = true

/-- `normalize_flag_resolution`, with `validate_combination`. -/
def normalizeFlagResolution (compare shadow enforceWrites : Bool) (scope : StableScope) : Except String FlagResolution :=
  if first : shadow && !compare then .error "Value error, invalid flag combination: shadow requires compare"
  else if enforceWrites && !compare then
    .error "Value error, invalid flag combination: enforce_writes requires compare"
  else if third : enforceWrites && !shadow then
    .error "Value error, invalid flag combination: enforce_writes requires shadow"
  else .ok ⟨compare, shadow, enforceWrites, scope, by simpa using first, by simpa using third⟩

/-- `resolve_phase0_flags`, on the four documents by their keys. -/
def resolvePhase0Flags (documents : String → Option FlagDocument) (context : RequestContext) (isMutation : Bool) :
    Except String FlagResolution := do
  let _ ← loadFlag tools "BL_V2_GLOBAL_DISABLE" (documents "BL_V2_GLOBAL_DISABLE")
  let compare ← loadFlag tools "BL_V2_COMPARE" (documents "BL_V2_COMPARE")
  let shadow ← loadFlag tools "BL_V2_SHADOW" (documents "BL_V2_SHADOW")
  let enforceWrites ← loadFlag tools "BL_V2_ENFORCE_WRITES" (documents "BL_V2_ENFORCE_WRITES")
  let compare := resolveFlagValue tools context (!isMutation) compare
  let shadow := resolveFlagValue tools context (!isMutation) shadow
  let enforceWrites := resolveFlagValue tools context (!isMutation) enforceWrites
  normalizeFlagResolution compare.1 shadow.1 enforceWrites.1
    (selectScope [compare.2.1, shadow.2.1, enforceWrites.2.1])

/-- The first override that the map of a document has for the context. -/
def documentOverride (overrides : ScopeOverrides) (context : RequestContext) : Option (StableScope × Bool) :=
  firstOverride fun scope => overrideIn overrides (scopeAliases scope) (context.value scope)

/-- Writes do not depend on the request, the override of a scope hides what comes after it,
resolutions are consistent, and a higher percentage keeps a flag on, where the documents of the
flags have these overrides. -/
structure ResolvesByScope (overrides : ScopeOverrides) (context : RequestContext) : Prop where
  mutations : ∀ documents requestId, resolvePhase0Flags tools documents { context with requestId := requestId } true =
    resolvePhase0Flags tools documents context true
  hides : ∀ key fields flag scope value, loadFlag tools key (some ⟨fields, overrides⟩) = .ok flag →
    documentOverride overrides context = some (scope, value) →
    ∀ includeRequestScope, (resolveFlagValue tools context includeRequestScope flag).1 = value
  consistent : ∀ documents isMutation resolution, resolvePhase0Flags tools documents context isMutation = .ok resolution →
    (resolution.enforceWrites = true → resolution.shadow = true) ∧ (resolution.shadow = true → resolution.compare = true)
  monotone : ∀ (flag : FeatureFlag) (low high : Int) (includeRequestScope : Bool), low ≤ high →
    (resolveFlagValue tools context includeRequestScope (some { flag with percentage := low })).1 = true →
    (resolveFlagValue tools context includeRequestScope (some { flag with percentage := high })).1 = true

variable {tools} {context : RequestContext}

theorem overrideValue_none (flag : Option FeatureFlag) (aliases : List String)
    (identifier : Option String) : overrideValue flag aliases identifier = none := by
  have nowhere : overrideIn [] aliases identifier = none := by
    cases identifier with
    | none => rfl
    | some identifier =>
      rw [overrideIn, Option.bind_some, List.findSome?_eq_none_iff]
      intro scopeKey _
      rfl
  cases flag with
  | none => rfl
  | some flag => exact nowhere

theorem resolveFlagValue_global (includeRequestScope : Bool) (flag : Option FeatureFlag) :
    resolveFlagValue tools context includeRequestScope flag = (globalFlagValue tools context flag, none, none) := by
  have request : (if includeRequestScope then overrideValue flag requestAliases context.requestValue else none) =
      (none : Option Bool) := by
    rw [overrideValue_none, ite_self]
  unfold resolveFlagValue
  rw [request]
  simp only [overrideValue_none]
  rfl

theorem globalFlagValue_mono (flag : FeatureFlag) {low high : Int} (raised : low ≤ high)
    (on : globalFlagValue tools context (some { flag with percentage := low }) = true) :
    globalFlagValue tools context (some { flag with percentage := high }) = true := by
  unfold globalFlagValue at on ⊢
  dsimp only at on ⊢
  cases state : flag.state with
  | percentage =>
    rw [state] at on
    cases user : context.value .user with
    | none =>
      rw [user] at on
      cases on
    | some user =>
      rw [user] at on
      simp only [Option.any_some, decide_eq_true_eq] at on ⊢
      omega
  | enabled => rfl
  | _ =>
    rw [state] at on
    exact on

/-- The four hold exactly where no override in the document applies to the context. -/
theorem flags_resolve_iff (accepts : ∀ state, ∃ fields flag, tools.validate fields = some flag ∧ flag.state = state)
    (overrides : ScopeOverrides) (context : RequestContext) :
    ResolvesByScope tools overrides context ↔ documentOverride overrides context = none := by
  constructor
  · intro resolves
    by_contra applies
    obtain ⟨⟨scope, value⟩, first⟩ := Option.ne_none_iff_exists'.mp applies
    -- a document with the other state validates as well
    obtain ⟨fields, flag, valid, state⟩ := accepts (if value then .disabled else .enabled)
    have loaded : loadFlag tools "" (some ⟨fields, overrides⟩) = .ok (some flag) := by
      rw [loadFlag, valid]
    have hidden := resolves.hides "" fields (some flag) scope value loaded first false
    rw [resolveFlagValue_global, globalFlagValue, state] at hidden
    cases value <;> simp at hidden
  · intro nowhere
    constructor
    · intro documents requestId
      rfl
    · intro key fields flag scope value _ first
      rw [nowhere] at first
      cases first
    · intro documents isMutation resolution _
      exact ⟨resolution.writes_shadow, resolution.shadow_compares⟩
    · intro flag low high includeRequestScope raised on
      rw [resolveFlagValue_global] at on ⊢
      exact globalFlagValue_mono flag raised on

def stateName : FeatureState → String
  | .enabled => "enabled"
  | .disabled => "disabled"
  | .percentage => "percentage"
  | .users => "users"
  | .roles => "roles"

/-- Flags with a key and a state, and digests that nobody asks for. -/
def plainTools : FlagTools where
  validate fields :=
    ([FeatureState.enabled, .disabled, .percentage, .users, .roles].find? fun state =>
      fields.get "state" == .str (stateName state)).map fun state => { key := (fields.get "key").text, state := state }
  sha256 _ := "0"

def compareFields (state : FeatureState) : Doc :=
  Doc.ofList [("key", .str "BL_V2_COMPARE"), ("state", .str (stateName state))]

theorem plainTools_accepts (state : FeatureState) :
    plainTools.validate (compareFields state) = some { key := "BL_V2_COMPARE", state := state } := by
  cases state <;> rfl

/-- The override is for another session. -/
theorem flags_resolve_elsewhere :
    ResolvesByScope plainTools [("session", some [("S2", .bool true)])] { sessionId := .str "S1" } :=
  (flags_resolve_iff (fun state => ⟨_, _, plainTools_accepts state, rfl⟩) _ _).mpr (by decide +kernel)

/-- The override for this session does not turn the disabled flag on. -/
theorem override_dropped :
    loadFlag plainTools "BL_V2_COMPARE" (some ⟨compareFields .disabled, [("session", some [("S1", .bool true)])]⟩) =
        .ok (some { key := "BL_V2_COMPARE" }) ∧
      ¬ ∀ overrides context, ResolvesByScope plainTools overrides context := by
  have loaded : loadFlag plainTools "BL_V2_COMPARE"
      (some ⟨compareFields .disabled, [("session", some [("S1", .bool true)])]⟩) =
      .ok (some { key := "BL_V2_COMPARE" }) := rfl
  refine ⟨loaded, fun always => ?_⟩
  have on := (always [("session", some [("S1", .bool true)])] { sessionId := .str "S1" }).hides "BL_V2_COMPARE"
    (compareFields .disabled) _ .session true loaded (by decide +kernel) false
  revert on
  decide +kernel

end Flags

end StockVerification
