import StockVerification.ProjectionParity
import StockVerification.ProjectionRebuild

/-!
# Events of one mirrored line

What the events of an inserted, changed or removed line do to the projections. The event of
a changed quantity counts the change once; the events after it count nothing unless the
verified flag changes at once, and each event sets the flag of the line.
-/
namespace StockVerification

open Foundation Foundation.Action Projection

/-- A line under plain texts, with quantities that are numbers. An inactive status marks it
superseded, and an approved line is verified. -/
structure LineOk (line : Doc) (lineId sessionId itemCode : String) : Prop where
  named : lineIdentifier line = some lineId
  session : line "session_id" = some (.str sessionId)
  sessionPlain : normalizeString (.str sessionId) = some sessionId
  code : line "item_code" = some (.str itemCode)
  codePlain : normalizeString (.str itemCode) = some itemCode
  item : (normalizeString (firstOf line ["item_id", "item_code"])).isSome = true
  counted : (line.get "counted_qty").numberOrZero.isSome = true
  damaged : (line.get "damaged_qty").numberOrZero.isSome = true
  inactive : lineStatusIsInactive (line.get "status") = true → isSupersededCountLine line = true
  approved : lineFlag line = true → (line.get "verified").truthy = true

def lineQty (line : Doc) : ℚ := asFloat (line.get "counted_qty")

def isVerified (line : Doc) : Bool := (line.get "verified").truthy

theorem LineOk.flag_eq {line : Doc} {lineId sessionId itemCode : String}
    (ok : LineOk line lineId sessionId itemCode) : lineFlag line = isVerified line := by
  cases flag : lineFlag line with
  | true => exact (ok.approved flag).symm
  | false =>
    rw [lineFlag, Bool.or_eq_false_iff] at flag
    exact flag.1.symm

theorem quantityOf_none (field : String) : quantityOf none field = some 0 := rfl

theorem buildPayload_some {before after : Option Doc} {active : Doc}
    (numbers : ∀ side ∈ [before, after], ∀ field ∈ ["counted_qty", "damaged_qty"],
      (quantityOf side field).isSome = true) :
    ∃ payload, buildPayload before after active = some payload := by
  obtain ⟨_, beforeCounted⟩ := Option.isSome_iff_exists.mp (numbers before (by simp) "counted_qty" (by simp))
  obtain ⟨_, afterCounted⟩ := Option.isSome_iff_exists.mp (numbers after (by simp) "counted_qty" (by simp))
  obtain ⟨_, beforeDamaged⟩ := Option.isSome_iff_exists.mp (numbers before (by simp) "damaged_qty" (by simp))
  obtain ⟨_, afterDamaged⟩ := Option.isSome_iff_exists.mp (numbers after (by simp) "damaged_qty" (by simp))
  simp only [buildPayload, beforeCounted, afterCounted, beforeDamaged, afterDamaged,
    Option.bind_eq_bind, Option.bind_some]
  exact ⟨_, rfl⟩

structure PayloadOf (before after : Option Doc) (active : Doc) (payload : EventPayload) : Prop where
  before_eq : payload.before = before
  after_eq : payload.after = after
  active_eq : payload.countLine = some active
  session : payload.fields.get "session_id" = active.get "session_id"
  item : payload.fields.get "item_id" = firstOf active ["item_id", "item_code"]
  counted : ∃ b a, quantityOf before "counted_qty" = some b ∧
    quantityOf after "counted_qty" = some a ∧ asFloat (payload.delta.get "counted_qty") = a - b
  serials : ((payload.delta.get "serial_count").orElse (.num 0)).integer.isSome = true

theorem buildPayload_spec {before after : Option Doc} {active : Doc} {payload : EventPayload}
    (built : buildPayload before after active = some payload) : PayloadOf before after active payload := by
  simp only [buildPayload, Option.bind_eq_bind, Option.bind_eq_some_iff, Option.pure_def, Option.some.injEq] at built
  obtain ⟨b, beforeCounted, a, afterCounted, bd, _, ad, _, rfl⟩ := built
  refine ⟨rfl, rfl, rfl, rfl, rfl, ⟨b, a, beforeCounted, afterCounted, rfl⟩, ?_⟩
  have integral : ∀ q : ℚ, (Value.orElse (.num q) (.num 0)).integer.isSome = true := by
    intro q
    unfold Value.orElse
    split <;> rfl
  exact integral _

/-- An event built from a line tells about the line. -/
theorem mirroredEvent_of_payload {e : ProjectionEvent} {before after : Option Doc} {line : Doc}
    {lineId sessionId itemCode : String} (ok : LineOk line lineId sessionId itemCode)
    (payload : PayloadOf before after line e.payload) (about : after = none ∨ after = some line)
    (scan : e.eventType = "SCAN_ADDED" → before = none ∧ after = some line) :
    MirroredEvent e line lineId sessionId itemCode (asFloat (e.payload.delta.get "counted_qty")) := by
  have sessionTruthy : (Value.str sessionId).truthy = true := by
    simpa using normalizeString_ne_empty ok.sessionPlain
  have codeTruthy : (Value.str itemCode).truthy = true := by
    simpa using normalizeString_ne_empty ok.codePlain
  have session : e.lineSession line = some sessionId := by
    rw [ProjectionEvent.lineSession, ProjectionEvent.field, payload.session,
      Doc.get_of_some ok.session, Value.orElse, if_pos sessionTruthy, ok.sessionPlain]
  have code : ∀ other, normalizeString ((line.get "item_code").orElse other) = some itemCode := by
    intro other
    rw [Doc.get_of_some ok.code, Value.orElse, if_pos codeTruthy, ok.codePlain]
  obtain ⟨itemId, item⟩ := Option.isSome_iff_exists.mp ok.item
  have itemField : normalizeString ((e.field "item_id").orElse (firstOf line ["item_id", "item_code"])) =
      some itemId := by
    rw [ProjectionEvent.field, payload.item, Value.orElse, ite_self, item]
  obtain ⟨serials, integral⟩ := Option.isSome_iff_exists.mp payload.serials
  refine ⟨?_, ok.named, session, ⟨⟨sessionId, itemId, itemCode⟩, ?_, rfl, rfl⟩, ?_, code _⟩
  · rw [EventPayload.line, payload.after_eq, payload.active_eq]
    rcases about with rfl | rfl <;> rfl
  · simp only [eventItem, session, itemField, code, Option.bind_eq_bind, Option.bind_some, Option.pure_def]
  · simp only [eventDelta, integral, Option.bind_eq_bind, Option.bind_some, Option.pure_def]
    refine ⟨_, rfl, ?_⟩
    split
    · next whole =>
      -- a scan of nothing counts the whole line, which is nothing
      obtain ⟨rfl, rfl⟩ := scan whole.1
      obtain ⟨b, a, none_counts, some_counts, difference⟩ := payload.counted
      rw [quantityOf_none] at none_counts
      cases none_counts
      have lineCounts : asFloat (line.get "counted_qty") = a := asFloat_of_numberOrZero some_counts
      rw [difference, sub_zero, lineCounts]
    · rfl

/-- The projections can take the next event. -/
structure MirrorSound (env : MirrorEnv) (m : Mirror) : Prop where
  counted : Countable m.db.projections
  keyed : KeyedRows m.db.projections
  unmarked : ∀ n, m.log.length ≤ n → m.db.isApplied (env.uuid n) = false

variable (env : MirrorEnv)

def filedKey (eventType : String) (line : Doc) (n : ℕ) : Option String :=
  normalizeString (.str (eventKey eventType line (env.now n)))

/-- The fingerprint of an event about a line. -/
def filedFingerprint (eventType : String) (line : Doc) : Option String :=
  if eventType = "SCAN_ADDED" then
    (scanFingerprint env.deviceId line).bind fun payload => normalizeString (.str (env.hash payload))
  else none

/-- An event about a line was appended and applied. -/
structure Appended (env : MirrorEnv) (eventType : String) (line : Doc)
    (lineId sessionId itemCode : String) (grown : ℚ) (m m' : Mirror) : Prop where
  lines : m'.lines = m.lines
  sound : MirrorSound env m'
  log : ∃ entry, m'.log = m.log ++ [entry] ∧
    entry.idempotencyKey = filedKey env eventType line m.log.length ∧
    entry.scanFingerprint = filedFingerprint env eventType line
  total : ∀ s i, snapshotTotal m'.db.projections s i = snapshotTotal m.db.projections s i +
    if s = sessionId ∧ i = itemCode then grown else 0
  flag : eventType ≠ "COUNT_LINE_REMOVED" → isSupersededCountLine line = false →
    projectedFlag m'.db.projections lineId = some (.bool (isVerified line))
  others : ∀ other, other ≠ lineId → projectedFlag m'.db.projections other = projectedFlag m.db.projections other

/-- A mirrored event of one of the known types, and by how much its item grows. -/
structure SpecOk (spec : EventSpec) (before after : Option Doc) (lineId sessionId itemCode : String)
    (grown : ℚ) : Prop where
  line : LineOk spec.document lineId sessionId itemCode
  payload : PayloadOf before after spec.document spec.payload
  about : after = none ∨ after = some spec.document
  scan : spec.eventType = "SCAN_ADDED" → before = none ∧ after = some spec.document
  grows : spec.eventType ∈ countingTypes ∧ grown = asFloat (spec.payload.delta.get "counted_qty") ∨
    spec.eventType ∈ loggedTypes ∧ grown = 0

theorem isRemoval_mirrored {e : ProjectionEvent} {line : Doc} {lineId sessionId itemCode : String}
    (ok : LineOk line lineId sessionId itemCode) (active : isSupersededCountLine line = false)
    (listed : e.eventType ∈ countingTypes ∨ e.eventType ∈ loggedTypes)
    (kept : e.eventType ≠ "COUNT_LINE_REMOVED") : isRemoval e line = false := by
  have kinds : ∀ eventType ∈ countingTypes ++ loggedTypes, eventType ≠ "COUNT_LINE_REMOVED" →
      ["COUNT_LINE_REMOVED", "COUNT_LINE_SUPERSEDED"].contains (Text.upper (Text.strip eventType)) = false := by
    decide +kernel
  have noKind := kinds e.eventType (List.mem_append.mpr listed) kept
  rw [isRemoval, ProjectionEvent.kind, noKind, Bool.false_or, ← Bool.not_eq_true]
  intro inactive
  rw [ok.inactive inactive] at active
  cases active

theorem LineOk.fingerprint {line : Doc} {lineId sessionId itemCode : String}
    (ok : LineOk line lineId sessionId itemCode) (deviceId : Value) :
    ∃ payload, scanFingerprint deviceId line = some payload := by
  obtain ⟨q, number⟩ := Option.isSome_iff_exists.mp ok.counted
  rw [scanFingerprint, number]
  exact ⟨_, rfl⟩

/-- The event of a specification, as the next entry of the log. -/
def nextEvent (spec : EventSpec) (m : Mirror) : ProjectionEvent where
  id := env.uuid m.log.length
  aggregateId := (normalizeString spec.itemCode).getD "unknown-item"
  eventType := spec.eventType
  payload := spec.payload
  timestamp := env.now m.log.length

def repeated (eventType : String) (line : Doc) (m : Mirror) : Option LoggedEvent :=
  findExistingEvent m.log (filedKey env eventType line m.log.length) (filedFingerprint env eventType line)

section AppendEvent

variable {env : MirrorEnv} {spec : EventSpec} {lineId sessionId itemCode : String} {m : Mirror}

theorem appendEvent_eq (ok : LineOk spec.document lineId sessionId itemCode) :
    appendEvent env spec m = match repeated env spec.eventType spec.document m with
      | some _ => .ok () m
      | none =>
        let applied := applyEvent env.deployment none (nextEvent env spec m) m.db
        let next : Mirror := ⟨m.lines, m.log ++ [⟨nextEvent env spec m,
          filedKey env spec.eventType spec.document m.log.length,
          filedFingerprint env spec.eventType spec.document⟩], applied.db⟩
        match applied.answer with
        | .error _ => if env.enforceWrites then .error () next else .ok () next
        | .ok _ => .ok () next := by
  obtain ⟨payload, scanned⟩ := ok.fingerprint env.deviceId
  by_cases scan : spec.eventType = "SCAN_ADDED"
  · simp only [appendEvent, bind, EStateM.bind, reads, if_pos scan, scanned, withStore, repeated,
      filedKey, filedFingerprint, Option.bind_some, nextEvent]
    cases findExistingEvent m.log _ _ with
    | some entry => rfl
    | none => rfl
  · simp only [appendEvent, bind, EStateM.bind, reads, if_neg scan, withStore, repeated, filedKey,
      filedFingerprint, nextEvent]
    cases findExistingEvent m.log _ _ with
    | some entry => rfl
    | none => rfl

/-- An event that repeats one of the log changes nothing; any other one is appended and
applied. -/
theorem appendEvent_effect {before after : Option Doc} {grown : ℚ} (sound : MirrorSound env m)
    (ok : SpecOk spec before after lineId sessionId itemCode grown) :
    ∃ m', appendEvent env spec m = .ok () m' ∧ (m' = m ∧ repeated env spec.eventType spec.document m ≠ none ∨
        Appended env spec.eventType spec.document lineId sessionId itemCode grown m m') := by
  rw [appendEvent_eq ok.line]
  cases known : repeated env spec.eventType spec.document m with
  | some entry => exact ⟨m, rfl, .inl ⟨rfl, by simp⟩⟩
  | none =>
    have mirrored : MirroredEvent (nextEvent env spec m) spec.document lineId sessionId itemCode
        (asFloat (spec.payload.delta.get "counted_qty")) :=
      mirroredEvent_of_payload ok.line ok.payload ok.about ok.scan
    have identified : (nextEvent env spec m).eventId = some (env.uuid m.log.length) := env.uuid_plain _
    obtain ⟨q, projected, counted, effect⟩ :=
      project_mirrored mirrored sound.counted sound.keyed identified ok.grows
    have applied := (applyEvent_fresh env.deployment identified (sound.unmarked _ le_rfl)).2 q projected
    simp only [applied]
    refine ⟨_, rfl, .inr ?_⟩
    constructor
    case lines => rfl
    case sound =>
      refine ⟨counted, effect.keyed, fun n later => ?_⟩
      rw [List.length_append, List.length_singleton] at later
      rw [isApplied_marked, if_neg fun same => ?_]
      · exact sound.unmarked n (by omega)
      · have position := env.uuid_distinct same
        omega
    case log =>
      exact ⟨⟨nextEvent env spec m, filedKey env spec.eventType spec.document m.log.length,
        filedFingerprint env spec.eventType spec.document⟩, by dsimp only, by dsimp only, by dsimp only⟩
    case total => exact effect.total
    case flag =>
      intro kept active
      rw [← ok.line.flag_eq]
      exact effect.flag (isRemoval_mirrored ok.line active (ok.grows.imp And.left And.left) kept)
    case others => exact effect.others

end AppendEvent

/-- The events of a line, from a first mirror to a later one. -/
structure Emitted (env : MirrorEnv) (line : Doc) (lineId sessionId itemCode : String) (grown : ℚ)
    (first m : Mirror) : Prop where
  lines : m.lines = first.lines
  sound : MirrorSound env m
  total : ∀ s i, snapshotTotal m.db.projections s i = snapshotTotal first.db.projections s i +
    if s = sessionId ∧ i = itemCode then grown else 0
  flag : m = first ∨ (isSupersededCountLine line = false →
    projectedFlag m.db.projections lineId = some (.bool (isVerified line)))
  others : ∀ other, other ≠ lineId → projectedFlag m.db.projections other = projectedFlag first.db.projections other
  logged : ∀ entry ∈ m.log, entry ∈ first.log ∨
    ∃ eventType ∈ countingTypes ++ loggedTypes, ∃ n, entry.idempotencyKey = filedKey env eventType line n

section Emitted

variable {env : MirrorEnv} {line : Doc} {lineId sessionId itemCode : String} {grown more : ℚ} {first m m' : Mirror}

theorem Emitted.start (sound : MirrorSound env m) : Emitted env line lineId sessionId itemCode 0 m m where
  lines := rfl
  sound := sound
  total s i := by rw [ite_self, add_zero]
  flag := .inl rfl
  others _ _ := rfl
  logged _ member := .inl member

theorem Emitted.append {eventType : String} (emitted : Emitted env line lineId sessionId itemCode grown first m)
    (appended : Appended env eventType line lineId sessionId itemCode more m m')
    (listed : eventType ∈ countingTypes ++ loggedTypes) (kept : eventType ≠ "COUNT_LINE_REMOVED") :
    Emitted env line lineId sessionId itemCode (grown + more) first m' where
  lines := appended.lines.trans emitted.lines
  sound := appended.sound
  total s i := by
    rw [appended.total, emitted.total, add_assoc]
    split
    · rfl
    · rw [add_zero]
  flag := .inr (appended.flag kept)
  others other differs := (appended.others other differs).trans (emitted.others other differs)
  logged entry member := by
    obtain ⟨added, log, key, _⟩ := appended.log
    rw [log, List.mem_append, List.mem_singleton] at member
    rcases member with old | rfl
    · exact emitted.logged entry old
    · exact .inr ⟨eventType, listed, _, key⟩

theorem appendWhen_true (env : MirrorEnv) (spec : EventSpec) : appendWhen env true spec = appendEvent env spec := rfl

theorem appendWhen_false (env : MirrorEnv) (spec : EventSpec) (m : Mirror) :
    appendWhen env false spec m = .ok () m := rfl

/-- An event that does not count. -/
theorem Emitted.appendWhen {condition : Bool} {spec : EventSpec} {before after : Option Doc}
    (emitted : Emitted env spec.document lineId sessionId itemCode grown first m)
    (ok : condition = true → SpecOk spec before after lineId sessionId itemCode 0)
    (kept : spec.eventType ≠ "COUNT_LINE_REMOVED") :
    ∃ m', appendWhen env condition spec m = .ok () m' ∧
      Emitted env spec.document lineId sessionId itemCode grown first m' := by
  cases condition with
  | false => exact ⟨m, rfl, emitted⟩
  | true =>
    have about := ok rfl
    obtain ⟨m', ran, ⟨rfl, _⟩ | appended⟩ := appendEvent_effect emitted.sound about
    · exact ⟨m', ran, emitted⟩
    · refine ⟨m', ran, ?_⟩
      have later := emitted.append appended (List.mem_append.mpr (about.grows.imp And.left And.left)) kept
      rwa [add_zero] at later

end Emitted

def FreshKey (eventType : String) (line : Doc) (log : List LoggedEvent) : Prop :=
  ∀ n key, filedKey env eventType line n = some key → ∀ entry ∈ log, entry.idempotencyKey ≠ some key

theorem FreshKey.repeated {env : MirrorEnv} {eventType : String} {line : Doc} {m : Mirror}
    (fresh : FreshKey env eventType line m.log) (noScan : eventType ≠ "SCAN_ADDED") :
    repeated env eventType line m = none := by
  rw [StockVerification.repeated, filedFingerprint, if_neg noScan, findExistingEvent]
  cases key : filedKey env eventType line m.log.length with
  | none => rfl
  | some k =>
    have absent : (m.log.find? fun entry => entry.idempotencyKey == some k) = none := by
      rw [List.find?_eq_none]
      intro entry member same
      exact fresh _ k key entry member (by simpa using same)
    rw [Option.bind_some, absent]
    rfl

theorem appendEvent_fresh {env : MirrorEnv} {spec : EventSpec} {before after : Option Doc}
    {lineId sessionId itemCode : String} {grown : ℚ} {m : Mirror} (sound : MirrorSound env m)
    (ok : SpecOk spec before after lineId sessionId itemCode grown)
    (new : repeated env spec.eventType spec.document m = none) :
    ∃ m', appendEvent env spec m = .ok () m' ∧
      Appended env spec.eventType spec.document lineId sessionId itemCode grown m m' := by
  obtain ⟨m', ran, ⟨_, known⟩ | appended⟩ := appendEvent_effect sound ok
  · exact absurd new known
  · exact ⟨m', ran, appended⟩

def supersededQty (line : Doc) : ℚ := if isSupersededCountLine line then lineQty line else 0

def flagEvent (after : Doc) : String := if isVerified after then "COUNT_VERIFIED" else "COUNT_UNVERIFIED"

/-- A change of a line that the mirror follows: the line stays where it is and stays
superseded, superseding it takes no count away, the quantity and the flag do not change at
once, and the event of what changes is new. -/
structure UpdateOk (env : MirrorEnv) (log : List LoggedEvent) (before after : Doc) : Prop where
  line : ∀ lineId sessionId itemCode, LineOk before lineId sessionId itemCode → LineOk after lineId sessionId itemCode
  superseded : isSupersededCountLine before = true → isSupersededCountLine after = true
  uncounted : supersededQty after = supersededQty before
  apart : lineQty after = lineQty before ∨ isVerified after = isVerified before
  counts : lineQty after ≠ lineQty before → FreshKey env "QUANTITY_ADJUSTED" after log
  verifies : isVerified after ≠ isVerified before → FreshKey env (flagEvent after) after log

section Updates

variable {env : MirrorEnv} {before after : Doc} {lineId sessionId itemCode : String} {m : Mirror}

theorem lineQty_eq {line : Doc} {q : ℚ} (number : quantityOf (some line) "counted_qty" = some q) :
    lineQty line = q := asFloat_of_numberOrZero number

theorem LineOk.quantities {line : Doc} (ok : LineOk line lineId sessionId itemCode) {field : String}
    (named : field ∈ ["counted_qty", "damaged_qty"]) : (quantityOf (some line) field).isSome = true := by
  rcases List.mem_pair.mp named with rfl | rfl
  · exact ok.counted
  · exact ok.damaged

theorem PayloadOf.delta_update {payload : EventPayload} {active : Doc}
    (spec : PayloadOf (some before) (some after) active payload) :
    asFloat (payload.delta.get "counted_qty") = lineQty after - lineQty before := by
  obtain ⟨b, a, hb, ha, difference⟩ := spec.counted
  rw [difference, lineQty_eq hb, lineQty_eq ha]

theorem specOk_of_update {payload : EventPayload} {eventType : String} {code : Value} {grown : ℚ}
    (line : LineOk after lineId sessionId itemCode)
    (spec : PayloadOf (some before) (some after) after payload) (noScan : eventType ≠ "SCAN_ADDED")
    (grows : eventType ∈ countingTypes ∧ grown = lineQty after - lineQty before ∨
      eventType ∈ loggedTypes ∧ grown = 0) :
    SpecOk ⟨eventType, payload, after, code⟩ (some before) (some after) lineId sessionId itemCode grown where
  line := line
  payload := spec
  about := .inr rfl
  scan := fun scanned => absurd scanned noScan
  grows := by rwa [spec.delta_update]

/-- The first event of an update counts its change of quantity. -/
theorem quantityAdjusted_effect {payload : EventPayload} {code : Value} (sound : MirrorSound env m)
    (line : LineOk after lineId sessionId itemCode)
    (spec : PayloadOf (some before) (some after) after payload) (ok : UpdateOk env m.log before after) :
    ∃ m', appendWhen env (asFloat (payload.delta.get "counted_qty") != 0)
        ⟨"QUANTITY_ADJUSTED", payload, after, code⟩ m = .ok () m' ∧
      Emitted env after lineId sessionId itemCode (lineQty after - lineQty before) m m' := by
  rw [spec.delta_update]
  by_cases same : lineQty after = lineQty before
  · rw [same, sub_self]
    exact ⟨m, rfl, .start sound⟩
  · have changed : (lineQty after - lineQty before != 0) = true := by
      simpa [sub_eq_zero] using same
    rw [changed]
    have about := @specOk_of_update before after lineId sessionId itemCode payload "QUANTITY_ADJUSTED" code _ line spec
      (by decide) (.inl ⟨by decide, rfl⟩)
    obtain ⟨m', ran, appended⟩ := appendEvent_fresh sound about ((ok.counts same).repeated (by decide))
    refine ⟨m', ran, ?_⟩
    have emitted := (Emitted.start sound).append appended
      (List.mem_append.mpr (about.grows.imp And.left And.left)) (show "QUANTITY_ADJUSTED" ≠ _ by decide)
    rwa [zero_add] at emitted

section

variable {payload : EventPayload} {code : Value} {grown : ℚ} {first : Mirror}
  (emitted : Emitted env after lineId sessionId itemCode grown first m) (line : LineOk after lineId sessionId itemCode)
  (spec : PayloadOf (some before) (some after) after payload) (ok : UpdateOk env first.log before after)
include emitted line spec ok

/-- The event of a changed flag sets the flag, unless an event before it did. -/
theorem flagEvent_effect (changed : isVerified after ≠ isVerified before) :
    ∃ m', appendEvent env ⟨flagEvent after, payload, after, code⟩ m = .ok () m' ∧
      Emitted env after lineId sessionId itemCode grown first m' ∧
      (isSupersededCountLine after = false →
        projectedFlag m'.db.projections lineId = some (.bool (isVerified after))) := by
  have listed : flagEvent after ∈ countingTypes ∧ flagEvent after ≠ "SCAN_ADDED" ∧
      flagEvent after ≠ "COUNT_LINE_REMOVED" := by
    unfold flagEvent
    split <;> decide
  have still : (0 : ℚ) = lineQty after - lineQty before := by
    rw [ok.apart.resolve_right changed, sub_self]
  have about := @specOk_of_update before after lineId sessionId itemCode payload (flagEvent after) code _ line spec
    listed.2.1 (.inl ⟨listed.1, still⟩)
  obtain ⟨m', ran, ⟨rfl, known⟩ | appended⟩ := appendEvent_effect emitted.sound about
  · refine ⟨m', ran, emitted, ?_⟩
    rcases emitted.flag with rfl | flagged
    · exact absurd ((ok.verifies changed).repeated listed.2.1) known
    · exact flagged
  · refine ⟨m', ran, ?_, appended.flag listed.2.2⟩
    have later := emitted.append appended (List.mem_append.mpr (.inl listed.1)) listed.2.2
    rwa [add_zero] at later

/-- The two events of the flag, of which at most one is due. -/
theorem flagEvents_effect : ∃ middle m', appendWhen env (isVerified after && !isVerified before)
        ⟨"COUNT_VERIFIED", payload, after, code⟩ m = .ok () middle ∧
      appendWhen env (!isVerified after && isVerified before)
        ⟨"COUNT_UNVERIFIED", payload, after, code⟩ middle = .ok () m' ∧
      Emitted env after lineId sessionId itemCode grown first m' ∧
      (isVerified after ≠ isVerified before → isSupersededCountLine after = false →
        projectedFlag m'.db.projections lineId = some (.bool (isVerified after))) := by
  by_cases same : isVerified after = isVerified before
  · refine ⟨m, m, ?_, ?_, emitted, fun changed => absurd same changed⟩
    · rw [same, Bool.and_not_self]
      exact appendWhen_false _ _ _
    · rw [same, Bool.not_and_self]
      exact appendWhen_false _ _ _
  · obtain ⟨m', ran, later, flagged⟩ := @flagEvent_effect env before after _ _ _ m payload code _ _ emitted line
      spec ok same
    cases up : isVerified after with
    | true =>
      have down : isVerified before = false := by simpa [up] using same
      rw [flagEvent, up, if_pos rfl] at ran
      rw [up] at flagged
      rw [down]
      exact ⟨m', m', (appendWhen_true _ _).symm ▸ ran, appendWhen_false _ _ _, later, fun _ => flagged⟩
    | false =>
      have down : isVerified before = true := by simpa [up] using same
      rw [flagEvent, up, if_neg Bool.false_ne_true] at ran
      rw [up] at flagged
      rw [down]
      exact ⟨m, m', appendWhen_false _ _ _, (appendWhen_true _ _).symm ▸ ran, later, fun _ => flagged⟩

end

/-- The events of one update. -/
theorem emitUpdateEvents_effect (sound : MirrorSound env m)
    (start : LineOk before lineId sessionId itemCode) (ok : UpdateOk env m.log before after) :
    ∃ m', emitUpdateEvents env before after m = .ok () m' ∧
      Emitted env after lineId sessionId itemCode (lineQty after - lineQty before) m m' ∧
      (isVerified after ≠ isVerified before → isSupersededCountLine after = false →
        projectedFlag m'.db.projections lineId = some (.bool (isVerified after))) := by
  have line := ok.line _ _ _ start
  obtain ⟨payload, built⟩ := @buildPayload_some (some before) (some after) after (by
    intro side member field named
    rcases List.mem_pair.mp member with rfl | rfl
    · exact start.quantities named
    · exact line.quantities named)
  have spec := buildPayload_spec built
  have paid : payloadOrRaise (some before) (some after) after m = .ok payload m := by
    simp only [payloadOrRaise, reads, built]
  let code := (after.get "item_code").orElse (before.get "item_code")
  have logged : ∀ eventType ∈ loggedTypes,
      SpecOk ⟨eventType, payload, after, code⟩ (some before) (some after) lineId sessionId itemCode 0 := by
    intro eventType member
    have noScan : ∀ known ∈ loggedTypes, known ≠ "SCAN_ADDED" := by decide
    exact specOk_of_update line spec (noScan eventType member) (.inr ⟨member, rfl⟩)
  obtain ⟨m1, ran1, emitted1⟩ := @quantityAdjusted_effect env before after _ _ _ m payload code sound line spec ok
  obtain ⟨m2, ran2, emitted2⟩ := @Emitted.appendWhen env _ _ _ _ m m1
    (decide (0 < asFloat (payload.delta.get "damaged_qty"))) ⟨"DAMAGE_MARKED", payload, after, code⟩ _ _ emitted1
    (fun _ => logged _ (by decide)) (show "DAMAGE_MARKED" ≠ _ by decide)
  obtain ⟨m3, ran3, emitted3⟩ := @Emitted.appendWhen env _ _ _ _ m m2
    (changesTo before after "approval_status" "APPROVED") ⟨"APPROVAL_GRANTED", payload, after, code⟩ _ _ emitted2
    (fun _ => logged _ (by decide)) (show "APPROVAL_GRANTED" ≠ _ by decide)
  obtain ⟨m4, ran4, emitted4⟩ := @Emitted.appendWhen env _ _ _ _ m m3
    (changesTo before after "status" "REJECTED") ⟨"RECOUNT_REQUESTED", payload, after, code⟩ _ _ emitted3
    (fun _ => logged _ (by decide)) (show "RECOUNT_REQUESTED" ≠ _ by decide)
  obtain ⟨m5, m6, ran5, ran6, emitted6, flagged⟩ :=
    @flagEvents_effect env before after _ _ _ m4 payload code _ _ emitted4 line spec ok
  refine ⟨m6, ?_, emitted6, flagged⟩
  exact bind_ok.mpr ⟨_, m, paid, bind_ok.mpr ⟨_, m1, ran1, bind_ok.mpr ⟨_, m2, ran2,
    bind_ok.mpr ⟨_, m3, ran3, bind_ok.mpr ⟨_, m4, ran4, bind_ok.mpr ⟨_, m5, ran5, ran6⟩⟩⟩⟩⟩⟩

end Updates

end StockVerification
