import StockVerification.MirrorEffects

/-!
# Runs of mirrored changes

What a mirrored write does to the projections, line by line and write by write, and what a
run of such writes keeps: the projected count of an item is the count of its live lines,
and the projected flag of a line is its own. Quantities are exact: the database's `$inc` adds
doubles, and the router takes totals within 1e-6 for equal (backend/services/read_router.py:255).
-/
namespace StockVerification

open Foundation Foundation.Action Projection

def liveWeight (sessionId itemCode : String) (line : Doc) : ℚ :=
  if (itemIs sessionId itemCode).holds line && !isSupersededCountLine line then lineQty line else 0

def weightOf (sessionId itemCode : String) (line : Option Doc) : ℚ :=
  (line.map (liveWeight sessionId itemCode)).getD 0

theorem LineOk.liveWeight_eq {line : Doc} {lineId sessionId itemCode : String}
    (ok : LineOk line lineId sessionId itemCode) (s i : String) :
    liveWeight s i line = if s = sessionId ∧ i = itemCode then lineQty line - supersededQty line else 0 := by
  rw [liveWeight, itemIs_holds ok.session ok.code, supersededQty]
  by_cases asked : s = sessionId ∧ i = itemCode
  · obtain ⟨rfl, rfl⟩ := asked
    cases isSupersededCountLine line <;> simp
  · have differs : (sessionId == s && itemCode == i) = false := by
      rw [← Bool.not_eq_true, Bool.and_eq_true, beq_iff_eq, beq_iff_eq]
      rintro ⟨rfl, rfl⟩
      exact asked ⟨rfl, rfl⟩
    rw [differs, Bool.false_and, if_neg Bool.false_ne_true, if_neg asked]

/-- The projected flag of a line is its own. -/
def FlagRight (m : Mirror) (line : Doc) : Prop :=
  ∀ lineId, lineIdentifier line = some lineId → projectedFlag m.db.projections lineId = some (.bool (isVerified line))

/-- The events of a line with these images were emitted; `filed` is the image that names
their keys. -/
structure Followed (env : MirrorEnv) (filed : Doc) (before after : Option Doc) (m m' : Mirror) : Prop where
  lines : m'.lines = m.lines
  sound : MirrorSound env m'
  total : ∀ s i, snapshotTotal m'.db.projections s i = snapshotTotal m.db.projections s i +
    (weightOf s i after - weightOf s i before)
  flag : ∀ line, after = some line → isSupersededCountLine line = false →
    (∀ old, before = some old → isSupersededCountLine old = false → FlagRight m old) → FlagRight m' line
  others : ∀ other, lineIdentifier filed ≠ some other →
    projectedFlag m'.db.projections other = projectedFlag m.db.projections other
  logged : ∀ entry ∈ m'.log, entry ∈ m.log ∨
    ∃ eventType ∈ countingTypes ++ loggedTypes, ∃ n, entry.idempotencyKey = filedKey env eventType filed n

section Followed

variable {env : MirrorEnv} {m : Mirror} {lineId sessionId itemCode : String}

theorem emitUpdateEvents_followed {before after : Doc} (sound : MirrorSound env m)
    (start : LineOk before lineId sessionId itemCode) (ok : UpdateOk env m.log before after) :
    ∃ m', emitUpdateEvents env before after m = .ok () m' ∧ Followed env after (some before) (some after) m m' := by
  have line := ok.line _ _ _ start
  obtain ⟨m', ran, emitted, flagged⟩ := emitUpdateEvents_effect sound start ok
  refine ⟨m', ran, emitted.lines, emitted.sound, fun s i => ?_, ?_, fun other differs => ?_, emitted.logged⟩
  · rw [emitted.total, weightOf, weightOf, Option.map_some, Option.map_some, Option.getD_some,
      Option.getD_some, line.liveWeight_eq, start.liveWeight_eq, ok.uncounted]
    split
    · ring
    · ring
  · intro image same active right known named
    cases same
    rw [line.named] at named
    cases named
    by_cases changed : isVerified after = isVerified before
    · rcases emitted.flag with rfl | set
      · rw [changed]
        refine right before rfl ?_ lineId start.named
        cases old : isSupersededCountLine before with
        | false => rfl
        | true =>
          rw [ok.superseded old] at active
          cases active
      · exact set active
    · exact flagged changed active
  · refine emitted.others other ?_
    rintro rfl
    exact differs line.named

/-- A removal that the mirror follows. -/
structure RemovalOk (env : MirrorEnv) (log : List LoggedEvent) (line : Doc) : Prop where
  uncounted : supersededQty line = 0
  new : FreshKey env "COUNT_LINE_REMOVED" line log

theorem emitRemovedEvent_followed {line : Doc} (sound : MirrorSound env m)
    (start : LineOk line lineId sessionId itemCode) (ok : RemovalOk env m.log line) :
    ∃ m', emitRemovedEvent env line m = .ok () m' ∧ Followed env line (some line) none m m' := by
  obtain ⟨payload, built⟩ := @buildPayload_some (some line) none line (by
    intro side member field named
    rcases List.mem_pair.mp member with rfl | rfl
    · exact start.quantities named
    · rw [quantityOf_none]
      rfl)
  have spec := buildPayload_spec built
  have delta : asFloat (payload.delta.get "counted_qty") = 0 - lineQty line := by
    obtain ⟨b, a, held, gone, difference⟩ := spec.counted
    rw [quantityOf_none] at gone
    cases gone
    rw [difference, lineQty_eq held]
  have about : SpecOk ⟨"COUNT_LINE_REMOVED", payload, line,
      line.get "item_code"⟩ (some line) none lineId sessionId itemCode (0 - lineQty line) :=
    ⟨start, spec, .inl rfl, fun scan => absurd scan (show "COUNT_LINE_REMOVED" ≠ _ by decide),
      .inl ⟨show "COUNT_LINE_REMOVED" ∈ _ by decide, delta.symm⟩⟩
  obtain ⟨m', ran, appended⟩ := appendEvent_fresh sound about (ok.new.repeated (by decide))
  have paid : payloadOrRaise (some line) none line m = .ok payload m := by
    simp only [payloadOrRaise, reads, built]
  refine ⟨m', bind_ok.mpr ⟨_, m, paid, ran⟩, appended.lines, appended.sound, fun s i => ?_, ?_,
    fun other differs => ?_, ?_⟩
  · rw [appended.total, weightOf, weightOf, Option.map_some, Option.map_none, Option.getD_some,
      Option.getD_none, start.liveWeight_eq, ok.uncounted]
    split
    · ring
    · ring
  · rintro _ ⟨⟩
  · refine appended.others other ?_
    rintro rfl
    exact differs start.named
  · intro entry member
    obtain ⟨added, log, key, _⟩ := appended.log
    rw [log, List.mem_append, List.mem_singleton] at member
    rcases member with old | rfl
    · exact .inl old
    · exact .inr ⟨"COUNT_LINE_REMOVED", by decide, _, key⟩

/-- An insertion that the mirror follows. -/
structure InsertOk (env : MirrorEnv) (m : Mirror) (line : Doc) : Prop where
  wellFormed : ∃ lineId sessionId itemCode, LineOk line lineId sessionId itemCode
  named : lineIdentifier line ∉ m.lines.map lineIdentifier
  uncounted : supersededQty line = 0
  new : repeated env "SCAN_ADDED" line m = none

/-- After its scan the events of a new line count nothing; they may stop at a figure that is
no number. -/
theorem emitInsertEvents_later {line : Doc} {payload : EventPayload} (sound : MirrorSound env m)
    (ok : LineOk line lineId sessionId itemCode) (spec : PayloadOf none (some line) line payload) :
    Emitted env line lineId sessionId itemCode 0 m
      ((do
        let variance ← numberOrRaise (line.get "variance")
        appendWhen env (decide (0 < |variance|)) ⟨"VARIANCE_DETECTED", payload, line, line.get "item_code"⟩
        let damaged ← numberOrRaise (line.get "damaged_qty")
        appendWhen env (decide (0 < damaged)) ⟨"DAMAGE_MARKED", payload, line, line.get "item_code"⟩
        appendWhen env (upperText (line.get "approval_status") == "APPROVED")
          ⟨"APPROVAL_GRANTED", payload, line, line.get "item_code"⟩ : MirrorAction Unit).final m) := by
  have logged : ∀ eventType ∈ loggedTypes, SpecOk ⟨eventType, payload, line,
      line.get "item_code"⟩ none (some line) lineId sessionId itemCode 0 := fun eventType member =>
    ⟨ok, spec, .inr rfl, fun _ => ⟨rfl, rfl⟩, .inr ⟨member, rfl⟩⟩
  have start : Emitted env line lineId sessionId itemCode 0 m m := .start sound
  refine final_reads_bind start fun variance _ => ?_
  obtain ⟨m1, ran1, emitted1⟩ := @Emitted.appendWhen env _ _ _ _ m m (decide (0 < |variance|))
    ⟨"VARIANCE_DETECTED", payload, line, line.get "item_code"⟩ _ _ start (fun _ => logged _ (by decide))
    (show "VARIANCE_DETECTED" ≠ _ by decide)
  rw [final_bind_of_ok ran1]
  refine final_reads_bind emitted1 fun damaged _ => ?_
  obtain ⟨m2, ran2, emitted2⟩ := @Emitted.appendWhen env _ _ _ _ m m1 (decide (0 < damaged))
    ⟨"DAMAGE_MARKED", payload, line, line.get "item_code"⟩ _ _ emitted1 (fun _ => logged _ (by decide))
    (show "DAMAGE_MARKED" ≠ _ by decide)
  rw [final_bind_of_ok ran2]
  obtain ⟨m3, ran3, emitted3⟩ := @Emitted.appendWhen env _ _ _ _ m m2
    (upperText (line.get "approval_status") == "APPROVED")
    ⟨"APPROVAL_GRANTED", payload, line, line.get "item_code"⟩ _ _ emitted2 (fun _ => logged _ (by decide))
    (show "APPROVAL_GRANTED" ≠ _ by decide)
  rw [final_of_ok ran3]
  exact emitted3

theorem emitInsertEvents_followed {line : Doc} (sound : MirrorSound env m) (ok : LineOk line lineId sessionId itemCode)
    (uncounted : supersededQty line = 0) (new : repeated env "SCAN_ADDED" line m = none) :
    Followed env line none (some line) m ((emitInsertEvents env line).final m) := by
  obtain ⟨payload, built⟩ := @buildPayload_some none (some line) line (by
    intro side member field named
    rcases List.mem_pair.mp member with rfl | rfl
    · rw [quantityOf_none]
      rfl
    · exact ok.quantities named)
  have spec := buildPayload_spec built
  have delta : asFloat (payload.delta.get "counted_qty") = lineQty line := by
    obtain ⟨b, a, nothing, held, difference⟩ := spec.counted
    rw [quantityOf_none] at nothing
    cases nothing
    rw [difference, lineQty_eq held, sub_zero]
  have about : SpecOk ⟨"SCAN_ADDED", payload, line, line.get "item_code"⟩ none (some line) lineId
      sessionId itemCode (lineQty line) :=
    ⟨ok, spec, .inr rfl, fun _ => ⟨rfl, rfl⟩, .inl ⟨show "SCAN_ADDED" ∈ _ by decide, delta.symm⟩⟩
  obtain ⟨m', ran, appended⟩ := appendEvent_fresh sound about new
  have paid : payloadOrRaise none (some line) line m = .ok payload m := by
    simp only [payloadOrRaise, reads, built]
  have later := emitInsertEvents_later appended.sound ok spec
  rw [emitInsertEvents, final_bind_of_ok paid, final_bind_of_ok ran]
  refine ⟨later.lines.trans appended.lines, later.sound, fun s i => ?_, ?_, fun other differs => ?_, ?_⟩
  · rw [later.total, appended.total, weightOf, weightOf, Option.map_some, Option.map_none,
      Option.getD_some, Option.getD_none, ok.liveWeight_eq, uncounted]
    split
    · ring
    · ring
  · intro image same active _ known named
    cases same
    rw [ok.named] at named
    cases named
    rcases later.flag with unchanged | set
    · rw [unchanged]
      exact appended.flag (show "SCAN_ADDED" ≠ _ by decide) active
    · exact set active
  · have distinct : other ≠ lineId := by
      rintro rfl
      exact differs ok.named
    rw [later.others other distinct, appended.others other distinct]
  · intro entry member
    rcases later.logged entry member with old | filed
    · obtain ⟨added, log, key, _⟩ := appended.log
      rw [log, List.mem_append, List.mem_singleton] at old
      rcases old with older | rfl
      · exact .inl older
      · exact .inr ⟨"SCAN_ADDED", by decide, _, key⟩
    · exact .inr filed

end Followed

/-- The events of the two images never share a key. -/
def KeysApart (env : MirrorEnv) (a b : Doc) : Prop :=
  ∀ eventType ∈ countingTypes ++ loggedTypes, ∀ other ∈ countingTypes ++ loggedTypes, ∀ n n' key,
    filedKey env eventType a n = some key → filedKey env other b n' ≠ some key

/-- The entries of a later log are old or filed under a line. -/
def LoggedBy (env : MirrorEnv) (filed : Doc) (log later : List LoggedEvent) : Prop :=
  ∀ entry ∈ later, entry ∈ log ∨
    ∃ eventType ∈ countingTypes ++ loggedTypes, ∃ n, entry.idempotencyKey = filedKey env eventType filed n

theorem FreshKey.later {env : MirrorEnv} {eventType : String} {line filed : Doc} {log later : List LoggedEvent}
    (fresh : FreshKey env eventType line log) (grown : LoggedBy env filed log later) (apart : KeysApart env filed line)
    (listed : eventType ∈ countingTypes ++ loggedTypes) : FreshKey env eventType line later := by
  intro n key filedUnder entry member same
  rcases grown entry member with old | ⟨other, known, n', otherKey⟩
  · exact fresh n key filedUnder entry old same
  · rw [same] at otherKey
    exact apart other known eventType listed n' n key otherKey.symm filedUnder

theorem UpdateOk.later {env : MirrorEnv} {before after filed : Doc} {log later : List LoggedEvent}
    (ok : UpdateOk env log before after) (grown : LoggedBy env filed log later)
    (apart : KeysApart env filed after) : UpdateOk env later before after where
  line := ok.line
  superseded := ok.superseded
  uncounted := ok.uncounted
  apart := ok.apart
  counts changed := (ok.counts changed).later grown apart (by decide)
  verifies changed := (ok.verifies changed).later grown apart (by
    unfold flagEvent
    split <;> decide)

theorem RemovalOk.later {env : MirrorEnv} {line filed : Doc} {log later : List LoggedEvent}
    (ok : RemovalOk env log line) (grown : LoggedBy env filed log later)
    (apart : KeysApart env filed line) : RemovalOk env later line where
  uncounted := ok.uncounted
  new := ok.new.later grown apart (by decide)

structure FollowedAll (env : MirrorEnv) (next : Doc → Option Doc) (olds : List Doc) (m m' : Mirror) : Prop where
  lines : m'.lines = m.lines
  sound : MirrorSound env m'
  total : ∀ s i, snapshotTotal m'.db.projections s i = snapshotTotal m.db.projections s i +
    (olds.map fun old => weightOf s i (next old) - weightOf s i (some old)).sum
  flag : ∀ old ∈ olds, ∀ line, next old = some line → isSupersededCountLine line = false →
    (isSupersededCountLine old = false → FlagRight m old) → FlagRight m' line
  others : ∀ other, (∀ old ∈ olds, lineIdentifier old ≠ some other) →
    projectedFlag m'.db.projections other = projectedFlag m.db.projections other

/-- Line after line: an event of one line leaves the flags and the new keys of the others
alone. -/
theorem followed_forM {env : MirrorEnv} {emit : Doc → MirrorAction PUnit} {next : Doc → Option Doc}
    {filed : Doc → Doc} {gate : List LoggedEvent → Doc → Prop} {olds : List Doc} {m : Mirror}
    (sound : MirrorSound env m) (distinct : (olds.map lineIdentifier).Nodup)
    (gated : ∀ old ∈ olds, gate m.log old)
    (apart : olds.Pairwise fun a b => KeysApart env (filed a) (filed b))
    (named : ∀ old ∈ olds, lineIdentifier (filed old) = lineIdentifier old ∧
      ∀ line, next old = some line → lineIdentifier line = lineIdentifier old)
    (carried : ∀ log later a b, KeysApart env (filed a) (filed b) → LoggedBy env (filed a) log later →
      gate log b → gate later b)
    (step : ∀ old ∈ olds, ∀ m, MirrorSound env m → gate m.log old →
      ∃ m', emit old m = .ok PUnit.unit m' ∧ Followed env (filed old) (some old) (next old) m m') :
    ∃ m', olds.forM emit m = .ok PUnit.unit m' ∧ FollowedAll env next olds m m' := by
  induction olds generalizing m with
  | nil =>
    refine ⟨m, rfl, rfl, sound, fun s i => ?_, fun old member => ?_, fun _ _ => rfl⟩
    · rw [List.map_nil, List.sum_nil, add_zero]
    · cases member
  | cons old rest ih =>
    rw [List.map_cons, List.nodup_cons] at distinct
    rw [List.pairwise_cons] at apart
    obtain ⟨m1, ran, followed⟩ := step old (by simp) m sound (gated old (by simp))
    obtain ⟨m', ranRest, later⟩ := ih followed.sound distinct.2
      (fun b member => carried _ _ old b (apart.1 b member) followed.logged (gated b (by simp [member])))
      apart.2 (fun b member => named b (by simp [member])) (fun b member => step b (by simp [member]))
    have filedNamed := (named old (by simp)).1
    refine ⟨m', ?_, later.lines.trans followed.lines, later.sound, fun s i => ?_, ?_, fun other absent => ?_⟩
    · exact bind_ok.mpr ⟨_, m1, ran, ranRest⟩
    · rw [later.total, followed.total, List.map_cons, List.sum_cons, add_assoc]
    · intro b member line image active right
      rcases List.mem_cons.mp member with rfl | member
      · -- the flag was set by this line's events, and no later line has its identifier
        have now := followed.flag line image active fun old same => by
          cases same
          exact right
        intro lineId lineNamed
        rw [later.others lineId fun c inRest same => ?_]
        · exact now lineId lineNamed
        · have shared : lineIdentifier c = lineIdentifier b := by
            rw [same, ← lineNamed, (named b (by simp)).2 line image]
          exact distinct.1 (shared ▸ List.mem_map_of_mem inRest)
      · refine later.flag b member line image active fun oldActive lineId lineNamed => ?_
        rw [followed.others lineId fun same => ?_]
        · exact right oldActive lineId lineNamed
        · have shared : lineIdentifier b = lineIdentifier old := by
            rw [lineNamed, ← same, filedNamed]
          exact distinct.1 (shared ▸ List.mem_map_of_mem member)
    · rw [later.others other fun c member => absent c (by simp [member]), followed.others other]
      rw [filedNamed]
      exact absent old (by simp)

/-- The lines with every chosen one replaced by its next image or dropped. -/
def changedLines (chosen : Doc → Bool) (next : Doc → Option Doc) (lines : List Doc) : List Doc :=
  lines.flatMap fun line => if chosen line then (next line).toList else [line]

section ChangedLines

variable {chosen : Doc → Bool} {next : Doc → Option Doc} {lines : List Doc}

theorem changedLines_cons (line : Doc) : changedLines chosen next (line :: lines) =
      (if chosen line then (next line).toList else [line]) ++ changedLines chosen next lines :=
  List.flatMap_cons

theorem sum_changedLines (s i : String) :
    ((changedLines chosen next lines).map (liveWeight s i)).sum = (lines.map (liveWeight s i)).sum +
      ((lines.filter chosen).map fun old => weightOf s i (next old) - weightOf s i (some old)).sum := by
  induction lines with
  | nil => simp [changedLines]
  | cons line rest ih =>
    rw [changedLines_cons, List.map_append, List.sum_append, ih, List.map_cons, List.sum_cons]
    cases picked : chosen line with
    | false =>
      rw [List.filter_cons_of_neg (by simp [picked]), if_neg Bool.false_ne_true, List.map_singleton, List.sum_singleton]
      ring
    | true =>
      have image : (((next line).toList).map (liveWeight s i)).sum = weightOf s i (next line) := by
        cases next line <;> simp [weightOf]
      have old : weightOf s i (some line) = liveWeight s i line := rfl
      rw [List.filter_cons_of_pos picked, if_pos rfl, image, List.map_cons, List.sum_cons, old]
      ring

theorem mem_changedLines {line : Doc} (member : line ∈ changedLines chosen next lines) :
    line ∈ lines ∧ chosen line = false ∨ ∃ old ∈ lines.filter chosen, next old = some line := by
  obtain ⟨old, inLines, here⟩ := List.mem_flatMap.mp member
  split at here
  · next picked =>
    exact .inr ⟨old, List.mem_filter.mpr ⟨inLines, picked⟩, by simpa using here⟩
  · next passed =>
    rw [List.mem_singleton] at here
    subst here
    exact .inl ⟨inLines, by simpa using passed⟩

theorem changedLines_sublist
    (named : ∀ old ∈ lines, chosen old = true → ∀ line, next old = some line →
      lineIdentifier line = lineIdentifier old) :
    ((changedLines chosen next lines).map lineIdentifier).Sublist (lines.map lineIdentifier) := by
  induction lines with
  | nil => exact List.Sublist.slnil
  | cons line rest ih =>
    have later := ih fun old member => named old (by simp [member])
    rw [changedLines_cons, List.map_append, List.map_cons]
    split
    · next picked =>
      cases image : next line with
      | none => exact later.cons _
      | some new =>
        rw [Option.toList_some, List.map_singleton, named line (by simp) picked new image]
        exact later.cons_cons _
    · exact later.cons_cons _

theorem changedLines_none (skipped : ∀ line ∈ lines, chosen line = false) : changedLines chosen next lines = lines := by
  induction lines with
  | nil => rfl
  | cons line rest ih =>
    rw [changedLines_cons, skipped line (by simp), ih fun l member => skipped l (by simp [member])]
    rfl

end ChangedLines

/-- The image of a line after a write that addresses it. -/
def LineWrite.next : LineWrite → Doc → Option Doc
  | .insertOne _ => some
  | .updateOne _ u | .updateMany _ u => fun line => some (updatedLine u line)
  | .deleteOne _ | .deleteMany _ => fun _ => none

/-- The first match of a query among lines with distinct identifiers, as the lines with its
identifier. -/
theorem firstMatch_changed {f : Filter} {next : Doc → Option Doc} {lines : List Doc} {old : Doc}
    (distinct : (lines.map lineIdentifier).Nodup) (found : lines.find? f.holds = some old) :
    ∃ chosen : Doc → Bool, lines.filter chosen = [old] ∧ ∃ front back, lines = front ++ old :: back ∧
      f.holds old = true ∧ (∀ line ∈ front, f.holds line = false) ∧
      changedLines chosen next lines = front ++ ((next old).toList ++ back) := by
  obtain ⟨front, back, rfl, matched, before⟩ := Collection.find_split found
  refine ⟨fun line => lineIdentifier line == lineIdentifier old, ?_, front, back, rfl, matched, before, ?_⟩
  all_goals
    have others : ∀ line, line ∈ front ∨ line ∈ back → (lineIdentifier line == lineIdentifier old) = false := by
      intro line member
      rw [List.map_append, List.map_cons, List.nodup_append, List.nodup_cons] at distinct
      rw [beq_eq_false_iff_ne]
      intro same
      rcases member with inFront | inBack
      · exact distinct.2.2 _ (List.mem_map_of_mem inFront) _ (by simp) same
      · exact distinct.2.1.1 (same ▸ List.mem_map_of_mem inBack)
  · rw [List.filter_append, List.filter_cons_of_pos (by simp),
      List.filter_eq_nil_iff.mpr fun line member => by simp [others line (.inl member)],
      List.filter_eq_nil_iff.mpr fun line member => by simp [others line (.inr member)], List.nil_append]
  · have frontSame := @changedLines_none (fun line => lineIdentifier line == lineIdentifier old) next front
      fun line member => others line (.inl member)
    have backSame := @changedLines_none (fun line => lineIdentifier line == lineIdentifier old) next back
      fun line member => others line (.inr member)
    rw [changedLines, List.flatMap_append, List.flatMap_cons, beq_self_eq_true, if_pos rfl]
    rw [changedLines] at frontSame backSame
    rw [frontSame, backSame]

/-- What an update or a deletion addresses and leaves. -/
theorem store_changed {write : LineWrite} {lines : List Doc}
    (distinct : (lines.map lineIdentifier).Nodup) (noInsert : ∀ line, write ≠ .insertOne line) :
    ∃ chosen : Doc → Bool, write.preImages lines = lines.filter chosen ∧
      write.store lines = changedLines chosen write.next lines := by
  have missed : ∀ (f : Filter) (next : Doc → Option Doc), lines.find? f.holds = none →
      lines.filter f.holds = [] ∧ changedLines f.holds next lines = lines := by
    intro f next absent
    rw [List.find?_eq_none] at absent
    refine ⟨List.filter_eq_nil_iff.mpr absent, changedLines_none fun line member => ?_⟩
    simpa using absent line member
  cases write with
  | insertOne line => exact absurd rfl (noInsert line)
  | updateOne f u =>
    cases found : lines.find? f.holds with
    | none =>
      obtain ⟨nothing, same⟩ := missed f (LineWrite.next (.updateOne f u)) found
      refine ⟨f.holds, ?_, ?_⟩
      · rw [LineWrite.preImages, found, nothing]
        rfl
      · rw [LineWrite.store, found, same]
    | some old =>
      obtain ⟨chosen, one, front, back, split, matched, before, changed⟩ :=
        @firstMatch_changed f (LineWrite.next (.updateOne f u)) lines old distinct found
      refine ⟨chosen, ?_, ?_⟩
      · rw [LineWrite.preImages, found, one]
        rfl
      · rw [changed, LineWrite.store, found]
        dsimp only
        rw [split, Collection.replaceFirst_split matched before]
        rfl
  | updateMany f u =>
    refine ⟨f.holds, rfl, ?_⟩
    rw [LineWrite.store, changedLines]
    clear distinct missed
    induction lines with
    | nil => rfl
    | cons line rest ih =>
      rw [List.map_cons, List.flatMap_cons, ih]
      split <;> rfl
  | deleteOne f =>
    cases found : lines.find? f.holds with
    | none =>
      obtain ⟨nothing, same⟩ := missed f (LineWrite.next (.deleteOne f)) found
      refine ⟨f.holds, ?_, ?_⟩
      · rw [LineWrite.preImages, found, nothing]
        rfl
      · rw [LineWrite.store, same, Collection.deleteOne, List.eraseP_of_forall_not]
        exact List.find?_eq_none.mp found
    | some old =>
      obtain ⟨chosen, one, front, back, split, matched, before, changed⟩ :=
        @firstMatch_changed f (LineWrite.next (.deleteOne f)) lines old distinct found
      refine ⟨chosen, ?_, ?_⟩
      · rw [LineWrite.preImages, found, one]
        rfl
      · rw [changed, LineWrite.store, Collection.deleteOne, split, List.eraseP_append_right _ fun line member => by simp
          [before line member], List.eraseP_cons_of_pos matched]
        rfl
  | deleteMany f =>
    refine ⟨f.holds, rfl, ?_⟩
    rw [LineWrite.store, Collection.deleteMany, changedLines]
    clear distinct missed
    induction lines with
    | nil => rfl
    | cons line rest ih =>
      rw [List.flatMap_cons, ← ih]
      cases held : f.holds line with
      | true =>
        rw [List.filter_cons_of_neg (by simp [held])]
        rfl
      | false =>
        rw [List.filter_cons_of_pos (by simp [held])]
        rfl

/-- A write that the mirror follows: an insertion, or a change of each line it addresses
whose events share no keys. -/
def WriteOk (env : MirrorEnv) (m : Mirror) (write : LineWrite) : Prop :=
  match write with
  | .insertOne line => InsertOk env m line
  | .updateOne _ u | .updateMany _ u =>
    (∀ line ∈ write.preImages m.lines, UpdateOk env m.log line (updatedLine u line)) ∧
      (write.preImages m.lines).Pairwise fun a b => KeysApart env (updatedLine u a) (updatedLine u b)
  | .deleteOne _ | .deleteMany _ =>
    (∀ line ∈ write.preImages m.lines, RemovalOk env m.log line) ∧ (write.preImages m.lines).Pairwise (KeysApart env)

/-- The projections agree with the live lines. -/
structure Parity (env : MirrorEnv) (m : Mirror) : Prop where
  sound : MirrorSound env m
  wellFormed : ∀ line ∈ m.lines, ∃ lineId sessionId itemCode, LineOk line lineId sessionId itemCode
  distinct : (m.lines.map lineIdentifier).Nodup
  totals : ∀ s i, snapshotTotal m.db.projections s i = (m.lines.map (liveWeight s i)).sum
  flags : ∀ line ∈ m.lines, isSupersededCountLine line = false → FlagRight m line

theorem parity_start (env : MirrorEnv) : Parity env {} where
  sound := ⟨fun _ _ _ member => (nomatch member),
    ⟨fun _ member => (nomatch member), fun _ member => (nomatch member)⟩, fun _ _ => rfl⟩
  wellFormed _ member := by cases member
  distinct := List.nodup_nil
  totals _ _ := rfl
  flags _ member := by cases member

section Steps

variable {env : MirrorEnv} {m : Mirror}

theorem MirrorSound.stored (sound : MirrorSound env m) (lines : List Doc) :
    MirrorSound env { m with lines := lines } := { sound with }

theorem parity_insert (parity : Parity env m) {line : Doc} (ok : InsertOk env m line) :
    Parity env (m.step env (.insertOne line)) := by
  obtain ⟨lineId, sessionId, itemCode, wellFormed⟩ := ok.wellFormed
  have followed := emitInsertEvents_followed (parity.sound.stored (m.lines ++ [line])) wellFormed ok.uncounted ok.new
  have step : m.step env (.insertOne line) =
      (emitInsertEvents env line).final { m with lines := m.lines ++ [line] } := rfl
  rw [step]
  refine ⟨followed.sound, ?_, ?_, fun s i => ?_, ?_⟩
  · intro stored member
    rw [followed.lines, List.mem_append, List.mem_singleton] at member
    rcases member with old | rfl
    · exact parity.wellFormed stored old
    · exact ⟨lineId, sessionId, itemCode, wellFormed⟩
  · rw [followed.lines, List.map_append, List.map_singleton, List.nodup_append]
    refine ⟨parity.distinct, List.nodup_singleton _, fun a known b new => ?_⟩
    rw [List.mem_singleton] at new
    rintro rfl
    exact ok.named (new ▸ known)
  · rw [followed.total, followed.lines, List.map_append, List.sum_append, List.map_singleton,
      List.sum_singleton, ← parity.totals s i]
    simp [weightOf]
  · intro stored member active
    rw [followed.lines, List.mem_append, List.mem_singleton] at member
    rcases member with old | rfl
    · intro storedId named
      rw [followed.others storedId fun same => ?_]
      · exact parity.flags stored old active storedId named
      · exact ok.named (same ▸ named ▸ List.mem_map_of_mem old)
    · exact followed.flag stored rfl active nofun

/-- The lines that a write other than an insertion addresses are followed. -/
theorem parity_changed (parity : Parity env m) {write : LineWrite}
    (noInsert : ∀ line, write ≠ .insertOne line) {final : Mirror}
    (followed : FollowedAll env write.next (write.preImages m.lines) { m with lines := write.store m.lines } final)
    (wellFormed : ∀ old ∈ write.preImages m.lines, ∀ line, write.next old = some line →
      ∀ lineId sessionId itemCode, LineOk old lineId sessionId itemCode → LineOk line lineId sessionId itemCode) :
    Parity env final := by
  obtain ⟨chosen, addressed, stored⟩ := store_changed parity.distinct noInsert
  rw [addressed] at followed wellFormed
  have named : ∀ old ∈ m.lines, chosen old = true → ∀ line, write.next old = some line →
      lineIdentifier line = lineIdentifier old := by
    intro old member picked line image
    obtain ⟨lineId, s, i, ok⟩ := parity.wellFormed old member
    rw [ok.named, (wellFormed old (List.mem_filter.mpr ⟨member, picked⟩) line image lineId s i ok).named]
  have lines : final.lines = changedLines chosen write.next m.lines := followed.lines.trans stored
  refine ⟨followed.sound, ?_, ?_, fun s i => ?_, ?_⟩
  · intro line member
    rw [lines] at member
    rcases mem_changedLines member with ⟨old, _⟩ | ⟨old, inChosen, image⟩
    · exact parity.wellFormed line old
    · obtain ⟨lineId, s, i, ok⟩ := parity.wellFormed old (List.mem_of_mem_filter inChosen)
      exact ⟨lineId, s, i, wellFormed old inChosen line image lineId s i ok⟩
  · rw [lines]
    exact parity.distinct.sublist (changedLines_sublist named)
  · rw [followed.total, lines, sum_changedLines, ← parity.totals s i]
  · intro line member active
    rw [lines] at member
    rcases mem_changedLines member with ⟨inLines, passed⟩ | ⟨old, inChosen, image⟩
    · intro lineId lineNamed
      rw [followed.others lineId fun old inChosen same => ?_]
      · exact parity.flags line inLines active lineId lineNamed
      · -- two lines of one identifier are one line, chosen and not chosen
        obtain ⟨oldIn, picked⟩ := List.mem_filter.mp inChosen
        have shared := List.inj_on_of_nodup_map parity.distinct oldIn inLines (same.trans lineNamed.symm)
        rw [shared, passed] at picked
        cases picked
    · exact followed.flag old inChosen line image active
        (parity.flags old (List.mem_of_mem_filter inChosen))

theorem preImages_sublist (write : LineWrite) (lines : List Doc) : (write.preImages lines).Sublist lines := by
  have first : ∀ f : Filter, (lines.find? f.holds).toList.Sublist lines := by
    intro f
    cases found : lines.find? f.holds with
    | none => exact List.nil_sublist _
    | some line => exact List.singleton_sublist.mpr (List.mem_of_find?_eq_some found)
  cases write with
  | insertOne line => exact List.nil_sublist _
  | updateOne f u => exact first f
  | updateMany f u | deleteMany f => exact List.filter_sublist
  | deleteOne f => exact first f

/-- The mirror of one line that an update addresses. -/
def mirrorUpdate (env : MirrorEnv) (u : Update) (before : Doc) : MirrorAction PUnit :=
  if (lineIdentifier before).isSome ∧ lineIdentifier (updatedLine u before) = lineIdentifier before then
    emitUpdateEvents env before (updatedLine u before)
  else pure ()

section

variable (parity : Parity env m) {write : LineWrite}
include parity

theorem parity_updates {u : Update} (updates : write.next = fun line => some (updatedLine u line))
    (noInsert : ∀ line, write ≠ .insertOne line)
    (mirrors : mirrorCountLineWrite env (write.preImages m.lines) write =
      (write.preImages m.lines).forM (mirrorUpdate env u))
    (ok : ∀ line ∈ write.preImages m.lines, UpdateOk env m.log line (updatedLine u line))
    (apart : (write.preImages m.lines).Pairwise fun a b => KeysApart env (updatedLine u a) (updatedLine u b)) :
    Parity env (m.step env write) := by
  have addressed := preImages_sublist write m.lines
  obtain ⟨final, ran, followed⟩ := @followed_forM env (mirrorUpdate env u) write.next (updatedLine u)
    (fun log old => UpdateOk env log old (updatedLine u old)) (write.preImages m.lines)
    { m with lines := write.store m.lines } (parity.sound.stored _)
    (parity.distinct.sublist (addressed.map _)) ok apart
    (fun old member => by
      obtain ⟨lineId, s, i, wellFormed⟩ := parity.wellFormed old (addressed.subset member)
      have same : lineIdentifier (updatedLine u old) = lineIdentifier old := by
        rw [wellFormed.named, ((ok old member).line _ _ _ wellFormed).named]
      refine ⟨same, fun line image => ?_⟩
      rw [updates] at image
      cases image
      exact same)
    (fun log later a b keysApart grown gate => gate.later grown keysApart)
    (fun old member state sound gate => by
      obtain ⟨lineId, s, i, wellFormed⟩ := parity.wellFormed old (addressed.subset member)
      have named : (lineIdentifier old).isSome ∧ lineIdentifier (updatedLine u old) = lineIdentifier old := by
        rw [wellFormed.named, (gate.line _ _ _ wellFormed).named]
        exact ⟨rfl, rfl⟩
      rw [mirrorUpdate, if_pos named, updates]
      exact emitUpdateEvents_followed sound wellFormed gate)
  rw [Mirror.step, mirrors, final_of_ok ran]
  refine parity_changed parity noInsert followed fun old member line image => ?_
  rw [updates] at image
  cases image
  exact (ok old member).line

theorem parity_removals (removes : write.next = fun _ => none) (noInsert : ∀ line, write ≠ .insertOne line)
    (mirrors : mirrorCountLineWrite env (write.preImages m.lines) write =
      (write.preImages m.lines).forM (emitRemovedEvent env))
    (ok : ∀ line ∈ write.preImages m.lines, RemovalOk env m.log line)
    (apart : (write.preImages m.lines).Pairwise (KeysApart env)) : Parity env (m.step env write) := by
  have addressed := preImages_sublist write m.lines
  have gone : ∀ old line, write.next old ≠ some line := by
    intro old line image
    rw [removes] at image
    cases image
  obtain ⟨final, ran, followed⟩ := @followed_forM env (emitRemovedEvent env) write.next id
    (RemovalOk env) (write.preImages m.lines) { m with lines := write.store m.lines }
    (parity.sound.stored _) (parity.distinct.sublist (addressed.map _)) ok apart
    (fun old member => ⟨rfl, fun line image => absurd image (gone old line)⟩)
    (fun log later a b keysApart grown gate => gate.later grown keysApart)
    (fun old member state sound gate => by
      obtain ⟨lineId, s, i, wellFormed⟩ := parity.wellFormed old (addressed.subset member)
      rw [removes]
      exact emitRemovedEvent_followed sound wellFormed gate)
  rw [Mirror.step, mirrors, final_of_ok ran]
  exact parity_changed parity noInsert followed fun old member line image => absurd image (gone old line)

theorem parity_step (ok : WriteOk env m write) : Parity env (m.step env write) := by
  cases write with
  | insertOne line => exact parity_insert parity ok
  | updateOne f u | updateMany f u => exact parity_updates parity rfl (by simp) rfl ok.1 ok.2
  | deleteOne f | deleteMany f => exact parity_removals parity rfl (by simp) rfl ok.1 ok.2

end

end Steps

/-- The count of the live lines. -/
theorem legacy_total (lines : List Doc) (s i : String) :
    (legacyItemScanStatus lines s i).totalQty = (lines.map (liveWeight s i)).sum := by
  have active : ((activeCountLines lines s i).map lineQty).sum = (lines.map (liveWeight s i)).sum := by
    rw [activeCountLines, List.filter_filter]
    induction lines with
    | nil => rfl
    | cons line rest ih =>
      rw [List.map_cons, List.sum_cons, ← ih, liveWeight, Bool.and_comm]
      cases counted : !isSupersededCountLine line && (itemIs s i).holds line with
      | true => rw [List.filter_cons_of_pos (by simpa using counted), if_pos rfl, List.map_cons, List.sum_cons]
      | false =>
        rw [List.filter_cons_of_neg (by simp [counted]), if_neg Bool.false_ne_true, zero_add]
  rw [← active, legacyItemScanStatus]
  split
  · next blank =>
    rw [List.isEmpty_iff.mp blank]
    rfl
  · rfl

/-- The router's answer, wherever it is read from. -/
theorem routed_total {m : Mirror} {s i : String} {strict : Bool} {status : ScanStatus}
    (agree : snapshotTotal m.db.projections s i = (m.lines.map (liveWeight s i)).sum)
    (answered : sessionItemScanStatus strict m s i = .ok status) :
    status.totalQty = (legacyItemScanStatus m.lines s i).totalQty := by
  have fallback : ∀ {answer : ScanStatus}, resolveProjectionGap strict m.lines s i = .ok answer →
      answer.totalQty = (legacyItemScanStatus m.lines s i).totalQty := by
    intro answer resolved
    unfold resolveProjectionGap at resolved
    simp only at resolved
    split at resolved
    · cases resolved
    · cases resolved
      rfl
  unfold sessionItemScanStatus at answered
  split at answered
  · next projected found =>
    split at answered
    · exact fallback answered
    · cases answered
      rw [legacy_total, ← agree, snapshotTotal, Projection.found]
      obtain ⟨row, here, rfl⟩ := Option.map_eq_some_iff.mp found
      rw [here]
      rfl
  · exact fallback answered

/-- In every run of writes that the mirror follows, the router's projection route answers
with the count of the live lines, and the projected flag of every live line is its own. -/
theorem mirrored_projections_agree {env : MirrorEnv} {m : Mirror} (run : Reaches (Mirror.step env) (WriteOk env) {} m) :
    (∀ s i strict status, sessionItemScanStatus strict m s i = .ok status →
      status.totalQty = (legacyItemScanStatus m.lines s i).totalQty) ∧
    (∀ s i, ∃ status, sessionItemScanStatus false m s i = .ok status) ∧
    ∀ line ∈ m.lines, isSupersededCountLine line = false → ∀ lineId, lineIdentifier line = some lineId →
      projectedFlag m.db.projections lineId = some (.bool (line.get "verified").truthy) := by
  have parity : Parity env m := run.invariant (parity_start env) fun _ _ parity ok => parity_step parity ok
  refine ⟨fun s i strict status answered => routed_total (parity.totals s i) answered, fun s i => ?_, ?_⟩
  · have fallback : resolveProjectionGap false m.lines s i = .ok (legacyItemScanStatus m.lines s i) := by
      rw [resolveProjectionGap, Bool.and_false]
      rfl
    unfold sessionItemScanStatus
    rw [fallback]
    split
    · split
      · exact ⟨_, rfl⟩
      · exact ⟨_, rfl⟩
    · exact ⟨_, rfl⟩
  · intro line member active lineId named
    exact parity.flags line member active lineId named

def unaryId (n : ℕ) : String := String.ofList (List.replicate (n + 1) 'e')

theorem unaryId_plain (n : ℕ) : normalizeString (.str (unaryId n)) = some (unaryId n) := by
  have kept : ∀ k, (List.replicate k 'e').dropWhile Text.isSpace = List.replicate k 'e' := by
    intro k
    cases k with
    | zero => rfl
    | succ k => rfl
  have stripped : Text.strip (unaryId n) = unaryId n := by
    rw [unaryId, Text.strip, String.toList_ofList, Text.stripList, kept, List.reverse_replicate,
      kept, List.reverse_replicate]
  have filled : unaryId n ≠ "" := by
    intro blank
    have lengths := congrArg String.length blank
    simp [unaryId] at lengths
  simp [normalizeString, Value.text, stripped, filled]

theorem unaryId_injective : Function.Injective unaryId := by
  intro a b same
  have lengths := congrArg String.length same
  simpa [unaryId] using lengths

/-- The fields of a fingerprint side by side in place of their digest. -/
def plainHash (f : ScanFingerprint) : String :=
  String.intercalate "|" ([f.deviceId.getD "", f.sessionId.getD "", f.itemCode.getD "", f.batchId.getD "",
    f.locationId.getD "", (Value.num f.countedQty).text] ++ f.serials)

def plainEnv : MirrorEnv where
  deployment := .standalone
  uuid := unaryId
  uuid_plain := unaryId_plain
  uuid_distinct := unaryId_injective
  now := fun _ => 0
  hash := plainHash

/-- A count of an item. -/
def freshScan (id : String) (quantity : ℚ) (at_ : Int) : Doc :=
  Doc.ofList [("id", .str id), ("session_id", .str "S1"), ("item_code", .str "ITEM-1"),
    ("counted_qty", .num quantity), ("damaged_qty", .num 0), ("variance", .num 0), ("status", .str "pending"),
    ("approval_status", .str "PENDING"), ("verified", .bool false), ("counted_at", .date at_)]

/-- The recount of a line: the old line is superseded and a new one takes its place. -/
def recountWrites : List LineWrite :=
  [.insertOne (freshScan "L1" 5 1),
    .updateOne (.eq "id" (.str "L1")) (.ofSet (Doc.ofList [("status", .str "SUPERSEDED"),
      ("superseded_at", .date 2), ("updated_at", .date 2)])),
    .insertOne (freshScan "L2" 6 3)]

/-- After a recount of 5 pieces to 6 the projections still count both. -/
theorem recount_counts_twice : ¬ ∀ (env : MirrorEnv) (writes : List LineWrite) (s i : String)
    (status : ScanStatus), sessionItemScanStatus false (writes.foldl (Mirror.step env) {}) s i = .ok status →
    status.totalQty = (legacyItemScanStatus (writes.foldl (Mirror.step env) {}).lines s i).totalQty := by
  intro claimed
  have projected : ((sessionItemScanStatus false (recountWrites.foldl (Mirror.step plainEnv) {}) "S1"
      "ITEM-1").toOption.map (·.totalQty)) = some 11 := by
    decide +kernel
  have live : (legacyItemScanStatus (recountWrites.foldl (Mirror.step plainEnv) {}).lines "S1"
      "ITEM-1").totalQty = 6 := by
    decide +kernel
  cases answered : sessionItemScanStatus false (recountWrites.foldl (Mirror.step plainEnv) {}) "S1" "ITEM-1" with
  | error e =>
    rw [answered] at projected
    cases projected
  | ok status =>
    have total := claimed plainEnv recountWrites "S1" "ITEM-1" status answered
    rw [answered] at projected
    simp only [Except.toOption, Option.map_some, Option.some.injEq] at projected
    rw [projected, live] at total
    revert total
    decide

def verification : Update := .ofSet (Doc.ofList [("verified", .bool true), ("updated_at", .date 2)])

def verifyWrite : LineWrite := .updateOne (.eq "id" (.str "L1")) verification

theorem freshScan_ok : LineOk (freshScan "L1" 5 1) "L1" "S1" "ITEM-1" :=
  ⟨by decide +kernel, rfl, by decide +kernel, rfl, by decide +kernel, by decide +kernel, by decide +kernel,
    by decide +kernel, by decide +kernel, by decide +kernel⟩

theorem verifiedScan_ok : UpdateOk plainEnv
    (Mirror.step plainEnv {} (.insertOne (freshScan "L1" 5 1))).log (freshScan "L1" 5 1)
    (updatedLine verification (freshScan "L1" 5 1)) := by
  have keys : (Mirror.step plainEnv {} (.insertOne (freshScan "L1" 5 1))).log.map (·.idempotencyKey) =
      [some "SCAN_ADDED:L1:date 1"] := by decide +kernel
  have filed : filedKey plainEnv "COUNT_VERIFIED" (updatedLine verification (freshScan "L1" 5 1)) 0 =
      some "COUNT_VERIFIED:L1:date 2" := by decide +kernel
  have verified : LineOk (updatedLine verification (freshScan "L1" 5 1)) "L1" "S1" "ITEM-1" :=
    ⟨by decide +kernel, rfl, by decide +kernel, rfl, by decide +kernel, by decide +kernel, by decide +kernel,
      by decide +kernel, by decide +kernel, by decide +kernel⟩
  have same : lineQty (updatedLine verification (freshScan "L1" 5 1)) = lineQty (freshScan "L1" 5 1) := rfl
  refine ⟨fun lineId s i old => ?_, by decide +kernel, by decide +kernel, .inl same, fun changed => absurd same changed,
    fun _ n key named entry member stored => ?_⟩
  · have id := old.named.symm.trans freshScan_ok.named
    have session := old.session.symm.trans freshScan_ok.session
    have code := old.code.symm.trans freshScan_ok.code
    cases id
    cases session
    cases code
    exact verified
  · have sameKey : some key = some "COUNT_VERIFIED:L1:date 2" := named.symm.trans filed
    have known := List.mem_map_of_mem (f := (·.idempotencyKey)) member
    rw [keys, stored, sameKey] at known
    revert known
    decide

/-- A scan and its verification: the projections count 5 pieces and show the line verified. -/
theorem mirrored_projections_agree_on_verified_scan :
    ∃ m, Reaches (Mirror.step plainEnv) (WriteOk plainEnv) {} m ∧
      (legacyItemScanStatus m.lines "S1" "ITEM-1").totalQty = 5 ∧
      (∃ status, sessionItemScanStatus false m "S1" "ITEM-1" = .ok status ∧ status.totalQty = 5) ∧
      projectedFlag m.db.projections "L1" = some (.bool true) := by
  have inserted : WriteOk plainEnv {} (.insertOne (freshScan "L1" 5 1)) :=
    ⟨⟨_, _, _, freshScan_ok⟩, by simp, by decide +kernel, rfl⟩
  have lines : (Mirror.step plainEnv {} (.insertOne (freshScan "L1" 5 1))).lines = [freshScan "L1" 5 1] :=
    (emitInsertEvents_followed ((parity_start plainEnv).sound.stored [freshScan "L1" 5 1]) freshScan_ok
      (by decide +kernel) inserted.new).lines
  have matched : (Filter.eq "id" (.str "L1")).holds (freshScan "L1" 5 1) = true := by decide +kernel
  have addressed : verifyWrite.preImages (Mirror.step plainEnv {} (.insertOne (freshScan "L1" 5 1))).lines =
      [freshScan "L1" 5 1] := by
    rw [lines, verifyWrite, LineWrite.preImages, List.find?_cons_of_pos matched]
    rfl
  have verified : WriteOk plainEnv (Mirror.step plainEnv {} (.insertOne (freshScan "L1" 5 1))) verifyWrite := by
    refine ⟨fun line member => ?_, ?_⟩
    · have one : line ∈ [freshScan "L1" 5 1] := addressed ▸ member
      rw [List.mem_singleton.mp one]
      exact verifiedScan_ok
    · exact addressed.symm ▸ List.pairwise_singleton _ _
  have run := Reaches.next verifyWrite (.next _ .start inserted) verified
  obtain ⟨totals, answers, _⟩ := mirrored_projections_agree run
  have live : (legacyItemScanStatus (Mirror.step plainEnv
      (Mirror.step plainEnv {} (.insertOne (freshScan "L1" 5 1))) verifyWrite).lines "S1" "ITEM-1").totalQty = 5 := by
    decide +kernel
  obtain ⟨status, answered⟩ := answers "S1" "ITEM-1"
  exact ⟨_, run, live, ⟨status, answered, (totals _ _ _ _ answered).trans live⟩, by decide +kernel⟩

end StockVerification
