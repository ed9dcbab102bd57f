import StockVerification.ApprovalInvariant
import StockVerification.Finalization

/-!
# What a merge does to the stock

Merging adds the quantity of each source line to the target. The source only gets a
`merged_into_id`, which no total looks at: the line stays in force with its quantity,
and a later merge takes it again. Here the effect of a merge whose every source went
through is computed from the store before it.
-/
namespace StockVerification

open Foundation Foundation.Action

/-- What the totals and the merge read of a line. -/
structure LineKey where
  id : Option Value
  session : Option Value
  superseded : Bool
  qty : ℚ
  merged : List Atom

def lineKey (line : Doc) : LineKey where
  id := line "id"
  session := line "session_id"
  superseded := isSupersededCountLine line
  qty := asFloat (line.get "counted_qty")
  merged := mergedFrom line

/-- The key carries the id; an array of ids counts for each of them. -/
def LineKey.hasId (text : String) (key : LineKey) : Bool :=
  (Filter.eq "id" (.str text)).holds fun _ => key.id

def LineKey.inForce (sessionId : String) (key : LineKey) : Bool :=
  (Filter.eq "session_id" (.str sessionId)).holds (fun _ => key.session) && !key.superseded

theorem hasId_lineKey (text : String) (line : Doc) :
    (lineKey line).hasId text = (Filter.eq "id" (.str text)).holds line := rfl

theorem inForce_lineKey (sessionId : String) (line : Doc) : (lineKey line).inForce sessionId =
      ((Filter.eq "session_id" (.str sessionId)).holds line && !isSupersededCountLine line) := rfl

def Store.keys (s : Store) : List LineKey := s.countLines.map lineKey

/-- Change the first key that matches. -/
def modifyFirst (p : LineKey → Bool) (f : LineKey → LineKey) : List LineKey → List LineKey
  | [] => []
  | key :: rest => if p key then f key :: rest else key :: modifyFirst p f rest

variable {f : LineKey → LineKey} {p : LineKey → Bool}

theorem modifyFirst_id (keys : List LineKey) (same : ∀ key, f key = key) : modifyFirst p f keys = keys := by
  induction keys with
  | nil => rfl
  | cons key rest ih =>
    unfold modifyFirst
    rw [ih, same key, ite_self]

theorem modifyFirst_twice {g : LineKey → LineKey} (keys : List LineKey) (same : ∀ key, p (f key) = p key) :
    modifyFirst p g (modifyFirst p f keys) = modifyFirst p (fun key => g (f key)) keys := by
  induction keys with
  | nil => rfl
  | cons key rest ih =>
    by_cases matched : p key = true
    · simp [modifyFirst, matched, same]
    · simp [modifyFirst, matched, ih]

theorem find_modifyFirst_other {q : LineKey → Bool} {keys : List LineKey}
    (other : ∀ key ∈ keys, p key = true → q key = false ∧ q (f key) = false) :
    (modifyFirst p f keys).find? q = keys.find? q := by
  induction keys with
  | nil => rfl
  | cons key rest ih =>
    have later := ih fun k member => other k (by simp [member])
    by_cases matched : p key = true
    · obtain ⟨before, after⟩ := other key (by simp) matched
      simp [modifyFirst, matched, before, after]
    · by_cases found : q key = true
      · simp [modifyFirst, matched, found]
      · simp [modifyFirst, matched, found, later]

theorem find_modifyFirst_same {keys : List LineKey} {key : LineKey} (same : ∀ key, p (f key) = p key)
    (found : keys.find? p = some key) : (modifyFirst p f keys).find? p = some (f key) := by
  induction keys with
  | nil => cases found
  | cons first rest ih =>
    by_cases matched : p first = true
    · rw [List.find?_cons_of_pos matched] at found
      cases found
      simp [modifyFirst, matched, same]
    · rw [List.find?_cons_of_neg matched] at found
      simp [modifyFirst, matched, ih found]

/-- The sum over the keys in force changes by what the matching key changes. -/
theorem sum_modifyFirst {e : LineKey → Bool} {keys : List LineKey} {key : LineKey}
    (found : keys.find? p = some key) (same : ∀ key, e (f key) = e key) :
    (((modifyFirst p f keys).filter e).map LineKey.qty).sum =
      ((keys.filter e).map LineKey.qty).sum + if e key then (f key).qty - key.qty else 0 := by
  induction keys with
  | nil => cases found
  | cons first rest ih =>
    by_cases matched : p first = true
    · rw [List.find?_cons_of_pos matched] at found
      cases found
      by_cases counted : e key = true
      · have kept : e (f key) = true := by rw [same, counted]
        simp only [modifyFirst, matched, if_true, List.filter_cons_of_pos kept,
          List.filter_cons_of_pos counted, List.map_cons, List.sum_cons, counted]
        ring
      · have kept : ¬ e (f key) = true := by rwa [same]
        simp [modifyFirst, matched, List.filter_cons_of_neg kept, List.filter_cons_of_neg counted, counted]
    · rw [List.find?_cons_of_neg matched] at found
      have later := ih found
      by_cases counted : e first = true
      · simp only [modifyFirst, matched, if_false, List.filter_cons_of_pos counted, List.map_cons,
          List.sum_cons, later, Bool.false_eq_true]
        ring
      · simp only [modifyFirst, matched, if_false, List.filter_cons_of_neg counted, later, Bool.false_eq_true]

variable {s t : Store}

theorem OnlySessions.keys (h : OnlySessions s t) : t.keys = s.keys := by
  rw [Store.keys, h.countLines, Store.keys]

variable {old : Doc}

theorem UpdatedLine.keys {f : Filter} {u : Update} {new : Doc} (line : UpdatedLine f u s t old new)
    (same : lineKey new = lineKey old) : t.keys = s.keys := by
  rw [line.stored]
  exact Collection.map_replaceFirst line.found same

def LineKey.take (qty : ℚ) (sourceIds : List String) (key : LineKey) : LineKey :=
  { key with qty := key.qty + qty, merged := key.merged ++ sourceIds.map .str }

theorem hasId_take (text : String) (qty : ℚ) (sourceIds : List String) (key : LineKey) :
    (key.take qty sourceIds).hasId text = key.hasId text := rfl

theorem map_replaceFirst_key {text : String} {lines : List Doc} {new : Doc}
    (found : lines.find? (Filter.eq "id" (.str text)).holds = some old) (changed : lineKey new = f (lineKey old)) :
    (Collection.replaceFirst (Filter.eq "id" (.str text)).holds new lines).map lineKey =
      modifyFirst (LineKey.hasId text) f (lines.map lineKey) := by
  induction lines with
  | nil => cases found
  | cons line rest ih =>
    by_cases matched : (Filter.eq "id" (.str text)).holds line = true
    · rw [List.find?_cons_of_pos matched] at found
      cases found
      simp [Collection.replaceFirst, modifyFirst, hasId_lineKey, matched, changed]
    · rw [List.find?_cons_of_neg matched] at found
      simp [Collection.replaceFirst, modifyFirst, hasId_lineKey, matched, ih found]

variable {targetId sourceId : String} {env : Env} {ctx : WriteContext} {qty : ℚ}

theorem mergeTarget_keys (step : WriteStep env ctx (mergeTargetWrite targetId sourceId qty) s t) :
    t.keys = modifyFirst (LineKey.hasId targetId) (LineKey.take qty [sourceId]) s.keys := by
  obtain ⟨stamped, old, new, line, kept, _, counted, merged⟩ := mergeTarget_effect step
  rw [line.stored]
  refine map_replaceFirst_key line.found ?_
  have superseded : isSupersededCountLine new = isSupersededCountLine old :=
    isSupersededCountLine_congr (kept _ (by decide)) (kept _ (by decide)) (kept _ (by decide))
  simp only [lineKey, LineKey.take, kept "id" (by decide), kept "session_id" (by decide), superseded,
    counted, merged, List.map_cons, List.map_nil]
  rfl

theorem mergeSource_keys {source : Doc} (step : WriteStep env ctx (mergeSourceWrite env targetId sourceId source) s t) :
    t.keys = s.keys := by
  obtain ⟨f, stamped, old, new, line, kept⟩ := mergeSource_effect step
  refine line.keys ?_
  have superseded : isSupersededCountLine new = isSupersededCountLine old :=
    isSupersededCountLine_congr (kept _ (by decide)) (kept _ (by decide)) (kept _ (by decide))
  simp only [lineKey, kept "id" (by decide), kept "session_id" (by decide), superseded, mergedFrom,
    Doc.get_congr (kept "counted_qty" (by decide)), Doc.get_congr (kept "merged_from" (by decide))]

def MergeOutcome.isComplete : MergeOutcome → Bool
  | .failed _ => false
  | _ => true

def sourceQty (keys : List LineKey) (sourceId : String) : ℚ :=
  ((keys.find? (LineKey.hasId sourceId)).map LineKey.qty).getD 0

section rounds

variable {user : User} {target targetSession : Doc}

/-- What a round does that did not fail. -/
theorem mergeSource_round {outcome : MergeOutcome}
    (ran : mergeSource env user targetId target targetSession sourceId s = .ok outcome t)
    (complete : outcome.isComplete = true) :
    sourceId = targetId ∧ t = s ∨ sourceId ≠ targetId ∧ (env.deployment = .transactional ∧ t.keys = s.keys ∨
        env.deployment = .standalone ∧ t.keys = modifyFirst (LineKey.hasId targetId)
          (LineKey.take (sourceQty s.keys sourceId) [sourceId]) s.keys) := by
  unfold mergeSource at ran
  split at ran
  · next same =>
    rw [pure_ok] at ran
    exact .inl ⟨same, ran.2.symm⟩
  · next different =>
    refine .inr ⟨different, ?_⟩
    simp only [bind_ok, reads_ok] at ran
    obtain ⟨found, _, ⟨looked, rfl⟩, ran⟩ := ran
    cases found with
    | none =>
      rw [pure_ok] at ran
      rw [← ran.1] at complete
      cases complete
    | some source =>
      have present : s.countLines.find? (Filter.eq "id" (.str sourceId)).holds = some source :=
        Except.ok.inj looked
      simp only [bind_ok] at ran
      obtain ⟨_, s₁, enforced, ran⟩ := ran
      have touched : OnlySessions s s₁ := by
        have moved := moves_enforceLogicFromLine env source s
        rwa [final_of_ok enforced] at moved
      split at ran
      · rw [pure_ok] at ran
        rw [← ran.1] at complete
        cases complete
      · simp only [bind_ok, attempt_ok] at ran
        obtain ⟨answer, u, block, ran⟩ := ran
        rcases block with ⟨⟨_, exit⟩, unit, rfl⟩ | ⟨_, _, rfl⟩
        · obtain ⟨w, block, _, rfl⟩ := UnitOfWork.runObserved_write_ok.mp unit
          rw [pure_ok] at ran
          obtain ⟨_, rfl⟩ := ran
          cases deployed : env.deployment with
          | transactional => exact .inl ⟨rfl, touched.keys⟩
          | standalone =>
            refine .inr ⟨rfl, ?_⟩
            simp only [withStore_ok, mergeBlock, bind_ok, reads_ok, pure_ok] at block
            obtain ⟨qty, _, ⟨read, rfl⟩, _, r, first, _, w', second, _, rfl⟩ := block
            obtain ⟨p, r₁, prepared, executed, between⟩ := processWriteCore_ok first
            obtain ⟨p', r₂, prepared', executed', after⟩ := processWriteCore_ok second
            have firstKeys := mergeTarget_keys ⟨p, _, prepared, executed⟩
            have secondKeys := mergeSource_keys ⟨p', _, prepared', executed'⟩
            have held : sourceQty s.keys sourceId = qty := by
              have lookup : s.keys.find? (LineKey.hasId sourceId) = some (lineKey source) := by
                rw [Store.keys, List.find?_map]
                exact congrArg (Option.map lineKey) present
              rw [sourceQty, lookup]
              exact floatOrError_asFloat read
            rw [held]
            calc w'.keys = r₂.keys := after.keys
              _ = r.keys := secondKeys
              _ = r₁.keys := between.keys
              _ = modifyFirst (LineKey.hasId targetId) (LineKey.take qty [sourceId]) s₁.keys := firstKeys
              _ = _ := by rw [touched.keys]
        · rw [pure_ok] at ran
          rw [← ran.1] at complete
          cases complete

end rounds

def PlainIds (keys : List LineKey) : Prop := ∀ key ∈ keys, ∀ items, key.id ≠ some (.list items)

theorem PlainIds.modifyFirst_take {keys : List LineKey} (plain : PlainIds keys) (qty : ℚ)
    (sourceIds : List String) : PlainIds (modifyFirst p (LineKey.take qty sourceIds) keys) := by
  induction keys with
  | nil => exact plain
  | cons key rest ih =>
    have later := ih fun k member => plain k (by simp [member])
    intro k member
    by_cases matched : p key = true
    · simp only [modifyFirst, matched, if_true, List.mem_cons] at member
      rcases member with rfl | stays
      · exact plain key (by simp)
      · exact plain k (by simp [stays])
    · simp only [modifyFirst, matched, if_false, List.mem_cons, Bool.false_eq_true] at member
      rcases member with rfl | stays
      · exact plain k (by simp)
      · exact later k stays

theorem hasId_other {key : LineKey} {text other : String} (plain : ∀ items, key.id ≠ some (.list items))
    (different : other ≠ text) (carries : key.hasId text = true) : key.hasId other = false := by
  simp only [LineKey.hasId, Filter.holds, Filter.fieldIs] at carries ⊢
  cases stored : key.id with
  | none => rfl
  | some v =>
    rw [stored] at carries plain
    cases v with
    | list items => exact absurd rfl (plain items)
    | str found =>
      simp only [beq_iff_eq, Value.str.injEq] at carries
      simpa [carries] using different.symm
    | _ => cases carries

def mergingIds (sourceIds : List String) (targetId : String) : List String :=
  sourceIds.filter (· ≠ targetId)

def mergedQty (keys : List LineKey) (ids : List String) : ℚ := (ids.map (sourceQty keys)).sum

theorem sourceQty_take {keys : List LineKey} (plain : PlainIds keys) {id : String} (qty : ℚ)
    (sourceIds : List String) (different : id ≠ targetId) :
    sourceQty (modifyFirst (LineKey.hasId targetId) (LineKey.take qty sourceIds) keys) id = sourceQty keys id := by
  rw [sourceQty, find_modifyFirst_other, sourceQty]
  intro key member carries
  have other := hasId_other (plain key member) different carries
  exact ⟨other, other⟩

section loop

variable {user : User} {target targetSession : Doc} {outcomes : List MergeOutcome}
  {sourceIds : List String}

theorem mergeLoop_transactional (transactional : env.deployment = .transactional) {s t : Store}
    (ran : sourceIds.mapM (mergeSource env user targetId target targetSession) s = .ok outcomes t)
    (complete : ∀ outcome ∈ outcomes, outcome.isComplete = true) : t.keys = s.keys := by
  induction sourceIds generalizing s outcomes with
  | nil =>
    rw [List.mapM_nil, pure_ok] at ran
    rw [ran.2]
  | cons sourceId rest ih =>
    simp only [List.mapM_cons, bind_ok, pure_ok] at ran
    obtain ⟨outcome, u, first, others, w, later, rfl, rfl⟩ := ran
    have laterKeys := ih later fun o member => complete o (by simp [member])
    rcases mergeSource_round first (complete outcome (by simp)) with ⟨_, rfl⟩ | ⟨_, same | changed⟩
    · exact laterKeys
    · rw [laterKeys, same.2]
    · rw [transactional] at changed
      cases changed.1

theorem mergeLoop_standalone (alone : env.deployment = .standalone) {s t : Store} (plain : PlainIds s.keys)
    (ran : sourceIds.mapM (mergeSource env user targetId target targetSession) s = .ok outcomes t)
    (complete : ∀ outcome ∈ outcomes, outcome.isComplete = true) :
    t.keys = modifyFirst (LineKey.hasId targetId)
      (LineKey.take (mergedQty s.keys (mergingIds sourceIds targetId)) (mergingIds sourceIds targetId))
      s.keys := by
  induction sourceIds generalizing s outcomes with
  | nil =>
    rw [List.mapM_nil, pure_ok] at ran
    rw [← ran.2, modifyFirst_id]
    intro key
    simp [LineKey.take, mergingIds, mergedQty]
  | cons sourceId rest ih =>
    simp only [List.mapM_cons, bind_ok, pure_ok] at ran
    obtain ⟨outcome, u, first, others, w, later, rfl, rfl⟩ := ran
    have restComplete : ∀ o ∈ others, o.isComplete = true := fun o member => complete o (by simp [member])
    rcases mergeSource_round first (complete outcome (by simp)) with ⟨same, rfl⟩ | ⟨different, kept | changed⟩
    · have skipped : mergingIds (sourceId :: rest) targetId = mergingIds rest targetId := by
        simp [mergingIds, same]
      rw [skipped]
      exact ih plain later restComplete
    · rw [alone] at kept
      cases kept.1
    · obtain ⟨_, keysU⟩ := changed
      have taken : mergingIds (sourceId :: rest) targetId = sourceId :: mergingIds rest targetId := by
        simp [mergingIds, different]
      have plainU : PlainIds u.keys := by
        rw [keysU]
        exact plain.modifyFirst_take _ _
      have laterKeys := ih plainU later restComplete
      -- the earlier rounds do not change what the later sources hold
      have sameQty : mergedQty u.keys (mergingIds rest targetId) = mergedQty s.keys (mergingIds rest targetId) := by
        refine congrArg List.sum (List.map_congr_left fun id member => ?_)
        rw [keysU]
        exact sourceQty_take plain _ _ (by simpa [mergingIds] using (List.mem_filter.mp member).2)
      rw [laterKeys, sameQty, keysU, modifyFirst_twice _ (hasId_take _ _ _), taken]
      congr 1
      funext key
      simp [LineKey.take, mergedQty, add_assoc]

end loop

/-- The sum of the counts of the session's lines in force. -/
def effectiveQty (s : Store) (sessionId : String) : ℚ :=
  (((s.sessionLines sessionId).filter fun line => !isSupersededCountLine line).map fun line =>
    asFloat (line.get "counted_qty")).sum

theorem effectiveQty_keys (s : Store) (sessionId : String) :
    effectiveQty s sessionId = ((s.keys.filter (LineKey.inForce sessionId)).map LineKey.qty).sum := by
  rw [effectiveQty, Store.sessionLines, List.filter_filter, Store.keys, List.filter_map, List.map_map]
  refine congrArg List.sum (congrArg₂ List.map rfl (List.filter_congr fun line _ => ?_))
  rw [Function.comp_apply, inForce_lineKey, Bool.and_comm]

/-- What a merge promises: the stock of the session stays what it was, and the target
takes no source a second time. -/
structure MergeSound (sessionId targetId : String) (s t : Store) (target : Doc) : Prop where
  conserved : effectiveQty t sessionId = effectiveQty s sessionId
  once : ∃ target' added,
    t.countLines.find? (Filter.eq "id" (.str targetId)).holds = some target' ∧
    mergedFrom target' = mergedFrom target ++ added ∧ added.Nodup ∧ ∀ id ∈ added, id ∉ mergedFrom target

/-- The merge stores nothing; or the target is not in force in the session or the sources
hold nothing together, and every source is named once and was not merged before. -/
def MergeHarmless (env : Env) (sessionId targetId : String) (sourceIds : List String) (s : Store)
    (target : Doc) : Prop :=
  env.deployment = .transactional ∨
    (((inSession sessionId target && !isSupersededCountLine target) = true →
        mergedQty s.keys (mergingIds sourceIds targetId) = 0) ∧
      (mergingIds sourceIds targetId).Nodup ∧
      ∀ id ∈ mergingIds sourceIds targetId, .str id ∉ mergedFrom target)

theorem find_keys {text : String} :
    s.keys.find? (LineKey.hasId text) = (s.countLines.find? (Filter.eq "id" (.str text)).holds).map lineKey := by
  rw [Store.keys, List.find?_map]
  rfl

theorem mergeCountLines_run {user : User} {sourceIds : List String} {answer : Answer (List MergeOutcome)}
    (success : mergeCountLines env user sourceIds targetId s = .ok answer t) :
    ∃ target targetSession s₀ u,
      s.countLines.find? (Filter.eq "id" (.str targetId)).holds = some target ∧ OnlySessions s s₀ ∧
      sourceIds.mapM (mergeSource env user targetId target targetSession) s₀ = .ok answer.body u ∧
      OnlySessions u t := by
  simp only [mergeCountLines, bind_ok, reads_ok, pure_ok] at success
  obtain ⟨_, _, ⟨_, rfl⟩, target, _, ⟨lookup, rfl⟩, _, s₀, enforced, targetSession, _, ⟨_, rfl⟩, _,
    _, ⟨_, rfl⟩, outcomes, u, loop, _, w, recomputed, rfl, rfl⟩ := success
  refine ⟨target, targetSession, s₀, u, ?_, ?_, loop, ?_⟩
  · split at lookup
    · next present => rw [present, Except.ok.inj lookup]
    · cases lookup
  · have moved := moves_enforceLogicFromLine env target s
    rwa [final_of_ok enforced] at moved
  · have moved : OnlySessions u ((recomputeAfterMerge env
        (!(outcomes.filterMap MergeOutcome.exit?).isEmpty)
        (target.get "session_id").textOrEmpty).final u) := by
      unfold recomputeAfterMerge
      split
      · exact Moves.bind (Moves.attempt (moves_recomputeSessionTotals env _)) (fun _ => Moves.pure ()) u
      · exact refl_of OnlySessions u
    rwa [final_of_ok recomputed] at moved

/-- A merge that stores what it takes, in terms of the target. -/
theorem mergeSound_of_taken {sessionId : String} {ids : List String} {target : Doc}
    (found : s.countLines.find? (Filter.eq "id" (.str targetId)).holds = some target)
    (keys : t.keys = modifyFirst (LineKey.hasId targetId) (LineKey.take qty ids) s.keys) :
    MergeSound sessionId targetId s t target ↔
      ((inSession sessionId target && !isSupersededCountLine target) = true → qty = 0) ∧ ids.Nodup ∧
        ∀ id ∈ ids, .str id ∉ mergedFrom target := by
  have foundKey : s.keys.find? (LineKey.hasId targetId) = some (lineKey target) := by
    rw [find_keys, found]
    rfl
  have sum : effectiveQty t sessionId = effectiveQty s sessionId +
      if (inSession sessionId target && !isSupersededCountLine target) then qty else 0 := by
    have inForceSame : ∀ key : LineKey, (key.take qty ids).inForce sessionId = key.inForce sessionId := fun _ => rfl
    rw [effectiveQty_keys, keys, sum_modifyFirst foundKey inForceSame, effectiveQty_keys, inForce_lineKey]
    simp only [LineKey.take, add_sub_cancel_left]
    rfl
  have taken := find_modifyFirst_same (hasId_take targetId qty ids) foundKey
  rw [← keys, find_keys] at taken
  obtain ⟨target', found', keyEq⟩ := Option.map_eq_some_iff.mp taken
  have merged : mergedFrom target' = mergedFrom target ++ ids.map .str := congrArg LineKey.merged keyEq
  have injective : Function.Injective Atom.str := fun a b same => Atom.str.inj same
  constructor
  · intro sound
    obtain ⟨other, added, otherFound, otherMerged, distinct, fresh⟩ := sound.once
    rw [found'] at otherFound
    cases otherFound
    have sameAdded : added = ids.map .str := List.append_cancel_left (otherMerged.symm.trans merged)
    subst sameAdded
    refine ⟨fun counted => ?_, (List.nodup_map_iff injective).mp distinct, fun id member => ?_⟩
    · have unchanged := sound.conserved
      rw [sum, if_pos counted] at unchanged
      linarith
    · exact fresh (.str id) (List.mem_map_of_mem member)
  · rintro ⟨nothing, distinct, fresh⟩
    refine ⟨?_, target', ids.map .str, found', merged, (List.nodup_map_iff injective).mpr distinct, ?_⟩
    · rw [sum]
      split
      · next counted => rw [nothing counted, add_zero]
      · rw [add_zero]
    · intro atom member
      obtain ⟨id, listed, rfl⟩ := List.mem_map.mp member
      exact fresh id listed

/-- A merge in which every source went through keeps its promise exactly where it is
harmless. -/
theorem mergeSound_iff {env : Env} {user : User} {sourceIds : List String}
    {sessionId targetId : String} {s t : Store} {target : Doc} {answer : Answer (List MergeOutcome)}
    (success : mergeCountLines env user sourceIds targetId s = .ok answer t)
    (complete : ∀ outcome ∈ answer.body, outcome.isComplete = true)
    (found : s.countLines.find? (Filter.eq "id" (.str targetId)).holds = some target)
    (plain : ∀ line ∈ s.countLines, ∀ items, line "id" ≠ some (.list items)) :
    MergeSound sessionId targetId s t target ↔ MergeHarmless env sessionId targetId sourceIds s target := by
  obtain ⟨other, targetSession, s₀, u, otherFound, before, loop, after⟩ := mergeCountLines_run success
  rw [found] at otherFound
  cases otherFound
  have plainKeys : PlainIds s₀.keys := by
    intro key member
    rw [before.keys, Store.keys] at member
    obtain ⟨line, stored, rfl⟩ := List.mem_map.mp member
    exact plain line stored
  cases deployed : env.deployment with
  | transactional =>
    have keys : t.keys = modifyFirst (LineKey.hasId targetId) (LineKey.take 0 []) s.keys := by
      rw [after.keys, mergeLoop_transactional deployed loop complete, before.keys, modifyFirst_id]
      intro key
      simp [LineKey.take]
    refine iff_of_true ?_ (.inl deployed)
    exact (mergeSound_of_taken found keys).mpr ⟨fun _ => rfl, by simp, by simp⟩
  | standalone =>
    have keys := mergeLoop_standalone deployed plainKeys loop complete
    rw [← after.keys, before.keys] at keys
    rw [mergeSound_of_taken found keys, MergeHarmless, deployed]
    simp

/-- Two lines of one item, the second holding the given quantity. -/
def twoLineStore (held : ℚ) : Store := { countingStore with
  countLines := [
    Doc.ofList [("_id", .oid "b1"), ("id", .str "L1"), ("session_id", .str "S1"),
      ("item_code", .str "I1"), ("location_id", .str "W1"), ("floor_id", .str "F1"),
      ("floor_no", .str "F1"), ("rack_id", .str "R1"), ("rack_no", .str "R1"),
      ("counted_qty", .num 6), ("status", .str "pending"), ("version", .num 1)],
    Doc.ofList [("_id", .oid "b2"), ("id", .str "L2"), ("session_id", .str "S1"),
      ("item_code", .str "I1"), ("location_id", .str "W1"), ("floor_id", .str "F1"),
      ("floor_no", .str "F1"), ("rack_id", .str "R2"), ("rack_no", .str "R2"),
      ("counted_qty", .num held), ("status", .str "pending"), ("version", .num 1)]] }

def merger : User := { username := "meera", role := "supervisor" }

def mergeSecond (held : ℚ) : EStateM.Result Error Store (Answer (List MergeOutcome)) :=
  mergeCountLines standaloneEnv merger ["L2"] "L1" (twoLineStore held)

/-- Every source of a merge went through. -/
def allComplete : EStateM.Result Error Store (Answer (List MergeOutcome)) → Bool
  | .ok answer _ => answer.body.all MergeOutcome.isComplete
  | .error _ _ => false

theorem exists_of_allComplete {result : EStateM.Result Error Store (Answer (List MergeOutcome))}
    (all : allComplete result = true) :
    ∃ answer t, result = .ok answer t ∧ ∀ outcome ∈ answer.body, outcome.isComplete = true := by
  cases result with
  | ok answer t =>
    refine ⟨answer, t, rfl, ?_⟩
    simpa [allComplete] using all
  | error e t => cases all

/-- A source that holds nothing. -/
theorem mergeSound_empty : ∃ answer t, mergeSecond 0 = .ok answer t ∧
    MergeSound "S1" "L1" (twoLineStore 0) t ((twoLineStore 0).countLines.headD Doc.empty) := by
  obtain ⟨answer, t, ran, complete⟩ := exists_of_allComplete
    (show allComplete (mergeSecond 0) = true by decide +kernel)
  refine ⟨answer, t, ran, (mergeSound_iff ran complete rfl ?_).mpr (.inr ⟨?_, ?_, ?_⟩)⟩
  · intro line member items
    rcases List.mem_pair.mp member with rfl | rfl <;> simp
  · intro _
    decide +kernel
  · decide
  · intro id member
    simp [mergedFrom, Doc.get_eq]

/-- A source of 4: the session's 10 become 14. -/
theorem mergeSound_fails_stocked : ∃ answer t, mergeSecond 4 = .ok answer t ∧
    (∀ outcome ∈ answer.body, outcome.isComplete = true) ∧
    ¬ MergeSound "S1" "L1" (twoLineStore 4) t ((twoLineStore 4).countLines.headD Doc.empty) := by
  obtain ⟨answer, t, ran, complete⟩ := exists_of_allComplete
    (show allComplete (mergeSecond 4) = true by decide +kernel)
  refine ⟨answer, t, ran, complete, ?_⟩
  intro sound
  have unchanged := sound.conserved
  have before : effectiveQty (twoLineStore 4) "S1" = 10 := by decide +kernel
  have after : effectiveQty (final (mergeCountLines standaloneEnv merger ["L2"] "L1") (twoLineStore 4))
      "S1" = 14 := by
    decide +kernel
  rw [final_of_ok ran] at after
  rw [before, after] at unchanged
  revert unchanged
  decide +kernel

end StockVerification
