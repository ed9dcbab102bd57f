import StockVerification.RecountChains

/-!
# Runs of recounts

Each committed recount inserts a successor of a line in force and marks that line,
whichever of the three paths it takes; reviews leave the chains alone.
-/
namespace StockVerification

open Foundation Foundation.Action

variable {env : Env} {document : Doc}

theorem insertHash_truthy {hash : Value} (digest : ∀ payload, env.digest payload ≠ "")
    (success : insertHash env document = .ok hash) : hash.truthy = true := by
  unfold insertHash at success
  split at success
  · next truthy =>
    rw [← Except.ok.inj success]
    exact truthy
  · obtain ⟨text, built, rfl⟩ := map_success.mp success
    obtain ⟨payload, rfl⟩ := buildSemanticHash_ok built
    simpa using digest payload

variable {line : Doc}

theorem isSuperseded_of_unmarked (at_ : (line.get "superseded_at").truthy = false)
    (by_ : (line.get "superseded_by_version_id").truthy = false)
    (status : normalizeCountLineStatus (line.get "status") ≠ "superseded") : isSupersededCountLine line = false := by
  simp [isSupersededCountLine, at_, by_, status]

theorem not_isSuperseded (live : isSupersededCountLine line = false) :
    (line.get "superseded_at").truthy = false ∧ (line.get "superseded_by_version_id").truthy = false ∧
      normalizeCountLineStatus (line.get "status") ≠ "superseded" := by
  simp only [isSupersededCountLine, Bool.or_eq_false_iff, beq_eq_false_iff_ne] at live
  exact ⟨live.2, live.1.2, live.1.1⟩

/-- A document handed to the write core as a line in force. -/
structure FreshDocument (env : Env) (document : Doc) : Prop where
  noId : document "_id" = none
  id : document "id" = some (.str env.freshId)
  unmarked : (document.get "superseded_at").truthy = false ∧ (document.get "superseded_by_version_id").truthy = false
  pending : document.has "counted_qty" = false → document "status" = some (.str "pending")

variable {s t : Store} {ctx : WriteContext}

/-- What such a document becomes; its link is the document's own. -/
theorem FreshDocument.inserted (fresh : FreshIds s env)
    (doc : FreshDocument env document) (status : ctx.setStatusFromGovernance = true)
    (link : (document.get "previous_version_id").truthy = true → document.get "previous_version_id" ∉ links s ∧ ∃
      earlier ∈ s.countLines, ∃ v, earlier.get "id" = document.get "previous_version_id" ∧ versionOrOne earlier = some v
      ∧ document.get "version" = .num (v + 1 : Int))
    (step : WriteStep env ctx (.insertOne document) s t) :
    ∃ line, NewLine s line ∧ t.countLines = s.countLines ++ [line] ∧
      line.get "previous_version_id" = document.get "previous_version_id" := by
  obtain ⟨p, result, prepared, executed⟩ := step
  obtain ⟨line, inserted, rfl, _, objectId, free⟩ := insertOne_effect doc.noId prepared executed
  obtain ⟨hash, hashEq, _, stored⟩ := inserted.hashed
  have truthyHash : (line.get "semantic_hash").truthy = true := by
    rw [Doc.get_of_some stored]
    exact insertHash_truthy fresh.digest hashEq
  have sameLink : line.get "previous_version_id" = document.get "previous_version_id" :=
    Doc.get_congr (inserted.other _ (by decide) (by decide))
  have sameVersion : line.get "version" = document.get "version" :=
    Doc.get_congr (inserted.other _ (by decide) (by decide))
  have id : line "id" = some (.str env.freshId) := by
    rw [inserted.other _ (by decide) (by decide), doc.id]
  have lineStatus : normalizeCountLineStatus (line.get "status") ≠ "superseded" := by
    cases counted : document.has "counted_qty" with
    | true =>
      obtain ⟨_, e, _, governed⟩ := inserted.governed counted
      have decided : line "status" = some (.str e.decision.status) := by
        rw [governed _ (by decide)]
        refine applyAuthoritativeFields_decided ?_
        simp [decisionFields, status]
      rw [Doc.get_of_some decided, GovernanceDecision.status]
      split <;> decide
    | false =>
      rw [Doc.get_of_some ((inserted.uncounted counted _ (by decide) (by decide)).trans (doc.pending counted))]
      decide
  have live : isSupersededCountLine line = false := by
    refine isSuperseded_of_unmarked ?_ ?_ lineStatus
    · rw [Doc.get_congr (inserted.other _ (by decide) (by decide))]
      exact doc.unmarked.1
    · rw [Doc.get_congr (inserted.other _ (by decide) (by decide))]
      exact doc.unmarked.2
  have freshObjectId : ∀ other ∈ s.countLines, other.get "_id" ≠ line.get "_id" := by
    intro other member same
    have taken : Collection.sameEntry { field := "_id" } line other = true := by
      rw [Doc.get_of_some objectId] at same
      have otherId : other "_id" = some (.oid env.freshOid) := by
        rw [Doc.get_eq] at same
        cases h : other "_id" with
        | none => simp [h] at same
        | some v => simpa [h] using same
      simp [Collection.sameEntry, Doc.has, objectId, otherId]
    have none := List.find?_eq_none.mp free { field := "_id" } (by simp [countLineIndexes])
    exact none (List.any_eq_true.mpr ⟨other, member, taken⟩)
  refine ⟨line, ⟨⟨⟨_, id, fresh.named⟩, ⟨_, objectId⟩, .inl truthyHash, ?_⟩, live, ?_,
    freshObjectId, ?_⟩, rfl, sameLink⟩
  · intro superseded
    rw [live] at superseded
    cases superseded
  · intro other member
    rw [Doc.get_of_some id]
    exact fresh.unused other member
  · rw [sameLink, sameVersion]
    exact link

theorem Linked.congr (same : t.countLines = s.countLines) (sound : Linked s) : Linked t := by
  obtain ⟨line, ids, objectIds, single, linked⟩ := sound
  refine ⟨same ▸ line, same ▸ ids, same ▸ objectIds, ?_, same ▸ linked⟩
  rwa [links, same]

theorem ofLines_chainsSound : OfLines ChainsSound := by
  intro s t same sound
  have lines := same.countLines
  refine ⟨sound.toLinked.congr lines, ?_⟩
  have sameLinks : links t = links s := by rw [links, links, lines]
  rw [lines, sameLinks]
  exact sound.superseded

theorem Linked.eq_of_find (sound : Linked s) {found : Doc} (member : line ∈ s.countLines)
    (lookup : s.countLines.find? (Filter.eq "_id" (line.get "_id")).holds = some found) : found = line := by
  have foundMember := List.mem_of_find?_eq_some lookup
  have matched := List.find?_some lookup
  obtain ⟨hex, stored⟩ := (sound.line found foundMember).objectId
  refine List.inj_on_of_nodup_map sound.objectIds foundMember member ?_
  simp only [Filter.holds, Filter.fieldIs, stored, beq_iff_eq] at matched
  rw [Doc.get_of_some stored, matched]

theorem ChainLine.revised {old new : Doc} (sound : ChainLine old) (revised : Revised old new)
    (hash : (new.get "semantic_hash").truthy = true)
    (marked : isSupersededCountLine new = true → (new.get "superseded_at").truthy = true) : ChainLine new := by
  obtain ⟨text, stored, nonblank⟩ := sound.id
  obtain ⟨hex, storedHex⟩ := sound.objectId
  refine ⟨⟨text, by rw [revised.id, stored], nonblank⟩, ⟨hex, by rw [revised.objectId, storedHex]⟩,
    .inl hash, fun superseded => ⟨marked superseded, hash⟩⟩

structure Successor (env : Env) (old document : Doc) : Prop extends FreshDocument env document where
  previous : document.get "previous_version_id" = old.get "id"
  version : ∃ v, versionOrOne old = some v ∧ document.get "version" = .num (v + 1 : Int)

/-- Inserting the successor of a line in force and marking that line. -/
theorem ChainsSound.recount {ctx' : WriteContext} {r r' : Store} {old : Doc} {username : String}
    (sound : ChainsSound s) (fresh : FreshIds s env) (successor : Successor env old document)
    (stored : old ∈ s.countLines) (live : isSupersededCountLine old = false)
    (status : ctx.setStatusFromGovernance = true) (plain : ctx'.transition = none)
    (inserted : WriteStep env ctx (.insertOne document) s r) (between : OnlySessions r r')
    (marked : WriteStep env ctx' (.updateOne (.eq "_id" (old.get "_id")) (.ofSet (supersededFields env username
      document))) r' t) :
    ChainsSound t := by
  obtain ⟨text, oldId, nonblank, _⟩ := (sound.line old stored).text
  have truthy : (document.get "previous_version_id").truthy = true := by
    rw [successor.previous, oldId]
    simpa using nonblank
  have unlinked : document.get "previous_version_id" ∉ links s := by
    rw [successor.previous, ← sound.superseded old stored, live]
    simp
  obtain ⟨v, oldVersion, nextVersion⟩ := successor.version
  obtain ⟨line, new, lines, sameLink⟩ := successor.toFreshDocument.inserted fresh status
    (fun _ => ⟨unlinked, old, stored, v, successor.previous.symm, oldVersion, nextVersion⟩) inserted
  have linesR' : r'.countLines = s.countLines ++ [line] := between.countLines.trans lines
  have linkedR' : Linked r' := sound.toLinked.append new linesR'
  have storedR' : old ∈ r'.countLines := by
    rw [linesR', List.mem_append]
    exact .inl stored
  obtain ⟨stamped, found, superseded, updated, kept, at_, hashed⟩ := supersede_effect plain marked
  have sameLine : found = old := linkedR'.eq_of_find storedR' updated.found
  subst sameLine
  have revised : Revised found superseded :=
    ⟨kept _ (by decide) (by decide), kept _ (by decide) (by decide), kept _ (by decide) (by decide),
      kept _ (by decide) (by decide)⟩
  have truthyAt : (superseded.get "superseded_at").truthy = true := by
    rw [Doc.get_of_some at_]
    rfl
  have truthyHash : (superseded.get "semantic_hash").truthy = true := by
    rcases hashed with ⟨payload, stamp⟩ | ⟨uncounted, same⟩
    · rw [Doc.get_of_some stamp]
      simpa using fresh.digest payload
    · rw [Doc.get_congr same]
      rcases (sound.line found stored).fingerprint with hash | counted
      · exact hash
      · rw [uncounted] at counted
        cases counted
  refine sound.replace new (by rw [sameLink]; exact truthy) (by rw [sameLink, successor.previous]) linesR'
    updated revised ((sound.line found stored).revised revised truthyHash fun _ => truthyAt) ?_
  simp [isSupersededCountLine, truthyAt]

theorem versionOrOne_of_intOrError {d : Doc} {v : Int}
    (read : intOrError (d.get "version") 1 = .ok v) : versionOrOne d = some v := by
  unfold intOrError at read
  unfold versionOrOne
  split at read
  · next truthy =>
    rw [if_pos truthy]
    split at read
    · next n same => rw [same, Except.ok.inj read]
    · cases read
  · next falsy => rw [if_neg falsy, Except.ok.inj read]

section steps

variable {existing : Doc}

theorem findDuplicateCountLine_some {lines : List Doc}
    (found : findDuplicateCountLine lines line = some existing) :
    existing ∈ lines ∧ isSupersededCountLine existing = false := by
  refine ⟨List.mem_of_find?_eq_some found, ?_⟩
  have matched := List.find?_some found
  simp only [Bool.and_eq_true, Bool.not_eq_true'] at matched
  exact matched.2

variable {user : User}

/-- The built document of a creation is unmarked. -/
theorem built_freshDocument {line : CountLineCreate} {a : Admission} {target : Option Doc}
    (built : buildCountLineDocument env user line a target = .ok document) : FreshDocument env document := by
  have facts := buildCountLineDocument_ok built
  refine ⟨facts.noId, facts.id, ⟨?_, ?_⟩, ?_⟩
  · rw [Doc.get_eq, built_other built _ (by decide)]
    rfl
  · rw [Doc.get_eq, built_other built _ (by decide)]
    rfl
  · intro uncounted
    rw [Doc.has, facts.counted] at uncounted
    cases uncounted

theorem createBlock_chains {line : CountLineCreate} {a : Admission} {body : Doc} (sound : ChainsSound s)
    (fresh : FreshIds s env) (ran : createBlock env user line a s = .ok body t) : ChainsSound t := by
  simp only [createBlock, persistCountLineBlock, bind_ok, reads_ok, withStore_ok, pure_ok] at ran
  obtain ⟨target, _, ⟨resolved, rfl⟩, document, _, ⟨built, rfl⟩, result, r', inserted, _, w,
    superseded, _, rfl⟩ := ran
  obtain ⟨p, r, prepared, executed, between⟩ := processWriteCore_ok inserted
  have freshDocument := built_freshDocument built
  have facts := buildCountLineDocument_ok built
  cases target with
  | none =>
    -- no line is replaced
    simp only [supersedeTarget, pure_ok] at superseded
    obtain ⟨_, rfl⟩ := superseded
    have unlinked : (document.get "previous_version_id").truthy = false := by
      rw [Doc.get_of_some facts.previous]
      rfl
    obtain ⟨new, newLine, lines, sameLink⟩ := freshDocument.inserted fresh rfl
      (fun truthy => by rw [unlinked] at truthy; cases truthy) ⟨p, result, prepared, executed⟩
    exact sound.append newLine (by rw [sameLink, unlinked]) (between.countLines.trans lines)
  | some old =>
    simp only [supersedeTarget, bind_ok, pure_ok] at superseded
    obtain ⟨_, w, marked, _, rfl⟩ := superseded
    obtain ⟨p', w', markPrepared, markExecuted, after⟩ := processWriteCore_ok marked
    obtain ⟨stored, live⟩ : old ∈ s.countLines ∧ isSupersededCountLine old = false := by
      unfold resolveRecountTarget at resolved
      split at resolved
      · cases resolved
      · next existing found =>
        split at resolved
        · obtain rfl : existing = old := by simpa using resolved
          exact findDuplicateCountLine_some found
        · cases resolved
    obtain ⟨text, oldId, _, extracted⟩ := (sound.line old stored).text
    have successor : Successor env old document := by
      refine ⟨freshDocument, ?_, ?_⟩
      · rw [Doc.get_of_some facts.previous, Option.bind_some, extracted, oldId]
        rfl
      · obtain ⟨v, read, version⟩ := facts.version
        exact ⟨v, versionOrOne_of_intOrError read, Doc.get_of_some version⟩
    exact ofLines_chainsSound _ _ after.sameLines (sound.recount fresh successor stored live rfl rfl
      ⟨p, result, prepared, executed⟩ between ⟨p', _, markPrepared, markExecuted⟩)

theorem duplicateSuccessor_successor {line : OfflineLine} {text : String}
    (extracted : extractDocumentId existing = some text) (id : existing.get "id" = .str text)
    (success : duplicateSuccessor env line.document existing = .ok document) : Successor env existing document := by
  simp only [duplicateSuccessor, bind_success, pure_success] at success
  obtain ⟨version, versionEq, _, _, rfl⟩ := success
  have other : ∀ field, field ∈ ["superseded_at", "superseded_by_version_id"] →
      ∀ entries : List (String × Value), field ∉ entries.map Prod.fst →
      ((line.document.erase "_id").setAll entries).get field = line.document.get field := by
    intro field member entries absent
    have notId : field ≠ "_id" := by
      rintro rfl
      revert member
      decide
    refine Doc.get_congr ?_
    rw [Doc.setAll_other _ absent, Doc.erase_other _ notId]
  refine ⟨⟨?_, rfl, ⟨?_, ?_⟩, fun _ => rfl⟩, ?_, version, versionOrOne_of_intOrError versionEq, rfl⟩
  · rw [Doc.setAll_other _ (by simp), Doc.erase_same]
  · rw [other _ (by decide) _ (by simp), Doc.get_eq, line.unmarked.1]
    rfl
  · rw [other _ (by decide) _ (by simp), Doc.get_eq, line.unmarked.2]
    rfl
  · rw [id, extracted]
    rfl

theorem syncDuplicateBlock_chains {sessionId username : String} {session : Doc} {line : OfflineLine}
    {u : Unit} (sound : ChainsSound s) (fresh : FreshIds s env)
    (ran : syncDuplicateBlock env sessionId username session line s = .ok u t) : ChainsSound t := by
  simp only [syncDuplicateBlock, bind_ok, reads_ok] at ran
  obtain ⟨duplicate, _, ⟨found, rfl⟩, ran⟩ := ran
  cases duplicate with
  | none =>
    simp only [pure_ok] at ran
    rw [← ran.2]
    exact sound
  | some existing =>
    simp only [handleDuplicateBlock, bind_ok, reads_ok, withStore_ok, pure_ok] at ran
    obtain ⟨_, _, ⟨_, rfl⟩, document, _, ⟨built, rfl⟩, result, r', inserted, _, w, marked, _, rfl⟩ := ran
    obtain ⟨p, r, prepared, executed, between⟩ := processWriteCore_ok inserted
    obtain ⟨p', w', markPrepared, markExecuted, after⟩ := processWriteCore_ok marked
    obtain ⟨stored, live⟩ := findDuplicateCountLine_some (Except.ok.inj found)
    obtain ⟨text, oldId, _, extracted⟩ := (sound.line existing stored).text
    exact ofLines_chainsSound _ _ after.sameLines (sound.recount fresh
      (duplicateSuccessor_successor extracted oldId built) stored live rfl rfl
      ⟨p, result, prepared, executed⟩ between ⟨p', _, markPrepared, markExecuted⟩)

/-- The copy of a line with a fingerprint is refused. -/
theorem recounted_unhashed {qty : ℚ} {successor : Doc} (stored : existing ∈ s.countLines)
    (facts : RecountedLine env qty existing successor) (step : WriteStep env ctx (.insertOne successor) s t) :
    (existing.get "semantic_hash").truthy = false := by
  obtain ⟨p, result, prepared, executed⟩ := step
  obtain ⟨line, inserted, _, _, _, _⟩ := insertOne_effect facts.noId prepared executed
  obtain ⟨hash, hashEq, fresh, _⟩ := inserted.hashed
  rw [← Bool.not_eq_true]
  intro truthy
  have same : successor "semantic_hash" = existing "semantic_hash" :=
    facts.other _ (by decide) (by decide)
  rw [insertHash, Doc.get_congr same, if_pos truthy] at hashEq
  rw [← Except.ok.inj hashEq] at fresh
  refine Bool.false_ne_true (fresh.symm.trans (List.any_eq_true.mpr ⟨existing, stored, ?_⟩))
  simp only [Filter.holds, Filter.fieldIs, Doc.get_eq] at truthy ⊢
  cases h : existing "semantic_hash" with
  | none => simp [h] at truthy
  | some v => cases v <;> simp

theorem completeRecountBlock_chains {committed : Store} {recountId : String} {notes : Option String}
    {qty : ℚ} {body : Doc} (sound : ChainsSound s) (fresh : FreshIds s env)
    (ran : completeRecountBlock env committed user recountId notes qty s = .ok body t) : ChainsSound t := by
  simp only [completeRecountBlock, bind_ok, reads_ok, pure_ok] at ran
  obtain ⟨recount, _, ⟨_, rfl⟩, lineId, _, ⟨_, rfl⟩, existing, _, ⟨lookup, rfl⟩, _, _, ⟨_, rfl⟩, session, _,
    ⟨_, rfl⟩, place, _, ⟨_, rfl⟩, document, _, ⟨built, rfl⟩, result, r', inserted, _, w, marked, _, v,
    requested, _, rfl⟩ := ran
  have stored : existing ∈ s.countLines := by
    split at lookup
    · next present =>
      rw [← Except.ok.inj lookup]
      exact List.mem_of_find?_eq_some present
    · cases lookup
  have facts := recountedLine_ok built
  obtain ⟨p, r, prepared, executed, between⟩ := processWriteCore_ok inserted
  obtain ⟨p', w', markPrepared, markExecuted, after⟩ := processWriteCore_ok marked
  have unhashed := recounted_unhashed stored facts ⟨p, result, prepared, executed⟩
  have live : isSupersededCountLine existing = false := by
    rw [← Bool.not_eq_true]
    intro superseded
    have hashed := ((sound.line existing stored).marked superseded).2
    rw [unhashed] at hashed
    cases hashed
  obtain ⟨text, oldId, nonblank, _⟩ := (sound.line existing stored).text
  have successor : Successor env existing document := by
    refine ⟨⟨facts.noId, facts.id, ⟨?_, ?_⟩, ?_⟩, ?_, ?_⟩
    · rw [Doc.get_congr (facts.other _ (by decide) (by decide))]
      exact (not_isSuperseded live).1
    · rw [Doc.get_congr (facts.other _ (by decide) (by decide))]
      exact (not_isSuperseded live).2.1
    · intro uncounted
      rw [Doc.has, facts.counted] at uncounted
      cases uncounted
    · have truthy : (Value.str text).truthy = true := by simpa using nonblank
      rw [Doc.get_of_some facts.previous, oldId, Value.orElse, if_pos truthy]
      rfl
    · obtain ⟨v, read, version⟩ := facts.version
      exact ⟨v, versionOrOne_of_intOrError read, Doc.get_of_some version⟩
  have recounted := sound.recount fresh successor stored live rfl rfl ⟨p, result, prepared, executed⟩
    between ⟨p', _, markPrepared, markExecuted⟩
  have settled := moves_transitionRecountRequestCore env recountId "completed"
    (completionFields env (Text.strip user.username) notes (some qty)) w
  rw [final_of_ok requested] at settled
  exact ofLines_chainsSound _ _ (trans_of SameLines after.sameLines settled) recounted

theorem reviewCountLine_chains {lineId : String} {decision : ReviewDecision} (sound : ChainsSound s)
    (digest : ∀ payload, env.digest payload ≠ "") :
    ChainsSound ((reviewCountLine env user lineId decision).final s) := by
  refine final_reviewCountLine ofLines_chainsSound sound fun r t line _ _ inv step => ?_
  have uncounted : Doc.ofList (decision.fields env user line) "counted_qty" = none := by
    cases decision <;> rfl
  obtain ⟨stamped, old, new, updated, fields, hashed, unhashed⟩ := setOne_effect rfl uncounted step
  have unnamed : ∀ field ∈ ["id", "_id", "previous_version_id", "version", "superseded_at",
      "superseded_by_version_id", "semantic_hash"],
      Doc.ofList (decision.fields env user line) field = none := by
    intro field member
    cases decision <;> (refine Doc.ofList_other ?_; revert field; simp [ReviewDecision.fields])
  have kept : ∀ field ∈ ["id", "_id", "previous_version_id", "version", "superseded_at",
      "superseded_by_version_id"], new field = old field := by
    intro field member
    rw [fields field (by rintro rfl; revert member; decide),
      unnamed field (by revert member; simp only [List.mem_cons]; tauto)]
    rfl
  have revised : Revised old new :=
    ⟨kept _ (by decide), kept _ (by decide), kept _ (by decide), kept _ (by decide)⟩
  have oldLine := inv.line old updated.mem
  have truthyHash : (new.get "semantic_hash").truthy = true := by
    cases counted : old.has "counted_qty" with
    | true =>
      obtain ⟨payload, stamp⟩ := hashed counted
      rw [Doc.get_of_some stamp]
      simpa using digest payload
    | false =>
      have same : new "semantic_hash" = old "semantic_hash" := by
        rw [unhashed counted, unnamed _ (by decide)]
        rfl
      rw [Doc.get_congr same]
      rcases oldLine.fingerprint with hash | present
      · exact hash
      · rw [counted] at present
        cases present
  have sameAt : new.get "superseded_at" = old.get "superseded_at" := Doc.get_congr (kept _ (by decide))
  have sameBy : new.get "superseded_by_version_id" = old.get "superseded_by_version_id" :=
    Doc.get_congr (kept _ (by decide))
  have superseded : isSupersededCountLine new = isSupersededCountLine old := by
    cases live : isSupersededCountLine old with
    | true =>
      -- the decision may replace the status, but not the time stamp
      simp [isSupersededCountLine, sameAt, (oldLine.marked live).1]
    | false =>
      obtain ⟨at_, by_, status⟩ := not_isSuperseded live
      refine isSuperseded_of_unmarked (by rw [sameAt, at_]) (by rw [sameBy, by_]) ?_
      have statusField := fields "status" (by decide)
      cases decision with
      | verify | unverify => rwa [Doc.get_congr statusField]
      | approve notes | reject notes assignTo =>
        rw [Doc.get_of_some statusField]
        decide
  refine inv.revise updated revised (oldLine.revised revised truthyHash fun isSuperseded => ?_) superseded
  rw [superseded] at isSuperseded
  rw [sameAt]
  exact (oldLine.marked isSuperseded).1

end steps

theorem chainsSound_step (s : Store) (op : Env × RecountOp) (sound : ChainsSound s)
    (fresh : FreshIds s op.1) : ChainsSound (RecountOp.step s op) := by
  obtain ⟨env, op⟩ := op
  cases op with
  | create user line a =>
    exact committed_cases sound fun _ _ ran => createBlock_chains sound fresh ran
  | syncDuplicate sessionId username session line =>
    exact committed_cases sound fun _ _ ran => syncDuplicateBlock_chains sound fresh ran
  | complete user recountId notes resultQty =>
    exact committed_cases sound fun _ _ ran => completeRecountBlock_chains sound fresh (withStore_ok.mp ran)
  | review user lineId decision => exact reviewCountLine_chains sound fresh.digest

/-- Over any run of committed recounts, from lines in well-formed chains, the chains
stay well formed. -/
theorem chains_wellFormed {first last : Store} (run : Reaches RecountOp.step (fun s op => FreshIds s op.1) first last)
    (sound : ChainsSound first) : ChainsWellFormed last :=
  (run.invariant sound fun s op => chainsSound_step s op).wellFormed

def rejectedStore : Store := { countingStore with
  countLines := [Doc.ofList [("_id", .oid "b1"), ("id", .str "L1"), ("session_id", .str "S1"),
    ("item_code", .str "I1"), ("floor_no", .str "F1"), ("rack_no", .str "R1"),
    ("counted_qty", .num 9), ("status", .str "rejected"), ("version", .num 1)]] }

def exactAdmission : Admission where
  session := countingStore.sessions.headD Doc.empty
  erpItem := countingStore.erpItems.headD Doc.empty
  erpQty := 10
  baselineHash := "h1"
  governance := { requiresSupervisorApproval := false, variance := 0
                  varianceData := calculateVariance 10 10 5, violatedThresholds := [] }

/-- The rejected line counted again. -/
def recountRejected : Env × RecountOp :=
  (sampleEnv, .create counter
    (CountLineCreate.normalizeLocationContext { exactCount with recountOfId := some "L1" })
    exactAdmission)

theorem chains_wellFormed_rejected :
    (RecountOp.step rejectedStore recountRejected).countLines.map (fun line =>
      (line.get "id", line.get "version", isSupersededCountLine line)) =
        [(.str "L1", .num 1, true), (.str "line-new", .num 2, false)] ∧
    ChainsWellFormed (RecountOp.step rejectedStore recountRejected) := by
  have sound : ChainsSound rejectedStore := by
    refine chainsSound_of_unlinked ?_ (by decide) (by decide) ?_
    · intro line member
      rw [rejectedStore, List.mem_singleton] at member
      subst member
      exact ⟨⟨"L1", rfl, by decide⟩, ⟨"b1", rfl⟩, .inr rfl, by decide⟩
    · intro line member
      rw [rejectedStore, List.mem_singleton] at member
      subst member
      decide
  refine ⟨by decide +kernel, chains_wellFormed (.next _ .start ⟨by decide, ?_, ?_⟩) sound⟩
  · intro line member
    rw [rejectedStore, List.mem_singleton] at member
    subst member
    decide
  · intro payload
    simp [recountRejected, sampleEnv, String.append_eq_empty_iff]

end StockVerification
