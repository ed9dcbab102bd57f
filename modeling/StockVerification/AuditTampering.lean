import Mathlib.Logic.Equiv.Basic
import StockVerification.AuditTrail
import StockVerification.Foundation.HashChains

/-!
# Tampering with the audit trail

Source: backend/services/enterprise_audit.py:122-151, 203-215 and 326-378.

One stored field of one entry is changed, an entry in the middle is removed, or two entries exchange
their contents; no hash is recomputed. Fields keep their declared types, and verification is over
the whole trail.
-/
namespace StockVerification

open Foundation

/-- A new value for one stored field. -/
inductive FieldChange where
  | timestamp (value : DateTime)
  | eventType (value : String)
  | severity (value : String)
  | actorId (value : Option String)
  | actorUsername (value : Option String)
  | actorRole (value : Option String)
  | actorIp (value : Option String)
  | actorUserAgent (value : Option String)
  | resourceType (value : Option String)
  | resourceId (value : Option String)
  | resourceName (value : Option String)
  | action (value : String)
  | outcome (value : String)
  | details (value : List (String × Json))
  | oldValue (value : Option (List (String × Json)))
  | newValue (value : Option (List (String × Json)))
  | correlationId (value : Option String)
  | sessionId (value : Option String)
  | requestId (value : Option String)
  | previousHash (value : Option String)
  | entryHash (value : Option String)

def FieldChange.apply (entry : AuditEntry) : FieldChange → AuditEntry
  | timestamp value => { entry with timestamp := value }
  | eventType value => { entry with eventType := value }
  | severity value => { entry with severity := value }
  | actorId value => { entry with actorId := value }
  | actorUsername value => { entry with actorUsername := value }
  | actorRole value => { entry with actorRole := value }
  | actorIp value => { entry with actorIp := value }
  | actorUserAgent value => { entry with actorUserAgent := value }
  | resourceType value => { entry with resourceType := value }
  | resourceId value => { entry with resourceId := value }
  | resourceName value => { entry with resourceName := value }
  | action value => { entry with action := value }
  | outcome value => { entry with outcome := value }
  | details value => { entry with details := value }
  | oldValue value => { entry with oldValue := value }
  | newValue value => { entry with newValue := value }
  | correlationId value => { entry with correlationId := value }
  | sessionId value => { entry with sessionId := value }
  | requestId value => { entry with requestId := value }
  | previousHash value => { entry with previousHash := value }
  | entryHash value => { entry with entryHash := value }

/-- The stored trail; ids are unique. -/
structure StoredTrail where
  entries : List StoredEntry
  distinct : (entries.map StoredEntry.id).Nodup

inductive Tampering where
  | change (id : Nat) (field : FieldChange)
  | remove (id : Nat)
  | exchange (id other : Nat)

def contentsOf (entries : List StoredEntry) (id : Nat) : Option AuditEntry :=
  (entries.find? fun stored => stored.id = id).map StoredEntry.entry

def changeEntry (id : Nat) (field : FieldChange) (stored : StoredEntry) : StoredEntry :=
  if stored.id = id then { stored with entry := field.apply stored.entry } else stored

/-- An entry when two entries have exchanged their contents. -/
def exchangeEntry (entries : List StoredEntry) (id other : Nat) (stored : StoredEntry) : StoredEntry :=
  if stored.id = id then { stored with entry := (contentsOf entries other).getD stored.entry }
  else if stored.id = other then { stored with entry := (contentsOf entries id).getD stored.entry }
  else stored

def Tampering.apply (entries : List StoredEntry) : Tampering → List StoredEntry
  | change id field => entries.map (changeEntry id field)
  | remove id => entries.filter fun stored => stored.id ≠ id
  | exchange id other => entries.map (exchangeEntry entries id other)

/-- What counts as tampering: the value is a new one, the removed entry is neither the first nor the
last, and the exchanged entries are two. -/
def Tampering.Real (entries : List StoredEntry) : Tampering → Prop
  | change id field => ∃ stored ∈ entries, stored.id = id ∧ field.apply stored.entry ≠ stored.entry
  | remove id => ∃ front before removed after back,
      inOrder entries = front ++ before :: removed :: after :: back ∧ removed.id = id
  | exchange id other => id ≠ other ∧ id ∈ entries.map StoredEntry.id ∧ other ∈ entries.map StoredEntry.id

def Reported (digest : String → String) (entries : List StoredEntry) : Prop :=
  ∃ report, verifyIntegrity digest entries = some report ∧ report.status = "tampered"

/-- A changed field takes part in the hash or the chain. The details must be dumped to another text;
the first entry's link is only compared through the hash, where none and the empty text are one. -/
def FieldChange.Seen (isFirst : Prop) (entry : AuditEntry) : FieldChange → Prop
  | timestamp _ | eventType _ | actorId _ | resourceId _ | action _ | entryHash _ => True
  | details value => ∃ text, (Json.obj value).dumps = some text ∧ (Json.obj entry.details).dumps ≠ some text
  | previousHash value => isFirst → value.getD "" ≠ entry.previousHash.getD ""
  | severity _ | actorUsername _ | actorRole _ | actorIp _ | actorUserAgent _ | resourceType _ | resourceName _
  | outcome _ | oldValue _ | newValue _ | correlationId _ | sessionId _ | requestId _ => False

/-- A removed entry is missed unless its hash was its own link, exchanged contents are unless they
are linked in their new order too. -/
def Tampering.Detectable (entries : List StoredEntry) : Tampering → Prop
  | change id field => ∃ stored ∈ entries, stored.id = id ∧
      field.Seen (∃ rest, inOrder entries = stored :: rest) stored.entry
  | remove id => ∃ stored ∈ entries, stored.id = id ∧ stored.entry.entryHash ≠ stored.entry.previousHash
  | exchange id other => ¬ (inOrder (entries.map (exchangeEntry entries id other))).IsChain LinkedTo

/-- The fields of an entry that are hashed, in the order of their keys. -/
def hashedFields (entry : AuditEntry) (details : List Char) (previousHash : Option String) :
    List (String × Option String) :=
  [("action", some entry.action), ("actor_id", entry.actorId), ("details", some (String.ofList details)),
    ("event_type", some entry.eventType), ("previous_hash", some (previousHash.getD "")),
    ("resource_id", entry.resourceId), ("timestamp", some (String.ofList entry.timestamp.text))]

theorem hashedData_dumps (entry : AuditEntry) (details : List Char) (previousHash : Option String) :
    (hashedData entry details previousHash).dumps =
      some ('{' :: Json.fieldTexts (hashedFields entry details previousHash) ++ ['}']) := by
  have sorted : ∀ a b c d e f g : List Char,
      Json.sortEntries [("timestamp", a), ("event_type", b), ("actor_id", c), ("action", d),
        ("resource_id", e), ("details", f), ("previous_hash", g)] =
      [("action", d), ("actor_id", c), ("details", f), ("event_type", b), ("previous_hash", g),
        ("resource_id", e), ("timestamp", a)] := by
    intro a b c d e f g
    simp [Json.sortEntries, Json.insertEntry]
  simp only [hashedData, Json.dumps, Json.dumpsEntries, Json.dumps_ofText, Option.bind_some,
    Option.map_some, Json.dumpsObject, sorted]
  rfl

section

variable {digest : String → String}

/-- What the hash is taken over. -/
structure SameContents (a b : AuditEntry) : Prop where
  timestamp : a.timestamp = b.timestamp
  eventType : a.eventType = b.eventType
  actorId : a.actorId = b.actorId
  action : a.action = b.action
  resourceId : a.resourceId = b.resourceId
  details : (Json.obj a.details).dumps = (Json.obj b.details).dumps
  previousHash : a.previousHash.getD "" = b.previousHash.getD ""

theorem computeHash_eq {entry : AuditEntry} {previousHash : Option String} {hash : String}
    (made : computeHash digest entry previousHash = some hash) : ∃ details,
      (Json.obj entry.details).dumps = some details ∧ hash = digest (String.ofList
        ('{' :: Json.fieldTexts (hashedFields entry details previousHash) ++ ['}'])) := by
  rw [computeHash] at made
  cases dumped : (Json.obj entry.details).dumps with
  | none =>
    rw [dumped] at made
    cases made
  | some details =>
    rw [dumped, Option.bind_eq_bind, Option.bind_some, hashedData_dumps] at made
    exact ⟨details, rfl, (Option.some.inj made).symm⟩

theorem computeHash_isSome (digest : String → String) (entry : AuditEntry) (previousHash : Option String) :
    (computeHash digest entry previousHash).isSome = (Json.obj entry.details).dumps.isSome := by
  rw [computeHash]
  cases (Json.obj entry.details).dumps with
  | none => rfl
  | some details =>
    rw [Option.bind_eq_bind, Option.bind_some, hashedData_dumps]
    rfl

/-- Where the hash is injective, equal hashes are over equal contents. -/
theorem computeHash_injective (injective : Function.Injective digest) {a b : AuditEntry}
    {hash : String} (made : computeHash digest a a.previousHash = some hash)
    (other : computeHash digest b b.previousHash = some hash) : SameContents a b := by
  obtain ⟨details, dumped, hashOf⟩ := computeHash_eq made
  obtain ⟨otherDetails, otherDumped, otherHashOf⟩ := computeHash_eq other
  have texts := String.ofList_injective (injective (hashOf.symm.trans otherHashOf))
  have body : Json.fieldTexts (hashedFields a details a.previousHash) ++ ['}'] =
      Json.fieldTexts (hashedFields b otherDetails b.previousHash) ++ ['}'] := List.tail_eq_of_cons_eq texts
  have keys : (hashedFields a details a.previousHash).map Prod.fst =
      (hashedFields b otherDetails b.previousHash).map Prod.fst := rfl
  have fields := Json.fieldTexts_append keys body
  simp only [hashedFields, List.cons.injEq, Prod.mk.injEq, true_and, and_true, Option.some.injEq,
    String.ofList_inj] at fields
  obtain ⟨action, actorId, sameDetails, eventType, previousHash, resourceId, timestamp⟩ := fields
  refine ⟨DateTime.text_injective timestamp, eventType, actorId, action, resourceId, ?_, previousHash⟩
  rw [dumped, otherDumped, sameDetails]

theorem SameContents.computeHash {a b : AuditEntry} (same : SameContents a b) :
    computeHash digest a a.previousHash = computeHash digest b b.previousHash := by
  simp only [StockVerification.computeHash, hashedData, same.timestamp, same.eventType,
    same.actorId, same.action, same.resourceId, same.details, same.previousHash]

end

variable {stored : StoredEntry} {entries : List StoredEntry}

section

variable {digest : String → String}

theorem verifyEntries_isSome (previousHash : Option String) (entries : List StoredEntry) :
    (verifyEntries digest previousHash entries).isSome = true ↔
      ∀ stored ∈ entries, (Json.obj stored.entry.details).dumps.isSome = true := by
  induction entries generalizing previousHash with
  | nil => simp [verifyEntries]
  | cons stored rest ih =>
    rw [List.forall_mem_cons, ← ih stored.entry.entryHash, verifyEntries,
      ← computeHash_isSome digest stored.entry stored.entry.previousHash]
    cases computeHash digest stored.entry stored.entry.previousHash with
    | none => simp
    | some hash =>
      cases verifyEntries digest stored.entry.entryHash rest with
      | none => simp
      | some later => simp

theorem reported_iff (entries : List StoredEntry) : Reported digest entries ↔
    (∀ stored ∈ entries, (Json.obj stored.entry.details).dumps.isSome = true) ∧ ¬ Verifies digest entries := by
  have dumped : (∀ stored ∈ entries, (Json.obj stored.entry.details).dumps.isSome = true) ↔
      (verifyEntries digest none (inOrder entries)).isSome = true := by
    rw [verifyEntries_isSome]
    simp only [inOrder, List.mem_insertionSort]
  rw [dumped, Reported, Verifies, verifyIntegrity]
  cases verifyEntries digest none (inOrder entries) with
  | none => simp
  | some invalid =>
    cases invalid with
    | nil => simp
    | cons fault rest => simp

theorem Hashed.dumped (hashed : Hashed digest stored) :
    (Json.obj stored.entry.details).dumps.isSome = true := by
  obtain ⟨hash, made, _⟩ := hashed
  rw [← computeHash_isSome digest stored.entry stored.entry.previousHash, made]
  rfl

theorem reported_iff_unlinked (hashed : ∀ stored ∈ entries, Hashed digest stored) :
    Reported digest entries ↔ ¬ (inOrder entries).IsChain LinkedTo := by
  rw [reported_iff, verifies_iff]
  constructor
  · intro reported linked
    exact reported.2 ⟨hashed, linked⟩
  · intro unlinked
    exact ⟨fun stored member => (hashed stored member).dumped, fun verifies => unlinked verifies.2⟩

end

theorem StoredEntry.notAfter_iff (a b : StoredEntry) : a.notAfter b = true ↔
    a.entry.timestamp.rank < b.entry.timestamp.rank ∨ a.entry.timestamp.rank = b.entry.timestamp.rank ∧ a.id ≤ b.id := by
  simp [StoredEntry.notAfter]

instance : Std.Total fun a b : StoredEntry => a.notAfter b = true where
  total a b := by
    simp only [StoredEntry.notAfter_iff]
    omega

instance : IsTrans StoredEntry fun a b => a.notAfter b = true where
  trans a b c first second := by
    rw [StoredEntry.notAfter_iff] at first second ⊢
    omega

theorem inOrder_perm (entries : List StoredEntry) : (inOrder entries).Perm entries := List.perm_insertionSort _ _

theorem inOrder_pairwise (entries : List StoredEntry) :
    (inOrder entries).Pairwise fun a b => a.notAfter b = true := List.pairwise_insertionSort _ _

theorem inOrder_unique {ordered : List StoredEntry} (distinct : (entries.map StoredEntry.id).Nodup)
    (perm : ordered.Perm entries) (isOrdered : ordered.Pairwise fun a b => a.notAfter b = true) :
    inOrder entries = ordered := by
  apply List.Perm.eq_of_pairwise _ (inOrder_pairwise entries) isOrdered ((inOrder_perm entries).trans perm.symm)
  intro a b member otherMember before after
  rw [StoredEntry.notAfter_iff] at before after
  have same : a.id = b.id := by omega
  exact List.inj_on_of_nodup_map distinct ((inOrder_perm entries).mem_iff.mp member) (perm.mem_iff.mp otherMember) same

variable {trail : StoredTrail}

theorem StoredTrail.others {front back : List StoredEntry}
    (split : inOrder trail.entries = front ++ stored :: back) : ∀ entry ∈ front ++ back, entry.id ≠ stored.id := by
  have distinct : ((inOrder trail.entries).map StoredEntry.id).Nodup :=
    ((inOrder_perm _).map StoredEntry.id).nodup_iff.mpr trail.distinct
  rw [split, List.map_append, List.map_cons, List.nodup_middle, List.nodup_cons, ← List.map_append] at distinct
  intro entry isOther same
  exact distinct.1 (same ▸ List.mem_map_of_mem isOther)

theorem inOrder_map {f : StoredEntry → StoredEntry} (ids : ∀ stored, (f stored).id = stored.id)
    (times : ∀ stored ∈ entries, (f stored).entry.timestamp = stored.entry.timestamp) :
    inOrder (entries.map f) = (inOrder entries).map f := by
  symm
  apply List.map_insertionSort
  intro a member b otherMember
  simp only [StoredEntry.notAfter_iff, ids, times a member, times b otherMember]

section

variable {digest : String → String} {field : FieldChange}

theorem changeEntry_id (id : Nat) (field : FieldChange) (entry : StoredEntry) :
    (changeEntry id field entry).id = entry.id := by
  unfold changeEntry
  split
  · rfl
  · rfl

theorem mem_changed {entry : StoredEntry} (member : stored ∈ trail.entries)
    (changed : entry ∈ trail.entries.map (changeEntry stored.id field)) :
    entry = ⟨stored.id, field.apply stored.entry⟩ ∨ entry ∈ trail.entries := by
  obtain ⟨old, isOld, rfl⟩ := List.mem_map.mp changed
  unfold changeEntry
  by_cases same : old.id = stored.id
  · left
    rw [if_pos same, List.inj_on_of_nodup_map trail.distinct isOld member same]
  · right
    rw [if_neg same]
    exact isOld

theorem changed_mem (member : stored ∈ trail.entries) :
    ⟨stored.id, field.apply stored.entry⟩ ∈ trail.entries.map (changeEntry stored.id field) := by
  apply List.mem_map.mpr
  exact ⟨stored, member, by simp [changeEntry]⟩

theorem reported_of_unhashed (verifies : Verifies digest trail.entries) (member : stored ∈ trail.entries)
    (dumped : (Json.obj (field.apply stored.entry).details).dumps.isSome = true)
    (unhashed : ¬ Hashed digest ⟨stored.id, field.apply stored.entry⟩) :
    Reported digest (trail.entries.map (changeEntry stored.id field)) := by
  rw [verifies_iff] at verifies
  rw [reported_iff, verifies_iff]
  constructor
  · intro entry isEntry
    rcases mem_changed member isEntry with isChanged | isOld
    · rw [isChanged]
      exact dumped
    · exact (verifies.1 entry isOld).dumped
  · intro stillVerifies
    exact unhashed (stillVerifies.1 _ (changed_mem member))

theorem reported_of_contents (injective : Function.Injective digest) (verifies : Verifies digest trail.entries)
    (member : stored ∈ trail.entries) (keptHash : (field.apply stored.entry).entryHash = stored.entry.entryHash)
    (dumped : (Json.obj (field.apply stored.entry).details).dumps.isSome = true)
    (differ : ¬ SameContents (field.apply stored.entry) stored.entry) :
    Reported digest (trail.entries.map (changeEntry stored.id field)) := by
  apply reported_of_unhashed verifies member dumped
  intro ⟨hash, made, carried⟩
  obtain ⟨oldHash, oldMade, oldCarried⟩ := ((verifies_iff _).mp verifies).1 stored member
  have same : some hash = some oldHash := by
    rw [← carried, ← oldCarried]
    exact keptHash
  cases same
  exact differ (computeHash_injective injective made oldMade)

section

variable (verifies : Verifies digest trail.entries) (member : stored ∈ trail.entries)
  (keptHash : (field.apply stored.entry).entryHash = stored.entry.entryHash)
include verifies member keptHash

/-- A change of what is not hashed is reported when it breaks a link. -/
theorem reported_iff_of_contents (same : SameContents (field.apply stored.entry) stored.entry) :
    Reported digest (trail.entries.map (changeEntry stored.id field)) ↔
      ¬ ((inOrder trail.entries).map (changeEntry stored.id field)).IsChain LinkedTo := by
  rw [verifies_iff] at verifies
  have hashed : ∀ entry ∈ trail.entries.map (changeEntry stored.id field), Hashed digest entry := by
    intro entry isEntry
    rcases mem_changed member isEntry with isChanged | isOld
    · obtain ⟨hash, made, carried⟩ := verifies.1 stored member
      subst isChanged
      exact ⟨hash, same.computeHash.trans made, keptHash.trans carried⟩
    · exact verifies.1 entry isOld
  have times : ∀ entry ∈ trail.entries,
      (changeEntry stored.id field entry).entry.timestamp = entry.entry.timestamp := by
    intro entry isEntry
    unfold changeEntry
    split
    · next sameId =>
      rw [List.inj_on_of_nodup_map trail.distinct isEntry member sameId]
      exact same.timestamp
    · rfl
  rw [reported_iff_unlinked hashed, inOrder_map (changeEntry_id stored.id field) times]

/-- A change that keeps the hash and the link too is not reported. -/
theorem unreported_of_contents (keptLink : (field.apply stored.entry).previousHash = stored.entry.previousHash)
    (same : SameContents (field.apply stored.entry) stored.entry) :
    ¬ Reported digest (trail.entries.map (changeEntry stored.id field)) := by
  rw [reported_iff_of_contents verifies member keptHash same, not_not, List.isChain_map]
  have kept : ∀ entry ∈ inOrder trail.entries,
      (changeEntry stored.id field entry).entry.entryHash = entry.entry.entryHash ∧
        (changeEntry stored.id field entry).entry.previousHash = entry.entry.previousHash := by
    intro entry isEntry
    unfold changeEntry
    split
    · next sameId =>
      rw [List.inj_on_of_nodup_map trail.distinct ((inOrder_perm _).mem_iff.mp isEntry) member sameId]
      exact ⟨keptHash, keptLink⟩
    · exact ⟨rfl, rfl⟩
  have linked := ((verifies_iff _).mp verifies).2
  rw [List.isChain_iff_getElem] at linked ⊢
  intro i below
  have link := linked i below
  rw [LinkedTo] at link ⊢
  rw [(kept _ (List.getElem_mem _)).1, (kept _ (List.getElem_mem _)).2]
  exact link

end

/-- Another link that is hashed alike breaks the chain, unless the entry is the first. -/
theorem relinked_iff {value : Option String} (verifies : Verifies digest trail.entries)
    (member : stored ∈ trail.entries) (other : value ≠ stored.entry.previousHash) :
    ((inOrder trail.entries).map (changeEntry stored.id (.previousHash value))).IsChain LinkedTo ↔
      ∃ rest, inOrder trail.entries = stored :: rest := by
  have linked := ((verifies_iff _).mp verifies).2
  obtain ⟨front, back, split⟩ := List.append_of_mem ((inOrder_perm _).mem_iff.mpr member)
  have differs := StoredTrail.others split
  rw [split] at linked ⊢
  have others : ∀ entry ∈ front ++ back, changeEntry stored.id (.previousHash value) entry = entry := by
    intro entry isOther
    rw [changeEntry, if_neg (differs entry isOther)]
  have frontKept : front.map (changeEntry stored.id (.previousHash value)) = front :=
    (List.map_congr_left fun entry isFront => others entry (List.mem_append_left _ isFront)).trans (List.map_id' front)
  have backKept : back.map (changeEntry stored.id (.previousHash value)) = back :=
    (List.map_congr_left fun entry isBack => others entry (List.mem_append_right _ isBack)).trans (List.map_id' back)
  have changed : changeEntry stored.id (.previousHash value) stored =
      ⟨stored.id, { stored.entry with previousHash := value }⟩ := by
    rw [changeEntry, if_pos rfl]
    rfl
  rw [List.map_append, List.map_cons, frontKept, backKept, changed]
  rcases List.eq_nil_or_concat front with isFirst | ⟨begins, before, ends⟩
  · subst isFirst
    constructor
    · intro _
      exact ⟨back, rfl⟩
    · intro _
      rw [List.nil_append, List.isChain_cons] at linked ⊢
      exact linked
  · subst ends
    rw [List.concat_eq_append, List.append_assoc] at linked ⊢
    constructor
    · intro relinked
      have link : LinkedTo before stored := (List.isChain_append_cons_cons.mp linked).2.1
      have newLink : value = before.entry.entryHash := (List.isChain_append_cons_cons.mp relinked).2.1
      exact absurd (newLink.trans link.symm) other
    · intro ⟨rest, isHead⟩
      exfalso
      cases begins with
      | nil => exact differs before (by simp) (congrArg StoredEntry.id (List.head_eq_of_cons_eq isHead))
      | cons first begins => exact differs first (by simp) (congrArg StoredEntry.id (List.head_eq_of_cons_eq isHead))

theorem details_reported_iff (injective : Function.Injective digest) (verifies : Verifies digest trail.entries)
    (member : stored ∈ trail.entries) (value : List (String × Json)) :
    Reported digest (trail.entries.map (changeEntry stored.id (.details value))) ↔
      (FieldChange.details value).Seen (∃ rest, inOrder trail.entries = stored :: rest) stored.entry := by
  cases dumped : (Json.obj value).dumps with
  | none =>
    have unread : ¬ Reported digest (trail.entries.map (changeEntry stored.id (.details value))) := by
      intro reported
      have read := ((reported_iff _).mp reported).1 _ (changed_mem member)
      change (Json.obj value).dumps.isSome = true at read
      rw [dumped] at read
      cases read
    simp [FieldChange.Seen, dumped, unread]
  | some text =>
    by_cases same : (Json.obj stored.entry.details).dumps = some text
    · have kept : ¬ Reported digest (trail.entries.map (changeEntry stored.id (.details value))) :=
        unreported_of_contents verifies member rfl rfl ⟨rfl, rfl, rfl, rfl, rfl, dumped.trans same.symm, rfl⟩
      simp [FieldChange.Seen, dumped, same, kept]
    · have told : Reported digest (trail.entries.map (changeEntry stored.id (.details value))) := by
        apply reported_of_contents injective verifies member rfl
        · change (Json.obj value).dumps.isSome = true
          rw [dumped]
          rfl
        · intro contents
          exact same (contents.details.symm.trans dumped)
      simp [FieldChange.Seen, dumped, same, told]

theorem change_reported_iff (injective : Function.Injective digest) (verifies : Verifies digest trail.entries)
    (member : stored ∈ trail.entries) (real : field.apply stored.entry ≠ stored.entry) :
    Reported digest (trail.entries.map (changeEntry stored.id field)) ↔
      field.Seen (∃ rest, inOrder trail.entries = stored :: rest) stored.entry := by
  have hashed : Hashed digest stored := ((verifies_iff _).mp verifies).1 stored member
  have seen : ∀ value : FieldChange, (value.apply stored.entry).entryHash = stored.entry.entryHash →
      (value.apply stored.entry).details = stored.entry.details →
      ¬ SameContents (value.apply stored.entry) stored.entry →
      (Reported digest (trail.entries.map (changeEntry stored.id value)) ↔ True) := by
    intro value keptHash keptDetails differ
    have dumped : (Json.obj (value.apply stored.entry).details).dumps.isSome = true := by
      rw [keptDetails]
      exact hashed.dumped
    exact iff_true_intro (reported_of_contents injective verifies member keptHash dumped differ)
  have unseen : ∀ value : FieldChange, (value.apply stored.entry).entryHash = stored.entry.entryHash →
      (value.apply stored.entry).previousHash = stored.entry.previousHash →
      SameContents (value.apply stored.entry) stored.entry →
      (Reported digest (trail.entries.map (changeEntry stored.id value)) ↔ False) := by
    intro value keptHash keptLink same
    exact iff_false_intro (unreported_of_contents verifies member keptHash keptLink same)
  cases field with
  | severity value | actorUsername value | actorRole value | actorIp value | actorUserAgent value
  | resourceType value | resourceName value | outcome value | oldValue value | newValue value | correlationId value
  | sessionId value | requestId value => exact unseen _ rfl rfl ⟨rfl, rfl, rfl, rfl, rfl, rfl, rfl⟩
  | timestamp value =>
    exact seen _ rfl rfl fun same => real (congrArg (fun v => (FieldChange.timestamp v).apply stored.entry) same.timestamp)
  | eventType value =>
    exact seen _ rfl rfl fun same => real (congrArg (fun v => (FieldChange.eventType v).apply stored.entry) same.eventType)
  | actorId value =>
    exact seen _ rfl rfl fun same => real (congrArg (fun v => (FieldChange.actorId v).apply stored.entry) same.actorId)
  | resourceId value =>
    exact seen _ rfl rfl fun same =>
      real (congrArg (fun v => (FieldChange.resourceId v).apply stored.entry) same.resourceId)
  | action value =>
    exact seen _ rfl rfl fun same => real (congrArg (fun v => (FieldChange.action v).apply stored.entry) same.action)
  | entryHash value =>
    apply iff_true_intro
    have dumped : (Json.obj ((FieldChange.entryHash value).apply stored.entry).details).dumps.isSome = true :=
      hashed.dumped
    apply reported_of_unhashed verifies member dumped
    intro ⟨hash, made, carried⟩
    obtain ⟨oldHash, oldMade, oldCarried⟩ := hashed
    have same : some hash = some oldHash := made.symm.trans oldMade
    have isOld : value = stored.entry.entryHash := carried.trans (same.trans oldCarried.symm)
    exact real (by rw [isOld]; rfl)
  | details value => exact details_reported_iff injective verifies member value
  | previousHash value =>
    have other : value ≠ stored.entry.previousHash := by
      intro isOld
      exact real (by rw [isOld]; rfl)
    by_cases same : value.getD "" = stored.entry.previousHash.getD ""
    · have contents : SameContents ((FieldChange.previousHash value).apply stored.entry) stored.entry :=
        ⟨rfl, rfl, rfl, rfl, rfl, rfl, same⟩
      rw [reported_iff_of_contents verifies member rfl contents, relinked_iff verifies member other]
      simp [FieldChange.Seen, same]
    · have told := (seen (.previousHash value) rfl rfl fun contents => same contents.previousHash).mpr trivial
      simp [FieldChange.Seen, same, told]

end

theorem inOrder_filter (entries : List StoredEntry) (distinct : (entries.map StoredEntry.id).Nodup)
    (p : StoredEntry → Bool) : inOrder (entries.filter p) = (inOrder entries).filter p := by
  apply inOrder_unique
  · exact distinct.sublist (List.filter_sublist.map StoredEntry.id)
  · exact (inOrder_perm entries).filter p
  · exact (inOrder_pairwise entries).filter p

variable {digest : String → String}

theorem remove_reported_iff (verifies : Verifies digest trail.entries) {front back : List StoredEntry}
    {before removed after : StoredEntry} (split : inOrder trail.entries = front ++ before :: removed :: after :: back) :
    Reported digest (trail.entries.filter fun stored => stored.id ≠ removed.id) ↔
      removed.entry.entryHash ≠ removed.entry.previousHash := by
  have hashed : ∀ stored ∈ trail.entries.filter (fun stored => stored.id ≠ removed.id), Hashed digest stored :=
    fun stored member => ((verifies_iff _).mp verifies).1 stored (List.mem_of_mem_filter member)
  have linked := ((verifies_iff _).mp verifies).2
  have grouped : inOrder trail.entries = (front ++ [before]) ++ removed :: after :: back := by
    rw [split, List.append_assoc]
    rfl
  have others := StoredTrail.others grouped
  have rest : (inOrder trail.entries).filter (fun stored => stored.id ≠ removed.id) =
      front ++ before :: after :: back := by
    have kept : (front ++ [before] ++ after :: back).filter (fun stored => stored.id ≠ removed.id) =
        front ++ [before] ++ after :: back :=
      List.filter_eq_self.mpr fun stored member => decide_eq_true (others stored member)
    rw [grouped, List.filter_append, List.filter_cons_of_neg (by simp), ← List.filter_append, kept, List.append_assoc]
    rfl
  rw [split] at linked
  obtain ⟨first, link, later⟩ := List.isChain_append_cons_cons.mp linked
  obtain ⟨next, last⟩ := List.isChain_cons_cons.mp later
  rw [reported_iff_unlinked hashed, inOrder_filter _ trail.distinct, rest, List.isChain_append_cons_cons]
  rw [LinkedTo] at link next
  -- The entry after the removed one is linked to it, so its link is the removed hash.
  have relinked : LinkedTo before after ↔ removed.entry.entryHash = removed.entry.previousHash := by
    rw [LinkedTo, next, link]
  rw [relinked]
  simp [first, last]

theorem contentsOf_id (member : stored ∈ trail.entries) :
    contentsOf trail.entries stored.id = some stored.entry := by
  rw [contentsOf]
  cases found : trail.entries.find? fun entry => entry.id = stored.id with
  | none =>
    have missing := List.find?_eq_none.mp found stored member
    simp at missing
  | some entry =>
    have same : entry.id = stored.id := by simpa using List.find?_some found
    rw [List.inj_on_of_nodup_map trail.distinct (List.mem_of_find?_eq_some found) member same]
    rfl

section

variable {id other : Nat} (isId : id ∈ trail.entries.map StoredEntry.id)
  (isOther : other ∈ trail.entries.map StoredEntry.id)
include isId isOther

theorem exchangeEntry_entry (member : stored ∈ trail.entries) :
    some (exchangeEntry trail.entries id other stored).entry =
      contentsOf trail.entries (Equiv.swap id other stored.id) := by
  obtain ⟨first, isFirst, rfl⟩ := List.mem_map.mp isId
  obtain ⟨second, isSecond, rfl⟩ := List.mem_map.mp isOther
  unfold exchangeEntry
  by_cases own : stored.id = first.id
  · rw [if_pos own, own, Equiv.swap_apply_left, contentsOf_id isSecond]
    rfl
  · by_cases swapped : stored.id = second.id
    · rw [if_neg own, if_pos swapped, swapped, Equiv.swap_apply_right, contentsOf_id isFirst]
      rfl
    · rw [if_neg own, if_neg swapped, Equiv.swap_apply_of_ne_of_ne own swapped, contentsOf_id member]

/-- The contents are the same ones, in other places. -/
theorem exchange_perm : ((trail.entries.map (exchangeEntry trail.entries id other)).map StoredEntry.entry).Perm
      (trail.entries.map StoredEntry.entry) := by
  have old : (trail.entries.map StoredEntry.entry).map some =
      (trail.entries.map StoredEntry.id).map (contentsOf trail.entries) := by
    rw [List.map_map, List.map_map]
    exact List.map_congr_left fun stored member => (contentsOf_id member).symm
  have new : ((trail.entries.map (exchangeEntry trail.entries id other)).map StoredEntry.entry).map some =
      ((trail.entries.map StoredEntry.id).map (Equiv.swap id other)).map (contentsOf trail.entries) := by
    rw [List.map_map, List.map_map, List.map_map, List.map_map]
    exact List.map_congr_left fun stored member => exchangeEntry_entry isId isOther member
  have kept : ∀ n ∈ trail.entries.map StoredEntry.id, Equiv.swap id other n ∈ trail.entries.map StoredEntry.id := by
    intro n member
    by_cases own : n = id
    · rw [own, Equiv.swap_apply_left]
      exact isOther
    · by_cases isSecond : n = other
      · rw [isSecond, Equiv.swap_apply_right]
        exact isId
      · rw [Equiv.swap_apply_of_ne_of_ne own isSecond]
        exact member
  have swapped : ((trail.entries.map StoredEntry.id).map (Equiv.swap id other)).Perm
      (trail.entries.map StoredEntry.id) := by
    rw [List.perm_ext_iff_of_nodup (trail.distinct.map (Equiv.swap id other).injective) trail.distinct]
    intro n
    rw [List.mem_map]
    constructor
    · rintro ⟨m, member, rfl⟩
      exact kept m member
    · intro member
      exact ⟨Equiv.swap id other n, kept n member, Equiv.swap_apply_self id other n⟩
  rw [← List.map_perm_map_iff (Option.some_injective AuditEntry), new, old]
  exact swapped.map _

end

theorem exchange_hashed (verifies : Verifies digest trail.entries) {id other : Nat}
    (isId : id ∈ trail.entries.map StoredEntry.id) (isOther : other ∈ trail.entries.map StoredEntry.id) :
    ∀ stored ∈ trail.entries.map (exchangeEntry trail.entries id other), Hashed digest stored := by
  intro stored member
  have contents := (exchange_perm isId isOther).mem_iff.mp (List.mem_map_of_mem member)
  obtain ⟨old, isOld, same⟩ := List.mem_map.mp contents
  have hashed := ((verifies_iff _).mp verifies).1 old isOld
  rw [Hashed, same] at hashed
  exact hashed

/-- The link of the first entry is no entry's hash. -/
def StoredTrail.Open (trail : StoredTrail) : Prop :=
  ∀ first ∈ (inOrder trail.entries).head?, ∀ stored ∈ trail.entries,
    first.entry.previousHash.getD "" ≠ stored.entry.entryHash.getD ""

/-- Exchanged contents are linked only where they come in the same order as before. -/
theorem exchange_linked_iff (injective : Function.Injective digest) (verifies : Verifies digest trail.entries)
    (isOpen : trail.Open) {id other : Nat} (isId : id ∈ trail.entries.map StoredEntry.id)
    (isOther : other ∈ trail.entries.map StoredEntry.id) :
    (inOrder (trail.entries.map (exchangeEntry trail.entries id other))).IsChain LinkedTo ↔
      (inOrder (trail.entries.map (exchangeEntry trail.entries id other))).map StoredEntry.entry =
        (inOrder trail.entries).map StoredEntry.entry := by
  obtain ⟨hashed, linked⟩ := (verifies_iff _).mp verifies
  have byContents : ∀ entries : List StoredEntry, entries.IsChain LinkedTo ↔
      (entries.map StoredEntry.entry).IsChain fun a b => b.previousHash = a.entryHash := by
    intro entries
    rw [List.isChain_map]
    rfl
  have texts : ∀ entries : List AuditEntry, (entries.IsChain fun a b => b.previousHash = a.entryHash) →
      entries.IsChain (LinkedBy (fun entry => entry.entryHash.getD "") fun entry => entry.previousHash.getD "") := by
    intro entries chain
    exact chain.imp fun a b link => congrArg (fun hash : Option String => hash.getD "") link
  have member : ∀ entry ∈ (inOrder trail.entries).map StoredEntry.entry, ∃ stored ∈ trail.entries,
      stored.entry = entry := by
    intro entry isEntry
    obtain ⟨stored, isStored, same⟩ := List.mem_map.mp isEntry
    exact ⟨stored, (inOrder_perm _).mem_iff.mp isStored, same⟩
  have determined : ∀ a ∈ (inOrder trail.entries).map StoredEntry.entry,
      ∀ b ∈ (inOrder trail.entries).map StoredEntry.entry, a.entryHash.getD "" = b.entryHash.getD "" →
        a.previousHash.getD "" = b.previousHash.getD "" := by
    intro a isA b isB same
    obtain ⟨first, isFirst, rfl⟩ := member a isA
    obtain ⟨second, isSecond, rfl⟩ := member b isB
    obtain ⟨hash, made, carried⟩ := hashed first isFirst
    obtain ⟨otherHash, otherMade, otherCarried⟩ := hashed second isSecond
    rw [carried, otherCarried, Option.getD_some, Option.getD_some] at same
    subst same
    exact (computeHash_injective injective made otherMade).previousHash
  have start : ∀ first ∈ ((inOrder trail.entries).map StoredEntry.entry).head?,
      ∀ b ∈ (inOrder trail.entries).map StoredEntry.entry, first.previousHash.getD "" ≠ b.entryHash.getD "" := by
    intro first isFirst b isB
    rw [List.head?_map, Option.mem_def, Option.map_eq_some_iff] at isFirst
    obtain ⟨head, isHead, rfl⟩ := isFirst
    obtain ⟨stored, isStored, rfl⟩ := member b isB
    exact isOpen head isHead stored isStored
  rw [byContents] at linked ⊢
  constructor
  · intro relinked
    have oldChain := texts _ linked
    have perm := (((inOrder_perm _).map StoredEntry.entry).trans (exchange_perm isId isOther)).trans
      ((inOrder_perm trail.entries).map StoredEntry.entry).symm
    exact LinkedBy.unique oldChain (texts _ relinked) perm (LinkedBy.nodup oldChain determined start) start
  · intro same
    rw [same]
    exact linked

/-- A login and a logout. -/
def shiftTrail : StoredTrail where
  entries :=
    let login : AuditEntry := { timestamp := wholeMillisecond, eventType := "auth.login", action := "login" }
    let loginHash := computeHash id login none
    let logout : AuditEntry := { login with action := "logout", previousHash := loginHash }
    [⟨1, { login with entryHash := loginHash }⟩, ⟨2, { logout with entryHash := computeHash id logout loginHash }⟩]
  distinct := by simp

theorem shiftTrail_verifies : Verifies id shiftTrail.entries := by
  have valid : (verifyIntegrity id shiftTrail.entries).map (·.status) = some "valid" := by decide +kernel
  cases made : verifyIntegrity id shiftTrail.entries with
  | none =>
    rw [made] at valid
    cases valid
  | some report =>
    rw [made] at valid
    exact ⟨report, made, Option.some.inj valid⟩

end StockVerification
