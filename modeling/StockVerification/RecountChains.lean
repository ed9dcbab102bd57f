import StockVerification.LineEffects
import StockVerification.Foundation.Chain
import StockVerification.Foundation.Run

/-!
# Chains of recounts

Three paths insert the successor of a line and mark the line superseded: creating a
line as a recount, the duplicate branch of batch sync and completing a recount. Here
each is taken as committed: its block runs as a whole or not at all.

A completed recount looks its line up by id and may meet one that was replaced
before. It is refused then because the copy keeps the fingerprint, and a line that
the write core superseded carries one.
-/
namespace StockVerification

open Foundation Foundation.Action

/-- A line handed over by a client; the marks of a superseded line are the server's own. -/
structure OfflineLine where
  document : Doc
  unmarked : document "superseded_at" = none ∧ document "superseded_by_version_id" = none

/-- The line of a sync record. -/
def SyncRecord.offlineLine (env : Env) (user : User) (record : SyncRecord)
    (floorId rackId locationId : String) (countedAt updatedAt : Int) : OfflineLine where
  document := syncDocument env user record floorId rackId locationId countedAt updatedAt
  unmarked := ⟨rfl, rfl⟩

/-- The committed recounts, and the reviews that reject lines between them. -/
inductive RecountOp where
  | create (user : User) (line : CountLineCreate) (a : Admission)
  | syncDuplicate (sessionId username : String) (session : Doc) (line : OfflineLine)
  | complete (user : User) (recountId : String) (notes : Option String) (resultQty : ℚ)
  | review (user : User) (lineId : String) (decision : ReviewDecision)

/-- The creation route once its locks are held, up to the end of its block. -/
def createBlock (env : Env) (user : User) (line : CountLineCreate) (a : Admission) : Request Doc := do
  let target ← reads (resolveRecountTarget line)
  let document ← reads fun _ => buildCountLineDocument env user line a target
  withStore fun s => persistCountLineBlock env s user.username a.session document target

/-- The duplicate branch up to the end of its block; nothing happens without a duplicate. -/
def syncDuplicateBlock (env : Env) (sessionId username : String) (session : Doc) (line : OfflineLine) :
    Request Unit := do
  let duplicate ← reads fun s => pure (findDuplicateCountLine s.countLines line.document)
  match duplicate with
  | none => pure ()
  | some existing => do
    reads fun _ => require (canReuseRejectedCountLine existing line.document) (.value
      "Duplicate Scan: This item has already been counted in this specific location (Floor/Rack).")
    let successor ← reads fun _ => duplicateSuccessor env line.document existing
    withStore fun s => handleDuplicateBlock env s sessionId username session successor existing

/-- The store after a unit of work that ends in a commit. -/
def committed {α : Type} (x : Request α) (s : Store) : Store :=
  match x s with
  | .ok _ t => t
  | .error _ _ => s

variable {s : Store}

theorem committed_cases {α : Type} {P : Store → Prop} {x : Request α} (stop : P s)
    (go : ∀ a t, x s = .ok a t → P t) : P (committed x s) := by
  unfold committed
  split
  · next a t ran => exact go a t ran
  · exact stop

def RecountOp.step (s : Store) (op : Env × RecountOp) : Store :=
  match op.2 with
  | .create user line a => committed (createBlock op.1 user line a) s
  | .syncDuplicate sessionId username session line =>
      committed (syncDuplicateBlock op.1 sessionId username session line) s
  | .complete user recountId notes resultQty =>
      committed (withStore fun s => completeRecountBlock op.1 s user recountId notes resultQty) s
  | .review user lineId decision => (reviewCountLine op.1 user lineId decision).final s

/-- What the operation takes from the outside: a line id that no line has, and a hash
function without empty values. -/
structure FreshIds (s : Store) (env : Env) : Prop where
  named : env.freshId ≠ ""
  unused : ∀ line ∈ s.countLines, line.get "id" ≠ .str env.freshId
  digest : ∀ payload, env.digest payload ≠ ""

/-- `later` names `earlier` as the version it replaces. -/
def Replaces (s : Store) (earlier later : Doc) : Prop :=
  earlier ∈ s.countLines ∧ later ∈ s.countLines ∧ (later.get "previous_version_id").truthy = true ∧
    extractDocumentId earlier = some (later.get "previous_version_id").text

/-- The links have no cycle, each moves the version by one, and each chain has exactly
one line in force, behind which nothing comes. -/
structure ChainsWellFormed (s : Store) : Prop where
  acyclic : ∀ line, ¬ Relation.TransGen (Replaces s) line line
  versions : ∀ earlier later, Replaces s earlier later → ∃ v, versionOrOne earlier = some v ∧
    later.get "version" = .num (v + 1 : Int)
  head : ∀ line ∈ s.countLines, ∃! head, head ∈ s.countLines ∧ InChain (Replaces s) line head ∧
    isSupersededCountLine head = false
  last : ∀ line ∈ s.countLines, isSupersededCountLine line = false → IsLast (Replaces s) line

def links (s : Store) : List Value :=
  (s.countLines.map fun line => line.get "previous_version_id").filter Value.truthy

/-- What a line carries: its ids, and a fingerprint once it is replaced. -/
structure ChainLine (line : Doc) : Prop where
  id : ∃ text, line "id" = some (.str text) ∧ text ≠ ""
  objectId : ∃ hex, line "_id" = some (.oid hex)
  fingerprint : (line.get "semantic_hash").truthy = true ∨ line.has "counted_qty" = true
  marked : isSupersededCountLine line = true →
    (line.get "superseded_at").truthy = true ∧ (line.get "semantic_hash").truthy = true

/-- Every link leads to one line, one version down, and no two links to the same. -/
structure Linked (s : Store) : Prop where
  line : ∀ line ∈ s.countLines, ChainLine line
  ids : (s.countLines.map fun line => line.get "id").Nodup
  objectIds : (s.countLines.map fun line => line.get "_id").Nodup
  single : (links s).Nodup
  linked : ∀ later ∈ s.countLines, (later.get "previous_version_id").truthy = true →
    ∃ earlier ∈ s.countLines, ∃ v, earlier.get "id" = later.get "previous_version_id" ∧
      versionOrOne earlier = some v ∧ later.get "version" = .num (v + 1 : Int)

/-- The lines marked as superseded are those a link leads to. -/
structure ChainsSound (s : Store) : Prop extends Linked s where
  superseded : ∀ line ∈ s.countLines, isSupersededCountLine line = true ↔ line.get "id" ∈ links s

theorem mem_links {v : Value} : v ∈ links s ↔
    ∃ line ∈ s.countLines, line.get "previous_version_id" = v ∧ v.truthy = true := by
  simp only [links, List.mem_filter, List.mem_map]
  constructor
  · rintro ⟨⟨line, member, rfl⟩, truthy⟩
    exact ⟨line, member, rfl, truthy⟩
  · rintro ⟨line, member, rfl, truthy⟩
    exact ⟨⟨line, member, rfl⟩, truthy⟩

/-- Lines that were never recounted form chains of one. -/
theorem chainsSound_of_unlinked (line : ∀ line ∈ s.countLines, ChainLine line)
    (ids : (s.countLines.map fun line => line.get "id").Nodup)
    (objectIds : (s.countLines.map fun line => line.get "_id").Nodup)
    (unlinked : ∀ line ∈ s.countLines, (line.get "previous_version_id").truthy = false ∧ isSupersededCountLine line =
      false) :
    ChainsSound s := by
  have noLinks : links s = [] := by
    rw [List.eq_nil_iff_forall_not_mem]
    intro v member
    obtain ⟨line, stored, rfl, truthy⟩ := mem_links.mp member
    rw [(unlinked line stored).1] at truthy
    cases truthy
  refine ⟨⟨line, ids, objectIds, by simp [noLinks], ?_⟩, ?_⟩
  · intro later member truthy
    rw [(unlinked later member).1] at truthy
    cases truthy
  · intro other member
    simp [noLinks, (unlinked other member).2]

theorem ChainLine.text {line : Doc} (sound : ChainLine line) :
    ∃ text, line.get "id" = .str text ∧ text ≠ "" ∧ extractDocumentId line = some text := by
  obtain ⟨text, stored, nonblank⟩ := sound.id
  have read : line.get "id" = .str text := Doc.get_of_some stored
  refine ⟨text, read, nonblank, ?_⟩
  have truthy : (Value.str text).truthy = true := by simpa using nonblank
  simp only [extractDocumentId, read, Value.orElse, truthy, if_true]
  rfl

namespace Linked

theorem replaces_iff (sound : Linked s) {earlier later : Doc} (member : earlier ∈ s.countLines)
    (laterMember : later ∈ s.countLines) :
    Replaces s earlier later ↔ (later.get "previous_version_id").truthy = true ∧
      later.get "previous_version_id" = earlier.get "id" := by
  obtain ⟨text, read, nonblank, extracted⟩ := (sound.line earlier member).text
  simp only [Replaces, member, laterMember, true_and, extracted, Option.some.injEq, read]
  constructor
  · rintro ⟨truthy, rfl⟩
    obtain ⟨found, foundMember, _, same, _, _⟩ := sound.linked later laterMember truthy
    obtain ⟨other, otherRead, _, _⟩ := (sound.line found foundMember).text
    rw [← same, otherRead]
    exact ⟨by rw [← otherRead, same]; exact truthy, rfl⟩
  · rintro ⟨truthy, same⟩
    rw [same]
    exact ⟨by rw [← same]; exact truthy, rfl⟩

theorem versions (sound : Linked s) {earlier later : Doc} (replaces : Replaces s earlier later) :
    ∃ v, versionOrOne earlier = some v ∧ later.get "version" = .num (v + 1 : Int) := by
  have named := ((sound.replaces_iff replaces.1 replaces.2.1).mp replaces).2
  obtain ⟨member, laterMember, truthy, _⟩ := replaces
  obtain ⟨found, foundMember, v, same, version, next⟩ := sound.linked later laterMember truthy
  have sameLine : found = earlier :=
    List.inj_on_of_nodup_map sound.ids foundMember member (same.trans named)
  subst sameLine
  exact ⟨v, version, next⟩

theorem unique (sound : Linked s) (a b c : Doc) (first : Replaces s a b) (second : Replaces s a c) : b = c := by
  have firstEq := (sound.replaces_iff first.1 first.2.1).mp first
  have secondEq := (sound.replaces_iff second.1 second.2.1).mp second
  have single := sound.single
  rw [links, List.filter_map] at single
  refine List.inj_on_of_nodup_map single ?_ ?_ (firstEq.2.trans secondEq.2.symm)
  · exact List.mem_filter.mpr ⟨first.2.1, firstEq.1⟩
  · exact List.mem_filter.mpr ⟨second.2.1, secondEq.1⟩

end Linked

def readVersion (line : Doc) : Int := (versionOrOne line).getD 0

theorem Linked.readVersion_lt (sound : Linked s) (earlier later : Doc)
    (replaces : Replaces s earlier later) : readVersion earlier < readVersion later := by
  obtain ⟨v, version, next⟩ := sound.versions replaces
  have first : readVersion earlier = v := by rw [readVersion, version, Option.getD_some]
  by_cases zero : v + 1 = 0
  · -- a version of zero is read as one
    have second : readVersion later = 1 := by
      simp [readVersion, versionOrOne, next, zero, Value.truthy]
    omega
  · have second : readVersion later = v + 1 := by
      have nonzero : ((v + 1 : Int) : ℚ) ≠ 0 := by exact_mod_cast zero
      have truthy : (Value.num ((v + 1 : Int) : ℚ)).truthy = true := by
        simpa [Value.truthy] using nonzero
      rw [readVersion, versionOrOne, next, if_pos truthy]
      simp [Value.integer, truncate]
    omega

theorem ChainsSound.isLast_iff (sound : ChainsSound s) {line : Doc} (member : line ∈ s.countLines) :
    isSupersededCountLine line = false ↔ IsLast (Replaces s) line := by
  rw [← Bool.not_eq_true, sound.superseded line member, mem_links]
  constructor
  · intro unlinked later replaces
    have named := (sound.replaces_iff member replaces.2.1).mp replaces
    exact unlinked ⟨later, replaces.2.1, named.2, by rw [← named.2]; exact named.1⟩
  · rintro last ⟨later, laterMember, same, truthy⟩
    exact last later ((sound.replaces_iff member laterMember).mpr ⟨by rw [same]; exact truthy, same⟩)

theorem mem_of_inChain {line other : Doc} (connected : InChain (Replaces s) line other) :
    line ∈ s.countLines ↔ other ∈ s.countLines := by
  induction connected with
  | rel a b replaces => exact iff_of_true replaces.1 replaces.2.1
  | refl => exact Iff.rfl
  | symm _ _ _ ih => exact ih.symm
  | trans _ _ _ _ _ first second => exact first.trans second

theorem ChainsSound.wellFormed (sound : ChainsSound s) : ChainsWellFormed s := by
  refine ⟨acyclic_of_rank sound.readVersion_lt, fun _ _ => sound.versions, ?_, ?_⟩
  · intro line member
    obtain ⟨head, ⟨connected, last⟩, only⟩ := existsUnique_last
      (List.finite_toSet s.countLines) sound.readVersion_lt (fun _ _ replaces => replaces.2.1)
      sound.unique line
    have headMember : head ∈ s.countLines := (mem_of_inChain connected).mp member
    refine ⟨head, ⟨headMember, connected, (sound.isLast_iff headMember).mpr last⟩, ?_⟩
    rintro other ⟨otherMember, otherConnected, live⟩
    exact only other ⟨otherConnected, (sound.isLast_iff otherMember).mp live⟩
  · intro line member live
    exact (sound.isLast_iff member).mp live

/-- The update keeps what the chains are read from. -/
structure Revised (old new : Doc) : Prop where
  id : new "id" = old "id"
  objectId : new "_id" = old "_id"
  previous : new "previous_version_id" = old "previous_version_id"
  version : new "version" = old "version"

theorem versionOrOne_congr {a b : Doc} (same : a "version" = b "version") : versionOrOne a = versionOrOne b := by
  simp only [versionOrOne, Doc.get_congr same]

namespace UpdatedLine

variable {f : Filter} {u : Update} {t : Store} {old new : Doc}

section

variable (line : UpdatedLine f u s t old new)
include line

theorem new_mem : new ∈ t.countLines := by
  rw [line.stored]
  exact Collection.mem_replaceFirst_of_find line.found

theorem links (revised : Revised old new) : links t = StockVerification.links s := by
  have same := Collection.map_replaceFirst (f := fun line : Doc => line.get "previous_version_id") line.found
    (Doc.get_congr revised.previous)
  rw [line.stored]
  simp only [StockVerification.links, Store.withLines, same]

theorem linked (revised : Revised old new) (chainLine : ChainLine new) (sound : Linked s) : Linked t := by
  have linksEq := line.links revised
  have ids := Collection.map_replaceFirst (f := fun line : Doc => line.get "id") line.found (Doc.get_congr revised.id)
  have objectIds := Collection.map_replaceFirst (f := fun line : Doc => line.get "_id") line.found
    (Doc.get_congr revised.objectId)
  -- a line of the new store, and the line of the old one it stands for
  have earlierOf : ∀ d ∈ t.countLines, ∃ e ∈ s.countLines, d "id" = e "id" ∧
      d "previous_version_id" = e "previous_version_id" ∧ d "version" = e "version" := by
    intro d member
    rw [line.stored] at member
    rcases Collection.mem_replaceFirst member with kept | rfl
    · exact ⟨d, kept, rfl, rfl, rfl⟩
    · exact ⟨old, line.mem, revised.id, revised.previous, revised.version⟩
  have laterOf : ∀ e ∈ s.countLines, ∃ d ∈ t.countLines, d "id" = e "id" ∧ d "version" = e "version" := by
    intro e member
    rw [line.stored]
    obtain ⟨front, back, split, matched, before⟩ := Collection.find_split line.found
    simp only [Store.withLines, split, Collection.replaceFirst_split matched before] at member ⊢
    rw [List.mem_append, List.mem_cons] at member
    rcases member with first | rfl | last
    · exact ⟨e, by simp [first], rfl, rfl⟩
    · exact ⟨new, by simp, revised.id, revised.version⟩
    · exact ⟨e, by simp [last], rfl, rfl⟩
  refine ⟨?_, ?_, ?_, ?_, ?_⟩
  · intro d member
    rw [line.stored] at member
    rcases Collection.mem_replaceFirst member with kept | rfl
    · exact sound.line d kept
    · exact chainLine
  · rw [line.stored]
    exact ids ▸ sound.ids
  · rw [line.stored]
    exact objectIds ▸ sound.objectIds
  · rw [linksEq]
    exact sound.single
  · intro later member truthy
    obtain ⟨previous, stored, _, samePrevious, sameVersion⟩ := earlierOf later member
    rw [Doc.get_congr samePrevious] at truthy ⊢
    obtain ⟨earlier, earlierMember, v, named, version, next⟩ := sound.linked previous stored truthy
    obtain ⟨found, foundMember, sameId, foundVersion⟩ := laterOf earlier earlierMember
    refine ⟨found, foundMember, v, ?_, ?_, ?_⟩
    · rw [Doc.get_congr sameId, named]
    · rw [versionOrOne_congr foundVersion, version]
    · rw [Doc.get_congr sameVersion, next]

end

end UpdatedLine

variable {t : Store}

theorem links_append {line : Doc} (lines : t.countLines = s.countLines ++ [line]) :
    links t = links s ++ if (line.get "previous_version_id").truthy then
      [line.get "previous_version_id"] else [] := by
  simp only [links, lines, List.map_append, List.filter_append, List.map_cons, List.map_nil]
  cases truthy : (line.get "previous_version_id").truthy <;> simp [truthy]

/-- A new line whose link, if it has one, leads to a line without a successor. -/
structure NewLine (s : Store) (line : Doc) : Prop where
  chainLine : ChainLine line
  live : isSupersededCountLine line = false
  freshId : ∀ stored ∈ s.countLines, stored.get "id" ≠ line.get "id"
  freshObjectId : ∀ stored ∈ s.countLines, stored.get "_id" ≠ line.get "_id"
  link : (line.get "previous_version_id").truthy = true →
    line.get "previous_version_id" ∉ links s ∧ ∃ earlier ∈ s.countLines, ∃ v,
      earlier.get "id" = line.get "previous_version_id" ∧ versionOrOne earlier = some v ∧
      line.get "version" = .num (v + 1 : Int)

theorem Linked.append {line : Doc} (sound : Linked s) (new : NewLine s line)
    (lines : t.countLines = s.countLines ++ [line]) : Linked t := by
  have appended : ∀ {α : Type} {f : Doc → α}, (s.countLines.map f).Nodup →
      (∀ stored ∈ s.countLines, f stored ≠ f line) →
      ((s.countLines ++ [line]).map f).Nodup := by
    intro α f nodup fresh
    rw [List.map_append, List.nodup_append]
    refine ⟨nodup, by simp, ?_⟩
    intro a member b single
    obtain ⟨stored, storedMember, rfl⟩ := List.mem_map.mp member
    rw [List.map_singleton, List.mem_singleton] at single
    rw [single]
    exact fresh stored storedMember
  refine ⟨?_, lines ▸ appended sound.ids new.freshId, lines ▸ appended sound.objectIds new.freshObjectId, ?_, ?_⟩
  · intro d member
    rw [lines, List.mem_append, List.mem_singleton] at member
    rcases member with kept | rfl
    · exact sound.line d kept
    · exact new.chainLine
  · rw [links_append lines]
    split
    · next truthy =>
      rw [List.nodup_append]
      refine ⟨sound.single, by simp, ?_⟩
      intro v member w single same
      rw [List.mem_singleton] at single
      rw [same, single] at member
      exact (new.link truthy).1 member
    · simpa using sound.single
  · intro later member truthy
    simp only [lines, List.mem_append, List.mem_singleton] at member ⊢
    rcases member with kept | rfl
    · obtain ⟨earlier, stored, facts⟩ := sound.linked later kept truthy
      exact ⟨earlier, .inl stored, facts⟩
    · obtain ⟨_, earlier, stored, facts⟩ := new.link truthy
      exact ⟨earlier, .inl stored, facts⟩

theorem Linked.exists_of_mem_links (sound : Linked s) {v : Value} (member : v ∈ links s) :
    ∃ line ∈ s.countLines, line.get "id" = v := by
  obtain ⟨later, stored, rfl, truthy⟩ := mem_links.mp member
  obtain ⟨earlier, earlierMember, _, named, _, _⟩ := sound.linked later stored truthy
  exact ⟨earlier, earlierMember, named⟩

theorem ChainsSound.append {line : Doc} (sound : ChainsSound s) (new : NewLine s line)
    (unlinked : (line.get "previous_version_id").truthy = false)
    (lines : t.countLines = s.countLines ++ [line]) : ChainsSound t := by
  have sameLinks : links t = links s := by
    rw [links_append lines, unlinked]
    simp
  refine ⟨sound.toLinked.append new lines, ?_⟩
  intro d member
  rw [sameLinks]
  rw [lines, List.mem_append, List.mem_singleton] at member
  rcases member with kept | rfl
  · exact sound.superseded d kept
  · refine iff_of_false (by simp [new.live]) fun linked => ?_
    obtain ⟨stored, storedMember, same⟩ := sound.exists_of_mem_links linked
    exact new.freshId stored storedMember same

/-- A successor and the mark on the line it replaces. -/
theorem ChainsSound.replace {r : Store} {f : Filter} {u : Update} {line old marked : Doc} (sound : ChainsSound s)
    (new : NewLine s line) (truthy : (line.get "previous_version_id").truthy = true)
    (named : line.get "previous_version_id" = old.get "id") (lines : r.countLines = s.countLines ++ [line])
    (updated : UpdatedLine f u r t old marked) (revised : Revised old marked) (chainLine : ChainLine marked)
    (superseded : isSupersededCountLine marked = true) : ChainsSound t := by
  have linked : Linked t := updated.linked revised chainLine (sound.toLinked.append new lines)
  have linksEq : links t = links s ++ [old.get "id"] := by
    rw [updated.links revised, links_append lines, truthy, if_pos rfl, named]
  refine ⟨linked, ?_⟩
  intro d member
  rw [linksEq, List.mem_append, List.mem_singleton]
  by_cases same : d.get "id" = marked.get "id"
  · have markedLine : d = marked :=
      List.inj_on_of_nodup_map linked.ids member updated.new_mem same
    rw [markedLine]
    exact iff_of_true superseded (.inr (Doc.get_congr revised.id))
  · rw [Doc.get_congr revised.id] at same
    rw [updated.stored] at member
    rcases Collection.mem_replaceFirst member with kept | rfl
    · rw [lines, List.mem_append, List.mem_singleton] at kept
      rcases kept with stored | rfl
      · rw [sound.superseded d stored]
        simp [same]
      · refine iff_of_false (by simp [new.live]) ?_
        rintro (inLinks | own)
        · obtain ⟨stored, storedMember, sameId⟩ := sound.exists_of_mem_links inLinks
          exact new.freshId stored storedMember sameId
        · exact same own
    · exact absurd (Doc.get_congr revised.id) same

theorem ChainsSound.revise {f : Filter} {u : Update} {old new : Doc} (sound : ChainsSound s)
    (updated : UpdatedLine f u s t old new) (revised : Revised old new) (chainLine : ChainLine new)
    (superseded : isSupersededCountLine new = isSupersededCountLine old) : ChainsSound t := by
  refine ⟨updated.linked revised chainLine sound.toLinked, ?_⟩
  intro d member
  rw [updated.links revised]
  rw [updated.stored] at member
  rcases Collection.mem_replaceFirst member with kept | rfl
  · exact sound.superseded d kept
  · rw [superseded, Doc.get_congr revised.id]
    exact sound.superseded old updated.mem

end StockVerification
