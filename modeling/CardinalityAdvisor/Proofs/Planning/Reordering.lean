import CardinalityAdvisor.Proofs.Planning.JoinOrders

/-!
# Estimates in another order

The record of a join is made of the clauses of the join and the records of its inputs, one after the
other. If the inputs are swapped and the clauses come in another order, the same clauses are
fingerprinted among the same clauses, so the record has the same parts in another order, and its
sample has the same key. The same holds if the clauses of base relations and of parameterizations
are reordered.

## Main definitions

* `ClauseRecord.Reordered aligned r r'`: two records have the same parts in another order
* `RecordSource.Reordered`: records are made of the same in another order
* `Memory.Reordered m m'`: a planner keeps the same in another order
* `Site.Reordered site site'`: the same is submitted to hooks in another order

## Main results

* `RecordSource.Reordered.record`: records that are made of the same have the same parts
* `estimate_of_reordered`: estimates in another order use samples with the same key
-/

namespace CardinalityAdvisor

open CardinalityAdvisor.Action

/-! ## Records -/

namespace ClauseRecord

/-- Every clause of a record has a fingerprint in the same place. -/
def Aligned (r : ClauseRecord) : Prop := r.fingerprints.length = r.clauses.length

/-- The clauses of a record with their fingerprints. -/
def pairs (r : ClauseRecord) : List (Json × Int) := r.clauses.zip r.fingerprints

/-- Two records have the same clauses, fingerprints and relations in any order. If the fingerprints
are `aligned` with the clauses, every clause has the same fingerprint in both records. -/
structure Reordered (aligned : Prop) (r r' : ClauseRecord) : Prop where
  clauses : r.clauses.Perm r'.clauses
  fingerprints : r.fingerprints.Perm r'.fingerprints
  relationIds : r.relationIds.Perm r'.relationIds
  pairs : aligned → r.Aligned ∧ r'.Aligned ∧ r.pairs.Perm r'.pairs

variable {aligned aligned' : Prop} {a b a' b' r r' : ClauseRecord}

@[simp]
theorem append_clauses (a b : ClauseRecord) : (a ++ b).clauses = a.clauses ++ b.clauses := rfl

@[simp]
theorem append_fingerprints (a b : ClauseRecord) :
    (a ++ b).fingerprints = a.fingerprints ++ b.fingerprints := rfl

@[simp]
theorem append_relationIds (a b : ClauseRecord) :
    (a ++ b).relationIds = a.relationIds ++ b.relationIds := rfl

theorem Aligned.append (ha : a.Aligned) (hb : b.Aligned) : (a ++ b).Aligned := by
  rw [Aligned] at ha hb ⊢
  simp [ha, hb]

theorem pairs_append (ha : a.Aligned) : (a ++ b).pairs = a.pairs ++ b.pairs :=
  List.zip_append ha.symm

namespace Reordered

theorem refl (r : ClauseRecord) : Reordered r.Aligned r r :=
  ⟨.refl _, .refl _, .refl _, fun aligned => ⟨aligned, aligned, .refl _⟩⟩

/-- Records that are put together may be reordered one by one. -/
theorem append (ha : Reordered aligned a a') (hb : Reordered aligned' b b') :
    Reordered (aligned ∧ aligned') (a ++ b) (a' ++ b') := by
  refine ⟨ha.clauses.append hb.clauses, ha.fingerprints.append hb.fingerprints,
    ha.relationIds.append hb.relationIds, fun ⟨alignedA, alignedB⟩ => ?_⟩
  obtain ⟨first, first', pairsA⟩ := ha.pairs alignedA
  obtain ⟨second, second', pairsB⟩ := hb.pairs alignedB
  refine ⟨first.append second, first'.append second', ?_⟩
  rw [pairs_append first, pairs_append first']
  exact pairsA.append pairsB

/-- They may be swapped as well. -/
theorem append_swap (ha : Reordered aligned a a') (hb : Reordered aligned' b b') :
    Reordered (aligned ∧ aligned') (a ++ b) (b' ++ a') := by
  have kept := ha.append hb
  refine ⟨kept.clauses.trans List.perm_append_comm,
    kept.fingerprints.trans List.perm_append_comm,
    kept.relationIds.trans List.perm_append_comm, fun both => ?_⟩
  obtain ⟨-, first, -⟩ := ha.pairs both.1
  obtain ⟨-, second, -⟩ := hb.pairs both.2
  obtain ⟨whole, -, pairs⟩ := kept.pairs both
  refine ⟨whole, second.append first, pairs.trans ?_⟩
  rw [pairs_append first, pairs_append second]
  exact List.perm_append_comm

/-- Reordered records are described by the same sample. -/
theorem keyIn (h : Reordered aligned r r') (space : Int) : r.keyIn space = r'.keyIn space := by
  rw [ClauseRecord.keyIn, ClauseRecord.keyIn, Fingerprint.sampleKey, Fingerprint.sampleKey,
    Fingerprint.sampleText_of_perm space h.relationIds h.fingerprints]

end Reordered

end ClauseRecord

/-! ## Records of the same parts -/

section Collected

variable {place : Place} {own : List Json} {record : ClauseRecord} {e : Fingerprint.Equivalence}

theorem CollectedRecord.aligned (h : CollectedRecord place own record e)
    (inputs : (ClauseRecord.concat place.inputs).Aligned) : record.Aligned := by
  rw [ClauseRecord.Aligned, ClauseRecord.concat_clauses, ClauseRecord.concat_fingerprints] at inputs
  rw [ClauseRecord.Aligned, h.clauses, h.fingerprints]
  simp [inputs]

/-- The clauses of a place have their fingerprints, and those of the inputs keep theirs. -/
theorem CollectedRecord.pairs (h : CollectedRecord place own record e) : record.pairs =
    own.map (fun clause => (clause, Fingerprint.joinKey e (place.join.getD .inner) clause)) ++
      (ClauseRecord.concat place.inputs).pairs := by
  rw [ClauseRecord.pairs, ClauseRecord.pairs, ClauseRecord.concat_clauses,
    ClauseRecord.concat_fingerprints, h.clauses, h.fingerprints, List.zip_append (by simp)]
  congr 1
  simp [← List.zip_map']

end Collected

/-- **Clauses that are collected in another order** are fingerprinted among the same clauses, so
they have the same fingerprints. -/
theorem CollectedRecord.reordered {place place' : Place} {own own' : List Json}
    {record record' : ClauseRecord} {e e' : Fingerprint.Equivalence} {aligned : Prop}
    (h : CollectedRecord place own record e) (h' : CollectedRecord place' own' record' e')
    (join : place'.join = place.join) (ids : place'.relationIds = place.relationIds)
    (clauses : own.Perm own')
    (inputs : ClauseRecord.Reordered aligned (.concat place.inputs) (.concat place'.inputs)) :
    ClauseRecord.Reordered aligned record record' := by
  have whole : record.clauses.Perm record'.clauses := by
    rw [h.clauses, h'.clauses, ← ClauseRecord.concat_clauses, ← ClauseRecord.concat_clauses]
    exact clauses.append inputs.clauses
  -- The same clauses give the same classes, so a clause has the same fingerprint among both.
  have keys : Fingerprint.joinKey e' (place'.join.getD .inner) =
      Fingerprint.joinKey e (place.join.getD .inner) := by
    have same := Fingerprint.classOf_of_mem_iff h'.classes h.classes fun _ => whole.symm.mem_iff
    funext clause
    rw [Fingerprint.joinKey, Fingerprint.joinKey, Fingerprint.clauseKey_congr same, join]
  have fingerprints := h.fingerprints
  have fingerprints' := h'.fingerprints
  rw [keys] at fingerprints'
  refine ⟨whole, ?_, ?_, fun isAligned => ?_⟩
  · rw [fingerprints, fingerprints', ← ClauseRecord.concat_fingerprints,
      ← ClauseRecord.concat_fingerprints]
    exact (clauses.map _).append inputs.fingerprints
  · rw [h.relationIds, h'.relationIds, ids, ← ClauseRecord.concat_relationIds,
      ← ClauseRecord.concat_relationIds]
    exact inputs.relationIds.append_left _
  · obtain ⟨first, second, pairs⟩ := inputs.pairs isAligned
    refine ⟨h.aligned first, h'.aligned second, ?_⟩
    rw [h.pairs, h'.pairs, keys]
    exact (clauses.map _).append pairs

namespace RecordSource

/-- Records are made of the same in another order: the clauses at every place may be reordered, and
the inputs of joins swapped. -/
inductive Reordered : RecordSource → RecordSource → Prop
  | made (record : ClauseRecord) : Reordered (.made record) (.made record)
  | own (scope : Int) (relationIds : List Int) {clauses clauses' : List Restriction} :
      clauses.Perm clauses' →
      Reordered (.own scope relationIds clauses) (.own scope relationIds clauses')
  | join (type : JoinType) {outer outer' inner inner' : RecordSource}
      {clauses clauses' : List Restriction} : Reordered outer outer' → Reordered inner inner' →
      clauses.Perm clauses' →
      Reordered (.join outer inner type clauses) (.join outer' inner' type clauses')
  | swapped (type : JoinType) {outer outer' inner inner' : RecordSource}
      {clauses clauses' : List Restriction} : Reordered outer outer' → Reordered inner inner' →
      clauses.Perm clauses' →
      Reordered (.join outer inner type clauses) (.join inner' outer' type clauses')

/-- In all records that were made before, the clauses have fingerprints in the same places. -/
def Aligned : RecordSource → Prop
  | .made record => record.Aligned
  | .own _ _ _ => True
  | .join outer inner _ _ => outer.Aligned ∧ inner.Aligned

namespace Reordered

variable {source source' : RecordSource}

theorem fingerprinted (h : source.Reordered source') (all : source.Fingerprinted) :
    source'.Fingerprinted := by
  have own {clauses clauses' : List Restriction} (perm : clauses.Perm clauses')
      (all : ∀ r ∈ clauses, r.clause.Fingerprinted) : ∀ r ∈ clauses', r.clause.Fingerprinted :=
    fun r member => all r (perm.mem_iff.mpr member)
  induction h with
  | made => exact all
  | own _ _ perm => exact own perm all
  | join _ _ _ perm ihOuter ihInner =>
    exact ⟨ihOuter all.1, ihInner all.2.1, own perm all.2.2⟩
  | swapped _ _ _ perm ihOuter ihInner =>
    exact ⟨ihInner all.2.1, ihOuter all.1, own perm all.2.2⟩

/-- **Records that are made of the same** have the same parts. -/
theorem record {cache cache' : SelectivityCache} {record record' : ClauseRecord}
    (h : source.Reordered source') (known : source.Known cache record)
    (known' : source'.Known cache' record') :
    ClauseRecord.Reordered source.Aligned record record' := by
  induction h generalizing record record' with
  | made earlier =>
    cases known
    cases known'
    exact .refl earlier
  | own scope relationIds perm =>
    obtain ⟨e, parts⟩ := Collected.parts known
    obtain ⟨e', parts'⟩ := Collected.parts known'
    have inputs : ClauseRecord.Reordered True (.concat []) (.concat []) :=
      ⟨.refl _, .refl _, .refl _, fun _ => ⟨rfl, rfl, .refl _⟩⟩
    exact parts.reordered parts' rfl rfl (perm.map _) inputs
  | join type _ _ perm ihOuter ihInner =>
    obtain ⟨a, b, ha, hb, collected⟩ := known
    obtain ⟨a', b', ha', hb', collected'⟩ := known'
    obtain ⟨e, parts⟩ := collected.parts
    obtain ⟨e', parts'⟩ := collected'.parts
    exact parts.reordered parts' rfl rfl (perm.map _)
      ((ihOuter ha ha').append (ihInner hb hb'))
  | swapped type _ _ perm ihOuter ihInner =>
    obtain ⟨a, b, ha, hb, collected⟩ := known
    obtain ⟨b', a', hb', ha', collected'⟩ := known'
    obtain ⟨e, parts⟩ := collected.parts
    obtain ⟨e', parts'⟩ := collected'.parts
    exact parts.reordered parts' rfl rfl (perm.map _)
      ((ihOuter ha ha').append_swap (ihInner hb hb'))

end Reordered

end RecordSource

/-! ## Sources that the planner keeps -/

/-- Two relations are the same but for the order of their clauses, as far as records are made of
them. -/
structure Relation.Reordered (r r' : Relation) : Prop where
  members : r'.members = r.members
  index : r'.index = r.index
  cheapest : r'.cheapest = r.cheapest
  record : r'.record = r.record
  restrictions : r.restrictions.Perm r'.restrictions

/-- A planner keeps the same, but the clauses of relations and of parameterizations are in another
order. -/
structure Memory.Reordered (m m' : Memory) : Prop where
  rangeTable : m'.rangeTable = m.rangeTable
  paths : m'.paths = m.paths
  relations : ∀ id, (m.relations id).Reordered (m'.relations id)
  records : ∀ id, (m'.parameterizations id).record = (m.parameterizations id).record
  parameters : ∀ id, (m.parameterizations id).clauses.Perm (m'.parameterizations id).clauses

/-- The same is submitted to hooks in another order: the clauses may be reordered, and the inputs of
joins swapped. The relation of the join itself may be another one. -/
inductive Site.Reordered : Site → Site → Prop
  | base (id : RelationId) : Reordered (.base id) (.base id)
  | filteredBase (id : RelationId) {clauses clauses' : List Restriction} : clauses.Perm clauses' →
      Reordered (.filteredBase id clauses) (.filteredBase id clauses')
  | join (id id' outer inner : RelationId) (type : JoinType) {clauses clauses' : List Restriction} :
      clauses.Perm clauses' →
      Reordered (.join id outer inner type clauses) (.join id' outer inner type clauses')
  | joinSwapped (id id' outer inner : RelationId) (type : JoinType)
      {clauses clauses' : List Restriction} : clauses.Perm clauses' →
      Reordered (.join id outer inner type clauses) (.join id' inner outer type clauses')
  | filteredJoin (id id' : RelationId) (outer inner : PathId) (type : JoinType)
      {clauses clauses' : List Restriction} : clauses.Perm clauses' →
      Reordered (.filteredJoin id outer inner type clauses)
        (.filteredJoin id' outer inner type clauses')
  | filteredJoinSwapped (id id' : RelationId) (outer inner : PathId) (type : JoinType)
      {clauses clauses' : List Restriction} : clauses.Perm clauses' →
      Reordered (.filteredJoin id outer inner type clauses)
        (.filteredJoin id' inner outer type clauses')

namespace Memory.Reordered

variable {m m' : Memory}

theorem refl (m : Memory) : m.Reordered m where
  rangeTable := rfl
  paths := rfl
  relations _ := ⟨rfl, rfl, rfl, rfl, .refl _⟩
  records _ := rfl
  parameters _ := .refl _

theorem isBase (h : m.Reordered m') (id : RelationId) :
    (m'.relations id).isBase = (m.relations id).isBase := by
  rw [Relation.isBase, Relation.isBase, (h.relations id).index]

theorem baseCatalogIds (h : m.Reordered m') (id : RelationId) :
    m'.baseCatalogIds (m'.relations id) = m.baseCatalogIds (m.relations id) := by
  rw [Memory.baseCatalogIds, Memory.baseCatalogIds, h.isBase, (h.relations id).index, h.rangeTable]

theorem catalogIds (h : m.Reordered m') (id : RelationId) :
    m'.catalogIds (m'.relations id) = m.catalogIds (m.relations id) := by
  rw [Memory.catalogIds, Memory.catalogIds, h.isBase, h.baseCatalogIds, (h.relations id).members,
    h.rangeTable]

theorem inputPath (h : m.Reordered m') (id : RelationId) : m'.inputPath id = m.inputPath id := by
  simp only [Memory.inputPath, (h.relations id).cheapest, h.paths]

theorem pathClauses (h : m.Reordered m') (path : Path) :
    (m.pathClauses path).Perm (m'.pathClauses path) := by
  refine (h.relations path.parent).restrictions.append ?_
  cases path.parameters with
  | none => exact .refl _
  | some id => exact h.parameters id

/-- What the record of a path is made of is the same in another order. -/
theorem pathSource (h : m.Reordered m') (path : Path) :
    (m.pathSource path).Reordered (m'.pathSource path) := by
  have record : m'.pathRecord? path = m.pathRecord? path := by
    simp only [Memory.pathRecord?, h.records, (h.relations path.parent).record]
  unfold Memory.pathSource
  rw [record, h.catalogIds, (h.relations path.parent).index]
  cases m.pathRecord? path with
  | some record => exact .made record
  | none => exact .own _ _ (h.pathClauses path)

end Memory.Reordered

namespace Site

variable {site site' : Site} {m m' : Memory}

theorem Reordered.ofRows (h : site.Reordered site') :
    site.ofRows = true ∧ site'.ofRows = true := by
  cases h <;> exact ⟨rfl, rfl⟩

/-- What the record of a place is made of is the same in another order. -/
theorem Reordered.source (h : site.Reordered site') (kept : m.Reordered m') :
    (site.source m).Reordered (site'.source m') := by
  cases h with
  | base id =>
    simp only [Site.source, kept.baseCatalogIds, (kept.relations id).index]
    exact .own _ _ (kept.relations id).restrictions
  | filteredBase id clauses =>
    simp only [Site.source, kept.baseCatalogIds, (kept.relations id).index]
    exact .own _ _ (clauses.append (kept.relations id).restrictions)
  | join id id' outer inner type clauses =>
    simp only [Site.source, kept.inputPath]
    exact .join type (kept.pathSource _) (kept.pathSource _) clauses
  | joinSwapped id id' outer inner type clauses =>
    simp only [Site.source, kept.inputPath]
    exact .swapped type (kept.pathSource _) (kept.pathSource _) clauses
  | filteredJoin id id' outer inner type clauses =>
    simp only [Site.source, kept.paths]
    exact .join type (kept.pathSource _) (kept.pathSource _) clauses
  | filteredJoinSwapped id id' outer inner type clauses =>
    simp only [Site.source, kept.paths]
    exact .swapped type (kept.pathSource _) (kept.pathSource _) clauses

end Site

/-! ## Estimates in another order -/

/-- **Estimates in another order use samples with the same key.** Hooks estimate the rows of a base
relation or of a join. If the clauses that are submitted, those of relations and those of
parameterizations come in another order, and the inputs of a join are swapped, then the rows are
estimated by records that have the same relations, clauses and fingerprints in another order, and
every clause has the same fingerprint in both. So their samples have the same key. If all clauses
have fingerprints and no reply is a failure, there is an estimate in both orders. -/
theorem estimate_of_reordered {site site' : Site} {hook hook' : Hook} {behind behind' : Estimator}
    {s s₁ s' s₁' : Session} {t t' : List Asked} {result result' : Except Fault Float}
    (run : Runs (site.estimate (.hooked hook behind)) s t result s₁)
    (run' : Runs (site'.estimate (.hooked hook' behind')) s' t' result' s₁')
    (on : Predicts s) (on' : Predicts s') (space : s'.current.spaceHash = s.current.spaceHash)
    (kept : s.memory.Reordered s'.memory) (sites : site.Reordered site') :
    (∀ rows rows', result = .ok rows → result' = .ok rows' → ∃ record record',
      site.EstimatedBy hook behind record s t rows s₁ ∧
      site'.EstimatedBy hook' behind' record' s' t' rows' s₁' ∧
      (requestFor s record).sampleKey = (requestFor s' record').sampleKey ∧
      record.Reordered (site.source s.memory).Aligned record') ∧
    ((site.source s.memory).Fingerprinted → (∀ x ∈ t, x.Answers) → (∀ x ∈ t', x.Answers) →
      (∃ rows, result = .ok rows) ∧ ∃ rows', result' = .ok rows') := by
  have sources := sites.source kept
  obtain ⟨ofRows, ofRows'⟩ := sites.ofRows
  constructor
  · rintro rows rows' rfl rfl
    obtain ⟨cache, record, known, estimated⟩ := estimate_by_record on ofRows run
    obtain ⟨cache', record', known', estimated'⟩ := estimate_by_record on' ofRows' run'
    have reordered := sources.record known known'
    refine ⟨record, record', estimated, estimated', ?_, reordered⟩
    have keys := reordered.keyIn s.current.spaceHash
    rw [requestFor, requestFor, space]
    exact keys
  · intro all answers answers'
    exact ⟨exists_rows on ofRows all run answers,
      exists_rows on' ofRows' (sources.fingerprinted all) run' answers'⟩

/-- Two relations with records are joined in both orders, with the clauses of the join in both
orders. -/
theorem estimate_of_reordered_pair :
    let s := planningPair { relationIds := [1] } { relationIds := [2] }
    let site : Site := .join 3 1 2 .left [callWith 1, callWith 2]
    let site' : Site := .join 4 2 1 .left [callWith 2, callWith 1]
    ∃ t rows s₁ t' rows' s₁', Runs (site.estimate twoHooks) s t (.ok rows) s₁ ∧
      Runs (site'.estimate twoHooks) s t' (.ok rows') s₁' ∧
      ∃ record record' : ClauseRecord,
        (s₁.memory.relations 3).record = some record ∧
        (s₁'.memory.relations 4).record = some record' ∧
        (requestFor s record).sampleKey = (requestFor s record').sampleKey ∧
        record.pairs.Perm record'.pairs ∧ record.relationIds.Perm record'.relationIds := by
  intro s site site'
  have clause (n : Int) : (callWith n).clause.Fingerprinted := ⟨⟨none, rfl⟩, rfl⟩
  have all : (site.source s.memory).Fingerprinted := by
    refine ⟨?_, ?_, ?_⟩
    · intro clause member
      cases member
    · intro clause member
      cases member
    · simp [clause]
  have answers {t : List Asked} (replies : ∀ x ∈ t, x.reply = secondPredicts x.request) :
      ∀ x ∈ t, x.Answers := by
    rintro ⟨request, reply⟩ member
    have same : reply = secondPredicts request := replies _ member
    rw [same]
    exact secondPredicts_answers request
  obtain ⟨t, run, replies⟩ := exists_runs secondPredicts (site.estimate twoHooks) s
  obtain ⟨t', run', replies'⟩ := exists_runs secondPredicts (site'.estimate twoHooks) s
  obtain ⟨same, total⟩ := estimate_of_reordered run run' rfl rfl rfl (.refl _)
    (.joinSwapped 3 4 1 2 .left (.swap _ _ _))
  obtain ⟨⟨rows, ended⟩, rows', ended'⟩ := total all (answers replies) (answers replies')
  obtain ⟨record, record', estimated, estimated', keys, reordered⟩ := same _ _ ended ended'
  rw [ended] at run
  rw [ended'] at run'
  refine ⟨t, rows, _, t', rows', _, run, run', record, record', estimated.left ?_,
    estimated'.left ?_, keys, (reordered.pairs ⟨rfl, rfl⟩).2.2, reordered.relationIds⟩
  · exact ⟨by decide, by decide⟩
  · exact ⟨by decide, by decide⟩

end CardinalityAdvisor
