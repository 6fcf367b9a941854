import CardinalityAdvisor.Proofs.Planning.Recollection

/-!
# What records are made of

The record of a base relation is made of its own clauses, and that of a join of the clauses of the
join and the records of its inputs. An input whose record was made before gives that record. All of
this can be read off what the planner keeps, before anything is asked.

## Main definitions

* `CollectedRecord place own record e`: what a record is made of at a place
* `RecordSource`: what a record is made of
* `RecordSource.Known cache source record`: the record that a source gives is known

## Main results

* `RecordSource.known_of_runs`, `RecordSource.Known.runs`: a record that was made is known, and a
  known record is made without asking for anything
* `RecordSource.exists_record`: a record of clauses with fingerprints is always made
-/

namespace CardinalityAdvisor

open CardinalityAdvisor.Action

variable {s s' : Session} {t : List Asked}

namespace ClauseRecord

/-- The key of the sample that a record is described by. -/
def keyIn (space : Int) (record : ClauseRecord) : Int :=
  Fingerprint.sampleKey space record.relationIds record.fingerprints

/-- All clauses of a record have fingerprints. -/
def Fingerprinted (r : ClauseRecord) : Prop := ∀ clause ∈ r.clauses, clause.Fingerprinted

end ClauseRecord

/-- The fingerprint of a clause of a join among others, if it has one. -/
def Fingerprint.joinKey (e : Equivalence) (join : JoinType) (clause : Json) : Int :=
  match clauseKey e join clause with
  | .ok key => key
  | .error _ => 0

theorem Measured.keys {cache : SelectivityCache} {e : Fingerprint.Equivalence} {scope : Int}
    {join : Option JoinType} {restrictions : List Restriction} {measured : List (Int × Float)}
    (h : Measured cache e scope join restrictions measured) :
    measured.map (·.1) =
      (restrictions.map (·.clause)).map (Fingerprint.joinKey e (join.getD .inner)) := by
  induction h with
  | nil => rfl
  | cons known _ ih =>
    rw [List.map_cons, List.map_cons, List.map_cons, ih, Fingerprint.joinKey, known.1]

/-- What a record is made of at a place: its own clauses are fingerprinted among all clauses of the
place and of its inputs, and the fingerprints of the inputs stay. -/
structure CollectedRecord (place : Place) (own : List Json) (record : ClauseRecord)
    (e : Fingerprint.Equivalence) : Prop where
  classes : Fingerprint.Equivalence.ofClauses record.clauses = .ok e
  clauses : record.clauses = own ++ place.inputs.flatMap (·.clauses)
  fingerprints : record.fingerprints =
    own.map (Fingerprint.joinKey e (place.join.getD .inner)) ++
      place.inputs.flatMap (·.fingerprints)
  relationIds : record.relationIds = place.relationIds ++ place.inputs.flatMap (·.relationIds)

theorem Collected.parts {cache : SelectivityCache} {place : Place} {restrictions : List Restriction}
    {record : ClauseRecord} (h : Collected cache place restrictions record) :
    ∃ e, CollectedRecord place (restrictions.map (·.clause)) record e := by
  obtain ⟨e, measured, classes, known, rfl⟩ := h
  refine ⟨e, ?_, ?_, ?_, ?_⟩
  · simpa only [ClauseRecord.concat_clauses, List.flatMap_cons] using classes
  · rw [ClauseRecord.concat_clauses, List.flatMap_cons]
  · rw [ClauseRecord.concat_fingerprints, List.flatMap_cons, known.keys]
  · rw [ClauseRecord.concat_relationIds, List.flatMap_cons]

/-- What a record is made of. -/
inductive RecordSource where
  /-- The record was made before. -/
  | made (record : ClauseRecord)
  /-- The clauses of a relation, with the catalog ids of the relations in it. -/
  | own (scope : Int) (relationIds : List Int) (clauses : List Restriction)
  /-- The clauses of a join of two inputs. -/
  | join (outer inner : RecordSource) (join : JoinType) (clauses : List Restriction)

namespace RecordSource

/-- The record that is made of a source. -/
def record : RecordSource → Action ClauseRecord
  | .made record => pure record
  | .own scope relationIds clauses => collect { scope, relationIds } clauses
  | .join outer inner type clauses => do
    let outerRecord ← outer.record
    let innerRecord ← inner.record
    collect { scope := 0, join := some type, inputs := [outerRecord, innerRecord] } clauses

/-- All clauses of a source have fingerprints. -/
def Fingerprinted : RecordSource → Prop
  | .made record => record.Fingerprinted
  | .own _ _ clauses => ∀ r ∈ clauses, r.clause.Fingerprinted
  | .join outer inner _ clauses =>
    outer.Fingerprinted ∧ inner.Fingerprinted ∧ ∀ r ∈ clauses, r.clause.Fingerprinted

/-- The record that a source gives is known: all selectivities that it needs are remembered. -/
def Known (cache : SelectivityCache) : RecordSource → ClauseRecord → Prop
  | .made earlier, record => record = earlier
  | .own scope relationIds clauses, record =>
    Collected cache { scope, relationIds } clauses record
  | .join outer inner type clauses, record =>
    ∃ outerRecord innerRecord, outer.Known cache outerRecord ∧ inner.Known cache innerRecord ∧
      Collected cache { scope := 0, join := some type, inputs := [outerRecord, innerRecord] }
        clauses record

variable {source : RecordSource} {record : ClauseRecord}

theorem Known.mono {cache cache' : SelectivityCache} (h : source.Known cache record)
    (more : cache.Extends cache') : source.Known cache' record := by
  induction source generalizing record with
  | made => exact h
  | own => exact Collected.mono h more
  | join outer inner type clauses ihOuter ihInner =>
    obtain ⟨a, b, ha, hb, collected⟩ := h
    exact ⟨a, b, ihOuter ha, ihInner hb, collected.mono more⟩

theorem remembers (source : RecordSource) : Within SameButRemembered source.record := by
  induction source with
  | made => exact within_pure _
  | own => exact remembers_collect
  | join outer inner type clauses ihOuter ihInner =>
    exact ihOuter.bind fun _ => ihInner.bind fun _ => remembers_collect

theorem asks_record (source : RecordSource) : Asks Request.IsSelectivity source.record := by
  induction source with
  | made => exact asks_pure _
  | own => exact asks_collect
  | join outer inner type clauses ihOuter ihInner =>
    exact ihOuter.bind fun _ => ihInner.bind fun _ => asks_collect

/-- **A record that was made** is known from then on. -/
theorem known_of_runs (run : Runs source.record s t (.ok record) s') :
    source.Known s'.cache record := by
  induction source generalizing s t record s' with
  | made earlier =>
    obtain ⟨-, same, -⟩ := runs_pure.mp run
    cases same
    rfl
  | own => exact collected_of_runs run
  | join outer inner type clauses ihOuter ihInner =>
    obtain ⟨_, _, a, s₁, -, outerRun, run⟩ | ⟨_, failed, -⟩ := runs_bind.mp run
    swap
    · cases failed
    obtain ⟨_, _, b, s₂, -, innerRun, run⟩ | ⟨_, failed, -⟩ := runs_bind.mp run
    swap
    · cases failed
    -- What is known of one input stays known while the other one and the join are looked up.
    have later := (remembers_collect run).more
    refine ⟨a, b, ?_, (ihInner innerRun).mono later, collected_of_runs run⟩
    exact ((ihOuter outerRun).mono (inner.remembers innerRun).more).mono later

/-- **A known record** is made without asking for anything. -/
theorem Known.runs {result : Except Fault ClauseRecord} (h : source.Known s.cache record)
    (run : Runs source.record s t result s') : t = [] ∧ result = .ok record ∧ s' = s := by
  induction source generalizing t record result s' with
  | made earlier =>
    cases h
    exact runs_pure.mp run
  | own => exact Collected.runs h run
  | join outer inner type clauses ihOuter ihInner =>
    obtain ⟨a, b, ha, hb, collected⟩ := h
    obtain ⟨_, _, a', s₁, rfl, outerRun, run⟩ | ⟨_, -, outerRun⟩ := runs_bind.mp run
    swap
    · cases (ihOuter ha outerRun).2.1
    obtain ⟨rfl, same, rfl⟩ := ihOuter ha outerRun
    cases same
    obtain ⟨_, _, b', s₂, rfl, innerRun, run⟩ | ⟨_, -, innerRun⟩ := runs_bind.mp run
    swap
    · cases (ihInner hb innerRun).2.1
    obtain ⟨rfl, same, rfl⟩ := ihInner hb innerRun
    cases same
    exact collected.runs run

theorem fingerprinted_of_collected {cache : SelectivityCache} {place : Place}
    {clauses : List Restriction} (collected : Collected cache place clauses record)
    (own : ∀ r ∈ clauses, r.clause.Fingerprinted)
    (inputs : ∀ input ∈ place.inputs, input.Fingerprinted) : record.Fingerprinted := by
  obtain ⟨e, measured, -, -, rfl⟩ := collected
  intro clause member
  rw [ClauseRecord.concat_clauses, List.flatMap_cons, List.mem_append] at member
  rcases member with member | member
  · obtain ⟨r, inside, rfl⟩ := List.mem_map.mp member
    exact own r inside
  · obtain ⟨input, inside, member⟩ := List.mem_flatMap.mp member
    exact inputs input inside clause member

/-- The clauses of a known record are those of its source. -/
theorem Known.fingerprinted {cache : SelectivityCache} (h : source.Known cache record)
    (all : source.Fingerprinted) : record.Fingerprinted := by
  induction source generalizing record with
  | made earlier =>
    cases h
    exact all
  | own scope relationIds clauses => exact fingerprinted_of_collected h all (by simp)
  | join outer inner type clauses ihOuter ihInner =>
    obtain ⟨a, b, ha, hb, collected⟩ := h
    obtain ⟨outerAll, innerAll, own⟩ := all
    refine fingerprinted_of_collected collected own ?_
    intro input inside
    rcases List.mem_pair.mp inside with rfl | rfl
    · exact ihOuter ha outerAll
    · exact ihInner hb innerAll

/-- **A record of clauses with fingerprints** is always made, if the host answers. -/
theorem exists_record (all : source.Fingerprinted) {result : Except Fault ClauseRecord}
    (run : Runs source.record s t result s') (answers : ∀ x ∈ t, x.Answers) :
    ∃ record, result = .ok record := by
  induction source generalizing s t result s' with
  | made earlier => exact ⟨earlier, (runs_pure.mp run).2.1⟩
  | own => exact (neverFails_collect all (by simp)).exists_ok run answers
  | join outer inner type clauses ihOuter ihInner =>
    obtain ⟨outerAll, innerAll, own⟩ := all
    obtain ⟨t₁, t₂, a, s₁, rfl, outerRun, run⟩ | ⟨_, rfl, outerRun⟩ := runs_bind.mp run
    swap
    · exact ihOuter outerAll outerRun answers
    obtain ⟨t₂, t₃, b, s₂, rfl, innerRun, run⟩ | ⟨_, rfl, innerRun⟩ := runs_bind.mp run
    swap
    · exact ihInner innerAll innerRun fun x member =>
        answers x (List.mem_append_right _ member)
    have inputs : ∀ input ∈ [a, b], input.Fingerprinted := by
      intro input inside
      rcases List.mem_pair.mp inside with rfl | rfl
      · exact (known_of_runs outerRun).fingerprinted outerAll
      · exact (known_of_runs innerRun).fingerprinted innerAll
    refine (neverFails_collect own inputs).exists_ok run fun x member => ?_
    exact answers x (List.mem_append_right _ (List.mem_append_right _ member))

end RecordSource

/-! ## Sources that the planner keeps -/

/-- What the record of a path is made of. -/
def Memory.pathSource (m : Memory) (path : Path) : RecordSource :=
  match m.pathRecord? path with
  | some record => .made record
  | none =>
    .own (m.relations path.parent).index (m.catalogIds (m.relations path.parent))
      (m.pathClauses path)

theorem runs_pathRecord {path : Path} {result : Except Fault ClauseRecord} :
    Runs (pathRecord path) s t result s' ↔
      Runs (s.memory.pathSource path).record s t result s' := by
  rw [pathRecord, runs_get_bind]
  unfold Memory.pathSource
  dsimp only
  cases s.memory.pathRecord? path with
  | some record => rfl
  | none => rfl

theorem runs_joinRecord {outer inner : Path} {join : JoinType} {clauses : List Restriction}
    {result : Except Fault ClauseRecord} :
    Runs (joinRecord outer inner join clauses) s t result s' ↔
      Runs (RecordSource.join (s.memory.pathSource outer) (s.memory.pathSource inner) join
        clauses).record s t result s' := by
  rw [joinRecord, RecordSource.record, runs_bind, runs_bind]
  simp only [runs_pathRecord]
  have memory {t₁ : List Asked} {a : ClauseRecord} {s₁ : Session}
      (run : Runs (s.memory.pathSource outer).record s t₁ (.ok a) s₁) :
      s₁.memory = s.memory := by
    rw [((s.memory.pathSource outer).remembers run).same]
  constructor
  · rintro (⟨t₁, t₂, a, s₁, rfl, first, rest⟩ | failed)
    · refine .inl ⟨t₁, t₂, a, s₁, rfl, first, ?_⟩
      rw [runs_bind] at rest ⊢
      simpa only [runs_pathRecord, memory first] using rest
    · exact .inr failed
  · rintro (⟨t₁, t₂, a, s₁, rfl, first, rest⟩ | failed)
    · refine .inl ⟨t₁, t₂, a, s₁, rfl, first, ?_⟩
      rw [runs_bind] at rest ⊢
      simpa only [runs_pathRecord, memory first] using rest
    · exact .inr failed

end CardinalityAdvisor
