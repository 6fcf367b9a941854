import CardinalityAdvisor.Proofs.Planning.Leaving

/-!
# Joins of three relations in two orders

The record of a join keeps the fingerprints of its inputs as they are. A clause of a lower join was
fingerprinted among the clauses below that join, and the clauses of the upper join may connect
further columns. So the key of a join of three relations may depend on which two of them are joined
first, and here it is said exactly when it does.

## Main definitions

* `JoinEstimated space outer inner clauses record`: hooks have estimated an inner join of two inputs
  with given records
* `Fingerprint.innerKey e clause`: the fingerprint of a clause of an inner join

## Main results

* `JoinEstimated.collected`: what the record of a join is made of
* `sampleKey_of_join_orders`: when the keys of both orders are the same
* `sampleKey_of_join_orders_chain`: they are not for `r.a = s.b` and `s.b = t.c`
-/

namespace CardinalityAdvisor

open CardinalityAdvisor.Action

variable {s s' : Session} {t : List Asked} {record : ClauseRecord}

/-- Under a policy that uses predictions in a feature space, hooks have estimated an inner join of
two inputs that were estimated before, and have left a record on it. -/
def JoinEstimated (space : Int) (outer inner : ClauseRecord) (clauses : List Restriction)
    (record : ClauseRecord) : Prop :=
  ∃ (hook : Hook) (behind : Estimator) (id outerId innerId : RelationId) (s : Session)
    (t : List Asked) (s' : Session),
    Runs ((Estimator.hooked hook behind).joinRows id outerId innerId .inner clauses) s t (.ok ())
      s' ∧
    Predicts s ∧ s.current.spaceHash = space ∧
    (Site.join id outerId innerId .inner clauses).Distinct s.memory ∧
    s.memory.pathSource (s.memory.inputPath outerId) = .made outer ∧
    s.memory.pathSource (s.memory.inputPath innerId) = .made inner ∧
    (s'.memory.relations id).record = some record

/-- The fingerprint of a clause of an inner join among others, if it has one. -/
def Fingerprint.innerKey (e : Equivalence) (clause : Json) : Int :=
  match clauseKey e .inner clause with
  | .ok key => key
  | .error _ => 0

theorem Fingerprint.innerKey_eq (e : Equivalence) : innerKey e = joinKey e .inner := rfl

/-- What the record of a join is made of: its own clauses are fingerprinted among all clauses of the
join and of its inputs, and the fingerprints of the inputs stay. -/
structure JoinRecord (outer inner : ClauseRecord) (own : List Json) (record : ClauseRecord)
    (e : Fingerprint.Equivalence) : Prop where
  classes : Fingerprint.Equivalence.ofClauses record.clauses = .ok e
  clauses : record.clauses = own ++ (outer.clauses ++ inner.clauses)
  fingerprints : record.fingerprints =
    own.map (Fingerprint.innerKey e) ++ (outer.fingerprints ++ inner.fingerprints)
  relationIds : record.relationIds = outer.relationIds ++ inner.relationIds

theorem JoinEstimated.collected {space : Int} {outer inner : ClauseRecord}
    {clauses : List Restriction} (h : JoinEstimated space outer inner clauses record) :
    ∃ e, JoinRecord outer inner (clauses.map (·.clause)) record e := by
  obtain ⟨hook, behind, id, outerId, innerId, s, t, s', run, on, -, distinct, first, second,
    written⟩ := h
  have estimate : Runs ((Site.join id outerId innerId .inner clauses).estimate
      (.hooked hook behind)) s t (.ok (s'.memory.relations id).rows) s' :=
    runs_bind.mpr (.inl ⟨t, [], (), s', (List.append_nil t).symm, run,
      Site.runs_rowsOf.mpr ⟨rfl, rfl, rfl⟩⟩)
  obtain ⟨cache, _, known, estimated⟩ := estimate_by_record on rfl estimate
  cases written.symm.trans (estimated.left distinct)
  obtain ⟨a, b, ha, hb, collected⟩ := known
  rw [first] at ha
  rw [second] at hb
  cases ha
  cases hb
  obtain ⟨e, parts⟩ := collected.parts
  refine ⟨e, parts.classes, ?_, ?_, ?_⟩
  · simpa using parts.clauses
  · simpa [Fingerprint.innerKey_eq] using parts.fingerprints
  · simpa using parts.relationIds

/-! ## Two orders -/

section Orders

variable {a b c ab bc first second : ClauseRecord} {own own' ownAb ownBc rest : List Json}
  {e e' ea eb : Fingerprint.Equivalence}

/-- Whichever two of three relations are joined first, the clauses of the join are the same. -/
theorem clauses_perm (low : JoinRecord a b ownAb ab ea) (top : JoinRecord ab c own first e)
    (low' : JoinRecord b c ownBc bc eb) (top' : JoinRecord a bc own' second e')
    (once : own.Perm (ownBc ++ rest)) (once' : own'.Perm (ownAb ++ rest)) :
    first.clauses.Perm second.clauses := by
  rw [List.perm_iff_count]
  intro clause
  have here := once.count_eq clause
  have there := once'.count_eq clause
  rw [top.clauses, top'.clauses, low.clauses, low'.clauses]
  simp only [List.count_append] at here there ⊢
  omega

theorem relationIds_perm (low : JoinRecord a b ownAb ab ea) (top : JoinRecord ab c own first e)
    (low' : JoinRecord b c ownBc bc eb) (top' : JoinRecord a bc own' second e') :
    first.relationIds.Perm second.relationIds := by
  rw [top.relationIds, top'.relationIds, low.relationIds, low'.relationIds, List.append_assoc]

/-- **The fingerprints of both orders** are the same exactly if it makes no difference among which
clauses those of the lower joins are fingerprinted: among those below them in the order in which
they come first, or among all in the other order. -/
theorem fingerprints_perm_iff (low : JoinRecord a b ownAb ab ea)
    (top : JoinRecord ab c own first e) (low' : JoinRecord b c ownBc bc eb)
    (top' : JoinRecord a bc own' second e') (once : own.Perm (ownBc ++ rest))
    (once' : own'.Perm (ownAb ++ rest)) :
    first.fingerprints.Perm second.fingerprints ↔
      (ownAb.map (Fingerprint.innerKey ea) ++ ownBc.map (Fingerprint.innerKey e)).Perm
        (ownAb.map (Fingerprint.innerKey e) ++ ownBc.map (Fingerprint.innerKey eb)) := by
  -- The clauses of the upper join are fingerprinted among the same clauses in both orders.
  have all : Fingerprint.innerKey e' = Fingerprint.innerKey e := by
    funext clause
    have same := Fingerprint.classOf_of_mem_iff top'.classes top.classes fun clause =>
      (clauses_perm low top low' top' once once').symm.mem_iff
    rw [Fingerprint.innerKey, Fingerprint.innerKey, Fingerprint.clauseKey_congr same]
  have upper := once.map (Fingerprint.innerKey e)
  have upper' := once'.map (Fingerprint.innerKey e)
  rw [List.map_append] at upper upper'
  rw [top.fingerprints, top'.fingerprints, low.fingerprints, low'.fingerprints, all,
    List.perm_iff_count, List.perm_iff_count]
  refine forall_congr' fun key => ?_
  have here := upper.count_eq key
  have there := upper'.count_eq key
  simp only [List.count_append] at here there ⊢
  omega

end Orders

/-- **The key of a join of three relations.** Hooks have estimated `a` with `b` first and then `c`,
and in the other order `b` with `c` first and then `a`. Each clause is applied at the lowest join
that covers it: those between `a` and `b`, those between `b` and `c`, and the rest. Then the clauses
and relations of the join are the same, and the keys are the same exactly if the clauses of the
lower joins get the same fingerprints in both orders: those of one among the clauses below it,
together with those of the other among all. -/
theorem sampleKey_of_join_orders {space : Int} {a b c ab bc first second : ClauseRecord}
    {lower upper lower' upper' : List Restriction} {rest : List Json}
    (low : JoinEstimated space a b lower ab) (top : JoinEstimated space ab c upper first)
    (low' : JoinEstimated space b c lower' bc) (top' : JoinEstimated space a bc upper' second)
    (once : (upper.map (·.clause)).Perm (lower'.map (·.clause) ++ rest))
    (once' : (upper'.map (·.clause)).Perm (lower.map (·.clause) ++ rest))
    (samples : Fingerprint.NoCollision
      (Fingerprint.sampleText space first.relationIds first.fingerprints)
      (Fingerprint.sampleText space second.relationIds second.fingerprints))
    (multisets : Fingerprint.NoCollision (Fingerprint.multisetText first.fingerprints)
      (Fingerprint.multisetText second.fingerprints)) :
    first.clauses.Perm second.clauses ∧ first.relationIds.Perm second.relationIds ∧
      ∃ ea eb e, Fingerprint.Equivalence.ofClauses ab.clauses = .ok ea ∧
        Fingerprint.Equivalence.ofClauses bc.clauses = .ok eb ∧
        Fingerprint.Equivalence.ofClauses first.clauses = .ok e ∧
        (first.keyIn space = second.keyIn space ↔
          (lower.map (Fingerprint.innerKey ea ·.clause) ++
              lower'.map (Fingerprint.innerKey e ·.clause)).Perm
            (lower.map (Fingerprint.innerKey e ·.clause) ++
              lower'.map (Fingerprint.innerKey eb ·.clause))) := by
  obtain ⟨ea, low⟩ := low.collected
  obtain ⟨e, top⟩ := top.collected
  obtain ⟨eb, low'⟩ := low'.collected
  obtain ⟨e', top'⟩ := top'.collected
  have relations := relationIds_perm low top low' top'
  have fingerprints := fingerprints_perm_iff low top low' top' once once'
  simp only [List.map_map, Function.comp_def] at fingerprints
  refine ⟨clauses_perm low top low' top' once once', relations, ea, eb, e, low.classes,
    low'.classes, top.classes, ?_⟩
  rw [← fingerprints]
  constructor
  · intro same
    obtain ⟨-, -, clauses⟩ := Fingerprint.sampleText_inj (samples same)
    exact Fingerprint.multisetText_eq_iff.mp (multisets clauses)
  · intro same
    rw [ClauseRecord.keyIn, ClauseRecord.keyIn, Fingerprint.sampleKey, Fingerprint.sampleKey,
      Fingerprint.sampleText_of_perm space relations same]

/-- A reference to a column. -/
def columnOf (relation column : String) : Json :=
  .object [("ColumnRef", .object [("fields", .list [.object [("String", .object
    [("sval", .text relation)])], .object [("String", .object [("sval", .text column)])]])])]

/-- An equality between two columns. -/
def equalityOf (left right : Json) : Restriction :=
  ⟨"equality", .object [("A_Expr", .object [("kind", .text "AEXPR_OP"),
    ("lexpr", left), ("name", .list [.object [("String", .object [("sval", .text "=")])]]),
    ("rexpr", right)])]⟩

/-- A planning call that uses predictions, with two relations that were estimated. -/
def planningPair (outer inner : ClauseRecord) : Session where
  policies _ := { usePrediction := true }
  calls := [0]
  memory := { relations := fun id => if id = 1 then { record := some outer }
                                     else if id = 2 then { record := some inner } else {} }

/-- The record that a hook leaves on the join of the two relations. -/
def joined? (outer inner : ClauseRecord) (clauses : List Restriction) : Option ClauseRecord :=
  let estimate := (Estimator.hooked ⟨"hook", .external "predictor", false, false⟩
    (.native "host")).joinRows 3 1 2 .inner clauses
  match outcome nothingStored estimate (planningPair outer inner) with
  | (.ok (), s) => (s.memory.relations 3).record
  | (.error _, _) => none

theorem joinEstimated_of_joined? {outer inner : ClauseRecord} {clauses : List Restriction}
    (joined : joined? outer inner clauses = some record) :
    JoinEstimated 0 outer inner clauses record := by
  unfold joined? at joined
  dsimp only at joined
  split at joined
  · rename_i s' ended
    obtain ⟨t, run, -⟩ := exists_runs nothingStored _ (planningPair outer inner)
    rw [ended] at run
    have distinct :
        (Site.join 3 1 2 .inner clauses).Distinct (planningPair outer inner).memory := by
      constructor
      · show (1 : Nat) ≠ 3
        decide
      · show (2 : Nat) ≠ 3
        decide
    exact ⟨_, _, 3, 1, 2, _, t, s', run, rfl, rfl, distinct, rfl, rfl, joined⟩
  · cases joined

/-- With `r.a = s.b` and `s.b = t.c`, the first join has one class of two columns, whichever is made
first, and the second join makes it one of three. So the keys differ. -/
theorem sampleKey_of_join_orders_chain :
    ∃ a b c ab bc first second : ClauseRecord, ∃ lower lower' : Restriction,
      JoinEstimated 0 a b [lower] ab ∧ JoinEstimated 0 ab c [lower'] first ∧
      JoinEstimated 0 b c [lower'] bc ∧ JoinEstimated 0 a bc [lower] second ∧
      first.clauses.Perm second.clauses ∧ first.relationIds.Perm second.relationIds ∧
      first.keyIn 0 ≠ second.keyIn 0 := by
  let rs := equalityOf (columnOf "r" "a") (columnOf "s" "b")
  let st := equalityOf (columnOf "s" "b") (columnOf "t" "c")
  let a : ClauseRecord := { relationIds := [1] }
  let b : ClauseRecord := { relationIds := [2] }
  let c : ClauseRecord := { relationIds := [3] }
  let ab : ClauseRecord := ⟨[rs.clause], [3044347721141032883], [0.5], [1, 2]⟩
  let bc : ClauseRecord := ⟨[st.clause], [-5503141712815975036], [0.5], [2, 3]⟩
  let first : ClauseRecord := ⟨[st.clause, rs.clause],
    [6377277510753155448, 3044347721141032883], [0.5, 0.5], [1, 2, 3]⟩
  let second : ClauseRecord := ⟨[rs.clause, st.clause],
    [6377277510753155448, -5503141712815975036], [0.5, 0.5], [1, 2, 3]⟩
  have low : joined? a b [rs] = some ab := by decide +kernel
  have top : joined? ab c [st] = some first := by decide +kernel
  have low' : joined? b c [st] = some bc := by decide +kernel
  have top' : joined? a bc [rs] = some second := by decide +kernel
  have differ : first.keyIn 0 ≠ second.keyIn 0 := by decide +kernel
  have low := joinEstimated_of_joined? low
  have top := joinEstimated_of_joined? top
  have low' := joinEstimated_of_joined? low'
  have top' := joinEstimated_of_joined? top'
  have once (r : Restriction) : ([r].map (·.clause)).Perm ([r].map (·.clause) ++ []) := .refl _
  have multisets : Fingerprint.multisetKey first.fingerprints ≠
      Fingerprint.multisetKey second.fingerprints := by
    intro same
    apply differ
    show Fingerprint.digestOf _ = Fingerprint.digestOf _
    rw [Fingerprint.sampleText, Fingerprint.sampleText, same]
  obtain ⟨clauses, relations, -⟩ := sampleKey_of_join_orders low top low' top' (once st) (once rs)
    (fun same => absurd same differ) (fun same => absurd same multisets)
  exact ⟨a, b, c, ab, bc, first, second, rs, st, low, top, low', top', clauses, relations, differ⟩

end CardinalityAdvisor
