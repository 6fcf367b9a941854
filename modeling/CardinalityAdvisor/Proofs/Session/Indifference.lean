import CardinalityAdvisor.Proofs.Registration.LockDiscipline
import CardinalityAdvisor.Proofs.Session.Coupling
import CardinalityAdvisor.Session.Call

/-!
# Classifications that cannot tell statements apart

Each action that classifying a query and planning it consists of is coupled with itself, for
statements that are alike. So two sessions cannot be told apart by the constants in their queries.
If a knowledge base is not set up, an action may fail, but then it does so on both sides. The texts
of the queries go into the knowledge base and nowhere else.

## Main definitions

* `Query.Alike`: queries whose trees are alike, with any texts

## Main results

* `coupled_skipReason`: the guards decide alike
* `coupled_registerClass`: the same classes are registered, whatever the texts are
* `coupled_resolvePolicy`: policies agree in all but the times
* `coupled_classify`, `coupled_openCall`, `coupled_closeCall`: classifications and planning calls
-/

namespace CardinalityAdvisor

open CardinalityAdvisor.Action
open Knowledge (Store)

variable {own : List String} {ground ground' : Store}

/-! ## The guards -/

theorem coupled_knowledgePresent :
    Coupled own ground ground' Eq knowledgePresent knowledgePresent := by
  apply Coupled.get_bind
  rintro s _ ⟨policies, rfl, times⟩
  refine .ite Iff.rfl (coupled_pure rfl) (.ite Iff.rfl (coupled_pure rfl) ?_)
  refine (coupled_knowledge .isInstalled trivial).bind ?_
  rintro reply _ rfl
  have confirmed (b : Bool) : ({ s with confirmed := b } : Session).SameButTimes
      { s with policies, confirmed := b } := ⟨policies, rfl, times⟩
  rcases reply with fault | present
  · cases fault with
    | unavailable cause =>
      exact (coupled_set (confirmed false)).bind fun _ _ _ => coupled_pure rfl
    | _ => exact coupled_throw (.same _)
  · exact (coupled_set (confirmed present)).bind fun _ _ _ => coupled_pure rfl

/-- **The guards** find the same reason not to touch statements that are alike, or none. -/
theorem coupled_skipReason {fields fields' : List (String × Json)}
    (alike : Json.Alike (.object fields) (.object fields')) (mode : Mode) :
    Coupled own ground ground' Eq (skipReason (.object fields) mode)
      (skipReason (.object fields') mode) := by
  refine coupled_knowledgePresent.bind ?_
  rintro present _ rfl
  refine .ite Iff.rfl (coupled_pure rfl) (.get_bind ?_)
  rintro s _ ⟨policies, rfl, -⟩
  refine (coupled_ofTree alike.statementKind).bind ?_
  rintro kind _ rfl
  refine .ite Iff.rfl (coupled_pure rfl) (.ite Iff.rfl (coupled_pure rfl) ?_)
  refine (coupled_given _).bind ?_
  rintro idle _ rfl
  refine .ite Iff.rfl (coupled_pure rfl) ((coupled_given _).bind ?_)
  rintro patterns _ rfl
  refine (coupled_given _).bind ?_
  rintro proxy _ rfl
  refine .ite Iff.rfl (coupled_pure rfl) (coupled_relations.bind ?_)
  rintro own _ rfl
  refine (coupled_ofTree (alike.usesSystemRelations own)).bind ?_
  rintro system _ rfl
  exact .ite Iff.rfl (coupled_pure rfl) (.ite Iff.rfl (coupled_pure rfl) (coupled_pure rfl))

/-! ## The registration of a class -/

/-- A store that is set up takes every text, and all else stays. -/
theorem performs_recordAnyText {m m' : Scene} {hash : Int} {text : Option String}
    {result : Except Fault Unit} (set : m.store.installed = true)
    (run : Performs own (recordAnyText hash text) m result m') :
    result = .ok () ∧ m'.session = m.session ∧ m.store.SameClasses m'.store ∧
      m.store.SameRest m'.store := by
  cases text with
  | none =>
    obtain ⟨rfl, rfl⟩ := performs_pure.mp run
    exact ⟨rfl, rfl, ⟨rfl, rfl, rfl⟩, ⟨rfl, rfl⟩⟩
  | some text =>
    have answer : m.store.answer (.recordText hash text) =
        (.ok (), m.store.recordText hash text) := by
      rw [Store.answer, set]
      rfl
    have kept : m.store.SameClasses (m.store.recordText hash text) ∧
        m.store.SameRest (m.store.recordText hash text) := by
      unfold Store.recordText
      split
      · exact ⟨⟨rfl, rfl, rfl⟩, rfl, rfl⟩
      · exact ⟨⟨rfl, rfl, rfl⟩, rfl, rfl⟩
    obtain ⟨reply, m₁, first, later⟩ | ⟨fault, -, failed⟩ := performs_bind.mp run
    · obtain ⟨same, rfl⟩ := performs_knowledge.mp first
      obtain ⟨rfl, rfl⟩ := performs_ofResult.mp later
      cases same
      rw [answer]
      exact ⟨rfl, rfl, kept⟩
    · obtain ⟨same, -⟩ := performs_knowledge.mp failed
      cases same

/-- The texts of queries may differ, and one of them may be missing. -/
theorem coupled_recordAnyText (set : ground.installed = true) (hash : Int)
    (text text' : Option String) :
    Coupled own ground ground' (fun _ _ => True) (recordAnyText hash text)
      (recordAnyText hash text') := by
  rintro m m' r r' ⟨s₁, store₁⟩ ⟨s₁', store₁'⟩ agree run run'
  have there : m.store.installed = true := agree.rest.installed.trans set
  have there' : m'.store.installed = true := agree.store.installed.symm.trans there
  obtain ⟨rfl, rfl, same, rest⟩ := performs_recordAnyText there run
  obtain ⟨rfl, rfl, same', rest'⟩ := performs_recordAnyText there' run'
  exact ⟨.ok trivial,
    agree.withStores (same.symm.trans (agree.store.trans same')) rest rest'⟩

/-- Under the lock, the same class is registered. If the knowledge base is not set up, both sides
fail before a text is recorded. -/
theorem coupled_registerUnderLock (policy : PlanningPolicy) (text text' : Option String) :
    Coupled own ground ground' (fun _ _ => True) (registerUnderLock policy text)
      (registerUnderLock policy text') := by
  cases set : ground.installed with
  | false =>
    refine (coupled_refused set (.findClass _) rfl).bind ?_
    rintro reply _ ⟨rfl, rfl⟩
    exact (coupled_throw (R := fun _ _ => False) (.same _)).bind fun _ _ => False.elim
  | true =>
    refine (coupled_knowledge (.findClass _) trivial).bind ?_
    rintro reply _ rfl
    refine (coupled_given reply).bind ?_
    rintro found _ rfl
    have record : Coupled own ground ground' (fun _ _ => True)
        (recordAnyText policy.queryHash text) (recordAnyText policy.queryHash text') :=
      coupled_recordAnyText set _ text text'
    refine .ite Iff.rfl ?_ record
    refine (coupled_knowledge (.upsertClass _) trivial).bind ?_
    rintro reply _ rfl
    exact (coupled_given reply).bind fun _ _ _ =>
      (coupled_logClassification _ _).bind fun _ _ _ => record

/-- **The same classes are registered**, or none on both sides. -/
theorem coupled_registerClass (policy : PlanningPolicy) (text text' : Option String) :
    Coupled own ground ground' Eq (registerClass policy text) (registerClass policy text') := by
  apply Coupled.get_bind
  rintro s _ ⟨policies, rfl, -⟩
  refine ((coupled_registerUnderLock policy text text').withLock _ _).attempt.bind ?_
  rintro r r' ends
  rcases ends with ⟨-⟩ | ⟨_ | ⟨cause, cause'⟩⟩
  · exact coupled_pure rfl
  · rename_i fault
    cases fault with
    | unavailable cause =>
      exact (coupled_logClassification _ _).bind fun _ _ _ => coupled_pure rfl
    | _ => exact coupled_throw (.same _)
  · exact coupled_throw (.tree cause cause')

/-! ## The policy of a class -/

theorem coupled_deactivateIfIdle (hash : Int) (stored : Option QueryClass) (force : Bool) :
    Coupled own ground ground' (fun _ _ => True) (deactivateIfIdle hash stored force)
      (deactivateIfIdle hash stored force) := by
  refine .ite Iff.rfl ?_ (coupled_pure trivial)
  exact (coupled_logClassification _ _).bind fun _ _ _ =>
    coupled_modify_aside (by intros; rfl) (by intros; rfl)

/-- **What is looked up** for a class is the same. -/
theorem coupled_lookUpPolicy (mode : Mode) (start : PlanningPolicy) (text text' : Option String) :
    Coupled own ground ground' Eq (lookUpPolicy mode start text)
      (lookUpPolicy mode start text') := by
  apply Coupled.get_bind
  rintro s _ ⟨policies, rfl, -⟩
  refine (coupled_knowledge (.findClass _) trivial).bind ?_
  rintro reply _ rfl
  rcases reply with fault | stored
  · cases fault with
    | unavailable cause =>
      exact (coupled_logClassification _ _).bind fun _ _ _ => coupled_pure rfl
    | _ => exact coupled_throw (.same _)
  · refine (coupled_deactivateIfIdle _ _ _).bind fun _ _ _ => ?_
    refine .ite Iff.rfl ?_ (coupled_pure rfl)
    refine (coupled_registerClass _ text text').bind ?_
    rintro registered _ rfl
    exact .ite Iff.rfl (coupled_pure rfl) (coupled_pure rfl)

/-- Both sides note when planning started, or none does. -/
theorem coupled_stampStart (settings : Settings) (policy : PlanningPolicy) :
    Coupled own ground ground' PlanningPolicy.SameButTimes (stampStart settings policy)
      (stampStart settings policy) := by
  have finish (timed : Bool) : Coupled own ground ground' PlanningPolicy.SameButTimes
      (do if timed then return { policy with start := some (← ask .now) } else return policy)
      (do if timed then return { policy with start := some (← ask .now) } else return policy) :=
    .ite Iff.rfl ((coupled_ask .now .now trivial trivial).bind fun _ _ _ => coupled_pure rfl)
      (coupled_pure rfl)
  refine .ite Iff.rfl ((coupled_given _).bind ?_) ((coupled_pure rfl).bind ?_)
  · rintro timed _ rfl
    exact finish timed
  · rintro timed _ rfl
    exact finish timed

/-- **The policies** of a class agree in all but the times. -/
theorem coupled_resolvePolicy (mode : Mode) (start : PlanningPolicy) (text text' : Option String) :
    Coupled own ground ground' PlanningPolicy.SameButTimes (resolvePolicy mode start text)
      (resolvePolicy mode start text') := by
  rw [resolvePolicy_eq, resolvePolicy_eq]
  apply Coupled.get_bind
  rintro s _ ⟨policies, rfl, -⟩
  have settle (found : PlanningPolicy × Bool) :
      Coupled own ground ground' PlanningPolicy.SameButTimes (settlePolicy s.settings found)
        (settlePolicy s.settings found) := by
    refine .ite Iff.rfl (coupled_pure rfl) ?_
    exact (coupled_logClassification _ _).bind fun _ _ _ => coupled_stampStart _ _
  refine .ite Iff.rfl ((coupled_pure rfl).bind ?_)
    ((coupled_lookUpPolicy mode _ text text').bind ?_)
  · rintro found _ rfl
    exact settle found
  · rintro found _ rfl
    exact settle found

/-! ## The classification -/

/-- Two results of a classification agree in all but the times of the policy. -/
def Classified.SameButTimes (c c' : Classified) : Prop :=
  c.policy.SameButTimes c'.policy ∧ c.entered = c'.entered

theorem coupled_classifyHash (mode : Mode) (hash : Int) (explained : Bool)
    (text text' : Option String) :
    Coupled own ground ground' Classified.SameButTimes (classifyHash mode hash explained text)
      (classifyHash mode hash explained text') := by
  apply Coupled.get_bind
  rintro s _ ⟨policies, rfl, -⟩
  have passedOver (entries : List Value) : Coupled own ground ground' Classified.SameButTimes
      (do logClassification entries; return .passedOver hash)
      (do logClassification entries; return .passedOver hash) :=
    (coupled_logClassification _ _).bind fun _ _ _ => coupled_pure ⟨rfl, rfl⟩
  refine .ite Iff.rfl (passedOver _) (.ite Iff.rfl (passedOver _) ?_)
  refine (coupled_logClassification _ _).bind fun _ _ _ => ?_
  refine (coupled_modify_aside (by intros; rfl) (by intros; rfl)).bind fun _ _ _ => ?_
  exact (coupled_resolvePolicy mode _ text text').bind fun _ _ same => coupled_pure ⟨same, rfl⟩

/-- Two queries are given by trees that are alike. Their texts may differ, or be missing. -/
inductive Query.Alike : Query → Query → Prop
  | trees {tree tree' : Json} (text text' : Option String) : tree.HoldsStatement →
      tree.Alike tree' → Query.Alike ⟨some tree, text⟩ ⟨some tree', text'⟩

/-- **Queries that are alike** are classified alike. -/
theorem coupled_classify {query query' : Query} (alike : query.Alike query') :
    Coupled own ground ground' Classified.SameButTimes (classify query) (classify query') := by
  obtain ⟨text, text', holds, alike⟩ := alike
  apply Coupled.get_bind
  rintro s _ ⟨policies, rfl, -⟩
  refine (coupled_given _).bind ?_
  rintro mode _ rfl
  refine (coupled_ofTree (alike.posed holds)).bind ?_
  rintro ⟨stmt, explained⟩ ⟨stmt', _⟩ ⟨fields, fields', rfl, rfl, alike, rfl⟩
  refine (coupled_skipReason alike mode).bind ?_
  rintro reason _ rfl
  cases reason with
  | some reason =>
    exact (coupled_logClassification _ _).bind fun _ _ _ => coupled_pure ⟨rfl, rfl⟩
  | none =>
    refine (coupled_modify_aside (by intros; rfl) (by intros; rfl)).bind fun _ _ _ => ?_
    rw [alike.expressionKeyOf]
    refine (coupled_given _).bind ?_
    rintro hash _ rfl
    exact coupled_classifyHash mode hash explained text text'

/-! ## Planning calls -/

theorem Session.SameButTimes.updatePolicy {s s' : Session} (h : s.SameButTimes s') (id : PolicyId)
    {change change' : PlanningPolicy → PlanningPolicy}
    (same : (change (s.policies id)).SameButTimes (change' (s'.policies id))) :
    (s.updatePolicy id change).SameButTimes (s'.updatePolicy id change') := by
  obtain ⟨policies, rfl, times⟩ := h
  refine ⟨_, rfl, fun other => ?_⟩
  simp only [Session.updatePolicy]
  split
  · exact same
  · exact times other

theorem coupled_pushPolicy {policy policy' : PlanningPolicy} (same : policy.SameButTimes policy') :
    Coupled own ground ground' Eq (pushPolicy policy) (pushPolicy policy') := by
  apply Coupled.get_bind
  rintro s _ ⟨policies, rfl, times⟩
  refine (coupled_set ⟨_, rfl, fun other => ?_⟩).bind fun _ _ _ => coupled_pure rfl
  show PlanningPolicy.SameButTimes (if other = s.nextPolicy then policy else s.policies other)
    (if other = s.nextPolicy then policy' else policies other)
  split
  · exact same
  · exact times other

/-- **Planning calls** for queries that are alike begin alike. -/
theorem coupled_openCall {query query' : Query} (alike : query.Alike query') :
    Coupled own ground ground' Eq (openCall query) (openCall query') := by
  refine (coupled_classify alike).bind ?_
  rintro c c' ⟨same, entered⟩
  refine (coupled_pushPolicy same).bind ?_
  rintro id _ rfl
  rw [entered]
  exact coupled_pure rfl

theorem coupled_popPolicy : Coupled own ground ground' Eq popPolicy popPolicy := by
  apply Coupled.get_bind
  rintro s _ ⟨policies, rfl, times⟩
  cases calls : s.calls with
  | nil => exact coupled_throw (.same _)
  | cons id outer =>
    exact (coupled_set (s := { s with calls := outer }) ⟨policies, rfl, times⟩).bind
      fun _ _ _ => coupled_pure rfl

theorem coupled_noteTime (id : PolicyId) :
    Coupled own ground ground' (fun _ _ => True) (noteTime id) (noteTime id) := by
  apply Coupled.get_bind
  rintro s _ ⟨policies, rfl, times⟩
  have kept := (times id).isSome_start
  dsimp only
  cases here : (s.policies id).start with
  | none =>
    cases there : (policies id).start with
    | none => exact coupled_pure trivial
    | some start' =>
      rw [here, there] at kept
      cases kept
  | some start =>
    cases there : (policies id).start with
    | none =>
      rw [here, there] at kept
      cases kept
    | some start' =>
      refine (coupled_ask .now .now trivial trivial).bind fun now now' _ => coupled_modify ?_
      intro s s' agree
      apply agree.updatePolicy id
      obtain ⟨policies, rfl, times⟩ := agree
      exact times id

/-- **Planning calls** end alike. -/
theorem coupled_closeCall (call : PlanningCall) :
    Coupled own ground ground' (fun _ _ => True) (closeCall call) (closeCall call) := by
  refine coupled_popPolicy.bind fun _ _ _ => ?_
  refine .ite Iff.rfl ?_ (coupled_noteTime _)
  refine (coupled_modify ?_).bind fun _ _ _ => coupled_noteTime _
  rintro s _ ⟨policies, rfl, times⟩
  simp only [(times call.policy).queryHash]
  exact ⟨policies, rfl, times⟩

end CardinalityAdvisor
