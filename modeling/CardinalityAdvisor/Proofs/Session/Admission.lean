import CardinalityAdvisor.Proofs.Session.Outages
import CardinalityAdvisor.Proofs.Session.ReservedRelations

/-!
# Which queries reach their class

A classification first finds out whether anything is to be done for a query. The settings must name
a mode, the text must be a statement, and no guard may apply. Only then the class of the query is
computed. This first part is an action of its own here, the admission, and the classification is the
admission followed by what it decides. Neither the classes of the session nor those of the knowledge
base have been looked at when it ends, so all that is said about them is said about the second part.

## Main definitions

* `Query.classIn query t`: the class of a query, with the reply of the parser among `t`
* `admission query`: why a query is not touched, or its mode and its class
* `SameButChecked s s'`: the guards may have run
* `Guarded query s t result s'`: what becomes of a query at the guards

## Main results

* `classify_eq`: a classification is an admission and what it decides
* `Admission.of_runs`: a query is admitted under the mode of the settings, with its own class
* `Guarded.of_runs`: every classification ends at the guards or goes on with an admitted query
-/

namespace CardinalityAdvisor

open CardinalityAdvisor.Action

/-! ## The class of a query -/

/-- The reply of the parser, in an exchange with it. -/
def Asked.parsed? : Asked → Option ParseReply
  | ⟨.parse _, reply⟩ => some reply
  | _ => none

/-- The tree of a query. If there is only a text, its tree is what the parser replied among some
exchanges. -/
def Query.treeIn (query : Query) (t : List Asked) : Option Json :=
  match query.tree, query.text with
  | some tree, _ => some tree
  | none, some text => do (statementOf text (← t.findSome? Asked.parsed?)).toOption
  | none, none => none

/-- The class of a query, by the fingerprint of its statement. -/
def Query.classIn (query : Query) (t : List Asked) : Option Int := do
  let tree ← query.treeIn t
  let (stmt, _) ← (unwrapExplain tree).toOption
  (Fingerprint.expressionKeyOf stmt).toOption

theorem Query.treeIn_append {query : Query} {t : List Asked} {tree : Json} (rest : List Asked)
    (h : query.treeIn t = some tree) : query.treeIn (t ++ rest) = some tree := by
  obtain ⟨_ | given, _ | text⟩ := query
  · cases h
  · obtain ⟨reply, parsed, read⟩ := Option.bind_eq_some_iff.mp h
    rw [treeIn, List.findSome?_append, parsed]
    exact read
  · exact h
  · exact h

/-- What is exchanged later does not change the class of a query. -/
theorem Query.classIn_append {query : Query} {t : List Asked} {hash : Int} (rest : List Asked)
    (h : query.classIn t = some hash) : query.classIn (t ++ rest) = some hash := by
  obtain ⟨tree, found, keyed⟩ := Option.bind_eq_some_iff.mp h
  exact Option.bind_eq_some_iff.mpr ⟨tree, treeIn_append rest found, keyed⟩

theorem Query.treeIn_of_resolve {query : Query} {s s' : Session} {t : List Asked} {tree : Json}
    (run : Runs query.resolve s t (.ok tree) s') : query.treeIn t = some tree := by
  have given {known : Json} (run : Runs (pure known) s t (.ok tree) s') :
      some known = some tree := by
    obtain ⟨-, same, -⟩ := runs_pure.mp run
    cases same
    rfl
  obtain ⟨_ | known, _ | text⟩ := query
  · cases (runs_throw.mp run).2.1
  · obtain ⟨reply, _, rfl, parsed⟩ := runs_ask_bind.mp run
    obtain ⟨-, read, -⟩ := runs_ofResult.mp parsed
    show (statementOf text reply).toOption = some tree
    rw [← read]
    rfl
  · exact given run
  · exact given run

theorem classIn_bareQuery (t : List Asked) : (bareQuery .select).classIn t = some bareHash := by
  have shaped : (Json.object [(StatementKind.select.tag, .object [])]).Shaped := by decide +kernel
  show (Fingerprint.expressionKeyOf (.object [(StatementKind.select.tag, .object [])])).toOption = _
  rw [shaped.casts.expressionKeyOf]
  rfl

/-! ## Admissions -/

/-- The mode under which a query is classified, and its class. -/
structure Admission where
  mode : Mode
  hash : Int
  /-- Whether the query is explained and not executed. -/
  explained : Bool

/-- The first part of a classification: why a query is not touched, or its mode and its class. -/
def admission (query : Query) : Action (Except SkipReason Admission) := do
  let mode ← ofResult (← get).settings.resolvedMode
  let (stmt, explained) ← Action.ofTree (unwrapExplain (← query.resolve))
  match ← skipReason stmt mode with
  | some reason => return .error reason
  | none =>
    modify fun s => { s with cache := .clear }
    let hash ← Action.ofTree (Fingerprint.expressionKeyOf stmt)
    return .ok ⟨mode, hash, explained⟩

/-- The second part of a classification, by what the first part gave. -/
def classifyAdmitted (text : Option String) : Except SkipReason Admission → Action Classified
  | .error reason => do
    logClassification [.text "Ignoring query:", .text reason.text]
    return .passedOver 0
  | .ok a => classifyHash a.mode a.hash a.explained text

/-- **A classification** is an admission followed by what it decides. -/
theorem classify_eq (query : Query) :
    classify query = admission query >>= classifyAdmitted query.text := by
  unfold classify admission
  simp only [bind_assoc]
  refine bind_congr fun s => bind_congr fun mode => bind_congr fun tree => ?_
  refine bind_congr fun posed => bind_congr fun reason => ?_
  cases reason with
  | some reason => simp [classifyAdmitted]
  | none => simp [classifyAdmitted]

/-- The guards may have found out whether the knowledge base is there, and what is remembered may
have been forgotten; all else is the same. -/
def SameButChecked (s s' : Session) : Prop :=
  s' = { s with confirmed := s'.confirmed, cache := s'.cache }

instance : Std.Refl SameButChecked := ⟨fun _ => rfl⟩

instance : IsTrans Session SameButChecked where
  trans s s₁ s' h h' := by
    unfold SameButChecked at h h' ⊢
    rw [h', h]

theorem SameButConfirmed.checked {s s' : Session} (h : SameButConfirmed s s') :
    SameButChecked s s' := by
  rw [h]
  rfl

namespace SameButChecked

variable {s s' : Session}

theorem settings (h : SameButChecked s s') : s'.settings = s.settings := by rw [h]

theorem active (h : SameButChecked s s') : s'.active = s.active := by rw [h]

theorem deactivated (h : SameButChecked s s') : s'.deactivated = s.deactivated := by rw [h]

end SameButChecked

theorem within_admission (query : Query) : Within SameButChecked (admission query) := by
  refine within_get.bind fun s => (within_ofResult _).bind fun mode => ?_
  refine (within_of_leavesSession (resolve_leavesSession query)).bind fun tree => ?_
  refine (within_ofTree _).bind fun posed => ?_
  refine ((within_skipReason _ _).mono fun _ _ => SameButConfirmed.checked).bind fun reason => ?_
  cases reason with
  | some reason => exact within_pure _
  | none =>
    have emptied (s : Session) : SameButChecked s { s with cache := .clear } := rfl
    refine (within_modify emptied).bind fun _ => ?_
    exact (within_ofTree _).bind fun hash => within_pure _

theorem Request.IsElsewhere.spares {request : Request} (h : request.IsElsewhere) :
    request.Spares := fun call same => absurd same (h call)

/-- An admission asks the knowledge base at most whether it is there. -/
theorem asks_admission (query : Query) : Asks Request.Spares (admission query) := by
  have resolve : Asks Request.Spares query.resolve := by
    intro s t result s' run x member
    exact (elsewhere_resolve query run x member).spares
  refine asks_get.bind fun s => (asks_ofResult _).bind fun mode => resolve.bind fun tree => ?_
  refine (asks_ofTree _).bind fun posed => (asks_skipReason _ _).bind fun reason => ?_
  cases reason with
  | some reason => exact asks_pure _
  | none => exact (asks_modify _).bind fun _ => (asks_ofTree _).bind fun hash => asks_pure _

/-- **An admitted query** is classified under the mode of the settings, with its own class. -/
theorem Admission.of_runs {query : Query} {s s' : Session} {t : List Asked} {a : Admission}
    (run : Runs (admission query) s t (.ok (.ok a)) s') :
    s.settings.resolvedMode = .ok a.mode ∧ query.classIn t = some a.hash := by
  rw [admission, runs_get_bind] at run
  obtain ⟨mode, known, run⟩ | ⟨_, -, -, failed, -⟩ := runs_ofResult_bind.mp run
  swap
  · cases failed
  obtain ⟨t₁, t₂, tree, s₁, rfl, resolved, run⟩ | ⟨_, failed, -⟩ := runs_bind.mp run
  swap
  · cases failed
  obtain ⟨⟨stmt, explained⟩, posed, run⟩ | ⟨_, -, -, failed, -⟩ := runs_ofTree_bind.mp run
  swap
  · cases failed
  obtain ⟨t₃, t₄, reason, s₂, rfl, guards, run⟩ | ⟨_, failed, -⟩ := runs_bind.mp run
  swap
  · cases failed
  cases reason with
  | some reason => cases (runs_pure.mp run).2.1
  | none =>
    rw [runs_modify_bind] at run
    obtain ⟨hash, keyed, run⟩ | ⟨_, -, -, failed, -⟩ := runs_ofTree_bind.mp run
    swap
    · cases failed
    obtain ⟨-, same, -⟩ := runs_pure.mp run
    cases same
    have read : query.treeIn (t₁ ++ (t₃ ++ t₄)) = some tree :=
      Query.treeIn_append _ (Query.treeIn_of_resolve resolved)
    refine ⟨known, Option.bind_eq_some_iff.mpr ⟨tree, read, ?_⟩⟩
    rw [posed]
    show (Fingerprint.expressionKeyOf stmt).toOption = some hash
    rw [keyed]
    rfl

/-- The class that a query is admitted with is its own, whatever is exchanged later. -/
theorem Admission.classIn {query : Query} {s s' : Session} {t asked rest : List Asked}
    {a : Admission} (exchanges : t = asked ++ rest)
    (run : Runs (admission query) s asked (.ok (.ok a)) s') : query.classIn t = some a.hash := by
  obtain ⟨-, own⟩ := Admission.of_runs run
  rw [exchanges]
  exact Query.classIn_append rest own

/-! ## The whole classification -/

/-- What becomes of a query at the guards. -/
inductive Guarded (query : Query) (s : Session) (t : List Asked) :
    Except Fault Classified → Session → Prop
  /-- There is no mode or no statement, or the guards fail, or the statement has no fingerprint. -/
  | failed {s' : Session} (fault : Fault) : Runs (admission query) s t (.error fault) s' →
      Guarded query s t (.error fault) s'
  /-- A guard applies. -/
  | stopped {asked rest : List Asked} {s' : Session} (reason : SkipReason) : t = asked ++ rest →
      Runs (admission query) s asked (.ok (.error reason)) s' → (∀ x ∈ rest, x.request.Spares) →
      Guarded query s t (.ok (.passedOver 0)) s'
  /-- No guard applies, and the class of the query is looked at. -/
  | admitted {asked rest : List Asked} {s₁ s' : Session} {result : Except Fault Classified}
      (a : Admission) : t = asked ++ rest → Runs (admission query) s asked (.ok (.ok a)) s₁ →
      Runs (classifyHash a.mode a.hash a.explained query.text) s₁ rest result s' →
      Guarded query s t result s'

/-- **Every classification** ends at the guards, or goes on with an admitted query. -/
theorem Guarded.of_runs {query : Query} {s s' : Session} {t : List Asked}
    {result : Except Fault Classified} (run : Runs (classify query) s t result s') :
    Guarded query s t result s' := by
  rw [classify_eq] at run
  obtain ⟨asked, rest, decided, s₁, rfl, admitting, goesOn⟩ | ⟨fault, rfl, failed⟩ :=
    runs_bind.mp run
  swap
  · exact .failed fault failed
  cases decided with
  | ok a => exact .admitted a rfl admitting goesOn
  | error reason =>
    have spared := (asks_logClassification _).bind (fun _ => asks_pure _) goesOn
    have kept : s₁ = s' := (within_logClassification _).bind (fun _ => within_pure _) goesOn
    obtain ⟨_, last⟩ := runs_logClassification_bind goesOn
    obtain ⟨-, rfl, -⟩ := runs_pure.mp last
    rw [kept] at admitting
    exact .stopped reason rfl admitting spared

/-- A query that is admitted with the first of its exchanges goes on from there. -/
theorem Guarded.goesOn {query : Query} {s s₁ s' : Session} {asked rest : List Asked}
    {result : Except Fault Classified} {a : Admission}
    (admitted : Runs (admission query) s asked (.ok (.ok a)) s₁)
    (run : Runs (classify query) s (asked ++ rest) result s') :
    Runs (classifyHash a.mode a.hash a.explained query.text) s₁ rest result s' := by
  -- The replies determine the admission, so it is the one that the classification begins with.
  cases Guarded.of_runs run with
  | failed fault failed =>
    have same := admitted.unique failed (List.append_nil _).symm
    cases same.2.1
  | stopped reason exchanges stopped _ =>
    have same := admitted.unique stopped exchanges
    cases same.2.1
  | admitted b exchanges other goesOn =>
    obtain ⟨rfl, same, rfl⟩ := admitted.unique other exchanges
    cases same
    rwa [List.append_cancel_left exchanges]

end CardinalityAdvisor
