import CardinalityAdvisor.Proofs.Planning.Sites

/-!
# What a host's planner asks of hooks

A host's planner asks for an estimate at one of the five places, from any chain of hooks, or has a
staged estimate handed over. Whatever it asks is a part of a run of planning calls: selectivities
are looked up while the current policy uses predictions, and besides that only what the planner
keeps is changed. So hooks may be asked at any moment of a run, and what is shown of runs holds for
them. The knowledge base is asked for samples and for nothing else, so a hook never changes what is
stored, and it never waits for the lock of a class.

## Main definitions

* `Site.stagers`: the hooks of a chain that may stage an estimate at a place
* `HookCall action`: an action is one of a cardinality hook

## Main results

* `hookPart_of_hookCall`: such an action is put together from what hooks do
* `planned_of_hookCall`: it is a part of a run
* `asks_of_hookCall`: it asks nothing else than hooks ask
* `confined_estimate`: an estimate writes its record on the relation of its place
-/

namespace CardinalityAdvisor

open CardinalityAdvisor.Action

variable {A : Asked → Prop} {P : Fault → Prop} {on : Bool} {α : Type} {action : Action α}

/-- The hooks of a chain that may stage an estimate at a place. -/
def Site.stagers : Site → Estimator → List String
  | .filteredBase _ _, e | .filteredJoin _ _ _ _ _, e => e.hookNames
  | _, _ => []

/-- An estimate at any of the five places is put together from what hooks do. -/
theorem Site.hookPart_estimate (tells : Tells A P) (trees : ∀ cause, P (.tree cause)) (site : Site)
    (e : Estimator) : HookPart A P (Writes site.target (site.stagers e)) on (site.estimate e) := by
  have rows {W : Session → Session → Prop} (id : RelationId) : HookPart A P W on (rowsOf id) :=
    .bind (.consult .get) fun _ => .consult (.pure _)
  cases site with
  | base id => exact .bind (e.hookPart_baseRows tells trees id) fun _ => rows id
  | filteredBase id clauses =>
    exact e.hookPart_filteredBaseRows tells trees id clauses (List.Subset.refl _)
  | join id outer inner type clauses =>
    exact .bind (e.hookPart_joinRows tells trees id outer inner type clauses) fun _ => rows id
  | filteredJoin id outer inner type clauses =>
    exact e.hookPart_filteredJoinRows tells trees id outer inner type clauses (List.Subset.refl _)
  | groups g flags =>
    exact .bind (e.hookPart_groups tells trees g flags) fun _ => .consult (.pure _)

/-- **An estimate** writes its record on the relation of its place, and only estimates of filtered
rows are staged. -/
theorem confined_estimate (site : Site) (e : Estimator) :
    Within (Confined site.target (site.stagers e)) (site.estimate e) := by
  have part : HookPart (fun _ => True) (fun _ => True) (Writes site.target (site.stagers e)) false
      (site.estimate e) := site.hookPart_estimate tells_anything (fun _ => trivial) e
  exact part.within (fun _ _ written => written.toConfined)
    fun _ _ => remembers_collect.mono fun _ _ same => same.confined _ _

/-- What a host's planner asks of hooks: an estimate at one of the five places, from any chain of
hooks, or that a staged estimate is handed over. -/
inductive HookCall : {α : Type} → Action α → Prop
  | estimate (site : Site) (e : Estimator) : HookCall (site.estimate e)
  | attach (hook : Hook) (id : ParameterizationId) : HookCall (hook.attach id)

/-- **Whatever a host's planner asks of hooks** is put together from what hooks do. -/
theorem hookPart_of_hookCall (tells : Tells A P) (trees : ∀ cause, P (.tree cause))
    (call : HookCall action) : HookPart A P SamePlanning on action := by
  cases call with
  | estimate site e =>
    exact (site.hookPart_estimate tells trees e).mono fun _ _ written => written.toSamePlanning
  | attach hook id =>
    refine .bind (.consult .get) fun _ => .bind ?_ fun _ => .ifPredicting ?_ ?_
    all_goals exact .modify fun _ => ⟨⟨rfl, rfl, rfl⟩, rfl, rfl⟩

/-- Whatever is replied and however it fails, the current policy need not use predictions. -/
theorem HookCall.part (call : HookCall action) :
    HookPart (fun _ => True) (fun _ => True) SamePlanning false action :=
  hookPart_of_hookCall tells_anything (fun _ => trivial) call

/-- **What is asked of hooks** is a part of a run in which no classification fails, and that leaves
the planning calls in progress as they are. -/
theorem planned_of_hookCall {s s' : Session} {t : List Asked} {result : Except Fault α}
    (call : HookCall action) (run : Runs action s t result s') :
    SameCalls s s' ∧ PlannedBy Event.Classifies s s' := by
  obtain ⟨same, planned⟩ := call.part.planned (fun _ _ arranged => arranged) run
  exact ⟨same, planned Bool.noConfusion⟩

/-- Of the knowledge base, hooks ask for nothing else than samples. -/
theorem asks_of_hookCall (call : HookCall action) : Asks Request.OfHook action := call.part.asks

end CardinalityAdvisor
