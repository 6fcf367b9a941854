import CardinalityAdvisor.Proofs.Planning.Chains

/-!
# Hooks at a grouping

A hook finds the key of the input of a grouping, looks one sample up, and lets the estimator behind
it decide if the sample stands for no number of groups.

## Main definitions

* `Hook.consultGroups`: what a hook does before it decides
* `storedGroups`, `groupsAnswer`: the number of groups by a stored sample
* `Hook.ConsultsGroups`, `Hook.LooksUpGroups`: how a hook is consulted for a grouping

## Main results

* `Site.runs_groups_hooked`: a hook is consulted, and then decides
* `lookedUp_of_runs`, `exists_consultGroups`: what the consultation is, and that it ends
-/

namespace CardinalityAdvisor

open CardinalityAdvisor.Action

variable {s s' : Session} {t : List Asked}

/-- A hook finds the key of a grouping and looks its sample up. -/
def Hook.lookUpGroups (hook : Hook) (g : Estimator.Grouping) : Action (Int × Option Float) := do
  let inputKey ← hook.inputKey ((← get).memory.paths g.input)
  let key ← Action.ofTree (Fingerprint.groupKeyOf inputKey g.exprs)
  return (key, ← predictGroups hook.log (← get).current.spaceHash key)

/-- A hook looks the sample of a grouping up. It warns if it stands in front of another one. -/
def Hook.consultGroups (hook : Hook) (g : Estimator.Grouping) : Action (Int × Option Float) := do
  if hook.replaces then
    Action.ask (.warn "Replacing a previously installed estimator of the number of groups")
  hook.lookUpGroups g

/-- The estimate of a hook that has looked up the sample of a grouping. -/
def Site.decideGroups (g : Estimator.Grouping) (flags : Option Int) (behind : Estimator)
    (key : Int) : Option Float → Action Float
  | some rows => do
    adopt g.relation ⟨rows, key⟩
    return rows
  | none => do
    annotate g.relation (.unpredicted key)
    (Site.groups g flags).estimate behind

theorem Site.runs_groups_hooked {g : Estimator.Grouping} {flags : Option Int} {hook : Hook}
    {behind : Estimator} {result : Except Fault Float} (on : Predicts s)
    (supported : g.unsupported = false) :
    Runs ((Site.groups g flags).estimate (.hooked hook behind)) s t result s' ↔
      Runs (hook.consultGroups g >>= fun found =>
        Site.decideGroups g (flags.map fun _ => 0) behind found.1 found.2) s t result s' := by
  have on : s.current.usePrediction = true := on
  have decided (key : Int) (answer : Option Float) :
    (do
      let found ← (match answer with
        | some rows => do
          adopt g.relation ⟨rows, key⟩
          return (rows, flags.map fun _ => 0)
        | none => do
          annotate g.relation (.unpredicted key)
          behind.groups g (flags.map fun _ => 0) : Action (Float × Option Int))
      return found.1) = Site.decideGroups g (flags.map fun _ => 0) behind key answer := by
    cases answer with
    | some rows => rfl
    | none => rfl
  simp only [estimate, Estimator.groups, Hook.consultGroups,
    Hook.lookUpGroups, bind_assoc, runs_predicting_bind, on, supported, Bool.not_true,
    Bool.false_eq_true, if_false]
  -- Both sides ask for the same, so only what they decide with the answer is compared.
  refine iff_of_eq (congrArg (Runs · s t result s') ?_)
  cases hook.replaces with
  | true =>
    simp only [if_true, bind_assoc, pure_bind]
    refine bind_congr fun _ => bind_congr fun _ => bind_congr fun _ => bind_congr fun _ => ?_
    exact bind_congr fun _ => bind_congr fun answer => decided _ answer
  | false =>
    simp only [Bool.false_eq_true, if_false, bind_assoc, pure_bind]
    refine bind_congr fun _ => bind_congr fun _ => bind_congr fun _ => ?_
    exact bind_congr fun _ => bind_congr fun answer => decided _ answer

/-! ## Keys of inputs -/

/-- The key of the input of a grouping is that of the prediction for its relation, or else the
hook consults its predictor to find it. -/
def Hook.FindsKey (hook : Hook) (t : List Asked) (key : Int) : Prop :=
  (t = [] ∧ ∃ r : Relation, r.hasPrediction = true ∧ key = r.mark.sampleKey) ∨
    ∃ request p s, Runs (hook.consult request) s t (.ok p) s ∧ key = p.sampleKey

theorem runs_inputKey {hook : Hook} {input : Path} {key : Int}
    (run : Runs (hook.inputKey input) s t (.ok key) s') :
    hook.FindsKey (consultations t) key ∧ SameButRemembered s s' := by
  rw [Hook.inputKey, runs_get_bind] at run
  dsimp only at run
  split at run
  · rename_i predicted
    obtain ⟨rfl, same, rfl⟩ := runs_pure.mp run
    cases same
    exact ⟨.inl ⟨rfl, _, predicted, rfl⟩, refl_of _ _⟩
  obtain ⟨t₁, t₂, record, s₁, rfl, made, run⟩ | ⟨_, failed, -⟩ := runs_bind.mp run
  swap
  · cases failed
  have source := runs_pathRecord.mp made
  obtain ⟨t₂, _, handed, s₂, rfl, predicted, last⟩ | ⟨_, failed, -⟩ := runs_bind.mp run
  swap
  · cases failed
  obtain ⟨rfl, same, rfl⟩ := runs_pure.mp last
  cases same
  obtain rfl := leavesSession_predict hook record predicted
  refine ⟨?_, (s.memory.pathSource input).remembers source⟩
  obtain ⟨_, failed, -⟩ | ⟨p, _, consulted, same, keys, -⟩ := runs_predict predicted
  · cases failed
  cases same
  rw [List.append_nil, consultations_append, consultations_of_record source, List.nil_append]
  exact .inr ⟨_, p, _, consulted, keys⟩

/-- The key of an input is always found, if its clauses have fingerprints. -/
theorem exists_inputKey {hook : Hook} {input : Path} {result : Except Fault Int}
    (all : (s.memory.pathSource input).Fingerprinted)
    (run : Runs (hook.inputKey input) s t result s') (answers : ∀ x ∈ t, x.Answers) :
    ∃ key, result = .ok key := by
  rw [Hook.inputKey, runs_get_bind] at run
  dsimp only at run
  split at run
  · exact ⟨_, (runs_pure.mp run).2.1⟩
  obtain ⟨t₁, t₂, record, s₁, rfl, made, run⟩ | ⟨_, rfl, failed⟩ := runs_bind.mp run
  swap
  · obtain ⟨_, same⟩ := RecordSource.exists_record all (runs_pathRecord.mp failed) answers
    cases same
  obtain ⟨t₂, t₃, handed, s₂, rfl, predicted, last⟩ | ⟨_, rfl, failed⟩ := runs_bind.mp run
  swap
  · refine ((Consults.predict Asked.answers_tells hook record).failsWith failed ?_).elim
    exact fun x member => answers x (List.mem_append_right _ member)
  exact ⟨_, (runs_pure.mp last).2.1⟩

/-! ## Samples of groups -/

/-- The number of groups that a reply of the knowledge base stands for, nothing if no sample was
loaded or the sample has not exactly one row. -/
def storedGroups : Except Fault (Option Sample) → Except Fault (Option Float)
  | .ok (some sample) =>
    if sample.count = 1 then
      (fun groups => if groups > 0 then some groups else none) <$> exponential sample.target
    else .ok none
  | _ => .ok none

/-- The number of groups by a stored sample, unless there is none or it stands for nothing. -/
def groupsAnswer (reply : Except Fault (Option Sample)) : Option Float :=
  (storedGroups reply).toOption.join

/-- **The sample of a grouping** is looked up once, and the answer is what it stands for. Only that
the knowledge base is unavailable is not handed on. -/
theorem runs_predictGroups {hook : Hook} {space key : Int} {result : Except Fault (Option Float)}
    (run : Runs (predictGroups hook.log space key) s t result s') :
    s' = s ∧ ∃ reply, consultations t = [⟨.knowledge (.loadSample space key), reply⟩] ∧
      (result = storedGroups reply ∨
        ∃ fault, reply = .error fault ∧ ¬ fault.IsUnavailable ∧ result = .error fault) := by
  obtain rfl : s = s' := leavesSession_predictGroups hook space key run
  obtain ⟨reply, rest, rfl, decided⟩ := runs_knowledge_bind.mp run
  suffices found : consultations rest = [] ∧ (result = storedGroups reply ∨
      ∃ fault, reply = .error fault ∧ ¬ fault.IsUnavailable ∧ result = .error fault) by
    refine ⟨rfl, reply, ?_, found.2⟩
    show _ :: consultations rest = _
    rw [found.1]
  split at decided
  · obtain ⟨nothing, ended, -⟩ := runs_hookLog_bind decided
    exact ⟨nothing, .inl ended⟩
  · rename_i fault other
    obtain ⟨rfl, rfl, -⟩ := runs_throw.mp decided
    refine ⟨rfl, .inr ⟨fault, rfl, ?_, rfl⟩⟩
    rintro ⟨cause, rfl⟩
    exact other cause rfl
  · obtain ⟨rfl, ended, -⟩ := runs_pure.mp decided
    exact ⟨rfl, .inl ended⟩
  · rename_i sample
    by_cases single : sample.count = 1
    · rw [storedGroups, if_pos single]
      rw [if_neg (not_not_intro single)] at decided
      obtain ⟨groups, value, last⟩ | ⟨fault, value, rfl, rfl, -⟩ := runs_ofResult_bind.mp decided
      · obtain ⟨nothing, ended, -⟩ := runs_hookLog_bind last
        rw [value]
        exact ⟨nothing, .inl ended⟩
      · rw [value]
        exact ⟨rfl, .inl rfl⟩
    · rw [storedGroups, if_neg single]
      rw [if_pos single] at decided
      obtain ⟨_, _, rfl, last⟩ := runs_ask_bind.mp decided
      obtain ⟨rfl, ended, -⟩ := runs_pure.mp last
      exact ⟨rfl, .inl ended⟩

/-! ## Groupings -/

theorem groupKey_of_groupKeyOf {inputKey key : Int} {exprs : List Json}
    (h : Fingerprint.groupKeyOf inputKey exprs = .ok key) :
    key = Fingerprint.groupKey inputKey exprs := by
  rw [Fingerprint.groupKeyOf] at h
  cases checked : exprs.forM Json.checkCasts with
  | error fault =>
    rw [checked] at h
    cases h
  | ok _ =>
    rw [checked] at h
    cases h
    rfl

theorem exists_groupKeyOf (inputKey : Int) {exprs : List Json}
    (h : ∀ expr ∈ exprs, expr.isReadable = true) :
    ∃ key, Fingerprint.groupKeyOf inputKey exprs = .ok key := by
  have checked : exprs.forM Json.checkCasts = .ok () := by
    induction exprs with
    | nil => rfl
    | cons expr rest ih =>
      obtain ⟨first, later⟩ := List.forall_mem_cons.mp h
      show (expr.checkCasts >>= fun _ => rest.forM Json.checkCasts) = .ok ()
      rw [Json.checkCasts, if_pos first]
      exact ih later
  refine ⟨Fingerprint.groupKey inputKey exprs, ?_⟩
  rw [Fingerprint.groupKeyOf, checked]
  rfl

variable {hook : Hook} {g : Estimator.Grouping}

/-- How a hook is consulted for a grouping: it finds the key of the input and looks up one sample,
and its answer is that of the sample. -/
def Hook.ConsultsGroups (hook : Hook) (g : Estimator.Grouping) (space : Int) (t : List Asked)
    (answer : Option Float) : Prop :=
  ∃ t₁ inputKey reply, hook.FindsKey t₁ inputKey ∧
    t = t₁ ++ [⟨.knowledge (.loadSample space (Fingerprint.groupKey inputKey g.exprs)), reply⟩] ∧
    answer = groupsAnswer reply

/-- The same, with the key of the grouping. -/
def Hook.LooksUpGroups (hook : Hook) (g : Estimator.Grouping) (space : Int) (t : List Asked)
    (key : Int) (answer : Option Float) : Prop :=
  ∃ t₁ inputKey reply, hook.FindsKey t₁ inputKey ∧ key = Fingerprint.groupKey inputKey g.exprs ∧
    t = t₁ ++ [⟨.knowledge (.loadSample space key), reply⟩] ∧ answer = groupsAnswer reply

theorem Hook.LooksUpGroups.consults {space key : Int} {answer : Option Float}
    (h : hook.LooksUpGroups g space t key answer) : hook.ConsultsGroups g space t answer := by
  obtain ⟨t₁, inputKey, reply, found, rfl, asked, answered⟩ := h
  exact ⟨t₁, inputKey, reply, found, asked, answered⟩

/-- A warning is no consultation. -/
theorem runs_consultGroups {result : Except Fault (Int × Option Float)} :
    Runs (hook.consultGroups g) s t result s' →
      ∃ t₀ t', t = t₀ ++ t' ∧ consultations t₀ = [] ∧
        Runs (hook.lookUpGroups g) s t' result s' := by
  intro run
  unfold Hook.consultGroups at run
  split at run
  · obtain ⟨_, rest, rfl, goesOn⟩ := runs_ask_bind.mp run
    exact ⟨[_], rest, rfl, rfl, goesOn⟩
  · exact ⟨[], t, rfl, rfl, run⟩

/-- **A hook that has looked up** the sample of a grouping did so under the key of the grouping, and
changed nothing but what is remembered. -/
theorem lookedUp_of_runs {key : Int} {answer : Option Float}
    (run : Runs (hook.consultGroups g) s t (.ok (key, answer)) s') :
    SameButRemembered s s' ∧
      hook.LooksUpGroups g s.current.spaceHash (consultations t) key answer := by
  obtain ⟨t₀, t', rfl, quiet, looksUp⟩ := runs_consultGroups run
  rw [consultations_append, quiet, List.nil_append]
  rw [Hook.lookUpGroups, runs_get_bind] at looksUp
  obtain ⟨t₁, t₂, inputKey, s₁, rfl, finds, looksUp⟩ | ⟨_, failed, -⟩ := runs_bind.mp looksUp
  swap
  · cases failed
  obtain ⟨found, remembers⟩ := runs_inputKey finds
  obtain ⟨key', same, looksUp⟩ | ⟨_, -, -, failed, -⟩ := runs_ofTree_bind.mp looksUp
  swap
  · cases failed
  obtain rfl := groupKey_of_groupKeyOf same
  rw [runs_get_bind, remembers.current] at looksUp
  obtain ⟨t₂, _, answer', s₂, rfl, looked, last⟩ | ⟨_, failed, -⟩ := runs_bind.mp looksUp
  swap
  · cases failed
  obtain ⟨rfl, same, rfl⟩ := runs_pure.mp last
  cases same
  obtain ⟨rfl, reply, own, stored | ⟨_, -, -, failed⟩⟩ := runs_predictGroups looked
  swap
  · cases failed
  refine ⟨remembers, _, inputKey, reply, found, rfl, ?_, ?_⟩
  · rw [consultations_append, List.append_nil, own]
  · rw [groupsAnswer, ← stored]
    rfl

theorem consulted_of_runs {key : Int} {answer : Option Float}
    (run : Runs (hook.consultGroups g) s t (.ok (key, answer)) s') :
    SameButRemembered s s' ∧
      hook.ConsultsGroups g s.current.spaceHash (consultations t) answer :=
  (lookedUp_of_runs run).imp_right Hook.LooksUpGroups.consults

/-- The sample of a grouping is always looked up, if the clauses of the input have fingerprints and
the expressions canonical forms. -/
theorem exists_consultGroups {result : Except Fault (Int × Option Float)}
    (all : (s.memory.pathSource (s.memory.paths g.input)).Fingerprinted)
    (readable : ∀ expr ∈ g.exprs, expr.isReadable = true)
    (run : Runs (hook.consultGroups g) s t result s') (answers : ∀ x ∈ t, x.Answers) :
    ∃ found, result = .ok found := by
  obtain ⟨t₀, t', rfl, -, looksUp⟩ := runs_consultGroups run
  replace answers := fun x member => answers x (List.mem_append_right _ member)
  rw [Hook.lookUpGroups, runs_get_bind] at looksUp
  obtain ⟨t₁, t₂, inputKey, s₁, rfl, finds, looksUp⟩ | ⟨_, rfl, finds⟩ := runs_bind.mp looksUp
  swap
  · obtain ⟨_, same⟩ := exists_inputKey all finds answers
    cases same
  obtain ⟨key, same⟩ := exists_groupKeyOf inputKey readable
  rw [same] at looksUp
  refine FailsWith.exists_ok ?_ looksUp fun x member => answers x (List.mem_append_right _ member)
  refine (failsWith_ofResult (by rintro _ ⟨⟩)).bind fun _ => failsWith_get.bind fun _ => ?_
  refine FailsWith.bind ?_ fun _ => failsWith_pure _
  exact (Consults.predictGroups Asked.answers_tells hook _ _).failsWith

end CardinalityAdvisor
