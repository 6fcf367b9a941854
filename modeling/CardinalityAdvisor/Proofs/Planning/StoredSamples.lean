import CardinalityAdvisor.Proofs.Planning.Answers

/-!
# Estimates by stored samples

A hook with a predictor of stored samples loads one sample at every place, and a second one for the
input of a grouping. A sample that stands for no cardinality is passed over, and so is a knowledge
base that is unavailable. Only a sample whose cardinality exceeds the largest number stops the
estimate with a fault.

## Main definitions

* `Asked.Served x`: the host answers, and a knowledge base is at most unavailable
* `storedRows`, `Site.stored`: what a reply of the knowledge base stands for
* `Asked.Overflows x`: a sample was loaded whose cardinality exceeds the largest number
* `Site.BySamples`: how an estimate by stored samples ends, with what is consulted for it

## Main results

* `overflow_of_sampleRows`, `overflow_of_exponential`: which samples have no cardinality
* `bySamples_of_runs`: how an estimate by stored samples ends
* `estimate_unless_overflow`: there is an estimate unless a sample overflows
-/

namespace CardinalityAdvisor

open CardinalityAdvisor.Action

variable {s s' : Session} {t : List Asked}

/-! ## Samples and what they stand for -/

/-- The host answers what it is asked, and a knowledge base fails only because it is unavailable.
Whatever samples it holds, it may reply. -/
def Asked.Served : Asked → Prop
  | ⟨.selectivity _ _, reply⟩ | ⟨.native _ _, reply⟩ => ∃ rows, reply = .ok rows
  | ⟨.knowledge (.loadSample _ _), reply⟩ => ∀ fault, reply = .error fault → fault.IsUnavailable
  | _ => True

/-- The rows that a reply of the knowledge base stands for, nothing if no sample was loaded. -/
def storedRows : Except Fault (Option Sample) → Except Fault (Option Float)
  | .ok (some sample) => sampleRows sample
  | _ => .ok none

/-- What a reply of the knowledge base stands for at a place. -/
def Site.stored : Site → Except Fault (Option Sample) → Except Fault (Option Float)
  | .groups _ _ => storedGroups
  | _ => storedRows

/-- A sample was loaded that has rows, and the exponential of its target exceeds the largest
number. -/
def Asked.Overflows : Asked → Prop
  | ⟨.knowledge (.loadSample _ _), reply⟩ => ∃ sample : Sample, reply = .ok (some sample) ∧
      0 < sample.count ∧ largestExponent < sample.target ∧ sample.target.isInf = false
  | _ => False

/-- A sample was asked for under a key, with the reply of the knowledge base. -/
def loaded (space key : Int) (reply : Except Fault (Option Sample)) : Asked :=
  ⟨.knowledge (.loadSample space key), reply⟩

/-- Only the exponential of a finite number above the largest exponent is no number. -/
theorem overflow_of_exponential {x : Float} {fault : Fault} (h : exponential x = .error fault) :
    fault = .overflow ∧ largestExponent < x ∧ x.isInf = false := by
  unfold exponential at h
  split at h
  · rename_i exceeds
    rw [Bool.and_eq_true, decide_eq_true_eq, Bool.not_eq_true'] at exceeds
    cases h
    exact ⟨rfl, exceeds⟩
  · cases h

theorem overflow_of_sampleRows {sample : Sample} {fault : Fault}
    (h : sampleRows sample = .error fault) : fault = .overflow ∧ 0 < sample.count ∧
      largestExponent < sample.target ∧ sample.target.isInf = false := by
  unfold sampleRows at h
  split at h
  · cases h
  · rename_i counted
    cases value : exponential sample.target with
    | ok rows =>
      rw [value] at h
      cases h
    | error other =>
      rw [value] at h
      cases h
      obtain ⟨overflow, exceeds⟩ := overflow_of_exponential value
      exact ⟨overflow, by omega, exceeds⟩

/-- One number is below another if their parts compare so. -/
theorem lt_iff_unpack (x y : Float) : x < y ↔ x.toModel.unpack.lt y.toModel.unpack = true :=
  decide_eq_true_iff

/-- A number below zero is below one. -/
theorem lt_one_of_lt_zero {x : Float} (h : x < 0) : x < 1 := by
  have zero : (0 : Float).toModel.unpack = .zero .positive := rfl
  obtain ⟨m, e, pos, one⟩ : ∃ m e pos, (1 : Float).toModel.unpack = .finite .positive m e pos :=
    ⟨_, _, _, rfl⟩
  rw [lt_iff_unpack, zero] at h
  rw [lt_iff_unpack, one]
  revert h
  cases x.toModel.unpack with
  | infinity sign => cases sign <;> exact id
  | notANumber => exact id
  | zero sign => exact nofun
  | finite sign =>
    cases sign with
    | positive => exact nofun
    | negative => exact id

/-- The rows that a sample stands for are no refusal. -/
theorem answer_of_sampleRows {sample : Sample} {rows : Float} {key : Int}
    (h : sampleRows sample = .ok (some rows)) :
    Prediction.answer ⟨rows, key⟩ = some rows := by
  have least (x : Float) : ¬larger x 1 < 0 := by
    intro negative
    unfold larger at negative
    split at negative
    · revert negative
      decide +kernel
    · rename_i notBelow
      exact notBelow (lt_one_of_lt_zero negative)
  unfold sampleRows at h
  split at h
  · cases h
  · cases value : exponential sample.target with
    | error fault =>
      rw [value] at h
      cases h
    | ok x =>
      rw [value] at h
      cases h
      rw [Prediction.answer, Prediction.isRefusal, decide_eq_false (least x)]
      rfl

/-! ## Lookups of samples -/

/-- A prediction is what a reply of the knowledge base stands for. -/
def PredictedFrom (reply : Except Fault (Option Sample)) (result : Except Fault Prediction) :
    Prop :=
  (∃ fault, storedRows reply = .error fault ∧ result = .error fault) ∨
    ∃ p, storedRows reply = .ok p.answer ∧ result = .ok p

section Lookups

variable {hook : Hook}

/-- A predictor of stored samples loads one sample, and answers what it stands for. -/
theorem runs_consult_stored {request : PredictionRequest} {result : Except Fault Prediction}
    (stored : hook.predictor = .stored) (run : Runs (hook.consult request) s t result s')
    (served : ∀ x ∈ t, x.Served) :
    ∃ reply, t = [loaded request.space request.sampleKey reply] ∧
      PredictedFrom reply result := by
  have refused : (Prediction.refused request.sampleKey).answer = none := by
    rw [Prediction.answer, refused_isRefusal, if_pos rfl]
  rw [Hook.consult, stored] at run
  obtain ⟨reply, rest, rfl, decided⟩ := runs_knowledge_bind.mp run
  obtain ⟨first, -⟩ := List.forall_mem_cons.mp served
  refine ⟨reply, ?_⟩
  split at decided
  · obtain ⟨rfl, rfl, -⟩ := runs_pure.mp decided
    exact ⟨rfl, .inr ⟨_, by rw [refused]; rfl, rfl⟩⟩
  · obtain ⟨rfl, rfl, -⟩ := runs_pure.mp decided
    exact ⟨rfl, .inr ⟨_, by rw [refused]; rfl, rfl⟩⟩
  · rename_i fault _ other
    obtain ⟨cause, rfl⟩ := first _ rfl
    exact absurd rfl (other cause)
  · rename_i sample
    obtain ⟨rows, value, last⟩ | ⟨fault, value, rfl, rfl, -⟩ := runs_ofResult_bind.mp decided
    swap
    · exact ⟨rfl, .inl ⟨fault, value, rfl⟩⟩
    split at last
    · rename_i rows
      obtain ⟨rfl, rfl, -⟩ := runs_pure.mp last
      exact ⟨rfl, .inr ⟨_, by rw [answer_of_sampleRows value]; exact value, rfl⟩⟩
    · obtain ⟨rfl, rfl, -⟩ := runs_pure.mp last
      exact ⟨rfl, .inr ⟨_, by rw [refused]; exact value, rfl⟩⟩

/-- A hook hands that answer on. -/
theorem runs_predict_stored {record : ClauseRecord} {result : Except Fault Prediction}
    (stored : hook.predictor = .stored) (run : Runs (hook.predict record) s t result s')
    (served : ∀ x ∈ t, x.Served) :
    ∃ key reply, consultations t = [loaded s.current.spaceHash key reply] ∧
      PredictedFrom reply result := by
  obtain ⟨fault, rfl, failed⟩ | ⟨p, handed, consulted, rfl, -, answer⟩ := runs_predict run
  · obtain ⟨reply, asked, ended⟩ := runs_consult_stored stored failed served
    have own := consultations_eq_self (asks_consult hook _ failed)
    refine ⟨_, reply, own.trans asked, ?_⟩
    obtain failed | ⟨_, -, ⟨⟩⟩ := ended
    exact .inl failed
  · have served : ∀ x ∈ consultations t, x.Served :=
      fun x member => served x (List.mem_of_mem_filter member)
    obtain ⟨reply, asked, ended⟩ := runs_consult_stored stored consulted served
    refine ⟨_, reply, asked, ?_⟩
    obtain ⟨_, -, ⟨⟩⟩ | ⟨_, value, ⟨⟩⟩ := ended
    exact .inr ⟨handed, by rw [answer, value], rfl⟩

/-- What was asked of the host while a record was made is answered. -/
theorem answers_of_record {source : RecordSource} {result : Except Fault ClauseRecord}
    (run : Runs source.record s t result s') (served : ∀ x ∈ t, x.Served) :
    ∀ x ∈ t, x.Answers := by
  rintro ⟨request, reply⟩ member
  obtain ⟨restriction, join, rfl⟩ : request.IsSelectivity := source.asks_record run _ member
  exact served _ member

/-- The key of the input of a grouping is found without a sample, or one is loaded for it. -/
theorem runs_inputKey_stored {path : Path} {result : Except Fault Int}
    (stored : hook.predictor = .stored) (all : (s.memory.pathSource path).Fingerprinted)
    (run : Runs (hook.inputKey path) s t result s') (served : ∀ x ∈ t, x.Served) :
    (consultations t = [] ∧ ∃ key, result = .ok key) ∨
      ∃ key reply, consultations t = [loaded s.current.spaceHash key reply] ∧
        ((∃ fault, storedRows reply = .error fault ∧ result = .error fault) ∨
          ∃ worth key, storedRows reply = .ok worth ∧ result = .ok key) := by
  rw [Hook.inputKey, runs_get_bind] at run
  dsimp only at run
  split at run
  · obtain ⟨rfl, rfl, -⟩ := runs_pure.mp run
    exact .inl ⟨rfl, _, rfl⟩
  right
  obtain ⟨t₁, t₂, record, s₁, rfl, made, run⟩ | ⟨_, rfl, failed⟩ := runs_bind.mp run
  swap
  · have failed := runs_pathRecord.mp failed
    obtain ⟨_, same⟩ := RecordSource.exists_record all failed (answers_of_record failed served)
    cases same
  have source := runs_pathRecord.mp made
  replace served := fun x member => served x (List.mem_append_right _ member)
  rw [consultations_append, consultations_of_record source, List.nil_append,
    ← ((s.memory.pathSource path).remembers source).current]
  obtain ⟨t₂, _, p, s₂, rfl, predicted, last⟩ | ⟨fault, rfl, failed⟩ := runs_bind.mp run
  · obtain ⟨rfl, rfl, -⟩ := runs_pure.mp last
    rw [List.append_nil] at served ⊢
    obtain ⟨key, reply, asked, ended⟩ := runs_predict_stored stored predicted served
    obtain ⟨_, -, ⟨⟩⟩ | ⟨_, value, -⟩ := ended
    exact ⟨key, reply, asked, .inr ⟨_, _, value, rfl⟩⟩
  · obtain ⟨key, reply, asked, ended⟩ := runs_predict_stored stored failed served
    obtain ⟨_, value, ⟨⟩⟩ | ⟨_, -, ⟨⟩⟩ := ended
    exact ⟨key, reply, asked, .inl ⟨fault, value, rfl⟩⟩

/-- The number of groups is what the sample stands for. -/
theorem runs_predictGroups_stored {space key : Int} {result : Except Fault (Option Float)}
    (run : Runs (predictGroups hook.log space key) s t result s') (served : ∀ x ∈ t, x.Served) :
    ∃ reply, consultations t = [loaded space key reply] ∧
      result = storedGroups reply := by
  obtain ⟨-, reply, asked, same | ⟨fault, rfl, other, -⟩⟩ := runs_predictGroups run
  · exact ⟨reply, asked, same⟩
  · have member : loaded space key (.error fault) ∈ consultations t := by simp [asked, loaded]
    exact absurd (served _ (List.mem_of_mem_filter member) fault rfl) other

/-- How the sample of a grouping is looked up: after a lookup for the input or none, or not at all
because the sample of the input overflows. -/
def LooksUpSamples (space : Int) (t : List Asked) (result : Except Fault (Int × Option Float)) :
    Prop :=
  (∃ before key reply, consultations t = before ++ [loaded space key reply] ∧
    (before = [] ∨ ∃ key reply worth, before = [loaded space key reply] ∧
      storedRows reply = .ok worth) ∧
    ((∃ fault, storedGroups reply = .error fault ∧ result = .error fault) ∨
      ∃ key answer, storedGroups reply = .ok answer ∧ result = .ok (key, answer))) ∨
  ∃ key reply fault, consultations t = [loaded space key reply] ∧
    storedRows reply = .error fault ∧ result = .error fault

theorem runs_consultGroups_stored {g : Estimator.Grouping}
    {result : Except Fault (Int × Option Float)} (stored : hook.predictor = .stored)
    (all : (s.memory.pathSource (s.memory.paths g.input)).Fingerprinted)
    (readable : ∀ expr ∈ g.exprs, expr.isReadable = true)
    (run : Runs (hook.consultGroups g) s t result s') (served : ∀ x ∈ t, x.Served) :
    LooksUpSamples s.current.spaceHash t result := by
  obtain ⟨t₀, t', rfl, quiet, looksUp⟩ := runs_consultGroups run
  replace served := fun x member => served x (List.mem_append_right _ member)
  rw [LooksUpSamples, consultations_append, quiet, List.nil_append]
  rw [Hook.lookUpGroups, runs_get_bind] at looksUp
  obtain ⟨t₁, t₂, inputKey, s₁, rfl, finds, looksUp⟩ | ⟨fault, rfl, failed⟩ :=
    runs_bind.mp looksUp
  swap
  · obtain ⟨-, _, ⟨⟩⟩ | ⟨key, reply, asked, ended⟩ :=
      runs_inputKey_stored stored all failed served
    obtain ⟨_, value, ⟨⟩⟩ | ⟨_, _, -, ⟨⟩⟩ := ended
    exact .inr ⟨key, reply, fault, asked, value, rfl⟩
  left
  have first := runs_inputKey_stored stored all finds fun x member =>
    served x (List.mem_append_left _ member)
  have remembers := (runs_inputKey finds).2
  obtain ⟨key, same⟩ := exists_groupKeyOf inputKey readable
  rw [same] at looksUp
  obtain ⟨key, -, looksUp⟩ | ⟨_, failed, -⟩ := runs_ofTree_bind.mp looksUp
  swap
  · cases failed
  rw [runs_get_bind, remembers.current] at looksUp
  have looked : ∃ reply, consultations t₂ = [loaded s.current.spaceHash key reply] ∧
      ((∃ fault, storedGroups reply = .error fault ∧ result = .error fault) ∨
        ∃ key answer, storedGroups reply = .ok answer ∧ result = .ok (key, answer)) := by
    replace served := fun x member => served x (List.mem_append_right _ member)
    obtain ⟨t₂, t₃, answer, s₂, rfl, looked, last⟩ | ⟨fault, rfl, failed⟩ := runs_bind.mp looksUp
    · obtain ⟨rfl, rfl, -⟩ := runs_pure.mp last
      rw [List.append_nil] at served ⊢
      obtain ⟨reply, asked, value⟩ := runs_predictGroups_stored looked served
      exact ⟨reply, asked, .inr ⟨key, answer, value.symm, rfl⟩⟩
    · obtain ⟨reply, asked, value⟩ := runs_predictGroups_stored failed served
      exact ⟨reply, asked, .inl ⟨fault, value.symm, rfl⟩⟩
  obtain ⟨reply, asked, ended⟩ := looked
  refine ⟨consultations t₁, key, reply, ?_, ?_, ended⟩
  · rw [consultations_append, asked]
  · obtain ⟨nothing, -⟩ | ⟨key, reply, input, ⟨_, -, ⟨⟩⟩ | ⟨worth, _, value, -⟩⟩ := first
    · exact .inl nothing
    · exact .inr ⟨key, reply, worth, input, value⟩

end Lookups

/-! ## Estimates -/

namespace Site

/-- The sample of a place was looked up. What it stands for is the estimate, and if it stands for
nothing, the host's own estimation is asked. -/
inductive Looked (site : Site) (name : String) (space : Int) :
    List Asked → Except Fault Float → Prop
  | overflow {key : Int} {reply : Except Fault (Option Sample)} {fault : Fault} :
      site.stored reply = .error fault →
      Looked site name space [loaded space key reply] (.error fault)
  | sample {key : Int} {reply : Except Fault (Option Sample)} {rows : Float} :
      site.stored reply = .ok (some rows) →
      Looked site name space [loaded space key reply] (.ok rows)
  | native {key : Int} {reply : Except Fault (Option Sample)} {call : NativeCall} {rows : Float} :
      site.stored reply = .ok none → site.Poses call →
      Looked site name space [loaded space key reply, ⟨.native name call, .ok rows⟩] (.ok rows)

/-- How an estimate by stored samples ends, with what is consulted for it. At a grouping, a sample
may be looked up for the input before, and the estimate ends there if that one overflows. -/
inductive BySamples (site : Site) (name : String) (space : Int) :
    List Asked → Except Fault Float → Prop
  | looked {t : List Asked} {result : Except Fault Float} :
      site.Looked name space t result → BySamples site name space t result
  | input {key : Int} {reply : Except Fault (Option Sample)} {worth : Option Float}
      {t : List Asked} {result : Except Fault Float} : site.ofRows = false →
      storedRows reply = .ok worth → site.Looked name space t result →
      BySamples site name space (loaded space key reply :: t) result
  | inputOverflow {key : Int} {reply : Except Fault (Option Sample)} {fault : Fault} :
      site.ofRows = false → storedRows reply = .error fault →
      BySamples site name space [loaded space key reply] (.error fault)

variable {site : Site} {hook : Hook} {name : String} {result : Except Fault Float}

/-- The host's own estimation answers, if the host does. -/
theorem runs_native_served (run : Runs (site.estimate (.native name)) s t result s')
    (served : ∀ x ∈ t, x.Served) :
    ∃ call rows, site.Poses call ∧ t = [⟨.native name call, .ok rows⟩] ∧ result = .ok rows := by
  obtain ⟨call, posed, rfl⟩ := runs_native run
  obtain ⟨rows, rfl⟩ := served _ (List.mem_singleton_self _)
  exact ⟨call, rows, posed, rfl, rfl⟩

/-- At a relation or a join, one sample is looked up. -/
theorem looked_of_decided {record : ClauseRecord} (stored : hook.predictor = .stored)
    (ofRows : site.ofRows = true)
    (decided : Decided site hook (.native name) record s t result s')
    (served : ∀ x ∈ t, x.Served) :
    site.Looked name s.current.spaceHash (consultations t) result := by
  have own (reply : Except Fault (Option Sample)) : site.stored reply = storedRows reply := by
    cases site with
    | groups => cases ofRows
    | _ => rfl
  cases decided with
  | failed current predicted =>
    obtain ⟨key, reply, asked, ended⟩ := runs_predict_stored stored predicted served
    obtain ⟨_, value, ⟨⟩⟩ | ⟨_, -, ⟨⟩⟩ := ended
    rw [asked, current]
    exact .overflow ((own reply).trans value)
  | answered current predicted answers =>
    obtain ⟨key, reply, asked, ended⟩ := runs_predict_stored stored predicted served
    obtain ⟨_, -, ⟨⟩⟩ | ⟨_, value, ⟨⟩⟩ := ended
    rw [Prediction.answer, answers, if_neg Bool.false_ne_true] at value
    rw [asked, current]
    exact .sample ((own reply).trans value)
  | refused current predicted refuses _ goesOn =>
    obtain ⟨key, reply, asked, ended⟩ := runs_predict_stored stored predicted fun x member =>
      served x (List.mem_append_left _ member)
    obtain ⟨_, -, ⟨⟩⟩ | ⟨_, value, ⟨⟩⟩ := ended
    rw [Prediction.answer, refuses, if_pos rfl] at value
    obtain ⟨call, rows, posed, rfl, rfl⟩ := runs_native_served goesOn fun x member =>
      served x (List.mem_append_right _ member)
    rw [consultations_append, asked, current]
    exact .native ((own reply).trans value) posed

/-- At a grouping, a sample is looked up for the input and one for the groups. -/
theorem bySamples_of_groups {g : Estimator.Grouping} {flags : Option Int}
    (stored : hook.predictor = .stored) (on : Predicts s) (supported : g.unsupported = false)
    (all : (Site.groups g flags).Fingerprinted s.memory)
    (run : Runs ((Site.groups g flags).estimate (.hooked hook (.native name))) s t result s')
    (served : ∀ x ∈ t, x.Served) :
    (Site.groups g flags).BySamples name s.current.spaceHash (consultations t) result := by
  rw [runs_groups_hooked on supported] at run
  have after {before rest : List Asked}
      (input : before = [] ∨ ∃ key reply worth,
        before = [loaded s.current.spaceHash key reply] ∧ storedRows reply = .ok worth)
      (looked : (Site.groups g flags).Looked name s.current.spaceHash rest result) :
      (Site.groups g flags).BySamples name s.current.spaceHash (before ++ rest) result := by
    obtain rfl | ⟨key, reply, worth, rfl, value⟩ := input
    · exact .looked looked
    · exact .input rfl value looked
  obtain ⟨t₁, t₂, ⟨key, answer⟩, s₁, rfl, looked, decided⟩ | ⟨fault, rfl, failed⟩ :=
    runs_bind.mp run
  swap
  · obtain ⟨before, key, reply, asked, input, ended⟩ | ⟨key, reply, _, asked, value, ⟨⟩⟩ :=
      runs_consultGroups_stored stored all.source all.exprs failed served
    · obtain ⟨_, value, ⟨⟩⟩ | ⟨_, _, -, ⟨⟩⟩ := ended
      rw [asked]
      exact after input (.overflow value)
    · rw [asked]
      exact .inputOverflow rfl value
  obtain ⟨before, own, reply, asked, input, ended⟩ | ⟨_, _, _, -, -, ⟨⟩⟩ :=
    runs_consultGroups_stored stored all.source all.exprs looked fun x member =>
      served x (List.mem_append_left _ member)
  obtain ⟨_, -, ⟨⟩⟩ | ⟨_, _, value, ⟨⟩⟩ := ended
  rw [consultations_append, asked, List.append_assoc]
  cases answer with
  | some rows =>
    obtain ⟨rfl, rfl⟩ := runs_decideGroups_some decided
    exact after input (.sample value)
  | none =>
    obtain ⟨s₂, goesOn, -⟩ := runs_decideGroups_none decided
    obtain ⟨call, rows, posed, rfl, rfl⟩ := runs_native_served goesOn fun x member =>
      served x (List.mem_append_right _ member)
    exact after input (.native value posed)

/-- **An estimate by stored samples** ends as the samples say that are loaded for it. -/
theorem bySamples_of_runs (stored : hook.predictor = .stored) (on : Predicts s)
    (supported : site.unsupported = false) (all : site.Fingerprinted s.memory)
    (run : Runs (site.estimate (.hooked hook (.native name))) s t result s')
    (served : ∀ x ∈ t, x.Served) :
    site.BySamples name s.current.spaceHash (consultations t) result := by
  cases ofRows : site.ofRows with
  | false =>
    cases site with
    | groups g flags => exact bySamples_of_groups stored on supported all run served
    | _ => cases ofRows
  | true =>
    obtain ⟨_, rfl, failed⟩ | ⟨t₁, t₂, record, s₁, rfl, made, decided⟩ :=
      runs_hooked on ofRows run
    · obtain ⟨_, same⟩ :=
        RecordSource.exists_record all.source failed (answers_of_record failed served)
      cases same
    rw [consultations_append, consultations_of_record made, List.nil_append,
      ← (RecordSource.remembers _ made).current]
    exact .looked (looked_of_decided stored ofRows decided fun x member =>
      served x (List.mem_append_right _ member))

end Site

/-! ## Faults -/

section Faults

variable {space key : Int} {reply : Except Fault (Option Sample)} {fault : Fault}

theorem overflows_of_storedRows (h : storedRows reply = .error fault) :
    fault = .overflow ∧ (loaded space key reply).Overflows := by
  unfold storedRows at h
  split at h
  · rename_i sample
    obtain ⟨overflow, exceeds⟩ := overflow_of_sampleRows h
    exact ⟨overflow, sample, rfl, exceeds⟩
  · cases h

theorem overflows_of_storedGroups (h : storedGroups reply = .error fault) :
    fault = .overflow ∧ (loaded space key reply).Overflows := by
  unfold storedGroups at h
  split at h
  · rename_i sample
    split at h
    · rename_i single
      cases value : exponential sample.target with
      | ok groups =>
        rw [value] at h
        cases h
      | error other =>
        rw [value] at h
        cases h
        exact overflows_of_storedRows (sampleRows_of_exponential single value)
    · cases h
  · cases h

theorem Site.overflows_of_stored {site : Site} (h : site.stored reply = .error fault) :
    fault = .overflow ∧ (loaded space key reply).Overflows := by
  cases site with
  | groups => exact overflows_of_storedGroups h
  | _ => exact overflows_of_storedRows h

/-- An estimate by stored samples gives rows, or a sample overflows. -/
theorem Site.BySamples.ends {site : Site} {name : String} {result : Except Fault Float}
    (h : site.BySamples name space t result) :
    (∃ rows, result = .ok rows) ∨ result = .error .overflow ∧ ∃ x ∈ t, x.Overflows := by
  have looked {t : List Asked} {result : Except Fault Float} (h : site.Looked name space t result) :
      (∃ rows, result = .ok rows) ∨ result = .error .overflow ∧ ∃ x ∈ t, x.Overflows := by
    cases h with
    | overflow value =>
      obtain ⟨rfl, exceeds⟩ := Site.overflows_of_stored value
      exact .inr ⟨rfl, _, List.mem_singleton_self _, exceeds⟩
    | sample => exact .inl ⟨_, rfl⟩
    | native => exact .inl ⟨_, rfl⟩
  cases h with
  | looked h => exact looked h
  | input _ _ h =>
    obtain given | ⟨rfl, x, member, exceeds⟩ := looked h
    · exact .inl given
    · exact .inr ⟨rfl, x, List.mem_cons_of_mem _ member, exceeds⟩
  | inputOverflow _ value =>
    obtain ⟨rfl, exceeds⟩ := overflows_of_storedRows value
    exact .inr ⟨rfl, _, List.mem_singleton_self _, exceeds⟩

end Faults

/-- **There is an estimate unless a sample overflows.** A hook with a predictor of stored samples
stands in front of the host's own estimation, the host answers what it is asked, all clauses have
fingerprints, and a knowledge base may hold whatever samples it wants or be unavailable. Without
predictions, and for a grouping that has nothing to predict, the estimate is the host's. With
predictions, a sample is looked up. What it stands for is the estimate, and if it stands for
nothing, the host's own estimation is asked. But a sample whose cardinality exceeds the largest
number ends the estimate with a fault, and nothing else does. -/
theorem estimate_unless_overflow {site : Site} {hook : Hook} {name : String}
    {result : Except Fault Float} (stored : hook.predictor = .stored)
    (all : site.Fingerprinted s.memory) (served : ∀ x ∈ t, x.Served)
    (run : Runs (site.estimate (.hooked hook (.native name))) s t result s') :
    (s.current.usePrediction = false ∨ site.unsupported = true →
      ∃ call rows, site.Poses call ∧ t = [⟨.native name call, .ok rows⟩] ∧ result = .ok rows) ∧
    (s.current.usePrediction = true ∧ site.unsupported = false →
      site.BySamples name s.current.spaceHash (consultations t) result) ∧
    ((∃ rows, result = .ok rows) ∨ result = .error .overflow ∧ ∃ x ∈ t, x.Overflows) := by
  have off (h : s.current.usePrediction = false ∨ site.unsupported = true) :
      ∃ call rows, site.Poses call ∧ t = [⟨.native name call, .ok rows⟩] ∧ result = .ok rows := by
    obtain ⟨call, posed, rfl⟩ := Site.runs_off h run
    obtain ⟨rows, rfl⟩ := served _ (List.mem_singleton_self _)
    exact ⟨call, rows, posed, rfl, rfl⟩
  have on (h : s.current.usePrediction = true ∧ site.unsupported = false) :
      site.BySamples name s.current.spaceHash (consultations t) result :=
    Site.bySamples_of_runs stored h.1 h.2 all run served
  refine ⟨off, on, ?_⟩
  by_cases h : s.current.usePrediction = true ∧ site.unsupported = false
  · obtain given | ⟨overflow, x, member, exceeds⟩ := (on h).ends
    · exact .inl given
    · exact .inr ⟨overflow, x, List.mem_of_mem_filter member, exceeds⟩
  · rw [not_and_or, Bool.not_eq_true, Bool.not_eq_false] at h
    obtain ⟨_, rows, -, -, given⟩ := off h
    exact .inl ⟨rows, given⟩

/-- Surroundings in which the logarithm of all cardinalities is a thousand. -/
def thousandsStored : (request : Request) → Request.Reply request
  | .knowledge (.loadSample _ _) => .ok (some ⟨1000, 1⟩)
  | request => nothingStored request

theorem thousandsStored_served (request : Request) :
    Asked.Served ⟨request, thousandsStored request⟩ := by
  match request with
  | .selectivity _ _ | .native _ _ => exact ⟨_, rfl⟩
  | .knowledge (.loadSample _ _) => exact nofun
  | .knowledge .isInstalled | .knowledge (.findClass _) | .knowledge (.upsertClass _)
  | .knowledge (.recordText _ _) | .knowledge (.storeSample _ _ _)
  | .knowledge (.lockClass _ _) | .knowledge (.unlockClass _) => trivial
  | .predict _ _ | .parse _ | .now | .log _ _ | .warn _ | .knowledgeRelations => trivial

/-- There are no numbers for the rows of a base relation, and so there is no estimate. -/
theorem estimate_unless_overflow_thousand :
    let hook : Hook := ⟨"hook", .stored, false, false⟩
    ∃ t s', Runs ((Site.base 1).estimate (.hooked hook (.native "host"))) planningJoin t
        (.error .overflow) s' ∧ (∀ x ∈ t, x.Served) ∧
      (Site.base 1).BySamples "host" planningJoin.current.spaceHash (consultations t)
        (.error .overflow) ∧ ∃ x ∈ t, x.Overflows := by
  intro hook
  let estimate := (Site.base 1).estimate (.hooked hook (.native "host"))
  have fails : (outcome thousandsStored estimate planningJoin).1.toOption = none := by
    decide +kernel
  obtain ⟨t, run, replies⟩ := exists_runs thousandsStored estimate planningJoin
  have served : ∀ x ∈ t, x.Served := by
    rintro ⟨request, reply⟩ member
    obtain rfl : reply = thousandsStored request := replies _ member
    exact thousandsStored_served request
  have all : (Site.base 1).Fingerprinted planningJoin.memory := ⟨nofun, nofun⟩
  obtain ⟨-, samples, ends⟩ := estimate_unless_overflow rfl all served run
  obtain ⟨rows, given⟩ | ⟨overflow, exceeds⟩ := ends
  · rw [given] at fails
    cases fails
  · rw [overflow] at run samples
    exact ⟨t, _, run, served, samples ⟨rfl, rfl⟩, exceeds⟩

end CardinalityAdvisor
