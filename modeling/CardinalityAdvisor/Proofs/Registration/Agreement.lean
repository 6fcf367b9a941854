import CardinalityAdvisor.Proofs.Registration.Histories

/-!
# Whether a new class is planned as it is stored

A policy that is marked as one of a new class comes from the mode of its session alone, since the
class was missing when it was looked for. Before the session has the lock, another session may store
the class as its own mode makes it, and then that class is left as it is. So the policy agrees with
the class on record just if the class was stored under the mode of the policy.

## Main results

* `QueryClass.ofNew_inj`: no two modes make the same class, if one of them stores it
* `newClass_of_classify`: what a classification was told that returns the policy of a new class
* `agreement_of_newClass`: the class that is stored when such a policy is returned
-/

namespace CardinalityAdvisor

open CardinalityAdvisor.Action

/-- A class that is stored by itself shows which mode has made it. -/
theorem QueryClass.ofNew_inj {hash : Int} {mode other : Mode}
    (persists : (ClassFlags.ofNew hash mode).persist = true) :
    ofNew hash other = ofNew hash mode ↔ other = mode := by
  rw [ClassFlags.ofNew_persist] at persists
  refine ⟨fun same => ?_, fun same => by rw [same]⟩
  rcases persists with rfl | rfl <;> cases other <;> simp [ofNew, ClassFlags.ofNew] at same ⊢

/-! ## One classification -/

section

variable {mode : Mode} {hash : Int} {start : PlanningPolicy} {text : Option String}
  {s s' : Session} {t : List Asked}

/-- **A look-up** marks a policy as one of a new class only after the class was not found, and was
found or stored under its lock. -/
theorem newClass_of_lookUpPolicy {found : PlanningPolicy × Bool} (known : start.isNewClass = false)
    (run : Runs (lookUpPolicy mode start text) s t (.ok found) s')
    (new : found.1.isNewClass = true) :
    found = (start.underMode mode none, true) ∧
      ⟨.knowledge (.findClass start.queryHash), .ok none⟩ ∈ t ∧
      ((∃ c, ⟨.knowledge (.findClass start.queryHash), .ok (some c)⟩ ∈ t) ∨
        ⟨.knowledge (.upsertClass (.ofNew start.queryHash mode)), .ok ()⟩ ∈ t) := by
  rw [lookUpPolicy, runs_get_bind] at run
  obtain ⟨reply, rest, rfl, goesOn⟩ := runs_knowledge_bind.mp run
  split at goesOn
  · obtain ⟨_, -, last⟩ := runs_logged_bind goesOn
    obtain ⟨-, same, -⟩ := runs_pure.mp last
    cases same
    cases new
  · cases (runs_throw.mp goesOn).2.1
  rename_i stored
  cases stored with
  | some c =>
    have last : Gives (fun found => found.1.isNewClass = false)
        (pure (start.underMode mode (some c), true)) := gives_pure known
    have never := Gives.bind (fun _ => last) goesOn
    rw [never] at new
    cases new
  | none =>
    rw [deactivateIfIdle, Option.any_none] at goesOn
    simp only [Bool.false_eq_true, if_false, runs_pure_bind] at goesOn
    split at goesOn
    · obtain ⟨t₁, t₂, done, s₁, rfl, register, last⟩ | ⟨_, failed, -⟩ := runs_bind.mp goesOn
      swap
      · cases failed
      cases done with
      | false =>
        obtain ⟨-, same, -⟩ := runs_pure.mp last
        cases same
        cases new
      | true =>
        obtain ⟨-, same, -⟩ := runs_pure.mp last
        cases same
        have later : t₁ ⊆ ⟨.knowledge (.findClass start.queryHash), .ok none⟩ :: (t₁ ++ t₂) :=
          List.subset_cons_of_subset _ (List.subset_append_left _ _)
        refine ⟨rfl, List.mem_cons_self, ?_⟩
        obtain ⟨c, found⟩ | stored := found_or_stored_of_registered register
        · exact .inl ⟨c, later found⟩
        · exact .inr (later stored)
    · rename_i unwanted
      obtain ⟨-, same, -⟩ := runs_pure.mp goesOn
      cases same
      change (start.underMode mode none).isNewClass = true at new
      simp [new] at unwanted

/-- **The policy of an active class** is marked as one of a new class only if it is what the mode
makes of the class. -/
theorem newClass_of_resolvePolicy {policy : PlanningPolicy} (known : start.isNewClass = false)
    (unforced : s.settings.forcesCollection = false)
    (run : Runs (resolvePolicy mode start text) s t (.ok policy) s')
    (new : policy.isNewClass = true) :
    (ClassFlags.ofNew start.queryHash mode).persist = true ∧
      policy.queryClass = .ofNew start.queryHash mode ∧
      ⟨.knowledge (.findClass start.queryHash), .ok none⟩ ∈ t ∧
      ((∃ c, ⟨.knowledge (.findClass start.queryHash), .ok (some c)⟩ ∈ t) ∨
        ⟨.knowledge (.upsertClass (.ofNew start.queryHash mode)), .ok ()⟩ ∈ t) := by
  obtain ⟨found, settled, usable⟩ := resolvePolicy_settled run
  have plain (p : PlanningPolicy) : s.settings.collected p = p := by
    rw [Settings.collected, unforced]
    rfl
  obtain ⟨value, rfl, marked, same⟩ : ∃ value, found = .ok value ∧ value.1.isNewClass = true ∧
      policy.queryClass = value.1.queryClass := by
    cases settled with
    | unusable => exact ⟨_, rfl, new, rfl⟩
    | untimed looked =>
      rw [plain] at new ⊢
      exact ⟨_, rfl, new, rfl⟩
    | timed looked time =>
      rw [plain] at new ⊢
      exact ⟨_, rfl, new, rfl⟩
  obtain ⟨-, off, -⟩ | ⟨-, part, within, lookUp⟩ := usable
  · cases off
    cases marked
  · obtain ⟨rfl, missing, registered⟩ := newClass_of_lookUpPolicy known lookUp marked
    refine ⟨marked, same, within missing, ?_⟩
    exact registered.imp (fun ⟨c, found⟩ => ⟨c, within found⟩) fun stored => within stored

end

/-- **A classification** that returns the policy of a new class was told that the class is not
stored, and under the lock it has found the class or stored it. -/
theorem newClass_of_classify {query : Query} {s s' : Session} {t : List Asked}
    {classified : Classified} {mode : Mode} (known : s.settings.resolvedMode = .ok mode)
    (unforced : s.settings.forcesCollection = false)
    (run : Runs (classify query) s t (.ok classified) s')
    (new : classified.policy.isNewClass = true) :
    ∃ hash, (ClassFlags.ofNew hash mode).persist = true ∧
      classified.policy.queryClass = .ofNew hash mode ∧
      ⟨.knowledge (.findClass hash), .ok none⟩ ∈ t ∧
      ((∃ c, ⟨.knowledge (.findClass hash), .ok (some c)⟩ ∈ t) ∨
        ⟨.knowledge (.upsertClass (.ofNew hash mode)), .ok ()⟩ ∈ t) := by
  generalize ended : Except.ok classified = result at run
  cases Guarded.of_runs run with
  | failed => cases ended
  | stopped =>
    cases ended
    cases new
  | @admitted asked rest s₁ _ _ a exchanges admitted goesOn =>
    have later : rest ⊆ t := exchanges ▸ List.subset_append_right asked rest
    obtain ⟨resolved, -⟩ := Admission.of_runs admitted
    obtain rfl : a.mode = mode := Except.ok.inj (resolved.symm.trans known)
    have checked : SameButChecked s s₁ := within_admission query admitted
    cases Entered.of_runs goesOn with
    | passedOver =>
      cases ended
      cases new
    | @resolved part _ outcome _ _ within resolve =>
      cases outcome with
      | error => cases ended
      | ok policy =>
        cases ended
        have within : part ⊆ t := List.Subset.trans within later
        rw [← checked.settings] at unforced
        obtain ⟨persists, made, missing, registered⟩ := newClass_of_resolvePolicy
          (s := { s₁ with active := a.hash :: s₁.active }) rfl unforced resolve new
        refine ⟨a.hash, persists, made, within missing, ?_⟩
        exact registered.imp (fun ⟨c, found⟩ => ⟨c, within found⟩) fun stored => within stored

/-! ## Sessions that share a knowledge base -/

namespace Shared

variable {ι : Type} [DecidableEq ι] {σ₀ σ : System ι} {events : List (Event ι)} {i : ι}

/-- **New classes and the record.** Sessions classify queries against one knowledge base in any
order, from a system at rest without locks. Let one of them return the policy of a new class, in a
mode of its own and without forced collection. Then the policy is as this mode makes it, and a class
is stored under its hash. Either the session has stored the class of its policy, or it has found the
stored class under the lock. In any case a session has stored the class in the course of the run,
under some mode, and the class on record is that of the policy just if the two modes are the
same. -/
theorem agreement_of_newClass {v : Verdict} {classified : Classified} {mode : Mode}
    (rest : σ₀.AtRest) (unlocked : σ₀.store.locked = []) (run : Run σ₀ events σ)
    (ended : Ended σ₀ i v events) (returned : v.result = .ok classified)
    (known : v.before.settings.resolvedMode = .ok mode)
    (unforced : v.before.settings.forcesCollection = false)
    (new : classified.policy.isNewClass = true) :
    classified.policy.queryClass = .ofNew classified.policy.queryHash mode ∧
      ∃ c, σ.store.classes.lookup classified.policy.queryHash = some c ∧
        (c = classified.policy.queryClass ∧ ⟨.knowledge (.upsertClass c), .ok ()⟩ ∈ v.asked ∨
          ⟨.knowledge (.findClass classified.policy.queryHash), .ok (some c)⟩ ∈ v.asked) ∧
        ∃ j other, StoredUnder σ₀ j other c events ∧
          c = .ofNew classified.policy.queryHash other ∧
          (c = classified.policy.queryClass ↔ other = mode) := by
  have holds := ended.1
  unfold Verdict.Holds at holds
  rw [returned] at holds
  obtain ⟨hash, persists, made, missing, registered⟩ :=
    newClass_of_classify known unforced holds new
  obtain rfl : classified.policy.queryHash = hash := congrArg QueryClass.queryHash made
  -- Whoever has stored the class, it is there now, and it was not there at first.
  have none := (ended.answered run missing).missing rest unlocked
  obtain ⟨c, stored, source⟩ : ∃ c, σ.store.classes.lookup classified.policy.queryHash = some c ∧
      (c = classified.policy.queryClass ∧ ⟨.knowledge (.upsertClass c), .ok ()⟩ ∈ v.asked ∨
        ⟨.knowledge (.findClass classified.policy.queryHash), .ok (some c)⟩ ∈ v.asked) := by
    obtain ⟨c, found⟩ | own := registered
    · exact ⟨c, (ended.answered run found).found rest unlocked, .inr found⟩
    · exact ⟨_, (ended.answered run own).stored rest unlocked, .inl ⟨made.symm, own⟩⟩
  obtain first | ⟨j, other, written, rfl⟩ := run.stored rest stored
  · rw [none] at first
    cases first
  · refine ⟨made, _, stored, source, j, other, written, rfl, ?_⟩
    rw [made]
    exact QueryClass.ofNew_inj persists

/-- A session in which new classes are learned, and tuned before they are predicted. -/
def tuning : Session := { settings := { mode := .mode .intelligent } }

/-- Two sessions of different modes and an empty knowledge base. -/
def twoModes : System (Fin 2) := ⟨{}, fun i => .resting (if i = 0 then learning else tuning)⟩

/-- The two sessions, each about to classify the query. -/
def twoBegun : List (Event (Fin 2)) × System (Fin 2) :=
  let m := begun twoModes 0 sharedQuery learning
  (.begins 1 sharedQuery :: m.1,
    m.2.goOn m.2.store 1 (.classifying ((classify sharedQuery).run.run tuning)))

/-- The first session looks for the class before the second one stores it, and takes the lock after
that. -/
def overtaking : List (Fin 2) := List.replicate 3 0 ++ List.replicate 10 1 ++ List.replicate 6 0

/-- The first session returns the policy of a new class that is not the one on record, which the
second session has stored under its own mode. -/
theorem agreement_of_newClass_overtaken :
    ∃ events σ v classified, Run twoModes events σ ∧ Ended twoModes 0 v events ∧
      v.result = .ok classified ∧ classified.policy.isNewClass = true ∧
      ∃ c, σ.store.classes.lookup classified.policy.queryHash = some c ∧
        c ≠ classified.policy.queryClass ∧
        ∃ j, StoredUnder twoModes j .intelligent c events := by
  let m := overtaking.foldl turn twoBegun
  let hash := Fingerprint.expressionKey (.object [("SelectStmt", .object [])])
  have rest : twoModes.AtRest := fun i => ⟨_, rfl⟩
  have begun : Run twoModes twoBegun.1 twoBegun.2 := (Run.begun rfl).step (.begins sharedQuery rfl)
  have run : Run twoModes m.1 m.2 := begun.turns overtaking
  have returned :
      ((returned? m.1).map fun r => (r.1, r.2.policy.queryHash, r.2.policy.isNewClass)) =
        some (0, hash, true) := by decide +kernel
  obtain ⟨⟨i, classified⟩, last, same⟩ := Option.map_eq_some_iff.mp returned
  obtain ⟨rfl, own, new⟩ : i = 0 ∧ classified.policy.queryHash = hash ∧
      classified.policy.isNewClass = true := by simpa using same
  obtain ⟨before, events⟩ := exists_of_returned last
  rw [events] at run
  obtain ⟨v, ended, result⟩ := exists_ended rest run
  have first : v.before = learning := by
    obtain ⟨later, all, none⟩ := exists_turns twoBegun overtaking
    obtain ⟨-, _, same, engaged⟩ := ended
    cases later with
    | nil => cases events.symm.trans all
    | cons e later =>
      obtain ⟨-, rfl⟩ := List.cons.inj same
      obtain ⟨-, rfl⟩ := List.cons.inj (events.symm.trans all)
      have engaged : Engaged twoModes 0 v.query v.before v.asked
          ((later ++ [.begins 1 sharedQuery]) ++ [.begins 0 sharedQuery]) := by
        rw [List.append_assoc]
        exact engaged
      have once (query : Query) : Event.begins 0 query ∉ later ++ [.begins 1 sharedQuery] := by
        intro member
        rcases List.mem_append.mp member with member | member
        · exact none _ (List.mem_cons_of_mem _ member) 0 query rfl
        · cases List.mem_singleton.mp member
      exact (Client.resting.inj (engaged.of_first once)).symm
  have known : v.before.settings.resolvedMode = .ok .learn := by
    rw [first]
    rfl
  have unforced : v.before.settings.forcesCollection = false := by
    rw [first]
    rfl
  obtain ⟨-, c, stored, -, j, other, written, rfl, agrees⟩ :=
    agreement_of_newClass rest rfl run ended result known unforced new
  have record : m.2.store.classes.lookup hash = some (.ofNew hash .intelligent) := by
    decide +kernel
  rw [own] at stored
  obtain rfl : other = .intelligent :=
    (QueryClass.ofNew_inj rfl).mp (own ▸ Option.some.inj (stored.symm.trans record))
  refine ⟨_, _, v, classified, run, ended, result, new, _, ?_, ?_, j, written⟩
  · rw [own]
    exact stored
  · exact fun same => nomatch agrees.mp same

end Shared

end CardinalityAdvisor
