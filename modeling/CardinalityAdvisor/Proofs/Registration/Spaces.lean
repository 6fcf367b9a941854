import CardinalityAdvisor.Proofs.Registration.Histories
import CardinalityAdvisor.Proofs.Session.ForcedCollection

/-!
# The spaces of classes and policies

The samples of a class are in a space of its own or in the one that is shared. That is so of every
class that is stored, if it was so at first, and of every policy that a classification returns,
however many sessions there are, whatever their settings become, and whatever fails.

## Main definitions

* `Store.Spaced`: every class is stored under its own hash, with its own space or the shared one
* `SharesSpace mode t hash`: why a class uses the shared space, by what was said of it
* `Placed mode t hash policy`: a policy has the space of its class, or it shares one

## Main results

* `placed_of_lookUpPolicy`, `placed_of_resolvePolicy`: the space of the policy of a class
* `placed_of_classify`: the space of the policy that a classification returns
* `spaces_private_or_shared`: the spaces of classes and policies along a run
-/

namespace CardinalityAdvisor

open CardinalityAdvisor.Action
open Knowledge (Store)

/-- A class has its own space or the shared one. -/
def QueryClass.PrivateOrShared (c : QueryClass) : Prop :=
  c.spaceHash = c.queryHash ∨ c.spaceHash = sharedSpace

/-- Every class is stored under its own hash, with its own space or the shared one. -/
def Knowledge.Store.Spaced (store : Store) : Prop :=
  ∀ hash c, store.classes.lookup hash = some c → c.queryHash = hash ∧ c.PrivateOrShared

theorem QueryClass.ofNew_privateOrShared (hash : Int) (mode : Mode) :
    (ofNew hash mode).PrivateOrShared := by
  have space : (ofNew hash mode).spaceHash = if mode = .forced then sharedSpace else hash :=
    ClassFlags.ofNew_space hash mode
  unfold PrivateOrShared
  rw [space]
  split
  · exact .inr rfl
  · exact .inl rfl

/-! ## The policy of one classification -/

/-- Every class that was found is one that may be stored. -/
def FoundSpaced (t : List Asked) : Prop :=
  ∀ (hash : Int) (c : QueryClass), ⟨.knowledge (.findClass hash), .ok (some c)⟩ ∈ t →
    c.queryHash = hash ∧ c.PrivateOrShared

theorem FoundSpaced.subset {t part : List Asked} (h : FoundSpaced t) (within : part ⊆ t) :
    FoundSpaced part := fun hash c member => h hash c (within member)

/-- Why the samples of a class are in the shared space, by what was said when the class was looked
for: it was not stored, in forced mode, or it was found with the shared space. -/
def SharesSpace (mode : Mode) (t : List Asked) (hash : Int) : Prop :=
  mode = .forced ∧ ⟨.knowledge (.findClass hash), .ok none⟩ ∈ t ∨
    ∃ c : QueryClass, ⟨.knowledge (.findClass hash), .ok (some c)⟩ ∈ t ∧ c.spaceHash = sharedSpace

theorem SharesSpace.subset {mode : Mode} {t part : List Asked} {hash : Int}
    (h : SharesSpace mode part hash) (within : part ⊆ t) : SharesSpace mode t hash :=
  h.imp (fun new => ⟨new.1, within new.2⟩) fun ⟨c, found, shared⟩ => ⟨c, within found, shared⟩

/-- The policy of a class has the space of the class, or the shared one for a reason. -/
structure Placed (mode : Mode) (t : List Asked) (hash : Int) (policy : PlanningPolicy) : Prop where
  own : policy.queryHash = hash
  space : policy.spaceHash = hash ∨ policy.spaceHash = sharedSpace ∧ SharesSpace mode t hash

namespace Placed

variable {mode : Mode} {t part : List Asked} {hash : Int} {policy : PlanningPolicy}

theorem subset (h : Placed mode part hash policy) (within : part ⊆ t) :
    Placed mode t hash policy :=
  ⟨h.own, h.space.imp_right fun shared => ⟨shared.1, shared.2.subset within⟩⟩

/-- A policy that is disabled keeps its space. -/
theorem disable (h : Placed mode t hash policy) : Placed mode t hash policy.disable :=
  ⟨h.own, h.space⟩

theorem initial (explained : Bool) : Placed mode t hash (.initial hash explained) :=
  ⟨rfl, .inl rfl⟩

/-- Forced collection puts a policy back into the space of its class. -/
theorem collected (h : Placed mode t hash policy) (settings : Settings) :
    Placed mode t hash (settings.collected policy) := by
  unfold Settings.collected
  split
  · exact ⟨h.own, .inl h.own⟩
  · exact h

/-- The policy of a class that is not stored. -/
theorem ofNew (explained : Bool) (missing : ⟨.knowledge (.findClass hash), .ok none⟩ ∈ t) :
    Placed mode t hash ((PlanningPolicy.initial hash explained).underMode mode none) := by
  refine ⟨rfl, ?_⟩
  show (ClassFlags.ofNew hash mode).spaceHash = hash ∨ _
  rw [ClassFlags.ofNew_space]
  split
  · rename_i forced
    have space : ((PlanningPolicy.initial hash explained).underMode mode none).spaceHash =
        sharedSpace := by
      rw [forced]
      rfl
    exact .inr ⟨space, .inl ⟨forced, missing⟩⟩
  · exact .inl rfl

/-- The policy of a stored class. In learn mode the space is that of the class, which the class
itself has to name. -/
theorem ofStored (explained : Bool) {c : QueryClass} (spaced : FoundSpaced t)
    (found : ⟨.knowledge (.findClass hash), .ok (some c)⟩ ∈ t) :
    Placed mode t hash ((PlanningPolicy.initial hash explained).underMode mode (some c)) := by
  obtain ⟨own, space⟩ := spaced hash c found
  have kept : c.spaceHash = hash ∨ c.spaceHash = sharedSpace ∧ SharesSpace mode t hash := by
    rcases space with space | shared
    · exact .inl (space.trans own)
    · exact .inr ⟨shared, .inr ⟨c, found, shared⟩⟩
  cases mode with
  | learn => exact ⟨rfl, .inl own⟩
  | intelligent | forced | controlled | disabled | frozen => exact ⟨rfl, kept⟩

end Placed

variable {mode : Mode} {hash : Int} {explained : Bool} {text : Option String} {s s' : Session}
  {t : List Asked}

/-- **A look-up** gives a policy that has a place, also where it fails. -/
theorem placed_of_lookUpPolicy {found : PlanningPolicy × Bool} (spaced : FoundSpaced t)
    (run : Runs (lookUpPolicy mode (.initial hash explained) text) s t (.ok found) s') :
    Placed mode t hash found.1 := by
  generalize ended : Except.ok found = result at run
  cases LookedUp.of_runs run with
  | unavailable =>
    cases ended
    exact (Placed.initial explained).disable
  | broken => cases ended
  | stored c asked =>
    cases ended
    exact .ofStored explained spaced asked
  | left asked =>
    cases ended
    exact .ofNew explained asked
  | registered r asked =>
    cases r with
    | error => cases ended
    | ok done =>
      cases done with
      | true =>
        cases ended
        exact .ofNew explained asked
      | false =>
        cases ended
        exact (Placed.ofNew explained asked).disable

/-- **The policy of an active class** has a place. -/
theorem placed_of_resolvePolicy {policy : PlanningPolicy} (spaced : FoundSpaced t)
    (run : Runs (resolvePolicy mode (.initial hash explained) text) s t (.ok policy) s') :
    Placed mode t hash policy := by
  obtain ⟨found, settled, usable⟩ := resolvePolicy_settled run
  have looked : ∀ value, found = .ok value → Placed mode t hash value.1 := by
    rintro value rfl
    obtain ⟨-, same, -⟩ | ⟨-, part, within, lookUp⟩ := usable
    · cases same
      exact (Placed.initial explained).disable
    · exact (placed_of_lookUpPolicy (spaced.subset within) lookUp).subset within
  cases settled with
  | unusable => exact looked _ rfl
  | untimed => exact (looked _ rfl).collected _
  | timed policy start =>
    have placed := (looked _ rfl).collected s.settings
    exact ⟨placed.own, placed.space⟩

/-- **The policy that a classification returns** has the space of its own class, or the shared one.
If it shares a space, its class was new in forced mode or was found with the shared space. It shares
none if statistics are collected for all queries and no call fails. -/
theorem placed_of_classify {query : Query} {classified : Classified} (spaced : FoundSpaced t)
    (run : Runs (classify query) s t (.ok classified) s') :
    (classified.policy.spaceHash = classified.policy.queryHash ∨
      classified.policy.spaceHash = sharedSpace ∧ ∃ mode, s.settings.resolvedMode = .ok mode ∧
        SharesSpace mode t classified.policy.queryHash) ∧
    (s.settings.forcesCollection = true → (∀ x ∈ t, x.Succeeds) →
      classified.policy.spaceHash = classified.policy.queryHash) := by
  generalize ended : Except.ok classified = result at run
  cases Guarded.of_runs run with
  | failed => cases ended
  | stopped =>
    cases ended
    exact ⟨.inl rfl, fun _ _ => rfl⟩
  | @admitted asked rest s₁ _ _ a exchanges admitted goesOn =>
    have later : rest ⊆ t := exchanges ▸ List.subset_append_right asked rest
    obtain ⟨known, -⟩ := Admission.of_runs admitted
    have checked : SameButChecked s s₁ := within_admission query admitted
    cases Entered.of_runs goesOn with
    | passedOver =>
      cases ended
      exact ⟨.inl rfl, fun _ _ => rfl⟩
    | @resolved part _ outcome _ _ within resolve =>
      cases outcome with
      | error => cases ended
      | ok policy =>
        cases ended
        have within : part ⊆ t := List.Subset.trans within later
        have placed := placed_of_resolvePolicy (spaced.subset within) resolve
        refine ⟨?_, fun forced succeeds => ?_⟩
        · rw [placed.own]
          exact placed.space.imp_right fun shared =>
            ⟨shared.1, a.mode, known, shared.2.subset within⟩
        · rw [← checked.settings] at forced
          obtain ⟨_, same, -, space, -⟩ := collecting_of_resolvePolicy
            (s := { s₁ with active := a.hash :: s₁.active }) forced
            (fun x member => succeeds x (within member)) resolve
          cases same
          exact space.trans placed.own.symm

/-! ## Sessions that share a knowledge base -/

namespace Shared

variable {ι : Type} [DecidableEq ι] {σ₀ σ : System ι} {events : List (Event ι)}

/-- **Stored classes** keep their spaces along a run: what is stored is as a mode makes it. -/
theorem Run.spaced (run : Run σ₀ events σ) (rest : σ₀.AtRest) (spaced : σ₀.store.Spaced) :
    σ.store.Spaced := by
  intro hash c found
  obtain first | ⟨i, mode, -, rfl⟩ := run.stored rest found
  · exact spaced hash c first
  · exact ⟨rfl, QueryClass.ofNew_privateOrShared hash mode⟩

/-- What a classification has found was stored at some moment of the run. -/
theorem Ended.foundSpaced {i : ι} {v : Verdict} (h : Ended σ₀ i v events) (run : Run σ₀ events σ)
    (rest : σ₀.AtRest) (spaced : σ₀.store.Spaced) : FoundSpaced v.asked := by
  intro hash c member
  obtain ⟨j, before, σ₁, σ₂, later, first, step, -⟩ := h.answered run member
  exact first.spaced rest spaced hash c step.serves.lookup.1

/-- **The spaces of classes and policies.** Sessions classify queries against one knowledge base in
any order, while their settings change and calls fail, from a system at rest whose classes are
stored under their own hashes, with their own spaces or the shared one. Then all stored classes
still are like that, and every policy that a classification returns has the space of its own class
or the shared one. If the shared space is not that of its class, the class was new in forced mode,
or it was found with the shared space, and if no lock was left behind at first, it is still stored
so. If statistics are collected for all queries and none of its calls fails, the policy has the
space of its own class. -/
theorem spaces_private_or_shared (rest : σ₀.AtRest) (spaced : σ₀.store.Spaced)
    (run : Run σ₀ events σ) :
    σ.store.Spaced ∧
      ∀ i policy entered before, events = .ends i (.ok ⟨policy, entered⟩) :: before →
        ∃ v, Ended σ₀ i v events ∧ v.result = .ok ⟨policy, entered⟩ ∧
          (policy.spaceHash = policy.queryHash ∨ policy.spaceHash = sharedSpace) ∧
          (policy.spaceHash ≠ policy.queryHash →
            v.before.settings.resolvedMode = .ok .forced ∧
              ⟨.knowledge (.findClass policy.queryHash), .ok none⟩ ∈ v.asked ∨
            ∃ c : QueryClass, c.spaceHash = sharedSpace ∧
              ⟨.knowledge (.findClass policy.queryHash), .ok (some c)⟩ ∈ v.asked ∧
              (σ₀.store.locked = [] → σ.store.classes.lookup policy.queryHash = some c)) ∧
          (v.before.settings.forcesCollection = true → (∀ x ∈ v.asked, x.Succeeds) →
            policy.spaceHash = policy.queryHash) := by
  refine ⟨run.spaced rest spaced, ?_⟩
  rintro i policy entered before rfl
  obtain ⟨v, ended, result⟩ := exists_ended rest run
  have holds := ended.1
  unfold Verdict.Holds at holds
  rw [result] at holds
  obtain ⟨placed, forced⟩ := placed_of_classify (ended.foundSpaced run rest spaced) holds
  refine ⟨v, ended, result, placed.imp_right And.left, fun different => ?_, forced⟩
  obtain ⟨-, mode, known, ⟨rfl, missing⟩ | ⟨c, found, shared⟩⟩ := placed.resolve_left different
  · exact .inl ⟨known, missing⟩
  · exact .inr ⟨c, shared, found, fun unlocked => (ended.answered run found).found rest unlocked⟩

/-- The class of the query, in the shared space. -/
def sharingClass : QueryClass :=
  ⟨Fingerprint.expressionKey (.object [("SelectStmt", .object [])]), sharedSpace, true, true, false,
    false⟩

/-- A session and a knowledge base in which the class is stored. -/
def sharing : System (Fin 1) :=
  ⟨{ classes := [(sharingClass.queryHash, sharingClass)] }, fun _ => .resting controlling⟩

theorem spaced_sharing : sharing.store.Spaced := by
  intro hash c found
  change (put sharingClass.queryHash sharingClass []).lookup hash = some c at found
  rw [lookup_put] at found
  split at found
  · rename_i own
    cases found
    exact ⟨own.symm, .inr rfl⟩
  · cases found

/-- The session returns a policy with the shared space, because the class is stored with it. -/
theorem spaces_private_or_shared_stored :
    ∃ events σ policy entered before, Run sharing events σ ∧
      events = .ends 0 (.ok ⟨policy, entered⟩) :: before ∧ σ.store.Spaced ∧
      policy.spaceHash ≠ policy.queryHash ∧ ∃ v c, Ended sharing 0 v events ∧
        c.spaceHash = sharedSpace ∧ σ.store.classes.lookup policy.queryHash = some c := by
  let m := (List.replicate 6 0).foldl turn (begun sharing 0 sharedQuery controlling)
  have run : Run sharing m.1 m.2 := (Run.begun rfl).turns _
  have rest : sharing.AtRest := fun _ => ⟨controlling, rfl⟩
  have returned : ((returned? m.1).map fun r => (r.1, r.2.policy.queryHash, r.2.policy.spaceHash)) =
      some (0, sharingClass.queryHash, sharedSpace) := by decide +kernel
  obtain ⟨⟨i, policy, entered⟩, ended, same⟩ := Option.map_eq_some_iff.mp returned
  obtain ⟨rfl, own, shared⟩ : i = 0 ∧ policy.queryHash = sharingClass.queryHash ∧
      policy.spaceHash = sharedSpace := by simpa using same
  obtain ⟨before, events⟩ := exists_of_returned ended
  obtain ⟨spaced, places⟩ := spaces_private_or_shared rest spaced_sharing run
  have different : policy.spaceHash ≠ policy.queryHash := by
    rw [own, shared]
    decide +kernel
  obtain ⟨v, ended, -, -, reasons, -⟩ := places 0 policy entered before events
  refine ⟨m.1, m.2, policy, entered, before, run, events, spaced, different, v, ?_⟩
  obtain ⟨-, missing⟩ | ⟨c, space, -, stored⟩ := reasons different
  · have none := (ended.answered run missing).missing rest rfl
    rw [own] at none
    exact absurd none (by decide +kernel)
  · exact ⟨c, ended, space, stored rfl⟩

end Shared

end CardinalityAdvisor
