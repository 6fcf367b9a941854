import CardinalityAdvisor.Knowledge.Store
import CardinalityAdvisor.Server.Knowledge

/-!
# How knowledge bases fail

A server may refuse a statement, fail while it runs or while its rows are fetched. Whatever the
server reports, a knowledge base on it only fails because it is unavailable, as long as the rows
that do come are of the kinds that were asked for. A knowledge base in memory fails in no other way
either.

## Main definitions

* `Fault.IsOutage`: whether a fault is one of a knowledge base, or of the server behind it
* `Server.Fits call replies`: the replies that come for a call are of the kinds that it asks for
* `Knowledge.MayReply call reply`: what a knowledge base may reply to a call

## Main results

* `Server.failsOn_answer`: a knowledge base on a server fails only because it is unavailable
* `Knowledge.MayReply.isUnavailable`: so does any other knowledge base
-/

namespace CardinalityAdvisor

/-- Whether a fault says that a resource cannot be used. -/
def Fault.IsUnavailable (fault : Fault) : Prop := ∃ cause, fault = .unavailable cause

/-- Whether a fault is one of a knowledge base, or one that a server reports by itself. -/
def Fault.IsOutage (fault : Fault) : Prop :=
  fault.IsUnavailable ∨ ∃ report, fault = .connectionRefused report

namespace Server

variable {α β : Type} {P : Fault → Prop} {l l' : Link}

/-! ## Runs over a connection -/

/-- Over the connection `l`, an action ends with a result and leaves the connection `l'`. -/
def Runs (action : Action α) (l : Link) (result : Except Fault α) (l' : Link) : Prop :=
  action.run.run l = (result, l')

theorem runs_pure {value : α} {result : Except Fault α} :
    Runs (pure value) l result l' ↔ result = .ok value ∧ l' = l := by
  show (Except.ok value, l) = (result, l') ↔ _
  rw [Prod.mk.injEq, eq_comm, @eq_comm _ l]

theorem runs_throw {fault : Fault} {result : Except Fault α} :
    Runs (throw fault) l result l' ↔ result = .error fault ∧ l' = l := by
  show (Except.error fault, l) = (result, l') ↔ _
  rw [Prod.mk.injEq, eq_comm, @eq_comm _ l]

theorem runs_bind {action : Action α} {f : α → Action β} {result : Except Fault β} :
    Runs (action >>= f) l result l' ↔
      (∃ value l₁, Runs action l (.ok value) l₁ ∧ Runs (f value) l₁ result l') ∨
      ∃ fault, result = .error fault ∧ Runs action l (.error fault) l' := by
  unfold Runs
  rw [ExceptT.run_bind, StateT.run_bind]
  rcases action.run.run l with ⟨fault | value, l₁⟩
  · constructor
    · rintro ⟨⟩
      exact .inr ⟨fault, rfl, rfl⟩
    · rintro (⟨_, _, ⟨⟩, _⟩ | ⟨_, rfl, ⟨⟩⟩)
      rfl
  · constructor
    · intro rest
      exact .inl ⟨value, l₁, rfl, rest⟩
    · rintro (⟨_, _, ⟨⟩, rest⟩ | ⟨_, _, ⟨⟩⟩)
      exact rest

theorem runs_get_bind {f : Link → Action β} {result : Except Fault β} :
    Runs (get >>= f) l result l' ↔ Runs (f l) l result l' := Iff.rfl

theorem runs_modify_bind {change : Link → Link} {f : PUnit → Action β} {result : Except Fault β} :
    Runs (modify change >>= f) l result l' ↔ Runs (f ⟨⟩) (change l) result l' := Iff.rfl

theorem runs_ok_bind {value : α} {f : α → Action β} {result : Except Fault β} :
    Runs (ofResult (.ok value) >>= f) l result l' ↔ Runs (f value) l result l' := Iff.rfl

theorem runs_ofResult {r result : Except Fault α} :
    Runs (ofResult r) l result l' ↔ result = r ∧ l' = l := by
  cases r with
  | ok value => exact runs_pure
  | error fault => exact runs_throw

/-- What comes after an attempt runs with the result of what is attempted, failed or not. -/
theorem runs_attempt_bind {action : Action α} {f : Except Fault α → Action β}
    {result : Except Fault β} :
    Runs (attempt action >>= f) l result l' ↔
      ∃ r l₁, Runs action l r l₁ ∧ Runs (f r) l₁ result l' := by
  unfold Runs
  rcases first : action.run.run l with ⟨r, l₁⟩
  have tried : (attempt action).run.run l = (.ok r, l₁) := by
    show StateT.run (Except.ok <$> action.run) l = _
    rw [StateT.run_map, first]
    rfl
  rw [ExceptT.run_bind, StateT.run_bind, tried]
  constructor
  · intro rest
    exact ⟨r, l₁, rfl, rest⟩
  · rintro ⟨_, _, ⟨⟩, rest⟩
    exact rest

/-- Over the connection `l`, an action fails only with faults that have a property. -/
def FailsOn (P : Fault → Prop) (action : Action α) (l : Link) : Prop :=
  ∀ ⦃fault l'⦄, Runs action l (.error fault) l' → P fault

theorem failsOn_pure (value : α) : FailsOn P (pure value : Action α) l := by
  intro fault l' run
  cases (runs_pure.mp run).1

/-- A sequence fails as one of its parts. The second part may rely on what the first one gave. -/
theorem FailsOn.bind {action : Action α} {f : α → Action β} (h : FailsOn P action l)
    (hf : ∀ value l₁, Runs action l (.ok value) l₁ → FailsOn P (f value) l₁) :
    FailsOn P (action >>= f) l := by
  intro fault l' run
  obtain ⟨value, l₁, first, rest⟩ | ⟨_, same, failed⟩ := runs_bind.mp run
  · exact hf value l₁ first rest
  · cases same
    exact h failed

/-- **With a cursor** an action ends as without one, unless the server reports a failure. -/
theorem runs_withCursor {body : Action α} {result : Except Fault α}
    (run : Runs (withCursor body) l result l') :
    (∃ report, Runs body l (.error (.connectionRefused report)) l' ∧
      result = .error (.unavailable (.server report))) ∨
    Runs body l result l' ∧ ∀ report, result ≠ .error (.connectionRefused report) := by
  obtain ⟨r, l₁, body, rest⟩ := runs_attempt_bind.mp run
  split at rest
  · obtain ⟨rfl, rfl⟩ := runs_throw.mp rest
    exact .inl ⟨_, body, rfl⟩
  · rename_i other
    obtain ⟨rfl, rfl⟩ := runs_ofResult.mp rest
    exact .inr ⟨body, other⟩

theorem failsOn_withCursor {body : Action α} (h : FailsOn Fault.IsOutage body l) :
    FailsOn Fault.IsUnavailable (withCursor body) l := by
  intro fault l' run
  obtain ⟨report, -, same⟩ | ⟨body, reported⟩ := runs_withCursor run
  · cases same
    exact ⟨_, rfl⟩
  · obtain unavailable | ⟨report, rfl⟩ := h body
    · exact unavailable
    · exact absurd rfl (reported report)

/-! ## Statements -/

/-- The rows that a reply to a statement holds. A missing reply holds none. -/
def rowsOf : Option Reply → Except Fault (List (List Json))
  | none => .ok []
  | some (.rows rows _) => .ok rows
  | some (.failure report _) | some (.noStatement report) => .error (.connectionRefused report)

/-- A statement takes the next reply. -/
theorem runs_execute {text : String} {arguments : List Value}
    {result : Except Fault (List (List Json))} (run : Runs (execute text arguments) l result l') :
    result = rowsOf l.replies.head? ∧ l'.replies = l.replies.tail := by
  obtain ⟨_ | ⟨reply, rest⟩, _, _, _, _, _, _, _, _⟩ := l
  · cases run
    exact ⟨rfl, rfl⟩
  · cases reply with
    | rows | failure | noStatement =>
      cases run
      exact ⟨rfl, rfl⟩

theorem failsOn_execute (text : String) (arguments : List Value) :
    FailsOn Fault.IsOutage (execute text arguments) l := by
  intro fault l' run
  have same := (runs_execute run).1
  rcases next : l.replies.head? with _ | _ | _ | _ <;> rw [next] at same <;> cases same
  · exact .inr ⟨_, rfl⟩
  · exact .inr ⟨_, rfl⟩

theorem failsOn_query (text : String) (arguments : List Value) :
    FailsOn Fault.IsUnavailable (query text arguments) l :=
  failsOn_withCursor (failsOn_execute text arguments)

/-- The rows that a statement gives are those of the next reply. -/
theorem rowsOf_of_query {text : String} {arguments : List Value} {rows : List (List Json)}
    (run : Runs (query text arguments) l (.ok rows) l') : rowsOf l.replies.head? = .ok rows := by
  obtain ⟨_, -, same⟩ | ⟨body, -⟩ := runs_withCursor run
  · cases same
  · exact (runs_execute body).1.symm

theorem rowsOf_eq_cons {next : Option Reply} {row : List Json} {rows : List (List Json)}
    (h : rowsOf next = .ok (row :: rows)) :
    ∃ seconds, next = some (.rows (row :: rows) seconds) := by
  rcases next with _ | _ | _ | _ <;> cases h
  exact ⟨_, rfl⟩

theorem failsOn_allExist (names : List String) : FailsOn Fault.IsOutage (allExist names) l := by
  induction names generalizing l with
  | nil => exact failsOn_pure _
  | cons name rest ih =>
    refine .bind ?_ fun found l₁ _ => ?_
    · intro fault l' run
      rw [relationExists, runs_get_bind] at run
      split at run
      · cases (runs_pure.mp run).1
      · cases (runs_throw.mp run).1
        exact .inr ⟨_, rfl⟩
    · split
      · exact ih
      · exact failsOn_pure _

theorem failsOn_isInstalled : FailsOn Fault.IsUnavailable isInstalled l := by
  have tried := failsOn_withCursor (failsOn_allExist (l := l) relationNames)
  intro fault l' run
  rw [isInstalled, runs_get_bind] at run
  split at run
  · cases (runs_pure.mp run).1
  obtain ⟨r, l₁, asked, rest⟩ := runs_attempt_bind.mp run
  split at rest
  · split at rest
    · rw [runs_modify_bind] at rest
      cases (runs_pure.mp rest).1
    · cases (runs_pure.mp rest).1
  · cases (runs_pure.mp rest).1
  · cases (runs_throw.mp rest).1
    exact tried asked

/-! ## The rows that come -/

/-- The replies that come for a lock grant it in the end, unless the server fails before. What comes
after that does not matter. -/
def DecidesLock : List Reply → Prop
  | [] => False
  | .rows ([.bool granted] :: _) _ :: rest => granted = true ∨ DecidesLock rest
  | .rows _ _ :: _ => False
  | _ :: _ => True

/-- The first row that comes, if one comes, has a property. -/
def FirstRow (P : List Json → Prop) (replies : List Reply) : Prop :=
  ∀ row rows seconds, replies.head? = some (.rows (row :: rows) seconds) → P row

/-- The replies that come for a call are of the kinds that it asks for. A timeout is a number. -/
def Fits : Knowledge.Call → List Reply → Prop
  | .findClass _, replies => FirstRow (fun row =>
    ∃ space learn usePrediction autoTune collectStat, row =
      [.int space, .bool learn, .bool usePrediction, .bool autoTune, .bool collectStat]) replies
  | .loadSample _ _, replies => FirstRow (fun row =>
    ∃ target count, row = [target, .int count] ∧
      ∃ number, (Value.ofJson target).toFloat? = some number) replies
  | .lockClass _ timeout, replies =>
    (∃ seconds, timeout.toFloat? = some seconds) ∧ DecidesLock replies
  | _, _ => True

/-! ## Calls -/

/-- What is made of the first row that comes, which is of the kinds that were asked for. -/
theorem failsOn_firstRow {γ : Type} {text : String} {arguments : List Value}
    {read : List Json → Except Fault α} {make : α → Option γ}
    (readable : FirstRow (fun row => ∃ found value, read row = .ok found ∧ make found = some value)
      l.replies) :
    FailsOn Fault.IsUnavailable (do
      let found ← (do
        let rows ← query text arguments
        match rows with
        | [] => return none
        | row :: _ => some <$> ofResult (read row))
      made make found) l := by
  have inner {result : Except Fault (Option α)} {l₁ : Link} (run : Runs (do
        let rows ← query text arguments
        match rows with
        | [] => return none
        | row :: _ => some <$> ofResult (read row)) l result l₁) :
      (∃ fault, result = .error fault ∧ fault.IsUnavailable) ∨
        ∃ found, result = .ok found ∧ ∀ row, found = some row → ∃ value, make row = some value := by
    obtain ⟨rows, l₂, sent, rest⟩ | ⟨fault, rfl, failed⟩ := runs_bind.mp run
    · cases rows with
      | nil =>
        obtain ⟨rfl, -⟩ := runs_pure.mp rest
        exact .inr ⟨none, rfl, by simp⟩
      | cons row rows =>
        obtain ⟨seconds, next⟩ := rowsOf_eq_cons (rowsOf_of_query sent)
        obtain ⟨found, value, same, makes⟩ := readable row rows seconds next
        dsimp only at rest
        rw [same] at rest
        have read : Runs (pure (some found)) l₂ result l₁ := rest
        obtain ⟨rfl, -⟩ := runs_pure.mp read
        refine .inr ⟨_, rfl, ?_⟩
        rintro _ ⟨⟩
        exact ⟨value, makes⟩
    · exact .inl ⟨fault, rfl, failsOn_query _ _ failed⟩
  intro fault l' run
  obtain ⟨found, l₁, given, rest⟩ | ⟨_, same, failed⟩ := runs_bind.mp run
  · obtain ⟨_, ⟨⟩, -⟩ | ⟨_, ⟨⟩, makes⟩ := inner given
    cases found with
    | none => cases (runs_pure.mp rest).1
    | some row =>
      obtain ⟨value, same⟩ := makes row rfl
      dsimp only [made] at rest
      rw [same] at rest
      have makes : Runs (pure (some value)) l₁ (.error fault) l' := rest
      cases (runs_pure.mp makes).1
  · cases same
    obtain ⟨_, ⟨⟩, unavailable⟩ | ⟨_, ⟨⟩, -⟩ := inner failed
    exact unavailable

theorem DecidesLock.rows {rows : List (List Json)} {seconds : Float} {rest : List Reply}
    (h : DecidesLock (.rows rows seconds :: rest)) :
    ∃ granted others, rows = [.bool granted] :: others ∧ (granted = true ∨ DecidesLock rest) := by
  unfold DecidesLock at h
  split at h
  · rename_i same
    cases same
  · rename_i same
    cases same
    exact ⟨_, _, rfl, h⟩
  · exact h.elim
  · rename_i other same
    cases same
    exact absurd rfl (other _ _)

theorem runs_tryLock {queryHash : Int} {granted : Bool} {row : List (List Json)} {seconds : Float}
    {rest : List Reply} {result : Except Fault Bool}
    (next : l.replies = .rows ([.bool granted] :: row) seconds :: rest)
    (run : Runs (tryLock queryHash) l result l') : result = .ok granted ∧ l'.replies = rest := by
  obtain ⟨rows, l₁, sent, decided⟩ | ⟨_, -, failed⟩ := runs_bind.mp run
  · obtain ⟨same, left⟩ := runs_execute sent
    rw [next] at same left
    cases same
    obtain ⟨rfl, rfl⟩ := runs_pure.mp decided
    exact ⟨rfl, left⟩
  · have same := (runs_execute failed).1
    rw [next] at same
    cases same

theorem runs_tryLock_failed {queryHash : Int} {fault : Fault} {result : Except Fault Bool}
    (next : rowsOf l.replies.head? = .error fault) (run : Runs (tryLock queryHash) l result l') :
    result = .error fault := by
  obtain ⟨rows, l₁, sent, -⟩ | ⟨_, rfl, failed⟩ := runs_bind.mp run
  · cases (runs_execute sent).1.trans next
  · cases (runs_execute failed).1.trans next
    rfl

/-- **Trying for a lock** over and over ends with the lock, or fails with an outage. -/
theorem failsOn_poll {queryHash : Int} {deadline : Float} {coming : List Reply}
    (next : l.replies = coming) (decides : DecidesLock coming) :
    FailsOn Fault.IsOutage (poll queryHash deadline coming) l := by
  induction coming generalizing l with
  | nil => exact decides.elim
  | cons reply rest ih =>
    -- Each attempt takes one reply, so the replies after it decide about the attempts after it.
    have goOn {granted : Bool} {rows : List (List Json)} {seconds : Float}
        (next : l.replies = .rows ([.bool granted] :: rows) seconds :: rest)
        (decides : granted = true ∨ DecidesLock rest) :
        FailsOn Fault.IsOutage (poll queryHash deadline (reply :: rest)) l := by
      refine .bind ?_ fun taken l₁ run => ?_
      · intro fault l' run
        cases (runs_tryLock next run).1
      obtain ⟨same, left⟩ := runs_tryLock next run
      cases same
      split
      · exact failsOn_pure _
      rename_i denied
      intro fault l' run
      rw [runs_get_bind] at run
      split at run
      · cases (runs_throw.mp run).1
        exact .inl ⟨_, rfl⟩
      · refine ih ?_ (decides.resolve_left denied) run
        exact left
    have giveUp {report : String}
        (next : rowsOf l.replies.head? = .error (.connectionRefused report)) :
        FailsOn Fault.IsOutage (poll queryHash deadline (reply :: rest)) l := by
      refine .bind ?_ fun taken l₁ run => ?_
      · intro fault l' run
        cases runs_tryLock_failed next run
        exact .inr ⟨report, rfl⟩
      · cases runs_tryLock_failed next run
    cases reply with
    | rows rows seconds =>
      obtain ⟨granted, others, rfl, decided⟩ := decides.rows
      exact goOn next decided
    | failure report | noStatement report =>
      have reported : rowsOf l.replies.head? = .error (.connectionRefused report) := by
        rw [next]
        rfl
      exact giveUp reported

theorem failsOn_log (entries : List Value) : FailsOn P (log entries) l := by
  intro fault l' run
  cases (runs_modify_bind (f := pure)).mp run

theorem failsOn_acquire {queryHash : Int} {timeout : Float} (decides : DecidesLock l.replies) :
    FailsOn Fault.IsUnavailable (acquire queryHash timeout) l := by
  intro fault l' run
  rw [acquire, runs_get_bind] at run
  exact (failsOn_withCursor (failsOn_poll rfl decides)).bind (fun _ _ _ => failsOn_log _) run

/-- **A knowledge base on a server** fails only because it is unavailable, if the replies that come
are of the kinds that were asked for. -/
theorem failsOn_answer {call : Knowledge.Call} (fits : Fits call l.replies) :
    FailsOn Fault.IsUnavailable (answer call) l := by
  cases call with
  | isInstalled => exact failsOn_isInstalled
  | findClass queryHash =>
    refine failsOn_firstRow fun row rows seconds next => ?_
    obtain ⟨space, learn, usePrediction, autoTune, collectStat, rfl⟩ := fits row rows seconds next
    exact ⟨_, _, rfl, rfl⟩
  | upsertClass c =>
    exact (failsOn_log _).bind fun _ _ _ => (failsOn_query _ _).bind fun _ _ _ => failsOn_pure _
  | loadSample space key =>
    refine failsOn_firstRow fun row rows seconds next => ?_
    obtain ⟨target, count, rfl, number, same⟩ := fits row rows seconds next
    refine ⟨⟨target, .int count⟩, ⟨number, count⟩, rfl, ?_⟩
    rw [SampleRow.sample?, same]
  | lockClass queryHash timeout =>
    obtain ⟨⟨seconds, number⟩, decides⟩ := fits
    intro fault l' run
    have locks : Runs (ofResult (ofKind timeout.toFloat?) >>= acquire queryHash) l
      (.error fault) l' := run
    rw [number, ofKind, runs_ok_bind] at locks
    exact failsOn_acquire decides locks
  | recordText | storeSample | unlockClass =>
    exact (failsOn_query _ _).bind fun _ _ _ => failsOn_pure _

end Server

/-! ## Replies of knowledge bases -/

namespace Knowledge

/-- A knowledge base in memory fails only because it is unavailable, if it accepts the timeouts with
which its locks are taken. -/
theorem Store.isUnavailable_of_answer {s : Store} {call : Call} {fault : Fault}
    (accepted : ∀ queryHash timeout, call = .lockClass queryHash timeout →
      checkTimeout timeout = .ok ())
    (failed : (s.answer call).1 = .error fault) : fault.IsUnavailable := by
  rw [Store.answer] at failed
  split at failed
  · cases failed
    exact ⟨_, rfl⟩
  cases call with
  | lockClass queryHash timeout =>
    have taken : s.lockClass queryHash timeout =
        if s.locked.contains queryHash then .error (.unavailable (.lockHeld queryHash))
        else .ok { s with locked := queryHash :: s.locked } := by
      rw [Store.lockClass, accepted queryHash timeout rfl]
      rfl
    rw [Store.reply, taken] at failed
    split at failed
    · rename_i free
      split at free
      · cases free
      · cases failed
    · rename_i fault held
      split at held
      · cases held
        cases failed
        exact ⟨_, rfl⟩
      · cases held
  | isInstalled | findClass | upsertClass | recordText | loadSample | storeSample | unlockClass =>
    cases failed

/-- What a knowledge base may reply to a call. Each call may fail at any time, because the knowledge
base is unavailable. -/
inductive MayReply : (call : Call) → Except Fault call.Reply → Prop
  | value {call : Call} (value : call.Reply) : MayReply call (.ok value)
  | outage {call : Call} (cause : Unavailability) : MayReply call (.error (.unavailable cause))
  /-- A knowledge base in memory, which accepts the timeout with which a lock is taken. -/
  | memory {call : Call} (s : Store) :
      (∀ queryHash timeout, call = .lockClass queryHash timeout → checkTimeout timeout = .ok ()) →
      MayReply call (s.answer call).1
  /-- A knowledge base on a server, which may fail at any statement. -/
  | server {call : Call} (l : Server.Link) : Server.Fits call l.replies →
      MayReply call ((Server.answer call).run.run l).1

/-- **Every knowledge base** fails only because it is unavailable. -/
theorem MayReply.isUnavailable {call : Call} {fault : Fault}
    (h : MayReply call (.error fault)) : fault.IsUnavailable := by
  generalize same : Except.error fault = reply at h
  cases h with
  | value => cases same
  | outage cause =>
    cases same
    exact ⟨cause, rfl⟩
  | memory s accepted => exact s.isUnavailable_of_answer accepted same.symm
  | server l fits => exact Server.failsOn_answer fits (Prod.ext same.symm rfl)

end Knowledge

end CardinalityAdvisor
