import CardinalityAdvisor.Proofs.Knowledge.Outages

/-!
# Waiting for the lock of a class

The lock of a class is tried for in rounds. A round that is refused ends in a short wait, unless the
clock has reached the deadline. So an attempt is followed by another one only if it was refused
before the deadline, and the last attempt decides about everything: if it was granted, whatever was
to be done under the lock is done once, right after it, and then the lock is given back once; if
not, nothing is done, and no lock is given back.

## Main definitions

* `Link.sent`, `Link.round`: the connection after a statement, and after a round that was refused
* `Link.polled queryHash n l`, `Link.attempted queryHash n l`: the connection after so many rounds,
  and after the attempt that follows them
* `lockAnswer next`: whether a reply to an attempt grants the lock
* `Link.goesOn queryHash deadline n l`: an attempt is refused before the deadline

## Main results

* `polled_of_poll`: how trying for a lock over and over ends
* `granted_or_refused`: what is done under the lock of a class
-/

namespace CardinalityAdvisor.Server

variable {α : Type} {l l' : Link}

/-! ## Statements -/

/-- The connection after a statement was sent, which takes the next reply. A connection that takes
no statement is not sent one. -/
def Link.sent (text : String) (arguments : List Value) (l : Link) : Link :=
  match l.replies with
  | [] => { l with events := .statement text arguments :: l.events }
  | .rows _ seconds :: rest | .failure _ seconds :: rest =>
    { l with
      replies := rest
      clock := l.clock + seconds
      events := .statement text arguments :: l.events }
  | .noStatement _ :: rest => { l with replies := rest }

/-- What is sent for a statement, by the next reply. -/
def sentEvents (text : String) (arguments : List Value) : Option Reply → List Event
  | some (.noStatement _) => []
  | _ => [.statement text arguments]

section

variable (text : String) (arguments : List Value)

theorem Link.replies_sent (l : Link) : (l.sent text arguments).replies = l.replies.tail := by
  obtain ⟨_ | ⟨_ | _ | _, rest⟩, _, _, _, _, _, _, _, _, _⟩ := l <;> rfl

theorem Link.pollInterval_sent (l : Link) :
    (l.sent text arguments).pollInterval = l.pollInterval := by
  obtain ⟨_ | ⟨_ | _ | _, rest⟩, _, _, _, _, _, _, _, _, _⟩ := l <;> rfl

theorem Link.events_sent (l : Link) :
    (l.sent text arguments).events = sentEvents text arguments l.replies.head? ++ l.events := by
  obtain ⟨_ | ⟨_ | _ | _, rest⟩, _, _, _, _, _, _, _, _, _⟩ := l <;> rfl

end

theorem sent_of_execute {text : String} {arguments : List Value}
    {result : Except Fault (List (List Json))} (run : Runs (execute text arguments) l result l') :
    l' = l.sent text arguments := by
  obtain ⟨_ | ⟨reply, rest⟩, _, _, _, _, _, _, _, _, _⟩ := l
  · cases run
    rfl
  · cases reply with
    | rows | failure | noStatement =>
      cases run
      rfl

/-- The statement that tries for a lock. -/
def tryStatement : String := "SELECT pg_try_advisory_lock(%s)"

/-- The statement that gives a lock back. -/
def unlockStatement : String := "SELECT pg_advisory_unlock(%s)"

/-- Whether a reply to an attempt grants the lock. The first row that comes should be a single
value. -/
def lockAnswer (next : Option Reply) : Except Fault Bool := do
  match ← rowsOf next with
  | [] => .error .wrongKind
  | [granted] :: _ => .ok (Value.ofJson granted).holds
  | row :: _ => .error (.rowWidth 1 row.length)

/-- An attempt ends as its reply says. -/
theorem lockAnswer_of_tryLock {queryHash : Int} {result : Except Fault Bool}
    (run : Runs (tryLock queryHash) l result l') :
    result = lockAnswer l.replies.head? ∧ l' = l.sent tryStatement [.int queryHash] := by
  obtain ⟨rows, l₁, sent, decided⟩ | ⟨fault, rfl, failed⟩ := runs_bind.mp run
  · have left := sent_of_execute sent
    rw [lockAnswer, ← (runs_execute sent).1]
    rw [left] at decided
    rcases rows with _ | ⟨_ | ⟨granted, _ | _⟩, _⟩
    · exact runs_throw.mp decided
    · exact runs_throw.mp decided
    · exact runs_pure.mp decided
    · exact runs_throw.mp decided
  · rw [lockAnswer, ← (runs_execute failed).1]
    exact ⟨rfl, sent_of_execute failed⟩

/-! ## Rounds -/

namespace Link

/-- The connection after an attempt that was refused and the wait after it. -/
def round (queryHash : Int) (l : Link) : Link :=
  let tried := l.sent tryStatement [.int queryHash]
  let seconds := tried.pollInterval.seconds
  { tried with clock := tried.clock + seconds, events := .wait seconds :: tried.events }

/-- The connection after so many rounds. -/
def polled (queryHash : Int) : Nat → Link → Link
  | 0, l => l
  | n + 1, l => (l.round queryHash).polled queryHash n

/-- The connection after the attempt that follows so many rounds. -/
def attempted (queryHash : Int) (n : Nat) (l : Link) : Link :=
  (l.polled queryHash n).sent tryStatement [.int queryHash]

/-- The attempt after so many rounds is refused before the deadline. -/
def goesOn (queryHash : Int) (deadline : Float) (n : Nat) (l : Link) : Prop :=
  lockAnswer l.replies[n]? = .ok false ∧ ¬ (l.attempted queryHash n).clock ≥ deadline

variable {queryHash : Int} {deadline : Float}

theorem replies_round (queryHash : Int) (l : Link) :
    (l.round queryHash).replies = l.replies.tail := replies_sent _ _ l

theorem pollInterval_round (queryHash : Int) (l : Link) :
    (l.round queryHash).pollInterval = l.pollInterval := pollInterval_sent _ _ l

/-- What follows a round is the same as what follows one attempt more. -/
theorem goesOn_round {n : Nat} :
    (l.round queryHash).goesOn queryHash deadline n ↔ l.goesOn queryHash deadline (n + 1) := by
  unfold goesOn
  rw [replies_round, List.getElem?_tail]
  exact Iff.rfl

theorem replies_polled (queryHash : Int) (n : Nat) (l : Link) :
    (l.polled queryHash n).replies = l.replies.drop n := by
  induction n generalizing l with
  | zero => rfl
  | succ n ih => rw [polled, ih, replies_round, List.drop_tail]

end Link

/-- The events of so many rounds with a pause after each attempt. -/
def rounds (queryHash : Int) (pause : Pause) : Nat → List Event
  | 0 => []
  | n + 1 =>
    rounds queryHash pause n ++ [.wait pause.seconds, .statement tryStatement [.int queryHash]]

/-- How the last attempt ends, by its reply. -/
def outcomeOf (queryHash : Int) : Except Fault Bool → Except Fault Unit
  | .ok true => .ok ()
  | .ok false => .error (.unavailable (.lockTimeout queryHash))
  | .error fault => .error fault

theorem runs_wait_bind {seconds : Float} {f : PUnit → Action α} {result : Except Fault α} :
    Runs (wait seconds >>= f) l result l' ↔
      Runs (f ⟨⟩) { l with clock := l.clock + seconds, events := .wait seconds :: l.events }
        result l' := Iff.rfl

/-- **Trying for a lock over and over** takes some rounds. All attempts but the last one are refused
before the deadline, and the last one is not. -/
theorem polled_of_poll {queryHash : Int} {deadline : Float} {coming : List Reply}
    {result : Except Fault Unit} (next : l.replies = coming)
    (run : Runs (poll queryHash deadline coming) l result l') :
    ∃ n, (∀ k < n, l.goesOn queryHash deadline k) ∧ ¬ l.goesOn queryHash deadline n ∧
      l' = l.attempted queryHash n ∧ result = outcomeOf queryHash (lockAnswer l.replies[n]?) := by
  have last {r : Except Fault Bool} {l₁ : Link} {l : Link} (tried : Runs (tryLock queryHash) l r l₁)
      (ended : l' = l₁) (decided : result = outcomeOf queryHash r)
      (stops : ¬ (r = .ok false ∧ ¬ l₁.clock ≥ deadline)) :
      ∃ n, (∀ k < n, l.goesOn queryHash deadline k) ∧ ¬ l.goesOn queryHash deadline n ∧
        l' = l.attempted queryHash n ∧
        result = outcomeOf queryHash (lockAnswer l.replies[n]?) := by
    obtain ⟨same, left⟩ := lockAnswer_of_tryLock tried
    rw [List.head?_eq_getElem?] at same
    rw [left, same] at stops
    rw [same] at decided
    exact ⟨0, nofun, stops, ended.trans left, decided⟩
  induction coming generalizing l with
  | nil =>
    obtain ⟨granted, l₁, tried, -⟩ | ⟨fault, rfl, failed⟩ := runs_bind.mp run
    · have same := (lockAnswer_of_tryLock tried).1
      rw [next] at same
      cases same
    · exact last failed rfl rfl (by simp)
  | cons reply rest ih =>
    obtain ⟨granted, l₁, tried, decided⟩ | ⟨fault, rfl, failed⟩ := runs_bind.mp run
    · cases granted with
      | true =>
        obtain ⟨rfl, rfl⟩ := runs_pure.mp decided
        exact last tried rfl rfl (by simp)
      | false =>
        rw [if_neg Bool.false_ne_true, runs_get_bind] at decided
        split at decided
        · rename_i late
          obtain ⟨rfl, rfl⟩ := runs_throw.mp decided
          exact last tried rfl rfl (by simp [late])
        · rename_i early
          rw [runs_wait_bind] at decided
          obtain ⟨refused, rfl⟩ := lockAnswer_of_tryLock tried
          have coming : (l.round queryHash).replies = rest := by
            rw [Link.replies_round, next, List.tail_cons]
          obtain ⟨n, before, stops, ended, same⟩ := ih coming decided
          rw [Link.goesOn_round] at stops
          rw [Link.replies_round, List.getElem?_tail] at same
          refine ⟨n + 1, fun k earlier => ?_, stops, ended, same⟩
          cases k with
          | zero =>
            rw [List.head?_eq_getElem?] at refused
            exact ⟨refused.symm, early⟩
          | succ k => exact Link.goesOn_round.mp (before k (Nat.lt_of_succ_lt_succ earlier))
    · exact last failed rfl rfl (by simp)

/-- An attempt that was answered has been sent. -/
theorem sentEvents_of_refused {text : String} {arguments : List Value} {replies : List Reply}
    {granted : Bool} (answered : lockAnswer replies[0]? = .ok granted) :
    sentEvents text arguments replies.head? = [.statement text arguments] := by
  obtain _ | ⟨_ | _ | _, _⟩ := replies
  · rfl
  · rfl
  · rfl
  · cases answered

/-- Attempts that were refused before the deadline, and the waits after them, are all that happens
in the rounds before the last attempt. -/
theorem events_polled {queryHash : Int} {deadline : Float} {n : Nat}
    (before : ∀ k < n, l.goesOn queryHash deadline k) :
    (l.polled queryHash n).events = rounds queryHash l.pollInterval n ++ l.events := by
  induction n generalizing l with
  | zero => rfl
  | succ n ih =>
    have later (k : Nat) (earlier : k < n) : (l.round queryHash).goesOn queryHash deadline k :=
      Link.goesOn_round.mpr (before (k + 1) (Nat.succ_lt_succ earlier))
    have first : (l.sent tryStatement [.int queryHash]).events =
        .statement tryStatement [.int queryHash] :: l.events := by
      rw [Link.events_sent, sentEvents_of_refused (before 0 (Nat.succ_pos n)).1]
      rfl
    rw [Link.polled, ih later, Link.pollInterval_round, Link.round, first, Link.pollInterval_sent,
      rounds, List.append_assoc]
    rfl

/-! ## Under the lock -/

/-- What a cursor makes of a result: a failure that the server reports means that the knowledge base
is unavailable. -/
def translated : Except Fault α → Except Fault α
  | .error (.connectionRefused report) => .error (.unavailable (.server report))
  | result => result

theorem translated_of_withCursor {body : Action α} {result : Except Fault α}
    (run : Runs (withCursor body) l result l') :
    ∃ r, Runs body l r l' ∧ result = translated r := by
  obtain ⟨report, body, rfl⟩ | ⟨body, other⟩ := runs_withCursor run
  · exact ⟨_, body, rfl⟩
  · refine ⟨result, body, ?_⟩
    unfold translated
    split
    · exact absurd rfl (other _)
    · rfl

/-- How the attempt to get a lock fails, by the reply to the last attempt. -/
def refusal (queryHash : Int) : Except Fault Bool → Fault
  | .ok _ => .unavailable (.lockTimeout queryHash)
  | .error (.connectionRefused report) => .unavailable (.server report)
  | .error fault => fault

theorem translated_outcomeOf (queryHash : Int) (answer : Except Fault Bool) :
    answer = .ok true ∧ translated (outcomeOf queryHash answer) = .ok () ∨
      answer ≠ .ok true ∧
        translated (outcomeOf queryHash answer) = .error (refusal queryHash answer) := by
  obtain fault | _ | _ := answer
  · refine .inr ⟨nofun, ?_⟩
    cases fault <;> rfl
  · exact .inr ⟨nofun, rfl⟩
  · exact .inl ⟨rfl, rfl⟩

/-- The server answers an attempt with a row of one value, or fails. -/
def Reply.AnswersLock : Reply → Prop
  | .rows given _ => ∃ granted others, given = [granted] :: others
  | _ => True

/-- A server that answers like that refuses a lock only as one that is unavailable. -/
theorem Reply.AnswersLock.isUnavailable {reply : Reply} (h : reply.AnswersLock) (queryHash : Int) :
    (refusal queryHash (lockAnswer (some reply))).IsUnavailable := by
  cases reply with
  | rows given seconds =>
    obtain ⟨granted, others, rfl⟩ := h
    exact ⟨_, rfl⟩
  | failure report seconds | noStatement report => exact ⟨_, rfl⟩

/-- The connection after it was logged that the lock was taken. -/
def Link.logged (queryHash : Int) (l : Link) : Link :=
  if l.verbose then { l with lines := [.text "Acquired class lock", .int queryHash] :: l.lines }
  else l

theorem granted_or_refused_of_acquire {queryHash : Int} {timeout : Float}
    {result : Except Fault Unit} (run : Runs (acquire queryHash timeout) l result l') :
    ∃ n, (∀ k < n, l.goesOn queryHash (l.clock + timeout) k) ∧
      ¬ l.goesOn queryHash (l.clock + timeout) n ∧
      (lockAnswer l.replies[n]? = .ok true ∧ result = .ok () ∧
          l' = (l.attempted queryHash n).logged queryHash ∨
        lockAnswer l.replies[n]? ≠ .ok true ∧ l' = l.attempted queryHash n ∧
          result = .error (refusal queryHash (lockAnswer l.replies[n]?))) := by
  rw [acquire, runs_get_bind] at run
  have polled {r : Except Fault Unit} {l₁ : Link}
      (run : Runs (withCursor (poll queryHash (l.clock + timeout) l.replies)) l r l₁) :
      ∃ n, (∀ k < n, l.goesOn queryHash (l.clock + timeout) k) ∧
        ¬ l.goesOn queryHash (l.clock + timeout) n ∧ l₁ = l.attempted queryHash n ∧
        r = translated (outcomeOf queryHash (lockAnswer l.replies[n]?)) := by
    obtain ⟨_, polling, rfl⟩ := translated_of_withCursor run
    obtain ⟨n, before, stops, ended, rfl⟩ := polled_of_poll rfl polling
    exact ⟨n, before, stops, ended, rfl⟩
  obtain ⟨_, l₁, taken, logging⟩ | ⟨fault, rfl, failed⟩ := runs_bind.mp run
  · obtain ⟨n, before, stops, rfl, decided⟩ := polled taken
    cases (runs_modify_bind (f := pure)).mp logging
    obtain ⟨granted, -⟩ | ⟨-, refused⟩ :=
      translated_outcomeOf queryHash (lockAnswer l.replies[n]?)
    · exact ⟨n, before, stops, .inl ⟨granted, rfl, rfl⟩⟩
    · cases decided.trans refused
  · obtain ⟨n, before, stops, ended, decided⟩ := polled failed
    obtain ⟨-, taken⟩ | ⟨denied, refused⟩ :=
      translated_outcomeOf queryHash (lockAnswer l.replies[n]?)
    · cases decided.trans taken
    · exact ⟨n, before, stops, .inr ⟨denied, ended, decided.trans refused⟩⟩

/-- To give a lock back is to send one statement. -/
theorem runs_release {queryHash : Int} {result : Except Fault Unit}
    (run : Runs (release queryHash) l result l') :
    l' = l.sent unlockStatement [.int queryHash] ∧
      result = (translated (rowsOf l.replies.head?)).map fun _ => () := by
  have sent {r : Except Fault (List (List Json))} {l₁ : Link}
      (run : Runs (query "SELECT pg_advisory_unlock(%s)" [.int queryHash]) l r l₁) :
      l₁ = l.sent unlockStatement [.int queryHash] ∧ r = translated (rowsOf l.replies.head?) := by
    obtain ⟨_, executed, rfl⟩ := translated_of_withCursor run
    exact ⟨sent_of_execute executed, by rw [(runs_execute executed).1]⟩
  obtain ⟨rows, l₁, given, last⟩ | ⟨fault, rfl, failed⟩ := runs_bind.mp run
  · obtain ⟨rfl, same⟩ := sent given
    obtain ⟨rfl, rfl⟩ := runs_pure.mp last
    rw [← same]
    exact ⟨rfl, rfl⟩
  · obtain ⟨left, same⟩ := sent failed
    rw [← same]
    exact ⟨left, rfl⟩

/-- A lock is given back before the result of what was done under it counts. -/
theorem runs_release_bind {queryHash : Int} {done result : Except Fault α}
    (run : Runs (do release queryHash; ofResult done) l result l') :
    l' = l.sent unlockStatement [.int queryHash] ∧
      result = (translated (rowsOf l.replies.head?)).bind fun _ => done := by
  obtain ⟨_, l₁, given, last⟩ | ⟨fault, rfl, failed⟩ := runs_bind.mp run
  · obtain ⟨rfl, unlocked⟩ := runs_release given
    obtain ⟨rfl, rfl⟩ := runs_ofResult.mp last
    cases back : translated (rowsOf l.replies.head?) with
    | ok rows => exact ⟨rfl, rfl⟩
    | error fault =>
      rw [back] at unlocked
      cases unlocked
  · obtain ⟨rfl, unlocked⟩ := runs_release failed
    cases back : translated (rowsOf l.replies.head?) with
    | ok rows =>
      rw [back] at unlocked
      cases unlocked
    | error fault =>
      rw [back] at unlocked
      cases unlocked
      exact ⟨rfl, rfl⟩

/-- **The lock of a class** is tried for in rounds: one attempt after the other, each of them but
the last one refused before the deadline and followed by the pause of the connection, however long
that is, and nothing else is sent. If the last attempt is granted,
the body runs once, right after it, and then one statement gives the lock back, however the body has
ended. If not, nothing else happens, and the knowledge base is unavailable unless the server has
answered with something else than a row of one value. -/
theorem granted_or_refused {queryHash : Int} {timeout : Float} {body : Action α}
    {result : Except Fault α} (run : Runs (underLock queryHash timeout body) l result l') :
    ∃ n, (∀ k < n, l.goesOn queryHash (l.clock + timeout) k) ∧
      ¬ l.goesOn queryHash (l.clock + timeout) n ∧
      (l.attempted queryHash n).events =
        sentEvents tryStatement [.int queryHash] l.replies[n]? ++
          (rounds queryHash l.pollInterval n ++ l.events) ∧
      (lockAnswer l.replies[n]? = .ok true ∧
          (∃ done l₁, Runs body ((l.attempted queryHash n).logged queryHash) done l₁ ∧
            l' = l₁.sent unlockStatement [.int queryHash] ∧
            result = (translated (rowsOf l₁.replies.head?)).bind fun _ => done) ∨
        lockAnswer l.replies[n]? ≠ .ok true ∧ l' = l.attempted queryHash n ∧
          result = .error (refusal queryHash (lockAnswer l.replies[n]?)) ∧
          ∀ reply, l.replies[n]? = some reply → reply.AnswersLock →
            (refusal queryHash (lockAnswer l.replies[n]?)).IsUnavailable) := by
  have sent {n : Nat} (before : ∀ k < n, l.goesOn queryHash (l.clock + timeout) k) :
      (l.attempted queryHash n).events = sentEvents tryStatement [.int queryHash] l.replies[n]? ++
        (rounds queryHash l.pollInterval n ++ l.events) := by
    rw [Link.attempted, Link.events_sent, Link.replies_polled, List.head?_drop,
      events_polled before]
  obtain ⟨_, l₁, taken, holding⟩ | ⟨fault, rfl, failed⟩ := runs_bind.mp run
  · obtain ⟨n, before, stops, ⟨granted, -, rfl⟩ | ⟨-, -, refused⟩⟩ :=
      granted_or_refused_of_acquire taken
    · refine ⟨n, before, stops, sent before, .inl ⟨granted, ?_⟩⟩
      obtain ⟨done, l₂, inside, leaving⟩ := runs_attempt_bind.mp holding
      exact ⟨done, l₂, inside, runs_release_bind leaving⟩
    · cases refused
  · obtain ⟨n, before, stops, ⟨-, taken, -⟩ | ⟨denied, ended, refused⟩⟩ :=
      granted_or_refused_of_acquire failed
    · cases taken
    · cases refused
      refine ⟨n, before, stops, sent before, .inr ⟨denied, ended, rfl, ?_⟩⟩
      intro reply next answers
      rw [next]
      exact answers.isUnavailable queryHash

/-- A server that grants the lock at once. -/
def granting : Link := { replies := [.rows [[.bool true]] 0, .rows [[.bool true]] 0] }

/-- Something that fails after it was begun. -/
def failing : Action Unit := do
  note .inside
  throw .overflow

/-- A lock that is granted at once is given back although the body fails. -/
theorem granted_or_refused_failing :
    ∃ l', Runs (underLock 7 1 failing) granting (.error .overflow) l' ∧
      ∃ l₁, Runs failing ((granting.attempted 7 0).logged 7) (.error .overflow) l₁ ∧
        l' = l₁.sent unlockStatement [.int 7] := by
  have run : Runs (underLock 7 1 failing) granting (.error .overflow)
      ((underLock 7 1 failing).run.run granting).2 := rfl
  obtain ⟨_ | n, before, -, -, ⟨-, done, l₁, inside, back, -⟩ | ⟨denied, -⟩⟩ :=
    granted_or_refused run
  · cases inside
    exact ⟨_, run, _, rfl, back⟩
  · exact absurd rfl denied
  · cases (before 0 (Nat.succ_pos n)).1
  · cases (before 0 (Nat.succ_pos n)).1

end CardinalityAdvisor.Server
