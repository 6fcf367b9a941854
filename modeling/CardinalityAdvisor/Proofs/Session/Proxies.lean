import CardinalityAdvisor.Proofs.Session.ReservedRelations
import CardinalityAdvisor.Proofs.Settings.Reading

/-!
# Connection proxies named by the environment

The variable of the patterns is a text of entries between commas, each of which is meant to be a
part of the names of some proxies. An entry without characters is a part of every name. So where
the text is empty, or has a comma at its front or its end, or two in a row, every client counts as
a proxy, and no query that comes so far is ever touched.

## Main definitions

* `Text.Gapped`: an entry of a text has no characters
* `NamesProxy text name`: an entry of a text has characters, and is a part of a name
* `ComesToProxies stmt mode s s'`: the guards before the one against proxies let a query pass
* `proxyGuards`: that guard and those after it

## Main results

* `nil_mem_pieces_iff`: where an entry without characters can be
* `isProxy_entries`: which clients count as proxies
* `stopped_or_comesToProxies`, `runs_proxyGuards`: the guards before and from that against proxies
* `rejected_as_proxy_iff`: which queries are left alone as those of a proxy
-/

namespace CardinalityAdvisor

open CardinalityAdvisor.Action

namespace Text

variable (separator : Char)

/-- The first part of a text is empty if a separator or nothing is at the front. -/
theorem head?_pieces_eq_nil_iff (cs : List Char) :
    (pieces separator cs).head? = some [] ↔ cs = [] ∨ cs.head? = some separator := by
  cases cs with
  | nil => simp [pieces]
  | cons c cs =>
    rw [pieces]
    split
    · simp [*]
    · split <;> simp [*]

/-- Another part is empty if a separator is at the end or two stand side by side. -/
theorem nil_mem_tail_pieces_iff (cs : List Char) :
    [] ∈ (pieces separator cs).tail ↔
      cs.getLast? = some separator ∨ [separator, separator] <:+: cs := by
  induction cs with
  | nil => simp [pieces]
  | cons c cs ih =>
    obtain ⟨piece, rest, parts⟩ := List.exists_cons_of_ne_nil (pieces_ne_nil separator cs)
    have first := head?_pieces_eq_nil_iff separator cs
    rw [parts] at ih first
    rw [pieces, List.infix_cons_iff]
    by_cases same : c = separator
    · subst same
      rw [if_pos rfl, parts]
      cases cs with
      | nil => simp_all
      | cons d ds =>
        simp only [List.head?_cons, Option.some.injEq, List.tail_cons, reduceCtorEq, false_or]
          at first ih
        simp only [List.tail_cons, List.mem_cons, ih, List.getLast?_cons_cons,
          List.cons_prefix_cons, List.nil_prefix, true_and, and_true, @eq_comm _ [] piece, first,
          @eq_comm _ d c]
        exact or_left_comm
    · have apart : ¬[separator, separator] <+: c :: cs :=
        fun front => same (List.cons_prefix_cons.mp front).1.symm
      rw [if_neg same, parts, List.tail_cons, or_iff_right apart]
      rw [List.tail_cons] at ih
      rw [ih]
      cases cs with
      | nil => simp [same]
      | cons d ds => rw [List.getLast?_cons_cons]

/-- A part is empty if the text is, or if a separator stands at its front, at its end, or beside
another one. -/
theorem nil_mem_pieces_iff (cs : List Char) :
    [] ∈ pieces separator cs ↔ cs = [] ∨ cs.head? = some separator ∨
      cs.getLast? = some separator ∨ [separator, separator] <:+: cs := by
  have first := head?_pieces_eq_nil_iff separator cs
  have others := nil_mem_tail_pieces_iff separator cs
  obtain ⟨piece, rest, parts⟩ := List.exists_cons_of_ne_nil (pieces_ne_nil separator cs)
  rw [parts, List.head?_cons, Option.some.injEq] at first
  rw [parts, List.tail_cons] at others
  rw [parts, List.mem_cons, others, eq_comm, first, or_assoc]

/-- One of the entries of a text between commas has no characters: there are none at all, or a comma
stands at the front, at the end, or beside another one. -/
def Gapped (text : String) : Prop :=
  text = "" ∨ text.toList.head? = some ',' ∨ text.toList.getLast? = some ',' ∨
    [',', ','] <:+: text.toList

theorem gapped_iff (text : String) : Gapped text ↔ [] ∈ pieces ',' text.toList := by
  rw [nil_mem_pieces_iff, String.toList_eq_nil_iff]
  rfl

end Text

/-- One of the entries of a text between commas has characters, and is a part of a name. -/
def NamesProxy (text name : String) : Prop :=
  ∃ entry ∈ Text.pieces ',' text.toList, entry ≠ [] ∧ entry <:+: name.toList

/-- The guards before the one against proxies let a query pass in the session `s`, which becomes
`s'`. -/
structure ComesToProxies (stmt : Json) (mode : Mode) (s s' : Session) : Prop where
  present : s.host.creatingExtension = false ∧ s'.confirmed = true
  dml : ∃ kind, statementKind stmt = .ok kind ∧ kind.isDml = true
  leader : s.host.parallelWorker = false
  wanted : nothingWanted s.settings mode = .ok false

variable {s s' : Session} {t : List Asked} {start text name : String}
  {environment : List (String × String)} {stmt : Json} {mode : Mode}

/-! ## Clients that count as proxies -/

/-- The patterns of the environment are the entries of their variable. -/
theorem patterns_of_ofEnvironment {settings : Settings}
    (given : environment.lookup (start ++ "PROXY_APPLICATION_PATTERNS") = some text)
    (read : Settings.ofEnvironment start environment = .ok settings) :
    settings.patterns = .ok
      (((Text.pieces ',' text.toList).map String.ofList).map .text) := by
  have upper : "proxy_application_patterns".toUpper = "PROXY_APPLICATION_PATTERNS" := by
    decide +kernel
  rw [Settings.ofEnvironment_eq] at read
  obtain ⟨-, _, _, _, _, members, -, -, -, -, patterns, rfl⟩ := Settings.ofFields_eq_ok_iff.mp read
  rw [Settings.lookup_environmentFields (by decide), upper, given] at patterns
  cases patterns
  rw [List.map_map]
  rfl

/-- With patterns from the environment, a client counts as a proxy if its name has an entry as a
part, and always if there is an entry without characters. -/
theorem isProxy_entries (text name : String) :
    ∃ proxy, isProxy (.text name)
        (((Text.pieces ',' text.toList).map String.ofList).map .text) = .ok proxy ∧
      (proxy = true ↔ Text.Gapped text ∨ NamesProxy text name) := by
  obtain ⟨proxy, found, part⟩ :=
    isProxy_texts name ((Text.pieces ',' text.toList).map String.ofList)
  refine ⟨proxy, found, part.trans ?_⟩
  rw [Text.gapped_iff]
  constructor
  · rintro ⟨_, member, occurs⟩
    obtain ⟨entry, among, rfl⟩ := List.mem_map.mp member
    rw [String.toList_ofList] at occurs
    by_cases empty : entry = []
    · exact .inl (empty ▸ among)
    · exact .inr ⟨entry, among, empty, occurs⟩
  · rintro (empty | ⟨entry, member, -, occurs⟩)
    · exact ⟨_, List.mem_map_of_mem empty, by simp⟩
    · refine ⟨_, List.mem_map_of_mem member, ?_⟩
      rwa [String.toList_ofList]

/-! ## Queries that are left alone -/

/-- The guard against connection proxies and those after it. -/
def proxyGuards (stmt : Json) (session : Session) : Action (Option SkipReason) := do
  let patterns ← ofResult session.settings.patterns
  if ← ofResult (isProxy session.host.applicationName patterns) then return some .connectionProxy
  let own ← ask .knowledgeRelations
  if ← Action.ofTree (usesSystemRelations own stmt) then return some .systemRelations
  if session.host.recoveryInProgress then return some .recovery
  return none

/-- A query is stopped by a guard before that against proxies, or it comes there. -/
theorem stopped_or_comesToProxies {result : Except Fault (Option SkipReason)}
    (run : Runs (skipReason stmt mode) s t result s') :
    (¬ComesToProxies stmt mode s s' ∧ result ≠ .ok (some .connectionProxy)) ∨
      ∃ s₁ t₁, ComesToProxies stmt mode s s₁ ∧ Runs (proxyGuards stmt s) s₁ t₁ result s' := by
  rw [skipReason] at run
  obtain ⟨t₁, t₂, present, s₁, rfl, knowledge, run⟩ | ⟨fault, rfl, failed⟩ := runs_bind.mp run
  swap
  · refine .inl ⟨fun comes => ?_, by simp⟩
    cases (runs_knowledgePresent failed).1.mpr comes.present
  have isPresent := (runs_knowledgePresent knowledge).1
  rw [Except.ok.injEq] at isPresent
  have same : SameButConfirmed s s₁ := within_knowledgePresent knowledge
  have settings : s₁.settings = s.settings := by rw [same]
  have host : s₁.host = s.host := by rw [same]
  rcases runs_guard.mp run with ⟨absent, -, rfl, rfl⟩ | ⟨isThere, run⟩
  · refine .inl ⟨fun comes => ?_, by simp⟩
    rw [isPresent.mpr comes.present] at absent
    cases absent
  rw [runs_get_bind, settings, host] at run
  obtain ⟨kind, isKind, run⟩ | ⟨fault, failed, -, rfl, rfl⟩ := runs_ofTree_bind.mp run
  swap
  · refine .inl ⟨fun comes => ?_, by simp⟩
    obtain ⟨kind, isKind, -⟩ := comes.dml
    rw [isKind] at failed
    cases failed
  rcases runs_guard.mp run with ⟨utility, -, rfl, rfl⟩ | ⟨isDml, run⟩
  · refine .inl ⟨fun comes => ?_, by simp⟩
    obtain ⟨kind', isKind', dml⟩ := comes.dml
    rw [isKind] at isKind'
    cases isKind'
    rw [dml] at utility
    cases utility
  rcases runs_guard.mp run with ⟨worker, -, rfl, rfl⟩ | ⟨leader, run⟩
  · refine .inl ⟨fun comes => ?_, by simp⟩
    rw [comes.leader] at worker
    cases worker
  obtain ⟨nothing, wanted, run⟩ | ⟨fault, failed, -, rfl, rfl⟩ := runs_ofResult_bind.mp run
  swap
  · refine .inl ⟨fun comes => ?_, by simp⟩
    rw [comes.wanted] at failed
    cases failed
  rcases runs_guard.mp run with ⟨idle, -, rfl, rfl⟩ | ⟨busy, run⟩
  · refine .inl ⟨fun comes => ?_, by simp⟩
    rw [comes.wanted] at wanted
    cases wanted
    cases idle
  rw [Bool.not_eq_false'] at isThere isDml
  rw [busy] at wanted
  refine .inr ⟨s₁, t₂, ⟨isPresent.mp isThere, ⟨kind, isKind, isDml⟩, leader, wanted⟩, ?_⟩
  rw [proxyGuards]
  exact run

/-- From there on, only the guard against proxies stops a query as that of a proxy, and none of the
guards changes the session. -/
theorem runs_proxyGuards {patterns : List Value} {proxy : Bool}
    {result : Except Fault (Option SkipReason)} {s₁ : Session}
    (given : s.settings.patterns = .ok patterns)
    (found : isProxy s.host.applicationName patterns = .ok proxy)
    (run : Runs (proxyGuards stmt s) s₁ t result s') :
    (result = .ok (some .connectionProxy) ↔ proxy = true) ∧ s' = s₁ := by
  rw [proxyGuards, given, runs_ok_bind, found, runs_ok_bind] at run
  rcases runs_guard.mp run with ⟨isProxy, -, rfl, rfl⟩ | ⟨direct, run⟩
  · exact ⟨iff_of_true rfl isProxy, rfl⟩
  obtain ⟨own, rest, -, run⟩ := runs_ask_bind.mp run
  obtain ⟨reserved, -, run⟩ | ⟨fault, -, -, rfl, rfl⟩ := runs_ofTree_bind.mp run
  · rcases runs_guard.mp run with ⟨-, -, rfl, rfl⟩ | ⟨-, run⟩
    · exact ⟨by simp [direct], rfl⟩
    rcases runs_guard.mp run with ⟨-, -, rfl, rfl⟩ | ⟨-, run⟩
    · exact ⟨by simp [direct], rfl⟩
    obtain ⟨-, rfl, rfl⟩ := runs_pure.mp run
    exact ⟨by simp [direct], rfl⟩
  · exact ⟨by simp [direct], rfl⟩

/-- **Connection proxies.** With settings from the environment, a query that comes so far is left
alone as that of a connection proxy exactly if an entry with characters is a part of the client's
name, or there is an entry without characters. -/
theorem rejected_as_proxy_iff {result : Except Fault (Option SkipReason)}
    (given : environment.lookup (start ++ "PROXY_APPLICATION_PATTERNS") = some text)
    (read : Settings.ofEnvironment start environment = .ok s.settings)
    (client : s.host.applicationName = .text name)
    (run : Runs (skipReason stmt mode) s t result s') :
    result = .ok (some .connectionProxy) ↔
      ComesToProxies stmt mode s s' ∧ (Text.Gapped text ∨ NamesProxy text name) := by
  obtain ⟨proxy, found, counts⟩ := isProxy_entries text name
  rw [← client] at found
  rcases stopped_or_comesToProxies run with ⟨stopped, other⟩ | ⟨s₁, t₁, comes, rest⟩
  · exact iff_of_false other fun both => stopped both.1
  · obtain ⟨rejected, rfl⟩ := runs_proxyGuards (patterns_of_ofEnvironment given read) found rest
    rw [rejected, counts, and_iff_right comes]

/-- A session of an ordinary client, with the patterns of an empty variable. -/
def emptyPatterns : Session :=
  { settings := { proxyPatterns := .list [.text ""] }
    host := { applicationName := .text "psql" }
    confirmed := true }

/-- With an empty variable, every client counts as a proxy. -/
theorem rejected_as_proxy_iff_empty :
    Settings.ofEnvironment "ADAPTQ_" [("ADAPTQ_PROXY_APPLICATION_PATTERNS", "")] =
        .ok emptyPatterns.settings ∧
      ¬NamesProxy "" "psql" ∧
      ∃ t s', Runs (skipReason (.object [("SelectStmt", .object [])]) .learn) emptyPatterns t
        (.ok (some .connectionProxy)) s' := by
  have read : Settings.ofEnvironment "ADAPTQ_" [("ADAPTQ_PROXY_APPLICATION_PATTERNS", "")] =
      .ok emptyPatterns.settings := by with_unfolding_all rfl
  refine ⟨read, ?_, ?_⟩
  · rintro ⟨entry, member, written, -⟩
    exact written (List.mem_singleton.mp member)
  · obtain ⟨t, run, -⟩ := exists_runs nothingStored
      (skipReason (.object [("SelectStmt", .object [])]) .learn) emptyPatterns
    have rejected := (rejected_as_proxy_iff rfl read rfl run).mpr
      ⟨⟨⟨rfl, rfl⟩, ⟨.select, rfl, rfl⟩, rfl, rfl⟩, .inl (.inl rfl)⟩
    rw [rejected] at run
    exact ⟨t, _, run⟩

end CardinalityAdvisor
