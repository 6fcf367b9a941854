import CardinalityAdvisor.Settings.Reading

/-!
# Settings that are read or refused

Settings are read from the fields of an object as values of their own kinds, or a fault reports
what is wrong with them. The variables of an environment are always treated so. Other data is so
with two exceptions: a number that is too large for its setting is no wrong setting but an overflow,
and every collection is taken for a list of patterns, a text for the list of its characters.

## Main definitions

* `Fault.IsConfiguration`: the faults that report a wrong setting
* `Settings.ReadFrom fields`: settings of the right kinds that the fields give
* `Settings.ReadsWell fields`: the outcomes of reading fields that are asked for
* `Settings.Overflows`, `Settings.TakesApart`: the fields with another outcome

## Main results

* `truncate?_eq_none_iff`: only the infinities and NaN cannot be cut off to an integer
* `ofFields_eq_error_iff`, `ofFields_eq_ok_iff`: how the reading of fields ends
* `ofFields_eq_overflow_iff`: which fields end in an overflow
* `settings_or_configuration_fault`: which fields are read or refused as they should be
-/

namespace CardinalityAdvisor

open Decimal Float.Model

/-- The faults that report a wrong setting. -/
def Fault.IsConfiguration : Fault → Prop
  | .unknownMode _ | .unknownSettings _ | .malformedSetting _ | .negativeLockTimeout _
  | .settingsNotJson _ | .settingsNotAnObject _ => True
  | _ => False

/-! ## Doubles without an integer -/

namespace Decimal

/-- The bits of a double that hold its exponent. -/
def exponentBits (x : Float) : BitVec Format.binary64.exponentBits :=
  @UnpackedFloat.unpackExponent .binary64 x.toModel.toBits.toBitVec

/-- The bits of a double that hold its mantissa. -/
def mantissaBits (x : Float) : BitVec Format.binary64.mantissaBitsWithoutImplicit :=
  @UnpackedFloat.unpackMantissa .binary64 x.toModel.toBits.toBitVec

theorem exponentBits_toNat (x : Float) :
    (exponentBits x).toNat = x.toBits.toNat / Nat.pow 2 52 % Nat.pow 2 11 := by
  change x.toBits.toNat >>> 52 % 2 ^ 11 = x.toBits.toNat / 2 ^ 52 % 2 ^ 11
  rw [Nat.shiftRight_eq_div_pow]

/-- The bits of the exponent are all set for the infinities and for NaN only. -/
theorem exponentBits_eq_ones_iff (x : Float) :
    exponentBits x = .allOnes _ ↔ x.isNaN = true ∨ x.isInf = true := by
  change _ ↔ x.toModel.unpack.isNaN = true ∨ x.toModel.unpack.isInf = true
  rw [← BitVec.neg_one_eq_allOnes]
  by_cases ones : exponentBits x = -BitVec.ofNat _ 1
  · refine iff_of_true ones ?_
    by_cases empty : mantissaBits x = .ofNat _ 0
    · have unpacked : x.toModel.unpack = .infinity _ := (if_pos ones).trans (if_pos empty)
      exact .inr (congrArg UnpackedFloat.isInf unpacked)
    · have unpacked : x.toModel.unpack = .notANumber := (if_pos ones).trans (if_neg empty)
      exact .inl (congrArg UnpackedFloat.isNaN unpacked)
  · have plain {u : UnpackedFloat} (unpacked : x.toModel.unpack = u) (number : u.isNaN = false)
        (finite : u.isInf = false) :
        ¬(x.toModel.unpack.isNaN = true ∨ x.toModel.unpack.isInf = true) := by
      simp [unpacked, number, finite]
    refine iff_of_false ones ?_
    by_cases zeros : exponentBits x = .ofNat _ 0
    · by_cases empty : mantissaBits x = .ofNat _ 0
      · have unpacked : x.toModel.unpack = .zero _ :=
          (if_neg ones).trans ((if_pos zeros).trans (dif_pos empty))
        exact plain unpacked rfl rfl
      · have unpacked : x.toModel.unpack = .finite _ _ _ _ :=
          (if_neg ones).trans ((if_pos zeros).trans (dif_neg empty))
        exact plain unpacked rfl rfl
    · have unpacked : x.toModel.unpack = .finite _ _ _ _ := (if_neg ones).trans (if_neg zeros)
      exact plain unpacked rfl rfl

/-- Only the infinities and NaN cannot be cut off to an integer. -/
theorem truncate?_eq_none_iff (x : Float) :
    truncate? x = none ↔ x.isNaN = true ∨ x.isInf = true := by
  have ones : (BitVec.allOnes Format.binary64.exponentBits).toNat = 2047 := by decide
  rw [← exponentBits_eq_ones_iff, ← BitVec.toNat_inj, exponentBits_toNat, ones, truncate?,
    Option.map_eq_none_iff, Binary.ofFloat?]
  grind

theorem isNaN_eq_false_of_isInf {x : Float} (h : x.isInf = true) : x.isNaN = false := by
  revert h
  change x.toModel.unpack.isInf = true → x.toModel.unpack.isNaN = false
  cases x.toModel.unpack with
  | infinity sign => exact fun _ => rfl
  | notANumber | zero sign | finite sign => exact nofun

end Decimal

namespace Settings

variable {α β : Type} {fields : List (String × Value)} {given : Option Value} {fault : Fault}

/-! ## Fields that fit -/

/-- What a conversion makes of a field that may be missing. -/
def converted (conversion : Value → Except Fault α) (missing : α) (given : Option Value) :
    Except Fault α :=
  (given.map conversion).getD (.ok missing)

/-- A field is missing, or its value can be converted. -/
def Fits (conversion : Value → Except Fault α) (given : Option Value) : Prop :=
  ∀ value, given = some value → ∃ made, conversion value = .ok made

/-- A field is there, and its value cannot be converted. -/
def Fails (conversion : Value → Except Fault α) (given : Option Value) (fault : Fault) : Prop :=
  ∃ value, given = some value ∧ conversion value = .error fault

/-- All fields are settings, and those that are truth values fit. These are looked at first. -/
def FlagsFit (fields : List (String × Value)) : Prop :=
  (∀ field ∈ fields, field.1 ∈ names) ∧
    Fits toBool (fields.lookup "force_collect_stat") ∧ Fits toBool (fields.lookup "debug")

/-- A number in the fields is too large: an infinity that should be an integer, or an integer whose
nearest double is an infinity. Nothing is wrong with the fields that are looked at before. -/
def Overflows (fields : List (String × Value)) : Prop :=
  FlagsFit fields ∧
    ((∃ x, fields.lookup "profile_capacity" = some (.float x) ∧ x.isInf = true) ∨
      Fits toInteger (fields.lookup "profile_capacity") ∧
        ∃ i, fields.lookup "lock_timeout" = some (.int i) ∧
          (decimal (decide (i < 0)) i.natAbs 0).isInf = true)

/-- The patterns are a collection, but no list of texts. Nothing is wrong with other fields. -/
def TakesApart (fields : List (String × Value)) : Prop :=
  FlagsFit fields ∧ Fits toInteger (fields.lookup "profile_capacity") ∧
    Fits toDouble (fields.lookup "lock_timeout") ∧
      ∃ value members, fields.lookup "proxy_application_patterns" = some value ∧
        value.members? = some members ∧ ∀ texts : List String, value ≠ .list (texts.map .text)

/-- The settings are of the kinds that they are declared with, and each is what its field denotes,
or the default where there is no field. The mode is kept as it is given. -/
structure ReadFrom (fields : List (String × Value)) (s : Settings) : Prop where
  mode : s.mode = (fields.lookup "mode").getD (.mode .controlled)
  forceCollectStat : ∃ b, s.forceCollectStat = .bool b ∧
    converted toBool false (fields.lookup "force_collect_stat") = .ok b
  debug : ∃ b, s.debug = .bool b ∧ converted toBool false (fields.lookup "debug") = .ok b
  profileCapacity : ∃ i, s.profileCapacity = .int i ∧
    converted toInteger 0 (fields.lookup "profile_capacity") = .ok i
  lockTimeout : ∃ x, s.lockTimeout = .float x ∧
    converted toDouble 1 (fields.lookup "lock_timeout") = .ok x
  /-- The patterns are texts, and exactly the items of the list that is given. -/
  proxyPatterns : ∃ texts : List String, s.proxyPatterns = .list (texts.map .text) ∧
    (fields.lookup "proxy_application_patterns").getD
      (.list [.text "postgres_fdw", .text "pgfdw:"]) = .list (texts.map .text)

/-- A fault reports a wrong setting, or there are settings of the right kinds. -/
def ReadsWell (fields : List (String × Value)) : Except Fault Settings → Prop
  | .ok s => s.ReadFrom fields
  | .error fault => fault.IsConfiguration

theorem bind_eq_error_iff {x : Except Fault α} {f : α → Except Fault β} :
    (x >>= f) = .error fault ↔ x = .error fault ∨ ∃ made, x = .ok made ∧ f made = .error fault := by
  cases x with
  | error other =>
    change Except.error other = Except.error fault ↔ _
    simp
  | ok made =>
    change f made = .error fault ↔ _
    simp

theorem bind_eq_ok_iff {x : Except Fault α} {f : α → Except Fault β} {result : β} :
    (x >>= f) = .ok result ↔ ∃ made, x = .ok made ∧ f made = .ok result := by
  cases x with
  | error other =>
    change Except.error other = Except.ok result ↔ _
    simp
  | ok made =>
    change f made = .ok result ↔ _
    simp

theorem fits_iff {conversion : Value → Except Fault α} (missing : α) :
    Fits conversion given ↔ ∃ made, converted conversion missing given = .ok made := by
  cases given with
  | none => exact iff_of_true nofun ⟨missing, rfl⟩
  | some value => exact ⟨fun h => h value rfl, fun h _ same => Option.some.inj same ▸ h⟩

theorem convert_eq {name : String} {make : α → Value} {missing : α}
    {conversion : Value → Except Fault α} :
    convert fields name (make missing) make conversion =
      make <$> converted conversion missing (fields.lookup name) := by
  rw [convert, converted]
  cases fields.lookup name <;> rfl

theorem converted_eq_error_iff {conversion : Value → Except Fault α} {missing : α} :
    converted conversion missing given = .error fault ↔
      ∃ value, given = some value ∧ conversion value = .error fault := by
  cases given <;> simp [converted]

/-! ## How the reading of fields ends -/

theorem unknownNames_eq_nil_iff :
    unknownNames fields = [] ↔ ∀ field ∈ fields, field.1 ∈ names := by
  rw [unknownNames, ← List.length_eq_zero_iff, (sortBy_perm _ _).length_eq,
    List.length_eq_zero_iff, List.filter_eq_nil_iff]
  simp

/-- Fields that are settings are converted one after the other. -/
theorem ofFields_eq (known : ∀ field ∈ fields, field.1 ∈ names) :
    ofFields fields = (do
      let forceCollectStat ← converted toBool false (fields.lookup "force_collect_stat")
      let debug ← converted toBool false (fields.lookup "debug")
      let profileCapacity ← converted toInteger 0 (fields.lookup "profile_capacity")
      let lockTimeout ← converted toDouble 1 (fields.lookup "lock_timeout")
      let proxyPatterns ← converted toMembers [.text "postgres_fdw", .text "pgfdw:"]
        (fields.lookup "proxy_application_patterns")
      .ok { mode := (fields.lookup "mode").getD (.mode .controlled)
            forceCollectStat := .bool forceCollectStat
            profileCapacity := .int profileCapacity
            proxyPatterns := .list proxyPatterns
            lockTimeout := .float lockTimeout
            debug := .bool debug }) := by
  rw [ofFields, unknownNames_eq_nil_iff.mpr known]
  simp only [convert_eq, bind_map_left]

/-- Fields with known names cannot be read if one of the conversions fails and those before it do
not. -/
theorem ofFields_eq_error_iff (known : ∀ field ∈ fields, field.1 ∈ names) :
    ofFields fields = .error fault ↔
      Fails toBool (fields.lookup "force_collect_stat") fault ∨
        Fits toBool (fields.lookup "force_collect_stat") ∧
      (Fails toBool (fields.lookup "debug") fault ∨ Fits toBool (fields.lookup "debug") ∧
      (Fails toInteger (fields.lookup "profile_capacity") fault ∨
        Fits toInteger (fields.lookup "profile_capacity") ∧
      (Fails toDouble (fields.lookup "lock_timeout") fault ∨
        Fits toDouble (fields.lookup "lock_timeout") ∧
      Fails toMembers (fields.lookup "proxy_application_patterns") fault))) := by
  rw [ofFields_eq known, fits_iff false, fits_iff false, fits_iff (0 : Int), fits_iff (1 : Float)]
  simp only [bind_eq_error_iff, converted_eq_error_iff, Fails, reduceCtorEq, and_false,
    exists_false, or_false, exists_and_right]

/-- Fields that can be read: every name is known, and every conversion succeeds. -/
theorem ofFields_eq_ok_iff {s : Settings} :
    ofFields fields = .ok s ↔ (∀ field ∈ fields, field.1 ∈ names) ∧
      ∃ forceCollectStat debug profileCapacity lockTimeout proxyPatterns,
        converted toBool false (fields.lookup "force_collect_stat") = .ok forceCollectStat ∧
        converted toBool false (fields.lookup "debug") = .ok debug ∧
        converted toInteger 0 (fields.lookup "profile_capacity") = .ok profileCapacity ∧
        converted toDouble 1 (fields.lookup "lock_timeout") = .ok lockTimeout ∧
        converted toMembers [.text "postgres_fdw", .text "pgfdw:"]
          (fields.lookup "proxy_application_patterns") = .ok proxyPatterns ∧
        s = ⟨(fields.lookup "mode").getD (.mode .controlled), .bool forceCollectStat,
          .int profileCapacity, .list proxyPatterns, .float lockTimeout, .bool debug⟩ := by
  by_cases known : ∀ field ∈ fields, field.1 ∈ names
  · rw [ofFields_eq known, and_iff_right known]
    simp only [bind_eq_ok_iff, Except.ok.injEq, exists_and_left, @eq_comm _ _ s]
  · refine iff_of_false (fun h => ?_) fun h => known h.1
    rw [ofFields] at h
    split at h
    · rename_i nothing
      exact known (unknownNames_eq_nil_iff.mp nothing)
    · cases h

theorem isConfiguration_of_toBool {value : Value} (h : toBool value = .error fault) :
    fault.IsConfiguration := by
  unfold toBool at h
  split at h
  · cases h
  · dsimp only at h
    split at h
    · cases h
    · split at h
      · cases h
      · cases h
        trivial
  · cases h
    trivial

theorem toMembers_eq_ok_iff {value : Value} {members : List Value} :
    toMembers value = .ok members ↔ value.members? = some members := by
  rw [toMembers]
  split <;> simp [malformed, *]

theorem isConfiguration_of_toMembers {value : Value} (h : toMembers value = .error fault) :
    fault.IsConfiguration := by
  unfold toMembers at h
  split at h
  · cases h
  · cases h
    trivial

/-- Beside a wrong setting, only an infinity keeps a value from being an integer. -/
theorem fault_of_toInteger {value : Value} (h : toInteger value = .error fault) :
    fault.IsConfiguration ∨ fault = .overflow ∧ ∃ x, value = .float x ∧ x.isInf = true := by
  unfold toInteger at h
  split at h
  · cases h
  · cases h
  · rename_i x
    split at h
    · cases h
    · rename_i special
      split at h
      · cases h
        exact .inl trivial
      · rename_i number
        cases h
        exact .inr ⟨rfl, x, rfl, ((truncate?_eq_none_iff x).mp special).resolve_left number⟩
  · split at h
    · cases h
    · cases h
      exact .inl trivial
    · cases h
      exact .inl trivial
  · cases h
    exact .inl trivial

theorem toInteger_of_isInf {x : Float} (infinite : x.isInf = true) :
    toInteger (.float x) = .error .overflow := by
  rw [toInteger, (truncate?_eq_none_iff x).mpr (.inr infinite)]
  simp only [isNaN_eq_false_of_isInf infinite]
  rfl

/-- Beside a wrong setting, only an integer beyond the doubles keeps a value from being one. -/
theorem fault_of_toDouble {value : Value} (h : toDouble value = .error fault) :
    fault.IsConfiguration ∨ fault = .overflow ∧ ∃ i, value = .int i ∧
      (decimal (decide (i < 0)) i.natAbs 0).isInf = true := by
  unfold toDouble at h
  split at h
  · cases h
  · rename_i i
    rw [doubleOf] at h
    split at h
    · rename_i infinite
      cases h
      exact .inr ⟨rfl, i, rfl, infinite⟩
    · cases h
  · cases h
  · split at h
    · cases h
    · cases h
      exact .inl trivial
  · cases h
    exact .inl trivial

theorem toDouble_of_isInf {i : Int}
    (infinite : (decimal (decide (i < 0)) i.natAbs 0).isInf = true) :
    toDouble (.int i) = .error .overflow :=
  if_pos infinite

/-- A fault on the way to settings reports a wrong setting, or it is an overflow. -/
theorem fault_of_ofFields (h : ofFields fields = .error fault) :
    fault.IsConfiguration ∨ fault = .overflow ∧ Overflows fields := by
  by_cases known : ∀ field ∈ fields, field.1 ∈ names
  · rcases (ofFields_eq_error_iff known).mp h with
      ⟨value, given, fails⟩ | ⟨stat, ⟨value, given, fails⟩ | ⟨debug, h⟩⟩
    · exact .inl (isConfiguration_of_toBool fails)
    · exact .inl (isConfiguration_of_toBool fails)
    have flags : FlagsFit fields := ⟨known, stat, debug⟩
    rcases h with
      ⟨value, given, fails⟩ | ⟨capacity, ⟨value, given, fails⟩ | ⟨-, value, given, fails⟩⟩
    · refine (fault_of_toInteger fails).imp_right ?_
      rintro ⟨overflow, x, rfl, infinite⟩
      exact ⟨overflow, flags, .inl ⟨x, given, infinite⟩⟩
    · refine (fault_of_toDouble fails).imp_right ?_
      rintro ⟨overflow, i, rfl, infinite⟩
      exact ⟨overflow, flags, .inr ⟨capacity, i, given, infinite⟩⟩
    · exact .inl (isConfiguration_of_toMembers fails)
  · rw [ofFields] at h
    split at h
    · rename_i nothing
      exact absurd (unknownNames_eq_nil_iff.mp nothing) known
    · cases h
      exact .inl trivial

/-- The fields that end in an overflow. -/
theorem ofFields_eq_overflow_iff : ofFields fields = .error .overflow ↔ Overflows fields := by
  constructor
  · intro h
    obtain impossible | ⟨-, overflows⟩ := fault_of_ofFields h
    · exact impossible.elim
    · exact overflows
  · rintro ⟨⟨known, stat, debug⟩, large⟩
    refine (ofFields_eq_error_iff known).mpr (.inr ⟨stat, .inr ⟨debug, ?_⟩⟩)
    rcases large with ⟨x, given, infinite⟩ | ⟨capacity, i, given, infinite⟩
    · exact .inl ⟨_, given, toInteger_of_isInf infinite⟩
    · exact .inr ⟨capacity, .inl ⟨_, given, toDouble_of_isInf infinite⟩⟩

/-- Settings are of the right kinds if the patterns are not taken apart. -/
theorem readFrom_of_ofFields {s : Settings} (h : ofFields fields = .ok s)
    (whole : ¬TakesApart fields) : s.ReadFrom fields := by
  obtain ⟨known, forceCollectStat, debug, profileCapacity, lockTimeout, members, stat, logs,
    capacity, timeout, patterns, rfl⟩ := ofFields_eq_ok_iff.mp h
  refine ⟨rfl, ⟨_, rfl, stat⟩, ⟨_, rfl, logs⟩, ⟨_, rfl, capacity⟩, ⟨_, rfl, timeout⟩, ?_⟩
  cases given : fields.lookup "proxy_application_patterns" with
  | none =>
    rw [given] at patterns
    cases patterns
    exact ⟨["postgres_fdw", "pgfdw:"], rfl, rfl⟩
  | some value =>
    rw [given] at patterns
    have collection := toMembers_eq_ok_iff.mp patterns
    refine Classical.byContradiction fun others => whole
      ⟨⟨known, (fits_iff _).mpr ⟨_, stat⟩, (fits_iff _).mpr ⟨_, logs⟩⟩,
        (fits_iff _).mpr ⟨_, capacity⟩, (fits_iff _).mpr ⟨_, timeout⟩,
        value, members, given, collection, ?_⟩
    rintro texts rfl
    cases collection
    exact others ⟨texts, rfl, rfl⟩

/-- Patterns that are taken apart are accepted. -/
theorem exists_ofFields_of_takesApart (h : TakesApart fields) :
    ∃ s, ofFields fields = .ok s ∧ ¬s.ReadFrom fields := by
  obtain ⟨⟨known, stat, debug⟩, capacity, timeout, value, members, given, collection, other⟩ := h
  obtain ⟨_, stat⟩ := (fits_iff false).mp stat
  obtain ⟨_, debug⟩ := (fits_iff false).mp debug
  obtain ⟨_, capacity⟩ := (fits_iff 0).mp capacity
  obtain ⟨_, timeout⟩ := (fits_iff 1).mp timeout
  refine ⟨_, ofFields_eq_ok_iff.mpr
    ⟨known, _, _, _, _, members, stat, debug, capacity, timeout, ?_, rfl⟩, ?_⟩
  · rw [given]
    exact toMembers_eq_ok_iff.mpr collection
  · intro read
    obtain ⟨texts, -, same⟩ := read.proxyPatterns
    rw [given] at same
    exact other texts same

/-- Fields are read or refused as they should be, unless a number is too large or a collection is
taken for patterns. -/
theorem readsWell_iff :
    ReadsWell fields (ofFields fields) ↔ ¬Overflows fields ∧ ¬TakesApart fields := by
  constructor
  · refine fun well => ⟨fun overflows => ?_, fun apart => ?_⟩
    · rw [ofFields_eq_overflow_iff.mpr overflows] at well
      exact well
    · obtain ⟨s, read, other⟩ := exists_ofFields_of_takesApart apart
      rw [read] at well
      exact other well
  · rintro ⟨within, whole⟩
    cases h : ofFields fields with
    | ok s => exact readFrom_of_ofFields h whole
    | error fault => exact (fault_of_ofFields h).resolve_right fun overflow => within overflow.2

/-! ## Variables of an environment -/

/-- The fields that the variables of an environment give. -/
def environmentFields (start : String) (environment : List (String × String)) :
    List (String × Value) :=
  names.filterMap fun name =>
    (environment.lookup (start ++ name.toUpper)).map fun text => (name, ofVariable name text)

theorem ofEnvironment_eq (start : String) (environment : List (String × String)) :
    ofEnvironment start environment = ofFields (environmentFields start environment) :=
  rfl

theorem lookup_filterMap {make : String → Option α} {value : String → α → β} {name : String}
    (all : List String) :
    (all.filterMap fun n => (make n).map fun a => (n, value n a)).lookup name =
      if name ∈ all then (make name).map (value name) else none := by
  induction all with
  | nil => rfl
  | cons n rest ih =>
    rw [List.filterMap_cons]
    by_cases same : name = n
    · subst same
      cases made : make name with
      | none => simp [ih, made]
      | some a => simp
    · cases make n <;> simp [ih, same, List.lookup_cons, beq_eq_false_iff_ne.mpr same]

/-- The value of a setting is what its variable gives. -/
theorem lookup_environmentFields {start name : String} {environment : List (String × String)}
    (known : name ∈ names) :
    (environmentFields start environment).lookup name =
      (environment.lookup (start ++ name.toUpper)).map (ofVariable name) := by
  rw [environmentFields, lookup_filterMap, if_pos known]

/-- Variables are never numbers, so none is too large. -/
theorem not_overflows_environmentFields (start : String) (environment : List (String × String)) :
    ¬Overflows (environmentFields start environment) := by
  rintro ⟨-, ⟨x, given, -⟩ | ⟨-, i, given, -⟩⟩
  all_goals
    rw [lookup_environmentFields (by decide), Option.map_eq_some_iff] at given
    obtain ⟨text, -, number⟩ := given
    cases number

/-- The variable of the patterns is always cut into a list of texts. -/
theorem not_takesApart_environmentFields (start : String) (environment : List (String × String)) :
    ¬TakesApart (environmentFields start environment) := by
  rintro ⟨-, -, -, value, members, given, -, other⟩
  rw [lookup_environmentFields (by decide), Option.map_eq_some_iff] at given
  obtain ⟨text, -, rfl⟩ := given
  refine other ((Text.pieces ',' text.toList).map String.ofList) ?_
  rw [List.map_map]
  rfl

/-! ## All fields and all environments -/

/-- **Reading settings.** The fields of an object, whatever they hold, are read as settings of the
right kinds or refused with a fault that reports a wrong setting, except that a number may be too
large, which is an overflow, and that patterns may be taken apart, which is accepted. The variables
of an environment are always read or refused so. -/
theorem settings_or_configuration_fault (fields : List (String × Value)) (start : String)
    (environment : List (String × String)) :
    (ReadsWell fields (ofFields fields) ↔ ¬Overflows fields ∧ ¬TakesApart fields) ∧
      (Overflows fields → ofFields fields = .error .overflow) ∧
      (TakesApart fields → ∃ s, ofFields fields = .ok s) ∧
      ReadsWell (environmentFields start environment) (ofEnvironment start environment) := by
  refine ⟨readsWell_iff, ofFields_eq_overflow_iff.mpr, fun apart => ?_, ?_⟩
  · obtain ⟨s, read, -⟩ := exists_ofFields_of_takesApart apart
    exact ⟨s, read⟩
  · rw [ofEnvironment_eq]
    exact readsWell_iff.mpr ⟨not_overflows_environmentFields start environment,
      not_takesApart_environmentFields start environment⟩

/-- An infinite capacity is an overflow, and a text is accepted as patterns. -/
theorem settings_or_configuration_fault_exceptions :
    ofFields [("profile_capacity", .float (1 / 0))] = .error .overflow ∧
      ∃ s, ofFields [("proxy_application_patterns", .text "pgbouncer")] = .ok s ∧
        ¬s.ReadFrom [("proxy_application_patterns", .text "pgbouncer")] := by
  have flags (name : String) (value : Value) (known : name ∈ names)
      (stat : name ≠ "force_collect_stat") (debug : name ≠ "debug") : FlagsFit [(name, value)] := by
    refine ⟨?_, ?_, ?_⟩
    · simpa using known
    · simp [Fits, List.lookup_cons, beq_eq_false_iff_ne.mpr stat.symm]
    · simp [Fits, List.lookup_cons, beq_eq_false_iff_ne.mpr debug.symm]
  constructor
  · exact (settings_or_configuration_fault _ "" []).2.1
      ⟨flags _ _ (by decide) (by decide) (by decide), .inl ⟨_, rfl, by decide +kernel⟩⟩
  · have apart : TakesApart [("proxy_application_patterns", .text "pgbouncer")] :=
      ⟨flags _ _ (by decide) (by decide) (by decide), nofun, nofun, _, _, rfl, rfl, nofun⟩
    obtain ⟨well, -, accepted, -⟩ := settings_or_configuration_fault
      [("proxy_application_patterns", .text "pgbouncer")] "" []
    obtain ⟨s, read⟩ := accepted apart
    refine ⟨s, read, fun kinds => ?_⟩
    rw [read] at well
    exact (well.mp kinds).2 apart

end Settings

end CardinalityAdvisor
