import DidRegistry.Proofs.Number.Range
import DidRegistry.Proofs.Settings

/-!
# Settings are read or refused

Settings come from an object or from the environment, and whatever is wrong with them is to be reported as
settings that do not fit.  Two checks could get in each other's way: the schema looks at the numbers as
they are given, and the settings at what became of them.  They agree but for one thing, that a time is
given as a whole number which no binary number comes near.  The schema has no upper bound, and so such a
number comes to the conversion, which fails in a way of its own.  In the environment times are read as
binary numbers in the first place, and nothing of the sort can happen.

Values are held against a schema by a library, of which no more is used than that it finds a fault where
there is one.  So it is a parameter here.

## Results

* `PublisherSettings.ofMembers_of_fits`, `ResolverSettings.ofMembers_of_fits` — members that meet the
  schema give settings, unless a time is too large.
* `Setting.collect_variablesOf`, `Setting.Collected.not_tooLarge` — what is collected from the environment
  has no time that is too large.
* `Setting.settings_closed_iff` — **settings are read, or refused as settings that do not fit, unless a
  time is given as a whole number that is too large**.
-/

set_option autoImplicit false

namespace DidRegistry

/-! ## Numbers that meet their schema -/

namespace Schema

variable {path : List String} {v : Json} {bound : LowerBound} {schema : Schema}

theorem proper_of_fits (hs : schema = .integer bound ∨ schema = .number bound)
    (h : schema.faults path v = []) :
    ∃ n, properNumber? v = some n ∧ LowerBound.faults v n bound = [] := by
  rcases hs with rfl | rfl
  · cases hn : properNumber? v with
    | none => simp [faults, hn] at h
    | some n =>
      simp only [faults, hn, List.append_eq_nil_iff, List.map_eq_nil_iff] at h
      exact ⟨n, rfl, h.2⟩
  · cases hn : properNumber? v with
    | none => simp [faults, hn] at h
    | some n =>
      simp only [faults, hn, List.map_eq_nil_iff] at h
      exact ⟨n, rfl, h⟩

theorem lt_of_bound {n : Number} {m : Int} (hb : bound = .least m ∨ bound = .above m)
    (h : LowerBound.faults v n bound = []) : n.lt (.int m) = false := by
  rcases hb with rfl | rfl
  · simpa [LowerBound.faults] using h
  · have hle : n.le (.int m) = false := by simpa [LowerBound.faults] using h
    exact Number.lt_eq_false_of_le hle

theorem number?_of_proper {n : Number} (h : properNumber? v = some n) : v.number? = some n := by
  cases v with
  | int m => exact h
  | real x => exact h
  | _ => cases h

end Schema

namespace Setting

variable {ms : Json.Members} {key : String} {default : Number}

/-- A time is given as a whole number that is too large to become a binary one. -/
def TooLarge (ms : Json.Members) (key : String) : Prop :=
  ∃ n : Int, ms.get? key = some (.int n) ∧ (Binary64.rangeEnd : Int) ≤ n

/-- Members have no number under a key, or one that is not below `least`. -/
def AtLeast (ms : Json.Members) (key : String) (least : Int) : Prop :=
  ∀ v, ms.get? key = some v → ∃ n, Schema.properNumber? v = some n ∧ n.lt (.int least) = false

theorem atLeast_of_fits {schema : Schema} {bound : LowerBound} {path : List String} {least : Int}
    (hs : schema = .integer bound ∨ schema = .number bound) (hb : bound = .least least ∨ bound = .above least)
    (h : ∀ v, ms.get? key = some v → schema.faults path v = []) : AtLeast ms key least := by
  intro v hv
  obtain ⟨n, hn, hbound⟩ := Schema.proper_of_fits hs (h v hv)
  exact ⟨n, hn, Schema.lt_of_bound hb hbound⟩

theorem numberSetting_atLeast {least : Int} (h : AtLeast ms key least)
    (hdefault : default.lt (.int least) = false) :
    ∃ n, numberSetting ms key default = .ok n ∧ n.lt (.int least) = false := by
  unfold numberSetting
  cases hv : ms.get? key with
  | none => exact ⟨default, rfl, hdefault⟩
  | some v =>
    obtain ⟨n, hn, hlt⟩ := h v hv
    dsimp only
    rw [Schema.number?_of_proper hn]
    exact ⟨n, rfl, hlt⟩

theorem numberSetting_of_fits (default : Number) {path : List String} {least : Int}
    (h : ∀ v, ms.get? key = some v → (Schema.integer (.least least)).faults path v = [])
    (hdefault : default.lt (.int least) = false) :
    ∃ n, numberSetting ms key default = .ok n ∧ n.lt (.int least) = false :=
  numberSetting_atLeast (atLeast_of_fits (.inl rfl) (.inl rfl) h) hdefault

theorem numberSetting_int {n : Int} {x : Binary64} (h : numberSetting ms key (.real x) = .ok (.int n)) :
    ms.get? key = some (.int n) := by
  unfold numberSetting at h
  cases hv : ms.get? key with
  | none => simp [hv] at h
  | some v =>
    rw [hv] at h
    cases v with
    | int m => cases h; rfl
    | _ => cases h

/-- **A time becomes a binary number that is not negative, unless it is too large.** -/
theorem binary_numberSetting {x : Binary64} (h : AtLeast ms key 0)
    (hdefault : (Number.real x).lt (.int 0) = false) :
    ∃ n, numberSetting ms key (.real x) = .ok n ∧
      ((∃ y, binary n = .ok (.real y) ∧ (Number.real y).lt (.int 0) = false ∧ ¬TooLarge ms key) ∨
        binary n = .error .tooLarge ∧ TooLarge ms key) := by
  obtain ⟨n, hn, hlt⟩ := numberSetting_atLeast h hdefault
  refine ⟨n, hn, ?_⟩
  unfold binary
  cases hreal : n.toReal? with
  | none =>
    obtain ⟨k, rfl, hk⟩ := Number.toReal?_eq_none_iff.mp hreal
    have hnonneg : ¬k < 0 := (Number.lt_iff_of_whole rfl rfl).not.mp (Bool.eq_false_iff.mp hlt)
    exact .inr ⟨rfl, k, numberSetting_int hn, by omega⟩
  | some y =>
    refine .inl ⟨y, rfl, Number.toReal?_nonneg hlt hreal, ?_⟩
    rintro ⟨k, hk, hlarge⟩
    have hset : n = .int k := by
      unfold numberSetting at hn
      rw [hk] at hn
      cases hn
      rfl
    have hnone : n.toReal? = none := Number.toReal?_eq_none_iff.mpr ⟨k, hset, by omega⟩
    cases hnone.symm.trans hreal

end Setting

/-! ## Members that meet the schema -/

/-- A price and a limit that meet the schema make sense: the limit is positive, since its bound is. -/
theorem Fees.make_of_atLeast {price limit : Number} (hprice : price.lt (.int 0) = false)
    (hlimit : limit.lt (.int 21000) = false) : Fees.make price limit = .ok ⟨price, limit⟩ := by
  have hpositive : limit.le (.int 0) = false := Number.le_eq_false_of_lt (by decide) hlimit
  simp [Fees.make, hprice, hpositive]

namespace PublisherSettings

open Setting

variable {ms : Json.Members}

/-- **Members that meet the schema give settings, unless a time is too large.** -/
theorem ofMembers_of_fits (h : publisherSchema.faults [] (.obj ms) = []) :
    (∃ c, ofMembers ms = .ok c) ∧ ¬(TooLarge ms "wait_interval" ∨ TooLarge ms "rpc_timeout") ∨
      ofMembers ms = .error .tooLarge ∧ (TooLarge ms "wait_interval" ∨ TooLarge ms "rpc_timeout") := by
  obtain ⟨ms', hms, hrequired, hfits⟩ := Schema.object_fits h
  cases hms
  obtain ⟨url, hurl⟩ := hrequired "rpc_url" (.head _)
  obtain ⟨contract, hcontract⟩ := hrequired "contract_address" (.tail _ (.head _))
  simp only [List.forall_mem_cons] at hfits
  obtain ⟨-, -, hprice, hlimit, hpolls, hinterval, hdepth, htimeout, -⟩ := hfits
  obtain ⟨price, hprice, hpriceLeast⟩ := numberSetting_of_fits Fees.defaultPrice hprice (by decide)
  obtain ⟨limit, hlimit, hlimitLeast⟩ := numberSetting_of_fits Fees.defaultLimit hlimit (by decide)
  obtain ⟨polls, hpolls, hpollsLeast⟩ := numberSetting_of_fits defaultPolls hpolls (by decide)
  obtain ⟨depth, hdepth, hdepthLeast⟩ := numberSetting_of_fits defaultDepth hdepth (by decide)
  obtain ⟨interval, hinterval, hintervalBinary⟩ :=
    binary_numberSetting (x := Binary64.ofInt 5) (atLeast_of_fits (.inr rfl) (.inl rfl) hinterval) (by decide)
  obtain ⟨timeout, htimeout, htimeoutBinary⟩ :=
    binary_numberSetting (x := Binary64.ofInt 30) (atLeast_of_fits (.inr rfl) (.inr rfl) htimeout) (by decide)
  have hfees : Fees.make price limit = .ok ⟨price, limit⟩ := Fees.make_of_atLeast hpriceLeast hlimitLeast
  -- what is left after the conversions passes, so that nothing but a conversion can fail
  rcases hintervalBinary with ⟨y, hy, hyLeast, hyFits⟩ | ⟨hy, hyLarge⟩
  · rcases htimeoutBinary with ⟨z, hz, -, hzFits⟩ | ⟨hz, hzLarge⟩
    · refine .inl ⟨⟨⟨url, contract, ⟨price, limit⟩, polls, .real y, depth, .ofNumber (.real z)⟩, ?_⟩,
        by tauto⟩
      simp only [ofMembers, hprice, hlimit, hfees, required, hurl, hcontract, hpolls, defaultInterval,
        hinterval, hy,
        hdepth, defaultTimeout, htimeout, hz, checked, hpollsLeast, hyLeast, hdepthLeast, bind, Except.bind,
        Bool.false_eq_true, if_false]
    · refine .inr ⟨?_, .inr hzLarge⟩
      simp only [ofMembers, hprice, hlimit, hfees, required, hurl, hcontract, hpolls, defaultInterval,
        hinterval, hy,
        hdepth, defaultTimeout, htimeout, hz, bind, Except.bind]
  · refine .inr ⟨?_, .inl hyLarge⟩
    simp only [ofMembers, hprice, hlimit, hfees, required, hurl, hcontract, hpolls, defaultInterval,
      hinterval, hy,
      bind, Except.bind]

end PublisherSettings

namespace ResolverSettings

open Setting

variable {ms : Json.Members}

/-- The settings that members give which meet the schema; the time becomes a binary number. -/
def ofMembers (ms : Json.Members) : Except SettingsError ResolverSettings := do
  let url ← required ms "resolver_url"
  let timeout ← binary (← numberSetting ms "rpc_timeout" defaultTimeout)
  return ⟨url, timeout⟩

/-- **Members that meet the schema give settings, unless the time is too large.** -/
theorem ofMembers_of_fits (h : resolverSchema.faults [] (.obj ms) = []) :
    (∃ c, ofMembers ms = .ok c) ∧ ¬TooLarge ms "rpc_timeout" ∨
      ofMembers ms = .error .tooLarge ∧ TooLarge ms "rpc_timeout" := by
  obtain ⟨ms', hms, hrequired, hfits⟩ := Schema.object_fits h
  cases hms
  obtain ⟨url, hurl⟩ := hrequired "resolver_url" (.head _)
  simp only [List.forall_mem_cons] at hfits
  obtain ⟨-, htimeout, -⟩ := hfits
  obtain ⟨timeout, htimeout, htimeoutBinary⟩ :=
    binary_numberSetting (x := Binary64.ofInt 30) (atLeast_of_fits (.inr rfl) (.inr rfl) htimeout) (by decide)
  rcases htimeoutBinary with ⟨z, hz, -, hzFits⟩ | ⟨hz, hzLarge⟩
  · refine .inl ⟨⟨⟨url, .real z⟩, ?_⟩, hzFits⟩
    simp only [ofMembers, required, hurl, defaultTimeout, htimeout, hz, bind, Except.bind, pure, Except.pure]
  · refine .inr ⟨?_, hzLarge⟩
    simp only [ofMembers, required, hurl, defaultTimeout, htimeout, hz, bind, Except.bind]

end ResolverSettings

/-! ## The environment -/

namespace Setting

/-- The variables of an environment, each of which is a text. -/
def variablesOf (environment : List (Text × Text)) : Json.Members :=
  environment.map fun p => (p.1, .str p.2)

theorem get?_variablesOf (environment : List (Text × Text)) (name : Text) :
    Json.Members.get? (variablesOf environment) name = (environment.lookup name).map .str := by
  induction environment with
  | nil => rfl
  | cons p rest ih =>
    obtain ⟨k, t⟩ := p
    show ((k, Json.str t) :: variablesOf rest).lookup name = _
    rw [List.lookup_cons, List.lookup_cons]
    cases name == k
    · exact ih
    · rfl

/-- A variable becomes a setting, a binary number where a decimal is expected, or is refused as one that
is no number of its kind. -/
theorem ofEnvironment_str (name : String) (kind : SettingKind) (t : Text) :
    (∃ v, ofEnvironment name kind (.str t) = .ok v ∧ (kind = .decimal → ∃ x, v = .real x)) ∨
      ∃ numeral cause, ofEnvironment name kind (.str t) =
        .error (.notANumber name numeral (.str t) cause) := by
  cases kind with
  | text => exact .inl ⟨_, rfl, fun h => nomatch h⟩
  | whole =>
    unfold ofEnvironment
    dsimp only [Json.toWhole]
    cases Text.Numeral.decimal? t with
    | ok n => exact .inl ⟨_, rfl, fun h => nomatch h⟩
    | error e => exact .inr ⟨_, _, rfl⟩
  | decimal =>
    unfold ofEnvironment
    dsimp only
    cases Text.Numeral.written? t with
    | some w => exact .inl ⟨_, rfl, fun _ => ⟨_, rfl⟩⟩
    | none => exact .inr ⟨_, _, rfl⟩

theorem collect_cons (environment : List (Text × Text)) (key : String) (kind : SettingKind)
    (fields : List (String × SettingKind)) :
    collect (variablesOf environment) ((key, kind) :: fields) =
      match environment.lookup (Text.ofString (environmentName key)) with
      | none => collect (variablesOf environment) fields
      | some t =>
        match ofEnvironment (environmentName key) kind (.str t) with
        | .error e => .error e
        | .ok v => (collect (variablesOf environment) fields).map fun ms => (Text.ofString key, v) :: ms := by
  rw [collect, get?_variablesOf]
  cases environment.lookup (Text.ofString (environmentName key)) <;> rfl

/-- Members are settings of the fields, with binary numbers for decimals. -/
def Collected (fields : List (String × SettingKind)) (ms : Json.Members) : Prop :=
  ∀ m ∈ ms, ∃ f ∈ fields, m.1 = Text.ofString f.1 ∧ (f.2 = .decimal → ∃ x, m.2 = .real x)

theorem Collected.cons {fields : List (String × SettingKind)} {ms : Json.Members} (h : Collected fields ms)
    (f : String × SettingKind) : Collected (f :: fields) ms := by
  intro m hm
  obtain ⟨g, hg, hmg⟩ := h m hm
  exact ⟨g, .tail _ hg, hmg⟩

/-- The settings that an environment holds are collected, or one of them is refused as no number of its
kind. -/
theorem collect_variablesOf (environment : List (Text × Text)) (fields : List (String × SettingKind)) :
    (∃ ms, collect (variablesOf environment) fields = .ok ms ∧ Collected fields ms) ∨
      ∃ name numeral raw cause,
        collect (variablesOf environment) fields = .error (.notANumber name numeral raw cause) := by
  induction fields with
  | nil => exact .inl ⟨[], rfl, fun m hm => nomatch hm⟩
  | cons f rest ih =>
    obtain ⟨key, kind⟩ := f
    rw [collect_cons]
    cases environment.lookup (Text.ofString (environmentName key)) with
    | none =>
      rcases ih with ⟨ms, hms, hcollected⟩ | hrefused
      · exact .inl ⟨ms, hms, hcollected.cons _⟩
      · exact .inr hrefused
    | some t =>
      dsimp only
      rcases ofEnvironment_str (environmentName key) kind t with ⟨v, hv, hdecimal⟩ | ⟨numeral, cause, herror⟩
      · rw [hv]
        rcases ih with ⟨ms, hms, hcollected⟩ | ⟨name, numeral, raw, cause, hrefused⟩
        · refine .inl ⟨(Text.ofString key, v) :: ms, by rw [hms]; rfl, ?_⟩
          exact List.forall_mem_cons.mpr ⟨⟨_, .head _, rfl, hdecimal⟩, hcollected.cons _⟩
        · exact .inr ⟨name, numeral, raw, cause, by rw [hrefused]; rfl⟩
      · exact .inr ⟨_, numeral, _, cause, by rw [herror]⟩

/-- No time that is collected is too large. -/
theorem Collected.not_tooLarge {fields : List (String × SettingKind)} {ms : Json.Members}
    (h : Collected fields ms)
    {key : String} (hkey : ∀ f ∈ fields, Text.ofString key = Text.ofString f.1 → f.2 = .decimal) :
    ¬TooLarge ms key := by
  rintro ⟨n, hn, -⟩
  obtain ⟨before, after, rfl, -⟩ := List.lookup_eq_some_iff.mp hn
  obtain ⟨f, hf, hname, hdecimal⟩ := h (Text.ofString key, .int n) (by simp)
  obtain ⟨x, hx⟩ := hdecimal (hkey f hf hname)
  cases hx

end Setting

/-! ## Validation -/

namespace Setting

/-- A library that holds members against a schema, and tells one fault. -/
abbrev Validator := Schema → Json.Members → Option Schema.Fault

/-- What a library is relied on for: it finds a fault exactly in members that do not meet the schema. -/
def Validator.Reliable (validate : Validator) : Prop :=
  ∀ schema ms, validate schema ms = none ↔ schema.faults [] (.obj ms) = []

/-- The library that tells the fault with the shortest path. -/
def Validator.shortest : Validator := fun schema ms => schema.firstFaultOf (ms.map fun m => (.str m.1, m.2))

theorem reliable_shortest : Validator.shortest.Reliable := by
  intro schema ms
  constructor
  · intro h
    have hfits := Schema.firstFault_eq_none_iff.mp (Schema.firstFaultOf_eq_none h)
    rwa [Entries.members_ofJson] at hfits
  · intro h
    have hnone : schema.firstFault (.obj ms) = none := Schema.firstFault_eq_none_iff.mpr h
    unfold Validator.shortest Schema.firstFaultOf
    rw [Entries.members_ofJson, hnone]
    cases schema with
    | object required isClosed properties =>
      cases isClosed with
      | false => rfl
      | true =>
        have hknown : Schema.unexpectedFaults []
            (Schema.unknownKeys (properties.map (·.1)) (ms.map fun m => .str m.1)) = [] := by
          simp only [Schema.faults, List.append_eq_nil_iff] at h
          exact h.1.2
        simp [Function.comp_def, hknown]
    | _ => rfl

/-- The settings that members give in which a library finds no fault. -/
def settle {α : Type} (validate : Validator) (schema : Schema) (what : String)
    (settings : Json.Members → Except SettingsError α) (ms : Json.Members) : Except SettingsError α :=
  match validate schema ms with
  | some f => .error (.unfit what (f.place ".") f.reason.message)
  | none => settings ms

/-- The settings of a publisher that members give, held against the schema by a library. -/
def publisherBy (validate : Validator) : Json.Members → Except SettingsError PublisherSettings :=
  settle validate publisherSchema "publisher" PublisherSettings.ofMembers

/-- The settings of a resolver that members give, held against the schema by a library. -/
def resolverBy (validate : Validator) : Json.Members → Except SettingsError ResolverSettings :=
  settle validate resolverSchema "resolver" ResolverSettings.ofMembers

/-- The settings that are collected from an environment. -/
def collectedBy {α : Type} (fields : List (String × SettingKind))
    (settings : Json.Members → Except SettingsError α)
    (environment : Json.Members) : Except SettingsError α :=
  (collect environment fields).bind settings

theorem check_eq (schema : Schema) (what : String) (ms : Json.Members) :
    check schema what (.obj ms) = settle .shortest schema what .ok ms := by
  unfold check settle Validator.shortest
  simp only [Entries.ofJson]
  cases schema.firstFaultOf (ms.map fun m => (.str m.1, m.2)) with
  | some f => rfl
  | none =>
    dsimp only
    rw [Entries.members_ofJson]

theorem settle_eq {α : Type} (validate : Validator) (schema : Schema) (what : String)
    (settings : Json.Members → Except SettingsError α) (ms : Json.Members) :
    settle validate schema what settings ms = (settle validate schema what .ok ms).bind settings := by
  unfold settle
  cases validate schema ms <;> rfl

theorem ofJson_publisher (ms : Json.Members) :
    PublisherSettings.ofJson (.obj ms) = publisherBy .shortest ms := by
  unfold publisherBy
  rw [settle_eq, ← check_eq]
  rfl

theorem ofJson_resolver (ms : Json.Members) :
    ResolverSettings.ofJson (.obj ms) = resolverBy .shortest ms := by
  unfold resolverBy
  rw [settle_eq, ← check_eq]
  rfl

/-! ## Settings are read or refused -/

/-- Settings are read, or refused as settings that do not fit. -/
def Closed {α : Type} (outcome : Except SettingsError α) : Prop :=
  ∀ e, outcome = .error e → e.report.kind = .config

/-- The four ways to read settings, of a publisher and of a resolver, from members and from an
environment, are closed unless a time is too large.  From the environment that is never the case. -/
structure ClosedUnlessTooLarge (ms : Json.Members) (environment : List (Text × Text))
    (publisher : Json.Members → Except SettingsError PublisherSettings)
    (resolver : Json.Members → Except SettingsError ResolverSettings)
    (publisherEnvironment : Json.Members → Except SettingsError PublisherSettings)
    (resolverEnvironment : Json.Members → Except SettingsError ResolverSettings) : Prop where
  publisher_iff : Closed (publisher ms) ↔
    ¬(publisherSchema.faults [] (.obj ms) = [] ∧ (TooLarge ms "wait_interval" ∨ TooLarge ms "rpc_timeout"))
  resolver_iff : Closed (resolver ms) ↔
    ¬(resolverSchema.faults [] (.obj ms) = [] ∧ TooLarge ms "rpc_timeout")
  publisherEnvironment : Closed (publisherEnvironment (variablesOf environment))
  resolverEnvironment : Closed (resolverEnvironment (variablesOf environment))

/-- Settings that are held against a schema by a reliable library are closed unless something is too
large, if they are so once they meet the schema. -/
theorem closed_settle_iff {α : Type} {validate : Validator} (hv : validate.Reliable) {schema : Schema}
    {what : String}
    {settings : Json.Members → Except SettingsError α} {ms : Json.Members} {large : Prop}
    (h : schema.faults [] (.obj ms) = [] →
      (∃ c, settings ms = .ok c) ∧ ¬large ∨ settings ms = .error .tooLarge ∧ large) :
    Closed (settle validate schema what settings ms) ↔ ¬(schema.faults [] (.obj ms) = [] ∧ large) := by
  unfold settle
  cases hfault : validate schema ms with
  | some f =>
    refine iff_of_true (fun e he => ?_) fun hlarge => ?_
    · cases he
      rfl
    · cases ((hv schema ms).mpr hlarge.1).symm.trans hfault
  | none =>
    have hfits := (hv schema ms).mp hfault
    rcases h hfits with ⟨⟨c, hc⟩, hsmall⟩ | ⟨hc, hlarge⟩
    · refine iff_of_true (fun e he => ?_) fun hlarge => hsmall hlarge.2
      cases hc.symm.trans he
    · refine iff_of_false (fun hclosed => ?_) (not_not_intro ⟨hfits, hlarge⟩)
      cases hclosed _ hc

theorem closed_collectedBy {α : Type} {fields : List (String × SettingKind)}
    {settings : Json.Members → Except SettingsError α} (h : ∀ ms, Collected fields ms → Closed (settings ms))
    {environment : List (Text × Text)} :
    Closed (collectedBy fields settings (variablesOf environment)) := by
  intro e he
  unfold collectedBy at he
  rcases collect_variablesOf environment fields with ⟨ms, hms, hcollected⟩ |
    ⟨name, numeral, raw, cause, hrefused⟩
  · rw [hms] at he
    exact h ms hcollected e he
  · rw [hrefused] at he
    cases he
    rfl

theorem closedUnlessTooLarge_by {validate : Validator} (hv : validate.Reliable) (ms : Json.Members)
    (environment : List (Text × Text)) :
    ClosedUnlessTooLarge ms environment (publisherBy validate) (resolverBy validate)
      (collectedBy publisherFields (publisherBy validate))
      (collectedBy resolverFields (resolverBy validate)) where
  publisher_iff := closed_settle_iff hv PublisherSettings.ofMembers_of_fits
  resolver_iff := closed_settle_iff hv ResolverSettings.ofMembers_of_fits
  publisherEnvironment := by
    refine closed_collectedBy fun ms hcollected =>
      (closed_settle_iff hv PublisherSettings.ofMembers_of_fits).mpr ?_
    rintro ⟨-, hlarge | hlarge⟩
    · exact hcollected.not_tooLarge (by decide) hlarge
    · exact hcollected.not_tooLarge (by decide) hlarge
  resolverEnvironment := by
    refine closed_collectedBy fun ms hcollected =>
      (closed_settle_iff hv ResolverSettings.ofMembers_of_fits).mpr ?_
    rintro ⟨-, hlarge⟩
    exact hcollected.not_tooLarge (by decide) hlarge

/-- **Settings are read, or refused as settings that do not fit, unless a time is given as a whole number
that is too large**: with any library that finds a fault exactly where there is one, and so with the one
that tells the fault with the shortest path. -/
theorem settings_closed_iff (ms : Json.Members) (environment : List (Text × Text)) :
    (∀ validate : Validator, validate.Reliable →
      ClosedUnlessTooLarge ms environment (publisherBy validate) (resolverBy validate)
        (collectedBy publisherFields (publisherBy validate))
        (collectedBy resolverFields (resolverBy validate))) ∧
      ClosedUnlessTooLarge ms environment (fun ms => PublisherSettings.ofJson (.obj ms))
        (fun ms => ResolverSettings.ofJson (.obj ms))
        (fun environment => PublisherSettings.ofEnvironment (.obj environment))
        (fun environment => ResolverSettings.ofEnvironment (.obj environment)) := by
  refine ⟨fun validate hv => closedUnlessTooLarge_by hv ms environment, ?_⟩
  have h := closedUnlessTooLarge_by reliable_shortest ms environment
  rw [← funext ofJson_publisher, ← funext ofJson_resolver] at h
  exact h

/-- The members of an object for a publisher, with a time between polls. -/
def sampleMembers (interval : Int) : Json.Members :=
  [("rpc_url", .str "http://node"), ("contract_address", .str "0x1212121212121212121212121212121212121212"),
    ("wait_interval", .int interval)]

theorem settings_closed_iff_five :
    Validator.shortest.Reliable ∧
      ¬(TooLarge (sampleMembers 5) "wait_interval" ∨ TooLarge (sampleMembers 5) "rpc_timeout") ∧
      Closed (publisherBy .shortest (sampleMembers 5)) := by
  have hsmall : ¬(TooLarge (sampleMembers 5) "wait_interval" ∨ TooLarge (sampleMembers 5) "rpc_timeout") := by
    rintro (⟨n, hn, hlarge⟩ | ⟨n, hn, -⟩)
    · have hfive : Json.Members.get? (sampleMembers 5) "wait_interval" = some (.int 5) := rfl
      cases hfive.symm.trans hn
      exact absurd hlarge (by decide +kernel)
    · cases hn
  have hclosed := (settings_closed_iff (sampleMembers 5) []).1 .shortest reliable_shortest
  exact ⟨reliable_shortest, hsmall, hclosed.publisher_iff.mpr fun h => hsmall h.2⟩

/-- A time of 10 ^ 309 seconds meets the schema, and is refused in another way. -/
theorem not_closed_hugeInterval : ¬Closed (PublisherSettings.ofJson (.obj (sampleMembers (10 ^ 309)))) := by
  have hfits : publisherSchema.faults [] (.obj (sampleMembers (10 ^ 309))) = [] := by decide +kernel
  have hlarge : TooLarge (sampleMembers (10 ^ 309)) "wait_interval" := ⟨10 ^ 309, rfl, by decide +kernel⟩
  rw [ofJson_publisher, publisherBy, closed_settle_iff reliable_shortest PublisherSettings.ofMembers_of_fits]
  exact not_not_intro ⟨hfits, .inl hlarge⟩

end Setting

end DidRegistry
