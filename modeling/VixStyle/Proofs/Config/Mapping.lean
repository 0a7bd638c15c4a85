/-
Which settings are accepted, and what options they give.

Settings are `Valid` if all keys are known and each value is of the kind that its key asks for. Main statement,
`optionsOf_told`, on settings of which no two have the same normal key:
- options come of them if and only if they are valid;
- these hold what is given and the defaults elsewhere (`Gives`), and pass the check of options;
- settings that are refused are refused with a fault of their own if the value that is refused can be shown, and only then;
- the order of the settings does not matter.

The check of each key has one lemma, `withWidth_eq_ok_iff` and so on; together they are `optionsOf_eq_ok_iff`. A value that
cannot be shown is in the way of the fault that should show it: `not_refused_with_fault`.
-/
import VixStyle.Proofs.Config.Surfacing
import VixStyle.Proofs.Text.WordSet

namespace VixStyle

open Text

/-! ## Options and their fields -/

/-- options as they would be given -/
def Options.fields (o : Options) : OptionFields where
  indentWidth := o.indentWidth
  indentStyle := o.indentStyle.name
  enabled := o.enabled
  disabled := o.disabled
  oneLineStatements := o.oneLineStatements.map StatementKind.name

theorem IndentStyle.ofName?_eq_some_iff {s : String} {style : IndentStyle} : ofName? s = some style ↔ s = style.name := by
  constructor
  · intro h
    unfold ofName? at h
    have hname := List.find?_some h
    exact (beq_iff_eq.1 hname).symm
  · rintro rfl
    cases style <;> decide

theorem StatementKind.name_injective {kind kind' : StatementKind} (h : kind.name = kind'.name) : kind = kind' := by
  revert h
  cases kind <;> cases kind' <;> decide

/-- the kinds of statement that are named are found by their names -/
theorem StatementKind.ofName?_isNone_eq_false_iff {s : String} :
    (ofName? s).isNone = false ↔ ∃ kind : StatementKind, kind.name = s := by
  rw [Option.isNone_eq_false_iff, ofName?, List.find?_isSome]
  exact ⟨fun ⟨kind, _, h⟩ => ⟨kind, by simpa using h⟩, fun ⟨kind, h⟩ => ⟨kind, mem_all kind, by simpa using h⟩⟩

theorem unknownStatementNames_eq_nil_iff {names : List String} :
    unknownStatementNames names = [] ↔ ∀ name ∈ names, ∃ kind : StatementKind, kind.name = name := by
  simp only [unknownStatementNames, wordSet_eq_nil_iff, List.filter_eq_nil_iff, Bool.not_eq_true,
    StatementKind.ofName?_isNone_eq_false_iff]

/-- kinds of statement in the order of all are those that their names name -/
theorem namedStatements_map_name (names : List String) :
    namedStatements ((namedStatements names).map StatementKind.name) = namedStatements names := by
  refine List.filter_congr fun kind _ => ?_
  rw [Bool.eq_iff_iff, List.contains_iff_mem, List.contains_iff_mem, List.mem_map]
  constructor
  · rintro ⟨kind', hmem, hname⟩
    obtain rfl := StatementKind.name_injective hname
    exact List.contains_iff_mem.1 (List.mem_filter.1 hmem).2
  · intro hmem
    exact ⟨kind, List.mem_filter.2 ⟨StatementKind.mem_all kind, by simpa using hmem⟩, rfl⟩

/-- **Options in normal form** pass the check, as they are. -/
theorem Options.of_fields {o : Options} (henabled : o.enabled.map wordSet = o.enabled) (hdisabled : wordSet o.disabled = o.disabled)
    {names : List String} (hstatements : o.oneLineStatements = namedStatements names) : Options.of o.fields = .ok o := by
  obtain ⟨width, style, enabled, disabled, statements, hpos⟩ := o
  obtain rfl : statements = namedStatements names := hstatements
  have hknown : unknownStatementNames ((namedStatements names).map StatementKind.name) = [] := by
    refine unknownStatementNames_eq_nil_iff.2 fun name hname => ?_
    obtain ⟨kind, -, rfl⟩ := List.mem_map.1 hname
    exact ⟨kind, rfl⟩
  have hwidth : ∀ o : Options, o.withWidth width = .ok { o with indentWidth := width, indentWidth_pos := hpos } := by
    intro o
    exact dif_pos hpos
  have hkinds : ∀ o : Options, o.withStatements ((namedStatements names).map StatementKind.name) =
      .ok { o with oneLineStatements := namedStatements names } := by
    intro o
    rw [Options.withStatements, hknown, namedStatements_map_name]
  have hstyle : IndentStyle.ofName? style.name = some style := IndentStyle.ofName?_eq_some_iff.2 rfl
  unfold Options.of
  simp only [Options.fields, hstyle, hwidth, hkinds, Config.ok_bind]
  dsimp only at henabled hdisabled
  rw [henabled, hdisabled]
  rfl

namespace Config

open Setting

/-! ## Settings that are given -/

/-- a value is given for a key, in some spelling -/
def Given (settings : Table) (key : String) (v : Value) : Prop :=
  ∃ member ∈ settings, normalKey member.1 = key ∧ member.2 = v

/-- no two settings have the same normal key -/
def Distinct (settings : Table) : Prop := (settings.map fun member => normalKey member.1).Nodup

section Given

variable {settings : Table} {key : String} {v : Value}

theorem lookup?_eq_none_iff : lookup? settings key = none ↔ ∀ v, ¬ Given settings key v := by
  simp only [lookup?, Option.map_eq_none_iff, List.find?_eq_none, List.mem_reverse, beq_iff_eq]
  exact ⟨fun h v ⟨member, hmem, hkey, _⟩ => h member hmem hkey, fun h member hmem hkey => h member.2 ⟨member, hmem, hkey, rfl⟩⟩

theorem lookup?_eq_some_iff (hdistinct : Distinct settings) : lookup? settings key = some v ↔ Given settings key v := by
  simp only [lookup?, Option.map_eq_some_iff]
  constructor
  · rintro ⟨member, hfind, rfl⟩
    exact ⟨member, List.mem_reverse.1 (List.mem_of_find?_eq_some hfind), by simpa using List.find?_some hfind, rfl⟩
  · rintro ⟨member, hmem, hkey, rfl⟩
    obtain ⟨found, hfound⟩ : ∃ found, settings.reverse.find? (fun member => normalKey member.1 == key) = some found :=
      Option.isSome_iff_exists.1 (List.find?_isSome.2 ⟨member, List.mem_reverse.2 hmem, by simpa using hkey⟩)
    have hsame : normalKey found.1 = normalKey member.1 := by
      rw [hkey]
      simpa using List.find?_some hfound
    have hfound' := List.mem_reverse.1 (List.mem_of_find?_eq_some hfound)
    exact ⟨found, hfound, by rw [List.inj_on_of_nodup_map hdistinct hfound' hmem hsame]⟩

theorem unknownKeys_eq_nil_iff : unknownKeys settings = [] ↔ ∀ member ∈ settings, normalKey member.1 ∈ knownKeys := by
  simp only [unknownKeys, wordSet_eq_nil_iff, List.filter_eq_nil_iff, List.forall_mem_map, Bool.not_eq_true',
    Bool.not_eq_false, List.contains_iff_mem]

end Given

/-! ## The order of settings -/

section Order

variable {settings settings' : Table} (hperm : settings'.Perm settings)

include hperm

theorem unknownKeys_perm : unknownKeys settings' = unknownKeys settings :=
  wordSet_congr fun _ => ((hperm.map _).filter _).mem_iff

theorem lookup?_perm (hdistinct : Distinct settings) (key : String) : lookup? settings' key = lookup? settings key := by
  have hdistinct' : Distinct settings' := ((hperm.map _).nodup_iff).2 hdistinct
  refine Option.ext fun v => ?_
  rw [lookup?_eq_some_iff hdistinct', lookup?_eq_some_iff hdistinct]
  exact exists_congr fun member => and_congr_left fun _ => hperm.mem_iff

/-- **The order of settings** does not matter, neither for the options nor for a fault. -/
theorem optionsOf_perm [Machine] (hdistinct : Distinct settings) : optionsOf settings' = optionsOf settings := by
  have hlookup := lookup?_perm hperm hdistinct
  simp only [optionsOf, unknownKeys_perm hperm, withWidth, withStyle, withSelect, withIgnore, withStatements, hlookup]

end Order

/-! ## What each key accepts -/

/-- a list of words, all of them known -/
def KnownWords (known : String → Prop) (v : Value) (ws : List String) : Prop :=
  v = .list (ws.map .text) ∧ ∀ w ∈ ws, known w

/-- a value that names a width -/
def WidthIs (v : Value) (n : Nat) : Prop := v = .int n ∧ 0 < n

/-- a value that names a style -/
def StyleIs (v : Value) (style : IndentStyle) : Prop := v = .text style.name

/-- a value that names a set of rules -/
def RulesAre (v : Value) (ids : List String) : Prop := ∃ ws, KnownWords (· ∈ knownRuleIds) v ws ∧ ids = wordSet ws

/-- a value that names kinds of statement -/
def KindsAre (v : Value) (kinds : List StatementKind) : Prop :=
  ∃ ws, KnownWords (fun w => ∃ kind : StatementKind, kind.name = w) v ws ∧ kinds = namedStatements ws

theorem width?_eq_some_iff {v : Value} {n : Int} : width? v = some n ↔ v = .int n ∧ 1 ≤ n := by
  cases v with
  | int m =>
    simp only [width?, Option.ite_none_right_eq_some, Option.some.injEq, Value.int.injEq]
    constructor
    · rintro ⟨h, rfl⟩
      exact ⟨rfl, h⟩
    · rintro ⟨rfl, h⟩
      exact ⟨h, rfl⟩
  | _ => simp [width?]

theorem style?_eq_some_iff {v : Value} {style : IndentStyle} : style? v = some style ↔ StyleIs v style := by
  cases v <;> simp [style?, StyleIs, IndentStyle.ofName?_eq_some_iff]

theorem text?_eq_some_iff {v : Value} {s : String} : v.text? = some s ↔ v = .text s := by
  cases v <;> simp [Value.text?]

theorem texts?_eq_some_iff {v : Value} {ws : List String} : v.texts? = some ws ↔ v = .list (ws.map .text) := by
  have hitems : ∀ (items : List Value) (ws : List String), items.mapM Value.text? = some ws ↔ items = ws.map .text := by
    intro items
    induction items with
    | nil => intro ws; cases ws <;> simp
    | cons item more ih =>
      intro ws
      simp only [List.mapM_cons, Option.bind_eq_bind, Option.bind_eq_some_iff, Option.pure_def, Option.some.injEq,
        text?_eq_some_iff, ih]
      cases ws with
      | nil => simp
      | cons w ws =>
        simp only [List.map_cons, List.cons.injEq]
        constructor
        · rintro ⟨s, rfl, ss, rfl, rfl, rfl⟩
          exact ⟨rfl, rfl⟩
        · rintro ⟨rfl, rfl⟩
          exact ⟨w, rfl, ws, rfl, rfl, rfl⟩
  cases v with
  | list items => simp [Value.texts?, hitems]
  | _ => simp [Value.texts?]

theorem words_eq_ok_iff {option : String} {v : Value} {ws : List String} :
    words option v = .ok ws ↔ v = .list (ws.map .text) := by
  rw [← texts?_eq_some_iff, words]
  cases v.texts? <;> simp

theorem ruleIds_eq_ok_iff {option : String} {ws ids : List String} :
    ruleIds option ws = .ok ids ↔ (∀ w ∈ ws, w ∈ knownRuleIds) ∧ ids = wordSet ws := by
  have hnil : wordSet (ws.filter fun id => !knownRuleIds.contains id) = [] ↔ ∀ w ∈ ws, w ∈ knownRuleIds := by
    simp only [wordSet_eq_nil_iff, List.filter_eq_nil_iff, Bool.not_eq_true', Bool.not_eq_false, List.contains_iff_mem]
  rw [← hnil, ruleIds]
  cases wordSet (ws.filter fun id => !knownRuleIds.contains id) <;> simp [eq_comm]

/-! ## What options come of settings -/

/-- the content `x` of an option is what is given for a key, or the default where nothing is -/
structure ComesFrom {α : Type} (settings : Table) (key : String) (accepts : Value → α → Prop) (default x : α) : Prop where
  given : ∀ v, Given settings key v → accepts v x
  default : (∀ v, ¬ Given settings key v) → x = default

section ComesFrom

variable {settings : Table} {key : String} {α : Type} {accepts : Value → α → Prop} {default x : α}

theorem comesFrom_of_none (h : lookup? settings key = none) : ComesFrom settings key accepts default x ↔ x = default := by
  have hnone := lookup?_eq_none_iff.1 h
  exact ⟨fun hx => hx.default hnone, fun hx => ⟨fun v hv => absurd hv (hnone v), fun _ => hx⟩⟩

theorem comesFrom_of_some (hdistinct : Distinct settings) {v : Value} (h : lookup? settings key = some v) :
    ComesFrom settings key accepts default x ↔ accepts v x := by
  have hv := (lookup?_eq_some_iff hdistinct).1 h
  refine ⟨fun hx => hx.given v hv, fun hx => ⟨fun w hw => ?_, fun hnone => absurd hv (hnone v)⟩⟩
  rw [← lookup?_eq_some_iff hdistinct, h] at hw
  rwa [← Option.some.inj hw]

end ComesFrom

/-- what settings give is in the options, and the defaults elsewhere -/
structure Gives (settings : Table) (o : Options) : Prop where
  width : ComesFrom settings "indent-width" WidthIs standardWidth o.indentWidth
  style : ComesFrom settings "indent-style" StyleIs .detect o.indentStyle
  enabled : ComesFrom settings "select" (fun v x => ∃ ids, RulesAre v ids ∧ x = some ids) none o.enabled
  disabled : ComesFrom settings "ignore" RulesAre [] o.disabled
  statements : ComesFrom settings "single-line-if-statements" KindsAre StatementKind.all o.oneLineStatements

theorem refuse_ne_ok [Machine] {α : Type} (given : Shown) (fault : Value → SettingFault) (a : α) :
    refuse given fault ≠ .ok a := by
  unfold refuse
  cases given.limit? <;> simp

/-- a set of rules is read from a value and put into the options -/
theorem givenRules_eq_ok_iff {option : String} {v : Value} {sets : List String → Options} {o : Options} :
    (words option v >>= fun ws => ruleIds option ws >>= fun ids => pure (sets ids)) = .ok o ↔
      ∃ ids, RulesAre v ids ∧ o = sets ids := by
  simp only [bind_eq_ok_iff, words_eq_ok_iff, ruleIds_eq_ok_iff]
  constructor
  · rintro ⟨ws, hv, _, ⟨hknown, rfl⟩, ⟨⟩⟩
    exact ⟨_, ⟨ws, ⟨hv, hknown⟩, rfl⟩, rfl⟩
  · rintro ⟨_, ⟨ws, ⟨hv, hknown⟩, rfl⟩, rfl⟩
    exact ⟨ws, hv, _, ⟨hknown, rfl⟩, rfl⟩

section Steps

variable {settings : Table} (hdistinct : Distinct settings) {o o' : Options}

include hdistinct

/-- **One key**: its option is set to what is accepted of the value that is given, or stays as it is. -/
theorem step_eq_ok_iff {key : String} {α : Type} {accepts : Value → α → Prop} {x : α} {sets : α → Prop}
    {step : Except SettingFault Options} (hsame : sets x ↔ o' = o) (hnone : lookup? settings key = none → step = .ok o)
    (hsome : ∀ v, lookup? settings key = some v → (step = .ok o' ↔ ∃ y, accepts v y ∧ sets y)) :
    step = .ok o' ↔ ∃ y, ComesFrom settings key accepts x y ∧ sets y := by
  cases hlookup : lookup? settings key with
  | none =>
    simp only [comesFrom_of_none hlookup, hnone hlookup, Except.ok.injEq, exists_eq_left, hsame]
    exact eq_comm
  | some v =>
    simp only [comesFrom_of_some hdistinct hlookup]
    exact hsome v hlookup

theorem withWidth_eq_ok_iff [Machine] : withWidth settings o = .ok o' ↔
    ∃ n, ComesFrom settings "indent-width" WidthIs o.indentWidth n ∧
      ∃ hpos, o' = { o with indentWidth := n, indentWidth_pos := hpos } := by
  refine step_eq_ok_iff (o := o) hdistinct ?same (fun hlookup => by simp only [withWidth, hlookup]) fun v hlookup => ?given
  case same => exact ⟨fun ⟨_, h⟩ => h, fun h => ⟨o.indentWidth_pos, h⟩⟩
  case given =>
    simp only [withWidth, hlookup]
    cases hwidth : width? v with
    | none =>
      refine iff_of_false (refuse_ne_ok _ _ o') ?_
      rintro ⟨n, ⟨rfl, hpos⟩, -⟩
      rw [width?_eq_some_iff.2 ⟨rfl, by omega⟩] at hwidth
      cases hwidth
    | some n =>
      obtain ⟨rfl, hn⟩ := width?_eq_some_iff.1 hwidth
      obtain ⟨m, rfl⟩ := Int.eq_ofNat_of_zero_le (by omega : 0 ≤ n)
      have hm : 0 < m := by omega
      have hok : (o.withWidth m).mapError SettingFault.options = .ok { o with indentWidth := m, indentWidth_pos := hm } :=
        congrArg (Except.mapError SettingFault.options) (dif_pos hm : o.withWidth m = _)
      dsimp only
      rw [hok, Except.ok.injEq]
      constructor
      · rintro rfl
        exact ⟨m, ⟨rfl, hm⟩, hm, rfl⟩
      · rintro ⟨k, ⟨heq, -⟩, hk, rfl⟩
        obtain rfl := Int.ofNat_inj.1 (Value.int.inj heq)
        rfl

theorem withStyle_eq_ok_iff [Machine] : withStyle settings o = .ok o' ↔
    ∃ style, ComesFrom settings "indent-style" StyleIs o.indentStyle style ∧ o' = { o with indentStyle := style } := by
  refine step_eq_ok_iff hdistinct Iff.rfl (fun hlookup => by simp only [withStyle, hlookup]) fun v hlookup => ?_
  simp only [withStyle, hlookup, ← style?_eq_some_iff]
  cases style? v with
  | none => simpa using refuse_ne_ok _ _ o'
  | some style => simp [eq_comm]

theorem withSelect_eq_ok_iff : withSelect settings o = .ok o' ↔
    ∃ enabled, ComesFrom settings "select" (fun v x => ∃ ids, RulesAre v ids ∧ x = some ids) o.enabled enabled ∧
      o' = { o with enabled := enabled } := by
  refine step_eq_ok_iff hdistinct Iff.rfl (fun hlookup => by simp only [withSelect, hlookup]) fun v hlookup => ?_
  simp only [withSelect, hlookup]
  rw [givenRules_eq_ok_iff]
  constructor
  · rintro ⟨ids, hids, rfl⟩
    exact ⟨some ids, ⟨ids, hids, rfl⟩, rfl⟩
  · rintro ⟨_, ⟨ids, hids, rfl⟩, rfl⟩
    exact ⟨ids, hids, rfl⟩

theorem withIgnore_eq_ok_iff : withIgnore settings o = .ok o' ↔
    ∃ disabled, ComesFrom settings "ignore" RulesAre o.disabled disabled ∧ o' = { o with disabled := disabled } := by
  refine step_eq_ok_iff hdistinct Iff.rfl (fun hlookup => by simp only [withIgnore, hlookup]) fun v hlookup => ?_
  simp only [withIgnore, hlookup]
  exact givenRules_eq_ok_iff

theorem withStatements_eq_ok_iff : withStatements settings o = .ok o' ↔
    ∃ kinds, ComesFrom settings "single-line-if-statements" KindsAre o.oneLineStatements kinds ∧
      o' = { o with oneLineStatements := kinds } := by
  refine step_eq_ok_iff hdistinct Iff.rfl (fun hlookup => by simp only [withStatements, hlookup]) fun v hlookup => ?_
  simp only [withStatements, hlookup, bind_eq_ok_iff, words_eq_ok_iff, KindsAre, KnownWords,
    ← unknownStatementNames_eq_nil_iff]
  constructor
  · rintro ⟨ws, hv, hok⟩
    split at hok
    · cases hok
      exact ⟨_, ⟨ws, ⟨hv, ‹_›⟩, rfl⟩, rfl⟩
    · cases hok
  · rintro ⟨_, ⟨ws, ⟨hv, hknown⟩, rfl⟩, rfl⟩
    refine ⟨ws, hv, ?_⟩
    rw [hknown]
    rfl

/-- **Exactly these options come of settings**: all keys are known, and each option is what is given or the default. -/
theorem optionsOf_eq_ok_iff [Machine] : optionsOf settings = .ok o ↔
    (∀ member ∈ settings, normalKey member.1 ∈ knownKeys) ∧ Gives settings o := by
  rw [← unknownKeys_eq_nil_iff, optionsOf]
  cases unknownKeys settings with
  | cons key more => simp
  | nil =>
    simp only [bind_eq_ok_iff, withWidth_eq_ok_iff hdistinct, withStyle_eq_ok_iff hdistinct, withSelect_eq_ok_iff hdistinct,
      withIgnore_eq_ok_iff hdistinct, withStatements_eq_ok_iff hdistinct, true_and]
    constructor
    · rintro ⟨_, ⟨n, hwidth, hpos, rfl⟩, _, ⟨style, hstyle, rfl⟩, _, ⟨enabled, henabled, rfl⟩, _, ⟨disabled, hdisabled, rfl⟩,
        kinds, hkinds, rfl⟩
      exact ⟨hwidth, hstyle, henabled, hdisabled, hkinds⟩
    · rintro ⟨hwidth, hstyle, henabled, hdisabled, hkinds⟩
      exact ⟨_, ⟨_, hwidth, o.indentWidth_pos, rfl⟩, _, ⟨_, hstyle, rfl⟩, _, ⟨_, henabled, rfl⟩, _, ⟨_, hdisabled, rfl⟩,
        _, hkinds, rfl⟩

end Steps

/-- settings of known keys, each with a value of the kind that its key asks for -/
structure Valid (settings : Table) : Prop where
  keys : ∀ member ∈ settings, normalKey member.1 ∈ knownKeys
  width : ∀ v, Given settings "indent-width" v → ∃ n : Int, v = .int n ∧ 1 ≤ n
  style : ∀ v, Given settings "indent-style" v → ∃ style : IndentStyle, v = .text style.name
  select : ∀ v, Given settings "select" v → ∃ ids, KnownWords (· ∈ knownRuleIds) v ids
  ignore : ∀ v, Given settings "ignore" v → ∃ ids, KnownWords (· ∈ knownRuleIds) v ids
  statements : ∀ v, Given settings "single-line-if-statements" v →
    ∃ names, KnownWords (fun name => ∃ kind : StatementKind, kind.name = name) v names

section Valid

variable {settings : Table} (hdistinct : Distinct settings)

include hdistinct

/-- an option can be set exactly if what is given for its key is accepted -/
theorem exists_comesFrom_iff {key : String} {α : Type} {accepts : Value → α → Prop} {default : α} :
    (∃ x, ComesFrom settings key accepts default x) ↔ ∀ v, Given settings key v → ∃ x, accepts v x := by
  constructor
  · rintro ⟨x, hx⟩ v hv
    exact ⟨x, hx.given v hv⟩
  · intro h
    cases hlookup : lookup? settings key with
    | none => exact ⟨default, (comesFrom_of_none hlookup).2 rfl⟩
    | some v =>
      obtain ⟨x, hx⟩ := h v ((lookup?_eq_some_iff hdistinct).1 hlookup)
      exact ⟨x, (comesFrom_of_some hdistinct hlookup).2 hx⟩

theorem ComesFrom.default_or_accepted {key : String} {α : Type} {accepts : Value → α → Prop} {default x : α}
    (h : ComesFrom settings key accepts default x) : x = default ∨ ∃ v, accepts v x := by
  cases hlookup : lookup? settings key with
  | none => exact Or.inl ((comesFrom_of_none hlookup).1 h)
  | some v => exact Or.inr ⟨v, (comesFrom_of_some hdistinct hlookup).1 h⟩

/-- a width that comes from settings is positive -/
theorem ComesFrom.pos {n : Nat} (h : ComesFrom settings "indent-width" WidthIs standardWidth n) : 0 < n := by
  rcases h.default_or_accepted hdistinct with rfl | ⟨v, -, hpos⟩
  · exact standardWidth_pos
  · exact hpos

/-- options that hold what settings give are in normal form -/
theorem Gives.of_fields {o : Options} (h : Gives settings o) : Options.of o.fields = .ok o := by
  have henabled : o.enabled.map wordSet = o.enabled := by
    rcases h.enabled.default_or_accepted hdistinct with hnone | ⟨v, _, ⟨ws, -, rfl⟩, hsome⟩
    · rw [hnone]
      rfl
    · rw [hsome, Option.map_some, wordSet_wordSet]
  have hdisabled : wordSet o.disabled = o.disabled := by
    rcases h.disabled.default_or_accepted hdistinct with hnil | ⟨v, ws, -, hset⟩
    · rw [hnil]
      rfl
    · rw [hset, wordSet_wordSet]
  obtain ⟨names, hnames⟩ : ∃ names, o.oneLineStatements = namedStatements names := by
    rcases h.statements.default_or_accepted hdistinct with hall | ⟨v, names, -, hnames⟩
    · exact ⟨StatementKind.all.map StatementKind.name, hall.trans (by decide)⟩
    · exact ⟨names, hnames⟩
  exact Options.of_fields henabled hdisabled hnames

/-- settings are valid exactly if some options hold what they give -/
theorem exists_gives_iff :
    ((∀ member ∈ settings, normalKey member.1 ∈ knownKeys) ∧ ∃ o, Gives settings o) ↔ Valid settings := by
  have hrules : ∀ v, (∃ ids, RulesAre v ids) ↔ ∃ ids, KnownWords (· ∈ knownRuleIds) v ids :=
    fun v => ⟨fun ⟨_, ws, hws, _⟩ => ⟨ws, hws⟩, fun ⟨ws, hws⟩ => ⟨_, ws, hws, rfl⟩⟩
  have hkinds : ∀ v, (∃ kinds, KindsAre v kinds) ↔
      ∃ names, KnownWords (fun name => ∃ kind : StatementKind, kind.name = name) v names :=
    fun v => ⟨fun ⟨_, ws, hws, _⟩ => ⟨ws, hws⟩, fun ⟨ws, hws⟩ => ⟨_, ws, hws, rfl⟩⟩
  constructor
  · rintro ⟨hkeys, o, ho⟩
    refine { keys := hkeys, width := fun v hv => ?_, style := fun v hv => ⟨_, ho.style.given v hv⟩,
             select := fun v hv => ?_, ignore := fun v hv => (hrules v).1 ⟨_, ho.disabled.given v hv⟩,
             statements := fun v hv => (hkinds v).1 ⟨_, ho.statements.given v hv⟩ }
    · obtain ⟨rfl, hpos⟩ := ho.width.given v hv
      exact ⟨_, rfl, by omega⟩
    · obtain ⟨ids, hids, -⟩ := ho.enabled.given v hv
      exact (hrules v).1 ⟨ids, hids⟩
  · intro h
    have hwidth : ∃ n, ComesFrom settings "indent-width" WidthIs standardWidth n :=
      (exists_comesFrom_iff hdistinct).2 fun v hv => by
        obtain ⟨m, rfl, hm⟩ := h.width v hv
        exact ⟨m.toNat, congrArg Value.int (Int.toNat_of_nonneg (by omega)).symm, by omega⟩
    have hstyle : ∃ style, ComesFrom settings "indent-style" StyleIs .detect style :=
      (exists_comesFrom_iff hdistinct).2 h.style
    have henabled : ∃ enabled, ComesFrom settings "select" (fun v x => ∃ ids, RulesAre v ids ∧ x = some ids) none enabled :=
      (exists_comesFrom_iff hdistinct).2 fun v hv => by
        obtain ⟨ids, hids⟩ := (hrules v).2 (h.select v hv)
        exact ⟨some ids, ids, hids, rfl⟩
    have hdisabled : ∃ disabled, ComesFrom settings "ignore" RulesAre [] disabled :=
      (exists_comesFrom_iff hdistinct).2 fun v hv => (hrules v).2 (h.ignore v hv)
    have hstatements : ∃ kinds, ComesFrom settings "single-line-if-statements" KindsAre StatementKind.all kinds :=
      (exists_comesFrom_iff hdistinct).2 fun v hv => (hkinds v).2 (h.statements v hv)
    obtain ⟨n, hn⟩ := hwidth
    obtain ⟨style, hstyle⟩ := hstyle
    obtain ⟨enabled, henabled⟩ := henabled
    obtain ⟨disabled, hdisabled⟩ := hdisabled
    obtain ⟨kinds, hkinds⟩ := hstatements
    exact ⟨h.keys, ⟨n, style, enabled, disabled, kinds, hn.pos hdistinct⟩, hn, hstyle, henabled, hdisabled, hkinds⟩

end Valid

/-! ## Faults -/

/-- a fault of settings, and not of showing them or of the options that they give -/
def SettingFault.OfSettings : SettingFault → Prop
  | limit _ | options _ => False
  | _ => True

section Faults

variable {e : OptionsError}

theorem refuse_ne_options [Machine] {α : Type} {given : Shown} {shows : Value → SettingFault}
    (h : shows given.value ≠ .options e) :
    (refuse given shows : Except SettingFault α) ≠ .error (.options e) := by
  unfold refuse
  cases given.limit? with
  | none => simpa using h
  | some l => simp

theorem givenRules_ne_options {option : String} {v : Value} {f : List String → Options} :
    (words option v >>= fun ws => ruleIds option ws >>= fun ids => pure (f ids)) ≠ .error (.options e) := by
  intro h
  rcases bind_eq_error_iff.1 h with h | ⟨ws, -, h⟩
  · unfold words at h
    split at h <;> cases h
  rcases bind_eq_error_iff.1 h with h | ⟨ids, -, h⟩
  · unfold ruleIds at h
    split at h <;> cases h
  · cases h

variable (settings : Table) (o : Options)

theorem withWidth_ne_options [Machine] : withWidth settings o ≠ .error (.options e) := by
  rcases withWidth_cases settings o with ⟨-, o', ho'⟩ | ⟨given, -, hrefuse⟩
  · rw [ho']
    simp
  · rw [hrefuse]
    exact refuse_ne_options (by simp)

theorem withStyle_ne_options [Machine] : withStyle settings o ≠ .error (.options e) := by
  rcases withStyle_cases settings o with ⟨-, o', ho'⟩ | ⟨given, -, hrefuse⟩
  · rw [ho']
    simp
  · rw [hrefuse]
    exact refuse_ne_options (by simp)

theorem withSelect_ne_options : withSelect settings o ≠ .error (.options e) := by
  unfold withSelect
  cases lookup? settings "select" with
  | none => simp
  | some v => exact givenRules_ne_options

theorem withIgnore_ne_options : withIgnore settings o ≠ .error (.options e) := by
  unfold withIgnore
  cases lookup? settings "ignore" with
  | none => simp
  | some v => exact givenRules_ne_options

theorem withStatements_ne_options : withStatements settings o ≠ .error (.options e) := by
  unfold withStatements
  cases lookup? settings "single-line-if-statements" with
  | none => simp
  | some v =>
    intro h
    rcases bind_eq_error_iff.1 h with h | ⟨ws, -, h⟩
    · unfold words at h
      split at h <;> cases h
    · split at h <;> cases h

/-- **The check of options has nothing to refuse** in what settings give. -/
theorem optionsOf_ne_options [Machine] : optionsOf settings ≠ .error (.options e) := by
  intro h
  unfold optionsOf at h
  split at h
  · simp only [bind_eq_error_iff] at h
    rcases h with h | ⟨o, -, h | ⟨o, -, h | ⟨o, -, h | ⟨o, -, h⟩⟩⟩⟩
    · exact withWidth_ne_options settings _ h
    · exact withStyle_ne_options settings o h
    · exact withSelect_ne_options settings o h
    · exact withIgnore_ne_options settings o h
    · exact withStatements_ne_options settings o h
  · cases h

end Faults

/-- **A refusal is a fault of the settings** exactly if the value that it shows can be shown. -/
theorem ofSettings_iff [Machine] {settings : Table} {fault : SettingFault} (h : optionsOf settings = .error fault) :
    fault.OfSettings ↔ ∀ v ∈ refused? settings, v.limit? = none := by
  have hlimit : (∃ l, fault = .limit l) ↔ ∃ v ∈ refused? settings, ∃ l, v.limit? = some l := by
    constructor
    · rintro ⟨l, rfl⟩
      obtain ⟨v, hv, hl⟩ := optionsOf_eq_limit_iff.1 h
      exact ⟨v, hv, l, hl⟩
    · rintro ⟨v, hv, l, hl⟩
      exact ⟨l, Except.error.inj (h.symm.trans (optionsOf_eq_limit_iff.2 ⟨v, hv, hl⟩))⟩
  have hof : fault.OfSettings ↔ ¬ ∃ l, fault = .limit l := by
    cases fault with
    | limit l => simp [SettingFault.OfSettings]
    | options e => exact absurd h (optionsOf_ne_options settings)
    | _ => simp [SettingFault.OfSettings]
  rw [hof, hlimit]
  push Not
  exact forall₂_congr fun v _ => Option.eq_none_iff_forall_ne_some.symm

/-! ## Main result -/

/--
**Settings are accepted exactly if they are valid**, and what comes of them does not depend on their order. The options hold
what is given, and the defaults elsewhere. A refusal is a fault of the settings unless the value it would show cannot be shown.
-/
theorem optionsOf_told [Machine] {settings : Table} (hdistinct : Distinct settings) :
    ((∃ o, optionsOf settings = .ok o) ↔ Valid settings) ∧
      (∀ o, optionsOf settings = .ok o → Gives settings o ∧ Options.of o.fields = .ok o) ∧
        (∀ fault, optionsOf settings = .error fault →
          (fault.OfSettings ↔ ∀ v ∈ refused? settings, v.limit? = none)) ∧
          ∀ settings', settings'.Perm settings → optionsOf settings' = optionsOf settings := by
  refine ⟨?accepted, fun o ho => ?given, fun fault => ofSettings_iff, fun settings' hperm => optionsOf_perm hperm hdistinct⟩
  case accepted =>
    rw [← exists_gives_iff hdistinct, ← exists_and_left]
    exact exists_congr fun o => optionsOf_eq_ok_iff hdistinct
  case given =>
    have hgives := ((optionsOf_eq_ok_iff hdistinct).1 ho).2
    exact ⟨hgives, hgives.of_fields hdistinct⟩

/-- a width and a set of rules, in either order -/
theorem optionsOf_told_narrow :
    let settings : Table := [("indent_width", .int 2), ("select", .list [.text "comma-spacing"])]
    Distinct settings ∧ Valid settings ∧
      (∃ o, optionsOf settings = .ok o ∧ Gives settings o ∧ Options.of o.fields = .ok o) ∧
        optionsOf settings.reverse = optionsOf settings := by
  intro settings
  have hdistinct : Distinct settings := by
    unfold Distinct
    decide +kernel
  obtain ⟨hvalid, hgiven, -, horder⟩ := optionsOf_told hdistinct
  obtain ⟨o, ho⟩ : ∃ o, optionsOf settings = .ok o := exists_of_isOk (by decide +kernel)
  exact ⟨hdistinct, hvalid.1 ⟨o, ho⟩, ⟨o, ho, hgiven o ho⟩, horder _ (List.reverse_perm settings)⟩

/-- **A refusal is not always a fault of the settings**: a list with a number of too many digits cannot be shown. -/
theorem not_refused_with_fault : ¬ ∀ settings : Table, Distinct settings → ∀ fault,
    optionsOf settings = .error fault → fault.OfSettings := by
  intro h
  have hrefused : ∀ items, refused? [("indent-width", .list items)] = some (shownWidth (.list items)) := by
    have hkey : normalKey "indent-width" = "indent-width" := by decide +kernel
    intro items
    simp [refused?, refusedWidth?, unknownKeys, knownKeys, lookup?, width?, hkey, wordSet]
  have hlimit : optionsOf [("indent-width", .list [.int (16 ^ 3600 : Nat)])] = .error (.limit .digitsShown) :=
    optionsOf_eq_limit_iff.2 ⟨_, hrefused _, by decide +kernel⟩
  have hdistinct : ∀ v, Distinct [("indent-width", v)] := fun v => List.pairwise_singleton _ _
  exact h _ (hdistinct _) _ hlimit

end Config

end VixStyle
