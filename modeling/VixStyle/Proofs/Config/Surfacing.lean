/-
Wrong settings surface as faults that name their file.

`Surfaces` says of the answer of a loader that it is options or a fault of the settings, which names their file. Main
statement, `loadOptions_surfaces_iff`, for any file with a document in it, whatever values that holds:
- loading the file surfaces if and only if the document is `Sound`: the entry `tool` of a shared file is a table, if there
  is one, and a value that is refused can be shown in a message;
- so does a search that meets the file, unless it passes the file by (a shared file that does not mention the settings);
  then the file has no part in the answer;
- a command that loads settings complains of a fault that names a file and ends with status 2.

The steps are `optionsOf_eq_limit_iff` (settings), `readOptions_surfaces_iff` (a file), `value_loadOptions_of_meets` (a
search) and `runLint_complains` (a command).
-/
import Mathlib.Tactic
import VixStyle.Command.Run

namespace VixStyle.Config

open Setting

/-! ## Answers and documents -/

/-- an answer is options or a fault that names its file -/
def Surfaces (answer : Except ConfigFault Options) : Prop :=
  ∀ fault, answer = .error fault → fault.namesFile = true

/-- a width of the wrong kind -/
def refusedWidth? (settings : Table) : Option Value :=
  (lookup? settings "indent-width").filter fun given => (width? given).isNone

/-- a style of the wrong kind -/
def refusedStyle? (settings : Table) : Option Value :=
  (lookup? settings "indent-style").filter fun given => (style? given).isNone

/-- the value that is shown where settings are refused for a value of the wrong kind -/
def refused? [Machine] (settings : Table) : Option Shown :=
  match unknownKeys settings with
  | [] => ((refusedWidth? settings).map shownWidth).or ((refusedStyle? settings).map shownStyle)
  | _ => none

/-- a document in a file of the name `name` that is read, or refused in a message -/
structure Sound [Machine] (name : String) (document : Table) : Prop where
  tool : name = sharedName → ∀ v ∈ document.lookup toolKey, ∃ tools, v = .table tools
  shown : ∀ settings, settingsValue name document = .ok (.table settings) → ∀ v ∈ refused? settings, v.limit? = none

/-- a document that a search passes by -/
def PassedBy (name : String) (document : Table) : Prop :=
  name = sharedName ∧ mentionsSettings document = .ok false

theorem surfaces_ok (o : Options) : Surfaces (.ok o) := fun _ h => by cases h

theorem surfaces_error_iff {fault : ConfigFault} : Surfaces (.error fault) ↔ fault.namesFile = true :=
  ⟨fun h => h fault rfl, fun h _ heq => by cases heq; exact h⟩

instance (answer : Except ConfigFault Options) : Decidable (Surfaces answer) :=
  match answer with
  | .ok o => .isTrue (surfaces_ok o)
  | .error _ => decidable_of_iff _ surfaces_error_iff.symm

/-! ## Settings -/

theorem bind_eq_error_iff {ε α β : Type} {x : Except ε α} {f : α → Except ε β} {e : ε} :
    (x >>= f) = .error e ↔ x = .error e ∨ ∃ a, x = .ok a ∧ f a = .error e := by
  cases x <;> simp [bind, Except.bind]

theorem bind_eq_ok_iff {ε α β : Type} {x : Except ε α} {f : α → Except ε β} {b : β} :
    (x >>= f) = .ok b ↔ ∃ a, x = .ok a ∧ f a = .ok b := by
  cases x <;> simp [bind, Except.bind]

theorem exists_of_isOk {ε α : Type} {x : Except ε α} (h : x.isOk = true) : ∃ a, x = .ok a := by
  cases x with
  | ok a => exact ⟨a, rfl⟩
  | error e => cases h

theorem exists_of_not_isOk {ε α : Type} {x : Except ε α} (h : x.isOk = false) : ∃ e, x = .error e := by
  cases x with
  | ok a => cases h
  | error e => exact ⟨e, rfl⟩

theorem ok_bind {ε α β : Type} (a : α) (f : α → Except ε β) : (Except.ok a >>= f) = f a := rfl

/-- what follows a refusal does not matter -/
theorem refuse_bind_eq_limit_iff [Machine] {α β : Type} {given : Shown} {fault : Value → SettingFault} {l : Limit}
    (f : α → Except SettingFault β) (h : fault given.value ≠ .limit l) :
    (refuse given fault >>= f) = .error (.limit l) ↔ given.limit? = some l := by
  unfold refuse
  cases given.limit? with
  | none => simpa [bind, Except.bind] using h
  | some _ => simp [bind, Except.bind]

/-- an answer that no limit is in the way of -/
def Limitless {α : Type} (x : Except SettingFault α) : Prop := ∀ l, x ≠ .error (.limit l)

theorem limitless_ok {α : Type} (a : α) : Limitless (.ok a : Except SettingFault α) := fun _ h => by cases h

theorem Limitless.bind {α β : Type} {x : Except SettingFault α} {f : α → Except SettingFault β} (hx : Limitless x)
    (hf : ∀ a, Limitless (f a)) : Limitless (x >>= f) := by
  intro l h
  rcases bind_eq_error_iff.1 h with h | ⟨a, -, h⟩
  · exact hx l h
  · exact hf a l h

theorem limitless_words (option : String) (given : Value) : Limitless (words option given) := by
  intro l h
  unfold words at h
  split at h <;> cases h

theorem limitless_ruleIds (option : String) (ids : List String) : Limitless (ruleIds option ids) := by
  intro l h
  unfold ruleIds at h
  split at h <;> cases h

section Settings

variable (settings : Table) (o : Options)

/-- the width is set unless it is refused -/
theorem withWidth_cases [Machine] : (refusedWidth? settings = none ∧ ∃ o', withWidth settings o = .ok o') ∨
    ∃ given, refusedWidth? settings = some given ∧ withWidth settings o = refuse (shownWidth given) .width := by
  unfold refusedWidth? withWidth
  cases lookup? settings "indent-width" with
  | none => exact Or.inl ⟨rfl, o, rfl⟩
  | some given =>
    cases hwidth : width? given with
    | none => exact Or.inr ⟨given, by simp [hwidth], by simp only [hwidth]⟩
    | some n =>
      have hpos : 0 < n.toNat := by
        cases given <;> simp only [width?, reduceCtorEq, Option.ite_none_right_eq_some, Option.some.injEq] at hwidth
        omega
      refine Or.inl ⟨by simp [hwidth], { o with indentWidth := n.toNat, indentWidth_pos := hpos }, ?_⟩
      simp only [hwidth, Options.withWidth, dif_pos hpos, Except.mapError]

/-- the style is set unless it is refused -/
theorem withStyle_cases [Machine] : (refusedStyle? settings = none ∧ ∃ o', withStyle settings o = .ok o') ∨
    ∃ given, refusedStyle? settings = some given ∧ withStyle settings o = refuse (shownStyle given) .style := by
  unfold refusedStyle? withStyle
  cases lookup? settings "indent-style" with
  | none => exact Or.inl ⟨rfl, o, rfl⟩
  | some given =>
    cases hstyle : style? given with
    | none => exact Or.inr ⟨given, by simp [hstyle], by simp only [hstyle]⟩
    | some style => exact Or.inl ⟨by simp [hstyle], { o with indentStyle := style }, by simp only [hstyle]⟩

theorem limitless_withSelect : Limitless (withSelect settings o) := by
  unfold withSelect
  cases lookup? settings "select" with
  | none => exact limitless_ok o
  | some given =>
    exact (limitless_words _ given).bind fun list => (limitless_ruleIds _ list).bind fun ids => limitless_ok _

theorem limitless_withIgnore : Limitless (withIgnore settings o) := by
  unfold withIgnore
  cases lookup? settings "ignore" with
  | none => exact limitless_ok o
  | some given =>
    exact (limitless_words _ given).bind fun list => (limitless_ruleIds _ list).bind fun ids => limitless_ok _

theorem limitless_withStatements : Limitless (withStatements settings o) := by
  unfold withStatements
  cases lookup? settings "single-line-if-statements" with
  | none => exact limitless_ok o
  | some given =>
    refine (limitless_words _ given).bind fun names l h => ?_
    split at h <;> cases h

end Settings

/-- **Settings come to a limit only through the value that a refusal shows.** -/
theorem optionsOf_eq_limit_iff [Machine] {settings : Table} {l : Limit} :
    optionsOf settings = .error (.limit l) ↔ ∃ v ∈ refused? settings, v.limit? = some l := by
  unfold optionsOf refused?
  cases unknownKeys settings with
  | cons key keys => simp
  | nil =>
    rcases withWidth_cases settings {} with ⟨hwidth, o, ho⟩ | ⟨given, hwidth, hrefuse⟩
    · simp only [ho, hwidth, ok_bind]
      rcases withStyle_cases settings o with ⟨hstyle, o', ho'⟩ | ⟨given, hstyle, hrefuse⟩
      · have hrest := (limitless_withSelect settings o').bind fun o =>
          (limitless_withIgnore settings o).bind (limitless_withStatements settings)
        simp only [ho', hstyle, ok_bind]
        exact iff_of_false (hrest l) (by simp)
      · rw [hrefuse, hstyle, refuse_bind_eq_limit_iff _ (by simp)]
        simp
    · rw [hrefuse, hwidth, refuse_bind_eq_limit_iff _ (by simp)]
      simp

/-! ## One file -/

/-- the settings are not looked up only where the entry for tools is no table -/
theorem settingsValue_eq_error_iff {name : String} {document : Table} {fault : ConfigFault} :
    settingsValue name document = .error fault ↔
      fault = .toolWithoutMembers ∧ name = sharedName ∧ ∃ v ∈ document.lookup toolKey, ∀ tools, v ≠ .table tools := by
  unfold settingsValue
  split_ifs with hname
  · cases hlookup : document.lookup toolKey with
    | none => simp
    | some v => cases v <;> simp [hname, eq_comm]
  · simp [hname]

/-- what keeps a search from looking for settings is no table either -/
theorem mentionsSettings_eq_error {document : Table} {fault : ConfigFault} (h : mentionsSettings document = .error fault) :
    fault = .toolWithoutKeys ∧ ∃ v ∈ document.lookup toolKey, ∀ tools, v ≠ .table tools := by
  unfold mentionsSettings at h
  split at h
  · cases h
  · cases h
  · cases h
  · cases h
  · rename_i v htable _ _ hlookup
    exact ⟨(Except.error.inj h).symm, v, hlookup, fun tools heq => htable tools heq⟩

section File

variable {t : FileTree} {file : Path} {document : Table}

/-- **A file with a document in it** is read as options or refused in a fault that names it, if its document is sound. -/
theorem readOptions_surfaces_iff [Machine] (h : readDocument t file = .ok document) :
    Surfaces (readOptions t file) ↔ Sound file.name document := by
  unfold readOptions readSettings
  rw [h, ok_bind]
  cases hvalue : settingsValue file.name document with
  | error fault =>
    obtain ⟨rfl, hname, v, hv, htable⟩ := settingsValue_eq_error_iff.1 hvalue
    refine iff_of_false (fun hs => ?_) fun hs => ?_
    · cases hs _ rfl
    · obtain ⟨tools, rfl⟩ := hs.tool hname v hv
      exact htable tools rfl
  | ok value =>
    have htool : file.name = sharedName → ∀ v ∈ document.lookup toolKey, ∃ tools, v = .table tools := by
      intro hname v hv
      by_contra htable
      have herror : settingsValue file.name document = .error .toolWithoutMembers :=
        settingsValue_eq_error_iff.2 ⟨rfl, hname, v, hv, fun tools heq => htable ⟨tools, heq⟩⟩
      rw [hvalue] at herror
      cases herror
    cases value with
    | table settings =>
      have hsound : Sound file.name document ↔ ∀ v ∈ refused? settings, v.limit? = none := by
        refine ⟨fun hs => hs.shown settings hvalue, fun hs => ⟨htool, fun given hgiven => ?_⟩⟩
        rw [hvalue] at hgiven
        cases hgiven
        exact hs
      have hlimit : (∀ v ∈ refused? settings, v.limit? = none) ↔ Limitless (optionsOf settings) := by
        refine ⟨fun hs l hl => ?_, fun hs v hv => ?_⟩
        · obtain ⟨v, hv, hshown⟩ := optionsOf_eq_limit_iff.1 hl
          rw [hs v hv] at hshown
          cases hshown
        · exact Option.eq_none_iff_forall_ne_some.2 fun l hl => hs l (optionsOf_eq_limit_iff.2 ⟨v, hv, hl⟩)
      rw [hsound, hlimit, ok_bind]
      change Surfaces ((optionsOf settings).mapError _) ↔ _
      cases optionsOf settings with
      | ok o => exact iff_of_true (surfaces_ok o) (limitless_ok o)
      | error fault =>
        cases fault with
        | limit l => exact iff_of_false (fun hs => by cases hs _ rfl) fun hs => hs l rfl
        | _ => exact iff_of_true (surfaces_error_iff.2 rfl) fun l hl => by cases hl
    | _ =>
      refine iff_of_true (surfaces_error_iff.2 rfl) ⟨htool, fun settings hsettings => ?_⟩
      rw [hvalue] at hsettings
      cases hsettings

end File

/-! ## Searching -/

/-- what is looked at in a directory: the dedicated file, or the shared one if there is no dedicated one -/
inductive Candidate (t : FileTree) (directory : List String) : Path → Prop
  | dedicated : Candidate t directory (FileTree.pathTo (directory ++ [dedicatedName]))
  | shared (hlong : t.isTooLong (FileTree.pathTo (directory ++ [dedicatedName])) = false)
      (hfile : t.isFile (FileTree.pathTo (directory ++ [dedicatedName])) = false) :
      Candidate t directory (FileTree.pathTo (directory ++ [sharedName]))

/-- the search upward from a directory comes as far as a file, with other directories still ahead -/
def Meets [Machine] (t : FileTree) (start file : Path) (ahead : List (List String)) : Prop :=
  start.hasNul = false ∧ ∃ nearer directory, upward (t.resolve start) = nearer ++ directory :: ahead ∧
    (firstFile t nearer).value = .ok none ∧ Candidate t directory file

/-- the options that come of a search -/
def optionsFound [Machine] (t : FileTree) : Except ConfigFault (Option Path) → Except ConfigFault Options
  | .error fault => .error fault
  | .ok none => .ok {}
  | .ok (some file) => readOptions t file

section Searching

variable {t : FileTree} {file : Path} {document : Table}

theorem value_loadOptions_none [Machine] (t : FileTree) (start : Path) :
    (loadOptions t none start).value = optionsFound t (findFile t start).value := by
  simp only [loadOptions, Logged.value_bind]
  cases (findFile t start).value with
  | error fault => rfl
  | ok found => cases found <;> rfl

theorem value_firstFile_cons [Machine] (directory : List String) (more : List (List String)) :
    (firstFile t (directory :: more)).value =
      match (fileIn t directory).value with
      | .ok none => (firstFile t more).value
      | found => found := by
  rw [firstFile, Logged.value_bind]
  cases (fileIn t directory).value with
  | error fault => rfl
  | ok found => cases found <;> rfl

theorem value_firstFile_append [Machine] {nearer : List (List String)} (h : (firstFile t nearer).value = .ok none)
    (more : List (List String)) : (firstFile t (nearer ++ more)).value = (firstFile t more).value := by
  induction nearer with
  | nil => rfl
  | cons directory nearer ih =>
    rw [value_firstFile_cons] at h
    rw [List.cons_append, value_firstFile_cons]
    split at h
    · exact ih h
    · exact absurd h ‹_›

/-- a file that is read is there -/
theorem isFile_of_readDocument [Machine] (h : readDocument t file = .ok document) :
    t.isFile file = true ∧ t.isTooLong file = false := by
  obtain ⟨bytes, hfind⟩ : ∃ bytes, t.find file = .ok (.file bytes) := by
    unfold readDocument FileTree.readUtf8 FileTree.read at h
    cases hnul : file.hasNul with
    | true => rw [hnul] at h; cases h
    | false =>
      rw [hnul] at h
      cases hfind : t.find file with
      | error fault => rw [hfind] at h; cases h
      | ok entry =>
        cases entry with
        | file bytes => exact ⟨bytes, rfl⟩
        | directory => rw [hfind] at h; cases h
  simp [FileTree.isFile, FileTree.isTooLong, hfind]

theorem value_sharedHoldsSettings [Machine] (h : readDocument t file = .ok document) :
    (sharedHoldsSettings t file).value = mentionsSettings document := by
  unfold sharedHoldsSettings
  rw [h]
  rfl

theorem name_pathTo (directory : List String) (name : String) : (FileTree.pathTo (directory ++ [name])).name = name := by
  simp [FileTree.pathTo, Path.name]

/-- **A search that meets a file** comes to what is in it, or passes it by. -/
theorem value_loadOptions_of_meets [Machine] (h : readDocument t file = .ok document) {start : Path}
    {ahead : List (List String)} (hmeets : Meets t start file ahead) : (loadOptions t none start).value =
      if file.name = sharedName then
        match mentionsSettings document with
        | .error fault => .error fault
        | .ok true => readOptions t file
        | .ok false => optionsFound t (firstFile t ahead).value
      else readOptions t file := by
  obtain ⟨hnul, nearer, directory, hupward, hnearer, hcandidate⟩ := hmeets
  obtain ⟨hfile, hlong⟩ := isFile_of_readDocument h
  have hfind : (findFile t start).value = (firstFile t (directory :: ahead)).value := by
    unfold findFile
    rw [hnul, if_neg Bool.false_ne_true, hupward, value_firstFile_append hnearer]
  rw [value_loadOptions_none, hfind, value_firstFile_cons]
  cases hcandidate with
  | dedicated =>
    have hfound : (fileIn t directory).value = .ok (some (FileTree.pathTo (directory ++ [dedicatedName]))) := by
      simp only [fileIn, hlong, hfile]
      rfl
    rw [hfound, name_pathTo, if_neg (by decide)]
    rfl
  | shared hlong' hfile' =>
    have hfound : (fileIn t directory).value = (mentionsSettings document).map fun holds =>
        if holds then some (FileTree.pathTo (directory ++ [sharedName])) else none := by
      simp only [fileIn, hlong', hfile', hlong, hfile]
      rw [← value_sharedHoldsSettings h]
      rfl
    rw [hfound, name_pathTo, if_pos rfl]
    cases mentionsSettings document with
    | error fault => rfl
    | ok holds => cases holds <;> rfl

end Searching

/-! ## A command -/

namespace ConfigFault

theorem isReported_of_namesFile {fault : ConfigFault} (h : fault.namesFile = true) : fault.isReported = true := by
  cases fault <;> first | rfl | cases h

end ConfigFault

open Command in
/-- **A command complains** of a fault that names a file. -/
theorem runLint_complains [Machine] {t : FileTree} {a : LintArguments} {given : Option Path}
    (ha : a.config = given.map .value) {fault : ConfigFault}
    (h : (loadOptions t given (.ofString "")).value = .error fault) (hnames : fault.namesFile = true) :
    (runLint t a).value = .ok (.complain ("vixlint: configuration error: " ++ fault.message)) := by
  have hoptions : (a.options t).value = .error (.config fault) := by
    unfold LintArguments.options
    cases given with
    | none => rw [ha]; simp only [Option.map_none, Logged.value_bind, h]; rfl
    | some file => rw [ha]; simp only [Option.map_some, Logged.value_bind, h]; rfl
  have hreported : (OptionsFault.config fault).isReported = true := ConfigFault.isReported_of_namesFile hnames
  unfold runLint
  rw [Logged.value_bind, hoptions]
  dsimp only
  rw [if_pos hreported]
  rfl

/-! ## Main result -/

open Command in
/-- **Exactly the sound documents surface.** Whatever a document in a file holds, loading the file comes to options or to
a fault that names a file if and only if the document is sound; so does a search that meets the file, or else it passes
the file by; and a command that loads settings complains of such a fault and ends with status 2. -/
theorem loadOptions_surfaces_iff [Machine] {t : FileTree} {file : Path} {document : Table}
    (h : readDocument t file = .ok document) :
    (∀ start, Surfaces (loadOptions t (some file) start).value ↔ Sound file.name document) ∧
    (∀ start ahead, Meets t start file ahead →
      (¬ PassedBy file.name document → (Surfaces (loadOptions t none start).value ↔ Sound file.name document)) ∧
      (PassedBy file.name document → (loadOptions t none start).value = optionsFound t (firstFile t ahead).value)) ∧
    ∀ (a : LintArguments) (given : Option Path), a.config = given.map .value →
      ∀ fault, (loadOptions t given (.ofString "")).value = .error fault → fault.namesFile = true →
        ∃ outcome, (runLint t a).value = .ok outcome ∧ outcome.status.code = 2 ∧
          outcome.complaint = some ("vixlint: configuration error: " ++ fault.message) := by
  refine ⟨fun start => readOptions_surfaces_iff h, fun start ahead hmeets => ?_, fun a given ha fault hfault hnames =>
    ⟨_, runLint_complains ha hfault hnames, rfl, rfl⟩⟩
  rw [value_loadOptions_of_meets h hmeets]
  split_ifs with hname
  · cases hmentions : mentionsSettings document with
    | ok mentioned =>
      cases mentioned with
      | true => exact ⟨fun _ => readOptions_surfaces_iff h, fun hpassed => by cases hmentions.symm.trans hpassed.2⟩
      | false => exact ⟨fun hpassed => absurd ⟨hname, hmentions⟩ hpassed, fun _ => rfl⟩
    | error fault =>
      -- a `tool` without keys is no table
      obtain ⟨rfl, v, hv, htable⟩ := mentionsSettings_eq_error hmentions
      refine ⟨fun _ => iff_of_false (fun hs => ?_) fun hs => ?_, fun hpassed => by cases hmentions.symm.trans hpassed.2⟩
      · cases hs _ rfl
      · obtain ⟨tools, rfl⟩ := hs.tool hname v hv
        exact htable tools rfl
  · exact ⟨fun _ => readOptions_surfaces_iff h, fun hpassed => absurd hpassed.1 hname⟩

/-- a tree with one file, in the directory where one is -/
def singleFile (name text : String) : FileTree :=
  (FileTree.empty ["w"]).addFile [name] (text.toList.map fun c => UInt8.ofNat c.toNat)

open Command in
/-- a list for a width is refused, and the command ends with status 2 -/
theorem loadOptions_surfaces_listed_width :
    ∃ document outcome, readDocument (singleFile dedicatedName "indent-width = [4]") ⟨"/", ["w", dedicatedName]⟩ =
        .ok document ∧ Sound dedicatedName document ∧
      Surfaces (loadOptions (singleFile dedicatedName "indent-width = [4]") none (.ofString "")).value ∧
      (runLint (singleFile dedicatedName "indent-width = [4]") {}).value = .ok outcome ∧ outcome.status.code = 2 := by
  have hisOk : (readDocument (singleFile dedicatedName "indent-width = [4]") ⟨"/", ["w", dedicatedName]⟩).isOk = true := by
    decide +kernel
  have hgiven : Surfaces (loadOptions (singleFile dedicatedName "indent-width = [4]")
      (some ⟨"/", ["w", dedicatedName]⟩) (.ofString "")).value := by decide +kernel
  have hrefused : (loadOptions (singleFile dedicatedName "indent-width = [4]") none (.ofString "")).value.isOk = false := by
    decide +kernel
  have hmeets : Meets (singleFile dedicatedName "indent-width = [4]") (.ofString "") ⟨"/", ["w", dedicatedName]⟩ [[]] :=
    ⟨by decide +kernel, [], ["w"], by decide +kernel, rfl, .dedicated⟩
  obtain ⟨document, hread⟩ := exists_of_isOk hisOk
  obtain ⟨hfile, hsearch, hlint⟩ := loadOptions_surfaces_iff hread
  have hsound := (hfile (.ofString "")).1 hgiven
  have hfound := ((hsearch _ _ hmeets).1 fun hpassed => absurd hpassed.1 (by decide)).2 hsound
  obtain ⟨fault, hfault⟩ := exists_of_not_isOk hrefused
  obtain ⟨outcome, hrun, hstatus, -⟩ := hlint {} none rfl fault hfault (hfound fault hfault)
  exact ⟨document, outcome, hread, hsound, hfound, hrun, hstatus⟩

open Command in
/-- **A `tool` that is a number does not surface**, neither from the file nor from a search, and the command breaks off. -/
theorem not_surfaces_numbered_tool :
    (readDocument (singleFile sharedName "tool = 1") ⟨"/", ["w", sharedName]⟩).isOk = true ∧
    ¬ Surfaces (loadOptions (singleFile sharedName "tool = 1") (some ⟨"/", ["w", sharedName]⟩) (.ofString "")).value ∧
    ¬ Surfaces (loadOptions (singleFile sharedName "tool = 1") none (.ofString "")).value ∧
    (runLint (singleFile sharedName "tool = 1") {}).value.isOk = false := by
  refine ⟨?_, ?_, ?_, ?_⟩ <;> decide +kernel

end VixStyle.Config
