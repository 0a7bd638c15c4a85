/-
The nearest settings file.

Main statement, `findFile_nearest`: of the directory where a search starts and those above it, the search takes the first
that holds settings (`Holds`): a dedicated file, whatever is in it, or else a shared file with a table for the settings. It
comes to nothing only if none of them does. What lies further up has no part in that, nor have shared files on the way that
are malformed or have no such table; so a tree that differs in these alone gives the same file.

The directories that the search gets to (`Reached`) have to be such that they can be searched (`Searchable`). One that cannot
is met in `not_passed_by_long_number`: a number with too many digits makes a shared file neither a document nor a malformed
one, and it stops the search.

- `value_fileIn_of_holds`, `value_fileIn_of_passed`: one directory.
- `value_firstFile_of_passed`: the directories on the way, by induction.
- `value_findFile_of_passed`: the whole search, which looks at nothing behind the file that it takes.
-/
import VixStyle.Proofs.Config.Surfacing
import VixStyle.Proofs.FileTree.Walk

namespace VixStyle.Config

open Setting
open FileTree (SameBut)

/-! ## Directories -/

/-- where a directory has its dedicated file -/
def dedicatedIn (directory : List String) : Path := FileTree.pathTo (directory ++ [dedicatedName])

/-- where a directory has its shared file -/
def sharedIn (directory : List String) : Path := FileTree.pathTo (directory ++ [sharedName])

/-- a document has a table for the settings of this tool -/
def HasSettings (document : Table) : Prop :=
  ∃ tools, document.lookup toolKey = some (.table tools) ∧ (tools.lookup settingsKey).isSome = true

/-- the settings file of a directory: the dedicated file, or else a shared one with settings in it -/
inductive Holds [Machine] (t : FileTree) (directory : List String) : Path → Prop
  | dedicated (hfile : t.isFile (dedicatedIn directory) = true) : Holds t directory (dedicatedIn directory)
  | shared (hfile : t.isFile (dedicatedIn directory) = false) {document : Table}
      (hread : readDocument t (sharedIn directory) = .ok document) (hsettings : HasSettings document) :
      Holds t directory (sharedIn directory)

/-- a shared file that can be searched: it can be asked for, and it is text within the limits whose `tool`, if it has one,
is a table -/
structure SharedSearchable [Machine] (t : FileTree) (directory : List String) : Prop where
  short : t.isTooLong (sharedIn directory) = false
  decodable : ∀ fault, readDocument t (sharedIn directory) ≠ .error (.undecodable fault)
  unlimited : ∀ l, readDocument t (sharedIn directory) ≠ .error (.limit l)
  tool : ∀ document, readDocument t (sharedIn directory) = .ok document →
    ∀ v ∈ document.lookup toolKey, ∃ tools, v = .table tools

/-- a directory that can be searched: its dedicated file can be asked for, and the shared one can be searched if it is
looked at -/
structure Searchable [Machine] (t : FileTree) (directory : List String) : Prop where
  dedicated_short : t.isTooLong (dedicatedIn directory) = false
  shared : t.isFile (dedicatedIn directory) = false → SharedSearchable t directory

/-- a shared file that a search passes by: it cannot be read, is malformed, or has no table for the settings -/
inductive SharedPassed [Machine] (t : FileTree) (directory : List String) : Prop
  | refused {fault : ConfigFault} (hread : readDocument t (sharedIn directory) = .error fault)
      (hnames : fault.namesFile = true)
  | noTool {document : Table} (hread : readDocument t (sharedIn directory) = .ok document)
      (htool : document.lookup toolKey = none)
  | noSettings {document tools : Table} (hread : readDocument t (sharedIn directory) = .ok document)
      (htool : document.lookup toolKey = some (.table tools)) (hsettings : tools.lookup settingsKey = none)

/-- a directory that a search passes -/
structure Passed [Machine] (t : FileTree) (directory : List String) : Prop where
  dedicated_short : t.isTooLong (dedicatedIn directory) = false
  shared_short : t.isTooLong (sharedIn directory) = false
  dedicated : t.isFile (dedicatedIn directory) = false
  shared : SharedPassed t directory

/-! ## Deciding -/

/-- whether a document has a table for the settings of this tool -/
def hasSettings (document : Table) : Bool :=
  match document.lookup toolKey with
  | some (.table tools) => (tools.lookup settingsKey).isSome
  | _ => false

/-- the settings file of a directory, if it has one -/
def settingsIn? [Machine] (t : FileTree) (directory : List String) : Option Path :=
  if t.isFile (dedicatedIn directory) then some (dedicatedIn directory)
  else match readDocument t (sharedIn directory) with
    | .ok document => if hasSettings document then some (sharedIn directory) else none
    | .error _ => none

/-- whether the shared file of a directory can be searched -/
def isSharedSearchable [Machine] (t : FileTree) (directory : List String) : Bool :=
  !t.isTooLong (sharedIn directory) &&
    match readDocument t (sharedIn directory) with
    | .ok document =>
      match document.lookup toolKey with
      | none | some (.table _) => true
      | some _ => false
    | .error (.undecodable _) | .error (.limit _) => false
    | .error _ => true

/-- whether a search passes the shared file of a directory by -/
def isSharedPassed [Machine] (t : FileTree) (directory : List String) : Bool :=
  match readDocument t (sharedIn directory) with
  | .ok document =>
    match document.lookup toolKey with
    | none => true
    | some (.table tools) => (tools.lookup settingsKey).isNone
    | some _ => false
  | .error fault => fault.namesFile

theorem hasSettings_iff {document : Table} : hasSettings document = true ↔ HasSettings document := by
  unfold hasSettings HasSettings
  cases document.lookup toolKey with
  | none => simp
  | some v => cases v <;> simp

theorem settingsIn?_eq_some_iff [Machine] {t : FileTree} {directory : List String} {file : Path} :
    settingsIn? t directory = some file ↔ Holds t directory file := by
  unfold settingsIn?
  constructor
  · intro h
    split at h
    · cases h
      exact .dedicated ‹_›
    · rename_i hno
      split at h
      · rename_i document hread
        split at h
        · cases h
          exact .shared (Bool.eq_false_iff.2 hno) hread (hasSettings_iff.1 ‹_›)
        · cases h
      · cases h
  · intro h
    cases h with
    | dedicated hfile => rw [if_pos hfile]
    | shared hno hread hsettings =>
      rw [hno, if_neg Bool.false_ne_true, hread]
      exact if_pos (hasSettings_iff.2 hsettings)

instance [Machine] (t : FileTree) (directory : List String) (file : Path) : Decidable (Holds t directory file) :=
  decidable_of_iff _ settingsIn?_eq_some_iff

theorem isSharedPassed_iff [Machine] {t : FileTree} {directory : List String} :
    isSharedPassed t directory = true ↔ SharedPassed t directory := by
  unfold isSharedPassed
  constructor
  · intro h
    cases hread : readDocument t (sharedIn directory) with
    | error fault =>
      rw [hread] at h
      exact .refused hread h
    | ok document =>
      simp only [hread] at h
      split at h
      · exact .noTool hread ‹_›
      · exact .noSettings hread ‹_› (Option.isNone_iff_eq_none.1 h)
      · cases h
  · intro h
    cases h with
    | refused hread hnames =>
      rw [hread]
      exact hnames
    | noTool hread htool => simp only [hread, htool]
    | noSettings hread htool hsettings => simp only [hread, htool, hsettings, Option.isNone_none]

instance [Machine] (t : FileTree) (directory : List String) : Decidable (SharedPassed t directory) :=
  decidable_of_iff _ isSharedPassed_iff

theorem isSharedSearchable_iff [Machine] {t : FileTree} {directory : List String} :
    isSharedSearchable t directory = true ↔ SharedSearchable t directory := by
  unfold isSharedSearchable
  rw [Bool.and_eq_true, Bool.not_eq_true']
  constructor
  · rintro ⟨hshort, h⟩
    refine ⟨hshort, ?_, ?_, ?_⟩
    · intro fault hread
      rw [hread] at h
      cases h
    · intro l hread
      rw [hread] at h
      cases h
    · intro document hread v hv
      simp only [hread, Option.mem_def.1 hv] at h
      cases v with
      | table tools => exact ⟨tools, rfl⟩
      | _ => cases h
  · intro h
    refine ⟨h.short, ?_⟩
    cases hread : readDocument t (sharedIn directory) with
    | ok document =>
      cases htool : document.lookup toolKey with
      | none => simp only [htool]
      | some v =>
        obtain ⟨tools, rfl⟩ := h.tool document hread v htool
        simp only [htool]
    | error fault =>
      cases fault with
      | undecodable f => exact absurd hread (h.decodable f)
      | limit l => exact absurd hread (h.unlimited l)
      | _ => rfl

instance [Machine] (t : FileTree) (directory : List String) : Decidable (SharedSearchable t directory) :=
  decidable_of_iff _ isSharedSearchable_iff

instance [Machine] (t : FileTree) (directory : List String) : Decidable (Searchable t directory) :=
  decidable_of_iff (t.isTooLong (dedicatedIn directory) = false ∧
      (t.isFile (dedicatedIn directory) = false → SharedSearchable t directory))
    ⟨fun h => ⟨h.1, h.2⟩, fun h => ⟨h.1, h.2⟩⟩

/-! ## One directory -/

section Directory

variable {t : FileTree} {directory : List String} {file : Path}

/-- how a file is refused: the fault names it, it is no text or beyond a limit, or its path does not get to the disk -/
theorem readDocument_eq_error [Machine] {fault : ConfigFault} (h : readDocument t file = .error fault) :
    fault.namesFile = true ∨ (∃ f, fault = .undecodable f) ∨ (∃ l, fault = .limit l) ∨ file.hasNul = true := by
  unfold readDocument at h
  cases hread : t.readUtf8 file with
  | error e =>
    rw [hread] at h
    cases e with
    | nulInPath => exact Or.inr (Or.inr (Or.inr (FileTree.hasNul_of_readUtf8 hread)))
    | disk e => exact Or.inl (by cases h; rfl)
    | undecodable e => exact Or.inr (Or.inl ⟨e, by cases h; rfl⟩)
  | ok text =>
    rw [hread] at h
    cases htoml : Toml.read text with
    | error e =>
      simp only [htoml] at h
      cases e with
      | malformed => exact Or.inl (by cases h; rfl)
      | limit l => exact Or.inr (Or.inr (Or.inl ⟨l, by cases h; rfl⟩))
    | ok document =>
      simp only [htoml] at h
      cases h

/-- **A directory that can be searched holds a settings file or is passed.** -/
theorem Searchable.holds_or_passed [Machine] (h : Searchable t directory) (hnul : (sharedIn directory).hasNul = false) :
    (∃ file, Holds t directory file) ∨ Passed t directory := by
  cases hfile : t.isFile (dedicatedIn directory) with
  | true => exact Or.inl ⟨_, .dedicated hfile⟩
  | false =>
    have hshared := h.shared hfile
    have hpassed : SharedPassed t directory → Passed t directory := fun hpassed =>
      ⟨h.dedicated_short, hshared.short, hfile, hpassed⟩
    cases hread : readDocument t (sharedIn directory) with
    | error fault =>
      have hnames : fault.namesFile = true := by
        rcases readDocument_eq_error hread with hnames | ⟨f, rfl⟩ | ⟨l, rfl⟩ | hnul'
        · exact hnames
        · exact absurd hread (hshared.decodable f)
        · exact absurd hread (hshared.unlimited l)
        · cases hnul.symm.trans hnul'
      exact Or.inr (hpassed (.refused hread hnames))
    | ok document =>
      cases htool : document.lookup toolKey with
      | none => exact Or.inr (hpassed (.noTool hread htool))
      | some v =>
        obtain ⟨tools, rfl⟩ := hshared.tool document hread v htool
        cases hsettings : tools.lookup settingsKey with
        | none => exact Or.inr (hpassed (.noSettings hread htool hsettings))
        | some settings => exact Or.inl ⟨_, .shared hfile hread ⟨tools, htool, by rw [hsettings]; rfl⟩⟩

/-- a search looks at the shared file where there is no dedicated one -/
theorem value_fileIn_of_shared [Machine] (hshort : t.isTooLong (dedicatedIn directory) = false)
    (hno : t.isFile (dedicatedIn directory) = false) (hlong : t.isTooLong (sharedIn directory) = false) :
    (fileIn t directory).value =
      if t.isFile (sharedIn directory) then
        (sharedHoldsSettings t (sharedIn directory)).value.map fun holds =>
          if holds then some (sharedIn directory) else none
      else .ok none := by
  unfold dedicatedIn at hshort hno
  unfold sharedIn at hlong ⊢
  simp only [fileIn, hshort, hno, hlong]
  cases t.isFile (FileTree.pathTo (directory ++ [sharedName])) <;> rfl

/-- what a search finds in the directory that holds settings -/
theorem value_fileIn_of_holds [Machine] (h : Holds t directory file)
    (hshort : t.isTooLong (dedicatedIn directory) = false) : (fileIn t directory).value = .ok (some file) := by
  cases h with
  | dedicated hfile =>
    unfold dedicatedIn at hfile hshort
    simp only [fileIn, hshort, hfile]
    rfl
  | shared hno hread hsettings =>
    obtain ⟨tools, htool, hsome⟩ := hsettings
    obtain ⟨hfile, hlong⟩ := isFile_of_readDocument hread
    rw [value_fileIn_of_shared hshort hno hlong, if_pos hfile, value_sharedHoldsSettings hread]
    simp only [mentionsSettings, htool, hsome]
    rfl

/-- a search that looks at a shared file passes it -/
theorem SharedPassed.value [Machine] (h : SharedPassed t directory) :
    (sharedHoldsSettings t (sharedIn directory)).value = .ok false := by
  cases h with
  | refused hread hnames =>
    unfold sharedHoldsSettings
    simp only [hread, hnames]
    rfl
  | noTool hread htool =>
    rw [value_sharedHoldsSettings hread]
    simp only [mentionsSettings, htool]
  | noSettings hread htool hsettings =>
    rw [value_sharedHoldsSettings hread]
    simp only [mentionsSettings, htool, hsettings]
    rfl

/-- what a search finds in a directory that it passes -/
theorem value_fileIn_of_passed [Machine] (h : Passed t directory) : (fileIn t directory).value = .ok none := by
  rw [value_fileIn_of_shared h.dedicated_short h.dedicated h.shared_short, h.shared.value]
  split <;> rfl

end Directory

/-! ## The way upward -/

section Upward

variable {names directory : List String}

theorem mem_upward_iff : directory ∈ upward names ↔ directory <+: names := by
  unfold upward
  rw [List.mem_map]
  constructor
  · rintro ⟨n, -, rfl⟩
    exact List.take_prefix _ _
  · intro h
    have hlength := h.length_le
    refine ⟨names.length - directory.length, List.mem_range.2 (by omega), ?_⟩
    rw [Nat.sub_sub_self hlength]
    exact (List.prefix_iff_eq_take.1 h).symm

/-- the way upward goes to ever shorter lists of names -/
theorem pairwise_upward (names : List String) : (upward names).Pairwise fun a b => b.length < a.length := by
  unfold upward
  rw [List.pairwise_map]
  refine List.pairwise_lt_range.imp_of_mem fun {i j} hi hj hlt => ?_
  have hj := List.mem_range.1 hj
  rw [List.length_take, List.length_take]
  omega

/-- a directory on the way, with those before it -/
theorem exists_upward (h : directory <+: names) : ∃ nearer further, upward names = nearer ++ directory :: further ∧
    ∀ n ∈ nearer, n <+: names ∧ directory.length < n.length := by
  obtain ⟨nearer, further, hsplit⟩ := List.append_of_mem (mem_upward_iff.2 h)
  refine ⟨nearer, further, hsplit, fun n hn => ⟨mem_upward_iff.1 ?_, ?_⟩⟩
  · rw [hsplit]
    exact List.mem_append_left _ hn
  · have hpairs := pairwise_upward names
    rw [hsplit] at hpairs
    exact (List.pairwise_append.1 hpairs).2.2 n hn directory List.mem_cons_self

end Upward

/-! ## The search -/

section Search

variable {t : FileTree} {directory : List String} {file start : Path}

/-- directories that are passed come to nothing -/
theorem value_firstFile_of_passed [Machine] {directories : List (List String)} (h : ∀ d ∈ directories, Passed t d) :
    (firstFile t directories).value = .ok none := by
  induction directories with
  | nil => rfl
  | cons d more ih =>
    obtain ⟨hd, hmore⟩ := List.forall_mem_cons.1 h
    rw [value_firstFile_cons, value_fileIn_of_passed hd]
    exact ih hmore

theorem value_findFile [Machine] (hstart : start.hasNul = false) :
    (findFile t start).value = (firstFile t (upward (t.resolve start))).value := by
  unfold findFile
  rw [hstart, if_neg Bool.false_ne_true]

/-- **A search takes the settings file before which it passes all directories**, and looks at nothing behind it. -/
theorem value_findFile_of_passed [Machine] (hstart : start.hasNul = false) (habove : directory <+: t.resolve start)
    (hholds : Holds t directory file) (hshort : t.isTooLong (dedicatedIn directory) = false)
    (hpassed : ∀ nearer, nearer <+: t.resolve start → directory.length < nearer.length → Passed t nearer) :
    (findFile t start).value = .ok (some file) := by
  obtain ⟨nearer, further, hsplit, hnearer⟩ := exists_upward habove
  have hpast : (firstFile t nearer).value = .ok none :=
    value_firstFile_of_passed fun n hn => hpassed n (hnearer n hn).1 (hnearer n hn).2
  rw [value_findFile hstart, hsplit, value_firstFile_append hpast, value_firstFile_cons, value_fileIn_of_holds hholds hshort]

/-- where a search starts and above it there are no names that paths cannot have -/
theorem hasNul_sharedIn (ht : t.Proper) (hstart : start.hasNul = false) (habove : directory <+: t.resolve start) :
    (sharedIn directory).hasNul = false := by
  have hnames : ∀ name ∈ t.resolve start, '\x00' ∉ name.toList := by
    refine FileTree.forall_mem_resolve (fun name hname => (ht.here name hname).no_nul) fun name hname _ hmem => ?_
    unfold Path.hasNul at hstart
    rw [List.any_eq_false] at hstart
    exact hstart name hname (List.contains_iff_mem.2 hmem)
  have hshared : '\x00' ∉ sharedName.toList := by decide
  unfold Path.hasNul sharedIn FileTree.pathTo
  refine List.any_eq_false.2 fun name hname hcontains => ?_
  rcases List.mem_append.1 hname with hname | hname
  · exact hnames name (habove.subset hname) (List.contains_iff_mem.1 hcontains)
  · rw [List.mem_singleton.1 hname] at hcontains
    exact hshared (List.contains_iff_mem.1 hcontains)

end Search

/-! ## Changes that do not matter -/

/-- a directory that a search from a place gets to: no nearer one holds a settings file -/
structure Reached [Machine] (t : FileTree) (place directory : List String) : Prop where
  above : directory <+: place
  nearest : ∀ nearer, nearer <+: place → directory.length < nearer.length → ∀ other, ¬ Holds t nearer other

/-- the nearest settings file to a place, with its directory -/
structure Nearest [Machine] (t : FileTree) (place directory : List String) (file : Path) : Prop extends
    Reached t place directory where
  holds : Holds t directory file

/-- a search that gets to a directory gets to the nearer ones first -/
theorem Reached.nearer [Machine] {t : FileTree} {place directory other : List String} (h : Reached t place directory)
    (habove : other <+: place) (hlt : directory.length < other.length) : Reached t place other where
  above := habove
  nearest n hn hlonger := h.nearest n hn (hlt.trans hlonger)

/-- somewhere on the way up from a place there is a nearest settings file, or there is none at all -/
theorem exists_nearest [Machine] (t : FileTree) (place : List String) :
    (∃ directory file, Nearest t place directory file) ∨
      ∀ directory, directory <+: place → ∀ file, ¬ Holds t directory file := by
  induction place using List.reverseRecOn with
  | nil =>
    by_cases hholds : ∃ file, Holds t [] file
    · obtain ⟨file, hholds⟩ := hholds
      refine Or.inl ⟨[], file, ⟨List.prefix_rfl, fun nearer hprefix hlt => ?_⟩, hholds⟩
      rw [List.prefix_nil.1 hprefix] at hlt
      exact absurd hlt (lt_irrefl _)
    · refine Or.inr fun directory hprefix file hfile => hholds ⟨file, ?_⟩
      rwa [List.prefix_nil.1 hprefix] at hfile
  | append_singleton above name ih =>
    by_cases hholds : ∃ file, Holds t (above ++ [name]) file
    · obtain ⟨file, hholds⟩ := hholds
      refine Or.inl ⟨_, file, ⟨List.prefix_rfl, fun nearer hprefix hlt => ?_⟩, hholds⟩
      exact absurd hprefix.length_le (not_le.2 hlt)
    · rcases ih with ⟨directory, file, h⟩ | hnone
      · refine Or.inl ⟨directory, file, ⟨h.above.trans (List.prefix_append _ _), fun nearer hprefix hlt other => ?_⟩, h.holds⟩
        rcases List.prefix_concat_iff.1 hprefix with rfl | hprefix
        · exact fun hother => hholds ⟨other, hother⟩
        · exact h.nearest nearer hprefix hlt other
      · refine Or.inr fun directory hprefix file hfile => ?_
        rcases List.prefix_concat_iff.1 hprefix with rfl | hprefix
        · exact hholds ⟨file, hfile⟩
        · exact hnone directory hprefix file hfile

/-- where there are settings files further up than a directory, and shared files nearer to a place -/
inductive Distant (place directory : List String) : List String → Prop
  | further {above : List String} {name : String} (habove : above <+: place) (hlt : above.length < directory.length)
      (hname : name = dedicatedName ∨ name = sharedName) : Distant place directory (above ++ [name])
  | nearer {below : List String} (hbelow : below <+: place) (hlt : directory.length < below.length) :
      Distant place directory (below ++ [sharedName])

section Changes

variable {t t' : FileTree} {place directory : List String} {file : Path}

theorem not_distant_dedicated {other : List String} (h : directory.length ≤ other.length) :
    ¬ Distant place directory (other ++ [dedicatedName]) := by
  generalize heq : other ++ [dedicatedName] = changed
  intro hdistant
  cases hdistant with
  | further habove hlt hname =>
    obtain ⟨rfl, -⟩ := List.append_inj' heq rfl
    omega
  | nearer hbelow hlt =>
    have hnames : [dedicatedName] = [sharedName] := (List.append_inj' heq rfl).2
    exact absurd hnames (by decide)

theorem not_distant_shared : ¬ Distant place directory (directory ++ [sharedName]) := by
  generalize heq : directory ++ [sharedName] = changed
  intro hdistant
  cases hdistant with
  | further habove hlt hname =>
    obtain ⟨rfl, -⟩ := List.append_inj' heq rfl
    omega
  | nearer hbelow hlt =>
    obtain ⟨rfl, -⟩ := List.append_inj' heq rfl
    omega

/-- a path without pairs of points leads where it says -/
theorem eq_of_locate_pathTo {names reached : List String} (hnames : ∀ name ∈ names, name ≠ "..")
    (h : t.locate (FileTree.pathTo names) = .ok reached) : reached = names := by
  unfold FileTree.locate at h
  split at h
  · cases h
  · exact (FileTree.eq_append_of_walk hnames h).trans (List.nil_append names)

theorem readDocument_congr [Machine] (h : t'.find file = t.find file) : readDocument t' file = readDocument t file := by
  unfold readDocument FileTree.readUtf8 FileTree.read
  rw [h]

variable (h : SameBut (Distant place directory) t t') (hplace : ∀ name ∈ place, name ≠ "..")

include h hplace

theorem isFile_dedicatedIn {other : List String} (hother : other <+: place) (hlength : directory.length ≤ other.length) :
    t'.isFile (dedicatedIn other) = t.isFile (dedicatedIn other) := by
  refine h.isFile fun reached hlocate => ?_
  have hnames : ∀ name ∈ other ++ [dedicatedName], name ≠ ".." :=
    List.forall_mem_append.2 ⟨fun name hname => hplace name (hother.subset hname), List.forall_mem_singleton.2 (by decide)⟩
  rw [eq_of_locate_pathTo hnames hlocate]
  exact not_distant_dedicated hlength

/-- **What a directory holds stays** when files change that are distant from it. -/
theorem Holds.kept [Machine] (hholds : Holds t directory file) (habove : directory <+: place) :
    Holds t' directory file := by
  have hdedicated := isFile_dedicatedIn h hplace habove le_rfl
  cases hholds with
  | dedicated hfile => exact .dedicated (hdedicated.trans hfile)
  | shared hno hread hsettings =>
    refine .shared (hdedicated.trans hno) ?_ hsettings
    obtain ⟨bytes, hfind⟩ := FileTree.isFile_iff.1 (isFile_of_readDocument hread).1
    have hnames : ∀ name ∈ directory ++ [sharedName], name ≠ ".." :=
      List.forall_mem_append.2 ⟨fun name hname => hplace name (habove.subset hname), List.forall_mem_singleton.2 (by decide)⟩
    have hfind' : t'.find (sharedIn directory) = .ok (.file bytes) := by
      refine h.find (fun reached hlocate => ?_) hfind
      rw [eq_of_locate_pathTo hnames hlocate]
      exact not_distant_shared
    rw [readDocument_congr (hfind'.trans hfind.symm)]
    exact hread

end Changes

/-! ## Main result -/

/--
**The nearest settings file is found.** If the directories that it gets to can be searched, a search comes to an end. It takes a file
exactly if that is the settings file of one of these directories and no nearer one holds any, and it comes to nothing exactly
if none of them holds any. A tree that differs in settings files further up, and in shared files on the way that are passed,
gives the same.
-/
theorem findFile_nearest [Machine] {t : FileTree} (ht : t.Proper) {start : Path} (hstart : start.hasNul = false)
    (hsearch : ∀ directory, Reached t (t.resolve start) directory → Searchable t directory) :
    (∃ found, (findFile t start).value = .ok found) ∧
      (∀ file, (findFile t start).value = .ok (some file) ↔ ∃ directory, Nearest t (t.resolve start) directory file) ∧
      ((findFile t start).value = .ok none ↔ ∀ directory, directory <+: t.resolve start → ∀ file, ¬ Holds t directory file) ∧
      ∀ directory file, Nearest t (t.resolve start) directory file →
        ∀ t', SameBut (Distant (t.resolve start) directory) t t' →
          (∀ nearer, nearer <+: t.resolve start → directory.length < nearer.length → SharedPassed t' nearer) →
            (findFile t' start).value = (findFile t start).value := by
  have hpassed : ∀ directory, Reached t (t.resolve start) directory → (∀ file, ¬ Holds t directory file) →
      Passed t directory := by
    intro directory hreached hnone
    refine ((hsearch directory hreached).holds_or_passed (hasNul_sharedIn ht hstart hreached.above)).resolve_left ?_
    rintro ⟨file, hholds⟩
    exact hnone file hholds
  have hnearest : ∀ directory file, Nearest t (t.resolve start) directory file →
      (findFile t start).value = .ok (some file) := fun directory file h =>
    value_findFile_of_passed hstart h.above h.holds (hsearch directory h.toReached).dedicated_short fun nearer habove hlt =>
      hpassed nearer (h.nearer habove hlt) (h.nearest nearer habove hlt)
  have hnone : (∀ directory, directory <+: t.resolve start → ∀ file, ¬ Holds t directory file) →
      (findFile t start).value = .ok none := by
    intro hall
    rw [value_findFile hstart]
    refine value_firstFile_of_passed fun d hd => ?_
    have habove := mem_upward_iff.1 hd
    exact hpassed d ⟨habove, fun nearer hnearer _ => hall nearer hnearer⟩ (hall d habove)
  refine ⟨?_, fun file => ⟨fun hvalue => ?_, fun ⟨directory, h⟩ => hnearest directory file h⟩, ⟨fun hvalue => ?_, hnone⟩,
    fun directory file h t' hsame hshared => ?_⟩
  · rcases exists_nearest t (t.resolve start) with ⟨directory, file, h⟩ | hall
    · exact ⟨_, hnearest directory file h⟩
    · exact ⟨_, hnone hall⟩
  · rcases exists_nearest t (t.resolve start) with ⟨directory, other, h⟩ | hall
    · obtain rfl : other = file := by simpa [hvalue] using (hnearest directory other h).symm
      exact ⟨directory, h⟩
    · cases hvalue.symm.trans (hnone hall)
  · rcases exists_nearest t (t.resolve start) with ⟨directory, file, h⟩ | hall
    · cases hvalue.symm.trans (hnearest directory file h)
    · exact hall
  · have hplace : ∀ name ∈ t.resolve start, name ≠ ".." :=
      FileTree.forall_mem_resolve (fun name hname => (ht.here name hname).ne_points) fun name _ hname => hname
    have hresolve : t'.resolve start = t.resolve start := by
      unfold FileTree.resolve
      rw [hsame.here]
    rw [hnearest directory file h]
    refine value_findFile_of_passed hstart (hresolve ▸ h.above) (h.holds.kept hsame hplace h.above) ?_ ?_
    · rw [hsame.isTooLong]
      exact (hsearch directory h.toReached).dedicated_short
    · intro nearer habove hlt
      rw [hresolve] at habove
      have hold := hpassed nearer (h.nearer habove hlt) (h.nearest nearer habove hlt)
      refine ⟨?_, ?_, ?_, hshared nearer habove hlt⟩
      · rw [hsame.isTooLong, hold.dedicated_short]
      · rw [hsame.isTooLong, hold.shared_short]
      · rw [isFile_dedicatedIn hsame hplace habove hlt.le, hold.dedicated]

/-- settings above a directory whose shared file is malformed -/
def shadowedTree : FileTree :=
  ((FileTree.empty []).addFile ["p", sharedName] (Text.encodeUtf8 "[tool.vixlint]".toList)).addFile ["p", "a", sharedName]
    (Text.encodeUtf8 "[".toList)

/-- the settings above are found, and a dedicated file further up has no part in that -/
theorem findFile_nearest_shadowed :
    shadowedTree.Proper ∧ (Path.ofString "/p/a").hasNul = false ∧
      (∀ directory, Reached shadowedTree ["p", "a"] directory → Searchable shadowedTree directory) ∧
      Nearest shadowedTree ["p", "a"] ["p"] (sharedIn ["p"]) ∧
      (findFile shadowedTree (.ofString "/p/a")).value = .ok (some (sharedIn ["p"])) ∧
      (findFile (shadowedTree.addFile [dedicatedName] []) (.ofString "/p/a")).value = .ok (some (sharedIn ["p"])) := by
  have hproper : shadowedTree.Proper :=
    ((FileTree.proper_empty (by decide)).addFile (by decide) (by decide) _).addFile (by decide) (by decide) _
  have hnul : (Path.ofString "/p/a").hasNul = false := by decide +kernel
  have hresolve : shadowedTree.resolve (.ofString "/p/a") = ["p", "a"] := by decide +kernel
  have hsearch : ∀ directory, Reached shadowedTree ["p", "a"] directory → Searchable shadowedTree directory := by
    have hall : ∀ directory ∈ upward ["p", "a"], Searchable shadowedTree directory := by decide +kernel
    exact fun directory hreached => hall directory (mem_upward_iff.2 hreached.above)
  have hnearest : Nearest shadowedTree ["p", "a"] ["p"] (sharedIn ["p"]) := by
    refine ⟨⟨by decide, fun nearer habove hlt other hother => ?_⟩, by decide +kernel⟩
    have hnone : ∀ directory ∈ upward ["p", "a"], 1 < directory.length → settingsIn? shadowedTree directory = none := by
      decide +kernel
    cases (settingsIn?_eq_some_iff.2 hother).symm.trans (hnone nearer (mem_upward_iff.2 habove) hlt)
  have hsame : FileTree.SameBut (Distant ["p", "a"] ["p"]) shadowedTree (shadowedTree.addFile [dedicatedName] []) := by
    refine (FileTree.sameBut_addFile rfl (by decide +kernel) []).mono ?_
    rintro place rfl
    exact .further List.nil_prefix (by decide) (Or.inl rfl)
  have hpassed : ∀ nearer, nearer <+: ["p", "a"] → 1 < nearer.length →
      SharedPassed (shadowedTree.addFile [dedicatedName] []) nearer := by
    have hall : ∀ directory ∈ upward ["p", "a"], 1 < directory.length →
        SharedPassed (shadowedTree.addFile [dedicatedName] []) directory := by decide +kernel
    exact fun nearer habove hlt => hall nearer (mem_upward_iff.2 habove) hlt
  obtain ⟨-, hfound, -, hsame'⟩ := findFile_nearest hproper hnul (hresolve ▸ hsearch)
  rw [hresolve] at hfound hsame'
  have hvalue := (hfound _).2 ⟨_, hnearest⟩
  exact ⟨hproper, hnul, hsearch, hnearest, hvalue, (hsame' _ _ hnearest _ hsame hpassed).trans hvalue⟩

/-! ## A number of too many digits -/

/-- a document with a number of `n` digits -/
def numberedText (n : Nat) : List Char := 'a' :: ' ' :: '=' :: ' ' :: List.replicate n '1'

section Numbered

open Toml

theorem moreDigits_replicate (n : Nat) : moreDigits Char.isDigit (List.replicate n '1') = (List.replicate n '1', []) := by
  induction n with
  | zero => rfl
  | succ n ih => simp [List.replicate_succ, moreDigits, ih]

theorem unifyBreaks_replicate (n : Nat) : unifyBreaks (List.replicate n '1') = List.replicate n '1' := by
  induction n with
  | zero => rfl
  | succ n ih => simp [List.replicate_succ, unifyBreaks, ih]

/-- digits in a row are neither a day nor a time of day, but a number, which may have too many of them -/
theorem scalar_replicate {n : Nat} (h : Text.mostDigits < n) :
    scalar (List.replicate n '1') = .error (.limit (.digitsRead n)) := by
  obtain ⟨m, rfl⟩ : ∃ m, n = m + 5 := ⟨n - 5, by unfold Text.mostDigits at h; omega⟩
  have hday : day? (List.replicate (m + 5) '1') = none := by
    simp [List.replicate_succ, day?, twoDigits?, after?]
  have htime : time? (List.replicate (m + 5) '1') = none := by
    simp [List.replicate_succ, time?, twoDigits?, after?]
  have hnumber : number? (List.replicate (m + 5) '1') = some (.tooLong (m + 5), []) := by
    have hdigits : wholePart? (List.replicate (m + 5) '1') = some (List.replicate (m + 5) '1', []) := by
      rw [← moreDigits_replicate (m + 5)]
      rfl
    have hsign : sign (List.replicate (m + 5) '1') = (false, List.replicate (m + 5) '1') := rfl
    have hdecimal : decimal? (List.replicate (m + 5) '1') = some (.tooLong (m + 5), []) := by
      simp [decimal?, hsign, hdigits, fraction?, power?, h]
    have hbased : based? (List.replicate (m + 5) '1') = none := rfl
    simp [number?, hbased, hdecimal]
  have hmoment : moment (List.replicate (m + 5) '1') = .noDay := by
    unfold moment
    rw [hday]
  simp only [List.replicate_succ] at hmoment htime hnumber ⊢
  simp [scalar, hmoment, htime, hnumber, wellFormed, numeral, ok_bind]

theorem read_numberedText [Machine] {n : Nat} (h : Text.mostDigits < n) :
    Toml.read (numberedText n) = .error (.limit (.digitsRead n)) := by
  have hbreaks : unifyBreaks (numberedText n) = numberedText n := by
    simp [numberedText, unifyBreaks, unifyBreaks_replicate]
  have hvalue : ∀ fuel room, value (fuel + 1) room (List.replicate n '1') = .error (.limit (.digitsRead n)) := by
    intro fuel room
    rw [← scalar_replicate h]
    obtain ⟨m, rfl⟩ : ∃ m, n = m + 1 := ⟨n - 1, by omega⟩
    rfl
  have hkey : key? (numberedText n) = some (["a"], '=' :: ' ' :: List.replicate n '1') := rfl
  have hblanks : (' ' :: List.replicate n '1').dropWhile isSpace = List.replicate n '1' := by
    obtain ⟨m, rfl⟩ : ∃ m, n = m + 1 := ⟨n - 1, by omega⟩
    rfl
  have hassignment : assignment {} (numberedText n) = .error (.limit (.digitsRead n)) := by
    unfold assignment
    rw [hkey]
    simp only [wellFormed, ok_bind, after?, if_pos, hblanks, hvalue]
    rfl
  unfold Toml.read
  rw [hbreaks]
  have hstatement : statement {} ((numberedText n).dropWhile isSpace) = .error (.limit (.digitsRead n)) := hassignment
  simp only [statements, hstatement]
  rfl

end Numbered

section Limit

variable {t : FileTree} {directory : List String} {l : Limit}

theorem readDocument_of_limit [Machine] {file : Path} {text : List Char} (hread : t.readUtf8 file = .ok text)
    (hlimit : Toml.read text = .error (.limit l)) : readDocument t file = .error (.limit l) := by
  unfold readDocument
  rw [hread]
  dsimp only
  rw [hlimit]

/-- **A limit of the reader stops a search** where the shared file comes to be read. -/
theorem value_firstFile_of_limit [Machine] (hshort : t.isTooLong (dedicatedIn directory) = false)
    (hno : t.isFile (dedicatedIn directory) = false) (hlong : t.isTooLong (sharedIn directory) = false)
    (hfile : t.isFile (sharedIn directory) = true) (hlimit : readDocument t (sharedIn directory) = .error (.limit l))
    (more : List (List String)) : (firstFile t (directory :: more)).value = .error (.limit l) := by
  have hshared : (sharedHoldsSettings t (sharedIn directory)).value = .error (.limit l) := by
    unfold sharedHoldsSettings
    rw [hlimit]
    rfl
  rw [value_firstFile_cons, value_fileIn_of_shared hshort hno hlong, if_pos hfile, hshared]
  rfl

end Limit

/-- a tree with nothing in it but a shared file with a number of too many digits -/
def numberedTree : FileTree := (FileTree.empty ["w"]).addFile [sharedName] (Text.encodeUtf8 (numberedText 4301))

/--
**A search does not pass a number of too many digits.** No directory holds settings and all that can be asked of the tree
can be answered, but the search comes to a limit of the reader, and so to neither a file nor the end of the way.
-/
theorem not_passed_by_long_number :
    numberedTree.Proper ∧ (Path.ofString "").hasNul = false ∧
      (∀ directory, directory <+: numberedTree.resolve (.ofString "") →
        (∀ file, ¬ Holds numberedTree directory file) ∧
        numberedTree.isTooLong (dedicatedIn directory) = false ∧ numberedTree.isTooLong (sharedIn directory) = false ∧
        (∀ fault, readDocument numberedTree (sharedIn directory) ≠ .error (.undecodable fault)) ∧
        ∀ document, readDocument numberedTree (sharedIn directory) ≠ .ok document) ∧
      (findFile numberedTree (.ofString "")).value = .error (.limit (.digitsRead 4301)) := by
  have hresolve : numberedTree.resolve (.ofString "") = ["w"] := by decide +kernel
  have hread : numberedTree.readUtf8 (sharedIn ["w"]) = .ok (numberedText 4301) := by
    have hbytes : numberedTree.read (sharedIn ["w"]) = .ok (Text.encodeUtf8 (numberedText 4301)) := rfl
    exact FileTree.readUtf8_of_read (by decide +kernel) hbytes
  have hlimit : readDocument numberedTree (sharedIn ["w"]) = .error (.limit (.digitsRead 4301)) :=
    readDocument_of_limit hread (read_numberedText (by decide))
  have hmissing : readDocument numberedTree (sharedIn []) = .error (.unreadable (sharedIn []) .missing) := rfl
  have hno : ∀ directory ∈ upward ["w"], numberedTree.isTooLong (dedicatedIn directory) = false ∧
      numberedTree.isTooLong (sharedIn directory) = false ∧ numberedTree.isFile (dedicatedIn directory) = false := by
    decide +kernel
  have hdocument : ∀ directory ∈ upward ["w"], (∀ fault, readDocument numberedTree (sharedIn directory) ≠
      .error (.undecodable fault)) ∧ ∀ document, readDocument numberedTree (sharedIn directory) ≠ .ok document := by
    rintro directory (_ | ⟨_, _ | ⟨_, ⟨⟩⟩⟩)
    · refine ⟨fun fault h => ?_, fun document h => ?_⟩
      · cases hlimit.symm.trans h
      · cases hlimit.symm.trans h
    · refine ⟨fun fault h => ?_, fun document h => ?_⟩
      · cases hmissing.symm.trans h
      · cases hmissing.symm.trans h
  refine ⟨(FileTree.proper_empty (by decide)).addFile (by decide) (by decide) _, by decide +kernel, ?_, ?_⟩
  · intro directory habove
    rw [hresolve, ← mem_upward_iff] at habove
    obtain ⟨hdedicated, hshared, hfile⟩ := hno directory habove
    obtain ⟨hdecodable, hnone⟩ := hdocument directory habove
    refine ⟨fun file hholds => ?_, hdedicated, hshared, hdecodable, hnone⟩
    cases hholds with
    | dedicated hthere => cases hthere.symm.trans hfile
    | shared _ hthere _ => exact hnone _ hthere
  · obtain ⟨hdedicated, hshared, hfile⟩ := hno ["w"] (mem_upward_iff.2 List.prefix_rfl)
    have hupward : upward ["w"] = [["w"], []] := rfl
    rw [value_findFile (by decide +kernel), hresolve, hupward]
    exact value_firstFile_of_limit hdedicated hfile hshared rfl hlimit _

end VixStyle.Config
