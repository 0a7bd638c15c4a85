/-
File trees as disks have them, and where paths lead in them.

A tree is `Proper` if each entry has names that a directory may give and stands in the tree once, and the top of the tree
is a directory. The operations that add entries to a tree keep this (`Proper.addDirectory`, `Proper.addFile`). In a proper
tree a walk without pairs of points ends where its names say (`eq_append_of_walk`).

Trees may differ in files only (`SameBut`): then walks are alike (`SameBut.walk`), and so is all that is found at places that
did not change (`SameBut.find`).
-/
import Mathlib.Tactic
import VixStyle.FileTree
import VixStyle.Proofs.Text.Utf8

namespace VixStyle

/-- a name that a directory may give to an entry -/
structure IsEntryName (name : String) : Prop where
  ne_empty : name ≠ ""
  ne_point : name ≠ "."
  ne_points : name ≠ ".."
  no_slash : '/' ∉ name.toList
  no_nul : '\x00' ∉ name.toList

instance (name : String) : Decidable (IsEntryName name) :=
  decidable_of_iff (name ≠ "" ∧ name ≠ "." ∧ name ≠ ".." ∧ '/' ∉ name.toList ∧ '\x00' ∉ name.toList)
    ⟨fun h => ⟨h.1, h.2.1, h.2.2.1, h.2.2.2.1, h.2.2.2.2⟩, fun h => ⟨h.1, h.2, h.3, h.4, h.5⟩⟩

/-- names that lead from a directory to an entry below it -/
def AreEntryNames (names : List String) : Prop := ∀ name ∈ names, IsEntryName name

instance (names : List String) : Decidable (AreEntryNames names) := inferInstanceAs (Decidable (∀ name ∈ names, _))

namespace FileTree

/-! ## Proper trees -/

/-- a tree as a disk has it -/
structure Proper (t : FileTree) : Prop where
  base : AreEntryNames t.base
  here : AreEntryNames t.here
  named : ∀ e ∈ t.entries, AreEntryNames e.1
  distinct : (t.entries.map Prod.fst).Nodup
  top : ∀ bytes, ([], .file bytes) ∉ t.entries

section Building

variable {t : FileTree} {names : List String}

theorem proper_empty {base : List String} (h : AreEntryNames base) : (empty base).Proper where
  base := h
  here := h
  named := List.forall_mem_nil _
  distinct := List.nodup_nil
  top _ := List.not_mem_nil

theorem Proper.addEntry (ht : t.Proper) (hnames : AreEntryNames names) : (t.addEntry names .directory).Proper := by
  unfold FileTree.addEntry
  cases hlookup : t.entries.lookup names with
  | some _ => exact ht
  | none =>
    have hnew : names ∉ t.entries.map Prod.fst := by
      intro hmem
      obtain ⟨e, he, rfl⟩ := List.mem_map.1 hmem
      simpa using List.lookup_eq_none_iff.1 hlookup e he
    refine ⟨ht.base, ht.here, ?_, ?_, ?_⟩
    · exact List.forall_mem_append.2 ⟨ht.named, List.forall_mem_singleton.2 hnames⟩
    · simp only [Option.isSome_none, Bool.false_eq_true, if_false, List.map_append, List.map_singleton]
      exact ht.distinct.append (List.nodup_singleton _) (List.disjoint_singleton.2 hnew)
    · intro bytes hmem
      simp only [Option.isSome_none, Bool.false_eq_true, if_false, List.mem_append, List.mem_singleton] at hmem
      rcases hmem with hmem | hmem
      · exact ht.top bytes hmem
      · cases hmem

theorem Proper.addDirectory (ht : t.Proper) (hnames : AreEntryNames names) : (t.addDirectory names).Proper := by
  unfold FileTree.addDirectory
  refine List.foldlRecOn (motive := Proper) _ _ ht fun u hu above habove => hu.addEntry ?_
  obtain ⟨n, -, rfl⟩ := List.mem_map.1 habove
  exact fun name hname => hnames name (List.mem_of_mem_take hname)

theorem Proper.addFile (ht : t.Proper) (hnames : AreEntryNames names) (hne : names ≠ []) (bytes : List UInt8) :
    (t.addFile names bytes).Proper := by
  have hu : (t.addDirectory names.dropLast).Proper :=
    ht.addDirectory fun name hname => hnames name (List.mem_of_mem_dropLast hname)
  refine ⟨hu.base, hu.here, ?_, ?_, ?_⟩
  · refine List.forall_mem_append.2 ⟨fun e he => hu.named e (List.mem_of_mem_filter he), ?_⟩
    exact List.forall_mem_singleton.2 hnames
  · rw [FileTree.addFile, List.map_append, List.map_singleton]
    refine (hu.distinct.sublist (List.filter_sublist.map _)).append (List.nodup_singleton _)
      (List.disjoint_singleton.2 fun hmem => ?_)
    obtain ⟨e, he, heq⟩ := List.mem_map.1 hmem
    simp [heq] at he
  · intro bytes' hmem
    rcases List.mem_append.1 hmem with hmem | hmem
    · exact hu.top bytes' (List.mem_of_mem_filter hmem)
    · rw [List.mem_singleton, Prod.mk.injEq] at hmem
      exact hne hmem.1.symm

end Building

/-! ## Entries of a proper tree -/

section Entries

variable {t : FileTree} (ht : t.Proper)

include ht

/-- **A file stands where its entry says.** -/
theorem Proper.entry?_eq_file_iff {place : List String} {bytes : List UInt8} :
    t.entry? place = some (.file bytes) ↔ ∃ names, place = t.base ++ names ∧ (names, .file bytes) ∈ t.entries := by
  have hlookup : ∀ names, t.entries.lookup names = some (.file bytes) ↔ (names, Entry.file bytes) ∈ t.entries := by
    intro names
    constructor
    · intro h
      obtain ⟨front, back, heq, -⟩ := List.lookup_eq_some_iff.1 h
      rw [heq]
      exact List.mem_append_right _ List.mem_cons_self
    · intro h
      obtain ⟨front, back, heq⟩ := List.append_of_mem h
      have hdistinct := ht.distinct
      rw [heq, List.map_append, List.map_cons] at hdistinct
      refine List.lookup_eq_some_iff.2 ⟨front, back, heq, fun e he => ?_⟩
      have hnotMem : names ∉ front.map Prod.fst := fun hmem =>
        (List.nodup_append.1 hdistinct).2.2 names hmem names List.mem_cons_self rfl
      rw [bne_iff_ne]
      rintro rfl
      exact hnotMem (List.mem_map_of_mem he)
  unfold entry?
  constructor
  · intro h
    split at h
    · cases h
    split at h
    · rename_i hbelow
      obtain ⟨names, rfl⟩ := List.isPrefixOf_iff_prefix.1 hbelow
      rw [List.drop_left] at h
      exact ⟨names, rfl, (hlookup names).1 h⟩
    · cases h
  · rintro ⟨names, rfl, hmem⟩
    have hne : names ≠ [] := by
      rintro rfl
      exact ht.top bytes hmem
    have habove : ¬ (t.base ++ names).isPrefixOf t.base = true := by
      intro hprefix
      have hlength := (List.isPrefixOf_iff_prefix.1 hprefix).length_le
      rw [List.length_append] at hlength
      exact hne (List.length_eq_zero_iff.1 (by omega))
    rw [if_neg habove, if_pos (List.isPrefixOf_iff_prefix.2 (List.prefix_append _ _)), List.drop_left]
    exact (hlookup names).2 hmem

theorem Proper.areEntryNames {place : List String} {bytes : List UInt8} (h : t.entry? place = some (.file bytes)) :
    AreEntryNames place := by
  obtain ⟨names, rfl, hmem⟩ := ht.entry?_eq_file_iff.1 h
  exact List.forall_mem_append.2 ⟨ht.base, ht.named _ hmem⟩

end Entries

/-! ## Walks -/

section Walks

variable {t : FileTree}

theorem walk_append (place names more : List String) :
    t.walk place (names ++ more) = t.walk place names >>= fun reached => t.walk reached more := by
  induction names generalizing place with
  | nil => rfl
  | cons name names ih =>
    rw [List.cons_append, walk, walk]
    split
    · split
      · rfl
      · exact ih _
    · rfl
    · rfl

/-- a walk without pairs of points ends where its names say -/
theorem eq_append_of_walk {place names reached : List String} (hnames : ∀ name ∈ names, name ≠ "..")
    (h : t.walk place names = .ok reached) : reached = place ++ names := by
  induction names generalizing place with
  | nil =>
    rw [List.append_nil]
    exact (Except.ok.inj h).symm
  | cons name names ih =>
    obtain ⟨hname, hnames⟩ := List.forall_mem_cons.1 hnames
    rw [walk, if_neg hname] at h
    split at h
    · split at h
      · cases h
      · rw [ih hnames h, List.append_assoc, List.singleton_append]
    · cases h
    · cases h

/-- a resolved path has names of the place where one is and names of its own, but no pair of points -/
theorem forall_mem_resolve {P : String → Prop} {p : Path} (hhere : ∀ name ∈ t.here, P name)
    (hnames : ∀ name ∈ p.names, name ≠ ".." → P name) : ∀ name ∈ t.resolve p, P name := by
  unfold resolve
  refine List.foldlRecOn (motive := fun place => ∀ name ∈ place, P name) _ _ ?_ fun place hplace name hname => ?_
  · split
    · exact hhere
    · exact List.forall_mem_nil _
  · split
    · exact fun other hother => hplace other (List.mem_of_mem_dropLast hother)
    · exact List.forall_mem_append.2 ⟨hplace, List.forall_mem_singleton.2 (hnames name hname ‹_›)⟩

end Walks

/-! ## What paths lead to -/

section Finding

variable {t : FileTree} {p : Path}

theorem find_eq_ok_iff {entry : Entry} :
    t.find p = .ok entry ↔ ∃ place, t.locate p = .ok place ∧ t.entry? place = some entry := by
  unfold find
  cases t.locate p with
  | error fault => simp [bind, Except.bind]
  | ok place => cases hentry : t.entry? place <;> simp [bind, Except.bind, hentry, pure, Except.pure, throw, throwThe]

theorem isFile_iff : t.isFile p = true ↔ ∃ bytes, t.find p = .ok (.file bytes) := by
  unfold isFile
  cases t.find p with
  | error fault => simp
  | ok entry => cases entry <;> simp

theorem isDirectory_iff : t.isDirectory p = true ↔ t.find p = .ok .directory := by
  unfold isDirectory
  cases t.find p with
  | error fault => simp
  | ok entry => cases entry <;> simp

theorem isTooLong_iff : t.isTooLong p = true ↔ t.locate p = .error .nameTooLong ∧ p.hasNul = false := by
  unfold isTooLong find
  cases t.locate p with
  | error fault => cases fault <;> simp [bind, Except.bind]
  | ok place => cases hentry : t.entry? place <;> simp [bind, Except.bind, hentry, pure, Except.pure, throw, throwThe]

/-- a file is read as the text that was written into it -/
theorem readUtf8_of_read {text : List Char} (hnul : p.hasNul = false) (hread : t.read p = .ok (Text.encodeUtf8 text)) :
    t.readUtf8 p = .ok text := by
  unfold readUtf8
  rw [hnul, hread]
  change (Text.decodeUtf8 (Text.encodeUtf8 text)).mapError ReadFault.undecodable = _
  rw [Text.decodeUtf8_encodeUtf8]
  rfl

/-- only a path with a NUL character does not get as far as the disk -/
theorem hasNul_of_readUtf8 (h : t.readUtf8 p = .error .nulInPath) : p.hasNul = true := by
  by_contra hnul
  rw [Bool.not_eq_true] at hnul
  unfold readUtf8 at h
  rw [hnul] at h
  cases hread : t.read p with
  | error fault =>
    rw [hread] at h
    cases h
  | ok bytes =>
    rw [hread] at h
    change (Text.decodeUtf8 bytes).mapError ReadFault.undecodable = _ at h
    cases hdecode : Text.decodeUtf8 bytes with
    | error fault =>
      rw [hdecode] at h
      cases h
    | ok text =>
      rw [hdecode] at h
      cases h

end Finding

/-! ## Trees that differ in files -/

/-- an answer of a disk that says more than that nothing is there -/
def Definite {α : Type} (answer : Except FileFault α) : Prop := ∀ fault, answer = .error fault → fault = .nameTooLong

theorem definite_ok {α : Type} (a : α) : Definite (.ok a) := nofun

theorem definite_nameTooLong {α : Type} : Definite (.error .nameTooLong : Except FileFault α) :=
  fun _ h => (Except.error.inj h).symm

/-- trees that differ at some places only, and there in a file that one of them has -/
structure SameBut (changed : List String → Prop) (t t' : FileTree) : Prop where
  here : t'.here = t.here
  entries : ∀ place, t'.entry? place = t.entry? place ∨
    changed place ∧ t.entry? place ≠ some .directory ∧ t'.entry? place ≠ some .directory

namespace SameBut

variable {changed : List String → Prop} {t t' : FileTree}

theorem symm (h : SameBut changed t t') : SameBut changed t' t :=
  ⟨h.here.symm, fun place => (h.entries place).imp Eq.symm fun hfile => ⟨hfile.1, hfile.2.2, hfile.2.1⟩⟩

theorem mono {more : List String → Prop} (h : SameBut changed t t') (hmore : ∀ place, changed place → more place) :
    SameBut more t t' :=
  ⟨h.here, fun place => (h.entries place).imp_right (And.imp_left (hmore place))⟩

variable (h : SameBut changed t t')

include h

theorem entry?_of_directory {place : List String} (hplace : t.entry? place = some .directory) :
    t'.entry? place = some .directory := by
  rcases h.entries place with heq | ⟨-, hfile, -⟩
  · rw [heq, hplace]
  · exact absurd hplace hfile

/-- **Walks are alike**: they end at the same place, or at the same name that is too long. -/
theorem walk {place names : List String} {result : Except FileFault (List String)} (hresult : Definite result)
    (hwalk : t.walk place names = result) : t'.walk place names = result := by
  induction names generalizing place with
  | nil => exact hwalk
  | cons name names ih =>
    rw [FileTree.walk] at hwalk ⊢
    cases hentry : t.entry? place with
    | none =>
      rw [hentry] at hwalk
      cases hresult _ hwalk.symm
    | some entry =>
      rw [hentry] at hwalk
      cases entry with
      | file bytes => cases hresult _ hwalk.symm
      | directory =>
        rw [h.entry?_of_directory hentry]
        dsimp only at hwalk ⊢
        split at hwalk
        · rw [if_pos ‹_›]
          exact hwalk
        · rw [if_neg ‹_›]
          exact ih hwalk

theorem locate {p : Path} {result : Except FileFault (List String)} (hresult : Definite result)
    (hlocate : t.locate p = result) : t'.locate p = result := by
  unfold FileTree.locate at hlocate ⊢
  rw [h.here]
  split at hlocate
  · rwa [if_pos ‹_›]
  · rw [if_neg ‹_›]
    exact h.walk hresult hlocate

/-- **What a path leads to is the same** where nothing changed. -/
theorem find {p : Path} (hplace : ∀ place, t.locate p = .ok place → ¬ changed place) {entry : Entry}
    (hfind : t.find p = .ok entry) : t'.find p = .ok entry := by
  obtain ⟨place, hlocate, hentry⟩ := find_eq_ok_iff.1 hfind
  refine find_eq_ok_iff.2 ⟨place, h.locate (definite_ok place) hlocate, ?_⟩
  rw [(h.entries place).resolve_right fun hfile => hplace place hlocate hfile.1, hentry]

/-- both trees can be asked the same -/
theorem isTooLong (p : Path) : t'.isTooLong p = t.isTooLong p := by
  rw [Bool.eq_iff_iff, isTooLong_iff, isTooLong_iff]
  exact and_congr_left' ⟨h.symm.locate definite_nameTooLong, h.locate definite_nameTooLong⟩

theorem find_iff {p : Path} (hplace : ∀ place, t.locate p = .ok place → ¬ changed place) (entry : Entry) :
    t'.find p = .ok entry ↔ t.find p = .ok entry :=
  ⟨h.symm.find fun place hlocate => hplace place (h.symm.locate (definite_ok place) hlocate), h.find hplace⟩

theorem isFile {p : Path} (hplace : ∀ place, t.locate p = .ok place → ¬ changed place) : t'.isFile p = t.isFile p := by
  rw [Bool.eq_iff_iff, isFile_iff, isFile_iff]
  exact exists_congr fun bytes => h.find_iff hplace (.file bytes)

end SameBut

theorem lookup_filter_ne {names other : List String} (h : other ≠ names) (entries : List (List String × Entry)) :
    (entries.filter fun entry => entry.1 ≠ names).lookup other = entries.lookup other := by
  induction entries with
  | nil => rfl
  | cons e entries ih =>
    by_cases he : e.1 = names
    · have hother : (other == e.1) = false := by
        rw [he]
        exact beq_false_of_ne h
      rw [List.filter_cons_of_neg (by simp [he]), ih, List.lookup_cons, hother]
    · rw [List.filter_cons_of_pos (by simp [he]), List.lookup_cons, List.lookup_cons, ih]

/-- **A file that is written** in a directory that is there changes nothing but its own place. -/
theorem sameBut_addFile {t : FileTree} {names : List String} (hparent : t.addDirectory names.dropLast = t)
    (hfile : t.entry? (t.base ++ names) ≠ some .directory) (bytes : List UInt8) :
    SameBut (· = t.base ++ names) t (t.addFile names bytes) where
  here := by rw [addFile, hparent]
  entries place := by
    rw [addFile, hparent]
    unfold entry? at hfile ⊢
    dsimp only
    split
    · exact Or.inl rfl
    split
    · rename_i habove hbelow
      obtain ⟨other, rfl⟩ := List.isPrefixOf_iff_prefix.1 hbelow
      rw [List.drop_left, List.lookup_append]
      by_cases hother : other = names
      · subst hother
        have hnone : (t.entries.filter fun entry => entry.1 ≠ other).lookup other = none := by
          refine List.lookup_eq_none_iff.2 fun e he => ?_
          rw [bne_iff_ne]
          exact Ne.symm (of_decide_eq_true (List.mem_filter.1 he).2)
        rw [if_neg habove, if_pos hbelow, List.drop_left] at hfile
        refine Or.inr ⟨rfl, hfile, ?_⟩
        rw [hnone]
        simp
      · refine Or.inl ?_
        rw [lookup_filter_ne hother]
        have hnone : [(names, Entry.file bytes)].lookup other = none :=
          List.lookup_eq_none_iff.2 (List.forall_mem_singleton.2 (bne_iff_ne.2 hother))
        rw [hnone, Option.or_none]
    · exact Or.inl rfl

end FileTree

end VixStyle
