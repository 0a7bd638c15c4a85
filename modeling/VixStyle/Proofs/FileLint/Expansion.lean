/-
Which files some paths stand for.

Main statement, `collect_told`: of all that the paths stand for one after the other (`StandsFor`: a path that is no directory
for itself, a directory for the source files at any depth below it in ascending order) there is each path once, where it
comes first. So what more paths stand for is added behind, less what is there, and the files that came of this stand for
themselves.

- `firstAppearances_append`, `pairwise_firstAppearances`: each path once.
- `mem_filesBelow_iff`, `mem_sourcesIn_iff`: the files below a directory, read off the entries of the tree.
- `standsFor_expand`: one path.
-/
import Mathlib.Data.String.Basic
import VixStyle.FileLint
import VixStyle.Proofs.FileTree.Walk

namespace VixStyle

/-! ## Paths and their order -/

namespace Path

/-- a path as texts write it: its root is one of three, and its names have no slash in them -/
structure Proper (p : Path) : Prop where
  root : p.root ∈ ["", "/", "//"]
  names : ∀ name ∈ p.names, '/' ∉ name.toList

section Components

variable {p q : Path}

theorem notMem_of_mem_cutAt {mark : Char} {s part : List Char} (h : part ∈ Text.cutAt mark s) : mark ∉ part := by
  induction s generalizing part with
  | nil =>
    rw [List.mem_singleton.1 h]
    exact List.not_mem_nil
  | cons c rest ih =>
    rw [Text.cutAt] at h
    split at h
    · rcases List.mem_cons.1 h with rfl | h
      · exact List.not_mem_nil
      · exact ih h
    · rename_i hc
      split at h
      · rename_i first more heq
        rw [heq] at ih
        rcases List.mem_cons.1 h with rfl | h
        · exact List.not_mem_cons_of_ne_of_not_mem (Ne.symm hc) (ih List.mem_cons_self)
        · exact ih (List.mem_cons_of_mem _ h)
      · rw [List.mem_singleton.1 h, List.mem_singleton]
        exact Ne.symm hc

theorem proper_ofString (s : String) : (ofString s).Proper where
  root := by
    unfold ofString
    dsimp only
    split <;> decide
  names name hname := by
    obtain ⟨part, hpart, rfl⟩ := List.mem_map.1 (List.mem_of_mem_filter hname)
    rw [String.toList_ofList]
    exact notMem_of_mem_cutAt hpart

/-- **Paths are told apart by their components.** -/
theorem Proper.eq_of_components (hp : p.Proper) (hq : q.Proper) (h : p.components = q.components) : p = q := by
  obtain ⟨root, names⟩ := p
  obtain ⟨root', names'⟩ := q
  -- a root is no name, since names have no slash in them
  have hroot : ∀ r ∈ ["", "/", "//"], r ≠ "" → '/' ∈ r.toList := by decide
  unfold components at h
  dsimp only at h
  split at h <;> split at h
  · rename_i hempty hempty'
    rw [hempty, hempty', h]
  · rename_i _ hempty'
    exact absurd (hroot _ hq.root hempty') (hp.names root' (h ▸ List.mem_cons_self))
  · rename_i hempty _
    exact absurd (hroot _ hp.root hempty) (hq.names root (h ▸ List.mem_cons_self))
  · obtain ⟨rfl, rfl⟩ := List.cons.inj h
    rfl

theorem components_below (p : Path) (names : List String) : (p.below names).components = p.components ++ names := by
  unfold components below
  dsimp only
  split <;> rfl

theorem Proper.below (hp : p.Proper) {names : List String} (hnames : AreEntryNames names) : (p.below names).Proper :=
  ⟨hp.root, List.forall_mem_append.2 ⟨hp.names, fun name hname => (hnames name hname).no_slash⟩⟩

end Components

theorem namesLe_iff {a b : List String} : namesLe a b = true ↔ a ≤ b := by
  induction a generalizing b with
  | nil =>
    refine iff_of_true rfl (not_lt.1 fun h => ?_)
    cases h
  | cons x a ih =>
    cases b with
    | nil => exact iff_of_false Bool.false_ne_true (not_le.2 (List.nil_lt_cons x a))
    | cons y b =>
      rw [namesLe, Bool.or_eq_true, Bool.and_eq_true, decide_eq_true_eq, beq_iff_eq, ih, le_iff_eq_or_lt, le_iff_eq_or_lt,
        List.cons.injEq, List.cons_lt_cons_iff]
      tauto

theorem mem_sort_iff {paths : List Path} {p : Path} : p ∈ sort paths ↔ p ∈ paths := (List.mergeSort_perm _ _).mem_iff

/-- paths with different components are put in ascending order of these -/
theorem pairwise_sort {paths : List Path} (h : (paths.map components).Nodup) :
    (sort paths).Pairwise fun p q => p.components < q.components := by
  have hle : (sort paths).Pairwise fun p q => p.components ≤ q.components := by
    have htotal : ∀ p q : Path, (namesLe p.components q.components || namesLe q.components p.components) = true := by
      intro p q
      simpa only [Bool.or_eq_true, namesLe_iff] using le_total p.components q.components
    have htrans : ∀ p q r : Path, namesLe p.components q.components = true → namesLe q.components r.components = true →
        namesLe p.components r.components = true := fun p q r hpq hqr =>
      namesLe_iff.2 ((namesLe_iff.1 hpq).trans (namesLe_iff.1 hqr))
    have hsorted : (sort paths).Pairwise fun p q => namesLe p.components q.components = true :=
      List.pairwise_mergeSort htrans htotal paths
    exact hsorted.imp namesLe_iff.1
  have hne : (sort paths).Pairwise fun p q => p.components ≠ q.components :=
    List.pairwise_map.1 (((List.mergeSort_perm paths _).map components).nodup_iff.2 h)
  exact hle.imp₂ (fun p q hle hne => lt_of_le_of_ne hle hne) hne

/-- there is one ascending order -/
theorem sort_eq {paths sorted : List Path} (hperm : sorted.Perm paths)
    (hsorted : sorted.Pairwise fun p q => p.components < q.components) : sort paths = sorted := by
  have hdistinct : (paths.map components).Nodup :=
    (hperm.map components).nodup_iff.1 (List.pairwise_map.2 (hsorted.imp fun h => h.ne))
  refine List.Perm.eq_of_pairwise (fun p q _ _ hlt hgt => absurd hlt hgt.asymm) (pairwise_sort hdistinct) hsorted ?_
  exact (List.mergeSort_perm paths _).trans hperm.symm

end Path

/-! ## Each path once -/

section Once

theorem firstAppearances_eq_filter (seen paths : List Path) :
    firstAppearances seen paths = (firstAppearances [] paths).filter (· ∉ seen) := by
  induction paths generalizing seen with
  | nil => rfl
  | cons p more ih =>
    have hfirst : firstAppearances [] (p :: more) = p :: (firstAppearances [] more).filter (· ∉ [p]) := by
      rw [firstAppearances, if_neg (by simp), ih [p]]
    by_cases hp : p ∈ seen
    · rw [firstAppearances, if_pos (List.contains_iff_mem.2 hp), hfirst, List.filter_cons_of_neg (by simpa using hp),
        List.filter_filter, ih seen]
      refine List.filter_congr fun q _ => ?_
      by_cases hq : q ∈ seen
      · simp [hq]
      · have hne : q ≠ p := by
          rintro rfl
          exact hq hp
        simp [hq, hne]
    · rw [firstAppearances, if_neg (by simpa using hp), hfirst, List.filter_cons_of_pos (by simpa using hp),
        List.filter_filter, ih (p :: seen)]
      congr 1
      refine List.filter_congr fun q _ => ?_
      simp [Bool.and_comm]

theorem firstAppearances_cons (p : Path) (more : List Path) :
    firstAppearances [] (p :: more) = p :: (firstAppearances [] more).filter (· ≠ p) := by
  rw [firstAppearances, if_neg (by simp), firstAppearances_eq_filter]
  simp

theorem mem_firstAppearances_iff {paths : List Path} {p : Path} : p ∈ firstAppearances [] paths ↔ p ∈ paths := by
  induction paths with
  | nil => rfl
  | cons q more ih =>
    rw [firstAppearances_cons, List.mem_cons, List.mem_cons, List.mem_filter, ih]
    by_cases hp : p = q <;> simp [hp]

theorem nodup_firstAppearances (paths : List Path) : (firstAppearances [] paths).Nodup := by
  induction paths with
  | nil => exact List.nodup_nil
  | cons p more ih =>
    rw [firstAppearances_cons]
    exact List.nodup_cons.2 ⟨by simp, ih.filter _⟩

/-- what more paths add is behind, less what is there -/
theorem firstAppearances_append (paths more : List Path) :
    firstAppearances [] (paths ++ more) = firstAppearances [] paths ++ (firstAppearances [] more).filter (· ∉ paths) := by
  induction paths with
  | nil => simp [firstAppearances]
  | cons p paths ih =>
    rw [List.cons_append, firstAppearances_cons, firstAppearances_cons, ih, List.filter_append, List.filter_filter,
      List.cons_append]
    congr 2
    refine List.filter_congr fun q _ => ?_
    simp

theorem firstAppearances_of_nodup {paths : List Path} (h : paths.Nodup) : firstAppearances [] paths = paths := by
  induction paths with
  | nil => rfl
  | cons p more ih =>
    obtain ⟨hp, hmore⟩ := List.nodup_cons.1 h
    rw [firstAppearances_cons, ih hmore, List.filter_eq_self.2]
    intro q hq
    rw [decide_eq_true_eq]
    rintro rfl
    exact hp hq

/-- **Paths stand where they came first.** -/
theorem pairwise_firstAppearances (paths : List Path) :
    (firstAppearances [] paths).Pairwise fun p q => paths.idxOf p < paths.idxOf q := by
  induction paths with
  | nil => exact List.Pairwise.nil
  | cons x more ih =>
    rw [firstAppearances_cons]
    have hne : ∀ p ∈ (firstAppearances [] more).filter (· ≠ x), x ≠ p := fun p hp =>
      Ne.symm (of_decide_eq_true (List.mem_filter.1 hp).2)
    refine List.pairwise_cons.2 ⟨fun q hq => ?_, (ih.filter _).imp_of_mem fun {p q} hp hq hlt => ?_⟩
    · rw [List.idxOf_cons_self, List.idxOf_cons_ne _ (hne q hq)]
      exact Nat.succ_pos _
    · rw [List.idxOf_cons_ne _ (hne p hp), List.idxOf_cons_ne _ (hne q hq)]
      exact Nat.succ_lt_succ hlt

end Once

/-! ## What a path stands for -/

/-- a source file at any depth below a directory, as a path below that of the directory -/
inductive FileTree.HasSource (t : FileTree) (directory : Path) : Path → Prop
  | below {place above : List String} {name : String} {bytes : List UInt8} (hplace : t.locate directory = .ok place)
      (hentry : t.entry? (place ++ (above ++ [name])) = some (.file bytes)) (hname : isSourceName name = true) :
      HasSource t directory (directory.below (above ++ [name]))

/-- what a path stands for: itself, or the source files below it in ascending order of their components -/
inductive FileTree.StandsFor (t : FileTree) (p : Path) : List Path → Prop
  | file (hfile : t.isDirectory p = false) : StandsFor t p [p]
  | directory (hdirectory : t.isDirectory p = true) {files : List Path} (hfiles : ∀ q, q ∈ files ↔ t.HasSource p q)
      (hsorted : files.Pairwise fun q r => q.components < r.components) : StandsFor t p files

namespace FileTree

section Below

variable {t : FileTree} (ht : t.Proper) {d p : Path} {place : List String}

include ht

/-- **The files below a place** are those that the tree has there. -/
theorem mem_filesBelow_iff {names : List String} :
    names ∈ t.filesBelow place ↔ ∃ bytes, t.entry? (place ++ names) = some (.file bytes) := by
  unfold filesBelow absolute
  rw [List.mem_filterMap]
  constructor
  · rintro ⟨⟨below, entry⟩, hmem, h⟩
    cases entry with
    | directory => cases h
    | file bytes =>
      simp only [Entry.isDirectory, Bool.not_false, Bool.true_and, Option.ite_none_right_eq_some, Option.some.injEq] at h
      obtain ⟨hplace, rfl⟩ := h
      obtain ⟨rest, hrest⟩ := List.isPrefixOf_iff_prefix.1 hplace
      rw [← hrest, List.drop_left, hrest]
      exact ⟨bytes, ht.entry?_eq_file_iff.2 ⟨below, rfl, hmem⟩⟩
  · rintro ⟨bytes, hentry⟩
    obtain ⟨below, heq, hmem⟩ := ht.entry?_eq_file_iff.1 hentry
    refine ⟨_, hmem, ?_⟩
    simp [Entry.isDirectory, ← heq]

theorem nodup_filesBelow (place : List String) : (t.filesBelow place).Nodup := by
  refine List.pairwise_filterMap.2 ((List.pairwise_map.1 ht.distinct).imp ?_)
  rintro ⟨below, entry⟩ ⟨below', entry'⟩ hne names h names' h' rfl
  simp only [absolute, Option.ite_none_right_eq_some, Bool.and_eq_true, Option.some.injEq] at h h'
  obtain ⟨rest, hrest⟩ := List.isPrefixOf_iff_prefix.1 h.1.2
  obtain ⟨rest', hrest'⟩ := List.isPrefixOf_iff_prefix.1 h'.1.2
  have hsame : rest = rest' := by
    have hdrop := h.2.trans h'.2.symm
    rwa [← hrest, ← hrest', List.drop_left, List.drop_left] at hdrop
  have hboth : t.base ++ below = t.base ++ below' := by rw [← hrest, ← hrest', hsame]
  exact hne (List.append_cancel_left hboth)

theorem mem_sourcesIn_iff : p ∈ t.sourcesIn d ↔ t.HasSource d p := by
  unfold sourcesIn
  constructor
  · intro h
    split at h
    · cases h
    · rename_i place hplace
      obtain ⟨names, hnames, rfl⟩ := List.mem_map.1 (Path.mem_sort_iff.1 h)
      obtain ⟨hbelow, hlast⟩ := List.mem_filter.1 hnames
      rcases List.eq_nil_or_concat' names with rfl | ⟨above, name, rfl⟩
      · cases hlast
      · obtain ⟨bytes, hentry⟩ := (mem_filesBelow_iff ht).1 hbelow
        rw [List.getLast?_concat] at hlast
        exact .below hplace hentry hlast
  · rintro ⟨hplace, hentry, hname⟩
    simp only [hplace]
    refine Path.mem_sort_iff.2 (List.mem_map_of_mem (List.mem_filter.2 ⟨(mem_filesBelow_iff ht).2 ⟨_, hentry⟩, ?_⟩))
    rw [List.getLast?_concat]
    exact hname

theorem pairwise_sourcesIn (d : Path) : (t.sourcesIn d).Pairwise fun p q => p.components < q.components := by
  unfold sourcesIn
  split
  · exact List.Pairwise.nil
  · refine Path.pairwise_sort ?_
    rw [List.map_map]
    refine ((nodup_filesBelow ht _).filter _).map fun names names' h => ?_
    rw [Function.comp_apply, Function.comp_apply, Path.components_below, Path.components_below] at h
    exact List.append_cancel_left h

theorem standsFor_expand (p : Path) : t.StandsFor p (t.expand p) := by
  unfold expand
  split
  · exact .directory ‹_› (fun q => mem_sourcesIn_iff ht) (pairwise_sourcesIn ht p)
  · exact .file (Bool.eq_false_iff.2 ‹_›)

/-- **A source file below a directory is no directory itself**: the way to it goes through the directory. -/
theorem HasSource.isDirectory (h : t.HasSource d p) : t.isDirectory p = false := by
  obtain ⟨hplace, hentry, -⟩ := h
  rename_i place above name bytes
  rw [Bool.eq_false_iff, Ne, isDirectory_iff, find_eq_ok_iff]
  rintro ⟨reached, hreached, hdirectory⟩
  have hwalk : t.walk place (above ++ [name]) = .ok reached := by
    unfold locate at hplace hreached
    split at hplace
    · cases hplace
    split at hreached
    · cases hreached
    · have hgo : t.walk (if d.root = "" then t.here else []) (d.names ++ (above ++ [name])) = .ok reached := hreached
      rw [walk_append, hplace] at hgo
      exact hgo
  have hnames : ∀ n ∈ above ++ [name], n ≠ ".." := fun n hn =>
    (ht.areEntryNames hentry n (List.mem_append_right _ hn)).ne_points
  rw [eq_append_of_walk hnames hwalk, hentry] at hdirectory
  cases hdirectory

theorem HasSource.proper (hd : d.Proper) (h : t.HasSource d p) : p.Proper := by
  obtain ⟨-, hentry, -⟩ := h
  exact hd.below fun n hn => ht.areEntryNames hentry n (List.mem_append_right _ hn)

end Below

/-! ## Main result -/

section Collect

variable {t : FileTree} {ps : List Path}

theorem sources_eq_ok (h : ∀ p ∈ ps, t.isTooLong p = false) : t.sources ps = .ok (t.collect ps) := by
  have hnone : ps.find? t.isTooLong = none :=
    List.find?_eq_none.2 fun p hp => by rw [h p hp]; exact Bool.false_ne_true
  unfold sources
  rw [hnone]

theorem mem_expand_iff (ht : t.Proper) {p q : Path} :
    q ∈ t.expand p ↔ q = p ∧ t.isDirectory p = false ∨ t.isDirectory p = true ∧ t.HasSource p q := by
  unfold expand
  cases t.isDirectory p with
  | true => simp [mem_sourcesIn_iff ht]
  | false => simp

/-- what is collected are paths that are no directories, and the source files below directories -/
theorem mem_collect_iff (ht : t.Proper) {q : Path} : q ∈ t.collect ps ↔
    q ∈ ps ∧ t.isDirectory q = false ∨ ∃ d ∈ ps, t.isDirectory d = true ∧ t.HasSource d q := by
  unfold collect
  rw [mem_firstAppearances_iff, List.mem_flatMap]
  constructor
  · rintro ⟨p, hp, hq⟩
    rcases (mem_expand_iff ht).1 hq with ⟨rfl, hfile⟩ | ⟨hdirectory, hsource⟩
    · exact Or.inl ⟨hp, hfile⟩
    · exact Or.inr ⟨p, hp, hdirectory, hsource⟩
  · rintro (⟨hq, hfile⟩ | ⟨d, hd, hdirectory, hsource⟩)
    · exact ⟨q, hq, (mem_expand_iff ht).2 (Or.inl ⟨rfl, hfile⟩)⟩
    · exact ⟨d, hd, (mem_expand_iff ht).2 (Or.inr ⟨hdirectory, hsource⟩)⟩

theorem isDirectory_of_mem_collect (ht : t.Proper) {q : Path} (hq : q ∈ t.collect ps) : t.isDirectory q = false := by
  rcases (mem_collect_iff ht).1 hq with ⟨-, hfile⟩ | ⟨d, -, -, hsource⟩
  · exact hfile
  · exact hsource.isDirectory ht

theorem proper_of_mem_collect (ht : t.Proper) (hps : ∀ p ∈ ps, p.Proper) {q : Path} (hq : q ∈ t.collect ps) : q.Proper := by
  rcases (mem_collect_iff ht).1 hq with ⟨hq, -⟩ | ⟨d, hd, -, hsource⟩
  · exact hps q hq
  · exact hsource.proper ht (hps d hd)

theorem collect_append (t : FileTree) (ps qs : List Path) :
    t.collect (ps ++ qs) = t.collect ps ++ (t.collect qs).filter (· ∉ t.collect ps) := by
  unfold collect
  rw [List.flatMap_append, firstAppearances_append]
  simp only [mem_firstAppearances_iff]

/-- files that were collected stand for themselves -/
theorem collect_collect (ht : t.Proper) : t.collect (t.collect ps) = t.collect ps := by
  have hself : (t.collect ps).flatMap t.expand = t.collect ps := by
    have hexpand : ∀ q ∈ t.collect ps, t.expand q = [q] := fun q hq => by
      unfold expand
      rw [isDirectory_of_mem_collect ht hq, if_neg Bool.false_ne_true]
    rw [List.flatMap_congr hexpand, List.flatMap_singleton']
  rw [collect, hself]
  exact firstAppearances_of_nodup (nodup_firstAppearances _)

end Collect

/--
**Which files some paths stand for.** If the disk can be asked for the paths, their files are collected. No two of them have
the same components; they are the paths that are no directories and the source files below those that are; and they stand in
the order in which they first appear where each path is replaced by what it stands for. More paths add what is not there yet,
and files that were collected are collected as they are.
-/
theorem collect_told {t : FileTree} (ht : t.Proper) {ps : List Path} (hps : ∀ p ∈ ps, p.Proper)
    (hasked : ∀ p ∈ ps, t.isTooLong p = false) :
    t.sources ps = .ok (t.collect ps) ∧
      ((t.collect ps).map Path.components).Nodup ∧
      (∀ q, q ∈ t.collect ps ↔
        q ∈ ps ∧ t.isDirectory q = false ∨ ∃ d ∈ ps, t.isDirectory d = true ∧ t.HasSource d q) ∧
      (∃ runs, List.Forall₂ t.StandsFor ps runs ∧
        (t.collect ps).Pairwise fun p q => runs.flatten.idxOf p < runs.flatten.idxOf q) ∧
      (∀ qs, (∀ q ∈ qs, t.isTooLong q = false) → ∃ more, t.sources qs = .ok more ∧
        t.sources (ps ++ qs) = .ok (t.collect ps ++ more.filter (· ∉ t.collect ps))) ∧
      t.collect (t.collect ps) = t.collect ps ∧
      ((∀ q ∈ t.collect ps, t.isTooLong q = false) → t.sources (t.collect ps) = .ok (t.collect ps)) := by
  refine ⟨sources_eq_ok hasked, ?_, fun q => mem_collect_iff ht, ⟨ps.map t.expand, ?_, ?_⟩, fun qs hqs => ?_,
    collect_collect ht, fun hcollected => ?_⟩
  · refine (nodup_firstAppearances _).map_on fun p hp q hq h => ?_
    exact (proper_of_mem_collect ht hps hp).eq_of_components (proper_of_mem_collect ht hps hq) h
  · exact List.forall₂_map_right_iff.2 (List.forall₂_same.2 fun p _ => standsFor_expand ht p)
  · exact pairwise_firstAppearances _
  · refine ⟨_, sources_eq_ok hqs, ?_⟩
    rw [sources_eq_ok (List.forall_mem_append.2 ⟨hasked, hqs⟩), collect_append]
  · rw [sources_eq_ok hcollected, collect_collect ht]

/-- a directory with a source file and a directory below it that has the name of one -/
def nestedTree : FileTree :=
  ((FileTree.empty ["w"]).addFile ["a", "x.vix"] []).addFile ["a", "b.vix", "y.vix"] []

/-- overlapping directories, a path written in two ways and a file that is missing -/
def mixedPaths : List Path := ["a/b.vix", "no.vix", "./a//x.vix", "a", "a/x.vix"].map .ofString

/-- each file is there once, where it comes first, and more paths add nothing that is there -/
theorem collect_told_mixed :
    nestedTree.Proper ∧ (∀ p ∈ mixedPaths, p.Proper) ∧ (∀ p ∈ mixedPaths, nestedTree.isTooLong p = false) ∧
      nestedTree.sources mixedPaths = .ok (["a/b.vix/y.vix", "no.vix", "a/x.vix"].map .ofString) ∧
      nestedTree.collect (nestedTree.collect mixedPaths) = nestedTree.collect mixedPaths ∧
      nestedTree.sources (mixedPaths ++ [.ofString "a"]) = nestedTree.sources mixedPaths := by
  have hproper : nestedTree.Proper :=
    ((FileTree.proper_empty (by decide)).addFile (by decide) (by decide) _).addFile (by decide) (by decide) _
  have hpaths : ∀ p ∈ mixedPaths, p.Proper := List.forall_mem_map.2 fun s _ => Path.proper_ofString s
  have hasked : ∀ p ∈ mixedPaths, nestedTree.isTooLong p = false := by decide +kernel
  have hmore : ∀ q ∈ [Path.ofString "a"], nestedTree.isTooLong q = false := by decide +kernel
  obtain ⟨hsources, -, -, -, happend, hself, -⟩ := collect_told hproper hpaths hasked
  have hinner : nestedTree.expand (.ofString "a/b.vix") = ["a/b.vix/y.vix"].map .ofString :=
    (if_pos (by decide +kernel)).trans (Path.sort_eq (by decide +kernel) (by decide +kernel))
  have houter : nestedTree.expand (.ofString "a") = ["a/b.vix/y.vix", "a/x.vix"].map .ofString :=
    (if_pos (by decide +kernel)).trans (Path.sort_eq (by decide +kernel) (by decide +kernel))
  have hothers : ∀ s ∈ ["no.vix", "./a//x.vix", "a/x.vix"], nestedTree.expand (.ofString s) = [.ofString s] := by
    decide +kernel
  have hfiles : nestedTree.collect mixedPaths = ["a/b.vix/y.vix", "no.vix", "a/x.vix"].map .ofString := by
    simp only [collect, mixedPaths, List.map_cons, List.map_nil, List.flatMap_cons, List.flatMap_nil, hinner, houter,
      hothers _ List.mem_cons_self, hothers _ (List.mem_cons_of_mem _ List.mem_cons_self),
      hothers _ (List.mem_cons_of_mem _ (List.mem_cons_of_mem _ List.mem_cons_self))]
    decide +kernel
  obtain ⟨more, hfirst, hboth⟩ := happend _ hmore
  have hthere : more.filter (· ∉ nestedTree.collect mixedPaths) = [] := by
    have hnone : nestedTree.collect [.ofString "a"] = more := Except.ok.inj ((sources_eq_ok hmore).symm.trans hfirst)
    rw [← hnone, hfiles, collect, List.flatMap_singleton, houter]
    decide +kernel
  rw [hthere, List.append_nil] at hboth
  exact ⟨hproper, hpaths, hasked, hfiles ▸ hsources, hself, hboth.trans hsources.symm⟩

end FileTree

end VixStyle
