/-
What comes of a file, apart from what is logged on the way.

A file with a text has the outcome of that text (`value_lintFile`). A run over paths goes through files one by one, so each
of its results is that of one file (`mem_lintPaths`), and each report in it is that on some text (`lint_of_lintPaths`).
-/
import Mathlib.Tactic
import VixStyle.FileLint

namespace VixStyle

variable {t : FileTree} {o : Options} {rules : List Rule}

/-- **The outcome of a file is that of its text.** -/
theorem value_lintFile [Machine] {p : Path} {text : List Char} (h : t.readText p = .ok text) :
    (lintFile t o rules p).value =
      ((lint text o rules).mapError .lint).map fun report => ⟨p, .linted (Source.ofText text) report⟩ := by
  unfold lintFile lint
  rw [h]
  dsimp only
  cases lintSource (Source.ofText text) o rules <;> rfl

/-- a report on a file is the report on some text -/
theorem lint_of_lintFile [Machine] {p : Path} {r : FileResult} (h : (lintFile t o rules p).value = .ok r)
    {report : Report} (hr : r.report? = some report) : ∃ text, lint text o rules = .ok report := by
  cases htext : t.readText p with
  | error fault =>
    unfold lintFile at h
    rw [htext] at h
    cases fault with
    | nulInPath => cases h
    | disk fault =>
      obtain rfl := Except.ok.inj h
      cases hr
    | undecodable fault =>
      obtain rfl := Except.ok.inj h
      cases hr
  | ok text =>
    rw [value_lintFile htext] at h
    refine ⟨text, ?_⟩
    cases hlint : lint text o rules with
    | error fault =>
      rw [hlint] at h
      cases h
    | ok found =>
      rw [hlint] at h
      obtain rfl := Except.ok.inj h
      obtain rfl := Option.some.inj hr
      rfl

/-- files are gone through one by one -/
theorem mem_lintEach [Machine] {files : List Path} {results : List FileResult}
    (h : (lintEach t o rules files).value = .ok results) :
    ∀ r ∈ results, ∃ p ∈ files, (lintFile t o rules p).value = .ok r := by
  induction files generalizing results with
  | nil =>
    obtain rfl := Except.ok.inj h
    exact fun r hr => absurd hr List.not_mem_nil
  | cons p files ih =>
    rw [lintEach, Logged.value_bind] at h
    cases hfile : (lintFile t o rules p).value with
    | error fault =>
      rw [hfile] at h
      cases h
    | ok first =>
      rw [hfile] at h
      dsimp only at h
      rw [Logged.value_bind] at h
      cases hmore : (lintEach t o rules files).value with
      | error fault =>
        rw [hmore] at h
        cases h
      | ok later =>
        rw [hmore] at h
        obtain rfl := Except.ok.inj h
        intro r hr
        rcases List.mem_cons.1 hr with rfl | hr
        · exact ⟨p, List.mem_cons_self, hfile⟩
        · obtain ⟨q, hq, hrun⟩ := ih hmore r hr
          exact ⟨q, List.mem_cons_of_mem p hq, hrun⟩

/-- **Each result of a run over paths is that of one file.** -/
theorem mem_lintPaths [Machine] {jobs : Int} {paths : List Path} {results : List FileResult}
    (h : (lintPaths t o rules jobs paths).value = .ok results) :
    ∀ r ∈ results, ∃ p, (lintFile t o rules p).value = .ok r := by
  unfold lintPaths at h
  split at h
  · cases h
  cases hfiles : t.sources paths with
  | error p =>
    rw [hfiles] at h
    cases h
  | ok files =>
    rw [hfiles] at h
    simp only [Logged.value_bind] at h
    cases hrun : (lintEach t o rules files).value with
    | error fault =>
      rw [hrun] at h
      cases h
    | ok found =>
      rw [hrun] at h
      obtain rfl := Except.ok.inj h
      intro r hr
      obtain ⟨p, -, hp⟩ := mem_lintEach hrun r hr
      exact ⟨p, hp⟩

theorem lint_of_lintPaths [Machine] {jobs : Int} {paths : List Path} {results : List FileResult}
    (h : (lintPaths t o rules jobs paths).value = .ok results) {r : FileResult} (hr : r ∈ results) {report : Report}
    (hreport : r.report? = some report) : ∃ text, lint text o rules = .ok report := by
  obtain ⟨p, hp⟩ := mem_lintPaths h r hr
  exact lint_of_lintFile hp hreport

end VixStyle
