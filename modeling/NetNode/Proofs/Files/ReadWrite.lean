import Mathlib
import NetNode.Files.Tree

/-!
# Reading what was written

A write that succeeds changes only the files: the directories and the working directory stay,
so every path resolves as it did (`Tree.resolve_of_dirs`), and the path written then names a
file that holds the bytes written (`Tree.read_write`).
-/

namespace NetNode.Files

open NetNode.Os

/-- A path names a directory exactly when the directory list holds it. -/
theorem Tree.entry?_eq_dir_iff (t : Tree) (cs : List String) :
    t.entry? cs = some .dir ↔ t.dirs.contains (join cs) = true := by
  unfold Tree.entry?
  dsimp only
  split_ifs with h
  · exact iff_of_true rfl h
  · refine iff_of_false ?_ h
    rw [Option.map_eq_some_iff]
    rintro ⟨f, -, hf⟩
    cases hf

/-- A walk that succeeds in one tree succeeds the same way in any tree with its directories. -/
theorem Tree.walk_of_dirs {t t' : Tree} (hdirs : t'.dirs = t.dirs) (cur cs : List String)
    {r : List String} (h : t.walk cur cs = .ok r) : t'.walk cur cs = .ok r := by
  induction cs generalizing cur with
  | nil => exact h
  | cons c rest ih =>
    unfold Tree.walk at h ⊢
    split_ifs at h ⊢ with hdot hup hlast
    · exact ih cur h
    · exact ih cur.dropLast h
    · exact h
    · -- an inner component: it names a directory in both trees
      dsimp only at h ⊢
      split at h
      · rename_i hdir
        have hdir' : t'.entry? (cur ++ [c]) = some .dir := by
          rw [Tree.entry?_eq_dir_iff, hdirs, ← Tree.entry?_eq_dir_iff]
          exact hdir
        rw [hdir']
        exact ih _ h
      · cases h
      · cases h

/-- Resolving a path that succeeds in one tree gives the same in any tree with its directories
and working directory. -/
theorem Tree.resolve_of_dirs {t t' : Tree} (hdirs : t'.dirs = t.dirs) (hcwd : t'.cwd = t.cwd)
    {path : String} {x : List String × Bool} (h : t.resolve path = .ok x) :
    t'.resolve path = .ok x := by
  unfold Tree.resolve at h ⊢
  dsimp only at h ⊢
  by_cases hempty : path.isEmpty = true
  · rw [if_pos hempty] at h
    cases h
  rw [if_neg hempty] at h ⊢
  rw [hcwd]
  cases hw : t.walk (if path.startsWith "/" = true then [] else parts t.cwd) (parts path) with
  | error e =>
    rw [hw] at h
    cases h
  | ok r =>
    rw [hw] at h
    rw [Tree.walk_of_dirs hdirs _ _ hw]
    exact h

/-- A path that resolves to a file, not asked to be a directory, is a file. -/
theorem Tree.stat_of_resolve {t : Tree} {path : String} {cs : List String} {b : ByteArray}
    (hr : t.resolve path = .ok (cs, false)) (he : t.entry? cs = some (.file b)) :
    t.stat path = .ok (.file b) := by
  simp [Tree.stat, hr, he, bind, Except.bind, pure, Except.pure]

/-- After a write succeeds, the path names a file that holds the bytes written. -/
theorem Tree.stat_write {t t' : Tree} {path : String} {bytes : ByteArray}
    (h : t.write path bytes = .ok t') : t'.stat path = .ok (.file bytes) := by
  unfold Tree.write at h
  cases hr : t.resolve path with
  | error e => simp [hr, bind, Except.bind] at h
  | ok x =>
    obtain ⟨cs, asksDir⟩ := x
    simp only [hr, bind, Except.bind] at h
    -- the write succeeds only on a name that is no directory and is not asked to be one
    have hput : asksDir = false ∧ t.entry? cs ≠ some .dir ∧
        t' = { t with files := (join cs, bytes) :: t.files.filter (·.1 != join cs) } := by
      split at h
      · cases h
      · split_ifs at h
        cases h
        simp_all
      · split_ifs at h
        cases h
        simp_all
    obtain ⟨rfl, hnotdir, rfl⟩ := hput
    have hdirs : join cs ∉ t.dirs := fun hd =>
      hnotdir ((Tree.entry?_eq_dir_iff t cs).mpr (by simpa using hd))
    refine Tree.stat_of_resolve (Tree.resolve_of_dirs (by rfl) (by rfl) hr) ?_
    simp [Tree.entry?, hdirs]

/-- After a write succeeds, the path exists and reads back the bytes written. -/
theorem Tree.read_write {t t' : Tree} {path : String} {bytes : ByteArray}
    (h : t.write path bytes = .ok t') : t'.exists path = true ∧ t'.read path = .ok bytes := by
  have hs := Tree.stat_write h
  exact ⟨by simp [Tree.exists, hs], by simp [Tree.read, hs, bind, Except.bind, pure, Except.pure]⟩

/-- The bytes of a text decode to that text. -/
theorem fromUTF8?_toUTF8 (s : String) : String.fromUTF8? s.toUTF8 = some s := by
  simp [String.fromUTF8?, String.toUTF8, String.fromUTF8, s.isValidUTF8]

end NetNode.Files
