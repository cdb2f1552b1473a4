import LooseRecords.CommandLine.Files
import Mathlib.Data.List.Basic

/-!
# Writing and reading files

A content that is put at a path is read from there, and what other paths lead to stays as it was,
except that directories may come to be.  A name is resolved by following directories only, and no
content is put in the place of a directory, so names keep leading to the same paths.
-/

namespace LooseRecords
namespace Files

open Text (Symbol)

variable {files : Files} {path other : Path} {content : List Symbol}

/-! ### What lies at a path -/

/-- Removing the entries of a path leaves those of the others. -/
theorem lookup_filter_ne (nodes : List (Path × Node)) (hne : other ≠ path) :
    (nodes.filter (·.1 != path)).lookup other = nodes.lookup other := by
  induction nodes with
  | nil => rfl
  | cons entry rest ih =>
    obtain ⟨key, node⟩ := entry
    by_cases hkey : key = path
    · have hother : (other == key) = false := beq_eq_false_iff_ne.2 (hkey ▸ hne)
      rw [List.filter_cons_of_neg (by simp [hkey]), List.lookup_cons, hother, ih]
    · rw [List.filter_cons_of_pos (by simp [hkey]), List.lookup_cons, List.lookup_cons, ih]

@[simp] theorem node?_put_self : (files.put path content).node? path = some (.file content) := by
  simp [node?, put]

theorem lookup_put_of_ne (hne : other ≠ path) :
    (files.put path content).nodes.lookup other = files.nodes.lookup other := by
  have hother : (other == path) = false := beq_eq_false_iff_ne.2 hne
  rw [put, List.lookup_cons, hother]
  exact lookup_filter_ne files.nodes hne

/-- What lay at another path still lies there. -/
theorem node?_put_of_ne {node : Node} (hne : other ≠ path) (h : files.node? other = some node) :
    (files.put path content).node? other = some node := by
  have hlookup : (files.put path content).nodes.lookup other = files.nodes.lookup other :=
    lookup_put_of_ne hne
  rw [node?, hlookup]
  rw [node?] at h
  cases hnode : files.nodes.lookup other with
  | some found =>
    rw [hnode] at h
    exact h
  | none =>
    rw [hnode] at h
    have hleads : (files.nodes.any fun entry => other.isPrefixOf entry.1) = true →
        ((files.put path content).nodes.any fun entry => other.isPrefixOf entry.1) = true := by
      intro hany
      obtain ⟨entry, hentry, hbegins⟩ := List.any_eq_true.1 hany
      rw [put, List.any_eq_true]
      -- An entry of `path` is replaced by one under the same path; all others are kept.
      by_cases hkey : entry.1 = path
      · exact ⟨_, List.mem_cons_self, hkey ▸ hbegins⟩
      · have hkept : entry ∈ files.nodes.filter (·.1 != path) :=
          List.mem_filter.2 ⟨hentry, bne_iff_ne.2 hkey⟩
        exact ⟨entry, List.mem_cons_of_mem _ hkept, hbegins⟩
    dsimp only at h ⊢
    split at h
    · next hthere =>
      have hstays : (((files.put path content).nodes.any fun entry => other.isPrefixOf entry.1) ||
          other.isPrefixOf (files.put path content).directory) = true := by
        rw [Bool.or_eq_true_iff] at hthere ⊢
        exact hthere.imp_left hleads
      rw [if_pos hstays]
      exact h
    · cases h

/-- Only the directories that lead to a path may come to be when a content is put there.  Where they
are there already, all that lies at other paths is as it was. -/
theorem node?_put_eq_of_ne (hway : ∀ p, p <+: path → p ≠ path → files.node? p ≠ none)
    (hne : other ≠ path) : (files.put path content).node? other = files.node? other := by
  cases hnode : files.node? other with
  | some node => exact node?_put_of_ne hne hnode
  | none =>
    have hno : ¬other <+: path := fun hbegins => hway other hbegins hne hnode
    rw [node?] at hnode
    rw [node?, lookup_put_of_ne hne]
    cases hlookup : files.nodes.lookup other with
    | some node =>
      rw [hlookup] at hnode
      cases hnode
    | none =>
      rw [hlookup] at hnode
      dsimp only at hnode ⊢
      split at hnode
      · cases hnode
      next hleads =>
      rw [Bool.or_eq_true_iff, not_or, List.any_eq_true] at hleads
      obtain ⟨hentries, hdirectory⟩ := hleads
      have hleads' : ¬(((files.put path content).nodes.any fun entry =>
          other.isPrefixOf entry.1) || other.isPrefixOf files.directory) = true := by
        rw [Bool.or_eq_true_iff, not_or, List.any_eq_true]
        refine ⟨?_, hdirectory⟩
        rintro ⟨entry, hentry, hbegins⟩
        rcases List.mem_cons.1 hentry with rfl | hkept
        · exact hno (List.isPrefixOf_iff_prefix.1 hbegins)
        · exact hentries ⟨entry, (List.mem_filter.1 hkept).1, hbegins⟩
      exact if_neg hleads'

/-- Of two contents that are put at one path the second stays. -/
theorem put_put {first : List Symbol} :
    (files.put path first).put path content = files.put path content := by
  simp [put]

/-! ### Where a name leads -/

/-- Steps that can be followed lead to the same place after a content was put where no directory
lies. -/
theorem follow_put (hpath : files.node? path ≠ some .directory) (steps : List (List Char)) :
    ∀ {start result : Path}, files.follow start steps = .ok result →
      (files.put path content).follow start steps = .ok result := by
  induction steps with
  | nil => exact fun h => h
  | cons name rest ih =>
    intro start result h
    rw [follow] at h ⊢
    split at h
    · cases h
    next hlength =>
    rw [if_neg hlength]
    split at h
    · next hlast =>
      rw [if_pos hlast]
      exact h
    next hmore =>
    rw [if_neg hmore]
    cases hnode : files.node? (step start name) with
    | none =>
      rw [hnode] at h
      cases h
    | some node =>
      rw [hnode] at h
      cases node with
      | file found => cases h
      | directory =>
        -- Only directories are passed on the way, so the way does not pass over `path`.
        have hne : step start name ≠ path := by
          rintro rfl
          exact hpath hnode
        rw [node?_put_of_ne hne hnode]
        exact ih h

theorem path_put {name : String} (hpath : files.node? path ≠ some .directory)
    (h : files.path name = .ok other) : (files.put path content).path name = .ok other := by
  rw [Files.path] at h ⊢
  split at h
  · cases h
  next hnul =>
  split at h
  · cases h
  next hempty =>
  split at h
  · cases h
  next hlong =>
  rw [if_neg hnul, if_neg hempty, if_neg hlong]
  exact follow_put hpath _ h

/-- After a step, what leads to the place was the way up to there, or part of it. -/
theorem node?_ne_none_of_prefix_step {start p : Path} {name : List Char}
    (hstart : ∀ p, p <+: start → files.node? p ≠ none) (hbegins : p <+: step start name)
    (hne : p ≠ step start name) : files.node? p ≠ none := by
  rw [step] at hbegins hne
  split at hbegins
  · have hback := List.dropLast_prefix start
    exact hstart p (hbegins.trans hback)
  next hname =>
  rw [if_neg hname] at hne
  rcases List.prefix_concat_iff.1 hbegins with heq | hbefore
  · exact absurd heq hne
  · exact hstart p hbefore

/-- All directories that lead to the place where a name leads are there. -/
theorem node?_ne_none_of_follow (steps : List (List Char)) : ∀ {start result : Path},
    (∀ p, p <+: start → files.node? p ≠ none) → files.follow start steps = .ok result →
      ∀ p, p <+: result → p ≠ result → files.node? p ≠ none := by
  induction steps with
  | nil =>
    intro start result hstart h p hbegins _
    cases h
    exact hstart p hbegins
  | cons name rest ih =>
    intro start result hstart h
    rw [follow] at h
    split at h
    · cases h
    split at h
    · cases h
      intro p hbegins hne
      exact node?_ne_none_of_prefix_step hstart hbegins hne
    · cases hnode : files.node? (step start name) with
      | none =>
        rw [hnode] at h
        cases h
      | some node =>
        rw [hnode] at h
        cases node with
        | file found => cases h
        | directory =>
          refine ih ?_ h
          intro p hbegins
          by_cases hend : p = step start name
          · rw [hend, hnode]
            exact Option.some_ne_none _
          · exact node?_ne_none_of_prefix_step hstart hbegins hend

theorem node?_ne_none_of_path {name : String} (h : files.path name = .ok path) :
    ∀ p, p <+: path → p ≠ path → files.node? p ≠ none := by
  -- A run can see the directory in which it takes place, and all above it.
  have hhere : ∀ p, p <+: files.directory → files.node? p ≠ none := by
    intro p hbegins
    have hthere : p.isPrefixOf files.directory = true := List.isPrefixOf_iff_prefix.2 hbegins
    rw [node?]
    cases files.nodes.lookup p with
    | some node => exact Option.some_ne_none _
    | none => simp [hthere]
  rw [Files.path] at h
  split at h
  · cases h
  split at h
  · cases h
  split at h
  · cases h
  refine node?_ne_none_of_follow (FileName.steps name) ?_ h
  split
  · intro p hbegins
    have hroot := List.nil_prefix (l := files.directory)
    exact hhere p (hbegins.trans hroot)
  · exact hhere

/-- A file can be written at a path if the name leads there, no directory lies there, and the name
does not ask for one. -/
theorem target_eq_ok_iff {name : String} : files.target name = .ok path ↔
    files.path name = .ok path ∧ files.node? path ≠ some .directory ∧
      FileName.endsInDirectory name = false := by
  constructor
  · intro h
    rw [target] at h
    cases hpath : files.path name with
    | error fault =>
      rw [hpath] at h
      cases h
    | ok found =>
      rw [hpath] at h
      simp only [bind, Except.bind] at h
      cases hnode : files.node? found with
      | none => cases hends : FileName.endsInDirectory name <;> simp_all
      | some node => cases node <;> cases hends : FileName.endsInDirectory name <;> simp_all
  · rintro ⟨hpath, hnode, hends⟩
    rw [target, hpath, hends]
    simp only [bind, Except.bind]
    split
    · next hdirectory => exact absurd hdirectory hnode
    · rfl
    · rfl

/-! ### Reading after writing -/

/-- A content that was put where a name leads is read under that name. -/
theorem read_put_self {name : String} (h : files.target name = .ok path) :
    (files.put path content).read name = .ok content := by
  obtain ⟨hpath, hnode, hends⟩ := target_eq_ok_iff.1 h
  rw [read, path_put hnode hpath]
  simp [bind, Except.bind, hends]

/-- A file that lies elsewhere is read as before. -/
theorem read_put_of_ne {name : String} {found : List Symbol}
    (hpath : files.node? path ≠ some .directory) (hne : files.path name ≠ .ok path)
    (h : files.read name = .ok found) : (files.put path content).read name = .ok found := by
  rw [read] at h ⊢
  cases hother : files.path name with
  | error fault =>
    rw [hother] at h
    cases h
  | ok other =>
    have hdiffers : other ≠ path := fun heq => hne (hother.trans (congrArg _ heq))
    rw [hother] at h
    rw [path_put hpath hother]
    simp only [bind, Except.bind] at h ⊢
    cases hnode : files.node? other with
    | none =>
      rw [hnode] at h
      cases h
    | some node =>
      rw [hnode] at h
      rw [node?_put_of_ne hdiffers hnode]
      exact h

end Files
end LooseRecords
