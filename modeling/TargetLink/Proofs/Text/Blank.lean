import TargetLink.Text.Blank

/-!
# Text without the blanks around it

Every text has exactly one part that neither begins nor ends with a blank and has nothing but blanks around
it, and trimming finds this part.
-/

namespace TargetLink

variable {cs core front back : List Char}

/-- The characters are `core` with blanks around it, and `core` has no blank at either end. -/
structure Trims (cs core : List Char) : Prop where
  around : ∃ front back, cs = front ++ core ++ back ∧ ∀ c ∈ front ++ back, isBlank c = true
  first : ∀ c ∈ core.head?, isBlank c = false
  last : ∀ c ∈ core.getLast?, isBlank c = false

theorem dropWhile_isBlank_append (hfront : ∀ c ∈ front, isBlank c = true)
    (hfirst : ∀ c ∈ core.head?, isBlank c = false) : (front ++ core).dropWhile isBlank = core := by
  rw [List.dropWhile_append_of_pos hfront]
  cases core with
  | nil => rfl
  | cons c core => rw [List.dropWhile_cons_of_neg (by simp [hfirst c rfl])]

theorem Trims.trimBlank_eq (h : Trims cs core) : trimBlank cs = core := by
  obtain ⟨front, back, rfl, hblank⟩ := h.around
  have hfront : ∀ c ∈ front, isBlank c = true := fun c hc => hblank c (List.mem_append_left _ hc)
  have hback : ∀ c ∈ back, isBlank c = true := fun c hc => hblank c (List.mem_append_right _ hc)
  have hlast : ∀ c ∈ core.reverse.head?, isBlank c = false := by
    rw [List.head?_reverse]
    exact h.last
  cases hcore : core with
  | nil =>
    -- Here all of the text is dropped from the front, and nothing is left for the other end.
    have hall : (front ++ back).dropWhile isBlank = [] := by
      have hnil : ∀ c ∈ ([] : List Char).head?, isBlank c = false := by simp
      simpa using dropWhile_isBlank_append hblank hnil
    simp [trimBlank, hall]
  | cons c rest =>
    have hfirst : ∀ c' ∈ (core ++ back).head?, isBlank c' = false := by
      intro c' hc'
      apply h.first
      rw [hcore] at hc' ⊢
      exact hc'
    have hdrop : (front ++ core ++ back).dropWhile isBlank = core ++ back := by
      rw [List.append_assoc]
      exact dropWhile_isBlank_append hfront hfirst
    have hdrop' : (back.reverse ++ core.reverse).dropWhile isBlank = core.reverse :=
      dropWhile_isBlank_append (by simpa using hback) hlast
    rw [← hcore, trimBlank, hdrop, List.reverse_append, hdrop', List.reverse_reverse]

/-- What is dropped from the front of a list are blanks, and what is left does not begin with one. -/
theorem exists_dropWhile_isBlank (cs : List Char) : ∃ front, cs = front ++ cs.dropWhile isBlank ∧
    (∀ c ∈ front, isBlank c = true) ∧ ∀ c ∈ (cs.dropWhile isBlank).head?, isBlank c = false := by
  refine ⟨cs.takeWhile isBlank, List.takeWhile_append_dropWhile.symm, ?_, ?_⟩
  · intro c hc
    exact List.all_eq_true.1 List.all_takeWhile c hc
  · intro c hc
    have hfirst := List.head?_dropWhile_not isBlank cs
    rw [Option.mem_def.1 hc] at hfirst
    simpa using hfirst

theorem trims_trimBlank (cs : List Char) : Trims cs (trimBlank cs) := by
  obtain ⟨front, hcs, hfront, hfirst⟩ := exists_dropWhile_isBlank cs
  obtain ⟨back, hrest, hback, hlast⟩ := exists_dropWhile_isBlank (cs.dropWhile isBlank).reverse
  have hmid : cs.dropWhile isBlank = trimBlank cs ++ back.reverse := by
    have hrev := congrArg List.reverse hrest
    rw [List.reverse_reverse, List.reverse_append] at hrev
    exact hrev
  refine ⟨⟨front, back.reverse, ?_, ?_⟩, ?_, ?_⟩
  · rw [List.append_assoc, ← hmid, ← hcs]
  · intro c hc
    rcases List.mem_append.1 hc with hc | hc
    · exact hfront c hc
    · exact hback c (List.mem_reverse.1 hc)
  · intro c hc
    apply hfirst
    rw [hmid, List.head?_append, Option.mem_def.1 hc]
    rfl
  · rw [trimBlank, List.getLast?_reverse]
    exact hlast

end TargetLink
