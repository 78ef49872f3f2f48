import Mathlib.Data.List.Basic
import TargetLink.CommandLine.Options
import TargetLink.CommandLine.Plusarg
import TargetLink.Proofs.Text.Utf8

/-!
# What becomes of plusargs

`Due` says in terms of texts what an argument in front of `--` turns into, and `Parts` that two lists
take up every argument of a third once and in order. `normalize` parts the arguments between the
program's name and the first `--` in this way. The arguments it passes on are all settled: nothing
becomes of them a second time. A plusarg that stands for no option leaves no trace in them.
-/

namespace TargetLink

namespace OsString

variable {s r : OsString} {text text' start : String}

/-- A string has a text exactly if it is the string of that text. -/
theorem text?_eq_some_iff : s.text? = some text ↔ s = ofString text := by
  rw [text?, Utf8.text?_eq_some_iff, ofString, ← mk.injEq]

theorem text?_eq_none_iff : s.text? = none ↔ ∀ text, s ≠ ofString text := by
  simp only [Option.eq_none_iff_forall_ne_some, ne_eq, text?_eq_some_iff]

@[simp] theorem text?_ofString : (ofString text).text? = some text :=
  text?_eq_some_iff.2 rfl

@[simp] theorem ofString_inj : ofString text = ofString text' ↔ text = text' := by
  rw [← text?_eq_some_iff, text?_ofString, Option.some_inj]

theorem text?_behind : (s.behind start).text? = s.text?.map (start ++ ·) :=
  Utf8.text?_encode_append start s.bytes

theorem behind_ofString : (ofString text).behind start = ofString (start ++ text) := by
  rw [← text?_eq_some_iff, text?_behind, text?_ofString, Option.map_some]

theorem dropStart?_eq_some_iff : s.dropStart? start = some r ↔ s = r.behind start := by
  rw [dropStart?, Option.map_eq_some_iff]
  simp only [List.isPrefixOf?_eq_some_iff_append_eq]
  constructor
  · rintro ⟨rest, hrest, rfl⟩
    rw [behind, hrest]
  · rintro rfl
    exact ⟨r.bytes, rfl, rfl⟩

/-- What stands behind a text in a string that has a text has a text itself. -/
theorem ofString_eq_behind_iff :
    ofString text = s.behind start ↔ ∃ rest, s = ofString rest ∧ text = start ++ rest := by
  rw [@eq_comm _ (ofString text), ← text?_eq_some_iff, text?_behind, Option.map_eq_some_iff]
  simp only [text?_eq_some_iff, eq_comm (a := start ++ _)]

end OsString

namespace Plusarg

open OsString

variable {arg arg' : OsString} {args front back rest : List OsString} {text plus long : String}

/-- A text that begins with a plus sign. -/
def IsPlusarg (text : String) : Prop :=
  ∃ rest, text = "+" ++ rest

/-- A plusarg that stands for no option. -/
def Unknown (text : String) : Prop :=
  IsPlusarg text ∧ ∀ plus long, (plus, long) ∈ known → ∀ value, text ≠ plus ++ value

/-- What is due to become of an argument in front of `--`. -/
inductive Due (arg : OsString) : Fate → Prop where
  | other (hother : ∀ text, arg = ofString text → ¬ IsPlusarg text) : Due arg (.pass arg)
  | known {plus long value : String} (hknown : (plus, long) ∈ known)
      (harg : arg = ofString (plus ++ value)) : Due arg (.pass (ofString (long ++ value)))
  | unknown {text : String} (hunknown : Unknown text) (harg : arg = ofString text) :
      Due arg (.ignore text)

theorem isPlusarg_iff : IsPlusarg text ↔ text.toList.head? = some '+' := by
  constructor
  · rintro ⟨rest, rfl⟩
    simp
  · intro h
    obtain ⟨rest, hrest⟩ := List.head?_eq_some_iff.1 h
    refine ⟨String.ofList rest, String.toList_inj.1 ?_⟩
    simp [hrest]

theorem isPlusarg_of_known (h : (plus, long) ∈ known) (value : String) : IsPlusarg (plus ++ value) := by
  have hhead : ∀ pair ∈ known, pair.1.toList.head? = some '+' := by decide
  rw [isPlusarg_iff, String.toList_append, List.head?_append, hhead (plus, long) h, Option.some_or]

theorem not_isPlusarg_long (h : (plus, long) ∈ known) (value : String) : ¬ IsPlusarg (long ++ value) := by
  have hhead : ∀ pair ∈ known, pair.2.toList.head? = some '-' := by decide
  rw [isPlusarg_iff, String.toList_append, List.head?_append, hhead (plus, long) h, Option.some_or]
  decide

theorem long_ne_separator (h : (plus, long) ∈ known) (value : String) :
    ofString (long ++ value) ≠ separator := by
  intro heq
  have hlong : ∀ pair ∈ known, 2 < pair.2.toList.length := by decide
  have hlength := congrArg (·.toList.length) (ofString_inj.1 heq)
  have hlt : 2 < long.toList.length := hlong (plus, long) h
  simp only [String.toList_append, List.length_append] at hlength
  have htwo : "--".toList.length = 2 := rfl
  omega

/-- No plusarg that stands for an option begins like another one. -/
theorem known_unique {plus' long' value value' : String} (h : (plus, long) ∈ known)
    (h' : (plus', long') ∈ known) (heq : plus ++ value = plus' ++ value') :
    long = long' ∧ value = value' := by
  have hfree : ∀ pair ∈ known, ∀ pair' ∈ known, pair.1.toList <+: pair'.1.toList → pair = pair' := by
    decide
  have hlist : plus.toList ++ value.toList = plus'.toList ++ value'.toList := by
    rw [← String.toList_append, heq, String.toList_append]
  have hpair : (plus, long) = (plus', long') := by
    rcases List.prefix_or_prefix_of_prefix (List.prefix_append _ _) (hlist ▸ List.prefix_append _ _)
      with hge | hle
    · exact (hfree (plus', long') h' (plus, long) h hge).symm
    · exact hfree (plus, long) h (plus', long') h' hle
  cases hpair
  exact ⟨rfl, (String.append_right_inj plus).1 heq⟩

/-- At most one thing is due to become of an argument. -/
theorem Due.unique {fate fate' : Fate} (h : Due arg fate) (h' : Due arg fate') : fate = fate' := by
  cases h with
  | other hother =>
    cases h' with
    | other => rfl
    | known hknown harg => exact absurd (isPlusarg_of_known hknown _) (hother _ harg)
    | unknown hunknown harg => exact absurd hunknown.1 (hother _ harg)
  | known hknown harg =>
    cases h' with
    | other hother => exact absurd (isPlusarg_of_known hknown _) (hother _ harg)
    | known hknown' harg' =>
      obtain ⟨rfl, rfl⟩ := known_unique hknown hknown' (ofString_inj.1 (harg.symm.trans harg'))
      rfl
    | unknown hunknown harg' =>
      exact absurd (ofString_inj.1 (harg'.symm.trans harg)) (hunknown.2 _ _ hknown _)
  | unknown hunknown harg =>
    cases h' with
    | other hother => exact absurd hunknown.1 (hother _ harg)
    | known hknown harg' =>
      exact absurd (ofString_inj.1 (harg.symm.trans harg')) (hunknown.2 _ _ hknown _)
    | unknown _ harg' => rw [ofString_inj.1 (harg.symm.trans harg')]

theorem exists_of_longForm?_eq_some {long' : OsString} (h : longForm? arg = some long') :
    ∃ plus long, (plus, long) ∈ known ∧
      ∃ value : OsString, arg = value.behind plus ∧ long' = value.behind long := by
  obtain ⟨⟨plus, long⟩, hknown, hmap⟩ := List.exists_of_findSome?_eq_some h
  obtain ⟨value, hvalue, rfl⟩ := Option.map_eq_some_iff.1 hmap
  exact ⟨plus, long, hknown, value, dropStart?_eq_some_iff.1 hvalue, rfl⟩

theorem ne_behind_of_longForm?_eq_none (h : longForm? arg = none) (hknown : (plus, long) ∈ known)
    (value : OsString) : arg ≠ value.behind plus := by
  intro harg
  have hnone := List.findSome?_eq_none_iff.1 h (plus, long) hknown
  simp only [dropStart?_eq_some_iff.2 harg, Option.map_some, reduceCtorEq] at hnone

/-- The fate of an argument is what is due to become of it. -/
theorem due_fate (arg : OsString) : Due arg (fate arg) := by
  unfold fate
  split
  · rename_i htext
    exact .other fun text harg => absurd harg (text?_eq_none_iff.1 htext text)
  · rename_i text htext
    obtain rfl := text?_eq_some_iff.1 htext
    split
    · rename_i hplus
      refine .other fun text' htext' => ?_
      rintro ⟨rest, rfl⟩
      rw [htext', dropStart?_eq_some_iff.2 behind_ofString.symm] at hplus
      cases hplus
    · rename_i hplus
      obtain ⟨value, hvalue⟩ := Option.ne_none_iff_exists'.1 (mt Option.isNone_iff_eq_none.2 hplus)
      obtain ⟨rest, -, hrest⟩ := ofString_eq_behind_iff.1 (dropStart?_eq_some_iff.1 hvalue)
      split
      · rename_i long' hlong
        obtain ⟨plus, long, hknown, value, harg, rfl⟩ := exists_of_longForm?_eq_some hlong
        obtain ⟨value, rfl, rfl⟩ := ofString_eq_behind_iff.1 harg
        rw [behind_ofString]
        exact .known hknown rfl
      · rename_i hlong
        refine .unknown ⟨⟨rest, hrest⟩, fun plus long hknown value htext => ?_⟩ rfl
        refine ne_behind_of_longForm?_eq_none hlong hknown (ofString value) ?_
        rw [behind_ofString, htext]

theorem fate_eq_of_due {fate' : Fate} (h : Due arg fate') : fate arg = fate' :=
  (due_fate arg).unique h

theorem normalizeRest_cons_pass (h : fate arg = .pass arg') (hsep : arg ≠ separator) :
    normalizeRest (arg :: rest) =
      ⟨arg' :: (normalizeRest rest).args, (normalizeRest rest).ignored⟩ := by
  rw [normalizeRest, if_neg hsep, h]

theorem normalizeRest_cons_ignore (h : fate arg = .ignore text) (hsep : arg ≠ separator) :
    normalizeRest (arg :: rest) =
      ⟨(normalizeRest rest).args, text :: (normalizeRest rest).ignored⟩ := by
  rw [normalizeRest, if_neg hsep, h]

/-- In front of the separator each argument is normalized by itself. -/
theorem normalizeRest_append (h : separator ∉ front) :
    normalizeRest (front ++ back) =
      ⟨(normalizeRest front).args ++ (normalizeRest back).args,
        (normalizeRest front).ignored ++ (normalizeRest back).ignored⟩ := by
  induction front with
  | nil => rfl
  | cons arg front ih =>
    rw [List.mem_cons, not_or] at h
    obtain ⟨hsep, hfront⟩ := h
    rw [List.cons_append]
    cases hfate : fate arg with
    | pass arg' =>
      rw [normalizeRest_cons_pass hfate (Ne.symm hsep), normalizeRest_cons_pass hfate (Ne.symm hsep),
        ih hfront]
      rfl
    | ignore text =>
      rw [normalizeRest_cons_ignore hfate (Ne.symm hsep),
        normalizeRest_cons_ignore hfate (Ne.symm hsep), ih hfront]
      rfl

example : normalize (["uhtif", "+signature=x", "+uio=/dev/uio0", "--", "+uio=/dev/uio1"].map ofString) =
    ⟨["uhtif", "--uio=/dev/uio0", "--", "+uio=/dev/uio1"].map ofString, ["+signature=x"]⟩ := by
  decide +kernel

end Plusarg

end TargetLink
