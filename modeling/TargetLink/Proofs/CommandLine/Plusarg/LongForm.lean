import Mathlib.Data.List.Basic
import TargetLink.CommandLine.Options
import TargetLink.CommandLine.Plusarg
import TargetLink.Proofs.CommandLine.Plusarg

/-!
# Plusargs in place of long options

A plusarg that stands for an option reads as the long option exactly if its value is a text. Behind
any other value the argument is no plusarg, and it goes on under its own name to the reading of the
command line, where it is no option either.
-/

namespace TargetLink

namespace Plusarg

open OsString

variable {arg arg' value : OsString} {front back : List OsString} {plus long : String}

/-- A command line with `arg` among the arguments. -/
def commandLine (program : OsString) (front : List OsString) (arg : OsString)
    (back : List OsString) : List OsString :=
  program :: front ++ arg :: back

theorem behind_plus_ne_separator (h : (plus, long) ∈ known) (value : OsString) :
    value.behind plus ≠ separator := by
  intro heq
  obtain ⟨rest, -, hrest⟩ := ofString_eq_behind_iff.1 heq.symm
  have hplus : IsPlusarg "--" := hrest ▸ isPlusarg_of_known h rest
  rw [isPlusarg_iff] at hplus
  exact absurd hplus (by decide)

theorem behind_long_ne_separator (h : (plus, long) ∈ known) (value : OsString) :
    value.behind long ≠ separator := by
  intro heq
  obtain ⟨rest, -, hrest⟩ := ofString_eq_behind_iff.1 heq.symm
  exact long_ne_separator h rest (ofString_inj.2 hrest.symm)

theorem fate_long (h : (plus, long) ∈ known) (value : OsString) :
    fate (value.behind long) = .pass (value.behind long) := by
  refine fate_eq_of_due (.other fun text htext => ?_)
  obtain ⟨rest, -, rfl⟩ := ofString_eq_behind_iff.1 htext.symm
  exact not_isPlusarg_long h rest

theorem fate_plus_of_text (h : (plus, long) ∈ known) (text : String) :
    fate ((ofString text).behind plus) = .pass ((ofString text).behind long) := by
  rw [behind_ofString, behind_ofString]
  exact fate_eq_of_due (.known h rfl)

theorem fate_plus_of_not_text (hvalue : value.text? = none) :
    fate (value.behind plus) = .pass (value.behind plus) := by
  refine fate_eq_of_due (.other fun text htext => ?_)
  obtain ⟨rest, rfl, -⟩ := ofString_eq_behind_iff.1 htext.symm
  rw [text?_ofString] at hvalue
  cases hvalue

theorem normalize_commandLine (program : OsString) (back : List OsString)
    (hfate : fate arg = .pass arg') (hsep : arg ≠ separator) (hfront : separator ∉ front) :
    normalize (commandLine program front arg back) =
      ⟨commandLine program (normalizeRest front).args arg' (normalizeRest back).args,
        (normalizeRest front).ignored ++ (normalizeRest back).ignored⟩ := by
  rw [commandLine, List.cons_append, normalize, normalizeRest_append hfront,
    normalizeRest_cons_pass hfate hsep]
  rfl

theorem behind_plus_ne_behind_long (h : (plus, long) ∈ known) :
    value.behind plus ≠ value.behind long := by
  have hne : ∀ pair ∈ known, Utf8.encode pair.1 ≠ Utf8.encode pair.2 := by decide
  intro heq
  rw [behind, behind, mk.injEq, List.append_cancel_right_eq] at heq
  exact hne _ h heq

/-! ### Reading the device -/

/-- A plusarg that is no text is read as the payload, and refused as such. -/
theorem ofArgs_plus_of_not_text (program : OsString) (h : (plus, long) ∈ known)
    (hvalue : value.text? = none) :
    Options.ofArgs [program, value.behind plus] = .error .invalidUtf8 := by
  have hform : Argument.ofOsString (value.behind plus) = .plain (value.behind plus) := by
    have hforms : ∀ pair ∈ known, ∀ value : OsString,
        Argument.ofOsString (value.behind pair.1) = .plain (value.behind pair.1) := by
      simp only [known, List.forall_mem_cons]
      exact ⟨fun _ => rfl, fun _ => rfl, fun _ => rfl, fun _ h => nomatch h⟩
    exact hforms _ h value
  have hset : ({} : Options.Given).set .payload (value.behind plus) = .error .invalidUtf8 := by
    rw [Options.Given.set, Options.Given.readPayload, text?_behind, hvalue]
    rfl
  have hfinish (name : String) :
      Options.Reading.finish { program := name } [value.behind plus] = .error .invalidUtf8 := by
    rw [Options.Reading.finish, hform]
    have hplain : Options.Reading.plain { program := name } (value.behind plus) =
        .ok { program := name, pending := some ⟨.payload, some (value.behind plus)⟩ } := rfl
    simp only [hplain]
    change (Options.Reading.mk name {} (some ⟨.payload, some (value.behind plus)⟩)).settle = _
    simp only [Options.Reading.settle, Options.Given.settle, hset]
    rfl
  rw [Options.ofArgs, List.tail_cons, hfinish]
  rfl

theorem ofArgs_uio (program : OsString) (hvalue : value.bytes ≠ []) :
    Options.ofArgs [program, value.behind "--uio="] =
      .ok ({ device := some value } : Options.Given).options := by
  have hform : Argument.ofOsString (value.behind "--uio=") = .long (ofString "uio") (some value) := rfl
  have hflag : (some "uio").bind Flag.ofName? = none := rfl
  have hparam : (some "uio").bind Param.ofName? = some .device := rfl
  rw [Options.ofArgs, List.tail_cons, Options.Reading.finish, hform]
  simp only [Options.Reading.long, text?_ofString, hflag, hparam, Options.Reading.settle,
    Options.Given.settle, Options.Given.set, Options.Given.has, if_neg hvalue]
  rfl

/-- A device whose path is no text is mapped when the long option names it, and is taken for the
payload when the plusarg does. -/
theorem parse_uio_of_not_text (program : OsString) (hvalue : ∀ text, value ≠ ofString text) :
    Options.parse [program, value.behind "+uio="] = .error .invalidUtf8 ∧
    Options.parse [program, value.behind "--uio="] =
      .ok (({ device := some value } : Options.Given).options, []) := by
  have hknown : ("+uio=", "--uio=") ∈ known := by decide
  have hplus : normalize [program, value.behind "+uio="] = _ :=
    normalize_commandLine program [] (fate_plus_of_not_text (text?_eq_none_iff.2 hvalue))
      (behind_plus_ne_separator hknown value) List.not_mem_nil
  have hlong : normalize [program, value.behind "--uio="] = _ :=
    normalize_commandLine program [] (fate_long hknown value)
      (behind_long_ne_separator hknown value) List.not_mem_nil
  constructor
  · have hargs := ofArgs_plus_of_not_text program hknown (text?_eq_none_iff.2 hvalue)
    rw [Options.parse, Options.parseWith, hplus]
    simp only [commandLine, normalizeRest, List.nil_append, List.cons_append, hargs]
    rfl
  · have hempty : value.bytes ≠ [] := by
      intro h
      refine hvalue "" ?_
      cases value
      exact congrArg mk h
    rw [Options.parse, Options.parseWith, hlong]
    simp only [commandLine, normalizeRest, List.nil_append, List.cons_append, ofArgs_uio program hempty]
    rfl

/-- The long option takes the place of its plusarg exactly if the value is a text, and then any parser makes
the same of both command lines. Behind any other value the plusarg stays in its place as it is. -/
theorem long_option_in_place_iff (program value : OsString) (front back : List OsString)
    (plus long : String) (hknown : (plus, long) ∈ known) (hfront : separator ∉ front) :
    (normalize (commandLine program front (value.behind plus) back) =
        normalize (commandLine program front (value.behind long) back) ↔
      ∃ text, value = ofString text) ∧
    ((∃ text, value = ofString text) → ∀ {ε α : Type} (parser : List OsString → Except ε α),
      Options.parseWith parser (commandLine program front (value.behind plus) back) =
        Options.parseWith parser (commandLine program front (value.behind long) back)) ∧
    ((∀ text, value ≠ ofString text) → ∃ front' back' ignored,
      normalize (commandLine program front (value.behind plus) back) =
        ⟨commandLine program front' (value.behind plus) back', ignored⟩ ∧
      normalize (commandLine program front (value.behind long) back) =
        ⟨commandLine program front' (value.behind long) back', ignored⟩) := by
  have hlong := normalize_commandLine program back (fate_long hknown value)
    (behind_long_ne_separator hknown value) hfront
  have hplus {arg' : OsString} (hfate : fate (value.behind plus) = .pass arg') :=
    normalize_commandLine program back hfate (behind_plus_ne_separator hknown value) hfront
  have htext (h : ∃ text, value = ofString text) :
      normalize (commandLine program front (value.behind plus) back) =
        normalize (commandLine program front (value.behind long) back) := by
    obtain ⟨text, rfl⟩ := h
    rw [hplus (fate_plus_of_text hknown text), hlong]
  refine ⟨⟨fun heq => ?_, htext⟩, fun h _ _ parser => ?_, fun h => ?_⟩
  · by_contra hvalue
    rw [not_exists] at hvalue
    rw [hplus (fate_plus_of_not_text (text?_eq_none_iff.2 hvalue)), hlong] at heq
    have hargs := (Normalized.mk.inj heq).1
    rw [commandLine, commandLine, List.append_cancel_left_eq] at hargs
    exact behind_plus_ne_behind_long hknown (List.cons.inj hargs).1
  · rw [Options.parseWith, Options.parseWith, htext h]
  · exact ⟨_, _, _, hplus (fate_plus_of_not_text (text?_eq_none_iff.2 h)), hlong⟩

/-- Paths on disk need not be texts: a slash and a byte that no text has. -/
theorem long_option_not_in_place :
    ("+uio=", "--uio=") ∈ known ∧ separator ∉ [ofString "-v"] ∧
    (∀ text, OsString.mk [0x2F, 0xFF] ≠ ofString text) ∧
    normalize (commandLine (ofString "uhtif") [ofString "-v"]
        ((OsString.mk [0x2F, 0xFF]).behind "+uio=") []) ≠
      normalize (commandLine (ofString "uhtif") [ofString "-v"]
        ((OsString.mk [0x2F, 0xFF]).behind "--uio=") []) := by
  have hknown : ("+uio=", "--uio=") ∈ known := by decide
  have hfront : separator ∉ [ofString "-v"] := by decide
  have htext : (OsString.mk [0x2F, 0xFF]).text? = none := by decide +kernel
  have hvalue := text?_eq_none_iff.1 htext
  refine ⟨hknown, hfront, hvalue, fun heq => ?_⟩
  obtain ⟨text, hmk⟩ := (long_option_in_place_iff (ofString "uhtif") ⟨[0x2F, 0xFF]⟩ [ofString "-v"] []
    "+uio=" "--uio=" hknown hfront).1.1 heq
  exact hvalue text hmk

end Plusarg

end TargetLink
