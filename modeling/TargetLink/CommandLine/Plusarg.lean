import TargetLink.OsString

/-!
# Plusargs

A front-end hands the program its options as plusargs, arguments that begin with a plus sign. Three
of them stand for long options, which take their place; all others are set aside. The program's name
and everything from the first `--` on is left alone.
-/

namespace TargetLink.Plusarg

/-- The plusargs that stand for long options, each with the option in its place. -/
def known : List (String × String) :=
  [("+uio=", "--uio="), ("+uio_size=", "--uio-size="), ("+dram_size=", "--dram-size=")]

/-- What becomes of an argument. -/
inductive Fate where
  /-- It is passed on in this form. -/
  | pass (arg : OsString)
  /-- It is set aside. -/
  | ignore (text : String)
  deriving DecidableEq, Repr

/-- The long option in place of a plusarg that is known. -/
def longForm? (arg : OsString) : Option OsString :=
  known.findSome? fun (plus, long) => (arg.dropStart? plus).map (·.behind long)

/-- What becomes of an argument in front of `--`. Only text can be a plusarg. -/
def fate (arg : OsString) : Fate :=
  match arg.text? with
  | none => .pass arg
  | some text =>
    if (arg.dropStart? "+").isNone then .pass arg
    else
      match longForm? arg with
      | some long => .pass long
      | none => .ignore text

/-- Arguments without plusargs. -/
structure Normalized where
  /-- The arguments passed on. -/
  args : List OsString
  /-- The plusargs set aside. -/
  ignored : List String
  deriving DecidableEq, Repr

/-- The argument behind which nothing is an option. -/
def separator : OsString :=
  OsString.ofString "--"

/-- Normalizes the arguments behind the program's name. -/
def normalizeRest : List OsString → Normalized
  | [] => ⟨[], []⟩
  | arg :: rest =>
    if arg = separator then ⟨arg :: rest, []⟩
    else
      let tail := normalizeRest rest
      match fate arg with
      | .pass arg => { tail with args := arg :: tail.args }
      | .ignore text => { tail with ignored := text :: tail.ignored }

/-- Normalizes a whole command line, the program's name first. -/
def normalize : List OsString → Normalized
  | [] => ⟨[], []⟩
  | program :: rest =>
    let tail := normalizeRest rest
    { tail with args := program :: tail.args }

end TargetLink.Plusarg
