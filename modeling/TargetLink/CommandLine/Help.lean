/-!
# Help texts

The short help gives a line to each argument, the long one a paragraph. Both end with the layout of
the window and the plusargs.
-/

namespace TargetLink.Help

/-- The name by which the program calls itself when it does not know its own. -/
def defaultName : String := "uhtif"

/-- The first lines of either help text. -/
def heading (program : String) : List String :=
  ["Host-target interface over a memory-mapped UIO window",
    "",
    "Usage: " ++ program ++ " [OPTIONS] [PAYLOAD]",
    ""]

/-- The arguments, a line to each. -/
def summary : List String :=
  ["Arguments:",
    "  [PAYLOAD]  Flat image to load, or `none` to run the memory self-test [default: none]",
    "",
    "Options:",
    "      --uio <DEVICE>         UIO device exposing the shared window",
    "      --uio-size <BYTES>     Window size in bytes [default: 0x40000000]",
    "      --dram-size <BYTES>    DRAM size in bytes [default: window size - 16 KiB]",
    "      --load-addr <ADDR>     Target address the image is loaded at [default: 0x80000000]",
    "      --unmapped <UNMAPPED>  Handling of target addresses outside every region " ++
      "[default: strict] [possible values: strict, alias]",
    "  -v, --verbose...           Raise log verbosity (-v debug, -vv trace)",
    "  -h, --help                 Print help (see more with '--help')",
    "  -V, --version              Print version",
    ""]

/-- The arguments, a paragraph to each. -/
def details : List String :=
  let blank := "          "
  ["Arguments:",
    "  [PAYLOAD]",
    "          Flat image to load, or `none` to run the memory self-test",
    blank,
    "          [default: none]",
    "",
    "Options:",
    "      --uio <DEVICE>",
    "          UIO device exposing the shared window",
    "",
    "      --uio-size <BYTES>",
    "          Window size in bytes [default: 0x40000000]",
    "",
    "      --dram-size <BYTES>",
    "          DRAM size in bytes [default: window size - 16 KiB]",
    "",
    "      --load-addr <ADDR>",
    "          Target address the image is loaded at",
    blank,
    "          [default: 0x80000000]",
    "",
    "      --unmapped <UNMAPPED>",
    "          Handling of target addresses outside every region",
    "",
    "          Possible values:",
    "          - strict: Fail with `UnmappedAddress`",
    "          - alias:  Translate to window offset 0 and log a warning. Data accesses are " ++
      "still rejected by bounds validation",
    blank,
    "          [default: strict]",
    "",
    "  -v, --verbose...",
    "          Raise log verbosity (-v debug, -vv trace)",
    "",
    "  -h, --help",
    "          Print help (see a summary with '-h')",
    "",
    "  -V, --version",
    "          Print version",
    ""]

/-- The last lines of either help text. -/
def layout : List String :=
  ["Window layout:",
    "  region    target base   target size   window offset",
    "  bootrom   0x00001000    8 KiB         window_size - 16 KiB",
    "  clint     0x02000000    64 KiB        window_size - 8 KiB",
    "  dram      0x80000000    dram_size     0",
    "",
    "Plusargs +uio=, +uio_size= and +dram_size= are accepted in place of the",
    "matching long options. Other plusargs are ignored."]

/-- The help text of a program of the given name. -/
def text (program : String) (long : Bool) : String :=
  let body := if long then details else summary
  String.join ((heading program ++ body ++ layout).map (· ++ "\n"))

end TargetLink.Help
