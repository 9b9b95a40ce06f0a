import Endpoints.Command.Arguments

/-! What the command tells about itself. -/

namespace Endpoints.Command

def versionText : String := "restgen 0.1.0\n"

def usageLine : String := "Usage: restgen [OPTIONS] <INPUTS>...\n"

def helpText : String := String.join [
  "Generates fluent HTTP request builders from doc-tagged trait declarations\n",
  "\n",
  usageLine,
  "\n",
  "Arguments:\n",
  "  <INPUTS>...  Rust source files, or directories to search for them\n",
  "\n",
  "Options:\n",
  "  -o, --out-dir <OUT_DIR>  Write generated files here instead of next to their inputs\n",
  "      --runtime <RUNTIME>  Path of the runtime module generated code refers to [default: ",
  defaultRuntime, "]\n",
  "      --check              Write nothing; fail if a generated file is missing or out of date\n",
  "  -h, --help               Print help\n",
  "  -V, --version            Print version\n",
  "\n",
  "USAGE OF GENERATED FILES:\n",
  "    Each input `photos.rs` yields `photos_restgen.rs`, which has no `use` lines.\n",
  "    Add `include!(\"photos_restgen.rs\");` to the module declaring the traits,\n",
  "    with the `@SYNC` result types in scope there.\n",
  "\n",
  "ENVIRONMENT:\n",
  "    RUST_LOG=debug    Enable debug logging\n"]

def Misuse.text (misuse : Misuse) : String :=
  "error: " ++ misuse.message ++ "\n\n" ++ usageLine ++ "\nFor more information, try '--help'.\n"

end Endpoints.Command
