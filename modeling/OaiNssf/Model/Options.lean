import OaiNssf.Lib.GetOpt

/-!
# Model of the command line options

`oai_nssf/options.cpp`. The static members of `Options` are a record that `parse` takes and
returns, with the lines that it prints. What `getopt_long` returns is the library's
`GetOpt.Spec.scan`, with the option string and the table of this program, on elements of `argv`
with a `Char` for each byte and with `POSIXLY_CORRECT` unset; its own messages on `stderr` are
left out.
-/

namespace OaiNssf

open GetOpt

/-- The static members of `Options`. -/
structure Options where
  options : ℕ := 0
  libconfigcfg : String := ""
  logRotFileLog : Bool := false
  logStdout : Bool := false
  deriving DecidableEq, Repr

namespace Options

/-! ## What is declared -/

/-- The enumeration `OptionsSelected` (`options.hpp` lines 35–39). -/
def OptionsSelected.libconfigcfg : ℕ := 0x01

def OptionsSelected.logStdout : ℕ := 0x02

def OptionsSelected.logRotFileLog : ℕ := 0x04

/-- The option string `"horc:"` (line 71). -/
def shortOptions (c : Char) : Option HasArg :=
  if c = 'h' ∨ c = 'o' ∨ c = 'r' then some .noArgument
  else if c = 'c' then some .requiredArgument
  else none

/-- `long_options` (lines 62–67). The value of `libconfigcfg` is not `'c'`. -/
def longOptions : List LongOption :=
  [⟨"help", .noArgument, 'h'⟩, ⟨"libconfigcfg", .requiredArgument, 'f'⟩,
    ⟨"stdoutlog", .noArgument, 'o'⟩, ⟨"rotatelog", .noArgument, 'r'⟩]

def spec : Spec where
  short := shortOptions
  longs := longOptions

/-! ## Messages -/

/-- `help` (lines 30–43). -/
def help : List String :=
  ["", "Usage:  nssf [OPTIONS]...",
    "  -h, --help                   Print help and exit",
    "  -c, --libconfigcfg filename  Read the application configuration from this file.",
    "  -o, --stdoutlog              Send the application logs to STDOUT fd.",
    "  -r, --rotatelog              Send the application logs to local file (in  current " ++
      "working directory)."]

/-- The message for a value that no case handles: the value is printed as a number. -/
def unrecognized (c : Char) : String := "Unrecognized option [" ++ toString c.toNat ++ "]"

/-- The message for `'?'` (lines 96–122). -/
def unknownMessage (optopt : Option Char) : String :=
  if optopt = some 'c' then "Option -l (libconfig config) requires an argument"
  else if optopt = some 'o' then
    "Option -o do not requires an argument, can be also set with option -r."
  else if optopt = some 'r' then
    "Option -r do not requires an argument, can be also set with option -o."
  else unrecognized '?'

/-! ## Parsing -/

/-- How a parse ends: `exit(0)`, or a return. -/
inductive Parsed where
  | exited (stdout : List String)
  | returned (result : Bool) (options : Options) (stdout : List String)
  deriving DecidableEq, Repr

/-- The loop of `parseInputOptions` on what the calls of `getopt_long` return
    (lines 70–129). -/
def parseLoop (o : Options) (result : Bool) (stdout : List String) : List Event → Parsed
  | [] => .returned result o stdout
  | .option val optarg :: events =>
    if val = 'h' then .exited (stdout ++ help)
    else if val = 'c' then
      let o := { o with libconfigcfg := optarg.getD "" }
      let o := { o with options := o.options ||| OptionsSelected.libconfigcfg }
      parseLoop o result stdout events
    else if val = 'o' then
      let o := { o with logStdout := true }
      let o := { o with options := o.options ||| OptionsSelected.logStdout }
      parseLoop o result stdout events
    else if val = 'r' then
      let o := { o with logRotFileLog := true }
      let o := { o with options := o.options ||| OptionsSelected.logRotFileLog }
      parseLoop o result stdout events
    else parseLoop o false (stdout ++ [unrecognized val]) events
  | .unknown optopt :: events =>
    parseLoop o false (stdout ++ [unknownMessage optopt]) events

/-- `parseInputOptions` (lines 57–130), on the elements of `argv` after the program name. -/
def parseInputOptions (o : Options) (args : List String) : Parsed :=
  parseLoop o true [] (spec.scan args)

/-- `validateOptions` (lines 53–55). -/
def validateOptions (o : Options) : Bool := o.options &&& OptionsSelected.libconfigcfg ≠ 0

/-- `parse` (lines 45–51). -/
def parse (o : Options) (args : List String) : Parsed :=
  match parseInputOptions o args with
  | .exited stdout => .exited stdout
  | .returned ret o stdout => .returned (ret && o.validateOptions) o stdout

end Options

end OaiNssf
