import PathTiming.CommandLine.Run

/-! The program: looks at the real files, does the run, and shows what came of it. -/
namespace PathTiming.Program

def helpText : String :=
  "Timing path summaries from timing reports\n\n" ++
  "Usage: path-timing [OPTIONS] <REPORT>\n\n" ++
  "Options:\n" ++
  "  -c, --config <FILE>     rules file\n" ++
  "      --no-config         load no rules file\n" ++
  "  -r, --range <RANGE>     ranges of the report, such as 6,16+2,26:100\n" ++
  "      --ckc               check the clock networks\n" ++
  "      --ckc-dump <FILE>   write traces of the clock checks\n" ++
  "      --dts               print delta totals\n" ++
  "      --seg               print path segments\n" ++
  "      --bar-data [CODES]  chart data: p c t d i ct\n" ++
  "      --bar-path <CODES>  chart parts: f d l c\n" ++
  "      --bar-set <TAG>     chart data of a group of the rules\n" ++
  "      --bar-out <FILE>    write chart series to a file\n" ++
  "      --csv <FILE>        write a table of the paths\n" ++
  "      --csv-cols <CODES>  columns of the table\n" ++
  "      --debug             print the paths as JSON and stop\n" ++
  "      --format <FORMAT>   form of messages: text or json\n" ++
  "  -q, --quiet             print no status\n" ++
  "  -v, --verbose           print more status\n" ++
  "      --color <WHEN>      colour messages: auto, always or never\n" ++
  "  -h, --help              print help\n" ++
  "  -V, --version           print the version\n"

def versionText : String := "path-timing 0.1.0\n"

def argumentText (a : Argument) : String :=
  match a.long? with
  | some name => "--" ++ name
  | none => "<REPORT>"

def usageText : UsageError → String
  | .unknownArgument word => s!"unexpected argument '{word}' found"
  | .invalidValue a => s!"invalid value for '{argumentText a}'"
  | .conflict a => s!"the argument '{argumentText a}' cannot be used multiple times"
  | .unexpectedValue a => s!"unexpected value for '{argumentText a}' found"
  | .missing a => s!"the required argument '{argumentText a}' was not provided"
  | .help => helpText
  | .version => versionText

def fileError : IO.Error → FileError
  | .noFileOrDirectory .. => .notFound
  | e => .refused (toString e)

def look (disk : Disk) (path : String) (name : List String) : IO Disk := do
  match ← (IO.FS.realPath path).toBaseIO with
  | .error _ => return disk
  | .ok there =>
    if ← there.isDir then return { disk with directories := name :: disk.directories }
    else
      match ← (IO.FS.readBinFile there).toBaseIO with
      | .ok bytes => return { disk with files := disk.files.insert name (.ok bytes) }
      | .error e => return { disk with files := disk.files.insert name (.error (fileError e)) }

/-- Adds to a disk what lies on a path, from its first part to its last. -/
def lookAlong (disk : Disk) (path : String) : IO Disk := do
  let mut disk := disk
  let mut name := disk.start path
  let mut seen := ""
  for part in Disk.parts path do
    seen := seen ++ part
    if part = ".." then name := name.dropLast
    else if part ≠ "" ∧ part ≠ "." then
      name := name ++ [part]
      disk ← look disk seen name
    seen := seen ++ "/"
  return disk

def diskFor (o : Options) : IO Disk := do
  let home := Disk.parts (toString (← IO.currentDir))
  let named := [o.config, o.tableFile, o.traceFile, o.barFile].filterMap id
  let disk : Disk := { home := home.filter (· ≠ "") }
  (o.report :: Run.defaultRulesFile :: named).foldlM lookAlong disk

def store (before after : Disk) (path : String) : IO Unit := do
  if let .ok bytes := after.read path then
    let same :=
      match before.read path with
      | .ok old => old == bytes
      | .error _ => false
    if !same then IO.FS.writeBinFile path bytes

def runOptions (o : Options) : IO UInt32 := do
  let disk ← diskFor o
  let outcome := o.run disk (← (← IO.getStderr).isTty)
  IO.print outcome.printed
  IO.eprint outcome.messages
  for path in [o.tableFile, o.traceFile, o.barFile].filterMap id do
    store disk outcome.disk path
  if let some cause := outcome.failure then IO.eprintln s!"error: {cause.message}"
  return outcome.code.toUInt32

def start (words : List String) : IO UInt32 := do
  match Options.ofWords words with
  | .ok o => runOptions o
  | .error .help => IO.print helpText; return 0
  | .error .version => IO.print versionText; return 0
  | .error e => IO.eprintln s!"error: {usageText e}"; return 2

end PathTiming.Program

def main (words : List String) : IO UInt32 := PathTiming.Program.start words
