import SymbolMarkup.CommandLine.Run

/-! The program. It reads and writes the real files; what it does with them, and every text it
prints, is settled in the other modules. -/
namespace SymbolMarkup.CommandLine

def Fault.ofError : IO.Error → Fault
  | .noFileOrDirectory .. => .notFound
  | .inappropriateType _ 20 _ => .notDirectory
  | .inappropriateType _ 21 _ => .isDirectory
  | .invalidArgument _ 36 _ => .nameTooLong
  | .permissionDenied _ code details | .resourceExhausted _ code details
  | .resourceVanished code details | .hardwareFault code details
  | .otherError code details => .other s!"{details} (os error {code})"
  | e => .other (toString e)

def attempt {α : Type} (explain : Fault → RunError) (action : IO α) : IO (Except RunError α) := do
  try
    let a ← action
    return .ok a
  catch e =>
    return .error (explain (Fault.ofError e))

partial def readToEnd (stream : IO.FS.Stream) (sofar : ByteArray) : IO ByteArray := do
  let more ← stream.read 65536
  if more.isEmpty then return sofar else readToEnd stream (sofar ++ more)

def readReal (path : Option String) : IO (Except RunError String) := do
  let bytes ← attempt (.reading path) do
    match path with
    | some path => IO.FS.readBinFile path
    | none => do readToEnd (← IO.getStdin) .empty
  return bytes.bind fun bytes => (decodeText bytes).mapError (.reading path)

def writeReal (path : Option String) (text : String) : IO (Except RunError Unit) :=
  attempt (.writing path) do
    match path with
    | some path => IO.FS.withFile path .write fun file => do
      file.write text.toUTF8
      file.flush
    | none => do
      let out ← IO.getStdout
      out.putStr text
      out.flush

def printWarnings (events : List Event) : IO Unit :=
  (events.filterMap Event.warning?).forM fun line => IO.eprintln line

def finish (result : Except RunError Unit) : IO UInt32 := do
  match result with
  | .ok () => return 0
  | .error e =>
    IO.eprintln ("error: " ++ e.message)
    return 1

def convertReal (s : Settings) : IO UInt32 := do
  match ← readReal s.inputPath with
  | .error e => finish (.error e)
  | .ok html =>
    let t := convert s.options html
    printWarnings t.events
    match t.result with
    | .error f => finish (.error (.conversion f))
    | .ok output => finish (← writeReal s.output (delivered output))

partial def watchReal (s : Settings) (path : String) (live : Live) : IO UInt32 := do
  IO.sleep (UInt32.ofNat (min (max s.intervalMs 1) (2 ^ 32 - 1)))
  let content ← readReal (some path)
  if let .error e := content then
    IO.eprintln ("WARN symbol_dsl: could not read input, retrying error=" ++ e.message)
  let r := refresh live content.toOption
  printWarnings r.events
  if let some text := r.delivery then
    if let .error e ← writeReal s.output text then
      IO.eprintln ("WARN symbol_dsl: could not write output error=" ++ e.message)
  watchReal s path r.live

def startReal (s : Settings) : IO UInt32 := do
  match s.inputPath with
  | none => finish (.error .watchNeedsFile)
  | some path =>
    match ← readReal (some path) with
    | .error e => finish (.error e)
    | .ok html =>
      let (live, events) := Live.start s.options html
      printWarnings events
      match ← writeReal s.output (delivered live.output) with
      | .error e => finish (.error e)
      | .ok () => watchReal s path live

end SymbolMarkup.CommandLine

open SymbolMarkup.CommandLine in
def main (arguments : List String) : IO UInt32 := do
  match readArguments arguments with
  | .error e =>
    IO.eprintln e.firstLine
    IO.eprintln "\nFor more information, try '--help'."
    return 2
  | .ok (.help long) =>
    let _ ← writeReal none (helpText long)
    return 0
  | .ok .version =>
    let _ ← writeReal none versionText
    return 0
  | .ok (.run s) => if s.watch then startReal s else convertReal s
