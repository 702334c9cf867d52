import Taws.Flags
import Taws.Frontend.Site

/-!
# The command line

`main.go`: the arguments of the program, and the loop of `attester cli`, which reads commands from its standard
input.  It calls the attester in one goroutine, so that its calls do not overlap.

* `main`, `runWeb`, `runCli` — the arguments of the program.
* `runInstallSession`, `runDetectorSession` — the commands that call the attester.
* `cliStep`, `cli` — the loop, line by line.
* `session` — the loop over the standard input, after the calls with which it starts.
-/

namespace Taws.Frontend.Cli

open Text
open Flags hiding FlagError
open App (TeepSessionResult)
open Device
open Teep

/-! ## The arguments -/

def parseLogLevel (value : Bytes) : Option Int :=
  let word := toLower (trimSpace value)
  if word = ofString "error" then some App.tawsLogLevelError
  else if word = ofString "info" then some App.tawsLogLevelInfo
  else if word = ofString "debug" then some App.tawsLogLevelDebug
  else none

structure WebFlags where
  addr : Bytes
  wapp : Bytes
  funcName : Bytes
  maxOut : Int
  keygen : Bytes
  url : Bytes
  logLevel : Bytes
  deriving DecidableEq

def defaultWebFlags : WebFlags where
  addr := ofString "127.0.0.1:8181"
  wapp := defaultConfig.wappName
  funcName := defaultConfig.funcName
  maxOut := defaultConfig.maxOut
  keygen := defaultConfig.keygen
  url := defaultConfig.tamURL
  logLevel := ofString "info"

def webFlags : List (Flag WebFlags) :=
  [⟨ofString "addr", fun value flags => some { flags with addr := value }⟩,
    ⟨ofString "wapp", fun value flags => some { flags with wapp := value }⟩,
    ⟨ofString "func", fun value flags => some { flags with funcName := value }⟩,
    ⟨ofString "max-output", fun value flags => (parseInt value).map fun value => { flags with maxOut := value }⟩,
    ⟨ofString "keygen", fun value flags => some { flags with keygen := value }⟩,
    ⟨ofString "url", fun value flags => some { flags with url := value }⟩,
    ⟨ofString "log-level", fun value flags => some { flags with logLevel := value }⟩]

structure CliFlags where
  keygen : Bytes
  logLevel : Bytes
  deriving DecidableEq

def defaultCliFlags : CliFlags := ⟨defaultConfig.keygen, ofString "info"⟩

def cliFlags : List (Flag CliFlags) :=
  [⟨ofString "keygen", fun value flags => some { flags with keygen := value }⟩,
    ⟨ofString "log-level", fun value flags => some { flags with logLevel := value }⟩]

/-- What the program does with its arguments: it exits with a status, or it goes on. -/
inductive Started where
  | exits (status : Nat)
  | web (addr : Bytes) (cfg : ServerConfig)
  | cli (keygen : CString) (logLevel : Int)
  deriving DecidableEq

def exitStatus : Flags.FlagError → Nat
  | .help => 0
  | _ => 2

def runWeb (args : List Bytes) : Started :=
  match parse webFlags args defaultWebFlags with
  | .error err => .exits (exitStatus err)
  | .ok (flags, _) =>
    match parseLogLevel flags.logLevel with
    | none => .exits 1
    | some logLevel =>
      .web flags.addr
        { wappName := cString flags.wapp
          funcName := cString flags.funcName
          maxOut := flags.maxOut
          keygen := cString flags.keygen
          tamURL := cString flags.url
          logLevel := logLevel }

def runCli (args : List Bytes) : Started :=
  match parse cliFlags args defaultCliFlags with
  | .error err => .exits (exitStatus err)
  | .ok (flags, _) =>
    match parseLogLevel flags.logLevel with
    | none => .exits 1
    | some logLevel => .cli (cString flags.keygen) logLevel

/-- `main`, with the arguments behind the name of the program. -/
def main : List Bytes → Started
  | [] => .exits 1
  | sub :: args =>
    if sub = ofString "web" then runWeb args
    else if sub = ofString "cli" then runCli args
    else .exits 1

/-! ## Commands -/

structure InstallFlags where
  url : Bytes
  wapp : Bytes
  deriving DecidableEq

def defaultInstallFlags : InstallFlags := ⟨defaultConfig.tamURL, defaultConfig.wappName⟩

def installFlags : List (Flag InstallFlags) :=
  [⟨ofString "url", fun value flags => some { flags with url := value }⟩,
    ⟨ofString "wapp", fun value flags => some { flags with wapp := value }⟩]

structure DetectorFlags where
  wapp : Bytes
  funcName : Bytes
  maxOut : Int
  deriving DecidableEq

def defaultDetectorFlags : DetectorFlags := ⟨defaultConfig.wappName, defaultConfig.funcName, defaultConfig.maxOut⟩

def detectorFlags : List (Flag DetectorFlags) :=
  [⟨ofString "wapp", fun value flags => some { flags with wapp := value }⟩,
    ⟨ofString "func", fun value flags => some { flags with funcName := value }⟩,
    ⟨ofString "max-output", fun value flags => (parseInt value).map fun value => { flags with maxOut := value }⟩]

structure CliWorld where
  device : World
  readFile : Bytes → Except GoError Bytes
  writeFile : Option GoError

inductive CliEvent where
  /-- A call has returned; `device` is the device on which it was made. -/
  | called (call : AttesterCall) (world : World) (device : DeviceState)
  | read (path input : Bytes)
  | wrote (path output : Bytes)
  | logged (text : String)
  /-- An error on the standard error output. -/
  | reported (err : GoError)
  | unknownCommand (cmd : Bytes)
  | usage
  | readError

inductive Next where
  | reads
  | returns
  | panics
  /-- A call does not return. -/
  | stops
  deriving DecidableEq

/-- `runCLI` is left, and what it has deferred is run. -/
def Next.leaves : Next → Bool
  | .returns => true
  | .panics => true
  | _ => false

def components (component : Bytes) : Bytes → List Bytes
  | [] => [component]
  | byte :: path => if byte = 0x2f then component :: components [] path else components (component ++ [byte]) path

def cleanStep (rooted : Bool) (cleaned : List Bytes) (component : Bytes) : List Bytes :=
  if component = [] ∨ component = ofString "." then cleaned
  else if component = ofString ".." then
    match cleaned with
    | [] => if rooted then [] else [component]
    | last :: cleaned => if last = ofString ".." then component :: last :: cleaned else cleaned
  else component :: cleaned

def clean (path : Bytes) : Bytes :=
  let rooted := path.head? = some 0x2f
  let cleaned := ((components [] path).foldl (cleanStep rooted) []).reverse
  let joined := List.intercalate [0x2f] cleaned
  if rooted then 0x2f :: joined else if joined = [] then ofString "." else joined

/-- The device after a command, what has been seen of it, and how the loop goes on. -/
abbrev Outcome := DeviceState × List CliEvent × Next

variable (lib : Libraries) (teepErrCode : TeepErr → Int)

def sessionReport : TeepSessionResult × Option GoError → CliEvent
  | (_, some err) => .reported err
  | (.okDeviceActivated, none) => .logged "The device has been activated. You can install the app."
  | (_, none) => .logged "TEEP install finished."

def install (flags : InstallFlags) (world : CliWorld) (device : DeviceState) : Outcome :=
  let call := runInstallSessionCall (cString flags.url) (cString flags.wapp)
  match siteCall lib teepErrCode call world.device device with
  | none => (device, [], .stops)
  | some (returned, after) =>
    (after, [.called call world.device device, sessionReport (Frontend.runInstallSession returned)], .reads)

def runInstallSession (args : List Bytes) (world : CliWorld) (device : DeviceState) : Outcome :=
  match parse installFlags args defaultInstallFlags with
  | .error _ => (device, [.reported "usage: install [--url URL] [--wapp NAME]"], .reads)
  | .ok (flags, _) => install lib teepErrCode flags world device

/-- What a call for detection gives for the file, after the input has been read. -/
def writeOutput (outputPath : Bytes) (maxOut : Int) (world : CliWorld) (returned : AttesterReturn) :
    List CliEvent × Next :=
  match invokeWasm maxOut returned with
  | none => ([], .panics)
  | some ⟨_, some err⟩ => ([.reported err], .reads)
  | some ⟨output, none⟩ =>
    match world.writeFile with
    | some err => ([.reported err], .reads)
    | none => ([.wrote outputPath output], .reads)

def detect (flags : DetectorFlags) (inputPath outputPath : Bytes) (world : CliWorld) (device : DeviceState) :
    Outcome :=
  match world.readFile inputPath with
  | .error err => (device, [.reported err], .reads)
  | .ok input =>
    if input.length = 0 then (device, [.read inputPath input, .reported "input is empty"], .reads)
    else
      match invokeWasmCall (cString flags.wapp) (cString flags.funcName) input flags.maxOut world.device.makes with
      | none => (device, [.read inputPath input], .panics)
      | some (.error err) => (device, [.read inputPath input, .reported err], .reads)
      | some (.ok call) =>
        match siteCall lib teepErrCode call world.device device with
        | none => (device, [.read inputPath input], .stops)
        | some (returned, after) =>
          let written := writeOutput outputPath flags.maxOut world returned
          (after, .read inputPath input :: .called call world.device device :: written.1, written.2)

def runDetectorSession (args : List Bytes) (world : CliWorld) (device : DeviceState) : Outcome :=
  match parse detectorFlags args defaultDetectorFlags with
  | .error _ =>
    (device,
      [.reported "usage: detector [--wapp NAME] [--func NAME] [--max-output BYTES] <input.jpg> [output.jpg]"], .reads)
  | .ok (_, []) => (device, [.reported "usage: detector <input.jpg> [output.jpg]"], .reads)
  | .ok (flags, inputPath :: rest) =>
    detect lib teepErrCode flags inputPath (clean (rest.head?.getD (ofString "detected.jpg"))) world device

/-! ## The loop -/

structure CliState where
  device : DeviceState
  next : Next

inductive CliAction where
  | line (text : Bytes) (world : CliWorld)
  /-- `Scan` returns false, with or without an error. -/
  | ends (error : Bool)

def close (device : DeviceState) : DeviceState := (deviceStep lib teepErrCode device .close).1

def runCommand (cmd : Bytes) (args : List Bytes) (world : CliWorld) (device : DeviceState) : Outcome :=
  if cmd = ofString "install" then runInstallSession lib teepErrCode args world device
  else if cmd = ofString "detector" then runDetectorSession lib teepErrCode args world device
  else if cmd = ofString "help" then (device, [.usage], .reads)
  else if cmd = ofString "exit" ∨ cmd = ofString "quit" then (device, [], .returns)
  else (device, [.unknownCommand cmd, .usage], .reads)

def runLine (text : Bytes) (world : CliWorld) (device : DeviceState) : Outcome :=
  let line := trimSpace text
  if line = [] then (device, [], .reads)
  else
    match fields line with
    -- `fields[0]` would panic
    | [] => (device, [], .panics)
    | cmd :: args => runCommand lib teepErrCode cmd args world device

/-- After a command the loop goes on, or it is left and what has been deferred is run. -/
def goOn (outcome : Outcome) : CliState × List CliEvent :=
  let device := if outcome.2.2.leaves then close lib teepErrCode outcome.1 else outcome.1
  (⟨device, outcome.2.2⟩, outcome.2.1)

def cliStep (state : CliState) (action : CliAction) : CliState × List CliEvent :=
  if state.next ≠ .reads then (state, [])
  else
    match action with
    | .line text world => goOn lib teepErrCode (runLine lib teepErrCode text world state.device)
    | .ends error => (⟨close lib teepErrCode state.device, .returns⟩, if error then [.readError] else [])

def cli : Machine CliState CliAction CliEvent where
  step := cliStep lib teepErrCode

def maxScanTokenSize : Nat := 64 * 1024

def inputActions (stdin : Bytes) (readFails : Bool) (worlds : Nat → CliWorld) : List CliAction :=
  let scanned := scanLines maxScanTokenSize stdin
  scanned.1.zipIdx.map (fun line => .line line.1 (worlds line.2)) ++ [.ends (scanned.2 || readFails)]

/-- The calls before the loop; `none` where one of them fails and the program exits. -/
def startUp (keygen : CString) (logLevel : Int) (world : World) : Option DeviceState :=
  match siteCall lib teepErrCode (setLogLevelCall logLevel) world .start with
  | none => none
  | some (leveled, device) =>
    if (setLogLevel leveled).isSome then none
    else
      match siteCall lib teepErrCode (initializeEnclaveCall keygen) world device with
      | none => none
      | some (returned, device) => if (initializeEnclave returned).isSome then none else some device

/-- `runCLI` from its first call on: the state in which the loop is left, and what has been seen in it. -/
def session (keygen : CString) (logLevel : Int) (world : World) (stdin : Bytes) (readFails : Bool)
    (worlds : Nat → CliWorld) : Option (CliState × List CliEvent) :=
  (startUp lib teepErrCode keygen logLevel world).map fun device =>
    (cli lib teepErrCode).run ⟨device, .reads⟩ (inputActions stdin readFails worlds)

end Taws.Frontend.Cli
