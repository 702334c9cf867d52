import Taws.Frontend.CliSession

/-!
# Scripts

The command line says what it is meant to say: commands that are written out, line by line, are the commands that
`attester cli` runs, and every configuration of the server can be given to `attester web`.

* `Command`, `Command.line` — the commands, and how they are typed.
* `runLine_line` — a command that is typed is run with its options.
* `session_script` — a script makes the session that its commands make.
* `main_given` — the configuration that is given is the one that the server gets.
-/

namespace Taws.Frontend.Cli

open Text
open Flags hiding FlagError
open Device
open Enclave
open Teep

/-! ## Commands -/

def InstallFlags.settings (flags : InstallFlags) : List (Bytes × Bytes) :=
  [(ofString "url", flags.url), (ofString "wapp", flags.wapp)]

def DetectorFlags.settings (flags : DetectorFlags) : List (Bytes × Bytes) :=
  [(ofString "wapp", flags.wapp), (ofString "func", flags.funcName), (ofString "max-output", decimal flags.maxOut)]

inductive Command where
  | install (flags : InstallFlags)
  | detector (flags : DetectorFlags) (inputPath outputPath : Bytes)
  | help
  | exit
  deriving DecidableEq

namespace Command

/-- `detector` has its paths behind `--`, where they may begin with a dash. -/
def words : Command → List Bytes
  | .install flags => ofString "install" :: render flags.settings
  | .detector flags inputPath outputPath =>
    ofString "detector" :: (render flags.settings ++ [terminator, inputPath, outputPath])
  | .help => [ofString "help"]
  | .exit => [ofString "exit"]

def line (command : Command) : Bytes := joinWords command.words

/-- What the command does. -/
def run (lib : Libraries) (teepErrCode : TeepErr → Int) (command : Command) (world : CliWorld)
    (device : DeviceState) : Outcome :=
  match command with
  | .install flags => Cli.install lib teepErrCode flags world device
  | .detector flags inputPath outputPath => detect lib teepErrCode flags inputPath (clean outputPath) world device
  | .help => (device, [.usage], .reads)
  | .exit => (device, [], .returns)

/-- There is no white space in the options and in the paths, and a path is not empty. -/
def Spaceless : Command → Prop
  | .install flags => Unspaced flags.url ∧ Unspaced flags.wapp
  | .detector flags inputPath outputPath =>
    Unspaced flags.wapp ∧ Unspaced flags.funcName ∧ (inputPath ≠ [] ∧ Unspaced inputPath) ∧
      outputPath ≠ [] ∧ Unspaced outputPath
  | _ => True

/-- The sizes are those of an `int`. -/
def Sized : Command → Prop
  | .detector flags _ _ => -2 ^ 63 ≤ flags.maxOut ∧ flags.maxOut < 2 ^ 63
  | _ => True

instance : (command : Command) → Decidable command.Spaceless
  | .install _ => inferInstanceAs (Decidable (_ ∧ _))
  | .detector _ _ _ => inferInstanceAs (Decidable (_ ∧ _))
  | .help => .isTrue trivial
  | .exit => .isTrue trivial

instance : (command : Command) → Decidable command.Sized
  | .install _ => .isTrue trivial
  | .detector _ _ _ => inferInstanceAs (Decidable (_ ∧ _))
  | .help => .isTrue trivial
  | .exit => .isTrue trivial

/-- What can be typed. -/
structure Typable (command : Command) : Prop where
  spaceless : command.Spaceless
  sized : command.Sized
  fits : command.line.length < maxScanTokenSize

instance (command : Command) : Decidable command.Typable :=
  decidable_of_iff (command.Spaceless ∧ command.Sized ∧ command.line.length < maxScanTokenSize)
    ⟨fun ⟨spaceless, sized, fits⟩ => ⟨spaceless, sized, fits⟩, fun ⟨spaceless, sized, fits⟩ => ⟨spaceless, sized, fits⟩⟩

end Command

open Command

variable {lib : Libraries} {teepErrCode : TeepErr → Int} {command : Command} {world : CliWorld} {device : DeviceState}

/-! ## One line -/

theorem setting_word {name value : Bytes} (solid : ∀ byte ∈ setting name [], Solid byte) (unspaced : Unspaced value) :
    setting name value ≠ [] ∧ Unspaced (setting name value) := by
  have parts : setting name value = setting name [] ++ value := by simp [setting]
  refine ⟨List.cons_ne_nil _ _, ?_⟩
  rw [parts]
  exact .append solid unspaced

theorem render_words {settings : List (Bytes × Bytes)}
    (solid : ∀ name ∈ settings.map Prod.fst, ∀ byte ∈ setting name [], Solid byte)
    (unspaced : ∀ value ∈ settings.map Prod.snd, Unspaced value) :
    ∀ word ∈ render settings, word ≠ [] ∧ Unspaced word := by
  intro word member
  obtain ⟨pair, inSettings, rfl⟩ := List.mem_map.mp member
  exact setting_word (solid _ (List.mem_map_of_mem inSettings)) (unspaced _ (List.mem_map_of_mem inSettings))

/-- The words of a command are words. -/
theorem words_each (spaceless : command.Spaceless) : ∀ word ∈ command.words, word ≠ [] ∧ Unspaced word := by
  cases command with
  | install flags =>
    obtain ⟨url, wapp⟩ := spaceless
    have names : ∀ name ∈ [ofString "url", ofString "wapp"], ∀ byte ∈ setting name [], Solid byte := by
      decide +kernel
    have values : ∀ value ∈ [flags.url, flags.wapp], Unspaced value := by simp [url, wapp]
    exact List.forall_mem_cons.mpr ⟨by decide, @render_words flags.settings names values⟩
  | detector flags inputPath outputPath =>
    obtain ⟨wapp, funcName, input, output⟩ := spaceless
    have names : ∀ name ∈ [ofString "wapp", ofString "func", ofString "max-output"], ∀ byte ∈ setting name [],
        Solid byte := by decide +kernel
    have values : ∀ value ∈ [flags.wapp, flags.funcName, decimal flags.maxOut], Unspaced value := by
      simp [wapp, funcName, decimal_unspaced]
    have paths : ∀ word ∈ [terminator, inputPath, outputPath], word ≠ [] ∧ Unspaced word := by
      have dashes : terminator ≠ [] ∧ Unspaced terminator := by decide
      simp only [List.forall_mem_cons]
      exact ⟨dashes, input, output, by simp⟩
    refine List.forall_mem_cons.mpr ⟨by decide, List.forall_mem_append.mpr ⟨?_, paths⟩⟩
    exact @render_words flags.settings names values
  | help => exact List.forall_mem_cons.mpr ⟨by decide, by simp⟩
  | exit => exact List.forall_mem_cons.mpr ⟨by decide, by simp⟩

theorem fields_line (spaceless : command.Spaceless) : fields (trimSpace command.line) = command.words := by
  rw [fields_trimSpace, line, fields_joinWords (words_each spaceless)]

theorem parse_installFlags (flags : InstallFlags) :
    parse installFlags (render flags.settings) defaultInstallFlags = .ok (flags, []) := by
  have spelled : ∀ name ∈ [ofString "url", ofString "wapp"], Spelled name := by decide
  have parsed := @parse_settings _ installFlags flags.settings defaultInstallFlags flags spelled rfl []
  rwa [List.append_nil] at parsed

theorem parse_detectorFlags {flags : DetectorFlags} (least : -2 ^ 63 ≤ flags.maxOut) (greatest : flags.maxOut < 2 ^ 63)
    (paths : List Bytes) :
    parse detectorFlags (render flags.settings ++ terminator :: paths) defaultDetectorFlags = .ok (flags, paths) := by
  have spelled : ∀ name ∈ [ofString "wapp", ofString "func", ofString "max-output"], Spelled name := by decide
  -- the size comes last, so what is left of the fold is what `parseInt` makes of it
  have assigned : flags.settings.foldlM (fun options pair => assign detectorFlags pair.1 pair.2 options)
      defaultDetectorFlags =
        ((parseInt (decimal flags.maxOut)).map fun value => { flags with maxOut := value }).bind some := rfl
  rw [parseInt_decimal least greatest] at assigned
  have parsed := @parse_settings _ detectorFlags flags.settings defaultDetectorFlags flags spelled assigned
    (terminator :: paths)
  rwa [parse_terminator] at parsed

/-- A command that is typed is run with its options. -/
theorem runLine_line (typable : command.Typable) :
    runLine lib teepErrCode command.line world device = command.run lib teepErrCode world device := by
  have words := fields_line typable.spaceless
  -- a blank line would have no words
  have notBlank : trimSpace command.line ≠ [] := by
    intro blank
    rw [blank] at words
    cases command <;> cases words
  rw [runLine, if_neg notBlank]
  simp only [words]
  cases command with
  | install flags =>
    have installs : runInstallSession lib teepErrCode (render flags.settings) world device =
        install lib teepErrCode flags world device := by rw [runInstallSession, parse_installFlags]
    exact (if_pos rfl).trans installs
  | detector flags inputPath outputPath =>
    obtain ⟨least, greatest⟩ := typable.sized
    have detects : runDetectorSession lib teepErrCode (render flags.settings ++ [terminator, inputPath, outputPath])
        world device = detect lib teepErrCode flags inputPath (clean outputPath) world device := by
      rw [runDetectorSession, parse_detectorFlags least greatest]
      rfl
    exact (if_neg (by decide)).trans ((if_pos rfl).trans detects)
  | help => rfl
  | exit => rfl

theorem line_notMem {byte : UInt8} (blank : [byte] ∈ spaces) (notBlank : byte ≠ 0x20) (spaceless : command.Spaceless) :
    byte ∉ command.line := by
  intro member
  cases mem_joinWords member with
  | inl isBlank => exact notBlank isBlank
  | inr inWord =>
    obtain ⟨word, isWord, inWord⟩ := inWord
    exact (words_each spaceless word isWord).2.notMem blank inWord

/-! ## Scripts -/

def script (commands : List Command) : Bytes := joinLines (commands.map Command.line)

theorem scanLines_script {commands : List Command} (typable : ∀ command ∈ commands, command.Typable) :
    scanLines maxScanTokenSize (script commands) = (commands.map Command.line, false) := by
  refine scanLines_joinLines ?_
  intro line member
  obtain ⟨command, isCommand, rfl⟩ := List.mem_map.mp member
  have ⟨spaceless, _, fits⟩ := typable command isCommand
  refine ⟨line_notMem (by decide) (by decide) spaceless, ?_, fits⟩
  intro isLast
  exact line_notMem (by decide) (by decide) spaceless (List.mem_of_getLast? isLast)

/-- A session with commands in place of lines. -/
def commandStep (lib : Libraries) (teepErrCode : TeepErr → Int) (state : CliState) (action : Command × CliWorld) :
    CliState × List CliEvent :=
  if state.next ≠ .reads then (state, [])
  else goOn lib teepErrCode (action.1.run lib teepErrCode action.2 state.device)

def commander (lib : Libraries) (teepErrCode : TeepErr → Int) : Machine CliState (Command × CliWorld) CliEvent where
  step := commandStep lib teepErrCode

/-- The commands with the worlds that they meet. -/
def commandActions (commands : List Command) (worlds : Nat → CliWorld) : List (Command × CliWorld) :=
  commands.zipIdx.map fun command => (command.1, worlds command.2)

/-- A script that is typed, or read from a file, is the session of its commands: each of them does what it does with
its options, in the order of the script, and the session ends with them. -/
theorem session_script (lib : Libraries) (teepErrCode : TeepErr → Int) (keygen : CString) (logLevel : Int)
    (world : World) (commands : List Command) (readFails : Bool) (worlds : Nat → CliWorld)
    (typable : ∀ command ∈ commands, command.Typable) :
    session lib teepErrCode keygen logLevel world (script commands) readFails worlds =
      (startUp lib teepErrCode keygen logLevel world).map fun device =>
        let ran := (commander lib teepErrCode).run ⟨device, .reads⟩ (commandActions commands worlds)
        let ended := cliStep lib teepErrCode ran.1 (.ends readFails)
        (ended.1, ran.2 ++ ended.2) := by
  -- the lines come out of the scanner as they were written
  have actions : inputActions (script commands) readFails worlds =
      (commandActions commands worlds).map (fun action => CliAction.line action.1.line action.2) ++
        [.ends readFails] := by
    rw [inputActions, scanLines_script typable, commandActions, List.map_map, List.zipIdx_map, List.map_map]
    rfl
  -- and each of them does what its command does
  have same : ∀ action ∈ commandActions commands worlds, ∀ state,
      (cli lib teepErrCode).step state (.line action.1.line action.2) = (commander lib teepErrCode).step state action := by
    intro action member state
    obtain ⟨command, inCommands, rfl⟩ := List.mem_map.mp member
    have isCommand : command.1 ∈ commands := (List.mem_zipIdx' inCommands).2 ▸ List.getElem_mem _
    simp only [cli, commander, cliStep, commandStep, runLine_line (typable _ isCommand)]
  unfold session
  congr 1
  funext device
  rw [actions, Machine.run_append, Machine.run_map same, Machine.run_cons, Machine.run_nil, List.append_nil]
  rfl

/-- An app is installed and called, from a path that looks like a flag. -/
def installAndDetect : List Command :=
  [.install ⟨defaultConfig.tamURL, ofString "a"⟩, .detector ⟨ofString "a", ofString "f", 16⟩ (ofString "-in.jpg")
    (ofString "./out.jpg"), .exit]

theorem session_script_installAndDetect :
    session smallLibraries smallCodes App.keygenNo 1 workingWorld (script installAndDetect) false (fun _ => typedWorld) =
      (startUp smallLibraries smallCodes App.keygenNo 1 workingWorld).map fun device =>
        let ran := (commander smallLibraries smallCodes).run ⟨device, .reads⟩
          (commandActions installAndDetect fun _ => typedWorld)
        let ended := cliStep smallLibraries smallCodes ran.1 (.ends false)
        (ended.1, ran.2 ++ ended.2) :=
  session_script smallLibraries smallCodes App.keygenNo 1 workingWorld installAndDetect false (fun _ => typedWorld)
    (by decide +kernel)

/-! ## Configurations -/

def WebFlags.settings (flags : WebFlags) : List (Bytes × Bytes) :=
  [(ofString "addr", flags.addr), (ofString "wapp", flags.wapp), (ofString "func", flags.funcName),
    (ofString "keygen", flags.keygen), (ofString "url", flags.url), (ofString "log-level", flags.logLevel),
    (ofString "max-output", decimal flags.maxOut)]

def CliFlags.settings (flags : CliFlags) : List (Bytes × Bytes) :=
  [(ofString "keygen", flags.keygen), (ofString "log-level", flags.logLevel)]

def logLevels : List (Int × Bytes) :=
  [(App.tawsLogLevelError, ofString "error"), (App.tawsLogLevelInfo, ofString "info"),
    (App.tawsLogLevelDebug, ofString "debug")]

/-- The options for a configuration with this word for its log level. -/
def webFlagsOf (addr : Bytes) (cfg : ServerConfig) (logLevel : Bytes) : WebFlags :=
  ⟨addr, cfg.wappName, cfg.funcName, cfg.maxOut, cfg.keygen, cfg.tamURL, logLevel⟩

/-- What can be given: C strings, and the size as an `int`. -/
structure Givable (cfg : ServerConfig) : Prop where
  texts : ∀ text ∈ [cfg.wappName, cfg.funcName, cfg.keygen, cfg.tamURL], 0 ∉ text
  least : -2 ^ 63 ≤ cfg.maxOut
  greatest : cfg.maxOut < 2 ^ 63

theorem parse_webFlags {flags : WebFlags} (least : -2 ^ 63 ≤ flags.maxOut) (greatest : flags.maxOut < 2 ^ 63) :
    parse webFlags (render flags.settings) defaultWebFlags = .ok (flags, []) := by
  have spelled : ∀ name ∈ [ofString "addr", ofString "wapp", ofString "func", ofString "keygen", ofString "url",
      ofString "log-level", ofString "max-output"], Spelled name := by decide
  have assigned : flags.settings.foldlM (fun options pair => assign webFlags pair.1 pair.2 options) defaultWebFlags =
      ((parseInt (decimal flags.maxOut)).map fun value => { flags with maxOut := value }).bind some := rfl
  rw [parseInt_decimal least greatest] at assigned
  have parsed := @parse_settings _ webFlags flags.settings defaultWebFlags flags spelled assigned []
  rwa [List.append_nil] at parsed

theorem parse_cliFlags (flags : CliFlags) : parse cliFlags (render flags.settings) defaultCliFlags = .ok (flags, []) := by
  have spelled : ∀ name ∈ [ofString "keygen", ofString "log-level"], Spelled name := by decide
  have parsed := @parse_settings _ cliFlags flags.settings defaultCliFlags flags spelled rfl []
  rwa [List.append_nil] at parsed

theorem parseLogLevel_word : ∀ level ∈ logLevels, parseLogLevel level.2 = some level.1 := by decide

theorem main_web (args : List Bytes) : main (ofString "web" :: args) = runWeb args := by rw [main, if_pos rfl]

theorem main_cli (args : List Bytes) : main (ofString "cli" :: args) = runCli args := by
  have notWeb : ofString "cli" ≠ ofString "web" := by decide
  rw [main, if_neg notWeb, if_pos rfl]

/-- Every configuration can be given: what `attester web` starts the server with, and `attester cli` the attester, is
what its arguments say. -/
theorem main_given (addr : Bytes) (cfg : ServerConfig) (givable : Givable cfg) (logLevel : Bytes)
    (level : (cfg.logLevel, logLevel) ∈ logLevels) :
    main (ofString "web" :: render (webFlagsOf addr cfg logLevel).settings) = .web addr cfg ∧
      main (ofString "cli" :: render (CliFlags.settings ⟨cfg.keygen, logLevel⟩)) = .cli cfg.keygen cfg.logLevel := by
  have texts := givable.texts
  simp only [List.forall_mem_cons] at texts
  obtain ⟨wappName, funcName, keygen, tamURL, _⟩ := texts
  have isLevel : parseLogLevel logLevel = some cfg.logLevel := parseLogLevel_word _ level
  constructor
  · rw [main_web, runWeb, parse_webFlags givable.least givable.greatest]
    simp only [webFlagsOf, isLevel, cString_eq_self wappName, cString_eq_self funcName, cString_eq_self keygen,
      cString_eq_self tamURL]
  · rw [main_cli, runCli, parse_cliFlags]
    simp only [isLevel, cString_eq_self keygen]

theorem main_given_default :
    main (ofString "web" :: render (webFlagsOf (ofString "127.0.0.1:8181") defaultConfig (ofString "info")).settings) =
        .web (ofString "127.0.0.1:8181") defaultConfig ∧
      main (ofString "cli" :: render (CliFlags.settings ⟨defaultConfig.keygen, ofString "info"⟩)) =
        .cli defaultConfig.keygen defaultConfig.logLevel :=
  main_given _ defaultConfig ⟨by decide +kernel, by decide, by decide⟩ _ (by decide +kernel)

end Taws.Frontend.Cli
