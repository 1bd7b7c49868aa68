import PcapConstrictor.Capture.OpenInterface
import PcapConstrictor.Config.ConfigLoader

/-!
# The program

Reference: `main.cpp`, `capture/NpcapRuntime.cpp`, `capture/NpcapInterfaceList.cpp`,
`capture/NpcapInterfaceListFormatting.cpp` and `ConfigLoader::LoadFromFile`.

A run of the program is a function of its arguments and of the `World`: the build, the files, the
disk and the driver. It leaves an exit code, the texts on the two output streams, and at most one
file. An output path that leads to the input file is not excluded: opening the output empties that
file.
-/

namespace PcapConstrictor

open ByteString

/-! ## The configuration file -/

/-- What opening a text file comes to. An open stream yields a text, up to the end of the file or up
to the first read that fails, which may be the first one of all. -/
inductive TextFile
  | missing
  | opened (text : Text)
deriving DecidableEq, Repr

/-- The state of a stream, as far as `LoadFromFile` asks for it. -/
structure StreamState where
  good : Bool := true
  eof : Bool := false
deriving DecidableEq, Repr

/-- `ConfigLoader::LoadFromFile`. -/
def ConfigLoader.loadFromFile (path : String) : TextFile → ConfigLoadResult
  | .missing => { error := "unable to open config file: " ++ path }
  | .opened text =>
    -- `buffer << input.rdbuf()` reads past `input`: even where a read fails, its state is that of a
    -- stream that has just been opened, and what has been read is taken for the whole file
    let input : StreamState := {}
    if !input.good && !input.eof then
      { error := "failed to read config file: " ++ path }
    else loadFromString text path

/-- A file that opens is loaded, however much of it can be read. -/
theorem ConfigLoader.loadFromFile_opened (path : String) (text : Text) :
    loadFromFile path (.opened text) = loadFromString text path := rfl

/-! ## The Npcap runtime -/

/-- `NpcapRuntimeCheck`. -/
structure NpcapRuntimeCheck where
  available : Bool := false
  message : String := ""
deriving DecidableEq, Repr

/-- `FormatNpcapRuntimeMissingMessage`. -/
def formatNpcapRuntimeMissingMessage (detail : String) : String :=
  "Npcap runtime was not found.\n" ++
    "\n" ++
    "PcapConstrictorWinPacket was built with Npcap support, but wpcap.dll/Packet.dll\n" ++
    "could not be loaded.\n" ++
    "\n" ++
    "Install the Npcap runtime, then run this command again.\n" ++
    "The Npcap SDK is only required when building from source." ++
    (if detail ≠ "" then "\n" ++ "Details: " ++ detail else "")

/-- `FormatLoadFailureDetail`. -/
def formatLoadFailureDetail (dllName : String) (errorCode : UInt32) : String :=
  "failed to load " ++ dllName ++ " (GetLastError=" ++ toString errorCode.toNat ++ ")"

/-- `CheckNpcapRuntimeAvailable`. `LoadLibraryA` returns a module or leaves an error code. -/
def checkNpcapRuntimeAvailable (windows : Bool) (loadLibrary : String → Option UInt32) :
    NpcapRuntimeCheck :=
  if windows then
    match loadLibrary "wpcap.dll" with
    | some errorCode =>
      { message :=
          formatNpcapRuntimeMissingMessage (formatLoadFailureDetail "wpcap.dll" errorCode) }
    | none =>
      match loadLibrary "Packet.dll" with
      | some errorCode =>
        { message :=
            formatNpcapRuntimeMissingMessage (formatLoadFailureDetail "Packet.dll" errorCode) }
      | none => { available := true }
  else { available := true }

/-! ## The list of interfaces -/

/-- `NpcapInterfaceInfo`. -/
structure NpcapInterfaceInfo where
  name : String := ""
  description : String := ""
  addresses : List String := []
  isLoopback : Bool := false
  isUp : Bool := false
  isRunning : Bool := false
  isWireless : Bool := false
deriving DecidableEq, Repr

/-- `NpcapInterfaceListResult`. -/
structure NpcapInterfaceListResult where
  interfaces : List NpcapInterfaceInfo := []
  error : String := ""
deriving DecidableEq, Repr

/-- `pcap_if_t`, with what `SockaddrToNumericString` makes of each address. -/
structure PcapIf where
  name : Option String
  description : Option String
  flags : UInt32
  addresses : List String
deriving DecidableEq, Repr

def PCAP_IF_LOOPBACK : UInt32 := 0x01
def PCAP_IF_UP : UInt32 := 0x02
def PCAP_IF_RUNNING : UInt32 := 0x04
def PCAP_IF_WIRELESS : UInt32 := 0x08

/-- The loop body of `ListNpcapInterfaces`. -/
def PcapIf.info (device : PcapIf) : NpcapInterfaceInfo where
  name := device.name.getD ""
  description := device.description.getD ""
  addresses := device.addresses.filter (· ≠ "")
  isLoopback := device.flags &&& PCAP_IF_LOOPBACK ≠ 0
  isUp := device.flags &&& PCAP_IF_UP ≠ 0
  isRunning := device.flags &&& PCAP_IF_RUNNING ≠ 0
  isWireless := device.flags &&& PCAP_IF_WIRELESS ≠ 0

/-- `ListNpcapInterfaces`. `pcap_findalldevs` yields the devices, or fails with its error buffer. -/
def listNpcapInterfaces (hasNpcap : Bool) (findAllDevs : Except String (List PcapIf)) :
    NpcapInterfaceListResult :=
  if hasNpcap then
    match findAllDevs with
    | .error errorBuffer =>
      { error :=
          if errorBuffer ≠ "" then errorBuffer
          else "pcap_findalldevs failed with no error details" }
    | .ok devices => { interfaces := devices.map PcapIf.info }
  else
    { error :=
        "Npcap interface listing is not enabled in this build. Configure with NPCAP_SDK_DIR " ++
          "or disable PCAP_CONSTRICTOR_WINPACKET_ENABLE_NPCAP_INTERFACE_LISTING for " ++
          "offline-only builds." }

/-- `CollectFlags`. -/
def collectFlags (info : NpcapInterfaceInfo) : List String :=
  (if info.isLoopback then ["loopback"] else []) ++ (if info.isUp then ["up"] else []) ++
    (if info.isRunning then ["running"] else []) ++ (if info.isWireless then ["wireless"] else [])

/-- `JoinStrings`. -/
def joinStrings (parts : List String) : String := ", ".intercalate parts

/-- The lines of one interface in `FormatNpcapInterfaceList`. -/
def formatNpcapInterface (index : ℕ) (info : NpcapInterfaceInfo) : String :=
  "[" ++ toString index ++ "]\n" ++
    "  name: " ++ info.name ++ "\n" ++
    (if info.description ≠ "" then "  description: " ++ info.description ++ "\n" else "") ++
    (if info.addresses ≠ [] then "  addresses: " ++ joinStrings info.addresses ++ "\n" else "") ++
    (if collectFlags info ≠ [] then "  flags: " ++ joinStrings (collectFlags info) ++ "\n" else "")

/-- The loop of `FormatNpcapInterfaceList` from `index` on. -/
def formatNpcapInterfacesFrom (index : ℕ) : List NpcapInterfaceInfo → String
  | [] => ""
  | info :: interfaces =>
    formatNpcapInterface index info ++ (if interfaces ≠ [] then "\n" else "") ++
      formatNpcapInterfacesFrom (index + 1) interfaces

/-- `FormatNpcapInterfaceList`. -/
def formatNpcapInterfaceList (interfaces : List NpcapInterfaceInfo) : String :=
  formatNpcapInterfacesFrom 0 interfaces

/-! ## The commands -/

namespace Program

/-- Everything the program learns from outside. `LoadLibraryA` and `pcap_findalldevs` have answered
when they are called, and the driver answers when a capture opens its interface. `sameFile` tells
whether two paths lead to one file, and `reread` what a reader gets in place of the rest of a file
that is emptied and written while it reads. -/
structure World where
  hasNpcap : Bool
  windows : Bool
  loadLibrary : String → Option UInt32
  findAllDevs : Except String (List PcapIf)
  configFile : String → TextFile
  inputFile : String → InputFile
  outputOpens : String → Bool
  sameFile : String → String → Bool
  reread : Bytes → Bytes
  device : BufferedDevice
  driver : NpcapCapture.Driver
  clock : SystemClock
  elapsedSeconds : String

/-- What a reader of `inputPath` gets for the rest of its file once `outputPath` is opened. -/
def World.rereadBehind (world : World) (inputPath outputPath : String) : Bytes → Bytes :=
  if world.sameFile inputPath outputPath then world.reread else id

/-- What a run of the program leaves. -/
structure Outcome where
  exitCode : ℕ
  stdout : String := ""
  stderr : String := ""
  file : Option (String × Bytes) := none
deriving DecidableEq, Repr

/-- `PrintUsage`. -/
def usage : String :=
  "Usage:\n" ++
    "  PcapConstrictorWinPacket --list-interfaces\n" ++
    "  PcapConstrictorWinPacket --config <config.ini>\n" ++
    "  PcapConstrictorWinPacket --config <config.ini> --offline-input <input.pcap>\n" ++
    "  PcapConstrictorWinPacket --help\n"

/-- `PrintOfflineStats`. -/
def offlineStats (stats : CaptureStats) : String :=
  numberLine "packets_total" stats.packetsTotal.toNat ++
    numberLine "packets_written" stats.packetsWritten.toNat ++
    numberLine "bytes_input" stats.bytesInput.toNat ++
    numberLine "bytes_output" stats.bytesOutput.toNat ++
    numberLine "bytes_saved" stats.bytesSaved.toNat ++
    numberLine "receive_errors" stats.receiveErrors.toNat ++
    numberLine "tls_appdata_constricted" stats.tlsAppdataConstricted.toNat ++
    numberLine "tls_fallback" stats.tlsFallback.toNat ++
    numberLine "quic_long_header" stats.quicLongHeader.toNat ++
    numberLine "quic_short_matched" stats.quicShortMatched.toNat ++
    numberLine "quic_short_constricted" stats.quicShortConstricted.toNat ++
    numberLine "quic_fallback" stats.quicFallback.toNat

variable (world : World)

/-- `RunOfflinePipeline`. -/
def runOfflinePipeline (inputPath : String) (config : PolicyConfig) : Outcome :=
  let outputPath := config.capture.output
  let (result, file) := OfflinePacketFeed.runBuffered world.device
    (world.rereadBehind inputPath outputPath) world.clock config (world.inputFile inputPath)
    (world.outputOpens outputPath)
  let file := file.map fun bytes => (outputPath, bytes)
  if !result.ok then
    { exitCode := 1, stderr := "Offline feed error: " ++ result.error ++ "\n", file }
  else
    { exitCode := 0
      stdout :=
        "Offline feed completed.\n" ++
          "input: " ++ inputPath ++ "\n" ++
          "output: " ++ outputPath ++ "\n" ++
          (if config.stats.enabled then offlineStats result.stats else "")
      file }

/-- `RunUnavailableLiveCaptureMessage`. -/
def runUnavailableLiveCaptureMessage : Outcome where
  exitCode := 1
  stderr :=
    "Npcap live capture is unavailable in this build.\n" ++
      "Reconfigure with NPCAP_SDK_DIR to enable live capture and --list-interfaces.\n"

/-- `RunMissingNpcapRuntimeMessage`. -/
def runMissingNpcapRuntimeMessage (runtimeCheck : NpcapRuntimeCheck) : Outcome where
  exitCode := 1
  stderr :=
    runtimeCheck.message ++
      if runtimeCheck.message.toList.getLast? ≠ some '\n' then "\n" else ""

/-- `RunListInterfaces`. -/
def runListInterfaces : Outcome :=
  if !world.hasNpcap then
    let result := listNpcapInterfaces world.hasNpcap world.findAllDevs
    { exitCode := 1, stderr := "Npcap interface listing error: " ++ result.error ++ "\n" }
  else
    let runtimeCheck := checkNpcapRuntimeAvailable world.windows world.loadLibrary
    if !runtimeCheck.available then runMissingNpcapRuntimeMessage runtimeCheck
    else
      let result := listNpcapInterfaces world.hasNpcap world.findAllDevs
      if result.error ≠ "" then
        { exitCode := 1, stderr := "Npcap interface listing error: " ++ result.error ++ "\n" }
      else if result.interfaces = [] then
        { exitCode := 0, stdout := "Npcap reported no capture interfaces.\n" }
      else
        { exitCode := 0, stdout := formatNpcapInterfaceList result.interfaces ++ "\n" }

/-- The part of `RunLiveCapture` behind the capture. -/
def reportLiveCapture (config : PolicyConfig) (run : NpcapCapture.RunOutput) : Outcome :=
  let result := run.result
  let file := run.file.map fun bytes => (config.capture.output, bytes)
  let warning :=
    if result.warning ≠ "" then "Npcap warning: " ++ result.warning ++ "\n" else ""
  let printed :=
    "Preparing live capture.\n" ++ run.printed ++
      if result.terminationReason = .interrupted then
        "Capture interrupted, finalizing output...\n"
      else ""
  let summary := formatLiveCaptureSummary result.terminationReason result.stats result.driverStats
    world.elapsedSeconds config.capture.output config.capture.promiscuous
  if result.error ≠ "" then
    { exitCode := 1
      stdout := printed
      stderr := warning ++ "Live capture error: " ++ result.error ++ "\n" ++ summary
      file }
  else
    { exitCode := if liveCaptureTerminationIsSuccess result.terminationReason then 0 else 1
      stdout := printed ++ summary
      stderr := warning
      file }

/-- `RunLiveCapture`, if the loop of the capture ends within `fuel` iterations. -/
def runLiveCapture (config : PolicyConfig) (fuel : ℕ) : Option Outcome :=
  if !world.hasNpcap then some runUnavailableLiveCaptureMessage
  else
    let runtimeCheck := checkNpcapRuntimeAvailable world.windows world.loadLibrary
    if !runtimeCheck.available then some (runMissingNpcapRuntimeMessage runtimeCheck)
    else if config.capture.interface = "" then
      some
        { exitCode := 1
          stderr :=
            "Configuration error: capture.interface is required for live capture.\n" ++
              "Run PcapConstrictorWinPacket --list-interfaces and copy a name into " ++
              "config.ini.\n" }
    else
      (NpcapCapture.runOpen world.windows world.driver world.device
        (world.outputOpens config.capture.output) config.capture config config.capture.output
        world.clock fuel).map (reportLiveCapture world config)

/-- `main`, with the arguments behind the name of the program. -/
def main (args : List String) (fuel : ℕ) : Option Outcome :=
  let withConfig (path : String) (run : PolicyConfig → Option Outcome) : Option Outcome :=
    let result := ConfigLoader.loadFromFile path (world.configFile path)
    if !result.ok then
      some { exitCode := 1, stderr := "Configuration error: " ++ result.error ++ "\n" }
    else run result.config
  match args with
  | ["--help"] => some { exitCode := 0, stdout := usage }
  | ["--list-interfaces"] => some (runListInterfaces world)
  | ["--config", path] => withConfig path fun config => runLiveCapture world config fuel
  | ["--config", path, "--offline-input", inputPath] =>
    withConfig path fun config => some (runOfflinePipeline world inputPath config)
  | _ => some { exitCode := 1, stderr := usage }

end Program

end PcapConstrictor
