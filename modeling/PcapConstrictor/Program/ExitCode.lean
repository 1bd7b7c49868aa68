import PcapConstrictor.Capture.Stopping
import PcapConstrictor.Offline.Canonical
import PcapConstrictor.Program.Main

/-!
# What the exit code tells

`Completes` says what it means that a command does what it is asked for: what it needs is there, and
the file it leaves is the complete one. The program exits with 0 only then, and its file is as much
of that as the device takes; what may be missing is the last buffer, which is handed over when the
stream is closed. Otherwise the program exits with 1 and says something on the error stream, and
either the command could not be completed, or the device has no room for the file
(`exit_code_tells`).

A feed whose output file is its own input file is left out: it may come to anything.
-/

namespace PcapConstrictor

open ByteString PcapReader PcapFile

/-- A text that starts with something is not empty. -/
theorem append_ne_empty {s : String} (h : s ≠ "") (t : String) : s ++ t ≠ "" :=
  fun heq => h (String.append_eq_empty_iff.mp heq).1

theorem append_ne_empty_right {t : String} (h : t ≠ "") (s : String) : s ++ t ≠ "" :=
  fun heq => h (String.append_eq_empty_iff.mp heq).2

/-! ## The offline feed -/

namespace OfflinePacketFeed

/-- The output for a file: nothing for a file without records. -/
def outputOf (clock : SystemClock) (config : PolicyConfig) (file : PcapFile) : Bytes :=
  if file.records = [] then []
  else
    Recording.fileOf config (writerOf file.header.fields) clock
      (file.records.map (Record.packet clock file.header.timePrecision))

/-- A run over a complete file. -/
theorem run_encode (clock : SystemClock) (config : PolicyConfig) {file : PcapFile}
    (hsize : file.encode.length < UInt64.size) :
    (run clock config (.readable file.encode) true).1.ok = true ∧
      (run clock config (.readable file.encode) true).2 = some (outputOf clock config file) := by
  have hacc := accepted_encode hsize
  obtain ⟨hpackets, hread⟩ := packetsOf_encode clock hsize
  rw [run_of_accepted clock config hacc]
  refine ⟨(ok_feedResult hacc _).mpr hread, congrArg some ?_⟩
  rw [hpackets, outputOf]
  by_cases hnil : file.records = []
  · rw [if_pos hnil, hnil]
    rfl
  · rw [if_neg hnil]
    exact output_fileOf config clock _ (by simpa using hnil)

/-- A run that succeeds is a run over a complete file. -/
theorem exists_file_of_ok {clock : SystemClock} {config : PolicyConfig} {input : InputFile}
    {outputOpens : Bool} (hok : (run clock config input outputOpens).1.ok = true) :
    outputOpens = true ∧ ∃ file : PcapFile, file.encode.length < UInt64.size ∧
      input = .readable file.encode := by
  by_cases haccepted : ∃ bytes header, input = .readable bytes ∧ Accepted bytes header
  · obtain ⟨bytes, header, rfl, hacc⟩ := haccepted
    cases outputOpens with
    | false =>
      rw [run, openFile_of_accepted hacc] at hok
      cases hok
    | true =>
      rw [run_of_accepted clock config hacc] at hok
      have hread : (({} : PcapReader).openFile (.readable bytes)).1.readAll.2.hasError = false := by
        rw [openFile_of_accepted hacc]
        exact (ok_feedResult hacc _).mp hok
      obtain ⟨file, rfl⟩ := exists_pcap_of_ok hread
      exact ⟨rfl, file, hacc.2.1, rfl⟩
  · have herror := (run_of_not_accepted clock config haccepted outputOpens).1
    rw [OfflinePacketFeedResult.ok, beq_iff_eq] at hok
    exact absurd hok herror

/-- The input is a complete file, and the output file opens. -/
def Feeds (input : InputFile) (outputOpens : Bool) (file : PcapFile) : Prop :=
  outputOpens = true ∧ file.encode.length < UInt64.size ∧ input = .readable file.encode

/-- A run succeeds over a complete file, or it fails. Then there is no such file, or its output is
more than the device takes. -/
theorem ok_runBuffered_cases (device : BufferedDevice) (clock : SystemClock)
    (config : PolicyConfig) (input : InputFile) (outputOpens : Bool) :
    let buffered := runBuffered device id clock config input outputOpens
    (buffered.1.ok = true ∧ ∃ file, Feeds input outputOpens file ∧
      let output := outputOf clock config file
      buffered.2 = some (device.keeps output) ∧
      output.length ≤ (device.keeps output).length + device.buffer) ∨
    buffered.1.ok = false ∧ ∀ file, Feeds input outputOpens file →
      device.keeps (outputOf clock config file) ≠ outputOf clock config file := by
  intro buffered
  rcases runBuffered_cases device clock config input outputOpens with
    ⟨heq, hlost⟩ | ⟨herror, bytes, header, before, packet, after, rfl, rfl, hacc, hpackets, -,
      hfull, -⟩
  · simp only [buffered, heq]
    cases hok : (run clock config input outputOpens).1.ok with
    | true =>
      obtain ⟨rfl, file, hsize, rfl⟩ := exists_file_of_ok hok
      have houtput := (run_encode clock config hsize).2
      refine Or.inl ⟨rfl, file, ⟨rfl, hsize, rfl⟩, ?_, hlost _ houtput⟩
      rw [houtput, Option.map_some]
    | false =>
      refine Or.inr ⟨rfl, ?_⟩
      rintro file ⟨rfl, hsize, rfl⟩
      cases hok.symm.trans (run_encode clock config hsize).1
  · refine Or.inr ⟨?_, ?_⟩
    · rw [OfflinePacketFeedResult.ok, herror]
      decide
    rintro file ⟨-, hsize, hbytes⟩ hall
    obtain rfl := InputFile.readable.inj hbytes
    obtain rfl := hacc.unique (accepted_encode hsize)
    rw [(packetsOf_encode clock hsize).1] at hpackets
    -- the file breaks off within the record of `packet`, which is one of the complete file
    have hnil : file.records ≠ [] := by
      intro hnil
      rw [hnil] at hpackets
      cases before <;> cases hpackets
    have hfront : before ++ [packet] <+: before ++ packet :: after :=
      ⟨after, by rw [List.append_assoc, List.singleton_append]⟩
    rw [outputOf, if_neg hnil, hpackets] at hall
    exact hfull (BufferedDevice.keeps_eq_self_of_longer hall
      (Recording.fileOf_mono config _ clock hfront))

end OfflinePacketFeed

/-! ## The live capture -/

namespace NpcapCapture

/-- A run reports an error exactly if an error has ended it. -/
theorem error_resultAt {capture : CaptureOptions} {env : Environment} (config : PolicyConfig)
    (clock : SystemClock) {n : ℕ} {reason : LiveCaptureTerminationReason}
    (h : EndsAt capture env n reason) :
    (resultAt capture config clock env n).error = "" ↔ reason ≠ .error := by
  obtain ⟨hexit, rfl⟩ := loopBody_exitAt config clock h.reason
  have hlocals : (localsAt capture config clock env n).error = "" ∧
      (localsAt capture config clock env n).terminationReason = .stopped := ⟨rfl, rfl⟩
  rw [resultAt]
  generalize localsAt capture config clock env n = l at hexit hlocals
  generalize exitAt capture config clock env n = e at hexit ⊢
  obtain ⟨herror, hstopped⟩ := hlocals
  rcases loopBody_exit hexit with
    ⟨-, rfl⟩ | ⟨-, rfl⟩ | rfl | ⟨-, rfl⟩ | ⟨-, message, hmessage, rfl⟩
  · by_cases hstop : env.stopRequested (n + 1) = true <;> simp [finish, herror, hstopped, hstop]
  · simp [finish, herror]
  · simp [finish, herror]
  · simp [finish, herror]
  · simp [finish, RunLocals.receiveError, hmessage]

/-- The driver opens the interface with a supported link type, and hands over to the loop in the
environment `env`. -/
def Opens (windows : Bool) (driver : Driver) (capture : CaptureOptions) (env : Environment) :
    Prop :=
  ∃ errorBuffer linkType,
    driver.openLive capture.interface (toInt (min capture.defaultSnaplen capture.maxCaptureLen))
        (if capture.promiscuous then 1 else 0) (toInt capture.readTimeoutMs)
      = .opened errorBuffer ∧
    tryMapDatalink driver.datalink = some linkType ∧
    env = driver.environment linkType (driver.warning windows errorBuffer)

/-- The driver opens an interface in one way. -/
theorem Opens.unique {windows : Bool} {driver : Driver} {capture : CaptureOptions}
    {env env' : Environment} (h : Opens windows driver capture env)
    (h' : Opens windows driver capture env') : env = env' := by
  obtain ⟨errorBuffer, linkType, hopen, hlink, rfl⟩ := h
  obtain ⟨errorBuffer', linkType', hopen', hlink', rfl⟩ := h'
  obtain rfl := OpenLive.opened.inj (hopen.symm.trans hopen')
  obtain rfl := Option.some.inj (hlink.symm.trans hlink')
  rfl

/-- `Run` fails in front of the loop and opens no file, or it is a run of the loop. -/
theorem runOpen_cases {windows : Bool} {driver : Driver} {device : BufferedDevice}
    {outputOpens : Bool} {capture : CaptureOptions} {config : PolicyConfig} {outputPath : String}
    {clock : SystemClock} {fuel : ℕ} {out : RunOutput}
    (h : runOpen windows driver device outputOpens capture config outputPath clock fuel
      = some out) :
    (out.result.error ≠ "" ∧ out.file = none ∧
      ∀ env, Opens windows driver capture env → outputOpens = false) ∨
    ∃ env taken, Opens windows driver capture env ∧ outputOpens = true ∧
      runBuffered device capture config clock env fuel = some (out.result, taken) ∧
      out.file = some taken := by
  unfold runOpen at h
  dsimp only at h
  split at h
  · next errorBuffer hopen =>
    obtain rfl := Option.some.inj h
    -- the driver's own text, or the default in its place
    refine Or.inl ⟨?_, rfl, ?_⟩
    · dsimp only
      split
      · assumption
      · decide
    · rintro env ⟨_, _, hopened, -, -⟩
      cases hopen.symm.trans hopened
  next errorBuffer hopen =>
  split at h
  · next hlink =>
    obtain rfl := Option.some.inj h
    have herror : unsupportedDatalinkError driver.datalink ≠ "" :=
      append_ne_empty (append_ne_empty (by decide) _) _
    refine Or.inl ⟨herror, rfl, ?_⟩
    rintro env ⟨_, _, -, hmapped, -⟩
    cases hlink.symm.trans hmapped
  next linkType hlink =>
  split at h
  · next hopens =>
    obtain rfl := Option.some.inj h
    have herror : "failed to open output file '" ++ outputPath ++ "'" ≠ "" :=
      append_ne_empty (append_ne_empty (by decide) _) _
    exact Or.inl ⟨herror, rfl, fun _ _ => by simpa using hopens⟩
  next hopens =>
  split at h
  · cases h
  · next result taken hrun =>
    obtain rfl := Option.some.inj h
    exact Or.inr ⟨_, taken, ⟨errorBuffer, linkType, hopen, hlink, rfl⟩, by simpa using hopens,
      hrun, rfl⟩

/-- The interface and the output file open, and iteration `n` ends the loop without an error. -/
structure Captures (windows : Bool) (driver : Driver) (outputOpens : Bool)
    (capture : CaptureOptions) (env : Environment) (n : ℕ) : Prop where
  opens : Opens windows driver capture env
  output : outputOpens = true
  ends : ∃ reason, EndsAt capture env n reason ∧ reason ≠ .error

/-- A run succeeds, or it reports an error. Then no iteration ends a capture without an error, or
the output of that capture is more than the device takes. -/
theorem ok_runOpen_cases {windows : Bool} {driver : Driver} {device : BufferedDevice}
    {outputOpens : Bool} {capture : CaptureOptions} {config : PolicyConfig} {outputPath : String}
    {clock : SystemClock} {fuel : ℕ} {out : RunOutput}
    (h : runOpen windows driver device outputOpens capture config outputPath clock fuel
      = some out) :
    let output (env : Environment) (n : ℕ) :=
      Recording.fileOf config (writerOf capture env) clock (packetsBefore clock env n)
    (out.result.error = "" ∧ out.result.terminationReason ≠ .error ∧
      ∃ env n, Captures windows driver outputOpens capture env n ∧
        out.file = some (device.keeps (output env n)) ∧
        (output env n).length ≤ (device.keeps (output env n)).length + device.buffer) ∨
    out.result.error ≠ "" ∧ ∀ env n, Captures windows driver outputOpens capture env n →
      device.keeps (output env n) ≠ output env n := by
  intro output
  rcases runOpen_cases h with ⟨herror, -, hnone⟩ | ⟨env, taken, hopens, rfl, hrun, hfile⟩
  · refine Or.inr ⟨herror, ?_⟩
    rintro env n ⟨hopens, houtput, -⟩
    cases (hnone env hopens).symm.trans houtput
  rcases runBuffered_cases device capture config clock env fuel with
    ⟨heq, hlost⟩ | ⟨result, written, heq, herror, -, hbroke⟩
  · obtain ⟨⟨_, _⟩, hplain, hout⟩ := Option.map_eq_some_iff.mp (heq.symm.trans hrun)
    obtain ⟨rfl, rfl⟩ := Prod.mk.inj hout
    have hbound := hlost _ hplain
    obtain ⟨n, -, reason, hends, hresult, rfl⟩ := (run_eq_some_iff config clock).mp hplain
    have hreason := (loopBody_exitAt config clock hends.reason).2
    have herror := error_resultAt config clock hends
    rw [← hresult] at hreason herror
    by_cases hok : reason = .error
    · refine Or.inr ⟨fun hempty => herror.mp hempty hok, ?_⟩
      rintro env' n' ⟨hopens', -, reason', hends', hok'⟩
      obtain rfl := hopens.unique hopens'
      exact absurd ((hends'.unique hends).2.trans hok) hok'
    · exact Or.inl ⟨herror.mpr hok, hreason ▸ hok, env, n, ⟨hopens, rfl, reason, hends, hok⟩, hfile,
        hbound⟩
  · obtain ⟨rfl, rfl⟩ := Prod.mk.inj (Option.some.inj (heq.symm.trans hrun))
    refine Or.inr ⟨herror ▸ (by decide), ?_⟩
    rintro env' n' ⟨hopens', -, reason', hends', -⟩ hall
    obtain rfl := hopens.unique hopens'
    -- the loop goes on where the write fails, so the complete file is longer
    rcases hbroke with ⟨rfl, hfull, -⟩ | ⟨n, packet, hgoesOn, hpacket, rfl, hfull, -⟩
    · exact hfull (BufferedDevice.keeps_eq_self_of_longer hall
        (Recording.fileOf_mono config _ clock List.nil_prefix))
    · have hlt : n < n' := by
        by_contra hle
        cases (hgoesOn n' (Nat.not_lt.mp hle)).symm.trans hends'.reason
      have hnext : packetsBefore clock env (n + 1) = packetsBefore clock env n ++ [packet] := by
        rw [packetsBefore_succ, hpacket]
        rfl
      rw [← hnext] at hfull
      exact hfull (BufferedDevice.keeps_eq_self_of_longer hall
        (Recording.fileOf_mono config _ clock (packetsBefore_mono clock env hlt)))

end NpcapCapture

namespace Program

open NpcapCapture

/-! ## What the commands are for -/

/-- The configuration file at `path` opens, and what is read of it is accepted. -/
def Configured (world : World) (path : String) (config : PolicyConfig) : Prop :=
  ∃ text, world.configFile path = .opened text ∧
    (ConfigLoader.loadFromString text path).ok = true ∧
    config = (ConfigLoader.loadFromString text path).config

/-- The build has Npcap, and the runtime can be loaded. -/
def NpcapReady (world : World) : Prop :=
  world.hasNpcap = true ∧
    (world.windows = true →
      world.loadLibrary "wpcap.dll" = none ∧ world.loadLibrary "Packet.dll" = none)

/-- A command. -/
inductive Command
  | help
  | listInterfaces
  | liveCapture (path : String)
  | offlineFeed (path inputPath : String)
deriving DecidableEq, Repr

/-- The arguments that ask for a command. -/
def Command.args : Command → List String
  | help => ["--help"]
  | listInterfaces => ["--list-interfaces"]
  | liveCapture path => ["--config", path]
  | offlineFeed path inputPath => ["--config", path, "--offline-input", inputPath]

/-- The path of the configuration file of a command. -/
def Command.configPath : Command → Option String
  | help => none
  | listInterfaces => none
  | liveCapture path => some path
  | offlineFeed path _ => some path

/-- The command does what it is for, and `file` is what it leaves. -/
inductive Completes (world : World) : Command → Option (String × Bytes) → Prop
  | helped : Completes world .help none
  | listed {devices : List PcapIf} (hready : NpcapReady world)
    (hdevices : world.findAllDevs = .ok devices) : Completes world .listInterfaces none
  | captured {path : String} {config : PolicyConfig} {env : Environment} {n : ℕ}
    (hconfig : Configured world path config) (hready : NpcapReady world)
    (hinterface : config.capture.interface ≠ "")
    (hcaptures : Captures world.windows world.driver (world.outputOpens config.capture.output)
      config.capture env n) :
    Completes world (.liveCapture path)
      (some (config.capture.output, Recording.fileOf config (writerOf config.capture env)
        world.clock (packetsBefore world.clock env n)))
  | fed {path inputPath : String} {config : PolicyConfig} {file : PcapFile}
    (hconfig : Configured world path config)
    (hfeeds : OfflinePacketFeed.Feeds (world.inputFile inputPath)
      (world.outputOpens config.capture.output) file) :
    Completes world (.offlineFeed path inputPath)
      (some (config.capture.output, OfflinePacketFeed.outputOf world.clock config file))

/-- The command is a feed whose output file is its input file. -/
def OverwritesInput (world : World) (command : Command) : Prop :=
  ∃ path inputPath config, command = .offlineFeed path inputPath ∧ Configured world path config ∧
    world.sameFile inputPath config.capture.output = true

/-- The outcome of a command tells whether it was completed. If it was, its file is as much as the
device takes of the complete one, and lacks at most what was in the buffer at the end; if not, there
is a message, and any complete file is more than the device takes. -/
structure Tells (world : World) (command : Command) (outcome : Outcome) : Prop where
  success : outcome.exitCode = 0 → ∃ file, Completes world command file ∧
    outcome.file = file.map (fun (path, bytes) => (path, world.device.keeps bytes)) ∧
    ∀ path bytes, file = some (path, bytes) →
      bytes.length ≤ (world.device.keeps bytes).length + world.device.buffer
  failure : outcome.exitCode ≠ 0 → outcome.exitCode = 1 ∧ outcome.stderr ≠ "" ∧
    ∀ file, Completes world command file →
      ∃ path bytes, file = some (path, bytes) ∧ world.device.keeps bytes ≠ bytes

/-- A command that leaves no file. -/
theorem Tells.of_success {world : World} {command : Command} {outcome : Outcome}
    (hcode : outcome.exitCode = 0) (hfile : outcome.file = none)
    (hcomplete : Completes world command none) : Tells world command outcome where
  success := fun _ => ⟨none, hcomplete, hfile, nofun⟩
  failure := fun h => absurd hcode h

/-- A command that cannot be completed says so. -/
theorem Tells.of_failure {world : World} {command : Command} {outcome : Outcome}
    (hcode : outcome.exitCode = 1) (hstderr : outcome.stderr ≠ "")
    (hincomplete : ∀ file, ¬ Completes world command file) : Tells world command outcome where
  success := fun h => absurd (hcode.symm.trans h) Nat.one_ne_zero
  failure := fun _ => ⟨hcode, hstderr, fun file h => absurd h (hincomplete file)⟩

variable {world : World}

/-! ## The Npcap runtime -/

theorem formatNpcapRuntimeMissingMessage_ne_empty (detail : String) :
    formatNpcapRuntimeMissingMessage detail ≠ "" := by
  unfold formatNpcapRuntimeMissingMessage
  refine append_ne_empty ?_ _
  decide

/-- A missing runtime is explained. -/
theorem message_ne_empty {windows : Bool} {loadLibrary : String → Option UInt32}
    (h : (checkNpcapRuntimeAvailable windows loadLibrary).available = false) :
    (checkNpcapRuntimeAvailable windows loadLibrary).message ≠ "" := by
  unfold checkNpcapRuntimeAvailable at h ⊢
  split_ifs at h ⊢ with hwindows
  split at h
  · exact formatNpcapRuntimeMissingMessage_ne_empty _
  split at h
  · exact formatNpcapRuntimeMissingMessage_ne_empty _
  · cases h

/-- The runtime is available when both libraries load; other systems are not asked. -/
theorem available_iff {windows : Bool} {loadLibrary : String → Option UInt32} :
    (checkNpcapRuntimeAvailable windows loadLibrary).available = true ↔
      (windows = true → loadLibrary "wpcap.dll" = none ∧ loadLibrary "Packet.dll" = none) := by
  unfold checkNpcapRuntimeAvailable
  cases windows with
  | false => simp
  | true => cases loadLibrary "wpcap.dll" <;> cases loadLibrary "Packet.dll" <;> simp

theorem stderr_runMissingNpcapRuntimeMessage {windows : Bool}
    {loadLibrary : String → Option UInt32}
    (h : (checkNpcapRuntimeAvailable windows loadLibrary).available = false) :
    (runMissingNpcapRuntimeMessage (checkNpcapRuntimeAvailable windows loadLibrary)).stderr ≠ "" :=
  append_ne_empty (message_ne_empty h) _

/-! ## The commands -/

/-- The declarative condition is what the program checks. -/
theorem npcapReady_iff :
    NpcapReady world ↔ world.hasNpcap = true ∧
      (checkNpcapRuntimeAvailable world.windows world.loadLibrary).available = true := by
  rw [NpcapReady, available_iff]

/-- Listing the interfaces tells whether the driver could list them. -/
theorem tells_runListInterfaces : Tells world .listInterfaces (runListInterfaces world) := by
  unfold runListInterfaces
  by_cases hnpcap : world.hasNpcap = true
  · rw [if_neg (by simp [hnpcap])]
    by_cases havailable :
        (checkNpcapRuntimeAvailable world.windows world.loadLibrary).available = true
    · have hready : NpcapReady world := npcapReady_iff.mpr ⟨hnpcap, havailable⟩
      simp only [havailable, Bool.not_true, Bool.false_eq_true, if_false, listNpcapInterfaces,
        hnpcap, if_true]
      cases hdevices : world.findAllDevs with
      | error errorBuffer =>
        have herror : (if errorBuffer ≠ "" then errorBuffer
            else "pcap_findalldevs failed with no error details") ≠ "" := by
          split
          · assumption
          · decide
        dsimp only
        rw [if_pos herror]
        refine .of_failure rfl (append_ne_empty (append_ne_empty (by decide) _) _) ?_
        rintro file (_ | ⟨-, hlisted⟩)
        cases hdevices.symm.trans hlisted
      | ok devices =>
        have hcompletes := Completes.listed hready hdevices
        dsimp only
        rw [if_neg (not_not.mpr rfl)]
        split
        · exact .of_success rfl rfl hcompletes
        · exact .of_success rfl rfl hcompletes
    · -- the runtime's libraries do not load
      rw [Bool.not_eq_true] at havailable
      rw [if_pos (by simp [havailable])]
      refine .of_failure rfl (stderr_runMissingNpcapRuntimeMessage havailable) ?_
      rintro file (_ | ⟨hready, -⟩)
      cases havailable.symm.trans (npcapReady_iff.mp hready).2
  · rw [if_pos (by simpa using hnpcap)]
    refine .of_failure rfl (append_ne_empty (append_ne_empty (by decide) _) _) ?_
    rintro file (_ | ⟨hready, -⟩)
    exact hnpcap hready.1

/-- A path has one configuration at most. -/
theorem Configured.unique {path : String} {config config' : PolicyConfig}
    (h : Configured world path config) (h' : Configured world path config') : config = config' := by
  obtain ⟨text, htext, -, rfl⟩ := h
  obtain ⟨text', htext', -, rfl⟩ := h'
  obtain rfl := TextFile.opened.inj (htext.symm.trans htext')
  rfl

/-- What is loaded is the configuration that the file's text states. -/
theorem configured_of_ok {path : String}
    (h : (ConfigLoader.loadFromFile path (world.configFile path)).ok = true) :
    Configured world path (ConfigLoader.loadFromFile path (world.configFile path)).config := by
  cases hfile : world.configFile path with
  | missing =>
    rw [hfile, ConfigLoader.loadFromFile, ConfigLoadResult.ok, beq_iff_eq] at h
    exact absurd h (append_ne_empty (by decide) _)
  | opened text =>
    rw [hfile, ConfigLoader.loadFromFile_opened] at h
    exact ⟨text, hfile, h, rfl⟩

/-- A file that is refused states no configuration. -/
theorem not_configured_of_not_ok {path : String}
    (h : (ConfigLoader.loadFromFile path (world.configFile path)).ok = false)
    (config : PolicyConfig) : ¬ Configured world path config := by
  rintro ⟨text, htext, hok, -⟩
  rw [htext, ConfigLoader.loadFromFile_opened] at h
  cases hok.symm.trans h

/-- The offline pipeline tells whether it has completed. -/
theorem tells_runOfflinePipeline {path inputPath : String} {config : PolicyConfig}
    (hconfig : Configured world path config)
    (hdistinct : world.sameFile inputPath config.capture.output = false) :
    Tells world (.offlineFeed path inputPath) (runOfflinePipeline world inputPath config) := by
  have hcases := OfflinePacketFeed.ok_runBuffered_cases world.device world.clock config
    (world.inputFile inputPath) (world.outputOpens config.capture.output)
  unfold runOfflinePipeline
  dsimp only at hcases ⊢
  rw [World.rereadBehind, if_neg (Bool.eq_false_iff.mp hdistinct)]
  rcases hcases with ⟨hok, file, hfeeds, hfile, hlost⟩ | ⟨hok, hreason⟩
  · rw [if_neg (by simp [hok]), hfile]
    refine ⟨fun _ => ⟨_, .fed hconfig hfeeds, rfl, ?_⟩, fun h => absurd rfl h⟩
    rintro _ _ ⟨⟩
    exact hlost
  · rw [if_pos (by simp [hok])]
    refine ⟨fun h => absurd h Nat.one_ne_zero, fun _ => ⟨rfl, ?_, fun file hcompletes => ?_⟩⟩
    · exact append_ne_empty (append_ne_empty (by decide) _) _
    · cases hcompletes with
      | fed hconfig' hfeeds =>
        obtain rfl := hconfig.unique hconfig'
        exact ⟨_, _, rfl, hreason _ hfeeds⟩

/-- The live capture tells whether it has completed. -/
theorem tells_runLiveCapture {path : String} {config : PolicyConfig} {fuel : ℕ} {outcome : Outcome}
    (hconfig : Configured world path config)
    (h : runLiveCapture world config fuel = some outcome) :
    Tells world (.liveCapture path) outcome := by
  unfold runLiveCapture at h
  dsimp only at h
  split at h
  · next hnpcap =>
    obtain rfl := Option.some.inj h
    refine .of_failure rfl (by decide) fun file hcompletes => ?_
    cases hcompletes with
    | captured _ hready => simp [hready.1] at hnpcap
  next hnpcap =>
  split at h
  · next havailable =>
    obtain rfl := Option.some.inj h
    rw [Bool.not_eq_true'] at havailable
    refine .of_failure rfl (stderr_runMissingNpcapRuntimeMessage havailable) fun file hc => ?_
    cases hc with
    | captured _ hready => cases havailable.symm.trans (npcapReady_iff.mp hready).2
  next havailable =>
  split at h
  · next hinterface =>
    obtain rfl := Option.some.inj h
    refine .of_failure rfl (by decide) fun file hcompletes => ?_
    cases hcompletes with
    | captured hconfig' _ hinterface' =>
      obtain rfl := hconfig.unique hconfig'
      exact hinterface' hinterface
  next hinterface =>
  obtain ⟨out, hrun, rfl⟩ := Option.map_eq_some_iff.mp h
  have hready : NpcapReady world := npcapReady_iff.mpr
    ⟨by simpa using hnpcap, by simpa using havailable⟩
  unfold reportLiveCapture
  dsimp only
  -- everything in front of the capture has gone well
  rcases ok_runOpen_cases hrun with
    ⟨herror, hreason, env, n, hcaptures, hfile, hlost⟩ | ⟨herror, hcause⟩
  · rw [if_neg (not_not.mpr herror), hfile]
    have hsuccess : liveCaptureTerminationIsSuccess out.result.terminationReason = true :=
      bne_iff_ne.mpr hreason
    rw [hsuccess]
    refine ⟨fun _ => ⟨_, .captured hconfig hready hinterface hcaptures, rfl, ?_⟩,
      fun h => absurd rfl h⟩
    rintro _ _ ⟨⟩
    exact hlost
  · rw [if_pos herror]
    refine ⟨fun h => absurd h Nat.one_ne_zero, fun _ => ⟨rfl, ?_, fun file hcompletes => ?_⟩⟩
    · refine append_ne_empty (append_ne_empty (append_ne_empty ?_ _) _) _
      exact append_ne_empty_right (by decide) _
    · cases hcompletes with
      | captured hconfig' _ _ hcaptures =>
        obtain rfl := hconfig.unique hconfig'
        exact ⟨_, _, rfl, hcause _ _ hcaptures⟩

/-- A command with a configuration that is not accepted. -/
structure Unconfigured (world : World) (command : Command) (outcome : Outcome) : Prop where
  config : ∃ path, command.configPath = some path ∧ ∀ config, ¬ Configured world path config
  exitCode : outcome.exitCode = 1
  stderr : outcome.stderr ≠ ""
  file : outcome.file = none

/-- **What the program does** with its arguments. -/
theorem main_cases {args : List String} {fuel : ℕ} {outcome : Outcome}
    (h : main world args fuel = some outcome) :
    (∃ command : Command, args = command.args ∧
      (command = .help ∧ outcome = { exitCode := 0, stdout := usage } ∨
        command = .listInterfaces ∧ outcome = runListInterfaces world ∨
        Unconfigured world command outcome ∨
        (∃ path config, command = .liveCapture path ∧ Configured world path config ∧
          runLiveCapture world config fuel = some outcome) ∨
        ∃ path inputPath config, command = .offlineFeed path inputPath ∧
          Configured world path config ∧ outcome = runOfflinePipeline world inputPath config)) ∨
      (∀ command : Command, args ≠ command.args) ∧
        outcome = { exitCode := 1, stderr := usage } := by
  have hunconfigured : ∀ {command : Command} {path : String}, command.configPath = some path →
      (ConfigLoader.loadFromFile path (world.configFile path)).ok = false →
      Unconfigured world command
        { exitCode := 1
          stderr := "Configuration error: " ++
            (ConfigLoader.loadFromFile path (world.configFile path)).error ++ "\n" } :=
    fun hpath hok => ⟨⟨_, hpath, not_configured_of_not_ok hok⟩, rfl,
      append_ne_empty (append_ne_empty (by decide) _) _, rfl⟩
  unfold main at h
  dsimp only at h
  split at h
  · exact Or.inl ⟨.help, rfl, Or.inl ⟨rfl, (Option.some.inj h).symm⟩⟩
  · exact Or.inl ⟨.listInterfaces, rfl, Or.inr (Or.inl ⟨rfl, (Option.some.inj h).symm⟩)⟩
  · next path =>
    refine Or.inl ⟨.liveCapture path, rfl, Or.inr (Or.inr ?_)⟩
    cases hok : (ConfigLoader.loadFromFile path (world.configFile path)).ok with
    | true =>
      rw [if_neg (by simp [hok])] at h
      exact Or.inr (Or.inl ⟨path, _, rfl, configured_of_ok hok, h⟩)
    | false =>
      rw [if_pos (by simp [hok])] at h
      exact Or.inl (Option.some.inj h ▸ hunconfigured rfl hok)
  · next path inputPath =>
    refine Or.inl ⟨.offlineFeed path inputPath, rfl, Or.inr (Or.inr ?_)⟩
    cases hok : (ConfigLoader.loadFromFile path (world.configFile path)).ok with
    | true =>
      rw [if_neg (by simp [hok])] at h
      exact Or.inr (Or.inr
        ⟨path, inputPath, _, rfl, configured_of_ok hok, (Option.some.inj h).symm⟩)
    | false =>
      rw [if_pos (by simp [hok])] at h
      exact Or.inl (Option.some.inj h ▸ hunconfigured rfl hok)
  · next hhelp hlist hlive hfeed =>
    refine Or.inr ⟨fun command hargs => ?_, (Option.some.inj h).symm⟩
    cases command with
    | help => exact hhelp hargs
    | listInterfaces => exact hlist hargs
    | liveCapture path => exact hlive path hargs
    | offlineFeed path inputPath => exact hfeed path inputPath hargs

/-- Before there is a configuration the program fails, and nothing is completed. -/
theorem Unconfigured.tells {command : Command} {outcome : Outcome}
    (h : Unconfigured world command outcome) : Tells world command outcome := by
  obtain ⟨path, hpath, hnone⟩ := h.config
  refine .of_failure h.exitCode h.stderr fun file hcompletes => ?_
  cases hcompletes with
  | helped => cases hpath
  | listed => cases hpath
  | captured hconfig =>
    obtain rfl := Option.some.inj hpath
    exact hnone _ hconfig
  | fed hconfig =>
    obtain rfl := Option.some.inj hpath
    exact hnone _ hconfig

/-- **What the exit code tells.** Arguments that ask for no command get the usage text. -/
theorem exit_code_tells {args : List String} {fuel : ℕ} {outcome : Outcome}
    (h : main world args fuel = some outcome) :
    (∃ command : Command, args = command.args ∧
        (¬ OverwritesInput world command → Tells world command outcome)) ∨
      (∀ command : Command, args ≠ command.args) ∧
        outcome = { exitCode := 1, stderr := usage } := by
  refine (main_cases h).imp_left fun ⟨command, hargs, hcases⟩ => ⟨command, hargs, fun hinput => ?_⟩
  rcases hcases with ⟨rfl, rfl⟩ | ⟨rfl, rfl⟩ | hunconfigured | ⟨path, config, rfl, hconfig, hrun⟩ |
    ⟨path, inputPath, config, rfl, hconfig, rfl⟩
  · exact .of_success rfl rfl .helped
  · exact tells_runListInterfaces
  · exact hunconfigured.tells
  · exact tells_runLiveCapture hconfig hrun
  · refine tells_runOfflinePipeline hconfig (Bool.eq_false_iff.mpr fun hsame => hinput ?_)
    exact ⟨path, inputPath, config, rfl, hconfig, hsame⟩

/-- A computer where every path holds an empty text and a capture. Its disk has room for 30 bytes,
which nothing notices as long as fewer than 4096 are written. -/
def smallDisk : World where
  hasNpcap := true
  windows := true
  loadLibrary := fun _ => none
  findAllDevs := .ok []
  configFile := fun _ => .opened []
  inputFile := fun _ => .readable twoBytePacket.encode
  outputOpens := fun _ => true
  sameFile := fun path path' => path == path'
  reread := fun _ => []
  device :=
    { capacity := some 30
      buffer := 4095
      handsOver := fun _ n => n / 4096 * 4096
      le_handsOver := fun _ n => by omega }
  driver := { openLive := fun _ _ _ _ => .failed "", datalink := 1, session := interruptedCapture }
  clock := .windows
  elapsedSeconds := "0.000"

/-- The arguments ask for a feed. -/
theorem main_smallDisk :
    main smallDisk ["--config", "capture.ini", "--offline-input", "input.pcap"] 0
      = some (runOfflinePipeline smallDisk "input.pcap"
          (ConfigLoader.loadFromString [] "capture.ini").config) := by
  have hok : (ConfigLoader.loadFromString [] "capture.ini").ok = true := by decide +kernel
  have hload : ConfigLoader.loadFromFile "capture.ini" (smallDisk.configFile "capture.ini")
      = ConfigLoader.loadFromString [] "capture.ini" := rfl
  simp only [main, hload, hok, Bool.not_true, Bool.false_eq_true, if_false]

/-- The disk is full within the only record, and the exit code is 0. -/
theorem outcome_smallDisk :
    let config := (ConfigLoader.loadFromString [] "capture.ini").config
    let outcome := runOfflinePipeline smallDisk "input.pcap" config
    outcome.exitCode = 0 ∧
      outcome.file = some (config.capture.output,
        (OfflinePacketFeed.outputOf smallDisk.clock config twoBytePacket).take 30) := by
  decide +kernel

/-- Success, with as much of the file as the disk takes. -/
theorem exit_code_tells_smallDisk :
    Tells smallDisk (.offlineFeed "capture.ini" "input.pcap")
      (runOfflinePipeline smallDisk "input.pcap"
        (ConfigLoader.loadFromString [] "capture.ini").config) := by
  rcases exit_code_tells main_smallDisk with ⟨command, hargs, htells⟩ | ⟨hnone, -⟩
  · cases command with
    | offlineFeed path inputPath =>
      simp only [Command.args, List.cons.injEq, true_and, and_true] at hargs
      obtain ⟨rfl, rfl⟩ := hargs
      refine htells ?_
      rintro ⟨_, _, _, heq, ⟨text, htext, -, rfl⟩, hsame⟩
      obtain ⟨rfl, rfl⟩ := Command.offlineFeed.inj heq
      obtain rfl := TextFile.opened.inj htext
      have hdistinct : ("input.pcap"
          == (ConfigLoader.loadFromString [] "capture.ini").config.capture.output) = false := by
        decide +kernel
      cases hdistinct.symm.trans hsame
    | help => simp [Command.args] at hargs
    | listInterfaces => simp [Command.args] at hargs
    | liveCapture path => simp [Command.args] at hargs
  · exact absurd rfl (hnone (.offlineFeed "capture.ini" "input.pcap"))

end Program

end PcapConstrictor
