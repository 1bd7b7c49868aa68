import PcapConstrictor.Program.ExitCode

/-!
# What the program writes

The program writes one file at most, the configured output. Whatever goes wrong, with the input, the
driver or the disk, that file holds the beginning of a global header and the records decided for the
packets received, and nothing else (`file_written`). Only of a feed whose output file is its own
input file it is not said what packets it receives.
-/

namespace PcapConstrictor

open ByteString PcapReader

namespace OfflinePacketFeed

/-- A run that leaves a file has opened it. -/
theorem outputOpens_of_runBuffered {device : BufferedDevice} {reread : Bytes → Bytes}
    {clock : SystemClock} {config : PolicyConfig} {input : InputFile} {outputOpens : Bool}
    {taken : Bytes}
    (h : (runBuffered device reread clock config input outputOpens).2 = some taken) :
    outputOpens = true := by
  cases outputOpens with
  | true => rfl
  | false =>
    unfold runBuffered at h
    dsimp only at h
    split at h
    · cases h
    · cases h

/-- What a run writes is the beginning of the file for the packets of its input. -/
theorem written_runBuffered {device : BufferedDevice} {clock : SystemClock} {config : PolicyConfig}
    {input : InputFile} {outputOpens : Bool} {taken : Bytes}
    (h : (runBuffered device id clock config input outputOpens).2 = some taken) :
    ∃ bytes header, input = .readable bytes ∧ Accepted bytes header ∧
      taken <+: Recording.fileOf config (writerOf header) clock (packetsOf clock bytes header) := by
  obtain rfl := outputOpens_of_runBuffered h
  rcases runBuffered_cases device clock config input true with
    ⟨heq, -⟩ | ⟨-, bytes, header, before, packet, after, hinput, -, hacc, hpackets, hfile, -⟩
  · rw [heq] at h
    obtain ⟨output, houtput, rfl⟩ := Option.map_eq_some_iff.mp h
    by_cases haccepted : ∃ bytes header, input = .readable bytes ∧ Accepted bytes header
    · obtain ⟨bytes, header, rfl, hacc⟩ := haccepted
      refine ⟨bytes, header, rfl, hacc, (BufferedDevice.keeps_prefix_self output).trans ?_⟩
      rw [run_of_accepted clock config hacc] at houtput
      obtain rfl := Option.some.inj houtput
      by_cases hnil : packetsOf clock bytes header = []
      · rw [hnil]
        exact List.nil_prefix
      · rw [output_fileOf config clock _ hnil]
    · cases (run_of_not_accepted clock config haccepted true).2.symm.trans houtput
  · obtain rfl := Option.some.inj (hfile.symm.trans h)
    have hfront : before ++ [packet] <+: packetsOf clock bytes header :=
      ⟨after, by rw [hpackets, List.append_assoc, List.singleton_append]⟩
    exact ⟨bytes, header, hinput, hacc, (BufferedDevice.keeps_prefix_self _).trans
      (Recording.fileOf_mono config _ clock hfront)⟩

end OfflinePacketFeed

namespace NpcapCapture

/-- What a run writes is the beginning of the file for the packets delivered to its loop. -/
theorem written_runOpen {windows : Bool} {driver : Driver} {device : BufferedDevice}
    {outputOpens : Bool} {capture : CaptureOptions} {config : PolicyConfig} {outputPath : String}
    {clock : SystemClock} {fuel : ℕ} {out : RunOutput} {taken : Bytes}
    (h : runOpen windows driver device outputOpens capture config outputPath clock fuel = some out)
    (hfile : out.file = some taken) :
    outputOpens = true ∧ ∃ env n, Opens windows driver capture env ∧
      (∀ j < n, endReason capture env j = none) ∧
      taken
        <+: Recording.fileOf config (writerOf capture env) clock (packetsBefore clock env n) := by
  rcases runOpen_cases h with ⟨-, hnone, -⟩ | ⟨env, written, hopens, houtput, hrun, hwritten⟩
  · cases hnone.symm.trans hfile
  obtain rfl := Option.some.inj (hwritten.symm.trans hfile)
  refine ⟨houtput, env, ?_⟩
  rcases runBuffered_cases device capture config clock env fuel with
    ⟨heq, -⟩ | ⟨result, bytes, heq, -, -, hbroke⟩
  · obtain ⟨⟨_, output⟩, hplain, hout⟩ := Option.map_eq_some_iff.mp (heq.symm.trans hrun)
    obtain ⟨rfl, rfl⟩ := Prod.mk.inj hout
    obtain ⟨n, -, reason, hends, -, rfl⟩ := (run_eq_some_iff config clock).mp hplain
    exact ⟨n, hopens, hends.first, BufferedDevice.keeps_prefix_self _⟩
  · obtain ⟨rfl, rfl⟩ := Prod.mk.inj (Option.some.inj (heq.symm.trans hrun))
    rcases hbroke with ⟨rfl, -⟩ | ⟨n, packet, hgoesOn, hpacket, rfl, -⟩
    · exact ⟨0, hopens, fun j hj => absurd hj (Nat.not_lt_zero j),
        BufferedDevice.keeps_prefix_self _⟩
    · refine ⟨n + 1, hopens, fun j hj => hgoesOn j (Nat.le_of_lt_succ hj), ?_⟩
      rw [packetsBefore_succ, hpacket]
      exact BufferedDevice.keeps_prefix_self _

end NpcapCapture

namespace Program

open NpcapCapture

/-- The packets that come in when a command runs: those of the input file, or those that the driver
delivers in front of an iteration that the loop gets to. -/
inductive Receives (world : World) (config : PolicyConfig) :
    Command → PcapWriter → List CapturedPacket → Prop
  | fed {path inputPath : String} {bytes : Bytes} {header : ClassicPcapGlobalHeader}
    (hinput : world.inputFile inputPath = .readable bytes) (haccepted : Accepted bytes header) :
    Receives world config (.offlineFeed path inputPath) (OfflinePacketFeed.writerOf header)
      (OfflinePacketFeed.packetsOf world.clock bytes header)
  | captured {path : String} {env : Environment} {n : ℕ}
    (hopens : Opens world.windows world.driver config.capture env)
    (hfirst : ∀ j < n, endReason config.capture env j = none) :
    Receives world config (.liveCapture path) (writerOf config.capture env)
      (packetsBefore world.clock env n)

variable {world : World}

/-- A list of interfaces is printed, not written. -/
theorem file_runListInterfaces : (runListInterfaces world).file = none := by
  unfold runListInterfaces
  dsimp only
  split_ifs <;> rfl

/-- The output file is that of the feed. -/
theorem file_runOfflinePipeline (inputPath : String) (config : PolicyConfig) :
    (runOfflinePipeline world inputPath config).file
      = (OfflinePacketFeed.runBuffered world.device
          (world.rereadBehind inputPath config.capture.output) world.clock config
          (world.inputFile inputPath) (world.outputOpens config.capture.output)).2.map fun bytes =>
            (config.capture.output, bytes) := by
  unfold runOfflinePipeline
  dsimp only
  split <;> rfl

/-- The output file is that of the capture. -/
theorem file_reportLiveCapture (config : PolicyConfig) (out : RunOutput) :
    (reportLiveCapture world config out).file
      = out.file.map fun bytes => (config.capture.output, bytes) := by
  unfold reportLiveCapture
  dsimp only
  split <;> rfl

/-- A live capture that leaves a file has got to open the interface. -/
theorem exists_runOpen_of_file {config : PolicyConfig} {fuel : ℕ} {outcome : Outcome}
    {file : String × Bytes} (h : runLiveCapture world config fuel = some outcome)
    (hfile : outcome.file = some file) :
    ∃ out taken, runOpen world.windows world.driver world.device
        (world.outputOpens config.capture.output) config.capture config config.capture.output
        world.clock fuel = some out ∧
      out.file = some taken ∧ (config.capture.output, taken) = file := by
  unfold runLiveCapture at h
  dsimp only at h
  split at h
  · obtain rfl := Option.some.inj h
    cases hfile
  split at h
  · obtain rfl := Option.some.inj h
    cases hfile
  split at h
  · obtain rfl := Option.some.inj h
    cases hfile
  obtain ⟨out, hrun, rfl⟩ := Option.map_eq_some_iff.mp h
  rw [file_reportLiveCapture] at hfile
  obtain ⟨taken, htaken, hpath⟩ := Option.map_eq_some_iff.mp hfile
  exact ⟨out, taken, hrun, htaken, hpath⟩

/-- **What the program writes**: the configured output and no other file, and in it, unless the
input file is overwritten, the beginning of the records for the packets received. -/
theorem file_written {args : List String} {fuel : ℕ} {outcome : Outcome} {path : String}
    {bytes : Bytes} (h : main world args fuel = some outcome)
    (hfile : outcome.file = some (path, bytes)) :
    ∃ command configPath config, args = Command.args command ∧
      command.configPath = some configPath ∧ Configured world configPath config ∧
      path = config.capture.output ∧ world.outputOpens path = true ∧
      (¬ OverwritesInput world command → ∃ writer packets,
        Receives world config command writer packets ∧
        bytes <+: Recording.fileOf config writer world.clock packets) := by
  rcases main_cases h with ⟨command, hargs, hcases⟩ | ⟨-, rfl⟩
  · rcases hcases with ⟨rfl, rfl⟩ | ⟨rfl, rfl⟩ | hunconfigured |
      ⟨configPath, config, rfl, hconfig, hrun⟩ | ⟨configPath, inputPath, config, rfl, hconfig, rfl⟩
    · cases hfile
    · cases file_runListInterfaces.symm.trans hfile
    · cases hunconfigured.file.symm.trans hfile
    · obtain ⟨out, taken, hopen, htaken, hpath⟩ := exists_runOpen_of_file hrun hfile
      obtain ⟨rfl, rfl⟩ := Prod.mk.inj hpath
      obtain ⟨houtput, env, n, hopens, hfirst, hle⟩ := written_runOpen hopen htaken
      exact ⟨_, configPath, config, hargs, rfl, hconfig, rfl, houtput,
        fun _ => ⟨_, _, .captured hopens hfirst, hle⟩⟩
    · rw [file_runOfflinePipeline] at hfile
      obtain ⟨taken, htaken, hpath⟩ := Option.map_eq_some_iff.mp hfile
      obtain ⟨rfl, rfl⟩ := Prod.mk.inj hpath
      refine ⟨_, configPath, config, hargs, rfl, hconfig, rfl,
        OfflinePacketFeed.outputOpens_of_runBuffered htaken, fun hinput => ?_⟩
      -- the input is not overwritten, so it is read as it was opened
      have hdistinct : ¬ world.sameFile inputPath config.capture.output = true :=
        fun hsame => hinput ⟨configPath, inputPath, config, rfl, hconfig, hsame⟩
      rw [World.rereadBehind, if_neg hdistinct] at htaken
      obtain ⟨written, header, hreadable, haccepted, hle⟩ :=
        OfflinePacketFeed.written_runBuffered htaken
      exact ⟨_, _, .fed hreadable haccepted, hle⟩
  · cases hfile

/-- The thirty bytes on the disk are a beginning of the one record's file. -/
theorem file_written_smallDisk :
    let config := (ConfigLoader.loadFromString [] "capture.ini").config
    ∃ command configPath config',
      ["--config", "capture.ini", "--offline-input", "input.pcap"] = Command.args command ∧
      command.configPath = some configPath ∧ Configured smallDisk configPath config' ∧
      config.capture.output = config'.capture.output ∧
      smallDisk.outputOpens config.capture.output = true ∧
      (¬ OverwritesInput smallDisk command → ∃ writer packets,
        Receives smallDisk config' command writer packets ∧
        (OfflinePacketFeed.outputOf smallDisk.clock config twoBytePacket).take 30
          <+: Recording.fileOf config' writer smallDisk.clock packets) :=
  file_written main_smallDisk outcome_smallDisk.2

end Program

end PcapConstrictor
