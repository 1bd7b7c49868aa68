import PcapConstrictor.Capture.Termination
import PcapConstrictor.Offline.ReadBack

/-!
# Constricting now or later

A capture can be constricted while it is taken, or taken in full and constricted by the offline feed
afterwards. The two ways give the same file and the same counters (`constrict_now_or_later`).
-/

namespace PcapConstrictor

open ByteString PcapReader

/-! ## Packets that a file stores as they are -/

/-- A packet that survives being written in full: its lengths agree with its bytes and with the
limit `snaplen`, and its time has whole microseconds and is in the range of the seconds field. -/
structure CapturedPacket.Storable (clock : SystemClock) (snaplen : UInt32)
    (packet : CapturedPacket) : Prop where
  length : packet.data.length = packet.capturedLen.toNat
  captured_le : packet.capturedLen ≤ packet.originalLen
  snaplen_le : packet.capturedLen ≤ snaplen
  time : ∃ (sec : UInt32) (usec : ℕ), usec < 1000000 ∧
    packet.timestamp = clock.ofMicroseconds (sec.toNat * 1000000 + usec : ℕ)
  linkType : packet.linkType = .ethernet

namespace PcapWriter

/-- A list of packets, each with all its captured bytes. -/
def inFull (packets : List CapturedPacket) : List Written := packets.map fun p => (p, p.capturedLen)

/-- A storable packet is read back as it was. -/
theorem capturedPacket_of_readsBack {clock : SystemClock} {snaplen : UInt32}
    {packet : CapturedPacket} (h : packet.Storable clock snaplen) {record : PcapPacketRecord}
    (hread : ReadsBack clock packet packet.capturedLen record) :
    OfflinePacketFeed.capturedPacket clock .microsecond record = packet := by
  obtain ⟨sec, usec, husec, htime⟩ := h.time
  obtain ⟨hsec, hfraction⟩ := tsSec_tsUsec_of_microseconds packet
    ((congrArg clock.microseconds htime).trans (clock.microseconds_ofMicroseconds _)) husec
  have hdata : record.bytes = packet.data := by
    rw [hread.bytes, List.take_of_length_le h.length.le]
  have horiginal : record.originalLength = packet.originalLen := by
    rw [hread.originalLength, origLen, max32_eq_left h.captured_le]
  have htimestamp : record.timestamp clock .microsecond = packet.timestamp := by
    rw [PcapPacketRecord.timestamp, hread.tsSec, hread.tsFraction, hsec, hfraction, htime]
    push_cast
    rfl
  obtain ⟨⟨data, capturedLen, originalLen⟩, timestamp, linkType⟩ := packet
  obtain rfl : linkType = .ethernet := h.linkType
  simp only [OfflinePacketFeed.capturedPacket, hdata, hread.capturedLength, horiginal, htimestamp,
    CapturedPacket.data, CapturedPacket.capturedLen, CapturedPacket.originalLen]

/-- **A file with all packets in full delivers these packets.** -/
theorem packetsOf_inFull (writer : PcapWriter) (hsnaplen : writer.snaplen ≠ 0)
    (hlink : writer.linkType = .ethernet) {clock : SystemClock} {snaplen : UInt32}
    {packets : List CapturedPacket} (hpackets : ∀ p ∈ packets, p.Storable clock snaplen)
    (hsize : (writer.globalHeader ++ recordBytes clock (inFull packets)).length < UInt64.size) :
    let bytes := writer.globalHeader ++ recordBytes clock (inFull packets)
    Accepted bytes writer.headerOf ∧
      (opened bytes writer.headerOf).readAll.2.hasError = false ∧
      OfflinePacketFeed.packetsOf clock bytes writer.headerOf = packets := by
  intro bytes
  have haccepted : ∀ w ∈ inFull packets, w.2 ≤ w.1.packet.safeCapturedLen := by
    simp only [inFull, List.forall_mem_map]
    intro p hp
    rw [UInt32.le_iff_toNat_le, PacketView.toNat_safeCapturedLen]
    exact Nat.le_min.mpr ⟨Nat.le_refl _, (hpackets p hp).length.ge⟩
  obtain ⟨-, hok, hread⟩ := readAll_written writer hsnaplen hlink haccepted hsize {}
  refine ⟨accepted_globalHeader hsnaplen hlink hsize, hok, ?_⟩
  rw [inFull, List.forall₂_map_left_iff] at hread
  have heq : List.Forall₂ Eq packets
      (OfflinePacketFeed.packetsOf clock bytes writer.headerOf) := by
    rw [OfflinePacketFeed.packetsOf, List.forall₂_map_right_iff]
    refine List.forall₂_iff_get.mpr ⟨hread.length_eq, fun i hi hi' => ?_⟩
    exact (capturedPacket_of_readsBack (hpackets _ (List.getElem_mem hi)) (hread.get hi hi')).symm
  rw [List.forall₂_eq_eq_eq] at heq
  exact heq.symm

end PcapWriter

/-! ## Capturing in full -/

/-- The configuration with both constrictors disabled. -/
def PolicyConfig.withoutConstrictors (config : PolicyConfig) : PolicyConfig :=
  { config with
    tls := { config.tls with enabled := false }
    quic := { config.quic with enabled := false } }

namespace Recording

/-- The limits of a configuration on the captured length. -/
def snaplenOf (config : PolicyConfig) : UInt32 :=
  min config.capture.defaultSnaplen config.capture.maxCaptureLen

/-- Without constrictors every packet gets its base length. -/
theorem outputLen_withoutConstrictors (config : PolicyConfig) (policy : LiveCapturePolicy.State)
    (packet : CapturedPacket) :
    (LiveCapturePolicy.evaluate config.withoutConstrictors policy packet).2.outputLen
      = LiveCapturePolicy.baseOutputLen config packet := by
  rcases LiveCapturePolicy.evaluate_length config.withoutConstrictors policy packet with
    ⟨heq, -⟩ | ⟨-, -, hcut⟩ | ⟨-, -, hcut⟩
  · exact heq
  · cases hcut.enabled
  · cases hcut.enabled

/-- A packet that can be stored is stored as it was captured, if nothing cuts it. -/
theorem baseOutputLen_of_storable {config : PolicyConfig} {clock : SystemClock}
    {packet : CapturedPacket} (h : packet.Storable clock (snaplenOf config)) :
    LiveCapturePolicy.baseOutputLen config packet = packet.capturedLen := by
  have hsnaplen := UInt32.le_iff_toNat_le.mp h.snaplen_le
  have horiginal := UInt32.le_iff_toNat_le.mp h.captured_le
  have hlength : packet.packet.data.length = packet.capturedLen.toNat := h.length
  rw [snaplenOf, toNat_min32] at hsnaplen
  apply UInt32.toNat_inj.mp
  rw [LiveCapturePolicy.toNat_baseOutputLen, PacketView.toNat_safeCapturedLen, hlength]
  change min (min (min (min packet.capturedLen.toNat packet.capturedLen.toNat) _) _) _ = _
  omega

/-- Without constrictors storable packets are written in full. -/
theorem records_withoutConstrictors {config : PolicyConfig} {clock : SystemClock}
    {packets : List CapturedPacket}
    (h : ∀ p ∈ packets, p.Storable clock (snaplenOf config)) (policy : LiveCapturePolicy.State) :
    (records config.withoutConstrictors clock policy packets).flatten
      = PcapWriter.recordBytes clock (PcapWriter.inFull packets) := by
  induction packets generalizing policy with
  | nil => rfl
  | cons packet packets ih =>
    rw [List.forall_mem_cons] at h
    have hlength := (outputLen_withoutConstrictors config policy packet).trans
      (baseOutputLen_of_storable h.1)
    have hrest := ih h.2
      (LiveCapturePolicy.evaluate config.withoutConstrictors policy packet).1
    unfold records decisions at hrest ⊢
    rw [Transducer.outputs_cons, List.zipWith_cons_cons, List.flatten_cons, hrest, hlength]
    rfl

end Recording

/-! ## Now or later -/

namespace NpcapCapture

/-- The driver hands out packets as it documents: within the limit on the captured length, and with
times from the epoch on. -/
def Environment.Regular (env : Environment) (snaplen : UInt32) : Prop :=
  ∀ k header, (env.nextEx k).header = some header →
    header.caplen ≤ header.len ∧ header.caplen ≤ snaplen ∧
      0 ≤ header.tvSec ∧ header.tvSec < 2 ^ 32 ∧ 0 ≤ header.tvUsec ∧ header.tvUsec < 1000000

/-- Packets of a regular capture can be stored. -/
theorem storable_packetsBefore (clock : SystemClock) {env : Environment} {snaplen : UInt32}
    (hregular : env.Regular snaplen) (hlink : env.linkType = .ethernet) (n : ℕ) :
    ∀ p ∈ packetsBefore clock env n, p.Storable clock snaplen := by
  intro p hp
  obtain ⟨k, -, hpacket⟩ := List.mem_filterMap.mp hp
  unfold packetAt at hpacket
  split at hpacket
  · cases hpacket
  split at hpacket
  · next header bytes hheader hbytes =>
    obtain rfl := Option.some.inj hpacket
    obtain ⟨hlen, hsnaplen, hsec, hsec', husec, husec'⟩ := hregular k header hheader
    refine ⟨?_, hlen, hsnaplen, ?_, hlink⟩
    · exact List.length_take_of_le (env.buffered k header bytes hheader hbytes)
    · have hsecNat : ((UInt32.ofNat header.tvSec.toNat).toNat : ℤ) = header.tvSec := by
        rw [UInt32.toNat_ofNat', Nat.mod_eq_of_lt (by omega)]
        omega
      refine ⟨UInt32.ofNat header.tvSec.toNat, header.tvUsec.toNat, by omega, ?_⟩
      rw [capturedPacket, toTimestamp]
      push_cast
      rw [hsecNat, Int.toNat_of_nonneg husec]
  · cases hpacket

/-- The offline feed over a file with all packets in full does what a live capture of these packets
does. -/
theorem feed_inFull {config : PolicyConfig} {clock : SystemClock} {writer : PcapWriter}
    (hsnaplen : writer.snaplen ≠ 0) (hlink : writer.linkType = .ethernet)
    {packets : List CapturedPacket} (hne : packets ≠ [])
    (hpackets : ∀ p ∈ packets, p.Storable clock (Recording.snaplenOf config))
    (hsize : (writer.globalHeader
      ++ PcapWriter.recordBytes clock (PcapWriter.inFull packets)).length < UInt64.size) :
    let stats := (Recording.consumeAll config writer clock {} packets).stats
    OfflinePacketFeed.run clock config (.readable (writer.globalHeader
        ++ PcapWriter.recordBytes clock (PcapWriter.inFull packets))) true
      = ({ stats := { stats with bytesSaved := stats.bytesInput - stats.bytesOutput } },
          some (writer.globalHeader
            ++ (Recording.records config clock {} packets).flatten)) := by
  intro stats
  obtain ⟨hacc, hok, hread⟩ := PcapWriter.packetsOf_inFull writer hsnaplen hlink hpackets hsize
  -- the feed writes with the header that the capture has written
  have hwriter : OfflinePacketFeed.writerOf writer.headerOf = writer := by
    have hfields := PcapWriter.globalHeader_fields writer []
    rw [List.append_nil] at hfields
    rw [OfflinePacketFeed.writerOf, PcapWriter.mk.injEq]
    exact ⟨hfields.2.2.2.1, hlink.symm⟩
  have houtput := OfflinePacketFeed.output_of_accepted clock config hacc
  have hrecords : OfflinePacketFeed.recordsOf (writer.globalHeader
      ++ PcapWriter.recordBytes clock (PcapWriter.inFull packets)) writer.headerOf ≠ [] := by
    intro hnil
    rw [OfflinePacketFeed.packetsOf, hnil] at hread
    exact hne hread.symm
  have hrun := OfflinePacketFeed.run_of_accepted clock config hacc
  rw [hread] at houtput hrun
  rw [if_neg hrecords, hwriter] at houtput
  refine Prod.ext ?_ houtput
  rw [hrun, hwriter]
  simp only [OfflinePacketFeed.feedResult, hok, Bool.false_eq_true, if_false, stats]

/-- **Constricting now or later comes to the same.** Take a capture in full and run the offline feed
over its file, or constrict while capturing: file and counters are the same. -/
theorem constrict_now_or_later {config : PolicyConfig} {clock : SystemClock} {env : Environment}
    {fuel : ℕ} {result : NpcapCaptureRunResult} {full : Bytes} (hlink : env.linkType = .ethernet)
    (hsnaplen : Recording.snaplenOf config ≠ 0)
    (hregular : env.Regular (Recording.snaplenOf config))
    (hrun : run config.capture config.withoutConstrictors clock env fuel = some (result, full))
    (hpackets : kClassicPcapGlobalHeaderSize < full.length) (hsize : full.length < UInt64.size) :
    ∃ result' output,
      run config.capture config clock env fuel = some (result', output) ∧
      result'.terminationReason = result.terminationReason ∧
      OfflinePacketFeed.run clock config (.readable full) true
        = ({ stats := { result'.stats with receiveErrors := 0 } }, some output) := by
  obtain ⟨n, hlt, reason, hends, rfl, rfl⟩ := (run_eq_some_iff _ clock).mp hrun
  set packets := packetsBefore clock env n with hbefore
  have hstorable := storable_packetsBefore clock hregular hlink n
  -- without constrictors every packet is written in full
  have hfull : outputAt config.capture config.withoutConstrictors clock env n
      = (writerOf config.capture env).globalHeader
        ++ PcapWriter.recordBytes clock (PcapWriter.inFull packets) :=
    congrArg _ (Recording.records_withoutConstrictors hstorable {})
  rw [hfull] at hpackets hsize ⊢
  have hne : packets ≠ [] := by
    intro hnil
    rw [hnil] at hpackets
    simp [PcapWriter.inFull, PcapWriter.recordBytes, kClassicPcapGlobalHeaderSize] at hpackets
  refine ⟨resultAt config.capture config clock env n, outputAt config.capture config clock env n,
    (run_eq_some_iff config clock).mpr ⟨n, hlt, reason, hends, rfl, rfl⟩, ?_, ?_⟩
  · rw [(loopBody_exitAt _ clock hends.reason).2, (loopBody_exitAt _ clock hends.reason).2]
  · rw [feed_inFull hsnaplen hlink hne hstorable hsize, stats_resultAt config clock hends]
    -- the counters depend on the packets only, not on what was written
    have hstats : (localsAt config.capture config clock env n).recording.stats
        = (Recording.consumeAll config (writerOf config.capture env) clock {} packets).stats := by
      rw [localsAt, Recording.stats_consumeAll_eq_foldl, Recording.stats_consumeAll_eq_foldl]
      rfl
    rw [hstats]
    rfl

/-- A capture of a QUIC handshake and of a short header with the connection ID it has taught. -/
def quicCapture : Environment where
  linkType := .ethernet
  stopRequested _ := false
  startTime := 0
  now _ := 0
  nextEx
    | 0 =>
      { status := 1
        header := some { tvSec := 1, tvUsec := 2, caplen := 55, len := 55 }
        bytes := some (exampleEnds.udpFrame [0xE0, 0, 0, 0, 1, 0, 4, 1, 2, 3, 4, 1, 0xAA]) }
    | 1 =>
      { status := 1
        header := some { tvSec := 3, tvUsec := 4, caplen := 50, len := 50 }
        bytes := some (exampleEnds.reverse.udpFrame [0x40, 1, 2, 3, 4, 5, 6, 7]) }
    | _ => { status := PCAP_ERROR_BREAK }
  stop_mono _ h := h
  buffered
    | 0, _, _, rfl, rfl => by decide
    | 1, _, _, rfl, rfl => by decide

/-- A configuration that cuts short headers behind their connection ID. -/
def eagerConfig : PolicyConfig where
  general := { minSavedBytesPerPacket := 0 }
  quic := { shortHeaderKeepPacketBytes := 0 }

theorem regular_quicCapture : quicCapture.Regular (Recording.snaplenOf eagerConfig)
  | 0, _, rfl => by decide
  | 1, _, rfl => by decide

/-- Three bytes are cut, at once or from the full file. -/
theorem constrict_now_or_later_quic :
    ∃ result full result' output,
      run eagerConfig.capture eagerConfig.withoutConstrictors .windows quicCapture 3
        = some (result, full) ∧
      run eagerConfig.capture eagerConfig .windows quicCapture 3 = some (result', output) ∧
      OfflinePacketFeed.run .windows eagerConfig (.readable full) true
        = ({ stats := { result'.stats with receiveErrors := 0 } }, some output) ∧
      full.length = 161 ∧ output.length = 158 := by
  have hplain : (run eagerConfig.capture eagerConfig.withoutConstrictors .windows quicCapture
      3).map (·.2.length) = some 161 := by decide +kernel
  have heager : (run eagerConfig.capture eagerConfig .windows quicCapture 3).map (·.2.length)
      = some 158 := by decide +kernel
  obtain ⟨⟨result, full⟩, hrun, hfull⟩ := Option.map_eq_some_iff.mp hplain
  dsimp only at hfull
  have hpackets : kClassicPcapGlobalHeaderSize < full.length := by rw [hfull]; decide
  have hsize : full.length < UInt64.size := by rw [hfull]; decide
  obtain ⟨result', output, hrun', -, hfeed⟩ := constrict_now_or_later rfl (by decide)
    regular_quicCapture hrun hpackets hsize
  rw [hrun', Option.map_some, Option.some.injEq] at heager
  exact ⟨result, full, result', output, hrun, hrun', hfeed, hfull, heager⟩

end NpcapCapture

end PcapConstrictor
