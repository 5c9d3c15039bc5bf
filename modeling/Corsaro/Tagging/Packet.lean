import Mathlib.Data.Nat.Bitwise
import Corsaro.Report.MetricText

/-! `corsaro_tag_packet` of libcorsaro3's tagger, and the report plugin's
reading of the tags it fills. The tagger clears `providers_used`, sets the basic
tags from the transport header, and then, for an IPv4 source, applies each
record libipmeta returns for the address. The tag structure is reused from
packet to packet: only `providers_used`, the protocol and the ports are cleared,
and a provider's fields keep what an earlier packet left until a record of that
provider overwrites them. What libtrace finds in the packet, and what libipmeta
returns, are given. -/
namespace Corsaro.Tagging

open Corsaro.Report

/-- The values libipmeta gives the Maxmind, Netacq-Edge and pfx2as providers, their bits in
`providers_used`. -/
structure ProviderIds where
  maxmind : Nat
  netacqEdge : Nat
  pfx2as : Nat
  above_basic : 0 < maxmind ∧ 0 < netacqEdge ∧ 0 < pfx2as
  distinct : maxmind ≠ netacqEdge ∧ maxmind ≠ pfx2as ∧ netacqEdge ≠ pfx2as

structure IpmetaRecord where
  source : Nat
  continentCode : UInt8 × UInt8
  countryCode : UInt8 × UInt8
  asn : List UInt32

structure Transport where
  proto : UInt8
  header : List UInt8

inductive SourceAddress
  | inet (addr : UInt32)
  | other

/-- A packet as the tagger sees it: `none` for no transport header or a non-initial fragment. -/
structure Packet where
  transport : Option Transport
  source : Option SourceAddress

/-- The tagger: whether its provider list is set, and what `ipmeta_lookup_single` gives for an
address. -/
structure Tagger where
  hasProviders : Bool
  lookup : UInt32 → Option (List IpmetaRecord)

structure CorsaroPacketTags where
  providersUsed : Nat
  protocol : UInt32
  srcPort : UInt32
  destPort : UInt32
  maxmindContinent : UInt32
  maxmindCountry : UInt32
  netacqContinent : UInt32
  netacqCountry : UInt32
  prefixasn : UInt32

/-! ### The tagger -/

def ntohsAt (header : List UInt8) (i : Nat) : UInt32 :=
  ((header.getD i 0).toNat * 256 + (header.getD (i + 1) 0).toNat).toUInt32

/-- `update_basic_tags`: the protocol, and the ICMP type and code or the ports when the header holds
them. -/
def updateBasicTags (transport : Option Transport) (tags : CorsaroPacketTags) : CorsaroPacketTags :=
  let tags := { tags with protocol := 0, srcPort := 0, destPort := 0 }
  match transport with
  | none => tags
  | some tr =>
    let tags := { tags with protocol := tr.proto.toUInt32 }
    let tags :=
      if tr.proto.toUInt32 = ipprotoIcmp ∧ 2 ≤ tr.header.length then
        { tags with srcPort := (tr.header.getD 0 0).toUInt32, destPort := (tr.header.getD 1 0).toUInt32 }
      else if (tr.proto.toUInt32 = ipprotoTcp ∨ tr.proto.toUInt32 = ipprotoUdp) ∧ 4 ≤ tr.header.length then
        { tags with srcPort := ntohsAt tr.header 0, destPort := ntohsAt tr.header 2 }
      else tags
    { tags with providersUsed := tags.providersUsed ||| 1 }

def updateMaxmindTags (ids : ProviderIds) (rec : IpmetaRecord) (tags : CorsaroPacketTags) :
    CorsaroPacketTags :=
  { tags with
    maxmindContinent := loadCode rec.continentCode.1 rec.continentCode.2
    maxmindCountry := loadCode rec.countryCode.1 rec.countryCode.2
    providersUsed := tags.providersUsed ||| 1 <<< ids.maxmind }

def updateNetacqTags (ids : ProviderIds) (rec : IpmetaRecord) (tags : CorsaroPacketTags) :
    CorsaroPacketTags :=
  { tags with
    netacqContinent := loadCode rec.continentCode.1 rec.continentCode.2
    netacqCountry := loadCode rec.countryCode.1 rec.countryCode.2
    providersUsed := tags.providersUsed ||| 1 <<< ids.netacqEdge }

/-- `update_pfx2as_tags`: a record with other than one ASN is ignored. -/
def updatePfx2asTags (ids : ProviderIds) (rec : IpmetaRecord) (tags : CorsaroPacketTags) :
    CorsaroPacketTags :=
  match rec.asn with
  | [asn] => { tags with prefixasn := asn, providersUsed := tags.providersUsed ||| 1 <<< ids.pfx2as }
  | _ => tags

def tagRecord (ids : ProviderIds) (tags : CorsaroPacketTags) (rec : IpmetaRecord) :
    CorsaroPacketTags :=
  if rec.source = ids.maxmind then updateMaxmindTags ids rec tags
  else if rec.source = ids.netacqEdge then updateNetacqTags ids rec tags
  else if rec.source = ids.pfx2as then updatePfx2asTags ids rec tags
  else tags

/-- `corsaro_tag_packet`: its return value and the tags it leaves. -/
def corsaroTagPacket (ids : ProviderIds) (tagger : Tagger) (packet : Option Packet)
    (tags : CorsaroPacketTags) : Int × CorsaroPacketTags :=
  let tags := { tags with providersUsed := 0 }
  match packet with
  | none => (0, tags)
  | some packet =>
    let tags := updateBasicTags packet.transport tags
    if tagger.hasProviders then
      match packet.source with
      | some (.inet addr) =>
        match tagger.lookup addr with
        | some records => (0, records.foldl (tagRecord ids) tags)
        | none => (-1, tags)
      | _ => (0, tags)
    else (0, tags)

/-! ### The report plugin's reading -/

def providerTagged (providersUsed id : Nat) : Bool := providersUsed &&& 1 <<< id != 0

def maxmindTagged (ids : ProviderIds) (tags : CorsaroPacketTags) : Bool :=
  providerTagged tags.providersUsed ids.maxmind

def netacqTagged (ids : ProviderIds) (tags : CorsaroPacketTags) : Bool :=
  providerTagged tags.providersUsed ids.netacqEdge

def pfx2asTagged (ids : ProviderIds) (tags : CorsaroPacketTags) : Bool :=
  providerTagged tags.providersUsed ids.pfx2as

def CorsaroPacketTags.report (ids : ProviderIds) (tags : CorsaroPacketTags) : PacketTags where
  providersUsed := tags.providersUsed
  protocol := tags.protocol
  srcPort := tags.srcPort
  destPort := tags.destPort
  maxmindTagged := maxmindTagged ids tags
  maxmindContinent := tags.maxmindContinent
  maxmindCountry := tags.maxmindCountry
  netacqTagged := netacqTagged ids tags
  netacqContinent := tags.netacqContinent
  netacqCountry := tags.netacqCountry
  pfx2asTagged := pfx2asTagged ids tags
  prefixasn := tags.prefixasn

/-! ### Bits of `providers_used` -/

@[simp] theorem providerTagged_eq_testBit (u id : Nat) : providerTagged u id = u.testBit id := by
  rw [providerTagged, Nat.one_shiftLeft, Nat.and_two_pow]
  cases u.testBit id <;> simp

@[simp] theorem testBit_or_provider (u id j : Nat) :
    (u ||| 1 <<< j).testBit id = (u.testBit id || decide (j = id)) := by
  rw [Nat.testBit_or, Nat.one_shiftLeft, Nat.testBit_two_pow]

theorem updateBasicTags_used_le (transport : Option Transport) (tags : CorsaroPacketTags) :
    (updateBasicTags transport { tags with providersUsed := 0 }).providersUsed ≤ 1 := by
  cases transport with
  | none => exact Nat.zero_le 1
  | some tr =>
    dsimp only [updateBasicTags]
    split_ifs <;> exact (by decide : (0 ||| 1 : Nat) ≤ 1)

theorem testBit_basic {u id : Nat} (basic : u ≤ 1) (provider : 0 < id) : u.testBit id = false :=
  Nat.testBit_lt_two_pow (basic.trans_lt (Nat.one_lt_two_pow provider.ne'))

/-! ### Stale fields never reach the report -/

/-- Two tag structures `process_tags` cannot tell apart. -/
structure SameReading (ids : ProviderIds) (a b : CorsaroPacketTags) : Prop where
  used : a.providersUsed = b.providersUsed
  basic : a.protocol = b.protocol ∧ a.srcPort = b.srcPort ∧ a.destPort = b.destPort
  maxmind : maxmindTagged ids a →
    a.maxmindContinent = b.maxmindContinent ∧ a.maxmindCountry = b.maxmindCountry
  netacq : netacqTagged ids a →
    a.netacqContinent = b.netacqContinent ∧ a.netacqCountry = b.netacqCountry
  pfx2as : pfx2asTagged ids a → a.prefixasn = b.prefixasn

variable {ids : ProviderIds}

theorem updateBasicTags_sameReading (transport : Option Transport) (a b : CorsaroPacketTags) :
    SameReading ids (updateBasicTags transport { a with providersUsed := 0 })
      (updateBasicTags transport { b with providersUsed := 0 }) := by
  have unset : ∀ id, 0 < id →
      (updateBasicTags transport { a with providersUsed := 0 }).providersUsed.testBit id = false :=
    fun _ provider => testBit_basic (updateBasicTags_used_le transport a) provider
  refine ⟨?_, ?_, fun set => ?_, fun set => ?_, fun set => ?_⟩
  · cases transport with
    | none => rfl
    | some tr => dsimp only [updateBasicTags]; split_ifs <;> rfl
  · cases transport with
    | none => exact ⟨rfl, rfl, rfl⟩
    | some tr => dsimp only [updateBasicTags]; split_ifs <;> exact ⟨rfl, rfl, rfl⟩
  · simp [maxmindTagged, unset ids.maxmind ids.above_basic.1] at set
  · simp [netacqTagged, unset ids.netacqEdge ids.above_basic.2.1] at set
  · simp [pfx2asTagged, unset ids.pfx2as ids.above_basic.2.2] at set

theorem SameReading.record {a b : CorsaroPacketTags} (same : SameReading ids a b)
    (rec : IpmetaRecord) : SameReading ids (tagRecord ids a rec) (tagRecord ids b rec) := by
  obtain ⟨mn, mp, np⟩ := ids.distinct
  have bits : ∀ u i j, providerTagged (u ||| 1 <<< j) i = (providerTagged u i || decide (j = i)) :=
    fun u i j => by rw [providerTagged_eq_testBit, providerTagged_eq_testBit, testBit_or_provider]
  unfold tagRecord
  split_ifs
  · refine ⟨by simp [updateMaxmindTags, same.used], same.basic, fun _ => ⟨rfl, rfl⟩,
      fun set => same.netacq ?_, fun set => same.pfx2as ?_⟩
    · simpa only [netacqTagged, updateMaxmindTags, bits, decide_False, Bool.or_false, mn] using set
    · simpa only [pfx2asTagged, updateMaxmindTags, bits, decide_False, Bool.or_false, mp] using set
  · refine ⟨by simp [updateNetacqTags, same.used], same.basic, fun set => same.maxmind ?_,
      fun _ => ⟨rfl, rfl⟩, fun set => same.pfx2as ?_⟩
    · simpa only [maxmindTagged, updateNetacqTags, bits, decide_False, Bool.or_false, Ne.symm mn] using set
    · simpa only [pfx2asTagged, updateNetacqTags, bits, decide_False, Bool.or_false, np] using set
  · unfold updatePfx2asTags
    split
    · refine ⟨by simp [same.used], same.basic, fun set => same.maxmind ?_,
        fun set => same.netacq ?_, fun _ => rfl⟩
      · simpa only [maxmindTagged, bits, decide_False, Bool.or_false, Ne.symm mp] using set
      · simpa only [netacqTagged, bits, decide_False, Bool.or_false, Ne.symm np] using set
    · exact same
  · exact same

theorem SameReading.foldl {a b : CorsaroPacketTags} (same : SameReading ids a b)
    (records : List IpmetaRecord) :
    SameReading ids (records.foldl (tagRecord ids) a) (records.foldl (tagRecord ids) b) := by
  induction records generalizing a b with
  | nil => exact same
  | cons rec rest ih => exact ih (same.record rec)

theorem SameReading.ids_eq {a b : CorsaroPacketTags} (same : SameReading ids a b) :
    packetTagIds (some (a.report ids)) = packetTagIds (some (b.report ids)) := by
  have flags : maxmindTagged ids a = maxmindTagged ids b ∧ netacqTagged ids a = netacqTagged ids b ∧
      pfx2asTagged ids a = pfx2asTagged ids b := by
    simp only [maxmindTagged, netacqTagged, pfx2asTagged, same.used, and_self]
  have calls : tagCalls (a.report ids) = tagCalls (b.report ids) := by
    obtain ⟨protocol, src, dst⟩ := same.basic
    simp only [tagCalls, CorsaroPacketTags.report, protocol, src, dst, ← flags.1, ← flags.2.1,
      ← flags.2.2]
    by_cases m : maxmindTagged ids a <;> by_cases n : netacqTagged ids a <;>
      by_cases p : pfx2asTagged ids a <;> simp [m, n, p, same.maxmind, same.netacq, same.pfx2as]
  have used : (a.report ids).providersUsed = (b.report ids).providersUsed := same.used
  simp only [packetTagIds, used, calls]

/-- Whatever an earlier packet left in the tag structure, `corsaro_tag_packet`
returns the same value and `process_tags` gives the packet the same ids. -/
theorem tagged_ids_ignore_stale_tags (ids : ProviderIds) (tagger : Tagger) (packet : Option Packet)
    (a b : CorsaroPacketTags) :
    (corsaroTagPacket ids tagger packet a).1 = (corsaroTagPacket ids tagger packet b).1 ∧
      packetTagIds (some ((corsaroTagPacket ids tagger packet a).2.report ids)) =
        packetTagIds (some ((corsaroTagPacket ids tagger packet b).2.report ids)) := by
  cases packet with
  | none => exact ⟨rfl, by simp [corsaroTagPacket, packetTagIds, CorsaroPacketTags.report]⟩
  | some packet =>
    have basic := @updateBasicTags_sameReading ids packet.transport a b
    dsimp only [corsaroTagPacket]
    split
    · split
      · split
        · exact ⟨rfl, (basic.foldl _).ids_eq⟩
        · exact ⟨rfl, basic.ids_eq⟩
      · exact ⟨rfl, basic.ids_eq⟩
    · exact ⟨rfl, basic.ids_eq⟩

/-! ### The IP-protocol tag -/

/-- A record `corsaro_tag_packet` applies: one of Maxmind or Netacq-Edge, or one of pfx2as with
exactly one ASN. -/
def IpmetaRecord.Applies (ids : ProviderIds) (rec : IpmetaRecord) : Prop :=
  rec.source = ids.maxmind ∨ rec.source = ids.netacqEdge ∨
    (rec.source = ids.pfx2as ∧ rec.asn.length = 1)

instance (ids : ProviderIds) : DecidablePred (IpmetaRecord.Applies ids) :=
  fun _ => inferInstanceAs (Decidable (_ ∨ _ ∨ _))

theorem or_provider_ne_zero (u j : Nat) : u ||| 1 <<< j ≠ 0 := fun zero => by
  simpa [zero] using testBit_or_provider u j j

theorem tagRecord_protocol (t : CorsaroPacketTags) (rec : IpmetaRecord) :
    (tagRecord ids t rec).protocol = t.protocol := by
  unfold tagRecord updatePfx2asTags
  split_ifs <;> (try split) <;> rfl

theorem tagRecord_used_eq_zero (t : CorsaroPacketTags) (rec : IpmetaRecord) :
    (tagRecord ids t rec).providersUsed = 0 ↔ t.providersUsed = 0 ∧ ¬rec.Applies ids := by
  unfold tagRecord IpmetaRecord.Applies
  split_ifs with m n p
  · simp [updateMaxmindTags, or_provider_ne_zero, m]
  · simp [updateNetacqTags, or_provider_ne_zero, n]
  · unfold updatePfx2asTags
    split
    · simp_all [or_provider_ne_zero]
    · simp_all [List.length_eq_one]
  · simp [m, n, p]

theorem foldl_tagRecord_protocol (records : List IpmetaRecord) (t : CorsaroPacketTags) :
    (records.foldl (tagRecord ids) t).protocol = t.protocol := by
  induction records generalizing t with
  | nil => rfl
  | cons rec rest ih => rw [List.foldl_cons, ih, tagRecord_protocol]

theorem foldl_tagRecord_used_eq_zero (records : List IpmetaRecord) (t : CorsaroPacketTags) :
    (records.foldl (tagRecord ids) t).providersUsed = 0 ↔
      t.providersUsed = 0 ∧ ∀ rec ∈ records, ¬rec.Applies ids := by
  induction records generalizing t with
  | nil => simp
  | cons rec rest ih => simp only [List.foldl_cons, ih, tagRecord_used_eq_zero, List.forall_mem_cons, and_assoc]

theorem updateBasicTags_protocol (transport : Option Transport) (t : CorsaroPacketTags) :
    (updateBasicTags transport t).protocol = (transport.map (·.proto.toUInt32)).getD 0 := by
  cases transport with
  | none => rfl
  | some tr => dsimp only [updateBasicTags]; split_ifs <;> rfl

theorem updateBasicTags_used_eq_zero (transport : Option Transport) (t : CorsaroPacketTags) :
    (updateBasicTags transport { t with providersUsed := 0 }).providersUsed = 0 ↔ transport = none := by
  cases transport with
  | none => simp [updateBasicTags]
  | some tr => dsimp only [updateBasicTags]; split_ifs <;> simp

theorem updateBasicTags_protocol_lt (transport : Option Transport) (t : CorsaroPacketTags) :
    (updateBasicTags transport t).protocol < metricIpprotosMax := by
  rw [updateBasicTags_protocol]
  cases transport with
  | none => decide
  | some tr => exact tr.proto.toNat_lt_size

/-- The IP-protocol id of a packet whose source address libipmeta looked up:
with a transport header, the header's protocol; without one, as for a
non-initial fragment, protocol 0, and then only when a record of some provider
tagged the packet. -/
theorem protocol_tag_of_looked_up_packet (ids : ProviderIds) (tagger : Tagger) (packet : Packet)
    (prev : CorsaroPacketTags) {addr : UInt32} {records : List IpmetaRecord}
    (providers : tagger.hasProviders = true) (source : packet.source = some (.inet addr))
    (found : tagger.lookup addr = some records) (v : UInt32) :
    genMetricid .ipProtocol v ∈
        packetTagIds (some ((corsaroTagPacket ids tagger (some packet) prev).2.report ids)) ↔
      v = (packet.transport.map (·.proto.toUInt32)).getD 0 ∧
        (packet.transport.isSome ∨ ∃ rec ∈ records, rec.Applies ids) := by
  have tagged : (corsaroTagPacket ids tagger (some packet) prev).2 =
      records.foldl (tagRecord ids) (updateBasicTags packet.transport { prev with providersUsed := 0 }) := by
    simp only [corsaroTagPacket, providers, if_true, source, found]
  have below : (packet.transport.map (·.proto.toUInt32)).getD 0 < metricIpprotosMax := by
    rw [← updateBasicTags_protocol packet.transport prev]
    exact updateBasicTags_protocol_lt _ _
  rw [tagged, mem_packetTagIds_ipProtocol]
  simp only [CorsaroPacketTags.report, foldl_tagRecord_protocol, updateBasicTags_protocol, below, and_true,
    ne_eq, foldl_tagRecord_used_eq_zero, updateBasicTags_used_eq_zero]
  cases packet.transport <;> simp [and_comm]

theorem protocol_tag_of_looked_up_packet_sample :
    (⟨true, fun _ => some [⟨1, (69, 85), (70, 82), []⟩]⟩ : Tagger).hasProviders = true ∧
      (⟨none, some (.inet 5)⟩ : Packet).source = some (.inet 5) ∧
      (⟨true, fun _ => some [⟨1, (69, 85), (70, 82), []⟩]⟩ : Tagger).lookup 5 =
        some [⟨1, (69, 85), (70, 82), []⟩] ∧
      (genMetricid .ipProtocol 0 ∈ packetTagIds (some ((corsaroTagPacket
          ⟨1, 2, 3, by decide, by decide⟩ ⟨true, fun _ => some [⟨1, (69, 85), (70, 82), []⟩]⟩
          (some ⟨none, some (.inet 5)⟩) ⟨0, 0, 0, 0, 0, 0, 0, 0, 0⟩).2.report
            ⟨1, 2, 3, by decide, by decide⟩)) ↔
        (0 : UInt32) = ((none : Option Transport).map (·.proto.toUInt32)).getD 0 ∧
          ((none : Option Transport).isSome ∨
            ∃ rec ∈ [(⟨1, (69, 85), (70, 82), []⟩ : IpmetaRecord)],
              rec.Applies ⟨1, 2, 3, by decide, by decide⟩)) :=
  ⟨rfl, rfl, rfl, protocol_tag_of_looked_up_packet _ _ ⟨none, some (.inet 5)⟩ _ rfl rfl rfl 0⟩

end Corsaro.Tagging
