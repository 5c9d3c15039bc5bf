import Corsaro.Libcorsaro.PortRanges

/-! `corsaro_report_parse_config` of the libcorsaro report plugin: it fills a
configuration with its defaults, reads each pair of the plugin's YAML mapping in
order, and at the end opens every port filter that no option set. A YAML node is
what libyaml's document gives; libc's `strtoul` and `strtol` are given by what
they make of a text. The allocation of the configuration, which can fail, the
standard plugin options and the logging are left out. The four port bitmaps are
`malloc`'d and not cleared: what they first hold is a parameter. -/
namespace Corsaro.Libcorsaro.Report

inductive YamlNode
  | scalar (value : String)
  | sequence (items : List YamlNode)
  | mapping (pairs : List (YamlNode × YamlNode))

structure Libc where
  strtoul : String → Option Nat
  strtol : String → Int

def ulongMax : Nat := 2 ^ 64 - 1

/-- `strcasecmp(a, b) == 0`: equal up to the case of ASCII letters. -/
def strcaseEq (a b : String) : Bool := decide (a.toList.map Char.toLower = b.toList.map Char.toLower)

inductive MetricClass
  | combined | maxmindContinent | maxmindCountry | netacqContinent | netacqCountry
  | prefixAsn | tcpSourcePort | tcpDestPort | udpSourcePort | udpDestPort
  | ipProtocol | icmpTypecode | netacqRegion | netacqPolygon | ipinfoContinent
  | ipinfoCountry | ipinfoRegion | ipinfoCountryPrefixAsn | ipinfoRegionPrefixAsn
  | filterCriteria
  deriving DecidableEq, Repr

def MetricClass.toNat : MetricClass → Nat
  | .combined => 0 | .maxmindContinent => 1 | .maxmindCountry => 2
  | .netacqContinent => 3 | .netacqCountry => 4 | .prefixAsn => 5
  | .tcpSourcePort => 6 | .tcpDestPort => 7 | .udpSourcePort => 8
  | .udpDestPort => 9 | .ipProtocol => 10 | .icmpTypecode => 11
  | .netacqRegion => 12 | .netacqPolygon => 13 | .ipinfoContinent => 14
  | .ipinfoCountry => 15 | .ipinfoRegion => 16 | .ipinfoCountryPrefixAsn => 17
  | .ipinfoRegionPrefixAsn => 18 | .filterCriteria => 19

def metricClassLast : Nat := 20

inductive OutputFormat
  | avro | libtimeseries
  deriving DecidableEq, Repr

inductive GeoMode
  | full | lite
  deriving DecidableEq, Repr

inductive IpcountMethod
  | all | sample | prefixagg
  deriving DecidableEq, Repr

structure IpcountConf where
  method : IpcountMethod
  pfxbits : Nat
  deriving DecidableEq, Repr

inductive PortFilter
  | tcpSources | tcpDests | udpSources | udpDests
  deriving DecidableEq, Repr

def PortFilter.option : PortFilter → String
  | .tcpSources => "tcp_source_port_range"
  | .tcpDests => "tcp_dest_port_range"
  | .udpSources => "udp_source_port_range"
  | .udpDests => "udp_dest_port_range"

/-- `corsaro_report_config_t` as `corsaro_report_parse_config` fills it, without the standard
options and the tracker threads and queues. -/
structure ReportConfig where
  outlabel : Option String
  trackerCount : Int
  outformat : OutputFormat
  geomode : GeoMode
  internalhwm : Nat
  queryTaggerLabels : Nat
  allowedmetricclasses : Nat
  allowedports : PortFilter → Nat → UInt8
  srcIpcountConf : IpcountConf
  dstIpcountConf : IpcountConf
  geoasnWhitelistFile : Option String

/-- The defaults set before the mapping is read; the port bitmaps hold what `malloc` left. -/
def ReportConfig.defaults (memory : PortFilter → Nat → UInt8) : ReportConfig where
  outlabel := none
  trackerCount := 4
  outformat := .avro
  geomode := .full
  internalhwm := 30
  queryTaggerLabels := 1
  allowedmetricclasses := 0
  allowedports := memory
  srcIpcountConf := ⟨.all, 32⟩
  dstIpcountConf := ⟨.all, 32⟩
  geoasnWhitelistFile := none

structure ParseState where
  conf : ReportConfig
  setPorts : PortFilter → Bool

def ParseState.ports (st : ParseState) (f : PortFilter) : PortState :=
  ⟨st.conf.allowedports f, st.setPorts f⟩

/-! ### The branches of the loop -/

def scalarOption (name : String) (set : String → ReportConfig → ReportConfig) (st : ParseState) :
    YamlNode × YamlNode → ParseState
  | (.scalar key, .scalar val) => if key = name then { st with conf := set val st.conf } else st
  | _ => st

def mappingOption (name : String) (set : List (YamlNode × YamlNode) → ReportConfig → ReportConfig)
    (st : ParseState) : YamlNode × YamlNode → ParseState
  | (.scalar key, .mapping pairs) => if key = name then { st with conf := set pairs st.conf } else st
  | _ => st

/-- The item `parse_port_ranges` reads from a node: `strtoport` on the texts before and after the
first dash. -/
def portItem (libc : Libc) : YamlNode → PortItem
  | .scalar range =>
    match range.toList.span (· ≠ '-') with
    | (_, []) => .port (libc.strtoul range)
    | (first, _ :: last) => .range (libc.strtoul (String.mk first)) (libc.strtoul (String.mk last))
  | _ => .nonScalar

def portRangeOption (libc : Libc) (f : PortFilter) (st : ParseState) :
    YamlNode × YamlNode → ParseState
  | (.scalar key, .sequence items) =>
    if key = f.option then
      let ports := parsePortRanges (st.ports f) (items.map (portItem libc))
      ⟨{ st.conf with allowedports := Function.update st.conf.allowedports f ports.portArray },
        Function.update st.setPorts f ports.seenFlag⟩
    else st
  | _ => st

def ipCountingOption (libc : Libc) (ipconf : IpcountConf) : YamlNode × YamlNode → IpcountConf
  | (.scalar key, .scalar val) =>
    let ipconf :=
      if key = "method" then
        if strcaseEq val "sample" then { ipconf with method := .sample }
        else if strcaseEq val "prefixagg" then { ipconf with method := .prefixagg }
        else if strcaseEq val "none" then { ipconf with method := .all }
        else ipconf
      else ipconf
    if key = "subnetmask" then
      let optval := (libc.strtoul val).getD ulongMax % 2 ^ 32
      { ipconf with pfxbits := if optval > 32 then 32 else if optval = 0 then 32 else optval }
    else ipconf
  | _ => ipconf

def parseIpCounting (libc : Libc) (ipconf : IpcountConf) (pairs : List (YamlNode × YamlNode)) :
    IpcountConf :=
  pairs.foldl (ipCountingOption libc) ipconf

def metricLimitNames : List (String × List MetricClass) :=
  [("basic", [.combined, .ipProtocol]),
    ("tcpports", [.tcpSourcePort, .tcpDestPort]),
    ("udpports", [.udpSourcePort, .udpDestPort]),
    ("icmp", [.icmpTypecode]),
    ("netacq", [.netacqContinent, .netacqCountry, .netacqRegion, .netacqPolygon]),
    ("maxmind", [.maxmindContinent, .maxmindCountry]),
    ("ipinfo", [.ipinfoContinent, .ipinfoRegion, .ipinfoCountry]),
    ("pfx2asn", [.prefixAsn, .ipinfoCountryPrefixAsn, .ipinfoRegionPrefixAsn]),
    ("filter", [.filterCriteria])]

def classMask (classes : List MetricClass) : Nat :=
  classes.foldl (fun mask c => mask ||| 1 <<< c.toNat) 0

def metricLimitName (allowed : Nat) (name : String) : Nat :=
  metricLimitNames.foldl
    (fun allowed entry => if strcaseEq name entry.1 then allowed ||| classMask entry.2 else allowed)
    allowed

/-- `parse_metric_limits`: a node that is not a scalar resets the mask to 0, every class, and ends
the sequence. -/
def parseMetricLimits (allowed : Nat) : List YamlNode → Nat
  | [] => allowed
  | .scalar name :: rest => parseMetricLimits (metricLimitName allowed name) rest
  | _ :: _ => 0

def limitMetricsOption (st : ParseState) : YamlNode × YamlNode → ParseState
  | (.scalar key, .sequence items) =>
    if key = "limitmetrics" then
      { st with conf := { st.conf with
          allowedmetricclasses := parseMetricLimits st.conf.allowedmetricclasses items } }
    else st
  | _ => st

def corsaroReportMaxIptrackers : Int := 32

/-- `iptracker_threads`: `strtol` stored in an `int`, raised to 1 and capped at
`CORSARO_REPORT_MAX_IPTRACKERS`. -/
def iptrackerThreads (value : Int) : Int :=
  let count := value.bmod (2 ^ 32)
  let count := if count < 1 then 1 else count
  if count > corsaroReportMaxIptrackers then corsaroReportMaxIptrackers else count

def internalHwm (libc : Libc) (val : String) : Nat :=
  let optval := (libc.strtoul val).getD ulongMax
  if optval > 65535 then 0 else optval

def parseOnoffOption (value : String) : Option Nat :=
  if value = "yes" ∨ value = "true" ∨ value = "on" ∨ value = "enabled" then some 1
  else if value = "no" ∨ value = "false" ∨ value = "off" ∨ value = "disabled" then some 0
  else none

def geoMode (val : String) (mode : GeoMode) : GeoMode :=
  if strcaseEq val "lite" then .lite else if strcaseEq val "full" then .full else mode

def outputFormat (val : String) : OutputFormat :=
  if val = "avro" then .avro else if val = "libtimeseries" then .libtimeseries else .avro

/-- One pass of the loop of `corsaro_report_parse_config`: its branches in order, each taken when
the key and the value node have the types it tests. -/
def reportOption (libc : Libc) (st : ParseState) (pair : YamlNode × YamlNode) : ParseState :=
  let st := scalarOption "output_row_label" (fun val conf => { conf with outlabel := some val }) st pair
  let st := portRangeOption libc .tcpSources st pair
  let st := portRangeOption libc .tcpDests st pair
  let st := portRangeOption libc .udpSources st pair
  let st := portRangeOption libc .udpDests st pair
  let st := mappingOption "source_ip_counting"
    (fun pairs conf => { conf with srcIpcountConf := parseIpCounting libc conf.srcIpcountConf pairs }) st pair
  let st := mappingOption "dest_ip_counting"
    (fun pairs conf => { conf with dstIpcountConf := parseIpCounting libc conf.dstIpcountConf pairs }) st pair
  let st := limitMetricsOption st pair
  let st := scalarOption "iptracker_threads"
    (fun val conf => { conf with trackerCount := iptrackerThreads (libc.strtol val) }) st pair
  let st := scalarOption "internalhwm" (fun val conf => { conf with internalhwm := internalHwm libc val })
    st pair
  let st := scalarOption "querytaggerlabels"
    (fun val conf => { conf with queryTaggerLabels := (parseOnoffOption val).getD 0 }) st pair
  let st := scalarOption "geo_mode" (fun val conf => { conf with geomode := geoMode val conf.geomode })
    st pair
  let st := scalarOption "geoasn_whitelist_file"
    (fun val conf => { conf with geoasnWhitelistFile := some val }) st pair
  scalarOption "output_format" (fun val conf => { conf with outformat := outputFormat val }) st pair

/-- `corsaro_report_parse_config`: -1 when the options are not a mapping; otherwise the
configuration, every port bitmap no option set being filled with `0xff`. -/
def reportParseConfig (libc : Libc) (memory : PortFilter → Nat → UInt8) :
    YamlNode → Except Int ReportConfig
  | .mapping pairs =>
    let st := pairs.foldl (reportOption libc) ⟨ReportConfig.defaults memory, fun _ => false⟩
    .ok { st.conf with
      allowedports := fun f => if st.setPorts f = false then fun _ => 0xff else st.conf.allowedports f }
  | _ => .error (-1)

/-! ### Every configuration it builds is valid -/

def IpcountConf.Valid (ipconf : IpcountConf) : Prop := 1 ≤ ipconf.pfxbits ∧ ipconf.pfxbits ≤ 32

/-- What each field holds in every configuration the parser builds, whatever the YAML and whatever
libc makes of its texts. -/
structure ValidConfig (conf : ReportConfig) : Prop where
  trackers : 1 ≤ conf.trackerCount ∧ conf.trackerCount ≤ corsaroReportMaxIptrackers
  hwm : conf.internalhwm ≤ 65535
  labels : conf.queryTaggerLabels ≤ 1
  classes : conf.allowedmetricclasses < 2 ^ metricClassLast
  src : conf.srcIpcountConf.Valid
  dst : conf.dstIpcountConf.Valid

theorem defaults_valid (memory : PortFilter → Nat → UInt8) : ValidConfig (ReportConfig.defaults memory) :=
  ⟨(by decide : (1 : Int) ≤ 4 ∧ (4 : Int) ≤ 32), (by decide : 30 ≤ 65535), (by decide : 1 ≤ 1),
    (by decide : 0 < 2 ^ 20), (by decide : 1 ≤ 32 ∧ 32 ≤ 32), (by decide : 1 ≤ 32 ∧ 32 ≤ 32)⟩

theorem iptrackerThreads_bounds (value : Int) :
    1 ≤ iptrackerThreads value ∧ iptrackerThreads value ≤ corsaroReportMaxIptrackers := by
  simp only [iptrackerThreads, corsaroReportMaxIptrackers]
  split_ifs <;> omega

theorem internalHwm_le (libc : Libc) (val : String) : internalHwm libc val ≤ 65535 := by
  simp only [internalHwm]
  split_ifs <;> omega

theorem parseOnoffOption_le (val : String) : (parseOnoffOption val).getD 0 ≤ 1 := by
  simp only [parseOnoffOption]
  split_ifs <;> decide

theorem ipCountingOption_valid (libc : Libc) {ipconf : IpcountConf} (valid : ipconf.Valid)
    (pair : YamlNode × YamlNode) : (ipCountingOption libc ipconf pair).Valid := by
  unfold IpcountConf.Valid at valid
  unfold ipCountingOption
  split
  · split_ifs <;> dsimp only [IpcountConf.Valid] <;> (try split_ifs) <;> omega
  · exact valid

theorem parseIpCounting_valid (libc : Libc) (pairs : List (YamlNode × YamlNode)) :
    ∀ {ipconf : IpcountConf}, ipconf.Valid → (parseIpCounting libc ipconf pairs).Valid := by
  induction pairs with
  | nil => exact id
  | cons pair rest ih => exact fun valid => ih (ipCountingOption_valid libc valid pair)

theorem classMask_lt (classes : List MetricClass) : classMask classes < 2 ^ metricClassLast := by
  suffices from_any : ∀ mask < 2 ^ metricClassLast,
      classes.foldl (fun mask c => mask ||| 1 <<< c.toNat) mask < 2 ^ metricClassLast from
    from_any 0 (by decide)
  induction classes with
  | nil => exact fun _ small => small
  | cons c rest ih =>
    refine fun mask small => ih _ (Nat.or_lt_two_pow small ?_)
    rw [Nat.one_shiftLeft]
    exact Nat.pow_lt_pow_of_lt (by decide) (by cases c <;> decide)

theorem metricLimitName_lt {allowed : Nat} (small : allowed < 2 ^ metricClassLast) (name : String) :
    metricLimitName allowed name < 2 ^ metricClassLast := by
  unfold metricLimitName
  generalize metricLimitNames = names
  induction names generalizing allowed with
  | nil => exact small
  | cons entry rest ih =>
    refine ih ?_
    dsimp only
    split_ifs
    · exact Nat.or_lt_two_pow small (classMask_lt entry.2)
    · exact small

theorem parseMetricLimits_lt (items : List YamlNode) :
    ∀ {allowed : Nat}, allowed < 2 ^ metricClassLast → parseMetricLimits allowed items < 2 ^ metricClassLast := by
  induction items with
  | nil => exact id
  | cons item rest ih =>
    intro allowed small
    cases item with
    | scalar name => exact ih (metricLimitName_lt small name)
    | sequence _ | mapping _ => exact Nat.two_pow_pos _

section Branches

variable {st : ParseState} (valid : ValidConfig st.conf) (pair : YamlNode × YamlNode)
include valid

theorem scalarOption_valid {name : String} {set : String → ReportConfig → ReportConfig}
    (keeps : ∀ val conf, ValidConfig conf → ValidConfig (set val conf)) :
    ValidConfig (scalarOption name set st pair).conf := by
  unfold scalarOption
  split
  · split_ifs
    · exact keeps _ _ valid
    · exact valid
  · exact valid

theorem mappingOption_valid {name : String}
    {set : List (YamlNode × YamlNode) → ReportConfig → ReportConfig}
    (keeps : ∀ pairs conf, ValidConfig conf → ValidConfig (set pairs conf)) :
    ValidConfig (mappingOption name set st pair).conf := by
  unfold mappingOption
  split
  · split_ifs
    · exact keeps _ _ valid
    · exact valid
  · exact valid

theorem portRangeOption_valid (libc : Libc) (f : PortFilter) :
    ValidConfig (portRangeOption libc f st pair).conf := by
  unfold portRangeOption
  split
  · split_ifs
    · exact ⟨valid.trackers, valid.hwm, valid.labels, valid.classes, valid.src, valid.dst⟩
    · exact valid
  · exact valid

theorem limitMetricsOption_valid : ValidConfig (limitMetricsOption st pair).conf := by
  unfold limitMetricsOption
  split
  · split_ifs
    · exact ⟨valid.trackers, valid.hwm, valid.labels, parseMetricLimits_lt _ valid.classes, valid.src,
        valid.dst⟩
    · exact valid
  · exact valid

end Branches

theorem reportOption_valid (libc : Libc) {st : ParseState} (valid : ValidConfig st.conf)
    (pair : YamlNode × YamlNode) : ValidConfig (reportOption libc st pair).conf := by
  unfold reportOption
  refine scalarOption_valid ?_ _ fun val conf v => ⟨v.trackers, v.hwm, v.labels, v.classes, v.src, v.dst⟩
  refine scalarOption_valid ?_ _ fun val conf v => ⟨v.trackers, v.hwm, v.labels, v.classes, v.src, v.dst⟩
  refine scalarOption_valid ?_ _ fun val conf v => ⟨v.trackers, v.hwm, v.labels, v.classes, v.src, v.dst⟩
  refine scalarOption_valid ?_ _ fun val conf v =>
    ⟨v.trackers, v.hwm, parseOnoffOption_le val, v.classes, v.src, v.dst⟩
  refine scalarOption_valid ?_ _ fun val conf v =>
    ⟨v.trackers, internalHwm_le libc val, v.labels, v.classes, v.src, v.dst⟩
  refine scalarOption_valid ?_ _ fun val conf v =>
    ⟨iptrackerThreads_bounds _, v.hwm, v.labels, v.classes, v.src, v.dst⟩
  refine limitMetricsOption_valid ?_ _
  refine mappingOption_valid ?_ _ fun pairs conf v =>
    ⟨v.trackers, v.hwm, v.labels, v.classes, v.src, parseIpCounting_valid libc pairs v.dst⟩
  refine mappingOption_valid ?_ _ fun pairs conf v =>
    ⟨v.trackers, v.hwm, v.labels, v.classes, parseIpCounting_valid libc pairs v.src, v.dst⟩
  refine portRangeOption_valid ?_ _ libc _
  refine portRangeOption_valid ?_ _ libc _
  refine portRangeOption_valid ?_ _ libc _
  refine portRangeOption_valid ?_ _ libc _
  exact scalarOption_valid valid _ fun val conf v => ⟨v.trackers, v.hwm, v.labels, v.classes, v.src, v.dst⟩

theorem foldl_reportOption_valid (libc : Libc) (pairs : List (YamlNode × YamlNode)) :
    ∀ {st : ParseState}, ValidConfig st.conf → ValidConfig (pairs.foldl (reportOption libc) st).conf := by
  induction pairs with
  | nil => exact id
  | cons pair rest ih => exact fun valid => ih (reportOption_valid libc valid pair)

/-! ### The port filters -/

def portStep (libc : Libc) (f : PortFilter) (ports : PortState) : YamlNode × YamlNode → PortState
  | (.scalar key, .sequence items) =>
    if key = f.option then parsePortRanges ports (items.map (portItem libc)) else ports
  | _ => ports

def pairRanges (libc : Libc) (f : PortFilter) : YamlNode × YamlNode → List (Nat × Nat)
  | (.scalar key, .sequence items) => if key = f.option then validRanges (items.map (portItem libc)) else []
  | _ => []

section Frame

variable (st : ParseState) (pair : YamlNode × YamlNode)

@[simp] theorem scalarOption_ports {name : String} {set : String → ReportConfig → ReportConfig}
    (keeps : ∀ val conf, (set val conf).allowedports = conf.allowedports) :
    (scalarOption name set st pair).ports = st.ports := by
  unfold scalarOption
  split
  · split_ifs
    · funext f; simp [ParseState.ports, keeps]
    · rfl
  · rfl

@[simp] theorem mappingOption_ports {name : String}
    {set : List (YamlNode × YamlNode) → ReportConfig → ReportConfig}
    (keeps : ∀ pairs conf, (set pairs conf).allowedports = conf.allowedports) :
    (mappingOption name set st pair).ports = st.ports := by
  unfold mappingOption
  split
  · split_ifs
    · funext f; simp [ParseState.ports, keeps]
    · rfl
  · rfl

@[simp] theorem limitMetricsOption_ports : (limitMetricsOption st pair).ports = st.ports := by
  unfold limitMetricsOption
  split
  · split_ifs <;> rfl
  · rfl

theorem portRangeOption_ports (libc : Libc) (g f : PortFilter) :
    (portRangeOption libc g st pair).ports f =
      if g = f then portStep libc f (st.ports f) pair else st.ports f := by
  by_cases same : g = f
  · subst same
    rw [if_pos rfl]
    unfold portRangeOption portStep
    split
    · split_ifs <;> simp [ParseState.ports]
    · rfl
  · rw [if_neg same]
    unfold portRangeOption
    split
    · split_ifs <;> simp [ParseState.ports, Function.update_noteq (Ne.symm same)]
    · rfl

end Frame

theorem reportOption_ports (libc : Libc) (st : ParseState) (pair : YamlNode × YamlNode) (f : PortFilter) :
    (reportOption libc st pair).ports f = portStep libc f (st.ports f) pair := by
  cases f <;> simp [reportOption, portRangeOption_ports]

/-- A filter after some options: once its flag is set, its bitmap holds exactly the ranges set. -/
structure PortsSet (ranges : List (Nat × Nat)) (ports : PortState) : Prop where
  flag : ports.seenFlag = !ranges.isEmpty
  bits : ranges ≠ [] → ∀ p < 65536,
    portBit ports.portArray p = ranges.any fun r => decide (r.1 ≤ p ∧ p ≤ r.2)

theorem PortsSet.parse {ranges : List (Nat × Nat)} {ports : PortState} (inv : PortsSet ranges ports)
    (items : List PortItem) : PortsSet (ranges ++ validRanges items) (parsePortRanges ports items) := by
  by_cases none_valid : validRanges items = []
  · rw [none_valid, List.append_nil, parsePortRanges_unchanged items ports none_valid]
    exact inv
  obtain ⟨seen, -⟩ := portBit_parsePortRanges items ports 0 (by decide) none_valid
  refine ⟨by simp [seen, none_valid], fun _ p port => ?_⟩
  rw [(portBit_parsePortRanges items ports p port none_valid).2, List.any_append]
  by_cases earlier : ranges = []
  · simp [inv.flag, earlier]
  · have bits := inv.bits earlier p port
    obtain ⟨r, rs, rfl⟩ := List.exists_cons_of_ne_nil earlier
    simp [inv.flag, bits]

theorem PortsSet.step (libc : Libc) (f : PortFilter) {ranges : List (Nat × Nat)} {ports : PortState}
    (inv : PortsSet ranges ports) (pair : YamlNode × YamlNode) :
    PortsSet (ranges ++ pairRanges libc f pair) (portStep libc f ports pair) := by
  unfold portStep pairRanges
  split
  · split_ifs
    · exact inv.parse _
    · simpa using inv
  · simpa using inv

theorem foldl_reportOption_ports (libc : Libc) (f : PortFilter) (pairs : List (YamlNode × YamlNode)) :
    ∀ {st : ParseState} {ranges : List (Nat × Nat)}, PortsSet ranges (st.ports f) →
      PortsSet (ranges ++ pairs.flatMap (pairRanges libc f)) ((pairs.foldl (reportOption libc) st).ports f) := by
  induction pairs with
  | nil => simp
  | cons pair rest ih =>
    intro st ranges inv
    have next := inv.step libc f pair
    rw [← reportOption_ports] at next
    simpa using ih next

theorem portBit_all (p : Nat) : portBit (fun _ => 0xff) p = true := by
  have small : ∀ j < 8, ((0xff : UInt8) &&& portMask j != 0) = true := by decide
  exact small (p % 8) (Nat.mod_lt p (by decide))

theorem pairRanges_bounds (libc : Libc) (f : PortFilter) (pair : YamlNode × YamlNode) :
    ∀ r ∈ pairRanges libc f pair, r.1 ≤ r.2 ∧ r.2 ≤ 65535 := by
  unfold pairRanges
  split
  · split_ifs
    · exact validRanges_bounds _
    · simp
  · simp

/-! ### What the parser returns -/

theorem reportParseConfig_not_mapping (libc : Libc) (memory : PortFilter → Nat → UInt8)
    {options : YamlNode} (not_mapping : ∀ pairs, options ≠ .mapping pairs) :
    reportParseConfig libc memory options = .error (-1) := by
  cases options with
  | mapping pairs => exact absurd rfl (not_mapping pairs)
  | scalar _ | sequence _ => rfl

/-- For every YAML mapping of options, whatever libc makes of its texts and
whatever the port bitmaps first held, `corsaro_report_parse_config` returns a
configuration with 1 to `CORSARO_REPORT_MAX_IPTRACKERS` tracker threads,
`internalhwm` at most 65535, `query_tagger_labels` 0 or 1, only bits of metric
classes allowed, and prefix lengths of 1 to 32 bits. Each port filter holds
every port when no occurrence of its option set a valid range, and otherwise
exactly the ports of the valid ranges of all its occurrences, each ordered and
within 65535. -/
theorem parse_config_valid_ports (libc : Libc) (memory : PortFilter → Nat → UInt8)
    (pairs : List (YamlNode × YamlNode)) :
    ∃ conf, reportParseConfig libc memory (.mapping pairs) = .ok conf ∧ ValidConfig conf ∧
      ∀ f : PortFilter, (∀ r ∈ pairs.flatMap (pairRanges libc f), r.1 ≤ r.2 ∧ r.2 ≤ 65535) ∧
        ∀ p : UInt16, portBit (conf.allowedports f) p.toNat =
          ((pairs.flatMap (pairRanges libc f)).isEmpty ||
            (pairs.flatMap (pairRanges libc f)).any fun r => decide (r.1 ≤ p.toNat ∧ p.toNat ≤ r.2)) := by
  have valid := @foldl_reportOption_valid libc pairs ⟨ReportConfig.defaults memory, fun _ => false⟩
    (defaults_valid memory)
  refine ⟨_, rfl, ⟨valid.trackers, valid.hwm, valid.labels, valid.classes, valid.src, valid.dst⟩,
    fun f => ⟨fun r mem => ?_, fun p => ?_⟩⟩
  · obtain ⟨pair, -, within⟩ := List.mem_flatMap.mp mem
    exact pairRanges_bounds libc f pair r within
  · have ports := @foldl_reportOption_ports libc f pairs ⟨ReportConfig.defaults memory, fun _ => false⟩ []
      ⟨rfl, fun none => absurd rfl none⟩
    rw [List.nil_append] at ports
    simp only [reportParseConfig]
    generalize pairs.foldl (reportOption libc) ⟨ReportConfig.defaults memory, fun _ => false⟩ = st at ports ⊢
    generalize pairs.flatMap (pairRanges libc f) = ranges at ports ⊢
    have flag : st.setPorts f = !ranges.isEmpty := ports.flag
    have bits : ranges ≠ [] → ∀ q < 65536, portBit (st.conf.allowedports f) q =
        ranges.any fun r => decide (r.1 ≤ q ∧ q ≤ r.2) := ports.bits
    cases ranges with
    | nil => rw [if_pos (flag.trans rfl : st.setPorts f = false), portBit_all]; rfl
    | cons r rs =>
      rw [if_neg (by simp [flag]), bits (List.cons_ne_nil r rs) _ p.toNat_lt_size]
      rfl

end Corsaro.Libcorsaro.Report
