import Corsaro.Libcorsaro.ReportConfig

/-! The global configuration of corsarotagger: `corsaro_tagger_init_global`
sets its defaults, has the pairs of the configuration file's top-level mapping
read by `parse_config`, creates the logger and fills in the names no option
gave. `parse_corsaro_generic_config` is not in src; it is taken to hand
`parse_config` each pair in order and to fail at the first that returns -1,
`parse_config` returning 1 to go on. The parser of the `tagproviders`
sequence is not in src either: what it makes of the sequence is a parameter,
as are `DEFAULT_CONTROL_SOCKET_URI`, `DEFAULT_IPMETA_SOCKET_URI` and whether
`init_corsaro_logger` succeeds. Allocation failures, the logging, the hasher,
the ZeroMQ context and the start time are left out. -/
namespace Corsaro.Libcorsaro.Tagger

open Corsaro.Libcorsaro.Report (YamlNode parseOnoffOption)

/-- What libc makes of a text: `strtoul` with base 0 and with base 10, `ULONG_MAX` on overflow, and
`strtol` with base 10. -/
structure TaggerLibc where
  strtoulBase0 : String → Nat
  strtoulBase10 : String → Nat
  strtolBase10 : String → Int

inductive Logmode
  | stderr | syslog | file | disabled
  deriving DecidableEq, Repr

def corsaroErfEthernetFraming : Int := 18

/-- The fields of `corsaro_tagger_global_t` that `corsaro_tagger_init_global` and `parse_config`
set. -/
structure TaggerGlobal (τ : Type) where
  inputuris : List String
  alloceduris : Nat
  filterstring : Option String
  consterfframing : Int
  promisc : Nat
  logmode : Logmode
  logfilename : Option String
  statfilename : Option String
  pktThreads : Nat
  pubqueuename : Option String
  sampleRate : Int
  hasherRequired : Nat
  ndagMonitorid : Nat
  ndagBeaconport : Nat
  ndagMcastgroup : Option String
  ndagSourceaddr : Option String
  ndagMtu : Nat
  ndagTtl : Nat
  tagopts : τ
  controlUri : Option String
  ipmetaQueueUri : Option String

variable {τ : Type}

def TaggerGlobal.init (logmode : Logmode) (zeroOpts : τ) : TaggerGlobal τ where
  inputuris := []
  alloceduris := 0
  filterstring := none
  consterfframing := corsaroErfEthernetFraming
  promisc := 0
  logmode := logmode
  logfilename := none
  statfilename := none
  pktThreads := 2
  pubqueuename := none
  sampleRate := 1
  hasherRequired := 0
  ndagMonitorid := 0
  ndagBeaconport := 9000
  ndagMcastgroup := none
  ndagSourceaddr := none
  ndagMtu := 9000
  ndagTtl := 4
  tagopts := zeroOpts
  controlUri := none
  ipmetaQueueUri := none

/-- `add_uri`: the array grows by 10 entries when it is full, then the URI is stored at
`inputuris[totaluris]`. -/
def addUri (glob : TaggerGlobal τ) (uri : String) : TaggerGlobal τ :=
  let glob := if glob.inputuris.length = glob.alloceduris then
      { glob with alloceduris := glob.alloceduris + 10 }
    else glob
  { glob with inputuris := glob.inputuris ++ [uri] }

/-- The `if` blocks of `parse_multicast_config`'s loop: numbers cut to the field, and an address
kept only when none is set yet. -/
def multicastKeys (libc : TaggerLibc) : List (String → String → TaggerGlobal τ → TaggerGlobal τ) :=
  [fun key value glob => if key = "monitorid" then
      { glob with ndagMonitorid := libc.strtoulBase0 value % 65536 } else glob,
    fun key value glob => if key = "beaconport" then
      { glob with ndagBeaconport := libc.strtoulBase0 value % 65536 } else glob,
    fun key value glob => if key = "mtu" then
      { glob with ndagMtu := libc.strtoulBase0 value % 65536 } else glob,
    fun key value glob => if key = "ttl" then
      { glob with ndagTtl := libc.strtoulBase0 value % 256 } else glob,
    fun key value glob => if key = "groupaddr" ∧ glob.ndagMcastgroup = none then
      { glob with ndagMcastgroup := some value } else glob,
    fun key value glob => if key = "sourceaddr" ∧ glob.ndagSourceaddr = none then
      { glob with ndagSourceaddr := some value } else glob]

def multicastOption (libc : TaggerLibc) (glob : TaggerGlobal τ) : YamlNode × YamlNode → TaggerGlobal τ
  | (.scalar key, .scalar value) => (multicastKeys libc).foldl (fun glob step => step key value glob) glob
  | _ => glob

def parseMulticastConfig (libc : TaggerLibc) (glob : TaggerGlobal τ) : YamlNode → Option (TaggerGlobal τ)
  | .mapping pairs => some (pairs.foldl (multicastOption libc) glob)
  | _ => none

def sampleRateOf (value : Int) : Int :=
  let rate := value.bmod (2 ^ 32)
  if rate ≤ 0 then 1 else rate

def scalarBranch (name : String) (set : String → TaggerGlobal τ → Option (TaggerGlobal τ))
    (glob : TaggerGlobal τ) : YamlNode × YamlNode → Option (TaggerGlobal τ)
  | (.scalar key, .scalar value) => if key = name then set value glob else some glob
  | _ => some glob

def tagprovidersBranch (parseTagProviders : List YamlNode → τ → Option τ) (glob : TaggerGlobal τ) :
    YamlNode × YamlNode → Option (TaggerGlobal τ)
  | (.scalar key, .sequence items) =>
    if key = "tagproviders" then
      (parseTagProviders items glob.tagopts).map fun opts => { glob with tagopts := opts }
    else some glob
  | _ => some glob

def multicastBranch (libc : TaggerLibc) (glob : TaggerGlobal τ) :
    YamlNode × YamlNode → Option (TaggerGlobal τ)
  | (.scalar key, .mapping pairs) =>
    if key = "multicast" then parseMulticastConfig libc glob (.mapping pairs) else some glob
  | _ => some glob

def parseConfigBranches (libc : TaggerLibc) (parseTagProviders : List YamlNode → τ → Option τ) :
    List (TaggerGlobal τ → YamlNode × YamlNode → Option (TaggerGlobal τ)) :=
  [scalarBranch "inputuri" fun uri glob => some (addUri glob uri),
    scalarBranch "promisc" fun value glob =>
      (parseOnoffOption value).map fun flag => { glob with promisc := flag },
    scalarBranch "dohashing" fun value glob =>
      (parseOnoffOption value).map fun flag => { glob with hasherRequired := flag },
    scalarBranch "consterfframing" fun value glob =>
      some { glob with consterfframing := (libc.strtolBase10 value).bmod (2 ^ 32) },
    scalarBranch "samplerate" fun value glob =>
      some { glob with sampleRate := sampleRateOf (libc.strtolBase10 value) },
    scalarBranch "basicfilter" fun value glob => some { glob with filterstring := some value },
    scalarBranch "logfilename" fun value glob => some { glob with logfilename := some value },
    scalarBranch "statfilename" fun value glob => some { glob with statfilename := some value },
    scalarBranch "pubqueuename" fun value glob => some { glob with pubqueuename := some value },
    scalarBranch "controlsocketname" fun value glob => some { glob with controlUri := some value },
    scalarBranch "pktthreads" fun value glob => some { glob with pktThreads := libc.strtoulBase10 value },
    tagprovidersBranch parseTagProviders,
    multicastBranch libc]

/-- `parse_config` on one pair of the top-level mapping; `none` for -1. -/
def parseConfig (libc : TaggerLibc) (parseTagProviders : List YamlNode → τ → Option τ)
    (glob : TaggerGlobal τ) (pair : YamlNode × YamlNode) : Option (TaggerGlobal τ) :=
  (parseConfigBranches libc parseTagProviders).foldlM (fun glob branch => branch glob pair) glob

/-- `DEFAULT_CONTROL_SOCKET_URI` and `DEFAULT_IPMETA_SOCKET_URI`, which are defined outside src. -/
structure InitDefaults where
  defaultControlSocketUri : String
  defaultIpmetaSocketUri : String

/-- `corsaro_tagger_init_global` on the top-level mapping's pairs, `none` where the file is not a
mapping. -/
def corsaroTaggerInitGlobal (libc : TaggerLibc) (parseTagProviders : List YamlNode → τ → Option τ)
    (zeroOpts : τ) (defaults : InitDefaults) (document : Option (List (YamlNode × YamlNode)))
    (logmode : Logmode) (loggerCreated : Bool) : Option (TaggerGlobal τ) :=
  match document.bind fun pairs =>
      pairs.foldlM (parseConfig libc parseTagProviders) (TaggerGlobal.init logmode zeroOpts) with
  | none => none
  | some glob =>
    if glob.logmode = .file ∧ glob.logfilename = none then none
    else if !loggerCreated ∧ glob.logmode ≠ .disabled then none
    else
      let glob := { glob with
        pubqueuename := glob.pubqueuename.getD "ipc:///tmp/corsarotagger"
        controlUri := glob.controlUri.getD defaults.defaultControlSocketUri
        ipmetaQueueUri := glob.ipmetaQueueUri.getD defaults.defaultIpmetaSocketUri
        ndagMcastgroup := glob.ndagMcastgroup.getD "225.88.0.1"
        ndagSourceaddr := glob.ndagSourceaddr.getD "0.0.0.0" }
      if glob.inputuris.length = 0 then none else some glob

/-! ### What every configuration it returns holds -/

def inputuriOf : YamlNode × YamlNode → Option String
  | (.scalar key, .scalar value) => if key = "inputuri" then some value else none
  | _ => none

structure UriRoom (glob : TaggerGlobal τ) : Prop where
  fits : glob.inputuris.length ≤ glob.alloceduris
  tight : glob.alloceduris < glob.inputuris.length + 10
  blocks : glob.alloceduris % 10 = 0

/-- What the globals hold through the parse, whatever the file and whatever libc makes of its texts.
-/
structure ParsedValid (glob : TaggerGlobal τ) extends UriRoom glob : Prop where
  rate : 1 ≤ glob.sampleRate
  monitorid : glob.ndagMonitorid < 65536
  beaconport : glob.ndagBeaconport < 65536
  mtu : glob.ndagMtu < 65536
  ttl : glob.ndagTtl < 256

def TaggerGlobal.limits (glob : TaggerGlobal τ) : List String × Nat × Int × Nat × Nat × Nat × Nat :=
  (glob.inputuris, glob.alloceduris, glob.sampleRate, glob.ndagMonitorid, glob.ndagBeaconport,
    glob.ndagMtu, glob.ndagTtl)

theorem ParsedValid.frame {glob glob' : TaggerGlobal τ} (valid : ParsedValid glob)
    (same : glob'.limits = glob.limits) : ParsedValid glob' := by
  simp only [TaggerGlobal.limits, Prod.mk.injEq] at same
  obtain ⟨uris, alloc, rate, monitorid, beaconport, mtu, ttl⟩ := same
  obtain ⟨⟨fits, tight, blocks⟩, _, _, _, _, _⟩ := valid
  exact ⟨⟨by rwa [uris, alloc], by rwa [uris, alloc], by rwa [alloc]⟩, by rwa [rate],
    by rwa [monitorid], by rwa [beaconport], by rwa [mtu], by rwa [ttl]⟩

theorem init_parsedValid (logmode : Logmode) (zeroOpts : τ) :
    ParsedValid (TaggerGlobal.init logmode zeroOpts) :=
  ⟨⟨le_refl 0, by simp [TaggerGlobal.init], rfl⟩, by simp [TaggerGlobal.init],
    by simp [TaggerGlobal.init], by simp [TaggerGlobal.init], by simp [TaggerGlobal.init],
    by simp [TaggerGlobal.init]⟩

theorem UriRoom.addUri {glob : TaggerGlobal τ} (room : UriRoom glob) (uri : String) :
    UriRoom (addUri glob uri) := by
  have ⟨fits, tight, blocks⟩ := room
  unfold Tagger.addUri
  split_ifs with full
  · exact ⟨by simp; omega, by simp; omega, by simp; omega⟩
  · exact ⟨by simp; omega, by simp; omega, blocks⟩

theorem sampleRateOf_pos (value : Int) : 1 ≤ sampleRateOf value := by
  simp only [sampleRateOf]
  split_ifs <;> omega

theorem multicastKeys_valid (libc : TaggerLibc) : ∀ step ∈ multicastKeys libc, ∀ key value
    (glob : TaggerGlobal τ), ParsedValid glob → ParsedValid (step key value glob) := by
  intro step mem key value glob valid
  have ⟨room, rate, monitorid, beaconport, mtu, ttl⟩ := valid
  simp only [multicastKeys, List.mem_cons, List.mem_singleton, List.not_mem_nil, or_false] at mem
  rcases mem with rfl | rfl | rfl | rfl | rfl | rfl <;> dsimp only <;> split_ifs <;>
    first
    | exact valid.frame rfl
    | exact ⟨⟨room.1, room.2, room.3⟩, rate, Nat.mod_lt _ (by decide), beaconport, mtu, ttl⟩
    | exact ⟨⟨room.1, room.2, room.3⟩, rate, monitorid, Nat.mod_lt _ (by decide), mtu, ttl⟩
    | exact ⟨⟨room.1, room.2, room.3⟩, rate, monitorid, beaconport, Nat.mod_lt _ (by decide), ttl⟩
    | exact ⟨⟨room.1, room.2, room.3⟩, rate, monitorid, beaconport, mtu, Nat.mod_lt _ (by decide)⟩

theorem foldl_preserves {α β : Type} (P : β → Prop) (f : β → α → β) (xs : List α)
    (keeps : ∀ a ∈ xs, ∀ b, P b → P (f b a)) {b : β} (holds : P b) : P (xs.foldl f b) := by
  induction xs generalizing b with
  | nil => exact holds
  | cons a rest ih =>
    exact ih (fun a mem => keeps a (List.mem_cons_of_mem _ mem)) (keeps a (List.mem_cons_self _ _) b holds)

theorem multicastOption_valid (libc : TaggerLibc) {glob : TaggerGlobal τ} (valid : ParsedValid glob)
    (pair : YamlNode × YamlNode) : ParsedValid (multicastOption libc glob pair) := by
  unfold multicastOption
  split
  · exact foldl_preserves _ _ _ (fun step mem glob => multicastKeys_valid libc step mem _ _ glob) valid
  · exact valid

theorem foldlM_preserves {α : Type} (P : TaggerGlobal τ → Prop)
    (step : TaggerGlobal τ → α → Option (TaggerGlobal τ)) (xs : List α)
    (keeps : ∀ a ∈ xs, ∀ glob glob', P glob → step glob a = some glob' → P glob')
    {glob glob' : TaggerGlobal τ} (holds : P glob) (run : xs.foldlM step glob = some glob') : P glob' := by
  induction xs generalizing glob with
  | nil => cases run; exact holds
  | cons a rest ih =>
    obtain ⟨mid, first, later⟩ := Option.bind_eq_some.mp run
    exact ih (fun a mem => keeps a (List.mem_cons_of_mem _ mem))
      (keeps a (List.mem_cons_self _ _) _ _ holds first) later

theorem scalarBranch_preserves (P : TaggerGlobal τ → Prop) {name : String}
    {set : String → TaggerGlobal τ → Option (TaggerGlobal τ)}
    (keeps : ∀ value glob glob', P glob → set value glob = some glob' → P glob')
    {glob glob' : TaggerGlobal τ} {pair : YamlNode × YamlNode} (holds : P glob)
    (branch : scalarBranch name set glob pair = some glob') : P glob' := by
  unfold scalarBranch at branch
  split at branch
  · split_ifs at branch
    · exact keeps _ _ _ holds branch
    · cases branch; exact holds
  · cases branch; exact holds

theorem tagprovidersBranch_preserves (P : TaggerGlobal τ → Prop)
    {parseTagProviders : List YamlNode → τ → Option τ}
    (keeps : ∀ (glob : TaggerGlobal τ) opts, P glob → P { glob with tagopts := opts })
    {glob glob' : TaggerGlobal τ} {pair : YamlNode × YamlNode} (holds : P glob)
    (branch : tagprovidersBranch parseTagProviders glob pair = some glob') : P glob' := by
  unfold tagprovidersBranch at branch
  split at branch
  · split_ifs at branch
    · obtain ⟨opts, -, rfl⟩ := Option.map_eq_some'.mp branch
      exact keeps glob opts holds
    · cases branch; exact holds
  · cases branch; exact holds

theorem multicastBranch_preserves (P : TaggerGlobal τ → Prop) {libc : TaggerLibc}
    (keeps : ∀ glob pair, P glob → P (multicastOption libc glob pair))
    {glob glob' : TaggerGlobal τ} {pair : YamlNode × YamlNode} (holds : P glob)
    (branch : multicastBranch libc glob pair = some glob') : P glob' := by
  unfold multicastBranch at branch
  split at branch
  · split_ifs at branch
    · cases branch
      exact foldl_preserves P _ _ (fun pair _ glob => keeps glob pair) holds
    · cases branch; exact holds
  · cases branch; exact holds

theorem ParsedValid.addUri {glob : TaggerGlobal τ} (valid : ParsedValid glob) (uri : String) :
    ParsedValid (addUri glob uri) := by
  have room := valid.toUriRoom.addUri uri
  unfold Tagger.addUri at room ⊢
  split_ifs at room ⊢ <;> exact ⟨room, valid.rate, valid.monitorid, valid.beaconport, valid.mtu, valid.ttl⟩

theorem parseConfig_valid (libc : TaggerLibc) (parseTagProviders : List YamlNode → τ → Option τ)
    {glob glob' : TaggerGlobal τ} {pair : YamlNode × YamlNode} (valid : ParsedValid glob)
    (parsed : parseConfig libc parseTagProviders glob pair = some glob') : ParsedValid glob' := by
  refine foldlM_preserves ParsedValid _ _ ?_ valid parsed
  intro branch mem glob glob' valid taken
  simp only [parseConfigBranches, List.mem_cons, List.mem_singleton, List.not_mem_nil, or_false] at mem
  rcases mem with rfl | rfl | rfl | rfl | rfl | rfl | rfl | rfl | rfl | rfl | rfl | rfl | rfl
  · exact scalarBranch_preserves ParsedValid (fun _ _ _ valid set => by cases set; exact valid.addUri _) valid taken
  iterate 2
    exact scalarBranch_preserves ParsedValid (fun _ _ _ valid set => by
      obtain ⟨_, -, rfl⟩ := Option.map_eq_some'.mp set; exact valid.frame rfl) valid taken
  · exact scalarBranch_preserves ParsedValid (fun _ _ _ valid set => by cases set; exact valid.frame rfl) valid taken
  · exact scalarBranch_preserves ParsedValid (fun _ _ _ valid set => by
      cases set
      exact ⟨⟨valid.fits, valid.tight, valid.blocks⟩, sampleRateOf_pos _, valid.monitorid,
        valid.beaconport, valid.mtu, valid.ttl⟩) valid taken
  iterate 6
    exact scalarBranch_preserves ParsedValid (fun _ _ _ valid set => by cases set; exact valid.frame rfl) valid taken
  · exact tagprovidersBranch_preserves ParsedValid (fun _ _ valid => valid.frame rfl) valid taken
  · exact multicastBranch_preserves ParsedValid (fun _ pair valid => multicastOption_valid libc valid pair) valid taken

@[simp] theorem addUri_inputuris (glob : TaggerGlobal τ) (uri : String) :
    (addUri glob uri).inputuris = glob.inputuris ++ [uri] := by
  unfold Tagger.addUri
  split_ifs <;> rfl

theorem parseConfig_inputuris (libc : TaggerLibc) (parseTagProviders : List YamlNode → τ → Option τ)
    {glob glob' : TaggerGlobal τ} {pair : YamlNode × YamlNode}
    (parsed : parseConfig libc parseTagProviders glob pair = some glob') :
    glob'.inputuris = glob.inputuris ++ (inputuriOf pair).toList := by
  rw [parseConfig, parseConfigBranches, List.foldlM_cons] at parsed
  obtain ⟨first, taken, rest⟩ := Option.bind_eq_some.mp parsed
  have added : first.inputuris = glob.inputuris ++ (inputuriOf pair).toList := by
    obtain ⟨key, value⟩ := pair
    cases key <;> cases value <;> simp only [scalarBranch, inputuriOf] at taken ⊢ <;>
      try (cases taken; simp)
    split_ifs at taken ⊢ <;> cases taken <;> simp
  rw [← added]
  refine foldlM_preserves (fun g => g.inputuris = first.inputuris) _ _ ?_ rfl rest
  intro branch mem glob glob' same taken
  simp only [List.mem_cons, List.mem_singleton, List.not_mem_nil, or_false] at mem
  rcases mem with rfl | rfl | rfl | rfl | rfl | rfl | rfl | rfl | rfl | rfl | rfl | rfl
  iterate 2
    exact scalarBranch_preserves (fun g => g.inputuris = first.inputuris) (fun _ _ _ same set => by
      obtain ⟨_, -, rfl⟩ := Option.map_eq_some'.mp set; exact same) same taken
  iterate 8
    exact scalarBranch_preserves (fun g => g.inputuris = first.inputuris)
      (fun _ _ _ same set => by cases set; exact same) same taken
  · exact tagprovidersBranch_preserves (fun g => g.inputuris = first.inputuris) (fun _ _ same => same)
      same taken
  · refine multicastBranch_preserves (fun g => g.inputuris = first.inputuris) (fun g pair same => ?_)
      same taken
    unfold multicastOption
    split
    · refine foldl_preserves (fun g : TaggerGlobal τ => g.inputuris = first.inputuris) _ _
        (fun step mem g same => ?_) same
      simp only [multicastKeys, List.mem_cons, List.mem_singleton, List.not_mem_nil, or_false] at mem
      rcases mem with rfl | rfl | rfl | rfl | rfl | rfl <;> dsimp only <;> split_ifs <;> exact same
    · exact same

theorem foldlM_parseConfig_inputuris (libc : TaggerLibc)
    (parseTagProviders : List YamlNode → τ → Option τ) (pairs : List (YamlNode × YamlNode))
    {glob glob' : TaggerGlobal τ} (run : pairs.foldlM (parseConfig libc parseTagProviders) glob = some glob') :
    glob'.inputuris = glob.inputuris ++ pairs.filterMap inputuriOf := by
  induction pairs generalizing glob with
  | nil => cases run; simp
  | cons pair rest ih =>
    obtain ⟨mid, first, later⟩ := Option.bind_eq_some.mp run
    rw [ih later, parseConfig_inputuris libc parseTagProviders first, List.filterMap_cons]
    cases inputuriOf pair <;> simp

/-- Every configuration `corsaro_tagger_init_global` returns has input URIs,
and they are the document's `inputuri` values in order, in an array with room
for them in blocks of 10; its sample rate is at least 1, its nDAG monitor id,
beacon port and MTU fit 16 bits and its TTL 8 bits; a file log mode comes with
a log file name; and the publishing queue, the control and ipmeta sockets and
the multicast group and source addresses are all set. -/
theorem tagger_config_valid (libc : TaggerLibc) (parseTagProviders : List YamlNode → τ → Option τ)
    (zeroOpts : τ) (defaults : InitDefaults) (document : Option (List (YamlNode × YamlNode)))
    (logmode : Logmode) (loggerCreated : Bool) {glob : TaggerGlobal τ}
    (returned : corsaroTaggerInitGlobal libc parseTagProviders zeroOpts defaults document logmode
      loggerCreated = some glob) :
    ∃ pairs, document = some pairs ∧ glob.inputuris = pairs.filterMap inputuriOf ∧
      glob.inputuris ≠ [] ∧ ParsedValid glob ∧ (glob.logmode = .file → glob.logfilename ≠ none) ∧
      glob.pubqueuename ≠ none ∧ glob.controlUri ≠ none ∧ glob.ipmetaQueueUri ≠ none ∧
      glob.ndagMcastgroup ≠ none ∧ glob.ndagSourceaddr ≠ none := by
  unfold corsaroTaggerInitGlobal at returned
  split at returned
  · cases returned
  · rename_i parsed run
    obtain ⟨pairs, rfl, run⟩ := Option.bind_eq_some.mp run
    have valid := foldlM_preserves ParsedValid _ pairs
      (fun _ _ _ _ valid step => parseConfig_valid libc parseTagProviders valid step)
      (init_parsedValid logmode zeroOpts) run
    have uris := foldlM_parseConfig_inputuris libc parseTagProviders pairs run
    dsimp only at returned
    split_ifs at returned with fileNoName loggerFailed noUris
    cases returned
    refine ⟨pairs, rfl, by simpa [TaggerGlobal.init] using uris, List.ne_nil_of_length_pos (Nat.pos_of_ne_zero noUris),
      valid.frame rfl, fun file => by simp_all, by simp, by simp, by simp, by simp, by simp⟩

theorem tagger_config_valid_sample :
    ∃ glob, corsaroTaggerInitGlobal ⟨fun _ => 0, fun _ => 0, fun _ => 0⟩ (fun _ _ => some ()) ()
        ⟨"ipc:///tmp/control", "ipc:///tmp/ipmeta"⟩
        (some [(.scalar "inputuri", .scalar "pcapint:eth0"), (.scalar "samplerate", .scalar "0")])
        .stderr true = some glob ∧
      ∃ pairs, some [(YamlNode.scalar "inputuri", YamlNode.scalar "pcapint:eth0"),
          (.scalar "samplerate", .scalar "0")] = some pairs ∧
        glob.inputuris = pairs.filterMap inputuriOf ∧ glob.inputuris ≠ [] ∧ ParsedValid glob ∧
        (glob.logmode = .file → glob.logfilename ≠ none) ∧ glob.pubqueuename ≠ none ∧
        glob.controlUri ≠ none ∧ glob.ipmetaQueueUri ≠ none ∧ glob.ndagMcastgroup ≠ none ∧
        glob.ndagSourceaddr ≠ none :=
  ⟨_, rfl, tagger_config_valid ⟨fun _ => 0, fun _ => 0, fun _ => 0⟩ (fun _ _ => some ()) ()
    ⟨"ipc:///tmp/control", "ipc:///tmp/ipmeta"⟩ _ .stderr true rfl⟩

theorem foldlM_eq_none_of_mem {α β : Type} (f : β → α → Option β) {a : α} (fails : ∀ b, f b a = none)
    {xs : List α} (mem : a ∈ xs) (b : β) : xs.foldlM f b = none := by
  induction xs generalizing b with
  | nil => cases mem
  | cons x rest ih =>
    rw [List.foldlM_cons]
    rcases List.mem_cons.mp mem with rfl | mem
    · simp [fails]
    · cases f b x <;> simp [ih mem]

theorem parseConfig_bad_onoff (libc : TaggerLibc) (parseTagProviders : List YamlNode → τ → Option τ)
    {key value : String} (named : key = "promisc" ∨ key = "dohashing") (bad : parseOnoffOption value = none)
    (glob : TaggerGlobal τ) :
    parseConfig libc parseTagProviders glob (.scalar key, .scalar value) = none := by
  rcases named with rfl | rfl <;> simp [parseConfig, parseConfigBranches, scalarBranch, bad]

theorem tagger_rejects_bad_onoff (libc : TaggerLibc) (parseTagProviders : List YamlNode → τ → Option τ)
    (zeroOpts : τ) (defaults : InitDefaults) (logmode : Logmode) (loggerCreated : Bool)
    {pairs : List (YamlNode × YamlNode)} {key value : String} (named : key = "promisc" ∨ key = "dohashing")
    (bad : parseOnoffOption value = none) (mem : (.scalar key, .scalar value) ∈ pairs) :
    corsaroTaggerInitGlobal libc parseTagProviders zeroOpts defaults (some pairs) logmode loggerCreated =
      none := by
  simp [corsaroTaggerInitGlobal,
    foldlM_eq_none_of_mem _ (parseConfig_bad_onoff libc parseTagProviders named bad) mem]

end Corsaro.Libcorsaro.Tagger
