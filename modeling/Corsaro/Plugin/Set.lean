import Mathlib.Algebra.Order.Ring.Nat
import Mathlib.Data.List.Basic

/-! The plugin set of libcorsaro3. `corsaro_start_plugins` and
`corsaro_start_reader_plugins` make a set over a plugin list, with one state per
plugin from its `init_processing` or `init_reading`; each `corsaro_push_*`
function calls one callback of every plugin of a trace set, in list order, each
with its own state, and `corsaro_stop_plugins` halts them. A push on a reader
set returns -1 and calls nothing. The `corsaro_packet_state_t` of a packet is
cleared once and handed from plugin to plugin, so a plugin sees what the plugins
before it set. A callback acts on the state its `void *local` points at, and
what it returns is not looked at. The logger is left out. -/
namespace Corsaro.Plugin

inductive Api
  | trace | reader
  deriving DecidableEq, Repr

structure CorsaroInterval where
  corsaroMagic : UInt32
  magic : UInt32
  number : UInt32
  time : UInt32
  isstart : Bool
  deriving DecidableEq, Repr

def corsaroMagic : UInt32 := 0x45444752

def corsaroMagicInterval : UInt32 := 0x494E5452

def populateInterval (number time : UInt32) (isstart : Bool) : CorsaroInterval :=
  ⟨corsaroMagic, corsaroMagicInterval, number, time, isstart⟩

structure PacketState where
  flags : UInt8
  deriving DecidableEq, Repr

def resetPacketState : PacketState := ⟨0⟩

/-- What the plugin set uses of a `corsaro_plugin_t`: its `name`, `enabled` flag and callbacks. -/
structure CorsaroPlugin (σ π : Type) where
  name : List Char
  enabled : Bool
  initProcessing : Int → σ
  haltProcessing : σ → σ
  startInterval : σ → CorsaroInterval → σ
  endInterval : σ → CorsaroInterval → σ
  processPacket : σ → π → PacketState → σ × PacketState
  rotateOutput : σ → CorsaroInterval → σ
  initReading : Int → σ
  haltReading : σ → σ

variable {σ π : Type}

structure CorsaroPluginSet (σ π : Type) where
  activePlugins : List (CorsaroPlugin σ π)
  pluginState : List σ
  api : Api
  aligned : pluginState.length = activePlugins.length

/-- `corsaro_start_plugins`; `none` where `assert(index < count)` fails. -/
def corsaroStartPlugins (plist : List (CorsaroPlugin σ π)) (count : Nat) (threadid : Int) :
    Option (CorsaroPluginSet σ π) :=
  if plist.length ≤ count then some ⟨plist, plist.map (·.initProcessing threadid), .trace, by simp⟩
  else none

def corsaroStartReaderPlugins (plist : List (CorsaroPlugin σ π)) (count : Nat) (maxsources : Int) :
    Option (CorsaroPluginSet σ π) :=
  if plist.length ≤ count then some ⟨plist, plist.map (·.initReading maxsources), .reader, by simp⟩
  else none

/-- The loop of `corsaro_push_packet_plugins`: each plugin in order, handed what the ones before it
left. -/
def pushPacketLoop (packet : π) : List (CorsaroPlugin σ π) → List σ → PacketState → List σ
  | p :: ps, s :: ss, pstate =>
    let (s, pstate) := p.processPacket s packet pstate
    s :: pushPacketLoop packet ps ss pstate
  | _, _, _ => []

theorem pushPacketLoop_length (packet : π) (ps : List (CorsaroPlugin σ π)) (ss : List σ)
    (pstate : PacketState) : (pushPacketLoop packet ps ss pstate).length = min ps.length ss.length := by
  induction ps generalizing ss pstate with
  | nil => simp [pushPacketLoop]
  | cons p ps ih =>
    cases ss with
    | nil => simp [pushPacketLoop]
    | cons s ss => simp [pushPacketLoop, ih, Nat.succ_min_succ]

def corsaroPushPacketPlugins (pset : CorsaroPluginSet σ π) (packet : π) :
    Int × CorsaroPluginSet σ π :=
  if pset.api ≠ .trace then (-1, pset)
  else (0, { pset with
    pluginState := pushPacketLoop packet pset.activePlugins pset.pluginState resetPacketState
    aligned := by rw [pushPacketLoop_length, pset.aligned, Nat.min_self] })

/-- `corsaro_push_start_plugins`, `corsaro_push_end_plugins` and `corsaro_push_rotate_file_plugins`.
-/
def pushIntervalPlugins (callback : CorsaroPlugin σ π → σ → CorsaroInterval → σ) (isstart : Bool)
    (pset : CorsaroPluginSet σ π) (intervalid ts : UInt32) : Int × CorsaroPluginSet σ π :=
  if pset.api ≠ .trace then (-1, pset)
  else (0, { pset with
    pluginState := List.zipWith (fun p s => callback p s (populateInterval intervalid ts isstart))
      pset.activePlugins pset.pluginState
    aligned := by simp [pset.aligned] })

def corsaroPushEndPlugins (pset : CorsaroPluginSet σ π) (intervalid ts : UInt32) :
    Int × CorsaroPluginSet σ π :=
  pushIntervalPlugins CorsaroPlugin.endInterval false pset intervalid ts

def corsaroPushStartPlugins (pset : CorsaroPluginSet σ π) (intervalid ts : UInt32) :
    Int × CorsaroPluginSet σ π :=
  pushIntervalPlugins CorsaroPlugin.startInterval true pset intervalid ts

def corsaroPushRotateFilePlugins (pset : CorsaroPluginSet σ π) (intervalid ts : UInt32) :
    Int × CorsaroPluginSet σ π :=
  pushIntervalPlugins CorsaroPlugin.rotateOutput false pset intervalid ts

/-- `corsaro_stop_plugins`: what the halt of the set's api leaves of each plugin's state. -/
def corsaroStopPlugins (pset : CorsaroPluginSet σ π) : List σ :=
  List.zipWith (fun p s => match pset.api with
    | .trace => p.haltProcessing s
    | .reader => p.haltReading s) pset.activePlugins pset.pluginState

/-- The test of `corsaro_find_plugin`: equal lengths and `strncasecmp` equal, on ASCII names. -/
def nameMatches (name pname : List Char) : Bool :=
  name.length == pname.length &&
    (name.take pname.length).map Char.toLower == (pname.take pname.length).map Char.toLower

def corsaroFindPlugin (plist : List (CorsaroPlugin σ π)) (name : List Char) :
    Option (CorsaroPlugin σ π) :=
  plist.find? fun p => nameMatches name p.name

theorem nameMatches_iff (name pname : List Char) :
    nameMatches name pname ↔ name.map Char.toLower = pname.map Char.toLower := by
  constructor
  · intro same
    simp only [nameMatches, Bool.and_eq_true, beq_iff_eq] at same
    obtain ⟨length, lowered⟩ := same
    rwa [List.take_of_length_le length.le, List.take_of_length_le le_rfl] at lowered
  · intro same
    have length : name.length = pname.length := by simpa using congrArg List.length same
    simp [nameMatches, length, List.take_of_length_le length.le, same]

/-! ### Runs of pushes -/

inductive Push (π : Type)
  | packet (packet : π)
  | startInterval (intervalid ts : UInt32)
  | endInterval (intervalid ts : UInt32)
  | rotateFile (intervalid ts : UInt32)

def corsaroPush (pset : CorsaroPluginSet σ π) : Push π → Int × CorsaroPluginSet σ π
  | .packet packet => corsaroPushPacketPlugins pset packet
  | .startInterval intervalid ts => corsaroPushStartPlugins pset intervalid ts
  | .endInterval intervalid ts => corsaroPushEndPlugins pset intervalid ts
  | .rotateFile intervalid ts => corsaroPushRotateFilePlugins pset intervalid ts

/-- A run of pushes: what each returned, and the set after them. -/
def pushRun (pset : CorsaroPluginSet σ π) : List (Push π) → List Int × CorsaroPluginSet σ π
  | [] => ([], pset)
  | e :: rest =>
    let (r, pset) := corsaroPush pset e
    let (rs, pset) := pushRun pset rest
    (r :: rs, pset)

@[simp] theorem corsaroPush_api (pset : CorsaroPluginSet σ π) (e : Push π) :
    (corsaroPush pset e).2.api = pset.api := by
  cases e <;>
    simp only [corsaroPush, corsaroPushPacketPlugins, corsaroPushStartPlugins, corsaroPushEndPlugins,
      corsaroPushRotateFilePlugins, pushIntervalPlugins] <;> split_ifs <;> rfl

@[simp] theorem corsaroPush_activePlugins (pset : CorsaroPluginSet σ π) (e : Push π) :
    (corsaroPush pset e).2.activePlugins = pset.activePlugins := by
  cases e <;>
    simp only [corsaroPush, corsaroPushPacketPlugins, corsaroPushStartPlugins, corsaroPushEndPlugins,
      corsaroPushRotateFilePlugins, pushIntervalPlugins] <;> split_ifs <;> rfl

theorem corsaroPush_reader {pset : CorsaroPluginSet σ π} (reader : pset.api = .reader) (e : Push π) :
    corsaroPush pset e = (-1, pset) := by
  cases e <;>
    simp [corsaroPush, corsaroPushPacketPlugins, corsaroPushStartPlugins, corsaroPushEndPlugins,
      corsaroPushRotateFilePlugins, pushIntervalPlugins, reader]

theorem pushRun_reader {pset : CorsaroPluginSet σ π} (reader : pset.api = .reader) (evs : List (Push π)) :
    pushRun pset evs = (evs.map fun _ => -1, pset) := by
  induction evs with
  | nil => rfl
  | cons e rest ih => simp [pushRun, corsaroPush_reader reader, ih]

theorem reader_set_ignores_pushes (plist : List (CorsaroPlugin σ π)) {count : Nat} (maxsources : Int)
    (fits : plist.length ≤ count) (evs : List (Push π)) :
    ∃ pset, corsaroStartReaderPlugins plist count maxsources = some pset ∧
      (pushRun pset evs).1 = evs.map (fun _ => -1) ∧
      (pushRun pset evs).2.pluginState = plist.map (·.initReading maxsources) ∧
      corsaroStopPlugins (pushRun pset evs).2 = plist.map fun p => p.haltReading (p.initReading maxsources) := by
  refine ⟨_, if_pos fits, ?_⟩
  rw [pushRun_reader rfl]
  simp [corsaroStopPlugins, List.zipWith_map_right, List.zipWith_same]

/-! ### A trace set, plugin by plugin -/

def CorsaroPlugin.handle (p : CorsaroPlugin σ π) (s : σ) : Push π → PacketState → σ × PacketState
  | .packet packet, pstate => p.processPacket s packet pstate
  | .startInterval intervalid ts, pstate => (p.startInterval s (populateInterval intervalid ts true), pstate)
  | .endInterval intervalid ts, pstate => (p.endInterval s (populateInterval intervalid ts false), pstate)
  | .rotateFile intervalid ts, pstate =>
    (p.rotateOutput s (populateInterval intervalid ts false), pstate)

def pushStates : List (CorsaroPlugin σ π) → List σ → Push π × PacketState → List σ
  | p :: ps, s :: ss, (e, pstate) =>
    let (s, pstate) := p.handle s e pstate
    s :: pushStates ps ss (e, pstate)
  | _, _, _ => []

/-- A plugin alone over a run of pushes: its state after them, and the packet states it hands on. -/
def soloRun (p : CorsaroPlugin σ π) : σ → List (Push π × PacketState) → σ × List (Push π × PacketState)
  | s, [] => (s, [])
  | s, (e, pstate) :: rest =>
    let (s, pstate) := p.handle s e pstate
    let (s, out) := soloRun p s rest
    (s, (e, pstate) :: out)

/-- The plugins one after another, each over the whole run with the packet states the one before it
handed on. -/
def pluginByPlugin : List (CorsaroPlugin σ π) → List σ → List (Push π × PacketState) → List σ
  | p :: ps, s :: ss, pushes =>
    let (s, out) := soloRun p s pushes
    s :: pluginByPlugin ps ss out
  | _, _, _ => []

theorem pushPacketLoop_eq (packet : π) (ps : List (CorsaroPlugin σ π)) (ss : List σ) (pstate : PacketState) :
    pushPacketLoop packet ps ss pstate = pushStates ps ss (.packet packet, pstate) := by
  induction ps generalizing ss pstate with
  | nil => simp [pushPacketLoop, pushStates]
  | cons p ps ih => cases ss <;> simp [pushPacketLoop, pushStates, CorsaroPlugin.handle, ih]

theorem zipWith_eq_pushStates (ps : List (CorsaroPlugin σ π)) (ss : List σ) (e : Push π)
    (pstate : PacketState) (callback : CorsaroPlugin σ π → σ → σ)
    (handles : ∀ p s, p.handle s e pstate = (callback p s, pstate)) :
    List.zipWith callback ps ss = pushStates ps ss (e, pstate) := by
  induction ps generalizing ss with
  | nil => simp [pushStates]
  | cons p ps ih => cases ss <;> simp [pushStates, handles, ih]

theorem corsaroPush_trace {pset : CorsaroPluginSet σ π} (trace : pset.api = .trace) (e : Push π) :
    (corsaroPush pset e).1 = 0 ∧
      (corsaroPush pset e).2.pluginState =
        pushStates pset.activePlugins pset.pluginState (e, resetPacketState) := by
  cases e with
  | packet packet =>
    simp [corsaroPush, corsaroPushPacketPlugins, trace, pushPacketLoop_eq]
  | _ =>
    simp only [corsaroPush, corsaroPushStartPlugins, corsaroPushEndPlugins,
      corsaroPushRotateFilePlugins, pushIntervalPlugins, trace, ne_eq, not_true_eq_false, if_false]
    exact ⟨trivial, zipWith_eq_pushStates _ _ _ _ _ fun _ _ => rfl⟩

theorem pushRun_trace {pset : CorsaroPluginSet σ π} (trace : pset.api = .trace) (evs : List (Push π)) :
    (pushRun pset evs).1 = evs.map (fun _ => 0) ∧
      (pushRun pset evs).2.pluginState =
        (evs.map (·, resetPacketState)).foldl (pushStates pset.activePlugins) pset.pluginState := by
  induction evs generalizing pset with
  | nil => simp [pushRun]
  | cons e rest ih =>
    obtain ⟨returned, moved⟩ := corsaroPush_trace trace e
    obtain ⟨returns, states⟩ := @ih (corsaroPush pset e).2 (by simp [trace])
    simp only [pushRun, List.map_cons, List.foldl_cons, returned, returns, true_and]
    rw [states, moved, corsaroPush_activePlugins]

theorem foldl_pushStates_cons (p : CorsaroPlugin σ π) (ps : List (CorsaroPlugin σ π)) (s : σ)
    (ss : List σ) (pushes : List (Push π × PacketState)) :
    pushes.foldl (pushStates (p :: ps)) (s :: ss) =
      (soloRun p s pushes).1 :: (soloRun p s pushes).2.foldl (pushStates ps) ss := by
  induction pushes generalizing s ss with
  | nil => rfl
  | cons push rest ih =>
    obtain ⟨e, pstate⟩ := push
    simp only [List.foldl_cons, pushStates, soloRun]
    exact ih _ _

theorem foldl_pushStates (ps : List (CorsaroPlugin σ π)) (ss : List σ) (aligned : ss.length = ps.length)
    (pushes : List (Push π × PacketState)) :
    pushes.foldl (pushStates ps) ss = pluginByPlugin ps ss pushes := by
  induction ps generalizing ss pushes with
  | nil =>
    rw [List.length_eq_zero.mp aligned]
    induction pushes with
    | nil => rfl
    | cons push rest ih => exact ih
  | cons p ps ih =>
    obtain _ | ⟨s, ss⟩ := ss
    · cases aligned
    · rw [foldl_pushStates_cons, ih ss (by simpa using aligned)]
      rfl

/-- On a trace set `corsaro_start_plugins` makes, every push of any run returns
0, and the plugin at each position ends in the state its own callbacks make of
its own `init_processing` state over the whole run, in order, each packet with
the packet state the plugins before it handed on: the set runs its plugins as
if one after the other, never touching a plugin's state but through its own
callbacks, and calling every plugin whatever its `enabled` flag. -/
theorem trace_set_runs_plugin_by_plugin (plist : List (CorsaroPlugin σ π)) {count : Nat}
    (threadid : Int) (fits : plist.length ≤ count) (evs : List (Push π)) :
    ∃ pset, corsaroStartPlugins plist count threadid = some pset ∧
      (pushRun pset evs).1 = evs.map (fun _ => 0) ∧
      (pushRun pset evs).2.pluginState =
        pluginByPlugin plist (plist.map (·.initProcessing threadid)) (evs.map (·, resetPacketState)) := by
  refine ⟨_, if_pos fits, ?_⟩
  obtain ⟨returns, states⟩ :=
    @pushRun_trace σ π ⟨plist, plist.map (·.initProcessing threadid), .trace, by simp⟩ rfl evs
  exact ⟨returns, states.trans (foldl_pushStates _ _ (by simp) _)⟩

def countingPlugin : CorsaroPlugin Nat Unit :=
  ⟨['c', 'o', 'u', 'n', 't'], true, fun _ => 0, id, fun s _ => s + 1, fun s _ => s + 1,
    fun s _ pstate => (s + 1, pstate), fun s _ => s + 1, fun _ => 0, id⟩

theorem trace_set_runs_plugin_by_plugin_counting :
    [countingPlugin].length ≤ 1 ∧
      ∃ pset, corsaroStartPlugins [countingPlugin] 1 0 = some pset ∧
        (pushRun pset [.packet (), .endInterval 1 60]).1 = [Push.packet (), .endInterval 1 60].map
          (fun _ => 0) ∧
        (pushRun pset [.packet (), .endInterval 1 60]).2.pluginState =
          pluginByPlugin [countingPlugin] ([countingPlugin].map (·.initProcessing 0))
            ([Push.packet (), .endInterval 1 60].map (·, resetPacketState)) :=
  ⟨by decide, trace_set_runs_plugin_by_plugin _ 0 (by decide) _⟩

end Corsaro.Plugin
