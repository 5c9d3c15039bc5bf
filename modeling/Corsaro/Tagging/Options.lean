import Mathlib.Algebra.BigOperators.Group.List
import Corsaro.Tagging.Packet
import Corsaro.Tagging.Providers

/-! The option strings libcorsaro3's tagger builds for libipmeta, which takes a
provider's configuration as a getopt-style command line. A builder prints, for
each option that is set, the fragment `snprintf(fragment, FRAGSPACE, "-x %s ",
value)` and appends it with `COPY_STRING` to a buffer of `MAXSPACE` bytes;
`COPY_STRING` logs and returns `NULL` as soon as a fragment would leave no room
for the terminating NUL, and a builder that wrote nothing returns `NULL`
without a log line. `corsaro_init_ipmeta_provider` hands the string to
`ipmeta_enable_provider`. A C string is the list of its bytes before the NUL,
so that lengths count bytes, as `snprintf` and `strlen` do; a builder's result
is `.error` with the line it logs, or `.ok` with the pointer it returns. -/
namespace Corsaro.Tagging

def maxspace : Nat := 4096

def fragspace : Nat := 512

/-- The byte of an ASCII character of a format string. -/
def asciiByte (c : Char) : UInt8 := c.toNat.toUInt8

def blank : UInt8 := asciiByte ' '

def optionFlag (flag : Char) : List UInt8 := [asciiByte '-', asciiByte flag]

/-- `snprintf(fragment, FRAGSPACE, "-x %s ", value)`: the bytes, cut to the `FRAGSPACE - 1` that fit
before the NUL. -/
def optionFragment (flag : Char) (value : List UInt8) : List UInt8 :=
  (optionFlag flag ++ blank :: (value ++ [blank])).take (fragspace - 1)

/-- `COPY_STRING(space, MAXSPACE, used, toadd, errname)`. -/
def copyString (errname : String) (space toadd : List UInt8) : Except String (List UInt8) :=
  if space.length + toadd.length ≥ maxspace then .error s!"{errname} option string is too long?"
  else .ok (space ++ toadd)

/-- The steps `if (opts->field) { snprintf(...); COPY_STRING(...); }` of a builder, in its order. -/
def copyOptions (errname : String) : List UInt8 → List (Char × Option (List UInt8)) →
    Except String (List UInt8)
  | space, [] => .ok space
  | space, (_, none) :: rest => copyOptions errname space rest
  | space, (flag, some value) :: rest =>
    match copyString errname space (optionFragment flag value) with
    | .error msg => .error msg
    | .ok space => copyOptions errname space rest

def createOptionString (errname : String) (opts : List (Char × Option (List UInt8))) :
    Except String (Option (List UInt8)) :=
  match copyOptions errname [] opts with
  | .error msg => .error msg
  | .ok space => .ok (if 0 < space.length then some space else none)

structure MaxmindOpts where
  directory : Option (List UInt8)
  dsName : Option (List UInt8)
  blocksFile : Option (List UInt8)
  locationsFile : Option (List UInt8)
  deriving DecidableEq, Repr

structure Pfx2asnOpts where
  pfx2asFile : Option (List UInt8)
  dsName : Option (List UInt8)
  deriving DecidableEq, Repr

/-- `netacq_opts_t`, with the names of `polygon_table_files`. -/
structure NetacqOpts where
  blocksFile : Option (List UInt8)
  dsName : Option (List UInt8)
  countryFile : Option (List UInt8)
  locationsFile : Option (List UInt8)
  regionFile : Option (List UInt8)
  polygonMapFile : Option (List UInt8)
  polygonTableFiles : List (List UInt8)
  deriving DecidableEq, Repr

def MaxmindOpts.flags (o : MaxmindOpts) : List (Char × Option (List UInt8)) :=
  [('d', o.directory), ('D', o.dsName), ('b', o.blocksFile), ('l', o.locationsFile)]

def Pfx2asnOpts.flags (o : Pfx2asnOpts) : List (Char × Option (List UInt8)) :=
  [('f', o.pfx2asFile), ('D', o.dsName)]

def NetacqOpts.flags (o : NetacqOpts) : List (Char × Option (List UInt8)) :=
  [('b', o.blocksFile), ('D', o.dsName), ('c', o.countryFile), ('l', o.locationsFile),
    ('r', o.regionFile), ('p', o.polygonMapFile)] ++
    o.polygonTableFiles.map fun fname => ('t', some fname)

def createMaxmindOptionString (maxopts : MaxmindOpts) : Except String (Option (List UInt8)) :=
  createOptionString "maxmind" maxopts.flags

def createPrefix2asnOptionString (pfxopts : Pfx2asnOpts) : Except String (Option (List UInt8)) :=
  createOptionString "prefix2asn" pfxopts.flags

def createNetacqOptionString (acqopts : NetacqOpts) : Except String (Option (List UInt8)) :=
  createOptionString "netacq-edge" acqopts.flags

inductive ProviderOptions
  | maxmind (o : MaxmindOpts)
  | netacqEdge (o : NetacqOpts)
  | pfx2as (o : Pfx2asnOpts)
  | other (provid : Nat)
  deriving DecidableEq, Repr

def ProviderOptions.provid (ids : ProviderIds) : ProviderOptions → Nat
  | .maxmind _ => ids.maxmind
  | .netacqEdge _ => ids.netacqEdge
  | .pfx2as _ => ids.pfx2as
  | .other provid => provid

def ProviderOptions.flags : ProviderOptions → List (Char × Option (List UInt8))
  | .maxmind o => o.flags
  | .netacqEdge o => o.flags
  | .pfx2as o => o.flags
  | .other _ => []

def createIpmetaOptions : ProviderOptions → Except String (Option (List UInt8))
  | .maxmind o => createMaxmindOptionString o
  | .netacqEdge o => createNetacqOptionString o
  | .pfx2as o => createPrefix2asnOptionString o
  | .other _ => .ok none

structure Ipmeta where
  providerById : Nat → Option IpmetaProvider
  enableProvider : IpmetaProvider → List UInt8 → Bool

/-- `corsaro_init_ipmeta_provider`: the provider, or the lines it logs on the way to returning
`NULL`. -/
def corsaroInitIpmetaProvider (ids : ProviderIds) (ipmeta : Option Ipmeta)
    (options : ProviderOptions) : Except (List String) IpmetaProvider :=
  match ipmeta with
  | none => .error ["Cannot create IPMeta provider: IPMeta instance is NULL."]
  | some m =>
    let provid := options.provid ids
    match m.providerById provid with
    | none => .error [s!"Cannot create IPMeta provider: {provid} is an invalid provider ID."]
    | some prov =>
      let parsing := s!"Cannot create IPMeta provider {provid}: error parsing options."
      match createIpmetaOptions options with
      | .error msg => .error [msg, parsing]
      | .ok none => .error [parsing]
      | .ok (some optstring) =>
        if m.enableProvider prov optstring then .ok prov
        else .error [s!"Cannot create IPMeta provider {provid}: libipmeta internal error."]

/-! ### What a builder writes -/

def setOptions (opts : List (Char × Option (List UInt8))) : List (Char × List UInt8) :=
  opts.filterMap fun o => o.2.map (o.1, ·)

/-- The fragments of the options that are set, one after another. -/
def optionText (opts : List (Char × Option (List UInt8))) : List UInt8 :=
  (setOptions opts).flatMap fun o => optionFragment o.1 o.2

@[simp] theorem setOptions_nil : setOptions [] = [] := rfl

@[simp] theorem setOptions_cons_none (flag : Char) (rest : List (Char × Option (List UInt8))) :
    setOptions ((flag, none) :: rest) = setOptions rest := rfl

@[simp] theorem setOptions_cons_some (flag : Char) (value : List UInt8)
    (rest : List (Char × Option (List UInt8))) :
    setOptions ((flag, some value) :: rest) = (flag, value) :: setOptions rest := rfl

theorem optionFragment_ne_nil (flag : Char) (value : List UInt8) : optionFragment flag value ≠ [] := by
  simp [optionFragment, optionFlag, fragspace]

theorem optionText_eq_nil {opts : List (Char × Option (List UInt8))} :
    optionText opts = [] ↔ setOptions opts = [] := by
  simp only [optionText, List.flatMap_eq_nil_iff, optionFragment_ne_nil, imp_false]
  exact List.eq_nil_iff_forall_not_mem.symm

theorem copyOptions_eq (errname : String) (opts : List (Char × Option (List UInt8)))
    {space : List UInt8} (room : space.length < maxspace) :
    copyOptions errname space opts =
      if space.length + (optionText opts).length < maxspace then .ok (space ++ optionText opts)
      else .error s!"{errname} option string is too long?" := by
  induction opts generalizing space with
  | nil => simp [copyOptions, optionText, room]
  | cons o rest ih =>
    obtain ⟨flag, _ | value⟩ := o
    · simpa [copyOptions, optionText] using ih room
    · have text : optionText ((flag, some value) :: rest) =
          optionFragment flag value ++ optionText rest := rfl
      by_cases full : space.length + (optionFragment flag value).length ≥ maxspace
      · simp only [copyOptions, copyString, if_pos full, text, List.length_append]
        rw [if_neg (by omega)]
      · simp only [copyOptions, copyString, if_neg full, text]
        rw [ih (by simp only [List.length_append]; omega)]
        simp only [List.length_append, List.append_assoc, Nat.add_assoc]

theorem createOptionString_eq (errname : String) (opts : List (Char × Option (List UInt8))) :
    createOptionString errname opts =
      if (optionText opts).length < maxspace then
        .ok (if setOptions opts = [] then none else some (optionText opts))
      else .error s!"{errname} option string is too long?" := by
  rw [createOptionString, copyOptions_eq errname opts (by decide)]
  split_ifs with fits <;> simp_all [List.length_pos, optionText_eq_nil]

theorem createIpmetaOptions_eq (o : ProviderOptions) :
    ∃ errname, createIpmetaOptions o = createOptionString errname o.flags := by
  cases o with
  | other => exact ⟨"", by simp [createIpmetaOptions, ProviderOptions.flags, createOptionString,
      copyOptions]⟩
  | _ => exact ⟨_, rfl⟩

theorem createIpmetaOptions_eq_some (o : ProviderOptions) (s : List UInt8) :
    createIpmetaOptions o = .ok (some s) ↔
      setOptions o.flags ≠ [] ∧ (optionText o.flags).length < maxspace ∧ optionText o.flags = s := by
  obtain ⟨errname, built⟩ := createIpmetaOptions_eq o
  rw [built, createOptionString_eq]
  split_ifs <;> simp_all

/-- `corsaro_init_ipmeta_provider` enables a provider exactly when libipmeta
has one under the id, at least one option is set, the fragments, counted in
bytes, fit in `MAXSPACE` with room for the NUL, and libipmeta accepts their
concatenation. -/
theorem init_ipmeta_provider_enables (ids : ProviderIds) (m : Ipmeta) (o : ProviderOptions)
    (prov : IpmetaProvider) :
    corsaroInitIpmetaProvider ids (some m) o = .ok prov ↔
      m.providerById (o.provid ids) = some prov ∧ setOptions o.flags ≠ [] ∧
        (optionText o.flags).length < maxspace ∧ m.enableProvider prov (optionText o.flags) := by
  obtain ⟨errname, built⟩ := createIpmetaOptions_eq o
  simp only [corsaroInitIpmetaProvider, built, createOptionString_eq]
  cases m.providerById (o.provid ids) with
  | none => simp
  | some found =>
    by_cases fits : (optionText o.flags).length < maxspace
    · by_cases unset : setOptions o.flags = []
      · simp [fits, unset]
      · by_cases accepted : m.enableProvider found (optionText o.flags) <;>
          simp [fits, unset, accepted] <;> rintro rfl <;> simpa using accepted
    · simp [fits]

/-! ### Reading the string back -/

/-- The words of a command line, split at blanks, as getopt is handed them. -/
def optionWords (s : List UInt8) : List (List UInt8) :=
  (s.splitOn blank).filter fun w => !w.isEmpty

/-- A value a fragment carries whole, as one word: nonempty, without a blank, and short enough in
bytes. -/
def PlainValue (value : List UInt8) : Prop :=
  value ≠ [] ∧ blank ∉ value ∧ value.length + 4 < fragspace

instance (value : List UInt8) : Decidable (PlainValue value) :=
  inferInstanceAs (Decidable (_ ∧ _ ∧ _))

@[simp] theorem optionWords_nil : optionWords [] = [] := rfl

theorem optionWords_word (w rest : List UInt8) (nonempty : w ≠ []) (noBlank : blank ∉ w) :
    optionWords (w ++ blank :: rest) = w :: optionWords rest := by
  have split : (w ++ blank :: rest).splitOn blank = w :: rest.splitOn blank :=
    List.splitOnP_first _ w (fun c mem same => noBlank (by rwa [beq_iff_eq.mp same] at mem))
      blank (by simp) rest
  simp [optionWords, split, List.isEmpty_iff, nonempty]

theorem blank_not_mem_optionFlag {flag : Char} (flagNotBlank : asciiByte flag ≠ blank) :
    blank ∉ optionFlag flag := by
  have dash : asciiByte '-' ≠ blank := by decide
  simp [optionFlag, dash.symm, flagNotBlank.symm]

theorem optionFragment_eq (flag : Char) (value : List UInt8) :
    optionFragment flag value = optionFlag flag ++ blank :: (value ++ [blank]).take (fragspace - 4) :=
  rfl

theorem optionFragment_plain (flag : Char) {value : List UInt8} (plain : PlainValue value) :
    optionFragment flag value = optionFlag flag ++ blank :: (value ++ [blank]) := by
  have short := plain.2.2
  simp only [fragspace] at short
  rw [optionFragment_eq, List.take_of_length_le (by simp [fragspace]; omega)]

theorem optionFragment_long (flag : Char) {value : List UInt8} (long : fragspace - 4 ≤ value.length) :
    optionFragment flag value = optionFlag flag ++ blank :: value.take (fragspace - 4) := by
  rw [optionFragment_eq, List.take_append_of_le_length long]

theorem optionWords_fragment {flag : Char} {value : List UInt8} (rest : List UInt8)
    (flagNotBlank : asciiByte flag ≠ blank) (plain : PlainValue value) :
    optionWords (optionFragment flag value ++ rest) = optionFlag flag :: value :: optionWords rest := by
  have flagWord := optionWords_word (optionFlag flag) (value ++ blank :: rest) (by simp [optionFlag])
    (blank_not_mem_optionFlag flagNotBlank)
  rw [optionWords_word value rest plain.1 plain.2.1] at flagWord
  simpa [optionFragment_plain flag plain] using flagWord

theorem optionWords_plain_fragments (opts : List (Char × List UInt8)) (rest : List UInt8)
    (flags : ∀ o ∈ opts, asciiByte o.1 ≠ blank) (plain : ∀ o ∈ opts, PlainValue o.2) :
    optionWords ((opts.flatMap fun o => optionFragment o.1 o.2) ++ rest) =
      (opts.flatMap fun o => [optionFlag o.1, o.2]) ++ optionWords rest := by
  induction opts with
  | nil => rfl
  | cons o opts ih =>
    rw [List.flatMap_cons, List.append_assoc,
      optionWords_fragment _ (flags o (List.mem_cons_self _ _)) (plain o (List.mem_cons_self _ _)),
      ih (fun o mem => flags o (List.mem_cons_of_mem _ mem))
        (fun o mem => plain o (List.mem_cons_of_mem _ mem))]
    rfl

theorem optionWords_long_fragment {flag next : Char} {value : List UInt8} (nextValue rest : List UInt8)
    (flagNotBlank : asciiByte flag ≠ blank) (nextNotBlank : asciiByte next ≠ blank)
    (noBlank : blank ∉ value) (long : fragspace - 4 ≤ value.length) :
    optionWords (optionFragment flag value ++ (optionFragment next nextValue ++ rest)) =
      optionFlag flag :: (value.take (fragspace - 4) ++ optionFlag next) ::
        optionWords ((nextValue ++ [blank]).take (fragspace - 4) ++ rest) := by
  have cut : value.take (fragspace - 4) ≠ [] :=
    List.ne_nil_of_length_pos (by rw [List.length_take]; simp only [fragspace] at long ⊢; omega)
  have cutNoBlank : blank ∉ value.take (fragspace - 4) := fun mem => noBlank (List.mem_of_mem_take mem)
  have fused := optionWords_word (value.take (fragspace - 4) ++ optionFlag next)
    ((nextValue ++ [blank]).take (fragspace - 4) ++ rest) (by simp [cut])
    (by simp [blank_not_mem_optionFlag nextNotBlank, cutNoBlank])
  have flagWord := optionWords_word (optionFlag flag)
    (value.take (fragspace - 4) ++ optionFlag next ++ blank ::
      ((nextValue ++ [blank]).take (fragspace - 4) ++ rest))
    (by simp [optionFlag]) (blank_not_mem_optionFlag flagNotBlank)
  rw [fused] at flagWord
  rw [optionFragment_long flag long, optionFragment_eq next, ← flagWord]
  simp only [List.append_assoc, List.cons_append]

theorem flags_ne_blank (o : ProviderOptions) : ∀ p ∈ setOptions o.flags, asciiByte p.1 ≠ blank := by
  have letters : ∀ c ∈ ['d', 'D', 'b', 'l', 'f', 'c', 'r', 'p', 't'], asciiByte c ≠ blank := by decide
  intro p mem
  apply letters
  cases o <;>
    simp only [ProviderOptions.flags, MaxmindOpts.flags, NetacqOpts.flags, Pfx2asnOpts.flags,
      setOptions, List.filterMap_append, List.filterMap_map, List.mem_append, List.mem_filterMap,
      List.mem_cons, List.mem_map] at mem <;>
    aesop

/-- When every value set is a plain word and the fragments fit, the string
`create_ipmeta_options` builds reads back, word by word, as `-x` and the value
of each option set, in the order the builder tests them. -/
theorem ipmeta_option_words_read_back (o : ProviderOptions)
    (plain : ∀ p ∈ setOptions o.flags, PlainValue p.2)
    (fits : ((setOptions o.flags).map fun p => p.2.length + 4).sum < maxspace)
    (someSet : setOptions o.flags ≠ []) :
    ∃ s, createIpmetaOptions o = .ok (some s) ∧
      optionWords s = (setOptions o.flags).flatMap fun p => [optionFlag p.1, p.2] := by
  have text : optionText o.flags =
      (setOptions o.flags).flatMap fun p => optionFlag p.1 ++ blank :: (p.2 ++ [blank]) :=
    List.flatMap_congr fun p mem => optionFragment_plain p.1 (plain p mem)
  have length : (optionText o.flags).length = ((setOptions o.flags).map fun p => p.2.length + 4).sum := by
    simp only [text, List.length_flatMap]
    congr 1
    exact List.map_congr_left fun p _ => by simp [optionFlag]
  obtain ⟨errname, built⟩ := createIpmetaOptions_eq o
  refine ⟨optionText o.flags, ?_, ?_⟩
  · rw [built, createOptionString_eq, if_pos (length ▸ fits), if_neg someSet]
  · simpa using optionWords_plain_fragments (setOptions o.flags) [] (flags_ne_blank o) plain

theorem ipmeta_option_words_read_back_pfx2as :
    (∀ p ∈ setOptions (ProviderOptions.pfx2as
        ⟨some (['a', '.', 'g', 'z'].map asciiByte), some [asciiByte 'p']⟩).flags, PlainValue p.2) ∧
      ((setOptions (ProviderOptions.pfx2as
        ⟨some (['a', '.', 'g', 'z'].map asciiByte), some [asciiByte 'p']⟩).flags).map
        fun p => p.2.length + 4).sum < maxspace ∧
      setOptions (ProviderOptions.pfx2as
        ⟨some (['a', '.', 'g', 'z'].map asciiByte), some [asciiByte 'p']⟩).flags ≠ [] ∧
      ∃ s, createIpmetaOptions
          (.pfx2as ⟨some (['a', '.', 'g', 'z'].map asciiByte), some [asciiByte 'p']⟩) = .ok (some s) ∧
        optionWords s = [optionFlag 'f', ['a', '.', 'g', 'z'].map asciiByte, optionFlag 'D',
          [asciiByte 'p']] :=
  ⟨by decide, by decide, by decide, ipmeta_option_words_read_back _ (by decide) (by decide) (by decide)⟩

/-- A value longer than `FRAGSPACE - 5` bytes loses its end and the blank that
closes its fragment, so the option after it runs into it: the string reads
back, after the options before it, as the value's flag and then the value's
first `FRAGSPACE - 4` bytes joined to the next option's flag. -/
theorem long_value_runs_into_next_flag (o : ProviderOptions) {s : List UInt8}
    {pre post : List (Char × List UInt8)} {flag next : Char} {value nextValue : List UInt8}
    (opts : setOptions o.flags = pre ++ (flag, value) :: (next, nextValue) :: post)
    (plainBefore : ∀ p ∈ pre, PlainValue p.2) (noBlank : blank ∉ value)
    (long : fragspace - 4 ≤ value.length) (built : createIpmetaOptions o = .ok (some s)) :
    ∃ words, optionWords s = (pre.flatMap fun p => [optionFlag p.1, p.2]) ++
      optionFlag flag :: (value.take (fragspace - 4) ++ optionFlag next) :: words := by
  obtain ⟨-, -, rfl⟩ := (createIpmetaOptions_eq_some o s).mp built
  have flags := flags_ne_blank o
  rw [opts] at flags
  rw [optionText, opts, List.flatMap_append,
    optionWords_plain_fragments pre _ (fun p mem => flags p (List.mem_append_left _ mem)) plainBefore,
    List.flatMap_cons, List.flatMap_cons,
    optionWords_long_fragment _ _ (flags _ (by simp)) (flags _ (by simp)) noBlank long]
  exact ⟨_, rfl⟩

theorem long_value_runs_into_next_flag_maxmind :
    setOptions (ProviderOptions.maxmind
        ⟨some (List.replicate 510 (asciiByte 'a')), some [asciiByte 'x'], none, none⟩).flags =
        [] ++ ('d', List.replicate 510 (asciiByte 'a')) :: ('D', [asciiByte 'x']) :: [] ∧
      fragspace - 4 ≤ (List.replicate 510 (asciiByte 'a')).length ∧
      ∃ words, optionWords (optionText (ProviderOptions.maxmind
          ⟨some (List.replicate 510 (asciiByte 'a')), some [asciiByte 'x'], none, none⟩).flags) =
        optionFlag 'd' :: ((List.replicate 510 (asciiByte 'a')).take (fragspace - 4) ++ optionFlag 'D') ::
          words := by
  have long : fragspace - 4 ≤ (List.replicate 510 (asciiByte 'a')).length := by
    rw [List.length_replicate]; decide
  refine ⟨rfl, long, @long_value_runs_into_next_flag
    (.maxmind ⟨some (List.replicate 510 (asciiByte 'a')), some [asciiByte 'x'], none, none⟩) _ [] []
    'd' 'D' (List.replicate 510 (asciiByte 'a')) [asciiByte 'x'] rfl (by simp)
    (by rw [List.mem_replicate]; decide) long
    ((createIpmetaOptions_eq_some _ _).mpr ⟨List.cons_ne_nil _ _, ?_, rfl⟩)⟩
  simp only [optionText, ProviderOptions.flags, MaxmindOpts.flags, setOptions_cons_some,
    setOptions_cons_none, setOptions_nil, List.flatMap_cons, List.flatMap_nil, optionFragment_eq,
    optionFlag, List.length_append, List.length_cons, List.length_take, List.length_replicate,
    List.length_nil]
  decide

end Corsaro.Tagging
