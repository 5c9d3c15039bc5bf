import Mathlib.Algebra.Order.Ring.Nat
import Mathlib.Logic.Function.Basic

/-! The port-range options of the libcorsaro report plugin: `parse_port_ranges`
reads a YAML sequence of items such as `80` or `1000-2000` into a bitmap of
8192 bytes, one bit per port, the most significant bit of byte `p / 8` for port
`p % 8 = 0`. Reading the YAML node and splitting its text at the first dash are
libyaml and libc; an item is given by its node type and what `strtoul` made of
each part of its text. -/
namespace Corsaro.Libcorsaro.Report

def invalidPort : Nat := 0xFFFFFFFF

/-- `strtoport`, given what `strtoul` made of the text: `none` where it set `errno`. -/
def strtoport (parsed : Option Nat) (capmax : Bool) : Nat :=
  match parsed with
  | none => invalidPort
  | some first =>
    if first > 65535 ∧ capmax = false then invalidPort
    else if first > 65535 then 65535
    else first

inductive PortItem
  | nonScalar
  | port (value : Option Nat)
  | range (first last : Option Nat)

def itemBounds : PortItem → Option (Nat × Nat)
  | .nonScalar => none
  | .port value =>
    let first := strtoport value false
    if first = invalidPort then none else some (first, first)
  | .range first last =>
    let first := strtoport first false
    if first = invalidPort then none
    else
      let last := strtoport last true
      if last = invalidPort then none else some (first, last)

def rangeMask (first last index : Nat) : UInt8 :=
  let msb := index * 8
  let lsb := msb + 7
  let toadd : UInt8 := 0xff
  let toadd : UInt8 := if first > msb then
      (if first - msb ≥ 8 then 0 else toadd &&& (0xff >>> (first - msb).toUInt8))
    else toadd
  if last < lsb then
    (if lsb - last ≥ 8 then 0 else toadd &&& (0xff <<< (lsb - last).toUInt8))
  else toadd

def setPortRange (first last : Nat) (portArray : Nat → UInt8) (index : Nat) : Nat → UInt8 :=
  if index < 8192 then
    if index * 8 > last then portArray
    else setPortRange first last
      (Function.update portArray index (portArray index ||| rangeMask first last index)) (index + 1)
  else portArray
termination_by 8192 - index

structure PortState where
  portArray : Nat → UInt8
  seenFlag : Bool

/-- `parse_port_ranges`: stop at the first node that is not a scalar, skip invalid or reversed
items, clear the bitmap at the first range it sets, and set each range's ports. -/
def parsePortRanges (st : PortState) : List PortItem → PortState
  | [] => st
  | .nonScalar :: _ => st
  | item :: rest =>
    match itemBounds item with
    | none => parsePortRanges st rest
    | some (first, last) =>
      if last < first then parsePortRanges st rest
      else
        let portArray := if st.seenFlag = false then fun _ => 0 else st.portArray
        parsePortRanges ⟨setPortRange first last portArray (first / 8), true⟩ rest

def portMask (j : Nat) : UInt8 := 0x80 >>> j.toUInt8

/-- Whether the bitmap holds port `p`: bit `0x80 >> (p % 8)` of byte `p / 8`. -/
def portBit (portArray : Nat → UInt8) (p : Nat) : Bool :=
  portArray (p / 8) &&& portMask (p % 8) != 0

/-! ### Bits of a byte -/

theorem portMask_toNat : ∀ j < 8, (portMask j).toNat = 2 ^ (7 - j) := by
  decide

theorem land_two_pow_ne_zero (n k : Nat) : n &&& 2 ^ k ≠ 0 ↔ n.testBit k = true := by
  constructor
  · intro nonzero
    by_contra unset
    exact nonzero (Nat.eq_of_testBit_eq fun i => by
      by_cases same : k = i
      · subst same; simp [Nat.testBit_and, unset]
      · simp [Nat.testBit_and, Nat.testBit_two_pow, same])
  · intro set zero
    simpa [Nat.testBit_and, set] using congrArg (Nat.testBit · k) zero

theorem and_portMask (x : UInt8) {j : Nat} (small : j < 8) :
    (x &&& portMask j != 0) = x.toNat.testBit (7 - j) := by
  have nonzero : x &&& portMask j ≠ 0 ↔ (x &&& portMask j).toNat ≠ 0 :=
    ⟨fun h e => h (UInt8.toNat.inj e), fun h e => h (by rw [e]; rfl)⟩
  rw [UInt8.and_toNat, portMask_toNat j small, land_two_pow_ne_zero] at nonzero
  rw [Bool.eq_iff_iff, bne_iff_ne, ne_eq, ← ne_eq, nonzero]

theorem or_and_portMask (a b : UInt8) {j : Nat} (small : j < 8) :
    ((a ||| b) &&& portMask j != 0) = ((a &&& portMask j != 0) || (b &&& portMask j != 0)) := by
  rw [and_portMask _ small, and_portMask _ small, and_portMask _ small]
  exact Nat.testBit_or a.toNat b.toNat (7 - j)

theorem rangeMask_bit_small : ∀ f < 8, ∀ l < 8, ∀ j < 8,
    (rangeMask f l 0 &&& portMask j != 0) = decide (f ≤ j ∧ j ≤ l) := by
  decide

theorem rangeMask_shift (first last index : Nat) (within : index * 8 ≤ last) :
    rangeMask first last index = rangeMask (first - index * 8) (min (last - index * 8) 7) 0 := by
  have c1 : first > index * 8 ↔ first - index * 8 > 0 := by omega
  have c2 : last < index * 8 + 7 ↔ min (last - index * 8) 7 < 7 := by omega
  have v2 : index * 8 + 7 - last = 7 - min (last - index * 8) 7 := by omega
  simp only [rangeMask, Nat.zero_mul, Nat.zero_add, Nat.sub_zero, c1, c2, v2]

theorem rangeMask_bit (first last p : Nat) (from_first : first / 8 ≤ p / 8)
    (to_last : p / 8 ≤ last / 8) :
    (rangeMask first last (p / 8) &&& portMask (p % 8) != 0) = decide (first ≤ p ∧ p ≤ last) := by
  rw [rangeMask_shift first last (p / 8) (by omega),
    rangeMask_bit_small _ (by omega) _ (by omega) _ (Nat.mod_lt p (by decide))]
  congr 1
  apply propext
  omega

/-! ### The byte loop -/

theorem setPortRange_apply (first last : Nat) (portArray : Nat → UInt8) (index i : Nat) :
    setPortRange first last portArray index i =
      if index ≤ i ∧ i ≤ last / 8 ∧ i < 8192 then portArray i ||| rangeMask first last i
      else portArray i := by
  unfold setPortRange
  by_cases room : index < 8192
  · by_cases past : index * 8 > last
    · rw [if_pos room, if_pos past, if_neg (by omega)]
    · rw [if_pos room, if_neg past, setPortRange_apply]
      by_cases here : i = index
      · subst here
        rw [if_neg (by omega), if_pos (by omega), Function.update_same]
      · simp only [Function.update_noteq here]
        congr 1
        apply propext
        omega
  · rw [if_neg room, if_neg (by omega)]
termination_by 8192 - index

theorem portBit_setPortRange (first last : Nat) (portArray : Nat → UInt8) (p : Nat)
    (port : p < 65536) :
    portBit (setPortRange first last portArray (first / 8)) p =
      (portBit portArray p || decide (first ≤ p ∧ p ≤ last)) := by
  have small : p % 8 < 8 := Nat.mod_lt p (by decide)
  unfold portBit
  rw [setPortRange_apply]
  by_cases inside : first / 8 ≤ p / 8 ∧ p / 8 ≤ last / 8 ∧ p / 8 < 8192
  · rw [if_pos inside, or_and_portMask _ _ small, rangeMask_bit first last p inside.1 inside.2.1]
  · rw [if_neg inside, decide_eq_false (by omega), Bool.or_false]

/-! ### The item loop -/

/-- The ranges `parse_port_ranges` sets: the valid, ordered items before the first node that is not
a scalar. -/
def validRanges : List PortItem → List (Nat × Nat)
  | [] => []
  | .nonScalar :: _ => []
  | item :: rest =>
    match itemBounds item with
    | none => validRanges rest
    | some (first, last) => if last < first then validRanges rest else (first, last) :: validRanges rest

theorem strtoport_le (parsed : Option Nat) (capmax : Bool) (valid : strtoport parsed capmax ≠ invalidPort) :
    strtoport parsed capmax ≤ 65535 := by
  cases parsed with
  | none => exact absurd rfl valid
  | some first =>
    simp only [strtoport] at valid ⊢
    split_ifs at valid ⊢ <;> omega

theorem itemBounds_le {item : PortItem} {first last : Nat} (bounds : itemBounds item = some (first, last)) :
    first ≤ 65535 ∧ last ≤ 65535 := by
  cases item with
  | nonScalar => cases bounds
  | port value =>
    simp only [itemBounds] at bounds
    split_ifs at bounds with invalid
    cases bounds
    exact ⟨strtoport_le _ _ invalid, strtoport_le _ _ invalid⟩
  | range a b =>
    simp only [itemBounds] at bounds
    split_ifs at bounds with invalid₁ invalid₂
    cases bounds
    exact ⟨strtoport_le _ _ invalid₁, strtoport_le _ _ invalid₂⟩

def PortState.base (st : PortState) : Nat → UInt8 :=
  if st.seenFlag = false then fun _ => 0 else st.portArray

theorem parsePortRanges_cons {item : PortItem} (scalar : item ≠ .nonScalar) (st : PortState)
    (rest : List PortItem) :
    parsePortRanges st (item :: rest) =
      match itemBounds item with
      | none => parsePortRanges st rest
      | some (first, last) =>
        if last < first then parsePortRanges st rest
        else parsePortRanges ⟨setPortRange first last st.base (first / 8), true⟩ rest := by
  cases item with
  | nonScalar => exact absurd rfl scalar
  | port _ | range _ _ => rfl

theorem validRanges_cons {item : PortItem} (scalar : item ≠ .nonScalar) (rest : List PortItem) :
    validRanges (item :: rest) =
      match itemBounds item with
      | none => validRanges rest
      | some (first, last) =>
        if last < first then validRanges rest else (first, last) :: validRanges rest := by
  cases item with
  | nonScalar => exact absurd rfl scalar
  | port _ | range _ _ => rfl

theorem portBit_base (st : PortState) (p : Nat) :
    portBit st.base p = (st.seenFlag && portBit st.portArray p) := by
  cases seen : st.seenFlag
  · simp only [PortState.base, seen, if_true, Bool.false_and, portBit,
      and_portMask _ (Nat.mod_lt p (by decide))]
    exact Nat.zero_testBit _
  · simp [PortState.base, seen]

theorem validRanges_bounds (items : List PortItem) :
    ∀ r ∈ validRanges items, r.1 ≤ r.2 ∧ r.2 ≤ 65535 := by
  induction items with
  | nil => simp [validRanges]
  | cons item rest ih =>
    by_cases scalar : item = .nonScalar
    · subst scalar; simp [validRanges]
    rw [validRanges_cons scalar]
    cases bounds : itemBounds item with
    | none => exact ih
    | some range =>
      obtain ⟨first, last⟩ := range
      by_cases reversed : last < first
      · simpa [reversed] using ih
      · simp only [if_neg reversed, List.mem_cons]
        rintro r (rfl | mem)
        · exact ⟨by omega, (itemBounds_le bounds).2⟩
        · exact ih r mem

theorem parsePortRanges_unchanged (items : List PortItem) (st : PortState)
    (none_valid : validRanges items = []) : parsePortRanges st items = st := by
  induction items with
  | nil => rfl
  | cons item rest ih =>
    by_cases scalar : item = .nonScalar
    · subst scalar; rfl
    rw [validRanges_cons scalar] at none_valid
    rw [parsePortRanges_cons scalar]
    cases bounds : itemBounds item with
    | none => simp only [bounds] at none_valid; exact ih none_valid
    | some range =>
      obtain ⟨first, last⟩ := range
      simp only [bounds] at none_valid
      by_cases reversed : last < first
      · simp only [if_pos reversed] at none_valid ⊢; exact ih none_valid
      · simp [if_neg reversed] at none_valid

theorem portBit_parsePortRanges (items : List PortItem) (st : PortState) (p : Nat) (port : p < 65536)
    (some_valid : validRanges items ≠ []) :
    (parsePortRanges st items).seenFlag = true ∧
      portBit (parsePortRanges st items).portArray p =
        ((st.seenFlag && portBit st.portArray p) ||
          (validRanges items).any fun r => decide (r.1 ≤ p ∧ p ≤ r.2)) := by
  induction items generalizing st with
  | nil => exact absurd rfl some_valid
  | cons item rest ih =>
    by_cases scalar : item = .nonScalar
    · subst scalar; exact absurd rfl some_valid
    rw [validRanges_cons scalar] at some_valid ⊢
    rw [parsePortRanges_cons scalar]
    cases bounds : itemBounds item with
    | none => simp only [bounds] at some_valid ⊢; exact ih st some_valid
    | some range =>
      obtain ⟨first, last⟩ := range
      simp only [bounds] at some_valid ⊢
      by_cases reversed : last < first
      · simp only [if_pos reversed] at some_valid ⊢; exact ih st some_valid
      · simp only [if_neg reversed, List.any_cons]
        have here := portBit_setPortRange first last st.base p port
        rw [portBit_base] at here
        by_cases later : validRanges rest = []
        · rw [parsePortRanges_unchanged rest _ later, later]
          exact ⟨rfl, by simp [here]⟩
        · obtain ⟨seen, bits⟩ := ih ⟨setPortRange first last st.base (first / 8), true⟩ later
          refine ⟨seen, ?_⟩
          rw [bits, Bool.true_and, here, Bool.or_assoc]

/-- `parse_port_ranges` called with `seen_flag` false on any items: every range
it sets is ordered and within the 65536 ports; when no valid item comes before
the first node that is not a scalar, the bitmap and the flag are left as they
were, and otherwise the flag is set and each port's bit is set exactly when the
port lies in one of those items' ranges. -/
theorem parse_port_ranges_sets_ranges (portArray : Nat → UInt8) (items : List PortItem) :
    (∀ r ∈ validRanges items, r.1 ≤ r.2 ∧ r.2 ≤ 65535) ∧
      ((validRanges items = [] ∧ parsePortRanges ⟨portArray, false⟩ items = ⟨portArray, false⟩) ∨
        (validRanges items ≠ [] ∧ (parsePortRanges ⟨portArray, false⟩ items).seenFlag = true ∧
          ∀ p : UInt16, portBit (parsePortRanges ⟨portArray, false⟩ items).portArray p.toNat =
            (validRanges items).any fun r => decide (r.1 ≤ p.toNat ∧ p.toNat ≤ r.2))) := by
  refine ⟨validRanges_bounds items, ?_⟩
  by_cases none_valid : validRanges items = []
  · exact Or.inl ⟨none_valid, parsePortRanges_unchanged items _ none_valid⟩
  · refine Or.inr ⟨none_valid, (portBit_parsePortRanges items _ 0 (by decide) none_valid).1,
      fun p => ?_⟩
    rw [(portBit_parsePortRanges items _ p.toNat p.toNat_lt_size none_valid).2, Bool.false_and,
      Bool.false_or]

/-- A non-scalar node followed by the valid item `80`, on a bitmap whose bytes
are all `0xff`, as `malloc` may leave them: the function returns at the first
node, so although an item is valid, the bitmap is unchanged and port 0 stays set. -/
theorem valid_item_after_non_scalar_ignored :
    itemBounds (.port (some 80)) = some (80, 80) ∧
      (parsePortRanges ⟨fun _ => 0xff, false⟩ [.nonScalar, .port (some 80)]).seenFlag = false ∧
      portBit (parsePortRanges ⟨fun _ => 0xff, false⟩ [.nonScalar, .port (some 80)]).portArray 0 =
        true := by
  decide

end Corsaro.Libcorsaro.Report
