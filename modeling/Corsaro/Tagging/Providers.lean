import Mathlib.Data.List.Basic

/-! The provider list of libcorsaro3's packet tagger.
`corsaro_enable_ipmeta_provider` appends a provider and sets its bit in
`providermask`; `corsaro_replace_ipmeta_provider` looks for an entry with the
new provider's id, to put the new provider in its place, and appends it when
there is none. The list is libtrace's `libtrace_list_t`: each node's `data`
points at storage that holds an `ipmeta_provider_t *`. The search loop moves its
cursor `n` on before it tests the node it has just left, so a match leaves `n`
on the node after it, and it is that node whose `data` is set, to the address
of the parameter `prov`. -/
namespace Corsaro.Tagging

/-- An `ipmeta_provider_t *`: the instance, and the id `ipmeta_get_provider_id` reads from it. -/
structure IpmetaProvider where
  handle : Nat
  id : Nat
  deriving DecidableEq, Repr

/-- Where a node's `data` points: storage the list allocated, or the parameter `prov` of a call of
`corsaro_replace_ipmeta_provider`, whose stack slot is gone once it returns. -/
inductive NodeData
  | stored (prov : IpmetaProvider)
  | parameter (prov : IpmetaProvider)
  deriving DecidableEq, Repr

/-- The fields of `corsaro_packet_tagger_t` the two functions use. -/
structure ProviderTagger where
  ipmeta : Bool
  providers : List NodeData
  providermask : Nat
  deriving DecidableEq, Repr

/-- What goes wrong in a call: `n->data` written with `n == NULL`, or a provider read through a node
that points at a finished call's parameter. -/
inductive ProviderFault
  | nullNode
  | danglingRead
  deriving DecidableEq, Repr

def ProviderTagger.pushProvider (t : ProviderTagger) (prov : IpmetaProvider) : ProviderTagger :=
  { t with
    providers := t.providers ++ [.stored prov]
    providermask := t.providermask ||| 1 <<< (prov.id - 1) }

/-- `corsaro_enable_ipmeta_provider`: -1 without a tagger or an ipmeta instance; a `NULL` provider
is skipped. -/
def corsaroEnableIpmetaProvider (tagger : Option ProviderTagger) (prov : Option IpmetaProvider) :
    Int × Option ProviderTagger :=
  match tagger with
  | none => (-1, none)
  | some t =>
    if t.ipmeta then
      match prov with
      | none => (0, some t)
      | some p => (0, some (t.pushProvider p))
    else (-1, some t)

/-- The search loop of `corsaro_replace_ipmeta_provider` from `pos`: `n` moves on before the test,
so on a match it already stands at the next node. -/
def replaceSearch (id : Nat) : Nat → List NodeData → Except ProviderFault (Option Nat × Option Nat)
  | _, [] => .ok (none, none)
  | _, .parameter _ :: _ => .error .danglingRead
  | pos, .stored p :: rest =>
    if p.id = id then .ok (if rest = [] then none else some (pos + 1), some pos)
    else replaceSearch id (pos + 1) rest

/-- `corsaro_replace_ipmeta_provider`: append when no node matched, else `n->data = &prov` on the
node `n` stands at. -/
def corsaroReplaceIpmetaProvider (tagger : Option ProviderTagger) (prov : Option IpmetaProvider) :
    Except ProviderFault (Int × Option ProviderTagger) :=
  match tagger with
  | none => .ok (-1, none)
  | some t =>
    if t.ipmeta then
      match prov with
      | none => .ok (0, some t)
      | some p =>
        match replaceSearch p.id 0 t.providers with
        | .error fault => .error fault
        | .ok (_, none) => .ok (0, some (t.pushProvider p))
        | .ok (none, some _) => .error .nullNode
        | .ok (some k, some _) => .ok (0, some { t with providers := t.providers.set k (.parameter p) })
    else .ok (-1, some t)

/-! ### The search loop -/

def OtherProviders (id : Nat) (nodes : List NodeData) : Prop :=
  ∀ d ∈ nodes, ∃ r, d = .stored r ∧ r.id ≠ id

theorem replaceSearch_others {id : Nat} {nodes : List NodeData} (others : OtherProviders id nodes)
    (pos : Nat) (tail : List NodeData) :
    replaceSearch id pos (nodes ++ tail) = replaceSearch id (pos + nodes.length) tail := by
  induction nodes generalizing pos with
  | nil => rfl
  | cons d rest ih =>
    obtain ⟨r, rfl, other⟩ := others d (List.mem_cons_self d rest)
    rw [List.cons_append, replaceSearch, if_neg other,
      ih (fun d mem => others d (List.mem_cons_of_mem _ mem)), List.length_cons, Nat.add_right_comm,
      Nat.add_assoc]

theorem replaceSearch_match {id : Nat} {pre : List NodeData} (others : OtherProviders id pre)
    {q : IpmetaProvider} (same : q.id = id) (post : List NodeData) :
    replaceSearch id 0 (pre ++ .stored q :: post) =
      .ok (if post = [] then none else some (pre.length + 1), some pre.length) := by
  rw [replaceSearch_others others, Nat.zero_add, replaceSearch, if_pos same]

theorem replaceSearch_absent {id : Nat} {nodes : List NodeData} (others : OtherProviders id nodes) :
    replaceSearch id 0 nodes = .ok (none, none) := by
  simpa using replaceSearch_others others 0 []

/-! ### What a replacement does -/

/-- Wherever the first entry with the new provider's id stands, the
replacement keeps that entry and points the node after it, whatever provider
it held, at the parameter `prov`; when the entry is the last node it writes
through `NULL`. -/
theorem replace_overwrites_next_node (t : ProviderTagger) (p q : IpmetaProvider)
    (pre post : List NodeData) (ipmeta : t.ipmeta = true)
    (nodes : t.providers = pre ++ .stored q :: post) (earlier : OtherProviders p.id pre)
    (same : q.id = p.id) :
    corsaroReplaceIpmetaProvider (some t) (some p) =
      match post with
      | [] => .error .nullNode
      | _ :: rest => .ok (0, some { t with providers := pre ++ .stored q :: .parameter p :: rest }) := by
  simp only [corsaroReplaceIpmetaProvider, ipmeta, if_true, nodes, replaceSearch_match earlier same]
  cases post with
  | nil => rfl
  | cons next rest =>
    rw [if_neg (List.cons_ne_nil next rest)]
    dsimp only
    rw [List.set_append_right _ _ (Nat.le_succ _), Nat.succ_sub (le_refl _), Nat.sub_self]
    rfl

theorem replace_overwrites_next_node_sample :
    (⟨true, [.stored ⟨0, 1⟩, .stored ⟨1, 2⟩], 3⟩ : ProviderTagger).ipmeta = true ∧
      (⟨true, [.stored ⟨0, 1⟩, .stored ⟨1, 2⟩], 3⟩ : ProviderTagger).providers =
        [] ++ .stored ⟨0, 1⟩ :: [.stored ⟨1, 2⟩] ∧
      OtherProviders 1 [] ∧ (⟨0, 1⟩ : IpmetaProvider).id = (⟨2, 1⟩ : IpmetaProvider).id ∧
      corsaroReplaceIpmetaProvider (some ⟨true, [.stored ⟨0, 1⟩, .stored ⟨1, 2⟩], 3⟩) (some ⟨2, 1⟩) =
        .ok (0, some ⟨true, [.stored ⟨0, 1⟩, .parameter ⟨2, 1⟩], 3⟩) :=
  ⟨rfl, rfl, fun _ absent => absurd absent (List.not_mem_nil _), rfl,
    replace_overwrites_next_node ⟨true, [.stored ⟨0, 1⟩, .stored ⟨1, 2⟩], 3⟩ ⟨2, 1⟩ ⟨0, 1⟩ []
      [.stored ⟨1, 2⟩] rfl rfl (fun _ absent => absurd absent (List.not_mem_nil _)) rfl⟩

/-- When no node holds a provider with the new provider's id, the replacement
does what `corsaro_enable_ipmeta_provider` does: it appends the provider and
sets bit `id - 1` of `providermask`, leaving every node it passed unchanged. -/
theorem replace_appends_absent_provider (t : ProviderTagger) (p : IpmetaProvider)
    (absent : OtherProviders p.id t.providers) :
    corsaroReplaceIpmetaProvider (some t) (some p) = .ok (corsaroEnableIpmetaProvider (some t) (some p)) := by
  simp only [corsaroReplaceIpmetaProvider, corsaroEnableIpmetaProvider, replaceSearch_absent absent]
  split_ifs <;> rfl

theorem replace_appends_absent_provider_sample :
    OtherProviders 3 [.stored ⟨0, 1⟩, .stored ⟨1, 2⟩] ∧
      corsaroReplaceIpmetaProvider (some ⟨true, [.stored ⟨0, 1⟩, .stored ⟨1, 2⟩], 3⟩) (some ⟨2, 3⟩) =
        .ok (corsaroEnableIpmetaProvider (some ⟨true, [.stored ⟨0, 1⟩, .stored ⟨1, 2⟩], 3⟩)
          (some ⟨2, 3⟩)) := by
  have absent : OtherProviders 3 [.stored ⟨0, 1⟩, .stored ⟨1, 2⟩] := by
    intro d mem
    simp only [List.mem_cons, List.mem_singleton, List.not_mem_nil, or_false] at mem
    rcases mem with rfl | rfl
    · exact ⟨_, rfl, by decide⟩
    · exact ⟨_, rfl, by decide⟩
  exact ⟨absent, replace_appends_absent_provider ⟨true, [.stored ⟨0, 1⟩, .stored ⟨1, 2⟩], 3⟩ ⟨2, 3⟩ absent⟩

end Corsaro.Tagging
