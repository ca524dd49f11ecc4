import Mathlib.Algebra.Group.Int.Defs
import Mathlib.Algebra.Group.Nat.Defs
import ResponsiveLayout.Proofs.Registry
import ResponsiveLayout.Stack.Container

/-! Heights in a stack. Replacing the heights by places keeps the order and leaves room at both ends of
the range as long as there are fewer than 2^31 items. So what is moved to one end gets a height
beyond all others, and the other items keep their order. Of more items than that, the ones whose
places are beyond the range lie on top in order of registration. -/
namespace ResponsiveLayout

variable {α σ : Type}

instance Int32.lawfulOrderMax : Std.LawfulOrderMax Int32 where
  max_eq_or m n := by
    change (if m ≤ n then n else m) = m ∨ (if m ≤ n then n else m) = n
    split
    · exact .inr rfl
    · exact .inl rfl
  max_le_iff m n k := by
    change (if m ≤ n then n else m) ≤ k ↔ m ≤ k ∧ n ≤ k
    simp only [Int32.le_iff_toInt_le]
    split <;> omega

theorem Int32.toInt_add_one {n : Int32} (hn : n ≠ Int32.maxValue) : (n + 1).toInt = n.toInt + 1 := by
  have hone : (1 : Int32).toInt = 1 := by decide
  have hmax : n.toInt ≠ 2 ^ 31 - 1 := by
    intro heq
    apply hn
    apply Int32.toInt_inj.mp
    rw [heq]
    decide
  have hlt := n.toInt_lt
  have hge := n.le_toInt
  rw [Int32.toInt_add, hone, Int.bmod_eq_of_le (by omega) (by omega)]

theorem Int32.toInt_sub_one {n : Int32} (hn : n ≠ Int32.minValue) : (n - 1).toInt = n.toInt - 1 := by
  have hone : (1 : Int32).toInt = 1 := by decide
  have hmin : n.toInt ≠ -2 ^ 31 := by
    intro heq
    apply hn
    apply Int32.toInt_inj.mp
    rw [heq]
    decide
  have hlt := n.toInt_lt
  have hge := n.le_toInt
  rw [Int32.toInt_sub, hone, Int.bmod_eq_of_le (by omega) (by omega)]

/-- The height next to another one, towards the end that a move goes to. -/
def Restack.next (m : Restack) (z : Int32) : Int32 :=
  match m with
  | .raise => z + 1
  | .lower => z - 1

/-- The difference that this should make. -/
def Restack.step : Restack → Int
  | .raise => 1
  | .lower => -1

/-- The last height towards the end that a move goes to. -/
def Restack.limit : Restack → Int32
  | .raise => Int32.maxValue
  | .lower => Int32.minValue

/-- Before the limit, the next height is one step away and not at the other end of the range. -/
theorem Restack.toInt_next {m : Restack} {z : Int32} (hz : z ≠ m.limit) :
    (m.next z).toInt = z.toInt + m.step := by
  cases m with
  | raise => exact Int32.toInt_add_one hz
  | lower => exact Int32.toInt_sub_one hz

/-- Add elements to a list at the end that a move goes to. -/
def Restack.attach {β : Type} (m : Restack) (moved others : List β) : List β :=
  match m with
  | .raise => others ++ moved
  | .lower => moved ++ others

theorem Restack.map_attach {β γ : Type} (m : Restack) (f : β → γ) (moved others : List β) :
    (m.attach moved others).map f = m.attach (moved.map f) (others.map f) := by
  cases m <;> exact List.map_append

theorem Restack.filter_attach {β : Type} (m : Restack) (p : β → Bool) (moved others : List β) :
    (m.attach moved others).filter p = m.attach (moved.filter p) (others.filter p) := by
  cases m <;> exact List.filter_append _ _

theorem Restack.mem_attach {β : Type} {m : Restack} {b : β} {moved others : List β} :
    b ∈ m.attach moved others ↔ b ∈ moved ∨ b ∈ others := by
  cases m
  · exact List.mem_append.trans or_comm
  · exact List.mem_append

theorem Restack.attach_perm {β : Type} (m : Restack) (moved others : List β) :
    (m.attach moved others).Perm (moved ++ others) := by
  cases m
  · exact List.perm_append_comm
  · exact List.Perm.refl _

def Slot.atHeight (f : Slot Layer → Int32) (s : Slot Layer) : Slot Layer :=
  { s with item := { s.item with z := f s } }

theorem Slot.z_atHeight (f : Slot Layer → Int32) (s : Slot Layer) : (s.atHeight f).item.z = f s := rfl

/-- What a change of heights leaves of a layer. -/
def Slot.label (s : Slot Layer) : ItemId × Widget := (s.id, s.item.widget)

theorem Slot.label_atHeight (f : Slot Layer → Int32) (s : Slot Layer) :
    (s.atHeight f).label = s.label := rfl

namespace LayerStack

def relevel (r : Registry Layer) (f : Slot Layer → Int32) : Registry Layer :=
  r.mapItems fun s => { s.item with z := f s }

section

variable (r : Registry Layer) (f : Slot Layer → Int32)

theorem slots_relevel : (relevel r f).slots = r.slots.map (Slot.atHeight f) := rfl

theorem inOrder_relevel :
    (relevel r f).inOrder Layer.z = (sortByKey f r.slots).map (Slot.atHeight f) :=
  sortByKey_map _ _ _

theorem labels_relevel : (relevel r f).slots.map Slot.label = r.slots.map Slot.label := by
  rw [slots_relevel, List.map_map]
  rfl

/-- A target means the same items at other heights. -/
theorem filter_meant_relevel (t : Target) :
    (relevel r f).slots.filter (meant t) = (r.slots.filter (meant t)).map (Slot.atHeight f) := by
  rw [slots_relevel, List.filter_map]
  rfl

theorem relevel_z : relevel r (fun s => s.item.z) = r := by
  apply Registry.ext
  · exact List.map_id' r.slots
  · rfl

/-- Heights changed a second time for the items that a target means. -/
theorem modify_relevel (t : Target) (z : Int32) :
    (relevel r f).modify (meant t) (fun layer => { layer with z }) =
      relevel r fun s => if meant t s then z else f s := by
  apply Registry.ext
  · change (r.slots.map (Slot.atHeight f)).map _ = r.slots.map _
    rw [List.map_map]
    refine List.map_congr_left fun s _ => ?_
    have hmeant : meant t (s.atHeight f) = meant t s := rfl
    rw [Function.comp_apply]
    dsimp only
    rw [hmeant]
    dsimp only [Slot.atHeight]
    split
    · rfl
    · rfl
  · rfl

end

section

variable {r : Registry Layer}

theorem le_top {s : Slot Layer} (hs : s ∈ r.slots) : s.item.z ≤ top r := by
  have hmem : s.item.z ∈ r.slots.map fun s => s.item.z := List.mem_map_of_mem hs
  obtain ⟨z, hz⟩ := Option.isSome_iff_exists.mp (List.isSome_max?_of_mem hmem)
  rw [top, hz]
  exact (List.max?_eq_some_iff.mp hz).2 _ hmem

theorem bottom_le {s : Slot Layer} (hs : s ∈ r.slots) : bottom r ≤ s.item.z := by
  have hmem : s.item.z ∈ r.slots.map fun s => s.item.z := List.mem_map_of_mem hs
  obtain ⟨z, hz⟩ := Option.isSome_iff_exists.mp (List.isSome_min?_of_mem hmem)
  rw [bottom, hz]
  exact (List.min?_eq_some_iff.mp hz).2 _ hmem

theorem top_mem_or_zero (r : Registry Layer) :
    (∃ s ∈ r.slots, top r = s.item.z) ∨ top r = 0 := by
  rw [top]
  cases hz : (r.slots.map fun s => s.item.z).max? with
  | none => exact .inr rfl
  | some z =>
    obtain ⟨s, hs, rfl⟩ := List.mem_map.mp (List.max?_eq_some_iff.mp hz).1
    exact .inl ⟨s, hs, rfl⟩

theorem bottom_mem_or_zero (r : Registry Layer) :
    (∃ s ∈ r.slots, bottom r = s.item.z) ∨ bottom r = 0 := by
  rw [bottom]
  cases hz : (r.slots.map fun s => s.item.z).min? with
  | none => exact .inr rfl
  | some z =>
    obtain ⟨s, hs, rfl⟩ := List.mem_map.mp (List.min?_eq_some_iff.mp hz).1
    exact .inl ⟨s, hs, rfl⟩

theorem toInt_rankHeight (place : Nat) :
    (rankHeight place).toInt = min place 0x7fffffff := by
  rw [rankHeight, Int32.toInt_ofNat_of_lt (by omega)]

/-- The height that a layer gets when the heights are renumbered. -/
def rank (r : Registry Layer) (s : Slot Layer) : Int32 :=
  rankHeight (((r.inOrder Layer.z).map Slot.id).idxOf s.id)

theorem renumber_eq (r : Registry Layer) : renumber r = relevel r (rank r) := rfl

theorem idxOf_id {i : Nat} (hi : i < (r.inOrder Layer.z).length) :
    ((r.inOrder Layer.z).map Slot.id).idxOf (r.inOrder Layer.z)[i].id = i := by
  have hnodup : ((r.inOrder Layer.z).map Slot.id).Nodup :=
    ((sortByKey_perm _ r.slots).map Slot.id).nodup_iff.mpr r.nodup
  have hindex := hnodup.idxOf_getElem i (by rwa [List.length_map])
  rwa [List.getElem_map] at hindex

theorem toInt_rank {i : Nat} (hi : i < (r.inOrder Layer.z).length) :
    (rank r (r.inOrder Layer.z)[i]).toInt = min i 0x7fffffff := by
  rw [rank, idxOf_id hi, toInt_rankHeight]

theorem zero_le_toInt_rank (r : Registry Layer) (s : Slot Layer) : 0 ≤ (rank r s).toInt := by
  rw [rank, toInt_rankHeight]
  exact Int.natCast_nonneg _

/-- The layers whose places are heights of their own. There are 2^31 - 1 such places. -/
def placed (r : Registry Layer) : List (Slot Layer) := (r.inOrder Layer.z).take (2 ^ 31 - 1)

theorem placed_of_size_lt (hsize : r.size < 2 ^ 31) : placed r = r.inOrder Layer.z := by
  refine List.take_of_length_le ?_
  rw [Registry.length_inOrder]
  omega

theorem toInt_rank_of_mem {s : Slot Layer} (hs : s ∈ placed r) : (rank r s).toInt < 2 ^ 31 - 1 := by
  obtain ⟨i, hi, rfl⟩ := List.mem_take_iff_getElem.mp hs
  rw [toInt_rank (by omega)]
  omega

theorem toInt_rank_of_notMem {s : Slot Layer} (hs : s ∈ r.slots) (hnot : s ∉ placed r) :
    (rank r s).toInt = 2 ^ 31 - 1 := by
  have hmem : s ∈ r.inOrder Layer.z := Registry.mem_inOrder.mpr hs
  obtain ⟨i, hi, rfl⟩ := List.mem_iff_getElem.mp hmem
  have hplace : 2 ^ 31 - 1 ≤ i := by
    by_contra hless
    exact hnot (List.mem_take_iff_getElem.mpr ⟨i, by omega, rfl⟩)
  rw [toInt_rank hi]
  omega

/-- Renumbering keeps the order of the layers whose places are heights. All others get the greatest height,
so they go on top in order of registration. -/
theorem sortByKey_rank_eq_append (r : Registry Layer) :
    sortByKey (rank r) r.slots = placed r ++ r.slots.filter (· ∉ placed r) := by
  have hsorted : (r.inOrder Layer.z).Perm r.slots := sortByKey_perm _ r.slots
  have hslots : r.slots.Nodup := .of_map Slot.id r.nodup
  have hbelow : ∀ s ∈ r.slots, ∀ u ∈ r.slots,
      decide (s ∉ placed r) = false → decide (u ∉ placed r) = true → rank r s < rank r u := by
    intro s _ u hu hs hnot
    rw [decide_eq_false_iff_not, not_not] at hs
    have hlow := toInt_rank_of_mem hs
    have hhigh := toInt_rank_of_notMem hu (of_decide_eq_true hnot)
    rw [Int32.lt_iff_toInt_lt]
    omega
  -- No two of the first places have one height, so only one order is ascending.
  have hplaced : sortByKey (rank r) (r.slots.filter fun s => !decide (s ∉ placed r)) = placed r := by
    apply sortByKey_eq_of_perm
    · have hnodup : (placed r).Nodup := (List.take_sublist _ _).nodup (hsorted.nodup_iff.mpr hslots)
      refine (List.perm_ext_iff_of_nodup (hslots.filter _) hnodup).mpr fun s => ?_
      rw [List.mem_filter, decide_not, Bool.not_not, decide_eq_true_iff]
      exact and_iff_right_of_imp fun hs => hsorted.mem_iff.mp (List.mem_of_mem_take hs)
    · rw [placed, List.pairwise_iff_getElem]
      intro i j hi hj hij
      rw [List.length_take] at hj
      rw [List.getElem_take, List.getElem_take, Int32.lt_iff_toInt_lt, toInt_rank, toInt_rank]
      omega
  -- All the others have the same height, and sorting is stable.
  have hrest : sortByKey (rank r) (r.slots.filter (· ∉ placed r)) = r.slots.filter (· ∉ placed r) := by
    refine sortByKey_of_pairwise _ (List.pairwise_of_forall_mem_list fun s hs u hu => ?_)
    obtain ⟨hs, hnot⟩ := List.mem_filter.mp hs
    obtain ⟨hu, hnot'⟩ := List.mem_filter.mp hu
    rw [Int32.le_iff_toInt_le, toInt_rank_of_notMem hs (of_decide_eq_true hnot),
      toInt_rank_of_notMem hu (of_decide_eq_true hnot')]
  rw [sortByKey_of_filter_lt _ _ hbelow, hplaced, hrest]

/-- Below 2^31 layers, renumbering keeps the order of all. -/
theorem sortByKey_rank (hsize : r.size < 2 ^ 31) :
    sortByKey (rank r) r.slots = r.inOrder Layer.z := by
  have hrest : r.slots.filter (· ∉ placed r) = [] := by
    rw [List.filter_eq_nil_iff]
    intro s hs hnot
    rw [placed_of_size_lt hsize] at hnot
    exact of_decide_eq_true hnot (Registry.mem_inOrder.mpr hs)
  rw [sortByKey_rank_eq_append, hrest, List.append_nil, placed_of_size_lt hsize]

end

/-- Whether a height lies beyond those of some layers, at the end that a move goes to. -/
def Beyond (m : Restack) (f : Slot Layer → Int32) (z : Int32) (ss : List (Slot Layer)) : Prop :=
  match m with
  | .raise => ∀ s ∈ ss, f s < z
  | .lower => ∀ s ∈ ss, z < f s

theorem Beyond.of_forall_exists {m : Restack} {f g : Slot Layer → Int32} {z : Int32}
    {ss ts : List (Slot Layer)} (hz : Beyond m f z ss) (hts : ∀ t ∈ ts, ∃ s ∈ ss, g t = f s) :
    Beyond m g z ts := by
  cases m with
  | raise =>
    intro t ht
    obtain ⟨s, hs, hsame⟩ := hts t ht
    rw [hsame]
    exact hz s hs
  | lower =>
    intro t ht
    obtain ⟨s, hs, hsame⟩ := hts t ht
    rw [hsame]
    exact hz s hs

/-- Layers that get a height beyond all others go to that end of the order. -/
theorem sortByKey_moved {m : Restack} {f : Slot Layer → Int32} {z : Int32} {ss : List (Slot Layer)}
    (hz : Beyond m f z ss) (p : Slot Layer → Bool) :
    sortByKey (fun s => if p s then z else f s) ss =
      m.attach (ss.filter p) ((sortByKey f ss).filter (!p ·)) := by
  let key (s : Slot Layer) : Int32 := if p s then z else f s
  have hothers : sortByKey key (ss.filter (!p ·)) = (sortByKey f ss).filter (!p ·) := by
    rw [filter_sortByKey]
    refine sortByKey_congr fun s hs => if_neg ?_
    exact Bool.not_eq_true _ ▸ Bool.not_eq_true' _ ▸ (List.mem_filter.mp hs).2
  have hmoved : sortByKey key (ss.filter p) = ss.filter p := by
    refine sortByKey_of_pairwise _ (List.pairwise_of_forall_mem_list fun s hs u hu => ?_)
    change (if p s then z else f s) ≤ (if p u then z else f u)
    rw [if_pos (List.mem_filter.mp hs).2, if_pos (List.mem_filter.mp hu).2]
    exact Int32.le_refl z
  cases m with
  | raise =>
    have hlt : ∀ s ∈ ss, ∀ u ∈ ss, p s = false → p u = true → key s < key u := by
      intro s hs u _ hps hpu
      change (if p s then z else f s) < (if p u then z else f u)
      rw [hps, hpu]
      exact hz s hs
    change sortByKey key ss = _
    rw [sortByKey_of_filter_lt key p hlt, hothers, hmoved, Restack.attach]
  | lower =>
    have hlt : ∀ s ∈ ss, ∀ u ∈ ss, (!p s) = false → (!p u) = true → key s < key u := by
      intro s _ u hu hps hpu
      rw [Bool.not_eq_false'] at hps
      rw [Bool.not_eq_true'] at hpu
      change (if p s then z else f s) < (if p u then z else f u)
      rw [hps, hpu]
      exact hz u hu
    change sortByKey key ss = _
    rw [sortByKey_of_filter_lt key (!p ·) hlt, hothers]
    simp only [Bool.not_not]
    rw [hmoved, Restack.attach]

/-- Move the items that a target means to one end. -/
def move (h : Host α σ) (t : Target) (c : LayerStack α) : Restack → StateM σ (Bool × LayerStack α)
  | .raise => c.bringToFront h t
  | .lower => c.sendToBack h t

/-- The height that lies farthest towards the end that a move goes to. -/
def extreme (m : Restack) (r : Registry Layer) : Int32 :=
  match m with
  | .raise => top r
  | .lower => bottom r

theorem beyond_extreme {m : Restack} {r : Registry Layer} (hr : extreme m r ≠ m.limit) :
    Beyond m (fun s => s.item.z) (m.next (extreme m r)) r.slots := by
  have hnext := Restack.toInt_next hr
  cases m with
  | raise =>
    intro s hs
    have hle := Int32.le_iff_toInt_le.mp (le_top hs)
    change (Restack.raise.next (top r)).toInt = (top r).toInt + 1 at hnext
    rw [Int32.lt_iff_toInt_lt]
    change s.item.z.toInt < (Restack.raise.next (top r)).toInt
    omega
  | lower =>
    intro s hs
    have hle := Int32.le_iff_toInt_le.mp (bottom_le hs)
    change (Restack.lower.next (bottom r)).toInt = (bottom r).toInt + -1 at hnext
    rw [Int32.lt_iff_toInt_lt]
    change (Restack.lower.next (bottom r)).toInt < s.item.z.toInt
    omega

theorem beyond_of_relevel {m : Restack} {r : Registry Layer} {f : Slot Layer → Int32} {z : Int32}
    (hz : Beyond m (fun s => s.item.z) z (relevel r f).slots) : Beyond m f z r.slots := by
  apply hz.of_forall_exists
  intro s hs
  exact ⟨s.atHeight f, List.mem_map_of_mem hs, rfl⟩

/-- Neither limit is a place. -/
theorem rank_ne_limit {r : Registry Layer} (hsize : r.size < 2 ^ 31) {s : Slot Layer} (hs : s ∈ r.slots)
    (m : Restack) : rank r s ≠ m.limit := by
  intro heq
  cases m with
  | raise =>
    have hplaced : s ∈ placed r := placed_of_size_lt hsize ▸ Registry.mem_inOrder.mpr hs
    exact absurd (heq ▸ toInt_rank_of_mem hplaced) (by decide)
  | lower => exact absurd (heq ▸ zero_le_toInt_rank r s) (by decide)

theorem exists_mem_of_extreme_eq_limit {m : Restack} {r : Registry Layer} (hr : extreme m r = m.limit) :
    ∃ s ∈ r.slots, s.item.z = m.limit := by
  cases m with
  | raise =>
    rcases top_mem_or_zero r with ⟨s, hs, hz⟩ | hz
    · exact ⟨s, hs, hz.symm.trans hr⟩
    · exact absurd (hz.symm.trans hr) (by decide)
  | lower =>
    rcases bottom_mem_or_zero r with ⟨s, hs, hz⟩ | hz
    · exact ⟨s, hs, hz.symm.trans hr⟩
    · exact absurd (hz.symm.trans hr) (by decide)

/-- Renumbering leaves room at both ends. -/
theorem extreme_relevel_rank {r : Registry Layer} (hsize : r.size < 2 ^ 31) (m : Restack) :
    extreme m (relevel r (rank r)) ≠ m.limit := by
  intro hlimit
  obtain ⟨s, hs, hz⟩ := exists_mem_of_extreme_eq_limit hlimit
  rw [slots_relevel] at hs
  obtain ⟨u, hu, rfl⟩ := List.mem_map.mp hs
  exact rank_ne_limit hsize hu m hz

/-- The places start at zero. -/
theorem bottom_relevel_rank {r : Registry Layer} (hr : r.slots ≠ []) :
    bottom (relevel r (rank r)) = 0 := by
  have hzero : (0 : Int32).toInt = 0 := by decide
  have hlength : 0 < (r.inOrder Layer.z).length := by
    rw [Registry.length_inOrder]
    exact List.length_pos_iff.mpr hr
  have hlow : (bottom (relevel r (rank r))).toInt ≤ 0 := by
    have hfirst : (r.inOrder Layer.z)[0] ∈ r.slots := Registry.mem_inOrder.mp (List.getElem_mem hlength)
    have hmem : (r.inOrder Layer.z)[0].atHeight (rank r) ∈ (relevel r (rank r)).slots := by
      rw [slots_relevel]
      exact List.mem_map_of_mem hfirst
    have hle := Int32.le_iff_toInt_le.mp (bottom_le hmem)
    rw [Slot.z_atHeight, toInt_rank hlength] at hle
    omega
  have hhigh : 0 ≤ (bottom (relevel r (rank r))).toInt := by
    rcases bottom_mem_or_zero (relevel r (rank r)) with ⟨s, hs, hz⟩ | hz
    · rw [slots_relevel] at hs
      obtain ⟨u, -, rfl⟩ := List.mem_map.mp hs
      rw [hz, Slot.z_atHeight]
      exact zero_le_toInt_rank r u
    · rw [hz, hzero]
  apply Int32.toInt_inj.mp
  omega

/-- Whether there are heights beyond those in use, or will be when the heights are renumbered. Places are
heights only below 2^31. -/
def HasHeights (c : LayerStack α) : Prop :=
  top c.items = Int32.maxValue ∨ bottom c.items = Int32.minValue → c.items.size < 2 ^ 31

instance (c : LayerStack α) : Decidable c.HasHeights :=
  inferInstanceAs (Decidable (_ ∨ _ → _))

/-- Whether the heights in use reach the limit that a move goes towards. -/
def AtLimit (c : LayerStack α) (m : Restack) : Prop := extreme m c.items = m.limit

instance (c : LayerStack α) (m : Restack) : Decidable (c.AtLimit m) :=
  inferInstanceAs (Decidable (_ = _))

/-- The heights that a move starts from: those in use, or the places if those in use are at the limit. -/
def levels (c : LayerStack α) (m : Restack) : Slot Layer → Int32 :=
  if c.AtLimit m then rank c.items else fun s => s.item.z

/-- The height that a move goes beyond. -/
def edge (c : LayerStack α) (m : Restack) : Int32 := extreme m (relevel c.items (c.levels m))

section

variable {c : LayerStack α} {m : Restack}

theorem HasHeights.size_lt (hheights : c.HasHeights) (hlimit : c.AtLimit m) :
    c.items.size < 2 ^ 31 := by
  cases m with
  | raise => exact hheights (.inl hlimit)
  | lower => exact hheights (.inr hlimit)

theorem slots_ne_nil_of_atLimit (hlimit : c.AtLimit m) : c.items.slots ≠ [] := by
  obtain ⟨s, hs, -⟩ := exists_mem_of_extreme_eq_limit hlimit
  exact List.ne_nil_of_mem hs

theorem relevel_levels (hlimit : ¬ c.AtLimit m) : relevel c.items (c.levels m) = c.items := by
  rw [levels, if_neg hlimit, relevel_z]

theorem edge_ne_limit (hheights : c.HasHeights) (m : Restack) : c.edge m ≠ m.limit := by
  by_cases hlimit : c.AtLimit m
  · rw [edge, levels, if_pos hlimit]
    exact extreme_relevel_rank (hheights.size_lt hlimit) m
  · rw [edge, relevel_levels hlimit]
    exact hlimit

/-- Below there is always room, because the lowest place is zero. -/
theorem edge_lower_ne_limit (c : LayerStack α) : c.edge .lower ≠ Restack.lower.limit := by
  by_cases hlimit : c.AtLimit .lower
  · rw [edge, levels, if_pos hlimit, extreme, bottom_relevel_rank (slots_ne_nil_of_atLimit hlimit)]
    decide
  · rw [edge, relevel_levels hlimit]
    exact hlimit

theorem beyond_of_edge_ne_limit (hedge : c.edge m ≠ m.limit) :
    Beyond m (c.levels m) (m.next (c.edge m)) c.items.slots :=
  beyond_of_relevel (beyond_extreme hedge)

theorem beyond_edge (hheights : c.HasHeights) (m : Restack) :
    Beyond m (c.levels m) (m.next (c.edge m)) c.items.slots :=
  beyond_of_edge_ne_limit (edge_ne_limit hheights m)

theorem sortByKey_levels (hheights : c.HasHeights) (m : Restack) :
    sortByKey (c.levels m) c.items.slots = c.items.inOrder Layer.z := by
  by_cases hlimit : c.AtLimit m
  · rw [levels, if_pos hlimit]
    exact sortByKey_rank (hheights.size_lt hlimit)
  · rw [levels, if_neg hlimit]
    rfl

/-- A move gives the items that the target means the next height beyond the others. -/
theorem move_eq (h : Host α σ) (t : Target) (c : LayerStack α) (m : Restack) :
    c.move h t m =
      { c with items := relevel c.items (c.levels m) }.restack h t (m.next (c.edge m)) m := by
  cases m with
  | raise =>
    by_cases hlimit : top c.items = Int32.maxValue
    · have hat : c.AtLimit .raise := hlimit
      rw [move, bringToFront, if_pos hlimit, edge, levels, if_pos hat, renumber_eq]
      rfl
    · have hbelow : ¬ c.AtLimit .raise := hlimit
      rw [move, bringToFront, if_neg hlimit, edge, relevel_levels hbelow]
      rfl
  | lower =>
    by_cases hlimit : bottom c.items = Int32.minValue
    · -- The lowest place is zero, so the next height below is -1.
      have hat : c.AtLimit .lower := hlimit
      have hnext : Restack.lower.next 0 = -1 := by decide
      rw [move, sendToBack, if_pos hlimit, edge, levels, if_pos hat, extreme, renumber_eq,
        bottom_relevel_rank (slots_ne_nil_of_atLimit hat), hnext]
    · have habove : ¬ c.AtLimit .lower := hlimit
      rw [move, sendToBack, if_neg hlimit, edge, relevel_levels habove]
      rfl

end

end LayerStack

end ResponsiveLayout
