import Mathlib.Data.List.Sort
import ResponsiveLayout.Registry

/-! Sorting by key is stable, and since identities are distinct, dropping slots by identity is the
same as dropping them by the property that picked the identities out. -/
namespace ResponsiveLayout

section

variable {β : Type} (key : β → Int32)

theorem insertByKey_eq_orderedInsert (b : β) (bs : List β) :
    insertByKey key b bs = bs.orderedInsert (fun b c => key b ≤ key c) b := by
  induction bs with
  | nil => rfl
  | cons c cs ih => rw [insertByKey, List.orderedInsert_cons, ih]

theorem sortByKey_eq_insertionSort (bs : List β) :
    sortByKey key bs = bs.insertionSort (fun b c => key b ≤ key c) := by
  induction bs with
  | nil => rfl
  | cons b bs ih => rw [sortByKey, List.insertionSort_cons, ih, insertByKey_eq_orderedInsert]

theorem sortByKey_perm (bs : List β) : (sortByKey key bs).Perm bs := by
  rw [sortByKey_eq_insertionSort]
  exact List.perm_insertionSort _ bs

theorem sortByKey_pairwise (bs : List β) :
    (sortByKey key bs).Pairwise (fun b c => key b ≤ key c) := by
  have : Std.Total (fun b c : β => key b ≤ key c) := ⟨fun b c => Int32.le_total (key b) (key c)⟩
  have : IsTrans β (fun b c => key b ≤ key c) := ⟨fun _ _ _ hbc hcd => Int32.le_trans hbc hcd⟩
  rw [sortByKey_eq_insertionSort]
  exact List.pairwise_insertionSort _ bs

theorem insertByKey_of_forall_le {b : β} {bs : List β} (hb : ∀ c ∈ bs, key b ≤ key c) :
    insertByKey key b bs = b :: bs := by
  cases bs with
  | nil => rfl
  | cons c cs => rw [insertByKey, if_pos (hb c List.mem_cons_self)]

theorem filter_insertByKey (p : β → Bool) (b : β) {bs : List β}
    (hs : bs.Pairwise (fun b c => key b ≤ key c)) :
    (insertByKey key b bs).filter p =
      if p b then insertByKey key b (bs.filter p) else bs.filter p := by
  induction bs with
  | nil => rw [insertByKey, List.filter_cons, List.filter_nil, insertByKey]
  | cons c cs ih =>
    obtain ⟨hc, hcs⟩ := List.pairwise_cons.mp hs
    by_cases hbc : key b ≤ key c
    · -- Everything that stays behind `b` has a key that is no less.
      have hb : ∀ d ∈ (c :: cs).filter p, key b ≤ key d := by
        intro d hd
        rcases List.mem_cons.mp (List.mem_filter.mp hd).1 with rfl | hd
        · exact hbc
        · exact Int32.le_trans hbc (hc d hd)
      rw [insertByKey, if_pos hbc, List.filter_cons, insertByKey_of_forall_le key hb]
    · rw [insertByKey, if_neg hbc, List.filter_cons, ih hcs, List.filter_cons]
      by_cases hpb : p b <;> by_cases hpc : p c <;> simp [hpb, hpc, insertByKey, hbc]

/-- What is dropped can be dropped before or after sorting. -/
theorem filter_sortByKey (p : β → Bool) (bs : List β) :
    (sortByKey key bs).filter p = sortByKey key (bs.filter p) := by
  induction bs with
  | nil => rfl
  | cons b bs ih =>
    rw [sortByKey, filter_insertByKey key p b (sortByKey_pairwise key bs), ih, List.filter_cons]
    split
    · rfl
    · rfl

theorem sortByKey_of_pairwise {bs : List β} (hs : bs.Pairwise (fun b c => key b ≤ key c)) :
    sortByKey key bs = bs := by
  induction bs with
  | nil => rfl
  | cons b bs ih =>
    obtain ⟨hb, hbs⟩ := List.pairwise_cons.mp hs
    rw [sortByKey, ih hbs, insertByKey_of_forall_le key hb]

theorem insertByKey_append_of_le {b : β} {cs : List β} (hb : ∀ c ∈ cs, key b ≤ key c)
    (bs : List β) : insertByKey key b (bs ++ cs) = insertByKey key b bs ++ cs := by
  induction bs with
  | nil => exact insertByKey_of_forall_le key hb
  | cons c bs ih =>
    rw [List.cons_append, insertByKey, insertByKey]
    split
    · rfl
    · rw [ih, List.cons_append]

theorem insertByKey_append_of_lt {b : β} {bs : List β} (hb : ∀ c ∈ bs, key c < key b)
    (cs : List β) : insertByKey key b (bs ++ cs) = bs ++ insertByKey key b cs := by
  induction bs with
  | nil => rfl
  | cons c bs ih =>
    have hc : ¬ key b ≤ key c := Int32.not_le.mpr (hb c List.mem_cons_self)
    rw [List.cons_append, insertByKey, if_neg hc, ih fun d hd => hb d (List.mem_cons_of_mem c hd),
      List.cons_append]

/-- If the keys of some elements are greater than those of all others, they are sorted behind. -/
theorem sortByKey_of_filter_lt (p : β → Bool) {bs : List β}
    (hlt : ∀ b ∈ bs, ∀ c ∈ bs, p b = false → p c = true → key b < key c) :
    sortByKey key bs = sortByKey key (bs.filter (!p ·)) ++ sortByKey key (bs.filter p) := by
  induction bs with
  | nil => rfl
  | cons b bs ih =>
    have ih := ih fun c hc d hd => hlt c (List.mem_cons_of_mem b hc) d (List.mem_cons_of_mem b hd)
    rw [sortByKey, ih, List.filter_cons, List.filter_cons]
    cases hb : p b with
    | false =>
      have hright : ∀ c ∈ sortByKey key (bs.filter p), key b ≤ key c := by
        intro c hc
        obtain ⟨hc, hpc⟩ := List.mem_filter.mp ((sortByKey_perm key _).mem_iff.mp hc)
        exact Int32.le_of_lt (hlt b List.mem_cons_self c (List.mem_cons_of_mem b hc) hb hpc)
      exact insertByKey_append_of_le key hright _
    | true =>
      have hleft : ∀ c ∈ sortByKey key (bs.filter (!p ·)), key c < key b := by
        intro c hc
        obtain ⟨hc, hpc⟩ := List.mem_filter.mp ((sortByKey_perm key _).mem_iff.mp hc)
        rw [Bool.not_eq_true'] at hpc
        exact hlt c (List.mem_cons_of_mem b hc) b List.mem_cons_self hpc hb
      exact insertByKey_append_of_lt key hleft _

theorem sortByKey_map {γ : Type} (f : γ → β) (cs : List γ) :
    sortByKey key (cs.map f) = (sortByKey (fun c => key (f c)) cs).map f := by
  have hinsert (c : γ) (cs : List γ) :
      insertByKey key (f c) (cs.map f) = (insertByKey (fun c => key (f c)) c cs).map f := by
    induction cs with
    | nil => rfl
    | cons d cs ih =>
      rw [List.map_cons, insertByKey, insertByKey, ih]
      split
      · rfl
      · rfl
  induction cs with
  | nil => rfl
  | cons c cs ih => rw [List.map_cons, sortByKey, sortByKey, ih, hinsert]

/-- A list with strictly ascending keys is what each of its permutations is sorted to. -/
theorem sortByKey_eq_of_perm {bs cs : List β} (hperm : bs.Perm cs)
    (hcs : cs.Pairwise fun b c => key b < key c) : sortByKey key bs = cs := by
  have hdistinct : (cs.map key).Nodup := List.pairwise_map.mpr (hcs.imp Int32.ne_of_lt)
  have hsorted : (sortByKey key bs).Perm cs := (sortByKey_perm key bs).trans hperm
  apply hsorted.eq_of_pairwise ?_ (sortByKey_pairwise key bs) (hcs.imp Int32.le_of_lt)
  intro b c hb hc hbc hcb
  have hkey : key b = key c := Int32.le_antisymm hbc hcb
  exact List.inj_on_of_nodup_map hdistinct (hsorted.mem_iff.mp hb) hc hkey

/-- With distinct keys, the order of the elements does not matter to sorting. -/
theorem sortByKey_perm_congr {bs cs : List β} (hperm : bs.Perm cs) (hkeys : (cs.map key).Nodup) :
    sortByKey key bs = sortByKey key cs := by
  have hsorted : (sortByKey key cs).Perm cs := sortByKey_perm key cs
  have hdistinct : (sortByKey key cs).Pairwise fun b c => key b ≠ key c :=
    List.pairwise_map.mp ((hsorted.map key).nodup_iff.mpr hkeys)
  have hascending : (sortByKey key cs).Pairwise fun b c => key b < key c := by
    refine (sortByKey_pairwise key cs).imp₂ (fun b c hle hne => ?_) hdistinct
    exact Int32.lt_of_le_of_ne hle hne
  exact sortByKey_eq_of_perm key (hperm.trans hsorted.symm) hascending

theorem sortByKey_congr {key key' : β → Int32} {bs : List β} (hkey : ∀ b ∈ bs, key b = key' b) :
    sortByKey key bs = sortByKey key' bs := by
  have hinsert (b : β) (cs : List β) (hcs : ∀ c ∈ b :: cs, key c = key' c) :
      insertByKey key b cs = insertByKey key' b cs := by
    induction cs with
    | nil => rfl
    | cons c cs ih =>
      obtain ⟨hb, hc, hcs⟩ : key b = key' b ∧ key c = key' c ∧ ∀ d ∈ cs, key d = key' d := by
        simpa only [List.forall_mem_cons] using hcs
      rw [insertByKey, insertByKey, hb, hc, ih (List.forall_mem_cons.mpr ⟨hb, hcs⟩)]
  induction bs with
  | nil => rfl
  | cons b bs ih =>
    obtain ⟨hb, hbs⟩ := List.forall_mem_cons.mp hkey
    rw [sortByKey, sortByKey, ← ih hbs]
    refine hinsert b _ (List.forall_mem_cons.mpr ⟨hb, fun c hc => ?_⟩)
    exact hbs c ((sortByKey_perm key bs).mem_iff.mp hc)

/-- Elements of one key keep their order. -/
theorem filter_key_sortByKey (k : Int32) (bs : List β) :
    (sortByKey key bs).filter (fun b => key b = k) = bs.filter fun b => key b = k := by
  rw [filter_sortByKey]
  apply sortByKey_of_pairwise
  refine List.pairwise_of_forall_mem_list fun b hb c hc => ?_
  rw [of_decide_eq_true (List.mem_filter.mp hb).2, of_decide_eq_true (List.mem_filter.mp hc).2]
  exact Int32.le_refl k

end

namespace Registry

variable {ι : Type} {r : Registry ι}

/-- A list of all slots by ascending key, equal keys in order of registration. -/
structure Ordered (r : Registry ι) (key : ι → Int32) (ss : List (Slot ι)) : Prop where
  perm : ss.Perm r.slots
  ascending : ss.Pairwise fun s t => key s.item ≤ key t.item
  stable : ∀ k, (ss.filter fun s => key s.item = k) = r.slots.filter fun s => key s.item = k

theorem ordered_inOrder (r : Registry ι) (key : ι → Int32) : r.Ordered key (r.inOrder key) where
  perm := sortByKey_perm _ _
  ascending := sortByKey_pairwise _ _
  stable := fun k => filter_key_sortByKey _ k _

theorem mem_inOrder {key : ι → Int32} {s : Slot ι} : s ∈ r.inOrder key ↔ s ∈ r.slots :=
  (sortByKey_perm _ _).mem_iff

theorem length_inOrder (r : Registry ι) (key : ι → Int32) : (r.inOrder key).length = r.size :=
  (sortByKey_perm _ _).length_eq

theorem inOrder_erase (r : Registry ι) (p : Slot ι → Bool) (key : ι → Int32) :
    (r.erase p).inOrder key = (r.inOrder key).filter (!p ·) :=
  (filter_sortByKey _ _ _).symm

theorem inOrder_ne_nil (hr : r.isEmpty = false) {key : ι → Int32} : r.inOrder key ≠ [] := by
  intro hnil
  have hperm := sortByKey_perm (fun s => key s.item) r.slots
  rw [← inOrder, hnil] at hperm
  rw [isEmpty, hperm.symm.eq_nil] at hr
  exact Bool.noConfusion hr

theorem inOrder_ne_nil_of_ready {cramped : Bool} (hr : (!(r.isEmpty || cramped)) = true)
    {key : ι → Int32} : r.inOrder key ≠ [] := by
  rw [Bool.not_or, Bool.and_eq_true, Bool.not_eq_true'] at hr
  exact inOrder_ne_nil hr.1

theorem get?_of_forall_ne {id : ItemId} (hid : ∀ s ∈ r.slots, s.id ≠ id) :
    r.get? id = none := by
  have hfind : (r.slots.find? fun s => s.id == id) = none := by
    simpa using hid
  rw [get?, hfind, Option.map_none]

theorem get?_of_mem {s : Slot ι} (hs : s ∈ r.slots) : r.get? s.id = some s.item := by
  cases hfind : r.slots.find? fun u => u.id == s.id with
  | none =>
    have hother := List.find?_eq_none.mp hfind s hs
    simp at hother
  | some u =>
    -- The identity tells the slot that was found.
    have hid : u.id = s.id := by simpa using List.find?_some hfind
    have hsame : u = s := List.inj_on_of_nodup_map r.nodup (List.mem_of_find?_eq_some hfind) hs hid
    rw [get?, hfind, hsame, Option.map_some]

theorem eraseIds_nil (r : Registry ι) : r.eraseIds [] = r := by
  apply Registry.ext
  · exact List.filter_eq_self.mpr fun _ _ => rfl
  · rfl

/-- Identities that are those of the slots with a property. -/
theorem eraseIds_eq_erase {ids : List ItemId} {p : Slot ι → Bool}
    (hids : ∀ s ∈ r.slots, s.id ∈ ids ↔ p s = true) : r.eraseIds ids = r.erase p := by
  apply Registry.ext
  · refine List.filter_congr fun s hs => congrArg (!·) ?_
    rw [Bool.eq_iff_iff, List.contains_iff_mem]
    exact hids s hs
  · rfl

theorem mem_map_id (r : Registry ι) {s : Slot ι} (hs : s ∈ r.slots) {ss : List (Slot ι)}
    (hss : ∀ t ∈ ss, t ∈ r.slots) : s.id ∈ ss.map Slot.id ↔ s ∈ ss := by
  rw [List.mem_map]
  constructor
  · rintro ⟨t, ht, hid⟩
    rwa [← List.inj_on_of_nodup_map r.nodup (hss t ht) hs hid]
  · exact fun hmem => ⟨s, hmem, rfl⟩

/-- A slot goes with the identities of the slots that have a property only if it has that property
itself. -/
theorem eraseIds_filter (r : Registry ι) (p : Slot ι → Bool) {ss : List (Slot ι)}
    (hss : ss.Perm r.slots) : r.eraseIds ((ss.filter p).map Slot.id) = r.erase p := by
  apply eraseIds_eq_erase
  intro s hs
  have hpicked : ∀ t ∈ ss.filter p, t ∈ r.slots :=
    fun t ht => hss.mem_iff.mp (List.mem_filter.mp ht).1
  rw [r.mem_map_id hs hpicked, List.mem_filter, hss.mem_iff]
  exact and_iff_right hs

theorem erase_of_forall {p : Slot ι → Bool} (hp : ∀ s ∈ r.slots, p s = false) : r.erase p = r := by
  apply Registry.ext
  · exact List.filter_eq_self.mpr fun s hs => congrArg (!·) (hp s hs)
  · rfl

theorem size_sub_erase {p : Slot ι → Bool} (hp : ∀ s ∈ r.slots, p s = false) :
    r.size - (r.erase p).size = 0 := by
  rw [erase_of_forall hp, Nat.sub_self]

theorem erase_erase (r : Registry ι) (p q : Slot ι → Bool) :
    (r.erase p).erase q = r.erase fun s => p s || q s := by
  apply Registry.ext
  · refine List.filter_filter.trans (List.filter_congr fun s _ => ?_)
    rw [Bool.not_or, Bool.and_comm]
  · rfl

theorem eraseIds_append (r : Registry ι) (ids ids' : List ItemId) :
    r.eraseIds (ids ++ ids') = (r.eraseIds ids).eraseIds ids' := by
  rw [eraseIds, eraseIds, eraseIds, erase_erase]
  refine congrArg r.erase (funext fun s => ?_)
  exact List.contains_append

theorem modify_of_forall {p : Slot ι → Bool} (hp : ∀ s ∈ r.slots, p s = false) (f : ι → ι) :
    r.modify p f = r := by
  apply Registry.ext
  · have hsame : ∀ s ∈ r.slots, { s with item := if p s then f s.item else s.item } = id s := by
      intro s hs
      rw [hp s hs]
      rfl
    exact (List.map_congr_left hsame).trans (List.map_id r.slots)
  · rfl

/-- Slots that were picked out before a change that does not concern what they were picked out by. -/
theorem eraseIds_filter_mapItems (r : Registry ι) (f : Slot ι → ι) {p : Slot ι → Bool}
    (hp : ∀ s, p { s with item := f s } = p s) :
    (r.mapItems f).eraseIds ((r.slots.filter p).map Slot.id) = (r.mapItems f).erase p := by
  have hids : (r.slots.filter p).map Slot.id = ((r.mapItems f).slots.filter p).map Slot.id := by
    rw [mapItems, List.filter_map, List.map_map]
    exact congrArg (List.map Slot.id) (List.filter_congr fun s _ => (hp s).symm)
  rw [hids]
  exact eraseIds_filter _ p (List.Perm.refl _)

section

def contents (r : Registry ι) : List ι := r.slots.map Slot.item

theorem contents_erase (r : Registry ι) (p : ι → Bool) :
    (r.erase fun s => p s.item).contents = r.contents.filter (!p ·) := by
  rw [contents, contents, List.filter_map]
  rfl

theorem isEmpty_contents (r : Registry ι) : r.contents.isEmpty = r.isEmpty := List.isEmpty_map

theorem inOrder_contents (r : Registry ι) (key : ι → Int32) :
    (r.inOrder key).map Slot.item = sortByKey key r.contents :=
  (sortByKey_map key Slot.item r.slots).symm

end

end Registry

end ResponsiveLayout
