import ResponsiveLayout.Proofs.Container.Transactions
import ResponsiveLayout.Proofs.Stack.OwedPass

/-! Identities through whole runs of a container, whatever the host answers. They are given out by number, so
none is given out twice, and the items lie in the order of their identities. An item is there from the
transaction that added it to the first one that removes it, clears the container, or calls about it in
vain. -/
namespace ResponsiveLayout

variable {α σ ι : Type} {widget : ι → Widget}

namespace Registry

variable {r : Registry ι}

theorem ids_add (r : Registry ι) (item : ι) : (r.add item).ids = r.ids ++ [r.nextId] := List.map_append

theorem ids_mapItems (r : Registry ι) (f : Slot ι → ι) : (r.mapItems f).ids = r.ids := by
  rw [ids, mapItems, List.map_map]
  rfl

theorem ids_spared (r : Registry ι) (vs : List (Visit α ι)) :
    (r.spared vs).ids = r.ids.filter fun id => !vs.any fun v => v.slot.id == id && v.refused := by
  rw [ids, ids, List.filter_map]
  rfl

theorem index_lt_of_mem_ids {id : ItemId} (hid : id ∈ r.ids) : id.index < r.nextIndex := by
  obtain ⟨s, hs, rfl⟩ := List.mem_map.mp hid
  exact r.lt_next s hs

theorem eq_of_id_eq {s u : Slot ι} (hs : s ∈ r.slots) (hu : u ∈ r.slots) (hid : s.id = u.id) : s = u :=
  List.inj_on_of_nodup_map r.nodup hs hu hid

theorem ids_erase (r : Registry ι) (p : Slot ι → Bool) :
    (r.erase p).ids = r.ids.filter fun id => !r.slots.any fun s => s.id == id && p s := by
  rw [ids, ids, List.filter_map]
  refine congrArg (List.map Slot.id) (List.filter_congr fun s hs => congrArg (!·) ?_)
  rw [Bool.eq_iff_iff, List.any_eq_true]
  constructor
  · intro hp
    exact ⟨s, hs, by rw [beq_self_eq_true, hp]; rfl⟩
  · rintro ⟨u, hu, hboth⟩
    rw [Bool.and_eq_true, beq_iff_eq] at hboth
    rw [← eq_of_id_eq hu hs hboth.1]
    exact hboth.2

/-- At most one item has a certain identity. -/
theorem countP_means_item_le (r : Registry ι) (id : ItemId) :
    r.slots.countP ((Target.item id).means widget) ≤ 1 := by
  have hcount : r.slots.countP ((Target.item id).means widget) = r.ids.count id := by
    rw [List.count, ids, List.countP_map]
    refine List.countP_congr fun s _ => ?_
    change decide (id = s.id) = true ↔ (s.id == id) = true
    rw [decide_eq_true_iff, beq_iff_eq, eq_comm]
  rw [hcount]
  exact List.nodup_iff_count_le_one.mp r.nodup id

end Registry

namespace Edit

def removes (widget : ι → Widget) (r : Registry ι) (id : ItemId) : Edit ι → Bool
  | remove t => r.slots.any fun s => s.id == id && t.means widget s
  | clear => true
  | keep | add _ | update _ _ | move _ _ => false

variable {e : Edit ι} {r r' : Registry ι} {a : Answer α}

theorem added?_eq (htells : e.Tells widget r a) : a.added? = none ∨ a.added? = some r.nextId := by
  cases e with
  | add item =>
    obtain rfl : a = .added r.nextId := htells
    exact .inr rfl
  | remove t =>
    obtain rfl : a = .removed _ := htells
    exact .inl rfl
  | keep | clear | update | move => exact .inl htells

theorem nextIndex_of_makes (hmakes : e.Makes widget r r') (htells : e.Tells widget r a) :
    r'.nextIndex = r.nextIndex + a.added?.toList.length := by
  cases e with
  | add item =>
    obtain rfl : r' = r.add item := hmakes
    obtain rfl : a = .added r.nextId := htells
    rfl
  | remove t =>
    obtain rfl : r' = r.erase (t.means widget) := hmakes
    obtain rfl : a = .removed _ := htells
    rfl
  | keep | clear =>
    have hnone : a.added? = none := htells
    rw [hmakes, hnone]
    rfl
  | update =>
    have hnone : a.added? = none := htells
    rw [hnone]
    rcases hmakes with rfl | rfl <;> rfl
  | move =>
    have hnone : a.added? = none := htells
    obtain ⟨f, rfl, -⟩ := hmakes
    rw [hnone]
    rfl

/-- An edit takes items away or adds one at the end, and leaves the others in order. -/
theorem ids_of_makes (hmakes : e.Makes widget r r') (htells : e.Tells widget r a) :
    r'.ids = (r.ids ++ a.added?.toList).filter (!e.removes widget r ·) := by
  have hall (ids : List ItemId) : ids.filter (fun _ => !false) = ids :=
    List.filter_eq_self.mpr fun _ _ => rfl
  -- Nothing is added but by an addition.
  have hbehind (hnone : a.added? = none) : r.ids ++ a.added?.toList = r.ids := by
    rw [hnone, Option.toList_none, List.append_nil]
  cases e with
  | add item =>
    obtain rfl : r' = r.add item := hmakes
    obtain rfl : a = .added r.nextId := htells
    exact (r.ids_add item).trans (hall _).symm
  | remove t =>
    obtain rfl : r' = r.erase (t.means widget) := hmakes
    obtain rfl : a = .removed _ := htells
    rw [hbehind rfl, Registry.ids_erase]
    rfl
  | clear =>
    obtain rfl : r' = r.clear := hmakes
    exact (List.filter_eq_nil_iff.mpr fun _ _ => Bool.false_ne_true).symm
  | keep =>
    obtain rfl : r' = r := hmakes
    rw [hbehind htells]
    exact (hall _).symm
  | update =>
    rw [hbehind htells]
    refine Eq.trans ?_ (hall _).symm
    rcases hmakes with rfl | rfl
    · rfl
    · exact r.ids_mapItems _
  | move =>
    rw [hbehind htells]
    obtain ⟨f, rfl, -⟩ := hmakes
    exact (r.ids_mapItems f).trans (hall _).symm

/-- An item that is still there after an edit is the item of this identity from before, unless it was updated
or moved, and a move leaves it its widget. -/
theorem item_of_makes (hmakes : e.Makes widget r r') {s u : Slot ι} (hs : s ∈ r'.slots) (hu : u ∈ r.slots)
    (hid : s.id = u.id) :
    s.item = u.item ∨ (∃ f, e = .update s.id f ∧ s.item = f u.item) ∨
      ((∃ t m, e = .move t m) ∧ widget s.item = widget u.item) := by
  have hsame (hs : s ∈ r.slots) : s.item = u.item := congrArg Slot.item (Registry.eq_of_id_eq hs hu hid)
  cases e with
  | keep =>
    obtain rfl : r' = r := hmakes
    exact .inl (hsame hs)
  | add item =>
    obtain rfl : r' = r.add item := hmakes
    rcases List.mem_append.mp hs with hs | hs
    · exact .inl (hsame hs)
    · -- The new item has an identity that no other item has.
      refine absurd (List.mem_map.mpr ⟨u, hu, ?_⟩) r.nextId_not_mem
      rw [← hid, List.mem_singleton.mp hs]
  | remove t =>
    obtain rfl : r' = r.erase (t.means widget) := hmakes
    exact .inl (hsame (List.mem_filter.mp hs).1)
  | clear =>
    obtain rfl : r' = r.clear := hmakes
    cases hs
  | update id f =>
    rcases hmakes with rfl | rfl
    · exact .inl (hsame hs)
    · obtain ⟨v, hv, rfl⟩ := List.mem_map.mp hs
      obtain rfl := Registry.eq_of_id_eq hv hu hid
      by_cases hupdated : v.id == id
      · refine .inr (.inl ⟨f, ?_, if_pos hupdated⟩)
        rw [beq_iff_eq.mp hupdated]
      · exact .inl (if_neg hupdated)
  | move t m =>
    obtain ⟨f, rfl, hwidget⟩ := hmakes
    obtain ⟨v, hv, rfl⟩ := List.mem_map.mp hs
    obtain rfl := Registry.eq_of_id_eq hv hu hid
    exact .inr (.inr ⟨⟨t, m, rfl⟩, hwidget v⟩)

end Edit

namespace Transaction

def added? (t : Transaction α ι) : Option ItemId := t.answer.added?

def prunes (t : Transaction α ι) (id : ItemId) : Bool := t.visits.any fun v => v.slot.id == id && v.refused

/-- Whether the item of some identity is removed, cleared away or dropped by the host. -/
def ends (widget : ι → Widget) (t : Transaction α ι) (id : ItemId) : Bool :=
  t.edit.removes widget t.before id || t.prunes id

/-- What a transaction does to the items, by their identities. -/
structure Orderly (widget : ι → Widget) (t : Transaction α ι) : Prop where
  /-- Items that stay keep their identities and their order, and a new one comes behind them. -/
  ids_eq : t.after.ids = (t.before.ids ++ t.added?.toList).filter (!t.ends widget ·)
  /-- An identity still stands for the same item, unless it was updated or moved, and a move leaves it its
  widget. -/
  item_eq : ∀ s ∈ t.after.slots, ∀ u ∈ t.before.slots, s.id = u.id →
    s.item = u.item ∨ (∃ f, t.edit = .update s.id f ∧ s.item = f u.item) ∨
      ((∃ target m, t.edit = .move target m) ∧ widget s.item = widget u.item)
  /-- A removal takes exactly the items away that its target means by the widgets that they show now, and
  tells how many these were. Those that the pass after it drops do not count. -/
  removed : ∀ target, t.edit = .remove target →
    t.answer = .removed (t.before.slots.countP (target.means widget)) ∧
      t.after = (t.before.erase (target.means widget)).spared t.visits
  /-- Only one item has a certain identity. -/
  removed_le : ∀ id, t.edit = .remove (.item id) →
    t.before.slots.countP ((Target.item id).means widget) ≤ 1

end Transaction

section

variable {C O : Type} [Stocked C ι α O] {t : Transaction α ι} {e : Edit ι} {c : C}
  {x : (Answer α × C) × σ × List (Exchange α)}

namespace Transaction.Records

theorem nextIndex_after (ht : t.Records e c x) :
    t.after.nextIndex = t.before.nextIndex + t.added?.toList.length := by
  obtain ⟨c', hmakes, -, hafter⟩ := ht.leaves
  have hnext := Edit.nextIndex_of_makes hmakes ht.tells
  rw [hafter]
  exact hnext

theorem eq_nextId_of_added (ht : t.Records e c x) {id : ItemId} (hid : t.added? = some id) :
    id = t.before.nextId := by
  rcases Edit.added?_eq ht.tells with hadded | hadded
  · cases hid.symm.trans hadded
  · exact Option.some.inj (hid.symm.trans hadded)

theorem orderly (ht : t.Records e c x) : t.Orderly (Stocked.widget C) := by
  obtain ⟨c', hmakes, -, hafter⟩ := ht.leaves
  have htells := ht.tells
  obtain rfl := ht.edit_eq
  refine ⟨?_, fun s hs u hu hid => ?_, fun target hremove => ?_, fun id _ => ?_⟩
  · -- First goes what the edit takes away, then what the host refuses.
    rw [hafter, Registry.ids_spared, Edit.ids_of_makes hmakes htells, List.filter_filter]
    refine List.filter_congr fun id _ => ?_
    rw [Transaction.ends, Bool.not_or, Bool.and_comm]
    rfl
  · rw [hafter] at hs
    exact Edit.item_of_makes hmakes (List.mem_filter.mp hs).1 hu hid
  · rw [hremove] at htells hmakes
    have hitems : Predictable.items c' = t.before.erase (target.means (Stocked.widget C)) := hmakes
    exact ⟨htells, by rw [hafter, hitems]⟩
  · exact t.before.countP_means_item_le id

end Transaction.Records

/-- The transactions of a run of operations, each recorded with the calls that the host got in it. -/
inductive Chronicle (h : Host α σ) (c : C) (s : σ) : List (Operation α O) → List (Transaction α ι) → Prop
  | nil : Chronicle h c s [] []
  | concat {os : List (Operation α O)} {ts : List (Transaction α ι)} {o : Operation α O} {t : Transaction α ι}
    (hpast : Chronicle h c s os ts)
    (htransaction : t.Records (o.edit C) (Operation.run h os c s).1
      (o.perform h.transcribed (Operation.run h os c s).1 ((Operation.run h os c s).2, []))) :
    Chronicle h c s (os ++ [o]) (ts ++ [t])

/-- Whether an item was added in some transaction and has not been removed, cleared away or dropped since. -/
def Lasts (widget : ι → Widget) (ts : List (Transaction α ι)) (id : ItemId) : Prop :=
  ∃ past t later, ts = past ++ t :: later ∧ t.added? = some id ∧ ∀ u ∈ t :: later, u.ends widget id = false

/-- The identities of the items that some transactions have left. -/
structure Identities (widget : ι → Widget) (ts : List (Transaction α ι)) (r : Registry ι) : Prop where
  /-- The items lie in the order of their identities. -/
  ascending : r.ids.Pairwise fun i j => i.index < j.index
  below_next : ∀ id ∈ r.ids, id.index < r.nextIndex
  /-- The identities that were given out are the numbers from zero on, each of them once, so that the next one
  is the number of items that have been added. -/
  given : ts.filterMap Transaction.added? = (List.range r.nextIndex).map ItemId.mk
  present_iff : ∀ id, id ∈ r.ids ↔ Lasts widget ts id
  orderly : ∀ t ∈ ts, t.Orderly widget

theorem not_lasts_nil (id : ItemId) : ¬ Lasts widget ([] : List (Transaction α ι)) id := by
  rintro ⟨past, t, later, heq, -⟩
  exact absurd heq.symm (List.append_ne_nil_of_right_ne_nil _ (List.cons_ne_nil _ _))

theorem lasts_concat {ts : List (Transaction α ι)} {id : ItemId} :
    Lasts widget (ts ++ [t]) id ↔ (Lasts widget ts id ∨ t.added? = some id) ∧ t.ends widget id = false := by
  constructor
  · -- The item was added in the last transaction, or in one of those before.
    rintro ⟨past, u, later, heq, hadded, hkept⟩
    rcases List.eq_nil_or_concat later with rfl | ⟨later, v, rfl⟩
    · obtain ⟨-, hlast⟩ := List.append_inj' heq rfl
      obtain rfl := List.singleton_inj.mp hlast
      exact ⟨.inr hadded, hkept t List.mem_cons_self⟩
    · rw [List.concat_eq_append, ← List.cons_append, ← List.append_assoc] at heq
      obtain ⟨hts, hlast⟩ := List.append_inj' heq rfl
      obtain rfl := List.singleton_inj.mp hlast
      rw [List.concat_eq_append, ← List.cons_append] at hkept
      exact ⟨.inl ⟨past, u, later, hts, hadded, fun w hw => hkept w (List.mem_append_left _ hw)⟩,
        hkept t (List.mem_append_right _ List.mem_cons_self)⟩
  · rintro ⟨⟨past, u, later, rfl, hadded, hkept⟩ | hadded, hends⟩
    · refine ⟨past, u, later ++ [t], List.append_assoc _ _ _, hadded, ?_⟩
      rw [← List.cons_append, List.forall_mem_append]
      exact ⟨hkept, List.forall_mem_singleton.mpr hends⟩
    · exact ⟨ts, t, [], rfl, hadded, List.forall_mem_singleton.mpr hends⟩

theorem identities_nil : Identities widget ([] : List (Transaction α ι)) Registry.empty where
  ascending := List.Pairwise.nil
  below_next _ hid := absurd hid List.not_mem_nil
  given := rfl
  present_iff id := ⟨fun hid => absurd hid List.not_mem_nil, fun hid => absurd hid (not_lasts_nil id)⟩
  orderly _ ht := absurd ht List.not_mem_nil

theorem Identities.concat {ts : List (Transaction α ι)} (hts : Identities (Stocked.widget C) ts t.before)
    (ht : t.Records e c x) : Identities (Stocked.widget C) (ts ++ [t]) t.after where
  ascending := by
    -- The new identity is the next one, and all others were given out before.
    have hadded : ∀ i ∈ t.before.ids, ∀ j ∈ t.added?.toList, i.index < j.index := by
      intro i hi j hj
      rw [ht.eq_nextId_of_added (Option.mem_toList.mp hj)]
      exact hts.below_next i hi
    have hone : t.added?.toList.Pairwise fun i j => i.index < j.index := by
      cases t.added? with
      | none => exact List.Pairwise.nil
      | some id => exact List.pairwise_singleton _ _
    rw [ht.orderly.ids_eq]
    exact (List.pairwise_append.mpr ⟨hts.ascending, hone, hadded⟩).filter _
  below_next _ hid := Registry.index_lt_of_mem_ids hid
  given := by
    rw [filterMap_concat, hts.given, ht.nextIndex_after]
    cases hadded : t.added? with
    | none => exact List.append_nil _
    | some id =>
      rw [ht.eq_nextId_of_added hadded, Option.toList_some, List.length_singleton, List.range_succ,
        List.map_append]
      rfl
  present_iff id := by
    rw [lasts_concat, ← hts.present_iff, ht.orderly.ids_eq, List.mem_filter, List.mem_append,
      Option.mem_toList, Bool.not_eq_true']
  orderly := List.forall_mem_append.mpr ⟨hts.orderly, List.forall_mem_singleton.mpr ht.orderly⟩

/-- Keeping a transcript makes no difference to an operation. -/
theorem perform_transcribed (h : Host α σ) (o : Operation α O) (c : C) (s : σ) :
    (o.perform h.transcribed c (s, [])).1 = (o.perform h c s).1 :=
  (o.perform_lockstep h.transcribed_lockstep c (s, []) s rfl).1

namespace Chronicle

variable {h : Host α σ} {s : σ} {os : List (Operation α O)} {ts : List (Transaction α ι)}

theorem identities (hts : Chronicle h c s os ts) (hc : Predictable.items c = .empty) :
    Identities (Stocked.widget C) ts (Predictable.items (Operation.run h os c s).1) := by
  -- By induction on what was done last: it starts from the items that were left before.
  induction hts with
  | nil =>
    change Identities (Stocked.widget C) [] (Predictable.items c)
    rw [hc]
    exact identities_nil
  | @concat os ts o t _ htransaction ih =>
    have hafter : t.after = Predictable.items (Operation.run h (os ++ [o]) c s).1 := by
      rw [htransaction.after_eq, perform_transcribed, Operation.run_concat]
    rw [← htransaction.before_eq] at ih
    rw [← hafter]
    exact ih.concat htransaction

theorem exists_of_transactions (h : Host α σ) (c : C) (s : σ) (os : List (Operation α O))
    (hall : ∀ q (c : C) s, ∃ t : Transaction α ι,
      t.Records (Stocked.edit C q) c (Operable.perform h.transcribed q c (s, []))) :
    ∃ ts, Chronicle h c s os ts := by
  induction os using List.reverseRecOn with
  | nil => exact ⟨[], .nil⟩
  | append_singleton os o ih =>
    obtain ⟨ts, hts⟩ := ih
    let x := Operation.run h os c s
    obtain ⟨t, ht⟩ := Stocked.exists_transaction h o hall x.1 x.2
    exact ⟨ts ++ [t], .concat hts ht⟩

end Chronicle

end

variable [Scalar α]

theorem Grid.items_new {config : GridConfig α} {g : Grid α} (hnew : Grid.new config = .ok g) :
    g.items = .empty := by
  rw [Grid.new] at hnew
  split at hnew
  · cases hnew
  · rw [← Except.ok.inj hnew]

/-- Whatever is done with a new container and whatever the host answers, items are told apart by their
identities: these ascend, none is given out twice, and an item is there exactly if it was added and has since
been neither removed nor cleared away nor dropped because the host refused a call about it. A removal takes
what its target means then, and tells how many. What stays keeps its identity and its place. -/
theorem run_identities (h : Host α σ) (s : σ) :
    (∀ (config : FlexConfig α) (os : List (Operation α (FlexOperation α))), ∃ ts,
        Chronicle h (FlexBox.new config) s os ts ∧
          Identities Item.widget ts (Operation.run h os (FlexBox.new config) s).1.items) ∧
      (∀ (config : GridConfig α) (g : Grid α), Grid.new config = .ok g →
        ∀ os : List (Operation α (GridOperation α)), ∃ ts,
          Chronicle h g s os ts ∧ Identities Item.widget ts (Operation.run h os g s).1.items) ∧
      ∀ os : List (Operation α StackOperation), ∃ ts,
        Chronicle h (LayerStack.new : LayerStack α) s os ts ∧
          Identities Layer.widget ts (Operation.run h os (LayerStack.new : LayerStack α) s).1.items := by
  refine ⟨fun config os => ?_, fun config g hnew os => ?_, fun os => ?_⟩
  · obtain ⟨ts, hts⟩ := Chronicle.exists_of_transactions h _ s os (FlexBox.exists_transaction h)
    exact ⟨ts, hts, hts.identities rfl⟩
  · obtain ⟨ts, hts⟩ := Chronicle.exists_of_transactions h g s os (Grid.exists_transaction h)
    exact ⟨ts, hts, hts.identities (Grid.items_new hnew)⟩
  · obtain ⟨ts, hts⟩ := Chronicle.exists_of_transactions h _ s os (LayerStack.exists_transaction h)
    exact ⟨ts, hts, hts.identities rfl⟩

/-- A grid with three items of two widgets, one of which is destroyed. The item of this widget is dropped when
the grid gets a width, and another one is removed; the items added later get new identities. -/
theorem run_identities_dropped :
    let os : List (Operation Float32 (GridOperation Float32)) :=
      [.own (.add (.ofWidget ⟨1⟩)), .own (.add (.ofWidget ⟨2⟩)), .own (.add (.ofWidget ⟨1⟩)),
        .own (.setWidth 800), .own (.add (.ofWidget ⟨3⟩)), .own (.remove (.item ⟨2⟩)),
        .own (.add (.ofWidget ⟨1⟩))]
    let r := (Recorder.empty : Recorder Float32).destroy ⟨2⟩
    ∃ g : Grid Float32, Grid.new .standard = .ok g ∧
      (Operation.run Recorder.host os g r).1.items.ids = [⟨0⟩, ⟨3⟩, ⟨4⟩] ∧
      ∃ ts, Chronicle Recorder.host g r os ts ∧
        Identities Item.widget ts (Operation.run Recorder.host os g r).1.items :=
  have hnew : Grid.new (.standard : GridConfig Float32) = .ok _ := rfl
  ⟨_, hnew, by decide +kernel, (run_identities Recorder.host _).2.1 .standard _ hnew _⟩

end ResponsiveLayout
