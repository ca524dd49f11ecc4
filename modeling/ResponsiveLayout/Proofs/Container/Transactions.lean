import ResponsiveLayout.Proofs.Container.Predictable
import ResponsiveLayout.Proofs.Host.History
import ResponsiveLayout.Proofs.Stack.Heights

/-! What one operation does to the items of a container, with the calls made on its way. First the items are
edited as the operation says, then the host may be asked about them, item by item, and those about which a
call was refused are dropped. This is all that happens to the items, in every container. -/
namespace ResponsiveLayout

variable {α σ ι : Type}

def Answer.added? : Answer α → Option ItemId
  | .added id => some id
  | .done | .removed _ | .found _ | .item _ | .span _ | .grid _ _ _ => none

/-- What an operation means for the items, before the host is asked about any of them. -/
inductive Edit (ι : Type) where
  | keep
  | add (item : ι)
  | remove (t : Target)
  | clear
  | update (id : ItemId) (f : ι → ι)
  | move (t : Target) (m : Restack)

def aboutWidgets (log : List (Exchange α)) : List (Exchange α) := log.filter fun e => e.call.widget?.isSome

/-- A container of items that show widgets. Its operations of its own edit the items; its passes ask the
host about all of them in keeping with a protocol. -/
class Stocked (C : Type) (ι α O : outParam Type) extends Predictable C ι α O where
  widget : ι → Widget
  edit : O → Edit ι
  Protocol : C → List (Visit α ι) → Prop
  items_unmoved (size : Size α) (c : C) : items (unmoved size c) = items c := by intros; rfl
  items_takes (size : Size α) (c : C) : items (takes size c) = items c := by intros; rfl
  pass_asks {σ : Type} (h : Host α σ) (c : C) (s : σ) : ∃ vs,
    let x := pass h.transcribed c (s, [])
    Protocol c vs ∧ items x.1 = (items c).spared vs ∧
      aboutWidgets x.2.2 = vs.map Visit.exchange

/-- Whether a target means an item by the widget that it shows now. -/
def Target.means (t : Target) (widget : ι → Widget) (s : Slot ι) : Bool := t.hits s.id (widget s.item)

namespace Registry

variable {r : Registry ι}

def ids (r : Registry ι) : List ItemId := r.slots.map Slot.id

theorem spared_nil (r : Registry ι) : r.spared ([] : List (Visit α ι)) = r :=
  erase_of_forall fun _ _ => rfl

theorem clear_of_isEmpty (hr : r.isEmpty = true) : r.clear = r :=
  Registry.ext (List.isEmpty_iff.mp hr).symm rfl

theorem size_sub_size_erase (r : Registry ι) (p : Slot ι → Bool) :
    r.size - (r.erase p).size = r.slots.countP p := by
  have hsum := r.slots.length_eq_countP_add_countP p
  have hkept : (r.slots.filter (!p ·)).length = r.slots.countP fun s => ¬ p s = true := by
    rw [List.countP_eq_length_filter]
    refine congrArg List.length (List.filter_congr fun s _ => ?_)
    cases p s <;> rfl
  rw [size, size, erase, hkept]
  omega

theorem erase_of_size_sub {p : Slot ι → Bool} (hnone : r.size - (r.erase p).size = 0) :
    r.erase p = r := by
  rw [size_sub_size_erase, List.countP_eq_zero] at hnone
  exact erase_of_forall fun s hs => Bool.eq_false_iff.mpr (hnone s hs)

/-- To put a changed item in the place of an item is to change it in place. -/
theorem modify_const {id : ItemId} {item : ι} (hitem : r.get? id = some item) (f : ι → ι) :
    (r.modify (fun s => s.id == id) fun _ => f item) = r.modify (fun s => s.id == id) f := by
  apply Registry.ext
  · refine List.map_congr_left fun s hs => ?_
    dsimp only
    split
    · next hid =>
      rw [beq_iff_eq] at hid
      rw [← hid, get?_of_mem hs] at hitem
      rw [Option.some.inj hitem]
    · rfl
  · rfl

end Registry

namespace Edit

variable {C O : Type}

/-- What an edit makes of the items. An item may turn out to be the same after an update, and then it may
be left alone; a move only changes how high items lie. -/
def Makes (widget : ι → Widget) (r r' : Registry ι) : Edit ι → Prop
  | keep => r' = r
  | add item => r' = r.add item
  | remove t => r' = r.erase (t.means widget)
  | clear => r' = r.clear
  | update id f => r' = r ∨ r' = r.modify (fun s => s.id == id) f
  | move _ _ => ∃ f, r' = r.mapItems f ∧ ∀ s, widget (f s) = widget s.item

/-- What the caller of an operation is told: the identity of a new item, and how many items the target of
a removal meant. -/
def Tells (widget : ι → Widget) (r : Registry ι) (a : Answer α) : Edit ι → Prop
  | add _ => a = .added r.nextId
  | remove t => a = .removed (r.slots.countP (t.means widget))
  | keep | clear | update _ _ | move _ _ => a.added? = none

/-- The calls that are made about items after an edit. A move makes one about each item that its target
means, and everything else makes those of a pass. -/
def Asks [Stocked C ι α O] (c : C) (vs : List (Visit α ι)) : Edit ι → Prop
  | move t m =>
    vs.map Visit.slot = (Predictable.items c).slots.filter (t.means (Stocked.widget C)) ∧
      ∀ v ∈ vs, ∃ a, v.exchange = ⟨.restack (Stocked.widget C v.slot.item) m, .carriedOut a⟩
  | keep | add _ | remove _ | clear | update _ _ => Stocked.Protocol c vs

end Edit

/-- One operation as the items of a container see it. -/
structure Transaction (α ι : Type) where
  edit : Edit ι
  answer : Answer α
  before : Registry ι
  visits : List (Visit α ι)
  after : Registry ι

section

variable {C O : Type} [Stocked C ι α O]

def Operation.edit (C : Type) [Stocked C ι α O] : Operation α O → Edit ι
  | .resize _ | .relayout | .settle => .keep
  | .own o => Stocked.edit C o

/-- A transaction records an edit of a container with the answer, the container and the transcript that it
ended with: after the edit there were no calls, or those that are made after such an edit, and the items
about which one was refused were dropped. -/
structure Transaction.Records (t : Transaction α ι) (e : Edit ι) (c : C)
    (x : (Answer α × C) × σ × List (Exchange α)) : Prop where
  edit_eq : t.edit = e
  answer_eq : t.answer = x.1.1
  before_eq : t.before = Predictable.items c
  after_eq : t.after = Predictable.items x.1.2
  tells : e.Tells (Stocked.widget C) t.before t.answer
  calls : aboutWidgets x.2.2 = t.visits.map Visit.exchange
  leaves : ∃ c' : C, e.Makes (Stocked.widget C) t.before (Predictable.items c') ∧
    (t.visits = [] ∨ e.Asks c' t.visits) ∧ t.after = (Predictable.items c').spared t.visits

namespace Stocked

variable {c : C} {e : Edit ι}

/-- An edit that is not followed by any calls. -/
theorem exists_transaction_of_quiet (a : Answer α) (c' : C)
    (hmakes : e.Makes (widget C) (Predictable.items c) (Predictable.items c'))
    (htells : e.Tells (widget C) (Predictable.items c) a) (s : σ) :
    ∃ t : Transaction α ι, t.Records e c ((a, c'), s, []) :=
  ⟨⟨e, a, Predictable.items c, [], Predictable.items c'⟩, rfl, rfl, rfl, rfl, htells, rfl,
    c', hmakes, .inl rfl, (Registry.spared_nil _).symm⟩

theorem relayout_asks (h : Host α σ) (c : C) (s : σ) : ∃ vs,
    let x := Container.relayout h.transcribed c (s, [])
    (vs = [] ∨ Protocol c vs) ∧ Predictable.items x.1 = (Predictable.items c).spared vs ∧
      aboutWidgets x.2.2 = vs.map Visit.exchange := by
  rw [Passing.relayout_eq]
  split
  · obtain ⟨vs, hprotocol, hpass⟩ := pass_asks h c s
    exact ⟨vs, .inr hprotocol, hpass⟩
  · -- A pass that is put off asks nothing and leaves the items alone.
    refine ⟨[], .inl rfl, ?_, rfl⟩
    change Predictable.items (Passing.owing c) = _
    rw [Predictable.owing_eq, Predictable.items_refill, Registry.spared_nil]

/-- An edit that is followed by a relayout. -/
theorem exists_transaction_of_relayout (a : Answer α) (c' : C)
    (hmakes : e.Makes (widget C) (Predictable.items c) (Predictable.items c'))
    (hasks : ∀ vs, Protocol c' vs → e.Asks c' vs)
    (htells : e.Tells (widget C) (Predictable.items c) a) (h : Host α σ) (s : σ) :
    ∃ t : Transaction α ι, t.Records e c
      (((fun c₁ => (a, c₁)) <$> Container.relayout h.transcribed c' : StateM _ _) (s, [])) := by
  obtain ⟨vs, hprotocol, hitems, hcalls⟩ := relayout_asks h c' s
  exact ⟨⟨e, a, Predictable.items c, vs, _⟩, rfl, rfl, rfl, rfl, htells, hcalls,
    c', hmakes, hprotocol.imp_right (hasks vs), hitems⟩

variable {h : Host α σ}

/-- An edit that tells nothing, is left out if it would change nothing, and is followed by a relayout
otherwise. -/
theorem exists_transaction_of_unless (c' : C) {p : Prop} [Decidable p]
    {x : StateM (σ × List (Exchange α)) C}
    (hx : x = if p then pure c else Container.relayout h.transcribed c')
    (hmakes : e.Makes (widget C) (Predictable.items c) (Predictable.items c'))
    (hasks : ∀ vs, Protocol c' vs → e.Asks c' vs)
    (hsame : p → Predictable.items c' = Predictable.items c)
    (htells : e.Tells (widget C) (Predictable.items c) (.done : Answer α)) (s : σ) :
    ∃ t : Transaction α ι, t.Records e c (tellDone x (s, [])) := by
  rw [hx]
  split
  · next hp => exact exists_transaction_of_quiet .done c (hsame hp ▸ hmakes) htells s
  · exact exists_transaction_of_relayout .done c' hmakes hasks htells h s

/-- A change of the setting, which leaves the items alone. -/
theorem exists_transaction_of_setting (c' : C) {p : Prop} [Decidable p]
    {x : StateM (σ × List (Exchange α)) C}
    (hx : x = if p then pure c else Container.relayout h.transcribed c')
    (hitems : Predictable.items c' = Predictable.items c) (s : σ) :
    ∃ t : Transaction α ι, t.Records .keep c (tellDone x (s, [])) :=
  exists_transaction_of_unless (e := .keep) c' hx hitems (fun _ hvs => hvs) (fun _ => hitems) rfl s

theorem exists_transaction_of_clear (c' : C) {x : StateM (σ × List (Exchange α)) C}
    (hx : x = if (Predictable.items c).isEmpty then pure c else Container.relayout h.transcribed c')
    (hitems : Predictable.items c' = (Predictable.items c).clear) (s : σ) :
    ∃ t : Transaction α ι, t.Records .clear c (tellDone x (s, [])) :=
  exists_transaction_of_unless (e := .clear) c' hx hitems (fun _ hvs => hvs)
    (fun hempty => hitems.trans (Registry.clear_of_isEmpty hempty)) rfl s

/-- A removal, which is left out if the target means nothing. -/
theorem exists_transaction_of_removal (t : Target) (c' : C) {x : StateM (σ × List (Exchange α)) (Nat × C)}
    (hx : x =
      let n := (Predictable.items c).size - ((Predictable.items c).erase (t.means (widget C))).size
      if n = 0 then pure (0, c) else (fun c₁ => (n, c₁)) <$> Container.relayout h.transcribed c')
    (hitems : Predictable.items c' = (Predictable.items c).erase (t.means (widget C))) (s : σ) :
    ∃ u : Transaction α ι, u.Records (.remove t) c (tell .removed x (s, [])) := by
  have htells : (Edit.remove t).Tells (widget C) (Predictable.items c) (.removed
      ((Predictable.items c).size - ((Predictable.items c).erase (t.means (widget C))).size) :
        Answer α) :=
    congrArg Answer.removed (Registry.size_sub_size_erase _ _)
  rw [hx]
  dsimp only
  split
  · next hnone =>
    -- The items are the same as without those that the target means, for there are as many of them.
    rw [hnone] at htells
    exact exists_transaction_of_quiet (e := .remove t) _ c (Registry.erase_of_size_sub hnone).symm htells s
  · exact exists_transaction_of_relayout (e := .remove t) _ c' hitems (fun _ hvs => hvs) htells h s

theorem exists_transaction_of_resize (h : Host α σ) (size : Size α) (c : C) (s : σ) :
    ∃ t : Transaction α ι, t.Records .keep c (tellDone (Container.resize h.transcribed size c) (s, [])) := by
  rw [Passing.resize_eq]
  split
  · exact exists_transaction_of_quiet (e := .keep) .done _ (items_unmoved size c) rfl s
  · exact exists_transaction_of_relayout (e := .keep) .done _ (items_takes size c) (fun _ hvs => hvs)
      rfl h s

/-- Operations that all containers have leave the items alone before they lay out. -/
theorem exists_transaction (h : Host α σ) (o : Operation α O)
    (hown : ∀ q (c : C) s,
      ∃ t : Transaction α ι, t.Records (edit C q) c (Operable.perform h.transcribed q c (s, [])))
    (c : C) (s : σ) :
    ∃ t : Transaction α ι, t.Records (o.edit C) c (o.perform h.transcribed c (s, [])) := by
  cases o with
  | resize size => exact exists_transaction_of_resize h size c s
  | relayout => exact exists_transaction_of_relayout (e := .keep) .done c rfl (fun _ hvs => hvs) rfl h s
  | settle =>
    change ∃ t : Transaction α ι, t.Records .keep c (tellDone (Container.settle h.transcribed c) (s, []))
    rw [Container.settle]
    split
    · exact exists_transaction_of_relayout (e := .keep) .done c rfl (fun _ hvs => hvs) rfl h s
    · exact exists_transaction_of_quiet (e := .keep) .done c rfl rfl s
  | own o => exact hown o c s

end Stocked

end

theorem aboutWidgets_visits {vs : List (Visit α ι)} (hvs : ∀ v ∈ vs, v.exchange.call.widget?.isSome) :
    aboutWidgets (vs.map Visit.exchange) = vs.map Visit.exchange := by
  rw [aboutWidgets, List.filter_eq_self]
  intro e he
  obtain ⟨v, hv, rfl⟩ := List.mem_map.mp he
  exact hvs v hv

variable [Scalar α]

namespace FlexBox

theorem pass_asks (h : Host α σ) (c : FlexBox α) (s : σ) : ∃ vs,
    let x := c.pass h.transcribed (s, [])
    (∃ measured placed, vs = measured ++ placed ∧ c.Protocol measured placed) ∧
      x.1.items = c.items.spared vs ∧
      aboutWidgets x.2.2 = vs.map Visit.exchange := by
  obtain ⟨ms, ps, s', hms, hps, hpass⟩ := c.pass_visits h s []
  have hprotocol := protocol_visits hms hps
  refine ⟨visits ms ps, ⟨_, _, rfl, hprotocol⟩, ?_⟩
  rw [hpass]
  refine ⟨rfl, aboutWidgets_visits fun v hv => ?_⟩
  rcases List.mem_append.mp hv with hv | hv
  · obtain ⟨a, ha⟩ := hprotocol.measures v hv
    rw [ha]
    rfl
  · obtain ⟨frame, a, ha⟩ := hprotocol.places v hv
    rw [ha]
    rfl

def edit : FlexOperation α → Edit (Item α)
  | .add item => .add item
  | .remove t => .remove t
  | .clear => .clear
  | .update id f => .update id f
  | .item _ | .setDirection _ | .setAlign _ | .setJustify _ | .setGap _ => .keep

instance : Stocked (FlexBox α) (Item α) α (FlexOperation α) where
  widget := Item.widget
  edit := edit
  Protocol c vs := ∃ measured placed, vs = measured ++ placed ∧ c.Protocol measured placed
  pass_asks := pass_asks

theorem exists_transaction_of_update (h : Host α σ) (c : FlexBox α) (id : ItemId) (f : Item α → Item α)
    (s : σ) : ∃ t : Transaction α (Item α), t.Records (.update id f) c
      (tell .found (c.update h.transcribed id f) (s, [])) := by
  rw [update]
  cases hitem : c.items.get? id with
  | none => exact Stocked.exists_transaction_of_quiet (e := .update id f) (.found false) c (.inl rfl) rfl s
  | some item =>
    dsimp only
    split
    · exact Stocked.exists_transaction_of_quiet (e := .update id f) (.found true) c (.inl rfl) rfl s
    · exact Stocked.exists_transaction_of_relayout (c := c) (e := .update id f) (.found true)
        { c with items := c.items.modify (·.id == id) fun _ => f item, dirty := true }
        (.inr (Registry.modify_const hitem f)) (fun _ hvs => hvs) rfl h s

theorem exists_transaction (h : Host α σ) (o : FlexOperation α) (c : FlexBox α) (s : σ) :
    ∃ t : Transaction α (Item α), t.Records (edit o) c (c.perform h.transcribed o (s, [])) := by
  cases o with
  | add item =>
    exact Stocked.exists_transaction_of_relayout (c := c) (e := .add item) (.added c.items.nextId)
      { c with items := c.items.add item, dirty := true } rfl (fun _ hvs => hvs) rfl h s
  | remove t =>
    exact Stocked.exists_transaction_of_removal (c := c) t
      { c with items := c.items.erase (t.means Item.widget), dirty := true } rfl rfl s
  | clear =>
    exact Stocked.exists_transaction_of_clear (c := c) { c with items := c.items.clear, dirty := true }
      (x := c.clear h.transcribed) rfl rfl s
  | item id =>
    exact Stocked.exists_transaction_of_quiet (c := c) (e := .keep) (.item (c.items.get? id)) c rfl
      rfl s
  | update id f => exact exists_transaction_of_update h c id f s
  | setDirection d =>
    exact Stocked.exists_transaction_of_setting (c := c) _ (x := c.setDirection h.transcribed d) rfl rfl s
  | setAlign a =>
    exact Stocked.exists_transaction_of_setting (c := c) _ (x := c.setAlign h.transcribed a) rfl rfl s
  | setJustify j =>
    exact Stocked.exists_transaction_of_setting (c := c) _ (x := c.setJustify h.transcribed j) rfl rfl s
  | setGap gap =>
    exact Stocked.exists_transaction_of_setting (c := c) _ (x := c.setGap h.transcribed gap) rfl rfl s

end FlexBox

namespace Grid

omit [Scalar α] in
theorem pass_asks (h : Host α σ) (g : Grid α) (s : σ) : ∃ vs,
    let x := g.pass h.transcribed (s, [])
    g.Protocol vs ∧ x.1.items = g.items.spared vs ∧
      aboutWidgets x.2.2 = vs.map Visit.exchange := by
  obtain ⟨xs, s', hxs, hpass⟩ := g.pass_visits h s []
  have hprotocol := protocol_visits hxs
  refine ⟨g.visits xs, hprotocol, ?_⟩
  rw [hpass]
  -- The tracks are handed over first, which is about no widget.
  refine ⟨rfl, aboutWidgets_visits fun v hv => ?_⟩
  obtain ⟨cell, a, ha⟩ := hprotocol.places v hv
  rw [ha]
  rfl

def edit : GridOperation α → Edit (Item α)
  | .add item => .add item
  | .remove t => .remove t
  | .clear => .clear
  | .item _ | .setWidth _ | .setGap _ | .spanOf _ | .describe => .keep

instance : Stocked (Grid α) (Item α) α (GridOperation α) where
  widget := Item.widget
  edit := edit
  Protocol := Protocol
  pass_asks := pass_asks

theorem exists_transaction (h : Host α σ) (o : GridOperation α) (g : Grid α) (s : σ) :
    ∃ t : Transaction α (Item α), t.Records (edit o) g (g.perform h.transcribed o (s, [])) := by
  cases o with
  | add item =>
    exact Stocked.exists_transaction_of_relayout (c := g) (e := .add item) (.added g.items.nextId)
      { g with items := g.items.add item, dirty := true } rfl (fun _ hvs => hvs) rfl h s
  | remove t =>
    exact Stocked.exists_transaction_of_removal (c := g) t
      { g with items := g.items.erase (t.means Item.widget), dirty := true } rfl rfl s
  | clear =>
    exact Stocked.exists_transaction_of_clear (c := g) { g with items := g.items.clear, dirty := true }
      (x := g.clear h.transcribed) rfl rfl s
  | setWidth width => exact Stocked.exists_transaction_of_resize h ⟨width, 0⟩ g s
  | setGap gap =>
    exact Stocked.exists_transaction_of_setting (c := g) _ (x := g.setGap h.transcribed gap) rfl rfl s
  | item id =>
    exact Stocked.exists_transaction_of_quiet (c := g) (e := .keep) (.item (g.items.get? id)) g rfl rfl s
  | spanOf item =>
    exact Stocked.exists_transaction_of_quiet (c := g) (e := .keep) (.span (g.spanOf item)) g rfl rfl s
  | describe =>
    exact Stocked.exists_transaction_of_quiet (c := g) (e := .keep)
      (.grid g.columns g.tracks g.breakpoints) g rfl rfl s

end Grid

namespace LayerStack

theorem pass_asks (h : Host α σ) (c : LayerStack α) (s : σ) : ∃ vs,
    let x := c.pass h.transcribed (s, [])
    c.Protocol vs ∧ x.1.items = c.items.spared vs ∧
      aboutWidgets x.2.2 = vs.map Visit.exchange := by
  obtain ⟨xs, s', hxs, hpass⟩ := c.pass_visits h s []
  refine ⟨visits c.bounds xs, ⟨xs, hxs ▸ c.items.ordered_inOrder Layer.z, rfl⟩, ?_⟩
  rw [hpass]
  refine ⟨rfl, aboutWidgets_visits fun v hv => ?_⟩
  obtain ⟨⟨x, n⟩, -, hv⟩ := List.mem_flatMap.mp hv
  cases n with
  | unplaced e =>
    rw [List.mem_singleton.mp hv]
    rfl
  | placed raised => rcases List.mem_pair.mp hv with rfl | rfl <;> rfl

def edit : StackOperation → Edit Layer
  | .add w z => .add ⟨w, z⟩
  | .remove t => .remove t
  | .clear => .clear
  | .bringToFront t => .move t .raise
  | .sendToBack t => .move t .lower

instance : Stocked (LayerStack α) Layer α StackOperation where
  widget := Layer.widget
  edit := edit
  Protocol := Protocol
  pass_asks := pass_asks

/-- The call about an item that is moved, which has its new height by then. -/
def moving (z : Int32) (m : Restack) (s : Slot Layer) (a : Except HostError Unit) : Visit α Layer :=
  ⟨s.atHeight fun _ => z, .restack s.item.widget m, .carriedOut a⟩

section

variable {c : LayerStack α} {f : Slot Layer → Int32} {t : Target}
  {xs : List (Slot Layer × Except HostError Unit)}

omit [Scalar α] in
theorem filter_moving (z : Int32) (m : Restack) (xs : List (Slot Layer × Except HostError Unit)) :
    (((xs.map fun x => (moving z m x.1 x.2 : Visit α Layer)).filter Visit.refused).map fun v => v.slot.id) =
      (refused xs).map Slot.id := by
  rw [List.filter_map, refused]
  simp only [List.map_map]
  rfl

omit [Scalar α] in
theorem slots_moving (hxs : xs.map Prod.fst = (relevel c.items f).slots.filter (meant t)) (z : Int32)
    (m : Restack) :
    (xs.map fun x => (moving z m x.1 x.2 : Visit α Layer)).map Visit.slot =
      (relevel c.items fun s => if meant t s then z else f s).slots.filter (meant t) := by
  -- Other items have other heights, but these are all meant.
  have hheight : ∀ s ∈ c.items.slots.filter (meant t),
      s.atHeight (fun _ => z) = s.atHeight fun s => if meant t s then z else f s :=
    fun s hs => congrArg (fun z => { s with item := { s.item with z } })
      (if_pos (List.mem_filter.mp hs).2).symm
  calc
    (xs.map fun x => (moving z m x.1 x.2 : Visit α Layer)).map Visit.slot =
        (xs.map Prod.fst).map (Slot.atHeight fun _ => z) := by
      rw [List.map_map, List.map_map]
      rfl
    _ = (c.items.slots.filter (meant t)).map (Slot.atHeight fun _ => z) := by
      rw [hxs, filter_meant_relevel, List.map_map]
      rfl
    _ = (relevel c.items fun s => if meant t s then z else f s).slots.filter (meant t) := by
      rw [filter_meant_relevel]
      exact List.map_congr_left hheight

theorem asks_moving (hxs : xs.map Prod.fst = (relevel c.items f).slots.filter (meant t)) (z : Int32)
    (m : Restack) :
    (Edit.move t m).Asks
      ({ c with items := relevel c.items fun s => if meant t s then z else f s } : LayerStack α)
      (xs.map fun x => moving z m x.1 x.2) := by
  refine ⟨slots_moving hxs z m, fun v hv => ?_⟩
  obtain ⟨x, -, rfl⟩ := List.mem_map.mp hv
  exact ⟨x.2, rfl⟩

omit [Scalar α] in
theorem aboutWidgets_moving (z : Int32) (m : Restack) (xs : List (Slot Layer × Except HostError Unit)) :
    aboutWidgets ((xs.map fun x => (moving z m x.1 x.2 : Visit α Layer)).map Visit.exchange) =
      (xs.map fun x => moving z m x.1 x.2).map Visit.exchange := by
  refine aboutWidgets_visits fun v hv => ?_
  obtain ⟨x, -, rfl⟩ := List.mem_map.mp hv
  rfl

end

/-- A move gives the items that the target means their new height and asks the host about each of them, in
order of registration. -/
theorem exists_transaction_of_restack (h : Host α σ) (c : LayerStack α) (f : Slot Layer → Int32) (t : Target)
    (z : Int32) (m : Restack) (s : σ) : ∃ u : Transaction α Layer, u.Records (.move t m) c
      (tell .found
        (({ c with items := relevel c.items f } : LayerStack α).restack h.transcribed t z m) (s, [])) := by
  have hmakes (f : Slot Layer → Int32) : (Edit.move t m).Makes Layer.widget c.items (relevel c.items f) :=
    ⟨_, rfl, fun _ => rfl⟩
  rw [restack]
  dsimp only
  split
  · exact Stocked.exists_transaction_of_quiet (c := c) (e := .move t m) (.found false)
      { c with items := relevel c.items f } (hmakes f) rfl s
  · -- The heights are set before the host is asked, so the calls are about items at the new height.
    have hmove (b : Slot Layer) (s : σ) (log : List (Exchange α)) :
        ∃ a s', h.transcribed.restack b.item.widget m (s, log) =
          (id a, s', log ++ [(moving z m b a).exchange]) := ⟨_, _, rfl⟩
    obtain ⟨xs, s', hxs, hmoved⟩ :=
      attempt_noting hmove ((relevel c.items f).slots.filter (meant t)) s []
    rw [Prod.map_id, List.map_id, flatMap_visits] at hmoved
    refine ⟨⟨.move t m, .found true, c.items, xs.map fun x => moving z m x.1 x.2, _⟩, rfl, rfl, rfl, rfl, rfl,
      ?_, _, hmakes _, .inr (asks_moving hxs z m), ?_⟩
    · change aboutWidgets (attempt _ _ (s, [])).2.2 = _
      rw [hmoved]
      exact aboutWidgets_moving z m xs
    · change ((relevel c.items f).modify (meant t) fun layer => { layer with z }).eraseIds
        ((attempt _ _ (s, [])).1.2.map Slot.id) = Registry.spared _ _
      rw [hmoved, modify_relevel, ← Registry.eraseIds_refused, filter_moving]
      rfl

theorem exists_transaction_of_move (h : Host α σ) (c : LayerStack α) (t : Target) (m : Restack) (s : σ) :
    ∃ u : Transaction α Layer, u.Records (.move t m) c (tell .found (c.move h.transcribed t m) (s, [])) := by
  rw [move_eq]
  exact exists_transaction_of_restack h c _ t _ m s

theorem exists_transaction (h : Host α σ) (o : StackOperation) (c : LayerStack α) (s : σ) :
    ∃ t : Transaction α Layer, t.Records (edit o) c (c.perform h.transcribed o (s, [])) := by
  cases o with
  | add w z =>
    exact Stocked.exists_transaction_of_relayout (c := c) (e := .add (Layer.mk w z)) (.added c.items.nextId)
      { c with items := c.items.add ⟨w, z⟩, dirty := true } rfl (fun _ hvs => hvs) rfl h s
  | remove t =>
    exact Stocked.exists_transaction_of_removal (c := c) t
      { c with items := c.items.erase (meant t), dirty := true } rfl rfl s
  | clear =>
    exact Stocked.exists_transaction_of_clear (c := c) { c with items := c.items.clear, dirty := true }
      (x := c.clear h.transcribed) rfl rfl s
  | bringToFront t => exact exists_transaction_of_move h c t .raise s
  | sendToBack t => exact exists_transaction_of_move h c t .lower s

end LayerStack

end ResponsiveLayout
