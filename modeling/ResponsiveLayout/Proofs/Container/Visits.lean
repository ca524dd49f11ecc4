import ResponsiveLayout.Proofs.Flex.Frames
import ResponsiveLayout.Proofs.Grid.Packing

/-! The calls of a pass, whatever the host answers, and what they leave of the items. Each container has
its own protocol; in all three an item goes exactly if one of the calls about it was refused. -/
namespace ResponsiveLayout

variable {α σ ι : Type}

/-- A call about a registered item, with what the host said. -/
structure Visit (α ι : Type) where
  slot : Slot ι
  exchange : Exchange α

namespace Visit

def refused (v : Visit α ι) : Bool := v.exchange.refused

def isPlacement (v : Visit α ι) : Bool := v.exchange.placement?.isSome

end Visit

namespace Registry

/-- What some calls leave of the items: an item goes if a call about it was refused. Two items that
show one widget are two items. -/
def spared (r : Registry ι) (vs : List (Visit α ι)) : Registry ι :=
  r.erase fun s => vs.any fun v => v.slot.id == s.id && v.refused

theorem eraseIds_refused (r : Registry ι) (vs : List (Visit α ι)) :
    r.eraseIds ((vs.filter Visit.refused).map fun v => v.slot.id) = r.spared vs := by
  apply eraseIds_eq_erase
  intro s _
  simp only [List.mem_map, List.mem_filter, List.any_eq_true, Bool.and_eq_true, beq_iff_eq]
  constructor
  · rintro ⟨v, ⟨hv, hrefused⟩, hid⟩
    exact ⟨v, hv, hid, hrefused⟩
  · rintro ⟨v, hv, hid, hrefused⟩
    exact ⟨v, ⟨hv, hrefused⟩, hid⟩

end Registry

theorem flatMap_visits {β ν : Type} (visit : β → ν → Visit α ι) (xs : List (β × ν)) :
    (xs.flatMap fun x => [(visit x.1 x.2).exchange]) =
      (xs.map fun x => visit x.1 x.2).map Visit.exchange := by
  rw [← List.map_eq_flatMap, List.map_map]
  rfl

namespace FlexBox

def measuring (s : Slot (Item α)) (a : Except HostError (Size α)) : Visit α (Item α) :=
  ⟨s, .measure s.item.widget, .measured a⟩

def placing (f : Slot (Item α) × Rect α) (a : Except HostError Unit) : Visit α (Item α) :=
  ⟨f.1, .place f.1.item.widget (.frame f.2), .carriedOut a⟩

def visits (ms : List (Slot (Item α) × Except HostError (Size α)))
    (ps : List ((Slot (Item α) × Rect α) × Except HostError Unit)) : List (Visit α (Item α)) :=
  (ms.map fun m => measuring m.1 m.2) ++ ps.map fun p => placing p.1 p.2

theorem filter_visits (ms : List (Slot (Item α) × Except HostError (Size α)))
    (ps : List ((Slot (Item α) × Rect α) × Except HostError Unit)) :
    (((visits ms ps).filter Visit.refused).map fun v => v.slot.id) =
      (refused ms).map Slot.id ++ (refused ps).map fun f => f.1.id := by
  rw [visits, List.filter_append, List.map_append, List.filter_map, List.filter_map, refused, refused]
  simp only [List.map_map]
  rfl

theorem any_isPlacement_visits (ms : List (Slot (Item α) × Except HostError (Size α)))
    (ps : List ((Slot (Item α) × Rect α) × Except HostError Unit)) :
    (visits ms ps).any Visit.isPlacement = !ps.isEmpty := by
  rw [visits, List.any_append, List.any_map, List.any_map]
  have hmeasuring : ms.any (Visit.isPlacement ∘ fun m => measuring m.1 m.2) = false :=
    List.any_eq_false.mpr fun _ _ => Bool.false_ne_true
  rw [hmeasuring, Bool.false_or]
  cases ps <;> rfl

theorem measure_visits (h : Host α σ) (c : FlexBox α) (s : σ) (log : List (Exchange α)) :
    ∃ ms s₁, ms.map Prod.fst = c.items.inOrder Item.order ∧
      attempt (fun b => h.transcribed.measure b.item.widget) (c.items.inOrder Item.order) (s, log) =
        ((answered ms, refused ms), s₁,
          log ++ (ms.map fun m => measuring m.1 m.2).map Visit.exchange) := by
  have hmeasure (b : Slot (Item α)) (s : σ) (log : List (Exchange α)) :
      ∃ a s', h.transcribed.measure b.item.widget (s, log) =
        (id a, s', log ++ [(measuring b a).exchange]) := ⟨_, _, rfl⟩
  obtain ⟨ms, s₁, hms, hmeasured⟩ := attempt_noting hmeasure (c.items.inOrder Item.order) s log
  rw [Prod.map_id, List.map_id, flatMap_visits] at hmeasured
  exact ⟨ms, s₁, hms, hmeasured⟩

/-- The second phase of a pass is about the items that were measured in the first one, and its calls are
written down behind those of the first. -/
theorem pass_of_measured [Scalar α] (h : Host α σ) (c : FlexBox α) {s s₁ : σ}
    {log : List (Exchange α)} {ms : List (Slot (Item α) × Except HostError (Size α))}
    (hmeasured : attempt (fun b => h.transcribed.measure b.item.widget) (c.items.inOrder Item.order)
        (s, log) = ((answered ms, refused ms), s₁,
          log ++ (ms.map fun m => measuring m.1 m.2).map Visit.exchange)) :
    ∃ ps s', ps.map Prod.fst = c.frames (answered ms) ∧
      c.pass h.transcribed (s, log) =
        ({ c with
            items := c.items.spared (visits ms ps)
            dirty := false
            passes := if (visits ms ps).any Visit.isPlacement then c.passes + 1 else c.passes }, s',
          log ++ (visits ms ps).map Visit.exchange) := by
  have hplace (f : Slot (Item α) × Rect α) (s : σ) (log : List (Exchange α)) :
      ∃ a s', h.transcribed.place f.1.item.widget (.frame f.2) (s, log) =
        (id a, s', log ++ [(placing f a).exchange]) := ⟨_, _, rfl⟩
  obtain ⟨ps, s', hps, hplaced⟩ := attempt_noting hplace (c.frames (answered ms)) s₁
    (log ++ (ms.map fun m => measuring m.1 m.2).map Visit.exchange)
  rw [Prod.map_id, List.map_id, flatMap_visits] at hplaced
  -- The pass is counted if anything was measured, and then something is placed.
  have hempty : ps.isEmpty = (answered ms).isEmpty := by
    have hframes := congrArg List.isEmpty (c.frames_fst (answered ms))
    rwa [← hps, List.isEmpty_map, List.isEmpty_map, List.isEmpty_map] at hframes
  refine ⟨ps, s', hps, ?_⟩
  rw [pass_eq, hmeasured]
  dsimp only
  rw [hplaced, any_isPlacement_visits, ← Registry.eraseIds_refused, filter_visits]
  dsimp only
  rw [hempty, visits, List.map_append, List.append_assoc]
  cases (answered ms).isEmpty <;> rfl

theorem pass_visits [Scalar α] (h : Host α σ) (c : FlexBox α) (s : σ) (log : List (Exchange α)) :
    ∃ ms ps s', ms.map Prod.fst = c.items.inOrder Item.order ∧
      ps.map Prod.fst = c.frames (answered ms) ∧
      c.pass h.transcribed (s, log) =
        ({ c with
            items := c.items.spared (visits ms ps)
            dirty := false
            passes := if (visits ms ps).any Visit.isPlacement then c.passes + 1 else c.passes }, s',
          log ++ (visits ms ps).map Visit.exchange) := by
  obtain ⟨ms, s₁, hms, hmeasured⟩ := measure_visits h c s log
  obtain ⟨ps, s', hps, hpass⟩ := pass_of_measured h c hmeasured
  exact ⟨ms, ps, s', hms, hps, hpass⟩

/-- The protocol of a row or column: every item is measured, in order, and then every item that could
be measured is placed in a frame. -/
structure Protocol (c : FlexBox α) (measured placed : List (Visit α (Item α))) : Prop where
  ordered : c.items.Ordered Item.order (measured.map Visit.slot)
  measures : ∀ v ∈ measured, ∃ a, v.exchange = ⟨.measure v.slot.item.widget, .measured a⟩
  follows : placed.map Visit.slot = (measured.filter fun v => !v.refused).map Visit.slot
  places : ∀ v ∈ placed, ∃ frame a,
    v.exchange = ⟨.place v.slot.item.widget (.frame frame), .carriedOut a⟩

theorem protocol_visits [Scalar α] {c : FlexBox α}
    {ms : List (Slot (Item α) × Except HostError (Size α))}
    {ps : List ((Slot (Item α) × Rect α) × Except HostError Unit)}
    (hms : ms.map Prod.fst = c.items.inOrder Item.order)
    (hps : ps.map Prod.fst = c.frames (answered ms)) :
    c.Protocol (ms.map fun m => measuring m.1 m.2) (ps.map fun p => placing p.1 p.2) where
  ordered := by
    rw [List.map_map]
    change c.items.Ordered Item.order (ms.map Prod.fst)
    rw [hms]
    exact c.items.ordered_inOrder Item.order
  measures v hv := by
    obtain ⟨m, -, rfl⟩ := List.mem_map.mp hv
    exact ⟨m.2, rfl⟩
  follows := by
    -- Every item that was measured has a frame, and every frame is placed.
    have hunrefused : (fun m : Slot (Item α) × Except HostError (Size α) =>
        !(measuring m.1 m.2).refused) = fun m => m.2.isOk :=
      funext fun _ => Bool.not_not _
    calc
      (ps.map fun p => placing p.1 p.2).map Visit.slot = (ps.map Prod.fst).map Prod.fst := by
        rw [List.map_map, List.map_map]
        rfl
      _ = (answered ms).map Prod.fst := by rw [hps, c.frames_fst]
      _ = (ms.filter fun m => m.2.isOk).map Prod.fst := answered_fst ms
      _ = ((ms.map fun m => measuring m.1 m.2).filter fun v => !v.refused).map Visit.slot := by
        rw [List.filter_map, List.map_map, ← hunrefused]
        rfl
  places v hv := by
    obtain ⟨p, -, rfl⟩ := List.mem_map.mp hv
    exact ⟨p.1.2, p.2, rfl⟩

end FlexBox

namespace Grid

def visiting (t : Trial α) : Visit α (Item α) := ⟨t.slot, t.exchange⟩

def visits (g : Grid α) (xs : List (Slot (Item α) × Except HostError Unit)) :
    List (Visit α (Item α)) :=
  (g.trials ⟨0, 0⟩ xs).map visiting

/-- The protocol of a grid: every item is placed in a cell, in order. -/
structure Protocol (g : Grid α) (vs : List (Visit α (Item α))) : Prop where
  ordered : g.items.Ordered Item.order (vs.map Visit.slot)
  places : ∀ v ∈ vs, ∃ cell a,
    v.exchange = ⟨.place v.slot.item.widget (.cell cell), .carriedOut a⟩

theorem protocol_visits {g : Grid α} {xs : List (Slot (Item α) × Except HostError Unit)}
    (hxs : xs.map Prod.fst = g.items.inOrder Item.order) : g.Protocol (g.visits xs) where
  ordered := by
    rw [visits, List.map_map]
    change g.items.Ordered Item.order ((g.trials ⟨0, 0⟩ xs).map Trial.slot)
    rw [trials_slot, hxs]
    exact g.items.ordered_inOrder Item.order
  places v hv := by
    obtain ⟨t, -, rfl⟩ := List.mem_map.mp hv
    exact ⟨t.cell, t.answer, rfl⟩

theorem any_isPlacement_visits (g : Grid α) {xs : List (Slot (Item α) × Except HostError Unit)}
    (hxs : xs.map Prod.fst ≠ []) : (g.visits xs).any Visit.isPlacement = true := by
  cases xs with
  | nil => exact absurd rfl hxs
  | cons x xs => rfl

theorem trials_answer (g : Grid α) (c : Cursor) (xs : List (Slot (Item α) × Except HostError Unit)) :
    ((g.trials c xs).map fun t => (t.slot, t.answer)) = xs := by
  induction xs generalizing c with
  | nil => rfl
  | cons x xs ih => exact congrArg (x :: ·) (ih _)

theorem filter_visits (g : Grid α) (xs : List (Slot (Item α) × Except HostError Unit)) :
    (((g.visits xs).filter Visit.refused).map fun v => v.slot.id) = (refused xs).map Slot.id := by
  rw [← trials_answer g ⟨0, 0⟩ xs, refused, List.filter_map, visits, List.filter_map]
  simp only [List.map_map, trials_answer]
  rfl

theorem pass_visits (h : Host α σ) (g : Grid α) (s : σ) (log : List (Exchange α)) :
    ∃ xs s', xs.map Prod.fst = g.items.inOrder Item.order ∧
      g.pass h.transcribed (s, log) =
        ({ g with
            items := g.items.spared (g.visits xs)
            dirty := false
            passes := g.passes + 1 }, s',
          log ++ ⟨.configureGrid g.tracks, .carriedOut (.ok ())⟩ ::
            (g.visits xs).map Visit.exchange) := by
  obtain ⟨s₁, hconfigured⟩ : ∃ s₁, h.transcribed.configureGrid g.tracks (s, log) =
      ((), s₁, log ++ [⟨.configureGrid g.tracks, .carriedOut (.ok ())⟩]) := ⟨_, rfl⟩
  obtain ⟨xs, s', hxs, hpacked⟩ := packFrom_trials h g ⟨0, 0⟩ (g.items.inOrder Item.order) s₁
    (log ++ [⟨.configureGrid g.tracks, .carriedOut (.ok ())⟩])
  refine ⟨xs, s', hxs, ?_⟩
  rw [pass_eq, hconfigured]
  dsimp only
  rw [hpacked, ← Registry.eraseIds_refused, filter_visits, visits, List.map_map,
    List.append_assoc, List.singleton_append]
  rfl

theorem pass_trials (h : Host α σ) (g : Grid α) (s : σ) (log : List (Exchange α)) :
    ∃ xs, xs.map Prod.fst = g.items.inOrder Item.order ∧
      (g.pass h.transcribed (s, log)).2.2 =
        log ++ ⟨.configureGrid g.tracks, .carriedOut (.ok ())⟩ ::
          (g.trials ⟨0, 0⟩ xs).map Trial.exchange := by
  obtain ⟨xs, s', hxs, hpass⟩ := pass_visits h g s log
  refine ⟨xs, hxs, ?_⟩
  rw [hpass, visits, List.map_map]
  rfl

end Grid

namespace LayerStack

/-- How the showing of a layer goes: the host does not place it, or places it and is then asked to
raise it. -/
inductive Showing where
  | unplaced (e : HostError)
  | placed (raised : Except HostError Unit)

namespace Showing

def answer : Showing → Except HostError Unit
  | unplaced e => .error e
  | placed raised => raised

def visits (frame : Rect α) (s : Slot Layer) : Showing → List (Visit α Layer)
  | unplaced e => [⟨s, .place s.item.widget (.frame frame), .carriedOut (.error e)⟩]
  | placed raised =>
    [⟨s, .place s.item.widget (.frame frame), .carriedOut (.ok ())⟩,
      ⟨s, .restack s.item.widget .raise, .carriedOut raised⟩]

end Showing

def visits (frame : Rect α) (xs : List (Slot Layer × Showing)) : List (Visit α Layer) :=
  xs.flatMap fun x => x.2.visits frame x.1

theorem filter_visits (frame : Rect α) (xs : List (Slot Layer × Showing)) :
    (((visits frame xs).filter Visit.refused).map fun v => v.slot.id) =
      (refused (xs.map (Prod.map id Showing.answer))).map Slot.id := by
  induction xs with
  | nil => rfl
  | cons x xs ih =>
    obtain ⟨s, n⟩ := x
    rw [visits, List.flatMap_cons, List.filter_append, List.map_append, ← visits, ih]
    cases n with
    | unplaced e => rfl
    | placed raised => cases raised <;> rfl

/-- The protocol of a stack: every layer is shown in the bounds of the stack, from bottom to top. -/
def Protocol [Scalar α] (c : LayerStack α) (vs : List (Visit α Layer)) : Prop :=
  ∃ xs : List (Slot Layer × Showing),
    c.items.Ordered Layer.z (xs.map Prod.fst) ∧ vs = visits c.bounds xs

theorem any_isPlacement_visits (frame : Rect α) {xs : List (Slot Layer × Showing)}
    (hxs : xs.map Prod.fst ≠ []) : (visits frame xs).any Visit.isPlacement = true := by
  rcases xs with - | ⟨⟨s, n⟩, xs⟩
  · exact absurd rfl hxs
  · cases n <;> rfl

theorem showLayer_visits [Scalar α] (h : Host α σ) (c : LayerStack α) (x : Slot Layer) (s : σ)
    (log : List (Exchange α)) :
    ∃ n s', showLayer h.transcribed c x (s, log) =
      (Showing.answer n, s', log ++ (n.visits c.bounds x).map Visit.exchange) := by
  let p : Placement α := .frame c.bounds
  obtain ⟨a, s₁, hplace⟩ : ∃ a s₁, h.transcribed.place x.item.widget p (s, log) =
      (a, s₁, log ++ [⟨.place x.item.widget p, .carriedOut a⟩]) := ⟨_, _, rfl⟩
  rw [showLayer, bind_apply, hplace]
  cases a with
  | error e => exact ⟨.unplaced e, s₁, rfl⟩
  | ok u =>
    obtain ⟨raised, s', hraise⟩ : ∃ raised s', h.restack x.item.widget .raise s₁ = (raised, s') :=
      ⟨_, _, rfl⟩
    refine ⟨.placed raised, s', ?_⟩
    change writing _ _ (h.restack x.item.widget .raise) (s₁, _) = _
    rw [writing, hraise]
    dsimp only
    rw [List.append_assoc]
    rfl

theorem pass_visits [Scalar α] (h : Host α σ) (c : LayerStack α) (s : σ) (log : List (Exchange α)) :
    ∃ xs s', xs.map Prod.fst = c.items.inOrder Layer.z ∧
      c.pass h.transcribed (s, log) =
        ({ c with
            items := c.items.spared (visits c.bounds xs)
            dirty := false
            passes := c.passes + 1 }, s', log ++ (visits c.bounds xs).map Visit.exchange) := by
  obtain ⟨xs, s', hxs, hshown⟩ := attempt_noting (showLayer_visits h c) (c.items.inOrder Layer.z) s log
  refine ⟨xs, s', hxs, ?_⟩
  rw [← Registry.eraseIds_refused, filter_visits, visits, List.map_flatMap]
  have hpass : c.pass h.transcribed (s, log) =
      let x := attempt (showLayer h.transcribed c) (c.items.inOrder Layer.z) (s, log)
      ({ c with items := c.items.eraseIds (x.1.2.map Slot.id), dirty := false, passes := c.passes + 1 },
        x.2) := rfl
  rw [hpass, hshown]

end LayerStack

section

variable [Scalar α]

/-- A relayout of a row or column by the protocol. The items about which a call was refused are dropped,
the pass counts if it asked for a placement, and nothing else changes. -/
def FlexBox.LaysOut (h : Host α σ) (s : σ) (log : List (Exchange α)) (c : FlexBox α) : Prop :=
  ∃ measured placed s', c.Protocol measured placed ∧
    let vs := measured ++ placed
    c.relayout h.transcribed (s, log) =
      ({ c with
          items := c.items.spared vs
          dirty := false
          passes := if vs.any Visit.isPlacement then c.passes + 1 else c.passes }, s',
        log ++ vs.map Visit.exchange)

/-- A relayout of a grid by the protocol, after the tracks have been handed over. -/
def Grid.LaysOut (h : Host α σ) (s : σ) (log : List (Exchange α)) (g : Grid α) : Prop :=
  ∃ vs s', g.Protocol vs ∧
    g.relayout h.transcribed (s, log) =
      ({ g with
          items := g.items.spared vs
          dirty := false
          passes := if vs.any Visit.isPlacement then g.passes + 1 else g.passes }, s',
        log ++ ⟨.configureGrid g.tracks, .carriedOut (.ok ())⟩ :: vs.map Visit.exchange)

def LayerStack.LaysOut (h : Host α σ) (s : σ) (log : List (Exchange α)) (c : LayerStack α) : Prop :=
  ∃ vs s', c.Protocol vs ∧
    c.relayout h.transcribed (s, log) =
      ({ c with
          items := c.items.spared vs
          dirty := false
          passes := if vs.any Visit.isPlacement then c.passes + 1 else c.passes }, s',
        log ++ vs.map Visit.exchange)

/-- Whenever a pass is not skipped, it makes the calls of the protocol and drops exactly the items about
which a call was refused, whatever the host answers and whatever it has been asked before. -/
theorem relayout_laysOut (h : Host α σ) (s : σ) (log : List (Exchange α)) :
    (∀ c : FlexBox α, c.isReady = true → c.LaysOut h s log) ∧
      (∀ g : Grid α, g.isReady = true → g.LaysOut h s log) ∧
      ∀ c : LayerStack α, c.isReady = true → c.LaysOut h s log := by
  refine ⟨fun c hready => ?_, fun g hready => ?_, fun c hready => ?_⟩
  · obtain ⟨ms, ps, s', hms, hps, hpass⟩ := c.pass_visits h s log
    refine ⟨_, _, s', FlexBox.protocol_visits hms hps, ?_⟩
    rw [FlexBox.relayout_eq, if_pos hready]
    exact hpass
  · obtain ⟨xs, s', hxs, hpass⟩ := g.pass_visits h s log
    have hsome : xs.map Prod.fst ≠ [] := hxs ▸ Registry.inOrder_ne_nil_of_ready hready
    refine ⟨g.visits xs, s', Grid.protocol_visits hxs, ?_⟩
    rw [Grid.relayout_eq, if_pos hready, g.any_isPlacement_visits hsome, if_pos rfl]
    exact hpass
  · obtain ⟨xs, s', hxs, hpass⟩ := c.pass_visits h s log
    have hordered : c.items.Ordered Layer.z (xs.map Prod.fst) :=
      hxs ▸ c.items.ordered_inOrder Layer.z
    have hsome : xs.map Prod.fst ≠ [] := hxs ▸ Registry.inOrder_ne_nil_of_ready hready
    refine ⟨LayerStack.visits c.bounds xs, s', ⟨xs, hordered, rfl⟩, ?_⟩
    rw [LayerStack.relayout_eq, if_pos hready, LayerStack.any_isPlacement_visits c.bounds hsome,
      if_pos rfl]
    exact hpass

end

def FlexBox.trio : FlexBox Float32 :=
  { FlexBox.new (.row : FlexConfig Float32) with
    items := (((.empty : Registry (Item Float32)).add (.ofWidget ⟨1⟩)).add (.ofWidget ⟨2⟩)).add
      (.ofWidget ⟨1⟩)
    size := ⟨100, 20⟩ }

def LayerStack.trio : LayerStack Float32 :=
  { (LayerStack.new : LayerStack Float32) with
    items := ((Registry.empty.add ⟨⟨1⟩, 0⟩).add ⟨⟨2⟩, -1⟩).add ⟨⟨1⟩, 0⟩
    size := ⟨100, 20⟩ }

/-- One container of each kind, on a recorder that refuses the second widget. -/
theorem relayout_laysOut_destroyed :
    let r := (Recorder.empty : Recorder Float32).destroy ⟨2⟩
    (FlexBox.trio.isReady = true ∧ FlexBox.trio.LaysOut Recorder.host r []) ∧
      (Grid.threefold.isReady = true ∧ Grid.threefold.LaysOut Recorder.host r []) ∧
      LayerStack.trio.isReady = true ∧ LayerStack.trio.LaysOut Recorder.host r [] :=
  let r := (Recorder.empty : Recorder Float32).destroy ⟨2⟩
  have hflex : FlexBox.trio.isReady = true := by decide +kernel
  have hgrid : Grid.threefold.isReady = true := by decide +kernel
  have hstack : LayerStack.trio.isReady = true := by decide +kernel
  ⟨⟨hflex, (relayout_laysOut Recorder.host r []).1 _ hflex⟩,
    ⟨hgrid, (relayout_laysOut Recorder.host r []).2.1 _ hgrid⟩,
    hstack, (relayout_laysOut Recorder.host r []).2.2 _ hstack⟩

end ResponsiveLayout
