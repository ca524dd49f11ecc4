import ResponsiveLayout.Proofs.Container.Passing
import ResponsiveLayout.Proofs.Grid.Refusal

/-! A grid on a host that places everything is never stale. A change of width that does not change
the tier leaves all cells where they are; every other operation changes nothing or comes down to a
relayout, and a relayout either places every item anew or owes the pass. -/
namespace ResponsiveLayout

variable {α σ : Type}

namespace Grid

def layout (g : Grid α) : List (Widget × Placement α) :=
  g.cells (fun _ => false) ⟨0, 0⟩ (g.items.inOrder Item.order)

/-- Cells depend on the columns and the spans only. -/
theorem cells_congr {g g' : Grid α} {refuses : Widget → Bool} (hcolumns : g'.columns = g.columns)
    (hspan : g'.spanOf = g.spanOf) (c : Cursor) (ss : List (Slot (Item α))) :
    g'.cells refuses c ss = g.cells refuses c ss := by
  have hspot (c : Cursor) (s : Slot (Item α)) : g'.spot c s = g.spot c s := by
    rw [spot, spot, hcolumns, hspan]
  induction ss generalizing c with
  | nil => rfl
  | cons s ss ih => rw [cells, cells, past, past, hspot, hspan, ih, ih]

theorem length_cells (g : Grid α) (c : Cursor) (ss : List (Slot (Item α))) :
    (g.cells (fun _ => false) c ss).length = ss.length := by
  induction ss generalizing c with
  | nil => rfl
  | cons s ss ih =>
    rw [cells_cons_spared rfl, List.length_cons, ih, List.length_cons]

theorem length_layout (g : Grid α) : g.layout.length = g.items.size := by
  rw [layout, length_cells, Registry.length_inOrder]

/-- What a host that places everything is told when items are put down one after the other. -/
theorem packFrom_obeyed {h : Host α σ} {P : σ → Prop} (hh : h.Refusing (fun _ => false) P)
    {g : Grid α} (ss : List (Slot (Item α))) (c : Cursor) {s : σ} (hs : P s)
    (log : List (Exchange α)) :
    ∃ s' log', packFrom h.transcribed g c ss (s, log) = ([], s', log ++ log') ∧ P s' ∧
      placements log' = g.cells (fun _ => false) c ss ∧
      log'.filterMap Exchange.tracks? = [] := by
  induction ss generalizing c s log with
  | nil =>
    refine ⟨s, [], ?_, hs, rfl, rfl⟩
    rw [List.append_nil]
    rfl
  | cons x ss ih =>
    let p : Placement α := .cell ((g.spot c x).cell (g.spanOf x.item))
    have hok : (h.place x.item.widget p s).1.isOk = true := hh.answer _ p s hs
    obtain ⟨u, hu⟩ : ∃ u, (h.place x.item.widget p s).1 = .ok u := by
      cases ha : (h.place x.item.widget p s).1 with
      | ok u => exact ⟨u, rfl⟩
      | error e =>
        rw [ha] at hok
        exact Bool.noConfusion hok
    have hput : h.transcribed.place x.item.widget p (s, log) =
        (.ok u, (h.place x.item.widget p s).2, log ++ [⟨.place x.item.widget p, .carriedOut (.ok u)⟩]) := by
      rw [← hu]
      rfl
    obtain ⟨s', log', hrest, hs', hcells, htracks⟩ :=
      ih (g.past c x) (hh.place x.item.widget p s hs) _
    refine ⟨s', ⟨.place x.item.widget p, .carriedOut (.ok u)⟩ :: log', ?_, hs', ?_, htracks⟩
    · rw [packFrom_accepted hput, hrest, List.append_assoc, List.singleton_append]
    · rw [cells_cons_spared rfl, ← hcells]
      rfl

/-- The tracks and cells of a grid are the ones that a transcript ends with. -/
structure Current (g : Grid α) (log : List (Exchange α)) : Prop where
  placed : g.layout <:+ placements log
  tracks : lastTracks? log = some g.tracks

theorem pass_obeyed {h : Host α σ} {P : σ → Prop} (hh : h.Refusing (fun _ => false) P) (g : Grid α)
    {s : σ} (hs : P s) (log : List (Exchange α)) :
    ∃ s' log', g.pass h.transcribed (s, log) =
      ({ g with dirty := false, passes := g.passes + 1 }, s', log') ∧ P s' ∧ g.Current log' := by
  let e : Exchange α := ⟨.configureGrid g.tracks, .carriedOut (.ok ())⟩
  obtain ⟨s', log', hpack, hs', hcells, htracks⟩ :=
    packFrom_obeyed hh (g := g) (g.items.inOrder Item.order) ⟨0, 0⟩
      (hh.configureGrid g.tracks s hs) (log ++ [e])
  have hconfigured : h.transcribed.configureGrid g.tracks (s, log) =
      ((), (h.configureGrid g.tracks s).2, log ++ [e]) := rfl
  refine ⟨s', log ++ [e] ++ log', ?_, hs', ?_, ?_⟩
  · rw [pass_eq, hconfigured]
    dsimp only
    rw [hpack, List.map_nil, Registry.eraseIds_nil]
  · rw [placements_append, hcells]
    exact List.suffix_append _ _
  · rw [lastTracks?, List.filterMap_append, htracks, List.append_nil, List.filterMap_append]
    exact List.getLast?_concat

/-- A grid that knows its tier, owes a pass only for items without width, and otherwise lies as a
transcript ends. -/
structure Fresh [Scalar α] (g : Grid α) (log : List (Exchange α)) : Prop where
  tier_eq : g.tier = (g.breakpoints.resolveIndex g.width).getD 0
  owed : g.dirty = true → g.items.isEmpty = false ∧ ¬ 0 < g.width
  current : g.items.isEmpty = false → g.dirty = false → g.Current log

theorem Current.congr {g g' : Grid α} {log : List (Exchange α)} (hcur : g.Current log)
    (hitems : g'.items = g.items) (hcolumns : g'.columns = g.columns)
    (hspan : g'.spanOf = g.spanOf) (hgap : g'.gap = g.gap) : g'.Current log := by
  have hlayout : g'.layout = g.layout := by
    rw [layout, layout, hitems, cells_congr hcolumns hspan]
  have htracks : g'.tracks = g.tracks := by rw [Grid.tracks, Grid.tracks, hcolumns, hgap]
  exact ⟨hlayout ▸ hcur.placed, htracks ▸ hcur.tracks⟩

variable [Scalar α]

/-- After a relayout a grid is fresh if it knew its tier before. -/
theorem relayout_fresh {h : Host α σ} {P : σ → Prop} (hh : h.Refusing (fun _ => false) P)
    {g : Grid α} (htier : g.tier = (g.breakpoints.resolveIndex g.width).getD 0) {s : σ} (hs : P s)
    (log : List (Exchange α)) :
    P (g.relayout h.transcribed (s, log)).2.1 ∧
      (g.relayout h.transcribed (s, log)).1.Fresh (g.relayout h.transcribed (s, log)).2.2 := by
  rw [relayout_eq]
  cases hready : g.isReady with
  | false =>
    refine ⟨hs, htier, ?_, ?_⟩
    · intro hdirty
      have hitems : g.items.isEmpty = false := Bool.not_eq_true' _ ▸ hdirty
      refine ⟨hitems, ?_⟩
      rw [isReady, hitems, Bool.false_or, Bool.not_not] at hready
      exact of_decide_eq_false hready
    · intro hitems hclean
      change g.items.isEmpty = false at hitems
      change (!g.items.isEmpty) = false at hclean
      rw [hitems] at hclean
      exact Bool.noConfusion hclean
  | true =>
    obtain ⟨s', log', hpass, hs', hcur⟩ := pass_obeyed hh g hs log
    rw [if_pos rfl, hpass]
    refine ⟨hs', htier, fun hdirty => Bool.noConfusion hdirty, fun _ _ => ?_⟩
    exact hcur.congr rfl rfl rfl rfl

/-- What an operation comes down to: nothing, a note of a width within the tier while no pass is owed,
or a relayout of some grid that knows its tier if this one does. -/
inductive ComesDownTo (h : Host α σ) (g : Grid α) : StateM σ (Grid α) → Prop
  | nothing : ComesDownTo h g (pure g)
  | noting (width : α) (htier : (g.breakpoints.resolveIndex width).getD 0 = g.tier)
      (hclean : g.dirty = false) : ComesDownTo h g (pure { g with width })
  | relayout (g' : Grid α) (htier : g.tier = (g.breakpoints.resolveIndex g.width).getD 0 →
      g'.tier = (g'.breakpoints.resolveIndex g'.width).getD 0) : ComesDownTo h g (g'.relayout h)

theorem setWidth_comesDownTo (h : Host α σ) (width : α) (g : Grid α) :
    ComesDownTo h g (g.setWidth h width) := by
  rw [setWidth]
  split
  · next hsame =>
    rw [Bool.and_eq_true, decide_eq_true_iff, Bool.not_eq_true'] at hsame
    rw [hsame.1]
    exact .noting width hsame.1 hsame.2
  · exact .relayout _ fun _ => rfl

theorem perform_comesDownTo (h : Host α σ) (o : Operation α (GridOperation α)) (g : Grid α) :
    ComesDownTo h g (Prod.snd <$> o.perform h g) := by
  cases o with
  | resize size => exact setWidth_comesDownTo h size.width g
  | relayout => exact .relayout g id
  | settle =>
    change ComesDownTo h g (if g.dirty then g.relayout h else pure g)
    split
    · exact .relayout g id
    · exact .nothing
  | own o =>
    cases o with
    | add item => exact .relayout { g with items := g.items.add item, dirty := true } id
    | remove t =>
      let items := g.items.erase fun s => t.hits s.id s.item.widget
      change ComesDownTo h g (Prod.snd <$> tell .removed (g.remove h t))
      by_cases hnone : g.items.size - items.size = 0
      · have hremove : g.remove h t = pure (0, g) := if_pos hnone
        rw [hremove]
        exact .nothing
      · have hremove : g.remove h t =
            (fun g' => (g.items.size - items.size, g')) <$> { g with items }.changed h := if_neg hnone
        rw [hremove]
        exact .relayout { g with items, dirty := true } id
    | clear =>
      change ComesDownTo h g (g.clear h)
      rw [clear]
      split
      · exact .nothing
      · exact .relayout { g with items := g.items.clear, dirty := true } id
    | item id => exact .nothing
    | setWidth width => exact setWidth_comesDownTo h width g
    | setGap gap =>
      change ComesDownTo h g (g.setGap h gap)
      rw [setGap]
      split
      · exact .nothing
      · exact .relayout { g with gap := Scalar.sanitize gap, dirty := true } id
    | spanOf item => exact .nothing
    | describe => exact .nothing

theorem ComesDownTo.fresh {h : Host α σ} {P : σ → Prop} (hh : h.Refusing (fun _ => false) P)
    {g : Grid α} {m : StateM (σ × List (Exchange α)) (Grid α)}
    (hm : ComesDownTo h.transcribed g m) {s : σ} (hs : P s) {log : List (Exchange α)}
    (hf : g.Fresh log) : P (m (s, log)).2.1 ∧ (m (s, log)).1.Fresh (m (s, log)).2.2 := by
  cases hm with
  | nothing => exact ⟨hs, hf⟩
  | noting width htier hclean =>
    refine ⟨hs, htier.symm, fun hdirty => ?_, fun hitems _ => ?_⟩
    · exact Bool.noConfusion (hclean.symm.trans hdirty)
    · exact (hf.current hitems hclean).congr rfl rfl rfl rfl
  | relayout g' htier => exact relayout_fresh hh (htier hf.tier_eq) hs log

theorem run_fresh {h : Host α σ} {P : σ → Prop} (hh : h.Refusing (fun _ => false) P)
    (os : List (Operation α (GridOperation α))) {g : Grid α} {s : σ} (hs : P s)
    {log : List (Exchange α)} (hf : g.Fresh log) :
    (Operation.run h.transcribed os g (s, log)).1.Fresh
      (Operation.run h.transcribed os g (s, log)).2.2 := by
  induction os generalizing g s log with
  | nil => exact hf
  | cons o os ih =>
    obtain ⟨hs', hf'⟩ := (perform_comesDownTo h.transcribed o g).fresh hh hs hf
    exact ih hs' hf'

theorem new_fresh {config : GridConfig α} {g : Grid α} (hnew : Grid.new config = .ok g) :
    g.Fresh [] := by
  rw [Grid.new] at hnew
  split at hnew
  · cases hnew
  · rw [← Except.ok.inj hnew]
    exact ⟨rfl, fun hdirty => Bool.noConfusion hdirty, fun hitems _ => Bool.noConfusion hitems⟩

/-- Whatever is done with a grid on a host that places everything: it knows the tier of its width, it
owes a pass only for items without width, and otherwise the placements made last, as many as there
are items, are the cells that the items fill, between the tracks handed over last. -/
theorem always_laid_out {h : Host α σ} {P : σ → Prop} (hh : h.Refusing (fun _ => false) P)
    {config : GridConfig α} {g : Grid α} (hnew : Grid.new config = .ok g)
    (os : List (Operation α (GridOperation α))) {s : σ} (hs : P s) :
    let x := Operation.run h.transcribed os g (s, [])
    x.1.tier = (x.1.breakpoints.resolveIndex x.1.width).getD 0 ∧
      (x.1.dirty = true → x.1.items.isEmpty = false ∧ ¬ 0 < x.1.width) ∧
      (x.1.items.isEmpty = false → x.1.dirty = false →
        x.1.layout.length = x.1.items.size ∧ x.1.layout <:+ placements x.2.2 ∧
          lastTracks? x.2.2 = some x.1.tracks) := by
  intro x
  have hf : x.1.Fresh x.2.2 := run_fresh hh os hs (new_fresh hnew)
  refine ⟨hf.tier_eq, hf.owed, fun hitems hclean => ⟨length_layout x.1, ?_, ?_⟩⟩
  · exact (hf.current hitems hclean).placed
  · exact (hf.current hitems hclean).tracks

/-- Two items under a width that grows within a tier and then leaves it. -/
def widened : List (Operation Float32 (GridOperation Float32)) :=
  [.own (.add ((Item.ofWidget ⟨1⟩).change (.span "md" 6))), .own (.setWidth 800),
    .own (.add ((Item.ofWidget ⟨2⟩).change (.span "lg" 7))), .own (.setWidth 900),
    .own (.setWidth 1000)]

/-- After these operations no pass is owed, so the recorder was told the cells last. -/
theorem always_laid_out_widened :
    ∃ g : Grid Float32, Grid.new .standard = .ok g ∧
      let x := Operation.run Recorder.host.transcribed widened g (Recorder.empty, [])
      (x.1.items.isEmpty = false ∧ x.1.dirty = false) ∧
        x.1.tier = (x.1.breakpoints.resolveIndex x.1.width).getD 0 ∧
        (x.1.dirty = true → x.1.items.isEmpty = false ∧ ¬ 0 < x.1.width) ∧
        (x.1.items.isEmpty = false → x.1.dirty = false →
          x.1.layout.length = x.1.items.size ∧ x.1.layout <:+ placements x.2.2 ∧
            lastTracks? x.2.2 = some x.1.tracks) :=
  have hnew : Grid.new (.standard : GridConfig Float32) = .ok _ := rfl
  ⟨_, hnew, by decide +kernel, always_laid_out (Recorder.host_refusing []) hnew widened rfl⟩

end Grid

end ResponsiveLayout
