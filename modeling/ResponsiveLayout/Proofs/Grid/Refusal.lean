import ResponsiveLayout.Grid.Container
import ResponsiveLayout.Proofs.Host.Recorder
import ResponsiveLayout.Proofs.Host.Transcript
import ResponsiveLayout.Proofs.Registry

/-! Refused items of a grid. A refused item takes no columns, but a row that was started for it stays
started: the accepted items lie where they would lie without the refused ones exactly if every row
that is started for a refused item would be started for the next accepted one as well. -/
namespace ResponsiveLayout

variable {α σ : Type}

theorem toNat_clampSpan (span columns : UInt16) :
    (clampSpan span columns).toNat = max 1 (min span.toNat (max columns.toNat 1)) := by
  have hmax (m n : UInt16) : (max m n).toNat = max m.toNat n.toNat := by
    change (if m ≤ n then n else m).toNat = _
    simp only [UInt16.le_iff_toNat_le]
    split <;> omega
  have hmin (m n : UInt16) : (min m n).toNat = min m.toNat n.toNat := by
    change (if m ≤ n then m else n).toNat = _
    simp only [UInt16.le_iff_toNat_le]
    split <;> omega
  rw [clampSpan, hmax, hmin, hmax]
  rfl

def Cursor.below (c : Cursor) : Cursor := ⟨c.row + 1, 0⟩

theorem Cursor.below_ne (c : Cursor) : c.below.row ≠ c.row := by
  intro hrow
  -- Rows wrap around, but never to themselves.
  have htoNat := congrArg UInt32.toNat hrow
  rw [Cursor.below, UInt32.toNat_add] at htoNat
  have hlt := c.row.toNat_lt
  change (c.row.toNat + 1) % 2 ^ 32 = c.row.toNat at htoNat
  omega

namespace Grid

variable (g : Grid α) (refuses : Widget → Bool)

def spares (s : Slot (Item α)) : Bool := !refuses s.item.widget

/-- Whether an item does not fit into the rest of a row. -/
def Wraps (c : Cursor) (s : Slot (Item α)) : Prop :=
  g.columns.toNat < c.col.toNat + (g.spanOf s.item).toNat

def spot (c : Cursor) (s : Slot (Item α)) : Cursor := c.fit (g.spanOf s.item) g.columns

def past (c : Cursor) (s : Slot (Item α)) : Cursor := (g.spot c s).advance (g.spanOf s.item)

/-- The cells that the accepted ones of some items get. -/
def cells : Cursor → List (Slot (Item α)) → List (Widget × Placement α)
  | _, [] => []
  | c, s :: ss =>
    if refuses s.item.widget then cells (g.spot c s) ss
    else (s.item.widget, .cell ((g.spot c s).cell (g.spanOf s.item))) :: cells (g.past c s) ss

def without : Grid α := { g with items := g.items.erase fun s => refuses s.item.widget }

/-- From a cursor on, a row that is started for a refused item is started for the next accepted one
as well. The cursor is told by the accepted items before. -/
def KeepsRows (c : Cursor) (ss : List (Slot (Item α))) : Prop :=
  ∀ before x rest t, ss = before ++ x :: rest → refuses x.item.widget = true →
    rest.find? (spares refuses) = some t →
    g.Wraps ((before.filter (spares refuses)).foldl g.past c) x →
    g.Wraps ((before.filter (spares refuses)).foldl g.past c) t

section

variable {g refuses}

theorem spot_of_wraps {c : Cursor} {s : Slot (Item α)} (hw : g.Wraps c s) : g.spot c s = c.below :=
  if_pos hw

theorem spot_of_not_wraps {c : Cursor} {s : Slot (Item α)} (hw : ¬ g.Wraps c s) : g.spot c s = c :=
  if_neg hw

theorem keepsRows_nil (c : Cursor) : g.KeepsRows refuses c [] :=
  fun _ _ _ _ hnil => absurd hnil.symm (List.append_ne_nil_of_right_ne_nil _ (List.cons_ne_nil _ _))

theorem keepsRows_cons_spared {s : Slot (Item α)} (hs : refuses s.item.widget = false) (c : Cursor)
    (ss : List (Slot (Item α))) :
    g.KeepsRows refuses c (s :: ss) ↔ g.KeepsRows refuses (g.past c s) ss := by
  have hspare : spares refuses s = true := by rw [spares, hs]; rfl
  constructor
  · rintro hk before x rest t rfl hx ht
    have hk' := hk (s :: before) x rest t rfl hx ht
    rwa [List.filter_cons, if_pos hspare, List.foldl_cons] at hk'
  · intro hk before x rest t hss hx ht
    cases before with
    | nil =>
      obtain ⟨rfl, -⟩ := List.cons.inj hss
      rw [hs] at hx
      exact Bool.noConfusion hx
    | cons b before =>
      obtain ⟨rfl, htail⟩ := List.cons.inj hss
      rw [List.filter_cons, if_pos hspare, List.foldl_cons]
      exact hk before x rest t htail hx ht

theorem keepsRows_cons_refused {s : Slot (Item α)} (hs : refuses s.item.widget = true) (c : Cursor)
    (ss : List (Slot (Item α))) :
    g.KeepsRows refuses c (s :: ss) ↔ g.KeepsRows refuses c ss ∧
      (g.Wraps c s → ∀ t, ss.find? (spares refuses) = some t → g.Wraps c t) := by
  have hspare : ¬ spares refuses s = true := by rw [spares, hs]; exact Bool.false_ne_true
  constructor
  · intro hk
    refine ⟨?_, fun hw t ht => hk [] s ss t rfl hs ht hw⟩
    rintro before x rest t rfl hx ht
    have hk' := hk (s :: before) x rest t rfl hx ht
    rwa [List.filter_cons, if_neg hspare] at hk'
  · rintro ⟨hk, hhead⟩ before x rest t hss hx ht
    cases before with
    | nil =>
      obtain ⟨rfl, rfl⟩ := List.cons.inj hss
      exact fun hw => hhead hw t ht
    | cons b before =>
      obtain ⟨rfl, htail⟩ := List.cons.inj hss
      rw [List.filter_cons, if_neg hspare]
      exact hk before x rest t htail hx ht

theorem not_wraps_below (c : Cursor) (s : Slot (Item α)) : ¬ g.Wraps c.below s := by
  have hcolumns : 0 < g.columns.toNat := UInt16.lt_iff_toNat_lt.mp g.columns_pos
  change ¬ g.columns.toNat < 0 + (g.spanOf s.item).toNat
  rw [spanOf, toNat_clampSpan]
  omega

theorem cells_cons_spared {s : Slot (Item α)} (hs : refuses s.item.widget = false) (c : Cursor)
    (ss : List (Slot (Item α))) :
    g.cells refuses c (s :: ss) =
      (s.item.widget, .cell ((g.spot c s).cell (g.spanOf s.item))) ::
        g.cells refuses (g.past c s) ss := by
  rw [cells, hs, if_neg Bool.false_ne_true]

theorem cells_cons_refused {s : Slot (Item α)} (hs : refuses s.item.widget = true) (c : Cursor)
    (ss : List (Slot (Item α))) : g.cells refuses c (s :: ss) = g.cells refuses (g.spot c s) ss := by
  rw [cells, hs, if_pos rfl]

/-- From one cursor, and with a row started by refused items only from the row below, the accepted
items come to lie where they would lie among themselves. -/
theorem cells_filter_iff (ss : List (Slot (Item α))) (c : Cursor) :
    (g.cells refuses c ss = g.cells refuses c (ss.filter (spares refuses)) ↔
      g.KeepsRows refuses c ss) ∧
    (g.cells refuses c.below ss = g.cells refuses c (ss.filter (spares refuses)) ↔
      g.KeepsRows refuses c ss ∧ ∀ t, ss.find? (spares refuses) = some t → g.Wraps c t) := by
  -- A row started by a refused item stays empty until an item is accepted. So the two fillings are
  -- in step, or one is ahead by the start of a row, and each needs the other in the induction.
  induction ss generalizing c with
  | nil =>
    refine ⟨iff_of_true rfl (keepsRows_nil c), iff_of_true rfl ⟨keepsRows_nil c, ?_⟩⟩
    exact fun t ht => absurd ht.symm (Option.some_ne_none t)
  | cons s ss ih =>
    cases hs : refuses s.item.widget with
    | false =>
      have hspare : spares refuses s = true := by rw [spares, hs]; rfl
      obtain ⟨ihsync, -⟩ := ih (g.past c s)
      rw [List.filter_cons, if_pos hspare, cells_cons_spared hs, cells_cons_spared hs,
        cells_cons_spared hs, keepsRows_cons_spared hs, List.find?_cons_of_pos hspare]
      refine ⟨?_, ?_⟩
      · rw [List.cons.injEq, and_iff_right rfl]
        exact ihsync
      · rw [spot_of_not_wraps (not_wraps_below c s)]
        by_cases hw : g.Wraps c s
        · -- The row below has been started already, and this item would start it.
          have hpast : g.past c.below s = g.past c s := by
            rw [past, past, spot_of_wraps hw, spot_of_not_wraps (not_wraps_below c s)]
          rw [spot_of_wraps hw, hpast, List.cons.injEq, and_iff_right rfl, ihsync, iff_self_and]
          rintro - t ht
          rwa [← Option.some.inj ht]
        · -- This item would still fit beside the ones before, so the cells differ from here on.
          refine iff_of_false ?_ fun hk => hw (hk.2 s rfl)
          rw [spot_of_not_wraps hw]
          intro heq
          have hcell := Placement.cell.inj (Prod.mk.inj (List.cons.inj heq).1).2
          exact c.below_ne (congrArg Cell.row hcell)
    | true =>
      have hspare : ¬ spares refuses s = true := by rw [spares, hs]; exact Bool.false_ne_true
      obtain ⟨ihsync, ihgap⟩ := ih c
      rw [List.filter_cons, if_neg hspare, cells_cons_refused hs, cells_cons_refused hs,
        keepsRows_cons_refused hs, List.find?_cons_of_neg hspare,
        spot_of_not_wraps (not_wraps_below c s)]
      refine ⟨?_, ?_⟩
      · by_cases hw : g.Wraps c s
        · rw [spot_of_wraps hw, ihgap]
          exact and_congr_right fun _ => ⟨fun ht _ => ht, fun ht => ht hw⟩
        · rw [spot_of_not_wraps hw, ihsync]
          exact (and_iff_left fun hw' => absurd hw' hw).symm
      · rw [ihgap, and_assoc]
        exact and_congr_right fun _ => (and_iff_right_of_imp fun ht _ => ht).symm

variable {h : Host α σ} {P : σ → Prop}

theorem packFrom_accepted {g : Grid α} {c : Cursor} {x : Slot (Item α)} {s s' : σ} {u : Unit}
    (hput : h.place x.item.widget (.cell ((g.spot c x).cell (g.spanOf x.item))) s = (.ok u, s'))
    (ss : List (Slot (Item α))) :
    packFrom h g c (x :: ss) s = packFrom h g (g.past c x) ss s' := by
  rw [packFrom]
  change (h.place x.item.widget (.cell ((g.spot c x).cell (g.spanOf x.item))) >>= _) s = _
  rw [bind_apply, hput]
  rfl

theorem packFrom_refused {g : Grid α} {c : Cursor} {x : Slot (Item α)} {s s' : σ} {e : HostError}
    (hput : h.place x.item.widget (.cell ((g.spot c x).cell (g.spanOf x.item))) s = (.error e, s'))
    (ss : List (Slot (Item α))) :
    packFrom h g c (x :: ss) s =
      (x :: (packFrom h g (g.spot c x) ss s').1, (packFrom h g (g.spot c x) ss s').2) := by
  rw [packFrom]
  change (h.place x.item.widget (.cell ((g.spot c x).cell (g.spanOf x.item))) >>= _) s = _
  rw [bind_apply, hput]
  rfl

theorem pass_eq (h : Host α σ) (g : Grid α) (s : σ) :
    g.pass h s =
      let x := packFrom h g ⟨0, 0⟩ (g.items.inOrder Item.order) (h.configureGrid g.tracks s).2
      ({ g with
          items := g.items.eraseIds (x.1.map Slot.id)
          dirty := false
          passes := g.passes + 1 }, x.2) := rfl

/-- On a host that refuses certain widgets, the accepted ones get the cells told without a host. -/
theorem accepted_packFrom (hh : h.Refusing refuses P) (ss : List (Slot (Item α))) (c : Cursor)
    {s : σ} (hs : P s) (log : List (Exchange α)) :
    accepted (packFrom h.transcribed g c ss (s, log)).2.2 =
      accepted log ++ g.cells refuses c ss := by
  induction ss generalizing c s log with
  | nil => exact (List.append_nil _).symm
  | cons x ss ih =>
    let p : Placement α := .cell ((g.spot c x).cell (g.spanOf x.item))
    have hrefuses : refuses x.item.widget = !(h.place x.item.widget p s).1.isOk := by
      rw [hh.answer _ p s hs, Bool.not_not]
    have hs' := hh.place x.item.widget p s hs
    have hput : h.transcribed.place x.item.widget p (s, log) =
        ((h.place x.item.widget p s).1, (h.place x.item.widget p s).2,
          log ++ [⟨.place x.item.widget p, .carriedOut (h.place x.item.widget p s).1⟩]) := rfl
    cases ha : (h.place x.item.widget p s).1 with
    | ok u =>
      have hx : refuses x.item.widget = false := by rw [hrefuses, ha]; rfl
      rw [ha] at hput
      rw [packFrom_accepted hput, ih _ hs', cells_cons_spared hx, accepted_append,
        List.append_assoc]
      rfl
    | error e =>
      have hx : refuses x.item.widget = true := by rw [hrefuses, ha]; rfl
      rw [ha] at hput
      rw [packFrom_refused hput, ih _ hs', cells_cons_refused hx, accepted_append,
        List.append_assoc]
      rfl

theorem accepted_pass (hh : h.Refusing refuses P) (g : Grid α) {s : σ} (hs : P s) :
    accepted (g.pass h.transcribed (s, [])).2.2 =
      g.cells refuses ⟨0, 0⟩ (g.items.inOrder Item.order) :=
  accepted_packFrom hh _ _ (hh.configureGrid g.tracks s hs) _

theorem cells_without (ss : List (Slot (Item α))) (c : Cursor) :
    (g.without refuses).cells refuses c ss = g.cells refuses c ss := by
  induction ss generalizing c with
  | nil => rfl
  | cons s ss ih =>
    cases hs : refuses s.item.widget with
    | false =>
      rw [cells_cons_spared hs, cells_cons_spared hs, ih]
      rfl
    | true =>
      rw [cells_cons_refused hs, cells_cons_refused hs, ih]
      rfl

end

/-- Twelve columns and three items: two of six columns with one of twelve between them. -/
def threefold : Grid Float32 where
  columns := 12
  columns_pos := by decide
  gap := 0
  breakpoints := .standard
  items := ((Registry.empty.add ((Item.ofWidget ⟨1⟩).change (.span "xs" 6))).add
    ((Item.ofWidget ⟨2⟩).change (.span "xs" 12))).add ((Item.ofWidget ⟨3⟩).change (.span "xs" 6))
  width := 100
  tier := 0
  dirty := false
  passes := 0

/-- A pass places the accepted items as if the refused ones had been left out beforehand, exactly if
no row is started for a refused item that would not be started for the next accepted one. -/
theorem accepted_eq_without_iff {h : Host α σ} {refuses : Widget → Bool} {P : σ → Prop}
    (hh : h.Refusing refuses P) (g : Grid α) {s s' : σ} (hs : P s) (hs' : P s') :
    accepted (g.pass h.transcribed (s, [])).2.2 =
        accepted ((g.without refuses).pass h.transcribed (s', [])).2.2 ↔
      g.KeepsRows refuses ⟨0, 0⟩ (g.items.inOrder Item.order) := by
  have hwithout : (g.without refuses).items.inOrder Item.order =
      (g.items.inOrder Item.order).filter (spares refuses) := Registry.inOrder_erase _ _ _
  rw [accepted_pass hh g hs, accepted_pass hh _ hs', hwithout, cells_without]
  exact (cells_filter_iff _ _).1

/-- With the first widget destroyed, no row is started in vain. -/
theorem accepted_eq_without_first :
    let r := (Recorder.empty : Recorder Float32).destroy ⟨1⟩
    accepted (threefold.pass Recorder.host.transcribed (r, [])).2.2 =
        accepted ((threefold.without r.isDestroyed).pass Recorder.host.transcribed (r, [])).2.2 ↔
      threefold.KeepsRows r.isDestroyed ⟨0, 0⟩
        (threefold.items.inOrder Item.order) :=
  accepted_eq_without_iff (Recorder.host_refusing [⟨1⟩]) threefold rfl rfl

/-- With the second widget destroyed, the third stays in the row that was started for the second
instead of moving up beside the first. -/
theorem accepted_ne_without :
    let r := (Recorder.empty : Recorder Float32).destroy ⟨2⟩
    accepted (threefold.pass Recorder.host.transcribed (r, [])).2.2 ≠
      accepted ((threefold.without r.isDestroyed).pass Recorder.host.transcribed (r, [])).2.2 := by
  decide +kernel

end Grid

end ResponsiveLayout
