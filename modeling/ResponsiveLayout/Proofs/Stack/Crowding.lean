import Mathlib.Data.List.Nodup
import ResponsiveLayout.Proofs.Stack.Agreement

/-! Stacks of more layers than there are places for. When their heights are renumbered, the layers beyond the
places fall back to the order of registration. The recorder is told nothing of it, so from then on the
two orders differ, although no pass is owed. -/
namespace ResponsiveLayout

namespace Registry

variable {ι : Type}

def ofList (items : List ι) : Registry ι := items.foldl add empty

theorem ofList_concat (items : List ι) (item : ι) :
    ofList (items ++ [item]) = (ofList items).add item := List.foldl_concat _ _ _ _

theorem contents_ofList (items : List ι) : (ofList items).contents = items := by
  induction items using List.reverseRecOn with
  | nil => rfl
  | append_singleton items item ih =>
    rw [ofList_concat, contents, add, List.map_append, ← contents, ih]
    rfl

end Registry

namespace LayerStack

variable {α : Type} {a b w : Widget} {ws : List Widget}

/-- A layer above another one that was registered after it, on top of as many others as there are places:
by their places the two have one height, and the order of registration decides. -/
theorem sortByKey_rank_of_crowded {r : Registry Layer} {s u : Slot Layer} {ts : List (Slot Layer)}
    {z : Int32} (hslots : r.slots = s :: u :: ts) (hts : ∀ t ∈ ts, t.item.z = z) (hu : z < u.item.z)
    (hs : u.item.z < s.item.z) (hcrowd : ts.length = 2 ^ 31 - 1) :
    r.inOrder Layer.z = ts ++ [u, s] ∧ sortByKey (rank r) r.slots = ts ++ [s, u] := by
  let key (t : Slot Layer) : Int32 := t.item.z
  have hsorted : sortByKey key ts = ts := by
    refine sortByKey_of_pairwise _ (List.pairwise_of_forall_mem_list fun t ht t' ht' => ?_)
    change t.item.z ≤ t'.item.z
    rw [hts t ht, hts t' ht']
    exact Int32.le_refl z
  have habove {v : Slot Layer} (hv : z < v.item.z) : ∀ t ∈ ts, key t < key v := by
    intro t ht
    change t.item.z < v.item.z
    rw [hts t ht]
    exact hv
  have hus : insertByKey key s [u] = [u, s] := by
    rw [insertByKey, if_neg (Int32.not_le.mpr hs), insertByKey]
  have horder : r.inOrder Layer.z = ts ++ [u, s] := by
    calc sortByKey key r.slots
      _ = insertByKey key s (insertByKey key u ts) := by
        rw [hslots, sortByKey, sortByKey, hsorted]
      _ = insertByKey key s (ts ++ [u]) := by
        rw [← List.append_nil ts, insertByKey_append_of_lt key (habove hu), insertByKey, List.append_nil]
      _ = ts ++ [u, s] := by
        rw [insertByKey_append_of_lt key (habove (Int32.lt_trans hu hs)), hus]
  have hplaced : placed r = ts := by
    rw [placed, horder, List.take_left' hcrowd]
  -- The others take up all the places, so the two on top are left over.
  have hrest : r.slots.filter (· ∉ placed r) = [s, u] := by
    have hnodup : (s :: u :: ts).Nodup := hslots ▸ .of_map Slot.id r.nodup
    obtain ⟨hsnot, hnodup⟩ := List.nodup_cons.mp hnodup
    obtain ⟨hunot, -⟩ := List.nodup_cons.mp hnodup
    have hnone : ts.filter (· ∉ ts) = [] := by
      rw [List.filter_eq_nil_iff]
      exact fun t ht hnot => of_decide_eq_true hnot ht
    rw [hplaced, hslots, List.filter_cons_of_pos, List.filter_cons_of_pos, hnone]
    · exact decide_eq_true hunot
    · exact decide_eq_true fun hmem => hsnot (List.mem_cons_of_mem u hmem)
  refine ⟨horder, ?_⟩
  rw [sortByKey_rank_eq_append, hrest, hplaced]

/-- Two layers, the first of them on top, with others below them. -/
def crowd (a b : Widget) (ws : List Widget) : List Layer :=
  ⟨a, 1⟩ :: ⟨b, 0⟩ :: ws.map (⟨·, Int32.minValue⟩)

theorem map_widget_crowd (a b : Widget) (ws : List Widget) :
    (crowd a b ws).map Layer.widget = a :: b :: ws := by
  rw [crowd, List.map_cons, List.map_cons, List.map_map]
  exact congrArg (a :: b :: ·) (List.map_id ws)

theorem orders_of_crowd {r : Registry Layer} (hr : r.contents = crowd a b ws)
    (hcrowd : ws.length = 2 ^ 31 - 1) :
    (r.inOrder Layer.z).map (fun s => s.item.widget) = ws ++ [b, a] ∧
      (sortByKey (rank r) r.slots).map (fun s => s.item.widget) = ws ++ [a, b] := by
  obtain ⟨s, rest, hslots, hs, hrest⟩ := List.map_eq_cons_iff.mp hr
  obtain ⟨u, ts, rfl, hu, hts⟩ := List.map_eq_cons_iff.mp hrest
  have hlow : ∀ t ∈ ts, t.item.z = Int32.minValue := by
    intro t ht
    have hmem : t.item ∈ ws.map (⟨·, Int32.minValue⟩) := hts ▸ List.mem_map_of_mem ht
    obtain ⟨w, -, hw⟩ := List.mem_map.mp hmem
    rw [← hw]
  have hwidgets : ts.map (fun t => t.item.widget) = ws := by
    calc ts.map (fun t => t.item.widget)
      _ = (ts.map Slot.item).map Layer.widget := List.map_map.symm
      _ = ws := by
        rw [hts, List.map_map]
        exact List.map_id ws
  have hlength : ts.length = 2 ^ 31 - 1 := by
    rw [← hcrowd, ← hwidgets, List.length_map]
  have habove : Int32.minValue < u.item.z := by
    rw [hu]
    exact (by decide : Int32.minValue < 0)
  have htop : u.item.z < s.item.z := by
    rw [hu, hs]
    exact (by decide : (0 : Int32) < 1)
  obtain ⟨horder, hranked⟩ := sortByKey_rank_of_crowded hslots hlow habove htop hlength
  rw [horder, hranked, List.map_append, List.map_append, hwidgets, List.map_cons, List.map_cons,
    List.map_cons, List.map_cons, hs, hu]
  exact ⟨rfl, rfl⟩

theorem map_filter_not_meant (w : Widget) (ss : List (Slot Layer)) :
    (ss.filter (!meant (.widget w) ·)).map (fun s => s.item.widget) =
      (ss.map fun s => s.item.widget).filter (· ≠ w) := by
  rw [List.filter_map]
  refine congrArg (List.map _) (List.filter_congr fun s _ => ?_)
  rw [Function.comp_apply, decide_not, decide_eq_decide.mpr eq_comm]
  rfl

theorem meantWidgets_widget {c : LayerStack α} (hw : w ∈ c.stackingOrder) (hc : c.stackingOrder.Nodup) :
    c.meantWidgets (.widget w) = [w] := by
  obtain ⟨s, hs, rfl⟩ := c.mem_stackingOrder.mp hw
  have hslots : (c.items.slots.map fun s => s.item.widget).Nodup :=
    ((sortByKey_perm _ _).map _).nodup_iff.mp hc
  have honce : (c.meantWidgets (.widget s.item.widget)).Nodup := (List.filter_sublist.map _).nodup hslots
  have hmem : s.item.widget ∈ c.meantWidgets (.widget s.item.widget) :=
    mem_meantWidgets.mpr ⟨s, hs, decide_eq_true rfl, rfl⟩
  obtain ⟨n, hn⟩ := exists_meantWidgets_eq hmem
  rw [hn, List.nodup_replicate] at honce
  obtain rfl : n = 0 := by omega
  exact hn

variable [Scalar α]

/-- When the lowest of a crowd is sent to the back, the two on top change places in the stack. The recorder
only moves the widget of the lowest. -/
theorem lowered_crowd {c : LayerStack α} {r : Recorder α} (hc : c.items.contents = crowd a b (w :: ws))
    (hcrowd : (w :: ws).length = 2 ^ 31 - 1) (hwidgets : (a :: b :: w :: ws).Nodup)
    (halive : r.isDestroyed w = false) (hhost : hostOrder c r = c.stackingOrder) :
    let x := c.move Recorder.host (.widget w) .lower r
    x.1.2.dirty = c.dirty ∧ x.2.destroyed = r.destroyed ∧
      x.1.2.stackingOrder = w :: ws ++ [a, b] ∧ hostOrder x.1.2 x.2 = w :: ws ++ [b, a] := by
  intro x
  obtain ⟨horder, hranked⟩ := orders_of_crowd hc hcrowd
  change c.stackingOrder = w :: ws ++ [b, a] at horder
  have hturned : (w :: ws ++ [a, b]).Perm (w :: ws ++ [b, a]) := (List.Perm.swap b a []).append_left _
  have hafter : (w :: ws ++ [a, b]).Nodup := List.nodup_append_comm.mp hwidgets
  have hbefore : (w :: ws ++ [b, a]).Nodup := hturned.nodup_iff.mp hafter
  have hothers (us : List Widget) (hus : (w :: us).Nodup) : (w :: us).filter (· ≠ w) = us := by
    rw [List.filter_cons_of_neg (by simp), List.filter_eq_self]
    exact fun u hu => decide_eq_true (ne_of_mem_of_not_mem hu (List.nodup_cons.mp hus).1)
  have hw : w ∈ c.stackingOrder := by
    rw [horder]
    exact List.mem_cons_self
  -- The lowest height is the least there is, so the move starts from a renumbering.
  have hlevels : c.levels .lower = rank c.items := by
    have hmem : (⟨w, Int32.minValue⟩ : Layer) ∈ c.items.contents := by simp [hc, crowd]
    obtain ⟨s, hs, hsw⟩ := List.mem_map.mp hmem
    have hle : bottom c.items ≤ s.item.z := bottom_le hs
    rw [hsw] at hle
    exact if_pos (Int32.le_antisymm hle (Int32.minValue_le _))
  have hmoved : (c.meantWidgets (.widget w)).filter (!r.isDestroyed ·) = [w] := by
    rw [meantWidgets_widget hw (horder ▸ hbefore), List.filter_singleton, halive]
    rfl
  obtain ⟨⟨-, hdirty⟩, hstack, hrecorder⟩ := move_stacked c.edge_lower_ne_limit r (.widget w)
  rw [hmoved, map_filter_not_meant, hlevels, hranked, List.cons_append, hothers (ws ++ [a, b]) hafter] at hstack
  rw [hmoved] at hrecorder
  change x.1.2.stackingOrder = w :: ws ++ [a, b] at hstack
  change x.2 = r.restack w .lower at hrecorder
  have hdestroyed : x.2.destroyed = r.destroyed := by
    rw [hrecorder]
    rfl
  refine ⟨hdirty, hdestroyed, hstack, ?_⟩
  -- The recorder hears of the lowest only, which lies lowest there already.
  have hsame : ∀ u, u ∈ x.1.2.stackingOrder ↔ u ∈ c.stackingOrder := by
    intro u
    rw [hstack, horder]
    exact hturned.mem_iff
  have hstacking : x.2.stacking = Recorder.moveTo .lower w r.stacking := congrArg Recorder.stacking hrecorder
  rw [hostOrder_moveTo hw hsame hstacking, hhost, horder, List.cons_append, hothers (ws ++ [b, a]) hbefore]
  rfl

/-- A stack that was given some layers but no room yet. -/
def holding (ls : List Layer) : LayerStack Float32 :=
  { LayerStack.new with items := .ofList ls, dirty := !ls.isEmpty }

omit [Scalar α] in
theorem perm_stackingOrder {c : LayerStack α} {ls : List Layer} (hc : c.items.contents = ls) :
    c.stackingOrder.Perm (ls.map Layer.widget) := by
  rw [← hc, Registry.contents, List.map_map]
  exact (sortByKey_perm _ _).map _

/-- Without room, one layer more is only noted. -/
theorem relayout_holding (ls : List Layer) (l : Layer) (r : Recorder Float32) :
    { holding ls with items := (holding ls).items.add l, dirty := true }.relayout Recorder.host r =
      (holding (ls ++ [l]), r) := by
  let c : LayerStack Float32 := { holding ls with items := (holding ls).items.add l, dirty := true }
  have hroom : (Size.zero : Size Float32).isEmpty = true := by decide +kernel
  have hready : ¬ c.isReady = true := by
    change ¬ (!(c.items.isEmpty || Size.zero.isEmpty)) = true
    rw [hroom, Bool.or_true]
    decide
  have hitems : c.items = .ofList (ls ++ [l]) := (Registry.ofList_concat ls l).symm
  have hsome : c.items.isEmpty = (ls ++ [l]).isEmpty := by
    rw [hitems, ← Registry.isEmpty_contents, Registry.contents_ofList]
  change c.relayout Recorder.host r = _
  rw [relayout_eq, if_neg hready, holding, ← hitems, ← hsome]
  rfl

/-- Once there is room, a pass is run. -/
theorem resize_holding {ls : List Layer} (hls : ls.isEmpty = false) {size : Size Float32}
    (hsize : size.isEmpty = false) (r : Recorder Float32) :
    (holding ls).resize Recorder.host size r = { holding ls with size }.pass Recorder.host r := by
  have hready : isReady { holding ls with size } = true := by
    change (!((holding ls).items.isEmpty || size.isEmpty)) = true
    rw [← Registry.isEmpty_contents, holding, Registry.contents_ofList, hls, hsize]
    rfl
  have hrelayout : (holding ls).resize Recorder.host size =
      { holding ls with size }.relayout Recorder.host := by
    refine if_neg ?_
    rw [holding, hls, Bool.not_false, Bool.not_true, Bool.and_false]
    exact Bool.false_ne_true
  rw [hrelayout, relayout_eq, if_pos hready]

/-- While all widgets are alive, a pass keeps the layers. -/
theorem pass_holding (ls : List Layer) (size : Size Float32) :
    let x := { holding ls with size }.pass Recorder.host Recorder.empty
    x.1.items.contents = ls ∧ x.1.dirty = false ∧ x.2.destroyed = [] ∧ hostOrder x.1 x.2 =
      x.1.stackingOrder.dedup := by
  intro x
  let c : LayerStack Float32 := { holding ls with size }
  obtain ⟨-, hhost, hdestroyed, -⟩ := pass_stacked c Recorder.empty
  have hitems : c.alive Recorder.empty = .ofList ls := Registry.erase_of_forall fun _ _ => rfl
  have hx : x.1 = { c with items := .ofList ls, dirty := false, passes := c.passes + 1 } := by
    change (c.pass Recorder.host Recorder.empty).1 = _
    rw [pass_recorder, hitems]
  refine ⟨?_, ?_, hdestroyed, hhost⟩
  · rw [hx, Registry.contents_ofList]
  · rw [hx]

end LayerStack

namespace StackEvent

variable {a b w : Widget} {ws : List Widget}

def adding (ls : List Layer) : List (StackEvent Float32) :=
  ls.map fun l => .operation (.own (.add l.widget l.z))

theorem run_adding (ls : List Layer) : run (adding ls) = (LayerStack.holding ls, Recorder.empty) := by
  induction ls using List.reverseRecOn with
  | nil => rfl
  | append_singleton ls l ih =>
    rw [adding, List.map_append, List.map_singleton, run_concat, ← adding, ih]
    exact LayerStack.relayout_holding ls l _

theorem nodup_run_adding {ls : List Layer} (hls : (ls.map Layer.widget).Nodup) :
    (run (adding ls)).1.stackingOrder.Nodup := by
  rw [run_adding]
  exact (LayerStack.perm_stackingOrder (Registry.contents_ofList ls)).nodup_iff.mpr hls

theorem run_shown {ls : List Layer} (hls : ls.isEmpty = false) {size : Size Float32}
    (hsize : size.isEmpty = false) :
    run (adding ls ++ [.operation (.resize size)]) =
      { LayerStack.holding ls with size }.pass Recorder.host Recorder.empty := by
  rw [run_concat, run_adding]
  exact LayerStack.resize_holding hls hsize _

/-- A crowd is added to a stack, is shown, and its lowest widget is sent to the back. -/
def crowding (a b w : Widget) (ws : List Widget) : List (StackEvent Float32) :=
  adding (LayerStack.crowd a b (w :: ws)) ++ [.operation (.resize ⟨10, 10⟩)] ++
    [.operation (.own (.sendToBack (.widget w)))]

/-- With as many widgets below as there are places, the stack turns the two on top around, and the recorder
does not. -/
theorem orders_part (hwidgets : (a :: b :: w :: ws).Nodup) (hcrowd : (w :: ws).length = 2 ^ 31 - 1) :
    let x := run (crowding a b w ws)
    (∀ es, es <+: crowding a b w ws → (run es).1.stackingOrder.Nodup) ∧ x.1.dirty = false ∧
      x.1.stackingOrder.filter (!x.2.isDestroyed ·) = w :: ws ++ [a, b] ∧
        x.2.stacking.filter (· ∈ x.1.stackingOrder) = w :: ws ++ [b, a] := by
  let ls : List Layer := LayerStack.crowd a b (w :: ws)
  let c : LayerStack Float32 := { LayerStack.holding ls with size := ⟨10, 10⟩ }
  let x := c.pass Recorder.host Recorder.empty
  let y := x.1.move Recorder.host (.widget w) .lower x.2
  have hx : run (adding ls ++ [.operation (.resize ⟨10, 10⟩)]) = x :=
    run_shown rfl (by decide +kernel)
  have hy : run (crowding a b w ws) = (y.1.2, y.2) := by
    rw [crowding, run_concat, hx]
    rfl
  have halive {r : Recorder Float32} (hr : r.destroyed = []) (v : Widget) : r.isDestroyed v = false := by
    rw [Recorder.isDestroyed, hr]
    rfl
  obtain ⟨hcontents, hclean, hdestroyed, hhost⟩ := LayerStack.pass_holding ls ⟨10, 10⟩
  have hadded {ls' : List Layer} (hls' : ls' <+: ls) : (ls'.map Layer.widget).Nodup := by
    refine (hls'.sublist.map _).nodup ?_
    rw [LayerStack.map_widget_crowd]
    exact hwidgets
  have hshown : x.1.stackingOrder.Nodup :=
    (LayerStack.perm_stackingOrder hcontents).nodup_iff.mpr (hadded (List.prefix_refl ls))
  rw [hshown.dedup] at hhost
  obtain ⟨hdirty, hkept, hafter, hhostAfter⟩ :=
    LayerStack.lowered_crowd hcontents hcrowd hwidgets (halive hdestroyed w) hhost
  have hlowered : y.1.2.stackingOrder.Nodup := by
    rw [hafter]
    exact List.nodup_append_comm.mp hwidgets
  rw [hy]
  refine ⟨fun es hes => ?_, hdirty.trans hclean, ?_, hhostAfter⟩
  · -- The run up to the move, up to the resize, or up to one of the additions.
    rcases List.prefix_concat_iff.mp hes with rfl | hes
    · exact hy ▸ hlowered
    rcases List.prefix_concat_iff.mp hes with rfl | hes
    · exact hx ▸ hshown
    obtain ⟨ls', hls', rfl⟩ := List.prefix_map_iff.mp hes
    exact nodup_run_adding (hadded hls')
  · rw [hafter, List.filter_eq_self]
    intro v _
    rw [halive (hkept.trans hdestroyed) v]
    rfl

/-- So no pass is owed, no two items ever showed one widget, and yet the recorder has not the order of the
stack. -/
theorem orders_differ (hwidgets : (a :: b :: w :: ws).Nodup) (hcrowd : (w :: ws).length = 2 ^ 31 - 1) :
    let es := crowding a b w ws
    let x := run es
    (∀ es', es' <+: es → (run es').1.stackingOrder.Nodup) ∧ x.1.dirty = false ∧
      x.2.stacking.filter (· ∈ x.1.stackingOrder) ≠ x.1.stackingOrder.filter (!x.2.isDestroyed ·) := by
  obtain ⟨hdistinct, hclean, horder, hhost⟩ := orders_part hwidgets hcrowd
  refine ⟨hdistinct, hclean, fun hsame => ?_⟩
  have hturned : [b, a] = [a, b] := List.append_cancel_left (hhost.symm.trans (hsame.trans horder))
  have hab : b = a := (List.cons.inj hturned).1
  exact (List.nodup_cons.mp hwidgets).1 (hab ▸ List.mem_cons_self)

def numbered (k n : ℕ) : List Widget := (List.range' k n).map fun i => ⟨.ofNat i⟩

theorem nodup_numbered {k n : ℕ} (hn : k + n ≤ 2 ^ 64) : (numbered k n).Nodup := by
  refine List.Nodup.map_on (fun i hi j hj hij => ?_) List.nodup_range'
  have hbound {i : ℕ} (hi : i ∈ List.range' k n) : i < UInt64.size :=
    Nat.lt_of_lt_of_le (List.mem_range'_1.mp hi).2 hn
  have hhandle : UInt64.ofNat i = UInt64.ofNat j := congrArg Widget.handle hij
  rw [← UInt64.toNat_ofNat_of_lt' (hbound hi), hhandle, UInt64.toNat_ofNat_of_lt' (hbound hj)]

theorem nodup_numbered_cons {n : ℕ} (hn : n + 3 ≤ 2 ^ 64) :
    ((⟨0⟩ : Widget) :: ⟨1⟩ :: ⟨2⟩ :: numbered 3 n).Nodup := by
  have hall : (numbered 0 (n + 3)).Nodup := nodup_numbered (by omega)
  exact hall

theorem length_cons_numbered {n : ℕ} (w : Widget) (hn : n + 1 = 2 ^ 31 - 1) :
    (w :: numbered 3 n).length = 2 ^ 31 - 1 := by
  rw [List.length_cons, numbered, List.length_map, List.length_range', hn]

/-- A crowd of 2^31 + 1 widgets. -/
theorem host_order_lost_in_crowd :
    let es := crowding ⟨0⟩ ⟨1⟩ ⟨2⟩ (numbered 3 (2 ^ 31 - 2))
    let x := run es
    (∀ es', es' <+: es → (run es').1.stackingOrder.Nodup) ∧ x.1.dirty = false ∧
      x.2.stacking.filter (· ∈ x.1.stackingOrder) ≠ x.1.stackingOrder.filter (!x.2.isDestroyed ·) :=
  orders_differ (nodup_numbered_cons (by decide)) (length_cons_numbered ⟨2⟩ (by decide))

end StackEvent

end ResponsiveLayout
