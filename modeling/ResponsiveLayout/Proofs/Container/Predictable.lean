import ResponsiveLayout.Proofs.Container.Visits
import ResponsiveLayout.Proofs.Host.Steady

/-! Relayouts on a host whose answers depend on the kind of call and the widget alone. What such a
relayout asks and what it leaves can be foretold from what is registered, whatever the identities. -/
namespace ResponsiveLayout

variable {α σ ι : Type}

def Slot.unnamed (s : Slot ι) : Slot ι := ⟨⟨0⟩, s.item⟩

/-- A container whose passes can be foretold. It consists of items, a debt, a count of passes and a
setting; the setting and what is registered, in order, tell the calls of a pass on a steady host. -/
class Predictable (C : Type) (ι α O : outParam Type) extends Passing C α O where
  items : C → Registry ι
  passes : C → Nat
  /-- The setting with other items, another debt and another count. -/
  refill : C → Registry ι → Bool → Nat → C
  cramped : C → Bool
  key : C → ι → Int32
  refuses : C → Answers α → ι → Bool
  calls : C → Answers α → List (Slot ι) → List (Call α)
  refill_self (c : C) : refill c (items c) (Container.isDirty c) (passes c) = c := by
    intros; rfl
  refill_refill (c : C) (r r' : Registry ι) (b b' : Bool) (n n' : Nat) :
    refill (refill c r b n) r' b' n' = refill c r' b' n' := by intros; rfl
  items_refill (c : C) (r : Registry ι) (b : Bool) (n : Nat) : items (refill c r b n) = r := by
    intros; rfl
  isDirty_refill (c : C) (r : Registry ι) (b : Bool) (n : Nat) :
    Container.isDirty (refill c r b n) = b := by intros; rfl
  cramped_refill (c : C) (r : Registry ι) (b : Bool) (n : Nat) :
    cramped (refill c r b n) = cramped c := by intros; rfl
  key_refill (c : C) (r : Registry ι) (b : Bool) (n : Nat) : key (refill c r b n) = key c := by
    intros; rfl
  refuses_refill (c : C) (r : Registry ι) (b : Bool) (n : Nat) :
    refuses (refill c r b n) = refuses c := by intros; rfl
  isReady_eq (c : C) : isReady c = !((items c).isEmpty || cramped c) := by intros; rfl
  owing_eq (c : C) : owing c = refill c (items c) (!(items c).isEmpty) (passes c) := by
    intros; rfl
  calls_refill (c : C) (r : Registry ι) (b : Bool) (n : Nat) (a : Answers α) (ss : List (Slot ι)) :
    calls (refill c r b n) a ss = calls c a ss
  calls_unnamed (c : C) (a : Answers α) (ss : List (Slot ι)) :
    calls c a (ss.map Slot.unnamed) = calls c a ss
  pass_steady {σ : Type} {h : Host α σ} {a : Answers α} {P : σ → Prop} (hh : h.Steady a P) (c : C)
    {s : σ} (hs : P s) (log : List (Exchange α)) :
    ∃ n s', P s' ∧ pass h.transcribed c (s, log) =
      (refill c ((items c).erase fun s => refuses c a s.item) false n, s',
        log ++ (calls c a ((items c).inOrder (key c))).map a.exchange)

namespace Predictable

variable {C O : Type} [Predictable C ι α O]

def kept (a : Answers α) (c : C) : Registry ι :=
  if Passing.isReady c then (items c).erase fun s => refuses c a s.item else items c

/-- Whether a relayout is skipped although there are items. -/
def owes (c : C) : Bool := !Passing.isReady c && !(items c).isEmpty

def told (a : Answers α) (c : C) : List (Exchange α) :=
  if Passing.isReady c then (calls c a ((items c).inOrder (key c))).map a.exchange else []

theorem relayout_steady {h : Host α σ} {a : Answers α} {P : σ → Prop} (hh : h.Steady a P) (c : C)
    {s : σ} (hs : P s) (log : List (Exchange α)) :
    ∃ n s', P s' ∧ Container.relayout h.transcribed c (s, log) =
      (refill c (kept a c) (owes c) n, s', log ++ told a c) := by
  rw [Passing.relayout_eq, kept, owes, told]
  cases Passing.isReady c with
  | true => exact pass_steady hh c hs log
  | false =>
    refine ⟨passes c, s, hs, ?_⟩
    rw [if_neg Bool.false_ne_true, if_neg Bool.false_ne_true, if_neg Bool.false_ne_true,
      List.append_nil, owing_eq]
    rfl

theorem isReady_refill (c : C) (r : Registry ι) (b : Bool) (n : Nat) :
    Passing.isReady (refill c r b n) = !(r.isEmpty || cramped c) := by
  rw [isReady_eq, items_refill, cramped_refill]

end Predictable

namespace FlexBox

variable [Scalar α]

/-- An item that cannot be measured, or else not placed. -/
def refuses (a : Answers α) (i : Item α) : Bool :=
  !(a.measure i.widget).isOk || !(a.place i.widget).isOk

def measurings (a : Answers α) (ss : List (Slot (Item α))) :
    List (Slot (Item α) × Except HostError (Size α)) :=
  ss.map fun s => (s, a.measure s.item.widget)

def placings (c : FlexBox α) (a : Answers α) (ss : List (Slot (Item α))) :
    List ((Slot (Item α) × Rect α) × Except HostError Unit) :=
  (c.frames (answered (measurings a ss))).map fun f => (f, a.place f.1.item.widget)

def calls (c : FlexBox α) (a : Answers α) (ss : List (Slot (Item α))) : List (Call α) :=
  ((visits (measurings a ss) (c.placings a ss)).map Visit.exchange).map Exchange.call

/-- Frames do not depend on the identities of the items. -/
theorem frames_unnamed (c : FlexBox α) (measured : List (Slot (Item α) × Size α)) :
    c.frames (measured.map (Prod.map Slot.unnamed id)) =
      (c.frames measured).map (Prod.map Slot.unnamed id) := by
  apply frames_map
  · rfl
  · rfl
  · exact fun _ => rfl
  · exact fun _ _ => rfl
  · exact fun _ _ _ _ => rfl

theorem calls_unnamed (c : FlexBox α) (a : Answers α) (ss : List (Slot (Item α))) :
    c.calls a (ss.map Slot.unnamed) = c.calls a ss := by
  have hmeasurings : measurings a (ss.map Slot.unnamed) =
      (measurings a ss).map (Prod.map Slot.unnamed id) := by
    rw [measurings, measurings, List.map_map, List.map_map]
    rfl
  have hplacings : c.placings a (ss.map Slot.unnamed) =
      (c.placings a ss).map (Prod.map (Prod.map Slot.unnamed id) id) := by
    rw [placings, placings, hmeasurings, answered_map_names, frames_unnamed, List.map_map,
      List.map_map]
    rfl
  rw [calls, calls, hmeasurings, hplacings, visits, visits]
  simp only [List.map_append, List.map_map]
  rfl

theorem spared_visits (c : FlexBox α) (a : Answers α) {ss : List (Slot (Item α))}
    (hss : ss.Perm c.items.slots) :
    c.items.spared (visits (measurings a ss) (c.placings a ss)) =
      c.items.erase fun s => refuses a s.item := by
  let unmeasured (s : Slot (Item α)) : Bool := !(a.measure s.item.widget).isOk
  let unplaced (s : Slot (Item α)) : Bool := !(a.place s.item.widget).isOk
  have hmeasured : (answered (measurings a ss)).map Prod.fst = ss.filter (!unmeasured ·) := by
    rw [answered_fst, measurings, List.filter_map, List.map_map]
    refine (List.map_id _).trans (List.filter_congr fun s _ => ?_)
    exact (Bool.not_not _).symm
  have hunplaced : ((refused (c.placings a ss)).map fun f => f.1.id) =
      ((ss.filter (!unmeasured ·)).filter unplaced).map Slot.id := by
    let fs := c.frames (answered (measurings a ss))
    calc
      ((refused (c.placings a ss)).map fun f => f.1.id) =
        (fs.filter (unplaced ∘ Prod.fst)).map (Slot.id ∘ Prod.fst) := by
          rw [placings, refused_map]
          rfl
      _ = ((fs.map Prod.fst).filter unplaced).map Slot.id := by
          rw [List.filter_map, List.map_map]
      _ = ((ss.filter (!unmeasured ·)).filter unplaced).map Slot.id := by
          rw [c.frames_fst, hmeasured]
  -- Only items that could be measured are placed, so the second phase drops from what the first left.
  rw [← Registry.eraseIds_refused, filter_visits, Registry.eraseIds_append, hunplaced, measurings,
    refused_map, Registry.eraseIds_filter _ _ hss, Registry.eraseIds_filter _ _ (hss.filter _),
    Registry.erase_erase]
  rfl

theorem pass_steady {h : Host α σ} {a : Answers α} {P : σ → Prop} (hh : h.Steady a P)
    (c : FlexBox α) {s : σ} (hs : P s) (log : List (Exchange α)) :
    ∃ n s', P s' ∧ c.pass h.transcribed (s, log) =
      ({ c with
          items := c.items.erase fun s => refuses a s.item
          dirty := false
          passes := n }, s',
        log ++ (c.calls a (c.items.inOrder Item.order)).map a.exchange) := by
  obtain ⟨ms, ps, s', hms, hps, hpass⟩ := c.pass_visits h s log
  have hcontinues := Answers.Continues.of_lockstep hs
    (pass_lockstep (hh.transcribed_lockstep log) c)
  rw [hpass] at hcontinues
  -- The transcript went on with foretold answers alone, which tells how every item was answered.
  have hanswer : ∀ v ∈ visits ms ps, v.exchange.answer = a.answer v.exchange.call :=
    fun v hv => hcontinues.answer_eq _ (List.mem_map_of_mem hv)
  have hmeasured : ms = measurings a (c.items.inOrder Item.order) := by
    rw [← hms]
    refine eq_map_of_answer fun m hm => CallAnswer.measured.inj ?_
    exact hanswer _ (List.mem_append_left _ (List.mem_map_of_mem hm))
  have hplaced : ps = c.placings a (c.items.inOrder Item.order) := by
    rw [placings, ← hmeasured, ← hps]
    refine eq_map_of_answer fun p hp => ?_
    have hplace := hanswer (placing p.1 p.2) (List.mem_append_right _ (List.mem_map_of_mem hp))
    exact CallAnswer.carriedOut.inj hplace
  have hordered := c.items.ordered_inOrder Item.order
  rw [hcontinues.exchange_eq, hmeasured, hplaced, spared_visits c a hordered.perm] at hpass
  exact ⟨_, s', hcontinues.kept, hpass⟩

instance : Predictable (FlexBox α) (Item α) α (FlexOperation α) where
  items := items
  passes := passes
  refill c r b n := { c with items := r, dirty := b, passes := n }
  cramped c := c.size.isEmpty
  key _ := Item.order
  refuses _ := refuses
  calls := calls
  calls_refill _ _ _ _ _ _ := rfl
  calls_unnamed := calls_unnamed
  pass_steady := pass_steady

end FlexBox

namespace Grid

def refuses (a : Answers α) (i : Item α) : Bool := !(a.place i.widget).isOk

def placings (a : Answers α) (ss : List (Slot (Item α))) :
    List (Slot (Item α) × Except HostError Unit) :=
  ss.map fun s => (s, a.place s.item.widget)

def calls (g : Grid α) (a : Answers α) (ss : List (Slot (Item α))) : List (Call α) :=
  .configureGrid g.tracks :: ((g.visits (placings a ss)).map Visit.exchange).map Exchange.call

theorem exchange_trials_unnamed (g : Grid α) (c : Cursor)
    (xs : List (Slot (Item α) × Except HostError Unit)) :
    (g.trials c (xs.map (Prod.map Slot.unnamed id))).map Trial.exchange =
      (g.trials c xs).map Trial.exchange := by
  induction xs generalizing c with
  | nil => rfl
  | cons x xs ih => exact congrArg ((g.trial c x.1 x.2).exchange :: ·) (ih _)

theorem calls_unnamed (g : Grid α) (a : Answers α) (ss : List (Slot (Item α))) :
    g.calls a (ss.map Slot.unnamed) = g.calls a ss := by
  have hplacings : placings a (ss.map Slot.unnamed) =
      (placings a ss).map (Prod.map Slot.unnamed id) := by
    rw [placings, placings, List.map_map, List.map_map]
    rfl
  have hexchange (xs : List (Slot (Item α) × Except HostError Unit)) :
      (g.visits xs).map Visit.exchange = (g.trials ⟨0, 0⟩ xs).map Trial.exchange := by
    rw [visits, List.map_map]
    rfl
  rw [calls, calls, hexchange, hexchange, hplacings, exchange_trials_unnamed]

theorem spared_visits (g : Grid α) (a : Answers α) {ss : List (Slot (Item α))}
    (hss : ss.Perm g.items.slots) :
    g.items.spared (g.visits (placings a ss)) = g.items.erase fun s => refuses a s.item := by
  rw [← Registry.eraseIds_refused, filter_visits, placings, refused_map,
    Registry.eraseIds_filter _ _ hss]
  rfl

theorem pass_steady {h : Host α σ} {a : Answers α} {P : σ → Prop} (hh : h.Steady a P) (g : Grid α)
    {s : σ} (hs : P s) (log : List (Exchange α)) :
    ∃ n s', P s' ∧ g.pass h.transcribed (s, log) =
      ({ g with
          items := g.items.erase fun s => refuses a s.item
          dirty := false
          passes := n }, s',
        log ++ (g.calls a (g.items.inOrder Item.order)).map a.exchange) := by
  obtain ⟨xs, s', hxs, hpass⟩ := g.pass_visits h s log
  have hcontinues := Answers.Continues.of_lockstep hs
    (pass_lockstep (hh.transcribed_lockstep log) g)
  rw [hpass] at hcontinues
  -- An answer that was given is the answer of a trial, and so it was foretold.
  have hplaced : xs = placings a (g.items.inOrder Item.order) := by
    rw [← hxs]
    refine eq_map_of_answer fun x hx => ?_
    rw [← trials_answer g ⟨0, 0⟩ xs] at hx
    obtain ⟨t, ht, rfl⟩ := List.mem_map.mp hx
    have hplace := hcontinues.answer_eq t.exchange
      (List.mem_cons_of_mem _ (List.mem_map_of_mem (List.mem_map_of_mem ht)))
    exact CallAnswer.carriedOut.inj hplace
  have hordered := g.items.ordered_inOrder Item.order
  rw [hcontinues.exchange_eq, hplaced, spared_visits g a hordered.perm] at hpass
  exact ⟨_, s', hcontinues.kept, hpass⟩

theorem trials_refill (g : Grid α) (r : Registry (Item α)) (b : Bool) (n : Nat) (c : Cursor)
    (xs : List (Slot (Item α) × Except HostError Unit)) :
    ({ g with items := r, dirty := b, passes := n } : Grid α).trials c xs = g.trials c xs := by
  induction xs generalizing c with
  | nil => rfl
  | cons x xs ih => exact congrArg (g.trial c x.1 x.2 :: ·) (ih _)

theorem calls_refill (g : Grid α) (r : Registry (Item α)) (b : Bool) (n : Nat) (a : Answers α)
    (ss : List (Slot (Item α))) :
    ({ g with items := r, dirty := b, passes := n } : Grid α).calls a ss = g.calls a ss := by
  rw [calls, calls, visits, visits, trials_refill]
  rfl

instance [Scalar α] : Predictable (Grid α) (Item α) α (GridOperation α) where
  items := items
  passes := passes
  refill g r b n := { g with items := r, dirty := b, passes := n }
  cramped g := !decide (0 < g.width)
  key _ := Item.order
  refuses _ := refuses
  calls := calls
  calls_refill := calls_refill
  calls_unnamed := calls_unnamed
  pass_steady := pass_steady

end Grid

namespace LayerStack

def showing (a : Answers α) (w : Widget) : Showing :=
  match a.place w with
  | .ok () => .placed (a.restack w .raise)
  | .error e => .unplaced e

/-- A layer that cannot be placed, or else not raised. -/
def refuses (a : Answers α) (l : Layer) : Bool := !(showing a l.widget).answer.isOk

def showings (a : Answers α) (ss : List (Slot Layer)) : List (Slot Layer × Showing) :=
  ss.map fun s => (s, showing a s.item.widget)

theorem showing_eq {a : Answers α} (frame : Rect α) {s : Slot Layer} {n : Showing}
    (hn : ∀ v ∈ n.visits frame s, v.exchange.answer = a.answer v.exchange.call) :
    n = showing a s.item.widget := by
  cases n with
  | unplaced e =>
    have hplace := CallAnswer.carriedOut.inj (hn _ List.mem_cons_self)
    rw [showing, ← hplace]
  | placed raised =>
    have hplace := CallAnswer.carriedOut.inj (hn _ List.mem_cons_self)
    have hraise := CallAnswer.carriedOut.inj (hn _ (List.mem_cons_of_mem _ List.mem_cons_self))
    rw [showing, ← hplace, ← hraise]

variable [Scalar α]

def calls (c : LayerStack α) (a : Answers α) (ss : List (Slot Layer)) : List (Call α) :=
  ((visits c.bounds (showings a ss)).map Visit.exchange).map Exchange.call

theorem calls_unnamed (c : LayerStack α) (a : Answers α) (ss : List (Slot Layer)) :
    c.calls a (ss.map Slot.unnamed) = c.calls a ss := by
  have hexchange (s : Slot Layer) (n : Showing) :
      (n.visits c.bounds s.unnamed).map Visit.exchange = (n.visits c.bounds s).map Visit.exchange := by
    cases n <;> rfl
  have hshowings : showings a (ss.map Slot.unnamed) =
      (showings a ss).map (Prod.map Slot.unnamed id) := by
    rw [showings, showings, List.map_map, List.map_map]
    rfl
  rw [calls, calls, hshowings, visits, visits, List.flatMap_map]
  simp only [List.map_flatMap, Prod.map, hexchange, id]

theorem spared_visits (c : LayerStack α) (a : Answers α) {ss : List (Slot Layer)}
    (hss : ss.Perm c.items.slots) :
    c.items.spared (visits c.bounds (showings a ss)) = c.items.erase fun s => refuses a s.item := by
  have hanswers : (showings a ss).map (Prod.map id Showing.answer) =
      ss.map fun s => (s, (showing a s.item.widget).answer) := by
    rw [showings, List.map_map]
    rfl
  rw [← Registry.eraseIds_refused, filter_visits, hanswers, refused_map,
    Registry.eraseIds_filter _ _ hss]
  rfl

theorem pass_steady {h : Host α σ} {a : Answers α} {P : σ → Prop} (hh : h.Steady a P)
    (c : LayerStack α) {s : σ} (hs : P s) (log : List (Exchange α)) :
    ∃ n s', P s' ∧ c.pass h.transcribed (s, log) =
      ({ c with
          items := c.items.erase fun s => refuses a s.item
          dirty := false
          passes := n }, s',
        log ++ (c.calls a (c.items.inOrder Layer.z)).map a.exchange) := by
  obtain ⟨xs, s', hxs, hpass⟩ := c.pass_visits h s log
  have hcontinues := Answers.Continues.of_lockstep hs
    (pass_lockstep (hh.transcribed_lockstep log) c)
  rw [hpass] at hcontinues
  -- What the first call about a layer was answered decides whether there was a second one.
  have hshown : xs = showings a (c.items.inOrder Layer.z) := by
    rw [← hxs]
    refine eq_map_of_answer fun x hx => showing_eq c.bounds fun v hv => ?_
    exact hcontinues.answer_eq _ (List.mem_map_of_mem (List.mem_flatMap.mpr ⟨x, hx, hv⟩))
  have hordered := c.items.ordered_inOrder Layer.z
  rw [hcontinues.exchange_eq, hshown, spared_visits c a hordered.perm] at hpass
  exact ⟨_, s', hcontinues.kept, hpass⟩

instance : Predictable (LayerStack α) Layer α StackOperation where
  items := items
  passes := passes
  refill c r b n := { c with items := r, dirty := b, passes := n }
  cramped c := c.size.isEmpty
  key _ := Layer.z
  refuses _ := refuses
  calls := calls
  calls_refill _ _ _ _ _ _ := rfl
  calls_unnamed := calls_unnamed
  pass_steady := pass_steady

end LayerStack

end ResponsiveLayout
