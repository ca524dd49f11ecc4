import ResponsiveLayout.Proofs.Container.Visits
import ResponsiveLayout.Proofs.Table

/-! Spans by tier, mobile first. Whatever was set in whatever order, an item has the span that was given last
to the widest tier with a span of its own up to the tier in question. Only at the greatest place of 64 bits
there is no answer. In a grid the span of an item is this one, brought into the range of the columns, and a
pass tries the item in a cell of just this span. -/
namespace ResponsiveLayout

variable {α β σ : Type}

/-- The value of the last of the first `n` places that has one of its own. -/
inductive Nearest (own : ℕ → Option β) (n : ℕ) : Option β → Prop
  | own {i : ℕ} {v : β} (hi : i < n) (hv : own i = some v) (hlast : ∀ j, i < j → j < n → own j = none) :
      Nearest own n (some v)
  | unset (hnone : ∀ i < n, own i = none) : Nearest own n none

namespace Nearest

variable {own : ℕ → Option β} {n : ℕ} {value value' : Option β}

/-- One place more: its own value hides those before it. -/
theorem succ (h : Nearest own n value) : Nearest own (n + 1) ((own n).or value) := by
  cases hown : own n with
  | some v => exact .own n.lt_succ_self hown fun j hj hjn => by omega
  | none =>
    have hextend {i : ℕ} (hlast : ∀ j, i ≤ j → j < n → own j = none) (j : ℕ) (hij : i ≤ j)
        (hj : j < n + 1) : own j = none := by
      rcases Nat.lt_succ_iff_lt_or_eq.mp hj with hj | rfl
      · exact hlast j hij hj
      · exact hown
    cases h with
    | own hi hv hlast => exact .own (by omega) hv (hextend hlast)
    | unset hnone => exact .unset fun i hi => hextend (fun j _ => hnone j) i i.zero_le hi

theorem unique (h : Nearest own n value) (h' : Nearest own n value') : value = value' := by
  cases h with
  | unset hnone =>
    cases h' with
    | unset => rfl
    | own hi hv => simp [hnone _ hi] at hv
  | @own i v hi hv hlast =>
    cases h' with
    | unset hnone => simp [hnone _ hi] at hv
    | @own i' v' hi' hv' hlast' =>
      rcases lt_trichotomy i i' with hless | rfl | hless
      · simp [hlast i' hless hi'] at hv'
      · rw [← hv, hv']
      · simp [hlast' i hless hi] at hv

end Nearest

/-- The last value that a function has on the first elements of a list. -/
theorem nearest_getLast?_take {γ : Type} (f : γ → Option β) (xs : List γ) (n : ℕ) :
    Nearest (fun i => xs[i]?.bind f) n ((xs.take n).filterMap f).getLast? := by
  induction n with
  | zero => exact .unset fun i hi => absurd hi i.not_lt_zero
  | succ n ih =>
    have hstep : ((xs.take (n + 1)).filterMap f).getLast? =
        (xs[n]?.bind f).or ((xs.take n).filterMap f).getLast? := by
      rw [List.take_add_one, List.filterMap_append, List.getLast?_append]
      cases hx : xs[n]? with
      | none => simp
      | some x => cases hf : f x <;> simp [hf]
    rw [hstep]
    exact ih.succ

namespace Spans

/-- The span that the tier at a place was given last, if there is such a tier and it was given one. -/
def own? (b : Breakpoints α) (settings : List (String × UInt16)) (i : ℕ) : Option UInt16 :=
  b.names[i]?.bind fun name => lastValue? name settings

theorem get?_ofList_eq (settings : List (String × UInt16)) :
    (Table.ofList settings).get? = fun name => lastValue? name settings :=
  funext fun name => Table.get?_ofList name settings

theorem nearest_lastOf (b : Breakpoints α) (settings : List (String × UInt16)) (count : ℕ) :
    Nearest (own? b settings) count (Spans.lastOf (Table.ofList settings) b count) := by
  rw [lastOf, get?_ofList_eq]
  exact nearest_getLast?_take _ b.names count

theorem inherited_of_lt (s : Spans) (b : Breakpoints α) {t : ℕ} (ht : t + 1 < 2 ^ 64) :
    s.inherited b t = .ok (s.lastOf b (t + 1)) := if_pos ht

theorem inherited_of_le (s : Spans) (b : Breakpoints α) {t : ℕ} (ht : 2 ^ 64 ≤ t + 1) :
    s.inherited b t = .error ⟨t⟩ := if_neg (Nat.not_lt.mpr ht)

theorem lastOf_congr (b : Breakpoints α) {settings settings' : List (String × UInt16)}
    (hsame : ∀ name ∈ b.names, settings.filter (·.1 == name) = settings'.filter (·.1 == name)) (count : ℕ) :
    Spans.lastOf (Table.ofList settings) b count = Spans.lastOf (Table.ofList settings') b count := by
  rw [lastOf, lastOf, get?_ofList_eq, get?_ofList_eq]
  refine congrArg List.getLast? (List.filterMap_congr fun name hname => ?_)
  rw [lastValue?, lastValue?, hsame name (List.mem_of_mem_take hname)]

/-- Only what was set for the tiers of the table counts, and for each of them in its own order. -/
theorem inherited_congr (b : Breakpoints α) {settings settings' : List (String × UInt16)}
    (hsame : ∀ name ∈ b.names, settings.filter (·.1 == name) = settings'.filter (·.1 == name)) (t : ℕ) :
    Spans.inherited (Table.ofList settings) b t = Spans.inherited (Table.ofList settings') b t := by
  rw [inherited, inherited, lastOf_congr b hsame]

end Spans

namespace Grid

theorem trials_colSpan (g : Grid α) (c : Cursor) (xs : List (Slot (Item α) × Except HostError Unit)) :
    ∀ t ∈ g.trials c xs, t.cell.colSpan = g.spanOf t.slot.item := by
  induction xs generalizing c with
  | nil => exact List.forall_mem_nil _
  | cons x xs ih => exact List.forall_mem_cons.mpr ⟨trial_colSpan g c x.1 x.2, ih _⟩

/-- Every item is tried once, in a cell of its span, whatever the host answers. -/
theorem pass_spans (h : Host α σ) (g : Grid α) (s : σ) (log : List (Exchange α)) :
    ∃ ts : List (Trial α), g.items.Ordered Item.order (ts.map Trial.slot) ∧
      (∀ t ∈ ts, t.cell.colSpan = g.spanOf t.slot.item) ∧
      (g.pass h.transcribed (s, log)).2.2 =
        log ++ ⟨.configureGrid g.tracks, .carriedOut (.ok ())⟩ :: ts.map Trial.exchange := by
  obtain ⟨xs, hxs, hlog⟩ := pass_trials h g s log
  refine ⟨g.trials ⟨0, 0⟩ xs, ?_, trials_colSpan g _ xs, hlog⟩
  rw [trials_slot, hxs]
  exact g.items.ordered_inOrder Item.order

/-- The span of an item in a grid is the one it inherits, or the number of columns, brought into the range
from one to the number of columns. -/
theorem toNat_spanOf (g : Grid α) {item : Item α} {settings : List (String × UInt16)}
    (hitem : item.spans = Table.ofList settings) {r : Option UInt16}
    (hr : Nearest (Spans.own? g.breakpoints settings) (g.tier + 1) r) :
    (g.spanOf item).toNat = max 1 (min (r.getD g.columns).toNat g.columns.toNat) := by
  have hcolumns : 0 < g.columns.toNat := UInt16.lt_iff_toNat_lt.mp g.columns_pos
  rw [spanOf, hitem, (Spans.nearest_lastOf g.breakpoints settings _).unique hr, toNat_clampSpan]
  omega

end Grid

/-- Spans are inherited mobile first: at a tier that can be counted up to, the span is the one given last to
the widest tier up to it that was given one, whatever the unknown names and the order between tiers were; at
the greatest place of 64 bits the count of tiers overflows. A grid tries its items in cells of these spans,
brought into the range of its columns. -/
theorem inherited_mobile_first [Scalar α] (b : Breakpoints α) (settings : List (String × UInt16)) :
    (∀ t, t + 1 < 2 ^ 64 → ∀ r, Spans.inherited (Table.ofList settings) b t = .ok r ↔
        Nearest (Spans.own? b settings) (t + 1) r) ∧
      Spans.inherited (Table.ofList settings) b (2 ^ 64 - 1) = .error ⟨2 ^ 64 - 1⟩ ∧
      (∀ settings' : List (String × UInt16),
        (∀ name ∈ b.names, settings.filter (·.1 == name) = settings'.filter (·.1 == name)) →
        ∀ t, Spans.inherited (Table.ofList settings) b t = Spans.inherited (Table.ofList settings') b t) ∧
      (∀ (g : Grid α) (item : Item α), g.breakpoints = b → item.spans = Table.ofList settings →
        ∀ r, Nearest (Spans.own? b settings) (g.tier + 1) r →
        (g.spanOf item).toNat = max 1 (min (r.getD g.columns).toNat g.columns.toNat)) ∧
      ∀ (g : Grid α) (h : Host α σ) (s : σ) (log : List (Exchange α)), g.isReady = true →
        ∃ ts : List (Trial α), g.items.Ordered Item.order (ts.map Trial.slot) ∧
          (∀ t ∈ ts, t.cell.colSpan = g.spanOf t.slot.item) ∧
          (g.relayout h.transcribed (s, log)).2.2 =
            log ++ ⟨.configureGrid g.tracks, .carriedOut (.ok ())⟩ :: ts.map Trial.exchange := by
  refine ⟨fun t ht r => ?_, Spans.inherited_of_le _ b (by decide), fun settings' hsame => ?_, ?_, ?_⟩
  · have hnearest := Spans.nearest_lastOf b settings (t + 1)
    rw [Spans.inherited_of_lt _ b ht]
    refine ⟨fun hr => Except.ok.inj hr ▸ hnearest, fun hr => ?_⟩
    rw [hnearest.unique hr]
  · exact Spans.inherited_congr b hsame
  · rintro g item rfl hitem r hr
    exact g.toNat_spanOf hitem hr
  · intro g h s log hready
    rw [Grid.relayout_eq, if_pos hready]
    exact g.pass_spans h s log

/-- One tier that was given a span: the greatest place lies beyond it, and there is no answer. -/
theorem inherited_overflows_at_greatest :
    let b : Breakpoints Float32 := ⟨Table.ofList [("xs", 0)]⟩
    let settings : List (String × UInt16) := [("xs", 3)]
    Breakpoints.ofList [("xs", 0)] = .ok b ∧
      Spans.inherited (Table.ofList settings) b (2 ^ 64 - 1) = .error ⟨2 ^ 64 - 1⟩ ∧
        Nearest (Spans.own? b settings) (2 ^ 64 - 1 + 1) (some 3) := by
  refine ⟨by decide +kernel, Spans.inherited_of_le _ _ (by decide), ?_⟩
  refine .own (i := 0) (by decide) rfl fun j hj _ => ?_
  have hbeyond : (["xs"] : List String)[j]? = none := List.getElem?_eq_none hj
  exact congrArg (Option.bind · _) hbeyond

end ResponsiveLayout
