import Mathlib.Data.List.Dedup
import ResponsiveLayout.Proofs.Host.Recorder

/-! What a recorder keeps of widgets that are placed and moved in turn: the last frame of each, and the
stacking order. Widgets that are raised one after the other end up on top, and one that is raised
several times lies where the last time left it. -/
namespace ResponsiveLayout

variable {α β : Type}

namespace Recorder

def put (frame : Rect α) (w : Widget) (r : Recorder α) : Recorder α :=
  (r.place w (.frame frame)).restack w .raise

theorem isDestroyed_congr {r r' : Recorder α} (hdestroyed : r'.destroyed = r.destroyed) :
    r'.isDestroyed = r.isDestroyed := by
  funext w
  rw [isDestroyed, hdestroyed, isDestroyed]

theorem isDestroyed_destroy (r : Recorder α) (w u : Widget) :
    (r.destroy w).isDestroyed u = (decide (u = w) || r.isDestroyed u) := by
  change (w :: r.destroyed).contains u = _
  rw [List.contains_cons]
  rfl

/-- Changes made in turn on behalf of widgets reach the ones that are alive. -/
theorem attempt_ifAlive (w : β → Widget) {f : β → Recorder α → Recorder α}
    (hf : ∀ b r, (f b r).destroyed = r.destroyed) (bs : List β) (r : Recorder α) :
    (attempt (fun b => ifAlive (w b) (f b)) bs r).1.2 = bs.filter (fun b => r.isDestroyed (w b)) ∧
      (attempt (fun b => ifAlive (w b) (f b)) bs r).2 =
        (bs.filter fun b => !r.isDestroyed (w b)).foldl (fun r b => f b r) r := by
  induction bs generalizing r with
  | nil => exact ⟨rfl, rfl⟩
  | cons b bs ih =>
    rw [attempt_cons, List.filter_cons, List.filter_cons]
    cases hb : r.isDestroyed (w b) with
    | true =>
      have hcall : ifAlive (w b) (f b) r = (.error (.destroyed (w b)), r) := if_pos hb
      rw [hcall]
      exact ⟨congrArg (b :: ·) (ih r).1, (ih r).2⟩
    | false =>
      have hcall : ifAlive (w b) (f b) r = (.ok (), f b r) := if_neg (Bool.eq_false_iff.mp hb)
      obtain ⟨hrefused, hstate⟩ := ih (f b r)
      rw [isDestroyed_congr (hf b r)] at hrefused hstate
      rw [hcall]
      exact ⟨hrefused, hstate⟩

section

variable (m : Restack) (w : Widget) (frame : Rect α) (r : Recorder α)

theorem moveTo_moveTo (order : List Widget) : moveTo m w (moveTo m w order) = moveTo m w order := by
  cases m <;> simp [moveTo]

theorem foldl_moveTo_replicate (n : Nat) (order : List Widget) :
    (List.replicate (n + 1) w).foldl (fun order w => moveTo m w order) order = moveTo m w order := by
  induction n with
  | zero => rfl
  | succ n ih => rw [List.replicate_succ', List.foldl_append, ih]; exact moveTo_moveTo m w order

/-- Raised in turn, widgets lie on top of all others, each where it was raised last. -/
theorem foldl_raise (ws order : List Widget) :
    ws.foldl (fun order w => moveTo .raise w order) order =
      order.filter (· ∉ ws) ++ ws.dedup := by
  induction ws generalizing order with
  | nil =>
    rw [List.dedup_nil, List.append_nil]
    exact (List.filter_eq_self.mpr fun _ _ => decide_eq_true List.not_mem_nil).symm
  | cons w ws ih =>
    have hbelow : (order.filter (· ≠ w)).filter (· ∉ ws) = order.filter (· ∉ w :: ws) := by
      rw [List.filter_filter]
      refine List.filter_congr fun u _ => ?_
      rw [Bool.eq_iff_iff, Bool.and_eq_true, decide_eq_true_iff, decide_eq_true_iff,
        decide_eq_true_iff, List.mem_cons, not_or]
      exact and_comm
    rw [List.foldl_cons, ih, moveTo, List.filter_append, hbelow, List.append_assoc]
    congr 1
    -- This time counts for `w` only if it is not raised again.
    by_cases hw : w ∈ ws
    · rw [List.dedup_cons_of_mem hw, List.filter_singleton, decide_eq_false (not_not_intro hw)]
      rfl
    · rw [List.dedup_cons_of_notMem hw, List.filter_singleton, decide_eq_true hw]
      rfl

theorem destroyed_put : (r.put frame w).destroyed = r.destroyed := rfl

theorem destroyed_restack : (r.restack w m).destroyed = r.destroyed := rfl

theorem placementsOf_restack (u : Widget) :
    (r.restack w m).placementsOf u = r.placementsOf u := by
  rw [placementsOf, restack, List.filterMap_append]
  exact List.append_nil _

theorem placementsOf_place (p : Placement α) (u : Widget) :
    (r.place w p).placementsOf u = if w = u then r.placementsOf u ++ [p] else r.placementsOf u := by
  rw [placementsOf, place, List.filterMap_append, List.filterMap_cons, List.filterMap_nil]
  dsimp only
  by_cases hw : w = u
  · rw [if_pos hw, if_pos hw]
    rfl
  · rw [if_neg hw, if_neg hw]
    exact List.append_nil _

theorem frame?_restack (u : Widget) : (r.restack w m).frame? u = r.frame? u := by
  rw [frame?, lastPlacement?, placementsOf_restack]
  rfl

theorem frame?_place (u : Widget) :
    (r.place w (.frame frame)).frame? u = if w = u then some frame else r.frame? u := by
  rw [frame?, lastPlacement?, placementsOf_place]
  by_cases hw : w = u
  · rw [if_pos hw, if_pos hw, List.getLast?_concat]
  · rw [if_neg hw, if_neg hw]
    rfl

theorem frame?_put (u : Widget) :
    (r.put frame w).frame? u = if w = u then some frame else r.frame? u := by
  rw [put, frame?_restack, frame?_place]

theorem stacking_foldl_restack (ws : List Widget) :
    (ws.foldl (fun r w => r.restack w m) r).stacking =
      ws.foldl (fun order w => moveTo m w order) r.stacking :=
  (List.foldl_hom stacking fun _ _ => rfl).symm

theorem stacking_foldl_put (ws : List Widget) :
    (ws.foldl (fun r w => r.put frame w) r).stacking =
      ws.foldl (fun order w => moveTo .raise w order) r.stacking :=
  (List.foldl_hom stacking fun _ _ => rfl).symm

/-- What no change made for a widget concerns stays the same when changes are made in turn. -/
theorem foldl_kept {γ : Type} (kept : Recorder α → γ) {f : Widget → Recorder α → Recorder α}
    (hf : ∀ w r, kept (f w r) = kept r) (ws : List Widget) :
    kept (ws.foldl (fun r w => f w r) r) = kept r := by
  induction ws generalizing r with
  | nil => rfl
  | cons w ws ih => rw [List.foldl_cons, ih, hf]

variable {r}

theorem frame?_foldl_put (ws : List Widget) {u : Widget} (hu : u ∈ ws ∨ r.frame? u = some frame) :
    (ws.foldl (fun r w => r.put frame w) r).frame? u = some frame := by
  induction ws generalizing r with
  | nil => exact hu.resolve_left List.not_mem_nil
  | cons w ws ih =>
    rw [List.foldl_cons]
    apply ih
    rw [frame?_put]
    by_cases hw : w = u
    · exact .inr (if_pos hw)
    · rw [if_neg hw]
      exact hu.imp_left fun hmem => (List.mem_cons.mp hmem).resolve_left (Ne.symm hw)

end

end Recorder

end ResponsiveLayout
