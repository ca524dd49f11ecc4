import Mathlib.Data.List.Induction
import ResponsiveLayout.Proofs.Host.Stacking
import ResponsiveLayout.Proofs.Host.Steady

/-! A recorder through any history of calls, new sizes, ends of widgets and takings of the record. What it
refuses, what it has on record and how the widgets lie is told by the history alone: a widget that was
destroyed stays so, a call about it leaves no trace, and the order is that of all moves ever asked for,
without the widgets that were destroyed. -/
namespace ResponsiveLayout

variable {α : Type}

theorem filterMap_concat {β γ : Type} (f : β → Option γ) (bs : List β) (b : β) :
    (bs ++ [b]).filterMap f = bs.filterMap f ++ (f b).toList := by
  rw [List.filterMap_append, List.filterMap_cons, List.filterMap_nil]
  cases f b <;> rfl

namespace Call

def widget? : Call α → Option Widget
  | measure w | place w _ | restack w _ => some w
  | configureGrid _ => none

/-- What is put on record of a call that is carried out. -/
def command? : Call α → Option (Command α)
  | place w p => some (.place w p)
  | restack w m => some (.restack w m)
  | measure _ | configureGrid _ => none

/-- What a call that is carried out makes of a stacking order. -/
def reorder (order : List Widget) : Call α → List Widget
  | restack w m => Recorder.moveTo m w order
  | measure _ | place _ _ | configureGrid _ => order

end Call

namespace Recorder

def replay (moves : List (Restack × Widget)) : List Widget :=
  moves.foldl (fun order x => moveTo x.1 x.2 order) []

theorem nodup_moveTo {order : List Widget} (horder : order.Nodup) (m : Restack) (w : Widget) :
    (moveTo m w order).Nodup := by
  have hothers : (order.filter (· ≠ w)).Nodup := horder.filter _
  have hnot : w ∉ order.filter (· ≠ w) := fun hw => of_decide_eq_true (List.mem_filter.mp hw).2 rfl
  cases m with
  | raise => exact List.nodup_append_comm.mp (List.nodup_cons.mpr ⟨hnot, hothers⟩)
  | lower => exact List.nodup_cons.mpr ⟨hnot, hothers⟩

theorem replay_concat (moves : List (Restack × Widget)) (m : Restack) (w : Widget) :
    replay (moves ++ [(m, w)]) = moveTo m w (replay moves) :=
  List.foldl_concat _ _ _ _

theorem nodup_replay (moves : List (Restack × Widget)) : (replay moves).Nodup := by
  induction moves using List.reverseRecOn with
  | nil => exact List.nodup_nil
  | append_singleton moves x ih =>
    rw [replay_concat]
    exact nodup_moveTo ih x.1 x.2

theorem filter_ne_moveTo (m : Restack) (w : Widget) (order : List Widget) :
    (moveTo m w order).filter (· ≠ w) = order.filter (· ≠ w) := by
  cases m <;> simp [moveTo]

/-- Among certain widgets, only the moves of these widgets count. -/
theorem filter_moveTo (p : Widget → Bool) (m : Restack) (w : Widget) (order : List Widget) :
    (moveTo m w order).filter p = if p w then moveTo m w (order.filter p) else order.filter p := by
  have hothers : (order.filter (· ≠ w)).filter p = (order.filter p).filter (· ≠ w) :=
    List.filter_comm _ _ _
  split
  · next hw => cases m <;> simp only [moveTo, List.filter_append, List.filter_cons, hw, hothers] <;> rfl
  · next hw =>
    have hnone : (order.filter p).filter (· ≠ w) = order.filter p := by
      refine List.filter_eq_self.mpr fun u hu => decide_eq_true fun heq => hw ?_
      rw [← heq]
      exact (List.mem_filter.mp hu).2
    have hkept := hothers.trans hnone
    cases m <;> simp only [moveTo, List.filter_append, List.filter_cons, hw, hkept] <;> simp

variable [Scalar α] {r : Recorder α} {c : Call α}

theorem refused_iff :
    (⟨c, (host.call c r).1⟩ : Exchange α).refused = true ↔
      ∃ w, c.widget? = some w ∧ r.isDestroyed w = true := by
  rw [r.host_steady.answer c r ⟨rfl, rfl⟩]
  cases c with
  | measure w | place w p | restack w m =>
    cases hw : r.isDestroyed w <;> simp [Answers.answer, answers, Recorder.measure, Exchange.refused,
      Except.isOk, Except.toBool, Call.widget?, hw]
  | configureGrid t =>
    simp [Answers.answer, Exchange.refused, Except.isOk, Except.toBool, Call.widget?]

theorem call_of_refused (hc : (⟨c, (host.call c r).1⟩ : Exchange α).refused = true) :
    (host.call c r).2 = r := by
  obtain ⟨w, hw, hdestroyed⟩ := refused_iff.mp hc
  have hkept (f : Recorder α → Recorder α) : (ifAlive w f r).2 = r :=
    congrArg Prod.snd (if_pos hdestroyed)
  cases c with
  | measure => rfl
  | place | restack =>
    obtain rfl := Option.some.inj hw
    exact hkept _
  | configureGrid => cases hw

/-- A call that is carried out goes on record and moves its widget if it says so. -/
theorem call_of_not_refused (hc : (⟨c, (host.call c r).1⟩ : Exchange α).refused = false) :
    (host.call c r).2.commands = r.commands ++ c.command?.toList ∧
      (host.call c r).2.stacking = c.reorder r.stacking := by
  have hdone {w : Widget} (hw : c.widget? = some w) (f : Recorder α → Recorder α) :
      (ifAlive w f r).2 = f r := by
    have halive : ¬ r.isDestroyed w = true := fun hdestroyed =>
      Bool.eq_false_iff.mp hc (refused_iff.mpr ⟨w, hw, hdestroyed⟩)
    exact congrArg Prod.snd (if_neg halive)
  cases c with
  | measure | configureGrid => exact ⟨(List.append_nil _).symm, rfl⟩
  | place w p =>
    change (ifAlive w (place w p) r).2.commands = _ ∧ (ifAlive w (place w p) r).2.stacking = _
    rw [hdone rfl]
    exact ⟨rfl, rfl⟩
  | restack w m =>
    change (ifAlive w (restack w m) r).2.commands = _ ∧ (ifAlive w (restack w m) r).2.stacking = _
    rw [hdone rfl]
    exact ⟨rfl, rfl⟩

end Recorder

inductive RecorderEvent (α : Type) where
  | call (c : Call α)
  | newSize (w : Widget) (size : Size α)
  | destruction (w : Widget)
  | taking

namespace RecorderEvent

def destroyed? : RecorderEvent α → Option Widget
  | destruction w => some w
  | call _ | newSize _ _ | taking => none

def move? : RecorderEvent α → Option (Restack × Widget)
  | call (.restack w m) => some (m, w)
  | call _ | newSize _ _ | destruction _ | taking => none

/-- Whether an event is the end of a widget or asks for a move. -/
def reorders (e : RecorderEvent α) : Bool := e.destroyed?.isSome || e.move?.isSome

theorem eq_none_of_not_reorders {e : RecorderEvent α} (he : e.reorders = false) :
    e.destroyed? = none ∧ e.move? = none := by
  simpa [reorders] using he

theorem filterMap_filter_reorders {β : Type} {f : RecorderEvent α → Option β}
    (hf : ∀ e, e.reorders = false → f e = none) (es : List (RecorderEvent α)) :
    (es.filter reorders).filterMap f = es.filterMap f := by
  rw [List.filterMap_filter]
  refine List.filterMap_congr fun e _ => ?_
  cases he : e.reorders with
  | true => rfl
  | false => exact (hf e he).symm

def destroyed (es : List (RecorderEvent α)) : List Widget := es.filterMap destroyed?

/-- The moves that a history asks for, carried out or not. -/
def moves (es : List (RecorderEvent α)) : List (Restack × Widget) := es.filterMap move?

/-- The events of a history, each with what happened before it, behind a past. -/
def momentsFrom (past : List (RecorderEvent α)) :
    List (RecorderEvent α) → List (List (RecorderEvent α) × RecorderEvent α)
  | [] => []
  | e :: es => (past, e) :: momentsFrom (past ++ [e]) es

def moments (es : List (RecorderEvent α)) : List (List (RecorderEvent α) × RecorderEvent α) :=
  momentsFrom [] es

/-- What an event puts on record after some past: nothing if it is no call, or one about a widget that
has been destroyed. -/
def recorded? (past : List (RecorderEvent α)) : RecorderEvent α → Option (Command α)
  | call c => if c.widget?.any (· ∈ destroyed past) then none else c.command?
  | newSize _ _ | destruction _ | taking => none

theorem momentsFrom_append (past es es' : List (RecorderEvent α)) :
    momentsFrom past (es ++ es') = momentsFrom past es ++ momentsFrom (past ++ es) es' := by
  induction es generalizing past with
  | nil => rw [List.append_nil]; rfl
  | cons e es ih =>
    rw [List.cons_append, momentsFrom, ih, List.append_assoc]
    rfl

theorem moments_concat (es : List (RecorderEvent α)) (e : RecorderEvent α) :
    moments (es ++ [e]) = moments es ++ [(es, e)] :=
  momentsFrom_append [] es [e]

variable [Scalar α]

def step (r : Recorder α) : RecorderEvent α → Recorder α
  | call c => (Recorder.host.call c r).2
  | newSize w size => r.setSize w size
  | destruction w => r.destroy w
  | taking => r.clearCommands

def run (es : List (RecorderEvent α)) : Recorder α := es.foldl step .empty

def takes (r : Recorder α) : RecorderEvent α → List (Command α)
  | taking => r.commands
  | call _ | newSize _ _ | destruction _ => []

/-- What a history has taken from the record. -/
def taken (es : List (RecorderEvent α)) : List (Command α) :=
  (moments es).flatMap fun m => takes (run m.1) m.2

def asked (es : List (RecorderEvent α)) (c : Call α) : Exchange α :=
  ⟨c, (Recorder.host.call c (run es)).1⟩

theorem run_concat (es : List (RecorderEvent α)) (e : RecorderEvent α) :
    run (es ++ [e]) = step (run es) e :=
  List.foldl_concat step _ e es

theorem destroyed_run (es : List (RecorderEvent α)) :
    (run es).destroyed = (destroyed es).reverse := by
  induction es using List.reverseRecOn with
  | nil => rfl
  | append_singleton es e ih =>
    rw [run_concat, destroyed, filterMap_concat, List.reverse_append, ← destroyed, ← ih]
    cases e with
    | call c => exact ((run es).host_steady.kept c (run es) ⟨rfl, rfl⟩).2
    | newSize | destruction | taking => rfl

theorem isDestroyed_run {es : List (RecorderEvent α)} {w : Widget} :
    (run es).isDestroyed w = true ↔ w ∈ destroyed es := by
  rw [Recorder.isDestroyed, destroyed_run, List.contains_iff_mem, List.mem_reverse]

theorem refused_asked_iff {es : List (RecorderEvent α)} {c : Call α} :
    (asked es c).refused = true ↔ ∃ w, c.widget? = some w ∧ w ∈ destroyed es :=
  Recorder.refused_iff.trans <| exists_congr fun _ => and_congr_right fun _ => isDestroyed_run

theorem takes_append_commands (es : List (RecorderEvent α)) (e : RecorderEvent α) :
    takes (run es) e ++ (step (run es) e).commands =
      (run es).commands ++ (recorded? es e).toList := by
  cases e with
  | call c =>
    have hdead : c.widget?.any (· ∈ destroyed es) = (asked es c).refused := by
      rw [Bool.eq_iff_iff, refused_asked_iff]
      cases c.widget? <;> simp
    rw [recorded?, hdead]
    cases hc : (asked es c).refused with
    | true =>
      rw [if_pos rfl, step, Recorder.call_of_refused hc]
      exact (List.append_nil _).symm
    | false => exact (Recorder.call_of_not_refused hc).1
  | newSize | destruction => exact (List.append_nil _).symm
  | taking => rfl

/-- What was taken and what is still on record are together what was recorded, in order: taking neither
loses nor doubles anything, and nothing else takes anything away. -/
theorem taken_append_commands (es : List (RecorderEvent α)) :
    taken es ++ (run es).commands = (moments es).filterMap fun m => recorded? m.1 m.2 := by
  induction es using List.reverseRecOn with
  | nil => rfl
  | append_singleton es e ih =>
    rw [taken, moments_concat, List.flatMap_append, ← taken, run_concat, List.flatMap_singleton,
      List.append_assoc, takes_append_commands, ← List.append_assoc, ih, filterMap_concat]

/-- A call changes the order of a recorder as it says, unless it is about a destroyed widget. -/
theorem stacking_call (es : List (RecorderEvent α)) (c : Call α) :
    (run (es ++ [call c])).stacking =
      if (asked es c).refused then (run es).stacking else c.reorder (run es).stacking := by
  rw [run_concat]
  cases hc : (asked es c).refused with
  | true => rw [if_pos rfl, step, Recorder.call_of_refused hc]
  | false => exact (Recorder.call_of_not_refused hc).2

/-- The widgets lie as all moves that were ever asked for would leave them, without those that were
destroyed. A move that was refused is one of a widget that does not count any more. -/
theorem stacking_run (es : List (RecorderEvent α)) :
    (run es).stacking = (Recorder.replay (moves es)).filter (· ∉ destroyed es) := by
  induction es using List.reverseRecOn with
  | nil => rfl
  | append_singleton es e ih =>
    rw [moves, destroyed, filterMap_concat, filterMap_concat, ← moves, ← destroyed]
    cases e with
    | call c =>
      change _ = (Recorder.replay _).filter (· ∉ destroyed es ++ [])
      rw [stacking_call, ih, List.append_nil]
      cases c with
      | restack w m =>
        have hdead : (asked es (.restack w m)).refused = decide (w ∈ destroyed es) := by
          rw [Bool.eq_iff_iff, refused_asked_iff]
          simp [Call.widget?]
        change _ = (Recorder.replay (moves es ++ [(m, w)])).filter (· ∉ destroyed es)
        rw [hdead, Recorder.replay_concat, Recorder.filter_moveTo]
        by_cases hw : w ∈ destroyed es <;> simp [hw, Call.reorder]
      | measure | place | configureGrid =>
        change (if _ then _ else _) = (Recorder.replay (moves es ++ [])).filter _
        rw [List.append_nil, Call.reorder, ite_self]
    | newSize | taking =>
      rw [run_concat]
      change (run es).stacking = (Recorder.replay (moves es ++ [])).filter (· ∉ destroyed es ++ [])
      rw [List.append_nil, List.append_nil, ih]
    | destruction w =>
      rw [run_concat]
      change (run es).stacking.filter (· ≠ w) =
        (Recorder.replay (moves es ++ [])).filter (· ∉ destroyed es ++ [w])
      rw [ih, List.filter_filter, List.append_nil]
      refine List.filter_congr fun u _ => ?_
      rw [← Bool.decide_and]
      refine decide_eq_decide.mpr ?_
      rw [List.mem_append, List.mem_singleton, not_or, and_comm]

/-- What a recorder keeps to, whatever its history. -/
structure Consistent (es : List (RecorderEvent α)) : Prop where
  /-- No widget lies in two places. -/
  nodup : (run es).stacking.Nodup
  /-- No destroyed widget lies anywhere. -/
  alive : ∀ w ∈ (run es).stacking, w ∉ destroyed es
  /-- A call is refused if it is about a destroyed widget, whatever size was set since, and only then. -/
  refused_iff : ∀ c, (asked es c).refused = true ↔ ∃ w, c.widget? = some w ∧ w ∈ destroyed es
  /-- A call that is refused changes nothing. -/
  unchanged : ∀ c, (asked es c).refused = true → run (es ++ [call c]) = run es
  /-- Everything on record, taken or not, is of a call about a widget that was not destroyed by then. -/
  recorded : taken es ++ (run es).commands = (moments es).filterMap fun m => recorded? m.1 m.2
  /-- A widget that is raised lies on top then. -/
  raised : ∀ w, (asked es (.restack w .raise)).refused = false →
    (run (es ++ [call (.restack w .raise)])).stacking.getLast? = some w
  /-- A widget that is lowered lies at the bottom then. -/
  lowered : ∀ w, (asked es (.restack w .lower)).refused = false →
    (run (es ++ [call (.restack w .lower)])).stacking.head? = some w
  /-- The others stay as they lie. -/
  others : ∀ w m, (asked es (.restack w m)).refused = false →
    (run (es ++ [call (.restack w m)])).stacking.filter (· ≠ w) = (run es).stacking.filter (· ≠ w)
  /-- Moves and destructions alone lead to the same order, and it is that of all moves without the
  destroyed widgets. -/
  replayed : (run (es.filter reorders)).stacking = (run es).stacking ∧
    (run es).stacking = (Recorder.replay (moves es)).filter (· ∉ destroyed es)

/-- Whatever happens to a new recorder, it stays consistent: in its order, in what it refuses and records, and
in what comes of its moves. -/
theorem run_consistent (es : List (RecorderEvent α)) : Consistent es where
  nodup := by
    rw [stacking_run]
    exact (Recorder.nodup_replay _).filter _
  alive w hw := by
    rw [stacking_run] at hw
    exact of_decide_eq_true (List.mem_filter.mp hw).2
  refused_iff c := refused_asked_iff
  unchanged c hc := by
    rw [run_concat]
    exact Recorder.call_of_refused hc
  recorded := taken_append_commands es
  raised w hw := by
    rw [stacking_call, hw, if_neg Bool.false_ne_true]
    exact List.getLast?_concat
  lowered w hw := by
    rw [stacking_call, hw, if_neg Bool.false_ne_true]
    rfl
  others w m hw := by
    rw [stacking_call, hw, if_neg Bool.false_ne_true]
    exact Recorder.filter_ne_moveTo m w _
  replayed := by
    have hdestroyed : destroyed (es.filter reorders) = destroyed es :=
      filterMap_filter_reorders (fun _ he => (eq_none_of_not_reorders he).1) es
    have hmoves : moves (es.filter reorders) = moves es :=
      filterMap_filter_reorders (fun _ he => (eq_none_of_not_reorders he).2) es
    rw [stacking_run, stacking_run, hdestroyed, hmoves]
    exact ⟨rfl, rfl⟩

end RecorderEvent

end ResponsiveLayout
