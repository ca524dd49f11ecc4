import ResponsiveLayout.Proofs.Reentry.Replay

/-! The order in which a gated container is handed its operations. A call from outside is followed
by the replays that the requests made meanwhile lead to, one after the other; requests made during
an operation only wait, and requests made while somebody reads the container come to nothing. -/
namespace ResponsiveLayout

variable {α σ τ β C R : Type}

/-- A container that keeps what it was asked for, oldest first. -/
structure Logged (α C : Type) where
  container : C
  log : List (Pending α)

namespace Logged

def new (c : C) : Logged α C := ⟨c, []⟩

variable [Container C α]

/-- Carry out what the container is asked for and log it. -/
def answer (h : Host α σ) (p : Pending α) (c : Logged α C) : StateM σ (Logged α C) :=
  (fun c' => ⟨c', c.log ++ [p]⟩) <$> Guarded.replay h p c.container

theorem answer_lockstep {P : σ → τ → Prop} {h : Host α σ} {k : Host α τ} (hk : h.Lockstep P k)
    (p : Pending α) (c : Logged α C) : Lockstep P (answer h p c) (answer k p c) :=
  .map _ (Guarded.replay_lockstep hk p c.container)

instance : Container (Logged α C) α where
  relayout h c := answer h .relayout c
  resize h size c := answer h (.resize size) c
  isDirty c := Container.isDirty c.container
  itemCount c := Container.itemCount c.container
  relayout_lockstep hk c := answer_lockstep hk _ c
  resize_lockstep hk _ c := answer_lockstep hk _ c

theorem replay_eq (h : Host α σ) (p : Pending α) (c : Logged α C) :
    Guarded.replay h p c = answer h p c := by
  cases p <;> rfl

end Logged

namespace Change

variable [Container C α]

def pending (p : Pending α) : Change α C Unit where
  apply h c := do pure ((), ← Guarded.replay h p c)
  apply_lockstep hk c := .bind (Guarded.replay_lockstep hk p c) fun _ => .pure _

/-- The change of the container in a log, which notes nothing. -/
def logged (f : Change α C R) : Change α (Logged α C) R where
  apply h c := (fun x => (x.1, ⟨x.2, c.log⟩)) <$> f.apply h c.container
  apply_lockstep hk c := .map _ (f.apply_lockstep hk c.container)

end Change

section

variable [Container C α] {h : ReentrantHost α σ}

/-- The log of a container is what the turns asked for, and logging changes nothing else. -/
theorem Replays.logged {n : Nat} {heard left : List (Request α)} {start stop : C × σ}
    {turns : List (Turn (Pending α) α C)} (hr : Replays h n heard start turns left stop)
    (log : List (Pending α)) :
    ∃ turns', Replays h n heard ((⟨start.1, log⟩ : Logged α C), start.2) turns' left
      (⟨stop.1, log ++ turns.map Turn.asked⟩, stop.2) := by
  induction hr generalizing log with
  | settled hd =>
    rw [List.map_nil, List.append_nil]
    exact ⟨[], .settled hd⟩
  | cutOff =>
    rw [List.map_nil, List.append_nil]
    exact ⟨[], .cutOff⟩
  | @turn n heard c s p c' s' heard' turns left stop hd hp _ ih =>
    -- The turns of the logged container start from logged containers, so they are other turns.
    obtain ⟨turns', hturns⟩ := ih (log ++ [p])
    rw [List.append_assoc, List.singleton_append] at hturns
    have hanswer : Guarded.replay h.overheard p (⟨c, log⟩ : Logged α C) (s, []) =
        (⟨c', log ++ [p]⟩, s', heard') := by
      rw [Logged.replay_eq]
      exact congrArg (fun x => ((⟨x.1, log ++ [p]⟩ : Logged α C), x.2)) hp
    exact ⟨_, .turn hd hanswer hturns⟩

theorem exists_runs (h : ReentrantHost α σ) (f : Change α C R) (c : C) (s : σ) :
    ∃ r turns left stop, Runs h f c s r turns left stop := by
  obtain ⟨turns, left, stop, hr⟩ := exists_replays h maxReplays
    (f.apply h.overheard c (s, [])).2.2
    ((f.apply h.overheard c (s, [])).1.2, (f.apply h.overheard c (s, [])).2.1)
  exact ⟨_, turns, left, stop, _, _, _, rfl, hr⟩

theorem Runs.length_le {f : Change α C R} {c : C} {s : σ} {r : R} {left : List (Request α)}
    {turns : List (Turn (Pending α) α C)} {stop : C × σ} (hr : Runs h f c s r turns left stop) :
    turns.length ≤ maxReplays := by
  obtain ⟨_, _, _, _, hreplays⟩ := hr
  exact hreplays.length_le

theorem Runs.logged {f : Change α C R} {c : C} {s : σ} {r : R} {left : List (Request α)}
    {turns : List (Turn (Pending α) α C)} {stop : C × σ} (hr : Runs h f c s r turns left stop) :
    ∃ turns', Runs h f.logged (Logged.new c : Logged α C) s r turns' left
      (⟨stop.1, turns.map Turn.asked⟩, stop.2) := by
  obtain ⟨c', s', heard, hf, hreplays⟩ := hr
  obtain ⟨turns', hturns⟩ := hreplays.logged []
  refine ⟨turns', ⟨c', []⟩, s', heard, ?_, hturns⟩
  exact congrArg (fun x => ((x.1.1, (⟨x.1.2, []⟩ : Logged α C)), x.2)) hf

theorem Runs.pending_logged {p : Pending α} {c : C} {s : σ} {left : List (Request α)}
    {turns : List (Turn (Pending α) α C)} {stop : C × σ}
    (hr : Runs h (.pending p) c s () turns left stop) :
    ∃ turns', Runs h (.pending p) (Logged.new c : Logged α C) s () turns' left
      (⟨stop.1, p :: turns.map Turn.asked⟩, stop.2) := by
  obtain ⟨c', s', heard, hf, hreplays⟩ := hr
  obtain ⟨turns', hturns⟩ := hreplays.logged [p]
  refine ⟨turns', ⟨c', [p]⟩, s', heard, ?_, hturns⟩
  change (fun x => (((), x.1), x.2)) (Guarded.replay h.overheard p (Logged.new c : Logged α C) (s, [])) = _
  rw [Logged.replay_eq]
  exact congrArg (fun x => (((), (⟨x.1.2, [p]⟩ : Logged α C)), x.2)) hf

end

namespace Guarded

variable [Container C α]

def submitAll (h : ReentrantHost α σ) :
    List (Request α) → Guarded α C → StateM σ (List Reply × Guarded α C)
  | [], c => pure ([], c)
  | r :: rs, c => do
    let (reply, c') ← c.submit h r
    let (replies, c'') ← submitAll h rs c'
    pure (reply :: replies, c'')

theorem submit_active (h : ReentrantHost α σ) (r : Request α) {c : Guarded α C}
    (hc : c.gate.isActive = true) (s : σ) :
    c.submit h r s = ((r.replyDuringPass, { c with gate := c.gate.leave r }), s) := by
  cases r with
  | resize size => simp only [submit, resize, hc, if_true]; rfl
  | relayout => simp only [submit, relayout, hc, if_true]; rfl
  | update => simp only [submit, update, hc, if_true]; rfl
  | inspect => simp only [submit, read, hc, if_true]; rfl

theorem submitAll_active (h : ReentrantHost α σ) (rs : List (Request α)) {c : Guarded α C}
    (hc : c.gate.isActive = true) (s : σ) :
    submitAll h rs c s =
      ((rs.map Request.replyDuringPass, { c with gate := rs.foldl Gate.leave c.gate }), s) := by
  induction rs generalizing c with
  | nil => rfl
  | cons r rs ih =>
    have hnext : ({ c with gate := c.gate.leave r } : Guarded α C).gate.isActive = true := by
      cases r <;> exact hc
    let rest (x : (Reply × Guarded α C) × σ) : (List Reply × Guarded α C) × σ :=
      ((x.1.1 :: (submitAll h rs x.1.2 x.2).1.1, (submitAll h rs x.1.2 x.2).1.2),
        (submitAll h rs x.1.2 x.2).2)
    calc
      submitAll h (r :: rs) c s = rest (c.submit h r s) := rfl
      _ = _ := by
        rw [submit_active h r hc]
        simp only [rest, ih hnext, List.map_cons, List.foldl_cons]

end Guarded

namespace ReentrantHost

variable [Container C α]

/-- Make the requests of a call on the container itself before the call returns. -/
def submitting (h : ReentrantHost α σ) (call : StateM σ (β × List (Request α))) :
    StateM (σ × Guarded α C) β := fun (s, c) =>
  let ((answer, requests), s') := call s
  let ((_, c'), s'') := Guarded.submitAll h requests c s'
  (answer, s'', c')

/-- The host that calls the guarded container back for each of its requests. -/
def calling (h : ReentrantHost α σ) : Host α (σ × Guarded α C) where
  measure w := h.submitting (h.measure w)
  place w p := h.submitting (h.place w p)
  restack w m := h.submitting (h.restack w m)
  configureGrid t := h.submitting (do pure ((), ← h.configureGrid t))

/-- The cell differs from `c` in its gate only, which is that of the gated host and shows an
operation under way. -/
def Follows (c : Guarded α C) (x : σ × Guarded α C) (y : σ × Gate α) : Prop :=
  x = (y.1, { c with gate := y.2 }) ∧ y.2.isActive = true

theorem submitting_lockstep (h : ReentrantHost α σ) (call : StateM σ (β × List (Request α)))
    (c : Guarded α C) : Lockstep (Follows c) (h.submitting call) (leaving call) := by
  rintro _ ⟨s, g⟩ ⟨rfl, hg⟩
  have hs := Guarded.submitAll_active h (call s).1.2 (c := { c with gate := g }) hg (call s).2
  have hactive : ((call s).1.2.foldl Gate.leave g).isActive = true := by
    rw [Gate.foldl_leave]
    exact hg
  refine ⟨rfl, ?_, hactive⟩
  change ((Guarded.submitAll h (call s).1.2 { c with gate := g } (call s).2).2,
    (Guarded.submitAll h (call s).1.2 { c with gate := g } (call s).2).1.2) = _
  rw [hs]
  rfl

theorem calling_lockstep (h : ReentrantHost α σ) (c : Guarded α C) :
    h.calling.Lockstep (Follows c) h.gated where
  measure w := submitting_lockstep h (h.measure w) c
  place w p := submitting_lockstep h (h.place w p) c
  restack w m := submitting_lockstep h (h.restack w m) c
  configureGrid _ := submitting_lockstep h _ c

end ReentrantHost

section

variable [Container C α]

theorem Guarded.resize_new {h : ReentrantHost α σ} {size : Size α} {c : C} {s : σ}
    {turns : List (Turn (Pending α) α C)} {left : List (Request α)} {stop : C × σ}
    (hr : Runs h (.pending (.resize size)) c s () turns left stop) :
    (Guarded.new c).resize h size s = (Guarded.new stop.1, stop.2) :=
  congrArg (fun x : (Option Unit × Guarded α C) × σ => (x.1.2, x.2)) hr.run_eq

theorem Guarded.relayout_new {h : ReentrantHost α σ} {c : C} {s : σ}
    {turns : List (Turn (Pending α) α C)} {left : List (Request α)} {stop : C × σ}
    (hr : Runs h (.pending .relayout) c s () turns left stop) :
    (Guarded.new c).relayout h s = (Guarded.new stop.1, stop.2) :=
  congrArg (fun x : (Option Unit × Guarded α C) × σ => (x.1.2, x.2)) hr.run_eq

theorem Guarded.update_new {h : ReentrantHost α σ} {f : Change α C R} {c : C} {s : σ} {r : R}
    {turns : List (Turn (Pending α) α C)} {left : List (Request α)} {stop : C × σ}
    (hr : Runs h f c s r turns left stop) :
    (Guarded.new c).update h f.apply s = ((some r, Guarded.new stop.1), stop.2) :=
  hr.run_eq

theorem Guarded.run_reader (h : ReentrantHost α σ) (f : Change α C R) {c : Guarded α C}
    (hc : c.gate.holder = .reader) (s : σ) : c.run h f.apply s = ((none, c), s) := by
  simp only [run, hc]
  rfl

omit [Container C α] in
theorem Guarded.isActive_reader {c : Guarded α C} (hc : c.gate.holder = .reader) :
    c.gate.isActive = false := by
  simp only [Gate.isActive, hc]
  rfl

/-- A call from outside hands the container its own operation and then, in turn and at most
`maxReplays` times, what the requests of the operation before lead to; afterwards the gate is at
rest. The log of the container shows it. While an operation runs, its host may make every request
of the guarded container itself: that leaves the request at the gate, changes nothing else, and is
answered as during a pass. While somebody reads the container, requests come to nothing. -/
theorem outermost_call_order (h : ReentrantHost α σ) (c : C) (s : σ) :
    (∀ (R : Type) (f : Change α C R), ∃ r turns left stop,
      Runs h f c s r turns left stop ∧ turns.length ≤ maxReplays ∧
      (Guarded.new c).update h f.apply s = ((some r, Guarded.new stop.1), stop.2) ∧
      (Guarded.new (Logged.new c)).update h f.logged.apply s =
        ((some r, Guarded.new ⟨stop.1, turns.map Turn.asked⟩), stop.2)) ∧
    (∀ size, ∃ turns left stop,
      Runs h (.pending (.resize size)) c s () turns left stop ∧ turns.length ≤ maxReplays ∧
      (Guarded.new c).resize h size s = (Guarded.new stop.1, stop.2) ∧
      (Guarded.new (Logged.new c)).resize h size s =
        (Guarded.new ⟨stop.1, .resize size :: turns.map Turn.asked⟩, stop.2)) ∧
    (∃ turns left stop,
      Runs h (.pending .relayout) c s () turns left stop ∧ turns.length ≤ maxReplays ∧
      (Guarded.new c).relayout h s = (Guarded.new stop.1, stop.2) ∧
      (Guarded.new (Logged.new c)).relayout h s =
        (Guarded.new ⟨stop.1, .relayout :: turns.map Turn.asked⟩, stop.2)) ∧
    (∀ (R : Type) (f : Change α C R) (cell : Guarded α C), cell.gate.isActive = true →
      let gated := f.apply h.gated c (s, cell.gate)
      f.apply h.calling c (s, cell) = (gated.1, gated.2.1, { cell with gate := gated.2.2 }) ∧
        gated.2.2.isActive = true) ∧
    (∀ cell : Guarded α C, cell.gate.isActive = true →
      (∀ r, cell.submit h r s = ((r.replyDuringPass, { cell with gate := cell.gate.leave r }), s)) ∧
      (∀ (R : Type) (f : Change α C R), cell.update h f.apply s = ((none, cell), s)) ∧
      (∀ (R : Type) (f : C → R), cell.read f = none)) ∧
    (∀ cell : Guarded α C, cell.gate.holder = .reader →
      (∀ size, cell.resize h size s = (cell, s)) ∧ cell.relayout h s = (cell, s) ∧
      (∀ (R : Type) (f : Change α C R), cell.update h f.apply s = ((none, cell), s))) := by
  refine ⟨?_, ?_, ?_, ?_, ?_, ?_⟩
  -- From outside: an update, a resize, a relayout.
  · intro R f
    obtain ⟨r, turns, left, stop, hr⟩ := exists_runs h f c s
    obtain ⟨turns', hlogged⟩ := hr.logged
    exact ⟨r, turns, left, stop, hr, hr.length_le, Guarded.update_new hr, Guarded.update_new hlogged⟩
  · intro size
    obtain ⟨_, turns, left, stop, hr⟩ := exists_runs h (.pending (.resize size)) c s
    obtain ⟨turns', hlogged⟩ := hr.pending_logged
    exact ⟨turns, left, stop, hr, hr.length_le, Guarded.resize_new hr, Guarded.resize_new hlogged⟩
  · obtain ⟨_, turns, left, stop, hr⟩ := exists_runs h (.pending .relayout) c s
    obtain ⟨turns', hlogged⟩ := hr.pending_logged
    exact ⟨turns, left, stop, hr, hr.length_le, Guarded.relayout_new hr,
      Guarded.relayout_new hlogged⟩
  -- During an operation: the host makes its requests itself, and each is only left at the gate.
  · intro R f cell hcell
    obtain ⟨ha, hx, hactive⟩ :=
      f.apply_lockstep (h.calling_lockstep cell) c (s, cell) (s, cell.gate) ⟨rfl, hcell⟩
    exact ⟨Prod.ext ha hx, hactive⟩
  · intro cell hcell
    refine ⟨fun r => Guarded.submit_active h r hcell s, fun R f => ?_, fun R f => ?_⟩
    · simp only [Guarded.update, hcell, if_true]
      rfl
    · simp only [Guarded.read, hcell, if_true]
  -- While somebody reads the container no operation is under way, but it is not free either.
  · intro cell hcell
    have hidle := Guarded.isActive_reader hcell
    refine ⟨fun size => ?_, ?_, fun R f => ?_⟩
    · simp only [Guarded.resize, hidle]
      exact congrArg (fun x : (Option Unit × Guarded α C) × σ => (x.1.2, x.2))
        (Guarded.run_reader h (.pending (.resize size)) hcell s)
    · simp only [Guarded.relayout, hidle]
      exact congrArg (fun x : (Option Unit × Guarded α C) × σ => (x.1.2, x.2))
        (Guarded.run_reader h (.pending .relayout) hcell s)
    · simp only [Guarded.update, hidle]
      exact Guarded.run_reader h f hcell s

end

end ResponsiveLayout
