import ResponsiveLayout.Container.Operation
import ResponsiveLayout.Proofs.Host.Transcript
import ResponsiveLayout.Proofs.Reentry.Order

/-! Calls from outside in full: the closure of an update carries out operations of the container and
calls of the host one after the other and may choose each by the answers before it. Told without
the gate, a call is its own turns and then the replays that they lead to. -/
namespace ResponsiveLayout

variable {α σ τ C O : Type}

/-- One thing that a closure does: an operation of the container or a call of the host. -/
inductive Deed (α O : Type) where
  | operation (o : Operation α O)
  | call (k : Call α)

/-- What a closure does, each deed chosen by the answers to the ones before. -/
inductive Closure (α O : Type) where
  | done
  | step (d : Deed α O) (next : Answer α ⊕ CallAnswer α → Closure α O)

/-- A call of a gated container from outside. -/
inductive OutsideCall (α O : Type) where
  | resize (size : Size α)
  | relayout
  | update (f : Closure α O)

def OutsideCall.closure : OutsideCall α O → Closure α O
  | resize size => .step (.operation (.resize size)) fun _ => .done
  | relayout => .step (.operation .relayout) fun _ => .done
  | update f => f

def Pending.operation : Pending α → Operation α O
  | resize size => .resize size
  | relayout => .relayout

/-- A turn of a series of replays among the deeds of a call. -/
def Turn.ofPending (t : Turn (Pending α) α C) : Turn (Deed α O) α C :=
  ⟨.operation t.asked.operation, t.start, t.heard⟩

variable [Operable C α O]

def Deed.perform (h : Host α σ) (c : C) : Deed α O → StateM σ ((Answer α ⊕ CallAnswer α) × C)
  | operation o => (fun r => (.inl r.1, r.2)) <$> o.perform h c
  | call k => (fun a => (.inr a, c)) <$> h.call k

def Closure.run (h : Host α σ) : Closure α O → C → StateM σ (Unit × C)
  | done, c => pure ((), c)
  | step d next, c => do
    let r ← d.perform h c
    run h (next r.1) r.2

section

variable {P : σ → τ → Prop} {h : Host α σ} {k : Host α τ}

theorem Deed.perform_lockstep (hk : h.Lockstep P k) (d : Deed α O) (c : C) :
    Lockstep P (d.perform h c) (d.perform k c) := by
  cases d with
  | operation o => exact .map _ (o.perform_lockstep hk c)
  | call a => exact .map _ (call_lockstep hk a)

theorem Closure.run_lockstep (hk : h.Lockstep P k) (f : Closure α O) (c : C) :
    Lockstep P (f.run h c) (f.run k c) := by
  induction f generalizing c with
  | done => exact .pure _
  | step d next ih => exact .bind (d.perform_lockstep hk c) fun r => ih r.1 r.2

end

def Closure.change (f : Closure α O) : Change α C Unit where
  apply h c := f.run h c
  apply_lockstep hk c := f.run_lockstep hk c

def OutsideCall.carryOut (h : ReentrantHost α σ) (call : OutsideCall α O) (c : Guarded α C) :
    StateM σ (Guarded α C) :=
  match call with
  | resize size => c.resize h size
  | relayout => c.relayout h
  | update f => Prod.snd <$> c.update h f.change.apply

/-- `Performs h f start turns stop`: the turns are the deeds of the closure in order, and they take
container and host from `start` to `stop`. -/
inductive Performs (h : ReentrantHost α σ) : Closure α O → C × σ → List (Turn (Deed α O) α C) →
    C × σ → Prop
  | done {x} : Performs h .done x [] x
  | step {d next c s a c' s' heard turns stop}
      (hd : d.perform h.overheard c (s, []) = ((a, c'), s', heard))
      (hr : Performs h (next a) (c', s') turns stop) :
      Performs h (.step d next) (c, s) (⟨d, c, heard⟩ :: turns) stop

theorem exists_performs (h : ReentrantHost α σ) (f : Closure α O) (x : C × σ) :
    ∃ turns stop, Performs h f x turns stop := by
  induction f generalizing x with
  | done => exact ⟨[], x, .done⟩
  | step d next ih =>
    obtain ⟨turns, stop, hr⟩ := ih _ _
    exact ⟨_, stop, .step rfl hr⟩

theorem ReentrantHost.noting_log {β : Type} (call : StateM σ (β × List (Request α)))
    (log : List (Request α)) :
    Lockstep (fun x y => y = (x.1, log ++ x.2)) (noting call) (noting call) := by
  rintro ⟨s, heard⟩ _ rfl
  exact ⟨rfl, Prod.ext rfl (List.append_assoc ..)⟩

/-- Requests heard earlier make no difference but that they are kept. -/
theorem ReentrantHost.overheard_log (h : ReentrantHost α σ) (log : List (Request α)) :
    h.overheard.Lockstep (fun x y => y = (x.1, log ++ x.2)) h.overheard where
  measure w := noting_log (h.measure w) log
  place w p := noting_log (h.place w p) log
  restack w m := noting_log (h.restack w m) log
  configureGrid _ := noting_log _ log

theorem Performs.run_eq {h : ReentrantHost α σ} {f : Closure α O} {start stop : C × σ}
    {turns : List (Turn (Deed α O) α C)} (hp : Performs h f start turns stop)
    (log : List (Request α)) :
    f.run h.overheard start.1 (start.2, log) =
      (((), stop.1), stop.2, log ++ turns.flatMap Turn.heard) := by
  induction hp generalizing log with
  | done => rw [List.flatMap_nil, List.append_nil]; rfl
  | @step d next c s a c' s' heard turns stop hd _ ih =>
    -- The deed is told from an empty log, and here it comes behind what was heard before.
    obtain ⟨ha, hs⟩ := d.perform_lockstep (h.overheard_log log) c (s, []) (s, log ++ []) rfl
    rw [List.append_nil, hd] at ha hs
    have hdeed : d.perform h.overheard c (s, log) = ((a, c'), s', log ++ heard) :=
      Prod.ext ha.symm hs
    let rest (x : ((Answer α ⊕ CallAnswer α) × C) × σ × List (Request α)) :
        (Unit × C) × σ × List (Request α) := (next x.1.1).run h.overheard x.1.2 x.2
    calc
      (Closure.step d next).run h.overheard c (s, log) =
        rest (d.perform h.overheard c (s, log)) := rfl
      _ = (next a).run h.overheard c' (s', log ++ heard) := by rw [hdeed]
      _ = _ := by rw [ih, List.flatMap_cons, List.append_assoc]

/-- A call from outside behind the gate: its own turns and the replays that they lead to. -/
theorem OutsideCall.carryOut_new {h : ReentrantHost α σ} {call : OutsideCall α O} {c : C} {s : σ}
    {own : List (Turn (Deed α O) α C)} {mid stop : C × σ} {left : List (Request α)}
    {replayed : List (Turn (Pending α) α C)} (hp : Performs h call.closure (c, s) own mid)
    (hr : Replays h maxReplays (own.flatMap Turn.heard) mid replayed left stop) :
    call.carryOut h (Guarded.new c) s = (Guarded.new stop.1, stop.2) := by
  have hruns : Runs h call.closure.change c s () replayed left stop :=
    ⟨mid.1, mid.2, own.flatMap Turn.heard, hp.run_eq [], hr⟩
  have hrun := congrArg (fun x : (Option Unit × Guarded α C) × σ => (x.1.2, x.2)) hruns.run_eq
  cases call with
  | resize size => exact hrun
  | relayout => exact hrun
  | update f => exact hrun

end ResponsiveLayout
