import ResponsiveLayout.Reentry.Guarded

/-! The operations that a gate hands to its container one after the other, told without the gate:
the requests heard during an operation decide what comes after it. The run behind the gate is
shown to be such a series, by lockstep with a host that only keeps the requests. -/
namespace ResponsiveLayout

variable {α σ τ β C R : Type}

namespace Request

def size? : Request α → Option (Size α)
  | resize size => some size
  | _ => none

def isRelayout : Request α → Bool
  | relayout => true
  | _ => false

end Request

/-- What the requests heard during an operation lead to: a resize to the last size among them,
without one a relayout if there was a request for it, and otherwise nothing. -/
def due (heard : List (Request α)) : Option (Pending α) :=
  match (heard.filterMap Request.size?).getLast? with
  | some size => some (.resize size)
  | none => if heard.any Request.isRelayout then some .relayout else none

namespace ReentrantHost

/-- Keep the requests of a call behind those heard before. -/
def noting (call : StateM σ (β × List (Request α))) : StateM (σ × List (Request α)) β :=
  fun (s, heard) =>
    let ((answer, requests), s') := call s
    (answer, s', heard ++ requests)

/-- The host with its requests kept and otherwise ignored. -/
def overheard (h : ReentrantHost α σ) : Host α (σ × List (Request α)) where
  measure w := noting (h.measure w)
  place w p := noting (h.place w p)
  restack w m := noting (h.restack w m)
  configureGrid t := noting (do pure ((), ← h.configureGrid t))

end ReentrantHost

/-- A change to a container that may call the host and knows it by the answers only. -/
structure Change (α C R : Type) where
  apply {σ : Type} : Host α σ → C → StateM σ (R × C)
  apply_lockstep {σ τ : Type} {P : σ → τ → Prop} {h : Host α σ} {k : Host α τ}
    (hk : h.Lockstep P k) (c : C) : Lockstep P (apply h c) (apply k c)

/-- One operation of a series: what was asked, the container it was asked of, and the requests
heard before it returned. -/
structure Turn (A α C : Type) where
  asked : A
  start : C
  heard : List (Request α)

section

variable [Container C α]

theorem Guarded.replay_lockstep {P : σ → τ → Prop} {h : Host α σ} {k : Host α τ}
    (hk : h.Lockstep P k) (p : Pending α) (c : C) :
    Lockstep P (Guarded.replay h p c) (Guarded.replay k p c) := by
  cases p with
  | resize size => exact Container.resize_lockstep hk size c
  | relayout => exact Container.relayout_lockstep hk c

/-- `Replays h n heard start turns left stop`: after an operation with the requests `heard`, the
turns take container and host from `start` to `stop`. Each does what is due after the one before,
and they end when nothing is due or after `n` of them, with the requests `left`. -/
inductive Replays (h : ReentrantHost α σ) : Nat → List (Request α) → C × σ →
    List (Turn (Pending α) α C) → List (Request α) → C × σ → Prop
  | settled {n heard x} (hd : due heard = none) : Replays h n heard x [] heard x
  | cutOff {heard x} : Replays h 0 heard x [] heard x
  | turn {n heard c s p c' s' heard' turns left stop} (hd : due heard = some p)
      (hp : Guarded.replay h.overheard p c (s, []) = (c', s', heard'))
      (hr : Replays h n heard' (c', s') turns left stop) :
      Replays h (n + 1) heard (c, s) (⟨p, c, heard'⟩ :: turns) left stop

/-- A change, which answers `r`, and the replays that it leads to. -/
def Runs (h : ReentrantHost α σ) (f : Change α C R) (c : C) (s : σ) (r : R)
    (turns : List (Turn (Pending α) α C)) (left : List (Request α)) (stop : C × σ) : Prop :=
  ∃ c' s' heard, f.apply h.overheard c (s, []) = ((r, c'), s', heard) ∧
    Replays h maxReplays heard (c', s') turns left stop

theorem Replays.length_le {h : ReentrantHost α σ} {n : Nat} {heard left : List (Request α)}
    {start stop : C × σ} {turns : List (Turn (Pending α) α C)}
    (hr : Replays h n heard start turns left stop) : turns.length ≤ n := by
  induction hr with
  | settled | cutOff => exact Nat.zero_le _
  | turn _ _ _ ih => exact Nat.succ_le_succ ih

/-- Replays always come to an end. -/
theorem exists_replays (h : ReentrantHost α σ) (n : Nat) (heard : List (Request α)) (x : C × σ) :
    ∃ turns left stop, Replays h n heard x turns left stop := by
  induction n generalizing heard x with
  | zero => exact ⟨[], heard, x, .cutOff⟩
  | succ n ih =>
    cases hd : due heard with
    | none => exact ⟨[], heard, x, .settled hd⟩
    | some p =>
      obtain ⟨turns, left, stop, hr⟩ := ih _ _
      exact ⟨_, left, stop, .turn hd rfl hr⟩

end

namespace Gate

/-- The gate while an operation is under way and no request waits. -/
def busy : Gate α := ⟨.operation, none, false⟩

/-- The gate at the end of an operation during which requests were made. -/
def after (heard : List (Request α)) : Gate α := heard.foldl leave busy

theorem foldl_leave (heard : List (Request α)) (g : Gate α) :
    heard.foldl leave g = ⟨g.holder, (heard.filterMap Request.size?).getLast?.or g.resize,
      g.relayout || heard.any Request.isRelayout⟩ := by
  induction heard generalizing g with
  | nil => simp
  | cons r heard ih =>
    rw [List.foldl_cons, ih]
    cases r with
    | resize size =>
      cases hl : (heard.filterMap Request.size?).getLast? <;>
        simp [leave, Request.size?, Request.isRelayout, List.getLast?_cons, hl]
    | relayout => simp [leave, Request.size?, Request.isRelayout]
    | update | inspect => simp [leave, Request.size?, Request.isRelayout]

theorem after_eq (heard : List (Request α)) :
    after heard = ⟨.operation, (heard.filterMap Request.size?).getLast?,
      heard.any Request.isRelayout⟩ := by
  rw [after, foldl_leave, busy, Option.or_none, Bool.false_or]

theorem next?_after (heard : List (Request α)) : (after heard).next? = due heard := by
  rw [after_eq]
  unfold next? due
  cases (heard.filterMap Request.size?).getLast? <;> rfl

theorem cleared_after (heard : List (Request α)) : (after heard).cleared = busy := by
  rw [after_eq, cleared, busy]

end Gate

theorem ReentrantHost.noting_lockstep (call : StateM σ (β × List (Request α))) (g : Gate α) :
    Lockstep (fun x y => y = (x.1, x.2.foldl Gate.leave g)) (noting call) (leaving call) := by
  rintro ⟨s, heard⟩ _ rfl
  exact ⟨rfl, Prod.ext rfl (List.foldl_append ..).symm⟩

/-- Leaving every request at the gate at once comes to the same as leaving them all at the end. -/
theorem ReentrantHost.overheard_lockstep (h : ReentrantHost α σ) (g : Gate α) :
    h.overheard.Lockstep (fun x y => y = (x.1, x.2.foldl Gate.leave g)) h.gated where
  measure w := noting_lockstep (h.measure w) g
  place w p := noting_lockstep (h.place w p) g
  restack w m := noting_lockstep (h.restack w m) g
  configureGrid _ := noting_lockstep _ g

/-- An operation behind the gate, from what it does on the host that keeps the requests. -/
theorem gated_of_overheard {h : ReentrantHost α σ} {op : {τ : Type} → Host α τ → StateM τ β}
    (hop : ∀ {σ τ : Type} {P : σ → τ → Prop} {h : Host α σ} {k : Host α τ},
      h.Lockstep P k → Lockstep P (op h) (op k))
    {s s' : σ} {b : β} {heard : List (Request α)} (ho : op h.overheard (s, []) = (b, s', heard)) :
    op h.gated (s, Gate.busy) = (b, s', Gate.after heard) := by
  obtain ⟨ha, hs⟩ := hop (h.overheard_lockstep Gate.busy) (s, []) (s, Gate.busy) rfl
  rw [ho] at ha hs
  exact Prod.ext ha.symm hs

section

variable [Container C α] {h : ReentrantHost α σ}

theorem Guarded.replayUpTo_succ (h : ReentrantHost α σ) (n : Nat) (c : C) (s : σ) (g : Gate α) :
    replayUpTo h (n + 1) c (s, g) =
      match g.next? with
      | none => (c, s, g)
      | some p =>
        let (c', x) := replay h.gated p c (s, g.cleared)
        replayUpTo h n c' x := by
  rw [replayUpTo]
  change (match g.next? with
    | none => (pure c : StateM (σ × Gate α) C)
    | some p => do
      set (s, g.cleared)
      replayUpTo h n (← replay h.gated p c)) (s, g) = _
  cases g.next? <;> rfl

/-- Behind the gate the turns of a series are carried out, and no others. -/
theorem Replays.replayUpTo_eq {n : Nat} {heard left : List (Request α)} {start stop : C × σ}
    {turns : List (Turn (Pending α) α C)} (hr : Replays h n heard start turns left stop) :
    Guarded.replayUpTo h n start.1 (start.2, Gate.after heard) =
      (stop.1, stop.2, Gate.after left) := by
  induction hr with
  | @settled n heard x hd =>
    cases n with
    | zero => rfl
    | succ n => rw [Guarded.replayUpTo_succ, Gate.next?_after, hd]
  | cutOff => rfl
  | turn hd hp _ ih =>
    -- What is due is taken from the gate, so the turn starts behind a gate where nothing waits.
    have hg := gated_of_overheard (fun hk => Guarded.replay_lockstep hk _ _) hp
    rw [Guarded.replayUpTo_succ, Gate.next?_after, hd, Gate.cleared_after]
    simp only [hg]
    exact ih

theorem Runs.run_eq {f : Change α C R} {c : C} {s : σ} {r : R} {stop : C × σ}
    {turns : List (Turn (Pending α) α C)} {left : List (Request α)}
    (hr : Runs h f c s r turns left stop) :
    (Guarded.new c).run h f.apply s = ((some r, Guarded.new stop.1), stop.2) := by
  -- After the operation come the replays, and what is left at the gate then is cleared.
  obtain ⟨c', s', heard, hf, hreplays⟩ := hr
  have hg := gated_of_overheard (fun hk => f.apply_lockstep hk c) hf
  let rest (x : (R × C) × σ × Gate α) : (R × C) × σ × Gate α :=
    ((x.1.1, (Guarded.replayUpTo h maxReplays x.1.2 x.2).1),
      (Guarded.replayUpTo h maxReplays x.1.2 x.2).2)
  let close (x : (R × C) × σ × Gate α) : (Option R × Guarded α C) × σ :=
    ((some x.1.1, ⟨x.1.2, { x.2.2.cleared with holder := .nobody }⟩), x.2.1)
  have hrest : rest ((r, c'), s', Gate.after heard) = ((r, stop.1), stop.2, Gate.after left) := by
    simp only [rest, hreplays.replayUpTo_eq]
  calc
    (Guarded.new c).run h f.apply s = close (rest (f.apply h.gated c (s, Gate.busy))) := rfl
    _ = close ((r, stop.1), stop.2, Gate.after left) := by rw [hg, hrest]
    _ = _ := by simp only [close, Gate.cleared_after, Gate.busy, Guarded.new, Gate.atRest]

end

end ResponsiveLayout
