import ResponsiveLayout.Container.Basic
import ResponsiveLayout.Reentry.Gate

/-!
A container behind a gate. An operation from outside runs at once and then the requests that were
left at the gate meanwhile are carried out, again and again up to a fixed number of times. What is
asked for while an operation runs only waits; what is asked for while somebody reads the container
is refused.
-/

namespace ResponsiveLayout

/-- How many times an operation carries out requests that its own host calls led to. -/
def maxReplays : Nat := 8

structure Guarded (α C : Type) where
  container : C
  gate : Gate α

namespace Guarded

variable {α C σ R : Type}

def new (c : C) : Guarded α C := ⟨c, .atRest⟩

def read (c : Guarded α C) (f : C → R) : Option R :=
  if c.gate.isActive then none else some (f c.container)

def lent (c : Guarded α C) : Guarded α C := { c with gate.holder := .reader }

def returned (c : Guarded α C) : Guarded α C := { c with gate.holder := .nobody }

variable [Container C α]

def replay (h : Host α σ) (p : Pending α) (c : C) : StateM σ C :=
  match p with
  | .resize size => Container.resize h size c
  | .relayout => Container.relayout h c

/-- Carry out waiting requests until none is left, at most a number of times. -/
def replayUpTo (h : ReentrantHost α σ) : Nat → C → StateM (σ × Gate α) C
  | 0, c => pure c
  | n + 1, c => do
    let (s, g) ← get
    match g.next? with
    | none => pure c
    | some p =>
      set (s, g.cleared)
      replayUpTo h n (← replay h.gated p c)

/-- Run an operation and the requests that come of it; requests that still wait after the last
replay are dropped. Nothing happens if somebody has the container. -/
def run (h : ReentrantHost α σ)
    (first : Host α (σ × Gate α) → C → StateM (σ × Gate α) (R × C)) (c : Guarded α C) :
    StateM σ (Option R × Guarded α C) := fun s =>
  if c.gate.holder = .nobody then
    let whole : StateM (σ × Gate α) (R × C) := do
      let (r, c') ← first h.gated c.container
      pure (r, ← replayUpTo h maxReplays c')
    let ((r, c'), s', g) := whole (s, { c.gate with holder := .operation })
    ((some r, ⟨c', { g.cleared with holder := .nobody }⟩), s')
  else ((none, c), s)

def resize (h : ReentrantHost α σ) (size : Size α) (c : Guarded α C) : StateM σ (Guarded α C) :=
  if c.gate.isActive then pure { c with gate := c.gate.leave (.resize size) }
  else Prod.snd <$> c.run h fun h c => do pure ((), ← Container.resize h size c)

def relayout (h : ReentrantHost α σ) (c : Guarded α C) : StateM σ (Guarded α C) :=
  if c.gate.isActive then pure { c with gate := c.gate.leave .relayout }
  else Prod.snd <$> c.run h fun h c => do pure ((), ← Container.relayout h c)

def update (h : ReentrantHost α σ)
    (f : Host α (σ × Gate α) → C → StateM (σ × Gate α) (R × C)) (c : Guarded α C) :
    StateM σ (Option R × Guarded α C) :=
  if c.gate.isActive then pure (none, c) else c.run h f

/-- Make a request from outside. The change that an update makes is a relayout, and what an
inspection sees is whether a pass is owed. -/
def submit (h : ReentrantHost α σ) (r : Request α) (c : Guarded α C) :
    StateM σ (Reply × Guarded α C) :=
  match r with
  | .resize size => do pure (.done, ← c.resize h size)
  | .relayout => do pure (.done, ← c.relayout h)
  | .update => do
    let (r, c') ← c.update h fun h c => do pure ((), ← Container.relayout h c)
    pure (.updated r.isSome, c')
  | .inspect => pure (.inspected (c.read Container.isDirty), c)

end Guarded

end ResponsiveLayout
