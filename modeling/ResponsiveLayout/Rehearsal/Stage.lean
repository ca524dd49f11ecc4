import ResponsiveLayout.Container.Operation
import ResponsiveLayout.Reentry.Guarded
import ResponsiveLayout.Rehearsal.Script

/-!
A rehearsal: a container on a scripted host, taken through steps one at a time, with what each
step shows.
-/

namespace ResponsiveLayout

/-- How the container is joined to the host: directly, directly to a host that can only measure
and place, or behind a gate through which the host can call back. -/
inductive Joint where
  | direct
  | bare
  | gated
deriving DecidableEq

inductive Step (α O : Type) where
  | host (s : HostStep α)
  | operation (o : Operation α O)
  | save
  | restore
  | lend (actions : List (Action α))

inductive Outcome (α : Type) where
  | answer (a : Answer α)
  | host (a : HostAnswer α)

structure Stage (α C : Type) where
  script : Script α
  guarded : Guarded α C
  saved : Option C

structure StepReport (α : Type) where
  outcome : Outcome α
  commands : List (Command α)
  journal : List (JournalEntry α)

namespace Stage

variable {α C O β : Type}

def new (sizes : List (Widget × Size α)) (c : C) : Stage α C := ⟨.new sizes, .new c, none⟩

def onScript (m : StateM (Script α) β) : StateM (Stage α C) β := fun st =>
  let (b, script) := m st.script
  (b, { st with script })

def onGuarded (m : Guarded α C → StateM (Script α) (β × Guarded α C)) : StateM (Stage α C) β :=
  fun st =>
    let ((b, guarded), script) := m st.guarded st.script
    (b, { st with script, guarded })

variable [Scalar α]

section

variable [Container C α]

/-- Carry out an action outside a pass: a request goes to the container and is noted when it
has returned. -/
def act (a : Action α) : StateM (Stage α C) Unit := do
  match a with
  | .destroy w => onScript (Script.modifyRecorder (·.destroy w))
  | .setSize w size => onScript (Script.modifyRecorder (·.setSize w size))
  | .request r =>
    let active := (← get).guarded.gate.isActive
    let reply ← onGuarded fun c => c.submit Script.host r
    onScript (modify fun s => s.note ⟨r, active, reply⟩)

def actAll : List (Action α) → StateM (Stage α C) Unit
  | [] => pure ()
  | a :: as => do
    act a
    actAll as

end

variable [Operable C α O]

/-- Carry out an operation. Behind a gate, a resize and a relayout are requests and everything
else is a change from outside. -/
def operate (j : Joint) (o : Operation α O) (c : Guarded α C) :
    StateM (Script α) (Answer α × Guarded α C) := do
  match j with
  | .direct =>
    let (a, container) ← o.perform Script.host.plain c.container
    pure (a, { c with container })
  | .bare =>
    let (a, container) ← o.perform Script.host.plain.bare c.container
    pure (a, { c with container })
  | .gated =>
    match o with
    | .resize size => pure (.done, ← c.resize Script.host size)
    | .relayout => pure (.done, ← c.relayout Script.host)
    | o =>
      let (a, c') ← c.update Script.host fun h c => o.perform h c
      pure (a.getD .done, c')

def carryOut (j : Joint) (s : Step α O) : StateM (Stage α C) (Outcome α) := do
  match s with
  | .host s =>
    let (answer, actions) ← onScript (Script.step s)
    actAll actions
    pure (.host answer)
  | .operation o => .answer <$> onGuarded (operate j o)
  | .save =>
    modify fun st => { st with saved := some st.guarded.container }
    pure (.answer .done)
  | .restore =>
    modify fun st =>
      { st with guarded.container := st.saved.getD st.guarded.container }
    pure (.answer .done)
  | .lend actions =>
    modify fun st => { st with guarded := st.guarded.lent }
    actAll actions
    modify fun st => { st with guarded := st.guarded.returned }
    pure (.answer (.found true))

def step (j : Joint) (s : Step α O) : StateM (Stage α C) (StepReport α) := do
  let before := (← get).script.recorder.commands.length
  modify fun st => { st with script.journal := [] }
  let outcome ← carryOut j s
  let script := (← get).script
  pure ⟨outcome, script.recorder.commands.drop before, script.journal⟩

def rehearse (j : Joint) : List (Step α O) → Stage α C → List (StepReport α × Stage α C)
  | [], _ => []
  | s :: ss, st =>
    let r := step j s st
    r :: rehearse j ss r.2

end Stage

end ResponsiveLayout
