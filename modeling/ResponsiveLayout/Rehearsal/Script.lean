import ResponsiveLayout.Host.Recording
import ResponsiveLayout.Reentry.Gate

/-!
A recording host that follows a script: it refuses calls on cue, and on cue it does things before
it returns from a call, requests to its container among them.
-/

namespace ResponsiveLayout

inductive CallKind where
  | measure
  | place
  | restack
  | configure
deriving DecidableEq

inductive Action (α : Type) where
  | destroy (w : Widget)
  | setSize (w : Widget) (size : Size α)
  | request (r : Request α)

/-- A request that was made, whether an operation was under way, and what came back. -/
structure JournalEntry (α : Type) where
  request : Request α
  active : Bool
  reply : Reply

/-- A scripted host: the recorder, the calls to refuse with the reason of each, the actions for
the next successful calls of each kind, and the journal of requests. -/
structure Script (α : Type) where
  recorder : Recorder α
  refusals : List ((CallKind × Widget) × String)
  cues : CallKind → List (List (Action α))
  journal : List (JournalEntry α)

inductive HostStep (α : Type) where
  | setSize (w : Widget) (size : Size α)
  | destroy (w : Widget)
  | cue (k : CallKind) (queue : List (List (Action α)))
  | refuse (k : CallKind) (w : Widget) (reason : Option String)
  | measure (w : Widget)
  | place (w : Widget) (p : Placement α)
  | restack (w : Widget) (m : Restack)
  | configureGrid (t : Tracks α)
  | tracks
  | placements (w : Widget)
  | lastPlacement (w : Widget)
  | frame (w : Widget)
  | cell (w : Widget)
  | takeCommands

inductive HostAnswer (α : Type) where
  | done
  | measured (r : Except HostError (Size α))
  | obeyed (r : Except HostError Unit)
  | tracks (t : Option (Tracks α))
  | placements (ps : List (Placement α))
  | placement (p : Option (Placement α))
  | frame (f : Option (Rect α))
  | cell (c : Option Cell)
  | commands (cs : List (Command α))

namespace Script

variable {α β : Type}

/-- A script without cues over a recorder that knows some sizes, the last one of a widget being
valid. -/
def new (sizes : List (Widget × Size α)) : Script α where
  recorder := sizes.foldl (fun r e => r.setSize e.1 e.2) .empty
  refusals := []
  cues := fun _ => []
  journal := []

def note (s : Script α) (e : JournalEntry α) : Script α := { s with journal := s.journal ++ [e] }

def nextCue (k : CallKind) : StateM (Script α) (List (Action α)) := fun s =>
  match s.cues k with
  | [] => ([], s)
  | actions :: rest => (actions, { s with cues := fun k' => if k' = k then rest else s.cues k' })

def onRecorder (call : StateM (Recorder α) β) : StateM (Script α) β := fun s =>
  let (answer, recorder) := call s.recorder
  (answer, { s with recorder })

/-- Make a call about a widget. A scripted refusal comes first; only a call that succeeds takes
the next cue. -/
def call (k : CallKind) (w : Widget) (c : StateM (Recorder α) (Except HostError β)) :
    StateM (Script α) (Except HostError β × List (Action α)) := do
  match (← get).refusals.lookup (k, w) with
  | some reason => pure (.error (.unavailable w reason), [])
  | none =>
    match ← onRecorder c with
    | .error e => pure (.error e, [])
    | .ok b => pure (.ok b, ← nextCue k)

def callConfigure [Scalar α] (t : Tracks α) : StateM (Script α) (List (Action α)) := do
  onRecorder (Recorder.host.configureGrid t)
  nextCue .configure

/-- Carry out an action during a pass: a request is noted with the reply that requests get then. -/
def act (a : Action α) : StateM (Script α) (List (Request α)) := fun s =>
  match a with
  | .destroy w => ([], { s with recorder := s.recorder.destroy w })
  | .setSize w size => ([], { s with recorder := s.recorder.setSize w size })
  | .request r => ([r], s.note ⟨r, true, r.replyDuringPass⟩)

def actAll : List (Action α) → StateM (Script α) (List (Request α))
  | [] => pure []
  | a :: as => do
    let rs ← act a
    pure (rs ++ (← actAll as))

def acting (m : StateM (Script α) (β × List (Action α))) : StateM (Script α) (β × List (Request α)) := do
  let (answer, actions) ← m
  pure (answer, ← actAll actions)

variable [Scalar α]

def host : ReentrantHost α (Script α) where
  measure w := acting (call .measure w (Recorder.host.measure w))
  place w p := acting (call .place w (Recorder.host.place w p))
  restack w m := acting (call .restack w (Recorder.host.restack w m))
  configureGrid t := do actAll (← callConfigure t)

def modifyRecorder (f : Recorder α → Recorder α) : StateM (Script α) Unit :=
  modify fun s => { s with recorder := f s.recorder }

/-- Take a step on the host itself. Returns the actions that a call led to; they are still to be
carried out. -/
def step (st : HostStep α) : StateM (Script α) (HostAnswer α × List (Action α)) := do
  match st with
  | .setSize w size => modifyRecorder (·.setSize w size); pure (.done, [])
  | .destroy w => modifyRecorder (·.destroy w); pure (.done, [])
  | .cue k queue =>
    modify fun s => { s with cues := fun k' => if k' = k then queue else s.cues k' }
    pure (.done, [])
  | .refuse k w reason =>
    modify fun s =>
      let others := s.refusals.filter fun e => e.1 ≠ (k, w)
      { s with refusals := (reason.map fun r => ((k, w), r)).toList ++ others }
    pure (.done, [])
  | .measure w =>
    let (r, actions) ← call .measure w (Recorder.host.measure w)
    pure (.measured r, actions)
  | .place w p =>
    let (r, actions) ← call .place w (Recorder.host.place w p)
    pure (.obeyed r, actions)
  | .restack w m =>
    let (r, actions) ← call .restack w (Recorder.host.restack w m)
    pure (.obeyed r, actions)
  | .configureGrid t => pure (.done, ← callConfigure t)
  | .tracks => pure (.tracks (← get).recorder.tracks, [])
  | .placements w => pure (.placements ((← get).recorder.placementsOf w), [])
  | .lastPlacement w => pure (.placement ((← get).recorder.lastPlacement? w), [])
  | .frame w => pure (.frame ((← get).recorder.frame? w), [])
  | .cell w => pure (.cell ((← get).recorder.cell? w), [])
  | .takeCommands =>
    let commands := (← get).recorder.commands
    modifyRecorder Recorder.clearCommands
    pure (.commands commands, [])

def stepAlone (st : HostStep α) : StateM (Script α) (HostAnswer α) := do
  let (answer, actions) ← step st
  let _ ← actAll actions
  pure answer

end Script

end ResponsiveLayout
