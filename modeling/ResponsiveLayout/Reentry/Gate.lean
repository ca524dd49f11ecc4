import ResponsiveLayout.Host.Basic

/-!
Requests that a host makes while it is being called. During a layout pass they cannot be carried
out, so they are left at a gate: of the sizes left there only the last counts, and a size counts
more than a plain relayout.
-/

namespace ResponsiveLayout

/-- What a host may ask of the container that is calling it: to take a size, to lay out again, to
be changed, or to be looked at. -/
inductive Request (α : Type) where
  | resize (size : Size α)
  | relayout
  | update
  | inspect
deriving DecidableEq

inductive Reply where
  | done
  | updated (ran : Bool)
  | inspected (dirty : Option Bool)
deriving DecidableEq

def Request.replyDuringPass {α : Type} : Request α → Reply
  | resize _ => .done
  | relayout => .done
  | update => .updated false
  | inspect => .inspected none

inductive Pending (α : Type) where
  | resize (size : Size α)
  | relayout

inductive Holder where
  | nobody
  | reader
  | operation
deriving DecidableEq

/-- The gate of a container: who has the container, and the requests that wait. -/
structure Gate (α : Type) where
  holder : Holder
  resize : Option (Size α)
  relayout : Bool
deriving DecidableEq

namespace Gate

variable {α : Type}

def atRest : Gate α := ⟨.nobody, none, false⟩

def isActive (g : Gate α) : Bool := g.holder = .operation

/-- Leave a request. Only a resize or a relayout can wait. -/
def leave (g : Gate α) : Request α → Gate α
  | .resize size => { g with resize := some size }
  | .relayout => { g with relayout := true }
  | .update => g
  | .inspect => g

def next? (g : Gate α) : Option (Pending α) :=
  match g.resize with
  | some size => some (.resize size)
  | none => if g.relayout then some .relayout else none

def cleared (g : Gate α) : Gate α := { g with resize := none, relayout := false }

end Gate

/-- A host that makes requests before it returns from a call. -/
structure ReentrantHost (α σ : Type) where
  measure : Widget → StateM σ (Except HostError (Size α) × List (Request α))
  place : Widget → Placement α → StateM σ (Except HostError Unit × List (Request α))
  restack : Widget → Restack → StateM σ (Except HostError Unit × List (Request α))
  configureGrid : Tracks α → StateM σ (List (Request α))

namespace ReentrantHost

variable {α σ β : Type}

def leaving (call : StateM σ (β × List (Request α))) : StateM (σ × Gate α) β := fun (s, g) =>
  let ((answer, requests), s') := call s
  (answer, s', requests.foldl Gate.leave g)

def gated (h : ReentrantHost α σ) : Host α (σ × Gate α) where
  measure w := leaving (h.measure w)
  place w p := leaving (h.place w p)
  restack w m := leaving (h.restack w m)
  configureGrid t := leaving (do pure ((), ← h.configureGrid t))

/-- The host for a container without a gate, where requests go nowhere. -/
def plain (h : ReentrantHost α σ) : Host α σ where
  measure w := Prod.fst <$> h.measure w
  place w p := Prod.fst <$> h.place w p
  restack w m := Prod.fst <$> h.restack w m
  configureGrid t := do let _ ← h.configureGrid t

end ReentrantHost

end ResponsiveLayout
