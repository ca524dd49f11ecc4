import ResponsiveLayout.Host.Lockstep

/-! The calls of a host as data, and a host that keeps a transcript of the calls made of it. Keeping
one changes nothing else. -/
namespace ResponsiveLayout

variable {α σ τ β : Type}

inductive Call (α : Type) where
  | measure (w : Widget)
  | place (w : Widget) (p : Placement α)
  | restack (w : Widget) (m : Restack)
  | configureGrid (t : Tracks α)
deriving DecidableEq

inductive CallAnswer (α : Type) where
  | measured (a : Except HostError (Size α))
  | carriedOut (a : Except HostError Unit)

structure Exchange (α : Type) where
  call : Call α
  answer : CallAnswer α

def Host.call (h : Host α σ) : Call α → StateM σ (CallAnswer α)
  | .measure w => .measured <$> h.measure w
  | .place w p => .carriedOut <$> h.place w p
  | .restack w m => .carriedOut <$> h.restack w m
  | .configureGrid t => (fun _ => .carriedOut (.ok ())) <$> h.configureGrid t

theorem call_lockstep {P : σ → τ → Prop} {h : Host α σ} {k : Host α τ} (hk : h.Lockstep P k)
    (c : Call α) : Lockstep P (h.call c) (k.call c) := by
  cases c with
  | measure w => exact .map _ (hk.measure w)
  | place w p => exact .map _ (hk.place w p)
  | restack w m => exact .map _ (hk.restack w m)
  | configureGrid t => exact .map _ (hk.configureGrid t)

/-- Write a call down behind those made before. -/
def writing (c : Call α) (f : β → CallAnswer α) (m : StateM σ β) :
    StateM (σ × List (Exchange α)) β := fun (s, log) =>
  let (b, s') := m s
  (b, s', log ++ [⟨c, f b⟩])

/-- The host that keeps a transcript, oldest call first. -/
def Host.transcribed (h : Host α σ) : Host α (σ × List (Exchange α)) where
  measure w := writing (.measure w) .measured (h.measure w)
  place w p := writing (.place w p) .carriedOut (h.place w p)
  restack w m := writing (.restack w m) .carriedOut (h.restack w m)
  configureGrid t := writing (.configureGrid t) (fun _ => .carriedOut (.ok ())) (h.configureGrid t)

def Exchange.accepted? : Exchange α → Option (Widget × Placement α)
  | ⟨.place w p, .carriedOut (.ok _)⟩ => some (w, p)
  | _ => none

/-- The placements of a transcript that the host carried out, oldest first. -/
def accepted (log : List (Exchange α)) : List (Widget × Placement α) :=
  log.filterMap Exchange.accepted?

theorem accepted_append (log log' : List (Exchange α)) :
    accepted (log ++ log') = accepted log ++ accepted log' :=
  List.filterMap_append

/-- A placement that the host was asked for, carried out or not. -/
def Exchange.placement? : Exchange α → Option (Widget × Placement α)
  | ⟨.place w p, _⟩ => some (w, p)
  | _ => none

def Exchange.refused (e : Exchange α) : Bool :=
  match e.answer with
  | .measured a => !a.isOk
  | .carriedOut a => !a.isOk

def Exchange.tracks? : Exchange α → Option (Tracks α)
  | ⟨.configureGrid t, _⟩ => some t
  | _ => none

/-- All placements of a transcript, oldest first. -/
def placements (log : List (Exchange α)) : List (Widget × Placement α) :=
  log.filterMap Exchange.placement?

theorem placements_append (log log' : List (Exchange α)) :
    placements (log ++ log') = placements log ++ placements log' :=
  List.filterMap_append

def Exchange.size? : Exchange α → Option (Size α)
  | ⟨.measure _, .measured (.ok size)⟩ => some size
  | _ => none

def measurements (log : List (Exchange α)) : List (Size α) := log.filterMap Exchange.size?

theorem measurements_append (log log' : List (Exchange α)) :
    measurements (log ++ log') = measurements log ++ measurements log' :=
  List.filterMap_append

def lastTracks? (log : List (Exchange α)) : Option (Tracks α) :=
  (log.filterMap Exchange.tracks?).getLast?

theorem writing_lockstep (c : Call α) (f : β → CallAnswer α) (m : StateM σ β) :
    Lockstep (fun x y => x.1 = y) (writing c f m) m := by
  rintro ⟨s, log⟩ _ rfl
  exact ⟨rfl, rfl⟩

theorem Host.transcribed_lockstep (h : Host α σ) :
    h.transcribed.Lockstep (fun x y => x.1 = y) h where
  measure w := writing_lockstep _ _ (h.measure w)
  place w p := writing_lockstep _ _ (h.place w p)
  restack w m := writing_lockstep _ _ (h.restack w m)
  configureGrid t := writing_lockstep _ _ (h.configureGrid t)

end ResponsiveLayout
