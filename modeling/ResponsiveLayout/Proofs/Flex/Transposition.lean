import ResponsiveLayout.Proofs.Container.Passing
import ResponsiveLayout.Proofs.Flex.Frames
import ResponsiveLayout.Proofs.Host.Recorder
import ResponsiveLayout.Proofs.Host.Transcript

/-! Rows and columns are the same algorithm. A run in which the axes are exchanged throughout, the main
axis, the sizes that are notified and the sizes that are measured, gives the same answers and leaves the
same items, and the host is told the same frames with their axes exchanged. -/
namespace ResponsiveLayout

variable {α σ τ : Type}

def Direction.transpose : Direction → Direction
  | .row => .column
  | .column => .row

def Size.transpose (s : Size α) : Size α := ⟨s.height, s.width⟩

def Rect.transpose (r : Rect α) : Rect α := ⟨r.y, r.x, r.height, r.width⟩

/-- Only frames have axes to exchange; cells are never given to the items of a row or column. -/
def Placement.transpose : Placement α → Placement α
  | .frame r => .frame r.transpose
  | .cell c => .cell c

def FlexConfig.transpose (c : FlexConfig α) : FlexConfig α :=
  { c with direction := c.direction.transpose }

def FlexBox.transpose (c : FlexBox α) : FlexBox α :=
  { c with config := c.config.transpose, size := c.size.transpose }

def FlexOperation.transpose : FlexOperation α → FlexOperation α
  | .setDirection d => .setDirection d.transpose
  | o => o

def Operation.transpose : Operation α (FlexOperation α) → Operation α (FlexOperation α)
  | .resize size => .resize size.transpose
  | .own o => .own o.transpose
  | o => o

def Call.transpose : Call α → Call α
  | .place w p => .place w p.transpose
  | c => c

def CallAnswer.transpose : CallAnswer α → CallAnswer α
  | .measured a => .measured (a.map Size.transpose)
  | .carriedOut a => .carriedOut a

def Exchange.transpose (e : Exchange α) : Exchange α := ⟨e.call.transpose, e.answer.transpose⟩

/-- The host seen with its axes exchanged. -/
def Host.transpose (h : Host α σ) : Host α σ where
  measure w := Except.map Size.transpose <$> h.measure w
  place w p := h.place w p.transpose
  restack := h.restack
  configureGrid := h.configureGrid

theorem Direction.main_transpose (d : Direction) (s : Size α) :
    d.transpose.main s.transpose = d.main s := by
  cases d <;> rfl

theorem Direction.cross_transpose (d : Direction) (s : Size α) :
    d.transpose.cross s.transpose = d.cross s := by
  cases d <;> rfl

theorem Direction.transpose_inj {d e : Direction} : d.transpose = e.transpose ↔ d = e := by
  cases d <;> cases e <;> decide

theorem Direction.frame_transpose (d : Direction) (mainPos mainLen crossPos crossLen : α) :
    d.transpose.frame mainPos mainLen crossPos crossLen =
      (d.frame mainPos mainLen crossPos crossLen).transpose := by
  cases d <;> rfl

theorem Placement.transpose_transpose (p : Placement α) : p.transpose.transpose = p := by
  cases p <;> rfl

variable [Scalar α]

theorem Size.isEmpty_transpose (s : Size α) : s.transpose.isEmpty = s.isEmpty :=
  congrArg (!·) (Bool.and_comm _ _)

theorem Size.same_transpose (s t : Size α) : s.transpose.same t.transpose = s.same t := by
  simp only [Size.same, Size.transpose, Bool.and_comm]

namespace FlexBox

omit [Scalar α] in
theorem demand_transpose (c : FlexBox α) (item : Item α) (preferred : Size α) :
    c.transpose.demand item preferred.transpose = c.demand item preferred := by
  simp only [demand, transpose, FlexConfig.transpose, Direction.main_transpose]

theorem room_transpose (c : FlexBox α) (n : Nat) : c.transpose.room n = c.room n := by
  simp only [room, transpose, FlexConfig.transpose, Direction.main_transpose]

theorem frameOf_transpose (c : FlexBox α) (item : Item α) (preferred : Size α) (start length : α) :
    c.transpose.frameOf item preferred.transpose start length =
      (c.frameOf item preferred start length).transpose := by
  simp only [frameOf, transpose, FlexConfig.transpose, Direction.cross_transpose,
    Direction.frame_transpose]

theorem frames_transpose (c : FlexBox α) (measured : List (Slot (Item α) × Size α)) :
    c.transpose.frames (measured.map (Prod.map id Size.transpose)) =
      (c.frames measured).map (Prod.map id Rect.transpose) := by
  -- The main axis is the same stretch of room, filled by the same lengths from the same starts.
  apply frames_map
  · rfl
  · rfl
  · exact c.room_transpose
  · exact fun s size => c.demand_transpose s.item size
  · exact fun s size start length => c.frameOf_transpose s.item size start length

theorem skip_map {β γ : Type} (f : β → γ) (p : Prop) [Decidable p] (b : β) {x : StateM σ β}
    {y : StateM σ γ} (hy : y = f <$> x) :
    (if p then pure (f b) else y) = f <$> if p then pure b else x := by
  split
  · rfl
  · exact hy

theorem pass_transpose (h : Host α σ) (c : FlexBox α) :
    c.transpose.pass h.transpose = transpose <$> c.pass h := by
  funext s
  let m := attempt (fun s => h.measure s.item.widget) (c.items.inOrder Item.order) s
  let p := attempt (fun f => h.place f.1.item.widget (.frame f.2)) (c.frames m.1.1) m.2
  have hmeasured : attempt (fun s => h.transpose.measure s.item.widget)
      (c.transpose.items.inOrder Item.order) s =
        ((m.1.1.map (Prod.map id Size.transpose), m.1.2), m.2) :=
    attempt_map_answers Size.transpose (fun _ _ => rfl) (c.items.inOrder Item.order) s
  have hplaced : attempt (fun f => h.transpose.place f.1.item.widget (.frame f.2))
      (c.transpose.frames (m.1.1.map (Prod.map id Size.transpose))) m.2 =
        ((p.1.1.map (Prod.map (Prod.map id Rect.transpose) id),
          p.1.2.map (Prod.map id Rect.transpose)), p.2) := by
    -- Exchanging the axes twice changes nothing, so `h` is told the frames of `c`.
    rw [frames_transpose]
    exact attempt_map_names (Prod.map id Rect.transpose) _ (c.frames m.1.1) m.2
  change c.transpose.pass h.transpose s = ((c.pass h s).1.transpose, (c.pass h s).2)
  rw [pass_eq, pass_eq]
  dsimp only
  rw [hmeasured]
  dsimp only
  rw [hplaced]
  dsimp only
  rw [List.map_map, List.isEmpty_map]
  rfl

theorem relayout_transpose (h : Host α σ) (c : FlexBox α) :
    c.transpose.relayout h.transpose = transpose <$> c.relayout h := by
  have hready : c.transpose.isReady = c.isReady := by
    simp only [isReady, transpose, Size.isEmpty_transpose]
  rw [relayout_eq, relayout_eq, hready]
  cases c.isReady with
  | false => rfl
  | true => exact c.pass_transpose h

theorem resize_transpose (h : Host α σ) (size : Size α) (c : FlexBox α) :
    c.transpose.resize h.transpose size.transpose = transpose <$> c.resize h size := by
  have hsame : size.transpose.same c.transpose.size = size.same c.size :=
    size.same_transpose c.size
  rw [resize, resize, hsame]
  exact skip_map transpose _ c (relayout_transpose h { c with size })

theorem changed_transpose (h : Host α σ) (c : FlexBox α) :
    c.transpose.changed h.transpose = transpose <$> c.changed h :=
  relayout_transpose h { c with dirty := true }

/-- An operation with the axes exchanged gives the same answer and leaves the same row or column, with
the axes exchanged. -/
theorem perform_transpose (h : Host α σ) (o : FlexOperation α) (c : FlexBox α) :
    c.transpose.perform h.transpose o.transpose = Prod.map id transpose <$> c.perform h o := by
  -- A change goes along with an answer that does not depend on the axes.
  have htelling {β : Type} (b : β) (items : Registry (Item α)) :
      Prod.mk b <$> ({ c with items } : FlexBox α).transpose.changed h.transpose =
        Prod.map id transpose <$> Prod.mk b <$> ({ c with items } : FlexBox α).changed h := by
    rw [changed_transpose]
    rfl
  -- A setter finds its value set already, or it reconfigures.
  have hset (p : Prop) [Decidable p] (config : FlexConfig α) :
      (if p then pure c.transpose
        else c.transpose.reconfigure h.transpose config.transpose) =
          transpose <$> if p then pure c else c.reconfigure h config :=
    skip_map transpose p c (changed_transpose h { c with config })
  cases o with
  | add item => exact congrArg (tell .added) (htelling c.items.nextId (c.items.add item))
  | remove t =>
    let items := c.items.erase fun s => t.hits s.id s.item.widget
    let removed := c.items.size - items.size
    exact congrArg (tell .removed)
      (skip_map (Prod.map id transpose) (removed = 0) (0, c) (htelling removed items))
  | clear =>
    have hclear := changed_transpose h { c with items := c.items.clear }
    exact congrArg tellDone (skip_map transpose _ c hclear)
  | item i => rfl
  | update i f =>
    have hupdate : c.transpose.update h.transpose i f =
        Prod.map id transpose <$> c.update h i f := by
      have hitems : c.transpose.items = c.items := rfl
      rw [update, update, hitems]
      cases c.items.get? i with
      | none => rfl
      | some item =>
        exact skip_map (Prod.map id transpose) _ (true, c)
          (htelling true (c.items.modify (·.id == i) fun _ => f item))
    exact congrArg (tell .found) hupdate
  | setDirection d =>
    have hsame : c.config.direction.transpose = d.transpose ↔ c.config.direction = d :=
      Direction.transpose_inj
    have hdirection := hset (c.config.direction = d) { c.config with direction := d }
    rw [← if_congr hsame rfl rfl] at hdirection
    exact congrArg tellDone hdirection
  | setAlign a => exact congrArg tellDone (hset _ { c.config with align := a })
  | setJustify j => exact congrArg tellDone (hset _ { c.config with justify := j })
  | setGap gap => exact congrArg tellDone (hset _ { c.config with gap := Scalar.sanitize gap })

theorem operate_transpose (h : Host α σ) (o : Operation α (FlexOperation α)) (c : FlexBox α) :
    o.transpose.perform h.transpose c.transpose = Prod.map id transpose <$> o.perform h c := by
  cases o with
  | resize size => exact congrArg tellDone (resize_transpose h size c)
  | relayout => exact congrArg tellDone (relayout_transpose h c)
  | settle =>
    have hsettle : Container.settle h.transpose c.transpose = transpose <$> Container.settle h c := by
      change (if c.dirty then c.transpose.relayout h.transpose else pure c.transpose) =
        transpose <$> if c.dirty then c.relayout h else pure c
      rw [relayout_transpose]
      split
      · rfl
      · rfl
    exact congrArg tellDone hsettle
  | own o => exact perform_transpose h o c

/-- A run with the axes exchanged, of a container on a host with the axes exchanged. -/
theorem run_transpose (h : Host α σ) (os : List (Operation α (FlexOperation α))) (c : FlexBox α) :
    Operation.run h.transpose (os.map Operation.transpose) c.transpose =
      transpose <$> Operation.run h os c := by
  induction os generalizing c with
  | nil => rfl
  | cons o os ih =>
    funext s
    let x := o.perform h c s
    have hstep : o.transpose.perform h.transpose c.transpose s = (Prod.map id transpose x.1, x.2) :=
      congrFun (operate_transpose h o c) s
    calc
      Operation.run h.transpose ((o :: os).map Operation.transpose) c.transpose s
        = Operation.run h.transpose (os.map Operation.transpose)
            (o.transpose.perform h.transpose c.transpose s).1.2
            (o.transpose.perform h.transpose c.transpose s).2 := rfl
      _ = Operation.run h.transpose (os.map Operation.transpose) x.1.2.transpose x.2 := by rw [hstep]; rfl
      _ = (transpose <$> Operation.run h os x.1.2) x.2 := by rw [ih]
      _ = (transpose <$> Operation.run h (o :: os) c) s := rfl

end FlexBox

section

variable {h : Host α σ} {k : Host α τ} {P : σ → τ → Prop}

omit [Scalar α] in
/-- Two hosts in lockstep, one of which has its axes exchanged, write transcripts with the axes
exchanged. -/
theorem Host.transcribed_transpose_lockstep (hk : h.transpose.Lockstep P k) :
    h.transcribed.transpose.Lockstep (fun x y => P x.1 y.1 ∧ y.2 = x.2.map Exchange.transpose)
      k.transcribed := by
  have hwritten {log log' : List (Exchange α)} {e e' : Exchange α}
      (hlog : log' = log.map Exchange.transpose) (he : e' = e.transpose) :
      log' ++ [e'] = (log ++ [e]).map Exchange.transpose := by
    rw [List.map_append, hlog, he]
    rfl
  refine ⟨fun w => ?_, fun w p => ?_, fun w m => ?_, fun tracks => ?_⟩
  · rintro ⟨s, log⟩ ⟨t, log'⟩ ⟨hst, hlog⟩
    obtain ⟨ha, hp⟩ := hk.measure w s t hst
    exact ⟨ha, hp, hwritten hlog (congrArg (fun a => Exchange.mk (.measure w) (.measured a)) ha.symm)⟩
  · rintro ⟨s, log⟩ ⟨t, log'⟩ ⟨hst, hlog⟩
    obtain ⟨ha, hp⟩ := hk.place w p s t hst
    refine ⟨ha, hp, hwritten hlog ?_⟩
    -- `h` was told the frame with its axes exchanged, and exchanging them again gives it back.
    change Exchange.mk (.place w p) (.carriedOut (k.place w p t).1) =
      ⟨.place w p.transpose.transpose, .carriedOut (h.place w p.transpose s).1⟩
    rw [Placement.transpose_transpose, ← ha]
    rfl
  · rintro ⟨s, log⟩ ⟨t, log'⟩ ⟨hst, hlog⟩
    obtain ⟨ha, hp⟩ := hk.restack w m s t hst
    exact ⟨ha, hp, hwritten hlog (congrArg (fun a => Exchange.mk (.restack w m) (.carriedOut a)) ha.symm)⟩
  · rintro ⟨s, log⟩ ⟨t, log'⟩ ⟨hst, hlog⟩
    obtain ⟨ha, hp⟩ := hk.configureGrid tracks s t hst
    exact ⟨ha, hp, hwritten hlog rfl⟩

end

def Command.transpose : Command α → Command α
  | .place w p => .place w p.transpose
  | .restack w m => .restack w m

namespace Recorder

def transpose (r : Recorder α) : Recorder α :=
  { r with
    sizes := r.sizes.map (Prod.map id Size.transpose)
    commands := r.commands.map Command.transpose }

omit [Scalar α] in
theorem isDestroyed_transpose (r : Recorder α) (w : Widget) :
    r.transpose.isDestroyed w = r.isDestroyed w := rfl

theorem measure_transpose (r : Recorder α) (w : Widget) :
    r.transpose.measure w = (r.measure w).map Size.transpose := by
  have hlookup (sizes : List (Widget × Size α)) :
      (sizes.map (Prod.map id Size.transpose)).lookup w = (sizes.lookup w).map Size.transpose := by
    induction sizes with
    | nil => rfl
    | cons e es ih =>
      obtain ⟨u, size⟩ := e
      simp only [List.map_cons, Prod.map, id, List.lookup_cons, ih]
      cases w == u <;> rfl
  have hsizes : r.transpose.sizes.lookup w = (r.sizes.lookup w).map Size.transpose :=
    hlookup r.sizes
  rw [measure, measure, isDestroyed_transpose, hsizes]
  cases r.isDestroyed w with
  | true => rfl
  | false => cases r.sizes.lookup w <;> rfl

omit [Scalar α] in
theorem ifAlive_transpose {f f' : Recorder α → Recorder α}
    (hf : ∀ r, f' r.transpose = (f r).transpose) (w : Widget) :
    Lockstep (fun r r' => r' = r.transpose) (ifAlive w f) (ifAlive w f') := by
  rintro r _ rfl
  unfold ifAlive
  rw [isDestroyed_transpose, hf]
  cases r.isDestroyed w <;> exact ⟨rfl, rfl⟩

/-- A recorder with its axes exchanged answers and records like one that was given its sizes with the
axes exchanged. -/
theorem host_transpose_lockstep :
    (host : Host α (Recorder α)).transpose.Lockstep (fun r r' => r' = r.transpose) host where
  measure w := by
    rintro r _ rfl
    exact ⟨(r.measure_transpose w).symm, rfl⟩
  place w p := by
    refine ifAlive_transpose (fun r => ?_) w
    simp only [place, transpose, List.map_append, List.map_cons, List.map_nil, Command.transpose,
      Placement.transpose_transpose]
  restack w m := by
    refine ifAlive_transpose (fun r => ?_) w
    simp only [restack, transpose, List.map_append, List.map_cons, List.map_nil, Command.transpose]
  configureGrid tracks := by
    rintro r _ rfl
    exact ⟨rfl, rfl⟩

end Recorder

/-- A row and a column are the same algorithm: a run with the axes exchanged throughout, on a host that
answers with the axes exchanged, leads to the same container and transcript, with the axes exchanged. -/
theorem FlexBox.run_with_axes_exchanged {h : Host α σ} {k : Host α τ} {P : σ → τ → Prop}
    (hk : h.transpose.Lockstep P k) (config : FlexConfig α)
    (os : List (Operation α (FlexOperation α))) {s : σ} {t : τ} (hst : P s t) :
    let x := Operation.run h.transcribed os (FlexBox.new config) (s, [])
    let y := Operation.run k.transcribed (os.map Operation.transpose)
      (FlexBox.new config.transpose) (t, [])
    y.1 = x.1.transpose ∧ P x.2.1 y.2.1 ∧ y.2.2 = x.2.2.map Exchange.transpose := by
  intro x y
  have hrun : Operation.run h.transcribed.transpose (os.map Operation.transpose)
      (FlexBox.new config.transpose) (s, []) = (x.1.transpose, x.2) :=
    congrFun (FlexBox.run_transpose h.transcribed os (FlexBox.new config)) (s, [])
  obtain ⟨hanswer, hstates⟩ := Operation.run_lockstep (Host.transcribed_transpose_lockstep hk)
    (os.map Operation.transpose) (FlexBox.new config.transpose) (s, []) (t, []) ⟨hst, rfl⟩
  rw [hrun] at hanswer hstates
  exact ⟨hanswer.symm, hstates⟩

/-- Three items, of which the second is pruned, in a row that is turned into a column halfway. -/
def FlexBox.turned : List (Operation Float32 (FlexOperation Float32)) :=
  [.own (.add ((Item.ofWidget ⟨1⟩).change (.grow 1))), .own (.add (.ofWidget ⟨2⟩)),
    .own (.add ((Item.ofWidget ⟨3⟩).change (.align .stretch))), .own (.setGap 5),
    .resize ⟨200, 40⟩, .own (.setDirection .column), .resize ⟨60, 300⟩]

theorem FlexBox.run_with_axes_exchanged_turned :
    let config : FlexConfig Float32 := .row
    let r : Recorder Float32 := (Recorder.empty.setSize ⟨1⟩ ⟨50, 20⟩).destroy ⟨2⟩
    (Recorder.host : Host Float32 (Recorder Float32)).transpose.Lockstep
        (fun r r' => r' = r.transpose) Recorder.host ∧
      let x := Operation.run Recorder.host.transcribed turned (FlexBox.new config) (r, [])
      let y := Operation.run Recorder.host.transcribed (turned.map Operation.transpose)
        (FlexBox.new config.transpose) (r.transpose, [])
      y.1 = x.1.transpose ∧ y.2.1 = x.2.1.transpose ∧ y.2.2 = x.2.2.map Exchange.transpose :=
  ⟨Recorder.host_transpose_lockstep,
    FlexBox.run_with_axes_exchanged Recorder.host_transpose_lockstep .row turned rfl⟩

end ResponsiveLayout
