import ResponsiveLayout.Host.Recording
import ResponsiveLayout.Proofs.Flex.Overflow
import ResponsiveLayout.Proofs.Flex.Steps

/-! Which rows and columns are placed in frames that are no numbers. A program can only give finite lengths and
weights to a container, and as long as it does not run out of single precision all frames are numbers. -/
namespace ResponsiveLayout

open Single

def Rect.hasNaN (r : Rect Float32) : Bool := r.x.isNaN || r.y.isNaN || r.width.isNaN || r.height.isNaN

/-- Lengths that are finite and not below zero. -/
structure Size.Proper (s : Size Float32) : Prop where
  width : s.width.isFinite = true ∧ 0 ≤ s.width
  height : s.height.isFinite = true ∧ 0 ≤ s.height

def Placement.hasNaN : Placement Float32 → Bool
  | .frame r => r.hasNaN
  | .cell .. => false

namespace Item

/-- An item as a program can make it. -/
def Built (i : Item Float32) : Prop := ∃ w cs, i = (ofWidget w).changeAll cs

structure Sound (i : Item Float32) : Prop where
  grow : Length i.grow
  shrink : Length i.shrink
  basis : ∀ b, i.basis = some b → Length b

theorem sound_ofWidget (w : Widget) : Sound (ofWidget w) where
  grow := length_zero (z := Scalar.toZero.zero) rfl
  shrink := by
    have hone : units? ((1 : ℕ) : Float32) = some ((2 ^ 149 : ℕ) : ℤ) := by decide +kernel
    exact ⟨2 ^ 149, hone, by decide⟩
  basis b hb := by cases hb

theorem Sound.change {i : Item Float32} (hi : i.Sound) (c : ItemChange Float32) : (i.change c).Sound := by
  cases c with
  | grow weight => exact ⟨length_sanitize weight, hi.shrink, hi.basis⟩
  | shrink weight => exact ⟨hi.grow, length_sanitize weight, hi.basis⟩
  | basis length =>
    refine ⟨hi.grow, hi.shrink, fun b hb => ?_⟩
    obtain rfl := Option.some.inj hb
    exact length_sanitize _
  | _ => exact ⟨hi.grow, hi.shrink, hi.basis⟩

theorem Built.sound {i : Item Float32} (hi : i.Built) : i.Sound := by
  obtain ⟨w, cs, rfl⟩ := hi
  suffices hall : ∀ i : Item Float32, i.Sound → (i.changeAll cs).Sound from hall _ (sound_ofWidget w)
  induction cs with
  | nil => exact fun i hi => hi
  | cons c cs ih => exact fun i hi => ih (i.change c) (hi.change c)

end Item

/-- An operation that deals with items as a program can make them. -/
def FlexOperation.Builds : FlexOperation Float32 → Prop
  | .add i => i.Built
  | .update _ f => ∀ i : Item Float32, i.Built → (f i).Built
  | .remove _ | .clear | .item _ | .setDirection _ | .setAlign _ | .setJustify _ | .setGap _ => True

def Operation.Builds : Operation Float32 (FlexOperation Float32) → Prop
  | .own o => o.Builds
  | .resize _ | .relayout | .settle => True

namespace FlexBox

/-- A row or column that a program can come to, with whatever hosts. -/
inductive Reachable : FlexBox Float32 → Prop
  | new (config : FlexConfig Float32) : Reachable (new config)
  | perform {σ : Type} (h : Host Float32 σ) (s : σ) {o : Operation Float32 (FlexOperation Float32)}
      (ho : o.Builds) {c : FlexBox Float32} (hc : Reachable c) : Reachable (o.perform h c s).1.2

/-- A row or column with a finite gap and items as a program can make them. -/
structure Sane (c : FlexBox Float32) : Prop where
  gap : Length c.config.gap
  items : ∀ s ∈ c.items.slots, s.item.Built

variable {σ : Type} {c c' : FlexBox Float32} {measured : List (Slot (Item Float32) × Size Float32)}

theorem Sane.laidOut (hc : c.Sane) {o : Operation Float32 (FlexOperation Float32)} (ho : o.Builds)
    (hlaid : laidOut? o c = some c') : c'.Sane := by
  -- Apart from the items and the gap, whatever an operation changes is free.
  have hif {p : Prop} [Decidable p] {c'' : FlexBox Float32} (h : (if p then none else some c'') = some c')
      (hsane : c''.Sane) : c'.Sane := by
    split at h
    · cases h
    · obtain rfl := Option.some.inj h
      exact hsane
  cases o with
  | resize size => exact hif hlaid ⟨hc.gap, hc.items⟩
  | relayout =>
    obtain rfl := Option.some.inj hlaid
    exact hc
  | settle =>
    rw [laidOut?] at hlaid
    split at hlaid
    · obtain rfl := Option.some.inj hlaid
      exact hc
    · cases hlaid
  | own o =>
    cases o with
    | add item =>
      obtain rfl := Option.some.inj hlaid
      refine ⟨hc.gap, fun s hs => ?_⟩
      rcases List.mem_append.mp hs with hs | hs
      · exact hc.items s hs
      · obtain rfl := List.mem_singleton.mp hs
        exact ho
    | remove t => exact hif hlaid ⟨hc.gap, fun s hs => hc.items s (List.mem_of_mem_filter hs)⟩
    | clear => exact hif hlaid ⟨hc.gap, fun s hs => absurd hs List.not_mem_nil⟩
    | item id => cases hlaid
    | update id f =>
      rw [laidOut?] at hlaid
      split at hlaid
      · cases hlaid
      · next item hitem =>
        refine hif hlaid ⟨hc.gap, fun s hs => ?_⟩
        obtain ⟨t, ht, rfl⟩ := List.mem_map.mp hs
        dsimp only
        split
        · rw [Registry.get?, Option.map_eq_some_iff] at hitem
          obtain ⟨found, hfound, rfl⟩ := hitem
          exact ho _ (hc.items found (List.mem_of_find?_eq_some hfound))
        · exact hc.items t ht
    | setDirection d => exact hif hlaid ⟨hc.gap, hc.items⟩
    | setAlign a => exact hif hlaid ⟨hc.gap, hc.items⟩
    | setJustify j => exact hif hlaid ⟨hc.gap, hc.items⟩
    | setGap gap => exact hif hlaid ⟨length_sanitize gap, hc.items⟩

/-- A pass only drops items. -/
theorem Sane.relayout (hc : c.Sane) (h : Host Float32 σ) (s : σ) : (c.relayout h s).1.Sane := by
  rw [relayout_eq]
  split
  · exact ⟨hc.gap, fun t ht => hc.items t (List.mem_of_mem_filter ht)⟩
  · exact ⟨hc.gap, hc.items⟩

theorem Reachable.sane (hc : c.Reachable) : c.Sane := by
  induction hc with
  | new config => exact ⟨length_sanitize _, fun s hs => absurd hs List.not_mem_nil⟩
  | @perform σ h s o ho c hc ih =>
    have hstate : (o.perform h c s).1.2 = (layOut h c (laidOut? o c) s).1 :=
      congrArg Prod.fst (congrFun (perform_eq h o c) s)
    rw [hstate]
    cases hlaid : laidOut? o c with
    | none => exact ih
    | some c' => exact (ih.laidOut ho hlaid).relayout h s

/-- How a row runs out of single precision. The weights of the items that give way add up to infinity, and so
does what one of them is to give of the excess; or the row is packed to its end or centre and infinitely long,
so that it starts at minus infinity, and an item before the last one is with its gap infinitely long too. -/
def Overruns (c : FlexBox Float32) (measured : List (Slot (Item Float32) × Size Float32)) : Prop :=
  let demands := measured.map fun m => c.demand m.1.item m.2
  let room := c.room measured.length
  let sizes := (distribute demands room).sizes
  Sizing.Swamped (excessOver room demands) (demands.map Sizing.ofDemand) ∨
    (c.config.justify = .center ∨ c.config.justify = .end) ∧ (Scalar.total sizes).isInf = true ∧
      ∃ l ∈ sizes.dropLast, (l + c.config.gap).isInf = true

/-- Even where the gaps cannot be added up, the room is a length. -/
theorem length_room (hsize : Length (c.config.direction.main c.size)) (hgap : Length c.config.gap)
    (n : ℕ) : Length (c.room n) := by
  refine length_positive ?_
  rcases hgap.amount.mul (amount_natCast (n - 1)) with hnan | hgaps
  · intro hinf
    have hnumber := isNaN_sub hnan (c.config.direction.main c.size)
    rw [isNaN_iff, hinf] at hnumber
    cases hnumber
  · exact hsize.sub_not_infinite hgaps

theorem sound_demand {i : Item Float32} (hi : i.Sound) {preferred : Size Float32}
    (hpreferred : Length (c.config.direction.main preferred)) : (c.demand i preferred).Sound where
  basis := by
    rw [demand]
    cases hb : i.basis with
    | none => exact hpreferred
    | some b => exact hi.basis b hb
  grow := hi.grow
  shrink := hi.shrink

theorem above_resolve (a : Align) {natural available : Float32} (hnatural : Length natural)
    (havailable : Length available) :
    Above (a.resolve natural available).1 ∧ Above (a.resolve natural available).2 := by
  have hzero : Above (Scalar.toZero.zero : Float32) := (length_zero rfl).amount.above
  cases a with
  | start => exact ⟨hzero, hnatural.amount.above⟩
  | center => exact ⟨(havailable.sub hnatural).half, hnatural.amount.above⟩
  | «end» => exact ⟨havailable.sub hnatural, hnatural.amount.above⟩
  | stretch => exact ⟨hzero, havailable.amount.above⟩

theorem hasNaN_frame (d : Direction) (start length cross crossLength : Float32) :
    (d.frame start length cross crossLength).hasNaN =
      (start.isNaN || length.isNaN || (cross.isNaN || crossLength.isNaN)) := by
  cases d with
  | row =>
    simp only [Direction.frame, Rect.hasNaN]
    ac_rfl
  | column =>
    simp only [Direction.frame, Rect.hasNaN]
    ac_rfl

theorem exists_mem_zip_isNaN_iff {xs ys : List Float32} (hlength : xs.length = ys.length) :
    (∃ e ∈ xs.zip ys, (e.1.isNaN || e.2.isNaN) = true) ↔
      (∃ x ∈ xs, x.isNaN = true) ∨ ∃ y ∈ ys, y.isNaN = true := by
  have hfst : (xs.zip ys).map Prod.fst = xs := List.map_fst_zip hlength.le
  have hsnd : (xs.zip ys).map Prod.snd = ys := List.map_snd_zip hlength.ge
  constructor
  · rintro ⟨e, he, hnan⟩
    rw [Bool.or_eq_true] at hnan
    exact hnan.imp (fun h => ⟨e.1, (List.of_mem_zip he).1, h⟩) (fun h => ⟨e.2, (List.of_mem_zip he).2, h⟩)
  · rintro (⟨x, hx, hnan⟩ | ⟨y, hy, hnan⟩)
    · rw [← hfst] at hx
      obtain ⟨e, he, rfl⟩ := List.mem_map.mp hx
      exact ⟨e, he, by rw [hnan, Bool.true_or]⟩
    · rw [← hsnd] at hy
      obtain ⟨e, he, rfl⟩ := List.mem_map.mp hy
      exact ⟨e, he, by rw [hnan, Bool.or_true]⟩

/-- Across the main axis all is finite, so a frame is no number only along it. -/
theorem exists_hasNaN_iff (hcross : Length (c.config.direction.cross c.size))
    (hmeasured : ∀ m ∈ measured, Length (c.config.direction.cross m.2)) :
    let sizes := (distribute (measured.map fun m => c.demand m.1.item m.2) (c.room measured.length)).sizes
    (∃ f ∈ c.frames measured, f.2.hasNaN = true) ↔
      (∃ o ∈ arrange c.config.justify sizes (c.room measured.length) c.config.gap, o.isNaN = true) ∨
        ∃ l ∈ sizes, l.isNaN = true := by
  intro sizes
  have halong : ∀ f ∈ c.frames measured, f.2.hasNaN =
      ((c.config.direction.leading f.2).isNaN || (c.config.direction.extent f.2).isNaN) := by
    intro f hf
    obtain ⟨⟨m, start, length⟩, hm, rfl⟩ := List.mem_map.mp hf
    obtain ⟨hpos, hlen⟩ := above_resolve (m.1.item.align.getD c.config.align)
      (hmeasured m (List.of_mem_zip hm).1) hcross
    dsimp only
    rw [frameOf, Direction.leading_frame, Direction.extent_frame, hasNaN_frame, hpos.isNaN, hlen.isNaN,
      Bool.or_false, Bool.or_false]
  have hlength : (arrange c.config.justify sizes (c.room measured.length) c.config.gap).length =
      sizes.length := length_arrange _ _ _ _
  rw [← exists_mem_zip_isNaN_iff hlength, ← edges_frames]
  constructor
  · rintro ⟨f, hf, hnan⟩
    exact ⟨_, List.mem_map_of_mem hf, (halong f hf).symm.trans hnan⟩
  · rintro ⟨e, he, hnan⟩
    obtain ⟨f, hf, rfl⟩ := List.mem_map.mp he
    exact ⟨f, hf, (halong f hf).trans hnan⟩

/-- A row has a frame that is not a number exactly if it runs out of single precision. -/
theorem frames_overrun_iff (hc : c.Sane) (hmain : Length (c.config.direction.main c.size))
    (hcross : Length (c.config.direction.cross c.size))
    (hmeasured : ∀ m ∈ measured, m.1 ∈ c.items.slots ∧ Length (c.config.direction.main m.2) ∧
      Length (c.config.direction.cross m.2)) :
    (∃ f ∈ c.frames measured, f.2.hasNaN = true) ↔ c.Overruns measured := by
  have hds : ∀ d ∈ measured.map fun m => c.demand m.1.item m.2, d.Sound := by
    intro d hd
    obtain ⟨m, hm, rfl⟩ := List.mem_map.mp hd
    exact sound_demand (hc.items m.1 (hmeasured m hm).1).sound (hmeasured m hm).2.1
  have hroom := length_room hmain hc.gap measured.length
  refine (exists_hasNaN_iff hcross fun m hm => (hmeasured m hm).2.2).trans ?_
  rw [Overruns]
  by_cases hswamped : Sizing.Swamped (excessOver (c.room measured.length)
      (measured.map fun m => c.demand m.1.item m.2))
      ((measured.map fun m => c.demand m.1.item m.2).map Sizing.ofDemand)
  · exact iff_of_true (.inr (sizes_swamped hds hroom hswamped)) (.inl hswamped)
  · have hsizes := amount_sizes hds hroom hswamped
    have hlengths : ¬ ∃ l ∈ (distribute (measured.map fun m => c.demand m.1.item m.2)
        (c.room measured.length)).sizes, l.isNaN = true := by
      rintro ⟨l, hl, hnan⟩
      exact absurd hnan (Bool.eq_false_iff.mp (hsizes l hl).above.isNaN)
    rw [or_iff_left hlengths, arrange_isNaN_iff _ hc.gap hroom hsizes, or_iff_right hswamped]

theorem length_of_proper (d : Direction) {size : Size Float32} (hsize : size.Proper) :
    Length (d.main size) ∧ Length (d.cross size) := by
  have hzero : units? (0 : Float32) = some 0 := by decide +kernel
  have hwidth := (length_iff hzero).mpr hsize.width
  have hheight := (length_iff hzero).mpr hsize.height
  cases d with
  | row => exact ⟨hwidth, hheight⟩
  | column => exact ⟨hheight, hwidth⟩

theorem length_of_room (d : Direction) {size : Size Float32}
    (hfinite : size.width.isFinite = true ∧ size.height.isFinite = true) (hroom : size.isEmpty = false) :
    Length (d.main size) ∧ Length (d.cross size) := by
  rw [Size.isEmpty, Bool.not_eq_false', Bool.and_eq_true, decide_eq_true_eq, decide_eq_true_eq] at hroom
  have hwidth : Length size.width := (length_iff rfl).mpr ⟨hfinite.1, le_of_lt hroom.1⟩
  have hheight : Length size.height := (length_iff rfl).mpr ⟨hfinite.2, le_of_lt hroom.2⟩
  cases d with
  | row => exact ⟨hwidth, hheight⟩
  | column => exact ⟨hheight, hwidth⟩

def measuredBy (c : FlexBox Float32) (h : Host Float32 σ) (s : σ) :
    List (Slot (Item Float32) × Size Float32) :=
  (attempt (fun b => h.measure b.item.widget) (c.items.inOrder Item.order) s).1.1

theorem attempt_transcribed (h : Host Float32 σ) (c : FlexBox Float32) (s : σ) :
    (attempt (fun b => h.transcribed.measure b.item.widget) (c.items.inOrder Item.order) (s, [])).1.1 =
      c.measuredBy h s :=
  congrArg Prod.fst
    (Lockstep.attempt (fun b : Slot (Item Float32) => h.transcribed_lockstep.measure b.item.widget)
      _ (s, []) s rfl).1

/-- A relayout issues a frame that is not a number exactly if the row runs out of single precision. -/
theorem relayout_overrun_iff (hc : c.Sane)
    (hfinite : c.size.width.isFinite = true ∧ c.size.height.isFinite = true)
    (hroom : c.size.isEmpty = false) {h : Host Float32 σ} {s : σ} {es : List (Exchange Float32)}
    (hcalls : (c.relayout h.transcribed (s, [])).2.2 = es) (hsizes : ∀ size ∈ measurements es, size.Proper) :
    (∃ p ∈ placements es, p.2.hasNaN = true) ↔ c.Overruns (c.measuredBy h s) := by
  obtain ⟨hmain, hcross⟩ := length_of_room c.config.direction hfinite hroom
  obtain ⟨ms, s₁, hms, hmeasured⟩ := measure_visits h c s []
  have hanswered : c.measuredBy h s = answered ms := by rw [← attempt_transcribed, hmeasured]
  rw [hanswered]
  rw [relayout_eq] at hcalls
  split at hcalls
  · obtain ⟨ps, s', hps, hpass⟩ := pass_of_measured h c hmeasured
    rw [hpass] at hcalls
    obtain rfl : (visits ms ps).map Visit.exchange = es := hcalls
    rw [measurements_visits] at hsizes
    have hsound : ∀ m ∈ answered ms, m.1 ∈ c.items.slots ∧ Length (c.config.direction.main m.2) ∧
        Length (c.config.direction.cross m.2) := by
      intro m hm
      refine ⟨?_, length_of_proper _ (hsizes m.2 (List.mem_map_of_mem hm))⟩
      have horder : m.1 ∈ (answered ms).map Prod.fst := List.mem_map_of_mem hm
      rw [answered_fst] at horder
      obtain ⟨x, hx, hfst⟩ := List.mem_map.mp horder
      have hmem : x.1 ∈ c.items.inOrder Item.order := hms ▸ List.mem_map_of_mem (List.mem_of_mem_filter hx)
      rw [← hfst]
      exact Registry.mem_inOrder.mp hmem
    rw [← frames_overrun_iff hc hmain hcross hsound, placements_visits, ← hps]
    constructor
    · rintro ⟨p, hp, hnan⟩
      obtain ⟨q, hq, rfl⟩ := List.mem_map.mp hp
      exact ⟨q.1, List.mem_map_of_mem hq, hnan⟩
    · rintro ⟨f, hf, hnan⟩
      obtain ⟨q, hq, rfl⟩ := List.mem_map.mp hf
      exact ⟨_, List.mem_map_of_mem hq, hnan⟩
  · next hready =>
    -- There is room, so there are no items, and a row of none has no frames.
    have hitems : c.items.slots = [] := by
      rw [isReady, hroom, Bool.or_false, Bool.not_eq_true', Bool.not_eq_false] at hready
      exact List.isEmpty_iff.mp hready
    have hnone : c.items.inOrder Item.order = [] := by rw [Registry.inOrder, hitems]; rfl
    obtain rfl : ms = [] := List.map_eq_nil_iff.mp (hms.trans hnone)
    obtain rfl : [] = es := hcalls
    refine Iff.trans ?_ (frames_overrun_iff hc hmain hcross fun m hm => absurd hm List.not_mem_nil)
    simp [placements, answered, frames]

/-- Whatever a program has done with a row or column before, and whatever the host is: of the frames that the
next operation has the host place, one is not a number exactly if the row that it lays out runs out of single
precision. The row has to be of a finite size with room, and the host to measure finite sizes. -/
theorem nan_issued_iff_overruns (hc : c.Reachable) {o : Operation Float32 (FlexOperation Float32)}
    (ho : o.Builds) (hlaid : laidOut? o c = some c')
    (hfinite : c'.size.width.isFinite = true ∧ c'.size.height.isFinite = true)
    (hroom : c'.size.isEmpty = false) {h : Host Float32 σ} {s : σ} {es : List (Exchange Float32)}
    (hcalls : (o.perform h.transcribed c (s, [])).2.2 = es)
    (hsizes : ∀ size ∈ measurements es, size.Proper) :
    (∃ p ∈ placements es, p.2.hasNaN = true) ↔ c'.Overruns (c'.measuredBy h s) := by
  refine relayout_overrun_iff (hc.sane.laidOut ho hlaid) hfinite hroom ?_ hsizes
  have hperform := congrFun (perform_eq h.transcribed o c) (s, [])
  rw [hlaid] at hperform
  rw [← hcalls]
  exact congrArg (fun x => x.2.2) hperform.symm

/-- A row of one item that has a length and shrinks as strongly as it is told to. -/
def strained (weight : Float32) : FlexBox Float32 :=
  ((Operation.own (.add ((Item.ofWidget ⟨1⟩).changeAll [.basis 20, .shrink weight]))).perform
    Recorder.host (FlexBox.new .row) Recorder.empty).1.2

theorem reachable_strained (weight : Float32) : (strained weight).Reachable := by
  have hbuilt : ((Item.ofWidget ⟨1⟩).changeAll [.basis 20, .shrink weight]).Built := ⟨_, _, rfl⟩
  exact .perform Recorder.host Recorder.empty (o := .own (.add _)) hbuilt (.new .row)

def squeezed (weight : Float32) : List (Exchange Float32) :=
  ((Operation.resize ⟨10, 10⟩).perform Recorder.host.transcribed (strained weight) (Recorder.empty, [])).2.2

instance (s : Size Float32) : Decidable s.Proper :=
  decidable_of_iff ((s.width.isFinite = true ∧ 0 ≤ s.width) ∧ s.height.isFinite = true ∧ 0 ≤ s.height)
    ⟨fun h => ⟨h.1, h.2⟩, fun h => ⟨h.width, h.height⟩⟩

theorem nan_issued_iff_overruns_squeezed :
    let c' : FlexBox Float32 := { strained 2 with size := ⟨10, 10⟩ }
    laidOut? (.resize ⟨10, 10⟩) (strained 2) = some c' ∧
      (c'.size.width.isFinite = true ∧ c'.size.height.isFinite = true) ∧ c'.size.isEmpty = false ∧
      (∀ size ∈ measurements (squeezed 2), size.Proper) ∧
      ((∃ p ∈ placements (squeezed 2), p.2.hasNaN = true) ↔
        c'.Overruns (c'.measuredBy Recorder.host Recorder.empty)) :=
  ⟨by decide +kernel, by decide +kernel, by decide +kernel, by decide +kernel,
    nan_issued_iff_overruns (reachable_strained 2) (o := .resize ⟨10, 10⟩) trivial (by decide +kernel)
      (by decide +kernel) (by decide +kernel) rfl (by decide +kernel)⟩

/-- A finite shrink weight can be too great: times the basis it is infinite, and the item that should give
way to the width of its row is given none. -/
theorem nan_issued_to_heavy :
    (strained 3e38).Reachable ∧ (∀ size ∈ measurements (squeezed 3e38), size.Proper) ∧
      ∃ p ∈ placements (squeezed 3e38), p.2.hasNaN = true :=
  ⟨reachable_strained _, by decide +kernel, by decide +kernel⟩

-- The other way: nobody gives way, and two items that are infinitely long together start at minus infinity.
example :
    let add (w : Widget) : Operation Float32 (FlexOperation Float32) :=
      .own (.add ((Item.ofWidget w).changeAll [.basis 3e38, .shrink 0]))
    let start : FlexBox Float32 := FlexBox.new ⟨.row, .start, .end, 1e38⟩
    let c := (Operation.run Recorder.host [add ⟨1⟩, add ⟨2⟩] start Recorder.empty).1
    let calls := ((Operation.resize ⟨10, 10⟩).perform Recorder.host.transcribed c (Recorder.empty, [])).2.2
    ∃ p ∈ placements calls, p.2.hasNaN = true := by
  decide +kernel

end FlexBox

end ResponsiveLayout
