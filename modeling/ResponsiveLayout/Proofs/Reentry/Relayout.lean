import ResponsiveLayout.Proofs.Container.Passing
import ResponsiveLayout.Proofs.Reentry.Closure

/-! What becomes of a relayout that is requested during a call from outside. If the call settles, the
request is answered by a pass, or the container is left with nothing to lay out, but for one case:
a size was requested along with it, and the resize that is replayed in its stead is ignored. -/
namespace ResponsiveLayout

variable {α σ C O : Type}

theorem due_ne_none {heard : List (Request α)} (hr : heard.any Request.isRelayout = true) :
    due heard ≠ none := by
  unfold due
  split
  · exact Option.some_ne_none _
  · rw [if_pos hr]
    exact Option.some_ne_none _

variable [Passing C α O]

/-- A turn that is a pass over the items of a container that is ready for one. -/
def Turn.RunsPass (t : Turn (Deed α O) α C) : Prop :=
  ∃ c : C, Passing.isReady c = true ∧
    ∀ (σ : Type) (h : Host α σ), Prod.snd <$> t.asked.perform h t.start = Passing.pass h c

/-- A request is answered if a later turn runs a pass, or if in the end there are no items or there
is no room for them. -/
def Answered (later : List (Turn (Deed α O) α C)) (stop : C) : Prop :=
  (∃ t ∈ later, t.RunsPass) ∨ Passing.isReady stop = false

/-- A request is swallowed if no later deed of the closure runs a pass and the only replay is a
resize that the container ignores, although there are items and room for them. -/
def Swallowed (later : List (Turn (Deed α O) α C)) (stop : C) : Prop :=
  ∃ own size c, later = own ++ [⟨.operation (.resize size), c, []⟩] ∧
    (∀ t ∈ own, ¬ t.RunsPass) ∧ Passing.ignores size c = true ∧
    stop = Passing.unmoved size c ∧ Passing.isReady stop = true

theorem runsPass_relayout {c : C} (hc : Passing.isReady c = true) (heard : List (Request α)) :
    (⟨.operation .relayout, c, heard⟩ : Turn (Deed α O) α C).RunsPass := by
  refine ⟨c, hc, fun σ h => ?_⟩
  change Container.relayout h c = Passing.pass h c
  rw [Passing.relayout_eq, if_pos hc]

theorem runsPass_resize {c : C} {size : Size α} (hi : Passing.ignores size c = false)
    (hc : Passing.isReady (Passing.takes size c) = true) (heard : List (Request α)) :
    (⟨.operation (.resize size), c, heard⟩ : Turn (Deed α O) α C).RunsPass := by
  refine ⟨Passing.takes size c, hc, fun σ h => ?_⟩
  change Container.resize h size c = Passing.pass h (Passing.takes size c)
  rw [Passing.resize_eq, hi, if_neg Bool.false_ne_true, Passing.relayout_eq, if_pos hc]

/-- An ignored resize calls nobody, and a pass does. -/
theorem not_runsPass_ignored {c : C} {size : Size α} (hi : Passing.ignores size c = true)
    (heard : List (Request α)) :
    ¬ (⟨.operation (.resize size), c, heard⟩ : Turn (Deed α O) α C).RunsPass := by
  rintro ⟨c', hc', hpass⟩
  -- Answers show no calls, so the two are told apart on a host that rings when it is called.
  have hbell : Container.resize Host.bell size c = Passing.pass Host.bell c' := hpass Bool Host.bell
  have hrung := Passing.pass_rings hc'
  rw [← hbell, Passing.resize_eq, if_pos hi] at hrung
  exact Bool.false_ne_true hrung

theorem Swallowed.not_answered {later : List (Turn (Deed α O) α C)} {stop : C}
    (hs : Swallowed later stop) : ¬ Answered later stop := by
  obtain ⟨own, size, c, rfl, hown, hi, rfl, hready⟩ := hs
  rintro (⟨t, ht, hpass⟩ | hstop)
  · rcases List.mem_append.mp ht with ht | ht
    · exact hown t ht hpass
    · rw [List.mem_singleton] at ht
      subst ht
      exact not_runsPass_ignored hi [] hpass
  · rw [hready] at hstop
    exact Bool.noConfusion hstop

section

variable {h : ReentrantHost α σ} {n : Nat} {heard left : List (Request α)} {start stop : C × σ}
  {turns : List (Turn (Pending α) α C)}

omit [Passing C α O] in
/-- After an operation during which nothing was requested, nothing follows. -/
theorem Replays.of_quiet [Container C α] (hr : Replays h n [] start turns left stop) :
    turns = [] ∧ stop = start := by
  cases hr with
  | settled | cutOff => exact ⟨rfl, rfl⟩
  | turn hd => exact absurd hd.symm (Option.some_ne_none _)

omit [Passing C α O] in
theorem Replays.suffix [Container C α] (hr : Replays h n heard start turns left stop)
    {before after : List (Turn (Pending α) α C)} {t : Turn (Pending α) α C}
    (hsplit : turns = before ++ t :: after) : ∃ m x, Replays h m t.heard x after left stop := by
  induction hr generalizing before with
  | settled | cutOff => exact absurd hsplit.symm (List.append_ne_nil_of_right_ne_nil _ (List.cons_ne_nil _ _))
  | turn _ _ hrest ih =>
    cases before with
    | nil =>
      obtain ⟨rfl, rfl⟩ := List.cons.inj hsplit
      exact ⟨_, _, hrest⟩
    | cons b before => exact ih (List.cons.inj hsplit).2

theorem Replays.of_unready {c c' : C} {s s' : σ} (hc : Passing.isReady c = false)
    (hrelayout : Container.relayout h.overheard c (s, []) = (c', s', heard))
    (hrest : Replays h n heard (c', s') turns left stop) : Passing.isReady stop.1 = false := by
  rw [Passing.relayout_eq, hc] at hrelayout
  -- Without items or room nobody is called, so nothing new can have been requested.
  change (Passing.owing c, s, []) = (c', s', heard) at hrelayout
  cases hrelayout
  obtain ⟨-, rfl⟩ := hrest.of_quiet
  exact (Passing.isReady_owing c).trans hc

/-- What the replays after an operation with a request for a relayout come to. -/
theorem Replays.answered_or_ignored (hr : Replays h n heard start turns left stop)
    (hleft : due left = none) (hheard : heard.any Request.isRelayout = true) :
    Answered (turns.map Turn.ofPending) stop.1 ∨
      ∃ size, turns = [⟨.resize size, start.1, []⟩] ∧ Passing.ignores size start.1 = true ∧
        stop.1 = Passing.unmoved size start.1 := by
  cases hr with
  | settled hd => exact absurd hd (due_ne_none hheard)
  | cutOff => exact absurd hleft (due_ne_none hheard)
  | @turn n _ c s p c' s' heard' turns _ _ hd hp hrest =>
    cases p with
    | relayout =>
      cases hc : Passing.isReady c with
      | true => exact .inl (.inl ⟨_, List.mem_cons_self, runsPass_relayout hc heard'⟩)
      | false => exact .inl (.inr (hrest.of_unready hc hp))
    | resize size =>
      have hp : Container.resize h.overheard size c (s, []) = (c', s', heard') := hp
      rw [Passing.resize_eq] at hp
      cases hi : Passing.ignores size c with
      | true =>
        rw [hi] at hp
        change (Passing.unmoved size c, s, []) = (c', s', heard') at hp
        cases hp
        obtain ⟨rfl, rfl⟩ := hrest.of_quiet
        exact .inr ⟨size, rfl, hi, rfl⟩
      | false =>
        rw [hi, if_neg Bool.false_ne_true] at hp
        cases hc : Passing.isReady (Passing.takes size c) with
        | true => exact .inl (.inl ⟨_, List.mem_cons_self, runsPass_resize hi hc heard'⟩)
        | false => exact .inl (.inr (hrest.of_unready hc hp))

/-- After a turn with a request for a relayout that is not answered, the request was swallowed. -/
theorem Replays.swallowed (hr : Replays h n heard start turns left stop) (hleft : due left = none)
    (hheard : heard.any Request.isRelayout = true) (own : List (Turn (Deed α O) α C))
    (hna : ¬ Answered (own ++ turns.map Turn.ofPending) stop.1) :
    Swallowed (own ++ turns.map Turn.ofPending) stop.1 := by
  have hown : ∀ t ∈ own, ¬ t.RunsPass := fun t ht hpass =>
    hna (.inl ⟨t, List.mem_append_left _ ht, hpass⟩)
  have hready : Passing.isReady stop.1 = true :=
    (Bool.eq_false_or_eq_true _).resolve_right fun hstop => hna (.inr hstop)
  rcases hr.answered_or_ignored hleft hheard with
    (⟨t, ht, hpass⟩ | hstop) | ⟨size, hturns, hi, hstop⟩
  · exact absurd (.inl ⟨t, List.mem_append_right _ ht, hpass⟩) hna
  · exact absurd (.inr hstop) hna
  · refine ⟨own, size, start.1, ?_, hown, hi, hstop, hready⟩
    rw [hturns]
    rfl

end

/-- A host that measures every widget alike and makes the next requests of a list before it returns
from a placement. -/
def ReentrantHost.prompted (size : Size α) : ReentrantHost α (List (List (Request α))) where
  measure _ s := ((.ok size, []), s)
  place _ _ s := ((.ok (), s.headD []), s.tail)
  restack _ _ s := ((.ok (), []), s)
  configureGrid _ s := ([], s)

/-- A row with one item that had no room so far. -/
def FlexBox.waiting : FlexBox Float32 where
  config := .row
  items := Registry.empty.add (.ofWidget ⟨1⟩)
  size := .zero
  dirty := true
  passes := 0

/-- A call from outside that settles answers a relayout requested in one of its turns, with a pass
that starts afterwards or by being left without items or room for them, exactly unless the request
is swallowed. -/
theorem nested_relayout_answered_iff (h : ReentrantHost α σ) (call : OutsideCall α O) (c : C)
    (s : σ) :
    ∃ own mid replayed left stop,
      Performs h call.closure (c, s) own mid ∧
      Replays h maxReplays (own.flatMap Turn.heard) mid replayed left stop ∧
      call.carryOut h (Guarded.new c) s = (Guarded.new stop.1, stop.2) ∧
      (due left = none → ∀ before t after,
        own ++ replayed.map Turn.ofPending = before ++ t :: after →
        t.heard.any Request.isRelayout = true →
        (Answered after stop.1 ↔ ¬ Swallowed after stop.1)) := by
  obtain ⟨own, mid, hp⟩ := exists_performs h call.closure (c, s)
  obtain ⟨replayed, left, stop, hr⟩ :=
    exists_replays h maxReplays (own.flatMap Turn.heard) mid
  refine ⟨own, mid, replayed, left, stop, hp, hr, OutsideCall.carryOut_new hp hr, ?_⟩
  intro hleft before t after hsplit ht
  refine ⟨fun ha hs => hs.not_answered ha, fun hns => by_contra fun hna => hns ?_⟩
  -- Only later replays can answer a request that came with a replay.
  have hreplay (done : List (Turn (Deed α O) α C))
      (hdone : replayed.map Turn.ofPending = done ++ t :: after) : Swallowed after stop.1 := by
    obtain ⟨first, last, rfl, -, hlast⟩ := List.map_eq_append_iff.mp hdone
    obtain ⟨u, last, rfl, rfl, rfl⟩ := List.map_eq_cons_iff.mp hlast
    obtain ⟨m, x, hsuffix⟩ := hr.suffix rfl
    exact hsuffix.swallowed hleft ht [] hna
  rcases List.append_eq_append_iff.mp hsplit with ⟨done, -, hdone⟩ | ⟨rest, hown, hafter⟩
  · exact hreplay done hdone
  · rcases List.cons_eq_append_iff.mp hafter with ⟨rfl, hall⟩ | ⟨rest, rfl, rfl⟩
    · exact hreplay [] hall
    · have hheard : (own.flatMap Turn.heard).any Request.isRelayout = true := by
        rw [hown, List.flatMap_append, List.flatMap_cons, List.any_append, List.any_append, ht,
          Bool.true_or, Bool.or_true]
      exact hr.swallowed hleft hheard rest hna

/-- A row is given room, and during the pass its host asks for a relayout and then for the size that
the row has just got: the call settles, and the relayout is never answered. -/
theorem nested_relayout_unanswered :
    let room : Size Float32 := ⟨100, 20⟩
    let h := ReentrantHost.prompted (.zero : Size Float32)
    ¬ ∀ own mid replayed left stop,
      Performs h (OutsideCall.resize room).closure
        (FlexBox.waiting, [[.relayout, .resize room]]) own mid →
      Replays h maxReplays (own.flatMap Turn.heard) mid replayed left stop → due left = none →
      ∀ before t after, own ++ replayed.map Turn.ofPending = before ++ t :: after →
        t.heard.any Request.isRelayout = true → Answered after stop.1 := by
  intro room h hclaim
  -- `x` is the resize from outside, `y` the replay that it leads to.
  let x := Container.resize h.overheard room FlexBox.waiting ([[.relayout, .resize room]], [])
  let y := Container.resize h.overheard room x.1 (x.2.1, [])
  have hx : x.2.2 = [.relayout, .resize room] := by decide +kernel
  have hy : y.2.2 = [] := by decide +kernel
  have hi : Passing.ignores room x.1 = true := by decide +kernel
  have hready : Passing.isReady y.1 = true := by decide +kernel
  have hp : Performs h (OutsideCall.resize room).closure
      (FlexBox.waiting, [[.relayout, .resize room]])
      [⟨.operation (.resize room), FlexBox.waiting, x.2.2⟩] (x.1, x.2.1) := .step rfl .done
  have hr : Replays h maxReplays x.2.2 (x.1, x.2.1) [⟨.resize room, x.1, y.2.2⟩] y.2.2
      (y.1, y.2.1) := by
    refine .turn ?_ rfl (.settled (by rw [hy]; rfl))
    rw [hx]
    rfl
  have hleft : due y.2.2 = none := by rw [hy]; rfl
  have hask : x.2.2.any Request.isRelayout = true := by rw [hx]; rfl
  have hanswered := hclaim _ _ _ _ _ hp
    (by rw [List.flatMap_cons, List.flatMap_nil, List.append_nil]; exact hr) hleft [] _ _ rfl hask
  refine Swallowed.not_answered ⟨[], room, x.1, ?_, ?_, hi, ?_, hready⟩ hanswered
  · rw [hy]
    rfl
  · exact fun t ht => absurd ht List.not_mem_nil
  · change (Container.resize h.overheard room x.1 (x.2.1, [])).1 = _
    rw [Passing.resize_eq, if_pos hi]
    rfl

end ResponsiveLayout
