import ResponsiveLayout.Container.Operation

/-! What an operation on a row or column comes to: it changes nothing, or it makes some change and then lays
the container out once. -/
namespace ResponsiveLayout.FlexBox

variable {α σ : Type} [Scalar α]

/-- The row or column that an operation lays out, if it does not leave everything as it is. -/
def laidOut? (o : Operation α (FlexOperation α)) (c : FlexBox α) : Option (FlexBox α) :=
  match o with
  | .resize size => if size.same c.size && !c.dirty then none else some { c with size }
  | .relayout => some c
  | .settle => if c.dirty then some c else none
  | .own (.add item) => some { c with items := c.items.add item, dirty := true }
  | .own (.remove t) =>
    let items := c.items.erase fun s => t.hits s.id s.item.widget
    if c.items.size - items.size = 0 then none else some { c with items, dirty := true }
  | .own .clear =>
    if c.items.isEmpty then none else some { c with items := c.items.clear, dirty := true }
  | .own (.item _) => none
  | .own (.update id f) =>
    match c.items.get? id with
    | none => none
    | some item =>
      if (f item).same item then none
      else some { c with items := c.items.modify (·.id == id) fun _ => f item, dirty := true }
  | .own (.setDirection d) =>
    if c.config.direction = d then none
    else some { c with config := { c.config with direction := d }, dirty := true }
  | .own (.setAlign a) =>
    if c.config.align = a then none
    else some { c with config := { c.config with align := a }, dirty := true }
  | .own (.setJustify j) =>
    if c.config.justify = j then none
    else some { c with config := { c.config with justify := j }, dirty := true }
  | .own (.setGap gap) =>
    if c.config.gap == Scalar.sanitize gap then none
    else some { c with config := { c.config with gap := Scalar.sanitize gap }, dirty := true }

/-- Lay out what there is to lay out. -/
def layOut (h : Host α σ) (c : FlexBox α) : Option (FlexBox α) → StateM σ (FlexBox α)
  | none => pure c
  | some c' => c'.relayout h

theorem layOut_ite (h : Host α σ) (c c' : FlexBox α) (p : Prop) [Decidable p] :
    (if p then pure c else c'.relayout h) = layOut h c (if p then none else some c') := by
  split <;> rfl

/-- Every operation changes nothing or comes down to a relayout. -/
theorem perform_eq (h : Host α σ) (o : Operation α (FlexOperation α)) (c : FlexBox α) :
    Prod.snd <$> o.perform h c = layOut h c (laidOut? o c) := by
  cases o with
  | resize size => exact layOut_ite h c _ _
  | relayout => rfl
  | settle =>
    change (if c.dirty then c.relayout h else pure c) = layOut h c (if c.dirty then some c else none)
    split <;> rfl
  | own o =>
    cases o with
    | add item => rfl
    | remove t =>
      let items := c.items.erase fun s => t.hits s.id s.item.widget
      change Prod.snd <$> tell .removed (c.remove h t) =
        layOut h c (if c.items.size - items.size = 0 then none else some { c with items, dirty := true })
      by_cases hnone : c.items.size - items.size = 0
      · have hremove : c.remove h t = pure (0, c) := if_pos hnone
        rw [hremove, if_pos hnone]
        rfl
      · have hremove : c.remove h t =
            (fun c' => (c.items.size - items.size, c')) <$> { c with items }.changed h := if_neg hnone
        rw [hremove, if_neg hnone]
        rfl
    | clear => exact layOut_ite h c _ _
    | item id => rfl
    | update id f =>
      change Prod.snd <$> tell .found (c.update h id f) = _
      rw [update, laidOut?]
      cases c.items.get? id with
      | none => rfl
      | some item =>
        dsimp only
        split <;> rfl
    | setDirection d => exact layOut_ite h c _ _
    | setAlign a => exact layOut_ite h c _ _
    | setJustify j => exact layOut_ite h c _ _
    | setGap gap => exact layOut_ite h c _ _

end ResponsiveLayout.FlexBox
