import Mathlib.Data.List.Basic
import ResponsiveLayout.Flex.Container

/-! Sizing and arranging neither lose nor invent an item: there are as many lengths as demands, as
many starts as lengths, and one frame for every measured item, in the same order. -/
namespace ResponsiveLayout

variable {α σ : Type} [Scalar α]

theorem Sizing.length_settle (excess totalWeight left : α) (ps : List (Sizing α)) :
    (settle excess totalWeight left ps).1.length = ps.length := by
  induction ps generalizing left with
  | nil => rfl
  | cons p ps ih =>
    rw [settle]
    split
    · exact congrArg (· + 1) (ih _)
    · exact congrArg (· + 1) (ih _)

theorem Sizing.length_shrink (excess : α) (ps : List (Sizing α)) :
    (shrink excess ps).length = ps.length := by
  induction excess, ps using Sizing.shrink.induct with
  | case1 excess ps hover _ hweight =>
    rw [shrink, if_pos hover]
    exact congrArg List.length (if_pos hweight)
  | case2 excess ps hover _ hweight _ hfewer ih =>
    -- A round that settles an item goes on with as many items as it was given.
    rw [shrink, if_pos hover]
    dsimp only
    rw [if_neg hweight, if_pos hfewer, ih, length_settle]
  | case3 excess ps hover _ hweight _ hfewer =>
    rw [shrink, if_pos hover]
    dsimp only
    rw [if_neg hweight, if_neg hfewer, relieve, List.length_map]
  | case4 excess ps hover => rw [shrink, if_neg hover]

theorem length_growInto (free : α) (ds : List (Demand α)) :
    (growInto free ds).length = ds.length := by
  rw [growInto]
  split
  · exact List.length_map _
  · exact List.length_map _

theorem length_shrinkBy (excess : α) (ds : List (Demand α)) :
    (shrinkBy excess ds).length = ds.length := by
  rw [shrinkBy, List.length_map, Sizing.length_shrink, List.length_map]

theorem length_distribute (ds : List (Demand α)) (available : α) :
    (distribute ds available).sizes.length = ds.length := by
  rw [distribute]
  dsimp only
  split
  · exact length_growInto _ _
  · split
    · exact length_shrinkBy _ _
    · exact List.length_map _

theorem length_offsetsFrom (gap spacing cursor : α) (sizes : List α) :
    (offsetsFrom gap spacing cursor sizes).length = sizes.length := by
  induction sizes generalizing cursor with
  | nil => rfl
  | cons size sizes ih => exact congrArg (· + 1) (ih _)

theorem length_arrange (j : Justify) (sizes : List α) (available gap : α) :
    (arrange j sizes available gap).length = sizes.length :=
  length_offsetsFrom _ _ _ _

namespace FlexBox

theorem pass_eq (h : Host α σ) (c : FlexBox α) (s : σ) :
    c.pass h s =
      let m := attempt (fun s => h.measure s.item.widget) (c.items.inOrder Item.order) s
      let p := attempt (fun f => h.place f.1.item.widget (.frame f.2)) (c.frames m.1.1) m.2
      ({ c with
          items := c.items.eraseIds (m.1.2.map Slot.id ++ p.1.2.map fun f => f.1.id)
          dirty := false
          passes := if m.1.1.isEmpty then c.passes else c.passes + 1 }, p.2) := rfl

/-- Every measured item gets a frame, in the order of measuring. -/
theorem frames_fst (c : FlexBox α) (measured : List (Slot (Item α) × Size α)) :
    (c.frames measured).map Prod.fst = measured.map Prod.fst := by
  let available := c.room measured.length
  let sizes := (distribute (measured.map fun m => c.demand m.1.item m.2) available).sizes
  let starts := arrange c.config.justify sizes available c.config.gap
  have hsizes : sizes.length = measured.length := by
    rw [length_distribute, List.length_map]
  have hstarts : starts.length = measured.length := by
    rw [length_arrange, hsizes]
  have hzip : (measured.zip (starts.zip sizes)).map Prod.fst = measured := by
    apply List.map_fst_zip
    rw [List.length_zip, hstarts, hsizes]
    omega
  calc
    (c.frames measured).map Prod.fst =
      ((measured.zip (starts.zip sizes)).map Prod.fst).map Prod.fst := by
        rw [frames, List.map_map, List.map_map]
        rfl
    _ = measured.map Prod.fst := by rw [hzip]

/-- Items under other names and of other sizes get the same lengths from the same starts, if they ask for
as much of the same room. -/
theorem frames_map {c c' : FlexBox α} {name : Slot (Item α) → Slot (Item α)} {f : Size α → Size α}
    {g : Rect α → Rect α} (hjustify : c'.config.justify = c.config.justify)
    (hgap : c'.config.gap = c.config.gap) (hroom : ∀ n, c'.room n = c.room n)
    (hdemand : ∀ s size, c'.demand (name s).item (f size) = c.demand s.item size)
    (hframe : ∀ s size start length,
      c'.frameOf (name s).item (f size) start length = g (c.frameOf s.item size start length))
    (measured : List (Slot (Item α) × Size α)) :
    c'.frames (measured.map (Prod.map name f)) = (c.frames measured).map (Prod.map name g) := by
  have hdemands : (measured.map (Prod.map name f)).map (fun m => c'.demand m.1.item m.2) =
      measured.map fun m => c.demand m.1.item m.2 := by
    rw [List.map_map]
    exact List.map_congr_left fun m _ => hdemand m.1 m.2
  rw [frames, frames, List.length_map, hroom, hdemands, hjustify, hgap]
  dsimp only
  rw [List.zip_map_left, List.map_map, List.map_map]
  apply List.map_congr_left
  rintro ⟨m, start, length⟩ -
  exact congrArg (Prod.mk (name m.1)) (hframe m.1 m.2 start length)

end FlexBox

end ResponsiveLayout
