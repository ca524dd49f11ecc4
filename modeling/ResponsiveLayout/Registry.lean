import ResponsiveLayout.Widget

/-!
The items of a container under identities that are given out in rising order and never again.
-/

namespace ResponsiveLayout

structure Slot (ι : Type) where
  id : ItemId
  item : ι
deriving DecidableEq

/-- What is registered, in order of registration, and the next identity. No two slots have one
identity, and all identities were given out. -/
@[ext]
structure Registry (ι : Type) where
  slots : List (Slot ι)
  nextIndex : Nat
  nodup : (slots.map Slot.id).Nodup
  lt_next : ∀ s ∈ slots, s.id.index < nextIndex
deriving DecidableEq

def insertByKey {β : Type} (key : β → Int32) (b : β) : List β → List β
  | [] => [b]
  | c :: cs => if key b ≤ key c then b :: c :: cs else c :: insertByKey key b cs

/-- A list by ascending key; elements of equal keys stay in order. -/
def sortByKey {β : Type} (key : β → Int32) : List β → List β
  | [] => []
  | b :: bs => insertByKey key b (sortByKey key bs)

namespace Registry

variable {ι : Type}

def empty : Registry ι := ⟨[], 0, List.nodup_nil, fun _ hs => absurd hs List.not_mem_nil⟩

def size (r : Registry ι) : Nat := r.slots.length

def isEmpty (r : Registry ι) : Bool := r.slots.isEmpty

def nextId (r : Registry ι) : ItemId := ⟨r.nextIndex⟩

theorem nextId_not_mem (r : Registry ι) : r.nextId ∉ r.slots.map Slot.id := by
  intro hm
  obtain ⟨s, hs, hid⟩ := List.mem_map.mp hm
  have hlt := r.lt_next s hs
  rw [hid] at hlt
  exact Nat.lt_irrefl _ hlt

def add (r : Registry ι) (item : ι) : Registry ι where
  slots := r.slots ++ [⟨r.nextId, item⟩]
  nextIndex := r.nextIndex + 1
  nodup := by
    rw [List.map_append, List.nodup_append]
    refine ⟨r.nodup, List.pairwise_singleton _ _, fun a ha b hb hab => r.nextId_not_mem ?_⟩
    have hb : b = r.nextId := List.mem_singleton.mp hb
    rwa [← hb, ← hab]
  lt_next := by
    intro s hs
    rcases List.mem_append.mp hs with hs | hs
    · exact Nat.lt_succ_of_lt (r.lt_next s hs)
    · rw [List.mem_singleton.mp hs]
      exact Nat.lt_succ_self _

def erase (r : Registry ι) (p : Slot ι → Bool) : Registry ι where
  slots := r.slots.filter (!p ·)
  nextIndex := r.nextIndex
  nodup := (List.filter_sublist.map Slot.id).nodup r.nodup
  lt_next s hs := r.lt_next s (List.mem_filter.mp hs).1

def eraseIds (r : Registry ι) (ids : List ItemId) : Registry ι :=
  r.erase fun s => ids.contains s.id

/-- Drop all slots; their identities stay used. -/
def clear (r : Registry ι) : Registry ι where
  slots := []
  nextIndex := r.nextIndex
  nodup := List.nodup_nil
  lt_next _ hs := absurd hs List.not_mem_nil

def mapItems (r : Registry ι) (f : Slot ι → ι) : Registry ι where
  slots := r.slots.map fun s => { s with item := f s }
  nextIndex := r.nextIndex
  nodup := by
    rw [List.map_map]
    exact r.nodup
  lt_next := by
    intro t ht
    obtain ⟨s, hs, rfl⟩ := List.mem_map.mp ht
    exact r.lt_next s hs

def get? (r : Registry ι) (id : ItemId) : Option ι :=
  (r.slots.find? fun s => s.id == id).map Slot.item

def modify (r : Registry ι) (p : Slot ι → Bool) (f : ι → ι) : Registry ι :=
  r.mapItems fun s => if p s then f s.item else s.item

/-- The slots by ascending key; equal keys stay in order of registration. -/
def inOrder (r : Registry ι) (key : ι → Int32) : List (Slot ι) :=
  sortByKey (fun s => key s.item) r.slots

end Registry

end ResponsiveLayout
