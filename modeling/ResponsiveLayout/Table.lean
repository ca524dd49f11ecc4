/-!
Tables from names to values that keep the order in which the names first came up: setting a name
again changes its value and leaves it where it is.
-/

namespace ResponsiveLayout

/-- Names with their values in order of first mention, each name once. -/
structure Table (β : Type) where
  entries : List (String × β)
  nodup : (entries.map Prod.fst).Nodup
deriving DecidableEq

/-- Change the value of a name in place, or append a name that is new. -/
def setEntry {β : Type} (name : String) (value : β) : List (String × β) → List (String × β)
  | [] => [(name, value)]
  | e :: es => if e.1 = name then (name, value) :: es else e :: setEntry name value es

theorem setEntry_names {β : Type} (name : String) (value : β) (es : List (String × β)) :
    (setEntry name value es).map Prod.fst =
      if name ∈ es.map Prod.fst then es.map Prod.fst else es.map Prod.fst ++ [name] := by
  induction es with
  | nil => simp [setEntry]
  | cons e es ih =>
    by_cases h : e.1 = name
    · simp [setEntry, h]
    · have h' : ¬ name = e.1 := fun he => h he.symm
      by_cases hm : name ∈ es.map Prod.fst <;> simp_all [setEntry]

namespace Table

variable {β : Type}

def empty : Table β := ⟨[], by simp⟩

def set (t : Table β) (name : String) (value : β) : Table β where
  entries := setEntry name value t.entries
  nodup := by
    rw [setEntry_names]
    split
    · exact t.nodup
    · next h =>
      rw [List.nodup_append]
      exact ⟨t.nodup, by simp, fun a ha b hb he => h (by simp_all)⟩

def setAll (t : Table β) (es : List (String × β)) : Table β :=
  es.foldl (fun t e => t.set e.1 e.2) t

/-- The table of a list of pairs: a repeated name keeps its first place and takes its last
value. -/
def ofList (es : List (String × β)) : Table β := empty.setAll es

def names (t : Table β) : List String := t.entries.map Prod.fst

def values (t : Table β) : List β := t.entries.map Prod.snd

def size (t : Table β) : Nat := t.entries.length

def isEmpty (t : Table β) : Bool := t.entries.isEmpty

def get? (t : Table β) (name : String) : Option β := t.entries.lookup name

def indexOf? (t : Table β) (name : String) : Option Nat := t.names.idxOf? name

def contains (t : Table β) (name : String) : Bool := t.names.contains name

/-- Whether two tables give the same names the same values, in whatever order. -/
def same [BEq β] (s t : Table β) : Bool :=
  s.size == t.size && s.entries.all fun e => t.get? e.1 == some e.2

end Table

end ResponsiveLayout
