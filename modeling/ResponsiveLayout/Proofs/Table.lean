import Mathlib.Data.List.Basic
import Mathlib.Data.List.Induction
import Mathlib.Data.List.Nodup
import ResponsiveLayout.Table

/-! Tables built up by setting names. A name has the value that it was given last, the names stand in the
order of their first mention, and so the table of a list of pairs is the list with its repeats collapsed. -/
namespace ResponsiveLayout

variable {β : Type}

/-- The value that a list of settings gives a name last. -/
def lastValue? (name : String) (es : List (String × β)) : Option β :=
  ((es.filter (·.1 == name)).map Prod.snd).getLast?

/-- A list of settings without its repeats: a name stands where it first came up, with its last value. -/
def collapse (es : List (String × β)) : List (String × β) :=
  (es.map Prod.fst).eraseDups.filterMap fun name => (lastValue? name es).map (name, ·)

theorem lastValue?_concat (name : String) (es : List (String × β)) (e : String × β) :
    lastValue? name (es ++ [e]) = if name = e.1 then some e.2 else lastValue? name es := by
  rw [lastValue?, List.filter_append, List.map_append]
  split
  · next h => simp [h]
  · next h => simp [lastValue?, Ne.symm h]

theorem lookup_cons_entry (name : String) (e : String × β) (es : List (String × β)) :
    (e :: es).lookup name = if name = e.1 then some e.2 else es.lookup name := by
  obtain ⟨n, value⟩ := e
  rw [List.lookup_cons]
  split
  · next h => rw [if_pos (beq_iff_eq.mp h)]
  · next h => rw [if_neg (beq_eq_false_iff_ne.mp h)]

theorem lookup_setEntry (name n : String) (value : β) (es : List (String × β)) :
    (setEntry n value es).lookup name = if name = n then some value else es.lookup name := by
  induction es with
  | nil => exact lookup_cons_entry name (n, value) []
  | cons e es ih =>
    rw [setEntry, lookup_cons_entry]
    split
    · next he =>
      rw [lookup_cons_entry, he]
      split <;> rfl
    · next he =>
      rw [lookup_cons_entry, ih]
      split
      · next h => rw [if_neg (h ▸ he)]
      · rfl

/-- With each name once, the names and what they lead to give the list back. -/
theorem filterMap_lookup {es : List (String × β)} (hnodup : (es.map Prod.fst).Nodup) :
    (es.map Prod.fst).filterMap (fun name => (es.lookup name).map (name, ·)) = es := by
  induction es with
  | nil => rfl
  | cons e es ih =>
    obtain ⟨hnew, hrest⟩ := List.nodup_cons.mp hnodup
    have hothers : (es.map Prod.fst).filterMap (fun name => ((e :: es).lookup name).map (name, ·)) =
        (es.map Prod.fst).filterMap (fun name => (es.lookup name).map (name, ·)) := by
      refine List.filterMap_congr fun name hname => ?_
      have hother : name ≠ e.1 := ne_of_mem_of_not_mem hname hnew
      rw [lookup_cons_entry, if_neg hother]
    rw [List.map_cons, List.filterMap_cons, lookup_cons_entry, if_pos rfl, hothers, ih hrest]
    rfl

theorem eraseDups_concat (names : List String) (name : String) :
    (names ++ [name]).eraseDups = if name ∈ names then names.eraseDups else names.eraseDups ++ [name] := by
  rw [List.eraseDups_append]
  split
  · next h => simp [List.removeAll, h]
  · next h => simp [List.removeAll, h, List.eraseDups_cons]

namespace Table

theorem ofList_concat (es : List (String × β)) (e : String × β) :
    ofList (es ++ [e]) = (ofList es).set e.1 e.2 :=
  List.foldl_append

theorem get?_ofList (name : String) (es : List (String × β)) :
    (ofList es).get? name = lastValue? name es := by
  induction es using List.reverseRecOn with
  | nil => rfl
  | append_singleton es e ih =>
    rw [ofList_concat, lastValue?_concat, ← ih]
    exact lookup_setEntry name e.1 e.2 _

theorem names_ofList (es : List (String × β)) : (ofList es).names = (es.map Prod.fst).eraseDups := by
  induction es using List.reverseRecOn with
  | nil => rfl
  | append_singleton es e ih =>
    have hset : ((ofList es).set e.1 e.2).names =
        if e.1 ∈ (ofList es).names then (ofList es).names else (ofList es).names ++ [e.1] :=
      setEntry_names _ _ _
    rw [ofList_concat, hset, ih, List.map_append, List.map_singleton, eraseDups_concat]
    simp only [List.mem_eraseDups]

theorem entries_ofList (es : List (String × β)) : (ofList es).entries = collapse es := by
  rw [← filterMap_lookup (ofList es).nodup, collapse, ← names_ofList]
  exact List.filterMap_congr fun name _ => congrArg _ (get?_ofList name es)

example : collapse [("sm", 576), ("md", 768), ("sm", 600)] = [("sm", 600), ("md", 768)] := by decide

theorem length_names (t : Table β) : t.names.length = t.size := List.length_map _

theorem indexOf?_getElem (t : Table β) {i : ℕ} (hi : i < t.names.length) :
    t.indexOf? t.names[i] = some i := by
  refine List.idxOf?_eq_some_iff.mpr ⟨hi, rfl, fun j hj heq => ?_⟩
  have hji : j = i := (List.Nodup.getElem_inj_iff t.nodup).mp heq
  omega

end Table

end ResponsiveLayout
