import Mathlib.Data.List.Chain
import ResponsiveLayout.Grid.Breakpoints
import ResponsiveLayout.Proofs.Single.Units
import ResponsiveLayout.Proofs.Table

/-! Tiers and the widths that belong to them. A list of tiers is accepted exactly if it names one and the
least widths are finite and increase strictly; otherwise the first entry that breaks this is named. In an
accepted table the tiers that a width reaches are the first ones, so it belongs to exactly one. -/
namespace ResponsiveLayout

/-- Tiers with finite least widths, each above the one before. -/
structure Rising (es : List (String × Float32)) : Prop where
  finite : ∀ e ∈ es, e.2.isFinite = true
  increasing : es.IsChain (·.2 < ·.2)

/-- What is wrong with an entry that cannot follow the entries before it. -/
inductive Fault (before : List (String × Float32)) (e : String × Float32) : LayoutError Float32 → Prop
  | notFinite (he : e.2.isFinite = false) : Fault before e (.nonFiniteBreakpoint e.1)
  | notIncreasing {p : String × Float32} (he : e.2.isFinite = true) (hp : before.getLast? = some p)
      (hless : ¬ p.2 < e.2) : Fault before e (.breakpointsNotIncreasing e.1 e.2 p.1 p.2)

/-- What the check of a list of tiers finds: nothing, or the first entry that is wrong. -/
inductive Verdict (es : List (String × Float32)) : Option (LayoutError Float32) → Prop
  | rising (hes : Rising es) : Verdict es none
  | faulty {before after : List (String × Float32)} {e : String × Float32} {f : LayoutError Float32}
      (hes : es = before ++ e :: after) (hbefore : Rising before) (he : Fault before e f) :
      Verdict es (some f)

namespace Rising

variable {before after : List (String × Float32)} {e : String × Float32}

theorem concat (hbefore : Rising before) (he : e.2.isFinite = true)
    (hlast : ∀ p ∈ before.getLast?, p.2 < e.2) : Rising (before ++ [e]) where
  finite := List.forall_mem_append.mpr ⟨hbefore.finite, by simpa using he⟩
  increasing := List.isChain_append.mpr ⟨hbefore.increasing, by simp, by simpa using hlast⟩

/-- In a rising list no entry is wrong. -/
theorem not_fault (hes : Rising (before ++ e :: after)) (f : LayoutError Float32) :
    ¬ Fault before e f := by
  intro hfault
  have hfinite : e.2.isFinite = true := hes.finite e (by simp)
  cases hfault with
  | notFinite he => simp [he] at hfinite
  | notIncreasing he hp hless =>
    exact hless ((List.isChain_append.mp hes.increasing).2.2 _ hp e (by simp))

end Rising

theorem verdict_firstFault? {before : List (String × Float32)} (hbefore : Rising before)
    (es : List (String × Float32)) : Verdict (before ++ es) (firstFault? before.getLast? es) := by
  -- Each entry that passes moves from the list to check to the rising list before it.
  induction es generalizing before with
  | nil =>
    rw [List.append_nil]
    exact .rising hbefore
  | cons e es ih =>
    have hnext (he : e.2.isFinite = true) (hlast : ∀ p ∈ before.getLast?, p.2 < e.2) :
        Verdict (before ++ e :: es) (firstFault? (some e) es) := by
      have hmoved := ih (hbefore.concat he hlast)
      rwa [List.append_assoc, List.getLast?_concat] at hmoved
    rw [firstFault?.eq_def]
    dsimp only
    split
    · next he =>
      have hinfinite : Scalar.isFinite e.2 = false := by simpa using he
      exact .faulty rfl hbefore (.notFinite hinfinite)
    · next he =>
      have hfinite : Scalar.isFinite e.2 = true := by simpa using he
      cases hlast : before.getLast? with
      | none => exact hnext hfinite (by simp [hlast])
      | some p =>
        have hp : p.2.isFinite = true := hbefore.finite p (List.mem_of_getLast? hlast)
        dsimp only
        split
        · next hle =>
          exact .faulty rfl hbefore
            (.notIncreasing hfinite hlast fun hless => (Single.lt_iff_not_le hp hfinite).mp hless hle)
        · next hle =>
          have hless : p.2 < e.2 := (Single.lt_iff_not_le hp hfinite).mpr hle
          exact hnext hfinite (by simpa [hlast] using hless)

section

variable {β : Type} {p : β → Bool}

theorem lastIndex?_eq_none_iff {xs : List β} : lastIndex? p xs = none ↔ ∀ x ∈ xs, p x = false := by
  induction xs with
  | nil => simp [lastIndex?]
  | cons x xs ih =>
    rw [lastIndex?, List.forall_mem_cons, ← ih]
    cases lastIndex? p xs <;> simp

theorem lastIndex?_eq_some {xs : List β} {i : ℕ} (hi : lastIndex? p xs = some i) :
    (∃ x, xs[i]? = some x ∧ p x = true) ∧ ∀ j x, xs[j]? = some x → p x = true → j ≤ i := by
  induction xs generalizing i with
  | nil => cases hi
  | cons x xs ih =>
    rw [lastIndex?] at hi
    cases hlater : lastIndex? p xs with
    | some k =>
      rw [hlater] at hi
      obtain rfl := Option.some.inj hi
      obtain ⟨hreached, hlast⟩ := ih hlater
      refine ⟨hreached, fun j y hy hpy => ?_⟩
      cases j with
      | zero => omega
      | succ j => exact Nat.succ_le_succ (hlast j y hy hpy)
    | none =>
      rw [hlater] at hi
      dsimp only at hi
      split at hi
      · next hx =>
        obtain rfl := Option.some.inj hi
        refine ⟨⟨x, rfl, hx⟩, fun j y hy hpy => ?_⟩
        cases j with
        | zero => rfl
        | succ j =>
          have hy' : p y = false := lastIndex?_eq_none_iff.mp hlater y (List.mem_of_getElem? hy)
          simp [hpy] at hy'
      · cases hi

end

namespace Breakpoints

variable {b : Breakpoints Float32} {w w' : Float32}

/-- A width reaches the tier at a place of the table. -/
def Reaches (b : Breakpoints Float32) (w : Float32) (i : ℕ) : Prop :=
  ∃ least, b.tiers.values[i]? = some least ∧ least ≤ w

theorem Reaches.lt {i : ℕ} (hi : b.Reaches w i) : i < b.tiers.size := by
  obtain ⟨least, hleast, -⟩ := hi
  obtain ⟨hlt, -⟩ := List.getElem?_eq_some_iff.mp hleast
  simpa [Table.values, Table.size] using hlt

theorem Reaches.mono (hw : w ≤ w') {i : ℕ} (hi : b.Reaches w i) : b.Reaches w' i := by
  obtain ⟨least, hleast, hle⟩ := hi
  exact ⟨least, hleast, Single.le_trans hle hw⟩

/-- Whoever reaches a tier reaches those before it. -/
theorem Reaches.of_le (hb : Rising b.tiers.entries) {i j : ℕ} (hj : b.Reaches w j) (hij : i ≤ j) :
    b.Reaches w i := by
  induction j, hij using Nat.le_induction with
  | base => exact hj
  | succ j hij ih =>
    obtain ⟨least, hleast, hle⟩ := hj
    have hchain : b.tiers.values.IsChain (· < ·) := (List.isChain_map Prod.snd).mpr hb.increasing
    obtain ⟨hlt, rfl⟩ := List.getElem?_eq_some_iff.mp hleast
    have hstep : b.tiers.values[j] < b.tiers.values[j + 1] := List.isChain_iff_getElem.mp hchain j hlt
    exact ih ⟨_, List.getElem?_eq_getElem _, Single.le_trans (Single.le_of_lt hstep) hle⟩

/-- If any tier is reached, a width belongs to the last one that it reaches. -/
theorem Reaches.of_resolveIndex {i j : ℕ} (hj : b.Reaches w j) (hi : b.resolveIndex w = some i) :
    b.Reaches w i ∧ j ≤ i := by
  obtain ⟨least, hleast, hle⟩ := hj
  rw [resolveIndex] at hi
  split at hi
  · cases hi
  · obtain rfl := Option.some.inj hi
    cases hlast : lastIndex? (fun least => decide (least ≤ w)) b.tiers.values with
    | none =>
      have hnone := lastIndex?_eq_none_iff.mp hlast least (List.mem_of_getElem? hleast)
      exact absurd hle (of_decide_eq_false hnone)
    | some i =>
      obtain ⟨⟨x, hx, hxle⟩, hbehind⟩ := lastIndex?_eq_some hlast
      exact ⟨⟨x, hx, of_decide_eq_true hxle⟩, hbehind j least hleast (decide_eq_true hle)⟩

theorem reaches_or_of_resolveIndex {i : ℕ} (hi : b.resolveIndex w = some i) : b.Reaches w i ∨ i = 0 := by
  cases hlast : lastIndex? (fun least => decide (least ≤ w)) b.tiers.values with
  | none =>
    rw [resolveIndex, hlast] at hi
    split at hi
    · cases hi
    · exact .inr (Option.some.inj hi).symm
  | some j =>
    obtain ⟨⟨x, hx, hxle⟩, -⟩ := lastIndex?_eq_some hlast
    have hj : b.Reaches w j := ⟨x, hx, of_decide_eq_true hxle⟩
    exact .inl (hj.of_resolveIndex hi).1

/-- Where there are tiers, every width belongs to one of them. -/
theorem exists_resolveIndex (hb : b.tiers.entries ≠ []) (w : Float32) :
    ∃ i, b.resolveIndex w = some i ∧ i < b.tiers.size := by
  have htiers : ¬ b.tiers.isEmpty = true := fun h => hb (List.isEmpty_iff.mp h)
  refine ⟨_, if_neg htiers, ?_⟩
  rcases reaches_or_of_resolveIndex (if_neg htiers : b.resolveIndex w = _) with hw | hw
  · exact hw.lt
  · rw [hw]
    exact List.length_pos_iff.mpr hb

theorem resolveIndex_mono (hw : w ≤ w') {i i' : ℕ} (hi : b.resolveIndex w = some i)
    (hi' : b.resolveIndex w' = some i') : i ≤ i' := by
  rcases reaches_or_of_resolveIndex hi with hreached | hzero
  · exact ((hreached.mono hw).of_resolveIndex hi').2
  · rw [hzero]
    exact Nat.zero_le _

/-- That a width belongs to the tier at a place, the last one that it reaches or the first if it reaches
none, and that this tier is found under its name. -/
structure Resolved (b : Breakpoints Float32) (w : Float32) (i : ℕ) : Prop where
  index : b.resolveIndex w = some i
  lt : i < b.tiers.size
  unique : b.Reaches w 0 → ∀ j, b.Reaches w j ∧ ¬ b.Reaches w (j + 1) ↔ j = i
  below : ¬ b.Reaches w 0 → i = 0
  name : b.names[i]? = some (b.resolve w)
  place : b.tiers.indexOf? (b.resolve w) = some i

theorem exists_resolved (hne : b.tiers.entries ≠ []) (hb : Rising b.tiers.entries) (w : Float32) :
    ∃ i, b.Resolved w i := by
  obtain ⟨i, hi, hsize⟩ := exists_resolveIndex hne w
  have hlt : i < b.names.length := by
    rwa [names, Table.length_names]
  have hresolve : b.resolve w = b.names[i] := by
    rw [resolve, hi, Option.map_some, Option.getD_some, nameAt, List.getElem?_eq_getElem hlt,
      Option.getD_some]
  refine ⟨i, hi, hsize, fun hfirst j => ⟨fun ⟨hj, hnext⟩ => ?_, ?_⟩, fun hnone => ?_, ?_, ?_⟩
  · obtain ⟨hreached, hle⟩ := hj.of_resolveIndex hi
    refine Nat.le_antisymm hle (Nat.le_of_not_lt fun hless => hnext ?_)
    exact hreached.of_le hb hless
  · rintro rfl
    refine ⟨(hfirst.of_resolveIndex hi).1, fun hnext => ?_⟩
    have hbound := (hnext.of_resolveIndex hi).2
    omega
  · exact (reaches_or_of_resolveIndex hi).resolve_left fun hi => hnone (hi.of_le hb (Nat.zero_le _))
  · rw [hresolve, List.getElem?_eq_getElem hlt]
  · rw [hresolve]
    exact b.tiers.indexOf?_getElem hlt

/-- What becomes of a table of tiers. -/
theorem ofTable_cases (t : Table Float32) :
    t.entries = [] ∧ ofTable t = .error .noBreakpoints ∨
      t.entries ≠ [] ∧ Rising t.entries ∧ ofTable t = .ok ⟨t⟩ ∨
        ∃ before e after f, t.entries = before ++ e :: after ∧ Rising before ∧ Fault before e f ∧
          ofTable t = .error f := by
  by_cases hempty : t.entries = []
  · refine .inl ⟨hempty, ?_⟩
    rw [ofTable, Table.isEmpty, if_pos (List.isEmpty_iff.mpr hempty)]
  · have hverdict : Verdict t.entries (firstFault? none t.entries) :=
      verdict_firstFault? ⟨List.forall_mem_nil _, .nil⟩ t.entries
    rw [ofTable, Table.isEmpty, if_neg fun h => hempty (List.isEmpty_iff.mp h)]
    cases hfault : firstFault? none t.entries with
    | none =>
      rw [hfault] at hverdict
      cases hverdict with
      | rising hes => exact .inr (.inl ⟨hempty, hes, rfl⟩)
    | some f =>
      rw [hfault] at hverdict
      cases hverdict with
      | faulty hes hbefore he => exact .inr (.inr ⟨_, _, _, f, hes, hbefore, he, rfl⟩)

/-- A list of tiers is accepted exactly if something is left of it without its repeats and this rises; the
error then names the first entry that is wrong. In an accepted table every width, a number or not, has one
tier, and a greater width never has a narrower one. -/
theorem ofList_accepts_and_resolves (es : List (String × Float32)) :
    ((∃ b, ofList es = .ok b) ↔ collapse es ≠ [] ∧ Rising (collapse es)) ∧
      (∀ f, ofList es = .error f →
        collapse es = [] ∧ f = .noBreakpoints ∨
          ∃ before e after, collapse es = before ++ e :: after ∧ Rising before ∧ Fault before e f) ∧
      ∀ b, ofList es = .ok b →
        b.tiers.entries = collapse es ∧ (∀ w, ∃ i, b.Resolved w i) ∧
          ∀ w w' i i', w ≤ w' → b.resolveIndex w = some i → b.resolveIndex w' = some i' → i ≤ i' := by
  have hcases := ofTable_cases (Table.ofList es)
  rw [Table.entries_ofList] at hcases
  rw [ofList]
  rcases hcases with ⟨hempty, hres⟩ | ⟨hne, hes, hres⟩ | ⟨before, e, after, f, hes, hbefore, he, hres⟩
  · rw [hres]
    refine ⟨iff_of_false (by simp) fun h => h.1 hempty, fun f hf => .inl ⟨hempty, ?_⟩, by simp⟩
    exact (Except.error.inj hf).symm
  · rw [hres]
    refine ⟨iff_of_true ⟨_, rfl⟩ ⟨hne, hes⟩, by simp, fun b hb => ?_⟩
    obtain rfl := Except.ok.inj hb
    have hentries := Table.entries_ofList es
    refine ⟨hentries, exists_resolved (hentries ▸ hne) (hentries ▸ hes), fun w w' i i' hw => ?_⟩
    exact resolveIndex_mono hw
  · rw [hres]
    refine ⟨iff_of_false (by simp) fun h => ?_, fun f' hf => .inr ⟨before, e, after, hes, hbefore, ?_⟩,
      by simp⟩
    · exact (hes ▸ h.2).not_fault f he
    · rwa [← Except.error.inj hf]

end Breakpoints

end ResponsiveLayout
