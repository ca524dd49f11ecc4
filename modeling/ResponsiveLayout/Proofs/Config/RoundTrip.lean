import ResponsiveLayout.Proofs.Config.Written

/-! Configurations written and read again. Whatever text a configuration was read from, its own written
form is read as the same configuration, with its tiers or spans in the same order. Only a gap that is
not finite has no written form, and a configuration with such a gap is refused when it comes back. -/
namespace ResponsiveLayout

namespace Json

variable {ε β σ : Type} {member : σ → String → Reader ε σ} {P : σ → Prop}

/-- That reading a member keeps a property of the state. -/
def Keeps (P : σ → Prop) (member : σ → String → Reader ε σ) : Prop :=
  ∀ s key ts s' rest, P s → member s key ts = .ok (s', rest) → P s'

theorem Keeps.readMembers (hmember : Keeps P member) {s s' : σ} {ts rest : List Token} (hs : P s)
    (hread : Json.readMembers member s ts = .ok (s', rest)) : P s' := by
  fun_induction Json.readMembers member s ts with
  | case3 s _ ts key _ s₁ left hone =>
    obtain ⟨rfl, -⟩ := Prod.mk.inj (Except.ok.inj hread)
    exact hmember s key ts s₁ _ hs hone
  | case4 s _ ts key _ s₁ left hone _ ih => exact ih (hmember s key ts s₁ _ hs hone) hread
  | _ => cases hread

theorem Keeps.readFields (hmember : Keeps P member) {fields : List String} {s s' : σ}
    {ts rest : List Token} (hs : P s) (hread : Json.readFields member s fields ts = .ok (s', rest)) :
    P s' := by
  -- An array gives the fields in their order, so the induction is on the fields that are left.
  fun_induction Json.readFields member s fields ts with
  | case1 fields s ts =>
    obtain ⟨rfl, -⟩ := Prod.mk.inj (Except.ok.inj hread)
    exact hs
  | case3 s field fields ts s₁ left hone ih => exact ih (hmember s field ts s₁ left hs hone) hread
  | _ => cases hread

/-- What every member keeps holds of a record that is read from a state of which it holds. -/
theorem Keeps.readRecord (hmember : Keeps P member) {fields : List String} {s s' : σ}
    {ts rest : List Token} (hs : P s) (hread : Json.readRecord fields member s ts = .ok (s', rest)) :
    P s' := by
  unfold Json.readRecord readObject at hread
  split at hread
  · obtain ⟨rfl, -⟩ := Prod.mk.inj (Except.ok.inj hread)
    exact hs
  · exact hmember.readFields hs hread
  · split at hread
    · obtain ⟨rfl, -⟩ := Prod.mk.inj (Except.ok.inj hread)
      exact hs
    · exact hmember.readMembers hs hread
    · cases hread

theorem Reader.map_eq_ok {γ : Type} {r : Reader ε β} {f : β → γ} {c : γ} {ts rest : List Token}
    (hread : r.map f ts = .ok (c, rest)) : ∃ b, r ts = .ok (b, rest) ∧ f b = c := by
  rw [Reader.map] at hread
  cases hr : r ts with
  | error e =>
    rw [hr] at hread
    cases hread
  | ok x =>
    rw [hr] at hread
    obtain ⟨hb, rfl⟩ := Prod.mk.inj (Except.ok.inj hread)
    exact ⟨x.1, rfl, hb⟩

theorem Reader.check_eq_ok {γ : Type} {r : Reader ε β} {f : β → Except ε γ} {c : γ}
    {ts rest : List Token} (hread : r.check f ts = .ok (c, rest)) : ∃ b, f b = .ok c := by
  rw [Reader.check] at hread
  cases hr : r ts with
  | error e =>
    rw [hr] at hread
    cases hread
  | ok x =>
    rw [hr] at hread
    dsimp only at hread
    cases hf : f x.1 with
    | error e =>
      rw [hf] at hread
      cases hread
    | ok c' =>
      rw [hf] at hread
      obtain ⟨rfl, -⟩ := Prod.mk.inj (Except.ok.inj hread)
      exact ⟨x.1, hf⟩

theorem Reader.run_eq_ok {r : Reader ε β} {text : String} {b : β} (hread : r.run text = .ok b) :
    r (scan text.toList) = .ok (b, []) := by
  rw [Reader.run] at hread
  split at hread
  · cases hread
  · next hr => rw [hr, Except.ok.inj hread]
  · cases hread

end Json

open Json

namespace Breakpoints

/-- Tiers that the checks of the library have passed. -/
def Accepted (b : Breakpoints Float32) : Prop := ofTable b.tiers = .ok b

theorem accepted_of_ofTable {t : Table Float32} {b : Breakpoints Float32} (ht : ofTable t = .ok b) :
    b.Accepted := by
  have htiers : b = ⟨t⟩ := by
    rw [ofTable] at ht
    split at ht
    · cases ht
    · split at ht
      · cases ht
      · exact (Except.ok.inj ht).symm
  subst htiers
  exact ht

theorem accepted_standard : (standard : Breakpoints Float32).Accepted := by
  rw [Accepted]
  decide +kernel

theorem accepted_of_read {ts rest : List Token} {b : Breakpoints Float32}
    (hread : read ts = .ok (b, rest)) : b.Accepted := by
  obtain ⟨t, ht⟩ := Reader.check_eq_ok hread
  exact accepted_of_ofTable ht

theorem finite_of_firstFault? {es : List (String × Float32)} {previous? : Option (String × Float32)}
    (hes : firstFault? previous? es = none) : ∀ e ∈ es, e.2.isFinite = true := by
  -- The width before an entry decides only whether the order is right, so it may be any.
  induction es generalizing previous? with
  | nil => exact List.forall_mem_nil _
  | cons e es ih =>
    rw [firstFault?.eq_def] at hes
    dsimp only at hes
    split at hes
    · cases hes
    · next hfinite =>
      have hfirst : Scalar.isFinite e.2 = true := by simpa using hfinite
      refine List.forall_mem_cons.mpr ⟨hfirst, ?_⟩
      split at hes
      · exact ih hes
      · split at hes
        · cases hes
        · exact ih hes

theorem Accepted.finite {b : Breakpoints Float32} (hb : b.Accepted) :
    ∀ e ∈ b.tiers.entries, e.2.isFinite = true := by
  rw [Accepted, ofTable] at hb
  split at hb
  · cases hb
  · split at hb
    · cases hb
    · next hnone => exact finite_of_firstFault? hnone

end Breakpoints

namespace Document

variable {number : Float32 → String} {β C : Type}

theorem mem_lengths_object (key : String) {d : Document} {members : List (String × Document)}
    (hmember : (key, d) ∈ members) {x : Float32} (hx : x ∈ d.lengths) :
    x ∈ (object members).lengths := by
  rw [lengths]
  induction members with
  | nil => cases hmember
  | cons m members ih =>
    rw [memberLengths, List.mem_append]
    rcases List.mem_cons.mp hmember with rfl | hrest
    · exact .inl hx
    · exact .inr (ih hrest)

section

variable {member : List String × C → String → Reader (LayoutError Float32) (List String × C)}
  {names : List String} {c : C} {key : String} {members : List (String × Document)}

theorem reads_once {r : Reader (LayoutError Float32) β} {put : C → β → C} {ts : List Token}
    {answer : Except ConfigError β} (hnew : key ∉ names) (hr : Reads r ts answer) :
    Reads (readOnce key r put (names, c)) ts (answer.map fun b => (key :: names, put c b)) := by
  rw [readOnce, if_neg (by simpa using hnew)]
  exact hr.map _

/-- A field that has not come before is put into the configuration. -/
theorem Gathers.once {r : Reader (LayoutError Float32) β} {put : C → β → C} {d : Document} {b : β}
    {answer : Except ConfigError (List String × C)}
    (hkey : member (names, c) key = readOnce key r put (names, c)) (hnew : key ∉ names)
    (hd : Reads r (d.tokens number) (.ok b))
    (hrest : Gathers number member (key :: names, put c b) members answer) :
    Gathers number member (names, c) ((key, d) :: members) answer := by
  refine .read ?_ hrest
  rw [hkey]
  exact reads_once hnew hd

/-- So is a length, unless it has been written as null. -/
theorem Gathers.length {put : C → Float32 → C} {x : Float32} {state : List String × C}
    (hkey : member (names, c) key = readOnce key readFloat32 put (names, c)) (hnew : key ∉ names)
    (hx : ∀ y ∈ (ofLength x).lengths, ReadsBack number y)
    (hrest : Gathers number member (key :: names, put c x) members (.ok state)) :
    Gathers number member (names, c) ((key, ofLength x) :: members)
      (if x.isFinite then .ok state else .error .malformed) := by
  have honce : Reads (readOnce key readFloat32 put (names, c)) _ _ :=
    reads_once hnew (reads_ofLength hx)
  rw [← hkey] at honce
  split
  · next hfinite =>
    rw [if_pos hfinite] at honce
    exact .read honce hrest
  · next hfinite =>
    rw [if_neg hfinite] at honce
    exact .refused honce

end

theorem reads_spans (s : Spans) :
    Reads (readTable readUInt16) ((ofSpans s).tokens number) (.ok s) :=
  reads_table s fun e _ => reads_count e.2

/-- Accepted tiers are read as themselves. -/
theorem reads_breakpoints {b : Breakpoints Float32} (hb : b.Accepted)
    (hlengths : ∀ x ∈ (ofBreakpoints b).lengths, ReadsBack number x) :
    Reads Breakpoints.read ((ofBreakpoints b).tokens number) (.ok b) := by
  refine (reads_table b.tiers fun e he => ?_).check hb
  have hlength : ∀ x ∈ (ofLength e.2).lengths, ReadsBack number x :=
    fun x hx => hlengths x (mem_lengths_object e.1 (List.mem_map.mpr ⟨e, he, rfl⟩) hx)
  have hread : Reads (readFloat32 : Reader (LayoutError Float32) Float32) _ _ := reads_ofLength hlength
  rwa [if_pos (hb.finite e he)] at hread

theorem gathers_flexConfig {c : FlexConfig Float32}
    (hgap : ∀ x ∈ (ofLength c.gap).lengths, ReadsBack number x) :
    Gathers number FlexConfig.readMember ([], .row)
      [("direction", .name c.direction.name), ("align", .name c.align.name),
        ("justify", .name c.justify.name), ("gap", ofLength c.gap)]
      (if c.gap.isFinite then .ok (FlexConfig.fields.reverse, c) else .error .malformed) := by
  have hdirection : Direction.all.find? (fun d => d.name == c.direction.name) = some c.direction := by
    cases c.direction <;> rfl
  have halign : Align.all.find? (fun a => a.name == c.align.name) = some c.align := by
    cases c.align <;> rfl
  have hjustify : Justify.all.find? (fun j => j.name == c.justify.name) = some c.justify := by
    cases c.justify <;> rfl
  have hkeyAlign (state : List String × FlexConfig Float32) : FlexConfig.readMember state "align" =
      readOnce "align" (readName Align.all Align.name) (fun c a => { c with align := a }) state := by
    rw [FlexConfig.readMember, if_neg (by decide), if_pos rfl]
  have hkeyJustify (state : List String × FlexConfig Float32) :
      FlexConfig.readMember state "justify" =
        readOnce "justify" (readName Justify.all Justify.name) (fun c j => { c with justify := j })
          state := by
    rw [FlexConfig.readMember, if_neg (by decide), if_neg (by decide), if_pos rfl]
  have hkeyGap (state : List String × FlexConfig Float32) : FlexConfig.readMember state "gap" =
      readOnce "gap" readFloat32 (fun c gap => { c with gap }) state := by
    rw [FlexConfig.readMember, if_neg (by decide), if_neg (by decide), if_neg (by decide), if_pos rfl]
  -- The fields come one after the other, and none of their names has come before.
  refine .once (if_pos rfl) (by decide) (reads_name hdirection) ?_
  refine .once (hkeyAlign _) (by decide) (reads_name halign) ?_
  refine .once (hkeyJustify _) (by decide) (reads_name hjustify) ?_
  exact .length (hkeyGap _) (by decide) hgap (.done _)

theorem gathers_gridConfig {c : GridConfig Float32} (hc : c.breakpoints.Accepted)
    (hgap : ∀ x ∈ (ofLength c.gap).lengths, ReadsBack number x)
    (htiers : ∀ x ∈ (ofBreakpoints c.breakpoints).lengths, ReadsBack number x) :
    Gathers number GridConfig.readMember ([], .standard)
      [("columns", .count c.columns), ("gap", ofLength c.gap),
        ("breakpoints", ofBreakpoints c.breakpoints)]
      (if c.gap.isFinite then .ok (GridConfig.fields.reverse, c) else .error .malformed) := by
  have hkeyGap (state : List String × GridConfig Float32) : GridConfig.readMember state "gap" =
      readOnce "gap" readFloat32 (fun c gap => { c with gap }) state := by
    rw [GridConfig.readMember, if_neg (by decide), if_pos rfl]
  have hkeyTiers (state : List String × GridConfig Float32) :
      GridConfig.readMember state "breakpoints" =
        readOnce "breakpoints" Breakpoints.read (fun c breakpoints => { c with breakpoints }) state := by
    rw [GridConfig.readMember, if_neg (by decide), if_neg (by decide), if_pos rfl]
  refine .once (if_pos rfl) (by decide) (reads_count c.columns) ?_
  refine .length (hkeyGap _) (by decide) hgap ?_
  exact .once (hkeyTiers _) (by decide) (reads_breakpoints hc htiers) (.done _)

end Document

section

open Document

variable {number : Float32 → String}

theorem FlexConfig.ofText_text {c : FlexConfig Float32}
    (hlengths : ∀ x ∈ (ofFlexConfig c).lengths, ReadsBack number x) :
    ofText ((ofFlexConfig c).text number) = if c.gap.isFinite then .ok c else .error .malformed := by
  have hgap : ∀ x ∈ (ofLength c.gap).lengths, ReadsBack number x :=
    fun x hx => hlengths x (mem_lengths_object "gap" (by simp) hx)
  have hread : Reads (readRecord fields readMember ([], .row)) ((ofFlexConfig c).tokens number) _ :=
    (gathers_flexConfig hgap).reads_record
  refine ((hread.map Prod.snd).run (scan_text _ hlengths)).trans ?_
  split <;> rfl

theorem GridConfig.ofText_text {c : GridConfig Float32} (hc : c.breakpoints.Accepted)
    (hlengths : ∀ x ∈ (ofGridConfig c).lengths, ReadsBack number x) :
    ofText ((ofGridConfig c).text number) = if c.gap.isFinite then .ok c else .error .malformed := by
  have hgap : ∀ x ∈ (ofLength c.gap).lengths, ReadsBack number x :=
    fun x hx => hlengths x (mem_lengths_object "gap" (by simp) hx)
  have htiers : ∀ x ∈ (ofBreakpoints c.breakpoints).lengths, ReadsBack number x :=
    fun x hx => hlengths x (mem_lengths_object "breakpoints" (by simp) hx)
  have hread : Reads (readRecord fields readMember ([], .standard))
      ((ofGridConfig c).tokens number) _ := (gathers_gridConfig hc hgap htiers).reads_record
  refine ((hread.map Prod.snd).run (scan_text _ hlengths)).trans ?_
  split <;> rfl

theorem readOnce_eq_ok {β C : Type} {key : String} {r : Reader (LayoutError Float32) β} {put : C → β → C}
    {s s' : List String × C} {ts rest : List Token}
    (hread : readOnce key r put s ts = .ok (s', rest)) :
    ∃ b, r ts = .ok (b, rest) ∧ s'.2 = put s.2 b := by
  rw [readOnce] at hread
  split at hread
  · cases hread
  · obtain ⟨b, hb, rfl⟩ := Reader.map_eq_ok hread
    exact ⟨b, hb, rfl⟩

/-- What one member can do to the configuration of a grid. -/
theorem GridConfig.readMember_eq_ok {s s' : List String × GridConfig Float32} {key : String}
    {ts rest : List Token} (hread : readMember s key ts = .ok (s', rest)) :
    (∃ columns, s'.2 = { s.2 with columns }) ∨ (∃ gap, s'.2 = { s.2 with gap }) ∨
      (∃ b, Breakpoints.read ts = .ok (b, rest) ∧ s'.2 = { s.2 with breakpoints := b }) ∨ s' = s := by
  rw [readMember] at hread
  split at hread
  · obtain ⟨columns, -, hput⟩ := readOnce_eq_ok hread
    exact .inl ⟨columns, hput⟩
  · split at hread
    · obtain ⟨gap, -, hput⟩ := readOnce_eq_ok hread
      exact .inr (.inl ⟨gap, hput⟩)
    · split at hread
      · exact .inr (.inr (.inl (readOnce_eq_ok hread)))
      · -- A member of another name is skipped.
        rw [skipValue] at hread
        split at hread
        · cases hread
        · obtain ⟨rfl, -⟩ := Prod.mk.inj (Except.ok.inj hread)
          exact .inr (.inr (.inr rfl))

/-- A grid keeps accepted tiers while its members are read. -/
theorem GridConfig.keeps_accepted :
    Keeps (fun state => state.2.breakpoints.Accepted) GridConfig.readMember := by
  intro s key ts s' rest hs hread
  obtain ⟨columns, hput⟩ | ⟨gap, hput⟩ | ⟨b, hb, hput⟩ | rfl := readMember_eq_ok hread
  · rw [hput]
    exact hs
  · rw [hput]
    exact hs
  · rw [hput]
    exact Breakpoints.accepted_of_read hb
  · exact hs

theorem GridConfig.accepted_of_ofText {text : String} {c : GridConfig Float32}
    (hc : ofText text = .ok c) : c.breakpoints.Accepted := by
  obtain ⟨⟨names, c'⟩, hread, rfl⟩ := Reader.map_eq_ok (Reader.run_eq_ok hc)
  exact keeps_accepted.readRecord Breakpoints.accepted_standard hread

theorem lengths_ofSpans (s : Spans) : (ofSpans s).lengths = [] := by
  rw [ofSpans, ofTable, lengths]
  induction s.entries with
  | nil => rfl
  | cons e es ih =>
    rw [List.map_cons, memberLengths, ih]
    rfl

/-- Tiers and spans are read back as they were written, in the same order, and so are the configurations
of a row and of a grid, unless the gap is not finite: then the text is refused. The numbers may be written
in any way that reads back. -/
theorem written_reads_back (number : Float32 → String) :
    (∀ c : FlexConfig Float32, (∀ x ∈ (ofFlexConfig c).lengths, ReadsBack number x) →
        FlexConfig.ofText ((ofFlexConfig c).text number) =
          if c.gap.isFinite then .ok c else .error .malformed) ∧
      (∀ text (c : GridConfig Float32), GridConfig.ofText text = .ok c →
        (∀ x ∈ (ofGridConfig c).lengths, ReadsBack number x) →
        GridConfig.ofText ((ofGridConfig c).text number) =
          if c.gap.isFinite then .ok c else .error .malformed) ∧
      (∀ text (b : Breakpoints Float32), Breakpoints.ofText text = .ok b →
        (∀ x ∈ (ofBreakpoints b).lengths, ReadsBack number x) →
        Breakpoints.ofText ((ofBreakpoints b).text number) = .ok b) ∧
      ∀ s : Spans, Spans.ofText ((ofSpans s).text number) = .ok s := by
  refine ⟨fun c hc => FlexConfig.ofText_text hc, fun text c hread hc => ?_, fun text b hread hb => ?_,
    fun s => ?_⟩
  · exact GridConfig.ofText_text (GridConfig.accepted_of_ofText hread) hc
  · have haccepted := Breakpoints.accepted_of_read (Reader.run_eq_ok hread)
    exact (reads_breakpoints haccepted hb).run (scan_text _ hb)
  · have hnone : ∀ x ∈ (ofSpans s).lengths, ReadsBack number x := by
      rw [lengths_ofSpans]
      exact List.forall_mem_nil _
    exact (reads_spans s).run (scan_text _ hnone)

/-- A length in shortest form, with a point in any case. -/
def pointed (x : Float32) : String :=
  if '.' ∈ (Decimal.text x).toList then Decimal.text x else Decimal.text x ++ ".0"

/-- A column with a gap of one and a half, a grid of which half the fields are given, two tiers out of
their place in the text, and a span. -/
theorem written_reads_back_partial :
    let c : FlexConfig Float32 := ⟨.column, .center, .spaceBetween, Float32.ofBits 0x3fc00000⟩
    let g : GridConfig Float32 := ⟨6, Float32.ofBits 0x40200000, .standard⟩
    let b : Breakpoints Float32 :=
      ⟨.ofList [("wide", Float32.ofBits 0), ("narrow", Float32.ofBits 0x43f00000)]⟩
    let s : Spans := .ofList [("md", 4)]
    ((∀ x ∈ (ofFlexConfig c).lengths, ReadsBack pointed x) ∧
        FlexConfig.ofText ((ofFlexConfig c).text pointed) =
          if c.gap.isFinite then .ok c else .error .malformed) ∧
      (GridConfig.ofText "\x7b\"gap\":2.5,\"columns\":6\x7d" = .ok g ∧
        (∀ x ∈ (ofGridConfig g).lengths, ReadsBack pointed x) ∧
        GridConfig.ofText ((ofGridConfig g).text pointed) =
          if g.gap.isFinite then .ok g else .error .malformed) ∧
      (Breakpoints.ofText "\x7b\"wide\":9,\"narrow\":480,\"wide\":0\x7d" = .ok b ∧
        (∀ x ∈ (ofBreakpoints b).lengths, ReadsBack pointed x) ∧
        Breakpoints.ofText ((ofBreakpoints b).text pointed) = .ok b) ∧
      Spans.ofText ((ofSpans s).text pointed) = .ok s := by
  obtain ⟨hflex, hgrid, htiers, hspans⟩ := written_reads_back pointed
  refine ⟨⟨?hcolumn, hflex _ ?hcolumn⟩, ⟨?htext, ?hlengths, hgrid _ _ ?htext ?hlengths⟩,
    ⟨?hpair, ?hwidths, htiers _ _ ?hpair ?hwidths⟩, hspans _⟩
  all_goals decide +kernel

/-- A gap beyond all lengths is accepted as infinite, but is written as null and then refused. -/
theorem infinite_gap_not_read_back :
    let c : FlexConfig Float32 := ⟨.row, .start, .start, Float32.ofBits 0x7f800000⟩
    let text := "\x7b\"direction\":\"row\",\"align\":\"start\",\"justify\":\"start\",\"gap\":null\x7d"
    FlexConfig.ofText "\x7b\"gap\":1e39\x7d" = .ok c ∧ (ofFlexConfig c).text pointed = text ∧
      FlexConfig.ofText text = .error .malformed := by
  decide +kernel

end

end ResponsiveLayout
