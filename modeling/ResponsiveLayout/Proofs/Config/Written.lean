import ResponsiveLayout.Config.Read
import ResponsiveLayout.Proofs.Config.Scanning

/-! Written documents read back. A reader is asked only what it answers to the tokens of a part of a
document, whatever follows them; an object is then read member by member. -/
namespace ResponsiveLayout

open Json

namespace Document

section

variable (number : Float32 → String)

mutual

/-- The tokens that a written document comes apart into. -/
def tokens : Document → List Token
  | null => [.null]
  | length x => scan (number x).toList
  | count n => [.number (.ofNat n.toNat)]
  | name s => [.text (Piece.ofString s)]
  | object members => .openBrace :: memberTokens members

def memberTokens : List (String × Document) → List Token
  | [] => [.closeBrace]
  | [(key, d)] => .text (Piece.ofString key) :: .colon :: (tokens d ++ [.closeBrace])
  | (key, d) :: members =>
    .text (Piece.ofString key) :: .colon :: (tokens d ++ .comma :: memberTokens members)

end

end

mutual

def lengths : Document → List Float32
  | length x => [x]
  | object members => memberLengths members
  | null | count _ | name _ => []

def memberLengths : List (String × Document) → List Float32
  | [] => []
  | (_, d) :: members => lengths d ++ memberLengths members

end

def ReadsBack (number : Float32 → String) (x : Float32) : Prop :=
  (readFloat32 : Reader (LayoutError Float32) Float32).run (number x) = .ok x

instance (number : Float32 → String) (x : Float32) : Decidable (ReadsBack number x) :=
  inferInstanceAs (Decidable (_ = _))

variable {number : Float32 → String}

/-- A text that reads back is a number and nothing else. -/
theorem scan_of_readsBack {x : Float32} (hx : ReadsBack number x) :
    ∃ n : Numeral, scan (number x).toList = [.number n] ∧ n.toFloat32? = some x := by
  rw [ReadsBack, Reader.run] at hx
  cases hts : scan (number x).toList with
  | nil =>
    rw [hts] at hx
    cases hx
  | cons t ts =>
    rw [hts] at hx
    cases t with
    | number n =>
      rw [readFloat32] at hx
      cases hn : n.toFloat32? with
      | none =>
        rw [hn] at hx
        cases hx
      | some y =>
        rw [hn] at hx
        cases ts with
        | nil => exact ⟨n, rfl, by rw [hn, Except.ok.inj hx]⟩
        | cons => cases hx
    | _ => cases hx

theorem scan_key (key : String) (cs : List Char) :
    scan (quoted key ++ ':' :: cs) = .text (Piece.ofString key) :: .colon :: scan cs := by
  have hcolon : scan (':' :: cs) = .colon :: scan cs := scan_of_token rfl rfl
  rw [scan_quoted, hcolon]

mutual

theorem scans_chars (d : Document) (hd : ∀ x ∈ d.lengths, ReadsBack number x) :
    Scans (d.chars number) (d.tokens number) := by
  cases d with
  | null =>
    intro rest _
    rw [chars, tokens]
    exact scan_of_token rfl rfl
  | length x =>
    obtain ⟨n, hn, -⟩ := scan_of_readsBack (hd x (by rw [lengths]; exact List.mem_singleton_self x))
    rw [chars, tokens, hn]
    exact scans_number hn
  | count n =>
    rw [chars, tokens]
    exact scans_number (scan_toDigits n.toNat)
  | name s =>
    intro rest _
    rw [chars, tokens]
    exact scan_quoted s rest
  | object members =>
    intro rest _
    rw [lengths] at hd
    rw [chars, tokens, List.cons_append, List.cons_append, ← scan_memberChars members hd rest]
    exact scan_of_token rfl rfl

theorem scan_memberChars (members : List (String × Document))
    (hmembers : ∀ x ∈ memberLengths members, ReadsBack number x) (rest : List Char) :
    scan (memberChars number members ++ rest) = memberTokens number members ++ scan rest := by
  -- The last member is closed by the brace of its object, every other one by a comma.
  match members with
  | [] => exact scan_of_token rfl rfl
  | [(key, d)] =>
    rw [memberLengths, memberLengths, List.append_nil] at hmembers
    have hd := scans_chars d hmembers ('}' :: rest) (closes_cons (.inr rfl))
    have hclose : scan ('}' :: rest) = .closeBrace :: scan rest := scan_of_token rfl rfl
    rw [memberChars, memberTokens, List.append_assoc, List.cons_append, scan_key, List.append_assoc,
      List.singleton_append, hd, hclose]
    simp
  | (key, d) :: m :: ms =>
    rw [memberLengths] at hmembers
    have hd := scans_chars d (fun x hx => hmembers x (List.mem_append_left _ hx))
      (',' :: (memberChars number (m :: ms) ++ rest)) (closes_cons (.inl rfl))
    have hrest := scan_memberChars (m :: ms) (fun x hx => hmembers x (List.mem_append_right _ hx)) rest
    have hcomma : scan (',' :: (memberChars number (m :: ms) ++ rest)) =
        .comma :: scan (memberChars number (m :: ms) ++ rest) := scan_of_token rfl rfl
    rw [memberChars, memberTokens, List.append_assoc, List.cons_append, scan_key, List.append_assoc,
      List.cons_append, hd, hcomma, hrest]
    · simp
    all_goals exact List.cons_ne_nil _ _

end

end Document

namespace Json

/-- What a reader answers to some tokens, whatever follows them. -/
def Reads {ε β : Type} (r : Reader ε β) (ts : List Token) (answer : Except (ReadError ε) β) : Prop :=
  ∀ more, r (ts ++ more) = answer.map fun b => (b, more)

section

variable {ε β γ : Type} {r : Reader ε β} {ts : List Token} {answer : Except (ReadError ε) β}

theorem Reads.map (hr : Reads r ts answer) (f : β → γ) : Reads (r.map f) ts (answer.map f) := by
  intro more
  rw [Reader.map, hr more]
  cases answer <;> rfl

theorem Reads.check {f : β → Except ε γ} {b : β} {c : γ} (hr : Reads r ts (.ok b)) (hb : f b = .ok c) :
    Reads (r.check f) ts (.ok c) := by
  intro more
  rw [Reader.check, hr more]
  dsimp only [Except.map]
  rw [hb]

/-- A text that comes apart into the tokens of a value and no others is read as that value. -/
theorem Reads.run (hr : Reads r ts answer) {text : String} (htext : scan text.toList = ts) :
    r.run text = answer := by
  have hall := hr []
  rw [List.append_nil] at hall
  rw [Reader.run, htext, hall]
  cases answer <;> rfl

end

end Json

namespace Document

variable {number : Float32 → String} {ε β σ : Type}

theorem scan_text (d : Document) (hd : ∀ x ∈ d.lengths, ReadsBack number x) :
    scan (d.text number).toList = d.tokens number := by
  have hscans := scans_chars d hd [] closes_nil
  rw [List.append_nil, scan, List.append_nil] at hscans
  rw [text, String.toList_ofList, hscans]

/-- A length that is finite is read as itself; any other one has been written as null, and that is no
length. -/
theorem reads_ofLength {x : Float32} (hx : ∀ y ∈ (ofLength x).lengths, ReadsBack number y) :
    Reads (readFloat32 : Reader ε Float32) ((ofLength x).tokens number)
      (if x.isFinite then .ok x else .error .malformed) := by
  intro more
  rw [ofLength] at hx ⊢
  split
  · next hfinite =>
    rw [if_pos hfinite, lengths] at hx
    obtain ⟨n, hn, hvalue⟩ := scan_of_readsBack (hx x (List.mem_singleton_self x))
    rw [tokens, hn, List.singleton_append, readFloat32, hvalue]
    rfl
  · rw [tokens]
    rfl

theorem reads_count (n : UInt16) :
    Reads (readUInt16 : Reader ε UInt16) ((count n).tokens number) (.ok n) := by
  intro more
  rw [tokens, List.singleton_append, readUInt16, toUInt16?_ofNat]
  rfl

theorem reads_name {values : List β} {name : β → String} {b : β}
    (hb : values.find? (fun b' => name b' == name b) = some b) :
    Reads (readName values name : Reader ε β) ((Document.name (name b)).tokens number) (.ok b) := by
  intro more
  rw [tokens, List.singleton_append, readName, readName.pick, decode?_ofString, Option.bind_some, hb]
  rfl

/-- Members of an object that are read one by one, up to the first one that is refused. -/
inductive Gathers (number : Float32 → String) (member : σ → String → Reader ε σ) :
    σ → List (String × Document) → Except (ReadError ε) σ → Prop
  | done (state : σ) : Gathers number member state [] (.ok state)
  | read {state state' : σ} {key : String} {d : Document} {members : List (String × Document)}
      {answer : Except (ReadError ε) σ} (hd : Reads (member state key) (d.tokens number) (.ok state'))
      (hrest : Gathers number member state' members answer) :
    Gathers number member state ((key, d) :: members) answer
  | refused {state : σ} {key : String} {d : Document} {members : List (String × Document)}
      {e : ReadError ε} (hd : Reads (member state key) (d.tokens number) (.error e)) :
    Gathers number member state ((key, d) :: members) (.error e)

section

variable {member : σ → String → Reader ε σ} {state state' : σ} {key : String} {ts : List Token}

theorem readMembers_last (hd : Reads (member state key) ts (.ok state')) (more : List Token) :
    readMembers member state (.text (Piece.ofString key) :: .colon :: (ts ++ .closeBrace :: more)) =
      .ok (state', more) := by
  rw [readMembers, decode?_ofString]
  dsimp only
  rw [hd]
  rfl

theorem readMembers_next (hd : Reads (member state key) ts (.ok state')) (more : List Token) :
    readMembers member state (.text (Piece.ofString key) :: .colon :: (ts ++ .comma :: more)) =
      readMembers member state' more := by
  have hshorter : more.length ≤ (ts ++ .comma :: more).length := by
    rw [List.length_append, List.length_cons]
    omega
  rw [readMembers, decode?_ofString]
  dsimp only
  rw [hd]
  exact if_pos hshorter

theorem readMembers_refused {e : ReadError ε} (hd : Reads (member state key) ts (.error e))
    (more : List Token) :
    readMembers member state (.text (Piece.ofString key) :: .colon :: (ts ++ more)) = .error e := by
  rw [readMembers, decode?_ofString]
  dsimp only
  rw [hd]
  rfl

theorem memberTokens_last (key : String) (d : Document) (more : List Token) :
    memberTokens number [(key, d)] ++ more =
      .text (Piece.ofString key) :: .colon :: (d.tokens number ++ .closeBrace :: more) := by
  rw [memberTokens, List.cons_append, List.cons_append, List.append_assoc, List.singleton_append]

theorem memberTokens_next (key : String) (d : Document) (m : String × Document)
    (ms : List (String × Document)) (more : List Token) :
    memberTokens number ((key, d) :: m :: ms) ++ more =
      .text (Piece.ofString key) :: .colon ::
        (d.tokens number ++ .comma :: (memberTokens number (m :: ms) ++ more)) := by
  rw [memberTokens, List.cons_append, List.cons_append, List.append_assoc, List.cons_append]
  exact List.cons_ne_nil _ _

theorem Gathers.readMembers {m : String × Document} {ms : List (String × Document)}
    {answer : Except (ReadError ε) σ} (hms : Gathers number member state (m :: ms) answer)
    (more : List Token) :
    Json.readMembers member state (memberTokens number (m :: ms) ++ more) =
      answer.map fun s => (s, more) := by
  -- By induction on the members behind the first one, as only the last one ends with a brace.
  induction ms generalizing state m with
  | nil =>
    cases hms with
    | read hd hrest =>
      cases hrest with
      | done => rw [memberTokens_last, readMembers_last hd more]; rfl
    | refused hd => rw [memberTokens_last, readMembers_refused hd]; rfl
  | cons m' ms ih =>
    cases hms with
    | read hd hrest => rw [memberTokens_next, readMembers_next hd, ih hrest]
    | refused hd => rw [memberTokens_next, readMembers_refused hd]; rfl

/-- An object is read as its members are. -/
theorem Gathers.reads_object {ms : List (String × Document)} {answer : Except (ReadError ε) σ}
    (hms : Gathers number member state ms answer) :
    Reads (readObject member state) ((object ms).tokens number) answer := by
  intro more
  rw [tokens, List.cons_append]
  cases ms with
  | nil =>
    cases hms
    rw [memberTokens]
    rfl
  | cons m ms =>
    rw [← hms.readMembers more]
    cases ms with
    | nil => rw [memberTokens_last]; rfl
    | cons m' ms => rw [memberTokens_next]; rfl

theorem Gathers.reads_record {fields : List String} {ms : List (String × Document)}
    {answer : Except (ReadError ε) σ} (hms : Gathers number member state ms answer) :
    Reads (readRecord fields member state) ((object ms).tokens number) answer := by
  intro more
  rw [← hms.reads_object more, tokens, List.cons_append]
  rfl

end

/-- A new name is entered at the end. -/
theorem setEntry_of_not_mem {name : String} (value : β) {es : List (String × β)}
    (hname : name ∉ es.map Prod.fst) : setEntry name value es = es ++ [(name, value)] := by
  induction es with
  | nil => rfl
  | cons e es ih =>
    rw [List.map_cons, List.mem_cons, not_or] at hname
    rw [setEntry, if_neg (Ne.symm hname.1), ih hname.2]
    rfl

/-- The members of a written table are entered behind those of the table so far. -/
theorem gathers_entries {r : Reader ε β} {f : β → Document} {es : List (String × β)} {t t' : Table β}
    (ht : t'.entries = t.entries ++ es) (hes : ∀ e ∈ es, Reads r ((f e.2).tokens number) (.ok e.2)) :
    Gathers number (fun t name => r.map (t.set name)) t (es.map fun e => (e.1, f e.2)) (.ok t') := by
  induction es generalizing t with
  | nil =>
    rw [List.append_nil] at ht
    obtain rfl : t' = t := by
      cases t
      cases t'
      congr
    exact .done t'
  | cons e es ih =>
    obtain ⟨he, hrest⟩ := List.forall_mem_cons.mp hes
    -- The written table has each name once, so no member takes the place of an earlier one.
    have hnew : e.1 ∉ t.entries.map Prod.fst := by
      have hnodup := t'.nodup
      rw [ht, List.map_append, List.nodup_append] at hnodup
      intro hmem
      exact hnodup.2.2 e.1 hmem e.1 List.mem_cons_self rfl
    have hset : t'.entries = (t.set e.1 e.2).entries ++ es := by
      change _ = setEntry e.1 e.2 t.entries ++ es
      rw [ht, setEntry_of_not_mem e.2 hnew, List.append_assoc, List.singleton_append]
    exact .read (he.map (t.set e.1)) (ih hset hrest)

theorem reads_table {r : Reader (LayoutError Float32) β} {f : β → Document} (t : Table β)
    (ht : ∀ e ∈ t.entries, Reads r ((f e.2).tokens number) (.ok e.2)) :
    Reads (readTable r) ((ofTable f t).tokens number) (.ok t) := by
  rw [readTable, ofTable]
  exact (gathers_entries rfl ht).reads_object

end Document

end ResponsiveLayout
