import ResponsiveLayout.Json.Token

/-!
From JSON text to tokens. Scanning never fails: at the first character that starts no token it ends
with the token `bad`, which no reader accepts. Every token takes at least a character, so scanning
comes to an end.
-/

namespace ResponsiveLayout.Json

def digit? (c : Char) : Option Nat :=
  if '0' ≤ c ∧ c ≤ '9' then some (c.toNat - '0'.toNat) else none

def hexDigit? (c : Char) : Option Nat :=
  if 'a' ≤ c ∧ c ≤ 'f' then some (c.toNat - 'a'.toNat + 10)
  else if 'A' ≤ c ∧ c ≤ 'F' then some (c.toNat - 'A'.toNat + 10)
  else digit? c

def ofHexDigits? (cs : List Char) : Option Nat :=
  cs.foldlM (fun n c => (hexDigit? c).map (16 * n + ·)) 0

def escape? : Char → Option Char
  | '"' => some '"'
  | '\\' => some '\\'
  | '/' => some '/'
  | 'b' => some '\x08'
  | 'f' => some '\x0c'
  | 'n' => some '\n'
  | 'r' => some '\r'
  | 't' => some '\t'
  | _ => none

/-- The pieces of a string up to its closing quote, and the rest. Control characters have to be
escaped. -/
def scanText : List Char → Option (List Piece × List Char)
  | [] => none
  | '"' :: cs => some ([], cs)
  | '\\' :: 'u' :: a :: b :: c :: d :: cs => do
    let n ← ofHexDigits? [a, b, c, d]
    let (ps, rest) ← scanText cs
    pure (.unit n :: ps, rest)
  | '\\' :: c :: cs => do
    let e ← escape? c
    let (ps, rest) ← scanText cs
    pure (.char e :: ps, rest)
  | c :: cs => do
    if c.toNat < 0x20 ∨ c = '\\' then none
    else
      let (ps, rest) ← scanText cs
      pure (.char c :: ps, rest)

def scanDigits : List Char → List Nat × List Char
  | [] => ([], [])
  | c :: cs =>
    match digit? c with
    | none => ([], c :: cs)
    | some d => (d :: (scanDigits cs).1, (scanDigits cs).2)

/-- The leading digits, of which there has to be one, and the rest. -/
def scanDigits? (cs : List Char) : Option (List Nat × List Char) :=
  match scanDigits cs with
  | ([], _) => none
  | r => some r

/-- The whole part of a number: a zero, or digits that do not start with one. -/
def scanWhole : List Char → Option (List Nat × List Char)
  | '0' :: cs => some ([0], cs)
  | cs => scanDigits? cs

def scanFraction : List Char → Option (Option (List Nat) × List Char)
  | '.' :: cs => (scanDigits? cs).map fun (ds, rest) => (some ds, rest)
  | cs => some (none, cs)

def scanSigned : List Char → Option ((Bool × List Nat) × List Char)
  | '-' :: cs => (scanDigits? cs).map fun (ds, rest) => ((true, ds), rest)
  | '+' :: cs => (scanDigits? cs).map fun (ds, rest) => ((false, ds), rest)
  | cs => (scanDigits? cs).map fun (ds, rest) => ((false, ds), rest)

def scanExponent : List Char → Option (Option (Bool × List Nat) × List Char)
  | 'e' :: cs => (scanSigned cs).map fun (e, rest) => (some e, rest)
  | 'E' :: cs => (scanSigned cs).map fun (e, rest) => (some e, rest)
  | cs => some (none, cs)

def scanUnsigned (negative : Bool) (cs : List Char) : Option (Numeral × List Char) := do
  let (whole, cs) ← scanWhole cs
  let (fraction, cs) ← scanFraction cs
  let (exponent, cs) ← scanExponent cs
  pure (⟨negative, whole, fraction, exponent⟩, cs)

def scanNumber : List Char → Option (Numeral × List Char)
  | '-' :: cs => scanUnsigned true cs
  | cs => scanUnsigned false cs

/-- The first token of a text that starts with neither blank nor end, and the rest. -/
def scanToken : List Char → Option (Token × List Char)
  | '{' :: cs => some (.openBrace, cs)
  | '}' :: cs => some (.closeBrace, cs)
  | '[' :: cs => some (.openBracket, cs)
  | ']' :: cs => some (.closeBracket, cs)
  | ':' :: cs => some (.colon, cs)
  | ',' :: cs => some (.comma, cs)
  | '"' :: cs => (scanText cs).map fun (ps, rest) => (.text ps, rest)
  | 't' :: 'r' :: 'u' :: 'e' :: cs => some (.truth true, cs)
  | 'f' :: 'a' :: 'l' :: 's' :: 'e' :: cs => some (.truth false, cs)
  | 'n' :: 'u' :: 'l' :: 'l' :: cs => some (.null, cs)
  | cs => (scanNumber cs).map fun (n, rest) => (.number n, rest)

def isBlank (c : Char) : Bool := c = ' ' || c = '\t' || c = '\n' || c = '\r'

theorem scanText_length {cs rest : List Char} {ps : List Piece} (h : scanText cs = some (ps, rest)) :
    rest.length < cs.length := by
  fun_induction scanText cs generalizing ps with
  | case1 => simp at h
  | case2 cs =>
    simp only [Option.some.injEq, Prod.mk.injEq] at h
    simp [h.2]
  | case3 a b c d cs ih =>
    simp only [Option.bind_eq_bind, Option.bind_eq_some_iff, Option.pure_def, Option.some.injEq,
      Prod.mk.injEq] at h
    obtain ⟨n, _, r, hr, _, rfl⟩ := h
    have := ih hr
    simp only [List.length_cons]
    omega
  | case4 c cs _ ih =>
    simp only [Option.bind_eq_bind, Option.bind_eq_some_iff, Option.pure_def, Option.some.injEq,
      Prod.mk.injEq] at h
    obtain ⟨e, _, r, hr, _, rfl⟩ := h
    have := ih hr
    simp only [List.length_cons]
    omega
  | case5 c cs => simp at h
  | case6 c cs _ _ _ _ ih =>
    simp only [Option.bind_eq_bind, Option.bind_eq_some_iff, Option.pure_def, Option.some.injEq,
      Prod.mk.injEq] at h
    obtain ⟨r, hr, _, rfl⟩ := h
    have := ih hr
    simp only [List.length_cons]
    omega

theorem scanDigits_length (cs : List Char) : (scanDigits cs).2.length ≤ cs.length := by
  fun_induction scanDigits cs with
  | case1 => simp
  | case2 c cs _ => simp
  | case3 c cs d _ ih =>
    simp only [List.length_cons]
    omega

theorem scanDigits?_length {cs rest : List Char} {ds : List Nat}
    (h : scanDigits? cs = some (ds, rest)) : rest.length < cs.length := by
  unfold scanDigits? at h
  cases cs with
  | nil => simp [scanDigits] at h
  | cons c cs =>
    have hl := scanDigits_length cs
    cases hd : digit? c with
    | none => simp [scanDigits, hd] at h
    | some d =>
      simp only [scanDigits, hd, Option.some.injEq, Prod.mk.injEq] at h
      simp only [List.length_cons, ← h.2]
      omega

theorem scanWhole_length {cs rest : List Char} {ds : List Nat}
    (h : scanWhole cs = some (ds, rest)) : rest.length < cs.length := by
  unfold scanWhole at h
  split at h
  · simp only [Option.some.injEq, Prod.mk.injEq] at h
    simp [h.2]
  · exact scanDigits?_length h

theorem scanFraction_length {cs rest : List Char} {ds : Option (List Nat)}
    (h : scanFraction cs = some (ds, rest)) : rest.length ≤ cs.length := by
  unfold scanFraction at h
  split at h
  · obtain ⟨⟨_, _⟩, hd, he⟩ := Option.map_eq_some_iff.1 h
    have := scanDigits?_length hd
    simp only [Prod.mk.injEq] at he
    simp only [List.length_cons, ← he.2]
    omega
  · simp only [Option.some.injEq, Prod.mk.injEq] at h
    simp [h.2]

theorem scanSigned_length {cs rest : List Char} {e : Bool × List Nat}
    (h : scanSigned cs = some (e, rest)) : rest.length < cs.length := by
  unfold scanSigned at h
  split at h <;> obtain ⟨⟨_, _⟩, hd, he⟩ := Option.map_eq_some_iff.1 h <;>
    have := scanDigits?_length hd <;> simp only [Prod.mk.injEq] at he <;>
    simp only [List.length_cons, ← he.2] <;> omega

theorem scanExponent_length {cs rest : List Char} {e : Option (Bool × List Nat)}
    (h : scanExponent cs = some (e, rest)) : rest.length ≤ cs.length := by
  unfold scanExponent at h
  split at h
  · obtain ⟨⟨_, _⟩, hd, he⟩ := Option.map_eq_some_iff.1 h
    have := scanSigned_length hd
    simp only [Prod.mk.injEq] at he
    simp only [List.length_cons, ← he.2]
    omega
  · obtain ⟨⟨_, _⟩, hd, he⟩ := Option.map_eq_some_iff.1 h
    have := scanSigned_length hd
    simp only [Prod.mk.injEq] at he
    simp only [List.length_cons, ← he.2]
    omega
  · simp only [Option.some.injEq, Prod.mk.injEq] at h
    simp [h.2]

theorem scanUnsigned_length {negative : Bool} {cs rest : List Char} {n : Numeral}
    (h : scanUnsigned negative cs = some (n, rest)) : rest.length < cs.length := by
  simp only [scanUnsigned, Option.bind_eq_bind, Option.bind_eq_some_iff, Option.pure_def,
    Option.some.injEq, Prod.mk.injEq] at h
  obtain ⟨⟨_, ws⟩, hw, ⟨_, fs⟩, hf, ⟨_, es⟩, he, _, rfl⟩ := h
  have hws : ws.length < cs.length := scanWhole_length hw
  have hfs : fs.length ≤ ws.length := scanFraction_length hf
  have hes : es.length ≤ fs.length := scanExponent_length he
  exact Nat.lt_of_le_of_lt (Nat.le_trans hes hfs) hws

theorem scanNumber_length {cs rest : List Char} {n : Numeral}
    (h : scanNumber cs = some (n, rest)) : rest.length < cs.length := by
  unfold scanNumber at h
  split at h
  · have := scanUnsigned_length h
    simp only [List.length_cons]
    omega
  · exact scanUnsigned_length h

/-- Every token takes at least a character. -/
theorem scanToken_length {cs rest : List Char} {t : Token} (h : scanToken cs = some (t, rest)) :
    rest.length < cs.length := by
  unfold scanToken at h
  split at h
  case h_7 =>
    obtain ⟨⟨_, _⟩, hs, he⟩ := Option.map_eq_some_iff.1 h
    have := scanText_length hs
    simp only [Prod.mk.injEq] at he
    simp only [List.length_cons, ← he.2]
    omega
  case h_11 =>
    obtain ⟨⟨_, _⟩, hn, he⟩ := Option.map_eq_some_iff.1 h
    have := scanNumber_length hn
    simp only [Prod.mk.injEq] at he
    simpa only [← he.2] using this
  all_goals
    simp only [Option.some.injEq, Prod.mk.injEq] at h
    simp only [List.length_cons, ← h.2]
    omega

def scan : List Char → List Token
  | [] => []
  | c :: cs =>
    if isBlank c then scan cs
    else match _h : scanToken (c :: cs) with
      | none => [.bad]
      | some (t, rest) => t :: scan rest
termination_by cs => cs.length
decreasing_by
  · simp
  · exact scanToken_length _h

end ResponsiveLayout.Json
