import Mathlib.Data.Nat.Digits.Defs
import ResponsiveLayout.Config.Write
import ResponsiveLayout.Json.Scan

/-! Written documents scanned: the characters of a document come apart into the tokens of its parts,
whatever follows it. Only a number takes in what comes behind it, so what comes behind a value has to
be a comma or a closing brace. -/
namespace ResponsiveLayout

namespace Json

/-- What may stand behind a value in a written document. -/
def Closes (rest : List Char) : Prop := ∀ c, rest.head? = some c → c = ',' ∨ c = '}'

/-- A scanner that takes the same from a text with something behind it. -/
def Undisturbed {β : Type} (rest : List Char) (f : List Char → Option (β × List Char)) : Prop :=
  ∀ cs b left, f cs = some (b, left) → f (cs ++ rest) = some (b, left ++ rest)

section

variable {β γ : Type} {rest : List Char}

theorem closes_nil : Closes [] := by
  intro c hc
  cases hc

theorem closes_cons {c : Char} {cs : List Char} (hc : c = ',' ∨ c = '}') : Closes (c :: cs) := by
  intro c' hc'
  obtain rfl : c = c' := Option.some.inj hc'
  exact hc

/-- What closes a value does not go on with a number. -/
theorem Closes.head_ne (hrest : Closes rest) {c : Char} (hc : rest.head? = some c) :
    digit? c = none ∧ c ≠ '.' ∧ c ≠ 'e' ∧ c ≠ 'E' := by
  rcases hrest c hc with rfl | rfl
  · decide
  · decide

theorem Undisturbed.map {f : List Char → Option (β × List Char)} (hf : Undisturbed rest f)
    (g : β → γ) : Undisturbed rest fun cs => (f cs).map fun (b, left) => (g b, left) := by
  intro cs c left hc
  obtain ⟨⟨b, left⟩, hb, heq⟩ := Option.map_eq_some_iff.mp hc
  obtain ⟨rfl, rfl⟩ := Prod.mk.inj heq
  dsimp only
  rw [hf cs b left hb]
  rfl

theorem scanDigits_append (hrest : Closes rest) (cs : List Char) :
    scanDigits (cs ++ rest) = ((scanDigits cs).1, (scanDigits cs).2 ++ rest) := by
  induction cs with
  | nil =>
    cases rest with
    | nil => rfl
    | cons c rest => simp [scanDigits, (hrest.head_ne rfl).1]
  | cons c cs ih =>
    rw [List.cons_append, scanDigits, scanDigits]
    cases digit? c with
    | none => rfl
    | some d => rw [ih]

theorem undisturbed_scanDigits? (hrest : Closes rest) : Undisturbed rest scanDigits? := by
  intro cs ds left hds
  rw [scanDigits?] at hds ⊢
  rw [scanDigits_append hrest]
  cases hcs : scanDigits cs with
  | mk taken left' =>
    rw [hcs] at hds
    cases taken with
    | nil => cases hds
    | cons d taken =>
      obtain ⟨rfl, rfl⟩ := Prod.mk.inj (Option.some.inj hds)
      rfl

theorem scanWhole_of_ne {c : Char} (hzero : c ≠ '0') (cs : List Char) :
    scanWhole (c :: cs) = scanDigits? (c :: cs) := by
  rw [scanWhole]
  simpa using hzero

theorem undisturbed_scanWhole (hrest : Closes rest) : Undisturbed rest scanWhole := by
  intro cs ds left hds
  cases cs with
  | nil => cases hds
  | cons c cs =>
    by_cases hzero : c = '0'
    · subst hzero
      obtain ⟨rfl, rfl⟩ := Prod.mk.inj (Option.some.inj hds)
      rfl
    · rw [scanWhole_of_ne hzero] at hds
      rw [List.cons_append, scanWhole_of_ne hzero]
      exact undisturbed_scanDigits? hrest _ _ _ hds

theorem scanFraction_absent {cs : List Char} (hcs : cs.head? ≠ some '.') :
    scanFraction cs = some (none, cs) := by
  rw [scanFraction]
  rintro cs' rfl
  exact hcs rfl

theorem undisturbed_scanFraction (hrest : Closes rest) : Undisturbed rest scanFraction := by
  intro cs fraction left hcs
  by_cases hpoint : cs.head? = some '.'
  · obtain ⟨digits, rfl⟩ := List.head?_eq_some_iff.mp hpoint
    exact (undisturbed_scanDigits? hrest).map some digits fraction left hcs
  · -- Nothing of a fraction is left, and what closes the number does not start one.
    have happend : (cs ++ rest).head? ≠ some '.' := by
      cases cs with
      | nil => exact fun hhead => (hrest.head_ne hhead).2.1 rfl
      | cons c cs => exact hpoint
    rw [scanFraction_absent hpoint] at hcs
    obtain ⟨rfl, rfl⟩ := Prod.mk.inj (Option.some.inj hcs)
    exact scanFraction_absent happend

theorem scanSigned_of_ne {c : Char} (hminus : c ≠ '-') (hplus : c ≠ '+') (cs : List Char) :
    scanSigned (c :: cs) = (scanDigits? (c :: cs)).map fun r => ((false, r.1), r.2) := by
  rw [scanSigned]
  · simpa using hminus
  · simpa using hplus

theorem undisturbed_scanSigned (hrest : Closes rest) : Undisturbed rest scanSigned := by
  intro cs exponent left hcs
  have hdigits := undisturbed_scanDigits? hrest
  cases cs with
  | nil => cases hcs
  | cons c cs =>
    by_cases hminus : c = '-'
    · subst hminus
      exact hdigits.map (fun ds => (true, ds)) cs exponent left hcs
    · by_cases hplus : c = '+'
      · subst hplus
        exact hdigits.map (fun ds => (false, ds)) cs exponent left hcs
      · rw [scanSigned_of_ne hminus hplus] at hcs
        rw [List.cons_append, scanSigned_of_ne hminus hplus]
        exact hdigits.map (fun ds => (false, ds)) (c :: cs) exponent left hcs

theorem scanExponent_absent {cs : List Char} (hcs : cs.head? ≠ some 'e' ∧ cs.head? ≠ some 'E') :
    scanExponent cs = some (none, cs) := by
  rw [scanExponent]
  · rintro cs' rfl
    exact hcs.1 rfl
  · rintro cs' rfl
    exact hcs.2 rfl

theorem undisturbed_scanExponent (hrest : Closes rest) : Undisturbed rest scanExponent := by
  intro cs exponent left hcs
  have hsigned := (undisturbed_scanSigned hrest).map some
  by_cases hsmall : cs.head? = some 'e'
  · obtain ⟨digits, rfl⟩ := List.head?_eq_some_iff.mp hsmall
    exact hsigned digits exponent left hcs
  · by_cases hlarge : cs.head? = some 'E'
    · obtain ⟨digits, rfl⟩ := List.head?_eq_some_iff.mp hlarge
      exact hsigned digits exponent left hcs
    · have happend : (cs ++ rest).head? ≠ some 'e' ∧ (cs ++ rest).head? ≠ some 'E' := by
        cases cs with
        | nil =>
          exact ⟨fun hhead => (hrest.head_ne hhead).2.2.1 rfl,
            fun hhead => (hrest.head_ne hhead).2.2.2 rfl⟩
        | cons c cs => exact ⟨hsmall, hlarge⟩
      rw [scanExponent_absent ⟨hsmall, hlarge⟩] at hcs
      obtain ⟨rfl, rfl⟩ := Prod.mk.inj (Option.some.inj hcs)
      exact scanExponent_absent happend

theorem undisturbed_scanUnsigned (hrest : Closes rest) (negative : Bool) :
    Undisturbed rest (scanUnsigned negative) := by
  intro cs n left hcs
  simp only [scanUnsigned, Option.bind_eq_bind, Option.bind_eq_some_iff, Option.pure_def,
    Option.some.injEq, Prod.mk.injEq] at hcs
  obtain ⟨⟨whole, ws⟩, hwhole, ⟨fraction, fs⟩, hfraction, ⟨exponent, es⟩, hexponent, rfl, rfl⟩ := hcs
  have hws := undisturbed_scanWhole hrest _ _ _ hwhole
  have hfs := undisturbed_scanFraction hrest _ _ _ hfraction
  have hes := undisturbed_scanExponent hrest _ _ _ hexponent
  rw [scanUnsigned, hws]
  dsimp only [Option.bind_eq_bind, Option.bind_some]
  rw [hfs]
  dsimp only [Option.bind_some]
  rw [hes]
  rfl

theorem scanNumber_of_ne {c : Char} (hminus : c ≠ '-') (cs : List Char) :
    scanNumber (c :: cs) = scanUnsigned false (c :: cs) := by
  rw [scanNumber]
  simpa using hminus

/-- What closes a number is not taken for a part of it. -/
theorem undisturbed_scanNumber (hrest : Closes rest) : Undisturbed rest scanNumber := by
  intro cs n left hcs
  cases cs with
  | nil => cases hcs
  | cons c cs =>
    by_cases hminus : c = '-'
    · subst hminus
      exact undisturbed_scanUnsigned hrest true cs n left hcs
    · rw [scanNumber_of_ne hminus] at hcs
      rw [List.cons_append, scanNumber_of_ne hminus]
      exact undisturbed_scanUnsigned hrest false (c :: cs) n left hcs

/-- Whether a character may be the first one of a number. -/
def Numeric (c : Char) : Prop := c = '-' ∨ (digit? c).isSome

instance (c : Char) : Decidable (Numeric c) := inferInstanceAs (Decidable (_ ∨ _))

theorem numeric_of_scanNumber {c : Char} {cs left : List Char} {n : Numeral}
    (hcs : scanNumber (c :: cs) = some (n, left)) : Numeric c := by
  by_cases hminus : c = '-'
  · exact .inl hminus
  · rw [scanNumber_of_ne hminus] at hcs
    simp only [scanUnsigned, Option.bind_eq_bind, Option.bind_eq_some_iff] at hcs
    obtain ⟨⟨whole, ws⟩, hwhole, -⟩ := hcs
    by_cases hzero : c = '0'
    · subst hzero
      exact .inr rfl
    · rw [scanWhole_of_ne hzero, scanDigits?, scanDigits] at hwhole
      cases hdigit : digit? c with
      | none =>
        rw [hdigit] at hwhole
        cases hwhole
      | some d => exact .inr (by rw [hdigit]; rfl)

/-- A number starts with neither a blank nor the first character of another token. -/
theorem not_mem_of_numeric {c : Char} (hc : Numeric c) :
    c ∉ [' ', '\t', '\n', '\r', '{', '}', '[', ']', ':', ',', '"', 't', 'f', 'n'] := by
  have hnone : [' ', '\t', '\n', '\r', '{', '}', '[', ']', ':', ',', '"', 't', 'f', 'n'].all
      (fun c => !decide (Numeric c)) = true := by decide
  intro hmem
  have hother : (!decide (Numeric c)) = true := List.all_eq_true.mp hnone c hmem
  rw [decide_eq_true hc] at hother
  exact Bool.noConfusion hother

theorem isBlank_of_numeric {c : Char} (hc : Numeric c) : isBlank c = false := by
  have hother := not_mem_of_numeric hc
  simp only [List.mem_cons, not_or] at hother
  simp [isBlank, hother]

theorem scanToken_of_numeric {c : Char} (hc : Numeric c) (cs : List Char) :
    scanToken (c :: cs) = (scanNumber (c :: cs)).map fun (n, left) => (.number n, left) := by
  have hother := not_mem_of_numeric hc
  simp only [List.mem_cons, List.not_mem_nil, or_false, not_or] at hother
  rw [scanToken]
  all_goals simp_all

/-- Only what a number starts with comes to the token of a number. -/
theorem scanNumber_of_scanToken {cs left : List Char} {n : Numeral}
    (hcs : scanToken cs = some (.number n, left)) : scanNumber cs = some (n, left) := by
  rw [scanToken.eq_def] at hcs
  -- Strings and numbers alone are scanned any further; the other tokens are known by now.
  split at hcs
  case h_7 =>
    obtain ⟨_, -, heq⟩ := Option.map_eq_some_iff.mp hcs
    cases heq
  case h_11 =>
    obtain ⟨⟨m, left'⟩, hm, heq⟩ := Option.map_eq_some_iff.mp hcs
    obtain ⟨hnumber, rfl⟩ := Prod.mk.inj heq
    rwa [← Token.number.inj hnumber]
  all_goals cases hcs

theorem scan_of_token {c : Char} {cs left : List Char} {t : Token} (hblank : isBlank c = false)
    (ht : scanToken (c :: cs) = some (t, left)) : scan (c :: cs) = t :: scan left := by
  rw [scan, hblank, if_neg Bool.false_ne_true]
  split
  · next hnone =>
    rw [ht] at hnone
    cases hnone
  · next t' left' hsome =>
    rw [ht] at hsome
    obtain ⟨rfl, rfl⟩ := Prod.mk.inj (Option.some.inj hsome)
    rfl

theorem scan_of_blank {c : Char} (hblank : isBlank c = true) (cs : List Char) :
    scan (c :: cs) = scan cs := by
  rw [scan, if_pos hblank]

theorem scan_append_of_nil {cs : List Char} (hcs : scan cs = []) (rest : List Char) :
    scan (cs ++ rest) = scan rest := by
  induction cs with
  | nil => rfl
  | cons c cs ih =>
    cases hblank : isBlank c with
    | true =>
      rw [scan_of_blank hblank] at hcs
      rw [List.cons_append, scan_of_blank hblank, ih hcs]
    | false =>
      rw [scan, hblank, if_neg Bool.false_ne_true] at hcs
      split at hcs
      · cases hcs
      · cases hcs

/-- Characters that come apart into certain tokens, whatever closes them. -/
def Scans (cs : List Char) (ts : List Token) : Prop :=
  ∀ rest, Closes rest → scan (cs ++ rest) = ts ++ scan rest

/-- A text that is a number and nothing else is that number in a document. -/
theorem scans_number {cs : List Char} {n : Numeral} (hcs : scan cs = [.number n]) :
    Scans cs [.number n] := by
  intro rest hrest
  -- By induction on the blanks in front of the number.
  induction cs with
  | nil =>
    rw [scan] at hcs
    cases hcs
  | cons c cs ih =>
    cases hblank : isBlank c with
    | true =>
      rw [scan_of_blank hblank] at hcs
      rw [List.cons_append, scan_of_blank hblank, ih hcs]
    | false =>
      rw [scan, hblank, if_neg Bool.false_ne_true] at hcs
      split at hcs
      · cases hcs
      · next t left ht =>
        obtain ⟨rfl, hleft⟩ := List.cons.inj hcs
        have hn := scanNumber_of_scanToken ht
        have hmore : scanToken (c :: (cs ++ rest)) = some (.number n, left ++ rest) := by
          rw [scanToken_of_numeric (numeric_of_scanNumber hn), ← List.cons_append,
            undisturbed_scanNumber hrest _ _ _ hn]
          rfl
        rw [List.cons_append, scan_of_token hblank hmore, scan_append_of_nil hleft]
        rfl

end

section

def Numeral.ofNat (n : Nat) : Numeral :=
  ⟨false, (Nat.toDigits 10 n).map fun c => c.toNat - '0'.toNat, none, none⟩

theorem digit?_of_isDigit {c : Char} (hc : c.isDigit = true) :
    digit? c = some (c.toNat - '0'.toNat) := by
  rw [Char.isDigit, Bool.and_eq_true, decide_eq_true_eq, decide_eq_true_eq] at hc
  exact if_pos ⟨hc.1, hc.2⟩

theorem scanDigits_of_isDigit {cs : List Char} (hcs : ∀ c ∈ cs, c.isDigit = true) :
    scanDigits cs = (cs.map fun c => c.toNat - '0'.toNat, []) := by
  induction cs with
  | nil => rfl
  | cons c cs ih =>
    obtain ⟨hc, hrest⟩ := List.forall_mem_cons.mp hcs
    rw [scanDigits, digit?_of_isDigit hc]
    dsimp only
    rw [ih hrest]
    rfl

/-- No number but zero is written with a zero in front. -/
theorem head_toDigits_ne {n : Nat} (hn : 0 < n) : (Nat.toDigits 10 n).head? ≠ some '0' := by
  induction n using Nat.strong_induction_on with
  | _ n ih =>
    rw [Nat.toDigits_eq_if (by omega)]
    split
    · next hsmall =>
      have hdigit : ∀ d < 10, 0 < d → Nat.digitChar d ≠ '0' := by decide
      intro hzero
      exact hdigit n hsmall hn (Option.some.inj hzero)
    · -- The first digit of a longer number is that of its tenth.
      have htens : 0 < n / 10 := by omega
      have hrest := ih (n / 10) (by omega) htens
      cases hcs : Nat.toDigits 10 (n / 10) with
      | nil => exact absurd hcs Nat.toDigits_ne_nil
      | cons c cs =>
        rw [hcs] at hrest
        exact hrest

theorem scanWhole_toDigits (n : Nat) :
    scanWhole (Nat.toDigits 10 n) = some ((Numeral.ofNat n).whole, []) := by
  rcases Nat.eq_zero_or_pos n with rfl | hn
  · rfl
  · have hdigits : ∀ c ∈ Nat.toDigits 10 n, c.isDigit = true :=
      fun c hc => Nat.isDigit_of_mem_toDigits (by omega) (by omega) hc
    have hscan := scanDigits_of_isDigit hdigits
    have hhead := head_toDigits_ne hn
    rw [Numeral.ofNat]
    cases hcs : Nat.toDigits 10 n with
    | nil => exact absurd hcs Nat.toDigits_ne_nil
    | cons c cs =>
      rw [hcs] at hscan hhead
      rw [scanWhole_of_ne (fun hzero => hhead (congrArg some hzero)), scanDigits?, hscan]
      rfl

theorem scan_toDigits (n : Nat) : scan (Nat.toDigits 10 n) = [.number (.ofNat n)] := by
  have hn : scanNumber (Nat.toDigits 10 n) = some (.ofNat n, []) := by
    have hunsigned : scanUnsigned false (Nat.toDigits 10 n) = some (.ofNat n, []) := by
      rw [scanUnsigned, scanWhole_toDigits]
      rfl
    cases hcs : Nat.toDigits 10 n with
    | nil => exact absurd hcs Nat.toDigits_ne_nil
    | cons c cs =>
      have hdigit : c.isDigit = true :=
        Nat.isDigit_of_mem_toDigits (by omega) (by omega) (hcs ▸ List.mem_cons_self)
      rw [scanNumber_of_ne, ← hcs, hunsigned]
      rintro rfl
      exact absurd hdigit (by decide)
  cases hcs : Nat.toDigits 10 n with
  | nil => exact absurd hcs Nat.toDigits_ne_nil
  | cons c cs =>
    rw [hcs] at hn
    have hc := numeric_of_scanNumber hn
    have ht : scanToken (c :: cs) = some (.number (.ofNat n), []) := by
      rw [scanToken_of_numeric hc, hn]
      rfl
    rw [scan_of_token (isBlank_of_numeric hc) ht, scan]

theorem toUInt16?_ofNat (n : UInt16) : (Numeral.ofNat n.toNat).toUInt16? = some n := by
  have hvalue : ofDigits (Numeral.ofNat n.toNat).whole = n.toNat := by
    rw [ofDigits, Numeral.ofNat, List.foldl_map]
    exact Nat.ofDigitChars_ten_toDigits
  have hsmall : n.toNat < Nat.pow 2 16 := n.toNat_lt
  rw [Numeral.toUInt16?, hvalue, decide_eq_true hsmall]
  exact congrArg some n.ofNat_toNat

end

section

def Piece.ofChar (c : Char) : Piece :=
  if c.toNat < 0x20 ∧ c ∉ ['\x08', '\t', '\n', '\x0c', '\r'] then .unit c.toNat else .char c

def Piece.ofString (s : String) : List Piece := s.toList.map Piece.ofChar

theorem characters?_ofChar (cs : List Char) : characters? (cs.map Piece.ofChar) = some cs := by
  induction cs with
  | nil => rfl
  | cons c cs ih =>
    rw [List.map_cons, Piece.ofChar]
    split
    · next hcontrol =>
      have hlow : c.toNat < 0xd800 ∨ 0xe000 ≤ c.toNat := by omega
      rw [characters?.eq_def]
      dsimp only
      rw [if_pos hlow, ih, Char.ofNat_toNat]
      rfl
    · rw [characters?, ih]
      rfl

theorem decode?_ofString (s : String) : decode? (Piece.ofString s) = some s := by
  rw [decode?, Piece.ofString, characters?_ofChar, Option.map_some, String.ofList_toList]

theorem ofHexDigits?_hexChar {n : Nat} (hn : n < 0x20) :
    ofHexDigits? ['0', '0', hexChar (n / 16), hexChar (n % 16)] = some n := by
  have hall : ∀ n < 0x20, ofHexDigits? ['0', '0', hexChar (n / 16), hexChar (n % 16)] = some n := by
    decide
  exact hall n hn

theorem scanText_letter {c e : Char} (hletter : c ≠ 'u') (he : escape? c = some e) (cs : List Char) :
    scanText ('\\' :: c :: cs) = (scanText cs).map fun (ps, rest) => (.char e :: ps, rest) := by
  rw [scanText, he]
  · cases scanText cs <;> rfl
  · intro _ _ _ _ _ hc
    exact absurd hc hletter

theorem scanText_unit {n : Nat} (hn : n < 0x20) (cs : List Char) :
    scanText ('\\' :: 'u' :: '0' :: '0' :: hexChar (n / 16) :: hexChar (n % 16) :: cs) =
      (scanText cs).map fun (ps, rest) => (.unit n :: ps, rest) := by
  rw [scanText, ofHexDigits?_hexChar hn]
  cases scanText cs <;> rfl

theorem scanText_plain {c : Char} (hquote : c ≠ '"') (hbackslash : c ≠ '\\')
    (hplain : ¬c.toNat < 0x20) (cs : List Char) :
    scanText (c :: cs) = (scanText cs).map fun (ps, rest) => (.char c :: ps, rest) := by
  rw [scanText, if_neg (not_or.mpr ⟨hplain, hbackslash⟩)]
  · cases scanText cs <;> rfl
  all_goals simp_all

theorem scanText_escaped (c : Char) (cs : List Char) :
    scanText (escaped c ++ cs) =
      (scanText cs).map fun (ps, rest) => (Piece.ofChar c :: ps, rest) := by
  -- A character with a letter of its own, another control character, or one that stands for itself.
  by_cases hletter : c ∈ ['"', '\\', '\x08', '\t', '\n', '\x0c', '\r']
  · simp only [List.mem_cons, List.not_mem_nil, or_false] at hletter
    rcases hletter with rfl | rfl | rfl | rfl | rfl | rfl | rfl
    all_goals exact scanText_letter (by decide) rfl cs
  · simp only [List.mem_cons, List.not_mem_nil, or_false, not_or] at hletter
    obtain ⟨hquote, hbackslash, hback, htab, hline, hform, hreturn⟩ := hletter
    rw [escaped, if_neg hquote, if_neg hbackslash, if_neg hback, if_neg htab, if_neg hline,
      if_neg hform, if_neg hreturn, Piece.ofChar]
    by_cases hcontrol : c.toNat < 0x20
    · have hother : c ∉ ['\x08', '\t', '\n', '\x0c', '\r'] := by
        simp only [List.mem_cons, List.not_mem_nil, or_false, not_or]
        exact ⟨hback, htab, hline, hform, hreturn⟩
      rw [if_pos hcontrol, if_pos ⟨hcontrol, hother⟩]
      exact scanText_unit hcontrol cs
    · rw [if_neg hcontrol, if_neg fun h => hcontrol h.1]
      exact scanText_plain hquote hbackslash hcontrol cs

theorem scanText_quoted (s : String) (rest : List Char) :
    scanText (s.toList.flatMap escaped ++ '"' :: rest) = some (Piece.ofString s, rest) := by
  rw [Piece.ofString]
  induction s.toList with
  | nil => rfl
  | cons c cs ih =>
    rw [List.flatMap_cons, List.append_assoc, scanText_escaped, ih]
    rfl

/-- A quoted string is one token, whatever follows it. -/
theorem scan_quoted (s : String) (rest : List Char) :
    scan (quoted s ++ rest) = .text (Piece.ofString s) :: scan rest := by
  have htoken : scanToken (quoted s ++ rest) = some (.text (Piece.ofString s), rest) := by
    rw [quoted, List.cons_append, List.append_assoc, List.singleton_append, scanToken,
      scanText_quoted]
    rfl
  exact scan_of_token rfl htoken

end

end Json

end ResponsiveLayout
