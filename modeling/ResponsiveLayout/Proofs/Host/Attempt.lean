import ResponsiveLayout.Host.Basic

/-! Calls made about the elements of a list in turn: what they keep of the host's state, and what
comes of them when the answers depend on the elements alone. -/
namespace ResponsiveLayout

variable {σ ε β γ : Type} {call : β → StateM σ (Except ε γ)}

theorem bind_apply (m : StateM σ β) (f : β → StateM σ γ) (s : σ) :
    (m >>= f) s = f (m s).1 (m s).2 := rfl

theorem attempt_cons (call : β → StateM σ (Except ε γ)) (b : β) (bs : List β) (s : σ) :
    attempt call (b :: bs) s =
      let rest := attempt call bs (call b s).2
      (match (call b s).1 with
        | .ok c => ((b, c) :: rest.1.1, rest.1.2)
        | .error _ => (rest.1.1, b :: rest.1.2), rest.2) := by
  rw [attempt, bind_apply, bind_apply]
  cases (call b s).1 <;> rfl

theorem attempt_invariant {P : σ → Prop} (hc : ∀ b s, P s → P (call b s).2) (bs : List β) {s : σ}
    (hs : P s) : P (attempt call bs s).2 := by
  induction bs generalizing s with
  | nil => exact hs
  | cons b bs ih =>
    rw [attempt_cons]
    exact ih (hc b s hs)

/-- Answers that depend on the elements alone split a list into the elements that are answered and
the elements that are refused. -/
theorem attempt_of_answer {P : σ → Prop} (answer : β → Except ε γ)
    (hc : ∀ b s, P s → (call b s).1 = answer b ∧ P (call b s).2) (bs : List β) {s : σ} (hs : P s) :
    (attempt call bs s).1 =
      (bs.filterMap fun b => (answer b).toOption.map fun c => (b, c),
        bs.filter fun b => !(answer b).isOk) := by
  induction bs generalizing s with
  | nil => rfl
  | cons b bs ih =>
    obtain ⟨hb, hp⟩ := hc b s hs
    rw [attempt_cons]
    dsimp only
    rw [ih hp, hb]
    cases h : answer b <;> simp [h, Except.toOption, Except.isOk, Except.toBool]

section

variable {β' γ' : Type}

/-- Answers under another form are split in the same way. -/
theorem attempt_map_answers (f : γ → γ') {call : β → StateM σ (Except ε γ)}
    {call' : β → StateM σ (Except ε γ')}
    (hcall : ∀ b s, call' b s = ((call b s).1.map f, (call b s).2)) (bs : List β) (s : σ) :
    attempt call' bs s =
      (((attempt call bs s).1.1.map (Prod.map id f), (attempt call bs s).1.2),
        (attempt call bs s).2) := by
  induction bs generalizing s with
  | nil => rfl
  | cons b bs ih =>
    rw [attempt_cons, attempt_cons, hcall]
    dsimp only
    rw [ih]
    cases (call b s).1 <;> rfl

/-- So are the elements when they go by other names. -/
theorem attempt_map_names (name : β → β') (call : β' → StateM σ (Except ε γ)) (bs : List β) (s : σ) :
    attempt call (bs.map name) s =
      (((attempt (fun b => call (name b)) bs s).1.1.map (Prod.map name id),
          (attempt (fun b => call (name b)) bs s).1.2.map name),
        (attempt (fun b => call (name b)) bs s).2) := by
  induction bs generalizing s with
  | nil => rfl
  | cons b bs ih =>
    rw [List.map_cons, attempt_cons, attempt_cons, ih]
    cases (call (name b) s).1 <;> rfl

end

section

variable {ν η : Type}

def answered (xs : List (β × Except ε γ)) : List (β × γ) :=
  xs.filterMap fun x => x.2.toOption.map fun c => (x.1, c)

def refused (xs : List (β × Except ε γ)) : List β := (xs.filter fun x => !x.2.isOk).map Prod.fst

theorem answered_fst (xs : List (β × Except ε γ)) :
    (answered xs).map Prod.fst = (xs.filter fun x => x.2.isOk).map Prod.fst := by
  induction xs with
  | nil => rfl
  | cons x xs ih =>
    obtain ⟨b, a⟩ := x
    cases a with
    | ok c => exact congrArg (b :: ·) ih
    | error e => exact ih

theorem answered_map_names (name : β → ν) (xs : List (β × Except ε γ)) :
    answered (xs.map (Prod.map name id)) = (answered xs).map (Prod.map name id) := by
  induction xs with
  | nil => rfl
  | cons x xs ih =>
    obtain ⟨b, a⟩ := x
    cases a with
    | ok c => exact congrArg ((name b, c) :: ·) ih
    | error e => exact ih

theorem refused_map (answer : β → Except ε γ) (bs : List β) :
    refused (bs.map fun b => (b, answer b)) = bs.filter fun b => !(answer b).isOk := by
  rw [refused, List.filter_map, List.map_map]
  exact List.map_id _

/-- Answers that are those of a function of the elements. -/
theorem eq_map_of_answer {xs : List (β × ν)} {answer : β → ν} (hxs : ∀ x ∈ xs, x.2 = answer x.1) :
    xs = (xs.map Prod.fst).map fun b => (b, answer b) := by
  rw [List.map_map]
  refine (List.map_id xs).symm.trans (List.map_congr_left fun x hx => ?_)
  exact Prod.ext rfl (hxs x hx)

/-- Calls that write down how they went: every element is called about once, in turn, and what was
written down tells which were answered and which were refused. -/
theorem attempt_noting {answer : ν → Except ε γ} {notes : β → ν → List η}
    {call : β → StateM (σ × List η) (Except ε γ)}
    (hcall : ∀ b s log, ∃ n s', call b (s, log) = (answer n, s', log ++ notes b n))
    (bs : List β) (s : σ) (log : List η) :
    ∃ (xs : List (β × ν)) (s' : σ), xs.map Prod.fst = bs ∧
      attempt call bs (s, log) =
        ((answered (xs.map (Prod.map id answer)), refused (xs.map (Prod.map id answer))), s',
          log ++ xs.flatMap fun x => notes x.1 x.2) := by
  induction bs generalizing s log with
  | nil =>
    refine ⟨[], s, rfl, ?_⟩
    rw [List.flatMap_nil, List.append_nil]
    rfl
  | cons b bs ih =>
    -- The calls about the rest are written down behind this one.
    obtain ⟨n, s₁, hb⟩ := hcall b s log
    obtain ⟨xs, s', hxs, hrest⟩ := ih s₁ (log ++ notes b n)
    refine ⟨(b, n) :: xs, s', by rw [List.map_cons, hxs], ?_⟩
    rw [attempt_cons, hb]
    dsimp only
    rw [hrest, List.flatMap_cons, List.append_assoc, List.map_cons]
    dsimp only [Prod.map]
    cases answer n <;> rfl

end

end ResponsiveLayout
