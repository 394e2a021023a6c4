/-!
# Outcomes of computations that can fail

Where the parts of a composed outcome come from, what holds of the failures and the results of a
composed computation (`Meets`), and two composed computations whose parts fail alike or give related
results (`Agree`).
-/

namespace CheckDoc

variable {ε α β : Type}

/-- A mapped result comes from a result. -/
theorem map_eq_ok_iff {f : α → β} {x : Except ε α} {b : β} :
    f <$> x = .ok b ↔ ∃ a, x = .ok a ∧ f a = b := by
  cases x with
  | error e => simp [Functor.map, Except.map]
  | ok a => simp [Functor.map, Except.map]

/-- A result of a computation that goes on from another comes from a result of that one. -/
theorem bind_eq_ok_iff {f : α → Except ε β} {x : Except ε α} {b : β} :
    x >>= f = .ok b ↔ ∃ a, x = .ok a ∧ f a = .ok b := by
  cases x with
  | error e => simp [bind, Except.bind]
  | ok a => simp [bind, Except.bind]

/-- A mapped failure is the failure itself. -/
theorem map_eq_error_iff {f : α → β} {x : Except ε α} {e : ε} :
    f <$> x = .error e ↔ x = .error e := by
  cases x with
  | error e' => simp [Functor.map, Except.map]
  | ok a => simp [Functor.map, Except.map]

/-- A computation that goes on from another fails where that one fails, or after its result. -/
theorem bind_eq_error_iff {f : α → Except ε β} {x : Except ε α} {e : ε} :
    x >>= f = .error e ↔ x = .error e ∨ ∃ a, x = .ok a ∧ f a = .error e := by
  cases x with
  | error e' => simp [bind, Except.bind]
  | ok a => simp [bind, Except.bind]

/-- A computation whose result is told of gives a result. -/
theorem exists_of_map_toOption {f : α → β} {x : Except ε α} {b : β}
    (h : x.toOption.map f = some b) : ∃ a, x = .ok a ∧ f a = b := by
  cases x with
  | error e => cases h
  | ok a => exact ⟨a, rfl, Option.some.inj h⟩

/-- The result of a computation is the one that it gives. -/
theorem eq_ok_of_toOption {x : Except ε α} {a : α} (h : x.toOption = some a) : x = .ok a := by
  cases x with
  | error e => cases h
  | ok b => exact congrArg Except.ok (Option.some.inj h)

/-! ## One computation -/

/-- A computation fails for reasons that satisfy `p` only, and its result satisfies `q`. -/
inductive Meets (p : ε → Prop) (q : α → Prop) : Except ε α → Prop
  /-- It fails. -/
  | error {e : ε} (h : p e) : Meets p q (.error e)
  /-- It gives a result. -/
  | ok {a : α} (h : q a) : Meets p q (.ok a)

namespace Meets

variable {p : ε → Prop} {q : α → Prop} {r : β → Prop} {x : Except ε α}

/-- What is known of a result. -/
theorem of_eq_ok {a : α} (h : Meets p q x) (hx : x = .ok a) : q a := by
  subst hx
  cases h with
  | ok ha => exact ha

/-- A computation that goes on from another one. -/
theorem bind {f : α → Except ε β} (h : Meets p q x) (hf : ∀ a, q a → Meets p r (f a)) :
    Meets p r (x >>= f) := by
  cases h with
  | error he => exact .error he
  | ok ha => exact hf _ ha

/-- A result that is mapped. -/
theorem map {f : α → β} (h : Meets p q x) (hf : ∀ a, q a → r (f a)) : Meets p r (f <$> x) := by
  cases h with
  | error he => exact .error he
  | ok ha => exact .ok (hf _ ha)

/-- Less is known of the reasons. -/
theorem mono {p' : ε → Prop} (h : Meets p q x) (hp : ∀ e, p e → p' e) : Meets p' q x := by
  cases h with
  | error he => exact .error (hp _ he)
  | ok ha => exact .ok ha

/-- Less is known of the result. -/
theorem weaken {q' : α → Prop} (h : Meets p q x) (hq : ∀ a, q a → q' a) : Meets p q' x := by
  cases h with
  | error he => exact .error he
  | ok ha => exact .ok (hq _ ha)

end Meets

/-! ## Two computations -/

/-- Two computations fail alike or give related results, unless the first one fails for a reason
that is excused. -/
inductive Agree (excused : ε → Prop) (related : α → β → Prop) : Except ε α → Except ε β → Prop
  /-- The first one fails for an excused reason. -/
  | excused {e : ε} {y : Except ε β} (h : excused e) : Agree excused related (.error e) y
  /-- Both fail alike. -/
  | error (e : ε) : Agree excused related (.error e) (.error e)
  /-- Both give results. -/
  | ok {a : α} {b : β} (h : related a b) : Agree excused related (.ok a) (.ok b)

namespace Agree

variable {γ δ : Type} {excused : ε → Prop} {related : α → β → Prop} {related' : γ → δ → Prop}
  {x : Except ε α} {y : Except ε β} {f : α → Except ε γ} {g : β → Except ε δ}

/-- A computation agrees with itself. -/
theorem refl (x : Except ε α) : Agree excused Eq x x := by
  cases x with
  | error e => exact .error e
  | ok a => exact .ok rfl

/-- More is excused and related, where the result of the first computation is known. -/
theorem mono {excused' : ε → Prop} {related' : α → β → Prop} (h : Agree excused related x y)
    (he : ∀ e, excused e → excused' e) (hr : ∀ a b, x = .ok a → related a b → related' a b) :
    Agree excused' related' x y := by
  cases h with
  | excused hexcused => exact .excused (he _ hexcused)
  | error e => exact .error e
  | ok hab => exact .ok (hr _ _ rfl hab)

/-- Computations that go on in agreement from others that agree. -/
theorem bind (h : Agree excused related x y)
    (hf : ∀ a b, x = .ok a → related a b → Agree excused related' (f a) (g b)) :
    Agree excused related' (x >>= f) (y >>= g) := by
  cases h with
  | excused he => exact .excused he
  | error e => exact .error e
  | ok hab => exact hf _ _ rfl hab

/-- Computations that go on in agreement from others with the same result. -/
theorem bind_eq {y : Except ε α} {g : α → Except ε δ} (h : Agree excused Eq x y)
    (hf : ∀ a, x = .ok a → Agree excused related' (f a) (g a)) :
    Agree excused related' (x >>= f) (y >>= g) :=
  h.bind fun a _ ha heq => heq ▸ hf a ha

/-- Computations that go on in agreement from the same one. -/
theorem bind_same {g : α → Except ε δ}
    (hf : ∀ a, x = .ok a → Agree excused related' (f a) (g a)) :
    Agree excused related' (x >>= f) (x >>= g) :=
  (refl x).bind_eq hf

/-- Computations that agree to the letter are equal, but for what is excused. -/
theorem eq_or {y : Except ε α} (h : Agree excused Eq x y) :
    x = y ∨ ∃ e, excused e ∧ x = .error e := by
  cases h with
  | excused he => exact .inr ⟨_, he, rfl⟩
  | error e => exact .inl rfl
  | ok hab => exact .inl (congrArg _ hab)

end Agree

end CheckDoc
