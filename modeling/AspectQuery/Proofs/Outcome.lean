/-!
# Outcomes

When a computation that may fail gives a result, and what it may fail with.
-/

set_option autoImplicit false

namespace AspectQuery

section

variable {ε α β : Type}

@[simp] theorem bind_eq_ok {x : Except ε α} {f : α → Except ε β} {b : β} :
    (x >>= f) = .ok b ↔ ∃ a, x = .ok a ∧ f a = .ok b := by
  cases x <;> simp [bind, Except.bind]

@[simp] theorem pure_eq_ok {a b : α} : (pure a : Except ε α) = .ok b ↔ a = b := by
  simp [pure, Except.pure]

/-- Of a pair only the first part is kept. -/
theorem bind_fst_eq_ok {x : Except ε (α × β)} {a : α} :
    (x >>= fun r => pure r.1) = .ok a ↔ ∃ b, x = .ok (a, b) := by
  constructor
  · intro h
    obtain ⟨⟨a, b⟩, hx, h⟩ := bind_eq_ok.mp h
    obtain rfl := pure_eq_ok.mp h
    exact ⟨b, hx⟩
  · rintro ⟨b, hx⟩
    exact bind_eq_ok.mpr ⟨(a, b), hx, rfl⟩

@[simp] theorem throw_eq_ok {e : ε} {b : α} : (throw e : Except ε α) = .ok b ↔ False := by
  simp [throw, throwThe, MonadExceptOf.throw]

@[simp] theorem mapError_eq_ok {δ : Type} {x : Except ε α} {f : ε → δ} {b : α} :
    x.mapError f = .ok b ↔ x = .ok b := by
  cases x with
  | error => exact ⟨nofun, nofun⟩
  | ok a =>
    constructor
    · intro h
      exact congrArg Except.ok (Except.ok.inj h)
    · intro h
      exact congrArg Except.ok (Except.ok.inj h)

theorem bind_eq_error {x : Except ε α} {f : α → Except ε β} {e : ε} :
    (x >>= f) = .error e ↔ x = .error e ∨ ∃ a, x = .ok a ∧ f a = .error e := by
  cases x <;> simp [bind, Except.bind]

@[simp] theorem pure_eq_error {a : α} {e : ε} : (pure a : Except ε α) = .error e ↔ False := by
  simp [pure, Except.pure]

@[simp] theorem throw_eq_error {e e' : ε} : (throw e : Except ε α) = .error e' ↔ e = e' := by
  simp [throw, throwThe, MonadExceptOf.throw]

@[simp] theorem map_eq_error {x : Except ε α} {f : α → β} {e : ε} :
    f <$> x = .error e ↔ x = .error e := by
  cases x <;> simp [Functor.map, Except.map]

theorem mapError_eq_error {δ : Type} {x : Except ε α} {f : ε → δ} {e : δ} :
    x.mapError f = .error e ↔ ∃ e', x = .error e' ∧ f e' = e := by
  cases x with
  | error e' =>
    constructor
    · intro h
      exact ⟨e', rfl, Except.error.inj h⟩
    · rintro ⟨_, h, rfl⟩
      exact congrArg (fun e' => Except.error (f e')) (Except.error.inj h)
  | ok a =>
    constructor
    · intro h
      cases h
    · rintro ⟨_, h, -⟩
      cases h

theorem bind_map {γ : Type} (x : Except ε α) (f : α → β) (g : β → Except ε γ) :
    x.map f >>= g = x >>= fun a => g (f a) := by
  cases x <;> rfl

theorem map_bind {γ : Type} (x : Except ε α) (g : α → Except ε β) (f : β → γ) :
    (x >>= g).map f = x >>= fun a => (g a).map f := by
  cases x <;> rfl

theorem mapM_cons_eq_ok {f : α → Except ε β} {x : α} {xs : List α} {zs : List β} :
    (x :: xs).mapM f = .ok zs ↔ ∃ y, f x = .ok y ∧ ∃ ys, xs.mapM f = .ok ys ∧ y :: ys = zs := by
  simp only [List.mapM_cons, bind_eq_ok, pure_eq_ok]

theorem map_of_mapM {γ : Type} {f : α → Except ε β} {g : β → γ} {k : α → γ}
    (hf : ∀ x y, f x = .ok y → g y = k x) {xs : List α} {ys : List β} (h : xs.mapM f = .ok ys) :
    ys.map g = xs.map k := by
  induction xs generalizing ys with
  | nil =>
    obtain rfl := pure_eq_ok.mp h
    rfl
  | cons x xs ih =>
    obtain ⟨y, hy, zs, hzs, rfl⟩ := mapM_cons_eq_ok.mp h
    rw [List.map_cons, List.map_cons, hf x y hy, ih hzs]

theorem eq_map_of_mapM {f : α → Except ε β} {g : α → β} (hfg : ∀ x y, f x = .ok y → y = g x)
    {xs : List α} {ys : List β} (h : xs.mapM f = .ok ys) : ys = xs.map g := by
  rw [← map_of_mapM hfg h, List.map_id']

theorem mem_of_mapM {f : α → Except ε β} {xs : List α} {ys : List β} (h : xs.mapM f = .ok ys)
    {y : β} (hy : y ∈ ys) : ∃ x ∈ xs, f x = .ok y := by
  induction xs generalizing ys with
  | nil => simp [← pure_eq_ok.mp h] at hy
  | cons x xs ih =>
    obtain ⟨z, hz, zs, hzs, rfl⟩ := mapM_cons_eq_ok.mp h
    rcases List.mem_cons.mp hy with rfl | hy
    · exact ⟨x, List.mem_cons_self, hz⟩
    · obtain ⟨x', hx', hy'⟩ := ih hzs hy
      exact ⟨x', List.mem_cons_of_mem x hx', hy'⟩

theorem mapM_eq_ok_map {f : α → Except ε β} {g : α → β} {xs : List α}
    (hfg : ∀ x ∈ xs, f x = .ok (g x)) : xs.mapM f = .ok (xs.map g) := by
  induction xs with
  | nil => rfl
  | cons x xs ih =>
    have hxs := ih fun y hy => hfg y (List.mem_cons_of_mem x hy)
    exact mapM_cons_eq_ok.mpr ⟨g x, hfg x List.mem_cons_self, xs.map g, hxs, rfl⟩

theorem mapM_of_forall {f g : α → Except ε β} (hfg : ∀ x y, f x = .ok y → g x = .ok y)
    {xs : List α} {ys : List β} (h : xs.mapM f = .ok ys) : xs.mapM g = .ok ys := by
  induction xs generalizing ys with
  | nil => exact h
  | cons x xs ih =>
    obtain ⟨y, hy, zs, hzs, rfl⟩ := mapM_cons_eq_ok.mp h
    exact mapM_cons_eq_ok.mpr ⟨y, hfg x y hy, zs, ih hzs, rfl⟩

theorem mapM_append_singleton {f : α → Except ε β} {xs : List α} {x : α} {ys : List β} {y : β}
    (hxs : xs.mapM f = .ok ys) (hx : f x = .ok y) : (xs ++ [x]).mapM f = .ok (ys ++ [y]) := by
  rw [List.mapM_append, hxs]
  have hsingle : [x].mapM f = .ok [y] := mapM_cons_eq_ok.mpr ⟨y, hx, [], rfl, rfl⟩
  exact bind_eq_ok.mpr ⟨ys, rfl, bind_eq_ok.mpr ⟨[y], hsingle, rfl⟩⟩

theorem mapM_total {f : α → Except ε β} {xs : List α} (h : ∀ x ∈ xs, ∃ y, f x = .ok y) :
    ∃ ys, xs.mapM f = .ok ys := by
  induction xs with
  | nil => exact ⟨[], rfl⟩
  | cons x xs ih =>
    obtain ⟨y, hy⟩ := h x List.mem_cons_self
    obtain ⟨ys, hys⟩ := ih fun x' hx' => h x' (List.mem_cons_of_mem x hx')
    exact ⟨y :: ys, mapM_cons_eq_ok.mpr ⟨y, hy, ys, hys, rfl⟩⟩

theorem length_of_mapM {f : α → Except ε β} {xs : List α} {ys : List β}
    (h : xs.mapM f = .ok ys) : ys.length = xs.length := by
  induction xs generalizing ys with
  | nil =>
    obtain rfl := pure_eq_ok.mp h
    rfl
  | cons x xs ih =>
    obtain ⟨y, -, zs, hzs, rfl⟩ := mapM_cons_eq_ok.mp h
    rw [List.length_cons, List.length_cons, ih hzs]

theorem exists_of_mapM {f : α → Except ε β} {xs : List α} {ys : List β} (h : xs.mapM f = .ok ys)
    {x : α} (hx : x ∈ xs) : ∃ y ∈ ys, f x = .ok y := by
  induction xs generalizing ys with
  | nil => simp at hx
  | cons x' xs ih =>
    obtain ⟨y, hy, zs, hzs, rfl⟩ := mapM_cons_eq_ok.mp h
    rcases List.mem_cons.mp hx with rfl | hx
    · exact ⟨y, List.mem_cons_self, hy⟩
    · obtain ⟨z, hz, hxz⟩ := ih hzs hx
      exact ⟨z, List.mem_cons_of_mem y hz, hxz⟩

theorem mapM_append_eq_ok {f : α → Except ε β} {xs xs' : List α} {zs : List β} :
    (xs ++ xs').mapM f = .ok zs ↔
      ∃ ys, xs.mapM f = .ok ys ∧ ∃ ys', xs'.mapM f = .ok ys' ∧ ys ++ ys' = zs := by
  simp only [List.mapM_append, bind_eq_ok, pure_eq_ok]

/-- A traversal stops at the first element that fails. -/
theorem mapM_eq_error {f : α → Except ε β} {xs : List α} {e : ε} :
    xs.mapM f = .error e ↔ ∃ before x after, xs = before ++ x :: after ∧
      (∀ y ∈ before, ∃ z, f y = .ok z) ∧ f x = .error e := by
  constructor
  · intro h
    induction xs with
    | nil => cases h
    | cons x xs ih =>
      rw [List.mapM_cons, bind_eq_error] at h
      rcases h with hx | ⟨y, hy, h⟩
      · exact ⟨[], x, xs, rfl, nofun, hx⟩
      · rcases bind_eq_error.mp h with hrest | ⟨ys, -, hpure⟩
        · obtain ⟨before, x', after, rfl, hbefore, hx'⟩ := ih hrest
          exact ⟨x :: before, x', after, rfl, List.forall_mem_cons.mpr ⟨⟨y, hy⟩, hbefore⟩, hx'⟩
        · cases hpure
  · rintro ⟨before, x, after, rfl, hbefore, hx⟩
    obtain ⟨ys, hys⟩ := mapM_total hbefore
    rw [List.mapM_append, bind_eq_error]
    refine .inr ⟨ys, hys, bind_eq_error.mpr (.inl ?_)⟩
    rw [List.mapM_cons, hx]
    rfl

theorem foldlM_total {f : β → α → Except ε β} {xs : List α} (b : β)
    (h : ∀ b, ∀ x ∈ xs, ∃ c, f b x = .ok c) : ∃ c, xs.foldlM f b = .ok c := by
  induction xs generalizing b with
  | nil => exact ⟨b, rfl⟩
  | cons x xs ih =>
    obtain ⟨c, hc⟩ := h b x List.mem_cons_self
    obtain ⟨d, hd⟩ := ih c fun b y hy => h b y (List.mem_cons_of_mem x hy)
    exact ⟨d, by rw [List.foldlM_cons]; exact bind_eq_ok.mpr ⟨c, hc, hd⟩⟩

/-- What every step preserves holds at the end. -/
theorem foldlM_induct {f : β → α → Except ε β} (I : β → Prop) {xs : List α}
    (step : ∀ b x c, x ∈ xs → I b → f b x = .ok c → I c) {b c : β} (h : xs.foldlM f b = .ok c)
    (hb : I b) : I c := by
  induction xs generalizing b with
  | nil => exact pure_eq_ok.mp h ▸ hb
  | cons x xs ih =>
    rw [List.foldlM_cons, bind_eq_ok] at h
    obtain ⟨d, hd, h⟩ := h
    exact ih (fun b y c hy => step b y c (List.mem_cons_of_mem x hy)) h
      (step b x d List.mem_cons_self hb hd)

/-- A computation fails with errors of one kind only. -/
def FailsWith (P : ε → Prop) (x : Except ε α) : Prop := ∀ e, x = .error e → P e

namespace FailsWith

variable {P : ε → Prop}

theorem ok (a : α) : FailsWith P (.ok a : Except ε α) := fun _ h => absurd h (by simp)

theorem error {e : ε} (h : P e) : FailsWith P (.error e : Except ε α) := by
  rintro _ ⟨⟩
  exact h

theorem bind {x : Except ε α} {f : α → Except ε β} (hx : FailsWith P x)
    (hf : ∀ a, x = .ok a → FailsWith P (f a)) : FailsWith P (x >>= f) := by
  cases hcase : x with
  | error e => exact error (hx e hcase)
  | ok a => exact hf a hcase

theorem map {x : Except ε α} (f : α → β) (hx : FailsWith P x) : FailsWith P (x.map f) := by
  cases x with
  | error e => exact error (hx e rfl)
  | ok a => exact ok (f a)

theorem mapM {f : α → Except ε β} (hf : ∀ x, FailsWith P (f x)) (xs : List α) :
    FailsWith P (xs.mapM f) := by
  induction xs with
  | nil => exact ok []
  | cons x xs ih =>
    rw [List.mapM_cons]
    exact (hf x).bind fun y _ => ih.bind fun ys _ => ok (y :: ys)

theorem foldlM {f : β → α → Except ε β} (hf : ∀ b x, FailsWith P (f b x)) (xs : List α) (b : β) :
    FailsWith P (xs.foldlM f b) := by
  induction xs generalizing b with
  | nil => exact ok b
  | cons x xs ih =>
    rw [List.foldlM_cons]
    exact (hf b x).bind fun c _ => ih c

end FailsWith

/-- The result of the one, if there is any, is the result of the other. -/
def KeptBy (x y : Except ε α) : Prop := ∀ a, x = .ok a → y = .ok a

namespace KeptBy

variable {x y : Except ε α}

theorem refl (x : Except ε α) : KeptBy x x := fun _ h => h

theorem bind {f g : α → Except ε β} (h : KeptBy x y) (hfg : ∀ a, KeptBy (f a) (g a)) :
    KeptBy (x >>= f) (y >>= g) := by
  intro b hb
  obtain ⟨a, ha, hb⟩ := bind_eq_ok.mp hb
  exact bind_eq_ok.mpr ⟨a, h a ha, hfg a b hb⟩

theorem bind_left {f : α → Except ε β} (h : KeptBy x y) : KeptBy (x >>= f) (y >>= f) :=
  h.bind fun a => refl (f a)

theorem mapM {f g : α → Except ε β} (h : ∀ a, KeptBy (f a) (g a)) (xs : List α) :
    KeptBy (xs.mapM f) (xs.mapM g) := by
  induction xs with
  | nil => exact refl _
  | cons x xs ih =>
    rw [List.mapM_cons, List.mapM_cons]
    exact (h x).bind fun y => ih.bind_left

theorem foldlM {f g : β → α → Except ε β} (h : ∀ b a, KeptBy (f b a) (g b a)) (xs : List α)
    (b : β) : KeptBy (xs.foldlM f b) (xs.foldlM g b) := by
  induction xs generalizing b with
  | nil => exact refl _
  | cons x xs ih =>
    rw [List.foldlM_cons, List.foldlM_cons]
    exact (h b x).bind ih

end KeptBy

end

end AspectQuery
