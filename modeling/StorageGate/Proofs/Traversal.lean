/-!
# Steps in order

A step without effects is followed by what is made of its result (`bind_of_eq`).  A walk over a list by `mapM` in `Except`
succeeds exactly if every step does, and then position by position (`getElem?_of_mapM`); it fails with the error of the
first step that fails (`mapM_eq_error`).
-/
namespace StorageGate
namespace Traversal

variable {α β : Type}

theorem bind_of_eq {x : Id α} {a : α} (h : x = a) (f : α → Id β) : (x >>= f) = f a := by
  rw [h]
  rfl

theorem guard_of {p : Prop} [Decidable p] (h : p) : (guard p : Option Unit) = some () := if_pos h

theorem of_guard {p : Prop} [Decidable p] {u : Unit} (h : guard p = some u) : p :=
  Decidable.byContradiction fun hno => nomatch (if_neg hno : (guard p : Option Unit) = none).symm.trans h

variable {ε : Type} {f : α → Except ε β}

theorem exists_of_bind_eq_ok {x : Except ε α} {g : α → Except ε β} {b : β} (h : (x >>= g) = .ok b) :
    ∃ a, x = .ok a ∧ g a = .ok b := by
  cases x with
  | error e => cases h
  | ok a => exact ⟨a, rfl, h⟩

theorem bind_eq_error_iff {x : Except ε α} {g : α → Except ε β} {e : ε} :
    (x >>= g) = .error e ↔ x = .error e ∨ ∃ a, x = .ok a ∧ g a = .error e := by
  cases x <;> simp [bind, Except.bind]

theorem eq_ok_of_toOption {x : Except ε α} {a : α} (h : x.toOption = some a) : x = .ok a := by
  cases x with
  | error e => cases h
  | ok b =>
    cases h
    rfl

theorem exists_of_isSome_toOption {x : Except ε α} (h : x.toOption.isSome = true) : ∃ a, x = .ok a := by
  cases x with
  | error e => cases h
  | ok a => exact ⟨a, rfl⟩

theorem map_eq_ok_iff {g : α → β} {x : Except ε α} {b : β} : g <$> x = .ok b ↔ ∃ a, x = .ok a ∧ g a = b := by
  cases x <;> simp [Functor.map, Except.map]

theorem mapM_eq_ok {g : α → β} : ∀ {l : List α}, (∀ x ∈ l, f x = .ok (g x)) → l.mapM f = .ok (l.map g)
  | [], _ => rfl
  | x :: l, h => by
    rw [List.mapM_cons, h x List.mem_cons_self, mapM_eq_ok fun y hy => h y (List.mem_cons_of_mem _ hy)]
    rfl

theorem mapM_cons_of_ok {x : α} {y : β} (h : f x = .ok y) (l : List α) :
    (x :: l).mapM f = (l.mapM f).map (y :: ·) := by
  rw [List.mapM_cons, h]
  show (l.mapM f >>= fun ys => pure (y :: ys)) = _
  cases l.mapM f <;> rfl

theorem mapM_cons_of_error {x : α} {e : ε} (h : f x = .error e) (l : List α) : (x :: l).mapM f = .error e := by
  rw [List.mapM_cons, h]
  rfl

/-- **Steps that agree in what `f` keeps of their results are followed alike,** as far as `g` keeps it, if what follows them
agrees so wherever `f` keeps the same. -/
theorem map_bind_congr {γ δ : Type} {f : α → γ} {g : β → δ} {x y : Except ε α} {k k' : α → Except ε β}
    (hxy : x.map f = y.map f) (hk : ∀ a b, f a = f b → (k a).map g = (k' b).map g) :
    (x >>= k).map g = (y >>= k').map g := by
  cases x with
  | error e =>
    cases y with
    | error e' => cases hxy; rfl
    | ok b => cases hxy
  | ok a =>
    cases y with
    | error e' => cases hxy
    | ok b => exact hk a b (Except.ok.inj hxy)

theorem mapError_eq_ok_iff {ε' : Type} {g : ε → ε'} {x : Except ε α} {a : α} : x.mapError g = .ok a ↔ x = .ok a := by
  cases x with
  | error e => exact ⟨(nomatch ·), (nomatch ·)⟩
  | ok b => exact ⟨fun h => by cases h; rfl, fun h => by cases h; rfl⟩

theorem mapError_eq_error_iff {ε' : Type} {g : ε → ε'} {x : Except ε α} {e' : ε'} :
    x.mapError g = .error e' ↔ ∃ e, x = .error e ∧ e' = g e := by
  cases x with
  | error e => exact ⟨fun h => by cases h; exact ⟨e, rfl, rfl⟩, fun ⟨_, h, h'⟩ => by cases h; exact h' ▸ rfl⟩
  | ok b => exact ⟨(nomatch ·), fun ⟨_, h, _⟩ => nomatch h⟩

theorem map_mapError {ε' γ : Type} (f : ε → ε') (g : α → γ) (x : Except ε α) :
    (x.mapError f).map g = (x.map g).mapError f := by
  cases x <;> rfl

theorem map_mapM {γ : Type} (g : β → γ) : ∀ l : List α, (l.mapM f).map (List.map g) = l.mapM fun x => (f x).map g
  | [] => rfl
  | x :: l => by
    have hrest := map_mapM g l
    cases hx : f x with
    | error e => rw [mapM_cons_of_error hx, mapM_cons_of_error (by rw [hx]; rfl)]; rfl
    | ok y =>
      rw [mapM_cons_of_ok hx, mapM_cons_of_ok (by rw [hx]; rfl), ← hrest]
      cases l.mapM f <;> rfl

/-- **A walk that succeeds, position by position.** -/
theorem getElem?_of_mapM : ∀ {l : List α} {out : List β}, l.mapM f = .ok out →
    out.length = l.length ∧ ∀ (i : Nat) (x : α), l[i]? = some x → ∃ y, f x = .ok y ∧ out[i]? = some y
  | [], out, h => by
    cases h
    exact ⟨rfl, fun i x hx => by cases i <;> cases hx⟩
  | x :: l, out, h => by
    cases hx : f x with
    | error e => rw [mapM_cons_of_error hx] at h; cases h
    | ok y =>
      rw [mapM_cons_of_ok hx] at h
      cases hl : l.mapM f with
      | error e => rw [hl] at h; cases h
      | ok ys =>
        rw [hl] at h
        cases h
        obtain ⟨hlength, hget⟩ := getElem?_of_mapM hl
        refine ⟨congrArg (· + 1) hlength, fun i z hz => ?_⟩
        cases i with
        | zero => cases hz; exact ⟨y, hx, rfl⟩
        | succ i => exact hget i z hz

/-- What comes of a step stands beside what it was made from. -/
theorem eq_ok_of_mem_zip {l : List α} {out : List β} (h : l.mapM f = .ok out) {q : α × β} (hq : q ∈ l.zip out) :
    f q.1 = .ok q.2 := by
  obtain ⟨i, hi⟩ := List.mem_iff_getElem?.1 hq
  obtain ⟨hx, hy⟩ := List.getElem?_zip_eq_some.1 hi
  obtain ⟨y, hfx, hy'⟩ := (getElem?_of_mapM h).2 i q.1 hx
  rw [hy] at hy'
  cases hy'
  exact hfx

theorem exists_of_mem_mapM {l : List α} {out : List β} (h : l.mapM f = .ok out) {y : β} (hy : y ∈ out) :
    ∃ x ∈ l, f x = .ok y := by
  obtain ⟨i, hi, rfl⟩ := List.mem_iff_getElem.1 hy
  have hl : i < l.length := (getElem?_of_mapM h).1 ▸ hi
  refine ⟨l[i], List.getElem_mem hl, eq_ok_of_mem_zip h (q := (l[i], out[i])) ?_⟩
  exact List.mem_iff_getElem?.2 ⟨i, List.getElem?_zip_eq_some.2
    ⟨List.getElem?_eq_getElem hl, List.getElem?_eq_getElem hi⟩⟩

theorem exists_of_mapM_eq_error {e : ε} : ∀ {l : List α}, l.mapM f = .error e → ∃ x ∈ l, f x = .error e
  | [], h => by cases h
  | x :: l, h => by
    cases hx : f x with
    | error e' =>
      rw [mapM_cons_of_error hx] at h
      cases h
      exact ⟨x, List.mem_cons_self, hx⟩
    | ok y =>
      rw [mapM_cons_of_ok hx] at h
      cases hl : l.mapM f with
      | ok ys => rw [hl] at h; cases h
      | error e' =>
        rw [hl] at h
        cases h
        obtain ⟨z, hz, hfz⟩ := exists_of_mapM_eq_error hl
        exact ⟨z, List.mem_cons_of_mem _ hz, hfz⟩

theorem exists_mapM_eq_ok {l : List α} (h : ∀ x ∈ l, ∃ y, f x = .ok y) : ∃ out, l.mapM f = .ok out := by
  cases hl : l.mapM f with
  | ok out => exact ⟨out, rfl⟩
  | error e =>
    obtain ⟨x, hx, hfx⟩ := exists_of_mapM_eq_error hl
    obtain ⟨y, hy⟩ := h x hx
    rw [hy] at hfx
    cases hfx

theorem exists_mapM_eq_error {l : List α} {x : α} {e : ε} (hx : x ∈ l) (he : f x = .error e) :
    ∃ e', l.mapM f = .error e' := by
  cases hl : l.mapM f with
  | error e' => exact ⟨e', rfl⟩
  | ok out =>
    obtain ⟨i, hi⟩ := List.mem_iff_getElem?.1 hx
    obtain ⟨y, hy, _⟩ := (getElem?_of_mapM hl).2 i x hi
    rw [he] at hy
    cases hy

/-- What one walk reads another reads too, if each of its steps does. -/
theorem mapM_eq_ok_of_imp {ε' : Type} {g : α → Except ε' β} : ∀ {l : List α} {out : List β},
    (∀ x ∈ l, ∀ y, f x = .ok y → g x = .ok y) → l.mapM f = .ok out → l.mapM g = .ok out
  | [], _, _, h => by cases h; rfl
  | x :: l, out, hfg, h => by
    cases hx : f x with
    | error e => rw [mapM_cons_of_error hx] at h; cases h
    | ok y =>
      rw [mapM_cons_of_ok hx] at h
      rw [mapM_cons_of_ok (hfg x List.mem_cons_self y hx)]
      cases hl : l.mapM f with
      | error e => rw [hl] at h; cases h
      | ok ys =>
        rw [hl] at h
        cases h
        rw [mapM_eq_ok_of_imp (fun z hz => hfg z (List.mem_cons_of_mem _ hz)) hl]
        rfl

/-- **A walk fails with the error of the first step that fails.** -/
theorem mapM_eq_error {e : ε} : ∀ {l : List α} {i : Nat} {x : α}, l[i]? = some x → f x = .error e →
    (∀ j y, j < i → l[j]? = some y → ∃ z, f y = .ok z) → l.mapM f = .error e
  | [], i, x, hx, _, _ => by cases i <;> cases hx
  | x :: l, 0, y, hy, he, _ => by
    cases hy
    exact mapM_cons_of_error he l
  | x :: l, i + 1, y, hy, he, hbefore => by
    obtain ⟨z, hz⟩ := hbefore 0 x (Nat.succ_pos i) rfl
    rw [mapM_cons_of_ok hz,
      mapM_eq_error (l := l) (i := i) hy he fun j w hj hw => hbefore (j + 1) w (Nat.succ_lt_succ hj) hw]
    rfl

/-- Either every step succeeds or one is the first that fails. -/
theorem all_ok_or_first_error (f : α → Except ε β) : ∀ l : List α, (∀ x ∈ l, ∃ y, f x = .ok y) ∨
    ∃ (i : Nat) (x : α) (e : ε), l[i]? = some x ∧ f x = .error e ∧
      ∀ (j : Nat) (y : α), j < i → l[j]? = some y → ∃ z, f y = .ok z
  | [] => .inl fun _ h => nomatch h
  | x :: l => by
    cases hx : f x with
    | error e => exact .inr ⟨0, x, e, rfl, hx, fun j _ hj => absurd hj (Nat.not_lt_zero j)⟩
    | ok y =>
      rcases all_ok_or_first_error f l with h | ⟨i, z, e, hz, he, hfirst⟩
      · refine .inl fun w hw => ?_
        rcases List.mem_cons.1 hw with rfl | hw
        · exact ⟨y, hx⟩
        · exact h w hw
      · refine .inr ⟨i + 1, z, e, hz, he, fun j w hj hw => ?_⟩
        cases j with
        | zero => cases hw; exact ⟨y, hx⟩
        | succ j => exact hfirst j w (Nat.lt_of_succ_lt_succ hj) hw

/-- **A walk gives a list** exactly if each step gives what stands there. -/
theorem mapM_eq_ok_iff {l : List α} {out : List β} : l.mapM f = .ok out ↔
    out.length = l.length ∧ ∀ (i : Nat) (x : α), l[i]? = some x → ∃ y, f x = .ok y ∧ out[i]? = some y := by
  refine ⟨getElem?_of_mapM, fun ⟨hlength, hget⟩ => ?_⟩
  have hsteps : ∀ x ∈ l, ∃ y, f x = .ok y := by
    intro x hx
    obtain ⟨i, hi⟩ := List.mem_iff_getElem?.1 hx
    obtain ⟨y, hy, -⟩ := hget i x hi
    exact ⟨y, hy⟩
  obtain ⟨made, hmade⟩ := exists_mapM_eq_ok hsteps
  obtain ⟨hlength', hget'⟩ := getElem?_of_mapM hmade
  have heq : made = out := by
    refine List.ext_getElem (hlength'.trans hlength.symm) fun i h₁ h₂ => ?_
    have hi := List.getElem?_eq_getElem (hlength' ▸ h₁)
    obtain ⟨y, hy, hiy⟩ := hget i _ hi
    obtain ⟨z, hz, hiz⟩ := hget' i _ hi
    rw [List.getElem?_eq_getElem h₁] at hiz
    rw [List.getElem?_eq_getElem h₂] at hiy
    cases hiy
    cases hiz
    exact Except.ok.inj (hz.symm.trans hy)
  rw [hmade, heq]

/-- A walk fails with an error exactly if that is the one of the first step that fails. -/
theorem mapM_eq_error_iff {l : List α} {e : ε} : l.mapM f = .error e ↔ ∃ (i : Nat) (x : α), l[i]? = some x ∧
    f x = .error e ∧ ∀ (j : Nat) (y : α), j < i → l[j]? = some y → ∃ z, f y = .ok z := by
  constructor
  · intro h
    rcases all_ok_or_first_error f l with hall | ⟨i, x, e', hx, he, hfirst⟩
    · obtain ⟨out, hout⟩ := exists_mapM_eq_ok hall
      rw [hout] at h
      cases h
    · rw [mapM_eq_error hx he hfirst] at h
      cases h
      exact ⟨i, x, hx, he, hfirst⟩
  · rintro ⟨i, x, hx, he, hfirst⟩
    exact mapM_eq_error hx he hfirst

/-! ## Steps that may find nothing -/

section Found

variable {g : α → Option β}

theorem mapM_cons_eq_some_iff {x : α} {l : List α} {out : List β} :
    (x :: l).mapM g = some out ↔ ∃ y ys, g x = some y ∧ l.mapM g = some ys ∧ out = y :: ys := by
  cases hx : g x <;> cases hl : l.mapM g <;> simp [List.mapM_cons, hx, hl, eq_comm]

theorem exists_of_mem_found : ∀ {l : List α} {out : List β}, l.mapM g = some out → ∀ {y : β}, y ∈ out →
    ∃ x ∈ l, g x = some y
  | [], out, h, y, hy => by
    rw [List.mapM_nil] at h
    cases h
    cases hy
  | x :: l, out, h, y, hy => by
    obtain ⟨z, zs, hz, hzs, rfl⟩ := mapM_cons_eq_some_iff.1 h
    rcases List.mem_cons.1 hy with rfl | hy
    · exact ⟨x, List.mem_cons_self, hz⟩
    · obtain ⟨w, hw, hwy⟩ := exists_of_mem_found hzs hy
      exact ⟨w, List.mem_cons_of_mem _ hw, hwy⟩

theorem exists_found_of_mem : ∀ {l : List α} {out : List β}, l.mapM g = some out → ∀ x ∈ l, ∃ y, g x = some y
  | [], _, _, _, hx => nomatch hx
  | x :: l, out, h, z, hz => by
    obtain ⟨y, ys, hy, hys, _⟩ := mapM_cons_eq_some_iff.1 h
    rcases List.mem_cons.1 hz with rfl | hz
    · exact ⟨y, hy⟩
    · exact exists_found_of_mem hys z hz

theorem length_of_found : ∀ {l : List α} {out : List β}, l.mapM g = some out → out.length = l.length
  | [], _, h => by
    rw [List.mapM_nil] at h
    cases h
    rfl
  | _ :: _, _, h => by
    obtain ⟨_, _, _, hys, rfl⟩ := mapM_cons_eq_some_iff.1 h
    rw [List.length_cons, List.length_cons, length_of_found hys]

/-- A walk whose steps are undone by `k` is undone by it. -/
theorem map_of_found {k : β → α} : ∀ {l : List α} {out : List β}, (∀ x ∈ l, ∀ y, g x = some y → k y = x) →
    l.mapM g = some out → out.map k = l
  | [], out, _, h => by
    rw [List.mapM_nil] at h
    cases h
    rfl
  | x :: l, out, hk, h => by
    obtain ⟨y, ys, hy, hys, rfl⟩ := mapM_cons_eq_some_iff.1 h
    rw [List.map_cons, hk x List.mem_cons_self y hy,
      map_of_found (fun z hz => hk z (List.mem_cons_of_mem _ hz)) hys]

theorem mapM_append_eq_some_iff {l l' : List α} {out : List β} :
    (l ++ l').mapM g = some out ↔ ∃ ys zs, l.mapM g = some ys ∧ l'.mapM g = some zs ∧ out = ys ++ zs := by
  rw [List.mapM_append]
  cases l.mapM g <;> cases l'.mapM g <;> simp [eq_comm]

end Found

end Traversal
end StorageGate
