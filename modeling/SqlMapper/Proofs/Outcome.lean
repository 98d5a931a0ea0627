import Mathlib.Data.List.Forall2

/-! Outcomes that are results or errors: what a chain of them comes to, and what there was before
a chain that came to a result. -/

namespace SqlMapper

theorem map_ok (f : α → β) (a : α) : (Except.ok a : Except ε α).map f = .ok (f a) := rfl

theorem bind_ok (a : α) (f : α → Except ε β) : (Except.ok a).bind f = f a := rfl

theorem map_bind (x : Except ε α) (f : α → β) (g : β → Except ε γ) :
    (x.map f).bind g = x.bind fun a => g (f a) := by
  cases x <;> rfl

theorem map_ite_error {p : Prop} [Decidable p] (f : α → β) (e : ε) (x : Except ε α) :
    (if p then .error e else x).map f = if p then .error e else x.map f := by
  split <;> rfl

theorem eq_ok_of_ite {p : Prop} [Decidable p] {e : ε} {x : Except ε α} {a : α}
    (h : (if p then .error e else x) = .ok a) : ¬p ∧ x = .ok a := by
  split at h
  · simp at h
  · rename_i hp
    exact ⟨hp, h⟩

theorem exists_of_map_eq_ok {x : Except ε α} {f : α → β} {b : β} (h : x.map f = .ok b) :
    ∃ a, x = .ok a ∧ f a = b := by
  cases x with
  | error e => simp [Except.map] at h
  | ok a => exact ⟨a, rfl, Except.ok.inj h⟩

theorem eq_error_of_map_eq_error {x : Except ε α} {f : α → β} {e : ε} (h : x.map f = .error e) :
    x = .error e := by
  cases x with
  | error e' => exact congrArg _ (Except.error.inj h)
  | ok a => simp [Except.map] at h

theorem exists_of_bind_eq_ok {x : Except ε α} {f : α → Except ε β} {b : β}
    (h : x.bind f = .ok b) : ∃ a, x = .ok a ∧ f a = .ok b := by
  cases x with
  | error e => simp [Except.bind] at h
  | ok a => exact ⟨a, rfl, h⟩

theorem eq_ok_of_mapError_eq_ok {x : Except ε α} {f : ε → δ} {a : α}
    (h : x.mapError f = .ok a) : x = .ok a := by
  cases x with
  | error e => simp [Except.mapError] at h
  | ok b => exact congrArg _ (Except.ok.inj h)

theorem exists_of_mapError_eq_error {x : Except ε α} {f : ε → δ} {d : δ}
    (h : x.mapError f = .error d) : ∃ e, x = .error e ∧ f e = d := by
  cases x with
  | error e => exact ⟨e, rfl, Except.error.inj h⟩
  | ok a => simp [Except.mapError] at h

theorem mapM_cons_eq (f : α → Except ε β) (a : α) (as : List α) :
    (a :: as).mapM f = (f a).bind fun b => (as.mapM f).map (b :: ·) := by
  rw [List.mapM_cons]
  cases f a with
  | error e => rfl
  | ok b => cases as.mapM f <;> rfl

theorem mapM_eq_map_mapM {f : α → Except ε β} {g : α → Except ε γ} {h : β → γ}
    (hg : ∀ a, g a = (f a).map h) (as : List α) : as.mapM g = (as.mapM f).map (List.map h) := by
  induction as with
  | nil => rfl
  | cons a as ih =>
    rw [List.mapM_cons, List.mapM_cons, ih, hg a]
    cases f a with
    | error e => rfl
    | ok b => cases as.mapM f <;> rfl

theorem forall₂_of_mapM_eq_ok {f : α → Except ε β} {as : List α} {bs : List β}
    (hb : as.mapM f = .ok bs) : List.Forall₂ (fun a b => f a = .ok b) as bs := by
  induction as generalizing bs with
  | nil =>
    obtain rfl : [] = bs := Except.ok.inj hb
    exact .nil
  | cons a as ih =>
    rw [List.mapM_cons] at hb
    obtain ⟨b, ha, hb⟩ := exists_of_bind_eq_ok hb
    obtain ⟨rest, hs, hb⟩ := exists_of_bind_eq_ok hb
    obtain rfl : b :: rest = bs := Except.ok.inj hb
    exact .cons ha (ih hs)

theorem mapM_eq_ok_iff_forall₂ {f : α → Except ε β} {as : List α} {bs : List β} :
    as.mapM f = .ok bs ↔ List.Forall₂ (fun a b => f a = .ok b) as bs := by
  refine ⟨forall₂_of_mapM_eq_ok, fun h => ?_⟩
  induction h with
  | nil => rfl
  | cons ha _ ih =>
    rw [List.mapM_cons, ha, ih]
    rfl

theorem eq_map_of_mapM_eq_ok {f : α → Except ε β} {g : α → β}
    (h : ∀ a b, f a = .ok b → b = g a) {as : List α} {bs : List β} (hb : as.mapM f = .ok bs) :
    bs = as.map g := by
  have hall : List.Forall₂ (· = ·) (as.map g) bs :=
    List.forall₂_map_left_iff.mpr ((forall₂_of_mapM_eq_ok hb).imp fun a b hab => (h a b hab).symm)
  rw [List.forall₂_eq_eq_eq] at hall
  exact hall.symm

theorem mapM_eq_ok {f : α → Except ε β} {g : α → β} {as : List α} (h : ∀ a ∈ as, f a = .ok (g a)) :
    as.mapM f = .ok (as.map g) := by
  induction as with
  | nil => rfl
  | cons a as ih =>
    rw [List.mapM_cons, h a List.mem_cons_self, ih fun b hb => h b (List.mem_cons_of_mem a hb)]
    rfl

theorem exists_of_mapM_eq_error {f : α → Except ε β} {as : List α} {e : ε}
    (he : as.mapM f = .error e) : ∃ a ∈ as, f a = .error e := by
  induction as with
  | nil => simp [pure, Except.pure] at he
  | cons a as ih =>
    rw [List.mapM_cons] at he
    cases ha : f a with
    | error e' => exact ⟨a, List.mem_cons_self, by simpa [ha, bind, Except.bind] using he⟩
    | ok b =>
      cases hs : as.mapM f with
      | error e' =>
        obtain ⟨c, hc, hce⟩ := ih (by simpa [ha, hs, bind, Except.bind] using he)
        exact ⟨c, List.mem_cons_of_mem a hc, hce⟩
      | ok rest => simp [ha, hs, bind, Except.bind, pure, Except.pure] at he

theorem exists_mem_of_mapM_eq_ok {f : α → Except ε β} {as : List α} {bs : List β}
    (hs : as.mapM f = .ok bs) {a : α} (ha : a ∈ as) : ∃ b ∈ bs, f a = .ok b := by
  have hall := List.forall₂_iff_get.mp (forall₂_of_mapM_eq_ok hs)
  obtain ⟨i, hi, rfl⟩ := List.getElem_of_mem ha
  have hib : i < bs.length := hall.1 ▸ hi
  exact ⟨bs[i], List.getElem_mem hib, hall.2 i hi hib⟩

theorem exists_mapM_eq_ok {f : α → Except ε β} {as : List α} (h : ∀ a ∈ as, ∃ b, f a = .ok b) :
    ∃ bs, as.mapM f = .ok bs := by
  cases hs : as.mapM f with
  | ok bs => exact ⟨bs, rfl⟩
  | error e =>
    obtain ⟨a, ha, hae⟩ := exists_of_mapM_eq_error hs
    obtain ⟨b, hab⟩ := h a ha
    cases hae.symm.trans hab

/-- Where all complaints are the same one, it is the complaint about the whole list. -/
theorem mapM_eq_error {f : α → Except ε β} {as : List α} {a : α} {e : ε} (ha : a ∈ as)
    (hae : f a = .error e) (h : ∀ b ∈ as, ∀ e', f b = .error e' → e' = e) :
    as.mapM f = .error e := by
  cases hs : as.mapM f with
  | error e' =>
    obtain ⟨b, hb, hbe⟩ := exists_of_mapM_eq_error hs
    exact congrArg Except.error (h b hb e' hbe)
  | ok bs =>
    obtain ⟨b, -, hok⟩ := exists_mem_of_mapM_eq_ok hs ha
    cases hae.symm.trans hok

end SqlMapper
