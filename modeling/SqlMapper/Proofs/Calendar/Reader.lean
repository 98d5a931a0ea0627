import SqlMapper.Calendar.Reader
import SqlMapper.Calendar.Text
import SqlMapper.Proofs.Decimal.Integer
import SqlMapper.Proofs.Outcome

/-! What the readers of dates and times take off the front of a text. Numbers of a fixed width end
by themselves, a signed year and a fraction where no digit follows. -/

namespace SqlMapper.Calendar.Reader

/-- The reading takes the text away and leaves the rest. -/
def Takes (r : Reader α) (text : List Char) (a : α) (rest : List Char) : Prop :=
  r (text ++ rest) = .ok (a, rest)

/-- No further digit follows. -/
def EndsDigits (rest : List Char) : Prop :=
  ∀ c ∈ rest.head?, c.isDigit = false

theorem endsDigits_nil : EndsDigits [] := nofun

theorem endsDigits_cons {c : Char} (h : c.isDigit = false) (cs : List Char) :
    EndsDigits (c :: cs) :=
  fun _ hd => Option.some.inj hd ▸ h

namespace Takes

variable {r : Reader α} {f : α → Reader β} {s t rest : List Char} {a : α} {b : β}

theorem pure (a : α) (rest : List Char) : Takes (Pure.pure a) [] a rest := rfl

theorem bind (hr : r.Takes s a (t ++ rest)) (hf : (f a).Takes t b rest) :
    (r >>= f).Takes (s ++ t) b rest := by
  have hr' : r (s ++ t ++ rest) = .ok (a, t ++ rest) := by rw [List.append_assoc, hr]
  change (r (s ++ t ++ rest)).bind (fun x => f x.1 x.2) = _
  rw [hr']
  exact hf

theorem bind_nil (hr : r.Takes [] a (t ++ rest)) (hf : (f a).Takes t b rest) :
    (r >>= f).Takes t b rest :=
  hr.bind hf

/-- The last reading but for what is made of its result. -/
theorem bind_pure (hr : r.Takes s a rest) (hf : f a = Pure.pure b) : (r >>= f).Takes s b rest := by
  have h := hr.bind (t := []) (f := f) (hf ▸ Takes.pure b rest)
  rwa [List.append_nil] at h

end Takes

theorem takes_char (c : Char) (rest : List Char) : (char c).Takes [c] () rest :=
  if_pos rfl

theorem takes_skipBlank {rest : List Char} (h : ∀ c ∈ rest.head?, Text.isBlank c = false) :
    skipBlank.Takes [] () rest :=
  congrArg (fun cs => Except.ok ((), cs)) (Text.trimStart_eq_self h)

theorem takes_digits {width : Nat} {cs rest : List Char} (hne : cs ≠ [])
    (hdigits : ∀ c ∈ cs, c.isDigit = true) (hle : cs.length ≤ width)
    (hend : cs.length = width ∨ EndsDigits rest) :
    (digits width).Takes cs (Nat.ofDigitChars 10 cs 0) rest := by
  have hfound : ((cs ++ rest).take width).takeWhile Char.isDigit = cs := by
    rw [List.take_append, List.take_of_length_le hle, List.takeWhile_append_of_pos hdigits]
    rcases hend with hlen | hrest
    · simp [hlen]
    · cases rest with
      | nil => simp
      | cons c rest =>
        have hc : c.isDigit = false := hrest c rfl
        cases width - cs.length <;> simp [hc]
  cases hcs : cs ++ rest with
  | nil => exact absurd (List.append_eq_nil_iff.mp hcs).1 hne
  | cons c ds =>
    rw [Takes, hcs, digits, ← hcs, hfound]
    · simp [hne]
    · simp

theorem takes_padded {width n : Nat} (h : n < 10 ^ width) (hw : 0 < width) (rest : List Char) :
    (digits width).Takes (Decimal.padded width n).toList n rest := by
  have hlen := Decimal.length_padded h hw
  have htakes : (digits width).Takes _ _ rest := takes_digits (Decimal.padded_ne_nil width n)
    (fun _ => Decimal.isDigit_of_mem_padded) hlen.le (.inl hlen)
  rwa [Decimal.ofDigitChars_padded] at htakes

theorem isDigit_head_padded {width n : Nat} {rest : List Char} {c : Char}
    (h : c ∈ ((Decimal.padded width n).toList ++ rest).head?) : c.isDigit = true := by
  rw [List.head?_append, List.head?_eq_some_head (Decimal.padded_ne_nil width n),
    Option.some_or] at h
  exact Decimal.isDigit_of_mem_padded (Option.some.inj h ▸ List.head_mem _)

theorem takes_bounded {low high n : Nat} (hn : n < 100) (h : low ≤ n ∧ n ≤ high)
    (rest : List Char) : (bounded low high).Takes (Decimal.padded 2 n).toList n rest := by
  have hskip : skipBlank.Takes [] () ((Decimal.padded 2 n).toList ++ rest) :=
    takes_skipBlank fun c hc => Text.isBlank_of_isDigit (isDigit_head_padded hc)
  rw [bounded]
  refine hskip.bind_nil ?_
  exact (takes_padded hn (by decide) rest).bind_pure (if_pos h)

theorem takes_signedYear {negative : Bool} {y : Int} {rest : List Char}
    (hy : (if negative then -(y.natAbs : Int) else y.natAbs) = y)
    (hrange : -0x80000000 ≤ y ∧ y < 0x80000000) (hrest : EndsDigits rest) :
    (signedYear negative).Takes (Decimal.padded 4 y.natAbs).toList y rest := by
  let cs := (Decimal.padded 4 y.natAbs).toList ++ rest
  have hle : (Decimal.padded 4 y.natAbs).toList.length ≤ cs.length := by simp [cs]
  have hdigits : digits cs.length cs = .ok (y.natAbs, rest) := by
    have h := takes_digits (Decimal.padded_ne_nil 4 y.natAbs)
      (fun _ => Decimal.isDigit_of_mem_padded) hle (.inr hrest)
    rwa [Decimal.ofDigitChars_padded] at h
  rw [Takes, signedYear]
  change (digits cs.length cs).bind _ = _
  rw [hdigits, bind_ok]
  simp only [hy, if_pos hrange]

theorem takes_year_of_sign {negative : Bool} {text rest : List Char} {y : Int}
    (h : (signedYear negative).Takes text y rest) :
    year.Takes ((if negative then '-' else '+') :: text) y rest := by
  have hblank : ∀ negative : Bool, Text.isBlank (if negative then '-' else '+') = false := by decide
  have hskip (cs : List Char) : Text.trimStart ((if negative then '-' else '+') :: cs) =
      (if negative then '-' else '+') :: cs :=
    Text.trimStart_eq_self fun c hc => Option.some.inj hc ▸ hblank negative
  rw [Takes, List.cons_append, year, hskip]
  cases negative <;> exact h

theorem year_of_digit {c : Char} (hc : c.isDigit = true) (cs : List Char) :
    year (c :: cs) = (digits 4 (c :: cs)).map fun r => ((r.1 : Int), r.2) := by
  have hblank : ∀ d ∈ (c :: cs).head?, Text.isBlank d = false := by
    simpa using Text.isBlank_of_isDigit hc
  obtain ⟨hminus, hplus⟩ := Decimal.ne_sign_of_isDigit hc
  rw [year, Text.trimStart_eq_self hblank]
  split
  · rename_i he
    exact absurd (List.cons.inj he).1 hminus
  · rename_i he
    exact absurd (List.cons.inj he).1 hplus
  · rfl

theorem takes_year {y : Int} {rest : List Char} (hrange : -0x80000000 ≤ y ∧ y < 0x80000000)
    (hrest : EndsDigits rest) :
    year.Takes (yearText y).toList y rest := by
  rw [yearText]
  split
  · rename_i hy
    have hdigits : digits 4 _ = .ok _ := takes_padded (n := y.natAbs) (by omega) (by decide) rest
    obtain ⟨c, cs, hcs⟩ := List.exists_cons_of_ne_nil (Decimal.padded_ne_nil 4 y.natAbs)
    have hc : c.isDigit = true := Decimal.isDigit_of_mem_padded (hcs ▸ List.mem_cons_self)
    rw [hcs, List.cons_append] at hdigits
    rw [hcs, Takes, List.cons_append, year_of_digit hc, hdigits]
    exact congrArg (fun y => Except.ok (y, rest)) (show (y.natAbs : Int) = y by omega)
  · rw [String.toList_append]
    split
    · have hs : (signedYear true).Takes _ y rest :=
        takes_signedYear (by rw [if_pos rfl]; omega) hrange hrest
      exact takes_year_of_sign hs
    · have hs : (signedYear false).Takes _ y rest :=
        takes_signedYear (by rw [if_neg (by decide)]; omega) hrange hrest
      exact takes_year_of_sign hs

theorem takes_nanoseconds {width k : Nat} {rest : List Char} (hw : 0 < width) (hle : width ≤ 9)
    (hk : k < 10 ^ width) (hrest : EndsDigits rest) :
    nanoseconds.Takes (Decimal.padded width k).toList (k * 10 ^ (9 - width)) rest := by
  have hlen := Decimal.length_padded hk hw
  have hdigits : digits 9 ((Decimal.padded width k).toList ++ rest) = .ok (k, rest) := by
    have h := takes_digits (Decimal.padded_ne_nil width k)
      (fun _ => Decimal.isDigit_of_mem_padded) (hlen.trans_le hle) (.inr hrest)
    rwa [Decimal.ofDigitChars_padded] at h
  have hdrop : rest.dropWhile Char.isDigit = rest := by
    cases rest with
    | nil => rfl
    | cons c rest => simp [hrest c rfl]
  rw [Takes, nanoseconds]
  change (digits 9 _).bind _ = _
  rw [hdigits]
  simp [Except.bind, hdrop, hlen]

theorem takes_fraction_of_point {width k nano : Nat} {rest : List Char} (hw : 0 < width)
    (hle : width ≤ 9) (hk : k < 10 ^ width) (hnano : k * 10 ^ (9 - width) = nano)
    (hrest : EndsDigits rest) :
    fraction.Takes ("." ++ Decimal.padded width k).toList nano rest := by
  have h := takes_nanoseconds hw hle hk hrest
  rw [hnano] at h
  rw [Takes, String.toList_append]
  exact h

theorem takes_fraction {nano : Nat} {rest : List Char} (h : nano < 1000000000)
    (hrest : EndsDigits rest) (hpoint : '.' ∉ rest.head?) :
    fraction.Takes (fractionText nano).toList nano rest := by
  rw [fractionText]
  split
  · rename_i hzero
    subst hzero
    rw [Takes]
    change fraction rest = _
    unfold fraction
    split
    · simp at hpoint
    · rfl
  split
  · exact takes_fraction_of_point (by decide) (by decide) (by omega) (by omega) hrest
  split
  · exact takes_fraction_of_point (by decide) (by decide) (by omega) (by omega) hrest
  · exact takes_fraction_of_point (by decide) (by decide) (by omega) (by omega) hrest

theorem complete_of_takes {r : Reader α} {s : String} {a : α} (h : r.Takes s.toList a []) :
    r.complete s = .ok a := by
  rw [Takes, List.append_nil] at h
  change (r s.toList).bind _ = _
  rw [h]
  rfl

end SqlMapper.Calendar.Reader
