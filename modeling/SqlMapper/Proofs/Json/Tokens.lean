import SqlMapper.Json.Printer
import SqlMapper.Json.Reader
import SqlMapper.Proofs.Field.RoundTrip

/-! Strings and whole numbers as they are written and read in JSON, whatever text follows. -/

namespace SqlMapper.Json

theorem unicodeEscape_eq : ∀ n < 32, unicodeEscape (Char.ofNat n) =
    ['\\', 'u', '0', '0', Nat.digitChar (n / 16), Nat.digitChar (n % 16)] := by
  decide

namespace Source

theorem hex4?_digitChar :
    ∀ n < 32, hex4? '0' '0' (Nat.digitChar (n / 16)) (Nat.digitChar (n % 16)) = some n := by
  decide

theorem hex4?_isSome_of_stringRest? {a b c d : Char} {cs : List Char}
    {r : Option (List Char) × List Char}
    (hr : stringRest? ('\\' :: 'u' :: a :: b :: c :: d :: cs) = some r) :
    ∃ n, hex4? a b c d = some n := by
  cases hn : hex4? a b c d with
  | some n => exact ⟨n, rfl⟩
  | none =>
    by_cases hcs : ∃ e f g h more, cs = '\\' :: 'u' :: e :: f :: g :: h :: more
    · obtain ⟨e, f, g, h, more, rfl⟩ := hcs
      simp [stringRest?, hn] at hr
    · rw [stringRest?, hn] at hr
      · simp at hr
      · intro e f g h more he
        exact hcs ⟨e, f, g, h, more, he⟩

/-- An escape that is no half of a pair is read alone, even before another escape. -/
theorem stringRest?_unicode {a b c d : Char} {n : Nat} {cs : List Char}
    {r : Option (List Char) × List Char} (hn : hex4? a b c d = some n) (hlow : n < 0xd800)
    (hr : stringRest? cs = some r) :
    stringRest? ('\\' :: 'u' :: a :: b :: c :: d :: cs) = some (consChar (Char.ofNat n) r) := by
  have hhigh : isHighHalf n = false := by simp [isHighHalf]; omega
  have hhalf : isLowHalf n = false := by simp [isLowHalf]; omega
  -- the reader looks for the other half of a pair only where a whole escape follows
  by_cases hcs : ∃ e f g h more, cs = '\\' :: 'u' :: e :: f :: g :: h :: more
  · obtain ⟨e, f, g, h, more, rfl⟩ := hcs
    obtain ⟨m, hm⟩ := hex4?_isSome_of_stringRest? hr
    rw [stringRest?, hn, hm, hr]
    simp [hhigh, hhalf]
  · rw [stringRest?, hn, hr]
    · simp [hhigh, hhalf]
    · intro e f g h more he
      exact hcs ⟨e, f, g, h, more, he⟩

theorem stringRest?_simple {c e : Char} {cs : List Char} {r : Option (List Char) × List Char}
    (hu : c ≠ 'u') (he : simpleEscape? c = some e) (hr : stringRest? cs = some r) :
    stringRest? ('\\' :: c :: cs) = some (consChar e r) := by
  rw [stringRest?, he, hr]
  · rfl
  · intro _ _ _ _ _ _ _ _ _ h
    exact absurd h hu
  · intro _ _ _ _ _ h
    exact absurd h hu

theorem stringRest?_plain {c : Char} {cs : List Char} {r : Option (List Char) × List Char}
    (hquote : c ≠ '"') (hslash : c ≠ '\\') (hc : ¬c.toNat < 32) (hr : stringRest? cs = some r) :
    stringRest? (c :: cs) = some (consChar c r) := by
  rw [stringRest?, hr]
  · simp [hc, hslash]
  · exact hquote
  all_goals intros; contradiction

theorem stringRest?_escapeChar (c : Char) {cs : List Char} {r : Option (List Char) × List Char}
    (hr : stringRest? cs = some r) :
    stringRest? (escapeChar c ++ cs) = some (consChar c r) := by
  unfold escapeChar
  split
  case h_8 hquote hslash _ _ _ _ _ =>
    split
    · rename_i hc
      have hself : Char.ofNat c.toNat = c := Char.ofNat_toNat c
      have hread := stringRest?_unicode (hex4?_digitChar c.toNat hc) (by omega) hr
      rw [← hself, unicodeEscape_eq c.toNat hc]
      exact hread
    · rename_i hc
      exact stringRest?_plain hquote hslash hc hr
  all_goals exact stringRest?_simple (by decide) rfl hr

theorem stringRest?_escaped (cs rest : List Char) :
    stringRest? (cs.flatMap escapeChar ++ '"' :: rest) = some (some cs, rest) := by
  induction cs with
  | nil => rfl
  | cons c cs ih =>
    rw [List.flatMap_cons, List.append_assoc, stringRest?_escapeChar c ih]
    rfl

theorem string?_escaped (s : String) (rest : List Char) :
    string? (s.toList.flatMap escapeChar ++ '"' :: rest) = some (some s, rest) := by
  rw [string?, stringRest?_escaped, Option.map_some, Option.map_some, String.ofList_toList]

/-- What may come behind a number without becoming a part of it. -/
def EndsNumber (rest : List Char) : Prop :=
  ∀ c ∈ rest.head?, c.isDigit = false ∧ c ≠ '.' ∧ c ≠ 'e' ∧ c ≠ 'E'

theorem spanDigits_append {digits rest : List Char} (hd : ∀ c ∈ digits, c.isDigit = true)
    (hr : ∀ c ∈ rest.head?, c.isDigit = false) : spanDigits (digits ++ rest) = (digits, rest) := by
  have htake : rest.takeWhile Char.isDigit = [] := by
    cases rest with
    | nil => rfl
    | cons c rest => simp [hr c rfl]
  have hdrop : rest.dropWhile Char.isDigit = rest := by
    cases rest with
    | nil => rfl
    | cons c rest => simp [hr c rfl]
  rw [spanDigits, List.takeWhile_append_of_pos hd, List.dropWhile_append_of_pos hd, htake, hdrop,
    List.append_nil]

theorem toDigits_head {n : Nat} (h : (Nat.toDigits 10 n).head? = some '0') : n = 0 := by
  induction n using Nat.strongRecOn with
  | ind n ih =>
    rw [Nat.toDigits_eq_if (by decide)] at h
    split at h
    · rename_i hn
      have hzero : ∀ d < 10, Nat.digitChar d = '0' → d = 0 := by decide
      exact hzero n hn (Option.some.inj h)
    · rw [List.head?_append_of_ne_nil _ Nat.toDigits_ne_nil] at h
      have hdiv := ih (n / 10) (by omega) h
      omega

theorem fraction?_of_endsNumber {rest : List Char} (h : EndsNumber rest) :
    fraction? rest = some (none, rest) := by
  cases rest with
  | nil => rfl
  | cons c rest =>
    rw [fraction?]
    intro cs he
    exact (h c rfl).2.1 (List.cons.inj he).1

theorem exponent?_of_endsNumber {rest : List Char} (h : EndsNumber rest) :
    exponent? rest = some (none, rest) := by
  cases rest with
  | nil => rfl
  | cons c rest =>
    obtain ⟨-, -, he, hE⟩ := h c rfl
    simp [exponent?, he, hE]

theorem unsigned?_toDigits (negative : Bool) (n : Nat) {rest : List Char} (h : EndsNumber rest) :
    unsigned? negative (Nat.toDigits 10 n ++ rest) =
      some (⟨negative, Nat.toDigits 10 n, none, none⟩, rest) := by
  have hspan := spanDigits_append (fun _ => Decimal.isDigit_of_mem_toDigits (n := n))
    fun c hc => (h c hc).1
  have hguard : ((Nat.toDigits 10 n).isEmpty ||
      (Nat.toDigits 10 n).head? == some '0' && (Nat.toDigits 10 n).length != 1) = false := by
    have hne : (Nat.toDigits 10 n).isEmpty = false := by simp [Nat.toDigits_ne_nil]
    rw [hne, Bool.false_or, Bool.and_eq_false_iff]
    by_cases hhead : (Nat.toDigits 10 n).head? = some '0'
    · rw [toDigits_head hhead]
      exact .inr rfl
    · exact .inl (beq_eq_false_iff_ne.mpr hhead)
  rw [unsigned?, hspan]
  simp only [hguard, fraction?_of_endsNumber h, Option.bind_eq_bind, Option.bind_some,
    exponent?_of_endsNumber h]
  rfl

theorem number?_toDigits (n : Nat) {rest : List Char} (h : EndsNumber rest) :
    number? (Nat.toDigits 10 n ++ rest) = some (⟨false, Nat.toDigits 10 n, none, none⟩, rest) := by
  rw [number?, unsigned?_toDigits false n h]
  intro cs he
  have hhead : '-' ∈ (Nat.toDigits 10 n).head? := by
    have hne : Nat.toDigits 10 n ≠ [] := Nat.toDigits_ne_nil
    rw [← List.head?_append_of_ne_nil (Nat.toDigits 10 n) hne, he]
    rfl
  exact absurd (Decimal.isDigit_of_mem_toDigits (List.mem_of_mem_head? hhead)) (by decide)

theorem toNumber?_toDigits (negative : Bool) (n : Nat) {val : Int}
    (hval : val = if negative then -(n : Int) else n) (hzero : negative = true → n ≠ 0)
    (lower : -0x8000000000000000 ≤ val) (upper : val < 0x10000000000000000) :
    Numeral.toNumber? ⟨negative, Nat.toDigits 10 n, none, none⟩ =
      some (.integer val lower upper) := by
  subst hval
  have hminus : (negative && ((n : Int) == 0)) = false := by
    cases negative with
    | false => rfl
    | true => simpa using hzero rfl
  have hdigits : Nat.ofDigitChars 10 (Nat.toDigits 10 n) 0 = n := Nat.ofDigitChars_ten_toDigits
  simp only [Numeral.toNumber?, hdigits, hminus]
  exact dif_pos ⟨lower, upper⟩

theorem head_ofInt (val : Int) :
    ∃ c cs, (Decimal.ofInt val).toList = c :: cs ∧ (c.isDigit = true ∨ c = '-') := by
  cases val with
  | ofNat n =>
    obtain ⟨c, cs, hcs⟩ := List.exists_cons_of_ne_nil (Nat.toDigits_ne_nil (n := n) (b := 10))
    refine ⟨c, cs, by rw [Decimal.ofInt, Decimal.toList_ofNat, hcs], .inl ?_⟩
    exact Decimal.isDigit_of_mem_toDigits (hcs ▸ List.mem_cons_self)
  | negSucc n => exact ⟨'-', _, String.toList_append, .inr rfl⟩

/-- A whole number is read as it was written if what follows belongs to no number. -/
theorem number?_render (val : Int) (lower : -0x8000000000000000 ≤ val)
    (upper : val < 0x10000000000000000) :
    ∃ n : Numeral, n.toNumber? = some (.integer val lower upper) ∧
      ∀ rest, EndsNumber rest → number? ((Decimal.ofInt val).toList ++ rest) = some (n, rest) := by
  cases val with
  | ofNat n =>
    refine ⟨_, toNumber?_toDigits false n rfl (by simp) lower upper, fun rest h => ?_⟩
    rw [Decimal.ofInt, Decimal.toList_ofNat, number?_toDigits n h]
  | negSucc n =>
    refine ⟨_, toNumber?_toDigits true (n + 1) (Int.negSucc_eq n) (by simp) lower upper,
      fun rest h => ?_⟩
    rw [Decimal.ofInt, String.toList_append, Decimal.toList_ofNat]
    exact unsigned?_toDigits true (n + 1) h

end Source

end SqlMapper.Json
