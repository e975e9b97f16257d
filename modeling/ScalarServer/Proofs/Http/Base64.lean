import ScalarServer.Http.Base64

/-!
# The laws of Base64

Writing and reading are inverse to each other in both directions: every list of bytes has one
written form, and no text but written forms can be read.

- `digitValue?_eq_some_iff`: the alphabet has one character for each six bits;
- `oneByte?_eq_some_iff`, `twoBytes?_eq_some_iff`, `threeBytes?_eq_some_iff`: a group of characters
  is read exactly if it is the written form of some bytes;
- `decode?_eq_some_iff`: so is a whole text;
- `forall_mem_encode`: what holds of the alphabet and of the equals sign holds of every character
  of a written form.
-/

namespace ScalarServer.Http.Base64

variable {a b c p q r s : Char} {n : Nat} {bytes : List UInt8} {text : List Char}

/-! ## The alphabet -/

/-- The character for six bits is read as these bits. -/
theorem digitValue?_digit : ∀ n < 64, digitValue? (digit n) = some n := by
  decide

/-- A character between two others, by its distance from the first one. -/
theorem exists_place (h : a ≤ c ∧ c ≤ b) :
    c.toNat - a.toNat ≤ b.toNat - a.toNat ∧ c = Char.ofNat (a.toNat + (c.toNat - a.toNat)) := by
  have hlow : a.toNat ≤ c.toNat := UInt32.le_iff_toNat_le.mp h.1
  have hhigh : c.toNat ≤ b.toNat := UInt32.le_iff_toNat_le.mp h.2
  refine ⟨by omega, ?_⟩
  rw [Nat.add_sub_cancel' hlow, Char.ofNat_toNat]

/-- Only the character for six bits is read as these bits. -/
theorem eq_digit_of_digitValue? (h : digitValue? c = some n) : n < 64 ∧ c = digit n := by
  -- along the rows of the alphabet, in the order in which both functions look at them
  unfold digitValue? at h
  split at h
  · rename_i hupper
    obtain ⟨hlt, hc⟩ := exists_place hupper
    replace hlt : c.toNat - 'A'.toNat ≤ 25 := hlt
    cases h
    refine ⟨by omega, ?_⟩
    rwa [digit, if_pos (by omega)]
  · split at h
    · rename_i hlower
      obtain ⟨hlt, hc⟩ := exists_place hlower
      replace hlt : c.toNat - 'a'.toNat ≤ 25 := hlt
      cases h
      refine ⟨by omega, ?_⟩
      rwa [digit, if_neg (by omega), if_pos (by omega), Nat.add_sub_cancel]
    · split at h
      · rename_i hdigit
        have hrange : '0' ≤ c ∧ c ≤ '9' := by
          simpa [Char.isDigit, Char.le_def] using hdigit
        obtain ⟨hlt, hc⟩ := exists_place hrange
        replace hlt : c.toNat - '0'.toNat ≤ 9 := hlt
        cases h
        refine ⟨by omega, ?_⟩
        rwa [digit, if_neg (by omega), if_neg (by omega), if_pos (by omega), Nat.add_sub_cancel]
      · split at h
        · rename_i hplus
          cases h
          exact ⟨by decide, hplus⟩
        · split at h
          · rename_i hslash
            cases h
            exact ⟨by decide, hslash⟩
          · cases h

theorem digitValue?_eq_some_iff : digitValue? c = some n ↔ n < 64 ∧ c = digit n := by
  refine ⟨eq_digit_of_digitValue?, ?_⟩
  rintro ⟨hn, rfl⟩
  exact digitValue?_digit n hn

/-- The equals sign does not belong to the alphabet. -/
theorem digit_ne_pad (hn : n < 64) : digit n ≠ '=' := by
  intro h
  have hread := digitValue?_digit n hn
  rw [h] at hread
  cases hread

/-! ## Groups -/

/-- The number of a byte that is given by a small number. -/
theorem toNat_byte (hn : n < 256) : (UInt8.ofNat n).toNat = n :=
  UInt8.toNat_ofNat_of_lt' hn

/-- A group with two equals signs is read exactly if it is the written form of one byte: the four
bits that the byte leaves over must be zero. -/
theorem oneByte?_eq_some_iff :
    oneByte? p q = some bytes ↔ ∃ x, bytes = [x] ∧ [p, q, '=', '='] = encode [x] := by
  simp only [oneByte?, Option.bind_eq_bind, Option.bind_eq_some_iff, digitValue?_eq_some_iff]
  constructor
  · rintro ⟨i, ⟨hi, rfl⟩, j, ⟨hj, rfl⟩, h⟩
    split at h
    · cases h
      refine ⟨_, rfl, ?_⟩
      have hfirst : (i * 4 + j / 16) / 4 = i := by omega
      have hsecond : (i * 4 + j / 16) % 4 * 16 = j := by omega
      rw [encode, toNat_byte (by omega), hfirst, hsecond]
    · cases h
  · rintro ⟨x, rfl, h⟩
    have hx := x.toNat_lt
    obtain ⟨rfl, rfl⟩ : p = digit (x.toNat / 4) ∧ q = digit (x.toNat % 4 * 16) := by
      simpa [encode] using h
    refine ⟨_, ⟨by omega, rfl⟩, _, ⟨by omega, rfl⟩, ?_⟩
    have hbyte : x.toNat / 4 * 4 + x.toNat % 4 * 16 / 16 = x.toNat := by omega
    rw [if_pos (by omega), hbyte, UInt8.ofNat_toNat]

/-- A group with one equals sign is read exactly if it is the written form of two bytes: the two
bits that they leave over must be zero. -/
theorem twoBytes?_eq_some_iff :
    twoBytes? p q r = some bytes ↔ ∃ x y, bytes = [x, y] ∧ [p, q, r, '='] = encode [x, y] := by
  simp only [twoBytes?, Option.bind_eq_bind, Option.bind_eq_some_iff, digitValue?_eq_some_iff]
  constructor
  · rintro ⟨i, ⟨hi, rfl⟩, j, ⟨hj, rfl⟩, k, ⟨hk, rfl⟩, h⟩
    split at h
    · cases h
      refine ⟨_, _, rfl, ?_⟩
      have hfirst : (i * 4 + j / 16) / 4 = i := by omega
      have hsecond : (i * 4 + j / 16) % 4 * 16 + (j % 16 * 16 + k / 4) / 16 = j := by omega
      have hthird : (j % 16 * 16 + k / 4) % 16 * 4 = k := by omega
      rw [encode, toNat_byte (by omega), toNat_byte (by omega), hfirst, hsecond, hthird]
    · cases h
  · rintro ⟨x, y, rfl, h⟩
    have hx := x.toNat_lt
    have hy := y.toNat_lt
    obtain ⟨rfl, rfl, rfl⟩ : p = digit (x.toNat / 4) ∧
        q = digit (x.toNat % 4 * 16 + y.toNat / 16) ∧ r = digit (y.toNat % 16 * 4) := by
      simpa [encode] using h
    refine ⟨_, ⟨by omega, rfl⟩, _, ⟨by omega, rfl⟩, _, ⟨by omega, rfl⟩, ?_⟩
    have hfirst : x.toNat / 4 * 4 + (x.toNat % 4 * 16 + y.toNat / 16) / 16 = x.toNat := by omega
    have hsecond : (x.toNat % 4 * 16 + y.toNat / 16) % 16 * 16 + y.toNat % 16 * 4 / 4 =
        y.toNat := by
      omega
    rw [if_pos (by omega), hfirst, hsecond, UInt8.ofNat_toNat, UInt8.ofNat_toNat]

/-- A full group is read exactly if it is the written form of three bytes. -/
theorem threeBytes?_eq_some_iff :
    threeBytes? p q r s = some bytes ↔
      ∃ x y z, bytes = [x, y, z] ∧ [p, q, r, s] = encode [x, y, z] := by
  simp only [threeBytes?, Option.bind_eq_bind, Option.bind_eq_some_iff, digitValue?_eq_some_iff,
    Option.some.injEq]
  constructor
  · rintro ⟨i, ⟨hi, rfl⟩, j, ⟨hj, rfl⟩, k, ⟨hk, rfl⟩, l, ⟨hl, rfl⟩, rfl⟩
    refine ⟨_, _, _, rfl, ?_⟩
    have hfirst : (i * 4 + j / 16) / 4 = i := by omega
    have hsecond : (i * 4 + j / 16) % 4 * 16 + (j % 16 * 16 + k / 4) / 16 = j := by omega
    have hthird : (j % 16 * 16 + k / 4) % 16 * 4 + (k % 4 * 64 + l) / 64 = k := by omega
    have hfourth : (k % 4 * 64 + l) % 64 = l := by omega
    rw [encode, encode, toNat_byte (by omega), toNat_byte (by omega), toNat_byte (by omega), hfirst,
      hsecond, hthird, hfourth]
  · rintro ⟨x, y, z, rfl, h⟩
    have hx := x.toNat_lt
    have hy := y.toNat_lt
    have hz := z.toNat_lt
    obtain ⟨rfl, rfl, rfl, rfl⟩ : p = digit (x.toNat / 4) ∧
        q = digit (x.toNat % 4 * 16 + y.toNat / 16) ∧
        r = digit (y.toNat % 16 * 4 + z.toNat / 64) ∧ s = digit (z.toNat % 64) := by
      simpa [encode] using h
    refine ⟨_, ⟨by omega, rfl⟩, _, ⟨by omega, rfl⟩, _, ⟨by omega, rfl⟩, _, ⟨by omega, rfl⟩, ?_⟩
    have hfirst : x.toNat / 4 * 4 + (x.toNat % 4 * 16 + y.toNat / 16) / 16 = x.toNat := by omega
    have hsecond : (x.toNat % 4 * 16 + y.toNat / 16) % 16 * 16 +
        (y.toNat % 16 * 4 + z.toNat / 64) / 4 = y.toNat := by omega
    have hthird : (y.toNat % 16 * 4 + z.toNat / 64) % 4 * 64 + z.toNat % 64 = z.toNat := by omega
    rw [hfirst, hsecond, hthird, UInt8.ofNat_toNat, UInt8.ofNat_toNat, UInt8.ofNat_toNat]

/-! ## Texts -/

/-- What is written can be read. -/
theorem decode?_encode (bytes : List UInt8) : decode? (encode bytes) = some bytes := by
  fun_induction encode bytes with
  | case1 => rfl
  | case2 x => exact oneByte?_eq_some_iff.mpr ⟨x, rfl, rfl⟩
  | case3 x y =>
    have hy := y.toNat_lt
    rw [decode?, twoBytes?_eq_some_iff.mpr ⟨x, y, rfl, rfl⟩]
    exact digit_ne_pad (by omega)
  | case4 x y z bytes ih =>
    have hz := z.toNat_lt
    have hgroup := threeBytes?_eq_some_iff.mpr ⟨x, y, z, rfl, rfl⟩
    -- the last character of a full group is none of those that fill a group up
    have hlast : digit (z.toNat % 64) ≠ '=' := digit_ne_pad (by omega)
    rw [decode?, hgroup, ih]
    · rfl
    · exact fun _ heq _ => hlast heq
    · exact fun heq _ => hlast heq

/-- Nothing else can be read. -/
theorem eq_encode_of_decode? (h : decode? text = some bytes) : text = encode bytes := by
  fun_induction decode? text generalizing bytes with
  | case1 =>
    cases h
    rfl
  | case2 p q =>
    obtain ⟨x, rfl, hgroup⟩ := oneByte?_eq_some_iff.mp h
    exact hgroup
  | case3 p q r =>
    obtain ⟨x, y, rfl, hgroup⟩ := twoBytes?_eq_some_iff.mp h
    exact hgroup
  | case4 p q r s rest hone htwo ih =>
    obtain ⟨group, hgroup, h⟩ := Option.bind_eq_some_iff.mp h
    obtain ⟨others, hothers, h⟩ := Option.bind_eq_some_iff.mp h
    cases h
    obtain ⟨x, y, z, rfl, hwritten⟩ := threeBytes?_eq_some_iff.mp hgroup
    rw [ih hothers]
    exact congrArg (· ++ encode others) hwritten
  | case5 => cases h

/-- A text can be read exactly if it is the written form of the bytes. -/
theorem decode?_eq_some_iff : decode? text = some bytes ↔ text = encode bytes :=
  ⟨eq_encode_of_decode?, fun h => h ▸ decode?_encode bytes⟩

/-- What holds of the alphabet and of the equals sign holds of every character of a written
form. -/
theorem forall_mem_encode {P : Char → Prop} (hdigit : ∀ n < 64, P (digit n)) (hpad : P '=') :
    ∀ c ∈ encode bytes, P c := by
  fun_induction encode bytes with
  | case1 => simp
  | case2 x =>
    have hx := x.toNat_lt
    simp only [List.forall_mem_cons]
    exact ⟨hdigit _ (by omega), hdigit _ (by omega), hpad, hpad, by simp⟩
  | case3 x y =>
    have hx := x.toNat_lt
    have hy := y.toNat_lt
    simp only [List.forall_mem_cons]
    exact ⟨hdigit _ (by omega), hdigit _ (by omega), hdigit _ (by omega), hpad, by simp⟩
  | case4 x y z bytes ih =>
    have hx := x.toNat_lt
    have hy := y.toNat_lt
    have hz := z.toNat_lt
    simp only [List.forall_mem_cons]
    exact ⟨hdigit _ (by omega), hdigit _ (by omega), hdigit _ (by omega), hdigit _ (by omega), ih⟩

end ScalarServer.Http.Base64
