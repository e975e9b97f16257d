import Mathlib.Data.List.TakeWhile
import ScalarServer.Text.Blank
import ScalarServer.Text.Split

/-!
# Splitting and trimming

What the functions that cut texts leave of them. The main facts are:

- `not_mem_of_mem_splitAll`: no part of a split text has the separator;
- `splitAll_append`, `splitAll_of_not_mem`: a text is cut at every separator, and nowhere else;
- `splitFirst_append`, `splitFirst_eq_some_iff`: a text is cut at the first separator;
- `afterStart_eq_some_iff`: what follows a beginning is the rest of the text;
- `afterLast_append`: what stands behind the last separator;
- `strip_eq_self`: a text that neither begins nor ends with characters of a kind keeps both ends;
- `strip_append`: characters of the kind around such a text are left out;
- `exists_eq_append_strip`, `mem_strip_iff`: nothing else is left out;
- `strip_strip`: nothing is left to be left out a second time.
-/

namespace ScalarServer.Text

variable {c separator : Char} {cs before after : List Char}

/-! ## Splitting -/

theorem not_mem_of_mem_splitAll : ∀ part ∈ splitAll separator cs, separator ∉ part := by
  induction cs with
  | nil => simp [splitAll]
  | cons c cs ih =>
    unfold splitAll
    split
    · intro part hpart
      rcases List.mem_cons.mp hpart with rfl | hpart
      · exact List.not_mem_nil
      · exact ih part hpart
    · rename_i hne
      have hfirst : ∀ part, separator ∉ part → separator ∉ c :: part := by
        intro part hpart hmem
        rcases List.mem_cons.mp hmem with heq | hmem
        · exact hne heq.symm
        · exact hpart hmem
      split
      · intro part hpart
        rw [List.mem_singleton] at hpart
        subst hpart
        exact hfirst [] List.not_mem_nil
      · rename_i first others hsplit
        rw [hsplit] at ih
        intro part hpart
        rcases List.mem_cons.mp hpart with rfl | hpart
        · exact hfirst first (ih first List.mem_cons_self)
        · exact ih part (List.mem_cons_of_mem _ hpart)

theorem splitAll_of_not_mem (h : separator ∉ cs) : splitAll separator cs = [cs] := by
  induction cs with
  | nil => rfl
  | cons c cs ih =>
    rw [List.mem_cons, not_or] at h
    rw [splitAll, if_neg (Ne.symm h.1), ih h.2]

theorem splitAll_ne_nil : splitAll separator cs ≠ [] := by
  cases cs with
  | nil => exact List.cons_ne_nil _ _
  | cons c cs =>
    rw [splitAll]
    split
    · exact List.cons_ne_nil _ _
    · split <;> exact List.cons_ne_nil _ _

/-- At a separator, the parts before it end and those behind it begin. -/
theorem splitAll_append (before after : List Char) :
    splitAll separator (before ++ separator :: after) =
      splitAll separator before ++ splitAll separator after := by
  induction before with
  | nil => simp [splitAll]
  | cons c before ih =>
    rw [List.cons_append, splitAll, splitAll, ih]
    split
    · rfl
    · have hne : splitAll separator before ≠ [] := splitAll_ne_nil
      obtain ⟨part, parts, hparts⟩ := List.exists_cons_of_ne_nil hne
      rw [hparts]
      rfl

theorem splitFirst_append (h : separator ∉ before) :
    splitFirst separator (before ++ separator :: after) = some (before, after) := by
  induction before with
  | nil => simp [splitFirst]
  | cons c before ih =>
    rw [List.mem_cons, not_or] at h
    have hne : ¬ c = separator := fun heq => h.1 heq.symm
    simp [splitFirst, hne, ih h.2]

theorem splitFirst_eq_none (h : separator ∉ cs) : splitFirst separator cs = none := by
  induction cs with
  | nil => rfl
  | cons c cs ih =>
    rw [List.mem_cons, not_or] at h
    have hne : ¬ c = separator := fun heq => h.1 heq.symm
    simp [splitFirst, hne, ih h.2]

/-- What is cut off a text is all that stands before the first separator. -/
theorem splitFirst_eq_some_iff :
    splitFirst separator cs = some (before, after) ↔
      cs = before ++ separator :: after ∧ separator ∉ before := by
  constructor
  · intro h
    induction cs generalizing before with
    | nil => cases h
    | cons c cs ih =>
      rw [splitFirst] at h
      split at h
      · rename_i hc
        cases h
        exact ⟨congrArg (· :: after) hc, List.not_mem_nil⟩
      · rename_i hc
        obtain ⟨⟨first, rest⟩, hrest, heq⟩ := Option.map_eq_some_iff.mp h
        cases heq
        obtain ⟨rfl, hmem⟩ := ih hrest
        exact ⟨rfl, List.not_mem_cons_of_ne_of_not_mem (fun heq => hc heq.symm) hmem⟩
  · rintro ⟨rfl, hmem⟩
    exact splitFirst_append hmem

theorem afterStart_eq_some_iff {start : List Char} :
    afterStart start cs = some after ↔ cs = start ++ after := by
  induction start generalizing cs with
  | nil => simp [afterStart]
  | cons p start ih =>
    cases cs with
    | nil => simp [afterStart]
    | cons c cs =>
      by_cases hpc : p = c
      · simp [afterStart, hpc, ih]
      · have hcp : ¬ c = p := fun heq => hpc heq.symm
        simp [afterStart, hpc, hcp]

theorem afterStart_append (start after : List Char) :
    afterStart start (start ++ after) = some after :=
  afterStart_eq_some_iff.mpr rfl

theorem isSome_afterStart_iff {start : List Char} :
    (afterStart start cs).isSome = true ↔ start <+: cs := by
  rw [Option.isSome_iff_exists]
  constructor
  · rintro ⟨rest, hrest⟩
    exact ⟨rest, (afterStart_eq_some_iff.mp hrest).symm⟩
  · rintro ⟨rest, rfl⟩
    exact ⟨rest, afterStart_append start rest⟩

/-- A beginning without the separator lies before the first one. -/
theorem prefix_append_cons_iff {start : List Char} (h : separator ∉ start) :
    start <+: before ++ separator :: after ↔ start <+: before := by
  constructor
  · intro hprefix
    rcases Nat.le_total start.length before.length with hle | hle
    · exact List.prefix_of_prefix_length_le hprefix (List.prefix_append _ _) hle
    · rcases Nat.eq_or_lt_of_le hle with heq | hlt
      · exact List.prefix_of_prefix_length_le hprefix (List.prefix_append _ _)
          (Nat.le_of_eq heq.symm)
      · -- a longer beginning would have the separator
        exfalso
        have hbefore : before ++ [separator] <+: before ++ separator :: after := ⟨after, by simp⟩
        have hlonger : before ++ [separator] <+: start :=
          List.prefix_of_prefix_length_le hbefore hprefix (by rw [List.length_append]; exact hlt)
        exact h (hlonger.subset (by simp))
  · intro hprefix
    exact hprefix.trans (List.prefix_append _ _)

theorem takeWhile_append_of_not_mem (h : separator ∉ before) (rest : List Char) :
    (before ++ rest).takeWhile (· != separator) =
      before ++ rest.takeWhile (· != separator) := by
  apply List.takeWhile_append_of_pos
  intro c hc
  rw [bne_iff_ne]
  rintro rfl
  exact h hc

theorem afterLast_of_not_mem (h : separator ∉ cs) : afterLast separator cs = cs := by
  have hkeep := takeWhile_append_of_not_mem (mt List.mem_reverse.mp h) []
  rw [List.takeWhile_nil, List.append_nil] at hkeep
  rw [afterLast, hkeep, List.reverse_reverse]

theorem afterLast_append (h : separator ∉ after) :
    afterLast separator (before ++ separator :: after) = after := by
  rw [afterLast, List.reverse_append, List.reverse_cons, List.append_assoc,
    takeWhile_append_of_not_mem (mt List.mem_reverse.mp h)]
  simp

/-! ## Trimming -/

theorem mem_of_mem_strip {p : Char → Bool} (h : c ∈ strip p cs) : c ∈ cs := by
  unfold strip dropEnd at h
  rw [List.mem_reverse] at h
  have hmem := (List.dropWhile_sublist p).subset h
  rw [List.mem_reverse] at hmem
  exact (List.dropWhile_sublist p).subset hmem

/-- Without characters of the kind at its ends, a text stays as it is. -/
theorem strip_eq_self {p : Char → Bool} (hhead : ∀ c ∈ cs.head?, p c = false)
    (hlast : ∀ c ∈ cs.getLast?, p c = false) : strip p cs = cs := by
  have hfront : cs.dropWhile p = cs := by
    cases cs with
    | nil => rfl
    | cons c cs => exact List.dropWhile_cons_of_neg (by simp [hhead c rfl])
  have hback : cs.reverse.dropWhile p = cs.reverse := by
    cases hreverse : cs.reverse with
    | nil => rfl
    | cons c rest =>
      have hc : cs.getLast? = some c := by
        rw [← List.head?_reverse, hreverse, List.head?_cons]
      exact List.dropWhile_cons_of_neg (by simp [hlast c hc])
  rw [strip, dropEnd, hfront, hback, List.reverse_reverse]

/-- Characters of the kind around a text are left out. -/
theorem strip_append {p : Char → Bool} (hbefore : ∀ c ∈ before, p c = true)
    (hafter : ∀ c ∈ after, p c = true) (hhead : ∀ c ∈ cs.head?, p c = false)
    (hlast : ∀ c ∈ cs.getLast?, p c = false) : strip p (before ++ cs ++ after) = cs := by
  have hend : dropEnd p (cs ++ after) = dropEnd p cs := by
    rw [dropEnd, List.reverse_append, List.dropWhile_append_of_pos (by simpa using hafter), dropEnd]
  have hself := strip_eq_self hhead hlast
  rw [strip, List.append_assoc, List.dropWhile_append_of_pos hbefore]
  -- an empty text does not separate the two ends, so it is a case of its own
  cases cs with
  | nil =>
    rw [List.nil_append, ← List.append_nil after, List.dropWhile_append_of_pos hafter]
    rfl
  | cons c cs =>
    have hkeep : ∀ rest, (c :: rest).dropWhile p = c :: rest := fun rest =>
      List.dropWhile_cons_of_neg (by simp [hhead c rfl])
    rw [strip, hkeep] at hself
    rw [List.cons_append, hkeep, ← List.cons_append, hend, hself]

/-- At the end, only characters of the kind are left out. -/
theorem strip_append_takeWhile (p : Char → Bool) (cs : List Char) :
    strip p cs ++ ((cs.dropWhile p).reverse.takeWhile p).reverse = cs.dropWhile p := by
  rw [strip, dropEnd, ← List.reverse_append, List.takeWhile_append_dropWhile, List.reverse_reverse]

/-- Only characters of the kind are left out, at both ends. -/
theorem exists_eq_append_strip (p : Char → Bool) (cs : List Char) :
    ∃ before after, cs = before ++ strip p cs ++ after ∧ (∀ c ∈ before, p c = true) ∧
      ∀ c ∈ after, p c = true := by
  refine ⟨cs.takeWhile p, ((cs.dropWhile p).reverse.takeWhile p).reverse, ?_, ?_, ?_⟩
  · rw [List.append_assoc, strip_append_takeWhile, List.takeWhile_append_dropWhile]
  · exact fun c hc => List.mem_takeWhile_imp hc
  · exact fun c hc => List.mem_takeWhile_imp (List.mem_reverse.mp hc)

/-- What is left begins with no character of the kind. -/
theorem not_of_mem_head?_strip {p : Char → Bool} : ∀ c ∈ (strip p cs).head?, p c = false := by
  intro c hc
  obtain ⟨rest, hrest⟩ := List.head?_eq_some_iff.mp hc
  have hnot := List.head?_dropWhile_not p cs
  rw [← strip_append_takeWhile, hrest] at hnot
  exact hnot

/-- What is left ends with no character of the kind. -/
theorem not_of_mem_getLast?_strip {p : Char → Bool} :
    ∀ c ∈ (strip p cs).getLast?, p c = false := by
  intro c hc
  have hnot := List.head?_dropWhile_not p (cs.dropWhile p).reverse
  rw [strip, dropEnd, List.getLast?_reverse, Option.mem_def] at hc
  rw [hc] at hnot
  exact hnot

@[simp]
theorem strip_strip (p : Char → Bool) (cs : List Char) : strip p (strip p cs) = strip p cs :=
  strip_eq_self not_of_mem_head?_strip not_of_mem_getLast?_strip

/-- Characters of another kind are not left out. -/
theorem mem_strip_iff {p : Char → Bool} (h : p c = false) : c ∈ strip p cs ↔ c ∈ cs := by
  refine ⟨mem_of_mem_strip, fun hmem => ?_⟩
  obtain ⟨before, after, hcs, hbefore, hafter⟩ := exists_eq_append_strip p cs
  rw [hcs, List.mem_append, List.mem_append] at hmem
  rcases hmem with (hmem | hmem) | hmem
  · exact absurd (hbefore c hmem) (by simp [h])
  · exact hmem
  · exact absurd (hafter c hmem) (by simp [h])

end ScalarServer.Text
