import SqlPipe.Text.Search
import Mathlib.Data.List.Basic

/-!
# Searching with more text behind

A part is found where it was found before when more text follows.  It is found nowhere else when
what follows is one character that the part does not have, and around such a character it occurs
only on one side.  The characters of a kind that a text begins with stay the same in front of a
character of another kind.
-/

namespace SqlPipe.Text

variable {part text rest : List Char}

theorem after?_eq_some_iff : after? part text = some rest ↔ text = part ++ rest := by
  induction part generalizing text with
  | nil =>
      rw [after?, Option.some.injEq, List.nil_append]
  | cons p part ih =>
      cases text with
      | nil => simp [after?]
      | cons c text =>
          by_cases hp : p = c
          · simp [after?, hp, ih]
          · simp [after?, hp, Ne.symm hp]

theorem after?_append (hafter : after? part text = some rest) (more : List Char) :
    after? part (text ++ more) = some (rest ++ more) := by
  rw [after?_eq_some_iff] at hafter ⊢
  rw [hafter, List.append_assoc]

/-- A part that is not at the beginning of a text is not there either when more text follows. -/
theorem after?_append_eq_none
    (hafter : after? part text = none) (hlength : part.length ≤ text.length) (more : List Char) :
    after? part (text ++ more) = none := by
  rw [Option.eq_none_iff_forall_not_mem] at hafter ⊢
  intro rest hrest
  have htext : text ++ more = part ++ rest := after?_eq_some_iff.mp hrest
  obtain ⟨behind, hbehind⟩ : part <+: text :=
    List.prefix_of_prefix_length_le (htext ▸ List.prefix_append part rest)
      (List.prefix_append text more) hlength
  exact hafter behind (after?_eq_some_iff.mpr hbehind.symm)

theorem splitAtOnto_append
    {passed before : List Char} (hsplit : splitAtOnto part passed text = some (before, rest))
    (more : List Char) : splitAtOnto part passed (text ++ more) = some (before, rest ++ more) := by
  induction text generalizing passed with
  | nil =>
      obtain ⟨behind, hafter, hpair⟩ := Option.map_eq_some_iff.mp hsplit
      cases hpair
      obtain ⟨rfl, rfl⟩ := List.append_eq_nil_iff.mp (after?_eq_some_iff.mp hafter).symm
      cases more <;> rfl
  | cons c text ih =>
      rw [splitAtOnto] at hsplit
      rw [List.cons_append, splitAtOnto, ← List.cons_append]
      split at hsplit
      next behind hafter =>
        cases hsplit
        rw [after?_append hafter]
      next hafter =>
        have hlength := length_splitAtOnto hsplit
        have hnone := after?_append_eq_none hafter (by rw [List.length_cons]; omega) more
        rw [hnone]
        exact ih hsplit

theorem dropThrough_append (hrest : dropThrough part text ≠ []) (more : List Char) :
    dropThrough part (text ++ more) = dropThrough part text ++ more := by
  unfold dropThrough at hrest ⊢
  cases hsplit : splitAt? part text with
  | none =>
      rw [hsplit] at hrest
      exact absurd rfl hrest
  | some split => rw [splitAt?, splitAtOnto_append hsplit]

/-- A text is split at the first occurrence of a part: the part occurs nowhere before. -/
theorem splitAtOnto_eq_some
    {passed before : List Char} (hsplit : splitAtOnto part passed text = some (before, rest)) :
    ∃ inside, before = passed.reverse ++ inside ∧ text = inside ++ part ++ rest ∧
      (part ≠ [] → ¬ part <:+: inside ++ part.dropLast) := by
  induction text generalizing passed with
  | nil =>
      obtain ⟨behind, hafter, hpair⟩ := Option.map_eq_some_iff.mp hsplit
      cases hpair
      obtain ⟨rfl, rfl⟩ := List.append_eq_nil_iff.mp (after?_eq_some_iff.mp hafter).symm
      exact ⟨[], (List.append_nil _).symm, rfl, fun hne => absurd rfl hne⟩
  | cons c text ih =>
      rw [splitAtOnto] at hsplit
      split at hsplit
      next behind hafter =>
        cases hsplit
        refine ⟨[], (List.append_nil _).symm, after?_eq_some_iff.mp hafter, fun hne hoccurs => ?_⟩
        have hlength := hoccurs.length_le
        have hpos := List.length_pos_iff.mpr hne
        rw [List.nil_append, List.length_dropLast] at hlength
        omega
      next hafter =>
        obtain ⟨inside, hbefore, htext, hfirst⟩ := ih hsplit
        refine ⟨c :: inside, by simp [hbefore], by rw [htext]; rfl, fun hne hoccurs => ?_⟩
        rcases List.infix_cons_iff.mp hoccurs with hbegins | hlater
        · have hshorter : c :: (inside ++ part.dropLast) <+: c :: text := by
            rw [htext, List.append_assoc, List.cons_prefix_cons]
            exact ⟨rfl, (List.prefix_append_right_inj inside).mpr
              ((List.dropLast_prefix part).trans (List.prefix_append part rest))⟩
          obtain ⟨behind, hbehind⟩ := hbegins.trans hshorter
          rw [after?_eq_some_iff.mpr hbehind.symm] at hafter
          cases hafter
        · exact hfirst hne hlater

theorem splitAtOnto_of_after?
    (hafter : after? part text = some rest) (passed : List Char) :
    splitAtOnto part passed text = some (passed.reverse, rest) := by
  cases text with
  | nil => rw [splitAtOnto, hafter, Option.map_some]
  | cons c text => rw [splitAtOnto, hafter]

theorem exists_splitAtOnto_of_first
    {inside : List Char} (hfirst : ¬ part <:+: inside ++ part.dropLast)
    (passed rest : List Char) :
    ∃ before, splitAtOnto part passed (inside ++ part ++ rest) = some (before, rest) := by
  induction inside generalizing passed with
  | nil => exact ⟨passed.reverse, splitAtOnto_of_after? (after?_eq_some_iff.mpr rfl) passed⟩
  | cons c inside ih =>
      have hafter : after? part (c :: (inside ++ part ++ rest)) = none := by
        rw [Option.eq_none_iff_forall_not_mem]
        intro behind hbehind
        have hbegins : part <+: c :: inside ++ part ++ rest :=
          ⟨behind, (after?_eq_some_iff.mp hbehind).symm⟩
        have hshorter : c :: inside ++ part.dropLast <+: c :: inside ++ part ++ rest :=
          ((List.prefix_append_right_inj _).mpr (List.dropLast_prefix part)).trans
            (List.prefix_append _ rest)
        have hlength : part.length ≤ (c :: inside ++ part.dropLast).length := by
          rw [List.length_append, List.length_cons, List.length_dropLast]
          omega
        exact hfirst (List.prefix_of_prefix_length_le hbegins hshorter hlength).isInfix
      have hlater : ¬ part <:+: inside ++ part.dropLast := fun hoccurs =>
        hfirst (hoccurs.trans (List.suffix_cons c _).isInfix)
      obtain ⟨before, hbefore⟩ := ih hlater (c :: passed)
      refine ⟨before, ?_⟩
      rw [List.cons_append, List.cons_append, splitAtOnto, hafter]
      exact hbefore

/-- A part is dropped with all that stands before its first occurrence. -/
theorem dropThrough_of_first
    {inside : List Char} (hfirst : ¬ part <:+: inside ++ part.dropLast) (rest : List Char) :
    dropThrough part (inside ++ part ++ rest) = rest := by
  obtain ⟨before, hbefore⟩ := exists_splitAtOnto_of_first hfirst [] rest
  rw [dropThrough, splitAt?, hbefore]

theorem dropThrough_suffix (part text : List Char) : dropThrough part text <:+ text := by
  unfold dropThrough
  split
  next hsplit =>
    obtain ⟨inside, -, htext, -⟩ := splitAtOnto_eq_some hsplit
    exact ⟨inside ++ part, htext.symm⟩
  next => exact List.nil_suffix

theorem snd_splitAtOnto_singleton (d : Char) (passed text : List Char) :
    ((splitAtOnto [d] passed text).map Prod.snd).getD [] = (text.dropWhile (· != d)).tail := by
  induction text generalizing passed with
  | nil => rfl
  | cons c text ih =>
      by_cases hc : d = c
      · simp [splitAtOnto, after?, hc]
      · have hnone : after? [d] (c :: text) = none := by simp [after?, hc]
        rw [splitAtOnto, hnone, List.dropWhile_cons_of_pos (by simpa using Ne.symm hc)]
        exact ih (c :: passed)

theorem dropThrough_singleton (d : Char) (text : List Char) :
    dropThrough [d] text = (text.dropWhile (· != d)).tail := by
  rw [← snd_splitAtOnto_singleton d [], dropThrough, splitAt?]
  cases splitAtOnto [d] [] text <;> rfl

theorem dropThrough_cons_of_ne {c d : Char} (hc : c ≠ d) (text : List Char) :
    dropThrough [d] (c :: text) = dropThrough [d] text := by
  rw [dropThrough_singleton, dropThrough_singleton,
    List.dropWhile_cons_of_pos (by simpa using hc)]

/-! ## One character behind -/

variable {d : Char}

theorem after?_concat_eq_none (hd : d ∉ part) (hafter : after? part text = none) :
    after? part (text ++ [d]) = none := by
  rw [Option.eq_none_iff_forall_not_mem] at hafter ⊢
  intro rest hrest
  have htext : text ++ [d] = part ++ rest := after?_eq_some_iff.mp hrest
  rcases List.eq_nil_or_concat rest with rfl | ⟨front, last, rfl⟩
  · rw [List.append_nil] at htext
    exact hd (htext ▸ List.mem_append_right text (List.mem_singleton_self d))
  · rw [List.concat_eq_append, ← List.append_assoc] at htext
    have hfront := (List.append_inj' htext rfl).1
    exact hafter front (after?_eq_some_iff.mpr hfront)

theorem splitAtOnto_concat_eq_none
    (hd : d ∉ part) {passed : List Char} (hsplit : splitAtOnto part passed text = none) :
    splitAtOnto part passed (text ++ [d]) = none := by
  induction text generalizing passed with
  | nil =>
      have hafter : after? part [] = none := Option.map_eq_none_iff.mp hsplit
      have hnone := after?_concat_eq_none hd hafter
      rw [List.nil_append] at hnone
      simp [splitAtOnto, hnone, hafter]
  | cons c text ih =>
      rw [splitAtOnto] at hsplit
      rw [List.cons_append, splitAtOnto, ← List.cons_append]
      split at hsplit
      next => cases hsplit
      next hafter =>
        rw [after?_concat_eq_none hd hafter]
        exact ih hsplit

theorem dropThrough_concat (hd : d ∉ part) (text : List Char) :
    dropThrough part (text ++ [d]) = dropThrough part text ++ [d] ∨
      dropThrough part text = [] ∧ dropThrough part (text ++ [d]) = [] := by
  unfold dropThrough
  cases hsplit : splitAt? part text with
  | none => exact .inr ⟨rfl, by rw [splitAt?, splitAtOnto_concat_eq_none hd hsplit]⟩
  | some split => exact .inl (by rw [splitAt?, splitAtOnto_append hsplit])

/-- A part of one character may itself be the character behind. -/
theorem dropThrough_singleton_concat (sign d : Char) (text : List Char) :
    dropThrough [sign] (text ++ [d]) = dropThrough [sign] text ++ [d] ∨
      dropThrough [sign] text = [] ∧ dropThrough [sign] (text ++ [d]) = [] := by
  rw [dropThrough_singleton, dropThrough_singleton, List.dropWhile_append]
  cases hdrop : text.dropWhile (· != sign) with
  | nil =>
      refine .inr ⟨rfl, ?_⟩
      by_cases hd : d = sign <;> simp [hd]
  | cons c rest => exact .inl rfl

/-! ## Occurrences -/

theorem isSome_splitAtOnto_iff (passed : List Char) :
    (splitAtOnto part passed text).isSome = true ↔ part <:+: text := by
  induction text generalizing passed with
  | nil =>
      rw [splitAtOnto, Option.isSome_map, List.infix_nil]
      cases part <;> simp [after?]
  | cons c text ih =>
      rw [splitAtOnto, List.infix_cons_iff]
      cases hafter : after? part (c :: text) with
      | some rest =>
          have hbegins : part <+: c :: text := ⟨rest, (after?_eq_some_iff.mp hafter).symm⟩
          simp [hbegins]
      | none =>
          have hbegins : ¬ part <+: c :: text := by
            rintro ⟨rest, hrest⟩
            rw [after?_eq_some_iff.mpr hrest.symm] at hafter
            cases hafter
          simp [hbegins, ih]

theorem occursIn_iff : occursIn part text = true ↔ part <:+: text :=
  isSome_splitAtOnto_iff []

theorem infix_around_iff (hd : d ∉ part) {before behind : List Char} :
    part <:+: before ++ d :: behind ↔ part <:+: before ∨ part <:+: behind := by
  constructor
  · intro hoccurs
    rcases List.infix_append_iff.mp hoccurs with hbefore | hbehind | ⟨front, back, rfl, hfront, hback⟩
    · exact .inl hbefore
    · rcases List.infix_cons_iff.mp hbehind with hbegins | hlater
      · rcases List.prefix_cons_iff.mp hbegins with rfl | ⟨more, rfl, -⟩
        · exact .inl List.nil_infix
        · exact absurd List.mem_cons_self hd
      · exact .inr hlater
    · -- An occurrence across the character would hold it.
      rcases List.prefix_cons_iff.mp hback with rfl | ⟨more, rfl, -⟩
      · rw [List.append_nil]
        exact .inl hfront.isInfix
      · exact absurd (List.mem_append_right front List.mem_cons_self) hd
  · rintro (hbefore | hbehind)
    · exact hbefore.trans (List.prefix_append _ _).isInfix
    · exact hbehind.trans ((List.suffix_cons d behind).trans (List.suffix_append _ _)).isInfix

/-! ## The characters of a kind in front -/

variable {keep other : Char → Bool}

theorem takeWhile_append_of_stop (hstop : keep d = false) (text tail : List Char) :
    (text ++ d :: tail).takeWhile keep = text.takeWhile keep := by
  induction text with
  | nil => simp [hstop]
  | cons c text ih => cases hc : keep c <;> simp [hc, ih]

theorem dropWhile_append_of_stop (hstop : keep d = false) (text tail : List Char) :
    (text ++ d :: tail).dropWhile keep = text.dropWhile keep ++ d :: tail := by
  induction text with
  | nil => simp [hstop]
  | cons c text ih => cases hc : keep c <;> simp [hc, ih]

theorem takeWhile_prefix_takeWhile
    (hother : ∀ c, keep c = true → other c = true) (text : List Char) :
    text.takeWhile keep <+: text.takeWhile other := by
  induction text with
  | nil => exact List.prefix_refl _
  | cons c text ih =>
      by_cases hc : keep c = true
      · rw [List.takeWhile_cons_of_pos hc, List.takeWhile_cons_of_pos (hother c hc),
          List.cons_prefix_cons]
        exact ⟨rfl, ih⟩
      · rw [List.takeWhile_cons_of_neg hc]
        exact List.nil_prefix

theorem takeWhile_eq_takeWhile
    (hother : ∀ c ∈ text.takeWhile keep, other c = true)
    (hkeep : ∀ c ∈ text.takeWhile other, keep c = true) :
    text.takeWhile keep = text.takeWhile other := by
  induction text with
  | nil => rfl
  | cons c text ih =>
      cases hc : keep c with
      | true =>
          rw [List.takeWhile_cons_of_pos hc] at hother ⊢
          obtain ⟨hc', hothers⟩ := List.forall_mem_cons.mp hother
          rw [List.takeWhile_cons_of_pos hc'] at hkeep ⊢
          rw [ih hothers (List.forall_mem_cons.mp hkeep).2]
      | false =>
          have hc' : ¬ other c = true := fun hc' => by
            rw [List.takeWhile_cons_of_pos hc'] at hkeep
            rw [hkeep c List.mem_cons_self] at hc
            cases hc
          rw [List.takeWhile_cons_of_neg (by rw [hc]; decide), List.takeWhile_cons_of_neg hc']

theorem dropWhile_eq_dropWhile
    (hkeep : ∀ c, other c = true → keep c = true)
    (hstops : ∀ c ∈ (text.dropWhile other).head?, keep c = false) :
    text.dropWhile keep = text.dropWhile other := by
  induction text with
  | nil => rfl
  | cons c text ih =>
      by_cases hc : other c = true
      · rw [List.dropWhile_cons_of_pos hc] at hstops
        rw [List.dropWhile_cons_of_pos hc, List.dropWhile_cons_of_pos (hkeep c hc), ih hstops]
      · rw [List.dropWhile_cons_of_neg hc] at hstops
        rw [List.dropWhile_cons_of_neg hc, List.dropWhile_cons_of_neg]
        rw [hstops c rfl]
        decide

end SqlPipe.Text
