/-
  AsyncViz.Lib.Json.Fuel

  Whatever is read is shorter than the text it is read from, so the reader never runs out of fuel
  that is more than twice its length.
-/

import AsyncViz.Lib.Json.Value

namespace AsyncViz.Lib.Json

variable {F : Type} {fmt : FloatFormat F}

theorem push_eq_some {α : Type} {x : α} {read : Option (List α × Text)} {xs : List α}
    {rest : Text} : push x read = some (xs, rest) ↔ ∃ ys, read = some (ys, rest) ∧ xs = x :: ys := by
  cases read with
  | none => simp [push]
  | some read =>
    obtain ⟨ys, rest'⟩ := read
    simp only [push, Option.map_some, Option.some.injEq, Prod.mk.injEq]
    constructor
    · rintro ⟨rfl, rfl⟩
      exact ⟨ys, ⟨rfl, rfl⟩, rfl⟩
    · rintro ⟨zs, ⟨rfl, rfl⟩, rfl⟩
      exact ⟨rfl, rfl⟩

/-! ## What is read is gone -/

theorem length_readUnits (input : Text) : ∀ {units : List (Nat × Bool)} {rest : Text},
    readUnits input = some (units, rest) → rest.length < input.length := by
  fun_induction readUnits input with
  | case1 => exact fun h => by cases h
  | case2 =>
    intro units rest h
    cases h
    exact Nat.lt_succ_self _
  | case3 => exact fun h => by cases h
  | case4 => exact fun h => by cases h
  | case5 a b c d behind unit _ _ ih =>
    intro units rest h
    obtain ⟨units', h', -⟩ := push_eq_some.mp h
    have hlt := ih h'
    simp only [List.length_cons]
    omega
  | case6 => exact fun h => by cases h
  | case7 => exact fun h => by cases h
  | case8 e behind _ unit _ _ ih =>
    intro units rest h
    obtain ⟨units', h', -⟩ := push_eq_some.mp h
    have hlt := ih h'
    simp only [List.length_cons]
    omega
  | case9 => exact fun h => by cases h
  | case10 c behind _ _ _ ih =>
    intro units rest h
    obtain ⟨units', h', -⟩ := push_eq_some.mp h
    have hlt := ih h'
    simp only [List.length_cons]
    omega

theorem length_readString {input s rest : Text} (h : readString input = some (s, rest)) :
    rest.length < input.length := by
  obtain ⟨⟨units, rest'⟩, hread, heq⟩ := Option.map_eq_some_iff.mp h
  cases heq
  exact length_readUnits input hread

theorem length_readMinus_le (input : Text) : (readMinus input).2.length ≤ input.length := by
  cases input with
  | nil => exact le_refl _
  | cons c rest =>
    rw [readMinus]
    split
    · exact Nat.le_succ _
    · exact le_refl _

theorem length_readWhole {input rest : Text} {whole : List Nat}
    (h : readWhole input = some (whole, rest)) : rest.length < input.length := by
  cases input with
  | nil => cases h
  | cons c tail =>
    rw [readWhole] at h
    split at h
    · cases h
      exact Nat.lt_succ_self _
    · cases htake : takeDigits (c :: tail) with
      | mk digits behind =>
        rw [htake] at h
        cases digits with
        | nil => cases h
        | cons d digits =>
          cases h
          -- There is a first digit, and it is gone.
          have hfirst : isDigit c = true := by
            by_contra hno
            have hnone := congrArg Prod.fst htake
            simp [takeDigits, hno] at hnone
          have hrest : tail.dropWhile isDigit = rest := by
            have hbehind := congrArg Prod.snd htake
            simpa [takeDigits, hfirst] using hbehind
          rw [← hrest, List.length_cons]
          exact Nat.lt_succ_of_le (List.dropWhile_suffix _).length_le

theorem length_readFraction_le (input : Text) : (readFraction input).2.length ≤ input.length := by
  cases input with
  | nil => exact le_refl _
  | cons c rest =>
    have hle := length_takeDigits_le rest
    rw [readFraction]
    split
    · split
      · exact le_refl _
      · rename_i digits rest' _ heq
        rw [heq] at hle
        exact Nat.le_succ_of_le hle
    · exact le_refl _

theorem length_readExponentSign_le (input : Text) :
    (readExponentSign input).2.length ≤ input.length := by
  cases input with
  | nil => exact le_refl _
  | cons c rest =>
    rw [readExponentSign]
    split
    · exact Nat.le_succ _
    · split
      · exact Nat.le_succ _
      · exact le_refl _

theorem length_readExponent_le (input : Text) : (readExponent input).2.length ≤ input.length := by
  cases input with
  | nil => exact le_refl _
  | cons c rest =>
    have hle := (length_takeDigits_le (readExponentSign rest).2).trans
      (length_readExponentSign_le rest)
    rw [readExponent]
    split
    · split
      · exact le_refl _
      · rename_i digits rest' _ heq
        rw [heq] at hle
        exact Nat.le_succ_of_le hle
    · exact le_refl _

theorem length_readDecimal {input rest : Text} {d : Decimal}
    (h : readDecimal input = some (d, rest)) : rest.length < input.length := by
  unfold readDecimal at h
  cases hwhole : readWhole (readMinus input).2 with
  | none => rw [hwhole] at h; cases h
  | some read =>
    obtain ⟨whole, rest'⟩ := read
    rw [hwhole] at h
    cases h
    have hminus := length_readMinus_le input
    have hlt := length_readWhole hwhole
    have hfraction := length_readFraction_le rest'
    have hexponent := length_readExponent_le (readFraction rest').2
    omega

theorem length_readKeyword {input rest : Text} {v : JsonValue F}
    (h : readKeyword input = some (v, rest)) : rest.length < input.length := by
  obtain ⟨entry, hfind, heq⟩ := Option.map_eq_some_iff.mp h
  cases heq
  have hfound : entry.1.isPrefixOf input = true :=
    List.find?_some (p := fun entry : Text × JsonValue F => entry.1.isPrefixOf input) hfind
  have hprefix : entry.1 <+: input := List.isPrefixOf_iff_prefix.mp hfound
  have hpos : ∀ entry ∈ (keywords : List (Text × JsonValue F)), 0 < entry.1.length := by
    intro entry hentry
    simp only [keywords, List.mem_cons, List.not_mem_nil, or_false] at hentry
    rcases hentry with rfl | rfl | rfl | rfl | rfl | rfl <;> exact Nat.succ_pos _
  have hword := hpos entry (List.mem_of_find?_eq_some hfind)
  have hle := hprefix.length_le
  rw [List.length_drop]
  omega

theorem length_readAtom {input rest : Text} {v : JsonValue F}
    (h : readAtom fmt input = some (v, rest)) : rest.length < input.length := by
  unfold readAtom at h
  split at h
  · rename_i read hkeyword
    rw [h] at hkeyword
    exact length_readKeyword hkeyword
  · obtain ⟨⟨d, rest'⟩, hread, heq⟩ := Option.map_eq_some_iff.mp h
    cases heq
    exact length_readDecimal hread

theorem length_readKey {input key rest : Text} (h : readKey input = some (key, rest)) :
    rest.length < input.length := by
  cases input with
  | nil => cases h
  | cons c tail =>
    rw [readKey] at h
    split at h
    · cases hread : readString tail with
      | none => rw [hread] at h; cases h
      | some read =>
        obtain ⟨s, behind⟩ := read
        rw [hread] at h
        dsimp only at h
        have hstring := length_readString hread
        have hskip := length_skip_le behind
        generalize skip behind = skipped at h hskip
        cases skipped with
        | nil => cases h
        | cons c' behind' =>
          dsimp only at h
          split at h
          · cases h
            have hskip' := length_skip_le behind'
            simp only [List.length_cons] at hskip ⊢
            omega
          · cases h
    · cases h

mutual

theorem length_readValue : ∀ (fuel : Nat) {input rest : Text} {v : JsonValue F},
    readValue fmt fuel input = some (v, rest) → rest.length < input.length
  | 0, _, _, _, h => by
    rw [readValue] at h
    cases h
  | fuel + 1, [], _, _, h => by
    rw [readValue] at h
    cases h
  | fuel + 1, c :: tail, rest, v, h => by
    rw [readValue] at h
    have hskip := length_skip_le tail
    split at h
    · obtain ⟨⟨s, rest'⟩, hread, heq⟩ := Option.map_eq_some_iff.mp h
      cases heq
      exact Nat.lt_succ_of_lt (length_readString hread)
    split at h
    · generalize skip tail = skipped at h hskip
      cases skipped with
      | nil => cases h
      | cons c' behind =>
        dsimp only at h
        split at h
        · cases h
          simp only [List.length_cons] at hskip ⊢
          omega
        · obtain ⟨⟨items, rest'⟩, hread, heq⟩ := Option.map_eq_some_iff.mp h
          cases heq
          have hlt := length_readItems fuel hread
          simp only [List.length_cons] at hskip hlt ⊢
          omega
    split at h
    · generalize skip tail = skipped at h hskip
      cases skipped with
      | nil => cases h
      | cons c' behind =>
        dsimp only at h
        split at h
        · cases h
          simp only [List.length_cons] at hskip ⊢
          omega
        · obtain ⟨⟨entries, rest'⟩, hread, heq⟩ := Option.map_eq_some_iff.mp h
          cases heq
          have hlt := length_readEntries fuel hread
          simp only [List.length_cons] at hskip hlt ⊢
          omega
    · exact length_readAtom h

theorem length_readItems : ∀ (fuel : Nat) {input rest : Text} {items : List (JsonValue F)},
    readItems fmt fuel input = some (items, rest) → rest.length < input.length
  | 0, _, _, _, h => by
    rw [readItems] at h
    cases h
  | fuel + 1, input, rest, items, h => by
    rw [readItems] at h
    cases hvalue : readValue fmt fuel input with
    | none => rw [hvalue] at h; cases h
    | some read =>
      obtain ⟨v, behind⟩ := read
      have hlt := length_readValue fuel hvalue
      have hskip := length_skip_le behind
      rw [hvalue] at h
      dsimp only at h
      generalize skip behind = skipped at h hskip
      cases skipped with
      | nil => cases h
      | cons c behind' =>
        dsimp only at h
        split at h
        · cases h
          simp only [List.length_cons] at hskip
          omega
        split at h
        · obtain ⟨items', hread, -⟩ := push_eq_some.mp h
          have hlt' := length_readItems fuel hread
          have hskip' := length_skip_le behind'
          simp only [List.length_cons] at hskip
          omega
        · cases h

theorem length_readEntries : ∀ (fuel : Nat) {input rest : Text}
    {entries : List (Text × JsonValue F)},
    readEntries fmt fuel input = some (entries, rest) → rest.length < input.length
  | 0, _, _, _, h => by
    rw [readEntries] at h
    cases h
  | fuel + 1, input, rest, entries, h => by
    rw [readEntries] at h
    cases hkey : readKey input with
    | none => rw [hkey] at h; cases h
    | some keyed =>
      obtain ⟨key, colon⟩ := keyed
      have hlt := length_readKey hkey
      rw [hkey] at h
      dsimp only at h
      cases hvalue : readValue fmt fuel colon with
      | none => rw [hvalue] at h; cases h
      | some read =>
        obtain ⟨v, behind⟩ := read
        have hlt' := length_readValue fuel hvalue
        have hskip := length_skip_le behind
        rw [hvalue] at h
        dsimp only at h
        generalize skip behind = skipped at h hskip
        cases skipped with
        | nil => cases h
        | cons c behind' =>
          dsimp only at h
          split at h
          · cases h
            simp only [List.length_cons] at hskip
            omega
          split at h
          · obtain ⟨entries', hread, -⟩ := push_eq_some.mp h
            have hlt'' := length_readEntries fuel hread
            have hskip' := length_skip_le behind'
            simp only [List.length_cons] at hskip
            omega
          · cases h

end

/-! ## More fuel changes nothing -/

mutual

/-- The reader does not depend on fuel that its text cannot use up. -/
theorem readValue_fuel : ∀ (fuel fuel' : Nat) (input : Text), 2 * input.length + 1 ≤ fuel →
    2 * input.length + 1 ≤ fuel' → readValue fmt fuel input = readValue fmt fuel' input
  | 0, _, _, hfuel, _ => by omega
  | _ + 1, 0, _, _, hfuel' => by omega
  | _ + 1, _ + 1, [], _, _ => by rw [readValue, readValue]
  | fuel + 1, fuel' + 1, c :: tail, hfuel, hfuel' => by
    have hskip := length_skip_le tail
    rw [readValue, readValue]
    generalize skip tail = skipped at hskip
    cases skipped with
    | nil => rfl
    | cons c' behind =>
      simp only [List.length_cons] at hfuel hfuel' hskip
      dsimp only
      rw [readItems_fuel fuel fuel' (c' :: behind) (by simp only [List.length_cons]; omega)
        (by simp only [List.length_cons]; omega),
        readEntries_fuel fuel fuel' (c' :: behind) (by simp only [List.length_cons]; omega)
        (by simp only [List.length_cons]; omega)]

theorem readItems_fuel : ∀ (fuel fuel' : Nat) (input : Text), 2 * input.length + 2 ≤ fuel →
    2 * input.length + 2 ≤ fuel' → readItems fmt fuel input = readItems fmt fuel' input
  | 0, _, _, hfuel, _ => by omega
  | _ + 1, 0, _, _, hfuel' => by omega
  | fuel + 1, fuel' + 1, input, hfuel, hfuel' => by
    rw [readItems, readItems, readValue_fuel fuel fuel' input (by omega) (by omega)]
    cases hvalue : readValue fmt fuel' input with
    | none => rfl
    | some read =>
      obtain ⟨v, behind⟩ := read
      have hlt := length_readValue fuel' hvalue
      have hskip := length_skip_le behind
      dsimp only
      generalize skip behind = skipped at hskip
      cases skipped with
      | nil => rfl
      | cons c behind' =>
        have hskip' := length_skip_le behind'
        simp only [List.length_cons] at hskip
        dsimp only
        rw [readItems_fuel fuel fuel' (skip behind') (by omega) (by omega)]

theorem readEntries_fuel : ∀ (fuel fuel' : Nat) (input : Text), 2 * input.length + 2 ≤ fuel →
    2 * input.length + 2 ≤ fuel' → readEntries fmt fuel input = readEntries fmt fuel' input
  | 0, _, _, hfuel, _ => by omega
  | _ + 1, 0, _, _, hfuel' => by omega
  | fuel + 1, fuel' + 1, input, hfuel, hfuel' => by
    rw [readEntries, readEntries]
    cases hkey : readKey input with
    | none => rfl
    | some keyed =>
      obtain ⟨key, colon⟩ := keyed
      have hlt := length_readKey hkey
      dsimp only
      rw [readValue_fuel fuel fuel' colon (by omega) (by omega)]
      cases hvalue : readValue fmt fuel' colon with
      | none => rfl
      | some read =>
        obtain ⟨v, behind⟩ := read
        have hlt' := length_readValue fuel' hvalue
        have hskip := length_skip_le behind
        dsimp only
        generalize skip behind = skipped at hskip
        cases skipped with
        | nil => rfl
        | cons c behind' =>
          have hskip' := length_skip_le behind'
          simp only [List.length_cons] at hskip
          dsimp only
          rw [readEntries_fuel fuel fuel' (skip behind') (by omega) (by omega)]

end

/-- `loads` with any fuel that its text cannot use up. -/
theorem loads_fuel (fuel : Nat) (input : Text) (hfuel : 2 * input.length + 1 ≤ fuel) :
    loads fmt input = (readValue fmt fuel (skip input)).bind fun read =>
      if skip read.2 = [] then some read.1 else none := by
  have hskip := length_skip_le input
  rw [loads, readValue_fuel _ fuel (skip input) (by omega) (by omega)]
  cases readValue fmt fuel (skip input) <;> rfl

end AsyncViz.Lib.Json
