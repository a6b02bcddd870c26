import SchemaSdl.Proofs.Json.Scanning

/-! Numerals are passed over up to where they stop. -/

namespace SchemaSdl.Json
variable {c : Char} {cs fraction exponent : List Char} {bs tail rest : List UInt8}

theorem isDigit_of_mem_bytes (h : ∀ c ∈ cs, c.isDigit) : ∀ b ∈ bytes cs, isDigit b = true := by
  induction cs with
  | nil => simp
  | cons c cs ih =>
    obtain ⟨hc, hcs⟩ := List.forall_mem_cons.mp h
    obtain ⟨b, hbytes, -, hb⟩ := exists_digit hc
    rw [bytes_cons, hbytes, List.singleton_append, List.forall_mem_cons]
    exact ⟨hb, ih hcs⟩

theorem cut_digits (h : ∀ b ∈ bs, isDigit b = true) (hrest : ∀ b ∈ rest.head?, isDigit b = false) :
    (bs ++ rest).takeWhile isDigit = bs ∧ (bs ++ rest).dropWhile isDigit = rest := by
  rw [List.takeWhile_append_of_pos h, List.dropWhile_append_of_pos h]
  cases rest with
  | nil => simp
  | cons b rest => simp [hrest b rfl]

namespace Reader

theorem takes_skipDigits (h : ∀ c ∈ cs, c.isDigit) (hrest : ∀ b ∈ rest.head?, isDigit b = false) :
    (skipWhile isDigit).Takes (bytes cs ++ rest) () rest := by
  have hdrop := (cut_digits (isDigit_of_mem_bytes h) hrest).2
  refine ⟨by simp, ?_⟩
  simp only [skipWhile, hdrop]

theorem takes_digits (h : ∀ c ∈ cs, c.isDigit) (hrest : ∀ b ∈ rest.head?, isDigit b = false) :
    (takeWhile isDigit).Takes (bytes cs ++ rest) (bytes cs) rest := by
  obtain ⟨htake, hdrop⟩ := cut_digits (isDigit_of_mem_bytes h) hrest
  refine ⟨by simp, ?_⟩
  simp only [takeWhile, htake, hdrop]

/-- An exponent is passed over from its mark on, whether it has a sign or not. -/
theorem takes_skipExponent {mark : Char} {sign : List Char} {m : UInt8} (hm : String.utf8EncodeChar mark = [m])
    (hsign : sign ∈ [[], ['+'], ['-']]) (hdigits : IsDigits cs) (hrest : Stops rest) :
    skipExponent.Takes (bytes (mark :: sign ++ cs) ++ rest) () rest := by
  obtain ⟨hne, hall⟩ := hdigits
  obtain ⟨d, ds, rfl⟩ := List.exists_cons_of_ne_nil hne
  obtain ⟨hd, hds⟩ := List.forall_mem_cons.mp hall
  obtain ⟨b, hbytes, -, hb⟩ := exists_digit hd
  have hrest' : (if isDigit b then skipWhile isDigit else fail .numberBroken : Reader Unit).Takes
      (bytes ds ++ rest) () rest := by
    rw [if_pos hb]
    exact takes_skipDigits hds fun b hb => (hrest b hb).1
  have hfirst : next.Takes (bytes (d :: ds) ++ rest) (some b) (bytes ds ++ rest) := by
    rw [bytes_cons, hbytes, List.append_assoc]
    exact takes_next
  have hhead : (bytes (d :: ds) ++ rest).head? = some b := by
    rw [bytes_cons, hbytes]
    rfl
  rw [bytes_append, bytes_cons, hm, List.append_assoc, List.append_assoc]
  refine takes_skipByte.bind (takes_peek.bind ?_)
  simp only [List.mem_cons, List.not_mem_nil, or_false] at hsign
  rcases hsign with rfl | rfl | rfl
  · split
    · rename_i heq
      obtain rfl := Option.some.inj (hhead.symm.trans heq)
      exact absurd hb (by decide)
    · rename_i heq
      obtain rfl := Option.some.inj (hhead.symm.trans heq)
      exact absurd hb (by decide)
    · exact hfirst.bind hrest'
  · exact takes_skipByte.bind (hfirst.bind hrest')
  · exact takes_skipByte.bind (hfirst.bind hrest')

/-- What stands in front of a rest is an exponent, if there is one. -/
theorem takes_skipExponent? (h : IsExponent exponent) (hrest : Stops rest) :
    (do
      match ← peek with
      | some 0x65 | some 0x45 => skipExponent
      | _ => pure () : Reader Unit).Takes (bytes exponent ++ rest) () rest := by
  refine takes_peek.bind ?_
  cases h with
  | none =>
    split
    · rename_i heq
      exact absurd rfl (hrest _ heq).2.2.1
    · rename_i heq
      exact absurd rfl (hrest _ heq).2.2.2
    · exact takes_pure ()
  | digits hmark hsign hdigits =>
    simp only [List.mem_cons, List.not_mem_nil, or_false] at hmark
    rcases hmark with rfl | rfl
    · exact takes_skipExponent rfl hsign hdigits hrest
    · exact takes_skipExponent rfl hsign hdigits hrest

theorem exponent_not_digit (h : IsExponent exponent) (hrest : Stops rest) :
    ∀ b ∈ (bytes exponent ++ rest).head?, isDigit b = false := by
  intro b hb
  cases h with
  | none => exact (hrest b hb).1
  | digits hmark =>
    simp only [List.mem_cons, List.not_mem_nil, or_false] at hmark
    rcases hmark with rfl | rfl <;> obtain rfl := Option.some.inj hb <;> rfl

theorem fraction_not_digit (hfraction : IsFraction fraction) (hexponent : IsExponent exponent) (hrest : Stops rest) :
    ∀ b ∈ (bytes fraction ++ (bytes exponent ++ rest)).head?, isDigit b = false := by
  intro b hb
  cases hfraction with
  | none => exact exponent_not_digit hexponent hrest b hb
  | digits => obtain rfl := Option.some.inj hb; rfl

theorem takes_skipFraction (hdigits : IsDigits cs) (hexponent : IsExponent exponent) (hrest : Stops rest) :
    skipFraction.Takes (0x2E :: (bytes cs ++ (bytes exponent ++ rest))) () rest := by
  obtain ⟨hne, hall⟩ := hdigits
  obtain ⟨d, ds, rfl⟩ := List.exists_cons_of_ne_nil hne
  obtain ⟨b, hbytes, -, -⟩ := exists_digit (hall d List.mem_cons_self)
  refine takes_skipByte.bind ((takes_digits hall (exponent_not_digit hexponent hrest)).bind ?_)
  rw [bytes_cons, hbytes, List.singleton_append, List.isEmpty_cons, if_neg (by decide)]
  exact takes_skipExponent? hexponent hrest

theorem takes_skipAfterWhole (hfraction : IsFraction fraction) (hexponent : IsExponent exponent) (hrest : Stops rest) :
    skipAfterWhole.Takes (bytes fraction ++ (bytes exponent ++ rest)) () rest := by
  refine takes_peek.bind ?_
  cases hfraction with
  | none =>
    cases hexponent with
    | none =>
      split
      · rename_i heq
        exact absurd rfl (hrest _ heq).2.1
      · rename_i heq
        exact absurd rfl (hrest _ heq).2.2.1
      · rename_i heq
        exact absurd rfl (hrest _ heq).2.2.2
      · exact takes_pure ()
    | digits hmark hsign hdigits =>
      simp only [List.mem_cons, List.not_mem_nil, or_false] at hmark
      rcases hmark with rfl | rfl
      · exact takes_skipExponent rfl hsign hdigits hrest
      · exact takes_skipExponent rfl hsign hdigits hrest
  | digits hdigits => exact takes_skipFraction hdigits hexponent hrest

/-- The whole part of a numeral and what follows it are passed over after the first digit. -/
theorem takes_skipNumber (hwhole : IsWhole (c :: cs)) (hfraction : IsFraction fraction)
    (hexponent : IsExponent exponent) (hrest : Stops rest) :
    ∃ b, String.utf8EncodeChar c = [b] ∧ isDigit b = true ∧
      (skipNumber b).Takes (bytes cs ++ (bytes fraction ++ (bytes exponent ++ rest))) () rest := by
  have hafter := takes_skipAfterWhole hfraction hexponent hrest
  have hboundary := fraction_not_digit hfraction hexponent hrest
  cases hwhole with
  | zero =>
    refine ⟨0x30, rfl, rfl, ?_⟩
    rw [skipNumber, if_pos rfl]
    refine takes_peek.bind ?_
    split
    · rename_i b heq
      rw [if_neg (by rw [hboundary b heq]; decide)]
      exact hafter
    · exact hafter
  | digits hc hne hcs =>
    obtain ⟨b, hbytes, hvalue, hb⟩ := exists_digit hc
    have hzero : b ≠ 0x30 := by
      rintro rfl
      exact hne (by rw [← Char.ofNat_toNat c, ← hvalue]; rfl)
    refine ⟨b, hbytes, hb, ?_⟩
    rw [skipNumber, if_neg hzero, if_pos hb]
    exact (takes_skipDigits hcs hboundary).bind hafter

end Reader
end SchemaSdl.Json
