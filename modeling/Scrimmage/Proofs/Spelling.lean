import Mathlib
import Scrimmage.Text.Utf8

namespace Scrimmage.Text.Utf8

theorem toNat_ofNat_of_isValidChar {n : Nat} (valid : n.isValidChar) : (Char.ofNat n).toNat = n := by
  rw [Char.ofNat, dif_pos valid]
  rfl

theorem isValidChar_toNat (c : Char) : c.toNat.isValidChar := c.valid

theorem ofNat_eq_of_toNat {n : Nat} {b : UInt8} (same : n = b.toNat) : UInt8.ofNat n = b := by
  rw [same, UInt8.ofNat_toNat]

theorem isContinuation_iff {b : UInt8} : isContinuation b = true ↔ 0x80 ≤ b.toNat ∧ b.toNat ≤ 0xBF := by
  simp [isContinuation, UInt8.le_iff_toNat_le]

theorem isSecond_iff {a b : UInt8} :
    isSecond a b = true ↔ (0x80 ≤ b.toNat ∧ b.toNat ≤ 0xBF) ∧ (a.toNat = 0xE0 → 0xA0 ≤ b.toNat) ∧
      (a.toNat = 0xED → b.toNat ≤ 0x9F) ∧ (a.toNat = 0xF0 → 0x90 ≤ b.toNat) ∧
      (a.toNat = 0xF4 → b.toNat ≤ 0x8F) := by
  simp only [isSecond, Bool.and_eq_true, Bool.or_eq_true, isContinuation_iff, bne_iff_ne, decide_eq_true_eq,
    UInt8.le_iff_toNat_le, ne_eq, ← UInt8.toNat_inj, UInt8.reduceToNat]
  omega

theorem width_eq_zero_iff {a : UInt8} : width a = some 0 ↔ a.toNat < 0x80 := by
  simp only [width, UInt8.lt_iff_toNat_lt, UInt8.reduceToNat]
  split_ifs <;> simp <;> omega

theorem width_eq_one_iff {a : UInt8} : width a = some 1 ↔ 0xC2 ≤ a.toNat ∧ a.toNat < 0xE0 := by
  simp only [width, UInt8.lt_iff_toNat_lt, UInt8.reduceToNat]
  split_ifs <;> simp <;> omega

theorem width_eq_two_iff {a : UInt8} : width a = some 2 ↔ 0xE0 ≤ a.toNat ∧ a.toNat < 0xF0 := by
  simp only [width, UInt8.lt_iff_toNat_lt, UInt8.reduceToNat]
  split_ifs <;> simp <;> omega

theorem width_eq_three_iff {a : UInt8} : width a = some 3 ↔ 0xF0 ≤ a.toNat ∧ a.toNat < 0xF5 := by
  simp only [width, UInt8.lt_iff_toNat_lt, UInt8.reduceToNat]
  split_ifs <;> simp <;> omega

theorem encodeChar_one {c : Char} (below : c.toNat < 0x80) : encodeChar c = [.ofNat c.toNat] := by
  simp only [encodeChar, if_pos below]

theorem encodeChar_two {c : Char} (above : 0x80 ≤ c.toNat) (below : c.toNat < 0x800) :
    encodeChar c = [.ofNat (0xC0 + c.toNat / 64), .ofNat (0x80 + c.toNat % 64)] := by
  simp only [encodeChar, if_neg (Nat.not_lt.mpr above), if_pos below]

theorem encodeChar_three {c : Char} (above : 0x800 ≤ c.toNat) (below : c.toNat < 0x10000) :
    encodeChar c =
      [.ofNat (0xE0 + c.toNat / 4096), .ofNat (0x80 + c.toNat / 64 % 64), .ofNat (0x80 + c.toNat % 64)] := by
  have least : ¬c.toNat < 0x80 := by omega
  simp only [encodeChar, if_neg least, if_neg (Nat.not_lt.mpr above), if_pos below]

theorem encodeChar_four {c : Char} (above : 0x10000 ≤ c.toNat) :
    encodeChar c =
      [.ofNat (0xF0 + c.toNat / 262144), .ofNat (0x80 + c.toNat / 4096 % 64), .ofNat (0x80 + c.toNat / 64 % 64),
        .ofNat (0x80 + c.toNat % 64)] := by
  have least : ¬c.toNat < 0x80 := by omega
  have less : ¬c.toNat < 0x800 := by omega
  simp only [encodeChar, if_neg least, if_neg less, if_neg (Nat.not_lt.mpr above)]

theorem encodeChar_large {c : Char} (above : 0x80 ≤ c.toNat) : ∀ b ∈ encodeChar c, 0x80 ≤ b.toNat := by
  have valid := isValidChar_toNat c
  rw [Nat.isValidChar] at valid
  have octet : ∀ {n}, 0x80 ≤ n → n < 256 → 0x80 ≤ (UInt8.ofNat n).toNat := by
    intro n large small
    rw [UInt8.toNat_ofNat']
    omega
  rw [encodeChar]
  simp only [if_neg (Nat.not_lt.mpr above)]
  split
  · simp only [List.forall_mem_cons]
    exact ⟨octet (by omega) (by omega), octet (by omega) (by omega), nofun⟩
  split
  · simp only [List.forall_mem_cons]
    exact ⟨octet (by omega) (by omega), octet (by omega) (by omega), octet (by omega) (by omega), nofun⟩
  · simp only [List.forall_mem_cons]
    exact ⟨octet (by omega) (by omega), octet (by omega) (by omega), octet (by omega) (by omega),
      octet (by omega) (by omega), nofun⟩

theorem isContinuation_eq_false {b : UInt8} (small : b.toNat < 0x80) : isContinuation b = false := by
  rw [← Bool.not_eq_true, isContinuation_iff]
  omega

/-- A character begins with an octet that continues none, and its other octets continue it. -/
theorem encodeChar_eq_cons (c : Char) : ∃ b more, encodeChar c = b :: more ∧
    isContinuation b = false ∧ ∀ o ∈ more, isContinuation o = true := by
  have valid := isValidChar_toNat c
  rw [Nat.isValidChar] at valid
  have first : ∀ {n}, 0xC0 ≤ n → n < 256 → isContinuation (.ofNat n) = false := by
    intro n large small
    rw [← Bool.not_eq_true, isContinuation_iff, UInt8.toNat_ofNat']
    omega
  have other : ∀ {n}, n < 64 → isContinuation (.ofNat (0x80 + n)) = true := by
    intro n small
    rw [isContinuation_iff, UInt8.toNat_ofNat']
    omega
  rcases Nat.lt_or_ge c.toNat 0x80 with below | above
  · refine ⟨_, _, encodeChar_one below, isContinuation_eq_false ?_, nofun⟩
    rw [UInt8.toNat_ofNat']
    omega
  rcases Nat.lt_or_ge c.toNat 0x800 with below | above
  · refine ⟨_, _, encodeChar_two above below, first (by omega) (by omega), ?_⟩
    simp only [List.forall_mem_cons]
    exact ⟨other (by omega), nofun⟩
  rcases Nat.lt_or_ge c.toNat 0x10000 with below | above
  · refine ⟨_, _, encodeChar_three above below, first (by omega) (by omega), ?_⟩
    simp only [List.forall_mem_cons]
    exact ⟨other (by omega), other (by omega), nofun⟩
  · refine ⟨_, _, encodeChar_four above, first (by omega) (by omega), ?_⟩
    simp only [List.forall_mem_cons]
    exact ⟨other (by omega), other (by omega), other (by omega), nofun⟩

theorem encodeChar_of_one {a : UInt8} (opens : width a = some 0) : encodeChar (Char.ofNat a.toNat) = [a] := by
  rw [width_eq_zero_iff] at opens
  have number := toNat_ofNat_of_isValidChar (n := a.toNat) (Or.inl (by omega))
  rw [encodeChar_one (by omega), number, UInt8.ofNat_toNat]

theorem encodeChar_of_two {a b : UInt8} (opens : width a = some 1) (second : isContinuation b = true) :
    encodeChar (Char.ofNat (append (a.toNat % 32) b)) = [a, b] := by
  rw [width_eq_one_iff] at opens
  rw [isContinuation_iff] at second
  have number := toNat_ofNat_of_isValidChar (n := append (a.toNat % 32) b) (Or.inl (by rw [append]; omega))
  rw [append] at number ⊢
  rw [encodeChar_two (by omega) (by omega), ofNat_eq_of_toNat (b := a) (by omega),
    ofNat_eq_of_toNat (b := b) (by omega)]

theorem encodeChar_of_three {a b c : UInt8} (opens : width a = some 2) (second : isSecond a b = true)
    (third : isContinuation c = true) :
    encodeChar (Char.ofNat (append (append (a.toNat % 16) b) c)) = [a, b, c] := by
  rw [width_eq_two_iff] at opens
  rw [isSecond_iff] at second
  rw [isContinuation_iff] at third
  have number := toNat_ofNat_of_isValidChar (n := append (append (a.toNat % 16) b) c)
    (by simp only [Nat.isValidChar, append]; omega)
  simp only [append] at number ⊢
  rw [encodeChar_three (by omega) (by omega), ofNat_eq_of_toNat (b := a) (by omega),
    ofNat_eq_of_toNat (b := b) (by omega), ofNat_eq_of_toNat (b := c) (by omega)]

theorem encodeChar_of_four {a b c d : UInt8} (opens : width a = some 3) (second : isSecond a b = true)
    (third : isContinuation c = true) (fourth : isContinuation d = true) :
    encodeChar (Char.ofNat (append (append (append (a.toNat % 8) b) c) d)) = [a, b, c, d] := by
  rw [width_eq_three_iff] at opens
  rw [isSecond_iff] at second
  rw [isContinuation_iff] at third fourth
  have number := toNat_ofNat_of_isValidChar (n := append (append (append (a.toNat % 8) b) c) d)
    (by simp only [Nat.isValidChar, append]; omega)
  simp only [append] at number ⊢
  rw [encodeChar_four (by omega), ofNat_eq_of_toNat (b := a) (by omega), ofNat_eq_of_toNat (b := b) (by omega),
    ofNat_eq_of_toNat (b := c) (by omega), ofNat_eq_of_toNat (b := d) (by omega)]

theorem encode_cons (c : Char) (cs : List Char) : encode (c :: cs) = encodeChar c ++ encode cs :=
  List.flatMap_cons

theorem encode_append (cs ds : List Char) : encode (cs ++ ds) = encode cs ++ encode ds := List.flatMap_append

section

variable (index : Nat) {a b c d : UInt8} (rest : List UInt8)

theorem decodeFrom_one (opens : width a = some 0) :
    decodeFrom index (a :: rest) = (decodeFrom (index + 1) rest).map (Char.ofNat a.toNat :: ·) := by
  conv_lhs => unfold decodeFrom
  simp only [opens]

theorem decodeFrom_two (opens : width a = some 1) (second : isContinuation b = true) :
    decodeFrom index (a :: b :: rest) =
      (decodeFrom (index + 2) rest).map (Char.ofNat (append (a.toNat % 32) b) :: ·) := by
  conv_lhs => unfold decodeFrom
  simp only [opens, second, if_true]

theorem decodeFrom_three (opens : width a = some 2) (second : isSecond a b = true)
    (third : isContinuation c = true) :
    decodeFrom index (a :: b :: c :: rest) =
      (decodeFrom (index + 3) rest).map (Char.ofNat (append (append (a.toNat % 16) b) c) :: ·) := by
  conv_lhs => unfold decodeFrom
  simp only [opens, second, third, if_true]

theorem decodeFrom_four (opens : width a = some 3) (second : isSecond a b = true)
    (third : isContinuation c = true) (fourth : isContinuation d = true) :
    decodeFrom index (a :: b :: c :: d :: rest) =
      (decodeFrom (index + 4) rest).map
        (Char.ofNat (append (append (append (a.toNat % 8) b) c) d) :: ·) := by
  conv_lhs => unfold decodeFrom
  simp only [opens, second, third, fourth, if_true]

end

theorem map_eq_ok {ε α β : Type} {f : α → β} {x : Except ε α} {b : β} (done : x.map f = .ok b) :
    ∃ a, x = .ok a ∧ b = f a := by
  cases x with
  | error => cases done
  | ok a => exact ⟨a, rfl, (Except.ok.inj done).symm⟩

/-- Octets that are read as characters are what the characters are written as. -/
theorem encode_of_decodeFrom {index : Nat} {octets : List UInt8} {cs : List Char}
    (read : decodeFrom index octets = .ok cs) : encode cs = octets := by
  induction index, octets using decodeFrom.induct generalizing cs with
  | case1 =>
    rw [decodeFrom] at read
    cases read
    rfl
  | case3 index a rest opens ih =>
    rw [decodeFrom_one index rest opens] at read
    obtain ⟨more, later, rfl⟩ := map_eq_ok read
    rw [encode_cons, encodeChar_of_one opens, ih later, List.singleton_append]
  | case5 index a opens b rest second ih =>
    rw [decodeFrom_two index rest opens second] at read
    obtain ⟨more, later, rfl⟩ := map_eq_ok read
    rw [encode_cons, encodeChar_of_two opens second, ih later]
    rfl
  | case9 index a opens b second c rest third ih =>
    rw [decodeFrom_three index rest opens second third] at read
    obtain ⟨more, later, rfl⟩ := map_eq_ok read
    rw [encode_cons, encodeChar_of_three opens second third, ih later]
    rfl
  | case15 index a opens b second c third d rest fourth ih =>
    rw [decodeFrom_four index rest opens second third fourth] at read
    obtain ⟨more, later, rfl⟩ := map_eq_ok read
    rw [encode_cons, encodeChar_of_four opens second third fourth, ih later]
    rfl
  | _ =>
    unfold decodeFrom at read
    simp [*] at read

/-- The octets that are read as some characters are the octets that these characters are written as. With
`decodeFrom_encode`, which says that whatever is written is read back, reading and writing UTF-8 are inverse to
each other. -/
theorem encode_of_decode {octets : List UInt8} {cs : List Char} (read : decode octets = .ok cs) :
    encode cs = octets :=
  encode_of_decodeFrom read

theorem decodeFrom_encodeChar (index : Nat) (c : Char) (rest : List UInt8) :
    decodeFrom index (encodeChar c ++ rest) =
      (decodeFrom (index + (encodeChar c).length) rest).map (c :: ·) := by
  have valid := isValidChar_toNat c
  rw [Nat.isValidChar] at valid
  have read : ∀ {n}, n = c.toNat → Char.ofNat n = c := fun same => same ▸ Char.ofNat_toNat c
  have octet : ∀ {n}, n < 256 → (UInt8.ofNat n).toNat = n := fun small => UInt8.toNat_ofNat_of_lt small
  rcases Nat.lt_or_ge c.toNat 0x80 with below | above
  · have opens : width (.ofNat c.toNat) = some 0 := width_eq_zero_iff.mpr (by rw [octet (by omega)]; omega)
    rw [encodeChar_one below]
    refine (decodeFrom_one index rest opens).trans ?_
    rw [octet (by omega), read rfl]
    rfl
  rcases Nat.lt_or_ge c.toNat 0x800 with below | above
  · rw [encodeChar_two above below]
    refine (decodeFrom_two index rest (width_eq_one_iff.mpr ?_) (isContinuation_iff.mpr ?_)).trans ?_
    · rw [octet (by omega)]
      omega
    · rw [octet (by omega)]
      omega
    · rw [append, octet (by omega), octet (by omega), read (by omega)]
      rfl
  rcases Nat.lt_or_ge c.toNat 0x10000 with below | above
  · rw [encodeChar_three above below]
    refine (decodeFrom_three index rest (width_eq_two_iff.mpr ?_) (isSecond_iff.mpr ?_)
      (isContinuation_iff.mpr ?_)).trans ?_
    · rw [octet (by omega)]
      omega
    · rw [octet (by omega), octet (by omega)]
      omega
    · rw [octet (by omega)]
      omega
    · rw [append, append, octet (by omega), octet (by omega), octet (by omega), read (by omega)]
      rfl
  · rw [encodeChar_four above]
    refine (decodeFrom_four index rest (width_eq_three_iff.mpr ?_) (isSecond_iff.mpr ?_)
      (isContinuation_iff.mpr ?_) (isContinuation_iff.mpr ?_)).trans ?_
    · rw [octet (by omega)]
      omega
    · rw [octet (by omega), octet (by omega)]
      omega
    · rw [octet (by omega)]
      omega
    · rw [octet (by omega)]
      omega
    · rw [append, append, append, octet (by omega), octet (by omega), octet (by omega), octet (by omega),
        read (by omega)]
      rfl

theorem decodeFrom_encode (index : Nat) (cs : List Char) : decodeFrom index (encode cs) = .ok cs := by
  induction cs generalizing index with
  | nil => rw [encode, List.flatMap_nil, decodeFrom]
  | cons c cs ih =>
    rw [encode_cons, decodeFrom_encodeChar, ih]
    rfl

theorem readString_encode (cs : List Char) : readString (encode cs) = .ok (String.ofList cs) := by
  rw [readString, decode, decodeFrom_encode]
  rfl

end Scrimmage.Text.Utf8
