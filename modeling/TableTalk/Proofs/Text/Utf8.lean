import Mathlib.Data.List.Basic
import TableTalk.Text.Utf8

/-! Text in UTF-8. The bytes of a text are read back as the text, and each ASCII character is one of
them. -/
namespace TableTalk.Text.Utf8

theorem encode_append (s t : List Char) : encode (s ++ t) = encode s ++ encode t :=
  List.flatMap_append

theorem encode_cons_ascii {c : Char} (h : c.toNat < 128) (rest : List Char) :
    encode (c :: rest) = UInt8.ofNat c.toNat :: encode rest := by
  simp [encode, encodeChar, h]

theorem encode_ascii {s : List Char} (h : ∀ c ∈ s, c.toNat < 128) :
    encode s = s.map (fun c => UInt8.ofNat c.toNat) := by
  induction s with
  | nil => rfl
  | cons c rest ih =>
    rw [List.forall_mem_cons] at h
    rw [encode_cons_ascii h.1, ih h.2, List.map_cons]

theorem length_encode_ascii {s : List Char} (h : ∀ c ∈ s, c.toNat < 128) :
    (encode s).length = s.length := by
  rw [encode_ascii h, List.length_map]

theorem toNat_ofNat_ascii {c : Char} (h : c.toNat < 128) :
    (UInt8.ofNat c.toNat).toNat = c.toNat := by
  rw [UInt8.toNat_ofNat']
  omega

theorem lt_of_mem_encode {s : List Char} (h : ∀ c ∈ s, c.toNat < 128) :
    ∀ byte ∈ encode s, byte.toNat < 128 := by
  rw [encode_ascii h, List.forall_mem_map]
  intro c hc
  rw [toNat_ofNat_ascii (h c hc)]
  exact h c hc

theorem toNat_further {m : Nat} (hm : m < 64) : (UInt8.ofNat (0x80 + m)).toNat = 0x80 + m := by
  rw [UInt8.toNat_ofNat']
  omega

/-- The last byte of a character gives the character. -/
theorem decodeFrom_last {o : Open} {m : Nat} (hfurther : o.further = 0) (hlow : o.low ≤ 0x80 + m)
    (hhigh : 0x80 + m ≤ o.high) (hm : m < 64) (position : Nat) (read : List Char)
    (rest : List UInt8) :
    decodeFrom position (some o) read (UInt8.ofNat (0x80 + m) :: rest) =
      decodeFrom (position + 1) none (Char.ofNat (64 * o.code + m) :: read) rest := by
  have hextend : o.extend? (UInt8.ofNat (0x80 + m)) =
      some (.inl (Char.ofNat (64 * o.code + m))) := by
    simp only [Open.extend?, toNat_further hm, hfurther, Nat.add_sub_cancel_left]
    rw [if_pos ⟨hlow, hhigh⟩]
  simp only [decodeFrom, hextend]

/-- A byte in a character leaves one byte less to come, and that one may be any. -/
theorem decodeFrom_further {o : Open} {further m : Nat} (hfurther : o.further = further + 1)
    (hlow : o.low ≤ 0x80 + m) (hhigh : 0x80 + m ≤ o.high) (hm : m < 64) (position : Nat)
    (read : List Char) (rest : List UInt8) :
    decodeFrom position (some o) read (UInt8.ofNat (0x80 + m) :: rest) =
      decodeFrom (position + 1) (some { o with
        taken := o.taken + 1, further, low := 0x80, high := 0xBF, code := 64 * o.code + m })
        read rest := by
  have hextend : o.extend? (UInt8.ofNat (0x80 + m)) = some (.inr { o with
      taken := o.taken + 1, further, low := 0x80, high := 0xBF, code := 64 * o.code + m }) := by
    simp only [Open.extend?, toNat_further hm, hfurther, Nat.add_sub_cancel_left]
    rw [if_pos ⟨hlow, hhigh⟩]
  simp only [decodeFrom, hextend]

theorem openWith?_one (position : Nat) {c : Char} (h : c.toNat < 0x80) :
    openWith? position (UInt8.ofNat c.toNat) = some (.inl c) := by
  simp only [openWith?, toNat_ofNat_ascii h, Char.ofNat_toNat]
  rw [if_pos h]

theorem openWith?_two (position : Nat) {k : Nat} (h : 2 ≤ k) (hk : k < 0x20) :
    openWith? position (UInt8.ofNat (0xC0 + k)) =
      some (.inr ⟨UInt8.ofNat (0xC0 + k), position, 1, 0, 0x80, 0xBF, k⟩) := by
  have hbyte : (UInt8.ofNat (0xC0 + k)).toNat = 0xC0 + k := by
    rw [UInt8.toNat_ofNat']
    omega
  simp only [openWith?, hbyte, Nat.add_sub_cancel_left]
  rw [if_neg (by omega), if_neg (by omega), if_pos (by omega)]

theorem openWith?_three (position : Nat) {k : Nat} (hk : k < 0x10) :
    openWith? position (UInt8.ofNat (0xE0 + k)) =
      some (.inr ⟨UInt8.ofNat (0xE0 + k), position, 1, 1, if k = 0 then 0xA0 else 0x80,
        if k = 0xD then 0x9F else 0xBF, k⟩) := by
  have hbyte : (UInt8.ofNat (0xE0 + k)).toNat = 0xE0 + k := by
    rw [UInt8.toNat_ofNat']
    omega
  have hlow : 0xE0 + k = 0xE0 ↔ k = 0 := by omega
  have hhigh : 0xE0 + k = 0xED ↔ k = 0xD := by omega
  simp only [openWith?, hbyte, Nat.add_sub_cancel_left, hlow, hhigh]
  rw [if_neg (by omega), if_neg (by omega), if_neg (by omega), if_pos (by omega)]

theorem openWith?_four (position : Nat) {k : Nat} (hk : k < 5) :
    openWith? position (UInt8.ofNat (0xF0 + k)) =
      some (.inr ⟨UInt8.ofNat (0xF0 + k), position, 1, 2, if k = 0 then 0x90 else 0x80,
        if k = 4 then 0x8F else 0xBF, k⟩) := by
  have hbyte : (UInt8.ofNat (0xF0 + k)).toNat = 0xF0 + k := by
    rw [UInt8.toNat_ofNat']
    omega
  have hlow : 0xF0 + k = 0xF0 ↔ k = 0 := by omega
  have hhigh : 0xF0 + k = 0xF4 ↔ k = 4 := by omega
  simp only [openWith?, hbyte, Nat.add_sub_cancel_left, hlow, hhigh]
  rw [if_neg (by omega), if_neg (by omega), if_neg (by omega), if_neg (by omega),
    if_pos (by omega)]

/-- The bytes of a character are read as that character, whatever comes after them. -/
theorem decodeFrom_encodeChar (c : Char) (position : Nat) (read : List Char) (rest : List UInt8) :
    ∃ after, decodeFrom position none read (encodeChar c ++ rest) =
      decodeFrom after none (c :: read) rest := by
  have hvalid : c.toNat < 0xD800 ∨ 0xDFFF < c.toNat ∧ c.toNat < 0x110000 := c.valid
  have hpower : (64 : Nat) ^ (0 : Nat) = 1 ∧ (64 : Nat) ^ (1 : Nat) = 64 ∧
    (64 : Nat) ^ (2 : Nat) = 4096 := by decide
  simp only [encodeChar, hpower, Nat.div_one]
  split_ifs with hone htwo hthree
  · exact ⟨position + 1, by
      simp only [List.singleton_append, decodeFrom, openWith?_one position hone]⟩
  · have hopen := openWith?_two position (k := c.toNat / 64) (by omega) (by omega)
    have hcode : 64 * (c.toNat / 64) + c.toNat % 64 = c.toNat := by omega
    refine ⟨position + 1 + 1, ?_⟩
    simp only [List.cons_append, List.nil_append]
    rw [decodeFrom, hopen]
    simp only
    rw [decodeFrom_last rfl (by simp) (by simp only; omega) (by omega), hcode, Char.ofNat_toNat]
  · have hopen := openWith?_three position (k := c.toNat / 4096) (by omega)
    have hcode : 64 * (64 * (c.toNat / 4096) + c.toNat / 64 % 64) + c.toNat % 64 = c.toNat := by
      omega
    refine ⟨position + 1 + 1 + 1, ?_⟩
    simp only [List.cons_append, List.nil_append]
    rw [decodeFrom, hopen]
    simp only
    rw [decodeFrom_further rfl (by simp only; split_ifs <;> omega)
      (by simp only; split_ifs <;> omega) (by omega),
      decodeFrom_last rfl (by simp) (by simp only; omega) (by omega), hcode, Char.ofNat_toNat]
  · have hopen := openWith?_four position (k := c.toNat / 262144) (by omega)
    have hcode : 64 * (64 * (64 * (c.toNat / 262144) + c.toNat / 4096 % 64) + c.toNat / 64 % 64) +
        c.toNat % 64 = c.toNat := by
      omega
    refine ⟨position + 1 + 1 + 1 + 1, ?_⟩
    simp only [List.cons_append, List.nil_append]
    rw [decodeFrom, hopen]
    simp only
    rw [decodeFrom_further rfl (by simp only; split_ifs <;> omega)
      (by simp only; split_ifs <;> omega) (by omega),
      decodeFrom_further rfl (by simp) (by simp only; omega) (by omega),
      decodeFrom_last rfl (by simp) (by simp only; omega) (by omega), hcode, Char.ofNat_toNat]

theorem decodeFrom_encode (s : List Char) (position : Nat) (read : List Char) :
    decodeFrom position none read (encode s) = .ok (read.reverse ++ s) := by
  induction s generalizing position read with
  | nil =>
    rw [encode, List.flatMap_nil, decodeFrom, List.append_nil]
  | cons c rest ih =>
    obtain ⟨after, hread⟩ := decodeFrom_encodeChar c position read (encode rest)
    have hencode : encode (c :: rest) = encodeChar c ++ encode rest := List.flatMap_cons
    rw [hencode, hread, ih, List.reverse_cons, List.append_assoc, List.singleton_append]

/-- Every text is read back from its bytes. -/
theorem decode_encode (s : List Char) : decode (encode s) = .ok s := decodeFrom_encode s 0 []

end TableTalk.Text.Utf8
